import RedApid.Store.Holds

namespace RedApid

open Memory

section Tasks

-- The references that the tasks still drop.
def drops (tasks : List Task) : List Hold :=
  tasks.filterMap fun
    | .drop hold => some hold
    | _ => none

-- The objects whose destruction has begun.
def frees (tasks : List Task) : List ObjectRef :=
  tasks.filterMap fun
    | .free object => some object
    | _ => none

-- The objects that the tasks destroy.
def dying (tasks : List Task) : List ObjectRef :=
  tasks.filterMap fun
    | .removeObject object => some object
    | .destroy object => some object
    | .free object => some object
    | _ => none

theorem drops_append (first second : List Task) :
    drops (first ++ second) = drops first ++ drops second :=
  List.filterMap_append

theorem frees_append (first second : List Task) :
    frees (first ++ second) = frees first ++ frees second :=
  List.filterMap_append

theorem dying_append (first second : List Task) :
    dying (first ++ second) = dying first ++ dying second :=
  List.filterMap_append

theorem drops_map_drop (holds : List Hold) : drops (holds.map .drop) = holds := by
  induction holds with
  | nil => rfl
  | cons hold holds ih => exact congrArg (hold :: ·) ih

theorem frees_map_drop (holds : List Hold) : frees (holds.map .drop) = [] := by
  induction holds with
  | nil => rfl
  | cons hold holds ih => exact ih

theorem dying_map_drop (holds : List Hold) : dying (holds.map .drop) = [] := by
  induction holds with
  | nil => rfl
  | cons hold holds ih => exact ih

theorem frees_subset_dying (tasks : List Task) : frees tasks ⊆ dying tasks := by
  intro p hp
  obtain ⟨task, htask, hsome⟩ := List.mem_filterMap.mp hp
  refine List.mem_filterMap.mpr ⟨task, htask, ?_⟩
  cases task with
  | free object => exact hsome
  | drop hold => cases hsome
  | removeObject object => cases hsome
  | destroy object => cases hsome
  | shift type i object => cases hsome

end Tasks

-- The accounts while a cascade of destructions is running. The objects in `spared` are out
-- of its reach, the view of them does not matter.
structure Store.Cascading (view : View) (spared : ObjectRef → Prop) (pool : List Hold)
    (tasks : List Task) (store : Store) : Prop where
  accounted : store.Accounted (Heap.hide (frees tasks) view) (drops tasks ++ pool)
  dying_nodup : (dying tasks).Nodup
  dying_unreferenced : ∀ p ∈ dying tasks,
    ∃ o, store.objects.get p = some o ∧ o.internalReferenceCount = 0
  spared_drops : ∀ hold ∈ drops tasks, ¬ spared hold.object
  spared_dying : ∀ p ∈ dying tasks, ¬ spared p
  spared_holds : ∀ p o, store.objects.get p = some o → ¬ spared p →
    ∀ hold ∈ o.payload.holds, ¬ spared hold.object

section Steps

variable {array : ArrayRemove} {view : View} {spared : ObjectRef → Prop} {pool : List Hold}
  {tasks : List Task} {store : Store}

theorem Hold.unlock_get {hold : Hold} {o : Object} (h : store.objects.get hold.object = some o) :
    ∃ o', (hold.unlock store).objects.get hold.object = some o' ∧
      o'.internalReferenceCount = o.internalReferenceCount ∧
      o'.externalReferenceCount = o.externalReferenceCount := by
  unfold Hold.unlock objectUnlock
  split
  · rw [Store.modifyObject_objects, Heap.get_modify_self, h]
    refine ⟨_, rfl, ?_, ?_⟩ <;> simp only <;> split <;> rfl
  · exact ⟨o, h, rfl, rfl⟩

-- A reference that has been counted is dropped, and the last one takes the object with it.
theorem Task.run_drop {hold : Hold} {o : Object} (h : store.objects.get hold.object = some o)
    (hpos : 0 < o.internalReferenceCount) :
    Task.run array (.drop hold) store =
      (if o.internalReferenceCount - 1 = 0 ∧ o.externalReferenceCount = 0 then
        [.removeObject hold.object] else [], hold.drop store) := by
  obtain ⟨o', ho', hinternal, hexternal⟩ := Hold.unlock_get h
  have hne : ¬ o.internalReferenceCount = 0 := by omega
  simp only [Task.run, objectDropTasks, ho', hinternal, if_neg hne, hexternal, Hold.drop]
  split <;> rfl

theorem Store.Cascading.drop {hold : Hold}
    (h : store.Cascading view spared pool (.drop hold :: tasks)) :
    (Task.run array (.drop hold) store).2.Cascading view spared pool
      ((Task.run array (.drop hold) store).1 ++ tasks) := by
  obtain ⟨o, ho, hpos, -⟩ := h.accounted.count_pos
  have hdropped : (hold.drop store).Accounted (Heap.hide (frees tasks) view)
      (drops tasks ++ pool) := h.accounted.drop
  have hget : ∀ p o', (hold.drop store).objects.get p = some o' →
      ∃ o, store.objects.get p = some o ∧ o' = if p = hold.object then hold.forgo o else o := by
    intro p o' ho'
    rw [hold.drop_eq] at ho'
    exact Store.modifyObject_get ho'
  -- an object that is being destroyed has no reference left to be dropped
  have halive : hold.object ∉ dying tasks := by
    intro hmem
    obtain ⟨o', ho', hzero⟩ := h.dying_unreferenced _ hmem
    rw [ho] at ho'
    cases ho'
    omega
  have hdying : ∀ p ∈ dying tasks, ∃ o, (hold.drop store).objects.get p = some o ∧
      o.internalReferenceCount = 0 := by
    intro p hp
    obtain ⟨o', ho', hzero⟩ := h.dying_unreferenced p hp
    refine ⟨o', ?_, hzero⟩
    have hne : p ≠ hold.object := fun heq => halive (heq ▸ hp)
    rw [hold.drop_eq, Store.modifyObject_objects, Heap.get_modify_ne hne, ho']
  have hholds : ∀ p o, (hold.drop store).objects.get p = some o → ¬ spared p →
      ∀ hold ∈ o.payload.holds, ¬ spared hold.object := by
    intro p o' ho' hp
    obtain ⟨o'', ho'', rfl⟩ := hget p o' ho'
    have hpayload : (if p = hold.object then hold.forgo o'' else o'').payload = o''.payload := by
      split <;> rfl
    rw [hpayload]
    exact h.spared_holds p o'' ho'' hp
  have hdrops : ∀ hold ∈ drops tasks, ¬ spared hold.object := fun hold hmem =>
    h.spared_drops hold (List.mem_cons_of_mem _ hmem)
  rw [Task.run_drop ho hpos]
  simp only
  split
  · rename_i hlast
    refine ⟨hdropped, ?_, ?_, hdrops, ?_, hholds⟩
    · exact List.nodup_cons.mpr ⟨halive, h.dying_nodup⟩
    · intro p hp
      rcases List.mem_cons.mp hp with rfl | hp
      · refine ⟨hold.forgo o, ?_, hlast.1⟩
        rw [hold.drop_eq, Store.modifyObject_objects, Heap.get_modify_self, ho]
        rfl
      · exact hdying p hp
    · intro p hp
      rcases List.mem_cons.mp hp with rfl | hp
      · exact h.spared_drops hold List.mem_cons_self
      · exact h.spared_dying p hp
  · exact ⟨hdropped, h.dying_nodup, hdying, hdrops, h.spared_dying, hholds⟩

-- Tasks that change no object.
theorem Store.Cascading.congr {other : Store} {rest : List Task}
    (h : store.Cascading view spared pool tasks) (hobjects : other.objects = store.objects)
    (hdrops : drops rest = drops tasks) (hfrees : frees rest = frees tasks)
    (hdying : (dying rest).Sublist (dying tasks)) :
    other.Cascading view spared pool rest := by
  refine ⟨?_, hdying.nodup h.dying_nodup, ?_, ?_, ?_, ?_⟩
  · rw [hdrops, hfrees]
    refine h.accounted.congr (fun p => by rw [hobjects]) fun hold => ?_
    unfold Store.claims Store.incoming
    rw [hobjects]
  · rw [hobjects]
    exact fun p hp => h.dying_unreferenced p (hdying.subset hp)
  · rw [hdrops]
    exact h.spared_drops
  · exact fun p hp => h.spared_dying p (hdying.subset hp)
  · rw [hobjects]
    exact h.spared_holds

theorem Store.Cascading.removeObject {object : ObjectRef}
    (h : store.Cascading view spared pool (.removeObject object :: tasks)) :
    (Task.run array (.removeObject object) store).2.Cascading view spared pool
      ((Task.run array (.removeObject object) store).1 ++ tasks) := by
  have hless : (dying tasks).Sublist (dying (.removeObject object :: tasks)) :=
    List.sublist_cons_self object (dying tasks)
  cases hget : store.objects.get object with
  | none =>
      simp only [Task.run, hget]
      exact h.congr rfl rfl rfl hless
  | some o =>
      cases hindex : (store.objectArray o.type).idxOf? object with
      | none =>
          simp only [Task.run, hget, hindex]
          exact h.congr rfl rfl rfl hless
      | some i =>
          simp only [Task.run, hget, hindex]
          exact h.congr rfl rfl rfl (List.Sublist.refl (object :: dying tasks))

theorem Store.Cascading.destroy {object : ObjectRef}
    (hview : ∀ p payload, ¬ spared p → view p payload = payload.holds)
    (h : store.Cascading view spared pool (.destroy object :: tasks)) :
    (Task.run array (.destroy object) store).2.Cascading view spared pool
      ((Task.run array (.destroy object) store).1 ++ tasks) := by
  obtain ⟨o, ho, hzero⟩ := h.dying_unreferenced object List.mem_cons_self
  obtain ⟨hfresh, hnodup⟩ := List.nodup_cons.mp (show (object :: dying tasks).Nodup from
    h.dying_nodup)
  have hspared : ¬ spared object := h.spared_dying object List.mem_cons_self
  have hsame := Store.SameInternals.foldl_objectDropReference object o.externalReferences store
  have hdrops : drops (o.payload.holds.map .drop ++ [.free object] ++ tasks) =
      o.payload.holds ++ drops tasks := by
    rw [drops_append, drops_append, drops_map_drop]
    simp [drops]
  have hfrees : frees (o.payload.holds.map .drop ++ [.free object] ++ tasks) =
      object :: frees tasks := by
    rw [frees_append, frees_append, frees_map_drop]
    simp [frees]
  have hdying : dying (o.payload.holds.map .drop ++ [.free object] ++ tasks) =
      object :: dying tasks := by
    rw [dying_append, dying_append, dying_map_drop]
    simp [dying]
  have hholds := h.spared_holds object o ho hspared
  simp only [Task.run, ho]
  refine ⟨?_, ?_, ?_, ?_, ?_, ?_⟩
  · rw [hdrops, hfrees]
    have hhidden := h.accounted.hide ho fun hmem => hfresh (frees_subset_dying tasks hmem)
    rw [hview object o.payload hspared, ← List.append_assoc] at hhidden
    exact hhidden.sameInternals hsame
  · rw [hdying]
    exact h.dying_nodup
  · rw [hdying]
    intro p hp
    obtain ⟨o', ho', hzero'⟩ := h.dying_unreferenced p hp
    obtain ⟨o'', ho'', hinternals⟩ := hsame.get_eq ho'
    exact ⟨o'', ho'', (congrArg Object.internalReferenceCount hinternals).trans hzero'⟩
  · rw [hdrops]
    intro hold hmem
    rcases List.mem_append.mp hmem with hmem | hmem
    · exact hholds hold hmem
    · exact h.spared_drops hold hmem
  · rw [hdying]
    exact h.spared_dying
  · intro p o' ho' hp
    have hget := hsame.objects p
    rw [ho'] at hget
    obtain ⟨o'', ho'', hinternals⟩ := Option.map_eq_some_iff.mp hget.symm
    have hpayload := congrArg Object.payload hinternals
    change o''.payload = o'.payload at hpayload
    rw [← hpayload]
    exact h.spared_holds p o'' ho'' hp

theorem Store.Cascading.free {object : ObjectRef}
    (h : store.Cascading view spared pool (.free object :: tasks)) :
    (store.freeObject object).Cascading view spared pool tasks := by
  obtain ⟨o, ho, hzero⟩ := h.dying_unreferenced object List.mem_cons_self
  obtain ⟨hfresh, hnodup⟩ := List.nodup_cons.mp (show (object :: dying tasks).Nodup from
    h.dying_nodup)
  refine ⟨h.accounted.freeObject ho hzero, hnodup, fun p hp => ?_, h.spared_drops,
    fun p hp => h.spared_dying p (List.mem_cons_of_mem _ hp), fun p o' ho' hp => ?_⟩
  · have hne : p ≠ object := fun heq => hfresh (heq ▸ hp)
    obtain ⟨o', ho', hzero'⟩ := h.dying_unreferenced p (List.mem_cons_of_mem _ hp)
    refine ⟨o', ?_, hzero'⟩
    rw [Store.freeObject, Heap.get_free_ne hne, ho']
  · rw [Store.freeObject, Heap.get_free] at ho'
    split_ifs at ho'
    exact h.spared_holds p o' ho' hp

theorem Store.Cascading.run (hview : ∀ p payload, ¬ spared p → view p payload = payload.holds)
    (task : Task) (h : store.Cascading view spared pool (task :: tasks)) :
    (task.run array store).2.Cascading view spared pool ((task.run array store).1 ++ tasks) := by
  cases task with
  | drop hold => exact h.drop
  | removeObject object => exact h.removeObject
  | destroy object => exact h.destroy hview
  | free object => exact h.free
  | shift type i object => exact h.congr rfl rfl rfl (List.Sublist.refl (dying tasks))

end Steps

section Kept

def Object.core (o : Object) : ObjectType × Payload := (o.type, o.payload)

-- Objects may have been destroyed, all others still are what they were.
structure Store.Kept (store other : Store) : Prop where
  objects : ∀ p o', other.objects.get p = some o' →
    ∃ o, store.objects.get p = some o ∧ o'.core = o.core
  stockStrings : other.stockStrings = store.stockStrings

namespace Store.Kept

variable {store other last : Store}

theorem congr (hobjects : other.objects = store.objects)
    (hstock : other.stockStrings = store.stockStrings) : store.Kept other :=
  ⟨fun _ o' ho' => ⟨o', hobjects ▸ ho', rfl⟩, hstock⟩

theorem refl (store : Store) : store.Kept store := congr rfl rfl

theorem trans (h : store.Kept other) (h' : other.Kept last) : store.Kept last := by
  refine ⟨fun p o'' ho'' => ?_, h'.stockStrings.trans h.stockStrings⟩
  obtain ⟨o', ho', hcore'⟩ := h'.objects p o'' ho''
  obtain ⟨o, ho, hcore⟩ := h.objects p o' ho'
  exact ⟨o, ho, hcore'.trans hcore⟩

theorem get (h : store.Kept other) {p : ObjectRef} {o' : Object}
    (ho' : other.objects.get p = some o') :
    ∃ o, store.objects.get p = some o ∧ o'.type = o.type ∧ o'.payload = o.payload := by
  obtain ⟨o, ho, hcore⟩ := h.objects p o' ho'
  exact ⟨o, ho, congrArg Prod.fst hcore, congrArg Prod.snd hcore⟩

theorem of_sameInternals (h : store.SameInternals other) : store.Kept other := by
  refine ⟨fun p o' ho' => ?_, h.stockStrings⟩
  have hget := h.objects p
  rw [ho'] at hget
  obtain ⟨o, ho, hinternals⟩ := Option.map_eq_some_iff.mp hget.symm
  have hcore := congrArg Object.core hinternals
  exact ⟨o, ho, hcore.symm⟩

theorem modifyObject (store : Store) (object : ObjectRef) {f : Object → Object}
    (hf : ∀ o, (f o).core = o.core) : store.Kept (store.modifyObject object f) := by
  refine ⟨fun p o' ho' => ?_, by simp⟩
  obtain ⟨o, ho, rfl⟩ := Store.modifyObject_get ho'
  refine ⟨o, ho, ?_⟩
  split
  · exact hf o
  · rfl

theorem unlock (hold : Hold) (store : Store) : store.Kept (hold.unlock store) := by
  unfold Hold.unlock
  split
  · refine modifyObject store hold.object fun o => ?_
    split <;> rfl
  · exact refl store

theorem freeObject (store : Store) (object : ObjectRef) : store.Kept (store.freeObject object) := by
  refine ⟨fun p o' ho' => ⟨o', ?_, rfl⟩, rfl⟩
  rw [Store.freeObject, Heap.get_free] at ho'
  split_ifs at ho'
  exact ho'

theorem run (array : ArrayRemove) (task : Task) (store : Store) :
    store.Kept (task.run array store).2 := by
  cases task with
  | drop hold =>
      refine (unlock hold store).trans ?_
      simp only [Task.run, objectDropTasks]
      split
      · exact congr rfl rfl
      · split_ifs
        · exact refl _
        · exact modifyObject _ hold.object fun _ => rfl
        · exact modifyObject _ hold.object fun _ => rfl
  | removeObject object =>
      simp only [Task.run]
      split
      · exact congr rfl rfl
      · split <;> exact refl _
  | destroy object =>
      simp only [Task.run]
      split
      · exact congr rfl rfl
      · exact of_sameInternals (.foldl_objectDropReference object _ store)
  | free object => exact freeObject store object
  | shift type i object => exact congr rfl rfl

theorem of_runs {array : ArrayRemove} {tasks : List Task} (h : Runs array tasks store last) :
    store.Kept last := by
  refine h.invariant (P := fun _ s => store.Kept s) ?_ (refl store)
  exact fun task _ s hs => hs.trans (run array task s)

end Store.Kept

-- The objects in `spared` have the same internals as before.
def Store.Spares (spared : ObjectRef → Prop) (store other : Store) : Prop :=
  ∀ p, spared p →
    (other.objects.get p).map Object.internals = (store.objects.get p).map Object.internals

theorem Store.Spares.run {array : ArrayRemove} {view : View} {spared : ObjectRef → Prop}
    {pool : List Hold} {tasks : List Task} {store : Store} (task : Task)
    (h : store.Cascading view spared pool (task :: tasks)) :
    store.Spares spared (task.run array store).2 := by
  intro p hp
  cases task with
  | drop hold =>
      obtain ⟨o, ho, hpos, -⟩ := h.accounted.count_pos
      have hne : p ≠ hold.object := fun heq => h.spared_drops hold List.mem_cons_self (heq ▸ hp)
      rw [Task.run_drop ho hpos, hold.drop_eq, Store.modifyObject_objects, Heap.get_modify_ne hne]
  | removeObject object =>
      simp only [Task.run]
      split
      · rfl
      · split <;> rfl
  | destroy object =>
      simp only [Task.run]
      split
      · rfl
      · exact (Store.SameInternals.foldl_objectDropReference object _ store).objects p
  | free object =>
      have hne : p ≠ object := fun heq => h.spared_dying object List.mem_cons_self (heq ▸ hp)
      change ((store.freeObject object).objects.get p).map _ = _
      rw [Store.freeObject, Heap.get_free_ne hne]
  | shift type i object => rfl

end Kept

section Operations

variable (array : ArrayRemove)

-- string_unlock_and_release and list_unlock_and_release for a locked reference,
-- object_remove_internal_reference for any other.
def Hold.release (hold : Hold) (store : Store) : Store :=
  (hold.unlock store).release array hold.object

variable {array} {view : View} {spared : ObjectRef → Prop} {pool : List Hold} {store last : Store}

theorem Hold.release_runs (hold : Hold) (store : Store) :
    Runs array [.drop hold] store (hold.release array store) := by
  have hruns := @Store.release_runs array hold.object (hold.unlock store)
  cases hruns with
  | step h => exact .step h

theorem Store.Cascading.of_runs {tasks : List Task}
    (hview : ∀ p payload, ¬ spared p → view p payload = payload.holds)
    (h : store.Cascading view spared pool tasks) (hruns : Runs array tasks store last) :
    last.Accounted view pool ∧ store.Spares spared last := by
  have hlast := hruns.invariant
    (P := fun tasks s => s.Cascading view spared pool tasks ∧ store.Spares spared s)
    (fun task tasks s hs => ⟨hs.1.run hview task, fun p hp =>
      (Store.Spares.run task hs.1 p hp).trans (hs.2 p hp)⟩)
    ⟨h, fun _ _ => rfl⟩
  have haccounted := hlast.1.accounted
  rw [show frees [] = [] from rfl, Heap.hide_nil] at haccounted
  exact ⟨haccounted, hlast.2⟩

-- No object holds one that is spared, except perhaps one that is spared itself.
def Store.Apart (spared : ObjectRef → Prop) (store : Store) : Prop :=
  ∀ p o, store.objects.get p = some o → ¬ spared p →
    ∀ hold ∈ o.payload.holds, ¬ spared hold.object

theorem Store.Cascading.of_drop {hold : Hold} (h : store.Accounted view (hold :: pool))
    (hapart : store.Apart spared) (hhold : ¬ spared hold.object) :
    store.Cascading view spared pool [.drop hold] := by
  refine ⟨?_, List.nodup_nil, fun p hp => absurd hp List.not_mem_nil, ?_,
    fun p hp => absurd hp List.not_mem_nil, hapart⟩
  · rw [show frees [.drop hold] = [] from rfl, Heap.hide_nil]
    exact h
  · intro hold' hmem
    rw [List.mem_singleton.mp hmem]
    exact hhold

theorem Store.Cascading.of_remove {object : ObjectRef} {o : Object}
    (h : store.Accounted ownHolds pool) (ho : store.objects.get object = some o)
    (hzero : o.internalReferenceCount = 0) :
    store.Cascading ownHolds (fun _ => False) pool [.removeObject object] := by
  refine ⟨?_, List.nodup_singleton _, ?_, fun hold hmem => absurd hmem List.not_mem_nil,
    fun _ _ => id, fun _ _ _ _ _ _ => id⟩
  · rw [show frees [.removeObject object] = [] from rfl, Heap.hide_nil]
    exact h
  · intro p hp
    rw [List.mem_singleton.mp hp]
    exact ⟨o, ho, hzero⟩

variable (array spared) in
theorem Store.Accounted.releaseApart {hold : Hold}
    (hview : ∀ p payload, ¬ spared p → view p payload = payload.holds)
    (h : store.Accounted view (hold :: pool)) (hapart : store.Apart spared)
    (hhold : ¬ spared hold.object) :
    (hold.release array store).Accounted view pool ∧
      store.Spares spared (hold.release array store) :=
  (Store.Cascading.of_drop h hapart hhold).of_runs hview (hold.release_runs store)

theorem Store.apart_false (store : Store) : store.Apart fun _ => False :=
  fun _ _ _ _ _ _ => id

theorem Store.Accounted.release {hold : Hold} (h : store.Accounted ownHolds (hold :: pool)) :
    (hold.release array store).Accounted ownHolds pool :=
  (h.releaseApart array (fun _ => False) (fun _ _ _ => rfl) store.apart_false id).1

theorem Store.Accounted.remove {object : ObjectRef} {o : Object}
    (h : store.Accounted ownHolds pool) (ho : store.objects.get object = some o)
    (hzero : o.internalReferenceCount = 0) :
    (store.remove array object).Accounted ownHolds pool :=
  ((Store.Cascading.of_remove h ho hzero).of_runs (fun _ _ _ => rfl) (store.remove_runs object)).1

-- What the objects hold once the payload of one of them is changed.
def changed (object : ObjectRef) (g : Payload → Payload) : View :=
  fun p payload => if p = object then (g payload).holds else payload.holds

theorem Store.accounted_changed_iff {object : ObjectRef} {f : Object → Object} {g : Payload → Payload}
    (hcounts : ∀ o, (f o).counts = o.counts) (hpayload : ∀ o, (f o).payload = g o.payload) :
    (store.modifyObject object f).Accounted ownHolds pool ↔
      store.Accounted (changed object g) pool := by
  have hget : ∀ p, ((store.modifyObject object f).objects.get p).map Object.counts =
      (store.objects.get p).map Object.counts := by
    intro p
    rw [Store.modifyObject_objects, Heap.get_modify]
    split_ifs
    · cases store.objects.get p with
      | none => rfl
      | some o => exact congrArg some (hcounts o)
    · rfl
  have hclaims : ∀ hold, (store.modifyObject object f).claims ownHolds pool hold =
      store.claims (changed object g) pool hold := by
    intro hold
    unfold Store.claims Store.incoming changed ownHolds
    rw [Store.modifyObject_objects, Heap.incoming_modify_eq]
    simp only [hpayload]
  exact ⟨fun h => h.congr (fun p => (hget p).symm) fun hold => (hclaims hold).symm,
    fun h => h.congr hget hclaims⟩

-- Take a hold from an object without a change to the object.
theorem Store.Accounted.changed {hold : Hold} {object : ObjectRef} {o : Object}
    {f : Object → Object} {g : Payload → Payload} (h : store.Accounted ownHolds pool)
    (ho : store.objects.get object = some o) (hcounts : ∀ o, (f o).counts = o.counts)
    (hpayload : ∀ o, (f o).payload = g o.payload)
    (hperm : ((g o.payload).holds ++ hold :: pool).Perm (o.payload.holds ++ pool)) :
    store.Accounted (changed object g) (hold :: pool) := by
  refine (Store.accounted_changed_iff hcounts hpayload).mp (h.modifyPayload ho hcounts ?_)
  unfold ownHolds
  rw [hpayload]
  exact hperm

theorem changed_of_spared {object : ObjectRef} (g : Payload → Payload) (hspared : spared object) :
    ∀ p payload, ¬ spared p → changed object g p payload = payload.holds := by
  intro p payload hp
  refine if_neg ?_
  rintro rfl
  exact hp hspared

-- Release what an object holds, and take it out of the object only then. Whatever may be
-- destroyed must not hold the object.
theorem Store.Accounted.releaseFrom {hold : Hold} {object : ObjectRef} {o : Object}
    {f : Object → Object} {g : Payload → Payload} (h : store.Accounted ownHolds pool)
    (ho : store.objects.get object = some o) (hcounts : ∀ o, (f o).counts = o.counts)
    (hpayload : ∀ o, (f o).payload = g o.payload)
    (hperm : ((g o.payload).holds ++ hold :: pool).Perm (o.payload.holds ++ pool))
    (hapart : store.Apart spared) (hspared : spared object) (hhold : ¬ spared hold.object) :
    ((hold.release array store).modifyObject object f).Accounted ownHolds pool ∧
      store.Spares spared (hold.release array store) := by
  have hchanged := h.changed ho hcounts hpayload hperm
  obtain ⟨hreleased, hspares⟩ :=
    hchanged.releaseApart array spared (changed_of_spared g hspared) hapart hhold
  exact ⟨(Store.accounted_changed_iff hcounts hpayload).mpr hreleased, hspares⟩

end Operations

-- What the sessions do to objects: no hold comes or goes but those of destroyed objects.
structure Store.KeepsHolds (store other : Store) : Prop where
  kept : store.Kept other
  accounted : ∀ pool, store.Accounted ownHolds pool → other.Accounted ownHolds pool

namespace Store.KeepsHolds

variable {array : ArrayRemove} {store other last : Store}

theorem of_sameInternals (h : store.SameInternals other) : store.KeepsHolds other :=
  ⟨.of_sameInternals h, fun _ haccounted => haccounted.sameInternals h⟩

theorem refl (store : Store) : store.KeepsHolds store := of_sameInternals (.refl store)

theorem trans (h : store.KeepsHolds other) (h' : other.KeepsHolds last) : store.KeepsHolds last :=
  ⟨h.kept.trans h'.kept, fun pool haccounted => h'.accounted pool (h.accounted pool haccounted)⟩

theorem congr (hobjects : other.objects = store.objects)
    (hstock : other.stockStrings = store.stockStrings) : store.KeepsHolds other := by
  refine ⟨.congr hobjects hstock, fun pool h => h.congr (fun p => by rw [hobjects]) fun hold => ?_⟩
  unfold Store.claims Store.incoming
  rw [hobjects]

theorem remove {object : ObjectRef} {o : Object} (ho : store.objects.get object = some o)
    (hzero : o.internalReferenceCount = 0) : store.KeepsHolds (store.remove array object) :=
  ⟨.of_runs (store.remove_runs object), fun _ h => h.remove ho hzero⟩

theorem removeUnreferenced (object : ObjectRef) (store : Store) :
    store.KeepsHolds (store.removeUnreferenced array object) := by
  unfold Store.removeUnreferenced
  split
  · exact congr rfl rfl
  · rename_i o ho
    split
    · rename_i hzero
      exact remove ho hzero.1
    · exact refl store

theorem objectRemoveExternalReference (object : ObjectRef) (session : SessionRef) (store : Store) :
    store.KeepsHolds (objectRemoveExternalReference array object session store) := by
  unfold RedApid.objectRemoveExternalReference
  split
  · exact congr rfl rfl
  · rename_i o ho
    split
    · exact refl store
    · split
      · exact refl store
      · rename_i reference _
        have hreleased := Store.SameInternals.releaseReference store reference object session
        simp only
        split
        · rename_i hzero
          obtain ⟨o', ho', hinternals⟩ := hreleased.get_eq ho
          have hcount := congrArg Object.internalReferenceCount hinternals
          exact (of_sameInternals hreleased).trans (remove ho' (hcount.trans hzero.1))
        · exact of_sameInternals hreleased

theorem objectRelease (object : ObjectRef) (session : SessionRef) (store : Store) :
    store.KeepsHolds (objectRelease array object session store).2 := by
  unfold RedApid.objectRelease
  split
  · exact congr rfl rfl
  · split
    · exact refl store
    · exact objectRemoveExternalReference object session store

theorem sessionDropReference (session : SessionRef) (reference : ReferenceRef) (store : Store) :
    store.KeepsHolds (sessionDropReference array session reference store) := by
  unfold RedApid.sessionDropReference
  split
  · exact congr rfl rfl
  · exact (of_sameInternals (.dropReference store _ _ session _)).trans (removeUnreferenced _ _)

theorem removeExternalReferences (rounds : Nat) (session : SessionRef) (store : Store) :
    store.KeepsHolds (removeExternalReferences array rounds session store) := by
  induction rounds generalizing store with
  | zero =>
      unfold RedApid.removeExternalReferences
      split
      · exact congr rfl rfl
      · exact refl store
      · exact congr rfl rfl
  | succ rounds ih =>
      unfold RedApid.removeExternalReferences
      split
      · exact congr rfl rfl
      · exact refl store
      · exact (sessionDropReference session _ store).trans (ih _)

theorem sessionRemoveExternalReferences (session : SessionRef) (store : Store) :
    store.KeepsHolds (sessionRemoveExternalReferences array session store) := by
  unfold RedApid.sessionRemoveExternalReferences
  split
  · exact congr rfl rfl
  · exact removeExternalReferences _ session store

theorem sessionExpireHelper (session : SessionRef) (store : Store) :
    store.KeepsHolds (sessionExpireHelper array session store) := by
  have hremoved := @sessionRemoveExternalReferences array session store
  unfold RedApid.sessionExpireHelper inventoryRemoveSession
  simp only
  split
  · exact hremoved
  · exact (hremoved.trans (sessionRemoveExternalReferences session _)).trans (congr rfl rfl)

theorem sessionCreate (outcome : SessionCreation) (lifetime : UInt32) (store : Store) :
    store.KeepsHolds (sessionCreate outcome lifetime store).2 := by
  obtain ⟨hobjects, -, -, hstock, -⟩ := sessionCreate_frame outcome lifetime store
  exact congr hobjects hstock

end Store.KeepsHolds

end RedApid

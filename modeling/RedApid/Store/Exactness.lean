import RedApid.Store.Identifiers

namespace RedApid

open Memory

-- Every array lists the live objects of its type, each of them once, and nothing else.
structure Store.Exact (store : Store) : Prop where
  nodup : ∀ type, (store.objectArray type).Nodup
  mem_iff : ∀ type p, p ∈ store.objectArray type ↔
    ∃ o, store.objects.get p = some o ∧ o.type = type

def Store.objectType (store : Store) (object : ObjectRef) : Option ObjectType :=
  (store.objects.get object).map (·.type)

theorem Store.SameInternals.objectType {store other : Store} (h : store.SameInternals other) :
    other.objectType = store.objectType := by
  funext p
  have htype : ∀ o : Option Object, o.map (·.type) = (o.map Object.internals).map (·.type) := by
    rintro (_ | o) <;> rfl
  unfold Store.objectType
  rw [htype, h.objects p, ← htype]

theorem Store.modifyObject_objectType (store : Store) (object : ObjectRef) {f : Object → Object}
    (hf : ∀ o, (f o).type = o.type) : (store.modifyObject object f).objectType = store.objectType := by
  funext p
  unfold objectType
  rw [modifyObject_objects, Heap.get_modify]
  split_ifs
  · cases store.objects.get p with
    | none => rfl
    | some o => exact congrArg some (hf o)
  · rfl

theorem Store.exact_iff (store : Store) :
    store.Exact ↔ (∀ type, (store.objectArray type).Nodup) ∧
      ∀ type p, p ∈ store.objectArray type ↔ store.objectType p = some type := by
  simp only [objectType, Option.map_eq_some_iff]
  exact ⟨fun h => ⟨h.nodup, h.mem_iff⟩, fun h => ⟨h.1, h.2⟩⟩

-- Every array_remove comes after the object was freed. `freed` are the objects that the
-- tasks before these free.
def Ordered (store : Store) : List ObjectRef → List Task → Prop
  | _, [] => True
  | freed, .shift _ _ object :: tasks =>
      (store.objectType object = none ∨ object ∈ freed) ∧ Ordered store freed tasks
  | freed, .free object :: tasks => Ordered store (object :: freed) tasks
  | freed, .destroy object :: tasks => Ordered store (object :: freed) tasks
  | freed, .drop _ :: tasks => Ordered store freed tasks
  | freed, .removeObject _ :: tasks => Ordered store freed tasks

theorem Ordered.mono {store other : Store} {freed more : List ObjectRef} {tasks : List Task}
    (h : Ordered store freed tasks)
    (hfreed : ∀ object ∈ freed, object ∈ more ∨ other.objectType object = none)
    (hdead : ∀ object, store.objectType object = none → other.objectType object = none) :
    Ordered other more tasks := by
  induction tasks generalizing freed more with
  | nil => trivial
  | cons task tasks ih =>
      cases task with
      | shift type i object =>
          refine ⟨?_, ih h.2 hfreed⟩
          rcases h.1 with hnone | hmem
          · exact Or.inl (hdead object hnone)
          · exact (hfreed object hmem).symm
      | free object =>
          refine ih h fun p hp => ?_
          rcases List.mem_cons.mp hp with rfl | hp
          · exact Or.inl List.mem_cons_self
          · exact (hfreed p hp).imp_left (List.mem_cons_of_mem _)
      | destroy object =>
          refine ih h fun p hp => ?_
          rcases List.mem_cons.mp hp with rfl | hp
          · exact Or.inl List.mem_cons_self
          · exact (hfreed p hp).imp_left (List.mem_cons_of_mem _)
      | drop hold => exact ih h hfreed
      | removeObject object => exact ih h hfreed

theorem ordered_drops (store : Store) (freed : List ObjectRef) (holds : List Hold)
    (tasks : List Task) :
    Ordered store freed (holds.map .drop ++ tasks) ↔ Ordered store freed tasks := by
  induction holds with
  | nil => rfl
  | cons hold holds ih => exact ih

-- The arrays while a destruction is running.
structure Store.Removing (tasks : List Task) (store : Store) : Prop where
  nodup : ∀ type, (store.objectArray type).Nodup
  listed : ∀ type p, store.objectType p = some type → p ∈ store.objectArray type
  live : ∀ type, ∀ p ∈ store.objectArray type,
    store.objectType p = some type ∨ ∃ i, Task.shift type i p ∈ tasks
  shifted : ∀ type p, store.objectType p = some type →
    Task.free p ∈ tasks ∨ Task.destroy p ∈ tasks → ∃ i, Task.shift type i p ∈ tasks
  ordered : Ordered store [] tasks

theorem Store.Exact.removing {store : Store} (h : store.Exact) {tasks : List Task}
    (htasks : ∀ task ∈ tasks, ∃ hold, task = .drop hold ∨ task = .removeObject hold.object) :
    store.Removing tasks := by
  obtain ⟨hnodup, hmem⟩ := store.exact_iff.mp h
  refine ⟨hnodup, fun type p hp => (hmem type p).mpr hp,
    fun type p hp => Or.inl ((hmem type p).mp hp), ?_, ?_⟩
  · rintro type p - (hfree | hdestroy)
    · obtain ⟨_, h | h⟩ := htasks _ hfree <;> cases h
    · obtain ⟨_, h | h⟩ := htasks _ hdestroy <;> cases h
  · induction tasks with
    | nil => trivial
    | cons task tasks ih =>
        obtain ⟨hold, rfl | rfl⟩ := htasks task List.mem_cons_self
        · exact ih fun task htask => htasks task (List.mem_cons_of_mem _ htask)
        · exact ih fun task htask => htasks task (List.mem_cons_of_mem _ htask)

theorem Store.Removing.exact {store : Store} (h : store.Removing []) : store.Exact :=
  store.exact_iff.mpr ⟨h.nodup, fun type p => ⟨fun hp => (h.live type p hp).resolve_right
    fun ⟨_, hmem⟩ => List.not_mem_nil hmem, h.listed type p⟩⟩

-- Tasks that concern no array go away, nothing else changes.
theorem Store.Removing.congr {store other : Store} {tasks rest : List Task}
    (h : store.Removing tasks) (harray : other.objectArray = store.objectArray)
    (htype : other.objectType = store.objectType)
    (hshift : ∀ type i p, Task.shift type i p ∈ tasks → Task.shift type i p ∈ rest)
    (hfree : ∀ p, Task.free p ∈ rest → Task.free p ∈ tasks ∨ Task.destroy p ∈ tasks)
    (hdestroy : ∀ p, Task.destroy p ∈ rest → Task.destroy p ∈ tasks)
    (hordered : Ordered store [] rest) : other.Removing rest := by
  refine ⟨by rw [harray]; exact h.nodup, by rw [harray, htype]; exact h.listed, ?_, ?_, ?_⟩
  · rw [harray, htype]
    intro type p hp
    exact (h.live type p hp).imp_right fun ⟨i, hi⟩ => ⟨i, hshift type i p hi⟩
  · rw [htype]
    intro type p hp hpending
    have : Task.free p ∈ tasks ∨ Task.destroy p ∈ tasks :=
      hpending.elim (hfree p) fun hmem => Or.inr (hdestroy p hmem)
    obtain ⟨i, hi⟩ := h.shifted type p hp this
    exact ⟨i, hshift type i p hi⟩
  · exact hordered.mono (fun _ hp => Or.inl hp) fun p hp => by rw [htype]; exact hp

theorem objectUnlock_objectType (object : ObjectRef) (store : Store) :
    (objectUnlock object store).objectType = store.objectType :=
  store.modifyObject_objectType object fun o => by split <;> rfl

theorem Hold.unlock_objectType (hold : Hold) (store : Store) :
    (hold.unlock store).objectType = store.objectType := by
  unfold Hold.unlock
  split
  · exact objectUnlock_objectType _ _
  · rfl

theorem Hold.unlock_objectArray (hold : Hold) (store : Store) :
    (hold.unlock store).objectArray = store.objectArray := by
  unfold Hold.unlock objectUnlock
  split <;> simp

theorem objectDropTasks_frame (object : ObjectRef) (store : Store) :
    (objectDropTasks object store).2.objectArray = store.objectArray ∧
      (objectDropTasks object store).2.objectType = store.objectType ∧
      ((objectDropTasks object store).1 = [] ∨
        (objectDropTasks object store).1 = [.removeObject object]) := by
  have htype : (objectDropInternalReference object store).objectType = store.objectType :=
    store.modifyObject_objectType object fun _ => rfl
  unfold objectDropTasks
  split
  · exact ⟨rfl, rfl, Or.inl rfl⟩
  · split_ifs
    · exact ⟨rfl, rfl, Or.inl rfl⟩
    · exact ⟨by simp [objectDropInternalReference], htype, Or.inr rfl⟩
    · exact ⟨by simp [objectDropInternalReference], htype, Or.inl rfl⟩

theorem Store.freeObject_objectType (store : Store) (object p : ObjectRef) :
    (store.freeObject object).objectType p =
      if p = object then none else store.objectType p := by
  unfold objectType freeObject
  rw [Heap.get_free]
  split_ifs <;> rfl

theorem Store.Removing.drop {store : Store} {hold : Hold} {tasks : List Task}
    (h : store.Removing (.drop hold :: tasks)) (array : ArrayRemove) :
    (Task.run array (.drop hold) store).2.Removing
      ((Task.run array (.drop hold) store).1 ++ tasks) := by
  obtain ⟨harray, htype, htasks⟩ := objectDropTasks_frame hold.object (hold.unlock store)
  rw [hold.unlock_objectArray] at harray
  rw [hold.unlock_objectType] at htype
  rcases htasks with hnone | hremove
  · refine h.congr harray htype ?_ ?_ ?_ ?_ <;> simp only [Task.run, hnone, List.nil_append]
    · exact fun type i p hp => by simpa using hp
    · exact fun p hp => Or.inl (List.mem_cons_of_mem _ hp)
    · exact fun p hp => List.mem_cons_of_mem _ hp
    · exact h.ordered
  · refine h.congr harray htype ?_ ?_ ?_ ?_ <;>
      simp only [Task.run, hremove, List.cons_append, List.nil_append]
    · exact fun type i p hp => by simpa using hp
    · exact fun p hp => Or.inl (by simpa using hp)
    · exact fun p hp => by simpa using hp
    · exact h.ordered

theorem Store.Removing.removeObject {store : Store} {object : ObjectRef} {tasks : List Task}
    (h : store.Removing (.removeObject object :: tasks)) (array : ArrayRemove) :
    (Task.run array (.removeObject object) store).2.Removing
      ((Task.run array (.removeObject object) store).1 ++ tasks) := by
  have hskip : ∀ other : Store, other.objectArray = store.objectArray →
      other.objectType = store.objectType → other.Removing tasks := fun other harray htype =>
    h.congr harray htype (fun type i p hp => by simpa using hp)
      (fun p hp => Or.inl (List.mem_cons_of_mem _ hp)) (fun p hp => List.mem_cons_of_mem _ hp)
      h.ordered
  cases hget : store.objects.get object with
  | none =>
      simp only [Task.run, hget]
      exact hskip _ rfl rfl
  | some o =>
      cases hindex : (store.objectArray o.type).idxOf? object with
      | none =>
          simp only [Task.run, hget, hindex]
          exact hskip _ rfl rfl
      | some i =>
          simp only [Task.run, hget, hindex, List.cons_append, List.nil_append]
          have htype : store.objectType object = some o.type := by simp [Store.objectType, hget]
          refine ⟨h.nodup, h.listed, ?_, ?_, ?_⟩
          · intro type p hp
            refine (h.live type p hp).imp_right fun hpending => ?_
            obtain ⟨j, hj⟩ := hpending
            exact ⟨j, List.mem_cons_of_mem _ (List.mem_cons_of_mem _ (by simpa using hj))⟩
          · intro type p hp hpending
            by_cases hsame : p = object
            · subst hsame
              rw [htype] at hp
              cases hp
              exact ⟨i, by simp⟩
            · obtain ⟨j, hj⟩ := h.shifted type p hp (by simpa [hsame] using hpending)
              exact ⟨j, by simpa using Or.inr hj⟩
          · refine ⟨Or.inr List.mem_cons_self, ?_⟩
            exact Ordered.mono h.ordered (fun _ hp => absurd hp List.not_mem_nil) fun _ hp => hp

theorem Store.Removing.destroy {store : Store} {object : ObjectRef} {tasks : List Task}
    (h : store.Removing (.destroy object :: tasks)) (array : ArrayRemove) :
    (Task.run array (.destroy object) store).2.Removing
      ((Task.run array (.destroy object) store).1 ++ tasks) := by
  cases hget : store.objects.get object with
  | none =>
      simp only [Task.run, hget]
      refine h.congr rfl rfl (fun type i p hp => by simpa using hp)
        (fun p hp => Or.inl (List.mem_cons_of_mem _ hp)) (fun p hp => List.mem_cons_of_mem _ hp) ?_
      have hordered : Ordered store [object] tasks := h.ordered
      refine hordered.mono (fun p hp => ?_) fun _ hp => hp
      rw [List.mem_singleton.mp hp]
      exact Or.inr (by simp [Store.objectType, hget])
  | some o =>
      have hsame := Store.SameInternals.foldl_objectDropReference object o.externalReferences store
      simp only [Task.run, hget, List.append_assoc]
      refine h.congr hsame.objectArray hsame.objectType ?_ ?_ ?_ ?_
      · intro type i p hp
        simp only [List.mem_cons, reduceCtorEq, false_or] at hp
        simp [hp]
      · intro p hp
        simp only [List.mem_append, List.mem_map, reduceCtorEq, and_false, exists_false, false_or,
          List.mem_singleton, Task.free.injEq] at hp
        rcases hp with rfl | hp
        · exact Or.inr List.mem_cons_self
        · exact Or.inl (List.mem_cons_of_mem _ hp)
      · intro p hp
        simp only [List.mem_append, List.mem_map, reduceCtorEq, and_false, exists_false, false_or,
          List.mem_singleton] at hp
        exact List.mem_cons_of_mem _ hp
      · rw [ordered_drops]
        exact h.ordered

theorem Store.Removing.free {store : Store} {object : ObjectRef} {tasks : List Task}
    (h : store.Removing (.free object :: tasks)) :
    (store.freeObject object).Removing tasks := by
  have hkept : ∀ type p, (store.freeObject object).objectType p = some type →
      p ≠ object ∧ store.objectType p = some type := by
    intro type p hp
    rw [Store.freeObject_objectType] at hp
    split_ifs at hp with hsame
    exact ⟨hsame, hp⟩
  refine ⟨h.nodup, fun type p hp => h.listed type p (hkept type p hp).2, ?_, ?_, ?_⟩
  · intro type p hp
    rcases h.live type p hp with hlive | ⟨i, hi⟩
    · by_cases hsame : p = object
      · subst hsame
        obtain ⟨i, hi⟩ := h.shifted type p hlive (Or.inl List.mem_cons_self)
        exact Or.inr ⟨i, by simpa using hi⟩
      · rw [Store.freeObject_objectType, if_neg hsame]
        exact Or.inl hlive
    · exact Or.inr ⟨i, by simpa using hi⟩
  · intro type p hp hpending
    obtain ⟨i, hi⟩ := h.shifted type p (hkept type p hp).2
      (hpending.imp (List.mem_cons_of_mem _) (List.mem_cons_of_mem _))
    exact ⟨i, by simpa using hi⟩
  · have hordered : Ordered store [object] tasks := h.ordered
    refine hordered.mono (fun p hp => ?_) fun p hp => ?_
    · rw [List.mem_singleton.mp hp, Store.freeObject_objectType, if_pos rfl]
      exact Or.inr rfl
    · rw [Store.freeObject_objectType, hp, ite_self]

theorem Store.Removing.shift {store : Store} {type : ObjectType} {i : Nat} {object : ObjectRef}
    {tasks : List Task} (h : store.Removing (.shift type i object :: tasks)) :
    (store.setObjectArray type ((store.objectArray type).erase object)).Removing tasks := by
  have hdead : store.objectType object = none :=
    h.ordered.1.resolve_right List.not_mem_nil
  have hmem : ∀ other p, p ∈ (store.setObjectArray type
      ((store.objectArray type).erase object)).objectArray other ↔
        p ∈ store.objectArray other ∧ ¬ (other = type ∧ p = object) := by
    intro other p
    rw [Store.setObjectArray_objectArray]
    split_ifs with hsame
    · subst hsame
      rw [(h.nodup other).mem_erase_iff]
      tauto
    · tauto
  refine ⟨?_, ?_, ?_, ?_, ?_⟩
  · intro other
    rw [Store.setObjectArray_objectArray]
    split_ifs
    · exact (h.nodup type).erase object
    · exact h.nodup other
  · intro other p hp
    refine (hmem other p).mpr ⟨h.listed other p hp, ?_⟩
    rintro ⟨-, rfl⟩
    change store.objectType p = some other at hp
    rw [hdead] at hp
    cases hp
  · intro other p hp
    obtain ⟨hp, hother⟩ := (hmem other p).mp hp
    refine (h.live other p hp).imp_right fun ⟨j, hj⟩ => ⟨j, ?_⟩
    rcases List.mem_cons.mp hj with heq | hj
    · cases heq
      exact absurd ⟨rfl, rfl⟩ hother
    · exact hj
  · intro other p hp hpending
    obtain ⟨j, hj⟩ := h.shifted other p hp
      (hpending.imp (List.mem_cons_of_mem _) (List.mem_cons_of_mem _))
    refine ⟨j, ?_⟩
    rcases List.mem_cons.mp hj with heq | hj
    · injection heq with _ _ hobject
      have hlive : store.objectType p = some other := hp
      rw [hobject, hdead] at hlive
      cases hlive
    · exact hj
  · exact h.ordered.2.mono (fun _ hp => Or.inl hp) fun _ hp => hp

theorem Store.Exact.of_runs {store last : Store} {tasks : List Task} (h : store.Exact)
    (htasks : ∀ task ∈ tasks, ∃ hold, task = .drop hold ∨ task = .removeObject hold.object)
    (hruns : Runs .exact tasks store last) : last.Exact := by
  refine (hruns.invariant (P := fun tasks s => s.Removing tasks) ?_ (h.removing htasks)).exact
  intro task tasks s hs
  cases task with
  | drop hold => exact hs.drop .exact
  | removeObject object => exact hs.removeObject .exact
  | destroy object => exact hs.destroy .exact
  | free object => exact hs.free
  | shift type i object => exact hs.shift

theorem Store.Exact.release {store : Store} (h : store.Exact) (object : ObjectRef) :
    (store.release .exact object).Exact :=
  h.of_runs (by simp) (store.release_runs object)

theorem Store.Exact.remove {store : Store} (h : store.Exact) (object : ObjectRef) :
    (store.remove .exact object).Exact := by
  refine h.of_runs ?_ (store.remove_runs object)
  intro task htask
  exact ⟨⟨object, false⟩, Or.inr (List.mem_singleton.mp htask)⟩

end RedApid

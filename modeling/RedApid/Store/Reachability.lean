import RedApid.Store.Containment

namespace RedApid

open Memory

section Others

variable {store : Store}

theorem dropReference_get_ne (reference : ReferenceRef) {object q : ObjectRef} (session : SessionRef)
    (count : Int) (hq : q ≠ object) :
    (store.dropReference reference object session count).objects.get q = store.objects.get q := by
  simp only [Store.dropReference, Store.countExternal, Store.countSession, Store.countObject,
    Store.unlinkReference, Store.freeReference, Store.unlinkSession, Store.unlinkObject,
    Store.modifySession_objects, Store.modifyObject_objects, Heap.get_modify_ne hq]

theorem foldl_objectDropReference_get_ne {object q : ObjectRef} (references : List ReferenceRef)
    (store : Store) (hq : q ≠ object) :
    (references.foldl (objectDropReference object) store).objects.get q = store.objects.get q := by
  induction references generalizing store with
  | nil => rfl
  | cons reference references ih =>
      rw [List.foldl_cons, ih]
      unfold objectDropReference
      split
      · rfl
      · exact dropReference_get_ne reference _ _ hq

end Others

section Modifies

variable {store other last : Store} {object : ObjectRef} {f g : Object → Object}

-- No object but this one changes.
structure Store.Modifies (object : ObjectRef) (f : Object → Object) (store other : Store) : Prop where
  objects : other.objects = store.objects.modify object f
  destroyed : other.destroyed = store.destroyed

theorem Store.Modifies.trans (h : store.Modifies object f other) (h' : other.Modifies object g last) :
    store.Modifies object (fun o => g (f o)) last :=
  ⟨by rw [h'.objects, h.objects, Heap.modify_modify], h'.destroyed.trans h.destroyed⟩

theorem Store.Modifies.modifyObject (store : Store) (object : ObjectRef) (f : Object → Object) :
    store.Modifies object f (store.modifyObject object f) :=
  ⟨store.modifyObject_objects object f, store.modifyObject_destroyed object f⟩

theorem Store.Modifies.congr (object : ObjectRef) (hobjects : other.objects = store.objects)
    (hdestroyed : other.destroyed = store.destroyed) : store.Modifies object id other :=
  ⟨by rw [hobjects, Heap.modify_id], hdestroyed⟩

-- The change adds so many internal and external references.
def Refers (internal : Nat) (external : Int) (f : Object → Object) : Prop :=
  ∀ o, (f o).internalReferenceCount = o.internalReferenceCount + internal ∧
    (f o).externalReferenceCount = o.externalReferenceCount + external

theorem Refers.trans {i i' : Nat} {e e' : Int} (h : Refers i e f) (h' : Refers i' e' g) :
    Refers (i + i') (e + e') fun o => g (f o) := by
  intro o
  rw [(h' (f o)).1, (h' (f o)).2, (h o).1, (h o).2]
  omega

theorem Refers.id : Refers 0 0 id := fun _ => ⟨rfl, (Int.add_zero _).symm⟩

theorem objectAddExternalReference_modifies (calloc : Bool) (object : ObjectRef)
    (session : SessionRef) (store : Store) :
    let result := objectAddExternalReference calloc object session store
    ∃ f amount, store.Modifies object f result.2 ∧ Refers 0 amount f ∧ 0 ≤ amount ∧
      (result.1 = .success → amount = 1) := by
  simp only
  unfold objectAddExternalReference
  have hfailed : ∀ code : APIE, ∀ other : Store, code ≠ .success →
      other.objects = store.objects → other.destroyed = store.destroyed →
      ∃ f amount, store.Modifies object f other ∧ Refers 0 amount f ∧ 0 ≤ amount ∧
        (code = .success → amount = 1) := by
    intro code other hcode hobjects hdestroyed
    exact ⟨id, 0, .congr object hobjects hdestroyed, .id, Int.le_refl 0,
      fun hsuccess => absurd hsuccess hcode⟩
  split
  · exact hfailed .internalError store.faulted (by decide) rfl rfl
  · cases store.findReference object session with
    | some reference =>
        refine ⟨fun o => { o with externalReferenceCount := o.externalReferenceCount + 1 }, 1,
          ⟨?_, ?_⟩, fun _ => ⟨rfl, rfl⟩, by decide, fun _ => rfl⟩ <;>
          simp [Store.countExternal, Store.countSession, Store.countObject, Store.countReference]
    | none =>
        cases calloc with
        | false => exact hfailed .noFreeMemory store (by decide) rfl rfl
        | true =>
            refine ⟨fun o => { o with
              externalReferences := o.externalReferences ++ [store.references.next]
              externalReferenceCount := o.externalReferenceCount + 1 }, 1,
              ⟨?_, ?_⟩, fun _ => ⟨rfl, rfl⟩, by decide, fun _ => rfl⟩ <;>
              simp [Store.createReference, Store.countExternal, Store.countSession,
                Store.countObject, Store.linkSession, Store.linkObject, Store.callocReference,
                Heap.modify_modify]

theorem objectCreateExternal_modifies (outcome : ObjectCreation) (object : ObjectRef)
    (session : Option SessionRef) (flags : UInt32) (store : Store) :
    let result := objectCreateExternal outcome object session flags store
    ∃ f amount, store.Modifies object f result.2 ∧ Refers 0 amount f ∧
      (result.1 = .success → flags &&& OBJECT_CREATE_FLAG_EXTERNAL ≠ 0 → session ≠ none →
        amount = 1) := by
  simp only
  unfold objectCreateExternal
  cases session with
  | none => exact ⟨id, 0, .congr object rfl rfl, .id, fun _ _ hnone => absurd rfl hnone⟩
  | some session =>
      simp only
      split
      · obtain ⟨f, amount, hmodifies, hrefers, -, hone⟩ :=
          objectAddExternalReference_modifies outcome.calloc object session store
        exact ⟨f, amount, hmodifies, hrefers, fun hcode _ _ => hone hcode⟩
      · rename_i hflag
        exact ⟨id, 0, .congr object rfl rfl, .id, fun _ hflag' => absurd hflag' hflag⟩

theorem inventoryAddObject_modifies (append : Option APIError) (type : ObjectType)
    (object : ObjectRef) (store : Store) :
    ∃ f, store.Modifies object f (inventoryAddObject append type object store).2 ∧ Refers 0 0 f := by
  unfold inventoryAddObject inventoryGetNextObjectId
  cases nextFreeId store.objectIdInUse store.nextObjectId with
  | mk found next =>
      cases found with
      | none => exact ⟨id, .congr object rfl rfl, .id⟩
      | some id =>
          refine ⟨fun o => { o with id }, ?_, fun _ => ⟨rfl, (Int.add_zero _).symm⟩⟩
          have hstored : store.Modifies object (fun o => { o with id }) (Store.modifyObject
              { store with nextObjectId := next } object fun o => { o with id }) :=
            ⟨by simp, by simp⟩
          cases append with
          | some code => exact hstored
          | none => exact ⟨hstored.objects, hstored.destroyed⟩

theorem ValidFlags.internal_or_external {session : Option SessionRef} {flags : UInt32}
    (h : ValidFlags session flags) :
    flags &&& OBJECT_CREATE_FLAG_INTERNAL ≠ 0 ∨ flags &&& OBJECT_CREATE_FLAG_EXTERNAL ≠ 0 := by
  by_contra hnone
  push Not at hnone
  refine h.1 (UInt32.toBitVec_inj.mp ?_)
  have hinternal := congrArg UInt32.toBitVec hnone.1
  have hexternal := congrArg UInt32.toBitVec hnone.2
  rw [UInt32.toBitVec_and] at hinternal hexternal
  rw [UInt32.toBitVec_and, UInt32.toBitVec_or, BitVec.and_or_distrib_left, hinternal, hexternal]
  rfl

-- What object_create does to the counts of the new object.
theorem objectCreateReferences_modifies (outcome : ObjectCreation) (object : ObjectRef)
    (type : ObjectType) {session : Option SessionRef} {flags : UInt32} (store : Store)
    (hvalid : ValidFlags session flags)
    (hcode : (objectCreateReferences outcome object type session flags store).1 = .success) :
    ∃ f i e, store.Modifies object f
        (objectCreateReferences outcome object type session flags store).2 ∧
      Refers i e f ∧ (i ≠ 0 ∨ e ≠ 0) := by
  have hcondition : ∀ (condition : Prop) [Decidable condition] (store : Store) (f : Object → Object)
      (i : Nat), Refers i 0 f → ∃ g i', store.Modifies object g
        (if condition then store.modifyObject object f else store) ∧ Refers i' 0 g ∧
        (condition → i' = i) := by
    intro condition _ store f i hf
    by_cases hcondition : condition
    · rw [if_pos hcondition]
      exact ⟨f, i, .modifyObject store object f, hf, fun _ => rfl⟩
    · rw [if_neg hcondition]
      exact ⟨id, 0, .congr object rfl rfl, .id, fun h => absurd h hcondition⟩
  obtain ⟨f, i, hacquired, hf, hone⟩ := hcondition (flags &&& OBJECT_CREATE_FLAG_INTERNAL ≠ 0) store
    (fun o => { o with internalReferenceCount := o.internalReferenceCount + 1 }) 1
    fun _ => ⟨rfl, (Int.add_zero _).symm⟩
  obtain ⟨g, e, hexternal, hg, hone'⟩ := objectCreateExternal_modifies outcome object session flags
    (if flags &&& OBJECT_CREATE_FLAG_INTERNAL ≠ 0 then objectAddInternalReference object store
      else store)
  unfold objectCreateReferences at hcode ⊢
  rcases hresult : objectCreateExternal outcome object session flags
    (if flags &&& OBJECT_CREATE_FLAG_INTERNAL ≠ 0 then objectAddInternalReference object store
      else store) with ⟨code, external⟩
  simp only [hresult] at hcode hexternal hone' ⊢
  by_cases hfailed : code ≠ .success
  · rw [if_pos hfailed] at hcode
    exact absurd hcode hfailed
  rw [if_neg hfailed] at hcode ⊢
  obtain ⟨k, j, hlocked, hk, -⟩ := hcondition (flags &&& OBJECT_CREATE_FLAG_LOCKED ≠ 0) external
    (fun o => { o with lockCount := o.lockCount + 1 }) 0 fun _ => ⟨rfl, (Int.add_zero _).symm⟩
  obtain ⟨m, hadded, hm⟩ := inventoryAddObject_modifies outcome.append type object
    (if flags &&& OBJECT_CREATE_FLAG_LOCKED ≠ 0 then objectLock object external else external)
  refine ⟨_, _, _, ((hacquired.trans hexternal).trans hlocked).trans hadded,
    ((hf.trans hg).trans hk).trans hm, ?_⟩
  rcases hvalid.internal_or_external with hinternal | hexternal
  · have := hone hinternal
    omega
  · have hsession : session ≠ none := fun hnone => hvalid.2.1 ⟨hexternal, hnone⟩
    have := hone' (not_not.mp hfailed) hexternal hsession
    omega

end Modifies

def Object.Referenced (o : Object) : Prop :=
  o.internalReferenceCount ≠ 0 ∨ o.externalReferenceCount ≠ 0

-- No object is lost while a destruction is running: every object that is alive is referenced or
-- about to be destroyed, and no other object was destroyed before.
structure Store.Collecting (tasks : List Task) (store : Store) : Prop where
  removing : store.Removing tasks
  referenced : ∀ p o, store.objects.get p = some o → p ∈ dying tasks ∨ o.Referenced
  destroyed_nodup : store.destroyed.Nodup
  mem_destroyed_iff : ∀ p, p ∈ store.destroyed ↔ p < store.objects.next ∧ store.objects.get p = none

namespace Store.Collecting

variable {view : View} {spared : ObjectRef → Prop} {pool : List Hold} {tasks rest : List Task}
  {store other : Store}

-- Steps that destroy nothing.
theorem keep (h : store.Collecting tasks) (hremoving : other.Removing rest)
    (hnext : other.objects.next = store.objects.next) (hdestroyed : other.destroyed = store.destroyed)
    (hlive : ∀ p, other.objects.get p = none ↔ store.objects.get p = none)
    (hreferenced : ∀ p o, other.objects.get p = some o → p ∈ dying rest ∨ o.Referenced) :
    other.Collecting rest := by
  refine ⟨hremoving, hreferenced, by rw [hdestroyed]; exact h.destroyed_nodup, fun p => ?_⟩
  rw [hdestroyed, hnext, hlive]
  exact h.mem_destroyed_iff p

theorem drop {hold : Hold} (hc : store.Cascading view spared pool (.drop hold :: tasks))
    (h : store.Collecting (.drop hold :: tasks)) :
    (Task.run .exact (.drop hold) store).2.Collecting
      ((Task.run .exact (.drop hold) store).1 ++ tasks) := by
  obtain ⟨o, ho, hpos, -⟩ := hc.accounted.count_pos
  have hrun := @Task.run_drop .exact store hold o ho hpos
  have hremoving := h.removing.drop .exact
  rw [hrun] at hremoving ⊢
  refine h.keep hremoving ?_ ?_ (fun p => ?_) fun p o' ho' => ?_
  · simp [hold.drop_eq]
  · simp [hold.drop_eq]
  · have hlive := @Store.modifyObject_get_ne_none store hold.object hold.forgo p
    rw [← hold.drop_eq] at hlive
    exact not_iff_not.mp hlive
  · simp only at ho'
    rw [hold.drop_eq] at ho'
    obtain ⟨o'', ho'', rfl⟩ := Store.modifyObject_get ho'
    by_cases hp : p = hold.object
    · subst hp
      rw [ho] at ho''
      cases ho''
      rw [if_pos rfl]
      by_cases hlast : o.internalReferenceCount - 1 = 0 ∧ o.externalReferenceCount = 0
      · rw [if_pos hlast]
        exact Or.inl List.mem_cons_self
      · right
        unfold Object.Referenced Hold.forgo
        simp only
        omega
    · rw [if_neg hp]
      rcases h.referenced p o'' ho'' with hdying | hreferenced
      · left
        rw [dying_append]
        exact List.mem_append_right _ hdying
      · exact Or.inr hreferenced

theorem removeObject {object : ObjectRef}
    (hc : store.Cascading view spared pool (.removeObject object :: tasks))
    (h : store.Collecting (.removeObject object :: tasks)) :
    (Task.run .exact (.removeObject object) store).2.Collecting
      ((Task.run .exact (.removeObject object) store).1 ++ tasks) := by
  obtain ⟨o, ho, -⟩ := hc.dying_unreferenced object List.mem_cons_self
  have htype : store.objectType object = some o.type := by simp [Store.objectType, ho]
  -- the object is in the array of its type, and is found there
  have hmem := h.removing.listed o.type object htype
  have hremoving := h.removing.removeObject .exact
  cases hindex : (store.objectArray o.type).idxOf? object with
  | none => exact absurd (List.idxOf?_eq_none_iff.mp hindex) (not_not.mpr hmem)
  | some i =>
      simp only [Task.run, ho, hindex] at hremoving ⊢
      exact h.keep hremoving rfl rfl (fun _ => Iff.rfl) h.referenced

theorem destroy {object : ObjectRef}
    (hc : store.Cascading view spared pool (.destroy object :: tasks))
    (h : store.Collecting (.destroy object :: tasks)) :
    (Task.run .exact (.destroy object) store).2.Collecting
      ((Task.run .exact (.destroy object) store).1 ++ tasks) := by
  obtain ⟨o, ho, -⟩ := hc.dying_unreferenced object List.mem_cons_self
  have hsame := Store.SameInternals.foldl_objectDropReference object o.externalReferences store
  have hremoving := h.removing.destroy .exact
  simp only [Task.run, ho] at hremoving ⊢
  refine h.keep hremoving hsame.next hsame.destroyed (fun p => hsame.get_eq_none) fun p o' ho' => ?_
  have hdying : dying (o.payload.holds.map .drop ++ [.free object] ++ tasks) =
      object :: dying tasks := by
    rw [dying_append, dying_append, dying_map_drop]
    simp [dying]
  rw [hdying]
  by_cases hp : p = object
  · exact Or.inl (hp ▸ List.mem_cons_self)
  · rw [foldl_objectDropReference_get_ne _ _ hp] at ho'
    exact h.referenced p o' ho'

theorem free {object : ObjectRef}
    (hc : store.Cascading view spared pool (.free object :: tasks))
    (h : store.Collecting (.free object :: tasks)) :
    (store.freeObject object).Collecting tasks := by
  obtain ⟨o, ho, -⟩ := hc.dying_unreferenced object List.mem_cons_self
  have hfresh : object ∉ store.destroyed := by
    rw [h.mem_destroyed_iff, ho]
    simp
  have hget : ∀ p, (store.freeObject object).objects.get p =
      if p = object then none else store.objects.get p := store.objects.get_free object
  refine ⟨h.removing.free, fun p o' ho' => ?_, ?_, fun p => ?_⟩
  · rw [hget] at ho'
    split_ifs at ho' with hp
    rcases h.referenced p o' ho' with hdying | hreferenced
    · exact Or.inl ((List.mem_cons.mp hdying).resolve_left hp)
    · exact Or.inr hreferenced
  · exact h.destroyed_nodup.append (List.nodup_singleton _) (List.disjoint_singleton.mpr hfresh)
  · rw [hget]
    change p ∈ store.destroyed ++ [object] ↔ p < (store.objects.free object).next ∧ _
    rw [List.mem_append, List.mem_singleton, h.mem_destroyed_iff, Heap.next_free]
    split_ifs with hp
    · subst hp
      simp [Heap.lt_next_of_get ho]
    · simp [hp]

theorem run {task : Task} (hc : store.Cascading view spared pool (task :: tasks))
    (h : store.Collecting (task :: tasks)) :
    (task.run .exact store).2.Collecting ((task.run .exact store).1 ++ tasks) := by
  cases task with
  | drop hold => exact h.drop hc
  | removeObject object => exact h.removeObject hc
  | destroy object => exact h.destroy hc
  | free object => exact h.free hc
  | shift type i object =>
      exact h.keep h.removing.shift rfl rfl (fun _ => Iff.rfl) h.referenced

theorem of_runs {last : Store}
    (hview : ∀ p payload, ¬ spared p → view p payload = payload.holds)
    (hc : store.Cascading view spared pool tasks) (h : store.Collecting tasks)
    (hruns : Runs .exact tasks store last) : last.Collecting [] :=
  (hruns.invariant
    (P := fun tasks s => s.Cascading view spared pool tasks ∧ s.Collecting tasks)
    (fun task _ _ hs => ⟨hs.1.run hview task, hs.2.run hs.1⟩) ⟨hc, h⟩).2

-- Between two operations.
theorem exact (h : store.Collecting []) : store.Exact := h.removing.exact

theorem of_exact (h : store.Collecting []) (hexact : other.Exact)
    (hnext : other.objects.next = store.objects.next) (hdestroyed : other.destroyed = store.destroyed)
    (hlive : ∀ p, other.objects.get p = none ↔ store.objects.get p = none)
    (hreferenced : ∀ p o, other.objects.get p = some o → o.Referenced) : other.Collecting [] :=
  h.keep (hexact.removing fun _ hmem => absurd hmem List.not_mem_nil) hnext hdestroyed hlive
    fun p o ho => Or.inr (hreferenced p o ho)

theorem referenced_of_get (h : store.Collecting []) {p : ObjectRef} {o : Object}
    (ho : store.objects.get p = some o) : o.Referenced :=
  (h.referenced p o ho).resolve_left List.not_mem_nil

theorem congr (h : store.Collecting []) (hobjects : other.objects = store.objects)
    (harray : other.objectArray = store.objectArray) (hdestroyed : other.destroyed = store.destroyed) :
    other.Collecting [] := by
  refine h.of_exact (h.exact.congr harray ?_) (by rw [hobjects]) hdestroyed
    (fun p => by rw [hobjects]) fun p o ho => h.referenced_of_get (hobjects ▸ ho)
  unfold Store.objectType
  rw [hobjects]

theorem drops (h : store.Collecting []) (hold : Hold) : store.Collecting [.drop hold] := by
  refine h.keep (h.exact.removing ?_) rfl rfl (fun _ => Iff.rfl) h.referenced
  intro task htask
  exact ⟨hold, Or.inl (List.mem_singleton.mp htask)⟩

theorem release {hold : Hold} (h : store.Collecting [])
    (haccounted : store.Accounted ownHolds (hold :: pool)) :
    (hold.release .exact store).Collecting [] :=
  of_runs (fun _ _ _ => rfl) (.of_drop haccounted store.apart_false id) (h.drops hold)
    (hold.release_runs store)

-- The destruction of an object that lost its last reference.
theorem remove {object : ObjectRef} {o : Object} (hexact : store.Exact)
    (haccounted : store.Accounted ownHolds pool) (ho : store.objects.get object = some o)
    (hzero : o.internalReferenceCount = 0)
    (hreferenced : ∀ p o, store.objects.get p = some o → p ≠ object → o.Referenced)
    (hnodup : store.destroyed.Nodup)
    (hdestroyed : ∀ p, p ∈ store.destroyed ↔ p < store.objects.next ∧ store.objects.get p = none) :
    (store.remove .exact object).Collecting [] := by
  refine of_runs (fun _ _ _ => rfl) (.of_remove haccounted ho hzero) ⟨?_, ?_, hnodup, hdestroyed⟩
    (store.remove_runs object)
  · refine hexact.removing fun task htask => ?_
    exact ⟨⟨object, false⟩, Or.inr (List.mem_singleton.mp htask)⟩
  · intro p o' ho'
    by_cases hp : p = object
    · exact Or.inl (hp ▸ List.mem_singleton_self object)
    · exact Or.inr (hreferenced p o' ho' hp)

-- A change of external references that spares all objects but one.
theorem sameInternals {object : ObjectRef} (h : store.Collecting [])
    (hsame : store.SameInternals other)
    (hothers : ∀ p, p ≠ object → other.objects.get p = store.objects.get p)
    (hreferenced : ∀ o, other.objects.get object = some o → o.Referenced) :
    other.Collecting [] := by
  refine h.of_exact (h.exact.sameInternals hsame) hsame.next hsame.destroyed
    (fun p => hsame.get_eq_none) fun p o ho => ?_
  by_cases hp : p = object
  · exact hreferenced o (hp ▸ ho)
  · exact h.referenced_of_get (hothers p hp ▸ ho)

-- The object is destroyed if it has no reference any more.
theorem removeUnreferenced {object : ObjectRef} (h : store.Collecting [])
    (haccounted : other.Accounted ownHolds pool) (hsame : store.SameInternals other)
    (hothers : ∀ p, p ≠ object → other.objects.get p = store.objects.get p) :
    (other.removeUnreferenced .exact object).Collecting [] := by
  have hkeep := h.sameInternals hsame hothers
  unfold Store.removeUnreferenced
  cases ho : other.objects.get object with
  | none => exact (hkeep fun o ho' => by simp [ho] at ho').congr rfl rfl rfl
  | some o =>
      simp only
      split
      · rename_i hzero
        refine remove (h.exact.sameInternals hsame) haccounted ho hzero.1 ?_ ?_ ?_
        · intro p o' ho' hp
          exact h.referenced_of_get (hothers p hp ▸ ho')
        · rw [hsame.destroyed]
          exact h.destroyed_nodup
        · intro p
          rw [hsame.destroyed, hsame.next, hsame.get_eq_none]
          exact h.mem_destroyed_iff p
      · rename_i hreferenced
        refine hkeep fun o' ho' => ?_
        rw [ho] at ho'
        cases ho'
        unfold Object.Referenced
        omega

theorem sessionDropReference (session : SessionRef) (reference : ReferenceRef)
    (h : store.Collecting []) (haccounted : store.Accounted ownHolds pool) :
    (sessionDropReference .exact session reference store).Collecting [] := by
  unfold RedApid.sessionDropReference
  split
  · exact h.congr rfl rfl rfl
  · rename_i e _
    have hsame := Store.SameInternals.dropReference store reference e.object session e.count
    exact h.removeUnreferenced (haccounted.sameInternals hsame) hsame
      fun p hp => dropReference_get_ne reference session e.count hp

theorem removeExternalReferences (rounds : Nat) (session : SessionRef) (h : store.Collecting [])
    (haccounted : store.Accounted ownHolds pool) :
    (removeExternalReferences .exact rounds session store).Collecting [] := by
  induction rounds generalizing store with
  | zero =>
      unfold RedApid.removeExternalReferences
      split
      · exact h.congr rfl rfl rfl
      · exact h
      · exact h.congr rfl rfl rfl
  | succ rounds ih =>
      unfold RedApid.removeExternalReferences
      split
      · exact h.congr rfl rfl rfl
      · exact h
      · exact ih (h.sessionDropReference session _ haccounted)
          ((Store.KeepsHolds.sessionDropReference session _ store).accounted pool haccounted)

theorem sessionRemoveExternalReferences (session : SessionRef) (h : store.Collecting [])
    (haccounted : store.Accounted ownHolds pool) :
    (sessionRemoveExternalReferences .exact session store).Collecting [] := by
  unfold RedApid.sessionRemoveExternalReferences
  split
  · exact h.congr rfl rfl rfl
  · exact h.removeExternalReferences _ session haccounted

theorem sessionExpireHelper (session : SessionRef) (h : store.Collecting [])
    (haccounted : store.Accounted ownHolds pool) :
    (sessionExpireHelper .exact session store).Collecting [] := by
  have hremoved := h.sessionRemoveExternalReferences session haccounted
  have haccounted' :=
    (@Store.KeepsHolds.sessionRemoveExternalReferences .exact session store).accounted pool haccounted
  unfold RedApid.sessionExpireHelper inventoryRemoveSession
  simp only
  split
  · exact hremoved
  · exact (hremoved.sessionRemoveExternalReferences session haccounted').congr rfl rfl rfl

theorem releaseReference_get (reference : ReferenceRef) (object : ObjectRef) (session : SessionRef)
    (store : Store) :
    (∀ p, p ≠ object → (store.releaseReference reference object session).objects.get p =
      store.objects.get p) ∧
      ∀ o, store.objects.get object = some o →
        ∃ o', (store.releaseReference reference object session).objects.get object = some o' ∧
          o'.internalReferenceCount = o.internalReferenceCount ∧
          o'.externalReferenceCount = o.externalReferenceCount - 1 := by
  have hcounted : ∀ p, ((store.countReference reference (-1)).countExternal object session
      (-1)).objects.get p = if p = object then (store.objects.get p).map fun o =>
        { o with externalReferenceCount := o.externalReferenceCount + -1 } else
        store.objects.get p := by
    intro p
    simp only [Store.countExternal, Store.countSession, Store.countObject, Store.countReference,
      Store.modifySession_objects, Store.modifyObject_objects, Heap.get_modify]
  unfold Store.releaseReference
  simp only
  split
  · have hunlinked : ∀ p, (((store.countReference reference (-1)).countExternal object session
        (-1)).unlinkReference reference object session).objects.get p = if p = object then
          (store.objects.get p).map fun o => { o with
            externalReferences := o.externalReferences.erase reference
            externalReferenceCount := o.externalReferenceCount + -1 } else
          store.objects.get p := by
      intro p
      simp only [Store.unlinkReference, Store.freeReference, Store.unlinkSession,
        Store.unlinkObject, Store.modifySession_objects, Store.modifyObject_objects,
        Heap.get_modify, hcounted]
      split_ifs
      · rw [Option.map_map]
        rfl
      · rfl
    refine ⟨fun p hp => by rw [hunlinked, if_neg hp], fun o ho => ?_⟩
    rw [hunlinked, if_pos rfl, ho]
    exact ⟨_, rfl, rfl, rfl⟩
  · refine ⟨fun p hp => by rw [hcounted, if_neg hp], fun o ho => ?_⟩
    rw [hcounted, if_pos rfl, ho]
    exact ⟨_, rfl, rfl, rfl⟩

theorem objectRemoveExternalReference (object : ObjectRef) (session : SessionRef)
    (h : store.Collecting []) (haccounted : store.Accounted ownHolds pool) :
    (objectRemoveExternalReference .exact object session store).Collecting [] := by
  unfold RedApid.objectRemoveExternalReference
  split
  · exact h.congr rfl rfl rfl
  · rename_i o ho
    split
    · exact h
    · split
      · exact h
      · rename_i reference _
        have hsame := Store.SameInternals.releaseReference store reference object session
        obtain ⟨hothers, hobject⟩ := releaseReference_get reference object session store
        obtain ⟨o', ho', hinternal, hexternal⟩ := hobject o ho
        simp only
        split
        · rename_i hzero
          refine remove (h.exact.sameInternals hsame) (haccounted.sameInternals hsame) ho'
            (hinternal.trans hzero.1) ?_ ?_ ?_
          · exact fun p o' ho' hp => h.referenced_of_get (hothers p hp ▸ ho')
          · rw [hsame.destroyed]
            exact h.destroyed_nodup
          · intro p
            rw [hsame.destroyed, hsame.next, hsame.get_eq_none]
            exact h.mem_destroyed_iff p
        · rename_i hreferenced
          refine h.sameInternals hsame hothers fun o'' ho'' => ?_
          rw [ho'] at ho''
          cases ho''
          unfold Object.Referenced
          omega

theorem objectRelease (object : ObjectRef) (session : SessionRef) (h : store.Collecting [])
    (haccounted : store.Accounted ownHolds pool) :
    (objectRelease .exact object session store).2.Collecting [] := by
  unfold RedApid.objectRelease
  split
  · exact h.congr rfl rfl rfl
  · split
    · exact h
    · exact h.objectRemoveExternalReference object session haccounted

theorem sessionCreate (outcome : SessionCreation) (lifetime : UInt32) (h : store.Collecting []) :
    (sessionCreate outcome lifetime store).2.Collecting [] := by
  obtain ⟨hobjects, harray, -, -, hdestroyed⟩ := sessionCreate_frame outcome lifetime store
  exact h.congr hobjects harray hdestroyed

theorem external_nonneg (hcounted : store.Counted) {p : ObjectRef} {o : Object}
    (ho : store.objects.get p = some o) : 0 ≤ o.externalReferenceCount := by
  have hsum := hcounted.linked.objects.count_eq p o ho
  change o.externalReferenceCount = _ + 0 at hsum
  rw [hsum, Int.add_zero]
  refine List.sum_nonneg fun count hcount => ?_
  obtain ⟨r, hr, rfl⟩ := List.mem_map.mp hcount
  obtain ⟨e, he, -⟩ := (hcounted.linked.objects.mem_iff p o ho r).mp hr
  have hpos := hcounted.count_pos r e he
  unfold Ledger.weightAt
  rw [he]
  change 0 ≤ e.count
  omega

theorem objectAddExternalReference (calloc : Bool) (object : ObjectRef) (session : SessionRef)
    (h : store.Collecting []) (hcounted : store.Counted) :
    (objectAddExternalReference calloc object session store).2.Collecting [] := by
  obtain ⟨f, amount, hmodifies, hrefers, hnonneg, -⟩ :=
    objectAddExternalReference_modifies calloc object session store
  have hothers : ∀ p, p ≠ object → (RedApid.objectAddExternalReference calloc object session
      store).2.objects.get p = store.objects.get p := fun p hp => by
    rw [hmodifies.objects, Heap.get_modify_ne hp]
  refine h.sameInternals (.objectAddExternalReference calloc object session store) hothers
    fun o ho => ?_
  · rw [hmodifies.objects, Heap.get_modify_self] at ho
    obtain ⟨o', ho', rfl⟩ := Option.map_eq_some_iff.mp ho
    have hexternal := external_nonneg hcounted ho'
    obtain ⟨hinternal', hexternal'⟩ := hrefers o'
    have hreferenced := h.referenced_of_get ho'
    unfold Object.Referenced at hreferenced ⊢
    omega

-- A new object has a reference that its creator asked for.
theorem createObject {outcome : ObjectCreation} {payload : Payload} {session : Option SessionRef}
    {flags : UInt32} {object : ObjectRef} (h : store.Collecting [])
    (hok : (store.createObject outcome payload session flags).1 = .ok object) :
    (store.createObject outcome payload session flags).2.Collecting [] := by
  have hexact := createObject_exact outcome payload session flags h.exact
  obtain ⟨rfl, hvalid, hcreated⟩ := createObject_ok hok
  obtain ⟨f, i, e, hmodifies, hrefers, hone⟩ := objectCreateReferences_modifies outcome
    store.objects.next payload.type (store.callocObject payload).2 hvalid (by rw [hcreated])
  rw [hcreated] at hmodifies
  generalize (store.createObject outcome payload session flags).2 = other at hexact hmodifies ⊢
  have hget : ∀ p, other.objects.get p = if p = store.objects.next then
      some (f ⟨0, payload.type, 0, [], 0, 0, payload⟩) else store.objects.get p := by
    intro p
    rw [hmodifies.objects, Store.callocObject, Heap.get_modify, Heap.get_alloc]
    split_ifs <;> rfl
  have hnext : other.objects.next = store.objects.next + 1 := by
    rw [hmodifies.objects, Heap.next_modify, Store.callocObject, Heap.next_alloc]
  have hdestroyed : other.destroyed = store.destroyed := hmodifies.destroyed
  refine ⟨hexact.removing fun _ hmem => absurd hmem List.not_mem_nil, fun p o ho => Or.inr ?_, ?_,
    fun p => ?_⟩
  · rw [hget] at ho
    split_ifs at ho
    · cases ho
      obtain ⟨hinternal, hexternal⟩ := hrefers ⟨0, payload.type, 0, [], 0, 0, payload⟩
      unfold Object.Referenced
      simp only at hinternal hexternal
      omega
    · exact h.referenced_of_get ho
  · rw [hdestroyed]
    exact h.destroyed_nodup
  · rw [hdestroyed, h.mem_destroyed_iff, hget, hnext]
    split_ifs with hp
    · simp [hp]
    · refine and_congr_left fun _ => ?_
      exact ⟨Nat.lt_succ_of_lt, fun hlt => Nat.lt_of_le_of_ne (Nat.le_of_lt_succ hlt) hp⟩

theorem modifyObject (h : store.Collecting []) (object : ObjectRef) {f : Object → Object}
    (htype : ∀ o, (f o).type = o.type) (hreferenced : ∀ o, o.Referenced → (f o).Referenced) :
    (store.modifyObject object f).Collecting [] := by
  refine h.of_exact (h.exact.modifyObject object htype) (by simp) (by simp)
    (fun p => not_iff_not.mp (Store.modifyObject_get_ne_none object f p)) fun p o ho => ?_
  obtain ⟨o', ho', rfl⟩ := Store.modifyObject_get ho
  split
  · exact hreferenced o' (h.referenced_of_get ho')
  · exact h.referenced_of_get ho'

theorem acquire (h : store.Collecting []) (hold : Hold) : (hold.acquire store).Collecting [] := by
  rw [Hold.acquire_eq]
  refine h.modifyObject hold.object (fun _ => rfl) fun o _ => Or.inl ?_
  exact Nat.succ_ne_zero o.internalReferenceCount

end Store.Collecting

section Steps

-- The operations of clients on strings and lists, and what others do that keep internal
-- references to them.
inductive ListStep : List Hold × Store → List Hold × Store → Prop where
  | sessionCreate (pool : List Hold) (store : Store) (outcome : SessionCreation)
      (lifetime : UInt32) :
      ListStep (pool, store) (pool, (sessionCreate outcome lifetime store).2)
  | stringAllocate (pool : List Hold) (store : Store) (grow : GrowAllocation) (memory : Allocation)
      (calloc : Bool) (outcome : ObjectCreation) (reserve : UInt32) (buffer : List UInt8)
      (session : Option SessionRef) (flags : UInt32) (object : ObjectRef)
      (ok : (stringAllocateObject grow memory calloc outcome reserve buffer session flags
        store).1 = .ok object) :
      ListStep (pool, store) (createdHolds flags object ++ pool,
        (stringAllocateObject grow memory calloc outcome reserve buffer session flags store).2)
  | listAllocate (pool : List Hold) (store : Store) (outcome : ListCreation)
      (session : Option SessionRef) (flags : UInt32) (object : ObjectRef)
      (ok : (listAllocate outcome session flags store).1 = .ok object) :
      ListStep (pool, store) (createdHolds flags object ++ pool,
        (listAllocate outcome session flags store).2)
  | listAppendTo (pool : List Hold) (store : Store) (append : Option APIError) (list : ObjectRef)
      (itemId : ObjectID) (l : Object) (get : store.objects.get list = some l)
      (isList : l.payload.type = .list) :
      ListStep (pool, store) (pool, (listAppendTo append list itemId store).2)
  | listRemoveFrom (pool : List Hold) (store : Store) (list : ObjectRef) (index : UInt16)
      (l : Object) (get : store.objects.get list = some l) (isList : l.payload.type = .list) :
      ListStep (pool, store) (pool, (listRemoveFrom .exact list index store).2)
  | listGetItem (pool : List Hold) (store : Store) (calloc : Bool) (list : ObjectRef)
      (index : UInt16) (session : SessionRef) :
      ListStep (pool, store) (pool, (listGetItem calloc list index session store).2)
  | objectRelease (pool : List Hold) (store : Store) (object : ObjectRef) (session : SessionRef) :
      ListStep (pool, store) (pool, (objectRelease .exact object session store).2)
  | objectReleaseUnchecked (pool : List Hold) (store : Store) (object : ObjectRef)
      (session : SessionRef) :
      ListStep (pool, store) (pool, (objectReleaseUnchecked .exact object session store).2)
  | sessionExpire (pool : List Hold) (store : Store) (session : SessionRef) :
      ListStep (pool, store) (pool, (sessionExpire .exact session store).2)
  | sessionHandleExpire (pool : List Hold) (store : Store) (session : SessionRef) :
      ListStep (pool, store) (pool, sessionHandleExpire .exact session store)
  | acquire (pool : List Hold) (store : Store) (hold : Hold)
      (live : store.objects.get hold.object ≠ none) :
      ListStep (pool, store) (hold :: pool, hold.acquire store)
  | release (pool rest : List Hold) (store : Store) (hold : Hold)
      (perm : pool.Perm (hold :: rest)) :
      ListStep (pool, store) (rest, hold.release .exact store)

variable {pool next : List Hold} {store other : Store}

def Payload.IsMember (payload : Payload) : Prop := payload.type = .string ∨ payload.type = .list

-- What holds between two operations.
structure Membership (pool : List Hold) (store : Store) : Prop where
  holding : Holding pool store
  counted : store.Counted
  collecting : store.Collecting []
  member : ∀ p o, store.objects.get p = some o → o.payload.IsMember

namespace Membership

theorem init : Membership [] Store.init := by
  refine ⟨.init, .init, ⟨?_, ?_, List.nodup_nil, ?_⟩, ?_⟩
  · have hexact : Store.init.Exact := exact_of_steps .refl
    exact hexact.removing fun _ hmem => absurd hmem List.not_mem_nil
  · simp [Store.init]
  · simp [Store.init, Heap.next, Heap.empty]
  · simp [Store.init]

theorem of_kept (h : Membership pool store) (hkept : store.Kept other)
    (haccounted : other.Accounted ownHolds next) (hcounted : other.Counted)
    (hcollecting : other.Collecting []) : Membership next other := by
  refine ⟨h.holding.of_kept hkept haccounted, hcounted, hcollecting, fun p o ho => ?_⟩
  obtain ⟨o', ho', -, hpayload⟩ := hkept.get ho
  rw [hpayload]
  exact h.member p o' ho'

theorem keepsHolds (h : Membership pool store) (hkeeps : store.KeepsHolds other)
    (hcounted : other.Counted) (hcollecting : other.Collecting []) : Membership pool other :=
  h.of_kept hkeeps.kept (hkeeps.accounted pool h.holding.accounted) hcounted hcollecting

theorem createObject {outcome : ObjectCreation} {payload : Payload} {session : Option SessionRef}
    {flags : UInt32} {object : ObjectRef} (h : Membership pool store)
    (hmember : payload.IsMember) (hitems : payload.items = [])
    (hok : (store.createObject outcome payload session flags).1 = .ok object) :
    Membership (createdHolds flags object ++ pool)
      (store.createObject outcome payload session flags).2 := by
  have hholds : payload.holds = [] := by
    cases payload with
    | string _ => rfl
    | list items =>
        change items = [] at hitems
        rw [hitems]
        rfl
    | file _ | directory _ | process _ | program _ => rcases hmember with h | h <;> cases h
  have hstep : HolderStep .exact (payload.holds ++ pool, store) (createdHolds flags object ++ pool,
      (store.createObject outcome payload session flags).2) :=
    .created pool store outcome payload session flags object hitems (by simp [hholds]) hok
  rw [hholds] at hstep
  refine ⟨hstep.holding h.holding, createObject_counted h.counted hok,
    h.collecting.createObject hok, fun p o ho => ?_⟩
  rcases createObject_objects outcome payload session flags store ho with
    ⟨-, hcore, -⟩ | ⟨o', ho', hcore⟩
  · have hpayload : o.payload = payload := congrArg Prod.snd hcore
    rw [hpayload]
    exact hmember
  · have hpayload : o.payload = o'.payload := congrArg Prod.snd hcore
    rw [hpayload]
    exact h.member p o' ho'

theorem mapItems_type (change : List ObjectRef → List ObjectRef) (payload : Payload) :
    (payload.mapItems change).type = payload.type := by
  cases payload <;> rfl

theorem member_setItems {list : ObjectRef} (change : List ObjectRef → List ObjectRef)
    (h : ∀ p o, store.objects.get p = some o → o.payload.IsMember) :
    ∀ p o, (store.modifyObject list fun l =>
      { l with payload := l.payload.mapItems change }).objects.get p = some o →
        o.payload.IsMember := by
  intro p o ho
  obtain ⟨o', ho', rfl⟩ := Store.modifyObject_get ho
  have hmember := h p o' ho'
  split
  · unfold Payload.IsMember at hmember ⊢
    simp only [mapItems_type]
    exact hmember
  · exact hmember

theorem listAppendTo {list : ObjectRef} {l : Object} (h : Membership pool store)
    (append : Option APIError) (itemId : ObjectID) (hl : store.objects.get list = some l)
    (hlist : l.payload.type = .list) :
    Membership pool (listAppendTo append list itemId store).2 := by
  have hholding := h.holding.listAppendTo append itemId hl hlist
  rcases listAppendTo_cases append itemId hl with ⟨-, hsame⟩ | ⟨item, -, -, -, happend⟩
  · rw [hsame]
    exact h
  rw [happend] at hholding ⊢
  refine ⟨hholding, ?_, ?_, member_setItems _ fun p o ho => ?_⟩
  · refine Store.Counted.modifyObject ?_ (by intro _; rfl) (by intro _; rfl)
    rw [Hold.acquire_eq]
    exact h.counted.modifyObject (fun _ => rfl) (fun _ => rfl)
  · exact (h.collecting.acquire (lockedHold item)).modifyObject list (by intro _; rfl)
      (by intro _ hreferenced; exact hreferenced)
  · rw [Hold.acquire_eq] at ho
    obtain ⟨o', ho', rfl⟩ := Store.modifyObject_get ho
    split <;> exact h.member p o' ho'

theorem listRemoveFrom {list : ObjectRef} {l : Object} (h : Membership pool store) (index : UInt16)
    (hl : store.objects.get list = some l) (hlist : l.payload.type = .list) :
    Membership pool (listRemoveFrom .exact list index store).2 := by
  have hholding : Holding pool (RedApid.listRemoveFrom .exact list index store).2 :=
    h.holding.listRemoveFrom index hl hlist
  rcases @listRemoveFrom_cases .exact store list l index hl with
    ⟨-, hsame⟩ | ⟨item, hunlocked, hitem, hremove⟩
  · rw [hsame]
    exact h
  rw [hremove] at hholding ⊢
  have hapart := h.holding.accounted.apart_of_unlocked h.holding.shaped.plainApart hl hlist hunlocked
  have hcontains : store.Contains list item := ⟨l, hl, List.mem_of_getElem? hitem⟩
  have hne : item ≠ list := by
    rintro rfl
    exact h.holding.shaped.acyclic item (.single hcontains)
  have hchanged := h.holding.accounted.changed hl
    (f := fun l => { l with payload := l.payload.mapItems (·.eraseIdx index.toNat) })
    (g := Payload.mapItems (·.eraseIdx index.toNat)) (fun _ => rfl) (fun _ => rfl)
    (removed_perm pool hlist hitem)
  have hspared : ∀ p payload, ¬ p = list →
      changed list (Payload.mapItems (·.eraseIdx index.toNat)) p payload = payload.holds :=
    changed_of_spared _ rfl
  have hcollecting := Store.Collecting.of_runs hspared (.of_drop hchanged hapart hne) (h.collecting.drops (lockedHold item))
    ((lockedHold item).release_runs store)
  refine ⟨hholding, ?_, ?_, member_setItems _ fun p o ho => ?_⟩
  · refine Store.Counted.modifyObject ?_ (by intro _; rfl) (by intro _; rfl)
    exact (h.counted.unlock (lockedHold item)).release item
  · exact hcollecting.modifyObject list (by intro _; rfl)
      (by intro _ hreferenced; exact hreferenced)
  · obtain ⟨o', ho', -, hpayload⟩ :=
      (Store.Kept.of_runs ((lockedHold item).release_runs store)).get ho
    rw [hpayload]
    exact h.member p o' ho'

theorem listGetItem (h : Membership pool store) (calloc : Bool) (list : ObjectRef) (index : UInt16)
    (session : SessionRef) : Membership pool (listGetItem calloc list index session store).2 := by
  have hfaulted : ∀ {store : Store}, Membership pool store → Membership pool store.faulted :=
    fun h => h.keepsHolds (.congr rfl rfl) (h.counted.congr rfl rfl rfl)
      (h.collecting.congr rfl rfl rfl)
  unfold RedApid.listGetItem
  cases hl : store.objects.get list with
  | none => exact hfaulted h
  | some l =>
      simp only
      cases hitem : l.items[index.toNat]? with
      | none => exact h
      | some item =>
          have hadded : Membership pool (objectAddExternalReference calloc item session store).2 :=
            h.keepsHolds (.of_sameInternals (.objectAddExternalReference calloc item session store))
              (h.counted.addExternalReference calloc item session)
              (h.collecting.objectAddExternalReference calloc item session h.counted)
          simp only
          rcases hresult : objectAddExternalReference calloc item session store with ⟨code, added⟩
          rw [hresult] at hadded
          cases code with
          | success =>
              simp only
              cases added.objects.get item with
              | none => exact hfaulted hadded
              | some o => exact hadded
          | _ => exact hadded

end Membership

theorem ListStep.membership (hstep : ListStep (pool, store) (next, other))
    (h : Membership pool store) : Membership next other := by
  cases hstep with
  | sessionCreate _ _ outcome lifetime =>
      exact h.keepsHolds (.sessionCreate outcome lifetime store)
        (sessionCreate_counted outcome lifetime h.counted)
        (h.collecting.sessionCreate outcome lifetime)
  | stringAllocate _ _ grow memory calloc outcome reserve buffer session flags object hok =>
      unfold stringAllocateObject at hok ⊢
      cases hstring : RedApid.stringAllocate grow ⟨memory, calloc, .success⟩ reserve buffer with
      | error code =>
          rw [hstring] at hok
          cases hok
      | ok string =>
          rw [hstring] at hok
          exact h.createObject (Or.inl rfl) rfl hok
  | listAllocate _ _ outcome session flags object hok =>
      unfold RedApid.listAllocate at hok ⊢
      split at hok
      · cases hok
      · rename_i hcalloc
        cases harray : outcome.arrayCreate with
        | some code =>
            rw [harray] at hok
            cases hok
        | none =>
            rw [harray] at hok
            rw [if_neg hcalloc]
            exact h.createObject (Or.inr rfl) rfl hok
  | listAppendTo _ _ append list itemId l hget hlist =>
      exact h.listAppendTo append itemId hget hlist
  | listRemoveFrom _ _ list index l hget hlist => exact h.listRemoveFrom index hget hlist
  | listGetItem _ _ calloc list index session => exact h.listGetItem calloc list index session
  | objectRelease _ _ object session =>
      exact h.keepsHolds (.objectRelease object session store)
        (h.counted.objectRelease object session)
        (h.collecting.objectRelease object session h.holding.accounted)
  | objectReleaseUnchecked _ _ object session =>
      exact h.keepsHolds (.objectRelease object session store)
        (h.counted.objectRelease object session)
        (h.collecting.objectRelease object session h.holding.accounted)
  | sessionExpire _ _ session =>
      exact h.keepsHolds (.sessionExpireHelper session store)
        (sessionExpireHelper_counted session h.counted).1
        (h.collecting.sessionExpireHelper session h.holding.accounted)
  | sessionHandleExpire _ _ session =>
      exact h.keepsHolds (.sessionExpireHelper session store)
        (sessionExpireHelper_counted session h.counted).1
        (h.collecting.sessionExpireHelper session h.holding.accounted)
  | acquire _ _ hold hlive =>
      have hacquired := h.collecting.acquire hold
      have haccounted := h.holding.accounted.acquire hold hlive
      rw [Hold.acquire_eq] at hacquired haccounted ⊢
      exact h.of_kept (.modifyObject store hold.object fun _ => rfl) haccounted
        (h.counted.modifyObject (fun _ => rfl) (fun _ => rfl)) hacquired
  | release _ _ _ hold hperm =>
      have haccounted := h.holding.accounted.perm hperm
      exact h.of_kept (.of_runs (hold.release_runs store)) haccounted.release
        ((h.counted.unlock hold).release hold.object) (h.collecting.release haccounted)

theorem membership_of_steps (h : Relation.ReflTransGen ListStep ([], Store.init) (pool, store)) :
    Membership pool store := by
  generalize hlast : (pool, store) = last at h
  induction h generalizing pool store with
  | refl =>
      cases hlast
      exact .init
  | tail _ hstep ih =>
      subst hlast
      exact hstep.membership (ih rfl)

end Steps

section Reachable

variable {pool : List Hold} {store : Store}

-- An external reference of a live session leads to the object, or an internal reference from
-- outside of the objects.
def Store.Root (pool : List Hold) (store : Store) (object : ObjectRef) : Prop :=
  (∃ session s reference e, store.sessions.get session = some s ∧ reference ∈ s.externalReferences ∧
    store.references.get reference = some e ∧ e.object = object) ∨
  ∃ hold ∈ pool, hold.object = object

theorem Holding.contains_wellFounded (h : Holding pool store) : WellFounded store.Contains := by
  refine h.shaped.acyclic.wellFounded (Set.finite_Iio store.objects.next) ?_
  intro list item hcontains
  obtain ⟨o, ho, -⟩ := h.accounted.item_locked hcontains
  obtain ⟨l, hl, -⟩ := hcontains
  exact ⟨Heap.lt_next_of_get hl, Heap.lt_next_of_get ho⟩

-- An object that is alive has a reference from somewhere.
theorem Membership.source (h : Membership pool store) {p : ObjectRef}
    (hlive : store.objects.get p ≠ none) :
    store.Root pool p ∨ ∃ list, store.objects.get list ≠ none ∧ store.Contains list p := by
  obtain ⟨o, ho⟩ := Option.ne_none_iff_exists'.mp hlive
  have hclaimed : ∀ hold, hold.object = p → 0 < store.claims ownHolds pool hold →
      store.Root pool p ∨ ∃ list, store.objects.get list ≠ none ∧ store.Contains list p := by
    intro hold hobject hpos
    by_cases hpool : hold ∈ pool
    · exact Or.inl (Or.inr ⟨hold, hpool, hobject⟩)
    · have hincoming : 0 < store.incoming ownHolds hold := by
        have hzero := List.count_eq_zero.mpr hpool
        unfold Store.claims at hpos
        omega
      obtain ⟨list, l, hl, hmem⟩ := (Heap.incoming_pos_iff hold).mp hincoming
      refine Or.inr ⟨list, by simp [hl], l, hl, ?_⟩
      -- only lists hold anything
      unfold ownHolds at hmem
      rcases h.member list l hl with hstring | hlist
      · cases hpayload : l.payload with
        | string _ =>
            rw [hpayload] at hmem
            exact absurd hmem List.not_mem_nil
        | list _ | file _ | directory _ | process _ | program _ =>
            rw [hpayload] at hstring
            cases hstring
      · rw [payload_eq_list hlist] at hmem
        obtain ⟨item, hitem, rfl⟩ := List.mem_map.mp hmem
        rwa [← hobject]
  rcases h.collecting.referenced_of_get ho with hinternal | hexternal
  · have hreferences := h.holding.accounted.references p o ho
    by_cases hlocked : 0 < store.claims ownHolds pool (lockedHold p)
    · exact hclaimed (lockedHold p) rfl hlocked
    · exact hclaimed (plainHold p) rfl (by omega)
  · have hexact := h.counted.exact
    cases hlist : o.externalReferences with
    | nil =>
        have hcount := hexact.object_count p o ho
        rw [hlist] at hcount
        exact absurd hcount hexternal
    | cons reference rest =>
        have hmem : reference ∈ o.externalReferences := hlist ▸ List.mem_cons_self
        obtain ⟨e, he, hobject⟩ := hexact.object_entry p o ho reference hmem
        obtain ⟨s, hs, hmem'⟩ := hexact.entry_session reference e he
        exact Or.inl (Or.inl ⟨e.session, s, reference, e, hs, hmem', he, hobject⟩)

theorem Membership.live_of_root (h : Membership pool store) {p : ObjectRef}
    (hroot : store.Root pool p) : store.objects.get p ≠ none := by
  rcases hroot with ⟨session, s, reference, e, hs, hmem, he, rfl⟩ | ⟨hold, hmem, rfl⟩
  · obtain ⟨o, ho, -⟩ := h.counted.exact.entry_object reference e he
    simp [ho]
  · exact h.holding.accounted.live_of_mem hmem

theorem Membership.live_iff (h : Membership pool store) (p : ObjectRef) :
    store.objects.get p ≠ none ↔ Graph.Reachable (store.Root pool) store.Contains p := by
  constructor
  · exact Graph.reachable_of_wellFounded h.holding.contains_wellFounded fun _ => h.source
  · refine Graph.Reachable.of_closed (fun _ => h.live_of_root) fun list item _ hcontains => ?_
    obtain ⟨o, ho, -⟩ := h.holding.accounted.item_locked hcontains
    simp [ho]

-- The live strings and lists are those that can be reached, all others that were created have been
-- destroyed once. Without sessions and without references from elsewhere none is left.
theorem live_iff_reachable (h : Relation.ReflTransGen ListStep ([], Store.init) (pool, store)) :
    (∀ p, store.objects.get p ≠ none ↔ Graph.Reachable (store.Root pool) store.Contains p) ∧
      store.destroyed.Nodup ∧
      (∀ p, p ∈ store.destroyed ↔
        p < store.objects.next ∧ ¬ Graph.Reachable (store.Root pool) store.Contains p) ∧
      ((∀ session, store.sessions.get session = none) → pool = [] →
        ∀ p, store.objects.get p = none) := by
  have hmembership := membership_of_steps h
  have hlive := hmembership.live_iff
  refine ⟨hlive, hmembership.collecting.destroyed_nodup, fun p => ?_, fun hsessions hpool p => ?_⟩
  · rw [hmembership.collecting.mem_destroyed_iff, ← hlive, not_not]
  · by_contra hp
    obtain ⟨root, hroot, -⟩ := (hlive p).mp hp
    rcases hroot with ⟨session, s, -, -, hs, -⟩ | ⟨hold, hmem, -⟩
    · rw [hsessions] at hs
      cases hs
    · rw [hpool] at hmem
      exact List.not_mem_nil hmem

-- The session of the client with the two lists ends.
def collectedStore : Store := (sessionExpire .exact 0 nestedStore).2

theorem collectedStore_live_iff_reachable :
    (∀ p, collectedStore.objects.get p ≠ none ↔
        Graph.Reachable (collectedStore.Root []) collectedStore.Contains p) ∧
      collectedStore.destroyed.Nodup ∧
      (∀ p, p ∈ collectedStore.destroyed ↔ p < collectedStore.objects.next ∧
        ¬ Graph.Reachable (collectedStore.Root []) collectedStore.Contains p) ∧
      ((∀ session, collectedStore.sessions.get session = none) → [] = ([] : List Hold) →
        ∀ p, collectedStore.objects.get p = none) :=
  live_iff_reachable
    (((((Relation.ReflTransGen.refl.tail
      (.sessionCreate [] _ ⟨true, none, none, none⟩ 10)).tail
      (.listAllocate [] _ ⟨true, none, true, none⟩ (some 0) OBJECT_CREATE_FLAG_EXTERNAL 0 rfl)).tail
      (.listAllocate [] _ ⟨true, none, true, none⟩ (some 0) OBJECT_CREATE_FLAG_EXTERNAL 1 rfl)).tail
      (.listAppendTo [] _ none 0 2 _ rfl rfl)).tail
      (.sessionExpire [] _ 0))

end Reachable

end RedApid

import RedApid.Store.Session

namespace RedApid

open Memory

-- An object without what external references change in it.
def Object.internals (o : Object) : Object :=
  { o with externalReferences := [], externalReferenceCount := 0 }

-- Two stores that differ in external references only.
structure Store.SameInternals (store other : Store) : Prop where
  objects : ∀ object,
    (other.objects.get object).map Object.internals = (store.objects.get object).map Object.internals
  next : other.objects.next = store.objects.next
  objectArray : other.objectArray = store.objectArray
  stockStrings : other.stockStrings = store.stockStrings
  nextObjectId : other.nextObjectId = store.nextObjectId
  destroyed : other.destroyed = store.destroyed
  sessionId : other.sessionId = store.sessionId
  sessionNext : other.sessions.next = store.sessions.next
  sessionArray : other.sessionArray = store.sessionArray

namespace Store.SameInternals

variable {store other last : Store}

theorem of_sessions (hobjects : other.objects = store.objects)
    (harray : other.objectArray = store.objectArray)
    (hstock : other.stockStrings = store.stockStrings)
    (hnext : other.nextObjectId = store.nextObjectId)
    (hdestroyed : other.destroyed = store.destroyed) (hsessions : other.sessions = store.sessions)
    (hsessionArray : other.sessionArray = store.sessionArray) : store.SameInternals other := by
  refine ⟨fun _ => by rw [hobjects], by rw [hobjects], harray, hstock, hnext, hdestroyed, ?_,
    by rw [hsessions], hsessionArray⟩
  unfold Store.sessionId
  rw [hsessions]

theorem refl (store : Store) : store.SameInternals store := of_sessions rfl rfl rfl rfl rfl rfl rfl

theorem trans (h : store.SameInternals other) (h' : other.SameInternals last) :
    store.SameInternals last :=
  ⟨fun object => (h'.objects object).trans (h.objects object), h'.next.trans h.next,
    h'.objectArray.trans h.objectArray, h'.stockStrings.trans h.stockStrings,
    h'.nextObjectId.trans h.nextObjectId, h'.destroyed.trans h.destroyed,
    h'.sessionId.trans h.sessionId, h'.sessionNext.trans h.sessionNext,
    h'.sessionArray.trans h.sessionArray⟩

theorem modifyObject (store : Store) (object : ObjectRef) {f : Object → Object}
    (hf : ∀ o, (f o).internals = o.internals) :
    store.SameInternals (store.modifyObject object f) := by
  refine ⟨fun p => ?_, by simp, by simp, by simp, by simp, by simp, ?_, by simp, by simp⟩
  · rw [Store.modifyObject_objects, Heap.get_modify]
    split_ifs with heq
    · cases store.objects.get p with
      | none => rfl
      | some o => exact congrArg some (hf o)
    · rfl
  · unfold Store.sessionId
    rw [Store.modifyObject_sessions]

theorem modifySession (store : Store) (session : SessionRef) {f : Session → Session}
    (hf : ∀ s, (f s).id = s.id) : store.SameInternals (store.modifySession session f) := by
  refine ⟨fun p => by simp, by simp, by simp, by simp, by simp, by simp, ?_, by simp, by simp⟩
  funext p
  unfold Store.sessionId
  rw [Store.modifySession_sessions, Heap.get_modify]
  split_ifs with heq
  · cases store.sessions.get p with
    | none => rfl
    | some s => exact congrArg some (hf s)
  · rfl

section Steps

variable (store : Store) (reference : ReferenceRef) (object : ObjectRef) (session : SessionRef)

theorem countObject (amount : Int) : store.SameInternals (store.countObject object amount) :=
  modifyObject store object fun _ => rfl

theorem countSession (amount : Int) : store.SameInternals (store.countSession session amount) :=
  modifySession store session fun _ => rfl

theorem linkObject : store.SameInternals (store.linkObject reference object) :=
  modifyObject store object fun _ => rfl

theorem linkSession : store.SameInternals (store.linkSession reference session) :=
  modifySession store session fun _ => rfl

theorem unlinkObject : store.SameInternals (store.unlinkObject reference object) :=
  modifyObject store object fun _ => rfl

theorem unlinkSession : store.SameInternals (store.unlinkSession reference session) :=
  modifySession store session fun _ => rfl

theorem callocReference : store.SameInternals (store.callocReference object session) :=
  of_sessions rfl rfl rfl rfl rfl rfl rfl

theorem freeReference : store.SameInternals (store.freeReference reference) :=
  of_sessions rfl rfl rfl rfl rfl rfl rfl

theorem countExternal (amount : Int) :
    store.SameInternals (store.countExternal object session amount) :=
  (countObject store object amount).trans (countSession _ session amount)

theorem unlinkReference : store.SameInternals (store.unlinkReference reference object session) :=
  ((unlinkObject store reference object).trans (unlinkSession _ reference session)).trans
    (freeReference _ reference)

theorem dropReference (count : Int) :
    store.SameInternals (store.dropReference reference object session count) :=
  (unlinkReference store reference object session).trans (countExternal _ object session _)

theorem createReference : store.SameInternals (store.createReference object session) :=
  (((callocReference store object session).trans (linkObject _ _ object)).trans
    (linkSession _ _ session)).trans (countExternal _ object session 1)

end Steps

theorem countReference (store : Store) (reference : ReferenceRef) (amount : Int) :
    store.SameInternals (store.countReference reference amount) :=
  of_sessions rfl rfl rfl rfl rfl rfl rfl

theorem releaseReference (store : Store) (reference : ReferenceRef) (object : ObjectRef)
    (session : SessionRef) :
    store.SameInternals (store.releaseReference reference object session) := by
  have hcount := (countReference store reference (-1)).trans (countExternal _ object session (-1))
  unfold Store.releaseReference
  simp only
  split
  · exact hcount.trans (unlinkReference _ reference object session)
  · exact hcount

theorem objectDropReference (object : ObjectRef) (store : Store) (reference : ReferenceRef) :
    store.SameInternals (objectDropReference object store reference) := by
  unfold RedApid.objectDropReference
  split
  · exact of_sessions rfl rfl rfl rfl rfl rfl rfl
  · exact dropReference store reference object _ _

theorem foldl_objectDropReference (object : ObjectRef) (references : List ReferenceRef)
    (store : Store) :
    store.SameInternals (references.foldl (RedApid.objectDropReference object) store) := by
  induction references generalizing store with
  | nil => exact refl store
  | cons reference references ih => exact (objectDropReference object store reference).trans (ih _)

theorem objectAddExternalReference (calloc : Bool) (object : ObjectRef) (session : SessionRef)
    (store : Store) :
    store.SameInternals (objectAddExternalReference calloc object session store).2 := by
  unfold RedApid.objectAddExternalReference
  split
  · exact of_sessions rfl rfl rfl rfl rfl rfl rfl
  · split
    · exact (countReference store _ 1).trans (countExternal _ object session 1)
    · split
      · exact refl store
      · exact createReference store object session

-- A live object stays live and keeps its internals.
theorem get_eq (h : store.SameInternals other) {object : ObjectRef} {o : Object}
    (hget : store.objects.get object = some o) :
    ∃ o', other.objects.get object = some o' ∧ o'.internals = o.internals := by
  have := h.objects object
  rw [hget] at this
  exact Option.map_eq_some_iff.mp this

theorem get_eq_none (h : store.SameInternals other) {object : ObjectRef} :
    other.objects.get object = none ↔ store.objects.get object = none := by
  rw [← Option.map_eq_none_iff (f := Object.internals), h.objects object, Option.map_eq_none_iff]

-- A sum over internals stays the same.
theorem total (h : store.SameInternals other) (weight : ObjectRef → Object → Nat)
    (hweight : ∀ object o, weight object o.internals = weight object o) :
    other.objects.total weight = store.objects.total weight := by
  unfold Heap.total
  rw [h.next]
  refine Finset.sum_congr rfl fun object _ => ?_
  have hsame : ∀ o : Option Object,
      o.elim 0 (weight object) = (o.map Object.internals).elim 0 (weight object) := by
    rintro (_ | o)
    · rfl
    · exact (hweight object o).symm
  rw [hsame, h.objects object, ← hsame]

theorem depth (h : store.SameInternals other) : other.depth = store.depth :=
  h.total _ fun _ _ => rfl

end Store.SameInternals

end RedApid

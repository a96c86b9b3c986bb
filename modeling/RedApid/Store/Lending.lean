import RedApid.Store.Undo

namespace RedApid

open Memory

-- Only the session refers to the object, with a new entry. What the object holds has gained it.
structure Store.Lent (store created : Store) (session : SessionRef) (object : ObjectRef)
    (payload : Payload) : Prop where
  fresh : store.objects.get object = none
  new : ∃ id, created.objects.get object =
    some ⟨id, payload.type, 0, [store.references.next], 1, 0, payload⟩
  others : ∀ p, p ≠ object → created.objects.get p =
    (store.objects.get p).map (Object.gain payload.holds p)
  entry : created.references.get store.references.next = some ⟨object, session, 1⟩
  sessions : created.sessions = store.sessions.modify session fun s =>
    { s with
      externalReferences := s.externalReferences ++ [store.references.next]
      externalReferenceCount := s.externalReferenceCount + 1 }
  listed : object ∈ created.objectArray payload.type

section Create

variable {outcome : ObjectCreation} {payload : Payload} {store : Store} {session : SessionRef}
  {object : ObjectRef}

theorem objectCreateReferences_external (type : ObjectType) :
    objectCreateReferences outcome object type (some session) OBJECT_CREATE_FLAG_EXTERNAL store =
      let result := objectAddExternalReference outcome.calloc object session store
      if result.1 ≠ .success then result
      else inventoryAddObject outcome.append type object result.2 := by
  rfl

theorem Store.createReference_sessions (store : Store) (object : ObjectRef) (session : SessionRef) :
    (store.createReference object session).sessions = store.sessions.modify session fun s =>
      { s with
        externalReferences := s.externalReferences ++ [store.references.next]
        externalReferenceCount := s.externalReferenceCount + 1 } := by
  unfold createReference countExternal countSession countObject linkSession linkObject callocReference
  simp only [modifySession_sessions, modifyObject_sessions, Heap.modify_modify]

theorem createObject_lent (hholds : payload.holds = [])
    (hok : (store.createObject outcome payload (some session) OBJECT_CREATE_FLAG_EXTERNAL).1 =
      .ok object) :
    store.Lent (store.createObject outcome payload (some session) OBJECT_CREATE_FLAG_EXTERNAL).2
      session object payload := by
  obtain ⟨rfl, -, hcreated⟩ := createObject_ok hok
  have hget : (store.callocObject payload).2.objects.get store.objects.next =
      some ⟨0, payload.type, 0, [], 0, 0, payload⟩ := store.objects.get_alloc_next _
  have hothers : ∀ p, p ≠ store.objects.next →
      (store.createObject outcome payload (some session) OBJECT_CREATE_FLAG_EXTERNAL).2.objects.get p
        = store.objects.get p :=
    fun p hp => createObject_get_ne outcome payload (some session) OBJECT_CREATE_FLAG_EXTERNAL hp
  generalize (store.createObject outcome payload (some session) OBJECT_CREATE_FLAG_EXTERNAL).2 =
    created at hcreated hothers ⊢
  rw [objectCreateReferences_external] at hcreated
  by_cases hsession : store.sessions.get session = none
  · have hfreed : (store.callocObject payload).2.objects.get store.objects.next = none ∨
        (store.callocObject payload).2.sessions.get session = none := Or.inr hsession
    unfold objectAddExternalReference at hcreated
    rw [if_pos hfreed] at hcreated
    cases hcreated
  rw [objectAddExternalReference_of_new hget rfl hsession] at hcreated
  cases hcalloc : outcome.calloc with
  | false =>
      rw [hcalloc] at hcreated
      cases hcreated
  | true =>
      rw [hcalloc] at hcreated
      simp only [if_true, ne_eq, not_true_eq_false, if_false] at hcreated
      have hentered : ((store.callocObject payload).2.createReference store.objects.next
          session).objects.get store.objects.next =
            some ⟨0, payload.type, 0, [store.references.next], 1, 0, payload⟩ := by
        simp [Store.createReference, Store.countExternal, Store.countSession, Store.countObject,
          Store.linkSession, Store.linkObject, Store.callocReference, hget]
        rfl
      have hreference : ((store.callocObject payload).2.createReference store.objects.next
          session).references.get store.references.next =
            some ⟨store.objects.next, session, 1⟩ := by
        simp [Store.createReference, Store.countExternal, Store.countSession, Store.countObject,
          Store.linkSession, Store.linkObject, Store.callocReference]
        exact Heap.get_alloc_next _ _
      have hsessions :=
        (store.callocObject payload).2.createReference_sessions store.objects.next session
      obtain ⟨-, hframe, hreferences, -, -, hadded, -⟩ := inventoryAddObject_frame outcome.append
        payload.type store.objects.next
          ((store.callocObject payload).2.createReference store.objects.next session)
      obtain ⟨-, hnamed⟩ := inventoryAddObject_live outcome.append payload.type hentered
      rw [hcreated] at hframe hreferences hadded hnamed
      refine ⟨Heap.get_eq_none_of_next_le store.objects (Nat.le_refl _), hnamed rfl, fun p hp => ?_,
        hreferences ▸ hreference, hframe.trans hsessions, ?_⟩
      · rw [hothers p hp, hholds]
        exact Option.map_id'.symm
      · rw [hadded rfl, if_pos rfl]
        exact List.mem_append_right _ List.mem_cons_self

end Create

section Items

variable {store created : Store} {session : SessionRef} {object : ObjectRef} {items : List ObjectRef}

theorem Object.gain_concat (o : Object) (hold : Hold) (holds : List Hold) (p : ObjectRef) :
    o.gain (holds ++ [hold]) p =
      if p = hold.object then hold.retain (o.gain holds p) else o.gain holds p := by
  rw [Object.gain_perm (List.perm_append_singleton hold holds), Object.gain_cons]
  split_ifs
  · unfold Hold.retain gain
    cases hold.locked <;> simp [Nat.add_right_comm]
  · rfl

-- An item that is appended is another object, which the list locks.
theorem Store.Lent.appendItem (h : store.Lent created session object (.list items))
    {item : ObjectRef} (hne : item ≠ object) :
    store.Lent (((lockedHold item).acquire created).appendItem object item) session object
      (.list (items ++ [item])) := by
  obtain ⟨id, hnew⟩ := h.new
  have htables := Store.SameTables.acquire (lockedHold item) created
  have hkept : ((lockedHold item).acquire created).objects.get object =
      created.objects.get object := by
    rw [Hold.acquire_get, hnew, Option.map_some]
    exact congrArg some (if_neg hne.symm)
  refine ⟨h.fresh, ⟨id, ?_⟩, fun p hp => ?_, ?_, ?_, ?_⟩
  · unfold Store.appendItem
    rw [Store.modifyObject_objects, Heap.get_modify_self, hkept, hnew]
    rfl
  · unfold Store.appendItem
    rw [Store.modifyObject_objects, Heap.get_modify_ne hp, Hold.acquire_get, h.others p hp,
      Option.map_map]
    refine congrArg (fun f => (store.objects.get p).map f) (funext fun o => ?_)
    change _ = o.gain ((items ++ [item]).map lockedHold) p
    rw [List.map_append]
    exact (o.gain_concat (lockedHold item) (items.map lockedHold) p).symm
  · unfold Store.appendItem
    rw [Store.modifyObject_references, htables.references]
    exact h.entry
  · unfold Store.appendItem
    rw [Store.modifyObject_sessions, htables.sessions]
    exact h.sessions
  · unfold Store.appendItem
    rw [Store.modifyObject_objectArray, htables.objectArray]
    exact h.listed

end Items

section Remove

variable {array : ArrayRemove} {store created : Store} {session : SessionRef} {object : ObjectRef}
  {payload : Payload} {holds : List Hold}

-- What is released is still referenced, so nothing is destroyed.
theorem releaseAll_tables (hlast : ∀ hold ∈ holds, ∃ o,
      store.objects.get hold.object = some o ∧ o.Outlasts holds hold.object) :
    store.SameTables (releaseAll array holds store) := by
  induction holds generalizing store with
  | nil => exact .refl store
  | cons hold holds ih =>
      obtain ⟨hreleased, hrest⟩ := Object.Outlasts.release array hlast
      change store.SameTables (releaseAll array holds (hold.release array store))
      rw [hreleased]
      exact (Store.SameTables.drop hold store).trans (ih hrest)

-- The entry is the only one for the session.
theorem Store.Lent.findReference (h : store.Lent created session object payload) :
    created.findReference object session = some store.references.next := by
  obtain ⟨id, hnew⟩ := h.new
  simp only [Store.findReference, hnew, Option.bind_some, List.find?_cons, h.entry, Option.map_some,
    beq_self_eq_true]

-- The entry is taken out again, the object is left with no reference.
theorem Store.Lent.releaseReference (h : store.Lent created session object payload)
    (hcounted : store.Counted) :
    let released := created.releaseReference store.references.next object session
    (∃ id, released.objects.get object = some ⟨id, payload.type, 0, [], 0, 0, payload⟩) ∧
      (∀ p, p ≠ object → released.objects.get p = created.objects.get p) ∧
      released.sessions = store.sessions ∧ released.objectArray = created.objectArray := by
  obtain ⟨id, hnew⟩ := h.new
  have hreleased : created.releaseReference store.references.next object session =
      ((created.countReference store.references.next (-1)).countExternal object session
        (-1)).unlinkReference store.references.next object session := by
    unfold Store.releaseReference
    refine if_pos ?_
    simp [Store.countReference, Store.countExternal, Store.countSession, Store.countObject, h.entry]
  rw [hreleased]
  refine ⟨⟨id, ?_⟩, fun p hp => ?_, ?_, ?_⟩
  · simp [Store.countReference, Store.countExternal, Store.countSession, Store.countObject,
      Store.unlinkReference, Store.unlinkObject, Store.unlinkSession, Store.freeReference, hnew]
  · simp [Store.countReference, Store.countExternal, Store.countSession, Store.countObject,
      Store.unlinkReference, Store.unlinkObject, Store.unlinkSession, Store.freeReference,
      Heap.get_modify_ne hp]
  · simp only [Store.countReference, Store.countExternal, Store.countSession, Store.countObject,
      Store.unlinkReference, Store.unlinkObject, Store.unlinkSession, Store.freeReference,
      Store.modifySession_sessions, Store.modifyObject_sessions, h.sessions, Heap.modify_modify]
    cases hs : store.sessions.get session with
    | none => exact Heap.modify_of_none hs _
    | some s =>
        have hnot : store.references.next ∉ s.externalReferences := by
          intro hmem
          obtain ⟨e, he, -⟩ := (hcounted.linked.sessions.mem_iff session s hs _).mp hmem
          rw [Heap.get_eq_none_of_next_le _ (Nat.le_refl _)] at he
          cases he
        have hsame := @Heap.modify_congr_of_get _ store.sessions session s
          (fun s => { s with
            externalReferences :=
              (s.externalReferences ++ [store.references.next]).erase store.references.next
            externalReferenceCount := s.externalReferenceCount + 1 + -1 }) (fun s => s) hs (by
          rw [List.erase_append_right _ hnot, List.erase_cons_head, List.append_nil,
            Int.add_neg_cancel_right])
        exact hsame.trans (Heap.modify_id _ _)
  · simp [Store.countReference, Store.countExternal, Store.countSession, Store.countObject,
      Store.unlinkReference, Store.unlinkObject, Store.unlinkSession, Store.freeReference]

-- The object goes together with everything that it has gained.
theorem Store.Lent.remove (h : store.Lent created session object payload)
    (hcounted : store.Counted)
    (hreferenced : ∀ hold ∈ payload.holds, ∃ o, store.objects.get hold.object = some o ∧
      o.Referenced) :
    store.SameObjects (objectRemoveExternalReference array object session created) ∧
      (objectRemoveExternalReference array object session created).sessions = store.sessions := by
  obtain ⟨id, hnew⟩ := h.new
  obtain ⟨⟨id', hleft⟩, hothers, hsessions, harray⟩ := h.releaseReference hcounted
  have hremoved : objectRemoveExternalReference array object session created =
      (created.releaseReference store.references.next object session).remove array object := by
    unfold objectRemoveExternalReference
    rw [hnew]
    dsimp only
    rw [if_neg (by decide), h.findReference]
    dsimp only
    rw [if_pos ⟨rfl, by decide⟩]
  generalize created.releaseReference store.references.next object session = released at *
  obtain ⟨i, -, hremove⟩ := @Store.remove_unreferenced array released _ _ hleft rfl
    (harray ▸ h.listed)
  rw [hremoved, hremove]
  have hlast : ∀ hold ∈ payload.holds, ∃ o,
      released.objects.get hold.object = some o ∧ o.Outlasts payload.holds hold.object := by
    intro hold hmem
    obtain ⟨o, ho, hreferenced⟩ := hreferenced hold hmem
    have hne : hold.object ≠ object := by
      intro hsame
      rw [hsame, h.fresh] at ho
      cases ho
    refine ⟨o.gain payload.holds hold.object, ?_, hreferenced.outlasts _ _⟩
    rw [hothers _ hne, h.others _ hne, ho]
    rfl
  constructor
  · intro p
    change ((releaseAll array payload.holds released).objects.free object).get p = _
    by_cases hp : p = object
    · rw [hp, Heap.get_free_self, h.fresh]
    · rw [Heap.get_free_ne hp, releaseAll_get array hlast, hothers p hp, h.others p hp,
        Option.map_map]
      refine (congrArg (fun f => (store.objects.get p).map f) (funext fun o => ?_)).trans
        Option.map_id'
      exact o.lose_gain payload.holds p
  · exact (releaseAll_tables hlast).sessions.trans hsessions

end Remove

end RedApid

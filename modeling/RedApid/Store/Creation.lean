import RedApid.Store.Exactness

namespace RedApid

open Memory

section Frame

variable {store : Store}

theorem inventoryAddObject_fails_iff (append : Option APIError) (type : ObjectType)
    (object : ObjectRef) (store : Store) :
    (inventoryAddObject append type object store).1 ≠ .success ↔
      (∀ id, id ≠ 0 → store.objectIdInUse id = true) ∨ append ≠ none := by
  unfold inventoryAddObject inventoryGetNextObjectId
  rw [← nextFreeId_eq_none_iff store.objectIdInUse store.nextObjectId]
  cases hfound : nextFreeId store.objectIdInUse store.nextObjectId with
  | mk found next =>
      cases found with
      | none => simp
      | some id =>
          cases append with
          | none => simp
          | some code => simpa using code.property

-- The object gets its ID and is appended to the array of its type, or the arrays stay as
-- they are.
theorem inventoryAddObject_frame (append : Option APIError) (type : ObjectType)
    (object : ObjectRef) (store : Store) :
    let result := inventoryAddObject append type object store
    result.2.objectType = store.objectType ∧ result.2.sessions = store.sessions ∧
      result.2.references = store.references ∧ result.2.sessionArray = store.sessionArray ∧
      result.2.stockStrings = store.stockStrings ∧
      (result.1 = .success → ∀ other, result.2.objectArray other =
        if other = type then store.objectArray type ++ [object] else store.objectArray other) ∧
      (result.1 ≠ .success → result.2.objectArray = store.objectArray) := by
  simp only
  unfold inventoryAddObject inventoryGetNextObjectId
  cases hfound : nextFreeId store.objectIdInUse store.nextObjectId with
  | mk found next =>
      cases found with
      | none => exact ⟨rfl, rfl, rfl, rfl, rfl, fun h => (nomatch h), fun _ => rfl⟩
      | some id =>
          have htype : (Store.modifyObject { store with nextObjectId := next } object
              fun o => { o with id }).objectType = store.objectType :=
            Store.modifyObject_objectType _ object (by intro _; rfl)
          cases append with
          | some code =>
              exact ⟨htype, by simp, by simp, by simp, by simp, fun h => absurd h code.property,
                by simp⟩
          | none =>
              refine ⟨htype, by simp [Store.setObjectArray], by simp [Store.setObjectArray],
                by simp [Store.setObjectArray], by simp [Store.setObjectArray],
                fun _ other => ?_, fun h => absurd rfl h⟩
              simp [Store.setObjectArray_objectArray]

theorem objectCreateReferences_frame (outcome : ObjectCreation) (object : ObjectRef)
    (type : ObjectType) (session : Option SessionRef) (flags : UInt32) (store : Store) :
    let result := objectCreateReferences outcome object type session flags store
    result.2.objectType = store.objectType ∧
      (result.1 = .success → ∀ other, result.2.objectArray other =
        if other = type then store.objectArray type ++ [object] else store.objectArray other) ∧
      (result.1 ≠ .success → result.2.objectArray = store.objectArray) := by
  simp only
  unfold objectCreateReferences
  have hinternal : (if flags &&& OBJECT_CREATE_FLAG_INTERNAL ≠ 0 then
      objectAddInternalReference object store else store).objectType = store.objectType ∧
      (if flags &&& OBJECT_CREATE_FLAG_INTERNAL ≠ 0 then
        objectAddInternalReference object store else store).objectArray = store.objectArray := by
    split
    · exact ⟨store.modifyObject_objectType object fun _ => rfl, by simp [objectAddInternalReference]⟩
    · exact ⟨rfl, rfl⟩
  generalize (if flags &&& OBJECT_CREATE_FLAG_INTERNAL ≠ 0 then
      objectAddInternalReference object store else store) = acquired at hinternal ⊢
  have hsame := objectCreateExternal_sameInternals outcome object session flags acquired
  have htype := hsame.objectType.trans hinternal.1
  have harray := hsame.objectArray.trans hinternal.2
  simp only
  split
  · rename_i hcode
    exact ⟨htype, fun h => absurd h hcode, fun _ => harray⟩
  · have hlocked : (if flags &&& OBJECT_CREATE_FLAG_LOCKED ≠ 0 then
        objectLock object (objectCreateExternal outcome object session flags acquired).2
        else (objectCreateExternal outcome object session flags acquired).2).objectType =
          store.objectType ∧
        (if flags &&& OBJECT_CREATE_FLAG_LOCKED ≠ 0 then
          objectLock object (objectCreateExternal outcome object session flags acquired).2
          else (objectCreateExternal outcome object session flags acquired).2).objectArray =
            store.objectArray := by
      split
      · exact ⟨(Store.modifyObject_objectType _ object (by intro _; rfl)).trans htype,
          by simpa [objectLock] using harray⟩
      · exact ⟨htype, harray⟩
    generalize (if flags &&& OBJECT_CREATE_FLAG_LOCKED ≠ 0 then
        objectLock object (objectCreateExternal outcome object session flags acquired).2
        else (objectCreateExternal outcome object session flags acquired).2) = locked at hlocked ⊢
    obtain ⟨htype', -, -, -, -, hsuccess, hfailure⟩ :=
      inventoryAddObject_frame outcome.append type object locked
    rw [hlocked.2] at hsuccess hfailure
    exact ⟨htype'.trans hlocked.1, hsuccess, hfailure⟩

end Frame

section Preserved

-- What only depends on the internal references, the payloads and the arrays of the objects, and
-- is there again after an object is destroyed.
structure Preserved (array : ArrayRemove) (P : Store → Prop) : Prop where
  congr : ∀ store other : Store, other.objects = store.objects →
    other.objectArray = store.objectArray → P store → P other
  sameInternals : ∀ store other : Store, store.SameInternals other → P store → P other
  remove : ∀ (store : Store) (object : ObjectRef), P store → P (store.remove array object)

namespace Preserved

variable {array : ArrayRemove} {P : Store → Prop} {store : Store}

theorem removeUnreferenced (hP : Preserved array P) (object : ObjectRef) (h : P store) :
    P (store.removeUnreferenced array object) := by
  unfold Store.removeUnreferenced
  split
  · exact hP.congr store _ rfl rfl h
  · split
    · exact hP.remove store object h
    · exact h

theorem removeExternalReference (hP : Preserved array P) (object : ObjectRef) (session : SessionRef)
    (h : P store) : P (objectRemoveExternalReference array object session store) := by
  unfold objectRemoveExternalReference
  split
  · exact hP.congr store _ rfl rfl h
  · split
    · exact h
    · split
      · exact h
      · rename_i reference _
        have hreleased := hP.sameInternals _ _ (.releaseReference store reference object session) h
        simp only
        split
        · exact hP.remove _ object hreleased
        · exact hreleased

theorem objectRelease (hP : Preserved array P) (object : ObjectRef) (session : SessionRef)
    (h : P store) : P (objectRelease array object session store).2 := by
  unfold RedApid.objectRelease
  split
  · exact hP.congr store _ rfl rfl h
  · split
    · exact h
    · exact hP.removeExternalReference object session h

theorem removeExternalReferences (hP : Preserved array P) (rounds : Nat) (session : SessionRef)
    (h : P store) : P (removeExternalReferences array rounds session store) := by
  induction rounds generalizing store with
  | zero =>
      unfold RedApid.removeExternalReferences
      split
      · exact hP.congr store _ rfl rfl h
      · exact h
      · exact hP.congr store _ rfl rfl h
  | succ rounds ih =>
      unfold RedApid.removeExternalReferences
      split
      · exact hP.congr store _ rfl rfl h
      · exact h
      · refine ih ?_
        unfold sessionDropReference
        split
        · exact hP.congr store _ rfl rfl h
        · exact hP.removeUnreferenced _
            (hP.sameInternals _ _ (.dropReference store _ _ session _) h)

theorem sessionRemoveExternalReferences (hP : Preserved array P) (session : SessionRef)
    (h : P store) : P (sessionRemoveExternalReferences array session store) := by
  unfold RedApid.sessionRemoveExternalReferences
  split
  · exact hP.congr store _ rfl rfl h
  · exact hP.removeExternalReferences _ session h

theorem sessionExpireHelper (hP : Preserved array P) (session : SessionRef) (h : P store) :
    P (sessionExpireHelper array session store) := by
  have hremoved := hP.sessionRemoveExternalReferences session h
  unfold RedApid.sessionExpireHelper inventoryRemoveSession
  simp only
  split
  · exact hremoved
  · have hdestroyed := hP.sessionRemoveExternalReferences session hremoved
    exact hP.congr (RedApid.sessionRemoveExternalReferences array session _) _ rfl rfl hdestroyed

end Preserved

end Preserved

section Exact

variable {store : Store}

theorem Store.Exact.congr {other : Store} (h : store.Exact)
    (harray : other.objectArray = store.objectArray)
    (htype : other.objectType = store.objectType) : other.Exact := by
  rw [Store.exact_iff, harray, htype]
  exact store.exact_iff.mp h

theorem Store.Exact.sameInternals {other : Store} (h : store.Exact)
    (hsame : store.SameInternals other) : other.Exact :=
  h.congr hsame.objectArray hsame.objectType

theorem Store.Exact.modifyObject (h : store.Exact) (object : ObjectRef) {f : Object → Object}
    (hf : ∀ o, (f o).type = o.type) : (store.modifyObject object f).Exact :=
  h.congr (by simp) (store.modifyObject_objectType object hf)

theorem Store.callocObject_objectType (store : Store) (payload : Payload) (p : ObjectRef) :
    (store.callocObject payload).2.objectType p =
      if p = store.objects.next then some payload.type else store.objectType p := by
  unfold objectType callocObject
  rw [Heap.get_alloc]
  split_ifs <;> rfl

theorem Store.objectType_next (store : Store) : store.objectType store.objects.next = none := by
  unfold objectType
  rw [Heap.get_eq_none_of_next_le _ (Nat.le_refl _)]
  rfl

theorem createObject_exact (outcome : ObjectCreation) (payload : Payload)
    (session : Option SessionRef) (flags : UInt32) (h : store.Exact) :
    (store.createObject outcome payload session flags).2.Exact := by
  obtain ⟨hnodup, hmem⟩ := store.exact_iff.mp h
  have hnew : ∀ type, store.objects.next ∉ store.objectArray type := by
    intro type hp
    have := (hmem type _).mp hp
    rw [store.objectType_next] at this
    cases this
  -- without the new object the types are those from before
  have hfreed : ∀ other : Store, other.objectArray = store.objectArray →
      other.objectType = (store.callocObject payload).2.objectType →
      (other.freeMemory store.objects.next).Exact := by
    intro other harray htype
    refine h.congr harray (funext fun p => ?_)
    have hfree : (other.freeMemory store.objects.next).objectType p =
        if p = store.objects.next then none else other.objectType p := by
      unfold Store.objectType Store.freeMemory
      rw [Heap.get_free]
      split_ifs <;> rfl
    rw [hfree, htype, store.callocObject_objectType]
    split_ifs with hp
    · rw [hp, store.objectType_next]
    · rfl
  by_cases hvalid : ValidFlags session flags
  · obtain ⟨htype, hsuccess, hfailure⟩ := objectCreateReferences_frame outcome store.objects.next
      payload.type session flags (store.callocObject payload).2
    rw [createObject_of_valid outcome payload store hvalid]
    simp only
    split
    · rename_i hcode
      rw [Store.exact_iff, htype]
      simp only [hsuccess hcode, store.callocObject_objectType]
      refine ⟨fun type => ?_, fun type p => ?_⟩
      · split
        · exact (hnodup payload.type).append (List.nodup_singleton _)
            (List.disjoint_singleton.mpr (hnew payload.type))
        · exact hnodup type
      · by_cases hp : p = store.objects.next
        · subst hp
          rw [if_pos rfl]
          by_cases htype : type = payload.type
          · simp [htype]
          · have hne : ¬ payload.type = type := fun heq => htype heq.symm
            simp only [if_neg htype, Option.some.injEq, hne, iff_false]
            exact hnew type
        · rw [if_neg hp, ← hmem]
          by_cases htype : type = payload.type
          · rw [if_pos htype, htype, List.mem_append, List.mem_singleton, or_iff_left hp]
            rfl
          · rw [if_neg htype]
            rfl
    · rename_i hcode
      exact hfreed _ (hfailure hcode) htype
  · rw [createObject_of_invalid outcome payload store hvalid]
    exact hfreed _ rfl rfl

theorem Store.Exact.unlock (h : store.Exact) (hold : Hold) : (hold.unlock store).Exact :=
  h.congr (hold.unlock_objectArray store) (hold.unlock_objectType store)

theorem sessionCreate_frame (outcome : SessionCreation) (lifetime : UInt32) (store : Store) :
    (sessionCreate outcome lifetime store).2.objects = store.objects ∧
      (sessionCreate outcome lifetime store).2.objectArray = store.objectArray ∧
      (sessionCreate outcome lifetime store).2.references = store.references ∧
      (sessionCreate outcome lifetime store).2.stockStrings = store.stockStrings ∧
      (sessionCreate outcome lifetime store).2.destroyed = store.destroyed := by
  have hadded : ∀ session store, (inventoryAddSession outcome.append session store).2.objects =
        store.objects ∧
      (inventoryAddSession outcome.append session store).2.objectArray = store.objectArray ∧
      (inventoryAddSession outcome.append session store).2.references = store.references ∧
      (inventoryAddSession outcome.append session store).2.stockStrings = store.stockStrings ∧
      (inventoryAddSession outcome.append session store).2.destroyed = store.destroyed := by
    intro session store
    unfold inventoryAddSession inventoryGetNextSessionId
    generalize nextFreeId _ _ = found
    obtain ⟨_ | id, next⟩ := found
    · exact ⟨rfl, rfl, rfl, rfl, rfl⟩
    · cases outcome.append <;> simp
  unfold sessionCreate
  split
  · exact ⟨rfl, rfl, rfl, rfl, rfl⟩
  split
  · exact ⟨rfl, rfl, rfl, rfl, rfl⟩
  cases outcome.timerCreate with
  | some code => exact ⟨rfl, rfl, rfl, rfl, rfl⟩
  | none =>
      cases outcome.timerConfigure with
      | some code => exact ⟨rfl, rfl, rfl, rfl, rfl⟩
      | none =>
          simp only
          split
          · exact hadded _ _
          · exact hadded _ _

theorem Store.Exact.preserved : Preserved .exact Store.Exact where
  congr store other hobjects harray h :=
    h.congr harray (by unfold Store.objectType; rw [hobjects])
  sameInternals _ _ hsame h := h.sameInternals hsame
  remove _ object h := h.remove object

theorem Operation.exact (operation : Operation) (h : store.Exact) :
    (operation.run .exact store).Exact := by
  cases operation with
  | sessionCreate outcome lifetime =>
      obtain ⟨hobjects, harray, -⟩ := sessionCreate_frame outcome lifetime store
      exact Store.Exact.preserved.congr store _ hobjects harray h
  | addExternalReference calloc object session =>
      exact h.sameInternals (.objectAddExternalReference calloc object session store)
  | removeExternalReference object session =>
      exact Store.Exact.preserved.removeExternalReference object session h
  | release object session => exact Store.Exact.preserved.objectRelease object session h
  | addInternalReference object => exact h.modifyObject object fun _ => rfl
  | removeInternalReference object => exact h.release object
  | sessionExpire session => exact Store.Exact.preserved.sessionExpireHelper session h
  | sessionHandleExpire session => exact Store.Exact.preserved.sessionExpireHelper session h
  | lock object => exact h.modifyObject object fun _ => rfl
  | unlock object => exact h.unlock (lockedHold object)
  | setPayload object payload => exact h.modifyObject object (by intro _; rfl)

theorem exact_of_steps (h : Relation.ReflTransGen (InventoryStep .exact) Store.init store) :
    store.Exact := by
  induction h with
  | refl =>
      refine ⟨fun _ => List.nodup_nil, fun _ _ => ?_⟩
      simp [Store.init]
  | tail _ hstep ih =>
      cases hstep with
      | operation operation => exact operation.exact ih
      | createObject outcome payload session flags =>
          exact createObject_exact outcome payload session flags ih

end Exact

section Fresh

-- What a search for the next ID promises if the IDs `ids` are in use.
structure FreshId (ids : List UInt16) (noFreeId : APIE) (result : Except APIE UInt16) : Prop where
  ok_iff : (∃ id, result = .ok id) ↔ ids.length < UINT16_MAX
  fresh : ∀ id, result = .ok id → id ≠ 0 ∧ id ∉ ids
  full : ∀ code, result = .error code → code = noFreeId ∧ ∀ id, id ≠ 0 → id ∈ ids

theorem freshId_of_nextFreeId {ids : List UInt16} {inUse : UInt16 → Bool} (next : UInt16)
    {noFreeId : APIE} {result : Except APIE UInt16} (hnodup : ids.Nodup) (hzero : 0 ∉ ids)
    (hinUse : ∀ id, inUse id = true ↔ id ∈ ids)
    (hresult : result = match (nextFreeId inUse next).1 with
      | none => .error noFreeId
      | some id => .ok id) : FreshId ids noFreeId result := by
  have hnone := nextFreeId_eq_none_iff inUse next
  simp only [hinUse] at hnone
  subst hresult
  cases hfound : (nextFreeId inUse next).1 with
  | none =>
      have hfull := hnone.mp hfound
      refine ⟨?_, fun id h => (nomatch h), fun code h => ?_⟩
      · rw [← exists_free_iff hnodup hzero]
        constructor
        · rintro ⟨id, h⟩
          cases h
        · rintro ⟨id, hid, hfree⟩
          exact absurd (hfull id hid) hfree
      · cases h
        exact ⟨rfl, hfull⟩
  | some id =>
      obtain ⟨hid, hfree⟩ := nextFreeId_some hfound
      have hfree : id ∉ ids := by
        rw [← hinUse, hfree]
        simp
      refine ⟨⟨fun _ => (exists_free_iff hnodup hzero).mp ⟨id, hid, hfree⟩, fun _ => ⟨id, rfl⟩⟩,
        fun id' h => ?_, fun code h => (nomatch h)⟩
      cases h
      exact ⟨hid, hfree⟩

theorem inventoryGetNextObjectId_fresh (store : Store) (hnodup : store.objectIds.Nodup)
    (hzero : 0 ∉ store.objectIds) :
    FreshId store.objectIds .noFreeObjectId (inventoryGetNextObjectId store).1 := by
  refine freshId_of_nextFreeId store.nextObjectId hnodup hzero store.objectIdInUse_iff ?_
  unfold inventoryGetNextObjectId
  cases nextFreeId store.objectIdInUse store.nextObjectId with
  | mk found next => cases found <;> rfl

theorem inventoryGetNextSessionId_fresh (store : Store) (hnodup : store.sessionIds.Nodup)
    (hzero : 0 ∉ store.sessionIds) :
    FreshId store.sessionIds .noFreeSessionId (inventoryGetNextSessionId store).1 := by
  refine freshId_of_nextFreeId store.nextSessionId hnodup hzero
    store.sessionIdInUse_iff ?_
  unfold inventoryGetNextSessionId
  cases nextFreeId store.sessionIdInUse store.nextSessionId with
  | mk found next => cases found <;> rfl

theorem Store.Identified.eq_of_objectId {store : Store} (h : store.Identified) {p q : ObjectRef}
    {id : ObjectID} (hp : p ∈ store.listed) (hq : q ∈ store.listed)
    (hid : store.objectId p = some id) (hid' : store.objectId q = some id) : p = q := by
  by_contra hne
  have hpairwise := List.pairwise_filterMap.mp h.object_nodup
  have hdistinct := @List.Pairwise.forall _ _ _ ⟨fun _ _ hab x hx y hy => (hab y hy x hx).symm⟩
    hpairwise _ hp _ hq hne
  exact hdistinct _ hid _ hid' rfl

-- All live objects are told apart by their IDs.
def Store.DistinctIds (store : Store) : Prop :=
  ∀ p o, store.objects.get p = some o → o.id ≠ 0 ∧
    ∀ q o', store.objects.get q = some o' → o'.id = o.id → q = p

theorem Store.Identified.distinctIds {store : Store} (h : store.Identified) (hexact : store.Exact) :
    store.DistinctIds := by
  have hlisted : ∀ p o, store.objects.get p = some o →
      p ∈ store.listed ∧ store.objectId p = some o.id := by
    intro p o ho
    refine ⟨List.mem_flatMap.mpr ⟨o.type, ?_, (hexact.mem_iff o.type p).mpr ⟨o, ho, rfl⟩⟩, ?_⟩
    · cases o.type <;> decide
    · simp [Store.objectId, ho]
  intro p o ho
  obtain ⟨hp, hid⟩ := hlisted p o ho
  refine ⟨fun hzero => h.object_ne_zero ?_, fun q o' ho' hsame => ?_⟩
  · rw [← hzero]
    exact List.mem_filterMap.mpr ⟨p, hp, hid⟩
  · obtain ⟨hq, hid'⟩ := hlisted q o' ho'
    rw [hsame] at hid'
    exact h.eq_of_objectId hq hp hid' hid

end Fresh

end RedApid

import RedApid.Store.Staleness
import RedApid.Store.Undo

namespace RedApid

open Memory Search

section Steps

variable {store other : Store}

-- No object is destroyed inside the removal of an object that stands behind it in the same array.
def Operation.Meets (store : Store) : Operation → Prop
  | .removeExternalReference object session | .release object session =>
      ¬store.ReleaseCrosses object session
  | .removeInternalReference object => ¬Crosses [.drop (plainHold object)] store
  | .sessionExpire session | .sessionHandleExpire session => ¬ExpireCrosses session store
  | _ => True

-- The operations and creations of all objects, where no creation fails behind its new external
-- reference.
inductive OrderedStep : Store → Store → Prop where
  | operation (store : Store) (operation : Operation) (meets : operation.Meets store) :
      OrderedStep store (operation.run .byIndex store)
  | createObject (store : Store) (outcome : ObjectCreation) (payload : Payload)
      (session : Option SessionRef) (flags : UInt32)
      (meets : ¬store.LeavesEntry outcome session flags) :
      OrderedStep store (store.createObject outcome payload session flags).2

theorem Operation.run_byIndex {operation : Operation} (hcounted : store.Counted)
    (hmeets : operation.Meets store) : operation.run .byIndex store = operation.run .exact store := by
  cases operation with
  | removeExternalReference object session => exact objectRemoveExternalReference_byIndex hmeets
  | release object session => exact congrArg Prod.snd (objectRelease_byIndex hmeets)
  | removeInternalReference object => exact Hold.release_byIndex hmeets
  | sessionExpire session => exact sessionExpireHelper_byIndex hcounted hmeets
  | sessionHandleExpire session => exact sessionExpireHelper_byIndex hcounted hmeets
  | sessionCreate | addExternalReference | addInternalReference | lock | unlock | setPayload => rfl

theorem Store.Counted.createUnlessEntry (outcome : ObjectCreation) (payload : Payload)
    (session : Option SessionRef) (flags : UInt32) (h : store.Counted)
    (hnot : ¬store.LeavesEntry outcome session flags) :
    (store.createObject outcome payload session flags).2.Counted := by
  rcases hresult : (store.createObject outcome payload session flags).1 with code | object
  · refine h.createObject outcome payload session flags fun r e he => ?_
    have hcases := createObject_failed_cases outcome payload session flags fun object hok => by
      rw [hresult] at hok
      cases hok
    obtain ⟨-, -, hreferences, -⟩ := hcases.resolve_left fun hleaves => hnot hleaves.1
    rw [hreferences] at he
    rw [createObject_get_ne outcome payload session flags (h.references_ne_next r e he)]
    exact h.linked.objects.owner_live r e he
  · exact createObject_counted h hresult

-- What one step preserves.
theorem OrderedStep.keeps (hstep : OrderedStep store other)
    (h : store.Counted ∧ store.Identified ∧ store.Exact) :
    other.Counted ∧ other.Identified ∧ other.Exact := by
  obtain ⟨hcounted, hidentified, hexact⟩ := h
  cases hstep with
  | operation operation hmeets =>
      rw [operation.run_byIndex hcounted hmeets]
      exact ⟨operation.counted hcounted, operation.identified hidentified, operation.exact hexact⟩
  | createObject outcome payload session flags hmeets =>
      exact ⟨hcounted.createUnlessEntry outcome payload session flags hmeets,
        createObject_identified outcome payload session flags hidentified,
        createObject_exact outcome payload session flags hexact⟩

theorem distinctIds_of_orderedSteps (h : Relation.ReflTransGen OrderedStep Store.init store) :
    store.DistinctIds := by
  have hkept : store.Counted ∧ store.Identified ∧ store.Exact := by
    induction h with
    | refl => exact ⟨.init, @identified_of_steps .byIndex _ .refl, exact_of_steps .refl⟩
    | tail _ hstep ih => exact hstep.keeps ih
  exact hkept.2.1.distinctIds hkept.2.2

-- The next IDs are fresh, and there is one as long as not all are in use. In every reachable
-- state the objects in the arrays and the sessions have distinct IDs, and so have all live
-- objects as long as every step meets its condition.
theorem ids_fresh (array : ArrayRemove) :
    (∀ store : Store, store.objectIds.Nodup → 0 ∉ store.objectIds →
      FreshId store.objectIds .noFreeObjectId (inventoryGetNextObjectId store).1) ∧
    (∀ store : Store, store.sessionIds.Nodup → 0 ∉ store.sessionIds →
      FreshId store.sessionIds .noFreeSessionId (inventoryGetNextSessionId store).1) ∧
    (∀ store, Relation.ReflTransGen (InventoryStep array) Store.init store →
      store.objectIds.Nodup ∧ 0 ∉ store.objectIds ∧ store.sessionIds.Nodup ∧
        0 ∉ store.sessionIds) ∧
    ∀ store, Relation.ReflTransGen OrderedStep Store.init store → store.DistinctIds := by
  refine ⟨inventoryGetNextObjectId_fresh, inventoryGetNextSessionId_fresh, fun store h => ?_,
    fun store h => distinctIds_of_orderedSteps h⟩
  have hids := identified_of_steps h
  exact ⟨hids.object_nodup, hids.object_ne_zero, hids.session_nodup, hids.session_ne_zero⟩

end Steps

section Wrap

variable {store other : Store}

theorem Store.Same.objectIds (h : store.Same other) : other.objectIds = store.objectIds := by
  unfold Store.objectIds Store.listed Store.objectId
  rw [h.tables.objectArray]
  exact congrArg (fun f => List.filterMap f _) (funext fun p => by rw [h.objects p])

theorem Store.objectIdInUse_eq_false (hids : store.objectIds = []) (id : ObjectID) :
    store.objectIdInUse id = false := by
  refine Bool.eq_false_iff.mpr fun hused => ?_
  have hmem := (store.objectIdInUse_iff id).mp hused
  rw [hids] at hmem
  cases hmem

theorem inventoryAddObject_first (type : ObjectType) (object : ObjectRef)
    (hids : store.objectIds = []) :
    inventoryAddObject none type object store = (.success,
      let stored := ({ store with nextObjectId := (nextId store.nextObjectId).2 } : Store).modifyObject
        object fun o => { o with id := (nextId store.nextObjectId).1 }
      stored.setObjectArray type (stored.objectArray type ++ [object])) := by
  have hfound : nextFreeId store.objectIdInUse store.nextObjectId =
      (some (nextId store.nextObjectId).1, (nextId store.nextObjectId).2) := by
    unfold nextFreeId
    change search nextId _ (65534 + 1) _ = _
    rw [search]
    dsimp only
    rw [if_neg (by simp [Store.objectIdInUse_eq_false hids])]
  unfold inventoryAddObject inventoryGetNextObjectId
  rw [hfound]

-- A new list gets the next ID of the counter.
theorem list_created (hids : store.objectIds = []) (h : store.Identified) :
    let created := (store.createObject ⟨true, none⟩ (.list []) none ownedFlags).2
    created.nextObjectId = (nextId store.nextObjectId).2 ∧
      created.objectId store.objects.next = some (nextId store.nextObjectId).1 := by
  have hadded : ({ store with
      objects := store.objects.alloc ((Payload.list []).owned 0) } : Store).objectIds = [] := by
    rw [← hids]
    refine List.filterMap_congr fun p hp => ?_
    unfold Store.objectId
    rw [Heap.get_alloc, if_neg (Nat.ne_of_lt (h.object_lt p hp))]
  rw [createObject_owned_eq, inventoryAddObject_first _ _ hadded]
  dsimp only
  rw [if_pos rfl]
  refine ⟨Store.modifyObject_nextObjectId _ _ _, ?_⟩
  unfold Store.objectId
  change (Heap.get (Store.modifyObject _ _ _).objects _).map _ = _
  rw [Store.modifyObject_objects, Heap.get_modify_self, Heap.get_alloc_next]
  rfl

-- A list is made and given back. All that is left of it is the counter.
theorem list_recycled (hids : store.objectIds = [])
    (h : store.Identified) :
    ∃ other, Relation.ReflTransGen (InventoryStep .byIndex) store other ∧ store.Same other ∧
      other.nextObjectId = (nextId store.nextObjectId).2 := by
  obtain ⟨hcounter, hid⟩ := list_created hids h
  have hstep := @InventoryStep.createObject .byIndex store ⟨true, none⟩ (.list []) none
    ownedFlags
  rcases createObject_owned_frame ⟨true, none⟩ (.list []) h with
    ⟨-, -, -, hsame⟩ | ⟨-, howned⟩
  · exact ⟨_, .single hstep, hsame, hcounter⟩
  generalize (store.createObject ⟨true, none⟩ (.list []) none ownedFlags).2 = created
    at howned hcounter hstep
  have hsame := howned.release ArrayRemove.byIndex_direct rfl (.refl created)
  obtain ⟨id, hget⟩ := howned.new
  have hlisted : store.objects.next ∈ created.objectArray (Payload.list []).type := by
    rw [howned.objectArray, if_pos rfl]
    exact List.mem_append_right _ (List.mem_singleton_self _)
  obtain ⟨i, -, hrelease⟩ := @Hold.release_last .byIndex created (lockedHold store.objects.next) _ hget
    rfl rfl rfl hlisted
  refine ⟨(lockedHold store.objects.next).release .byIndex created, ?_, hsame, ?_⟩
  · exact ((Relation.ReflTransGen.single hstep).tail
      (.operation _ (.unlock store.objects.next))).tail
        (.operation _ (.removeInternalReference store.objects.next))
  · rw [hrelease, ← hcounter]
    change ((lockedHold store.objects.next).drop created).nextObjectId = _
    rw [Hold.drop_eq, Store.modifyObject_nextObjectId]

-- So the counter gets to any ID while everything else stays.
theorem counter_reaches (h : Relation.ReflTransGen (InventoryStep .byIndex) Store.init store)
    (hids : store.objectIds = []) {id : ObjectID} (hid : id ≠ 0) :
    ∃ other, Relation.ReflTransGen (InventoryStep .byIndex) Store.init other ∧ store.Same other ∧
      (nextId other.nextObjectId).1 = id := by
  obtain ⟨k, -, hk⟩ := exists_nth_nextId store.nextObjectId id hid
  induction k generalizing store with
  | zero => exact ⟨store, h, .refl store, hk⟩
  | succ k ih =>
      obtain ⟨other, hsteps, hsame, hnext⟩ := list_recycled hids (identified_of_steps h)
      rw [nth_succ, ← hnext] at hk
      obtain ⟨last, hlast, hsame', hcounter⟩ := ih (h.trans hsteps) (hsame.objectIds.trans hids) hk
      exact ⟨last, hlast, hsame.trans hsame', hcounter⟩

theorem inventorySteps_runAll {array : ArrayRemove} (operations : List Operation) (store : Store) :
    Relation.ReflTransGen (InventoryStep array) store (Operation.runAll array operations store) := by
  induction operations generalizing store with
  | nil => exact .refl
  | cons operation operations ih => exact .head (.operation store operation) (ih _)

end Wrap

section Examples

theorem oneListStore_ids_fresh :
    FreshId oneListStore.objectIds .noFreeObjectId (inventoryGetNextObjectId oneListStore).1 ∧
      oneListStore.DistinctIds := by
  refine ⟨(ids_fresh .byIndex).1 oneListStore (by decide) (by decide),
    (ids_fresh .byIndex).2.2.2 oneListStore ?_⟩
  refine (Relation.ReflTransGen.single (.operation Store.init
    (.sessionCreate ⟨true, none, none, none⟩ 10) trivial)).tail
      (.createObject _ ⟨true, none⟩ (.list []) (some 0) OBJECT_CREATE_FLAG_EXTERNAL ?_)
  exact not_leavesEntry rfl (by decide : (7 : ObjectID) ≠ 0) rfl

-- The third list is alive, but no array lists it.
def hidingStore : Store := ObjectCall.run .byIndex invertedLists (.objectRelease 2 0)

theorem inventoryStep_listAllocate (store : Store) : InventoryStep .byIndex store
    (ObjectCall.run .byIndex store (.listAllocate ⟨true, none, ⟨true, none⟩⟩ 0)) := by
  simp only [ObjectCall.run]
  rcases listAllocate_createObject ⟨true, none, ⟨true, none⟩⟩ (some 0) OBJECT_CREATE_FLAG_EXTERNAL
    store with ⟨-, -, -, hfails⟩ | ⟨-, -, hallocate⟩
  · exact absurd ⟨rfl, rfl⟩ hfails
  · rw [hallocate]
    exact .createObject store ⟨true, none⟩ (.list []) (some 0) OBJECT_CREATE_FLAG_EXTERNAL

theorem hidingStore_steps :
    Relation.ReflTransGen (InventoryStep .byIndex) Store.init hidingStore := by
  have hsession : InventoryStep .byIndex Store.init
      (ObjectCall.runAll .byIndex (invertedCalls.take 1) Store.init) :=
    .operation Store.init (.sessionCreate ⟨true, none, none, none⟩ 10)
  have hlists : Relation.ReflTransGen (InventoryStep .byIndex) Store.init
      (ObjectCall.runAll .byIndex (invertedCalls.take 4) Store.init) :=
    (((Relation.ReflTransGen.single hsession).tail (inventoryStep_listAllocate _)).tail
      (inventoryStep_listAllocate _)).tail (inventoryStep_listAllocate _)
  obtain ⟨operations, hoperations⟩ := @listAppendTo_operations .byIndex
    (ObjectCall.runAll .byIndex (invertedCalls.take 4) Store.init) none 1 1 _ rfl
  have hitem : Relation.ReflTransGen (InventoryStep .byIndex) Store.init
      (ObjectCall.runAll .byIndex (invertedCalls.take 5) Store.init) := by
    have hsteps := @inventorySteps_runAll .byIndex operations
      (ObjectCall.runAll .byIndex (invertedCalls.take 4) Store.init)
    rw [← hoperations] at hsteps
    exact hlists.trans hsteps
  have hfirst : InventoryStep .byIndex (ObjectCall.runAll .byIndex (invertedCalls.take 5) Store.init)
      invertedLists := .operation _ (.release 0 0)
  exact (hitem.tail hfirst).tail (.operation invertedLists (.release 1 0))

-- Once the counter has come around, a new list gets its ID.
theorem hidden_id_given_out_again :
    ∃ store, Relation.ReflTransGen (InventoryStep .byIndex) Store.init store ∧
      ¬store.DistinctIds ∧ ∃ p, p ≠ 2 ∧ store.objectId 2 = some 3 ∧ store.objectId p = some 3 := by
  obtain ⟨other, hother, hsame, hcounter⟩ :=
    counter_reaches hidingStore_steps rfl (by decide : (3 : ObjectID) ≠ 0)
  have hids : other.objectIds = [] := hsame.objectIds
  obtain ⟨-, hnew⟩ := list_created hids (identified_of_steps hother)
  rw [hcounter] at hnew
  have hhidden : ∃ o, hidingStore.objects.get 2 = some o ∧ o.id = 3 := ⟨_, rfl, rfl⟩
  obtain ⟨o, ho, hid⟩ := hhidden
  rw [← hsame.objects 2] at ho
  have hne : (2 : ObjectRef) ≠ other.objects.next := Nat.ne_of_lt (Heap.lt_next_of_get ho)
  have hold : (other.createObject ⟨true, none⟩ (.list []) none ownedFlags).2.objects.get 2 = some o := by
    rw [createObject_get_ne _ _ _ _ hne, ho]
  refine ⟨_, hother.tail (.createObject other ⟨true, none⟩ (.list []) none ownedFlags), ?_,
    other.objects.next, hne.symm, ?_, hnew⟩
  · intro hdistinct
    obtain ⟨o', ho', hid'⟩ := Option.map_eq_some_iff.mp hnew
    exact hne ((hdistinct _ o' ho').2 2 o hold (hid.trans hid'.symm))
  · unfold Store.objectId
    rw [hold]
    exact congrArg some hid

end Examples

end RedApid

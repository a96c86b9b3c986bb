import RedApid.Store.Listing

namespace RedApid

open Memory

section Operations

variable {array : ArrayRemove} {pool next : List Hold} {store other : Store}

def Operation.runAll (array : ArrayRemove) (operations : List Operation) (store : Store) : Store :=
  operations.foldl (fun store operation => operation.run array store) store

theorem Operation.runAll_concat (operations : List Operation) (last : Operation) (store : Store) :
    Operation.runAll array (operations ++ [last]) store =
      last.run array (Operation.runAll array operations store) :=
  List.foldl_concat _ _ _ _

def Hold.acquireOperations (hold : Hold) : List Operation :=
  if hold.locked then [.addInternalReference hold.object, .lock hold.object]
  else [.addInternalReference hold.object]

def Hold.releaseOperations (hold : Hold) : List Operation :=
  if hold.locked then [.unlock hold.object, .removeInternalReference hold.object]
  else [.removeInternalReference hold.object]

theorem Hold.acquire_operations (hold : Hold) (store : Store) :
    hold.acquire store = Operation.runAll array hold.acquireOperations store := by
  unfold Hold.acquire Hold.acquireOperations
  split <;> rfl

theorem Hold.release_operations (hold : Hold) (store : Store) :
    hold.release array store = Operation.runAll array hold.releaseOperations store := by
  unfold Hold.release Hold.unlock Hold.releaseOperations
  split <;> rfl

-- A change of the items is one of the payload.
theorem mapItems_operation {list : ObjectRef} {payload : Payload}
    (change : List ObjectRef → List ObjectRef)
    (hpayload : ∀ l, store.objects.get list = some l → l.payload = payload) :
    (store.modifyObject list fun l => { l with payload := l.payload.mapItems change }) =
      (Operation.setPayload list (payload.mapItems change)).run array store := by
  refine Store.modifyObject_congr fun l hl => ?_
  rw [hpayload l hl]

theorem listAppendTo_operations {append : Option APIError} {list : ObjectRef} {itemId : ObjectID}
    {l : Object} (hl : store.objects.get list = some l) :
    ∃ operations, (listAppendTo append list itemId store).2 =
      Operation.runAll array operations store := by
  rcases listAppendTo_cases append itemId hl with ⟨-, hsame⟩ | ⟨item, -, hne, -, happend⟩
  · exact ⟨[], hsame⟩
  · refine ⟨(lockedHold item).acquireOperations ++
      [.setPayload list (l.payload.mapItems (· ++ [item]))], ?_⟩
    have hl' : ((lockedHold item).acquire store).objects.get list = some l := by
      have hother : list ≠ (lockedHold item).object := hne.symm
      rw [Hold.acquire_eq, Store.modifyObject_objects, Heap.get_modify_ne hother, hl]
    rw [Operation.runAll_concat, ← Hold.acquire_operations, happend,
      ← mapItems_operation (· ++ [item])]
    · rfl
    · intro l' hl''
      rw [hl'] at hl''
      cases hl''
      rfl

theorem listRemoveFrom_operations {list : ObjectRef} {index : UInt16} {l : Object}
    (hl : store.objects.get list = some l) :
    ∃ operations, (listRemoveFrom array list index store).2 =
      Operation.runAll array operations store := by
  rcases @listRemoveFrom_cases array store list l index hl with ⟨-, hsame⟩ | ⟨item, -, -, hremove⟩
  · exact ⟨[], hsame⟩
  · refine ⟨(lockedHold item).releaseOperations ++
      [.setPayload list (l.payload.mapItems (·.eraseIdx index.toNat))], ?_⟩
    have hkept : store.Kept ((lockedHold item).release array store) :=
      .of_runs ((lockedHold item).release_runs store)
    rw [Operation.runAll_concat, ← Hold.release_operations, hremove,
      ← mapItems_operation (·.eraseIdx index.toNat)]
    · rfl
    · intro l' hl'
      obtain ⟨l'', hl'', -, hpayload⟩ := hkept.get hl'
      rw [hl] at hl''
      cases hl''
      exact hpayload

-- The steps are made of the operations and of the creations of objects.
theorem HolderStep.operations (hstep : HolderStep array (pool, store) (next, other)) :
    (∃ operations, other = Operation.runAll array operations store) ∨
      ∃ outcome payload session flags,
        other = (store.createObject outcome payload session flags).2 := by
  cases hstep with
  | perm => exact Or.inl ⟨[], rfl⟩
  | sessionCreate _ _ outcome lifetime => exact Or.inl ⟨[.sessionCreate outcome lifetime], rfl⟩
  | sessionExpire _ _ session => exact Or.inl ⟨[.sessionExpire session], rfl⟩
  | sessionHandleExpire _ _ session => exact Or.inl ⟨[.sessionHandleExpire session], rfl⟩
  | addExternalReference _ _ calloc object session =>
      exact Or.inl ⟨[.addExternalReference calloc object session], rfl⟩
  | objectRelease _ _ object session => exact Or.inl ⟨[.release object session], rfl⟩
  | created _ _ outcome payload session flags => exact Or.inr ⟨outcome, payload, session, flags, rfl⟩
  | notCreated _ _ outcome payload session flags =>
      exact Or.inr ⟨outcome, payload, session, flags, rfl⟩
  | acquire _ _ hold => exact Or.inl ⟨hold.acquireOperations, hold.acquire_operations store⟩
  | release _ _ hold => exact Or.inl ⟨hold.releaseOperations, hold.release_operations store⟩
  | setPayload _ _ _ object o payload => exact Or.inl ⟨[.setPayload object payload], rfl⟩
  | listAppendTo _ _ append list itemId l hl => exact Or.inl (listAppendTo_operations hl)
  | listRemoveFrom _ _ list index l hl => exact Or.inl (listRemoveFrom_operations hl)

end Operations

section Sound

variable {array : ArrayRemove} {pool next : List Hold} {store other : Store}

-- No entry refers to an object that has been freed.
def Store.EntriesLive (store : Store) : Prop :=
  ∀ r e, store.references.get r = some e → store.objects.get e.object ≠ none

-- A step after which no entry refers to freed memory.
def CleanStep (array : ArrayRemove) (before after : List Hold × Store) : Prop :=
  HolderStep array before after ∧ after.2.EntriesLive

-- What holds between two such steps.
structure Sound (pool : List Hold) (store : Store) : Prop where
  holding : Holding pool store
  counted : store.Counted
  identified : store.Identified
  listing : store.Listing []

theorem Sound.perm (h : Sound pool store) (hperm : pool.Perm next) : Sound next store :=
  ⟨⟨h.holding.accounted.perm hperm, h.holding.shaped⟩, h.counted, h.identified, h.listing⟩

theorem Store.Counted.freeMemory (h : store.Counted) {object : ObjectRef}
    (hlive : (store.freeMemory object).EntriesLive) : (store.freeMemory object).Counted := by
  have hget : ∀ p o, (store.freeMemory object).objects.get p = some o →
      store.objects.get p = some o := by
    intro p o ho
    rw [Store.freeMemory, Heap.get_free] at ho
    split_ifs at ho
    exact ho
  refine ⟨⟨⟨?_, ?_, ?_, hlive⟩, h.linked.sessions, h.linked.unique⟩, h.count_pos⟩
  · exact fun p o ho => h.linked.objects.nodup p o (hget p o ho)
  · exact fun p o ho => h.linked.objects.mem_iff p o (hget p o ho)
  · exact fun p o ho => h.linked.objects.count_eq p o (hget p o ho)

theorem Store.Counted.createObject (outcome : ObjectCreation) (payload : Payload)
    (session : Option SessionRef) (flags : UInt32) (h : store.Counted)
    (hlive : (store.createObject outcome payload session flags).2.EntriesLive) :
    (store.createObject outcome payload session flags).2.Counted := by
  have hallocated : (store.callocObject payload).2.Counted :=
    ⟨⟨h.linked.objects.alloc_owner rfl rfl, h.linked.sessions, h.linked.unique⟩, h.count_pos⟩
  by_cases hvalid : ValidFlags session flags
  · have hcreated := objectCreateReferences_counted outcome store.objects.next payload.type session
      flags hallocated
    rw [createObject_of_valid outcome payload store hvalid] at hlive ⊢
    simp only at hlive ⊢
    split at hlive
    · rename_i hcode
      rwa [if_pos hcode]
    · rename_i hcode
      rw [if_neg hcode]
      exact hcreated.freeMemory hlive
  · rw [createObject_of_invalid outcome payload store hvalid] at hlive ⊢
    exact hallocated.freeMemory hlive

theorem Operation.listing (operation : Operation) (h : store.Listing []) (hcounted : store.Counted) :
    (operation.run array store).Listing [] := by
  cases operation with
  | sessionCreate outcome lifetime =>
      obtain ⟨hobjects, harray, -⟩ := sessionCreate_frame outcome lifetime store
      exact h.congr hobjects harray
  | addExternalReference calloc object session =>
      exact h.addExternalReference calloc object session hcounted
  | removeExternalReference object session =>
      exact h.removeExternalReference object session
  | release object session => exact h.objectRelease object session
  | addInternalReference object =>
      exact h.modifyObject object (fun _ => rfl) fun o _ => Or.inl (Nat.succ_ne_zero _)
  | removeInternalReference object => exact h.release (plainHold object)
  | sessionExpire session => exact h.sessionExpireHelper session
  | sessionHandleExpire session => exact h.sessionExpireHelper session
  | lock object => exact h.modifyObject object (fun _ => rfl) fun _ hreferenced => hreferenced
  | unlock object =>
      refine h.modifyObject object (fun o => ?_) fun o hreferenced => ?_
      · split <;> rfl
      · split <;> exact hreferenced
  | setPayload object payload =>
      exact h.modifyObject object (by intro _; rfl) fun _ hreferenced => hreferenced

theorem Operation.runAll_sound (operations : List Operation) (hcounted : store.Counted)
    (hidentified : store.Identified) (hlisting : store.Listing []) :
    (Operation.runAll array operations store).Counted ∧
      (Operation.runAll array operations store).Identified ∧
      (Operation.runAll array operations store).Listing [] := by
  induction operations generalizing store with
  | nil => exact ⟨hcounted, hidentified, hlisting⟩
  | cons operation operations ih =>
      exact ih (operation.counted hcounted) (operation.identified hidentified)
        (operation.listing hlisting hcounted)

theorem Sound.init : Sound [] Store.init where
  holding := .init
  counted := .init
  identified := @identified_of_steps .exact _ .refl
  listing := .init

theorem CleanStep.sound (hstep : CleanStep array (pool, store) (next, other))
    (h : Sound pool store) : Sound next other := by
  obtain ⟨hholder, hlive⟩ := hstep
  have hholding := hholder.holding h.holding
  rcases hholder.operations with ⟨operations, rfl⟩ | ⟨outcome, payload, session, flags, rfl⟩
  · obtain ⟨hcounted, hidentified, hlisting⟩ :=
      @Operation.runAll_sound array _ operations h.counted h.identified h.listing
    exact ⟨hholding, hcounted, hidentified, hlisting⟩
  · exact ⟨hholding, h.counted.createObject outcome payload session flags hlive,
      createObject_identified outcome payload session flags h.identified,
      h.listing.createObject outcome payload session flags h.identified.object_lt⟩

-- An object that only a session refers to is made, or nothing is.
theorem Sound.createStep (h : Sound pool store) (outcome : ObjectCreation) {payload : Payload}
    (session : SessionRef) (hholds : payload.holds = []) (hitems : payload.items = [])
    (hnot : ¬store.LeavesEntry outcome (some session) OBJECT_CREATE_FLAG_EXTERNAL) :
    CleanStep array (pool, store) (pool,
      (store.createObject outcome payload (some session) OBJECT_CREATE_FLAG_EXTERNAL).2) := by
  rcases hresult : (store.createObject outcome payload (some session) OBJECT_CREATE_FLAG_EXTERNAL).1
    with code | object
  · have hstep := @HolderStep.notCreated array pool store outcome payload (some session)
      OBJECT_CREATE_FLAG_EXTERNAL code hresult
    rw [hholds] at hstep
    refine ⟨hstep, fun r e he => ?_⟩
    have hcases := createObject_failed_cases outcome payload (some session)
      OBJECT_CREATE_FLAG_EXTERNAL fun object hok => by
        rw [hresult] at hok
        cases hok
    obtain ⟨-, -, hreferences, -⟩ := hcases.resolve_left fun hleaves => hnot hleaves.1
    change (store.createObject outcome payload (some session)
      OBJECT_CREATE_FLAG_EXTERNAL).2.references.get r = some e at he
    rw [hreferences] at he
    change (store.createObject outcome payload (some session)
      OBJECT_CREATE_FLAG_EXTERNAL).2.objects.get e.object ≠ none
    rw [createObject_get_ne outcome payload (some session) OBJECT_CREATE_FLAG_EXTERNAL
      (h.counted.references_ne_next r e he)]
    exact h.counted.linked.objects.owner_live r e he
  · have hstep := @HolderStep.created array pool store outcome payload (some session)
      OBJECT_CREATE_FLAG_EXTERNAL object hitems (fun hold hmem => by
        rw [hholds] at hmem
        cases hmem) hresult
    rw [hholds] at hstep
    exact ⟨hstep, (createObject_counted h.counted hresult).linked.objects.owner_live⟩

theorem sound_of_steps
    (h : Relation.ReflTransGen (CleanStep array) ([], Store.init) (pool, store)) :
    Sound pool store := by
  generalize hlast : (pool, store) = last at h
  induction h generalizing pool store with
  | refl =>
      cases hlast
      exact .init
  | tail _ hstep ih =>
      subst hlast
      exact hstep.sound (ih rfl)

-- A step of the holders that is made of operations leaves no entry behind.
theorem Sound.cleanStep (h : Sound pool store) {operations : List Operation}
    (hstep : HolderStep array (pool, store) (next, other))
    (heq : other = Operation.runAll array operations store) :
    CleanStep array (pool, store) (next, other) := by
  obtain ⟨hcounted, -, -⟩ :=
    @Operation.runAll_sound array store operations h.counted h.identified h.listing
  rw [← heq] at hcounted
  exact ⟨hstep, hcounted.linked.objects.owner_live⟩

theorem Sound.releaseStep {hold : Hold} (h : Sound (hold :: pool) store) :
    CleanStep array (hold :: pool, store) (pool, hold.release array store) :=
  h.cleanStep (.release pool store hold) (hold.release_operations store)

theorem Sound.steps (h : Sound pool store)
    (hsteps : Relation.ReflTransGen (CleanStep array) (pool, store) (next, other)) :
    Sound next other := by
  generalize hlast : (next, other) = last at hsteps
  induction hsteps generalizing next other with
  | refl =>
      cases hlast
      exact h
  | tail _ hstep ih =>
      subst hlast
      exact hstep.sound (ih rfl)

end Sound

section Names

variable {array : ArrayRemove} {pool : List Hold} {store other : Store}

-- Every object that is alive has an ID.
def Store.Named (store : Store) : Prop := ∀ p o, store.objects.get p = some o → o.id ≠ 0

namespace Store.Named

theorem init : Store.init.Named := by
  intro p o ho
  simp [Store.init] at ho

theorem noNewIds (h : store.Named) (hids : store.NoNewIds other)
    (hlive : ∀ p, other.objects.get p ≠ none → store.objects.get p ≠ none) : other.Named := by
  intro p o' ho'
  obtain ⟨o, ho⟩ := Option.ne_none_iff_exists'.mp (hlive p (by simp [ho']))
  rcases hids.objectId p (Heap.lt_next_of_get ho) with hsame | hnone
  · unfold objectId at hsame
    rw [ho', ho] at hsame
    have hid : o'.id = o.id := Option.some.inj hsame
    rw [hid]
    exact h p o ho
  · unfold objectId at hnone
    rw [ho'] at hnone
    cases hnone

theorem kept (h : store.Named) (hids : store.NoNewIds other) (hkept : store.Kept other) :
    other.Named := by
  refine h.noNewIds hids fun p hlive => ?_
  obtain ⟨o', ho'⟩ := Option.ne_none_iff_exists'.mp hlive
  obtain ⟨o, ho, -⟩ := hkept.objects p o' ho'
  simp [ho]

theorem modifyObject (h : store.Named) (object : ObjectRef) {f : Object → Object}
    (hid : ∀ o, (f o).id = o.id) : (store.modifyObject object f).Named := by
  refine h.noNewIds (.modifyObject store object hid) fun p hlive => ?_
  rwa [Store.modifyObject_get_ne_none] at hlive

theorem operation (h : store.Named) (operation : Operation) : (operation.run array store).Named := by
  cases operation with
  | sessionCreate outcome lifetime =>
      obtain ⟨hobjects, -⟩ := sessionCreate_frame outcome lifetime store
      intro p o ho
      exact h p o (hobjects ▸ ho)
  | addExternalReference calloc object session =>
      have hsame := Store.SameInternals.objectAddExternalReference calloc object session store
      exact h.kept (.of_sameInternals hsame) (.of_sameInternals hsame)
  | removeExternalReference object session =>
      exact h.kept (.removeExternalReference object session store)
        (Store.KeepsHolds.objectRemoveExternalReference object session store).kept
  | release object session =>
      exact h.kept (.objectRelease object session store)
        (Store.KeepsHolds.objectRelease object session store).kept
  | addInternalReference object => exact h.modifyObject object fun _ => rfl
  | removeInternalReference object =>
      exact h.kept (.of_runs (store.release_runs object)) (.of_runs (store.release_runs object))
  | sessionExpire session =>
      exact h.kept (.sessionExpireHelper session store)
        (Store.KeepsHolds.sessionExpireHelper session store).kept
  | sessionHandleExpire session =>
      exact h.kept (.sessionExpireHelper session store)
        (Store.KeepsHolds.sessionExpireHelper session store).kept
  | lock object => exact h.modifyObject object fun _ => rfl
  | unlock object =>
      refine h.modifyObject object fun o => ?_
      split <;> rfl
  | setPayload object payload => exact h.modifyObject object (by intro _; rfl)

theorem runAll (h : store.Named) (operations : List Operation) :
    (Operation.runAll array operations store).Named := by
  induction operations generalizing store with
  | nil => exact h
  | cons operation operations ih => exact ih (h.operation operation)

theorem inventoryAddObject (append : Option APIError) (type : ObjectType) (object : ObjectRef)
    {o : Object} (hsuccess : (inventoryAddObject append type object store).1 = .success)
    (ho : (inventoryAddObject append type object store).2.objects.get object = some o) :
    o.id ≠ 0 := by
  unfold RedApid.inventoryAddObject inventoryGetNextObjectId at hsuccess ho
  cases hfound : nextFreeId store.objectIdInUse store.nextObjectId with
  | mk found next =>
      rw [hfound] at hsuccess ho
      cases found with
      | none => cases hsuccess
      | some id =>
          obtain ⟨hzero, -⟩ := nextFreeId_some (congrArg Prod.fst hfound)
          cases append with
          | some code => exact absurd hsuccess code.property
          | none =>
              simp only [Store.setObjectArray] at ho
              obtain ⟨o', -, rfl⟩ := Store.modifyObject_get ho
              rw [if_pos rfl]
              exact hzero

theorem objectCreateReferences (outcome : ObjectCreation) (object : ObjectRef) (type : ObjectType)
    (session : Option SessionRef) (flags : UInt32) {o : Object}
    (hsuccess : (objectCreateReferences outcome object type session flags store).1 = .success)
    (ho : (objectCreateReferences outcome object type session flags store).2.objects.get object =
      some o) : o.id ≠ 0 := by
  unfold RedApid.objectCreateReferences at hsuccess ho
  generalize (if flags &&& OBJECT_CREATE_FLAG_INTERNAL ≠ 0 then
      objectAddInternalReference object store else store) = acquired at hsuccess ho
  simp only at hsuccess ho
  by_cases hcode : (objectCreateExternal outcome object session flags acquired).1 ≠ .success
  · rw [if_pos hcode] at hsuccess
    exact absurd hsuccess hcode
  · rw [if_neg hcode] at hsuccess ho
    exact inventoryAddObject outcome.append type object hsuccess ho

theorem createObject (h : store.Named) (outcome : ObjectCreation) (payload : Payload)
    (session : Option SessionRef) (flags : UInt32) :
    (store.createObject outcome payload session flags).2.Named := by
  intro p o ho
  by_cases hp : p = store.objects.next
  · subst hp
    cases hcreated : (store.createObject outcome payload session flags).1 with
    | error code =>
        rw [createObject_get_error hcreated] at ho
        cases ho
    | ok object =>
        obtain ⟨rfl, -, hreferences⟩ := createObject_ok hcreated
        have hsuccess := congrArg Prod.fst hreferences
        have hstore := congrArg Prod.snd hreferences
        simp only at hsuccess hstore
        rw [← hstore] at ho
        exact objectCreateReferences outcome _ payload.type session flags hsuccess ho
  · rw [createObject_get_ne outcome payload session flags hp] at ho
    exact h p o ho

end Store.Named

theorem named_of_steps
    (h : Relation.ReflTransGen (CleanStep array) ([], Store.init) (pool, store)) : store.Named := by
  generalize hlast : (pool, store) = last at h
  induction h generalizing pool store with
  | refl =>
      cases hlast
      exact .init
  | @tail before _ _ hstep ih =>
      subst hlast
      have hnamed := @ih before.1 before.2 rfl
      rcases hstep.1.operations with ⟨operations, rfl⟩ | ⟨outcome, payload, session, flags, rfl⟩
      · exact hnamed.runAll operations
      · exact hnamed.createObject outcome payload session flags

end Names

section Types

variable {array : ArrayRemove} {pool next : List Hold} {store other : Store}

-- The type of an object is that of what is behind its Object base.
def Store.Typed (store : Store) : Prop := ∀ p o, store.objects.get p = some o → o.type = o.payload.type

namespace Store.Typed

theorem kept (h : store.Typed) (hkept : store.Kept other) : other.Typed := by
  intro p o' ho'
  obtain ⟨o, ho, htype, hpayload⟩ := hkept.get ho'
  rw [htype, hpayload]
  exact h p o ho

theorem modifyObject (h : store.Typed) (object : ObjectRef) {f : Object → Object}
    (hf : ∀ o, store.objects.get object = some o → (f o).type = o.type ∧
      (f o).payload.type = o.payload.type) : (store.modifyObject object f).Typed := by
  intro p o' ho'
  obtain ⟨o, ho, rfl⟩ := Store.modifyObject_get ho'
  split_ifs with hp
  · subst hp
    rw [(hf o ho).1, (hf o ho).2]
    exact h p o ho
  · exact h p o ho

theorem mapItems (h : store.Typed) (list : ObjectRef) (change : List ObjectRef → List ObjectRef) :
    (store.modifyObject list fun l => { l with payload := l.payload.mapItems change }).Typed := by
  refine h.modifyObject list fun o _ => ⟨rfl, ?_⟩
  change (o.payload.mapItems change).type = o.payload.type
  cases o.payload <;> rfl

theorem createObject (h : store.Typed) (outcome : ObjectCreation) (payload : Payload)
    (session : Option SessionRef) (flags : UInt32) :
    (store.createObject outcome payload session flags).2.Typed := by
  intro p o ho
  by_cases hp : p = store.objects.next
  · subst hp
    cases hcreated : (store.createObject outcome payload session flags).1 with
    | error code =>
        rw [createObject_get_error hcreated] at ho
        cases ho
    | ok object =>
        obtain ⟨rfl, -, hreferences⟩ := createObject_ok hcreated
        have hkept := Store.Kept.objectCreateReferences outcome store.objects.next payload.type session
          flags (store.callocObject payload).2
        rw [hreferences] at hkept
        obtain ⟨o', ho', htype, hpayload⟩ := hkept.get ho
        have hnew : (store.callocObject payload).2.objects.get store.objects.next =
            some ⟨0, payload.type, 0, [], 0, 0, payload⟩ := store.objects.get_alloc_next _
        rw [hnew] at ho'
        cases ho'
        rw [htype, hpayload]
  · rw [createObject_get_ne outcome payload session flags hp] at ho
    exact h p o ho

end Store.Typed

theorem HolderStep.typed (hstep : HolderStep array (pool, store) (next, other)) (h : store.Typed) :
    other.Typed := by
  cases hstep with
  | perm => exact h
  | sessionCreate _ _ outcome lifetime =>
      obtain ⟨hobjects, -⟩ := sessionCreate_frame outcome lifetime store
      exact fun p o ho => h p o (hobjects ▸ ho)
  | sessionExpire _ _ session => exact h.kept (Store.KeepsHolds.sessionExpireHelper session store).kept
  | sessionHandleExpire _ _ session =>
      exact h.kept (Store.KeepsHolds.sessionExpireHelper session store).kept
  | addExternalReference _ _ calloc object session =>
      exact h.kept (.of_sameInternals (.objectAddExternalReference calloc object session store))
  | objectRelease _ _ object session =>
      exact h.kept (Store.KeepsHolds.objectRelease object session store).kept
  | created _ _ outcome payload session flags => exact h.createObject outcome payload session flags
  | notCreated _ _ outcome payload session flags => exact h.createObject outcome payload session flags
  | acquire _ _ hold =>
      rw [hold.acquire_eq]
      exact h.modifyObject hold.object fun _ _ => ⟨rfl, rfl⟩
  | release _ _ hold => exact h.kept (.of_runs (hold.release_runs store))
  | setPayload _ _ _ object o payload hget _ htype =>
      refine h.modifyObject object fun o' ho' => ⟨rfl, ?_⟩
      rw [hget] at ho'
      cases ho'
      exact htype
  | listAppendTo _ _ append list itemId l hl =>
      rcases listAppendTo_cases append itemId hl with ⟨-, hsame⟩ | ⟨item, -, -, -, happend⟩
      · rw [hsame]
        exact h
      · rw [happend, Hold.acquire_eq]
        have hacquired := h.modifyObject (lockedHold item).object
          (f := (lockedHold item).retain) fun _ _ => ⟨rfl, rfl⟩
        exact hacquired.mapItems list (· ++ [item])
  | listRemoveFrom _ _ list index l hl =>
      rcases @listRemoveFrom_cases array store list l index hl with ⟨-, hsame⟩ | ⟨item, -, -, hremove⟩
      · rw [hsame]
        exact h
      · rw [hremove]
        have hreleased := h.kept (.of_runs (@Hold.release_runs array (lockedHold item) store))
        exact hreleased.mapItems list (·.eraseIdx index.toNat)

theorem typed_of_steps
    (h : Relation.ReflTransGen (CleanStep array) ([], Store.init) (pool, store)) : store.Typed := by
  generalize hlast : (pool, store) = last at h
  induction h generalizing pool store with
  | refl =>
      cases hlast
      intro p o ho
      simp [Store.init] at ho
  | @tail before _ _ hstep ih =>
      subst hlast
      exact hstep.1.typed (@ih before.1 before.2 rfl)

end Types

end RedApid

import RedApid.Store.Release

namespace RedApid

open Memory

section Create

variable {store other : Store} {object : ObjectRef} {payload : Payload} {own pool : List Hold}

-- An object with this payload is being created, `own` are the references to it so far.
structure Store.Creating (object : ObjectRef) (payload : Payload) (own pool : List Hold)
    (store : Store) : Prop where
  accounted : store.Accounted ownHolds (own ++ pool)
  own_object : ∀ hold ∈ own, hold.object = object
  unclaimed : ∀ hold, hold.object = object → store.claims ownHolds pool hold = 0
  payload_eq : ∃ o, store.objects.get object = some o ∧ o.payload = payload

-- The reference that object_create takes with these flags.
def createdHolds (flags : UInt32) (object : ObjectRef) : List Hold :=
  if flags &&& OBJECT_CREATE_FLAG_INTERNAL ≠ 0 then
    if flags &&& OBJECT_CREATE_FLAG_LOCKED ≠ 0 then [lockedHold object] else [plainHold object]
  else []

theorem Store.modifyObject_congr {f g : Object → Object}
    (h : ∀ o, store.objects.get object = some o → f o = g o) :
    store.modifyObject object f = store.modifyObject object g := by
  cases hget : store.objects.get object with
  | none => rw [modifyObject_of_none hget, modifyObject_of_none hget]
  | some o =>
      rw [modifyObject_of_get hget, modifyObject_of_get hget,
        Heap.modify_congr_of_get hget (h o hget)]

-- A lock on top of a reference that is already there.
theorem Store.Accounted.lock (h : store.Accounted ownHolds (plainHold object :: pool)) :
    (objectLock object store).Accounted ownHolds (lockedHold object :: pool) := by
  obtain ⟨o, ho, hpos, -⟩ := h.count_pos
  have hlock : objectLock object store =
      (lockedHold object).acquire ((plainHold object).drop store) := by
    rw [Hold.acquire_eq, Hold.drop_eq]
    change store.modifyObject object _ = _
    rw [show (lockedHold object).object = (plainHold object).object from rfl,
      Store.modifyObject_modifyObject]
    refine Store.modifyObject_congr fun o' ho' => ?_
    have hsame : o' = o := Option.some.inj (ho'.symm.trans ho)
    subst hsame
    have hcount : o'.internalReferenceCount - 1 + 1 = o'.internalReferenceCount :=
      Nat.sub_add_cancel hpos
    simp [Hold.retain, Hold.forgo, lockedHold, plainHold, hcount]
  rw [hlock]
  refine h.drop.acquire (lockedHold object) ?_
  rw [Hold.drop_eq, Store.modifyObject_get_ne_none]
  have hlive : store.objects.get (plainHold object).object ≠ none := by simp [ho]
  exact hlive

namespace Store.Creating

theorem sameInternals (h : store.Creating object payload own pool) (hsame : store.SameInternals other) :
    other.Creating object payload own pool := by
  obtain ⟨o, ho, hpayload⟩ := h.payload_eq
  obtain ⟨o', ho', hinternals⟩ := hsame.get_eq ho
  refine ⟨h.accounted.sameInternals hsame, h.own_object, fun hold hobject => ?_, o', ho', ?_⟩
  · have htotal := hsame.total (fun p o => (ownHolds p o.payload).count hold) fun _ _ => rfl
    rw [← h.unclaimed hold hobject]
    unfold Store.claims Store.incoming Heap.incoming
    rw [htotal]
  · have hsamePayload := congrArg Object.payload hinternals
    exact Eq.trans hsamePayload hpayload

theorem modifyObject (h : store.Creating object payload own pool) {f : Object → Object}
    (hcounts : ∀ o, (f o).counts = o.counts) (hpayload : ∀ o, (f o).payload = o.payload) :
    (store.modifyObject object f).Creating object payload own pool := by
  obtain ⟨o, ho, hpayload'⟩ := h.payload_eq
  have hview : ∀ o, store.objects.get object = some o →
      ownHolds object (f o).payload = ownHolds object o.payload := fun o _ => by rw [hpayload o]
  refine ⟨h.accounted.modifyObject hcounts hview, h.own_object, fun hold hobject => ?_, f o, ?_,
    (hpayload o).trans hpayload'⟩
  · rw [Store.modifyObject_claims hview]
    exact h.unclaimed hold hobject
  · rw [Store.modifyObject_objects, Heap.get_modify_self, ho]
    rfl

theorem congr (h : store.Creating object payload own pool) (hobjects : other.objects = store.objects) :
    other.Creating object payload own pool := by
  have hclaims : ∀ pool hold, other.claims ownHolds pool hold = store.claims ownHolds pool hold := by
    intro pool hold
    unfold Store.claims Store.incoming
    rw [hobjects]
  refine ⟨h.accounted.congr (fun p => by rw [hobjects]) (hclaims _), h.own_object, ?_, ?_⟩
  · intro hold hobject
    rw [hclaims, h.unclaimed hold hobject]
  · rw [hobjects]
    exact h.payload_eq

theorem addInternalReference (h : store.Creating object payload [] pool) :
    (objectAddInternalReference object store).Creating object payload [plainHold object] pool := by
  obtain ⟨o, ho, hpayload⟩ := h.payload_eq
  have hlive : store.objects.get object ≠ none := by simp [ho]
  refine ⟨h.accounted.acquire (plainHold object) hlive, ?_, fun hold hobject => ?_, ?_⟩
  · intro hold hmem
    rw [List.mem_singleton.mp hmem]
    rfl
  · rw [← h.unclaimed hold hobject]
    exact Store.modifyObject_claims (by intro _ _; rfl) pool hold
  · refine ⟨{ o with internalReferenceCount := o.internalReferenceCount + 1 }, ?_, hpayload⟩
    rw [objectAddInternalReference, Store.modifyObject_objects, Heap.get_modify_self, ho]
    rfl

theorem lock (h : store.Creating object payload [plainHold object] pool) :
    (objectLock object store).Creating object payload [lockedHold object] pool := by
  obtain ⟨o, ho, hpayload⟩ := h.payload_eq
  refine ⟨h.accounted.lock, ?_, fun hold hobject => ?_, ?_⟩
  · intro hold hmem
    rw [List.mem_singleton.mp hmem]
    rfl
  · rw [← h.unclaimed hold hobject]
    exact Store.modifyObject_claims (by intro _ _; rfl) pool hold
  · refine ⟨{ o with lockCount := o.lockCount + 1 }, ?_, hpayload⟩
    rw [objectLock, Store.modifyObject_objects, Heap.get_modify_self, ho]
    rfl

theorem callocObject (h : store.Accounted ownHolds (payload.holds ++ pool)) :
    (store.callocObject payload).2.Creating store.objects.next payload [] pool := by
  have hnew : (store.callocObject payload).2.objects.get store.objects.next =
      some ⟨0, payload.type, 0, [], 0, 0, payload⟩ := store.objects.get_alloc_next _
  obtain ⟨haccounted, hunclaimed⟩ := Store.Accounted.callocObject h
  exact ⟨haccounted, fun _ hmem => absurd hmem List.not_mem_nil, hunclaimed, _, hnew, rfl⟩

theorem freeMemory (h : store.Creating object payload own pool) :
    (store.freeMemory object).Accounted ownHolds (payload.holds ++ pool) := by
  obtain ⟨o, ho, rfl⟩ := h.payload_eq
  exact h.accounted.freeMemory ho h.own_object h.unclaimed

theorem inventoryAddObject (h : store.Creating object payload own pool) (append : Option APIError)
    (type : ObjectType) :
    (inventoryAddObject append type object store).2.Creating object payload own pool := by
  unfold RedApid.inventoryAddObject inventoryGetNextObjectId
  cases nextFreeId store.objectIdInUse store.nextObjectId with
  | mk found next =>
      cases found with
      | none => exact h.congr rfl
      | some id =>
          have hcounter : Store.Creating object payload own pool
              { store with nextObjectId := next } := h.congr rfl
          have hstored : (Store.modifyObject { store with nextObjectId := next } object
              fun o => { o with id }).Creating object payload own pool :=
            hcounter.modifyObject (by intro _; rfl) (by intro _; rfl)
          cases append with
          | some code => exact hstored
          | none => exact hstored.congr rfl

theorem objectCreateReferences (outcome : ObjectCreation) (type : ObjectType)
    {session : Option SessionRef} {flags : UInt32} (hvalid : ValidFlags session flags)
    (h : store.Creating object payload [] pool) :
    let result := objectCreateReferences outcome object type session flags store
    (result.1 = .success →
      result.2.Creating object payload (createdHolds flags object) pool) ∧
      ∃ own, result.2.Creating object payload own pool := by
  simp only
  unfold RedApid.objectCreateReferences
  have hacquired : (if flags &&& OBJECT_CREATE_FLAG_INTERNAL ≠ 0 then
      objectAddInternalReference object store else store).Creating object payload
      (if flags &&& OBJECT_CREATE_FLAG_INTERNAL ≠ 0 then [plainHold object] else []) pool := by
    split
    · exact h.addInternalReference
    · exact h
  generalize (if flags &&& OBJECT_CREATE_FLAG_INTERNAL ≠ 0 then
      objectAddInternalReference object store else store) = acquired at hacquired ⊢
  have hexternal := hacquired.sameInternals
    (objectCreateExternal_sameInternals outcome object session flags acquired)
  rcases hresult : RedApid.objectCreateExternal outcome object session flags acquired with
    ⟨code, external⟩
  simp only [hresult] at hexternal ⊢
  split
  · rename_i hcode
    exact ⟨fun hsuccess => absurd hsuccess hcode, _, hexternal⟩
  · have hlocked : (if flags &&& OBJECT_CREATE_FLAG_LOCKED ≠ 0 then objectLock object external
        else external).Creating object payload (createdHolds flags object) pool := by
      unfold createdHolds
      by_cases hlocked : flags &&& OBJECT_CREATE_FLAG_LOCKED ≠ 0
      · -- only an object with an internal reference can be locked
        have hinternal : flags &&& OBJECT_CREATE_FLAG_INTERNAL ≠ 0 :=
          fun hzero => hvalid.2.2 ⟨hlocked, hzero⟩
        rw [if_pos hinternal] at hexternal
        rw [if_pos hlocked, if_pos hinternal, if_pos hlocked]
        exact hexternal.lock
      · rw [if_neg hlocked, if_neg hlocked]
        exact hexternal
    have hadded := hlocked.inventoryAddObject outcome.append type
    exact ⟨fun _ => hadded, _, hadded⟩

end Store.Creating

-- A new object takes over the holds of its payload, and its creator gets a reference to it.
-- If the creation fails the holds are left.
theorem Store.Accounted.createObject (outcome : ObjectCreation) (session : Option SessionRef)
    (flags : UInt32) (h : store.Accounted ownHolds (payload.holds ++ pool)) :
    let result := store.createObject outcome payload session flags
    (∀ object, result.1 = .ok object → object = store.objects.next ∧
      result.2.Accounted ownHolds (createdHolds flags object ++ pool)) ∧
    (∀ code, result.1 = .error code → result.2.Accounted ownHolds (payload.holds ++ pool)) := by
  simp only
  have hallocated := Store.Creating.callocObject h
  by_cases hvalid : ValidFlags session flags
  · obtain ⟨hsuccess, own, hfailure⟩ :=
      hallocated.objectCreateReferences outcome payload.type hvalid
    rw [createObject_of_valid outcome payload store hvalid]
    simp only
    split
    · rename_i hcode
      refine ⟨fun object hobject => ?_, fun code hcode => (nomatch hcode)⟩
      cases hobject
      exact ⟨rfl, (hsuccess hcode).accounted⟩
    · exact ⟨fun object hobject => (nomatch hobject), fun code _ => hfailure.freeMemory⟩
  · rw [createObject_of_invalid outcome payload store hvalid]
    exact ⟨fun object hobject => (nomatch hobject), fun code _ => hallocated.freeMemory⟩

theorem Store.Kept.inventoryAddObject (append : Option APIError) (type : ObjectType)
    (object : ObjectRef) (store : Store) :
    store.Kept (inventoryAddObject append type object store).2 := by
  unfold RedApid.inventoryAddObject inventoryGetNextObjectId
  cases nextFreeId store.objectIdInUse store.nextObjectId with
  | mk found next =>
      cases found with
      | none => exact .congr rfl rfl
      | some id =>
          have hcounter : store.Kept { store with nextObjectId := next } := .congr rfl rfl
          have hstored := hcounter.trans
            (.modifyObject _ object (f := fun o => { o with id }) (by intro _; rfl))
          cases append with
          | some code => exact hstored
          | none => exact hstored.trans (.congr rfl rfl)

theorem Store.Kept.objectCreateReferences (outcome : ObjectCreation) (object : ObjectRef)
    (type : ObjectType) (session : Option SessionRef) (flags : UInt32) (store : Store) :
    store.Kept (objectCreateReferences outcome object type session flags store).2 := by
  unfold RedApid.objectCreateReferences
  have hacquired : store.Kept (if flags &&& OBJECT_CREATE_FLAG_INTERNAL ≠ 0 then
      objectAddInternalReference object store else store) := by
    split
    · exact .modifyObject store object fun _ => rfl
    · exact .refl store
  generalize (if flags &&& OBJECT_CREATE_FLAG_INTERNAL ≠ 0 then
      objectAddInternalReference object store else store) = acquired at hacquired ⊢
  have hexternal := hacquired.trans (.of_sameInternals
    (objectCreateExternal_sameInternals outcome object session flags acquired))
  simp only
  split
  · exact hexternal
  · refine Store.Kept.trans ?_ (.inventoryAddObject _ _ _ _)
    split
    · exact hexternal.trans (.modifyObject _ object (by intro _; rfl))
    · exact hexternal

-- Besides the new object there are only those from before.
theorem createObject_objects (outcome : ObjectCreation) (payload : Payload)
    (session : Option SessionRef) (flags : UInt32) (store : Store) {p : ObjectRef} {o : Object}
    (ho : (store.createObject outcome payload session flags).2.objects.get p = some o) :
    (p = store.objects.next ∧ o.core = (payload.type, payload) ∧
      ∃ object, (store.createObject outcome payload session flags).1 = .ok object) ∨
      ∃ o', store.objects.get p = some o' ∧ o.core = o'.core := by
  have hallocated : ∀ p o, (store.callocObject payload).2.objects.get p = some o →
      (p = store.objects.next ∧ o.core = (payload.type, payload)) ∨
        (p ≠ store.objects.next ∧ store.objects.get p = some o) := by
    intro p o ho
    unfold Store.callocObject at ho
    rw [Heap.get_alloc] at ho
    split_ifs at ho with hp
    · cases ho
      exact Or.inl ⟨hp, rfl⟩
    · exact Or.inr ⟨hp, ho⟩
  have hfreed : ∀ other : Store, (store.callocObject payload).2.Kept other →
      (other.freeMemory store.objects.next).objects.get p = some o →
      ∃ o', store.objects.get p = some o' ∧ o.core = o'.core := by
    intro other hkept ho
    unfold Store.freeMemory at ho
    rw [Heap.get_free] at ho
    split_ifs at ho with hp
    obtain ⟨o', ho', hcore⟩ := hkept.objects p o ho
    exact ⟨o', ((hallocated p o' ho').resolve_left fun h => hp h.1).2, hcore⟩
  by_cases hvalid : ValidFlags session flags
  · have hkept := Store.Kept.objectCreateReferences outcome store.objects.next payload.type session
      flags (store.callocObject payload).2
    rw [createObject_of_valid outcome payload store hvalid] at ho ⊢
    simp only at ho ⊢
    split at ho
    · rename_i hcode
      obtain ⟨o', ho', hcore⟩ := hkept.objects p o ho
      rw [if_pos hcode]
      rcases hallocated p o' ho' with ⟨hp, hnew⟩ | ⟨-, ho'⟩
      · exact Or.inl ⟨hp, hcore.trans hnew, _, rfl⟩
      · exact Or.inr ⟨o', ho', hcore⟩
    · exact Or.inr (hfreed _ hkept ho)
  · rw [createObject_of_invalid outcome payload store hvalid] at ho
    exact Or.inr (hfreed _ (.refl _) ho)

theorem createObject_stockStrings (outcome : ObjectCreation) (payload : Payload)
    (session : Option SessionRef) (flags : UInt32) (store : Store) :
    (store.createObject outcome payload session flags).2.stockStrings = store.stockStrings := by
  have hkept := Store.Kept.objectCreateReferences outcome store.objects.next payload.type session
    flags (store.callocObject payload).2
  by_cases hvalid : ValidFlags session flags
  · rw [createObject_of_valid outcome payload store hvalid]
    simp only
    split <;> exact hkept.stockStrings
  · rw [createObject_of_invalid outcome payload store hvalid]
    rfl

theorem Store.Kept.createObject_error {outcome : ObjectCreation} {session : Option SessionRef}
    {flags : UInt32} {code : APIE}
    (h : (store.createObject outcome payload session flags).1 = .error code) :
    store.Kept (store.createObject outcome payload session flags).2 := by
  refine ⟨fun p o ho => ?_, createObject_stockStrings outcome payload session flags store⟩
  rcases createObject_objects outcome payload session flags store ho with ⟨-, -, object, hok⟩ | hkept
  · rw [h] at hok
    cases hok
  · exact hkept

end Create

end RedApid

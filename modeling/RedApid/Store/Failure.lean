import RedApid.Store.Creation

namespace RedApid

open Memory

-- What a failed creation of an object at the address `object` leaves behind: nothing.
structure Store.NoTrace (store other : Store) (object : ObjectRef) : Prop where
  sessions : other.sessions = store.sessions
  references : other.references = store.references
  objectArray : other.objectArray = store.objectArray
  sessionArray : other.sessionArray = store.sessionArray
  stockStrings : other.stockStrings = store.stockStrings
  unreferenced : ∀ p s, other.sessions.get p = some s → ∀ r ∈ s.externalReferences,
    ∀ e, other.references.get r = some e → e.object ≠ object

-- The new object gets an external reference, and then either no ID or no place in its array.
def Store.LeavesEntry (store : Store) (outcome : ObjectCreation) (session : Option SessionRef)
    (flags : UInt32) : Prop :=
  ValidFlags session flags ∧ flags &&& OBJECT_CREATE_FLAG_EXTERNAL ≠ 0 ∧
    (∃ s, session = some s ∧ store.sessions.get s ≠ none) ∧ outcome.calloc = true ∧
    ((∀ id, id ≠ 0 → store.objectIdInUse id = true) ∨ outcome.append ≠ none)

section Steps

variable {store : Store}

theorem objectAddExternalReference_of_new {object : ObjectRef} {session : SessionRef} {o : Object}
    (ho : store.objects.get object = some o) (hnew : o.externalReferences = [])
    (hsession : store.sessions.get session ≠ none) (calloc : Bool) :
    objectAddExternalReference calloc object session store =
      if calloc then (.success, store.createReference object session)
      else (.noFreeMemory, store) := by
  have hfind : store.findReference object session = none := by
    simp only [Store.findReference, ho, hnew, Option.bind_some, List.find?_nil]
  have hlive : ¬ (store.objects.get object = none ∨ store.sessions.get session = none) := by
    simp [ho, hsession]
  simp only [objectAddExternalReference, if_neg hlive, hfind]
  cases calloc <;> rfl

-- The external reference of a new object is made, or the references stay as they are.
theorem objectCreateExternal_cases (outcome : ObjectCreation) {object : ObjectRef} {o : Object}
    (session : Option SessionRef) (flags : UInt32) (ho : store.objects.get object = some o)
    (hnew : o.externalReferences = []) :
    let result := objectCreateExternal outcome object session flags store
    (∃ s, session = some s ∧ store.sessions.get s ≠ none ∧
      flags &&& OBJECT_CREATE_FLAG_EXTERNAL ≠ 0 ∧ outcome.calloc = true ∧
      result = (.success, store.createReference object s)) ∨
    (¬ (flags &&& OBJECT_CREATE_FLAG_EXTERNAL ≠ 0 ∧
        (∃ s, session = some s ∧ store.sessions.get s ≠ none) ∧ outcome.calloc = true) ∧
      result.2.sessions = store.sessions ∧ result.2.references = store.references) := by
  simp only
  by_cases hflag : flags &&& OBJECT_CREATE_FLAG_EXTERNAL ≠ 0
  · cases session with
    | none =>
        right
        refine ⟨?_, rfl, rfl⟩
        rintro ⟨-, ⟨s, hs, -⟩, -⟩
        cases hs
    | some s =>
        simp only [objectCreateExternal, if_pos hflag]
        by_cases hsession : store.sessions.get s = none
        · right
          have hfreed : store.objects.get object = none ∨ store.sessions.get s = none :=
            Or.inr hsession
          simp only [objectAddExternalReference, if_pos hfreed]
          refine ⟨?_, rfl, rfl⟩
          rintro ⟨-, ⟨s', hs', hlive⟩, -⟩
          cases hs'
          exact hlive hsession
        · rw [objectAddExternalReference_of_new ho hnew hsession]
          cases hcalloc : outcome.calloc with
          | true => exact Or.inl ⟨s, rfl, hsession, hflag, rfl, rfl⟩
          | false =>
              right
              refine ⟨?_, rfl, rfl⟩
              rintro ⟨-, -, hcalloc'⟩
              cases hcalloc'
  · right
    refine ⟨fun h => hflag h.1, ?_⟩
    unfold objectCreateExternal
    cases session with
    | none => exact ⟨rfl, rfl⟩
    | some s =>
        simp only [if_neg hflag]
        exact ⟨trivial, trivial⟩

-- An ID other than zero is in use whatever object has the ID zero.
theorem Store.objectIdInUse_congr {other : Store} (harray : other.objectArray = store.objectArray)
    {id : ObjectID} (hid : ∀ p, store.objectId p = some id → other.objectId p = some id)
    (h : store.objectIdInUse id = true) : other.objectIdInUse id = true := by
  simp only [objectIdInUse, harray, List.any_eq_true, beq_iff_eq] at h ⊢
  obtain ⟨type, htype, p, hp, hsome⟩ := h
  exact ⟨type, htype, p, hp, hid p hsome⟩

theorem Store.createReference_sessions_ne (store : Store) (object : ObjectRef)
    {session : SessionRef} (hsession : store.sessions.get session ≠ none) :
    (store.createReference object session).sessions ≠ store.sessions := by
  obtain ⟨s, hs⟩ := Option.ne_none_iff_exists'.mp hsession
  intro hsame
  have hget : (store.createReference object session).sessions.get session =
      some { s with
        externalReferences := s.externalReferences ++ [store.references.next]
        externalReferenceCount := s.externalReferenceCount + 1 } := by
    simp [createReference, countExternal, countSession, countObject, linkSession, linkObject,
      callocReference, hs]
  rw [hsame, hs] at hget
  have hcount := congrArg (Option.map (·.externalReferenceCount)) hget
  simp at hcount

-- Two stores that differ in internal references and locks only.
structure Store.SameExternals (store other : Store) : Prop where
  objects : ∀ p, (other.objects.get p).map (fun o => (o.id, o.externalReferences)) =
    (store.objects.get p).map fun o => (o.id, o.externalReferences)
  sessions : other.sessions = store.sessions
  references : other.references = store.references
  objectArray : other.objectArray = store.objectArray
  sessionArray : other.sessionArray = store.sessionArray
  stockStrings : other.stockStrings = store.stockStrings

theorem Store.SameExternals.modifyObject_if (condition : Prop) [Decidable condition]
    (store : Store) (object : ObjectRef) {f : Object → Object}
    (hf : ∀ o, (f o).id = o.id ∧ (f o).externalReferences = o.externalReferences) :
    store.SameExternals (if condition then store.modifyObject object f else store) := by
  split
  · refine ⟨fun p => ?_, by simp, by simp, by simp, by simp, by simp⟩
    rw [Store.modifyObject_objects, Heap.get_modify]
    split_ifs
    · cases store.objects.get p with
      | none => rfl
      | some o => exact congrArg some (Prod.ext (hf o).1 (hf o).2)
    · rfl
  · exact ⟨fun _ => rfl, rfl, rfl, rfl, rfl, rfl⟩

theorem Store.SameExternals.objectId {other : Store} (h : store.SameExternals other) :
    other.objectId = store.objectId := by
  funext p
  have hid : ∀ o : Option Object,
      o.map (·.id) = (o.map fun o => (o.id, o.externalReferences)).map Prod.fst := by
    rintro (_ | o) <;> rfl
  unfold Store.objectId
  rw [hid, h.objects p, ← hid]

theorem Store.SameInternals.objectId {other : Store} (h : store.SameInternals other) :
    other.objectId = store.objectId := by
  funext p
  have hid : ∀ o : Option Object, o.map (·.id) = (o.map Object.internals).map (·.id) := by
    rintro (_ | o) <;> rfl
  unfold Store.objectId
  rw [hid, h.objects p, ← hid]

-- The sessions differ from before if and only if the external reference was made.
theorem objectCreateReferences_cases (outcome : ObjectCreation) {object : ObjectRef} {o : Object}
    (type : ObjectType) (session : Option SessionRef) (flags : UInt32)
    (ho : store.objects.get object = some o) (hnew : o.externalReferences = []) :
    let result := objectCreateReferences outcome object type session flags store
    result.2.sessionArray = store.sessionArray ∧ result.2.stockStrings = store.stockStrings ∧
    ((flags &&& OBJECT_CREATE_FLAG_EXTERNAL ≠ 0 ∧
        (∃ s, session = some s ∧ store.sessions.get s ≠ none) ∧ outcome.calloc = true ∧
        result.2.sessions ≠ store.sessions ∧
        (result.1 ≠ .success →
          (∀ id, id ≠ 0 → store.objectIdInUse id = true) ∨ outcome.append ≠ none)) ∨
      (¬ (flags &&& OBJECT_CREATE_FLAG_EXTERNAL ≠ 0 ∧
          (∃ s, session = some s ∧ store.sessions.get s ≠ none) ∧ outcome.calloc = true) ∧
        result.2.sessions = store.sessions ∧ result.2.references = store.references)) := by
  simp only
  unfold objectCreateReferences
  have hacquired : store.SameExternals (if flags &&& OBJECT_CREATE_FLAG_INTERNAL ≠ 0 then
      objectAddInternalReference object store else store) :=
    .modifyObject_if _ store object fun _ => ⟨rfl, rfl⟩
  generalize (if flags &&& OBJECT_CREATE_FLAG_INTERNAL ≠ 0 then
      objectAddInternalReference object store else store) = acquired at hacquired ⊢
  obtain ⟨o', ho', hnew'⟩ : ∃ o', acquired.objects.get object = some o' ∧
      o'.externalReferences = [] := by
    have hget := hacquired.objects object
    rw [ho, Option.map_some] at hget
    obtain ⟨o', ho', hsame⟩ := Option.map_eq_some_iff.mp hget
    exact ⟨o', ho', (congrArg Prod.snd hsame).trans hnew⟩
  have hsame := objectCreateExternal_sameInternals outcome object session flags acquired
  have hcases := objectCreateExternal_cases outcome session flags ho' hnew'
  simp only [hacquired.sessions, hacquired.references] at hcases
  have hsessionArray := hsame.sessionArray.trans hacquired.sessionArray
  have hstockStrings := hsame.stockStrings.trans hacquired.stockStrings
  rcases hresult : objectCreateExternal outcome object session flags acquired with ⟨code, external⟩
  simp only [hresult] at hsame hcases hsessionArray hstockStrings ⊢
  by_cases hcode : code = .success
  · rw [if_neg (not_not.mpr hcode)]
    have hlocked : external.SameExternals (if flags &&& OBJECT_CREATE_FLAG_LOCKED ≠ 0 then
        objectLock object external else external) :=
      .modifyObject_if _ external object fun _ => ⟨rfl, rfl⟩
    generalize (if flags &&& OBJECT_CREATE_FLAG_LOCKED ≠ 0 then
        objectLock object external else external) = locked at hlocked ⊢
    obtain ⟨-, hsessions, hreferences, harray, hstock, -, -⟩ :=
      inventoryAddObject_frame outcome.append type object locked
    refine ⟨harray.trans (hlocked.sessionArray.trans hsessionArray),
      hstock.trans (hlocked.stockStrings.trans hstockStrings), ?_⟩
    rcases hcases with ⟨s, hs, hlive, hflag, hcalloc, hmade⟩ | ⟨hnone, hsessions', hreferences'⟩
    · left
      refine ⟨hflag, ⟨s, hs, hlive⟩, hcalloc, ?_, fun hfailed => ?_⟩
      · have hexternal : external = acquired.createReference object s := congrArg Prod.snd hmade
        rw [hsessions, hlocked.sessions, hexternal]
        have hne := acquired.createReference_sessions_ne object (hacquired.sessions ▸ hlive)
        rwa [hacquired.sessions] at hne
      · refine (inventoryAddObject_fails_iff outcome.append type object locked).mp hfailed |>.imp_left
          fun hall id hid => ?_
        refine Store.objectIdInUse_congr ?_ (fun p hp => ?_) (hall id hid)
        · rw [hlocked.objectArray, hsame.objectArray, hacquired.objectArray]
        · rwa [hlocked.objectId, hsame.objectId, hacquired.objectId] at hp
    · right
      exact ⟨hnone, hsessions.trans (hlocked.sessions.trans hsessions'),
        hreferences.trans (hlocked.references.trans hreferences')⟩
  · rw [if_pos hcode]
    refine ⟨hsessionArray, hstockStrings, ?_⟩
    rcases hcases with ⟨s, hs, hlive, hflag, hcalloc, hmade⟩ | hnone
    · exact absurd (congrArg Prod.fst hmade) hcode
    · exact Or.inr hnone

end Steps

section Failures

variable {store : Store}

theorem Store.callocObject_objectIdInUse (payload : Payload) {id : ObjectID} (hid : id ≠ 0)
    (h : (store.callocObject payload).2.objectIdInUse id = true) : store.objectIdInUse id = true := by
  have harray : store.objectArray = (store.callocObject payload).2.objectArray := rfl
  refine Store.objectIdInUse_congr harray (fun p hp => ?_) h
  unfold objectId callocObject at hp
  rw [Heap.get_alloc] at hp
  split_ifs at hp
  · exact absurd (Option.some.inj hp).symm hid
  · exact hp

-- A creation that fails leaves its entry in the list of the session, or it changes no table.
theorem createObject_failed_cases (outcome : ObjectCreation) (payload : Payload)
    (session : Option SessionRef) (flags : UInt32)
    (hfailed : ∀ object, (store.createObject outcome payload session flags).1 ≠ .ok object) :
    let other := (store.createObject outcome payload session flags).2
    (store.LeavesEntry outcome session flags ∧ other.sessions ≠ store.sessions) ∨
      (¬store.LeavesEntry outcome session flags ∧ other.sessions = store.sessions ∧
        other.references = store.references ∧ other.objectArray = store.objectArray ∧
        other.sessionArray = store.sessionArray ∧ other.stockStrings = store.stockStrings) := by
  by_cases hvalid : ValidFlags session flags
  · obtain ⟨-, -, hfailure⟩ := objectCreateReferences_frame outcome store.objects.next payload.type
      session flags (store.callocObject payload).2
    have hget : (store.callocObject payload).2.objects.get store.objects.next =
        some ⟨0, payload.type, 0, [], 0, 0, payload⟩ := store.objects.get_alloc_next _
    obtain ⟨harray, hstock, hcases⟩ :=
      objectCreateReferences_cases outcome payload.type session flags hget rfl
    rw [createObject_of_valid outcome payload store hvalid] at hfailed ⊢
    simp only at hfailed ⊢
    have hcode : ¬ (objectCreateReferences outcome store.objects.next payload.type session flags
        (store.callocObject payload).2).1 = .success := by
      intro hcode
      rw [if_pos hcode] at hfailed
      exact hfailed _ rfl
    rw [if_neg hcode]
    rcases hcases with ⟨hflag, hsession, hcalloc, hne, hwhy⟩ | ⟨hnone, hsessions, hkept⟩
    · -- the entry was made, and it stays in the list of the session
      refine Or.inl ⟨⟨hvalid, hflag, hsession, hcalloc, (hwhy hcode).imp_left fun hall id hid => ?_⟩,
        hne⟩
      exact store.callocObject_objectIdInUse payload hid (hall id hid)
    · refine Or.inr ⟨?_, hsessions, hkept, hfailure hcode, harray, hstock⟩
      rintro ⟨-, hflag, hsession, hcalloc, -⟩
      exact hnone ⟨hflag, hsession, hcalloc⟩
  · rw [createObject_of_invalid outcome payload store hvalid]
    exact Or.inr ⟨fun h => hvalid h.1, rfl, rfl, rfl, rfl, rfl⟩

-- A creation that fails leaves no trace if and only if it does not fail behind the new
-- external reference.
theorem createObject_noTrace_iff (outcome : ObjectCreation) (payload : Payload)
    (session : Option SessionRef) (flags : UInt32)
    (hreferences : ∀ r e, store.references.get r = some e → e.object ≠ store.objects.next)
    (hfailed : ∀ object, (store.createObject outcome payload session flags).1 ≠ .ok object) :
    store.NoTrace (store.createObject outcome payload session flags).2 store.objects.next ↔
      ¬ store.LeavesEntry outcome session flags := by
  rcases createObject_failed_cases outcome payload session flags hfailed with
    ⟨hleaves, hne⟩ | ⟨hnot, hsessions, hkept, hobjectArray, hsessionArray, hstock⟩
  · exact iff_of_false (fun h => hne h.sessions) fun h => h hleaves
  · refine iff_of_true ⟨hsessions, hkept, hobjectArray, hsessionArray, hstock, ?_⟩ hnot
    intro p s _ r _ e he
    rw [hkept] at he
    exact hreferences r e he

-- A creation that has no ID or no place for the object fails.
theorem createObject_ok_place {outcome : ObjectCreation} {payload : Payload}
    {session : Option SessionRef} {flags : UInt32} {object : ObjectRef}
    (hok : (store.createObject outcome payload session flags).1 = .ok object) :
    ¬((∀ id, id ≠ 0 → store.objectIdInUse id = true) ∨ outcome.append ≠ none) := by
  obtain ⟨rfl, -, hcreated⟩ := createObject_ok hok
  unfold objectCreateReferences at hcreated
  have hacquired : (store.callocObject payload).2.SameExternals
      (if flags &&& OBJECT_CREATE_FLAG_INTERNAL ≠ 0 then
        objectAddInternalReference store.objects.next (store.callocObject payload).2
      else (store.callocObject payload).2) :=
    .modifyObject_if _ _ store.objects.next fun _ => ⟨rfl, rfl⟩
  generalize (if flags &&& OBJECT_CREATE_FLAG_INTERNAL ≠ 0 then
      objectAddInternalReference store.objects.next (store.callocObject payload).2
    else (store.callocObject payload).2) = acquired at hacquired hcreated
  have hsame := objectCreateExternal_sameInternals outcome store.objects.next session flags acquired
  rcases hresult : objectCreateExternal outcome store.objects.next session flags acquired with
    ⟨code, external⟩
  simp only [hresult] at hsame hcreated
  by_cases hcode : code = .success
  · rw [if_neg (not_not.mpr hcode)] at hcreated
    have hlocked : external.SameExternals (if flags &&& OBJECT_CREATE_FLAG_LOCKED ≠ 0 then
        objectLock store.objects.next external else external) :=
      .modifyObject_if _ external store.objects.next fun _ => ⟨rfl, rfl⟩
    generalize (if flags &&& OBJECT_CREATE_FLAG_LOCKED ≠ 0 then
        objectLock store.objects.next external else external) = locked at hlocked hcreated
    intro hplace
    refine (inventoryAddObject_fails_iff outcome.append payload.type store.objects.next locked).mpr
      (hplace.imp_left fun hall id hid => ?_) (congrArg Prod.fst hcreated)
    have harray : locked.objectArray = store.objectArray := by
      rw [hlocked.objectArray, hsame.objectArray, hacquired.objectArray]
      rfl
    refine Store.objectIdInUse_congr harray (fun p hp => ?_) (hall id hid)
    rw [hlocked.objectId, hsame.objectId, hacquired.objectId]
    have hne : p ≠ store.objects.next := by
      rintro rfl
      have hnone := Heap.get_eq_none_of_next_le store.objects (Nat.le_refl _)
      simp [Store.objectId, hnone] at hp
    unfold Store.objectId Store.callocObject at *
    rwa [Heap.get_alloc, if_neg hne]
  · rw [if_pos hcode] at hcreated
    exact absurd (congrArg Prod.fst hcreated) hcode

-- Entries belong to live objects.
theorem Store.Counted.references_ne_next (h : store.Counted) :
    ∀ r e, store.references.get r = some e → e.object ≠ store.objects.next := by
  intro r e he hnext
  refine h.linked.objects.owner_live r e he ?_
  rw [show objectLedger.owner e = store.objects.next from hnext]
  exact Heap.get_eq_none_of_next_le _ (Nat.le_refl _)

theorem listAllocate_createObject (outcome : ListCreation) (session : Option SessionRef)
    (flags : UInt32) (store : Store) :
    (∃ code, code ≠ .success ∧ listAllocate outcome session flags store = (.error code, store) ∧
        ¬(outcome.calloc = true ∧ outcome.arrayCreate = none)) ∨
      (outcome.calloc = true ∧ outcome.arrayCreate = none ∧
        listAllocate outcome session flags store =
          store.createObject outcome.objectCreate (.list []) session flags) := by
  unfold listAllocate
  cases hcalloc : outcome.calloc with
  | false =>
      refine Or.inl ⟨_, ?_, rfl, fun h => ?_⟩
      · decide
      · cases h.1
  | true =>
      cases harray : outcome.arrayCreate with
      | some code => exact Or.inl ⟨_, code.property, rfl, fun h => by cases h.2⟩
      | none => exact Or.inr ⟨rfl, rfl, rfl⟩

end Failures

section Examples

def oneSessionStore : Store := (sessionCreate ⟨true, none, none, none⟩ 10 Store.init).2

def noFreeMemory : APIError := ⟨.noFreeMemory, by decide⟩

-- array_append fails for a list that a client allocates.
def failedListStore : Except APIE ObjectRef × Store :=
  oneSessionStore.createObject ⟨true, some noFreeMemory⟩ (.list []) (some 0)
    OBJECT_CREATE_FLAG_EXTERNAL

theorem oneSessionStore_noTrace_iff :
    oneSessionStore.NoTrace failedListStore.2 0 ↔
      ¬ oneSessionStore.LeavesEntry ⟨true, some noFreeMemory⟩ (some 0)
        OBJECT_CREATE_FLAG_EXTERNAL :=
  createObject_noTrace_iff ⟨true, some noFreeMemory⟩ (.list []) (some 0) OBJECT_CREATE_FLAG_EXTERNAL
    (sessionCreate_counted ⟨true, none, none, none⟩ 10 .init).references_ne_next
    (fun _ h => by cases h)

theorem failedListStore_leavesEntry :
    failedListStore.1 = .error .noFreeMemory ∧ ¬ oneSessionStore.NoTrace failedListStore.2 0 := by
  refine ⟨rfl, fun h => ?_⟩
  have := h.sessions
  revert this
  decide

end Examples

end RedApid

import RedApid.Api.RoundTrip
import RedApid.Store.Calls

namespace RedApid

open Memory

section Requests

variable (grow : GrowAllocation) (uid : UInt32)

-- A request for sessions, objects, strings or lists, a timer that fires, and time that passes.
inductive ObjectEvent where
  | request (outcome : Outcomes) (packet : Packet)
  | fire (session : SessionRef)
  | elapse (duration : Nat)

def TimedStore.serve (t : TimedStore) : ObjectEvent → Option TimedStore
  | .request outcome packet =>
      if packet.called.all (· ∈ APIFunctionID.onObjects) then
        some (apiHandleRequest uid (objectBodies .byIndex grow outcome) packet t).2
      else none
  | .fire session => t.next .byIndex (.fire session)
  | .elapse duration => t.next .byIndex (.elapse duration)

-- The call that a request makes for a session.
def Outcomes.call (outcome : Outcomes) (id : APIFunctionID) (members : Members)
    (session : Option SessionRef) : Option ObjectCall :=
  match id, session with
  | .createSession, _ => some (.sessionCreate outcome.session (members.get .lifetime).toUInt32)
  | .expireSession, some session | .expireSessionUnchecked, some session =>
      some (.sessionExpire session)
  | .releaseObject, some session | .releaseObjectUnchecked, some session =>
      some (.objectRelease (members.get .objectId).toUInt16 session)
  | .allocateString, some session =>
      some (.stringAllocate grow outcome.memory outcome.stringCalloc outcome.objectCreate
        (members.get .lengthToReserve).toUInt32 (members .buffer) session)
  | .allocateList, some session => some (.listAllocate outcome.list session)
  | .appendToList, _ => some (.listAppendTo outcome.append (members.get .listId).toUInt16
      (members.get .itemObjectId).toUInt16)
  | .removeFromList, _ =>
      some (.listRemoveFrom (members.get .listId).toUInt16 (members.get .index).toUInt16)
  | _, _ => none

-- The write of a chunk fits into the buffer of the string.
def Outcomes.Fits (outcome : Outcomes) (members : Members) (store : Store) (string : ObjectRef) : Prop :=
  ∀ o s, store.objects.get string = some o → o.payload = .string s →
    (StringCall.setChunk outcome.memory o.lockCount (members.get .offset).toUInt32
      (members .buffer)).Fits s

-- No list is destroyed inside the destruction of a list behind it, a creation that fails leaves no
-- entry, and no chunk ends just where its buffer does.
def ObjectEvent.Meets (t : TimedStore) : ObjectEvent → Prop
  | .request outcome packet => ∀ id object session, packet.called = some id →
      id.lookup.find (packet.members id) t.store = .ok (object, session) →
        (∀ call ∈ outcome.call grow id (packet.members id) session, call.Meets t.store) ∧
        (id = .setStringChunk → ∀ string ∈ object,
          outcome.Fits (packet.members id) t.store string)
  | .fire session => (ObjectCall.sessionExpire session).Meets t.store
  | .elapse _ => True

end Requests

section Lookup

variable {lookup : Lookup} {members : Members} {store : Store} {object : Option ObjectRef}
  {session : Option SessionRef}

-- What a body can rely on.
structure Lookup.Found (lookup : Lookup) (members : Members) (store : Store)
    (object : Option ObjectRef) (session : Option SessionRef) : Prop where
  object : ∀ types name, lookup.object = some (types, name) → ∃ found, object = some found ∧
    inventoryGetObject types (members.get name).toUInt16 store = .ok found
  session : lookup.session = true → ∃ found, session = some found ∧ found ∈ store.sessionArray

theorem Lookup.find_ok (h : lookup.find members store = .ok (object, session)) :
    lookup.Found members store object session := by
  unfold Lookup.find at h
  cases hobject : lookup.objectOf members store with
  | error code =>
      rw [hobject] at h
      cases h
  | ok found =>
      rw [hobject] at h
      dsimp only at h
      cases hsession : lookup.sessionOf members store with
      | error code =>
          rw [hsession] at h
          cases h
      | ok other =>
          rw [hsession] at h
          cases h
          constructor
          · intro types name htypes
            rw [Lookup.objectOf, htypes] at hobject
            dsimp only at hobject
            cases hget : inventoryGetObject types (members.get name).toUInt16 store with
            | error code =>
                rw [hget] at hobject
                cases hobject
            | ok p =>
                rw [hget] at hobject
                cases hobject
                exact ⟨p, rfl, rfl⟩
          · intro hneeded
            rw [Lookup.sessionOf, if_pos hneeded] at hsession
            cases hget : inventoryGetSession (members.get .sessionId).toUInt16 store with
            | error code =>
                rw [hget] at hsession
                cases hsession
            | ok s =>
                rw [hget] at hsession
                cases hsession
                exact ⟨s, rfl, inventoryGetSession_ok hget⟩

end Lookup

section Bodies

variable {grow : GrowAllocation} {outcome : Outcomes} {members : Members} {store : Store}
  {session : SessionRef}

-- A body that only reads or writes a string.
theorem Store.Safe.onString (h : store.Safe) {id : ObjectID} {string : ObjectRef}
    (hfound : inventoryGetObject [.string] id store = .ok string) {α : Type} (dead : α)
    (f : Nat → StringObject → α × StringObject)
    (hf : ∀ o s, store.objects.get string = some o → o.payload = .string s → s.Sound →
      (f o.lockCount s).2.Sound) :
    (store.onString string dead f).2.Safe ∧
      (store.onString string dead f).2.sessionArray = store.sessionArray := by
  obtain ⟨o, ho, -, htype, -⟩ := h.sound.found hfound
  have hstring : o.payload.type = .string :=
    (h.typed string o ho).symm.trans (List.mem_singleton.mp htype)
  cases hpayload : o.payload with
  | string s =>
      have hsound := h.contents string o ho
      rw [hpayload] at hsound
      simp only [Store.onString, ho, hpayload]
      exact ⟨h.setString ho hstring (hf o s ho hpayload hsound), store.modifyObject_sessionArray _ _⟩
  | list _ | file _ | directory _ | process _ | program _ =>
      rw [hpayload] at hstring
      cases hstring

theorem Store.Safe.runCall (h : store.Safe) {call : ObjectCall} (hcall : call.onSessions = false)
    (hmeets : call.Meets store) (hlive : ∀ session ∈ call.session, session ∈ store.sessionArray) :
    (call.run .byIndex store).Safe ∧
      (call.run .byIndex store).sessionArray = store.sessionArray :=
  ⟨h.run hmeets hlive, h.run_sessionArray hcall hmeets hlive⟩

-- The body of each function, with what was looked up for it.
theorem storeFunction_safe (h : store.Safe) {id : APIFunctionID}
    (hid : id ∈ APIFunctionID.onObjects) (hfunction : id.IsFunction)
    (hsessions : id ≠ .createSession ∧ id ≠ .expireSession ∧ id ≠ .keepSessionAlive)
    {object : Option ObjectRef} {session : Option SessionRef}
    (hfound : id.lookup.Found members store object session)
    (hcalls : ∀ call ∈ outcome.call grow id members session, call.Meets store)
    (hfits : id = .setStringChunk → ∀ string ∈ object, outcome.Fits members store string) :
    (storeFunction .byIndex grow outcome id members object session store).2.Safe ∧
      (storeFunction .byIndex grow outcome id members object session store).2.sessionArray =
        store.sessionArray := by
  obtain ⟨hobject, hsession⟩ := hfound
  simp only [APIFunctionID.onObjects, List.mem_cons, List.not_mem_nil, or_false] at hid
  rcases hid with rfl | rfl | rfl | rfl | rfl | rfl | rfl | rfl | rfl | rfl | rfl | rfl | rfl | rfl |
    rfl | rfl
  · exact absurd rfl hsessions.1
  · exact absurd rfl hsessions.2.1
  · cases hfunction
  · exact absurd rfl hsessions.2.2
  · -- release_object
    obtain ⟨object, rfl, hget⟩ := hobject _ _ rfl
    obtain ⟨session, rfl, hlive⟩ := hsession rfl
    have hrun := @Store.Safe.runCall store h (.objectRelease (members.get .objectId).toUInt16 session) rfl
      (hcalls _ rfl) (fun s hs => by cases hs; exact hlive)
    simp only [ObjectCall.run, hget] at hrun
    exact hrun
  · cases hfunction
  · -- allocate_string
    obtain ⟨session, rfl, hlive⟩ := hsession rfl
    exact @Store.Safe.runCall store h (.stringAllocate grow outcome.memory outcome.stringCalloc
      outcome.objectCreate (members.get .lengthToReserve).toUInt32 (members .buffer) session) rfl
      (hcalls _ rfl) (fun s hs => by cases hs; exact hlive)
  · -- truncate_string
    obtain ⟨string, rfl, hget⟩ := hobject _ _ rfl
    exact h.onString hget _ _ fun o s _ _ hs => StringObject.truncate_sound hs _ _
  · -- get_string_length
    obtain ⟨string, rfl, hget⟩ := hobject _ _ rfl
    exact h.onString hget _ _ fun o s _ _ hs => hs
  · -- set_string_chunk
    obtain ⟨string, rfl, hget⟩ := hobject _ _ rfl
    exact h.onString hget _ _ fun o s ho hpayload hs =>
      (StringObject.setChunk_sound_iff hs _ _ _ _).mpr (hfits rfl string rfl o s ho hpayload)
  · -- get_string_chunk
    obtain ⟨string, rfl, hget⟩ := hobject _ _ rfl
    exact h.onString hget _ _ fun o s _ _ hs => StringObject.getChunk_sound hs _ _
  · -- allocate_list
    obtain ⟨session, rfl, hlive⟩ := hsession rfl
    exact @Store.Safe.runCall store h (.listAllocate outcome.list session) rfl (hcalls _ rfl)
      (fun s hs => by cases hs; exact hlive)
  · -- get_list_length
    obtain ⟨list, rfl, hget⟩ := hobject _ _ rfl
    obtain ⟨l, hl, -⟩ := h.sound.list_payload h.typed hget
    simp only [storeFunction, Store.onList, hl]
    exact ⟨h, trivial⟩
  · -- get_list_item
    obtain ⟨list, rfl, hget⟩ := hobject _ _ rfl
    obtain ⟨session, rfl, hlive⟩ := hsession rfl
    have hsafe := h.listGetItem hget hlive outcome.referenceCalloc (members.get .index).toUInt16
    obtain ⟨l, hl, -⟩ := h.sound.list_payload h.typed hget
    have hcareful := Store.Careful.listGetItem outcome.referenceCalloc (members.get .index).toUInt16
      h.sound.holding.accounted hl (h.intact.live hlive)
    have harray := hcareful.sessionArray
    simp only [storeFunction]
    rcases hresult : listGetItem outcome.referenceCalloc list (members.get .index).toUInt16 session
      store with ⟨code | item, last⟩
    all_goals
      rw [hresult] at hsafe harray
      exact ⟨hsafe, harray⟩
  · -- append_to_list
    obtain ⟨list, rfl, hget⟩ := hobject _ _ rfl
    have hrun := @Store.Safe.runCall store h (.listAppendTo outcome.append (members.get .listId).toUInt16
      (members.get .itemObjectId).toUInt16) rfl (hcalls _ rfl) (fun s hs => by cases hs)
    simp only [ObjectCall.run, hget] at hrun
    exact hrun
  · -- remove_from_list
    obtain ⟨list, rfl, hget⟩ := hobject _ _ rfl
    have hrun := @Store.Safe.runCall store h (.listRemoveFrom (members.get .listId).toUInt16
      (members.get .index).toUInt16) rfl (hcalls _ rfl) (fun s hs => by cases hs)
    simp only [ObjectCall.run, hget] at hrun
    exact hrun

end Bodies

section Events

variable {grow : GrowAllocation} {uid : UInt32} {t t' : TimedStore}

-- What holds between two events.
structure TimedStore.Safe (t : TimedStore) : Prop where
  store : t.store.Safe
  listed : ∀ session, t.timers session ≠ none → session ∈ t.store.sessionArray

namespace TimedStore.Safe

theorem timed (h : t.Safe) : t.Sound where
  counted := h.store.sound.counted
  identified := h.store.sound.identified
  nodup := (List.append_nil t.store.sessionArray) ▸ h.store.intact.nodup
  listed := h.listed

theorem init : TimedStore.init.Safe := ⟨.init, fun _ hnot => absurd rfl hnot⟩

theorem withStore (h : t.Safe) {store : Store} (hsafe : store.Safe)
    (harray : store.sessionArray = t.store.sessionArray) : Safe { t with store } :=
  ⟨hsafe, fun session htimer => harray ▸ h.listed session htimer⟩

theorem create (h : t.Safe) (outcome : SessionCreation) (lifetime : UInt32) :
    (t.create outcome lifetime).2.Safe := by
  refine ⟨?_, (h.timed.create outcome lifetime).listed⟩
  have hsafe : (ObjectCall.run .byIndex t.store (.sessionCreate outcome lifetime)).Safe :=
    h.store.run trivial fun session hmem => by cases hmem
  rcases t.create_cases outcome lifetime with
    ⟨id, store, hcreate, rfl, -⟩ | ⟨code, store, hcreate, rfl, -⟩
  all_goals
    rw [hcreate]
    exact hsafe

theorem expire (h : t.Safe) {session : SessionRef} (hmem : session ∈ t.store.sessionArray)
    (hmeets : (ObjectCall.sessionExpire session).Meets t.store) :
    (t.expire .byIndex session).Safe := by
  refine ⟨?_, (h.timed.expire hmem).listed⟩
  have hsafe : (ObjectCall.run .byIndex t.store (.sessionExpire session)).Safe :=
    h.store.run hmeets fun other hother => by cases hother; exact hmem
  exact hsafe

theorem sessionKeepAlive (h : t.Safe) (configure : Option APIError) {session : SessionRef}
    (hmem : session ∈ t.store.sessionArray) (lifetime : UInt32) :
    (t.sessionKeepAlive configure session lifetime).2.Safe := by
  unfold TimedStore.sessionKeepAlive
  split_ifs
  · exact h
  · cases configure with
    | some code => exact h
    | none => exact ⟨h.store, (renew_sound h.timed hmem lifetime).listed⟩

theorem objectFunction (h : t.Safe) {outcome : Outcomes} {id : APIFunctionID} {members : Members}
    (hid : id ∈ APIFunctionID.onObjects) (hfunction : id.IsFunction) {object : Option ObjectRef}
    {session : Option SessionRef} (hfound : id.lookup.Found members t.store object session)
    (hcalls : ∀ call ∈ outcome.call grow id members session, call.Meets t.store)
    (hfits : id = .setStringChunk → ∀ string ∈ object, outcome.Fits members t.store string) :
    (objectFunction .byIndex grow outcome id members object session t).2.Safe := by
  unfold RedApid.objectFunction
  split
  · exact h.create outcome.session (members.get .lifetime).toUInt32
  · obtain ⟨session, hsame, hmem⟩ := hfound.session rfl
    cases hsame
    exact h.expire hmem (hcalls _ rfl)
  · obtain ⟨session, hsame, hmem⟩ := hfound.session rfl
    cases hsame
    exact h.sessionKeepAlive outcome.timerConfigure hmem (members.get .lifetime).toUInt32
  · rename_i hcreate hexpire hkeep
    have hsessions : id ≠ .createSession ∧ id ≠ .expireSession ∧ id ≠ .keepSessionAlive := by
      refine ⟨hcreate, ?_, ?_⟩
      · rintro rfl
        obtain ⟨session, hsame, -⟩ := hfound.session rfl
        exact hexpire session rfl hsame
      · rintro rfl
        obtain ⟨session, hsame, -⟩ := hfound.session rfl
        exact hkeep session rfl hsame
    obtain ⟨hsafe, harray⟩ :=
      storeFunction_safe h.store hid hfunction hsessions hfound hcalls hfits
    exact h.withStore hsafe harray

theorem objectProcedure (h : t.Safe) {outcome : Outcomes} {id : APIFunctionID} {members : Members}
    (hid : id ∈ APIFunctionID.onObjects) (hprocedure : ¬id.IsFunction) {object : Option ObjectRef}
    {session : Option SessionRef} (hfound : id.lookup.Found members t.store object session)
    (hcalls : ∀ call ∈ outcome.call grow id members session, call.Meets t.store) :
    (objectProcedure .byIndex id object session t).2.Safe := by
  have hcases : id = .expireSessionUnchecked ∨ id = .releaseObjectUnchecked := by
    revert hid hprocedure
    cases id <;> decide
  rcases hcases with rfl | rfl
  · obtain ⟨session, rfl, hmem⟩ := hfound.session rfl
    exact h.expire hmem (hcalls _ rfl)
  · obtain ⟨object, rfl, hget⟩ := hfound.object _ _ rfl
    obtain ⟨session, rfl, hmem⟩ := hfound.session rfl
    obtain ⟨hsafe, harray⟩ := @Store.Safe.runCall t.store h.store
      (.objectRelease (members.get .objectId).toUInt16 session) rfl (hcalls _ rfl)
      (fun s hs => by cases hs; exact hmem)
    simp only [ObjectCall.run, hget] at hsafe harray
    exact h.withStore hsafe harray

theorem effect (h : t.Safe) {outcome : Outcomes} {id : APIFunctionID} {members : Members}
    (hid : id ∈ APIFunctionID.onObjects)
    (hmeets : ∀ object session, id.lookup.find members t.store = .ok (object, session) →
      (∀ call ∈ outcome.call grow id members session, call.Meets t.store) ∧
      (id = .setStringChunk → ∀ string ∈ object, outcome.Fits members t.store string)) :
    ((objectBodies .byIndex grow outcome).effect id members t).Safe := by
  unfold APIBodies.effect
  cases hfind : id.lookup.find members ((objectBodies .byIndex grow outcome).store t) with
  | error code => exact h
  | ok found =>
      obtain ⟨object, session⟩ := found
      obtain ⟨hcalls, hfits⟩ := hmeets object session hfind
      have hfound := Lookup.find_ok hfind
      dsimp only
      split_ifs with hfunction
      · exact h.objectFunction hid hfunction hfound hcalls hfits
      · exact h.objectProcedure hid hfunction hfound hcalls

theorem serve (h : t.Safe) {event : ObjectEvent} (hnext : t.serve grow uid event = some t')
    (hmeets : event.Meets grow t) : t'.Safe := by
  cases event with
  | request outcome packet =>
      simp only [TimedStore.serve] at hnext
      split_ifs at hnext with hallowed
      cases hnext
      cases hcalled : packet.called with
      | none =>
          rw [apiHandleRequest_idle hcalled]
          exact h
      | some id =>
          rw [hcalled] at hallowed
          rw [apiHandleRequest_effect hcalled]
          exact h.effect (by simpa using hallowed) (hmeets id · · hcalled)
  | fire session =>
      simp only [TimedStore.serve, TimedStore.next] at hnext
      cases htimer : t.timers session with
      | none =>
          rw [htimer] at hnext
          cases hnext
      | some deadline =>
          simp only [htimer] at hnext
          split_ifs at hnext
          cases hnext
          exact h.expire (h.listed session (by simp [htimer])) hmeets
  | elapse duration =>
      cases hnext
      exact ⟨h.store, h.listed⟩

end TimedStore.Safe

-- Nothing that has been freed was accessed, no recursion got lost, no string was accessed outside of
-- its buffer, all references and locks are counted, the inventory lists just what is alive, and a
-- session leads to every object.
structure Store.MemorySafe (store : Store) : Prop where
  fault : store.fault = false
  overrun : store.overrun = false
  external : store.ReferencesExact
  internal : store.Accounted ownHolds []
  inBounds : ∀ p o s, store.objects.get p = some o → o.payload = .string s →
    s.buffer.InBounds ∧ s.length < s.buffer.size
  exact : store.Exact
  sessions : ∀ session, session ∈ store.sessionArray ↔ store.sessions.get session ≠ none
  live_iff : ∀ p,
    store.objects.get p ≠ none ↔ Graph.Reachable (store.Root []) store.Contains p

theorem Store.Safe.memorySafe {store : Store} (h : store.Safe) : store.MemorySafe where
  fault := h.intact.fault
  overrun := h.intact.overrun
  external := h.sound.counted.exact
  internal := h.sound.holding.accounted
  inBounds p o s ho hpayload := by
    have hsound := h.contents p o ho
    rw [hpayload] at hsound
    have hlength := hsound.length_lt
    exact ⟨hsound.inBounds, by rw [hsound.size_eq]; omega⟩
  exact := h.exact
  sessions session := by rw [← h.intact.live_iff session, List.append_nil]
  live_iff := h.live_iff

-- In any interleaving of requests and timers.
theorem requests_keep_memory_safe (grow : GrowAllocation) (uid : UInt32) (events : List ObjectEvent)
    (hmeets : Trace.Along (TimedStore.serve grow uid)
      (fun t event _ => event.Meets grow t) TimedStore.init events) :
    Trace.Always (TimedStore.serve grow uid) (fun t => t.store.MemorySafe) TimedStore.init events :=
  Trace.Always.mono (fun _ h => h.store.memorySafe)
    (Trace.always_of_along (fun _ _ _ (h : TimedStore.Safe _) hnext hmeets => h.serve hnext hmeets)
      .init hmeets)

end Events

section Examples

def requestEvent (id : APIFunctionID) (members : List (MemberName × List UInt8)) : ObjectEvent :=
  .request succeeding (Call.packet 7 ⟨id, fun name => (members.lookup name).getD [], 1, true⟩)

-- A string is made, written and released, then its session ends.
def stringEvents : List ObjectEvent :=
  [requestEvent .createSession [(.lifetime, [10])],
    requestEvent .allocateString [(.buffer, [65, 66]), (.sessionId, [1])],
    requestEvent .setStringChunk [(.stringId, [1]), (.offset, [2]), (.buffer, [67])],
    requestEvent .releaseObject [(.objectId, [1]), (.sessionId, [1])],
    .elapse 10000000, .fire 0]

theorem stringEvents_meet : Trace.Along (TimedStore.serve growTo16 7)
    (fun t event _ => event.Meets growTo16 t) TimedStore.init stringEvents := by
  refine ⟨?_, ?_, ?_, ?_, trivial, ?_, trivial⟩
  · rintro id object session hcalled hfind
    cases hcalled
    cases hfind
    refine ⟨fun call hcall => ?_, fun hid => absurd hid (by decide)⟩
    cases hcall
    trivial
  · rintro id object session hcalled hfind
    cases hcalled
    cases hfind
    refine ⟨fun call hcall => ?_, fun hid => absurd hid (by decide)⟩
    cases hcall
    intro string hstring
    exact not_leavesEntry rfl (by decide : (7 : ObjectID) ≠ 0) rfl
  · rintro id object session hcalled hfind
    cases hcalled
    cases hfind
    refine ⟨fun call hcall => absurd hcall (by simp [Outcomes.call]),
      fun _ string hstring o s ho hpayload => ?_⟩
    cases hstring
    cases ho
    cases hpayload
    intro _ _ _
    decide
  · rintro id object session hcalled hfind
    cases hcalled
    cases hfind
    refine ⟨fun call hcall => ?_, fun hid => absurd hid (by decide)⟩
    cases hcall
    rintro object hobject ⟨reference, hfind, o, ho, hzero, -, hcrosses⟩
    cases hobject
    cases hfind
    cases hcrosses.crossesIn 12
  · rintro hcrosses
    cases hcrosses with
    | here hhead => cases hhead
    | next hhead => cases hhead

theorem stringEvents_keep_memory_safe :
    (Trace.run (TimedStore.serve growTo16 7) TimedStore.init stringEvents).isSome ∧
      Trace.Always (TimedStore.serve growTo16 7) (fun t => t.store.MemorySafe) TimedStore.init
        stringEvents :=
  ⟨rfl, requests_keep_memory_safe growTo16 7 stringEvents stringEvents_meet⟩

end Examples

end RedApid

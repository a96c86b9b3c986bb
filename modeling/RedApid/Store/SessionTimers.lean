import RedApid.Store.Expiry
import RedApid.Trace

namespace RedApid

open Memory Trace

section Timers

-- The sessions with their expire timers. `timers` is the time at which a timer fires, none if
-- it is disarmed, in microseconds like the clock. No program reads `renewed`, the time of the
-- last session_create or session_keep_alive that succeeded.
structure TimedStore where
  store : Store
  clock : Nat
  timers : SessionRef → Option Nat
  renewed : SessionRef → Nat

namespace TimedStore

variable (t : TimedStore)

def init : TimedStore := ⟨Store.init, 0, fun _ => none, fun _ => 0⟩

-- timer_configure(&session->timer, delay, 0)
def timerConfigure (session : SessionRef) (delay : Nat) : TimedStore :=
  { t with
    timers := Function.update t.timers session (if delay = 0 then none else some (t.clock + delay)) }

def renew (session : SessionRef) (lifetime : UInt32) : TimedStore :=
  { t.timerConfigure session (lifetime.toNat * 1000000) with
    renewed := Function.update t.renewed session t.clock }

-- session_create with its timer, which is destroyed again if a later step fails.
def create (outcome : SessionCreation) (lifetime : UInt32) : Except APIE SessionID × TimedStore :=
  match sessionCreate outcome lifetime t.store with
  | (.ok id, store) => (.ok id, { t with store }.renew t.store.sessions.next lifetime)
  | (.error code, store) => (.error code, { t with store })

-- `configure` is the error of timer_configure, if it fails.
def sessionKeepAlive (configure : Option APIError) (session : SessionRef) (lifetime : UInt32) :
    APIE × TimedStore :=
  if lifetime.toNat > SESSION_MAX_LIFETIME then (.outOfRange, t)
  else
    match configure with
    | some code => (code, t)
    | none => (.success, t.renew session lifetime)

-- session_expire_helper with the timer_destroy of session_destroy.
def expire (array : ArrayRemove) (session : SessionRef) : TimedStore :=
  { t with
    store := sessionExpireHelper array session t.store
    timers := Function.update t.timers session none }

end TimedStore

def Operation.onSessions : Operation → Bool
  | .sessionCreate _ _ | .sessionExpire _ | .sessionHandleExpire _ => true
  | _ => false

-- Sessions are created, kept alive and expired by requests, timers fire, time passes, and
-- anything else happens to the objects.
inductive TimedEvent where
  | create (outcome : SessionCreation) (lifetime : UInt32)
  | keepAlive (id : SessionID) (lifetime : UInt32) (configure : Option APIError)
  | expire (id : SessionID)
  | fire (session : SessionRef)
  | elapse (duration : Nat)
  | operation (operation : Operation)
  | createObject (outcome : ObjectCreation) (payload : Payload) (session : Option SessionRef)
      (flags : UInt32)

def TimedStore.next (array : ArrayRemove) (t : TimedStore) (event : TimedEvent) :
    Option TimedStore :=
  match event with
  | .create outcome lifetime => some (t.create outcome lifetime).2
  | .keepAlive id lifetime configure =>
      match inventoryGetSession id t.store with
      | .error _ => some t
      | .ok session => some (t.sessionKeepAlive configure session lifetime).2
  | .expire id =>
      match inventoryGetSession id t.store with
      | .error _ => some t
      | .ok session => some (t.expire array session)
  | .fire session =>
      match t.timers session with
      | none => none
      | some deadline => if deadline ≤ t.clock then some (t.expire array session) else none
  | .elapse duration => some { t with clock := t.clock + duration }
  | .operation operation =>
      if operation.onSessions then none
      else some { t with store := operation.run array t.store }
  | .createObject outcome payload session flags =>
      match t.store.createObject outcome payload session flags with
      | (.error _, _) => none
      | (.ok _, store) => some { t with store }

end Timers

section Runs

variable {array : ArrayRemove} {t t' : TimedStore}

-- Every session of the inventory is going to expire.
def TimedStore.Expiring (t : TimedStore) : Prop :=
  ∀ session ∈ t.store.sessionArray, ∃ deadline, t.timers session = some deadline ∧
    deadline ≤ t.renewed session + SESSION_MAX_LIFETIME * 1000000

-- A successful call with lifetime zero.
def TimedStore.LivesForever (t : TimedStore) : TimedEvent → Prop
  | .create outcome lifetime => lifetime = 0 ∧ ∃ id, (t.create outcome lifetime).1 = .ok id
  | .keepAlive id lifetime configure => lifetime = 0 ∧
      ∃ session, inventoryGetSession id t.store = .ok session ∧
        (t.sessionKeepAlive configure session lifetime).1 = .success
  | _ => False

-- A timer that fires removes its session and all its external references.
def TimedStore.Fired (_ : TimedStore) (event : TimedEvent) (t' : TimedStore) : Prop :=
  ∀ session, event = .fire session → t'.store.Expired session ∧ t'.timers session = none

-- A call that does not succeed leaves all timers as they were.
def TimedStore.TimersKept (t : TimedStore) (event : TimedEvent) (t' : TimedStore) : Prop :=
  (∀ outcome lifetime code, event = .create outcome lifetime →
    (t.create outcome lifetime).1 = .error code →
      t'.timers = t.timers ∧ t'.store.sessionArray = t.store.sessionArray) ∧
  ∀ id lifetime configure, event = .keepAlive id lifetime configure →
    (∀ session, inventoryGetSession id t.store = .ok session →
      (t.sessionKeepAlive configure session lifetime).1 ≠ .success) →
    t' = t

-- What holds between two events.
structure TimedStore.Sound (t : TimedStore) : Prop where
  counted : t.store.Counted
  identified : t.store.Identified
  nodup : t.store.sessionArray.Nodup
  listed : ∀ session, t.timers session ≠ none → session ∈ t.store.sessionArray

theorem inventoryGetSession_ok {id : SessionID} {session : SessionRef} {store : Store}
    (h : inventoryGetSession id store = .ok session) : session ∈ store.sessionArray := by
  unfold inventoryGetSession at h
  split at h
  · cases h
  · rename_i found hfound
    cases h
    exact List.mem_of_find?_eq_some hfound

variable (array) in
theorem Operation.run_sessionArray (operation : Operation) (h : operation.onSessions = false)
    (store : Store) : (operation.run array store).sessionArray = store.sessionArray := by
  cases operation with
  | sessionCreate outcome lifetime => cases h
  | addExternalReference calloc object session =>
      exact (Store.SameInternals.objectAddExternalReference _ _ _ _).sessionArray
  | removeExternalReference object session =>
      exact objectRemoveExternalReference_sessionArray object session store
  | release object session =>
      simp only [Operation.run, objectRelease]
      split
      · rfl
      · split_ifs
        · rfl
        · exact objectRemoveExternalReference_sessionArray object session store
  | addInternalReference object => exact store.modifyObject_sessionArray _ _
  | removeInternalReference object => exact (store.release_runs object).sessionArray
  | sessionExpire session => cases h
  | sessionHandleExpire session => cases h
  | lock object => exact store.modifyObject_sessionArray _ _
  | unlock object => exact store.modifyObject_sessionArray _ _
  | setPayload object payload => exact store.modifyObject_sessionArray _ _

namespace TimedStore

theorem renew_timers (t : TimedStore) (session : SessionRef) (lifetime : UInt32)
    (other : SessionRef) :
    (t.renew session lifetime).timers other =
      if other = session then
        if lifetime.toNat * 1000000 = 0 then none else some (t.clock + lifetime.toNat * 1000000)
      else t.timers other :=
  Function.update_apply _ _ _ _

-- A new timer is armed for at most the maximum lifetime, unless the lifetime is zero.
theorem renew_expiring (session : SessionRef) {lifetime : UInt32}
    (hmax : lifetime.toNat ≤ SESSION_MAX_LIFETIME)
    (hothers : ∀ other ∈ t.store.sessionArray, other ≠ session →
      ∃ deadline, t.timers other = some deadline ∧
        deadline ≤ t.renewed other + SESSION_MAX_LIFETIME * 1000000)
    (hmem : session ∈ t.store.sessionArray) :
    (t.renew session lifetime).Expiring ↔ lifetime ≠ 0 := by
  have hzero : lifetime.toNat * 1000000 = 0 ↔ lifetime = 0 := by
    rw [← UInt32.toNat_inj]
    change _ ↔ lifetime.toNat = 0
    omega
  constructor
  · rintro hexpiring rfl
    obtain ⟨deadline, htimer, -⟩ := hexpiring session hmem
    rw [renew_timers, if_pos rfl, if_pos (hzero.mpr rfl)] at htimer
    cases htimer
  · intro hlifetime other hother
    have hrenewed : (t.renew session lifetime).renewed other =
        if other = session then t.clock else t.renewed other := Function.update_apply _ _ _ _
    rw [renew_timers, hrenewed]
    by_cases hsame : other = session
    · rw [if_pos hsame, if_pos hsame, if_neg (fun h => hlifetime (hzero.mp h))]
      refine ⟨_, rfl, ?_⟩
      have hmicroseconds := Nat.mul_le_mul_right 1000000 hmax
      omega
    · rw [if_neg hsame, if_neg hsame]
      exact hothers other hother hsame

-- What session_create has done.
theorem create_cases (t : TimedStore) (outcome : SessionCreation) (lifetime : UInt32) :
    (∃ id store, t.create outcome lifetime =
        (.ok id, { t with store }.renew t.store.sessions.next lifetime) ∧
      store = (RedApid.sessionCreate outcome lifetime t.store).2 ∧
      lifetime.toNat ≤ SESSION_MAX_LIFETIME ∧
      store.sessionArray = t.store.sessionArray ++ [t.store.sessions.next]) ∨
    ∃ code store, t.create outcome lifetime = (.error code, { t with store }) ∧
      store = (RedApid.sessionCreate outcome lifetime t.store).2 ∧
      store.sessionArray = t.store.sessionArray := by
  have hmax (h : lifetime.toNat > SESSION_MAX_LIFETIME) :
      RedApid.sessionCreate outcome lifetime t.store = (.error .outOfRange, t.store) := by
    unfold RedApid.sessionCreate
    rw [if_pos h]
  unfold create
  rcases sessionCreate_sessionArray outcome lifetime t.store with
    ⟨id, hid, harray⟩ | ⟨code, hcode, harray⟩
  · rcases hresult : RedApid.sessionCreate outcome lifetime t.store with ⟨result, store⟩
    rw [hresult] at hid harray
    cases hid
    refine Or.inl ⟨id, store, rfl, rfl, ?_, harray⟩
    by_contra hgreater
    rw [hmax (by omega)] at hresult
    cases hresult
  · rcases hresult : RedApid.sessionCreate outcome lifetime t.store with ⟨result, store⟩
    rw [hresult] at hcode harray
    cases hcode
    exact Or.inr ⟨code, store, rfl, rfl, harray⟩

theorem renew_sound (h : t.Sound) {session : SessionRef} (hmem : session ∈ t.store.sessionArray)
    (lifetime : UInt32) : (t.renew session lifetime).Sound := by
  refine ⟨h.counted, h.identified, h.nodup, fun other hother => ?_⟩
  rw [renew_timers] at hother
  by_cases hsame : other = session
  · rw [hsame]
    exact hmem
  · rw [if_neg hsame] at hother
    exact h.listed other hother

-- A change of the store that keeps the sessions.
theorem Sound.of_store (h : t.Sound) {store : Store} (hcounted : store.Counted)
    (hidentified : store.Identified) (harray : store.sessionArray = t.store.sessionArray) :
    Sound { t with store } :=
  ⟨hcounted, hidentified, harray ▸ h.nodup, fun other hother => harray ▸ h.listed other hother⟩

theorem Sound.create (h : t.Sound) (outcome : SessionCreation) (lifetime : UInt32) :
    (t.create outcome lifetime).2.Sound := by
  have hcounted := sessionCreate_counted outcome lifetime h.counted
  have hidentified := sessionCreate_identified outcome lifetime h.identified
  rcases t.create_cases outcome lifetime with
    ⟨id, store, hcreate, rfl, -, harray⟩ | ⟨code, store, hcreate, rfl, harray⟩
  · rw [hcreate]
    refine renew_sound ⟨hcounted, hidentified, ?_, fun other hother => ?_⟩ ?_ lifetime
    · rw [harray]
      refine h.nodup.append (List.nodup_singleton _) (List.disjoint_singleton.mpr fun hmem => ?_)
      exact Nat.lt_irrefl _ (h.identified.session_lt _ hmem)
    · rw [harray]
      exact List.mem_append_left _ (h.listed other hother)
    · rw [harray]
      exact List.mem_append_right _ List.mem_cons_self
  · rw [hcreate]
    exact h.of_store hcounted hidentified harray

theorem Sound.expire (h : t.Sound) {session : SessionRef} (hmem : session ∈ t.store.sessionArray) :
    (t.expire array session).Sound := by
  obtain ⟨harray, -⟩ := sessionExpireHelper_sessionArray array hmem
  refine ⟨(sessionExpireHelper_counted session h.counted).1,
    (Store.NoNewIds.sessionExpireHelper session t.store).identified h.identified, ?_, ?_⟩
  · change (sessionExpireHelper array session t.store).sessionArray.Nodup
    rw [harray]
    exact h.nodup.erase session
  · intro other hother
    have htimer : (t.expire array session).timers other =
        if other = session then none else t.timers other := Function.update_apply _ _ _ _
    rw [htimer] at hother
    by_cases hsame : other = session
    · rw [if_pos hsame] at hother
      exact absurd rfl hother
    · rw [if_neg hsame] at hother
      change other ∈ (sessionExpireHelper array session t.store).sessionArray
      rw [harray]
      exact (List.mem_erase_of_ne hsame).mpr (h.listed other hother)

theorem next_keepAlive {id : SessionID} {lifetime : UInt32} {configure : Option APIError}
    (hnext : t.next array (.keepAlive id lifetime configure) = some t') :
    (t' = t ∧ ∀ session, inventoryGetSession id t.store = .ok session →
      (t.sessionKeepAlive configure session lifetime).1 ≠ .success) ∨
    ∃ session, inventoryGetSession id t.store = .ok session ∧
      (t.sessionKeepAlive configure session lifetime).1 = .success ∧
      lifetime.toNat ≤ SESSION_MAX_LIFETIME ∧ t' = t.renew session lifetime := by
  unfold next at hnext
  cases hsession : inventoryGetSession id t.store with
  | error code =>
      simp only [hsession, Option.some.injEq] at hnext
      exact Or.inl ⟨hnext.symm, fun _ hfound => by cases hfound⟩
  | ok session =>
      simp only [hsession, Option.some.injEq] at hnext
      have honly (hfails : (t.sessionKeepAlive configure session lifetime).1 ≠ .success) :
          ∀ other, Except.ok session = Except.ok (ε := APIE) other →
            (t.sessionKeepAlive configure other lifetime).1 ≠ .success := by
        rintro other ⟨⟩
        exact hfails
      subst hnext
      unfold sessionKeepAlive at honly ⊢
      by_cases hlifetime : lifetime.toNat > SESSION_MAX_LIFETIME
      · simp only [if_pos hlifetime] at honly ⊢
        exact Or.inl ⟨trivial, honly APIE.noConfusion⟩
      simp only [if_neg hlifetime] at honly ⊢
      cases configure with
      | some code => exact Or.inl ⟨rfl, honly code.property⟩
      | none => exact Or.inr ⟨session, rfl, rfl, by omega, rfl⟩

theorem next_expire {id : SessionID} (hnext : t.next array (.expire id) = some t') :
    t' = t ∨ ∃ session ∈ t.store.sessionArray, t' = t.expire array session := by
  unfold next at hnext
  cases hsession : inventoryGetSession id t.store with
  | error code =>
      simp only [hsession, Option.some.injEq] at hnext
      exact Or.inl hnext.symm
  | ok session =>
      simp only [hsession, Option.some.injEq] at hnext
      exact Or.inr ⟨session, inventoryGetSession_ok hsession, hnext.symm⟩

theorem next_fire {session : SessionRef} (hnext : t.next array (.fire session) = some t') :
    t.timers session ≠ none ∧ t' = t.expire array session := by
  unfold next at hnext
  cases htimer : t.timers session with
  | none =>
      simp only [htimer] at hnext
      cases hnext
  | some deadline =>
      simp only [htimer, Option.ite_none_right_eq_some, Option.some.injEq] at hnext
      exact ⟨Option.some_ne_none deadline, hnext.2.symm⟩

theorem next_operation {operation : Operation}
    (hnext : t.next array (.operation operation) = some t') :
    operation.onSessions = false ∧ t' = { t with store := operation.run array t.store } := by
  unfold next at hnext
  cases hsessions : operation.onSessions with
  | true =>
      simp only [hsessions, if_true] at hnext
      cases hnext
  | false =>
      simp only [hsessions, Bool.false_eq_true, if_false, Option.some.injEq] at hnext
      exact ⟨rfl, hnext.symm⟩

theorem next_createObject {outcome : ObjectCreation} {payload : Payload}
    {session : Option SessionRef} {flags : UInt32}
    (hnext : t.next array (.createObject outcome payload session flags) = some t') :
    (∃ object, (t.store.createObject outcome payload session flags).1 = .ok object) ∧
      t' = { t with store := (t.store.createObject outcome payload session flags).2 } := by
  unfold next at hnext
  rcases hcreated : t.store.createObject outcome payload session flags with ⟨result, store⟩
  cases result with
  | error code =>
      simp only [hcreated] at hnext
      cases hnext
  | ok object =>
      simp only [hcreated, Option.some.injEq] at hnext
      exact ⟨⟨object, rfl⟩, hnext.symm⟩

theorem sound_of_next (h : t.Sound) {event : TimedEvent} (hnext : t.next array event = some t') :
    t'.Sound := by
  cases event with
  | create outcome lifetime =>
      cases hnext
      exact h.create outcome lifetime
  | keepAlive id lifetime configure =>
      rcases next_keepAlive hnext with ⟨rfl, -⟩ | ⟨session, hfound, -, -, rfl⟩
      · exact h
      · exact renew_sound h (inventoryGetSession_ok hfound) lifetime
  | expire id =>
      rcases next_expire hnext with rfl | ⟨session, hmem, rfl⟩
      · exact h
      · exact h.expire hmem
  | fire session =>
      obtain ⟨harmed, rfl⟩ := next_fire hnext
      exact h.expire (h.listed session harmed)
  | elapse duration =>
      cases hnext
      exact ⟨h.counted, h.identified, h.nodup, h.listed⟩
  | operation operation =>
      obtain ⟨hsessions, rfl⟩ := next_operation hnext
      exact h.of_store (operation.counted h.counted) (operation.identified h.identified)
        (operation.run_sessionArray array hsessions t.store)
  | createObject outcome payload session flags =>
      obtain ⟨⟨object, hcreated⟩, rfl⟩ := next_createObject hnext
      exact h.of_store (createObject_counted h.counted hcreated)
        (createObject_identified outcome payload session flags h.identified)
        (createObject_sessionArray outcome payload session flags t.store)

-- Fewer sessions with the same timers.
theorem Expiring.of_subset (h : t.Expiring)
    (hsubset : ∀ session ∈ t'.store.sessionArray, session ∈ t.store.sessionArray ∧
      t'.timers session = t.timers session) (hrenewed : t'.renewed = t.renewed) : t'.Expiring := by
  intro session hmem
  obtain ⟨hbefore, htimer⟩ := hsubset session hmem
  obtain ⟨deadline, harmed, hle⟩ := h session hbefore
  exact ⟨deadline, htimer.trans harmed, hrenewed ▸ hle⟩

theorem Expiring.expire (h : t.Expiring) (hsound : t.Sound) {session : SessionRef}
    (hmem : session ∈ t.store.sessionArray) : (t.expire array session).Expiring := by
  obtain ⟨harray, -⟩ := sessionExpireHelper_sessionArray array hmem
  refine h.of_subset (fun other hother => ?_) rfl
  change other ∈ (sessionExpireHelper array session t.store).sessionArray at hother
  rw [harray, hsound.nodup.mem_erase_iff] at hother
  exact ⟨hother.2, Function.update_of_ne hother.1 _ _⟩

theorem expiring_iff_of_next (hsound : t.Sound) (h : t.Expiring) {event : TimedEvent}
    (hnext : t.next array event = some t') : t'.Expiring ↔ ¬ t.LivesForever event := by
  cases event with
  | create outcome lifetime =>
      cases hnext
      rcases t.create_cases outcome lifetime with
        ⟨id, store, hcreate, -, hmax, harray⟩ | ⟨code, store, hcreate, -, harray⟩
      · have hothers : ∀ other ∈ store.sessionArray, other ≠ t.store.sessions.next →
            ∃ deadline, t.timers other = some deadline ∧
              deadline ≤ t.renewed other + SESSION_MAX_LIFETIME * 1000000 := by
          intro other hother hne
          rw [harray, List.mem_append, List.mem_singleton] at hother
          exact h other (hother.resolve_right hne)
        have hmem : t.store.sessions.next ∈ store.sessionArray := by
          rw [harray]
          exact List.mem_append_right _ List.mem_cons_self
        have hrenew := renew_expiring (t := { t with store }) _ hmax hothers hmem
        rw [hcreate, hrenew]
        constructor
        · rintro hlifetime ⟨hzero, -⟩
          exact hlifetime hzero
        · rintro hforever hzero
          exact hforever ⟨hzero, id, congrArg Prod.fst hcreate⟩
      · rw [hcreate]
        refine iff_of_true (h.of_subset (fun session hmem => ⟨harray ▸ hmem, rfl⟩) rfl) ?_
        rintro ⟨-, id, hid⟩
        rw [hcreate] at hid
        cases hid
  | keepAlive id lifetime configure =>
      rcases next_keepAlive hnext with ⟨rfl, hfails⟩ | ⟨session, hfound, hsuccess, hmax, rfl⟩
      · refine iff_of_true h ?_
        rintro ⟨-, session, hfound, hsuccess⟩
        exact hfails session hfound hsuccess
      · rw [renew_expiring session hmax (fun other hother _ => h other hother)
          (inventoryGetSession_ok hfound)]
        constructor
        · rintro hlifetime ⟨hzero, -⟩
          exact hlifetime hzero
        · rintro hforever hzero
          exact hforever ⟨hzero, session, hfound, hsuccess⟩
  | expire id =>
      refine iff_of_true ?_ fun hforever => hforever
      rcases next_expire hnext with rfl | ⟨session, hmem, rfl⟩
      · exact h
      · exact h.expire hsound hmem
  | fire session =>
      obtain ⟨harmed, rfl⟩ := next_fire hnext
      exact iff_of_true (h.expire hsound (hsound.listed session harmed)) id
  | elapse duration =>
      cases hnext
      exact iff_of_true h id
  | operation operation =>
      obtain ⟨hsessions, rfl⟩ := next_operation hnext
      have harray := operation.run_sessionArray array hsessions t.store
      exact iff_of_true (h.of_subset (fun session hmem => ⟨harray ▸ hmem, rfl⟩) rfl) id
  | createObject outcome payload session flags =>
      obtain ⟨-, rfl⟩ := next_createObject hnext
      have harray := createObject_sessionArray outcome payload session flags t.store
      exact iff_of_true (h.of_subset (fun session hmem => ⟨harray ▸ hmem, rfl⟩) rfl) id

theorem fired_of_next (hsound : t.Sound) {event : TimedEvent}
    (hnext : t.next array event = some t') : t.Fired event t' := by
  rintro session rfl
  obtain ⟨harmed, rfl⟩ := next_fire hnext
  exact ⟨sessionExpireHelper_expired hsound.counted hsound.nodup (hsound.listed session harmed),
    Function.update_self _ _ _⟩

theorem timersKept_of_next {event : TimedEvent} (hnext : t.next array event = some t') :
    t.TimersKept event t' := by
  constructor
  · rintro outcome lifetime code rfl herror
    cases hnext
    rcases t.create_cases outcome lifetime with
      ⟨id, store, hcreate, -⟩ | ⟨_, store, hcreate, -, harray⟩
    · rw [hcreate] at herror
      cases herror
    · rw [hcreate]
      exact ⟨rfl, harray⟩
  · rintro id lifetime configure rfl hfails
    rcases next_keepAlive hnext with ⟨hsame, -⟩ | ⟨session, hfound, hsuccess, -⟩
    · exact hsame
    · exact absurd hsuccess (hfails session hfound)

theorem init_sound : init.Sound where
  counted := .init
  identified := @identified_of_steps .exact _ .refl
  nodup := List.nodup_nil
  listed _ h := absurd rfl h

end TimedStore

-- All sessions of the inventory are going to expire in exactly the runs without a successful
-- call with lifetime zero. A timer that fires leaves nothing of its session, and a call that
-- fails leaves the timers alone, in any run.
theorem sessions_expire_iff (array : ArrayRemove) (events : List TimedEvent) :
    (Always (TimedStore.next array) TimedStore.Expiring .init events ↔
        Along (TimedStore.next array) (fun t event _ => ¬ t.LivesForever event) .init events) ∧
      Along (TimedStore.next array) TimedStore.Fired .init events ∧
      Along (TimedStore.next array) TimedStore.TimersKept .init events := by
  have hsound (t : TimedStore) (event : TimedEvent) (t' : TimedStore) (h : t.Sound)
      (hnext : t.next array event = some t') : t'.Sound := TimedStore.sound_of_next h hnext
  refine ⟨?_, ?_, ?_⟩
  · refine always_iff_along hsound
      (fun _ _ _ h hexpiring hnext => TimedStore.expiring_iff_of_next h hexpiring hnext)
      TimedStore.init_sound ?_ events
    exact fun _ hmem => absurd hmem List.not_mem_nil
  · exact along_of_step hsound (fun _ _ _ h hnext => TimedStore.fired_of_next h hnext)
      TimedStore.init_sound events
  · exact along_of_step hsound (fun _ _ _ _ hnext => TimedStore.timersKept_of_next hnext)
      TimedStore.init_sound events

theorem zeroLifetime_not_expiring :
    ¬ Always (TimedStore.next .byIndex) TimedStore.Expiring .init
      [.create ⟨true, none, none, none⟩ 0] := by
  have hcreated : (TimedStore.init.create ⟨true, none, none, none⟩ 0).1 = .ok 1 := rfl
  have hnext : TimedStore.init.next .byIndex (.create ⟨true, none, none, none⟩ 0) =
      some (TimedStore.init.create ⟨true, none, none, none⟩ 0).2 := rfl
  rintro ⟨hstart, hrest⟩
  rw [hnext] at hrest
  exact (TimedStore.expiring_iff_of_next TimedStore.init_sound hstart hnext).mp hrest
    ⟨rfl, 1, hcreated⟩

end Runs

end RedApid

import RedApid.Store.Spawning

namespace RedApid

open Memory

section Shapes

variable {store other : Store}

theorem Store.SameShape.text (h : store.SameShape other) (string : ObjectRef) :
    other.text string = store.text string := by
  unfold Store.text
  rw [h.payload]

theorem Store.SameShape.isAbsolutePath (h : store.SameShape other) (string : ObjectRef) :
    other.isAbsolutePath string = store.isAbsolutePath string := by
  unfold Store.isAbsolutePath
  rw [h.payload]

theorem Store.SameShape.itemsOf (h : store.SameShape other) (list : ObjectRef) :
    other.itemsOf list = store.itemsOf list := by
  unfold Store.itemsOf
  rw [show (other.objects.get list).map Object.items = (store.objects.get list).map Object.items from
    h.map (·.2.2.items) list]

theorem Store.isEmptyString_of_isAbsolutePath {string : ObjectRef}
    (h : store.isAbsolutePath string = true) : store.isEmptyString string = false := by
  unfold isAbsolutePath at h
  unfold isEmptyString
  cases hpayload : store.payload string with
  | none =>
      rw [hpayload] at h
      cases h
  | some payload =>
      rw [hpayload] at h
      cases payload with
      | string s =>
          have hbyte : s.buffer.bytes 0 = 47 := of_decide_eq_true h
          have hzero : s.buffer.bytes 0 ≠ 0 := by rw [hbyte]; decide
          exact decide_eq_false hzero
      | _ => cases h

theorem Store.SameTables.acquire (hold : Hold) (store : Store) :
    store.SameTables (hold.acquire store) := by
  rw [hold.acquire_eq]
  constructor <;> simp

theorem Store.SameTables.drop (hold : Hold) (store : Store) : store.SameTables (hold.drop store) := by
  rw [hold.drop_eq]
  constructor <;> simp

theorem Store.SameTables.refl (store : Store) : store.SameTables store := ⟨rfl, rfl, rfl, rfl, rfl⟩

theorem Store.SameTables.trans {last : Store} (h : store.SameTables other)
    (h' : other.SameTables last) : store.SameTables last :=
  ⟨h'.sessions.trans h.sessions, h'.references.trans h.references,
    h'.objectArray.trans h.objectArray, h'.sessionArray.trans h.sessionArray,
    h'.stockStrings.trans h.stockStrings⟩

end Shapes

section Arrays

variable {α : Type}

theorem appendAll_cases (append : Nat → Option APIError) (i : Nat) (items : List α) :
    (∃ code, code ≠ .success ∧ appendAll append i items = .error code ∧
        ¬∀ j < items.length, append (i + j) = none) ∨
      (appendAll append i items = .ok items ∧ ∀ j < items.length, append (i + j) = none) := by
  induction items generalizing i with
  | nil => exact Or.inr ⟨rfl, fun j hj => absurd hj (Nat.not_lt_zero j)⟩
  | cons item items ih =>
      unfold appendAll
      cases happend : append i with
      | some code =>
          refine Or.inl ⟨code, code.property, rfl, fun hall => ?_⟩
          have hzero := hall 0 (Nat.succ_pos _)
          rw [Nat.add_zero, happend] at hzero
          cases hzero
      | none =>
          rcases ih (i + 1) with ⟨code, hcode, heq, hsome⟩ | ⟨heq, hall⟩
          · left
            refine ⟨code, hcode, by simp only [heq], fun hall => hsome fun j hj => ?_⟩
            rw [Nat.add_right_comm]
            exact hall (j + 1) (Nat.succ_lt_succ hj)
          · right
            refine ⟨by simp only [heq], fun j hj => ?_⟩
            cases j with
            | zero => exact happend
            | succ j =>
                have hnone := hall j (Nat.lt_of_succ_lt_succ hj)
                rwa [Nat.add_right_comm] at hnone

theorem execArray_cases (outcome : ArrayOutcome) (strings : List ObjectRef) (store : Store) :
    (∃ code, code ≠ .success ∧ execArray outcome strings store = .error code ∧
        ¬outcome.Succeeds (strings.length + 1)) ∨
      (execArray outcome strings store =
          .ok (strings.map (fun string => some (store.text string)) ++ [none]) ∧
        outcome.Succeeds (strings.length + 1)) := by
  unfold execArray ArrayOutcome.Succeeds
  cases outcome.create with
  | some code => exact Or.inl ⟨code, code.property, rfl, fun hall => (nomatch hall.1)⟩
  | none =>
      have hcases := appendAll_cases outcome.append 0
        (strings.map (fun string => some (store.text string)) ++ [none])
      simp only [Nat.zero_add, List.length_append, List.length_map, List.length_singleton] at hcases
      rcases hcases with ⟨code, hcode, heq, hsome⟩ | ⟨heq, hall⟩
      · exact Or.inl ⟨code, hcode, heq, fun hall => hsome hall.2⟩
      · exact Or.inr ⟨heq, rfl, hall⟩

end Arrays

section Phases

variable {α : Type} {array : ArrayRemove} {pool : List Hold} {base : Store} {host last : Host}
  {hold : Hold} {o : Object}

-- A state between the phases: only counts are different from `base` so far.
structure Host.Phase (base : Store) (pool : List Hold) (host : Host) : Prop where
  sound : Sound pool host.store
  shape : base.SameShape host.store

def Host.acquire (host : Host) (hold : Hold) : Host := { host with store := hold.acquire host.store }

theorem Host.Phase.acquire (h : host.Phase base pool) (hlive : host.store.objects.get hold.object ≠ none) :
    (host.acquire hold).Phase base (hold :: pool) :=
  ⟨h.sound.acquire hold hlive, h.shape.trans (.acquire host.store hold)⟩

theorem Sound.fileGetAcquired {store : Store} (h : Sound pool store) (id : ObjectID) :
    Acquires [.file] id false store (fileGetAcquired id store) := by
  unfold RedApid.fileGetAcquired
  cases hfound : inventoryGetObject [.file] id store with
  | error code => exact Or.inl ⟨code, inventoryGetObject_error hfound, rfl⟩
  | ok file =>
      obtain ⟨o, ho, -, -, -, hreferenced⟩ := h.found hfound
      exact Or.inr ⟨file, o, hfound, ho, hreferenced, rfl⟩

-- A hold that is acquired in front is released behind, whatever else has been changed and undone.
theorem Hold.release_undoes {store other : Store} (ho : store.objects.get hold.object = some o)
    (hreferenced : o.Referenced) (h : (hold.acquire store).SameObjects other) :
    store.SameObjects (hold.release array other) ∧ other.SameTables (hold.release array other) := by
  have hget : other.objects.get hold.object = some (hold.retain o) := by
    rw [h, hold.acquire_get, ho, Option.map_some, if_pos rfl]
  have hlast : ¬((hold.retain o).internalReferenceCount - 1 = 0 ∧
      (hold.retain o).externalReferenceCount = 0) := by
    rintro ⟨hinternal, hexternal⟩
    exact hreferenced.elim (fun hne => hne hinternal) fun hne => hne hexternal
  rw [Hold.release_eq_drop hget (Nat.succ_ne_zero _) hlast]
  refine ⟨fun p => ?_, .drop hold other⟩
  rw [hold.drop_get, h, hold.acquire_get, Option.map_map]
  refine (congrArg (fun f => (store.objects.get p).map f) (funext fun o => ?_)).trans Option.map_id'
  simp only [Function.comp]
  split_ifs
  · unfold Hold.forgo Hold.retain
    cases hold.locked <;> rfl
  · rfl

theorem Host.Same.refl (host : Host) : host.Same host := ⟨fun _ => rfl, .refl _, rfl⟩

-- An error, and nothing is left behind.
def Rejected (host : Host) (result : Except APIE α × Host) : Prop :=
  ∃ code last, code ≠ .success ∧ result = (.error code, last) ∧ host.Same last

theorem Rejected.error (host : Host) {code : APIE} (hcode : code ≠ .success) :
    Rejected host ((.error code, host) : Except APIE α × Host) :=
  ⟨code, host, hcode, rfl, .refl host⟩

theorem Rejected.acquiring {types : List ObjectType} {id : ObjectID} {locked : Bool}
    {acquired : Except APIE ObjectRef × Store} {body : ObjectRef → Host → Except APIE α × Host}
    (h : host.Phase base pool) (hacquires : Acquires types id locked host.store acquired)
    (hbody : ∀ object next, inventoryGetObject types id base = .ok object →
      acquired.1 = .ok object → next.Phase base (⟨object, locked⟩ :: pool) →
      Rejected next (body object next)) :
    Rejected host (host.acquiring array locked acquired body) := by
  rcases hacquires with ⟨code, hcode, rfl⟩ | ⟨object, o, hfound, ho, hreferenced, rfl⟩
  · exact .error host hcode
  · have hlive : host.store.objects.get (⟨object, locked⟩ : Hold).object ≠ none := by simp [ho]
    rw [h.shape.inventoryGetObject] at hfound
    obtain ⟨code, last, hcode, heq, hsame⟩ :=
      hbody object (host.acquire ⟨object, locked⟩) hfound rfl (h.acquire hlive)
    obtain ⟨hobjects, htables⟩ := @Hold.release_undoes array ⟨object, locked⟩ o _ _ ho hreferenced
      hsame.objects
    refine ⟨code, { last with store := Hold.release array ⟨object, locked⟩ last.store }, hcode, ?_,
      hobjects, ?_, hsame.eventSources⟩
    · change Hold.giveBack array ⟨object, locked⟩ (body object (host.acquire ⟨object, locked⟩)) = _
      rw [heq]
      rfl
    · exact (Store.SameTables.acquire ⟨object, locked⟩ host.store).trans
        (hsame.tables.trans htables)

-- What becomes of the last phase behind those that acquire something.
structure Reached (host : Host) (final result : Except APIE α × Host) : Prop where
  ok : ∀ a, final.1 = .ok a → result = final
  error : ∀ code, final.1 = .error code → result.1 = .error code ∧
    host.store.SameObjects result.2.store ∧ final.2.store.SameTables result.2.store ∧
    result.2.eventSources = final.2.eventSources

theorem Reached.refl {final : Except APIE α × Host}
    (h : ∀ code, final.1 = .error code → host.store.SameObjects final.2.store) :
    Reached host final final :=
  ⟨fun _ _ => rfl, fun code hcode => ⟨hcode, h code hcode, .refl _, rfl⟩⟩

theorem Reached.acquiring {types : List ObjectType} {id : ObjectID} {locked : Bool}
    {object : ObjectRef} {acquired : Except APIE ObjectRef × Store}
    {final : Except APIE α × Host} {body : ObjectRef → Host → Except APIE α × Host}
    (h : host.Phase base pool) (hfound : inventoryGetObject types id base = .ok object)
    (hacquired : acquired = (.ok object, Hold.acquire ⟨object, locked⟩ host.store))
    (hbody : (host.acquire ⟨object, locked⟩).Phase base (⟨object, locked⟩ :: pool) →
      Reached (host.acquire ⟨object, locked⟩) final
        (body object (host.acquire ⟨object, locked⟩))) :
    Reached host final (host.acquiring array locked acquired body) := by
  rw [← h.shape.inventoryGetObject] at hfound
  obtain ⟨o, ho, -, -, -, hreferenced⟩ := h.sound.found hfound
  have hlive : host.store.objects.get (⟨object, locked⟩ : Hold).object ≠ none := by simp [ho]
  have hreached := hbody (h.acquire hlive)
  subst hacquired
  change Reached host final
    (Hold.giveBack array ⟨object, locked⟩ (body object (host.acquire ⟨object, locked⟩)))
  rcases hresult : body object (host.acquire ⟨object, locked⟩) with ⟨code | a, last⟩
  · rw [hresult] at hreached
    refine ⟨fun a ha => ?_, fun code' hcode => ?_⟩
    · have hsame := hreached.ok a ha
      rw [← hsame] at ha
      cases ha
    · obtain ⟨heq, hobjects, htables, hsources⟩ := hreached.error code' hcode
      obtain ⟨hobjects', htables'⟩ := @Hold.release_undoes array ⟨object, locked⟩ o _ _ ho hreferenced
        hobjects
      exact ⟨heq, hobjects', htables.trans htables', hsources⟩
  · rw [hresult] at hreached
    refine ⟨hreached.ok, fun code hcode => ?_⟩
    obtain ⟨heq, -⟩ := hreached.error code hcode
    cases heq

end Phases

section Spawn

variable {array : ArrayRemove} {outcomes : SpawnOutcomes} {request : SpawnArguments}
  {pool : List Hold} {base : Store} {host : Host} {process : Process} {command : ChildCommand}

theorem listEnsureItemType_of_acquired {id : ObjectID} {type : ObjectType} {store : Store}
    {list : ObjectRef} (h : (listGetAcquiredAndLocked id type store).1 = .ok list) :
    listEnsureItemType list type store = .success := by
  unfold listGetAcquiredAndLocked at h
  split at h
  · cases h
  · split at h
    · cases h
      assumption
    · cases h

-- Without an event source nothing has been changed.
theorem processStart_rejected (request : SpawnArguments) (command : ChildCommand) (process : Process)
    (host : Host) : Rejected host (processStart outcomes request command process host) ∨
      (outcomes.statusPipe = none ∧ outcomes.fork = true ∧
        outcomes.child command = .ok .success ∧ outcomes.calloc = true ∧
        ∃ handle, outcomes.stateChangePipe = .ok handle) := by
  unfold processStart
  cases hpipe : outcomes.statusPipe with
  | some code => exact Or.inl (.error host code.property)
  | none =>
      cases hfork : outcomes.fork with
      | false => exact Or.inl (.error host (by decide))
      | true =>
          cases hchild : outcomes.child command with
          | error code => exact Or.inl (.error host code.property)
          | ok errorCode =>
              by_cases hcode : errorCode = .success
              · subst hcode
                cases hcalloc : outcomes.calloc with
                | false => exact Or.inl (.error host (by decide))
                | true =>
                    cases hstate : outcomes.stateChangePipe with
                    | error code => exact Or.inl (.error host code.property)
                    | ok handle => exact Or.inr ⟨rfl, rfl, rfl, rfl, handle, rfl⟩
              · simp only [Bool.not_true, Bool.false_eq_true, if_false, if_pos hcode, ne_eq]
                exact Or.inl (.error host hcode)

-- Nothing is left behind as long as something in front of the event source fails.
theorem Sound.processSpawnPhases_rejected (h : Sound pool host.store) (array : ArrayRemove)
    (outcomes : SpawnOutcomes) (request : SpawnArguments) :
    Rejected host (processSpawnPhases array outcomes request host) ∨
      ∃ process, SpawnReady request outcomes host.store process := by
  by_cases hready : ∃ process, SpawnReady request outcomes host.store process
  · exact Or.inr hready
  left
  have hstart : host.Phase host.store pool := ⟨h, .refl host.store⟩
  unfold processSpawnPhases
  refine .acquiring hstart (h.stringGetAcquiredAndLocked _) fun executable next₁ hexecutable _ hnext₁ => ?_
  by_cases hnamed : next₁.store.isEmptyString executable = true
  · rw [if_pos hnamed]
    exact .error next₁ (by decide)
  rw [if_neg hnamed]
  refine .acquiring hnext₁ (hnext₁.sound.listGetAcquiredAndLocked _ _)
    fun list next₂ hlist hstrings hnext₂ => ?_
  rcases execArray_cases outcomes.argumentsArray (executable :: next₂.store.itemsOf list) next₂.store
    with ⟨code, hcode, heq, -⟩ | ⟨heq, harguments⟩
  · rw [heq]
    exact .error next₂ hcode
  rw [heq]
  refine .acquiring hnext₂ (hnext₂.sound.listGetAcquiredAndLocked _ _)
    fun environment next₃ henvironment hstrings' hnext₃ => ?_
  rcases execArray_cases outcomes.environmentArray (next₃.store.itemsOf environment) next₃.store
    with ⟨code, hcode, heq', -⟩ | ⟨heq', henvironments⟩
  · rw [heq']
    exact .error next₃ hcode
  rw [heq']
  refine .acquiring hnext₃ (hnext₃.sound.stringGetAcquiredAndLocked _)
    fun workingDirectory next₄ hworkingDirectory _ hnext₄ => ?_
  by_cases hempty : next₄.store.isEmptyString workingDirectory = true
  · rw [if_pos hempty]
    exact .error next₄ (by decide)
  rw [if_neg hempty]
  cases habsolute : next₄.store.isAbsolutePath workingDirectory with
  | false => exact .error next₄ (by decide)
  | true =>
      rw [Bool.not_true, if_neg Bool.false_ne_true]
      refine .acquiring hnext₄ (hnext₄.sound.fileGetAcquired _) fun stdin next₅ hstdin _ hnext₅ => ?_
      refine .acquiring hnext₅ (hnext₅.sound.fileGetAcquired _) fun stdout next₆ hstdout _ hnext₆ => ?_
      refine .acquiring hnext₆ (hnext₆.sound.fileGetAcquired _) fun stderr next₇ hstderr _ hnext₇ => ?_
      rcases processStart_rejected request _ _ next₇ with hrejected | hall
      · exact hrejected
      -- nothing has failed
      obtain ⟨hpipe, hfork, hchild, hcalloc, hstate⟩ := hall
      simp only [hnext₂.shape.text, hnext₂.shape.itemsOf, hnext₃.shape.text, hnext₃.shape.itemsOf,
        hnext₇.shape.text] at hchild
      rw [hnext₁.shape.isEmptyString, Bool.not_eq_true] at hnamed
      rw [hnext₂.shape.itemsOf] at harguments
      rw [hnext₃.shape.itemsOf] at henvironments
      rw [hnext₄.shape.isAbsolutePath] at habsolute
      have hstrings := listEnsureItemType_of_acquired hstrings
      have hstrings' := listEnsureItemType_of_acquired hstrings'
      rw [hnext₁.shape.listEnsureItemType] at hstrings
      rw [hnext₂.shape.listEnsureItemType] at hstrings'
      exact absurd ⟨⟨executable, list, environment, workingDirectory, stdin, stdout, stderr,
        request.releaseOnDeath, true⟩, ⟨hexecutable, hlist, henvironment, hworkingDirectory, hstdin,
          hstdout, hstderr, rfl, rfl⟩, hnamed, hstrings, harguments, hstrings', henvironments,
        habsolute, hpipe, hfork, hchild, hcalloc, hstate⟩ hready

theorem stringGetAcquiredAndLocked_of_found {id : ObjectID} {store : Store} {string : ObjectRef}
    (h : inventoryGetObject [.string] id store = .ok string) :
    stringGetAcquiredAndLocked id store = (.ok string, Hold.acquire ⟨string, true⟩ store) := by
  unfold stringGetAcquiredAndLocked
  rw [h]
  rfl

theorem listGetAcquiredAndLocked_of_found {id : ObjectID} {type : ObjectType} {store : Store}
    {list : ObjectRef} (h : inventoryGetObject [.list] id store = .ok list)
    (hitems : listEnsureItemType list type store = .success) :
    listGetAcquiredAndLocked id type store = (.ok list, Hold.acquire ⟨list, true⟩ store) := by
  unfold listGetAcquiredAndLocked
  simp only [h, hitems]
  rfl

theorem fileGetAcquired_of_found {id : ObjectID} {store : Store} {file : ObjectRef}
    (h : inventoryGetObject [.file] id store = .ok file) :
    fileGetAcquired id store = (.ok file, Hold.acquire ⟨file, false⟩ store) := by
  unfold fileGetAcquired
  rw [h]
  rfl

-- All phases that acquire something are behind.
def Host.acquired (host : Host) (process : Process) : Host :=
  { host with store := acquireAll process.holds.reverse host.store }

theorem Host.acquired_eq (host : Host) (process : Process) :
    ((((((host.acquire ⟨process.executable, true⟩).acquire ⟨process.arguments, true⟩).acquire
      ⟨process.environment, true⟩).acquire ⟨process.workingDirectory, true⟩).acquire
      ⟨process.stdin, false⟩).acquire ⟨process.stdout, false⟩).acquire ⟨process.stderr, false⟩ =
        host.acquired process := by
  have hholds : process.holds.reverse = [lockedHold process.executable,
      lockedHold process.arguments, lockedHold process.environment,
      lockedHold process.workingDirectory, plainHold process.stdin, plainHold process.stdout,
      plainHold process.stderr] := rfl
  unfold acquired acquireAll
  rw [hholds]
  simp only [List.foldl_cons, List.foldl_nil, acquire, lockedHold, plainHold]

theorem execArray_of_succeeds {outcome : ArrayOutcome} {strings : List ObjectRef}
    (h : outcome.Succeeds (strings.length + 1)) (store : Store) :
    execArray outcome strings store =
      .ok (strings.map (fun string => some (store.text string)) ++ [none]) := by
  rcases execArray_cases outcome strings store with ⟨_, _, _, hfails⟩ | ⟨heq, _⟩
  · exact absurd h hfails
  · exact heq

theorem Host.Phase.acquireAll {holds : List Hold} (h : host.Phase base pool)
    (hlive : ∀ hold ∈ holds, host.store.objects.get hold.object ≠ none) :
    ({ host with store := acquireAll holds host.store } : Host).Phase base (holds.reverse ++ pool) := by
  induction holds generalizing host pool with
  | nil => exact h
  | cons hold holds ih =>
      rw [List.reverse_cons, List.append_assoc]
      refine ih (h.acquire (hlive hold List.mem_cons_self)) fun other hmem => ?_
      change (hold.acquire host.store).objects.get other.object ≠ none
      rw [hold.acquire_eq, Store.modifyObject_get_ne_none]
      exact hlive other (List.mem_cons_of_mem _ hmem)

theorem createObject_sameObjects {outcome : ObjectCreation} {payload : Payload}
    {session : Option SessionRef} {flags : UInt32} {code : APIE} {store : Store}
    (h : (store.createObject outcome payload session flags).1 = .error code) :
    store.SameObjects (store.createObject outcome payload session flags).2 := by
  intro p
  by_cases hp : p = store.objects.next
  · rw [hp, createObject_get_error h, Heap.get_eq_none_of_next_le _ (Nat.le_refl _)]
  · exact createObject_get_ne outcome payload session flags hp

-- Behind the state change pipe.
def processRegister (outcomes : SpawnOutcomes) (request : SpawnArguments) (process : Process)
    (handle : Files.IOHandle) (host : Host) : Except APIE ObjectRef × Host :=
  let source : EventSource := ⟨handle, host.store.objects.next⟩
  let host := host.setPipe host.store.objects.next handle
  if outcomes.eventAddSource then
    match host.store.createObject outcomes.objectCreate (.process process) request.session
        request.createFlags with
    | (.error code, store) => (.error code, { host with store })
    | (.ok object, store) => (.ok object, { host.addSource source with store })
  else (.error .success, host)

theorem processStart_eq {handle : Files.IOHandle} (hpipe : outcomes.statusPipe = none)
    (hfork : outcomes.fork = true) (hchild : outcomes.child command = .ok .success)
    (hcalloc : outcomes.calloc = true) (hstate : outcomes.stateChangePipe = .ok handle)
    (process : Process) (host : Host) :
    processStart outcomes request command process host =
      processRegister outcomes request process handle host := by
  unfold processStart processRegister SpawnArguments.createFlags Host.setPipe Host.addSource
  simp only [hpipe, hfork, hchild, hcalloc, hstate, Bool.not_true, Bool.false_eq_true, if_false,
    ne_eq, not_true_eq_false]
  cases outcomes.eventAddSource with
  | false => rfl
  | true =>
      simp only [Bool.not_true, Bool.false_eq_true, if_false, if_true]
      rcases hcreate : host.store.createObject outcomes.objectCreate (.process process)
        request.session (request.objectCreateFlags.toUInt32 ||| OBJECT_CREATE_FLAG_INTERNAL)
        with ⟨code | object, store⟩
      · simp only [Host.removeSource, decide_true, List.eraseP_cons_of_pos]
      · rfl

-- Whatever fails, the objects are as before.
theorem processStart_error {code : APIE} (request : SpawnArguments) (command : ChildCommand)
    (process : Process) (host : Host)
    (h : (processStart outcomes request command process host).1 = .error code) :
    host.store.SameObjects (processStart outcomes request command process host).2.store := by
  rcases @processStart_rejected outcomes request command process host with
    ⟨_, last, _, heq, hsame⟩ | ⟨hpipe, hfork, hchild, hcalloc, handle, hstate⟩
  · rw [heq]
    exact hsame.objects
  · rw [processStart_eq hpipe hfork hchild hcalloc hstate] at h ⊢
    unfold processRegister at h ⊢
    cases hadd : outcomes.eventAddSource with
    | false => exact fun _ => rfl
    | true =>
        simp only [hadd, if_true] at h ⊢
        rcases hcreate : (host.setPipe host.store.objects.next handle).store.createObject
          outcomes.objectCreate (.process process) request.session request.createFlags
          with ⟨code' | object, store⟩
        · rw [show store = (host.store.createObject outcomes.objectCreate (.process process)
            request.session request.createFlags).2 from (congrArg Prod.snd hcreate).symm]
          exact createObject_sameObjects (congrArg Prod.fst hcreate)
        · simp only [hcreate] at h
          cases h

theorem Object.Referenced.holds_live (h : Sound pool host.store) (hfound : SpawnFound request host.store process) :
    ∀ hold ∈ process.holds, ∃ o, host.store.objects.get hold.object = some o ∧ o.Referenced := by
  have hlive : ∀ {types id object}, inventoryGetObject types id host.store = .ok object →
      ∃ o, host.store.objects.get object = some o ∧ o.Referenced := by
    intro types id object hok
    obtain ⟨o, ho, -, -, -, hreferenced⟩ := h.found hok
    exact ⟨o, ho, hreferenced⟩
  intro hold hmem
  simp only [Process.holds, List.mem_cons, List.not_mem_nil, or_false] at hmem
  rcases hmem with rfl | rfl | rfl | rfl | rfl | rfl | rfl
  · exact hlive hfound.stderr
  · exact hlive hfound.stdout
  · exact hlive hfound.stdin
  · exact hlive hfound.working_directory
  · exact hlive hfound.environment
  · exact hlive hfound.arguments
  · exact hlive hfound.executable

theorem SpawnReady.reached (h : SpawnReady request outcomes host.store process)
    (hsound : Sound pool host.store) (array : ArrayRemove) :
    Reached host (processStart outcomes request (spawnCommand request process host.store) process
      (host.acquired process)) (processSpawnPhases array outcomes request host) := by
  have hstart : host.Phase host.store pool := ⟨hsound, .refl host.store⟩
  unfold processSpawnPhases
  refine .acquiring hstart h.executable (stringGetAcquiredAndLocked_of_found h.executable)
    fun hnext₁ => ?_
  have hnamed := h.named
  rw [← hnext₁.shape.isEmptyString] at hnamed
  rw [hnamed, if_neg Bool.false_ne_true]
  have hlist := h.arguments
  rw [← hnext₁.shape.inventoryGetObject] at hlist
  have hstrings := h.argument_strings
  rw [← hnext₁.shape.listEnsureItemType] at hstrings
  refine .acquiring hnext₁ h.arguments (listGetAcquiredAndLocked_of_found hlist hstrings)
    fun hnext₂ => ?_
  rw [hnext₂.shape.itemsOf, execArray_of_succeeds h.arguments_array]
  have henvironment := h.environment
  rw [← hnext₂.shape.inventoryGetObject] at henvironment
  have hstrings' := h.environment_strings
  rw [← hnext₂.shape.listEnsureItemType] at hstrings'
  refine .acquiring hnext₂ h.environment (listGetAcquiredAndLocked_of_found henvironment hstrings')
    fun hnext₃ => ?_
  rw [hnext₃.shape.itemsOf, execArray_of_succeeds h.environment_array]
  have hworkingDirectory := h.working_directory
  rw [← hnext₃.shape.inventoryGetObject] at hworkingDirectory
  refine .acquiring hnext₃ h.working_directory
    (stringGetAcquiredAndLocked_of_found hworkingDirectory) fun hnext₄ => ?_
  have habsolute := h.absolute
  rw [← hnext₄.shape.isAbsolutePath] at habsolute
  rw [Store.isEmptyString_of_isAbsolutePath habsolute, if_neg Bool.false_ne_true, habsolute,
    Bool.not_true, if_neg Bool.false_ne_true]
  have hstdin := h.stdin
  rw [← hnext₄.shape.inventoryGetObject] at hstdin
  refine .acquiring hnext₄ h.stdin (fileGetAcquired_of_found hstdin) fun hnext₅ => ?_
  have hstdout := h.stdout
  rw [← hnext₅.shape.inventoryGetObject] at hstdout
  refine .acquiring hnext₅ h.stdout (fileGetAcquired_of_found hstdout) fun hnext₆ => ?_
  have hstderr := h.stderr
  rw [← hnext₆.shape.inventoryGetObject] at hstderr
  refine .acquiring hnext₆ h.stderr (fileGetAcquired_of_found hstderr) fun hnext₇ => ?_
  have hprocess : (⟨process.executable, process.arguments, process.environment,
      process.workingDirectory, process.stdin, process.stdout, process.stderr,
      request.releaseOnDeath, true⟩ : Process) = process := by
    rw [← h.flags.1, ← h.flags.2]
  simp only [hnext₂.shape.text, hnext₃.shape.text, hnext₇.shape.text, hprocess]
  rw [Host.acquired_eq] at hnext₇ ⊢
  exact .refl fun code hcode => processStart_error request _ process (host.acquired process) hcode

theorem createObject_ok_object {outcome : ObjectCreation} {payload : Payload}
    {session : Option SessionRef} {flags : UInt32} {object : ObjectRef} {store : Store}
    (hok : (store.createObject outcome payload session flags).1 = .ok object) :
    object = store.objects.next ∧ object ∈
        (store.createObject outcome payload session flags).2.objectArray payload.type ∧
      ∃ o, (store.createObject outcome payload session flags).2.objects.get object = some o ∧
        o.type = payload.type ∧ o.payload = payload := by
  obtain ⟨rfl, -, hcreated⟩ := createObject_ok hok
  obtain ⟨-, hlisted, -⟩ := objectCreateReferences_frame outcome store.objects.next payload.type
    session flags (store.callocObject payload).2
  obtain ⟨f, hmodifies⟩ := objectCreateReferences_modifies_object outcome store.objects.next
    payload.type session flags (store.callocObject payload).2
  have hkept := Store.Kept.objectCreateReferences outcome store.objects.next payload.type session
    flags (store.callocObject payload).2
  rw [hcreated] at hlisted hmodifies hkept
  have hnew : (store.callocObject payload).2.objects.get store.objects.next =
      some ⟨0, payload.type, 0, [], 0, 0, payload⟩ := store.objects.get_alloc_next _
  refine ⟨rfl, ?_, ?_⟩
  · rw [hlisted rfl, if_pos rfl]
    exact List.mem_append_right _ (List.mem_singleton_self _)
  · have hget : (store.createObject outcome payload session flags).2.objects.get
        store.objects.next = some (f ⟨0, payload.type, 0, [], 0, 0, payload⟩) := by
      rw [hmodifies.objects, Heap.get_modify_self, hnew, Option.map_some]
    obtain ⟨o, ho, htype, hpayload⟩ := hkept.get hget
    rw [hnew] at ho
    cases ho
    exact ⟨_, hget, htype, hpayload⟩

theorem acquireAll_sameTables (holds : List Hold) (store : Store) :
    store.SameTables (acquireAll holds store) := by
  induction holds generalizing store with
  | nil => exact .refl store
  | cons hold holds ih => exact (Store.SameTables.acquire hold store).trans (ih (hold.acquire store))

theorem Store.LeavesEntry.congr {store other : Store} (hshape : store.SameShape other)
    (htables : store.SameTables other) (outcome : ObjectCreation) (session : Option SessionRef)
    (flags : UInt32) : other.LeavesEntry outcome session flags ↔
      store.LeavesEntry outcome session flags := by
  have hid : other.objectId = store.objectId := funext fun p => hshape.map (·.1) p
  unfold LeavesEntry objectIdInUse
  rw [htables.sessions, htables.objectArray, hid]

theorem createObject_sameTables_iff {store : Store} (outcome : ObjectCreation) (payload : Payload)
    (session : Option SessionRef) (flags : UInt32)
    (hfailed : ∀ object, (store.createObject outcome payload session flags).1 ≠ .ok object) :
    store.SameTables (store.createObject outcome payload session flags).2 ↔
      ¬store.LeavesEntry outcome session flags := by
  rcases createObject_failed_cases outcome payload session flags hfailed with
    ⟨hleaves, hne⟩ | ⟨hnot, hkept⟩
  · exact iff_of_false (fun h => hne h.sessions) fun h => h hleaves
  · obtain ⟨hsessions, hreferences, hobjectArray, hsessionArray, hstock⟩ := hkept
    exact iff_of_true ⟨hsessions, hreferences, hobjectArray, hsessionArray, hstock⟩ hnot

theorem processDestroy_store {later : Host} {object : ObjectRef}
    (hpayload : later.store.payload object = some (.process process)) (array : ArrayRemove) :
    (processDestroy array object later).store =
      (releaseAll array process.holds later.store).freeObject object := by
  unfold processDestroy
  rw [hpayload]
  rfl

theorem processDestroy_get {later : Host} {object : ObjectRef}
    (hpayload : later.store.payload object = some (.process process)) (array : ArrayRemove)
    (hlast : ∀ hold ∈ process.holds, ∃ o, later.store.objects.get hold.object = some o ∧
      o.Outlasts process.holds hold.object) {p : ObjectRef} (hp : p ≠ object) :
    (processDestroy array object later).store.objects.get p =
      (later.store.objects.get p).map (Object.lose process.holds p) := by
  rw [processDestroy_store hpayload, Store.freeObject, Heap.get_free_ne hp]
  exact releaseAll_get array hlast p

-- The event source was added, and the object was created.
def Host.spawned (host : Host) (handle : Files.IOHandle) (object : ObjectRef) (store : Store) : Host :=
  { (host.setPipe object handle).addSource ⟨handle, object⟩ with store }

theorem Host.spawned_stateChangePipe (host : Host) (handle : Files.IOHandle) (object : ObjectRef)
    (store : Store) : (host.spawned handle object store).stateChangePipe object = handle := by
  simp only [spawned, addSource, setPipe, Function.update_self]

theorem processDestroy_spawned {handle : Files.IOHandle} {object : ObjectRef} {store : Store}
    (hpayload : store.payload object = some (.process process)) (array : ArrayRemove) (host : Host) :
    (processDestroy array object (host.spawned handle object store)).eventSources =
      host.eventSources := by
  have hspawned : (host.spawned handle object store).store.payload object =
    some (.process process) := hpayload
  unfold processDestroy
  rw [hspawned, Host.spawned_stateChangePipe]
  simp only [Host.removeSource, Host.spawned, Host.addSource, Host.setPipe, decide_true,
    List.eraseP_cons_of_pos]

-- The process was registered, and its object was created.
theorem SpawnReady.balanced (h : SpawnReady request outcomes host.store process)
    (hsound : Sound pool host.store) (array : ArrayRemove) (handle : Files.IOHandle)
    {object : ObjectRef} {store : Store} (hcreate : (host.acquired process).store.createObject
      outcomes.objectCreate (.process process) request.session request.createFlags =
        (.ok object, store)) :
    let result := spawnResult request (.ok object, host.spawned handle object store)
    NewProcess request host result object ∧
      SpawnBalanced array request host result object process := by
  have hlive := Object.Referenced.holds_live hsound h.toSpawnFound
  obtain ⟨hobject, hlisted, o, ho, htype, hpayload⟩ := createObject_ok_object (congrArg Prod.fst hcreate)
  rw [hcreate] at hlisted ho
  have hfresh : host.store.objects.get object = none := by
    have hnone := Heap.get_eq_none_of_next_le (host.acquired process).store.objects
      (Nat.le_of_eq hobject.symm)
    have hget := acquireAll_get process.holds.reverse host.store object
    rw [show (acquireAll process.holds.reverse host.store).objects.get object = none from hnone] at hget
    exact Option.map_eq_none_iff.mp hget.symm
  have hgained : ∀ p, p ≠ object →
      store.objects.get p = (host.store.objects.get p).map (Object.gain process.holds p) := by
    intro p hp
    rw [show store = ((host.acquired process).store.createObject outcomes.objectCreate
      (.process process) request.session request.createFlags).2 from (congrArg Prod.snd hcreate).symm,
      createObject_get_ne outcomes.objectCreate _ _ _ (hobject ▸ hp)]
    refine (acquireAll_get process.holds.reverse host.store p).trans ?_
    exact congrArg (fun f => (host.store.objects.get p).map f)
      (funext fun o => o.gain_perm (List.reverse_perm _) p)
  have hprocess : store.payload object = some (.process process) := by
    unfold Store.payload
    rw [ho, Option.map_some, hpayload]
  have houtlasts : ∀ hold ∈ process.holds, ∃ o, store.objects.get hold.object = some o ∧
      o.Outlasts process.holds hold.object := by
    intro hold hmem
    obtain ⟨o, ho, hreferenced⟩ := hlive hold hmem
    have hne : hold.object ≠ object := by
      rintro heq
      rw [heq, hfresh] at ho
      cases ho
    exact ⟨_, by rw [hgained _ hne, ho, Option.map_some], hreferenced.outlasts _ _⟩
  simp only [spawnResult]
  refine ⟨⟨hfresh, ⟨o, ho, htype, fun hid => ?_⟩, hlisted, fun hgiven => ?_⟩,
    h.toSpawnFound, hprocess, hgained, ?_,
    ⟨fun p => ?_, processDestroy_spawned hprocess array host⟩, ?_⟩
  · simp only [hid, if_true]
    unfold Store.objectId
    rw [show (host.spawned handle object store).store.objects.get object = some o from ho,
      Option.map_some]
  · simp only [hgiven, if_true]
  · simp only [Host.spawned_stateChangePipe]
    rfl
  · by_cases hp : p = object
    · subst hp
      rw [processDestroy_store hprocess, Store.freeObject, Heap.get_free_self, hfresh]
    · rw [processDestroy_get hprocess array houtlasts hp]
      rw [show (host.spawned handle object store).store.objects.get p = store.objects.get p from rfl,
        hgained p hp, Option.map_map]
      refine Eq.trans ?_ Option.map_id'
      exact congrArg (fun f => (host.store.objects.get p).map f)
        (funext fun o => Object.lose_gain process.holds p o)
  · rintro later ⟨process', hholds, hlater⟩ hlast p hp
    rw [← hholds] at hlast ⊢
    exact processDestroy_get hlater array hlast hp

-- Without the object nothing that was stored behind the pointers refers to a new one.
theorem NewProcess.not_sameObjects {result : SpawnResult} {object : ObjectRef}
    (h : NewProcess request host result object)
    (hsame : host.store.SameObjects result.host.store) : False := by
  obtain ⟨o, ho, -⟩ := h.created
  rw [hsame, h.fresh] at ho
  cases ho

theorem spawnExact_of_error {code : APIE} {last : Host} (hcode : code ≠ .success)
    (hsame : host.Same last) : SpawnExact array request host ⟨code, none, none, last⟩ := by
  refine ⟨⟨fun h => absurd h hcode, ?_⟩, fun h => absurd h hcode, fun _ => hsame⟩
  rintro ⟨object, hnew⟩
  exact (hnew.not_sameObjects hsame.objects).elim

theorem createObject_error_code {outcome : ObjectCreation} {payload : Payload}
    {session : Option SessionRef} {flags : UInt32} {code : APIE} {store : Store}
    (h : (store.createObject outcome payload session flags).1 = .error code) : code ≠ .success := by
  by_cases hvalid : ValidFlags session flags
  · rw [createObject_of_valid outcome payload store hvalid] at h
    simp only at h
    split at h
    · cases h
    · cases h
      assumption
  · rw [createObject_of_invalid outcome payload store hvalid] at h
    cases h
    decide

-- No object, but no error either.
theorem Reached.not_exact {result : Except APIE ObjectRef × Host} {last : Host}
    (h : Reached host (.error .success, last) result) :
    ¬SpawnExact array request host (spawnResult request result) := by
  obtain ⟨hcode, hobjects, -⟩ := h.error .success rfl
  obtain ⟨code | a, last'⟩ := result
  · cases hcode
    intro hexact
    obtain ⟨object, hnew⟩ := hexact.success_iff.mp rfl
    exact hnew.not_sameObjects hobjects
  · cases hcode

-- A failed phase reports an error, and what it leaves in the tables stays.
theorem Reached.exact_iff {result : Except APIE ObjectRef × Host} {code : APIE} {last : Host}
    (h : Reached host (.error code, last) result) (hcode : code ≠ .success)
    (hsources : last.eventSources = host.eventSources) :
    SpawnExact array request host (spawnResult request result) ↔
      host.store.SameTables last.store := by
  obtain ⟨heq, hobjects, hsame, hevents⟩ := h.error code rfl
  obtain ⟨code' | a, last'⟩ := result
  · cases heq
    constructor
    · intro hexact
      have hback := (hexact.unchanged hcode).tables
      exact ⟨hsame.sessions.symm.trans hback.sessions, hsame.references.symm.trans hback.references,
        hsame.objectArray.symm.trans hback.objectArray,
        hsame.sessionArray.symm.trans hback.sessionArray,
        hsame.stockStrings.symm.trans hback.stockStrings⟩
    · intro hkept
      exact spawnExact_of_error hcode ⟨hobjects, hkept.trans hsame, hevents.trans hsources⟩
  · cases heq

theorem SpawnReady.acquired_phase (h : SpawnReady request outcomes host.store process)
    (hsound : Sound pool host.store) :
    ∃ pool, (host.acquired process).Phase host.store pool := by
  have hlive := Object.Referenced.holds_live hsound h.toSpawnFound
  have hstart : host.Phase host.store pool := ⟨hsound, .refl host.store⟩
  refine ⟨_, @Host.Phase.acquireAll pool host.store host process.holds.reverse hstart fun hold hmem => ?_⟩
  obtain ⟨o, ho, -⟩ := hlive hold (List.mem_reverse.mp hmem)
  simp [ho]

-- object_create fails behind the event source.
theorem Reached.exact_iff_noEntry {acquired : Host} {result : Except APIE ObjectRef × Host}
    {code : APIE} {store : Store} {handle : Files.IOHandle} (hphase : acquired.Phase host.store pool)
    (htables : host.store.SameTables acquired.store)
    (hsources : acquired.eventSources = host.eventSources)
    (hcreate : acquired.store.createObject outcomes.objectCreate (.process process) request.session
      request.createFlags = (.error code, store))
    (h : Reached host (.error code, { acquired.setPipe acquired.store.objects.next handle with store })
      result) :
    SpawnExact array request host (spawnResult request result) ↔
      ¬host.store.LeavesEntry outcomes.objectCreate request.session request.createFlags := by
  have hfails := congrArg Prod.fst hcreate
  have hkept := createObject_sameTables_iff outcomes.objectCreate (.process process)
    request.session request.createFlags fun object hok => by rw [hfails] at hok; cases hok
  rw [hcreate, Store.LeavesEntry.congr hphase.shape htables] at hkept
  rw [h.exact_iff (createObject_error_code hfails) hsources, ← hkept]
  constructor
  · intro hkept
    exact ⟨hkept.sessions.trans htables.sessions.symm, hkept.references.trans htables.references.symm,
      hkept.objectArray.trans htables.objectArray.symm,
      hkept.sessionArray.trans htables.sessionArray.symm,
      hkept.stockStrings.trans htables.stockStrings.symm⟩
  · exact htables.trans

-- The event source and object_create decide, once everything is acquired.
theorem Reached.exact_iff_registered {acquired : Host} {result : Except APIE ObjectRef × Host}
    {handle : Files.IOHandle} (hphase : acquired.Phase host.store pool)
    (htables : host.store.SameTables acquired.store)
    (hsources : acquired.eventSources = host.eventSources)
    (h : Reached host (processRegister outcomes request process handle acquired) result)
    (hok : ∀ object store, acquired.store.createObject outcomes.objectCreate (.process process)
      request.session request.createFlags = (.ok object, store) → object = acquired.store.objects.next →
      SpawnExact array request host
        (spawnResult request (.ok object, acquired.spawned handle object store))) :
    SpawnExact array request host (spawnResult request result) ↔
      outcomes.eventAddSource = true ∧
        ¬host.store.LeavesEntry outcomes.objectCreate request.session request.createFlags := by
  have hstore : (acquired.setPipe acquired.store.objects.next handle).store = acquired.store := rfl
  unfold processRegister at h
  cases hadd : outcomes.eventAddSource with
  | false =>
      simp only [hadd, Bool.false_eq_true, if_false] at h
      exact iff_of_false h.not_exact fun hall => (nomatch hall.1)
  | true =>
      simp only [hadd, if_true, hstore] at h
      simp only [true_and]
      rcases hcreate : acquired.store.createObject outcomes.objectCreate (.process process)
        request.session request.createFlags with ⟨code | object, store⟩
      · simp only [hcreate] at h
        exact h.exact_iff_noEntry hphase htables hsources hcreate
      · simp only [hcreate] at h
        have hplace := createObject_ok_place (congrArg Prod.fst hcreate)
        obtain ⟨hobject, -⟩ := createObject_ok_object (congrArg Prod.fst hcreate)
        rw [h.ok object rfl, ← Store.LeavesEntry.congr hphase.shape htables, ← hobject]
        exact iff_of_true (hok object store hcreate hobject) fun hleaves => hplace hleaves.2.2.2.2

theorem Host.acquired_sameTables (host : Host) (process : Process) :
    host.store.SameTables (host.acquired process).store := by
  unfold acquired
  dsimp only
  apply acquireAll_sameTables

theorem Host.acquired_spawned (host : Host) (process : Process) (handle : Files.IOHandle)
    (object : ObjectRef) (store : Store) :
    (host.acquired process).spawned handle object store = host.spawned handle object store := by
  unfold acquired spawned addSource setPipe
  dsimp only

theorem SpawnReady.exact_iff (h : SpawnReady request outcomes host.store process)
    (hsound : Sound pool host.store) (array : ArrayRemove) :
    SpawnExact array request host (processSpawn array outcomes request host) ↔
      outcomes.eventAddSource = true ∧
        ¬host.store.LeavesEntry outcomes.objectCreate request.session request.createFlags := by
  obtain ⟨handle, hstate⟩ := h.state_change_pipe
  obtain ⟨_, hphase⟩ := h.acquired_phase hsound
  have hsources : (host.acquired process).eventSources = host.eventSources := by
    unfold Host.acquired
    dsimp only
  have hreached := h.reached hsound array
  rw [processStart_eq h.status_pipe h.fork h.child h.calloc hstate] at hreached
  unfold processSpawn
  refine hreached.exact_iff_registered hphase (host.acquired_sameTables process) hsources
    fun object store hcreate _ => ?_
  rw [host.acquired_spawned]
  obtain ⟨hnew, hbalanced⟩ := h.balanced hsound array handle hcreate
  exact ⟨iff_of_true rfl ⟨object, hnew⟩, fun _ => ⟨object, process, hnew, hbalanced⟩,
    fun hfailed => absurd rfl hfailed⟩

-- Exactly if neither the event source is what fails, nor an object_create that leaves an entry.
theorem process_spawn_exact_iff
    (hsteps : Relation.ReflTransGen (CleanStep array) ([], Store.init) (pool, host.store))
    (outcomes : SpawnOutcomes) (request : SpawnArguments) :
    SpawnExact array request host (processSpawn array outcomes request host) ↔
      ¬SpawnFails request outcomes host.store := by
  have hsound := sound_of_steps hsteps
  by_cases hready : ∃ process, SpawnReady request outcomes host.store process
  · obtain ⟨process, hprocess⟩ := hready
    rw [hprocess.exact_iff hsound array]
    unfold SpawnFails
    constructor
    · rintro ⟨hadd, hnone⟩ ⟨-, hfalse | ⟨-, hleaves⟩⟩
      · rw [hadd] at hfalse
        cases hfalse
      · exact hnone hleaves
    · intro hmet
      have hadd : outcomes.eventAddSource = true := by
        by_contra hfalse
        exact hmet ⟨⟨process, hprocess⟩, Or.inl (Bool.not_eq_true _ ▸ hfalse)⟩
      exact ⟨hadd, fun hleaves => hmet ⟨⟨process, hprocess⟩, Or.inr ⟨hadd, hleaves⟩⟩⟩
  · obtain ⟨code, last, hcode, heq, hsame⟩ :=
      (hsound.processSpawnPhases_rejected array outcomes request).resolve_right hready
    refine iff_of_true ?_ fun hfails => hready hfails.1
    unfold processSpawn
    rw [heq]
    exact spawnExact_of_error hcode hsame

end Spawn

section Examples

-- A session, a string, a list and a file with this string as its name.
def spawnStore : Store :=
  ((acquireAll [lockedHold 0] (((sessionCreate ⟨true, none, none, none⟩ 10 Store.init).2.createObject
    ⟨true, none⟩ (.string ⟨Block.malloc (fun _ => 47) 2, 1, 2⟩) (some 0)
    OBJECT_CREATE_FLAG_EXTERNAL).2.createObject ⟨true, none⟩ (.list []) (some 0)
    OBJECT_CREATE_FLAG_EXTERNAL).2).createObject ⟨true, none⟩ (.file 0) (some 0)
    OBJECT_CREATE_FLAG_EXTERNAL).2

theorem spawnStore_steps :
    Relation.ReflTransGen (CleanStep .byIndex) ([], Store.init) ([], spawnStore) := by
  have hlist : Relation.ReflTransGen (CleanStep .byIndex) ([], Store.init) ([], _) :=
    ((Relation.ReflTransGen.refl.tail
      ⟨.sessionCreate [] _ ⟨true, none, none, none⟩ 10, Store.entriesLive_of_cells rfl⟩).tail
      ⟨.created [] _ ⟨true, none⟩ (.string ⟨Block.malloc (fun _ => 47) 2, 1, 2⟩) (some 0)
        OBJECT_CREATE_FLAG_EXTERNAL 0 rfl nofun rfl, Store.entriesLive_of_cells rfl⟩).tail
      ⟨.created [] _ ⟨true, none⟩ (.list []) (some 0) OBJECT_CREATE_FLAG_EXTERNAL 1 rfl nofun rfl,
        Store.entriesLive_of_cells rfl⟩
  exact (acquireAll_steps [lockedHold 0] hlist (by decide)).tail
    ⟨.created [] _ ⟨true, none⟩ (.file 0) (some 0) OBJECT_CREATE_FLAG_EXTERNAL 2 rfl (by decide) rfl,
      Store.entriesLive_of_cells rfl⟩

def spawnHost : Host := ⟨spawnStore, [], fun _ => 0⟩

def spawnRequest : SpawnArguments where
  executableId := 1
  argumentsId := 2
  environmentId := 2
  workingDirectoryId := 1
  uid := 1000
  gid := 1000
  stdinId := 3
  stdoutId := 3
  stderrId := 3
  session := none
  objectCreateFlags := 1
  releaseOnDeath := false
  id := true
  object := true

def spawnOutcomes (eventAddSource : Bool) : SpawnOutcomes where
  argumentsArray := ⟨none, fun _ => none⟩
  environmentArray := ⟨none, fun _ => none⟩
  statusPipe := none
  fork := true
  child _ := .ok .success
  calloc := true
  stateChangePipe := .ok 7
  eventAddSource
  objectCreate := ⟨true, none⟩

theorem spawnHost_process_spawn : SpawnExact .byIndex spawnRequest spawnHost
    (processSpawn .byIndex (spawnOutcomes true) spawnRequest spawnHost) := by
  refine (process_spawn_exact_iff spawnStore_steps (spawnOutcomes true) spawnRequest).mpr ?_
  rintro ⟨-, hadd | ⟨-, -, hflag, -⟩⟩
  · cases hadd
  · exact hflag (by decide)

-- The error code of the child is returned if there is no event source.
set_option maxRecDepth 4000 in
theorem process_spawn_succeeds_without_process :
    Relation.ReflTransGen (CleanStep .byIndex) ([], Store.init) ([], spawnHost.store) ∧
      (processSpawn .byIndex (spawnOutcomes false) spawnRequest spawnHost).code = .success ∧
      ¬SpawnExact .byIndex spawnRequest spawnHost
        (processSpawn .byIndex (spawnOutcomes false) spawnRequest spawnHost) := by
  refine ⟨spawnStore_steps, rfl, fun hexact => ?_⟩
  obtain ⟨object, hnew⟩ := hexact.success_iff.mp rfl
  have hnone : (processSpawn .byIndex (spawnOutcomes false) spawnRequest spawnHost).object = none :=
    rfl
  have hobject := hnew.object rfl
  rw [hnone] at hobject
  cases hobject

end Examples

end RedApid

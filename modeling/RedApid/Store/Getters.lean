import Mathlib.Data.List.ReduceOption
import RedApid.Files.Events
import RedApid.Store.Releases

namespace RedApid

open Files Memory

def OBJECT_ID_ZERO : ObjectID := 0

section Functions

variable (array : ArrayRemove)

-- External references to the objects in this order. Once a call fails, the references taken
-- before are given back, the last one first. `calloc n` is the outcome of calloc in the call
-- that has `n` others behind it.
def addExternalReferences (calloc : Nat → Bool) (session : SessionRef) :
    List ObjectRef → Store → APIE × Store
  | [], store => (.success, store)
  | object :: objects, store =>
      match objectAddExternalReference (calloc objects.length) object session store with
      | (.success, store) =>
          match addExternalReferences calloc session objects store with
          | (.success, store) => (.success, store)
          | (code, store) => (code, objectRemoveExternalReference array object session store)
      | (code, store) => (code, store)

-- What there is behind a pointer.
def Store.payload (store : Store) (object : ObjectRef) : Option Payload :=
  (store.objects.get object).map (·.payload)

-- The ID that a getter returns for an object, or for none.
def Store.idOf (store : Store) : Option ObjectRef → ObjectID
  | none => OBJECT_ID_ZERO
  | some object => (store.objectId object).getD OBJECT_ID_ZERO

-- References to the objects in the slots that are not empty, and then the result.
def handOut {α : Type} (calloc : Nat → Bool) (session : SessionRef)
    (slots : List (Option ObjectRef)) (result : Store → α) (store : Store) :
    Except APIE α × Store :=
  match addExternalReferences array calloc session slots.reduceOption store with
  | (.success, store) => (.ok (result store), store)
  | (code, store) => (.error code, store)

def directoryGetName (calloc : Nat → Bool) (directory : ObjectRef) (session : SessionRef)
    (store : Store) : Except APIE ObjectID × Store :=
  match store.payload directory with
  | some (.directory name) =>
      handOut array calloc session [some name] (fun store => store.idOf (some name)) store
  | _ => (.error .internalError, store.faulted)

structure Command where
  executableId : ObjectID
  argumentsId : ObjectID
  environmentId : ObjectID
  workingDirectoryId : ObjectID

def Command.ids (command : Command) : List ObjectID :=
  [command.executableId, command.argumentsId, command.environmentId, command.workingDirectoryId]

def processGetCommand (calloc : Nat → Bool) (process : ObjectRef) (session : SessionRef)
    (store : Store) : Except APIE Command × Store :=
  match store.payload process with
  | some (.process p) =>
      handOut array calloc session
        [some p.executable, some p.arguments, some p.environment, some p.workingDirectory]
        (fun store => ⟨store.idOf (some p.executable), store.idOf (some p.arguments),
          store.idOf (some p.environment), store.idOf (some p.workingDirectory)⟩) store
  | _ => (.error .internalError, store.faulted)

structure ProcessStdio where
  stdinId : ObjectID
  stdoutId : ObjectID
  stderrId : ObjectID

def ProcessStdio.ids (stdio : ProcessStdio) : List ObjectID :=
  [stdio.stdinId, stdio.stdoutId, stdio.stderrId]

def processGetStdio (calloc : Nat → Bool) (process : ObjectRef) (session : SessionRef)
    (store : Store) : Except APIE ProcessStdio × Store :=
  match store.payload process with
  | some (.process p) =>
      handOut array calloc session [some p.stdin, some p.stdout, some p.stderr]
        (fun store => ⟨store.idOf (some p.stdin), store.idOf (some p.stdout),
          store.idOf (some p.stderr)⟩) store
  | _ => (.error .internalError, store.faulted)

-- What the functions of a program read apart from its config and the objects it holds.
structure ProgramStatus where
  purged : Bool
  lastSpawnedTimestamp : UInt64
deriving DecidableEq, Repr

def programGetCommand (calloc : Nat → Bool) (status : ProgramStatus) (program : ObjectRef)
    (session : SessionRef) (store : Store) : Except APIE Command × Store :=
  match store.payload program with
  | some (.program p) =>
      if status.purged then (.error .programIsPurged, store)
      else
        handOut array calloc session
          [some p.config.executable, some p.config.arguments, some p.config.environment,
            some p.config.workingDirectory]
          (fun store => ⟨store.idOf (some p.config.executable),
            store.idOf (some p.config.arguments), store.idOf (some p.config.environment),
            store.idOf (some p.config.workingDirectory)⟩) store
  | _ => (.error .internalError, store.faulted)

structure StdioRedirection where
  stdinRedirection : ProgramStdioRedirection
  stdinFileNameId : ObjectID
  stdoutRedirection : ProgramStdioRedirection
  stdoutFileNameId : ObjectID
  stderrRedirection : ProgramStdioRedirection
  stderrFileNameId : ObjectID

def StdioRedirection.ids (stdio : StdioRedirection) : List ObjectID :=
  [stdio.stdinFileNameId, stdio.stdoutFileNameId, stdio.stderrFileNameId]

def ProgramStdioRedirection.fileName (redirection : ProgramStdioRedirection)
    (fileName : ObjectRef) : Option ObjectRef :=
  if redirection = .file then some fileName else none

def programGetStdioRedirection (calloc : Nat → Bool) (status : ProgramStatus)
    (program : ObjectRef) (session : SessionRef) (store : Store) :
    Except APIE StdioRedirection × Store :=
  match store.payload program with
  | some (.program p) =>
      if status.purged then (.error .programIsPurged, store)
      else
        let stdin := p.config.stdinRedirection.fileName p.config.stdinFileName
        let stdout := p.config.stdoutRedirection.fileName p.config.stdoutFileName
        let stderr := p.config.stderrRedirection.fileName p.config.stderrFileName
        handOut array calloc session [stdin, stdout, stderr]
          (fun store => ⟨p.config.stdinRedirection, store.idOf stdin,
            p.config.stdoutRedirection, store.idOf stdout,
            p.config.stderrRedirection, store.idOf stderr⟩) store
  | _ => (.error .internalError, store.faulted)

structure Schedule where
  startMode : ProgramStartMode
  continueAfterError : Bool
  startInterval : UInt32
  startFieldsId : ObjectID

def programGetSchedule (calloc : Nat → Bool) (status : ProgramStatus) (program : ObjectRef)
    (session : SessionRef) (store : Store) : Except APIE Schedule × Store :=
  match store.payload program with
  | some (.program p) =>
      if status.purged then (.error .programIsPurged, store)
      else
        let startFields := if p.config.startMode = .cron then some p.config.startFields else none
        handOut array calloc session [startFields]
          (fun store => ⟨p.config.startMode, p.config.continueAfterError,
            p.config.startInterval, store.idOf startFields⟩) store
  | _ => (.error .internalError, store.faulted)

def programGetLastSpawnedProcess (calloc : Nat → Bool) (status : ProgramStatus)
    (program : ObjectRef) (session : SessionRef) (store : Store) :
    Except APIE (ObjectID × UInt64) × Store :=
  match store.payload program with
  | some (.program p) =>
      if status.purged then (.error .programIsPurged, store)
      else
        match p.scheduler.lastSpawnedProcess with
        | none => (.error .doesNotExist, store)
        | some process =>
            handOut array calloc session [some process]
              (fun store => (store.idOf (some process), status.lastSpawnedTimestamp)) store
  | _ => (.error .internalError, store.faulted)

end Functions

section FileInfo

def S_IFMT : UInt32 := 0o170000

def fileGetTypeFromStatMode (mode : UInt32) : FileType :=
  if mode &&& S_IFMT = 0o100000 then .regular
  else if mode &&& S_IFMT = 0o040000 then .directory
  else if mode &&& S_IFMT = 0o020000 then .character
  else if mode &&& S_IFMT = 0o060000 then .block
  else if mode &&& S_IFMT = 0o010000 then .fifo
  else if mode &&& S_IFMT = 0o120000 then .symlink
  else if mode &&& S_IFMT = 0o140000 then .socket
  else .unknown

-- The bits of the mode have the values of the permissions.
def fileGetPermissionsFromStatMode (mode : UInt32) : UInt16 :=
  [0o400, 0o200, 0o100, 0o040, 0o020, 0o010, 0o004, 0o002, 0o001].foldl
    (fun permissions bit =>
      if mode &&& bit ≠ 0 then permissions ||| bit.toUInt16 else permissions) 0

structure Stat where
  mode : UInt32
  uid : UInt32
  gid : UInt32
  size : UInt64
  atime : UInt64
  mtime : UInt64
  ctime : UInt64
deriving DecidableEq, Repr

structure FileInfo where
  type : FileType
  nameId : ObjectID
  flags : UInt32
  permissions : UInt16
  uid : UInt32
  gid : UInt32
  length : UInt64
  accessTimestamp : UInt64
  modificationTimestamp : UInt64
  statusChangeTimestamp : UInt64

-- What file_get_info reads of a file apart from its name, and what the calls of fcntl and fstat
-- return.
structure FileState where
  type : FileType
  flags : UInt32
  fcntl : Except APIError UInt64
  fstat : Except APIError Stat

def fileGetInfo (calloc : Bool) (state : FileState) (file : ObjectRef) (session : SessionRef)
    (store : Store) : Except APIE FileInfo × Store :=
  match store.payload file with
  | some (.file name) =>
      if state.type = .pipe then
        match state.fcntl with
        | .error code => (.error code, store)
        | .ok length =>
            (.ok ⟨state.type, OBJECT_ID_ZERO, state.flags, 0, 0, 0, length, 0, 0, 0⟩, store)
      else
        match objectAddExternalReference calloc name session store with
        | (.success, store) =>
            match state.fstat with
            | .error code => (.error code, store)
            | .ok st =>
                if fileGetTypeFromStatMode st.mode ≠ state.type then (.error .internalError, store)
                else
                  (.ok ⟨state.type, store.idOf (some name), state.flags,
                    fileGetPermissionsFromStatMode st.mode, st.uid, st.gid, st.size, st.atime,
                    st.mtime, st.ctime⟩, store)
        | (code, store) => (.error code, store)
  | _ => (.error .internalError, store.faulted)

end FileInfo

section AllOrNothing

variable {α : Type} {array : ArrayRemove} {pool : List Hold} {store other : Store}
  {session : SessionRef}

-- A getter that succeeds leaves one reference for each ID of an object that it returns, and a
-- getter that fails none.
structure AllOrNothing (session : SessionRef) (ids : α → List ObjectID) (store : Store)
    (result : Except APIE α × Store) : Prop where
  ok : ∀ a, result.1 = .ok a → ∃ slots : List (Option ObjectRef),
    ids a = slots.map result.2.idOf ∧
      (∀ p ∈ slots.reduceOption, result.2.idOf (some p) ≠ OBJECT_ID_ZERO) ∧
      store.Transfers session (fun p => slots.reduceOption.count p) slots.reduceOption.length
        result.2
  error : ∀ code, result.1 = .error code → store.Transfers session 0 0 result.2

-- The objects are held, not only by sessions.
def Store.HeldInternally (store : Store) (objects : List ObjectRef) : Prop :=
  ∀ p ∈ objects, ∃ o, store.objects.get p = some o ∧ o.internalReferenceCount ≠ 0

theorem Store.HeldInternally.sameInternals {objects : List ObjectRef}
    (h : store.HeldInternally objects) (hsame : store.SameInternals other) :
    other.HeldInternally objects := by
  intro p hp
  obtain ⟨o, ho, hinternal⟩ := h p hp
  obtain ⟨o', ho', hinternals⟩ := hsame.get_eq ho
  have hcount := congrArg Object.internalReferenceCount hinternals
  change o'.internalReferenceCount = o.internalReferenceCount at hcount
  exact ⟨o', ho', by rw [hcount]; exact hinternal⟩

theorem addExternalReferences_transfers (calloc : Nat → Bool) (session : SessionRef)
    (objects : List ObjectRef) (h : store.Counted) (hheld : store.HeldInternally objects) :
    let result := addExternalReferences array calloc session objects store
    (result.1 = .success →
      store.Transfers session (fun p => objects.count p) objects.length result.2) ∧
      (result.1 ≠ .success → store.Transfers session 0 0 result.2) := by
  induction objects generalizing store with
  | nil => exact ⟨fun _ => .refl session h, fun hne => absurd rfl hne⟩
  | cons object objects ih =>
      obtain ⟨hadded, hfailed⟩ :=
        Store.Transfers.addExternalReference (calloc objects.length) object session h
      rcases hresult : objectAddExternalReference (calloc objects.length) object session store with
        ⟨code, added⟩
      simp only [hresult] at hadded hfailed
      by_cases hcode : code = .success
      · subst hcode
        have hfirst := hadded rfl
        obtain ⟨hrest, hundo⟩ := ih hfirst.counted
          fun p hp => hheld.sameInternals hfirst.internals p (List.mem_cons_of_mem _ hp)
        rcases hresult' : addExternalReferences array calloc session objects added with
          ⟨code, last⟩
        simp only [hresult'] at hrest hundo
        by_cases hcode : code = .success
        · subst hcode
          simp only [addExternalReferences, hresult, hresult']
          refine ⟨fun _ => ?_, fun hne => absurd rfl hne⟩
          have hboth := hfirst.trans (hrest rfl)
          have hcount : Pi.single object 1 + (fun p => (objects.count p : Int)) =
              fun p => ((object :: objects).count p : Int) := by
            funext p
            rw [Pi.add_apply, Pi.single_apply, List.count_cons]
            by_cases hp : p = object
            · subst hp
              simp [Int.add_comm]
            · simp [hp, Ne.symm hp]
          have hlength : 1 + (objects.length : Int) = ((object :: objects).length : Int) := by
            rw [List.length_cons]
            omega
          rwa [hcount, hlength] at hboth
        · -- the reference to this object is given back as well
          have hkept := hfirst.trans (hundo hcode)
          obtain ⟨o, ho, hinternal⟩ :=
            hheld.sameInternals hkept.internals object List.mem_cons_self
          have hnonneg := h.externalCount_nonneg object session
          have hcount := hkept.count object session
          rw [if_pos rfl, Pi.add_apply, Pi.single_eq_same] at hcount
          have hback := @Store.Transfers.removeExternalReference _ _ session _ array
            hkept.counted ho hinternal (by rw [hcount]; change 1 ≤ _ + (1 + 0); omega)
          have hnothing := hkept.trans hback
          have hzero : Pi.single object 1 + 0 + Pi.single object (-1) = (0 : ObjectRef → Int) := by
            funext p
            simp only [Pi.add_apply, Pi.single_apply, Pi.zero_apply]
            split_ifs <;> omega
          rw [hzero] at hnothing
          have hexpand : addExternalReferences array calloc session (object :: objects) store =
              (code, objectRemoveExternalReference array object session last) := by
            simp only [addExternalReferences, hresult, hresult']
          rw [hexpand]
          exact ⟨fun hsuccess => absurd hsuccess hcode, fun _ => hnothing⟩
      · have hexpand : addExternalReferences array calloc session (object :: objects) store =
            (code, added) := by
          simp only [addExternalReferences, hresult]
        rw [hexpand]
        exact ⟨fun hsuccess => absurd hsuccess hcode, hfailed⟩

theorem Store.idOf_of_get {object : ObjectRef} {o : Object} (ho : store.objects.get object = some o) :
    store.idOf (some object) = o.id := by
  simp only [idOf, objectId, ho]
  rfl

theorem Store.HeldInternally.idOf_ne_zero {objects : List ObjectRef} (h : store.HeldInternally objects)
    (hnamed : store.Named) : ∀ p ∈ objects, store.idOf (some p) ≠ OBJECT_ID_ZERO := by
  intro p hp
  obtain ⟨o, ho, -⟩ := h p hp
  rw [Store.idOf_of_get ho]
  exact hnamed p o ho

variable {ids : α → List ObjectID}

theorem AllOrNothing.refused (ids : α → List ObjectID) (h : store.Counted) (code : APIE) :
    AllOrNothing session ids store (.error code, store) :=
  ⟨fun _ hok => (nomatch hok), fun _ _ => .refl session h⟩

theorem AllOrNothing.faulted (ids : α → List ObjectID) (h : store.Counted) (code : APIE) :
    AllOrNothing session ids store (.error code, store.faulted) := by
  have hsame : store.SameInternals store.faulted := .of_sessions rfl rfl rfl rfl rfl rfl rfl
  exact ⟨fun _ hok => (nomatch hok), fun _ _ => .congr session h hsame rfl rfl rfl⟩

-- One object is handed out.
theorem AllOrNothing.single {object : ObjectRef} {a : α}
    (htransfers : store.Transfers session (Pi.single object 1) 1 other) (hnamed : other.Named)
    (hlive : other.objects.get object ≠ none) (hids : ids a = [other.idOf (some object)]) :
    AllOrNothing session ids store (.ok a, other) := by
  refine ⟨fun a' ha => ?_, fun _ herror => (nomatch herror)⟩
  cases ha
  refine ⟨[some object], hids, fun p hp => ?_, ?_⟩
  · obtain ⟨o, ho⟩ := Option.ne_none_iff_exists'.mp hlive
    rw [List.mem_singleton.mp hp, Store.idOf_of_get ho]
    exact hnamed object o ho
  · have hcount : (Pi.single object 1 : ObjectRef → Int) =
        fun p => (([some object].reduceOption.count p : Nat) : Int) := by
      funext p
      change _ = (([object].count p : Nat) : Int)
      rw [Pi.single_apply, List.count_singleton]
      by_cases hp : p = object
      · simp [hp]
      · simp [hp, Ne.symm hp]
    rwa [hcount] at htransfers

theorem handOut_allOrNothing (calloc : Nat → Bool) {slots : List (Option ObjectRef)}
    {result : Store → α} (h : store.Counted) (hnamed : store.Named)
    (hheld : store.HeldInternally slots.reduceOption)
    (hids : ∀ store : Store, ids (result store) = slots.map store.idOf) :
    AllOrNothing session ids store (handOut array calloc session slots result store) := by
  obtain ⟨hsuccess, hfailure⟩ :=
    @addExternalReferences_transfers array store calloc session slots.reduceOption h hheld
  unfold handOut
  rcases hresult : addExternalReferences array calloc session slots.reduceOption store with
    ⟨code, last⟩
  simp only [hresult] at hsuccess hfailure
  by_cases hcode : code = .success
  · subst hcode
    have htransfers := hsuccess rfl
    refine ⟨fun a ha => ?_, fun _ herror => (nomatch herror)⟩
    cases ha
    have hnamed' := hnamed.kept (.of_sameInternals htransfers.internals)
      (.of_sameInternals htransfers.internals)
    exact ⟨slots, hids last, (hheld.sameInternals htransfers.internals).idOf_ne_zero hnamed',
      htransfers⟩
  · simp only
    exact ⟨fun _ hok => (nomatch hok), fun _ _ => hfailure hcode⟩

-- What an object holds is held.
theorem Sound.held (h : Sound pool store) {object : ObjectRef} {payload : Payload}
    (hpayload : store.payload object = some payload) {hold : Hold} (hmem : hold ∈ payload.holds) :
    ∃ o, store.objects.get hold.object = some o ∧ o.internalReferenceCount ≠ 0 := by
  obtain ⟨o, ho, rfl⟩ := Option.map_eq_some_iff.mp hpayload
  have hpos := Store.claims_pos pool ho hmem
  obtain ⟨q, hq⟩ := Option.ne_none_iff_exists'.mp (h.holding.accounted.live hold hpos)
  refine ⟨q, hq, ?_⟩
  rw [h.holding.accounted.references hold.object q hq]
  obtain ⟨p, locked⟩ := hold
  cases locked with
  | true => exact Nat.ne_of_gt (Nat.add_pos_left hpos _)
  | false => exact Nat.ne_of_gt (Nat.add_pos_right _ hpos)

end AllOrNothing

section Calls

variable {pool : List Hold} {store : Store} {session : SessionRef}

-- What each call that hands out references leaves behind, apart from file_get_info.
structure GettersAllOrNothing (array : ArrayRemove) (session : SessionRef) (object : ObjectRef)
    (store : Store) : Prop where
  list_get_item : ∀ calloc index, AllOrNothing session (fun item => [item.1]) store
    (listGetItem calloc object index session store)
  directory_get_name : ∀ calloc, AllOrNothing session (fun nameId => [nameId]) store
    (directoryGetName array calloc object session store)
  process_get_command : ∀ calloc, AllOrNothing session Command.ids store
    (processGetCommand array calloc object session store)
  process_get_stdio : ∀ calloc, AllOrNothing session ProcessStdio.ids store
    (processGetStdio array calloc object session store)
  program_get_command : ∀ calloc status, AllOrNothing session Command.ids store
    (programGetCommand array calloc status object session store)
  program_get_stdio_redirection : ∀ calloc status,
    AllOrNothing session StdioRedirection.ids store
      (programGetStdioRedirection array calloc status object session store)
  program_get_schedule : ∀ calloc status,
    AllOrNothing session (fun schedule => [schedule.startFieldsId]) store
      (programGetSchedule array calloc status object session store)
  program_get_last_spawned_process : ∀ calloc status,
    AllOrNothing session (fun process => [process.1]) store
      (programGetLastSpawnedProcess array calloc status object session store)

theorem objectAddExternalReference_live {calloc : Bool} {object : ObjectRef}
    (hsuccess : (objectAddExternalReference calloc object session store).1 = .success) :
    store.objects.get object ≠ none ∧ store.sessions.get session ≠ none := by
  unfold objectAddExternalReference at hsuccess
  by_cases hfreed : store.objects.get object = none ∨ store.sessions.get session = none
  · rw [if_pos hfreed] at hsuccess
    cases hsuccess
  · exact not_or.mp hfreed

theorem listGetItem_allOrNothing (calloc : Bool) (list : ObjectRef) (index : UInt16)
    (h : store.Counted) (hnamed : store.Named) :
    AllOrNothing session (fun item => [item.1]) store
      (listGetItem calloc list index session store) := by
  unfold listGetItem
  cases store.objects.get list with
  | none => exact .faulted _ h _
  | some l =>
      simp only
      cases l.items[index.toNat]? with
      | none => exact .refused _ h _
      | some item =>
          obtain ⟨hadded, hfailed⟩ :=
            Store.Transfers.addExternalReference calloc item session h
          simp only
          rcases hresult : objectAddExternalReference calloc item session store with ⟨code, other⟩
          simp only [hresult] at hadded hfailed
          by_cases hcode : code = .success
          · subst hcode
            have htransfers := hadded rfl
            simp only
            obtain ⟨hlive, -⟩ := objectAddExternalReference_live (by rw [hresult])
            obtain ⟨o, ho⟩ := Option.ne_none_iff_exists'.mp hlive
            obtain ⟨o', ho', -⟩ := htransfers.internals.get_eq ho
            rw [ho']
            exact .single htransfers (hnamed.kept (.of_sameInternals htransfers.internals)
              (.of_sameInternals htransfers.internals)) (by simp [ho'])
              (congrArg (fun id => [id]) (Store.idOf_of_get ho').symm)
          · simp only
            exact ⟨fun _ hok => (nomatch hok), fun _ _ => hfailed hcode⟩

theorem Process.mem_holds (process : Process) {p : ObjectRef}
    (hp : p ∈ [process.executable, process.arguments, process.environment,
      process.workingDirectory]) : lockedHold p ∈ process.holds := by
  simp only [List.mem_cons, List.not_mem_nil, or_false] at hp
  rcases hp with rfl | rfl | rfl | rfl <;> simp [Process.holds]

theorem ProgramConfig.mem_holds (config : ProgramConfig) {p : ObjectRef}
    (hp : p ∈ [config.executable, config.arguments, config.environment,
      config.workingDirectory]) : lockedHold p ∈ config.holds := by
  simp only [List.mem_cons, List.not_mem_nil, or_false] at hp
  rcases hp with rfl | rfl | rfl | rfl <;> simp [ProgramConfig.holds]

-- A file name is held as long as the redirection needs it.
theorem ProgramConfig.fileName_mem_holds (config : ProgramConfig) {p : ObjectRef}
    (hp : some p ∈ [config.stdinRedirection.fileName config.stdinFileName,
      config.stdoutRedirection.fileName config.stdoutFileName,
      config.stderrRedirection.fileName config.stderrFileName]) : lockedHold p ∈ config.holds := by
  unfold ProgramStdioRedirection.fileName at hp
  simp only [List.mem_cons, List.not_mem_nil, or_false, Option.some_eq_ite_none_right,
    Option.some.injEq] at hp
  rcases hp with ⟨hfile, rfl⟩ | ⟨hfile, rfl⟩ | ⟨hfile, rfl⟩ <;> simp [ProgramConfig.holds, hfile]

theorem Program.config_mem_holds (program : Program) {hold : Hold}
    (h : hold ∈ program.config.holds) : hold ∈ program.holds :=
  List.mem_append_left _ (List.mem_append_right _ h)

theorem Sound.getters (h : Sound pool store) (hnamed : store.Named) (array : ArrayRemove)
    (session : SessionRef) (object : ObjectRef) :
    GettersAllOrNothing array session object store := by
  -- every object that a getter hands out is held by the one it is called on
  have hheld : ∀ {payload}, store.payload object = some payload →
      ∀ slots : List (Option ObjectRef),
      (∀ p, some p ∈ slots → lockedHold p ∈ payload.holds ∨ plainHold p ∈ payload.holds) →
      store.HeldInternally slots.reduceOption := by
    intro payload hpayload slots hholds p hp
    rcases hholds p (List.reduceOption_mem_iff.mp hp) with hlocked | hplain
    · exact h.held hpayload hlocked
    · exact h.held hpayload hplain
  refine ⟨fun calloc index => listGetItem_allOrNothing calloc object index h.counted hnamed,
    ?_, ?_, ?_, ?_, ?_, ?_, ?_⟩
  · intro calloc
    unfold directoryGetName
    split
    · rename_i name hpayload
      refine handOut_allOrNothing calloc h.counted hnamed (hheld hpayload _ fun p hp => ?_)
        fun _ => rfl
      cases List.mem_singleton.mp hp
      exact Or.inl List.mem_cons_self
    · exact .faulted _ h.counted _
  · intro calloc
    unfold processGetCommand
    split
    · rename_i process hpayload
      refine handOut_allOrNothing calloc h.counted hnamed (hheld hpayload _ fun p hp => ?_)
        fun _ => rfl
      exact Or.inl (process.mem_holds (by simpa using hp))
    · exact .faulted _ h.counted _
  · intro calloc
    unfold processGetStdio
    split
    · rename_i process hpayload
      refine handOut_allOrNothing calloc h.counted hnamed (hheld hpayload _ fun p hp => ?_)
        fun _ => rfl
      right
      simp only [List.mem_cons, List.not_mem_nil, or_false, Option.some.injEq] at hp
      rcases hp with rfl | rfl | rfl <;> simp [Payload.holds, Process.holds]
    · exact .faulted _ h.counted _
  · intro calloc status
    unfold programGetCommand
    split
    · rename_i program hpayload
      split
      · exact .refused _ h.counted _
      · refine handOut_allOrNothing calloc h.counted hnamed (hheld hpayload _ fun p hp => ?_)
          fun _ => rfl
        exact Or.inl (program.config_mem_holds (program.config.mem_holds (by simpa using hp)))
    · exact .faulted _ h.counted _
  · intro calloc status
    unfold programGetStdioRedirection
    split
    · rename_i program hpayload
      split
      · exact .refused _ h.counted _
      · refine handOut_allOrNothing calloc h.counted hnamed (hheld hpayload _ fun p hp => ?_)
          fun _ => rfl
        exact Or.inl (program.config_mem_holds (program.config.fileName_mem_holds hp))
    · exact .faulted _ h.counted _
  · intro calloc status
    unfold programGetSchedule
    split
    · rename_i program hpayload
      split
      · exact .refused _ h.counted _
      · refine handOut_allOrNothing calloc h.counted hnamed (hheld hpayload _ fun p hp => ?_)
          fun _ => rfl
        left
        refine program.config_mem_holds ?_
        have hstart := List.mem_singleton.mp hp
        rw [Option.some_eq_ite_none_right] at hstart
        obtain ⟨hcron, hp⟩ := hstart
        cases hp
        simp [ProgramConfig.holds, hcron]
    · exact .faulted _ h.counted _
  · intro calloc status
    unfold programGetLastSpawnedProcess
    split
    · rename_i program hpayload
      split
      · exact .refused _ h.counted _
      · split
        · exact .refused _ h.counted _
        · rename_i process hprocess
          refine handOut_allOrNothing calloc h.counted hnamed (hheld hpayload _ fun p hp => ?_)
            fun _ => rfl
          right
          cases List.mem_singleton.mp hp
          simp [Payload.holds, Program.holds, ProgramScheduler.holds, hprocess]
    · exact .faulted _ h.counted _

-- Only the calloc of a new entry can fail.
theorem Store.Counted.addExternalReference_iff (h : store.Counted) {object : ObjectRef}
    (hobject : store.objects.get object ≠ none) (hsession : store.sessions.get session ≠ none)
    (calloc : Bool) : (objectAddExternalReference calloc object session store).1 = .success ↔
      ¬ (store.externalCount object session = 0 ∧ calloc = false) := by
  have hlive : ¬ (store.objects.get object = none ∨ store.sessions.get session = none) :=
    not_or.mpr ⟨hobject, hsession⟩
  simp only [objectAddExternalReference, if_neg hlive]
  cases hfind : store.findReference object session with
  | none =>
      have hcount : store.externalCount object session = 0 := by
        unfold Store.externalCount
        rw [hfind]
        rfl
      cases calloc <;> simp [hcount]
  | some reference =>
      obtain ⟨e, he, rfl, rfl⟩ := h.linked.findReference_some hfind
      have hcount := (h.externalCount_of_entry he).2
      have hpos := h.count_pos reference e he
      simp only [true_iff]
      rintro ⟨hzero, -⟩
      omega

-- The reference to the name that file_get_info takes is kept when the rest of the call fails.
theorem Sound.fileGetInfo_iff (h : Sound pool store) (hnamed : store.Named) {file name : ObjectRef}
    (hfile : store.payload file = some (.file name)) (hsession : store.sessions.get session ≠ none)
    (calloc : Bool) (state : FileState) :
    AllOrNothing session (fun info => [info.nameId]) store
        (fileGetInfo calloc state file session store) ↔
      state.type = .pipe ∨ (store.externalCount name session = 0 ∧ calloc = false) ∨
        ∃ st, state.fstat = .ok st ∧ fileGetTypeFromStatMode st.mode = state.type := by
  obtain ⟨o, ho, -⟩ := @Sound.held pool store h file _ hfile (lockedHold name) List.mem_cons_self
  change store.objects.get name = some o at ho
  have hlive : store.objects.get name ≠ none := by simp [ho]
  have hadd := h.counted.addExternalReference_iff hlive hsession calloc
  obtain ⟨hadded, hfailed⟩ := Store.Transfers.addExternalReference calloc name session h.counted
  simp only [fileGetInfo, hfile]
  by_cases hpipe : state.type = .pipe
  · -- no reference is taken
    rw [if_pos hpipe]
    refine ⟨fun _ => Or.inl hpipe, fun _ => ?_⟩
    cases state.fcntl with
    | error code => exact .refused _ h.counted _
    | ok length =>
        refine ⟨fun a ha => ?_, fun _ herror => (nomatch herror)⟩
        cases ha
        exact ⟨[none], rfl, fun p hp => absurd hp List.not_mem_nil, .refl session h.counted⟩
  rw [if_neg hpipe]
  rcases hresult : objectAddExternalReference calloc name session store with ⟨code, other⟩
  simp only [hresult] at hadd hadded hfailed
  by_cases hcode : code = .success
  · subst hcode
    have htransfers := hadded rfl
    have hcalloc := hadd.mp rfl
    -- a failure leaves one reference too many
    have hkept : ∀ code, ¬ AllOrNothing session (fun info : FileInfo => [info.nameId]) store
        (.error code, other) := by
      intro code hall
      have hsame := (hall.error code rfl).count name session
      change other.externalCount name session = _ at hsame
      have hmore := htransfers.count name session
      rw [if_pos rfl] at hsame hmore
      rw [Pi.single_eq_same] at hmore
      rw [Pi.zero_apply] at hsame
      omega
    simp only
    cases hstat : state.fstat with
    | error code =>
        refine ⟨fun hall => absurd hall (hkept code), ?_⟩
        rintro (hpipe' | hnone | ⟨st, hst, -⟩)
        · exact absurd hpipe' hpipe
        · exact absurd hnone hcalloc
        · cases hst
    | ok st =>
        simp only
        by_cases htype : fileGetTypeFromStatMode st.mode = state.type
        · rw [if_neg (not_not.mpr htype)]
          obtain ⟨o', ho', -⟩ := htransfers.internals.get_eq ho
          refine ⟨fun _ => Or.inr (Or.inr ⟨st, rfl, htype⟩), fun _ => ?_⟩
          exact .single htransfers (hnamed.kept (.of_sameInternals htransfers.internals)
            (.of_sameInternals htransfers.internals)) (by simp [ho']) rfl
        · rw [if_pos htype]
          refine ⟨fun hall => absurd hall (hkept _), ?_⟩
          rintro (hpipe' | hnone | ⟨st', hst', hsame⟩)
          · exact absurd hpipe' hpipe
          · exact absurd hnone hcalloc
          · cases hst'
            exact absurd hsame htype
  · have hcalloc := not_not.mp fun hnot => hcode (hadd.mpr hnot)
    refine ⟨fun _ => Or.inr (Or.inl hcalloc), fun _ => ?_⟩
    simp only
    exact ⟨fun _ hok => (nomatch hok), fun _ _ => hfailed hcode⟩

-- Getters hand out references all or none, except that file_get_info keeps the reference to the
-- name of a file, other than a pipe, that fstat fails for or finds changed.
theorem getters_all_or_nothing_iff (array : ArrayRemove)
    (h : Relation.ReflTransGen (CleanStep array) ([], Store.init) (pool, store))
    (session : SessionRef) :
    (∀ object, GettersAllOrNothing array session object store) ∧
    ∀ file name, store.payload file = some (.file name) → store.sessions.get session ≠ none →
      ∀ calloc state, AllOrNothing session (fun info => [info.nameId]) store
          (fileGetInfo calloc state file session store) ↔
        state.type = .pipe ∨ (store.externalCount name session = 0 ∧ calloc = false) ∨
          ∃ st, state.fstat = .ok st ∧ fileGetTypeFromStatMode st.mode = state.type := by
  have hsound := sound_of_steps h
  have hnamed := named_of_steps h
  exact ⟨hsound.getters hnamed array session, fun _ _ hfile hsession =>
    hsound.fileGetInfo_iff hnamed hfile hsession⟩

-- A session, the name of its file and the file.
def fileStore : Store :=
  (((lockedHold 0).acquire ((((sessionCreate ⟨true, none, none, none⟩ 10 Store.init).2).createObject
    ⟨true, none⟩ (.string ⟨Block.malloc (fun _ => 47) 2, 1, 2⟩) (some 0)
    OBJECT_CREATE_FLAG_EXTERNAL).2)).createObject ⟨true, none⟩ (.file 0) (some 0)
    OBJECT_CREATE_FLAG_EXTERNAL).2

theorem fileStore_steps :
    Relation.ReflTransGen (CleanStep .byIndex) ([], Store.init) ([], fileStore) := by
  refine (((Relation.ReflTransGen.refl.tail
    ⟨.sessionCreate [] _ ⟨true, none, none, none⟩ 10, Store.entriesLive_of_cells rfl⟩).tail
    ⟨.created [] _ ⟨true, none⟩ (.string ⟨Block.malloc (fun _ => 47) 2, 1, 2⟩) (some 0)
      OBJECT_CREATE_FLAG_EXTERNAL 0 rfl nofun rfl, Store.entriesLive_of_cells rfl⟩).tail
    ⟨.acquire [] _ (lockedHold 0) (by decide), Store.entriesLive_of_cells rfl⟩).tail
    ⟨.created [] _ ⟨true, none⟩ (.file 0) (some 0) OBJECT_CREATE_FLAG_EXTERNAL 1 rfl ?_ rfl,
      Store.entriesLive_of_cells rfl⟩
  intro hold hmem hplain
  rw [List.mem_singleton.mp hmem] at hplain
  cases hplain

-- It is a regular file still.
def regularFile : FileState :=
  ⟨.regular, 0, .ok 0, .ok ⟨0o100644, 0, 0, 0, 0, 0, 0⟩⟩

theorem fileStore_all_or_nothing :
    AllOrNothing 0 (fun info => [info.nameId]) fileStore
      (fileGetInfo true regularFile 1 0 fileStore) :=
  ((getters_all_or_nothing_iff .byIndex fileStore_steps 0).2 1 0 rfl (by decide) true
    regularFile).mpr (Or.inr (Or.inr ⟨_, rfl, by decide⟩))

-- The file system reports an error.
theorem file_get_info_keeps_reference :
    Relation.ReflTransGen (CleanStep .byIndex) ([], Store.init) ([], fileStore) ∧
      ¬ AllOrNothing 0 (fun info => [info.nameId]) fileStore
        (fileGetInfo true { regularFile with fstat := .error ⟨.internalError, by decide⟩ } 1 0
          fileStore) := by
  refine ⟨fileStore_steps, fun hall => ?_⟩
  have hsame := (hall.error .internalError rfl).count 0 0
  have hmore : (1 : Int) + 1 = 1 + 0 := hsame
  omega

end Calls

end RedApid

import RedApid.Store.Strings

namespace RedApid

open Memory

-- The outcomes of program_scheduler_handle_error. `stopTimer` is the message about a timer that is
-- active and cannot be stopped.
structure HandlerOutcome where
  message : StringOutcome
  stopTimer : Option (CString × StringOutcome)

-- The outcomes of the calls in program_scheduler_prepare_filesystem. `text` is what vsnprintf makes
-- of an error.
structure FilesystemOutcomes where
  workingDirectory : StringOutcome
  stdin : StringOutcome
  stdout : StringOutcome
  stderr : StringOutcome
  createWorkingDirectory : Option APIError
  createStdoutDirectory : Option APIError
  createStderrDirectory : Option APIError
  text : String → APIE → CString
  handler : HandlerOutcome

-- The local variables, where `none` is NULL. No program reads the last four members: what
-- string_asprintf and directory_create have returned so far, the directories and the strings that
-- were created, and which of the strings were unlocked and released.
structure Preparation where
  store : Store
  phase : Nat
  absoluteWorkingDirectory : Option ObjectRef
  absoluteStdinFileName : Option ObjectRef
  absoluteStdoutFileName : Option ObjectRef
  absoluteStderrFileName : Option ObjectRef
  codes : List APIE
  directories : List CString
  strings : List ObjectRef
  released : List ObjectRef

section Handler

variable (array : ArrayRemove) (grow : GrowAllocation) (program : ObjectRef)

def Payload.mapScheduler (f : ProgramScheduler → ProgramScheduler) : Payload → Payload
  | .program p => .program { p with scheduler := f p.scheduler }
  | payload => payload

def Store.modifyScheduler (store : Store) (program : ObjectRef)
    (f : ProgramScheduler → ProgramScheduler) : Store :=
  store.modifyObject program fun o => { o with payload := o.payload.mapScheduler f }

def Store.scheduler (store : Store) (program : ObjectRef) : Option ProgramScheduler :=
  match store.payload program with
  | some (.program p) => some p.scheduler
  | _ => none

-- What it does to the objects. If the message is the old one, then there is nothing to do.
def programSchedulerSetState (message : Option ObjectRef) (store : Store) : Store :=
  match store.scheduler program with
  | none => store.faulted
  | some scheduler =>
      let store :=
        if scheduler.message ≠ message then
          releaseAll array (scheduler.message.toList.map lockedHold) store
        else store
      store.modifyScheduler program fun scheduler => { scheduler with message }

-- Stopping while stopping returns at once, and the message for it stays.
def stopTimerMessage (stopTimer : Option (CString × StringOutcome)) (store : Store) : Store :=
  match stopTimer with
  | none => store
  | some (text, outcome) => (stringWrapObject grow outcome text none ownedFlags store).2

def programSchedulerStop (stopTimer : Option (CString × StringOutcome))
    (message : Option ObjectRef) (store : Store) : Store :=
  programSchedulerSetState array program message (stopTimerMessage grow stopTimer store)

def programSchedulerHandleError (outcome : HandlerOutcome) (text : CString) (store : Store) :
    Store :=
  match stringWrapObject grow outcome.message text none ownedFlags store with
  | (.error _, store) => programSchedulerStop array grow program outcome.stopTimer none store
  | (.ok message, store) =>
      programSchedulerStop array grow program outcome.stopTimer (some message) store

-- A stored string is released before the new one takes its place.
def replaceString (stored : ProgramScheduler → Option ObjectRef)
    (set : ProgramScheduler → ProgramScheduler) (store : Store) : Store :=
  match store.scheduler program with
  | none => store.faulted
  | some scheduler =>
      (releaseAll array ((stored scheduler).toList.map lockedHold) store).modifyScheduler program set

end Handler

section Steps

variable (array : ArrayRemove) (grow : GrowAllocation) (outcomes : FilesystemOutcomes)
  (program : ObjectRef) (p : Program)

-- "%s/bin/%s"
def Store.binName (store : Store) (p : Program) (name : ObjectRef) : CString :=
  store.text p.rootDirectory ++ ascii "/bin/" ++ store.text name

-- What strrchr(path, '/') cuts off.
def directoryPart (path : CString) : Option CString :=
  if 47 ∈ path then some (path.reverse.dropWhile (· ≠ 47)).tail.reverse else none

namespace Preparation

variable (s : Preparation)

def asprintf (outcome : StringOutcome) (name : ObjectRef) : Except APIE ObjectRef × Preparation :=
  match stringAsprintfObject grow outcome (s.store.binName p name) none ownedFlags s.store with
  | (.error code, store) => (.error code, { s with store, codes := s.codes ++ [code] })
  | (.ok string, store) =>
      (.ok string, { s with
        store
        codes := s.codes ++ [.success]
        strings := s.strings ++ [string] })

def directoryCreate (outcome : Option APIError) (path : CString) :
    Except APIE Unit × Preparation :=
  match outcome with
  | some code => (.error code, { s with codes := s.codes ++ [code.val] })
  | none =>
      (.ok (), { s with
        codes := s.codes ++ [.success]
        directories := s.directories ++ [path] })

-- program_scheduler_handle_error, in front of a `goto cleanup`
def handleError (format : String) (code : APIE) : Preparation :=
  { s with
    store := programSchedulerHandleError array grow program outcomes.handler
      (outcomes.text format code) s.store }

-- The name of a file that a stream may be redirected to.
def wrapFileName (redirection : ProgramStdioRedirection) (outcome : StringOutcome)
    (name : ObjectRef) (format : String) : Except APIE (Option ObjectRef) × Preparation :=
  if redirection = .file then
    match s.asprintf grow p outcome name with
    | (.error code, s) => (.error code, s.handleError array grow outcomes program format code)
    | (.ok string, s) => (.ok (some string), s)
  else (.ok none, s)

-- ensure that directory part of file name exists
def ensureDirectory (string : Option ObjectRef) (outcome : Option APIError) (format : String) :
    Except APIE Unit × Preparation :=
  match string.bind fun string => directoryPart (s.store.text string) with
  | none => (.ok (), s)
  | some path =>
      match s.directoryCreate outcome path with
      | (.error code, s) => (.error code, s.handleError array grow outcomes program format code)
      | (.ok (), s) => (.ok (), s)

def release (strings : List ObjectRef) : Preparation :=
  { s with
    store := releaseAll array (strings.map lockedHold) s.store
    released := s.released ++ strings }

-- The string is released here, and again by the cleanup.
def prepareWorkingDirectory : Except APIE Unit × Preparation :=
  match s.asprintf grow p outcomes.workingDirectory p.config.workingDirectory with
  | (.error code, s) => (.error code, s.handleError array grow outcomes program
      "Could not wrap absolute program working directory name into string object: %s (%d)" code)
  | (.ok string, s) =>
      let s := { s with phase := 1, absoluteWorkingDirectory := some string }
      match s.directoryCreate outcomes.createWorkingDirectory (s.store.text string) with
      | (.error code, s) =>
          let s := s.handleError array grow outcomes program
            "Could not create absolute program working directory: %s (%d)" code
          (.error code, s.release array [string])
      | (.ok (), s) => (.ok (), s)

def prepareStdin : Except APIE Unit × Preparation :=
  match s.wrapFileName array grow outcomes program p p.config.stdinRedirection outcomes.stdin
    p.config.stdinFileName "Could not wrap absolute stdin file name into string object: %s (%d)" with
  | (.error code, s) => (.error code, s)
  | (.ok string, s) => (.ok (), { s with phase := 2, absoluteStdinFileName := string })

def prepareStdout : Except APIE Unit × Preparation :=
  match s.wrapFileName array grow outcomes program p p.config.stdoutRedirection outcomes.stdout
    p.config.stdoutFileName
    "Could not wrap absolute stdout file name into string object: %s (%d)" with
  | (.error code, s) => (.error code, s)
  | (.ok string, s) =>
      ensureDirectory array grow outcomes program
        { s with phase := 3, absoluteStdoutFileName := string } string
        outcomes.createStdoutDirectory "Could not create directory for stdout file '%s': %s (%d)"

def prepareStderr : Except APIE Unit × Preparation :=
  match s.wrapFileName array grow outcomes program p p.config.stderrRedirection outcomes.stderr
    p.config.stderrFileName
    "Could not wrap absolute stderr file name into string object: %s (%d)" with
  | (.error code, s) => (.error code, s)
  | (.ok string, s) =>
      ensureDirectory array grow outcomes program
        { s with phase := 4, absoluteStderrFileName := string } string
        outcomes.createStderrDirectory "Could not create directory for stderr file '%s': %s (%d)"

-- update stored string objects
def storeStrings : Preparation :=
  { s with
    store := replaceString array program (·.absoluteStderrFileName)
      (fun scheduler => { scheduler with absoluteStderrFileName := s.absoluteStderrFileName })
      (replaceString array program (·.absoluteStdoutFileName)
        (fun scheduler => { scheduler with absoluteStdoutFileName := s.absoluteStdoutFileName })
        (replaceString array program (·.absoluteStdinFileName)
          (fun scheduler => { scheduler with absoluteStdinFileName := s.absoluteStdinFileName })
          (replaceString array program (·.absoluteWorkingDirectory)
            (fun scheduler =>
              { scheduler with absoluteWorkingDirectory := s.absoluteWorkingDirectory })
            s.store))) }

-- no breaks, all cases fall through intentionally
def cleanupStrings : List ObjectRef :=
  (if s.phase = 3 ∧ p.config.stdoutRedirection = .file then s.absoluteStdoutFileName.toList
    else []) ++
  (if (s.phase = 2 ∨ s.phase = 3) ∧ p.config.stdinRedirection = .file then
    s.absoluteStdinFileName.toList else []) ++
  (if s.phase = 1 ∨ s.phase = 2 ∨ s.phase = 3 then s.absoluteWorkingDirectory.toList else [])

def cleanup : Preparation := s.release array (s.cleanupStrings p)

-- A step, unless one before it went to the cleanup.
def andThen (step : Preparation → Except APIE Unit × Preparation) :
    Except APIE Unit × Preparation → Except APIE Unit × Preparation
  | (.error code, s) => (.error code, s)
  | (.ok (), s) => step s

def prepareAll : Except APIE Unit × Preparation :=
  andThen (prepareStderr array grow outcomes program p)
    (andThen (prepareStdout array grow outcomes program p)
      (andThen (prepareStdin array grow outcomes program p)
        (prepareWorkingDirectory array grow outcomes program p s)))

end Preparation

def Preparation.start (store : Store) : Preparation := ⟨store, 0, none, none, none, none, [], [], [], []⟩

-- The code is that of `phase == 4 ? API_E_SUCCESS : error_code`.
def programSchedulerPrepareFilesystem (store : Store) : APIE × Preparation :=
  match store.payload program with
  | some (.program p) =>
      match (Preparation.start store).prepareAll array grow outcomes program p with
      | (.error code, s) => (if s.phase = 4 then .success else code, s.cleanup array p)
      | (.ok (), s) => (.success, (s.storeStrings array program).cleanup array p)
  | _ => (.internalError, .start store.faulted)

end Steps

section Scheduler

variable {array : ArrayRemove} {grow : GrowAllocation} {program : ObjectRef} {p : Program}
  {store other : Store} {touched : ObjectRef → Prop}

-- What can be released as a string.
def Store.ReleasableString (store : Store) (string : ObjectRef) : Prop :=
  ∃ o s, store.objects.get string = some o ∧ o.payload = .string s ∧ o.internalReferenceCount ≠ 0

theorem Store.ReleasableString.touches {string : ObjectRef} (h : store.ReleasableString string)
    (htouches : store.Touches touched other) (hstring : ¬touched string) :
    other.ReleasableString string := by
  obtain ⟨o, s, ho, hpayload, hcount⟩ := h
  exact ⟨o, s, (htouches.get string hstring).trans ho, hpayload, hcount⟩

theorem Store.ReleasableString.ne_program {string : ObjectRef} (h : store.ReleasableString string)
    (hprogram : store.payload program = some (.program p)) : string ≠ program := by
  rintro rfl
  obtain ⟨o, s, ho, hpayload, -⟩ := h
  unfold Store.payload at hprogram
  rw [ho, Option.map_some, hpayload] at hprogram
  cases hprogram

theorem Store.scheduler_of_payload (hprogram : store.payload program = some (.program p)) :
    store.scheduler program = some p.scheduler := by
  unfold Store.scheduler
  rw [hprogram]

theorem modifyScheduler_touches (hprogram : store.payload program = some (.program p))
    (f : ProgramScheduler → ProgramScheduler) :
    store.Touches (· = program) (store.modifyScheduler program f) ∧
      (store.modifyScheduler program f).payload program =
        some (.program { p with scheduler := f p.scheduler }) := by
  obtain ⟨o, ho, hpayload⟩ := Option.map_eq_some_iff.mp hprogram
  refine ⟨.modifyObject (by simp [ho]) (fun _ => rfl) fun _ => rfl, ?_⟩
  unfold Store.payload Store.modifyScheduler
  rw [Store.modifyObject_objects, Heap.get_modify_self, ho]
  simp only [Option.map_some, hpayload]
  rfl

-- Messages are new objects, and the old one is given back.
theorem programSchedulerSetState_touches (hdirect : array.Direct) (hcounted : store.Counted)
    (hprogram : store.payload program = some (.program p))
    (hmessage : ∀ message, p.scheduler.message = some message → store.ReleasableString message)
    (message : Option ObjectRef) :
    store.Touches (fun q => q = program ∨ p.scheduler.message = some q)
        (programSchedulerSetState array program message store) ∧
      (programSchedulerSetState array program message store).payload program =
        some (.program { p with scheduler := { p.scheduler with message } }) := by
  unfold programSchedulerSetState
  simp only [Store.scheduler_of_payload hprogram]
  have hreleased : store.Touches (fun q => p.scheduler.message = some q)
      (if p.scheduler.message ≠ message then
        releaseAll array (p.scheduler.message.toList.map lockedHold) store else store) := by
    split
    · cases hold : p.scheduler.message with
      | none => exact .refl _ store
      | some string =>
          obtain ⟨o, s, ho, hpayload, hcount⟩ := hmessage string hold
          obtain ⟨htouches, -⟩ := @Hold.release_string_touches array store (lockedHold string) o s
            hdirect hcounted ho hpayload hcount
          exact htouches.mono fun q hq => hq ▸ rfl
    · exact .refl _ store
  generalize (if p.scheduler.message ≠ message then
    releaseAll array (p.scheduler.message.toList.map lockedHold) store else store) = released at *
  have hkept : released.payload program = some (.program p) := by
    rw [hreleased.payload, hprogram]
    exact fun hsame => (hmessage program hsame).ne_program hprogram rfl
  obtain ⟨hset, hpayload⟩ := modifyScheduler_touches hkept fun scheduler => { scheduler with message }
  exact ⟨(hreleased.mono fun q hq => Or.inr hq).trans (hset.mono fun q hq => Or.inl hq), hpayload⟩

-- A string that was made, or none, is the only thing that has changed.
theorem stringWrapObject_touches (outcome : StringOutcome) (text : CString) (store : Store) :
    store.Touches (fun q => store.objects.get q = none)
      (stringWrapObject grow outcome text none ownedFlags store).2 := by
  have herror : ∀ code, stringWrap grow ⟨outcome.memory, outcome.calloc, .success⟩ text =
      .error code → code ≠ .success := fun _ h => stringWrap_error rfl h
  rcases Store.createString_owned outcome herror store with
    ⟨code, -, -, htouches⟩ | ⟨string, s, -, -, hnew, htouches, -⟩
  · exact htouches.mono fun _ => False.elim
  · exact htouches.mono fun q hq => hq ▸ hnew

theorem Store.Touches.new_trans {last : Store}
    (h : store.Touches (fun q => store.objects.get q = none) other)
    (h' : other.Touches (fun q => other.objects.get q = none) last) :
    store.Touches (fun q => store.objects.get q = none) last := by
  refine h.trans (h'.mono fun q hq => ?_)
  by_contra hlive
  rw [h.get q hlive] at hq
  exact hlive hq

-- What the error handling may touch.
def HandlerTouches (store : Store) (program : ObjectRef) (p : Program) (q : ObjectRef) : Prop :=
  store.objects.get q = none ∨ q = program ∨ p.scheduler.message = some q

theorem programSchedulerStop_touches (hdirect : array.Direct) (hcounted : store.Counted)
    (hprogram : store.payload program = some (.program p))
    (hmessage : ∀ message, p.scheduler.message = some message → store.ReleasableString message)
    (hnew : store.Touches (fun q => store.objects.get q = none) other)
    (stopTimer : Option (CString × StringOutcome)) (message : Option ObjectRef) :
    store.Touches (HandlerTouches store program p)
        (programSchedulerStop array grow program stopTimer message other) ∧
      (programSchedulerStop array grow program stopTimer message other).payload program =
        some (.program { p with scheduler := { p.scheduler with message } }) := by
  unfold programSchedulerStop
  have hstopped : store.Touches (fun q => store.objects.get q = none)
      (stopTimerMessage grow stopTimer other) := by
    unfold stopTimerMessage
    cases stopTimer with
    | none => exact hnew
    | some stop => exact hnew.new_trans (stringWrapObject_touches stop.2 stop.1 other)
  have hlive : store.objects.get program ≠ none := by
    obtain ⟨o, ho, -⟩ := Option.map_eq_some_iff.mp hprogram
    simp [ho]
  obtain ⟨hset, hpayload⟩ := programSchedulerSetState_touches hdirect (hstopped.counted hcounted)
    ((hstopped.payload hlive).trans hprogram)
    (fun message hsome => (hmessage message hsome).touches hstopped (by
      obtain ⟨o, s, ho, -⟩ := hmessage message hsome
      simp [ho])) message
  exact ⟨(hstopped.mono fun q hq => Or.inl hq).trans (hset.mono fun q hq => Or.inr hq), hpayload⟩

-- The program gets another message, and nothing else of it changes.
theorem programSchedulerHandleError_touches (hdirect : array.Direct) (hcounted : store.Counted)
    (hprogram : store.payload program = some (.program p))
    (hmessage : ∀ message, p.scheduler.message = some message → store.ReleasableString message)
    (outcome : HandlerOutcome) (text : CString) :
    store.Touches (HandlerTouches store program p)
        (programSchedulerHandleError array grow program outcome text store) ∧
      ∃ message, (programSchedulerHandleError array grow program outcome text store).payload program =
        some (.program { p with scheduler := { p.scheduler with message } }) := by
  have hnew := @stringWrapObject_touches grow outcome.message text store
  unfold programSchedulerHandleError
  rcases hwrapped : stringWrapObject grow outcome.message text none ownedFlags store with
    ⟨code | message, wrapped⟩
  all_goals
    rw [hwrapped] at hnew
    obtain ⟨htouches, hpayload⟩ := @programSchedulerStop_touches array grow program p store wrapped
      hdirect hcounted hprogram hmessage hnew outcome.stopTimer _
    exact ⟨htouches, _, hpayload⟩

end Scheduler

section Specification

variable (grow : GrowAllocation) (outcomes : FilesystemOutcomes) (store : Store)
  (program : ObjectRef) (p : Program)

def ProgramScheduler.stored (scheduler : ProgramScheduler) : List ObjectRef :=
  scheduler.absoluteWorkingDirectory.toList ++ scheduler.absoluteStdinFileName.toList ++
    scheduler.absoluteStdoutFileName.toList ++ scheduler.absoluteStderrFileName.toList

def neededDirectories : List CString :=
  [store.binName p p.config.workingDirectory] ++
    (if p.config.stdoutRedirection = .file then
      (directoryPart (store.binName p p.config.stdoutFileName)).toList else []) ++
    (if p.config.stderrRedirection = .file then
      (directoryPart (store.binName p p.config.stderrFileName)).toList else [])

-- A string that was not there before, with one reference and one lock.
structure NewString (other : Store) (name : ObjectRef) (string : ObjectRef) : Prop where
  new : store.objects.get string = none
  object : ∃ o, other.objects.get string = some o ∧ o.internalReferenceCount = 1 ∧
    o.lockCount = 1 ∧ o.externalReferenceCount = 0
  text : other.text string = store.binName p name

-- NULL, unless the stream is redirected to a file.
structure NewFileName (other : Store) (redirection : ProgramStdioRedirection) (name : ObjectRef)
    (string : Option ObjectRef) : Prop where
  none_iff : string = none ↔ redirection ≠ .file
  new : ∀ object, string = some object → NewString store p other name object

-- An object after so many of its locked references were released.
def Object.released (o : Object) (count : Nat) (listed : Prop) [Decidable listed] : Option Object :=
  if count ≠ 0 ∧ o.internalReferenceCount = count ∧ o.externalReferenceCount = 0 ∧ listed then none
  else some { o with
    internalReferenceCount := o.internalReferenceCount - count
    lockCount := o.lockCount - count }

-- The stored strings are replaced, each of the old ones is released as often as it was stored.
structure FilesystemReady (s : Preparation) : Prop where
  codes : ∀ code ∈ s.codes, code = .success
  directories : s.directories = neededDirectories store p
  stored : ∃ workingDirectory stdin stdout stderr,
    s.store.payload program = some (.program { p with
      scheduler := { p.scheduler with
        absoluteWorkingDirectory := some workingDirectory
        absoluteStdinFileName := stdin
        absoluteStdoutFileName := stdout
        absoluteStderrFileName := stderr } }) ∧
    NewString store p s.store p.config.workingDirectory workingDirectory ∧
    NewFileName store p s.store p.config.stdinRedirection p.config.stdinFileName stdin ∧
    NewFileName store p s.store p.config.stdoutRedirection p.config.stdoutFileName stdout ∧
    NewFileName store p s.store p.config.stderrRedirection p.config.stderrFileName stderr
  released : ∀ q o, q ≠ program → store.objects.get q = some o →
    p.scheduler.stored.count q ≤ o.internalReferenceCount ∧
      p.scheduler.stored.count q ≤ o.lockCount ∧
      s.store.objects.get q =
        o.released (p.scheduler.stored.count q) (q ∈ store.objectArray o.type)
  fault : s.store.fault = store.fault

-- The last call has failed, and each string that was created is gone.
structure FilesystemUnprepared (code : APIE) (s : Preparation) : Prop where
  code : code ≠ .success ∧ ∃ earlier, s.codes = earlier ++ [code] ∧
    ∀ code ∈ earlier, code = .success
  unchanged : ∃ message, s.store.payload program = some (.program { p with
    scheduler := { p.scheduler with message } })
  released : ∀ string ∈ s.strings,
    s.released.count string = 1 ∧ s.store.objects.get string = none
  fault : s.store.fault = store.fault

def FilesystemAllOrNothing (result : APIE × Preparation) : Prop :=
  (result.1 = .success → FilesystemReady store program p result.2) ∧
    (result.1 ≠ .success → FilesystemUnprepared store program p result.1 result.2)

-- One call of string_asprintf.
structure NameCall where
  needed : Bool
  outcome : StringOutcome
  name : ObjectRef

def createName (call : NameCall) (store : Store) : Except APIE (Option ObjectRef) × Store :=
  if call.needed then
    match stringAsprintfObject grow call.outcome (store.binName p call.name) none ownedFlags
      store with
    | (.error code, store) => (.error code, store)
    | (.ok string, store) => (.ok (some string), store)
  else (.ok none, store)

-- One after the other, up to the first that fails.
def createNames : List NameCall → Store → Except APIE (List (Option ObjectRef)) × Store
  | [], store => (.ok [], store)
  | call :: calls, store =>
      match createName grow p call store with
      | (.error code, store) => (.error code, store)
      | (.ok name, store) =>
          match createNames calls store with
          | (.error code, store) => (.error code, store)
          | (.ok names, store) => (.ok (name :: names), store)

-- A stream has a file name if it is redirected to a file.
def fileNameCall (redirection : ProgramStdioRedirection) (outcome : StringOutcome)
    (name : ObjectRef) : NameCall :=
  ⟨redirection = .file, outcome, name⟩

def nameCalls : List NameCall :=
  [⟨true, outcomes.workingDirectory, p.config.workingDirectory⟩,
    fileNameCall p.config.stdinRedirection outcomes.stdin p.config.stdinFileName,
    fileNameCall p.config.stdoutRedirection outcomes.stdout p.config.stdoutFileName,
    fileNameCall p.config.stderrRedirection outcomes.stderr p.config.stderrFileName]

-- The working directory has its string but cannot be created.
def WorkingDirectoryFails : Prop :=
  outcomes.createWorkingDirectory ≠ none ∧ ∃ names other,
    createNames grow p ((nameCalls outcomes p).take 1) store = (.ok names, other)

-- Everything is there but the directory of the stderr file.
def StderrDirectoryFails : Prop :=
  p.config.stderrRedirection = .file ∧ outcomes.createStderrDirectory ≠ none ∧
    outcomes.createWorkingDirectory = none ∧
    (p.config.stdoutRedirection = .file → outcomes.createStdoutDirectory = none) ∧
    ∃ names other, createNames grow p (nameCalls outcomes p) store = (.ok names, other)

end Specification

section Created

variable {array : ArrayRemove} {grow : GrowAllocation} {program : ObjectRef} {p : Program}
  {store other last : Store} {created : List (ObjectRef × CString)} {touched : ObjectRef → Prop}
  {text : CString} {string : ObjectRef}

-- These strings with their texts were created, and nothing else has changed.
structure Store.Created (store : Store) (created : List (ObjectRef × CString)) (other : Store) :
    Prop where
  touches : store.Touches (· ∈ created.map Prod.fst) other
  new : ∀ string ∈ created.map Prod.fst, store.objects.get string = none
  owned : ∀ string ∈ created.map Prod.fst, other.OwnedString string
  text : ∀ entry ∈ created, other.text entry.1 = entry.2
  nodup : (created.map Prod.fst).Nodup

namespace Store.Created

theorem refl (store : Store) : store.Created [] store where
  touches := .refl _ store
  new _ hmem := absurd hmem List.not_mem_nil
  owned _ hmem := absurd hmem List.not_mem_nil
  text _ hmem := absurd hmem List.not_mem_nil
  nodup := List.nodup_nil

theorem touch (h : store.Created created other) (htouches : other.Touches (fun _ => False) last) :
    store.Created created last where
  touches := h.touches.trans (htouches.mono fun _ => False.elim)
  new := h.new
  owned string hmem := (h.owned string hmem).touches htouches not_false
  text entry hmem := (htouches.text not_false).trans (h.text entry hmem)
  nodup := h.nodup

theorem not_mem (h : store.Created created other) (hlive : store.objects.get string ≠ none) :
    string ∉ created.map Prod.fst :=
  fun hmem => hlive (h.new string hmem)

theorem snoc (h : store.Created created other) (hnew : other.objects.get string = none)
    (htouches : other.Touches (· = string) last) (howned : last.OwnedString string)
    (htext : last.text string = text) : store.Created (created ++ [(string, text)]) last := by
  have hlive : ∀ q ∈ created.map Prod.fst, q ≠ string := by
    rintro q hmem rfl
    obtain ⟨id, s, hget⟩ := (h.owned q hmem).object
    rw [hnew] at hget
    cases hget
  have hmem : ∀ q, q ∈ (created ++ [(string, text)]).map Prod.fst ↔
      q ∈ created.map Prod.fst ∨ q = string := by
    intro q
    rw [List.map_append, List.mem_append]
    exact or_congr Iff.rfl List.mem_singleton
  refine ⟨?_, fun q hq => ?_, fun q hq => ?_, fun entry hentry => ?_, ?_⟩
  · exact (h.touches.mono fun q hq => (hmem q).mpr (Or.inl hq)).trans
      (htouches.mono fun q hq => (hmem q).mpr (Or.inr hq))
  · rcases (hmem q).mp hq with hq | rfl
    · exact h.new q hq
    · by_contra hsome
      rw [h.touches.get q (h.not_mem hsome)] at hnew
      exact hsome hnew
  · rcases (hmem q).mp hq with hq | rfl
    · exact (h.owned q hq).touches htouches (hlive q hq)
    · exact howned
  · rcases List.mem_append.mp hentry with hentry | hentry
    · rw [htouches.text (hlive _ (List.mem_map_of_mem hentry))]
      exact h.text entry hentry
    · rw [List.mem_singleton.mp hentry]
      exact htext
  · rw [List.map_append]
    refine h.nodup.append (List.nodup_singleton string) ?_
    intro q hq hsame
    exact hlive q hq (List.mem_singleton.mp hsame)

end Store.Created

theorem Store.binName_noNull (store : Store) (p : Program) (name : ObjectRef) :
    cString (store.binName p name) = store.binName p name := by
  have htext : ∀ string, 0 ∉ store.text string := by
    intro string
    unfold Store.text
    split
    · intro hzero
      have hnonzero := List.mem_takeWhile_imp hzero
      simp at hnonzero
    · exact List.not_mem_nil
  refine cString_of_noNull fun hzero => ?_
  unfold Store.binName at hzero
  simp only [List.mem_append] at hzero
  rcases hzero with (hzero | hzero) | hzero
  · exact htext _ hzero
  · revert hzero
    decide
  · exact htext _ hzero

-- What a call of string_asprintf does to the strings that were created before.
theorem Store.Created.asprintf (h : store.Created created other) (outcome : StringOutcome)
    (name : ObjectRef) :
    (∃ code last, code ≠ .success ∧ stringAsprintfObject grow outcome (other.binName p name) none
        ownedFlags other = (.error code, last) ∧ store.Created created last) ∨
      ∃ string last, stringAsprintfObject grow outcome (other.binName p name) none ownedFlags other =
        (.ok string, last) ∧
          store.Created (created ++ [(string, other.binName p name)]) last := by
  have herror : ∀ code, stringAsprintf grow ⟨outcome.memory, outcome.calloc, .success⟩
      (outcome.memory.map fun _ => other.binName p name) = .error code → code ≠ .success :=
    fun _ h => stringAsprintf_error rfl h
  unfold stringAsprintfObject
  rcases Store.createString_owned outcome herror other with
    ⟨code, hcode, hresult, htouches⟩ |
      ⟨string, s, hformatted, hresult, hnew, htouches, howned, htext⟩
  · exact Or.inl ⟨code, _, hcode, Prod.ext hresult rfl, h.touch htouches⟩
  · obtain ⟨bytes, hbytes, hcontents⟩ := stringAsprintf_text hformatted
    obtain ⟨_, -, rfl⟩ := Option.map_eq_some_iff.mp hbytes
    refine Or.inr ⟨string, _, Prod.ext hresult rfl, h.snoc hnew htouches howned ?_⟩
    rw [htext, hcontents, other.binName_noNull]

end Created

section Exits

variable {array : ArrayRemove} {grow : GrowAllocation} {outcomes : FilesystemOutcomes}
  {program : ObjectRef} {p : Program} {store : Store} {created : List (ObjectRef × CString)}
  {s : Preparation}

-- The program and its stored strings in front of the preparation.
structure Preparable (array : ArrayRemove) (program : ObjectRef) (p : Program) (store : Store) :
    Prop where
  direct : array.Direct
  counted : store.Counted
  program_eq : store.payload program = some (.program p)
  message : ∀ message, p.scheduler.message = some message → store.ReleasableString message
  texts : ∀ hold ∈ p.holds, store.objects.get hold.object ≠ none

theorem Preparable.live (h : Preparable array program p store) : store.objects.get program ≠ none := by
  obtain ⟨o, ho, -⟩ := Option.map_eq_some_iff.mp h.program_eq
  simp [ho]

theorem Preparable.message_live (h : Preparable array program p store) {message : ObjectRef}
    (hmessage : p.scheduler.message = some message) : store.objects.get message ≠ none := by
  obtain ⟨o, s, ho, -⟩ := h.message message hmessage
  simp [ho]

-- The error handling does not touch the strings that were created.
theorem Preparable.handleError (h : Preparable array program p store)
    (hcreated : store.Created created s.store) (format : String) (code : APIE) :
    let handled := s.handleError array grow outcomes program format code
    s.store.Touches (fun q => q ∉ created.map Prod.fst) handled.store ∧
      (∃ message, handled.store.payload program = some (.program { p with
        scheduler := { p.scheduler with message } })) ∧
      ∀ string ∈ created.map Prod.fst, handled.store.OwnedString string := by
  obtain ⟨htouches, hpayload⟩ := @programSchedulerHandleError_touches array grow program p s.store
    h.direct (hcreated.touches.counted h.counted)
    ((hcreated.touches.payload (hcreated.not_mem h.live)).trans h.program_eq)
    (fun message hmessage => (h.message message hmessage).touches hcreated.touches
      (hcreated.not_mem (h.message_live hmessage))) outcomes.handler (outcomes.text format code)
  have hspared : s.store.Touches (fun q => q ∉ created.map Prod.fst)
      (programSchedulerHandleError array grow program outcomes.handler
        (outcomes.text format code) s.store) := by
    refine htouches.mono fun q hq hmem => ?_
    obtain ⟨id, string, hget⟩ := (hcreated.owned q hmem).object
    rcases hq with hnone | rfl | hmessage
    · rw [hget] at hnone
      cases hnone
    · exact hcreated.not_mem h.live hmem
    · exact hcreated.not_mem (h.message_live hmessage) hmem
  exact ⟨hspared, hpayload, fun string hmem => (hcreated.owned string hmem).touches hspared
    (not_not.mpr hmem)⟩

-- A failure after which the cleanup releases what was created.
theorem Preparable.unprepared (h : Preparable array program p store)
    (hcreated : store.Created created s.store) (hstrings : s.strings = created.map Prod.fst)
    (hreleased : s.released = []) (hcleanup : (s.cleanupStrings p).Perm (created.map Prod.fst)) {code : APIE}
    (hcode : code ≠ .success) {earlier : List APIE} (hcodes : s.codes = earlier ++ [code])
    (hearlier : ∀ code ∈ earlier, code = .success) (format : String) :
    FilesystemUnprepared store program p code
      ((s.handleError array grow outcomes program format code).cleanup array p) := by
  obtain ⟨hhandled, ⟨message, hpayload⟩, howned⟩ :=
    @Preparable.handleError array grow outcomes program p store created s h hcreated format code
  have hcounted := hhandled.counted (hcreated.touches.counted h.counted)
  have hmem : ∀ q, q ∈ s.cleanupStrings p ↔ q ∈ created.map Prod.fst := fun q => hcleanup.mem_iff
  obtain ⟨htouches, hgone⟩ := Store.OwnedString.releaseAll h.direct hcounted
    (hcleanup.nodup_iff.mpr hcreated.nodup) fun string hstring =>
      howned string ((hmem string).mp hstring)
  refine ⟨⟨hcode, earlier, hcodes, hearlier⟩, ⟨message, ?_⟩, fun string hstring => ?_, ?_⟩
  · refine (htouches.payload fun hprogram => ?_).trans hpayload
    exact hcreated.not_mem h.live ((hmem program).mp hprogram)
  · have hcleaned : string ∈ s.cleanupStrings p := (hmem string).mpr (hstrings ▸ hstring)
    refine ⟨?_, hgone string hcleaned⟩
    change (s.released ++ s.cleanupStrings p).count string = 1
    rw [hreleased, List.nil_append]
    exact List.count_eq_one_of_mem (hcleanup.nodup_iff.mpr hcreated.nodup) hcleaned
  · exact (htouches.fault.trans hhandled.fault).trans hcreated.touches.fault

theorem Preparable.binName_eq (h : Preparable array program p store)
    (hcreated : store.Created created s.store) {name : ObjectRef} (hname : lockedHold name ∈ p.holds) :
    s.store.binName p name = store.binName p name := by
  have hroot : lockedHold p.rootDirectory ∈ p.holds := by simp [Program.holds]
  have hrootLive : store.objects.get p.rootDirectory ≠ none := h.texts _ hroot
  have hnameLive : store.objects.get name ≠ none := h.texts _ hname
  unfold Store.binName
  rw [hcreated.touches.text (hcreated.not_mem hrootLive),
    hcreated.touches.text (hcreated.not_mem hnameLive)]

end Exits

section Replacing

variable {array : ArrayRemove} {program : ObjectRef} {p p' : Program} {store other : Store}
  {released stored : List ObjectRef} {string : ObjectRef}

theorem Object.released_zero (o : Object) (listed : Prop) [Decidable listed] :
    o.released 0 listed = some o := by
  unfold Object.released
  rw [if_neg fun h => h.1 rfl]
  rfl

-- One more release of an object that has references left.
theorem Object.released_succ {o : Object} {count : Nat} (listed : Prop) [Decidable listed]
    (hcount : count + 1 ≤ o.internalReferenceCount) :
    o.released count listed = some { o with
        internalReferenceCount := o.internalReferenceCount - count
        lockCount := o.lockCount - count } ∧
      o.released (count + 1) listed =
        if (o.internalReferenceCount - count - 1 = 0 ∧ o.externalReferenceCount = 0) ∧ listed then
          none
        else some { o with
          internalReferenceCount := o.internalReferenceCount - count - 1
          lockCount := o.lockCount - count - 1 } := by
  unfold Object.released
  constructor
  · rw [if_neg]
    rintro ⟨-, hsame, -⟩
    omega
  · have hlast : (count + 1 ≠ 0 ∧ o.internalReferenceCount = count + 1 ∧
        o.externalReferenceCount = 0 ∧ listed) ↔
        (o.internalReferenceCount - count - 1 = 0 ∧ o.externalReferenceCount = 0) ∧ listed := by
      constructor
      · rintro ⟨-, hinternal, hexternal, hlisted⟩
        exact ⟨⟨by omega, hexternal⟩, hlisted⟩
      · rintro ⟨⟨hinternal, hexternal⟩, hlisted⟩
        exact ⟨Nat.succ_ne_zero _, by omega, hexternal, hlisted⟩
    simp only [hlast, Nat.sub_sub]

-- The objects of `released` were released from `store` on, and the program is `p` by now.
structure Replacing (program : ObjectRef) (released : List ObjectRef) (p : Program)
    (store other : Store) : Prop where
  program_eq : other.payload program = some (.program p)
  get : ∀ q, q ≠ program → other.objects.get q = (store.objects.get q).bind fun o =>
    o.released (released.count q) (q ∈ store.objectArray o.type)
  listed : ∀ type q, other.objects.get q ≠ none →
    (q ∈ other.objectArray type ↔ q ∈ store.objectArray type)
  fault : other.fault = store.fault
  counted : other.Counted

-- The strings that are stored can be released so often.
def Store.Stores (store : Store) (stored : List ObjectRef) : Prop :=
  ∀ string ∈ stored, ∃ o s, store.objects.get string = some o ∧ o.payload = .string s ∧
    stored.count string ≤ o.internalReferenceCount

namespace Replacing

theorem refl (hprogram : store.payload program = some (.program p)) (hcounted : store.Counted) :
    Replacing program [] p store store where
  program_eq := hprogram
  get q _ := by
    cases hget : store.objects.get q with
    | none => rfl
    | some o => exact (o.released_zero _).symm
  listed _ _ _ := Iff.rfl
  fault := rfl
  counted := hcounted

theorem release (h : Replacing program released p store other) (hdirect : array.Direct)
    (hprogram : store.payload program = some (.program p')) (hstores : store.Stores stored)
    (hsub : (released ++ [string]).Sublist stored) :
    Replacing program (released ++ [string]) p store ((lockedHold string).release array other) := by
  have hmem : string ∈ stored := hsub.subset (List.mem_append_right _ (List.mem_singleton_self _))
  obtain ⟨o, s, ho, hpayload, hcount⟩ := hstores string hmem
  have hle : released.count string + 1 ≤ o.internalReferenceCount := by
    have hsublist := hsub.count_le string
    rw [List.count_append, List.count_singleton_self] at hsublist
    omega
  have hne : string ≠ program := by
    have hreleasable : store.ReleasableString string := ⟨o, s, ho, hpayload, by omega⟩
    exact hreleasable.ne_program hprogram
  obtain ⟨hbefore, hafter⟩ := o.released_succ (string ∈ store.objectArray o.type) hle
  have ho' := h.get string hne
  rw [ho, Option.bind_some, hbefore] at ho'
  obtain ⟨htouches, hresult⟩ := @Hold.release_string_touches array other (lockedHold string) _ s
    hdirect h.counted ho' hpayload (by simp only; omega)
  have hlisted : string ∈ other.objectArray o.type ↔ string ∈ store.objectArray o.type :=
    h.listed o.type string (by simp [ho'])
  refine ⟨?_, fun q hq => ?_, fun type q hlive => ?_, htouches.fault.trans h.fault,
    htouches.counted h.counted⟩
  · rw [htouches.payload (Ne.symm hne), h.program_eq]
  · by_cases hsame : q = string
    · subst hsame
      rw [List.count_append, List.count_singleton_self, ho, Option.bind_some, hafter]
      rcases hresult with ⟨hlast, hin, hgone⟩ | ⟨hlast, hleft, -⟩
      · rw [if_pos ⟨hlast, hlisted.mp hin⟩]
        exact hgone
      · rw [if_neg fun hin => hlast ⟨hin.1, hlisted.mpr hin.2⟩]
        exact hleft
    · rw [List.count_append, List.count_singleton, if_neg (by simpa using Ne.symm hsame),
        Nat.add_zero, htouches.get q hsame, h.get q hq]
  · by_cases hsame : q = string
    · subst hsame
      rcases hresult with ⟨-, -, hgone⟩ | ⟨-, hleft, harray⟩
      · exact absurd hgone hlive
      · rw [harray]
        exact h.listed type q (by simp [ho'])
    · rw [htouches.listed type q hsame]
      refine h.listed type q ?_
      rwa [htouches.get q hsame] at hlive

theorem modifyScheduler (h : Replacing program released p store other)
    (f : ProgramScheduler → ProgramScheduler) :
    Replacing program released { p with scheduler := f p.scheduler } store
      (other.modifyScheduler program f) := by
  obtain ⟨htouches, hpayload⟩ := modifyScheduler_touches h.program_eq f
  refine ⟨hpayload, fun q hq => ?_, fun type q hlive => ?_, htouches.fault.trans h.fault,
    htouches.counted h.counted⟩
  · rw [htouches.get q hq, h.get q hq]
  · unfold Store.modifyScheduler at hlive ⊢
    rw [Store.modifyObject_get_ne_none] at hlive
    rw [Store.modifyObject_objectArray]
    exact h.listed type q hlive

theorem replaceString (h : Replacing program released p store other) (hdirect : array.Direct)
    (hprogram : store.payload program = some (.program p')) (hstores : store.Stores stored)
    (get : ProgramScheduler → Option ObjectRef) (set : ProgramScheduler → ProgramScheduler)
    (hsub : (released ++ (get p.scheduler).toList).Sublist stored) :
    Replacing program (released ++ (get p.scheduler).toList)
      { p with scheduler := set p.scheduler } store
      (RedApid.replaceString array program get set other) := by
  unfold RedApid.replaceString
  simp only [Store.scheduler_of_payload h.program_eq]
  refine Replacing.modifyScheduler ?_ set
  cases hold : get p.scheduler with
  | none =>
      rw [Option.toList_none, List.append_nil]
      exact h
  | some string =>
      rw [hold] at hsub
      exact h.release hdirect hprogram hstores hsub

end Replacing

-- The four stored strings in the order of the source.
theorem storeStrings_replacing {s : Preparation} (hdirect : array.Direct)
    (hprogram : s.store.payload program = some (.program p)) (hcounted : s.store.Counted)
    (hstores : s.store.Stores p.scheduler.stored) :
    Replacing program p.scheduler.stored { p with
      scheduler := { p.scheduler with
        absoluteWorkingDirectory := s.absoluteWorkingDirectory
        absoluteStdinFileName := s.absoluteStdinFileName
        absoluteStdoutFileName := s.absoluteStdoutFileName
        absoluteStderrFileName := s.absoluteStderrFileName } } s.store
      (s.storeStrings array program).store := by
  have hthird := List.sublist_append_left (p.scheduler.absoluteWorkingDirectory.toList ++
    p.scheduler.absoluteStdinFileName.toList ++ p.scheduler.absoluteStdoutFileName.toList)
    p.scheduler.absoluteStderrFileName.toList
  have hsecond := (List.sublist_append_left (p.scheduler.absoluteWorkingDirectory.toList ++
    p.scheduler.absoluteStdinFileName.toList) p.scheduler.absoluteStdoutFileName.toList).trans hthird
  have hfirst := (List.sublist_append_left p.scheduler.absoluteWorkingDirectory.toList
    p.scheduler.absoluteStdinFileName.toList).trans hsecond
  have h := Replacing.refl hprogram hcounted
  have h := h.replaceString hdirect hprogram hstores (·.absoluteWorkingDirectory)
    (fun scheduler => { scheduler with absoluteWorkingDirectory := s.absoluteWorkingDirectory })
    hfirst
  have h := h.replaceString hdirect hprogram hstores (·.absoluteStdinFileName)
    (fun scheduler => { scheduler with absoluteStdinFileName := s.absoluteStdinFileName }) hsecond
  have h := h.replaceString hdirect hprogram hstores (·.absoluteStdoutFileName)
    (fun scheduler => { scheduler with absoluteStdoutFileName := s.absoluteStdoutFileName }) hthird
  exact h.replaceString hdirect hprogram hstores (·.absoluteStderrFileName)
    (fun scheduler => { scheduler with absoluteStderrFileName := s.absoluteStderrFileName })
    (.refl p.scheduler.stored)

end Replacing

end RedApid

import RedApid.Scheduler.Program

namespace RedApid.Scheduling

open Memory

structure World where
  programs : Heap Program
  daemon : Daemon
  log : List Effect

namespace World

variable (w : World)

-- Before inventory_load_programs.
def init (x11Enabled : Bool) : World where
  programs := Heap.empty
  daemon :=
    { processes := Heap.empty, entries := [], observation := none, brickdConnected := false
      x11Enabled, crashed := false }
  log := []

def crash : World := { w with daemon := { w.daemon with crashed := true } }

def modifyProgram (p : ProgramRef) (f : Program → Program) : World :=
  { w with programs := w.programs.modify p f }

-- Call a function for a program, with the outcomes that are left afterwards.
def run (p : ProgramRef) (f : Context → Context) (outcomes : Outcomes) : World × Outcomes :=
  match w.programs.get p with
  | none => (w.crash, outcomes)
  | some program =>
      let c := f ⟨program, w.daemon, w.log, outcomes⟩
      ({ programs := w.programs.modify p fun _ => c.program, daemon := c.daemon, log := c.log },
        c.outcomes)

-- The same for one program after the other, up to a crash.
def runAll (f : ProgramRef → Context → Context) : List ProgramRef → Outcomes → World → World
  | [], _, w => w
  | p :: ps, outcomes, w =>
      if w.daemon.crashed then w
      else
        let (w, outcomes) := w.run p (f p) outcomes
        runAll f ps outcomes w

def programRefs : List ProgramRef :=
  (List.range w.programs.next).filter fun p => (w.programs.get p).isSome

section References

-- object_destroy of a program whose last reference was removed
def destroyUnreferenced (p : ProgramRef) (outcomes : Outcomes) : World :=
  match w.programs.get p with
  | none => w
  | some program =>
      if program.internalReferenceCount = 0 ∧ program.externalReferenceCount = 0 then
        let w := (w.run p (programSchedulerDestroy p) outcomes).1
        { w with programs := w.programs.free p }
      else w

def removeProgramInternalReference (p : ProgramRef) (outcomes : Outcomes) : World :=
  if (w.programs.get p).any (·.internalReferenceCount = 0) then w
  else
    (w.modifyProgram p fun program =>
      { program with internalReferenceCount := program.internalReferenceCount - 1 })
      |>.destroyUnreferenced p outcomes

def removeProgramExternalReference (p : ProgramRef) (outcomes : Outcomes) : World :=
  (w.modifyProgram p fun program =>
    { program with externalReferenceCount := program.externalReferenceCount - 1 })
    |>.destroyUnreferenced p outcomes

def removeProcessInternalReference (process : ProcessRef) : World :=
  let (daemon, log) := removeInternalReference process w.daemon w.log
  { w with daemon, log }

def removeProcessExternalReference (process : ProcessRef) : World :=
  match w.daemon.processes.get process with
  | none => w
  | some found =>
      if found.externalReferenceCount = 1 ∧ found.internalReferenceCount = 0 then
        { w with
          daemon := w.daemon.destroyProcess process
          log := found.files.map .releaseFile ++ w.log }
      else
        { w with
          daemon := w.daemon.modifyProcess process fun process =>
            { process with externalReferenceCount := process.externalReferenceCount - 1 } }

end References

section Creation

-- An ID that inventory_get_next_object_id can come up with.
def IsFreeId (id : ObjectID) : Prop :=
  id ≠ 0 ∧ ∀ p ∈ w.programRefs, ∀ program, w.programs.get p = some program → program.id ≠ id

instance (id : ObjectID) : Decidable (w.IsFreeId id) :=
  decidable_of_iff (id ≠ 0 ∧ ∀ p ∈ w.programRefs, (w.programs.get p).all (·.id ≠ id)) <| by
    unfold IsFreeId
    refine and_congr_right fun _ => forall_congr' fun p => forall_congr' fun _ => ?_
    cases w.programs.get p <;> simp

-- What program_load and program_define have in common once object_create has succeeded.
def createProgram (id : ObjectID) (identifier rootDirectory : CString)
    (config : ProgramSettings) (externalReferenceCount : Nat) (outcomes : Outcomes) : World :=
  let program : Program :=
    { id, purged := false, identifier, rootDirectory, config
      scheduler := programSchedulerCreate config w.daemon
      internalReferenceCount := 1, externalReferenceCount, listed := 0 }
  let p := w.programs.next
  ({ w with programs := w.programs.alloc program }.run p (programSchedulerUpdate p true)
    outcomes).1

end Creation

section Events

-- What reaches the daemon through the Brick Daemon. The error of a call that fails before it
-- has changed anything is passed as a parameter.
inductive Request where
  | programDefine (programsDirectory identifier : CString) (id : ObjectID)
      (creation : Option APIError)
  | programPurge (p : ProgramRef) (cookie : UInt32) (renames : List RenameResult)
  | programSetCommand (p : ProgramRef) (command : Command)
  | programSetStdioRedirection (p : ProgramRef) (redirections : Redirections)
  | programSetSchedule (p : ProgramRef) (schedule : Schedule)
  | programSetCustomOptions (p : ProgramRef) (customOptions : List (CString × CString))
  | programContinueSchedule (p : ProgramRef)
  | programStart (p : ProgramRef)
  | programGetLastSpawnedProcess (p : ProgramRef)
  | addProgramReference (p : ProgramRef)
  | listProgram (p : ProgramRef)
  | addProcessReference (process : ProcessRef)
  | listProcess (process : ProcessRef)
  | processSpawn

-- `programLoad` takes place at the start. References are released by requests, when sessions
-- expire and when lists are destroyed.
inductive Event where
  | programLoad (identifier rootDirectory : CString) (file : ConfFile) (id : ObjectID)
      (creation : Option APIError)
  | request (request : Request)
  | releaseProgram (p : ProgramRef)
  | unlistProgram (p : ProgramRef)
  | releaseProcess (process : ProcessRef)
  | unlistProcess (process : ProcessRef)
  | processStateChange (process : ProcessRef) (state : ProcessState) (exitCode : UInt8)
  | timer (p : ProgramRef)
  | cronNotification (cookieMatches : Bool) (programId : ObjectID)
  | observationTimer
  | brickdAccept
  | brickdDisconnect

variable (outcomes : Outcomes)

def programLoad (identifier rootDirectory : CString) (file : ConfFile) (id : ObjectID)
    (creation : Option APIError) : World :=
  if programIsValidIdentifier identifier ∧ creation = none then
    w.createProgram id identifier rootDirectory (programConfigLoad file) 0 outcomes
  else w

def programDefine (programsDirectory identifier : CString) (id : ObjectID)
    (creation : Option APIError) : World :=
  if programIsValidIdentifier identifier ∧ creation = none then
    w.createProgram id identifier (programsDirectory ++ ascii "/" ++ identifier)
      programConfigCreate 1 outcomes
  else w

def programPurge (p : ProgramRef) (cookie : UInt32) (renames : List RenameResult) : World :=
  match w.programs.get p with
  | none => w
  | some program =>
      let (code, c) := Scheduling.programPurge p cookie renames ⟨program, w.daemon, w.log, outcomes⟩
      let w : World :=
        { programs := w.programs.modify p fun _ => c.program, daemon := c.daemon, log := c.log }
      if code = .success then w.removeProgramInternalReference p c.outcomes else w

-- A process of a client. Its state changes call no function, and its files are not the
-- concern of any program.
def clientProcess : Process where
  state := .running
  exitCode := 0
  stateChanged := none
  files := []
  releaseOnDeath := true
  internalReferenceCount := 1
  externalReferenceCount := 1
  listed := 0

def modifyProcess (process : ProcessRef) (f : Process → Process) : World :=
  { w with daemon := w.daemon.modifyProcess process f }

def addProcessExternalReference (process : ProcessRef) : World :=
  w.modifyProcess process fun process =>
    { process with externalReferenceCount := process.externalReferenceCount + 1 }

-- A request is about objects that are found by their IDs.
def handleRequest : Request → Option World
  | .programDefine programsDirectory identifier id creation =>
      if w.IsFreeId id then
        some (w.programDefine outcomes programsDirectory identifier id creation) else none
  | .programPurge p cookie renames =>
      if (w.programs.get p).isSome then some (w.programPurge outcomes p cookie renames) else none
  | .programSetCommand p command =>
      if (w.programs.get p).isSome then
        some (w.run p (fun c => (programSetCommand p command c).2) outcomes).1 else none
  | .programSetStdioRedirection p redirections =>
      if (w.programs.get p).isSome then
        some (w.run p (fun c => (programSetStdioRedirection p redirections c).2) outcomes).1
      else none
  | .programSetSchedule p schedule =>
      if (w.programs.get p).isSome then
        some (w.run p (fun c => (programSetSchedule p schedule c).2) outcomes).1 else none
  | .programSetCustomOptions p customOptions =>
      some (w.modifyProgram p fun program =>
        { program with config := { program.config with customOptions } })
  | .programContinueSchedule p =>
      if (w.programs.get p).isSome then
        some (w.run p (programSchedulerContinue p) outcomes).1 else none
  | .programStart p =>
      if (w.programs.get p).isSome then
        some (w.run p (programSchedulerSpawnProcess p) outcomes).1 else none
  | .programGetLastSpawnedProcess p =>
      match w.programs.get p with
      | none => none
      | some program =>
          if program.purged ∨ outcomes.calls.headD none ≠ none then some w
          else
            match program.scheduler.lastSpawnedProcess with
            | none => some w
            | some process => some (w.addProcessExternalReference process)
  | .addProgramReference p =>
      some (w.modifyProgram p fun program =>
        { program with externalReferenceCount := program.externalReferenceCount + 1 })
  | .listProgram p =>
      some (w.modifyProgram p fun program =>
        { program with
          internalReferenceCount := program.internalReferenceCount + 1
          listed := program.listed + 1 })
  | .addProcessReference process => some (w.addProcessExternalReference process)
  | .listProcess process =>
      some (w.modifyProcess process fun process =>
        { process with
          internalReferenceCount := process.internalReferenceCount + 1
          listed := process.listed + 1 })
  | .processSpawn =>
      some { w with
        daemon := { w.daemon with processes := w.daemon.processes.alloc clientProcess } }

-- process_handle_state_change. A state change of a process of a destroyed program is an access
-- to freed memory.
def processHandleStateChange (process : ProcessRef) (found : Process) (state : ProcessState)
    (exitCode : UInt8) : World :=
  let w := w.modifyProcess process fun process => { process with state, exitCode }
  let w := match found.stateChanged with
    | none => w
    | some p => (w.run p (programSchedulerHandleProcessStateChange p) outcomes).1
  if found.releaseOnDeath ∧ ¬state.isAlive then
    -- only release-on-death once
    (w.modifyProcess process fun process => { process with releaseOnDeath := false })
      |>.removeProcessInternalReference process
  else w

def cronHandleNotification (programId : ObjectID) : World :=
  match w.daemon.entries.find? fun entry => entry.programId = programId with
  | none => w
  | some entry => (w.run entry.notify (programSchedulerHandleCron entry.notify) outcomes).1

-- An expiry. A timer that is not periodic is not armed any more.
def handleTimer (p : ProgramRef) (program : Program) (arming : Arming) : World :=
  let timer := if arming.periodic then some arming else none
  let w := w.modifyProgram p fun _ =>
    { program with scheduler := { program.scheduler with timer } }
  (w.run p (programSchedulerHandleTimer p) outcomes).1

def SEARCH_INTERVAL : Nat := 2 -- seconds

-- process_monitor_update_observation of an observation that is waiting. The observers are
-- informed from the last one to the first one, each of them can only remove itself.
def processMonitorUpdateObservation (observation : ProcessObservation) : World :=
  let found := outcomes.searches.headD .notFound = .found
  let remainingTimeout := if found then 0 else observation.remainingTimeout - SEARCH_INTERVAL
  let outcomes := { outcomes with searches := outcomes.searches.tail }
  if remainingTimeout = 0 then
    let observation := { observation with remainingTimeout := 0, waiting := false }
    { w with daemon := { w.daemon with observation } }.runAll informObserver
      observation.observers.reverse outcomes
  else
    { w with daemon := { w.daemon with observation := some { observation with remainingTimeout } } }

-- program_handle_brickd_connection
def handleBrickdConnection (p : ProgramRef) (c : Context) : Context :=
  if c.program.scheduler.waitingForBrickd then programSchedulerUpdate p true c else c

-- What one round of the event loop does for an event that can come up.
def step : Event → Option World
  | .programLoad identifier rootDirectory file id creation =>
      if w.IsFreeId id then
        some (w.programLoad outcomes identifier rootDirectory file id creation) else none
  | .request request =>
      if w.daemon.brickdConnected then w.handleRequest outcomes request else none
  | .releaseProgram p =>
      if (w.programs.get p).any (0 < ·.externalReferenceCount) then
        some (w.removeProgramExternalReference p outcomes) else none
  | .unlistProgram p =>
      if (w.programs.get p).any (0 < ·.listed) then
        some ((w.modifyProgram p fun program => { program with listed := program.listed - 1 })
          |>.removeProgramInternalReference p outcomes)
      else none
  | .releaseProcess process =>
      if (w.daemon.processes.get process).any (0 < ·.externalReferenceCount) then
        some (w.removeProcessExternalReference process) else none
  | .unlistProcess process =>
      if (w.daemon.processes.get process).any (0 < ·.listed) then
        some ((w.modifyProcess process fun process => { process with listed := process.listed - 1 })
          |>.removeProcessInternalReference process)
      else none
  | .processStateChange process state exitCode =>
      match w.daemon.processes.get process with
      | none => none
      | some found =>
          -- process_wait ends with the death
          if found.state.isAlive then
            some (w.processHandleStateChange outcomes process found state exitCode) else none
  | .timer p =>
      match w.programs.get p with
      | none => none
      | some program => program.scheduler.timer.map (w.handleTimer outcomes p program)
  | .cronNotification cookieMatches programId =>
      if cookieMatches then some (w.cronHandleNotification outcomes programId) else some w
  | .observationTimer =>
      match w.daemon.observation with
      | none => none
      | some observation =>
          if observation.waiting then
            some (w.processMonitorUpdateObservation outcomes observation) else none
  | .brickdAccept =>
      if w.daemon.brickdConnected then none
      else
        some ({ w with daemon := { w.daemon with brickdConnected := true } }.runAll
          handleBrickdConnection w.programRefs outcomes)
  | .brickdDisconnect => some { w with daemon := { w.daemon with brickdConnected := false } }

-- Nothing happens after a crash.
def next (event : Event × Outcomes) : Option World :=
  if w.daemon.crashed then none else w.step event.2 event.1

end Events

end World

end RedApid.Scheduling

import RedApid.Scheduler.Basic

namespace RedApid.Scheduling

open Memory

section Stop

variable (p : ProgramRef)

def processMonitorRemoveObserver (daemon : Daemon) : Daemon :=
  { daemon with
    observation := daemon.observation.map fun observation =>
      { observation with observers := observation.observers.erase p } }

def cronRemoveEntry (programId : ObjectID) (daemon : Daemon) : Daemon :=
  { daemon with entries := daemon.entries.eraseP fun entry => entry.programId = programId }

def releaseOldMessage (message : Option MessageRef) (c : Context) : Context :=
  match c.program.scheduler.message with
  | none => c
  | some old => if some old ≠ message then c.record (.releaseMessage old) else c

def programSchedulerSetState (state : ProgramSchedulerState) (message : Option MessageRef)
    (c : Context) : Context :=
  if c.program.scheduler.state = state ∧ c.program.scheduler.message = message then c
  else
    ((releaseOldMessage message c).setScheduler { c.program.scheduler with state, message }).record
      (.stateChanged p state)

-- The message of program_scheduler_handle_error, NULL if string_wrap fails. Only the error code
-- among the arguments of its format is kept.
def wrapMessage (format : String) (code : Option APIError) (c : Context) :
    Option MessageRef × Context :=
  match c.call with
  | (some _, c) => (none, c)
  | (none, c) => (some c.log.length, c.record (.wrapMessage format code))

def programSchedulerAbortObserver (c : Context) : Context :=
  let daemon := if c.program.scheduler.observerState = .waiting then
    processMonitorRemoveObserver p c.daemon else c.daemon
  { c.setScheduler { c.program.scheduler with observerState := .finished } with daemon }

-- timer_configure(.., 0, 0) if the timer is active. A failure is handled with `recursive` set,
-- the message of it is not used.
def stopTimer (c : Context) : Context :=
  if c.program.scheduler.timerActive then
    match c.timerStop with
    | (some code, c) =>
        (wrapMessage "Could not stop timer: %s (%d)" code (c.record (.timerStopFailed p))).2
    | (none, c) => c.setScheduler { c.program.scheduler with timer := none, timerActive := false }
  else c

def stopCron (c : Context) : Context :=
  if c.program.scheduler.cronActive then
    { c.setScheduler { c.program.scheduler with cronActive := false } with
      daemon := cronRemoveEntry c.program.id c.daemon }
  else c

def programSchedulerStop (message : Option MessageRef) (c : Context) : Context :=
  programSchedulerSetState p .stopped message
    (stopCron (stopTimer p (programSchedulerAbortObserver p c)))

def programSchedulerHandleError (format : String) (code : Option APIError) (c : Context) :
    Context :=
  let (message, c) := wrapMessage format code c
  programSchedulerStop p message c

end Stop

section Files

variable (p : ProgramRef)

-- A call of file_open or pipe_create_, `format` is for the failure.
def openFile (format : String) (c : Context) : Option FileRef × Context :=
  match c.call with
  | (some code, c) => (none, programSchedulerHandleError p format code c)
  | (none, c) => (some c.log.length, c.record .createFile)

def programSchedulerPrepareStdin (c : Context) : Option FileRef × Context :=
  match c.program.config.stdinRedirection with
  | .devNull => openFile p "Could not open /dev/null for reading: %s (%d)" c
  | .pipe => openFile p "Could not create pipe: %s (%d)" c
  | .file =>
      match c.program.scheduler.absoluteStdinFileName with
      | none => (none, programSchedulerHandleError p "Absolute stdin file name not set" none c)
      | some name =>
          openFile p "Could not open '%s' for reading: %s (%d)"
            (c.record (.fileOpen p c.program .stdin name))
  | .individualLog =>
      (none, programSchedulerHandleError p "Cannot redirect stdin to a individual log file" none c)
  | .continuousLog =>
      (none, programSchedulerHandleError p "Cannot redirect stdin to a continuous log file" none c)
  | .stdout => (none, programSchedulerHandleError p "Cannot redirect stdin to stdout" none c)

-- The loop over `counter`, with the attempts that are left.
def individualLogAttempts : Nat → Context → Option FileRef × Context
  | 0, c =>
      (none, programSchedulerHandleError p "Could not create %s log file within 1000 attempts"
        none c)
  | attempts + 1, c =>
      -- robust_snprintf for the next attempt
      let next (c : Context) : Option FileRef × Context :=
        match c.call with
        | (some code, c) =>
            (none, programSchedulerHandleError p "Could not format %s log file name: %s (%d)"
              code c)
        | (none, c) => individualLogAttempts attempts c
      -- lstat
      match c.call with
      | (none, c) => next c
      | (some _, c) =>
          match c.call with
          | (some code, c) =>
              (none, programSchedulerHandleError p
                "Could not wrap %s log file name into string object: %s (%d)" code c)
          | (none, c) =>
              match c.call with
              | (none, c) => (some c.log.length, c.record .createFile)
              | (some code, c) =>
                  if code.val ≠ .alreadyExists then
                    (none, programSchedulerHandleError p
                      "Could not create %s log file: %s (%d)" code c)
                  else next c

def programSchedulerPrepareIndividualLog (c : Context) : Option FileRef × Context :=
  match c.call with
  | (some code, c) =>
      (none, programSchedulerHandleError p "Could not format %s log file name: %s (%d)" code c)
  | (none, c) => individualLogAttempts p 1000 c

def programSchedulerPrepareContinuousLog (c : Context) : Option FileRef × Context :=
  match c.call with
  | (some code, c) =>
      (none, programSchedulerHandleError p "Could not format %s log file name: %s (%d)" code c)
  | (none, c) =>
      match c.call with
      | (some code, c) =>
          (none, programSchedulerHandleError p
            "Could not wrap %s log file name into string object: %s (%d)" code c)
      | (none, c) =>
          match openFile p "Could not open/create %s log file: %s (%d)" c with
          | (none, c) => (none, c)
          | (some file, c) =>
              match c.call with
              | (some code, c) =>
                  (none, (programSchedulerHandleError p
                    "Could not format timestamp for %s log file: %s (%d)" code c).record
                      (.releaseFile file))
              | (none, c) =>
                  match c.call with
                  | (some code, c) =>
                      (none, (programSchedulerHandleError p
                        "Could not write timestamp to %s log file: %s (%d)" code c).record
                          (.releaseFile file))
                  | (none, c) => (some file, c)

def programSchedulerPrepareStdout (c : Context) : Option FileRef × Context :=
  match c.program.config.stdoutRedirection with
  | .devNull => openFile p "Could not open /dev/null for writing: %s (%d)" c
  | .pipe => (none, programSchedulerHandleError p "Invalid stdout redirection %d" none c)
  | .file =>
      match c.program.scheduler.absoluteStdoutFileName with
      | none => (none, programSchedulerHandleError p "Absolute stdout file name not set" none c)
      | some name =>
          openFile p "Could not open/create '%s' for writing: %s (%d)"
            (c.record (.fileOpen p c.program .stdout name))
  | .individualLog => programSchedulerPrepareIndividualLog p c
  | .continuousLog => programSchedulerPrepareContinuousLog p c
  | .stdout => (none, programSchedulerHandleError p "Cannot redirect stdout to stdout" none c)

def programSchedulerPrepareStderr (stdout : FileRef) (c : Context) : Option FileRef × Context :=
  match c.program.config.stderrRedirection with
  | .devNull => openFile p "Could not open /dev/null for writing: %s (%d)" c
  | .pipe => (none, programSchedulerHandleError p "Invalid stderr redirection %d" none c)
  | .file =>
      match c.program.scheduler.absoluteStderrFileName with
      | none => (none, programSchedulerHandleError p "Absolute stderr file name not set" none c)
      | some name =>
          openFile p "Could not open/create '%s' for writing: %s (%d)"
            (c.record (.fileOpen p c.program .stderr name))
  | .individualLog => programSchedulerPrepareIndividualLog p c
  | .continuousLog => programSchedulerPrepareContinuousLog p c
  | .stdout => (some stdout, c.record (.acquireFile stdout))

end Files

section Processes

-- process_is_alive
def Daemon.isAlive (daemon : Daemon) (process : ProcessRef) : Bool :=
  (daemon.processes.get process).any (·.state.isAlive)

def Daemon.modifyProcess (daemon : Daemon) (process : ProcessRef) (f : Process → Process) :
    Daemon :=
  { daemon with processes := daemon.processes.modify process f }

-- process_destroy
def Daemon.destroyProcess (daemon : Daemon) (process : ProcessRef) : Daemon :=
  { daemon with processes := daemon.processes.free process }

-- object_remove_internal_reference, with the files that process_destroy releases.
def removeInternalReference (process : ProcessRef) (daemon : Daemon) (log : List Effect) :
    Daemon × List Effect :=
  match daemon.processes.get process with
  | none => ({ daemon with crashed := true }, log)
  | some found =>
      if found.internalReferenceCount = 0 then (daemon, log)
      else if found.internalReferenceCount = 1 ∧ found.externalReferenceCount = 0 then
        (daemon.destroyProcess process, found.files.map .releaseFile ++ log)
      else
        (daemon.modifyProcess process fun process =>
          { process with internalReferenceCount := process.internalReferenceCount - 1 }, log)

end Processes

section Spawn

variable (p : ProgramRef)

-- Checks that process_spawn makes on what the scheduler passes on.
def processSpawnRejects (executable workingDirectory : CString) : Bool :=
  executable = [] ∨ workingDirectory.head? ≠ some 47

-- `files` are stdin, stdout and stderr. The new process has the next address.
def spawnedProcess (files : List FileRef) : Process where
  state := .running
  exitCode := 0
  stateChanged := some p
  files := files
  releaseOnDeath := false
  internalReferenceCount := 1
  externalReferenceCount := 0
  listed := 0

def processSpawn (workingDirectory : CString) (files : List FileRef) (c : Context) :
    SpawnResult × Context :=
  if processSpawnRejects c.program.config.executable workingDirectory then
    (.failed ⟨.invalidParameter, nofun⟩, c)
  else
    match c.spawn with
    | (.spawned, c) =>
        (.spawned,
          { c with
            daemon := { c.daemon with
              processes := c.daemon.processes.alloc (spawnedProcess p files) }
            log := files.reverse.map .acquireFile ++ c.log })
    | (result, c) => (result, c)

def releaseLastProcess (c : Context) : Daemon × List Effect :=
  match c.program.scheduler.lastSpawnedProcess with
  | none => (c.daemon, c.log)
  | some process => removeInternalReference process c.daemon c.log

-- What follows a successful process_spawn that has created `process`.
def keepSpawnedProcess (process : ProcessRef) (files : List FileRef) (c : Context) : Context :=
  { c.setScheduler { c.program.scheduler with lastSpawnedProcess := some process } with
    daemon := (releaseLastProcess c).1
    log := files.reverse.map .releaseFile ++ .processSpawned p :: (releaseLastProcess c).2 }

def spawnInDirectory (workingDirectory : CString) (files : List FileRef) (c : Context) : Context :=
  match processSpawn p workingDirectory files
    (c.record (.processSpawn p c.program (some workingDirectory))) with
  | (.failed code, c) =>
      let c := programSchedulerHandleError p "Could not spawn process: %s (%d)" code c
      { c with log := files.map .releaseFile ++ c.log }
  | (.unset, c) => c.crash
  | (.spawned, c') => keepSpawnedProcess p c.daemon.processes.next files c'

-- program_scheduler_spawn_process behind the preparation of the three files. The absolute name
-- of the working directory is not checked for NULL.
def spawnWithFiles (files : List FileRef) (c : Context) : Context :=
  match c.program.scheduler.absoluteWorkingDirectory with
  | none => (c.record (.processSpawn p c.program none)).crash
  | some workingDirectory => spawnInDirectory p workingDirectory files c

def programSchedulerSpawnProcess (c : Context) : Context :=
  let c := programSchedulerAbortObserver p c
  -- don't spawn a new process while another one is already running
  if c.program.scheduler.lastSpawnedProcess.any c.daemon.isAlive then c
  else
    match programSchedulerPrepareStdin p c with
    | (none, c) => c
    | (some stdin, c) =>
        match programSchedulerPrepareStdout p c with
        | (none, c) => c.record (.releaseFile stdin)
        | (some stdout, c) =>
            match programSchedulerPrepareStderr p stdout c with
            | (none, c) => (c.record (.releaseFile stdout)).record (.releaseFile stdin)
            | (some stderr, c) => spawnWithFiles p [stdin, stdout, stderr] c

end Spawn

end RedApid.Scheduling

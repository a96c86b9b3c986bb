import RedApid.Scheduler.Spawn

namespace RedApid.Scheduling

open Memory

section Timer

-- timer_configure(.., delay, interval), which does nothing if it fails.
def timerConfigure (p : ProgramRef) (delay interval : Nat) (c : Context) :
    Option APIError × Context :=
  if delay = 0 ∧ interval = 0 then
    match c.timerStop with
    | (some code, c) => (some code, c.record (.timerStopFailed p))
    | (none, c) => (none, c.setScheduler { c.program.scheduler with timer := none })
  else
    match c.timerStart with
    | (some code, c) => (some code, c)
    | (none, c) =>
        (none, c.setScheduler { c.program.scheduler with
          timer := some ⟨interval ≠ 0, c.program.config.startMode⟩ })

-- What program_scheduler_start and program_scheduler_handle_process_state_change do with it.
def startTimer (p : ProgramRef) (delay interval : Nat) (c : Context) : Context :=
  match timerConfigure p delay interval c with
  | (some code, c) => programSchedulerHandleError p "Could not start timer: %s (%d)" code c
  | (none, c) => c.setScheduler { c.program.scheduler with timerActive := true }

end Timer

section Start

variable (p : ProgramRef)

-- The existing entry of the program, if there is one, gets the new values in its place.
def cronUpdateEntry (entry : CronEntry) (entries : List CronEntry) : List CronEntry :=
  match entries with
  | [] => []
  | other :: entries =>
      if other.programId = entry.programId then entry :: entries
      else other :: cronUpdateEntry entry entries

-- The failing call among the next ones, if there is one.
def firstFailure : Nat → Context → Option APIError × Context
  | 0, c => (none, c)
  | calls + 1, c =>
      match c.call with
      | (some code, c) => (some code, c)
      | (none, c) => firstFailure calls c

def cronAddEntry (c : Context) : Option APIError × Context :=
  -- format filename and content
  match firstFailure 2 c with
  | (some code, c) => (some code, c)
  | (none, c) =>
      let entry : CronEntry := ⟨c.program.id, p, c.program.config.startMode⟩
      if c.daemon.entries.any fun other => other.programId = entry.programId then
        -- mkostemp, fchmod, robust_write and rename, the updated entry stays if one of them fails
        firstFailure 4 { c with
          daemon := { c.daemon with entries := cronUpdateEntry entry c.daemon.entries } }
      else
        -- array_append and the same four calls
        match firstFailure 5 c with
        | (some code, c) => (some code, c)
        | (none, c) =>
            (none, { c with daemon := { c.daemon with entries := c.daemon.entries ++ [entry] } })

def startCron (c : Context) : Context :=
  match cronAddEntry p c with
  | (some code, c) => programSchedulerHandleError p "Could not add cron entry: %s (%d)" code c
  | (none, c) => c.setScheduler { c.program.scheduler with cronActive := true }

def programSchedulerStart (c : Context) : Context :=
  if c.program.scheduler.shutdown then c
  else
    let c := programSchedulerSetState p .running none (programSchedulerAbortObserver p c)
    match c.program.config.startMode with
    | .never => programSchedulerStop p none c
    | .always => programSchedulerSpawnProcess p c
    | .interval => startTimer p 0 (c.program.config.startInterval.toNat * 1000000) c
    | .cron => startCron p c

end Start

section Handlers

variable (p : ProgramRef)

-- A dead last process decides whether to stop, and whether to spawn the next one in a second.
def handleDeath (process : Process) (c : Context) : Context :=
  if (process.state = .exited ∧ process.exitCode = 0) ∨ c.program.config.continueAfterError then
    if c.program.config.startMode = .always then startTimer p 1000000 0 c else c
  else programSchedulerStop p none c

def programSchedulerHandleProcessStateChange (c : Context) : Context :=
  if c.program.scheduler.state ≠ .running then c
  else
    match c.program.scheduler.lastSpawnedProcess.bind c.daemon.processes.get with
    | none => c.crash
    | some process => if process.state.isAlive then c else handleDeath p process c

def programSchedulerHandleObserver (c : Context) : Context :=
  if c.program.scheduler.observerState = .waiting then
    programSchedulerStart p (programSchedulerAbortObserver p c)
  else c

def programSchedulerHandleTimer (c : Context) : Context :=
  if c.program.scheduler.state = .running then
    if c.program.config.startMode = .always ∨ c.program.config.startMode = .interval then
      programSchedulerSpawnProcess p c
    else c
  else c

def programSchedulerHandleCron (c : Context) : Context :=
  if c.program.scheduler.state = .running ∧ c.program.config.startMode = .cron then
    programSchedulerSpawnProcess p c
  else c

end Handlers

section Observers

variable (p : ProgramRef)

def informObserver (c : Context) : Context :=
  programSchedulerHandleObserver p (c.record (.observer p))

def Context.setObservation (c : Context) (observation : ProcessObservation) : Context :=
  { c with daemon := { c.daemon with observation } }

-- process_monitor_add_observer for an observation that exists.
def joinObservation (observation : ProcessObservation) (c : Context) : Bool × Context :=
  match c.call with
  | (some _, c) => (false, c)
  | (none, c) =>
      let c := c.setObservation { observation with observers := observation.observers ++ [p] }
      (true, if observation.waiting then c else informObserver p c)

-- A new observation needs array_append, strdup, array_create and array_append, and the timer
-- needs timer_create_ and timer_configure.
def newObservation (timeout : Nat) (c : Context) : Bool × Context :=
  match c.search with
  | (.error, c) => (false, c)
  | (.notFound, c) =>
      match firstFailure 6 c with
      | (some _, c) => (false, c)
      | (none, c) => (true, c.setObservation ⟨timeout, true, [p]⟩)
  | (.found, c) =>
      match firstFailure 4 c with
      | (some _, c) => (false, c)
      | (none, c) => (true, informObserver p (c.setObservation ⟨0, false, [p]⟩))

-- The Boolean is false for a result of -1.
def processMonitorAddObserver (timeout : Nat) (c : Context) : Bool × Context :=
  match c.daemon.observation with
  | some observation => joinObservation p observation c
  | none => newObservation p timeout c

end Observers

section Filesystem

variable (p : ProgramRef)

-- What "%s/bin/%s" formats.
def binName (program : Program) (name : CString) : CString :=
  program.rootDirectory ++ ascii "/bin/" ++ name

-- The absolute name of a file that a stream is redirected to.
def absoluteFileName (program : Program) (redirection : ProgramStdioRedirection)
    (fileName : Option CString) : Option CString :=
  if redirection = .file then some (binName program (fileName.getD [])) else none

def storeAbsoluteNames (program : Program) : ProgramScheduler :=
  { program.scheduler with
    absoluteWorkingDirectory := some (binName program program.config.workingDirectory)
    absoluteStdinFileName :=
      absoluteFileName program program.config.stdinRedirection program.config.stdinFileName
    absoluteStdoutFileName :=
      absoluteFileName program program.config.stdoutRedirection program.config.stdoutFileName
    absoluteStderrFileName :=
      absoluteFileName program program.config.stderrRedirection program.config.stderrFileName }

-- The calls of string_asprintf and directory_create in their order, with the redirection that
-- has to be FILE for the call to be made.
def filesystemCalls (config : ProgramSettings) : List (Option ProgramStdioRedirection × String) :=
  [(none, "Could not wrap absolute program working directory name into string object: %s (%d)"),
    (none, "Could not create absolute program working directory: %s (%d)"),
    (config.stdinRedirection,
      "Could not wrap absolute stdin file name into string object: %s (%d)"),
    (config.stdoutRedirection,
      "Could not wrap absolute stdout file name into string object: %s (%d)"),
    (config.stdoutRedirection, "Could not create directory for stdout file '%s': %s (%d)"),
    (config.stderrRedirection,
      "Could not wrap absolute stderr file name into string object: %s (%d)")]

def runFilesystemCalls : List (Option ProgramStdioRedirection × String) → Context →
    Option APIError × Context
  | [], c => (none, c)
  | (redirection, format) :: calls, c =>
      if redirection.getD .file = .file then
        match c.call with
        | (some code, c) => (some code, programSchedulerHandleError p format code c)
        | (none, c) => runFilesystemCalls calls c
      else runFilesystemCalls calls c

-- Behind the last phase a failure of directory_create for stderr is handled, but not returned.
def programSchedulerPrepareFilesystem (c : Context) : Option APIError × Context :=
  match runFilesystemCalls p (filesystemCalls c.program.config) c with
  | (some code, c) => (some code, c)
  | (none, c) =>
      if c.program.config.stderrRedirection = .file then
        match c.call with
        | (some code, c) =>
            (none, programSchedulerHandleError p
              "Could not create directory for stderr file '%s': %s (%d)" code c)
        | (none, c) => (none, c.setScheduler (storeAbsoluteNames c.program))
      else (none, c.setScheduler (storeAbsoluteNames c.program))

end Filesystem

section Update

variable (p : ProgramRef)

def observeLxpanel (c : Context) : Context :=
  if c.program.scheduler.observerState = .pending then
    let c := c.setScheduler { c.program.scheduler with observerState := .waiting }
    match processMonitorAddObserver p 30 c with
    -- if the observer could not be added, then start anyway
    | (false, c) => c.setScheduler { c.program.scheduler with observerState := .finished }
    | (true, c) => c
  else c

-- Nothing follows a crash in process_monitor_add_observer.
def programSchedulerTryStart (c : Context) : Context :=
  if c.program.config.startMode = .never then
    programSchedulerStop p c.program.scheduler.message c
  else
    let c := observeLxpanel p c
    if c.daemon.crashed then c
    else if c.program.scheduler.observerState = .finished ∧
        ¬c.program.scheduler.waitingForBrickd then programSchedulerStart p c
    else c

def checkBrickd (c : Context) : Context :=
  if c.program.scheduler.waitingForBrickd ∧ c.daemon.brickdConnected then
    c.setScheduler { c.program.scheduler with waitingForBrickd := false }
  else c

def programSchedulerUpdate (tryStart : Bool) (c : Context) : Context :=
  if c.program.scheduler.shutdown then c
  else
    match programSchedulerPrepareFilesystem p (checkBrickd c) with
    | (some _, c) => c
    | (none, c) => if tryStart then programSchedulerTryStart p c else c

def programSchedulerContinue (c : Context) : Context :=
  if c.program.scheduler.shutdown then c
  else if c.program.scheduler.state = .stopped ∧ c.program.config.startMode ≠ .never then
    programSchedulerStart p c
  else c

-- process_kill only sends a signal.
def programSchedulerShutdown (c : Context) : Context :=
  if c.program.scheduler.shutdown then c
  else
    let c := c.setScheduler { c.program.scheduler with shutdown := true }
    let c := programSchedulerStop p none c
    match c.program.scheduler.lastSpawnedProcess with
    | none => c
    | some process => if c.daemon.isAlive process then c.record (.processKill process) else c

end Update

section Life

-- program_scheduler_create. The environment is searched for "DISPLAY=" if X11 is enabled.
def programSchedulerCreate (config : ProgramSettings) (daemon : Daemon) : ProgramScheduler where
  absoluteWorkingDirectory := none
  absoluteStdinFileName := none
  absoluteStdoutFileName := none
  absoluteStderrFileName := none
  observerState :=
    if daemon.x11Enabled ∧ config.environment.any (ascii "DISPLAY=" |>.isPrefixOf ·) then .pending
    else .finished
  timer := none
  shutdown := false
  waitingForBrickd := !daemon.brickdConnected
  timerActive := false
  cronActive := false
  lastSpawnedProcess := none
  state := .stopped
  message := none

-- program_scheduler_destroy, as far as it reaches beyond the program.
def programSchedulerDestroy (p : ProgramRef) (c : Context) : Context :=
  let c := programSchedulerShutdown p c
  let log := match c.program.scheduler.message with
    | none => (releaseLastProcess c).2
    | some message => .releaseMessage message :: (releaseLastProcess c).2
  { c with daemon := (releaseLastProcess c).1, log }

end Life

end RedApid.Scheduling

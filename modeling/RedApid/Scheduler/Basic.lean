import RedApid.Config.Program
import RedApid.Store.Basic

namespace RedApid.Scheduling

open Memory

-- Addresses. A Program stands for the ProgramScheduler inside it as well.
abbrev ProgramRef := Nat
abbrev ProcessRef := Nat

-- Strings of error messages and files are told apart by the place of their creation in the log.
abbrev MessageRef := Nat
abbrev FileRef := Nat

inductive ProcessState where
  | unknown
  | running
  | error
  | exited
  | killed
  | stopped
deriving DecidableEq, Repr

-- process_state_is_alive
def ProcessState.isAlive : ProcessState → Bool
  | .unknown => true
  | .running => true
  | .error => false
  | .exited => false
  | .killed => false
  | .stopped => true

-- `stateChanged` is the program that state_changed is called for, if there is such a function,
-- `files` are stdin, stdout and stderr, and `listed` counts the internal references by lists.
structure Process where
  state : ProcessState
  exitCode : UInt8
  stateChanged : Option ProgramRef
  files : List FileRef
  releaseOnDeath : Bool
  internalReferenceCount : Nat
  externalReferenceCount : Nat
  listed : Nat
deriving DecidableEq, Repr

inductive ProcessObserverState where
  | pending
  | waiting
  | finished
deriving DecidableEq, Repr

inductive ProgramSchedulerState where
  | stopped
  | running
deriving DecidableEq, Repr

-- What a Timer is armed with. No program reads `tag`, the start mode at that time.
structure Arming where
  periodic : Bool
  tag : ProgramStartMode
deriving DecidableEq, Repr

structure ProgramScheduler where
  absoluteWorkingDirectory : Option CString
  absoluteStdinFileName : Option CString
  absoluteStdoutFileName : Option CString
  absoluteStderrFileName : Option CString
  observerState : ProcessObserverState
  timer : Option Arming
  shutdown : Bool
  waitingForBrickd : Bool
  timerActive : Bool
  cronActive : Bool
  lastSpawnedProcess : Option ProcessRef
  state : ProgramSchedulerState
  message : Option MessageRef
deriving DecidableEq, Repr

structure Program where
  id : ObjectID
  purged : Bool
  identifier : CString
  rootDirectory : CString
  config : ProgramSettings
  scheduler : ProgramScheduler
  internalReferenceCount : Nat
  externalReferenceCount : Nat
  listed : Nat
deriving DecidableEq, Repr

-- Entry of cron.c. `notify` is the program that program_scheduler_handle_cron is called for. No
-- program reads `tag`, the start mode at the time of the last cron_add_entry.
structure CronEntry where
  programId : ObjectID
  notify : ProgramRef
  tag : ProgramStartMode
deriving DecidableEq, Repr

-- The observation of "lxpanel", the only one there is.
structure ProcessObservation where
  remainingTimeout : Nat
  waiting : Bool
  observers : List ProgramRef
deriving DecidableEq, Repr

-- What the schedulers share, with the static variables of cron.c, process_monitor.c and
-- network.c. `crashed` is set by an access to freed or unset memory.
structure Daemon where
  processes : Heap Process
  entries : List CronEntry
  observation : Option ProcessObservation
  brickdConnected : Bool
  x11Enabled : Bool
  crashed : Bool
deriving DecidableEq, Repr

inductive Stdio where
  | stdin
  | stdout
  | stderr
deriving DecidableEq, Repr

-- Calls that are recorded: of the functions of other objects, of file_open for a FILE
-- redirection and process_spawn with the program as it is then, and of timer_configure(.., 0, 0)
-- if it fails.
inductive Effect where
  | wrapMessage (format : String) (code : Option APIError)
  | releaseMessage (message : MessageRef)
  | createFile
  | acquireFile (file : FileRef)
  | releaseFile (file : FileRef)
  | fileOpen (p : ProgramRef) (program : Program) (stream : Stdio) (name : CString)
  | processSpawn (p : ProgramRef) (program : Program) (workingDirectory : Option CString)
  | processKill (process : ProcessRef)
  | processSpawned (p : ProgramRef)
  | stateChanged (p : ProgramRef) (state : ProgramSchedulerState)
  | observer (p : ProgramRef)
  | timerStopFailed (p : ProgramRef)
deriving DecidableEq, Repr

section Outcomes

inductive SearchResult where
  | error
  | notFound
  | found
deriving DecidableEq, Repr

-- process_spawn can also return API_E_SUCCESS without having created a process.
inductive SpawnResult where
  | spawned
  | failed (code : APIError)
  | unset
deriving DecidableEq, Repr

-- The results of calls, in the order in which they are made: of timer_configure to start and
-- to stop, of process_monitor_search_proc, of process_spawn and of all others. The calls that
-- are not listed succeed, and do not find a process.
structure Outcomes where
  calls : List (Option APIError)
  timerStarts : List (Option APIError)
  timerStops : List (Option APIError)
  searches : List SearchResult
  spawns : List SpawnResult
deriving DecidableEq, Repr

def Outcomes.succeed : Outcomes := ⟨[], [], [], [], []⟩

end Outcomes

-- A function of program_scheduler.c runs on one program and on what is shared. The log starts
-- with the last effect.
structure Context where
  program : Program
  daemon : Daemon
  log : List Effect
  outcomes : Outcomes
deriving DecidableEq, Repr

namespace Context

variable (c : Context)

def call : Option APIError × Context :=
  (c.outcomes.calls.headD none,
    { c with outcomes := { c.outcomes with calls := c.outcomes.calls.tail } })

def search : SearchResult × Context :=
  (c.outcomes.searches.headD .notFound,
    { c with outcomes := { c.outcomes with searches := c.outcomes.searches.tail } })

def spawn : SpawnResult × Context :=
  (c.outcomes.spawns.headD .spawned,
    { c with outcomes := { c.outcomes with spawns := c.outcomes.spawns.tail } })

def timerStart : Option APIError × Context :=
  (c.outcomes.timerStarts.headD none,
    { c with outcomes := { c.outcomes with timerStarts := c.outcomes.timerStarts.tail } })

def timerStop : Option APIError × Context :=
  (c.outcomes.timerStops.headD none,
    { c with outcomes := { c.outcomes with timerStops := c.outcomes.timerStops.tail } })

def record (effect : Effect) : Context := { c with log := effect :: c.log }

def crash : Context := { c with daemon := { c.daemon with crashed := true } }

def setScheduler (scheduler : ProgramScheduler) : Context :=
  { c with program := { c.program with scheduler } }

end Context

end RedApid.Scheduling

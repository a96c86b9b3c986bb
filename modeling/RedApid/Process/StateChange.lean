import RedApid.Fifo
import RedApid.Scheduler.Basic
import RedApid.Trace

namespace RedApid.Waiting

open Scheduling (ProcessState)

section Decoding

-- sys/wait.h
def WTERMSIG (status : UInt32) : UInt32 := status &&& 0x7F
def WEXITSTATUS (status : UInt32) : UInt32 := (status &&& 0xFF00) >>> 8
def WSTOPSIG (status : UInt32) : UInt32 := WEXITSTATUS status

def WIFEXITED (status : UInt32) : Bool := WTERMSIG status = 0
def WIFSIGNALED (status : UInt32) : Bool := WTERMSIG status ≠ 0 ∧ WTERMSIG status ≠ 0x7F
def WIFSTOPPED (status : UInt32) : Bool := status &&& 0xFF = 0x7F
def WIFCONTINUED (status : UInt32) : Bool := status = 0xFFFF

def PROCESS_E_INTERNAL_ERROR : UInt8 := 125
def PROCESS_E_CANNOT_EXECUTE : UInt8 := 126
def PROCESS_E_DOES_NOT_EXIST : UInt8 := 127

structure ProcessStateChange where
  state : ProcessState
  timestamp : UInt64
  exitCode : UInt8
deriving DecidableEq, Repr

def ProcessStateChange.isDead (change : ProcessStateChange) : Bool := !change.state.isAlive

-- The state change that process_wait makes out of a status.
def decode (status : UInt32) (timestamp : UInt64) : ProcessStateChange :=
  if WIFEXITED status then
    let exitCode := (WEXITSTATUS status).toUInt8
    if exitCode = PROCESS_E_INTERNAL_ERROR ∨ exitCode = PROCESS_E_CANNOT_EXECUTE ∨
        exitCode = PROCESS_E_DOES_NOT_EXIST then
      ⟨.error, timestamp, exitCode⟩
    else ⟨.exited, timestamp, exitCode⟩
  else if WIFSIGNALED status then ⟨.killed, timestamp, (WTERMSIG status).toUInt8⟩
  else if WIFSTOPPED status then ⟨.stopped, timestamp, (WSTOPSIG status).toUInt8⟩
  else if WIFCONTINUED status then ⟨.running, timestamp, 0⟩
  else ⟨.unknown, timestamp, 0⟩

-- `timestamp` is what time returns afterwards.
inductive WaitpidResult where
  | interrupted
  | failed
  | status (word : UInt32) (timestamp : UInt64)
deriving DecidableEq, Repr

def WaitpidResult.change : WaitpidResult → Option ProcessStateChange
  | .interrupted => none
  | .failed => none
  | .status word timestamp => some (decode word timestamp)

def decoded (results : List WaitpidResult) : List ProcessStateChange :=
  results.filterMap WaitpidResult.change

end Decoding

section Processes

abbrev SessionRef := Nat

-- `destroyed` and `freed` tell that process_destroy has been called, and that it did not wait for
-- the thread.
structure Process where
  pid : Nat
  releaseOnDeath : Bool
  stateChanged : Bool
  state : ProcessState
  timestamp : UInt64
  exitCode : UInt8
  internalReferenceCount : Nat
  externalReferences : List SessionRef
  destroyed : Bool
  freed : Bool
deriving DecidableEq, Repr

-- What can be observed from outside. `releasedOnDeath` is the removal of the reference of the
-- spawn by the handler.
inductive Effect where
  | kill (pid : Nat) (signal : UInt8)
  | stateChangedCallback (change : ProcessStateChange)
  | releasedOnDeath
deriving DecidableEq, Repr

-- `waitpid` is what is still to be returned by waitpid, `taken` are the state changes that the
-- handler has read. `held` counts the internal references that others have, `undefined` tells
-- that freed memory was used.
structure System where
  process : Process
  thread : Producer ProcessStateChange
  waitpid : List WaitpidResult
  pipe : List ProcessStateChange
  taken : List ProcessStateChange
  held : Nat
  log : List Effect
  undefined : Bool
deriving DecidableEq

inductive KillResult where
  | sent
  | ESRCH
  | failed
deriving DecidableEq, Repr

def SIGKILL : UInt8 := 9

-- process_destroy. The thread is joined unless the child process is stuck.
def processDestroy (killed : KillResult) (s : System) : System :=
  if s.process.state.isAlive then
    { s with
      process := { s.process with destroyed := true, freed := decide (killed = .failed) }
      log := .kill s.process.pid SIGKILL :: s.log }
  else { s with process := { s.process with destroyed := true } }

def destroyUnreferenced (killed : KillResult) (s : System) : System :=
  if s.process.internalReferenceCount = 0 ∧ s.process.externalReferences = [] then
    processDestroy killed s
  else s

-- object_remove_internal_reference
def objectRemoveInternalReference (killed : KillResult) (s : System) : System :=
  if s.process.internalReferenceCount = 0 then s
  else
    destroyUnreferenced killed
      { s with
        process :=
          { s.process with internalReferenceCount := s.process.internalReferenceCount - 1 } }

-- object_add_external_reference. Only the first reference of a session allocates memory.
def objectAddExternalReference (session : SessionRef) (calloc : Bool) (s : System) : System :=
  if session ∈ s.process.externalReferences ∨ calloc then
    { s with
      process :=
        { s.process with externalReferences := session :: s.process.externalReferences } }
  else s

-- object_release
def objectRelease (session : SessionRef) (killed : KillResult) (s : System) : System :=
  if session ∈ s.process.externalReferences then
    destroyUnreferenced killed
      { s with
        process :=
          { s.process with externalReferences := s.process.externalReferences.erase session } }
  else s

def processKill (signal : UInt8) (s : System) : System :=
  if s.process.state.isAlive then { s with log := .kill s.process.pid signal :: s.log } else s

-- What the rest of the daemon does with a process. Nobody removes more internal references than
-- there are of others.
inductive Request where
  | addInternalReference
  | removeInternalReference (killed : KillResult)
  | addExternalReference (session : SessionRef) (calloc : Bool)
  | release (session : SessionRef) (killed : KillResult)
  | kill (signal : UInt8)
deriving DecidableEq, Repr

def Request.perform (s : System) : Request → System
  | .addInternalReference =>
      { s with
        process :=
          { s.process with internalReferenceCount := s.process.internalReferenceCount + 1 }
        held := s.held + 1 }
  | .removeInternalReference killed =>
      if s.held = 0 then s
      else objectRemoveInternalReference killed { s with held := s.held - 1 }
  | .addExternalReference session calloc => objectAddExternalReference session calloc s
  | .release session killed => objectRelease session killed s
  | .kill signal => processKill signal s

-- A destroyed process cannot be found any more.
def Request.run (s : System) (request : Request) : System :=
  if s.process.destroyed then s else request.perform s

-- The fields, and the number of a process that is dead.
def takeStateChange (change : ProcessStateChange) (s : System) : System :=
  { s with
    process :=
      { s.process with
        state := change.state
        timestamp := change.timestamp
        exitCode := change.exitCode
        pid := if change.state.isAlive then s.process.pid else 0 }
    taken := s.taken ++ [change] }

def releaseOnDeath (killed : KillResult) (s : System) : System :=
  if s.process.releaseOnDeath ∧ ¬s.process.state.isAlive then
    -- only release-on-death once
    objectRemoveInternalReference killed
      { s with
        process := { s.process with releaseOnDeath := false }
        log := .releasedOnDeath :: s.log }
  else s

-- process_handle_state_change, with what the state_changed function does.
def processHandleStateChange (change : ProcessStateChange) (callback : List Request)
    (killed : KillResult) (s : System) : System :=
  let s := takeStateChange change s
  let s := if s.process.stateChanged then callback.foldl Request.run s else s
  if s.process.destroyed then { s with undefined := true }
  else
    let s :=
      if s.process.externalReferences = [] then s
      else { s with log := .stateChangedCallback change :: s.log }
    releaseOnDeath killed s

-- process_wait, up to the next write.
def processWait (s : System) : List WaitpidResult → System
  | [] => s
  | .interrupted :: results => { s with waitpid := results }
  | .failed :: results => { s with waitpid := results, thread := .ended }
  | .status word timestamp :: results =>
      { s with waitpid := results, thread := .holding (decode word timestamp) }

-- The write, and whether there is more to wait for.
def processWrite (written : Bool) (change : ProcessStateChange) (s : System) : System :=
  if written then
    { s with
      pipe := s.pipe ++ [change]
      thread := if change.isDead then .ended else .waiting }
  else { s with thread := .ended }

inductive Event where
  | waitpid
  | write (written : Bool)
  | read (received : Bool) (callback : List Request) (killed : KillResult)
  | request (request : Request)
deriving DecidableEq, Repr

-- What one of the two parties does next, if it can. The thread uses freed memory if it was not
-- joined.
def next (s : System) : Event → Option System
  | .waitpid =>
      if s.undefined ∨ s.thread ≠ .waiting ∨ s.waitpid = [] then none
      else if s.process.freed then some { s with undefined := true }
      else some (processWait s s.waitpid)
  | .write written =>
      match s.thread with
      | .holding change =>
          if s.undefined then none
          else if s.process.freed then some { s with undefined := true }
          else some (processWrite written change s)
      | _ => none
  | .read received callback killed =>
      if s.undefined ∨ s.process.destroyed then none
      else
        match s.pipe with
        | [] => some s
        | change :: pipe =>
            if received then
              some (processHandleStateChange change callback killed { s with pipe })
            else some s
  | .request request => if s.undefined ∨ s.process.destroyed then none else some (request.run s)

-- What process_spawn leaves behind. The internal reference belongs to the process itself or to
-- the caller.
def spawned (waitpid : List WaitpidResult) (pid : { pid : Nat // pid ≠ 0 }) (onDeath : Bool)
    (stateChanged : Bool) (externalReferences : List SessionRef) (timestamp : UInt64) : System where
  process :=
    { pid
      releaseOnDeath := onDeath
      stateChanged
      state := .running
      timestamp
      exitCode := 0
      internalReferenceCount := 1
      externalReferences
      destroyed := false
      freed := false }
  thread := .waiting
  waitpid
  pipe := []
  taken := []
  held := if onDeath then 0 else 1
  log := []
  undefined := false

end Processes

section Specification

structure StateChangesExact (waitpid : List WaitpidResult) (onDeath : Bool) (s : System) :
    Prop where
  -- in order, without duplicates, and nothing after the first dead state
  taken : s.taken <+: Fifo.throughFirst ProcessStateChange.isDead (decoded waitpid)
  state : s.process.state = (s.taken.getLast?.map (·.state)).getD .running
  nothing_lost : s.thread = .waiting → s.taken ++ s.pipe ++ decoded s.waitpid = decoded waitpid
  pid_eq_zero : s.process.pid = 0 ↔ s.process.state.isAlive = false
  kill : ∀ pid signal, .kill pid signal ∈ s.log → pid ≠ 0
  released_once : onDeath = true → s.log.count .releasedOnDeath ≤ 1 ∧
    s.log.count .releasedOnDeath = s.taken.countP ProcessStateChange.isDead
  not_released : onDeath = false → s.log.count .releasedOnDeath = 0
  references : onDeath = true →
    s.process.internalReferenceCount + s.log.count .releasedOnDeath = s.held + 1
  destroyed : onDeath = true → (s.process.destroyed = true ↔
    s.process.state.isAlive = false ∧ s.held = 0 ∧ s.process.externalReferences = [])
  defined : onDeath = true → s.undefined = false

-- The records that an event puts into the pipe and takes out of it.
def Event.writes (s : System) : Event → List ProcessStateChange
  | .write true =>
      match s.thread with
      | .holding change => if s.process.freed then [] else [change]
      | _ => []
  | _ => []

def Event.reads (s : System) : Event → List ProcessStateChange
  | .read true _ _ => s.pipe.take 1
  | _ => []

-- All that was decoded up to the first dead state is taken or on the way.
def Complete (waitpid : List WaitpidResult) (s : System) : Prop :=
  s.taken ++ s.pipe = Fifo.throughFirst ProcessStateChange.isDead (decoded waitpid)

structure RecordsMove (waitpid : List WaitpidResult) (s : System) (event : Event) (s' : System) :
    Prop where
  taken : s'.taken = s.taken ++ event.reads s
  pipe : s.pipe ++ event.writes s = event.reads s ++ s'.pipe
  process : ∀ change ∈ event.reads s, s'.process.state = change.state ∧
    s'.process.timestamp = change.timestamp ∧ s'.process.exitCode = change.exitCode
  -- from the write of a dead state on
  complete : Complete waitpid s ∨ (∃ change ∈ event.writes s, change.isDead = true) →
    Complete waitpid s'

end Specification

end RedApid.Waiting

import RedApid.Scheduler.Runs

namespace RedApid.Monitor

open Scheduling (SearchResult)

section Functions

-- The address of a ProcessObserver.
abbrev ObserverRef := Nat

def SERACH_INTERVAL : Nat := 2 -- seconds

-- `timer` tells whether the timer is there, and `timeout` is what the observation was added with,
-- nothing reads it.
structure ProcessObservation where
  timer : Bool
  remainingTimeout : Nat
  waiting : Bool
  observers : List ObserverRef
  timeout : Nat
deriving DecidableEq, Repr

-- An observer is `withdrawn` if it is removed from an observation that still waits.
inductive Entry where
  | added (cmdlinePrefix : CString) (observer : ObserverRef)
  | called (cmdlinePrefix : CString) (observer : ObserverRef)
  | withdrawn (cmdlinePrefix : CString) (observer : ObserverRef)
  | ticked (cmdlinePrefix : CString)
deriving DecidableEq, Repr

-- The observations by their prefixes. `undefined` is an access behind the end of an array.
structure State where
  observations : CString → Option ProcessObservation
  log : List Entry
  undefined : Bool

def State.record (entry : Entry) (s : State) : State := { s with log := entry :: s.log }

def State.set (cmdlinePrefix : CString) (observation : ProcessObservation) (s : State) : State :=
  { s with observations := Function.update s.observations cmdlinePrefix (some observation) }

def processMonitorRemoveObserver (cmdlinePrefix : CString) (observer : ObserverRef) (s : State) :
    State :=
  match s.observations cmdlinePrefix with
  | none => s
  | some observation =>
      if observer ∈ observation.observers then
        let removed := s.set cmdlinePrefix
          { observation with observers := observation.observers.erase observer }
        if observation.waiting then removed.record (.withdrawn cmdlinePrefix observer) else removed
      else s

-- The call of the function of an observer, and the prefix that it removes the observer from, if
-- it does so.
def callFunction (cmdlinePrefix : CString) (observer : ObserverRef) (removal : Option CString)
    (s : State) : State :=
  let s := s.record (.called cmdlinePrefix observer)
  match removal with
  | none => s
  | some other => processMonitorRemoveObserver other observer s

-- The loop from the last index to the first one, over an array that the functions change.
def informObservers (cmdlinePrefix : CString) (removals : Nat → Option CString) :
    Nat → State → State
  | 0, s => s
  | i + 1, s =>
      match (s.observations cmdlinePrefix).bind (·.observers[i]?) with
      | none => { s with undefined := true }
      | some observer =>
          informObservers cmdlinePrefix removals i
            (callFunction cmdlinePrefix observer (removals i) s)

def decreaseTimeout (remainingTimeout : Nat) : Nat :=
  if remainingTimeout > SERACH_INTERVAL then remainingTimeout - SERACH_INTERVAL else 0

-- The search in /proc or the timeout ends the waiting.
def checkProc (search : SearchResult) (observation : ProcessObservation) : ProcessObservation :=
  match search with
  | .found => { observation with waiting := false }
  | _ =>
      { observation with
        remainingTimeout := decreaseTimeout observation.remainingTimeout
        waiting := decreaseTimeout observation.remainingTimeout ≠ 0 }

def processMonitorUpdateObservation (cmdlinePrefix : CString) (search : SearchResult)
    (removals : Nat → Option CString) (s : State) : State :=
  match s.observations cmdlinePrefix with
  | none => s
  | some observation =>
      if ¬observation.waiting then
        s.set cmdlinePrefix { observation with timer := false, remainingTimeout := 0 }
      else
        let observation := checkProc search observation
        if observation.waiting then s.set cmdlinePrefix observation
        else
          informObservers cmdlinePrefix removals observation.observers.length
            (s.set cmdlinePrefix { observation with timer := false, remainingTimeout := 0 })

-- The calls of process_monitor_add_observer that can fail.
structure AddOutcomes where
  search : SearchResult
  appendObservation : Bool
  strdup : Bool
  createObservers : Bool
  appendObserver : Bool
  createTimer : Bool
  configureTimer : Bool
deriving DecidableEq, Repr

def AddOutcomes.created (outcomes : AddOutcomes) : Bool :=
  outcomes.appendObservation ∧ outcomes.strdup ∧ outcomes.createObservers ∧ outcomes.appendObserver

-- An observation that could not be set up is removed again. The Boolean is false for a result of
-- -1.
def addObservation (cmdlinePrefix : CString) (timeout : Nat) (observer : ObserverRef)
    (outcomes : AddOutcomes) (removal : Option CString) (s : State) : Bool × State :=
  match outcomes.search with
  | .error => (false, s)
  | .notFound =>
      if outcomes.created ∧ outcomes.createTimer ∧ outcomes.configureTimer then
        (true, (s.record (.added cmdlinePrefix observer)).set cmdlinePrefix
          ⟨true, timeout, true, [observer], timeout⟩)
      else (false, s)
  | .found =>
      if outcomes.created then
        (true, callFunction cmdlinePrefix observer removal
          ((s.record (.added cmdlinePrefix observer)).set cmdlinePrefix
            ⟨false, 0, false, [observer], timeout⟩))
      else (false, s)

def processMonitorAddObserver (cmdlinePrefix : CString) (timeout : Nat) (observer : ObserverRef)
    (outcomes : AddOutcomes) (removal : Option CString) (s : State) : Bool × State :=
  match s.observations cmdlinePrefix with
  | none => addObservation cmdlinePrefix timeout observer outcomes removal s
  | some observation =>
      if outcomes.appendObserver then
        let s := (s.record (.added cmdlinePrefix observer)).set cmdlinePrefix
          { observation with observers := observation.observers ++ [observer] }
        (true, if observation.waiting then s else callFunction cmdlinePrefix observer removal s)
      else (false, s)

inductive Event where
  | add (cmdlinePrefix : CString) (timeout : Nat) (observer : ObserverRef) (outcomes : AddOutcomes)
      (removal : Option CString)
  | remove (cmdlinePrefix : CString) (observer : ObserverRef)
  | tick (cmdlinePrefix : CString) (search : SearchResult) (removals : Nat → Option CString)

-- Only a timer that is there can expire.
def next (s : State) : Event → Option State
  | .add cmdlinePrefix timeout observer outcomes removal =>
      if s.undefined then none
      else some (processMonitorAddObserver cmdlinePrefix timeout observer outcomes removal s).2
  | .remove cmdlinePrefix observer =>
      if s.undefined then none
      else some (processMonitorRemoveObserver cmdlinePrefix observer s)
  | .tick cmdlinePrefix search removals =>
      if ¬s.undefined ∧ (s.observations cmdlinePrefix).any (·.timer) then
        some (processMonitorUpdateObservation cmdlinePrefix search removals
          (s.record (.ticked cmdlinePrefix)))
      else none

-- process_monitor_init
def init : State := ⟨fun _ => none, [], false⟩

end Functions

section Specification

namespace State

variable (s : State) (cmdlinePrefix : CString) (observer : ObserverRef)

def adds : Nat := s.log.count (.added cmdlinePrefix observer)

def calls : Nat := s.log.count (.called cmdlinePrefix observer)

def withdrawals : Nat := s.log.count (.withdrawn cmdlinePrefix observer)

def ticks : Nat := s.log.count (.ticked cmdlinePrefix)

end State

-- max(1, ceil(timeout / 2))
def maxTicks (timeout : Nat) : Nat := max 1 ((timeout + 1) / SERACH_INTERVAL)

structure ObserversExact (s : State) : Prop where
  defined : s.undefined = false
  -- at most once, and only observers that were added
  once : ∀ cmdlinePrefix observer, s.calls cmdlinePrefix observer +
    s.withdrawals cmdlinePrefix observer ≤ s.adds cmdlinePrefix observer
  observed : ∀ cmdlinePrefix observer, 0 < s.adds cmdlinePrefix observer →
    s.observations cmdlinePrefix ≠ none
  waiting : ∀ cmdlinePrefix observation, s.observations cmdlinePrefix = some observation →
    observation.waiting = true → ∀ observer, s.calls cmdlinePrefix observer = 0 ∧
      s.withdrawals cmdlinePrefix observer + observation.observers.count observer =
        s.adds cmdlinePrefix observer
  -- exactly once, unless it was removed before
  finished : ∀ cmdlinePrefix observation, s.observations cmdlinePrefix = some observation →
    observation.waiting = false → ∀ observer, s.calls cmdlinePrefix observer +
      s.withdrawals cmdlinePrefix observer = s.adds cmdlinePrefix observer
  ticks : ∀ cmdlinePrefix observation, s.observations cmdlinePrefix = some observation →
    s.ticks cmdlinePrefix ≤ maxTicks observation.timeout ∧
      (observation.waiting = true → s.ticks cmdlinePrefix < maxTicks observation.timeout)
  -- a finished observation is not ticked again
  timer : ∀ cmdlinePrefix observation, s.observations cmdlinePrefix = some observation →
    observation.timer = observation.waiting

namespace Event

variable (s : State) (cmdlinePrefix : CString) (observer : ObserverRef)

-- What an event counts for, by its inputs and by what is returned to the caller.
def adds : Event → Nat
  | .add other timeout who outcomes removal =>
      if other = cmdlinePrefix ∧ who = observer ∧
          (processMonitorAddObserver other timeout who outcomes removal s).1 then 1
      else 0
  | _ => 0

def withdrawals : Event → Nat
  | .remove other who =>
      if other = cmdlinePrefix ∧ who = observer ∧ (s.observations cmdlinePrefix).any
          (fun observation => observation.waiting ∧ observer ∈ observation.observers) then 1
      else 0
  | _ => 0

def ticks : Event → Nat
  | .tick other _ _ => if other = cmdlinePrefix then 1 else 0
  | _ => 0

-- The functions of the observers remove them from the observation that calls them, or not at all.
def Own : Event → Prop
  | .add other _ _ _ removal => removal = none ∨ removal = some other
  | .remove _ _ => True
  | .tick other _ removals => ∀ i, removals i = none ∨ removals i = some other

end Event

structure Reported (s : State) (event : Event) (s' : State) : Prop where
  adds : ∀ cmdlinePrefix observer, s'.adds cmdlinePrefix observer =
    s.adds cmdlinePrefix observer + event.adds s cmdlinePrefix observer
  withdrawals : event.Own → ∀ cmdlinePrefix observer, s'.withdrawals cmdlinePrefix observer =
    s.withdrawals cmdlinePrefix observer + event.withdrawals s cmdlinePrefix observer
  ticks : ∀ cmdlinePrefix,
    s'.ticks cmdlinePrefix = s.ticks cmdlinePrefix + event.ticks cmdlinePrefix
  -- an observer is only refused if a call fails
  succeeds : ∀ cmdlinePrefix timeout observer outcomes removal,
    event = .add cmdlinePrefix timeout observer outcomes removal → outcomes.search ≠ .error →
      outcomes.created = true → outcomes.createTimer = true → outcomes.configureTimer = true →
        (processMonitorAddObserver cmdlinePrefix timeout observer outcomes removal s).1 = true
  timeout : ∀ cmdlinePrefix after, s'.observations cmdlinePrefix = some after →
    (∃ before, s.observations cmdlinePrefix = some before ∧ after.timeout = before.timeout) ∨
      s.observations cmdlinePrefix = none ∧ ∃ observer outcomes removal,
        event = .add cmdlinePrefix after.timeout observer outcomes removal

end Specification

end RedApid.Monitor

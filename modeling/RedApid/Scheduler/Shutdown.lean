import RedApid.Scheduler.Updates

namespace RedApid.Scheduling

open Memory

variable {p : ProgramRef} {c : Context}

section Stop

def Context.setShutdown (c : Context) : Context :=
  c.setScheduler { c.program.scheduler with shutdown := true }

theorem stopTimer_setShutdown : stopTimer p c.setShutdown = (stopTimer p c).setShutdown := by
  have hwrap : ∀ (c : Context) format code, (wrapMessage format code c.setShutdown).2 =
      (wrapMessage format code c).2.setShutdown := by
    intro c format code
    have hcall : c.setShutdown.call = (c.outcomes.calls.headD none, c.call.2.setShutdown) := rfl
    have hcall' : c.call = (c.outcomes.calls.headD none, c.call.2) := rfl
    unfold wrapMessage
    rw [hcall, hcall']
    cases c.outcomes.calls.headD none <;> rfl
  unfold stopTimer
  by_cases hactive : c.program.scheduler.timerActive = true
  · have hactive' : c.setShutdown.program.scheduler.timerActive = true := hactive
    have hstop : c.setShutdown.timerStop =
        (c.outcomes.timerStops.headD none, c.timerStop.2.setShutdown) := rfl
    have hstop' : c.timerStop = (c.outcomes.timerStops.headD none, c.timerStop.2) := rfl
    rw [if_pos hactive, if_pos hactive', hstop, hstop']
    cases c.outcomes.timerStops.headD none with
    | some code => exact hwrap (c.timerStop.2.record (.timerStopFailed p)) _ _
    | none => rfl
  · have hactive' : ¬c.setShutdown.program.scheduler.timerActive = true := hactive
    rw [if_neg hactive, if_neg hactive']

theorem stopCron_setShutdown : stopCron c.setShutdown = (stopCron c).setShutdown := by
  unfold stopCron
  by_cases hactive : c.program.scheduler.cronActive = true
  · have hactive' : c.setShutdown.program.scheduler.cronActive = true := hactive
    rw [if_pos hactive, if_pos hactive']
    rfl
  · have hactive' : ¬c.setShutdown.program.scheduler.cronActive = true := hactive
    rw [if_neg hactive, if_neg hactive']

theorem setState_setShutdown (state : ProgramSchedulerState) (message : Option MessageRef) :
    programSchedulerSetState p state message c.setShutdown =
      (programSchedulerSetState p state message c).setShutdown := by
  have hrelease : releaseOldMessage message c.setShutdown =
      (releaseOldMessage message c).setShutdown := by
    have hmessage : c.setShutdown.program.scheduler.message = c.program.scheduler.message := rfl
    unfold releaseOldMessage
    rw [hmessage]
    cases c.program.scheduler.message with
    | none => rfl
    | some old =>
        dsimp only
        split_ifs <;> rfl
  unfold programSchedulerSetState
  by_cases hsame : c.program.scheduler.state = state ∧ c.program.scheduler.message = message
  · have hsame' : c.setShutdown.program.scheduler.state = state ∧
        c.setShutdown.program.scheduler.message = message := hsame
    rw [if_pos hsame, if_pos hsame']
  · have hsame' : ¬(c.setShutdown.program.scheduler.state = state ∧
        c.setShutdown.program.scheduler.message = message) := hsame
    rw [if_neg hsame, if_neg hsame', hrelease]
    rfl

-- No function that stops a scheduler looks at `shutdown`.
theorem stop_setShutdown (message : Option MessageRef) :
    programSchedulerStop p message c.setShutdown =
      (programSchedulerStop p message c).setShutdown := by
  have habort : programSchedulerAbortObserver p c.setShutdown =
      (programSchedulerAbortObserver p c).setShutdown := rfl
  unfold programSchedulerStop
  rw [habort, stopTimer_setShutdown, stopCron_setShutdown, setState_setShutdown]

-- What stopping does not change.
structure Keeps (c c' : Context) : Prop where
  observerState : c'.program.scheduler.observerState = c.program.scheduler.observerState
  last : c'.program.scheduler.lastSpawnedProcess = c.program.scheduler.lastSpawnedProcess
  processes : c'.daemon.processes = c.daemon.processes

theorem stopTimer_keeps : Keeps c (stopTimer p c) := by
  unfold stopTimer
  split_ifs
  · unfold Context.timerStop
    cases c.outcomes.timerStops.headD none with
    | some code =>
        change Keeps c (wrapMessage _ (some code)
          (c.timerStop.2.record (.timerStopFailed p))).2
        unfold wrapMessage Context.call
        cases (c.timerStop.2.record (.timerStopFailed p)).outcomes.calls.headD none with
        | some _ => exact ⟨rfl, rfl, rfl⟩
        | none => exact ⟨rfl, rfl, rfl⟩
    | none => exact ⟨rfl, rfl, rfl⟩
  · exact ⟨rfl, rfl, rfl⟩

theorem stopCron_keeps : Keeps c (stopCron c) := by
  unfold stopCron
  split_ifs
  · exact ⟨rfl, rfl, rfl⟩
  · exact ⟨rfl, rfl, rfl⟩

theorem stop_keeps (message : Option MessageRef) :
    (programSchedulerStop p message c).program.scheduler.observerState = .finished ∧
      (programSchedulerStop p message c).program.scheduler.lastSpawnedProcess =
        c.program.scheduler.lastSpawnedProcess ∧
      (programSchedulerStop p message c).daemon.processes = c.daemon.processes := by
  have htimer := stopTimer_keeps (p := p) (c := programSchedulerAbortObserver p c)
  have hcron := stopCron_keeps (c := stopTimer p (programSchedulerAbortObserver p c))
  have habort : (programSchedulerAbortObserver p c).daemon.processes = c.daemon.processes := by
    unfold programSchedulerAbortObserver
    by_cases hwaiting : c.program.scheduler.observerState = .waiting
    · rw [if_pos hwaiting]
      rfl
    · rw [if_neg hwaiting]
  unfold programSchedulerStop
  rw [setState_program, setState_daemon]
  refine ⟨?_, ?_, ?_⟩
  · change (stopCron _).program.scheduler.observerState = _
    rw [hcron.observerState, htimer.observerState]
    rfl
  · change (stopCron _).program.scheduler.lastSpawnedProcess = _
    rw [hcron.last, htimer.last]
    rfl
  · rw [hcron.processes, htimer.processes, habort]

end Stop

section Shutdown

theorem setShutdown_handled (h : c.Good p) (hstopped : c.program.scheduler.state = .stopped)
    (hfinished : c.program.scheduler.observerState = .finished) : Handled p c c.setShutdown where
  good :=
    { h with
      shutdown := fun _ => hstopped
      pending := fun hpending => absurd hfinished hpending }
  id := rfl
  brickd := Or.inl rfl
  shutdown _ := rfl
  frame := Frame.refl _
  logs := Logs.refl _

-- What is left of a scheduler that was shut down.
structure Inert (p : ProgramRef) (c : Context) : Prop where
  shutdown : c.program.scheduler.shutdown = true
  stopped : c.program.scheduler.state = .stopped
  finished : c.program.scheduler.observerState = .finished

theorem Base.inert_of_shutdown (h : c.Good p) (hshutdown : c.program.scheduler.shutdown = true) :
    Inert p c where
  shutdown := hshutdown
  stopped := h.shutdown hshutdown
  finished := by
    by_contra hpending
    have hfalse := (h.pending hpending).2
    rw [hshutdown] at hfalse
    cases hfalse

-- What a shutdown does. It only concerns the scheduler of the program.
structure ShutDown (p : ProgramRef) (c c' : Context) : Prop where
  handled : Handled p c c'
  program : c'.program = { c.program with scheduler := c'.program.scheduler }
  inert : Inert p c'
  last : c'.program.scheduler.lastSpawnedProcess = c.program.scheduler.lastSpawnedProcess
  processes : c'.daemon.processes = c.daemon.processes
  starts : starts c'.log = starts c.log

theorem shutdown_shutDown (h : c.Good p) : ShutDown p c (programSchedulerShutdown p c) := by
  unfold programSchedulerShutdown
  by_cases hshutdown : c.program.scheduler.shutdown = true
  · rw [if_pos hshutdown]
    exact ⟨(Moves.refl h).handled, rfl, Base.inert_of_shutdown h hshutdown, rfl, rfl, rfl⟩
  rw [if_neg hshutdown]
  have hstop := stop_moves h none
  obtain ⟨hfinished, hlast, hprocesses⟩ := @stop_keeps p c none
  have hset := setShutdown_handled hstop.good (stop_state none) hfinished
  have heq : programSchedulerStop p none
      (c.setScheduler { c.program.scheduler with shutdown := true }) =
      (programSchedulerStop p none c).setShutdown := stop_setShutdown none
  have hdone : ShutDown p c (programSchedulerStop p none c).setShutdown :=
    { handled := hstop.handled.trans hset
      program := by
        unfold Context.setShutdown Context.setScheduler
        rw [hstop.program]
      inert := Base.inert_of_shutdown hset.good rfl
      last := hlast
      processes := hprocesses
      starts := stop_starts none }
  dsimp only
  rw [heq]
  generalize (programSchedulerStop p none c).setShutdown = c₁ at hdone
  cases c₁.program.scheduler.lastSpawnedProcess with
  | none => exact hdone
  | some process =>
      dsimp only
      split_ifs
      · have hkill : Moves p c₁ (c₁.record (.processKill process)) :=
          record_moves hdone.handled.good (Effect.allowed_of_none rfl trivial)
        exact
          { handled := hdone.handled.trans hkill.handled
            program := hdone.program
            inert := ⟨hdone.inert.shutdown, hdone.inert.stopped, hdone.inert.finished⟩
            last := hdone.last
            processes := hdone.processes
            starts := (starts_cons_of_not rfl _).trans hdone.starts }
      · exact hdone

end Shutdown

section Destroy

-- No process calls the program back after its destruction.
def Unheld (p : ProgramRef) (program : Program) (daemon : Daemon) : Prop :=
  ∀ q process, daemon.processes.get q = some process → process.stateChanged = some p →
    program.scheduler.lastSpawnedProcess = some q ∧
      process.internalReferenceCount = 1 ∧ process.externalReferenceCount = 0

-- What is left of a program after its scheduler was destroyed.
structure Destroyed (p : ProgramRef) (c c' : Context) : Prop where
  frame : Frame p c.daemon c'.daemon
  logs : Logs p c.log c'.log
  starts : starts c'.log = starts c.log
  observers : c'.daemon.observers.count p = 0
  entries : ∀ entry ∈ c'.daemon.entries, entry.notify ≠ p
  process : ∀ q process, c'.daemon.processes.get q = some process → process.stateChanged = some p →
    (process.state.isAlive = true → c.program.scheduler.lastSpawnedProcess = some q) ∧
      process.releaseOnDeath = false ∧ process.listed ≤ process.internalReferenceCount
  callbacks : (∀ q process, c'.daemon.processes.get q = some process →
    process.stateChanged ≠ some p) ↔ Unheld p c.program c.daemon

theorem Released.frame {result : Daemon × List Effect} (h : c.Good p) (hreleased : Released c result) :
    Frame p c.daemon result.1 where
  observers other _ := by
    unfold Daemon.observers
    rw [hreleased.same]
  entries := by rw [hreleased.same]
  processes q process hchanged := by
    by_cases hlast : c.program.scheduler.lastSpawnedProcess = some q
    · obtain ⟨found, hfound, hfoundChanged⟩ := h.last q hlast
      rw [hreleased.last q found hlast hfound, hfound]
      refine iff_of_false (fun heq => ?_) fun heq => ?_
      · split_ifs at heq
        cases heq
        exact hchanged hfoundChanged
      · cases heq
        exact hchanged hfoundChanged
    · rw [hreleased.others q hlast]
  brickd := by rw [hreleased.same]
  crashed hcrashed := by
    rw [hreleased.same]
    exact hcrashed

-- The last process is gone with its last reference, all others stay.
theorem Released.callbacks {result : Daemon × List Effect} (h : c.Good p)
    (hreleased : Released c result) :
    (∀ q process, result.1.processes.get q = some process → process.stateChanged ≠ some p) ↔
      Unheld p c.program c.daemon := by
  constructor
  · intro hnone q process hprocess hchanged
    by_cases hlast : c.program.scheduler.lastSpawnedProcess = some q
    · by_cases hunheld : process.internalReferenceCount = 1 ∧ process.externalReferenceCount = 0
      · exact ⟨hlast, hunheld⟩
      · have hleft := hreleased.last q process hlast hprocess
        rw [if_neg hunheld] at hleft
        have hleftChanged := hnone q _ hleft
        exact absurd hchanged hleftChanged
    · exact absurd hchanged (hnone q process ((hreleased.others q hlast).trans hprocess))
  · intro hunheld q process hprocess hchanged
    by_cases hlast : c.program.scheduler.lastSpawnedProcess = some q
    · obtain ⟨found, hfound, hfoundChanged⟩ := h.last q hlast
      obtain ⟨-, hcounts⟩ := hunheld q found hfound hfoundChanged
      rw [hreleased.last q found hlast hfound, if_pos hcounts] at hprocess
      cases hprocess
    · rw [hreleased.others q hlast] at hprocess
      exact hlast (hunheld q process hprocess hchanged).1

theorem destroy_destroyed (h : c.Good p) : Destroyed p c (programSchedulerDestroy p c) := by
  have hdone := shutdown_shutDown h
  have hgood := hdone.handled.good
  have hreleased : Released (programSchedulerShutdown p c)
      (releaseLastProcess (programSchedulerShutdown p c)) :=
    releaseLastProcess_released fun q hq => by
      obtain ⟨found, hfound, -⟩ := hgood.last q hq
      exact ⟨found, hfound⟩
  obtain ⟨files, hfiles⟩ := hreleased.files
  have hlogs : Logs p c.log (releaseLastProcess (programSchedulerShutdown p c)).2 := by
    rw [hfiles]
    exact hdone.handled.logs.append (releaseFiles_allowed files)
  have hstarts : starts (releaseLastProcess (programSchedulerShutdown p c)).2 = starts c.log := by
    rw [hfiles, releaseFiles_starts, hdone.starts]
  have hinactive : (programSchedulerShutdown p c).program.scheduler.cronActive = false := by
    by_contra hactive
    have hrunning := hgood.cron (by simpa using hactive)
    rw [hdone.inert.stopped] at hrunning
    cases hrunning
  have hcallbacks := hreleased.callbacks hgood
  unfold programSchedulerDestroy
  refine
    { frame := hdone.handled.frame.trans (hreleased.frame hgood), logs := ?_, starts := ?_,
      observers := ?_, entries := ?_, process := ?_, callbacks := ?_ }
  · dsimp only
    cases (programSchedulerShutdown p c).program.scheduler.message with
    | none => exact hlogs
    | some message => exact hlogs.cons (Effect.allowed_of_none rfl trivial)
  · dsimp only
    cases (programSchedulerShutdown p c).program.scheduler.message with
    | none => exact hstarts
    | some message => exact (starts_cons_of_not rfl _).trans hstarts
  · unfold Daemon.observers
    dsimp only
    rw [hreleased.same]
    refine hgood.observers.trans (if_neg ?_)
    rw [hdone.inert.finished]
    nofun
  · dsimp only
    rw [hreleased.same]
    have hcount := hgood.entry
    rw [hinactive, if_neg (by nofun), List.countP_eq_zero] at hcount
    intro entry hentry hnotify
    exact hcount entry hentry (decide_eq_true hnotify)
  · intro q process hprocess hchanged
    change (releaseLastProcess (programSchedulerShutdown p c)).1.processes.get q = some process
      at hprocess
    rw [← hdone.last]
    by_cases hlast : (programSchedulerShutdown p c).program.scheduler.lastSpawnedProcess = some q
    · obtain ⟨found, hfound, hfoundChanged⟩ := hgood.last q hlast
      rw [hreleased.last q found hlast hfound] at hprocess
      split_ifs at hprocess
      cases hprocess
      obtain ⟨-, hrelease, hcount⟩ := hgood.process q found hfound hfoundChanged
      refine ⟨fun _ => hlast, hrelease, ?_⟩
      rw [if_pos hlast] at hcount
      change found.listed ≤ found.internalReferenceCount - 1
      omega
    · have hbefore := (hreleased.others q hlast).symm.trans hprocess
      obtain ⟨halive, hrelease, hcount⟩ := hgood.process q process hbefore hchanged
      exact ⟨halive, hrelease, by omega⟩
  · refine hcallbacks.trans ?_
    unfold Unheld
    rw [hdone.last, hdone.processes]

end Destroy

end RedApid.Scheduling

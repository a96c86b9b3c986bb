import RedApid.Scheduler.Live

namespace RedApid.Scheduling

open Memory

variable {p : ProgramRef} {c : Context}

section Triggers

-- A death takes the trigger away from ALWAYS only.
theorem handleDeath_moves (h : c.Good p) (hrunning : c.program.scheduler.state = .running)
    (hlive : c.program.config.startMode ≠ .always → c.Live) (process : Process) :
    Moves p c (handleDeath p process c) ∧ (handleDeath p process c).Lives := by
  unfold handleDeath
  by_cases hgoesOn : (process.state = .exited ∧ process.exitCode = 0) ∨
      c.program.config.continueAfterError = true
  · rw [if_pos hgoesOn]
    by_cases halways : c.program.config.startMode = .always
    · rw [if_pos halways]
      obtain ⟨hmoves, hend⟩ := startTimer_moves h hrunning 1000000 0
      refine ⟨hmoves, fun _ => ?_⟩
      rcases hend with hstopped | ⟨hscheduler, -⟩
      · exact Live.of_stopped hstopped
      · intro _
        have hconfig : (startTimer p 1000000 0 c).program.config = c.program.config := by
          rw [hmoves.program]
        rw [hconfig, halways]
        refine Or.inr ?_
        rw [hscheduler, halways]
        rfl
    · rw [if_neg halways]
      exact ⟨Moves.refl h, fun _ => hlive halways⟩
  · rw [if_neg hgoesOn]
    exact ⟨stop_moves h none, fun _ => Live.of_stopped (stop_state none)⟩

theorem handleProcessStateChange_moves (h : c.Good p)
    (hlive : c.program.config.startMode ≠ .always → c.Live) :
    Moves p c (programSchedulerHandleProcessStateChange p c) ∧
      (programSchedulerHandleProcessStateChange p c).Lives := by
  unfold programSchedulerHandleProcessStateChange
  by_cases hstate : c.program.scheduler.state ≠ .running
  · rw [if_pos hstate]
    exact ⟨Moves.refl h, fun _ hrunning => absurd hrunning hstate⟩
  have hrunning : c.program.scheduler.state = .running := by simpa using hstate
  rw [if_neg hstate]
  cases hlast : c.program.scheduler.lastSpawnedProcess.bind c.daemon.processes.get with
  | none =>
      refine ⟨crash_moves h, fun hcrashed => ?_⟩
      cases hcrashed
  | some process =>
      by_cases halive : process.state.isAlive = true
      · simp only [if_pos halive]
        refine ⟨Moves.refl h, fun _ => ?_⟩
        by_cases halways : c.program.config.startMode = .always
        · intro _
          rw [halways]
          refine Or.inl ?_
          obtain ⟨q, hq, hprocess⟩ := Option.bind_eq_some_iff.mp hlast
          rw [hq, Option.any_some, Daemon.isAlive, hprocess]
          exact halive
        · exact hlive halways
      · simp only [if_neg halive]
        exact handleDeath_moves h hrunning hlive process

-- The timer may just have lost its arming, which only ALWAYS does not get back.
theorem handleTimer_moves (h : c.Good p)
    (hlive : c.program.config.startMode ≠ .always → c.Live) :
    Moves p c (programSchedulerHandleTimer p c) ∧ (programSchedulerHandleTimer p c).Lives := by
  unfold programSchedulerHandleTimer
  by_cases hrunning : c.program.scheduler.state = .running
  · rw [if_pos hrunning]
    by_cases hmode : c.program.config.startMode = .always ∨ c.program.config.startMode = .interval
    · rw [if_pos hmode]
      exact ⟨(spawnProcess_moves h).1, spawnProcess_lives h hlive⟩
    · rw [if_neg hmode]
      exact ⟨Moves.refl h, fun _ => hlive fun halways => hmode (Or.inl halways)⟩
  · rw [if_neg hrunning]
    exact ⟨Moves.refl h, fun _ hstate => absurd hstate hrunning⟩

theorem handleCron_moves (h : c.Good p) (hlive : c.Live) :
    Moves p c (programSchedulerHandleCron p c) ∧ (programSchedulerHandleCron p c).Lives := by
  unfold programSchedulerHandleCron
  by_cases hrunning : c.program.scheduler.state = .running ∧ c.program.config.startMode = .cron
  · rw [if_pos hrunning]
    exact ⟨(spawnProcess_moves h).1, spawnProcess_lives h fun _ => hlive⟩
  · rw [if_neg hrunning]
    exact ⟨Moves.refl h, fun _ => hlive⟩

theorem informObserver_moves (h : c.Good p) (hlive : c.Live) :
    Moves p c (informObserver p c) ∧ (informObserver p c).Lives := by
  have hrecord : Moves p c (c.record (.observer p)) :=
    record_moves h (Effect.allowed_of_some rfl trivial)
  unfold informObserver programSchedulerHandleObserver
  by_cases hwaiting : (c.record (.observer p)).program.scheduler.observerState = .waiting
  · rw [if_pos hwaiting]
    have habort := abortObserver_moves hrecord.good
    obtain ⟨hstart, hlives⟩ := start_moves habort.good
    exact ⟨(hrecord.trans habort).trans hstart, hlives⟩
  · rw [if_neg hwaiting]
    exact ⟨hrecord, fun _ => hlive⟩

end Triggers

section Observers

-- The observer is added at the end, and informed if there is nothing left to wait for.
inductive AddCases (p : ProgramRef) (c : Context) : Bool × Context → Prop
  | failed {c' : Context} (quiet : Quiet c c') : AddCases p c (false, c')
  | added {c' : Context} (observation : ProcessObservation) (quiet : Quiet c c')
      (observers : observation.observers = c.daemon.observers ++ [p]) :
      AddCases p c (true, c'.setObservation observation)
  | informed {c' : Context} (observation : ProcessObservation) (quiet : Quiet c c')
      (observers : observation.observers = c.daemon.observers ++ [p]) :
      AddCases p c (true, informObserver p (c'.setObservation observation))

theorem joinObservation_cases {observation : ProcessObservation}
    (hobservation : c.daemon.observation = some observation) :
    AddCases p c (joinObservation p observation c) := by
  have hobservers : observation.observers = c.daemon.observers := by
    unfold Daemon.observers
    rw [hobservation]
    rfl
  have hnew : observation.observers ++ [p] = c.daemon.observers ++ [p] := by rw [hobservers]
  unfold joinObservation Context.call
  cases c.outcomes.calls.headD none with
  | some _ => exact .failed call_quiet
  | none =>
      by_cases hwaiting : observation.waiting = true
      · simp only [if_pos hwaiting]
        exact .added { observation with observers := observation.observers ++ [p] } call_quiet hnew
      · simp only [if_neg hwaiting]
        exact .informed { observation with observers := observation.observers ++ [p] } call_quiet
          hnew

theorem newObservation_cases (hobservation : c.daemon.observation = none) (timeout : Nat) :
    AddCases p c (newObservation p timeout c) := by
  have hobservers : [p] = c.daemon.observers ++ [p] := by
    unfold Daemon.observers
    rw [hobservation]
    rfl
  have hsearch : Quiet c c.search.2 := ⟨rfl, rfl, rfl⟩
  have hresult : c.search = (c.outcomes.searches.headD .notFound, c.search.2) := rfl
  unfold newObservation
  rw [hresult]
  cases c.outcomes.searches.headD .notFound with
  | error => exact .failed hsearch
  | notFound =>
      have hquiet := hsearch.trans (firstFailure_quiet 6)
      dsimp only
      generalize firstFailure 6 c.search.2 = result at hquiet
      obtain ⟨code, c₁⟩ := result
      cases code with
      | some code => exact .failed hquiet
      | none => exact .added ⟨timeout, true, [p]⟩ hquiet hobservers
  | found =>
      have hquiet := hsearch.trans (firstFailure_quiet 4)
      dsimp only
      generalize firstFailure 4 c.search.2 = result at hquiet
      obtain ⟨code, c₁⟩ := result
      cases code with
      | some code => exact .failed hquiet
      | none => exact .informed ⟨0, false, [p]⟩ hquiet hobservers

theorem addObserver_cases (timeout : Nat) :
    AddCases p c (processMonitorAddObserver p timeout c) := by
  unfold processMonitorAddObserver
  cases hobservation : c.daemon.observation with
  | some observation => exact joinObservation_cases hobservation
  | none => exact newObservation_cases hobservation timeout

-- A waiting observer that is in the list of its observation.
theorem setObservation_moves {c₁ : Context} (h : c.Good p)
    (hpending : c.program.scheduler.observerState = .pending)
    (hprogram : c₁.program = { c.program with scheduler :=
      { c.program.scheduler with observerState := .waiting } })
    (hdaemon : c₁.daemon = c.daemon) (hlog : c₁.log = c.log) (observation : ProcessObservation)
    (hobservers : observation.observers = c.daemon.observers ++ [p]) :
    Moves p c (c₁.setObservation observation) := by
  obtain ⟨hstopped, hshutdown⟩ := h.pending (by rw [hpending]; nofun)
  have hcount : c.daemon.observers.count p = 0 := by
    rw [h.observers, hpending]
    rfl
  have hnew : ({ c.daemon with observation := some observation } : Daemon).observers =
      c.daemon.observers ++ [p] := hobservers
  refine
    { good := ?_, program := ?_, brickd := ?_, shutdown := ?_, frame := ?_, logs := ?_ }
  · unfold Context.Good Context.setObservation
    rw [hprogram, hdaemon, hlog]
    exact
      { h with
        pending := fun _ => ⟨hstopped, hshutdown⟩
        observers := by
          rw [hnew, List.count_append, hcount, List.count_singleton_self]
          rfl }
  · change c₁.program = { c.program with scheduler := c₁.program.scheduler }
    rw [hprogram]
  · refine Or.inl ?_
    change c₁.program.scheduler.waitingForBrickd = _
    rw [hprogram]
  · change c₁.program.scheduler.shutdown = _
    rw [hprogram]
  · change Frame p c.daemon { c₁.daemon with observation := some observation }
    rw [hdaemon]
    exact
      { Frame.refl c.daemon with
        observers := fun other hother => by
          rw [hnew, List.count_append, List.count_singleton, if_neg, Nat.add_zero]
          simpa using Ne.symm hother }
  · change Logs p c.log c₁.log
    rw [hlog]
    exact Logs.refl _

-- An observer that could not be added has finished.
theorem finishObserver_moves {c₁ : Context} (h : c.Good p)
    (hpending : c.program.scheduler.observerState = .pending)
    (hprogram : c₁.program = { c.program with scheduler :=
      { c.program.scheduler with observerState := .waiting } })
    (hdaemon : c₁.daemon = c.daemon) (hlog : c₁.log = c.log) :
    Moves p c (c₁.setScheduler { c₁.program.scheduler with observerState := .finished }) ∧
      (c₁.setScheduler
        { c₁.program.scheduler with observerState := .finished }).program.scheduler =
          { c.program.scheduler with observerState := .finished } := by
  have hscheduler : (c₁.setScheduler
      { c₁.program.scheduler with observerState := .finished }).program =
      (programSchedulerAbortObserver p c).program := by
    unfold Context.setScheduler
    rw [hprogram]
    rfl
  have habort : (programSchedulerAbortObserver p c).daemon = c.daemon :=
    if_neg (by rw [hpending]; nofun)
  have hmoves := abortObserver_moves h
  refine ⟨?_, by rw [hscheduler]; rfl⟩
  refine
    { good := ?_, program := ?_, brickd := ?_, shutdown := ?_, frame := ?_, logs := ?_ }
  · unfold Context.Good
    rw [hscheduler]
    change Base p _ c₁.daemon c₁.log
    rw [hdaemon, hlog, ← habort]
    exact hmoves.good
  · rw [hscheduler]
    exact hmoves.program
  · rw [hscheduler]
    exact hmoves.brickd
  · rw [hscheduler]
    exact hmoves.shutdown
  · change Frame p c.daemon c₁.daemon
    rw [hdaemon]
    exact Frame.refl _
  · change Logs p c.log c₁.log
    rw [hlog]
    exact Logs.refl _

theorem observeLxpanel_moves (h : c.Good p) (hlive : c.Live) :
    Moves p c (observeLxpanel p c) ∧ (observeLxpanel p c).Lives := by
  unfold observeLxpanel
  by_cases hpending : c.program.scheduler.observerState = .pending
  · rw [if_pos hpending]
    have hstopped := (h.pending (by rw [hpending]; nofun)).1
    have hcases := addObserver_cases (p := p) 30
      (c := c.setScheduler { c.program.scheduler with observerState := .waiting })
    -- an observer that was added
    have hadded : ∀ c₁ observation,
        Quiet (c.setScheduler { c.program.scheduler with observerState := .waiting }) c₁ →
        observation.observers = c.daemon.observers ++ [p] →
        Moves p c (c₁.setObservation observation) ∧ (c₁.setObservation observation).Live := by
      intro c₁ observation hquiet hobservers
      refine ⟨setObservation_moves h hpending hquiet.1 hquiet.2.1 hquiet.2.2 _ hobservers, ?_⟩
      refine Live.of_stopped ?_
      change c₁.program.scheduler.state = .stopped
      rw [hquiet.1]
      exact hstopped
    dsimp only
    generalize processMonitorAddObserver p 30
      (c.setScheduler { c.program.scheduler with observerState := .waiting }) = result at hcases
    cases hcases with
    | failed hquiet =>
        obtain ⟨hmoves, hscheduler⟩ :=
          finishObserver_moves h hpending hquiet.1 hquiet.2.1 hquiet.2.2
        refine ⟨hmoves, fun _ => Live.of_stopped ?_⟩
        rw [hscheduler]
        exact hstopped
    | added observation hquiet hobservers =>
        obtain ⟨hmoves, hlive⟩ := hadded _ observation hquiet hobservers
        exact ⟨hmoves, fun _ => hlive⟩
    | informed observation hquiet hobservers =>
        obtain ⟨hmoves, hlive⟩ := hadded _ observation hquiet hobservers
        obtain ⟨hinform, hlives⟩ := informObserver_moves hmoves.good hlive
        exact ⟨hmoves.trans hinform, hlives⟩
  · rw [if_neg hpending]
    exact ⟨Moves.refl h, fun _ => hlive⟩

end Observers

section Filesystem

-- A failing call stops the scheduler, all others leave no trace.
inductive CallsCases (p : ProgramRef) (c : Context) : Option APIError × Context → Prop
  | failed {c' : Context} (code : APIError) (moves : Moves p c c')
      (stopped : c'.program.scheduler.state = .stopped) (starts : starts c'.log = starts c.log) :
      CallsCases p c (some code, c')
  | passed {c' : Context} (quiet : Quiet c c') : CallsCases p c (none, c')

theorem CallsCases.of_quiet {c' : Context} {result : Option APIError × Context}
    (h : CallsCases p c' result) (hquiet : Quiet c c') (hgood : c.Good p) :
    CallsCases p c result := by
  cases h with
  | failed code hmoves hstopped hstarts =>
      exact .failed code ((hquiet.moves hgood).trans hmoves) hstopped (hquiet.2.2 ▸ hstarts)
  | passed hquiet' => exact .passed (hquiet.trans hquiet')

theorem runFilesystemCalls_cases (h : c.Good p)
    (calls : List (Option ProgramStdioRedirection × String)) :
    CallsCases p c (runFilesystemCalls p calls c) := by
  induction calls generalizing c with
  | nil => exact .passed ⟨rfl, rfl, rfl⟩
  | cons call calls ih =>
      obtain ⟨redirection, format⟩ := call
      unfold runFilesystemCalls
      by_cases hfile : redirection.getD .file = .file
      · rw [if_pos hfile]
        have hgood : c.call.2.Good p := (call_quiet.moves h).good
        have hnext := (ih hgood).of_quiet call_quiet h
        have hcall : c.call = (c.outcomes.calls.headD none, c.call.2) := rfl
        rw [hcall]
        cases c.outcomes.calls.headD none with
        | some code =>
            exact .failed code ((call_quiet.moves h).trans (handleError_moves hgood _ _))
              (handleError_state _ _) (handleError_starts _ _)
        | none => exact hnext
      · rw [if_neg hfile]
        exact ih h

-- `missed` is a failure of directory_create for stderr.
inductive FilesystemCases (p : ProgramRef) (c : Context) : Option APIError × Context → Prop
  | failed {c' : Context} (code : APIError) (moves : Moves p c c')
      (stopped : c'.program.scheduler.state = .stopped) (starts : starts c'.log = starts c.log) :
      FilesystemCases p c (some code, c')
  | missed {c' : Context} (moves : Moves p c c')
      (stopped : c'.program.scheduler.state = .stopped) (starts : starts c'.log = starts c.log) :
      FilesystemCases p c (none, c')
  | stored {c' : Context}
      (program : c'.program = { c.program with scheduler := storeAbsoluteNames c.program })
      (daemon : c'.daemon = c.daemon) (log : c'.log = c.log) : FilesystemCases p c (none, c')

theorem prepareFilesystem_cases (h : c.Good p) :
    FilesystemCases p c (programSchedulerPrepareFilesystem p c) := by
  have hcalls := runFilesystemCalls_cases h (filesystemCalls c.program.config)
  unfold programSchedulerPrepareFilesystem
  generalize runFilesystemCalls p (filesystemCalls c.program.config) c = result at hcalls
  cases hcalls with
  | failed code hmoves hstopped hstarts => exact .failed code hmoves hstopped hstarts
  | @passed c₁ hquiet =>
      have hstored : ∀ c₂, Quiet c c₂ → FilesystemCases p c
          (none, c₂.setScheduler (storeAbsoluteNames c₂.program)) := fun c₂ hquiet => by
        refine .stored ?_ hquiet.2.1 hquiet.2.2
        unfold Context.setScheduler
        rw [hquiet.1]
      by_cases hfile : c₁.program.config.stderrRedirection = .file
      · simp only [if_pos hfile]
        have hcall := hquiet.trans (@call_quiet c₁)
        have hresult : c₁.call = (c₁.outcomes.calls.headD none, c₁.call.2) := rfl
        rw [hresult]
        cases c₁.outcomes.calls.headD none with
        | some code =>
            have hmoves := hcall.moves h
            exact .missed (hmoves.trans (handleError_moves hmoves.good _ _))
              (handleError_state _ _) ((handleError_starts _ _).trans (congrArg starts hcall.2.2))
        | none => exact hstored _ hcall
      · simp only [if_neg hfile]
        exact hstored _ hquiet

theorem storeAbsoluteNames_moves {c' : Context} (h : c.Good p)
    (hprogram : c'.program = { c.program with scheduler := storeAbsoluteNames c.program })
    (hdaemon : c'.daemon = c.daemon) (hlog : c'.log = c.log) : Moves p c c' where
  good := by
    unfold Context.Good
    rw [hprogram, hdaemon, hlog]
    exact { h with }
  program := by rw [hprogram]
  brickd := Or.inl (by rw [hprogram]; rfl)
  shutdown := by rw [hprogram]; rfl
  frame := by rw [hdaemon]; exact Frame.refl _
  logs := by rw [hlog]; exact Logs.refl _

end Filesystem

section Update

theorem tryStart_moves (h : c.Good p)
    (hlive : c.program.scheduler.waitingForBrickd = true → c.Live) :
    Moves p c (programSchedulerTryStart p c) ∧ (programSchedulerTryStart p c).Lives := by
  unfold programSchedulerTryStart
  by_cases hnever : c.program.config.startMode = .never
  · rw [if_pos hnever]
    exact ⟨stop_moves h _, fun _ => Live.of_stopped (stop_state _)⟩
  rw [if_neg hnever]
  -- what follows the attempt to add an observer
  have hafter : ∀ c₁, Moves p c c₁ → (c₁.program.scheduler.observerState = .finished →
      c₁.program.scheduler.waitingForBrickd = true → c₁.Lives) →
      (c₁.program.scheduler.observerState ≠ .finished → c₁.Lives) →
      Moves p c (if c₁.daemon.crashed then c₁
        else if c₁.program.scheduler.observerState = .finished ∧
          ¬c₁.program.scheduler.waitingForBrickd then programSchedulerStart p c₁ else c₁) ∧
      (if c₁.daemon.crashed then c₁
        else if c₁.program.scheduler.observerState = .finished ∧
          ¬c₁.program.scheduler.waitingForBrickd then programSchedulerStart p c₁ else c₁).Lives := by
    intro c₁ hmoves hwaits hobserves
    by_cases hcrashed : c₁.daemon.crashed = true
    · rw [if_pos hcrashed]
      refine ⟨hmoves, fun hfalse => ?_⟩
      rw [hcrashed] at hfalse
      cases hfalse
    rw [if_neg hcrashed]
    by_cases hstart : c₁.program.scheduler.observerState = .finished ∧
        ¬c₁.program.scheduler.waitingForBrickd
    · rw [if_pos hstart]
      obtain ⟨hstarted, hlives⟩ := start_moves hmoves.good
      exact ⟨hmoves.trans hstarted, hlives⟩
    · rw [if_neg hstart]
      refine ⟨hmoves, ?_⟩
      by_cases hfinished : c₁.program.scheduler.observerState = .finished
      · refine hwaits hfinished ?_
        by_contra hwaiting
        exact hstart ⟨hfinished, hwaiting⟩
      · exact hobserves hfinished
  by_cases hpending : c.program.scheduler.observerState = .pending
  · obtain ⟨hmoves, hlives⟩ := observeLxpanel_moves h
      (Live.of_stopped (h.pending (by rw [hpending]; nofun)).1)
    exact hafter _ hmoves (fun _ _ => hlives) fun _ => hlives
  · have hsame : observeLxpanel p c = c := if_neg hpending
    rw [hsame]
    exact hafter c (Moves.refl h) (fun _ hwaiting _ => hlive hwaiting) fun hobserves _ =>
      Live.of_stopped (h.pending hobserves).1

theorem checkBrickd_moves (h : c.Good p) : Moves p c (checkBrickd c) := by
  unfold checkBrickd
  by_cases hconnected : c.program.scheduler.waitingForBrickd = true ∧
      c.daemon.brickdConnected = true
  · rw [if_pos hconnected]
    exact
      { good := { h with }
        program := rfl
        brickd := Or.inr ⟨hconnected.2, rfl⟩
        shutdown := rfl
        frame := Frame.refl _
        logs := Logs.refl _ }
  · rw [if_neg hconnected]
    exact Moves.refl h

-- The update of a program that does not wait for the Brick Daemon revives its scheduler.
theorem update_moves (h : c.Good p) (tryStart : Bool)
    (hlive : tryStart = false ∨ (c.program.scheduler.waitingForBrickd = true ∧
      c.daemon.brickdConnected = false) → c.Live) :
    Moves p c (programSchedulerUpdate p tryStart c) ∧
      (programSchedulerUpdate p tryStart c).Lives := by
  unfold programSchedulerUpdate
  by_cases hshutdown : c.program.scheduler.shutdown = true
  · rw [if_pos hshutdown]
    exact ⟨Moves.refl h, fun _ => Live.of_stopped (h.shutdown hshutdown)⟩
  rw [if_neg hshutdown]
  have hcheck := checkBrickd_moves h
  have hkept : c.Live → (checkBrickd c).Live := by
    intro hlive
    unfold checkBrickd
    split_ifs
    · exact hlive
    · exact hlive
  have hwaits : (checkBrickd c).program.scheduler.waitingForBrickd = true →
      c.program.scheduler.waitingForBrickd = true ∧ c.daemon.brickdConnected = false := by
    unfold checkBrickd
    by_cases hconnected : c.program.scheduler.waitingForBrickd = true ∧
        c.daemon.brickdConnected = true
    · rw [if_pos hconnected]
      nofun
    · rw [if_neg hconnected]
      intro hwaiting
      refine ⟨hwaiting, ?_⟩
      simpa [hwaiting] using hconnected
  have hcases := prepareFilesystem_cases hcheck.good
  generalize programSchedulerPrepareFilesystem p (checkBrickd c) = result at hcases
  cases hcases with
  | failed code hmoves hstopped _ =>
      exact ⟨hcheck.trans hmoves, fun _ => Live.of_stopped hstopped⟩
  | missed hmoves hstopped _ =>
      cases tryStart with
      | false => exact ⟨hcheck.trans hmoves, fun _ => Live.of_stopped hstopped⟩
      | true =>
          obtain ⟨hstart, hlives⟩ := tryStart_moves hmoves.good fun _ => Live.of_stopped hstopped
          exact ⟨(hcheck.trans hmoves).trans hstart, hlives⟩
  | @stored c₁ hprogram hdaemon hlog =>
      have hmoves := storeAbsoluteNames_moves hcheck.good hprogram hdaemon hlog
      have hlive₁ : (checkBrickd c).Live → c₁.Live := by
        unfold Context.Live
        rw [hprogram, hdaemon]
        exact id
      cases tryStart with
      | false => exact ⟨hcheck.trans hmoves, fun _ => hlive₁ (hkept (hlive (Or.inl rfl)))⟩
      | true =>
          obtain ⟨hstart, hlives⟩ := tryStart_moves hmoves.good fun hwaiting =>
            hlive₁ (hkept (hlive (Or.inr (hwaits (hmoves.waiting hwaiting)))))
          exact ⟨(hcheck.trans hmoves).trans hstart, hlives⟩

-- While a Brick Daemon is connected, only a scheduler that was shut down keeps waiting for it.
theorem update_announced (h : c.Good p) (tryStart : Bool)
    (hconnected : c.daemon.brickdConnected = true)
    (hwaiting : (programSchedulerUpdate p tryStart c).program.scheduler.waitingForBrickd = true) :
    (programSchedulerUpdate p tryStart c).program.scheduler.shutdown = true := by
  unfold programSchedulerUpdate at hwaiting ⊢
  by_cases hshutdown : c.program.scheduler.shutdown = true
  · rw [if_pos hshutdown]
    exact hshutdown
  rw [if_neg hshutdown] at hwaiting
  have hcheck := checkBrickd_moves h
  have hannounced : (checkBrickd c).program.scheduler.waitingForBrickd = false := by
    unfold checkBrickd
    by_cases hwaits : c.program.scheduler.waitingForBrickd = true
    · rw [if_pos ⟨hwaits, hconnected⟩]
      rfl
    · rw [if_neg fun hboth => hwaits hboth.1]
      simpa using hwaits
  have hno : ∀ c', Moves p (checkBrickd c) c' →
      c'.program.scheduler.waitingForBrickd = true → False := by
    intro c' hmoves hwaits
    have hbefore := hmoves.waiting hwaits
    rw [hannounced] at hbefore
    cases hbefore
  have hcases := prepareFilesystem_cases hcheck.good
  generalize programSchedulerPrepareFilesystem p (checkBrickd c) = result at hcases hwaiting
  cases hcases with
  | failed code hmoves hstopped _ => exact (hno _ hmoves hwaiting).elim
  | missed hmoves hstopped _ =>
      cases tryStart with
      | false => exact (hno _ hmoves hwaiting).elim
      | true =>
          have hstart := (tryStart_moves hmoves.good fun _ => Live.of_stopped hstopped).1
          exact (hno _ (hmoves.trans hstart) hwaiting).elim
  | @stored c₁ hprogram hdaemon hlog =>
      have hmoves := storeAbsoluteNames_moves hcheck.good hprogram hdaemon hlog
      cases tryStart with
      | false => exact (hno _ hmoves hwaiting).elim
      | true =>
          have hstart := (tryStart_moves hmoves.good fun hwaits =>
            (hno _ hmoves hwaits).elim).1
          exact (hno _ (hmoves.trans hstart) hwaiting).elim

theorem continue_moves (h : c.Good p) (hlive : c.Live) :
    Moves p c (programSchedulerContinue p c) ∧ (programSchedulerContinue p c).Lives := by
  unfold programSchedulerContinue
  split_ifs
  · exact ⟨Moves.refl h, fun _ => hlive⟩
  · exact start_moves h
  · exact ⟨Moves.refl h, fun _ => hlive⟩

end Update

end RedApid.Scheduling

import RedApid.Scheduler.Moves

namespace RedApid.Scheduling

open Memory

variable {p : ProgramRef} {c : Context}

-- The trigger of the start mode of a running scheduler. An interval of zero disarms the timer.
def Live (program : Program) (daemon : Daemon) : Prop :=
  program.scheduler.state = .running →
    match program.config.startMode with
    | .never => False
    | .always => program.scheduler.lastSpawnedProcess.any daemon.isAlive = true ∨
        program.scheduler.timer = some ⟨false, .always⟩
    | .interval => program.scheduler.timer =
        if program.config.startInterval = 0 then none else some ⟨true, .interval⟩
    | .cron => program.scheduler.cronActive = true

theorem Live.congr {program other : Program} {daemon daemon' : Daemon}
    (h : Live program daemon) (hscheduler : other.scheduler = program.scheduler)
    (hmode : other.config.startMode = program.config.startMode)
    (hinterval : other.config.startInterval = program.config.startInterval)
    (hdaemon : daemon' = daemon) : Live other daemon' := by
  unfold Live
  rw [hscheduler, hmode, hinterval, hdaemon]
  exact h

def Context.Live (c : Context) : Prop := Scheduling.Live c.program c.daemon

-- At the end of a handler that did not crash.
def Context.Lives (c : Context) : Prop := c.daemon.crashed = false → c.Live

theorem Live.of_stopped {program : Program} {daemon : Daemon}
    (h : program.scheduler.state = .stopped) : Live program daemon := by
  intro hrunning
  rw [h] at hrunning
  cases hrunning

theorem Kept.live {c' : Context} (h : Kept c c') (hmoves : Moves p c c')
    (hlive : c.program.config.startMode ≠ .always → c.Live) : c'.Live := by
  obtain ⟨last, hscheduler⟩ := h.scheduler
  have hconfig : c'.program.config = c.program.config := by rw [hmoves.program]
  intro hrunning
  rw [hscheduler] at hrunning
  cases hmode : c.program.config.startMode with
  | never =>
      have hfalse := hlive (by rw [hmode]; nofun) hrunning
      rw [hmode] at hfalse
      exact hfalse.elim
  | always =>
      rw [hconfig, hmode]
      exact Or.inl h.alive
  | interval =>
      have htimer := hlive (by rw [hmode]; nofun) hrunning
      rw [hmode] at htimer
      rw [hconfig, hmode, hscheduler]
      exact htimer
  | cron =>
      have hcron := hlive (by rw [hmode]; nofun) hrunning
      rw [hmode] at hcron
      rw [hconfig, hmode, hscheduler]
      exact hcron

theorem spawnProcess_lives (h : c.Good p)
    (hlive : c.program.config.startMode ≠ .always → c.Live) :
    (programSchedulerSpawnProcess p c).Lives := by
  intro hcrashed
  obtain ⟨hmoves, hend⟩ := spawnProcess_moves h
  rcases hend with hstopped | htrue | hkept
  · exact Live.of_stopped hstopped
  · rw [hcrashed] at htrue
    cases htrue
  · exact hkept.live hmoves hlive

section Timer

-- What the timer is armed with.
def armingOf (delay interval : Nat) (mode : ProgramStartMode) : Option Arming :=
  if delay = 0 ∧ interval = 0 then none else some ⟨interval ≠ 0, mode⟩

theorem startTimer_moves (h : c.Good p) (hrunning : c.program.scheduler.state = .running)
    (delay interval : Nat) :
    Moves p c (startTimer p delay interval c) ∧
      ((startTimer p delay interval c).program.scheduler.state = .stopped ∨
        (startTimer p delay interval c).program.scheduler =
          { c.program.scheduler with
            timer := armingOf delay interval c.program.config.startMode, timerActive := true } ∧
        (startTimer p delay interval c).daemon = c.daemon) := by
  have hset : ∀ (timer : Option Arming) (outcomes : Outcomes),
      Moves p c { c.setScheduler { c.program.scheduler with timer, timerActive := true } with
        outcomes } := fun timer outcomes =>
    { good :=
        { h with
          timer := fun _ => rfl
          inert := fun hstopped => by
            change c.program.scheduler.state = .stopped at hstopped
            rw [hrunning] at hstopped
            cases hstopped }
      program := rfl
      brickd := Or.inl rfl
      shutdown := rfl
      frame := Frame.refl _
      logs := Logs.refl _ }
  unfold startTimer timerConfigure armingOf
  by_cases hzero : delay = 0 ∧ interval = 0
  · rw [if_pos hzero, if_pos hzero]
    unfold Context.timerStop
    cases c.outcomes.timerStops.headD none with
    | some code =>
        have hfailed : Moves p c (c.timerStop.2.record (.timerStopFailed p)) :=
          Moves.of_quiet h rfl rfl ((Logs.refl _).cons (Effect.allowed_of_some rfl trivial))
        exact ⟨hfailed.trans (handleError_moves hfailed.good _ _), Or.inl (handleError_state _ _)⟩
    | none => exact ⟨hset none _, Or.inr ⟨rfl, rfl⟩⟩
  · rw [if_neg hzero, if_neg hzero]
    unfold Context.timerStart
    cases c.outcomes.timerStarts.headD none with
    | some code =>
        have hfailed : Moves p c c.timerStart.2 := Moves.of_quiet h rfl rfl (Logs.refl _)
        exact ⟨hfailed.trans (handleError_moves hfailed.good _ _), Or.inl (handleError_state _ _)⟩
    | none => exact ⟨hset _ _, Or.inr ⟨rfl, rfl⟩⟩

end Timer

section Cron

theorem cronUpdateEntry_of_same {entry : CronEntry} {entries : List CronEntry}
    (h : ∀ other ∈ entries, other.programId = entry.programId → other = entry) :
    cronUpdateEntry entry entries = entries := by
  induction entries with
  | nil => rfl
  | cons other entries ih =>
      unfold cronUpdateEntry
      by_cases hsame : other.programId = entry.programId
      · rw [if_pos hsame, h other List.mem_cons_self hsame]
      · rw [if_neg hsame, ih fun other hother => h other (List.mem_cons_of_mem _ hother)]

-- Calls of which only the outcomes matter.
def Quiet (c c' : Context) : Prop :=
  c'.program = c.program ∧ c'.daemon = c.daemon ∧ c'.log = c.log

theorem Quiet.moves {c' : Context} (h : Quiet c c') (hgood : c.Good p) : Moves p c c' :=
  Moves.of_quiet hgood h.1 h.2.1 (h.2.2 ▸ Logs.refl _)

theorem Quiet.trans {c' c'' : Context} (h : Quiet c c') (h' : Quiet c' c'') : Quiet c c'' :=
  ⟨h'.1.trans h.1, h'.2.1.trans h.2.1, h'.2.2.trans h.2.2⟩

theorem call_quiet : Quiet c c.call.2 := ⟨rfl, rfl, rfl⟩

theorem firstFailure_quiet (calls : Nat) : Quiet c (firstFailure calls c).2 := by
  induction calls generalizing c with
  | zero => exact ⟨rfl, rfl, rfl⟩
  | succ calls ih =>
      unfold firstFailure Context.call
      cases c.outcomes.calls.headD none with
      | some code => exact ⟨rfl, rfl, rfl⟩
      | none => exact call_quiet.trans ih

-- A new entry is only there after a success, an existing one stays as it is.
inductive CronCases (p : ProgramRef) (c : Context) : Option APIError × Context → Prop
  | failed {c' : Context} (code : APIError) (quiet : Quiet c c') : CronCases p c (some code, c')
  | updated {c' : Context} (quiet : Quiet c c')
      (active : c.program.scheduler.cronActive = true) : CronCases p c (none, c')
  | added {c' : Context} (program : c'.program = c.program) (log : c'.log = c.log)
      (daemon : c'.daemon =
        { c.daemon with entries := c.daemon.entries ++ [⟨c.program.id, p, .cron⟩] })
      (inactive : c.daemon.entries.countP (·.notify = p) = 0) : CronCases p c (none, c')

theorem cronAddEntry_cases (h : c.Good p) (hmode : c.program.config.startMode = .cron) :
    CronCases p c (cronAddEntry p c) := by
  have hformat := @firstFailure_quiet c 2
  unfold cronAddEntry
  generalize firstFailure 2 c = result at hformat
  obtain ⟨code, c₁⟩ := result
  cases code with
  | some code => exact .failed code hformat
  | none =>
  obtain ⟨hprogram, hdaemon, hlog⟩ := hformat
  simp only at hprogram hdaemon hlog
  simp only [hprogram, hdaemon, hmode]
  by_cases hexists : (c.daemon.entries.any fun other => other.programId = c.program.id) = true
  · -- the entry of the program is the same as the new one
    have hsame : cronUpdateEntry ⟨c.program.id, p, .cron⟩ c.daemon.entries = c.daemon.entries := by
      refine cronUpdateEntry_of_same fun other hother hid => ?_
      obtain ⟨hnotify, htag⟩ := h.entries other hother
      have hp := hnotify.mp hid
      have hcron := htag hp
      cases other
      simp only at hid hp hcron
      rw [hid, hp, hcron]
    have hactive : c.program.scheduler.cronActive = true := by
      by_contra hinactive
      obtain ⟨entry, hentry, hid⟩ := List.any_eq_true.mp hexists
      have hcount := h.entry
      rw [if_neg hinactive, List.countP_eq_zero] at hcount
      refine hcount entry hentry (decide_eq_true ?_)
      exact (h.entries entry hentry).1.mp (of_decide_eq_true hid)
    rw [if_pos hexists, hsame]
    have hstart : Quiet c { c₁ with program := c.program, daemon := c.daemon } := ⟨rfl, rfl, hlog⟩
    have hquiet := hstart.trans (firstFailure_quiet 4)
    change CronCases p c (firstFailure 4 { c₁ with program := c.program, daemon := c.daemon })
    generalize firstFailure 4 { c₁ with program := c.program, daemon := c.daemon } = result at hquiet
    obtain ⟨code, c'⟩ := result
    cases code with
    | some code => exact .failed code hquiet
    | none => exact .updated hquiet hactive
  · rw [if_neg hexists]
    have hinactive : c.daemon.entries.countP (·.notify = p) = 0 := by
      rw [List.countP_eq_zero]
      intro entry hentry hnotify
      refine hexists (List.any_eq_true.mpr ⟨entry, hentry, decide_eq_true ?_⟩)
      exact (h.entries entry hentry).1.mpr (of_decide_eq_true hnotify)
    have hquiet : Quiet c (firstFailure 5 c₁).2 :=
      Quiet.trans ⟨hprogram, hdaemon, hlog⟩ (firstFailure_quiet 5)
    generalize firstFailure 5 c₁ = result at hquiet
    obtain ⟨code, c'⟩ := result
    cases code with
    | some code => exact .failed code hquiet
    | none =>
        obtain ⟨hprogram', hdaemon', hlog'⟩ := hquiet
        simp only at hprogram' hdaemon' hlog'
        exact .added hprogram' hlog' (by simp only [hdaemon']) hinactive

theorem startCron_moves (h : c.Good p) (hrunning : c.program.scheduler.state = .running)
    (hmode : c.program.config.startMode = .cron) :
    Moves p c (startCron p c) ∧
      ((startCron p c).program.scheduler.state = .stopped ∨
        (startCron p c).program.scheduler = { c.program.scheduler with cronActive := true }) := by
  have hcases := cronAddEntry_cases h hmode
  unfold startCron
  generalize cronAddEntry p c = result at hcases
  cases hcases with
  | failed code hquiet =>
      have hmoves := hquiet.moves h
      exact ⟨hmoves.trans (handleError_moves hmoves.good _ _), Or.inl (handleError_state _ _)⟩
  | @updated c' hquiet hactive =>
      have hmoves := hquiet.moves h
      have hsame : c'.setScheduler { c'.program.scheduler with cronActive := true } = c' := by
        have hcron : c'.program.scheduler.cronActive = true := by rw [hquiet.1]; exact hactive
        unfold Context.setScheduler
        rw [← hcron]
      refine ⟨?_, Or.inr ?_⟩
      · change Moves p c (c'.setScheduler { c'.program.scheduler with cronActive := true })
        rw [hsame]
        exact hmoves
      · rw [← hquiet.1]
        rfl
  | @added c' hprogram hlog hdaemon hcount =>
      refine ⟨?_, Or.inr (by rw [← hprogram]; rfl)⟩
      have hscheduler : (c'.setScheduler
          { c'.program.scheduler with cronActive := true }).program =
          { c.program with scheduler := { c.program.scheduler with cronActive := true } } := by
        unfold Context.setScheduler
        rw [hprogram]
      refine
        { good := ?_, program := by rw [hscheduler], brickd := Or.inl (by rw [hscheduler])
          shutdown := by rw [hscheduler], frame := ?_
          logs := by
            change Logs p c.log c'.log
            rw [hlog]
            exact Logs.refl _ }
      · unfold Context.Good
        rw [hscheduler]
        change Base p _ c'.daemon c'.log
        rw [hdaemon, hlog]
        exact
          { h with
            cron := fun _ => hrunning
            entries := fun entry hentry => by
              rcases List.mem_append.mp hentry with hentry | hentry
              · exact h.entries entry hentry
              · cases List.mem_singleton.mp hentry
                exact ⟨iff_of_true rfl rfl, fun _ => rfl⟩
            entry := by
              change (c.daemon.entries ++ _).countP _ = 1
              rw [List.countP_append, hcount, List.countP_singleton]
              simp }
      · change Frame p c.daemon c'.daemon
        rw [hdaemon]
        exact
          { Frame.refl c.daemon with
            entries := by
              rw [List.filter_append]
              simp }

end Cron

section Start

-- Where program_scheduler_start is at the start mode.
def startedRunning (p : ProgramRef) (c : Context) : Context :=
  programSchedulerSetState p .running none (programSchedulerAbortObserver p c)

theorem startedRunning_moves (h : c.Good p) (hshutdown : c.program.scheduler.shutdown = false) :
    Moves p c (startedRunning p c) := by
  have habort := abortObserver_moves h
  exact habort.trans (setState_running_moves habort.good hshutdown rfl)

theorem startedRunning_program :
    (startedRunning p c).program =
      { c.program with scheduler := { c.program.scheduler with
        observerState := .finished, state := .running, message := none } } := by
  unfold startedRunning
  rw [setState_program]
  rfl

-- The four branches of program_scheduler_start.
theorem start_eq (hshutdown : c.program.scheduler.shutdown = false) :
    programSchedulerStart p c =
      match c.program.config.startMode with
      | .never => programSchedulerStop p none (startedRunning p c)
      | .always => programSchedulerSpawnProcess p (startedRunning p c)
      | .interval =>
          startTimer p 0 (c.program.config.startInterval.toNat * 1000000) (startedRunning p c)
      | .cron => startCron p (startedRunning p c) := by
  have hconfig : (startedRunning p c).program.config = c.program.config := by
    rw [startedRunning_program]
  unfold programSchedulerStart
  rw [if_neg (by rw [hshutdown]; nofun)]
  change (match (startedRunning p c).program.config.startMode with
    | .never => programSchedulerStop p none (startedRunning p c)
    | .always => programSchedulerSpawnProcess p (startedRunning p c)
    | .interval => startTimer p 0
        ((startedRunning p c).program.config.startInterval.toNat * 1000000) (startedRunning p c)
    | .cron => startCron p (startedRunning p c)) = _
  rw [hconfig]

theorem armingOf_interval (interval : UInt32) :
    armingOf 0 (interval.toNat * 1000000) .interval =
      if interval = 0 then none else some ⟨true, .interval⟩ := by
  unfold armingOf
  by_cases hzero : interval = 0
  · have hproduct : interval.toNat * 1000000 = 0 := by simp [hzero]
    rw [if_pos hzero, if_pos ⟨rfl, hproduct⟩]
  · have hne : interval.toNat ≠ 0 := fun heq => hzero (UInt32.toNat_inj.mp heq)
    have hproduct : interval.toNat * 1000000 ≠ 0 := by omega
    rw [if_neg hzero, if_neg fun h => hproduct h.2]
    simp [hne]

-- What follows the start of a scheduler that was not shut down.
theorem startedRunning_continues (h : c.Good p) (hfalse : c.program.scheduler.shutdown = false) :
    Moves p (startedRunning p c) (programSchedulerStart p c) ∧
      (programSchedulerStart p c).Lives := by
  have hmoves := startedRunning_moves h hfalse
  have hprogram := @startedRunning_program p c
  have hrunning : (startedRunning p c).program.scheduler.state = .running := by rw [hprogram]
  rw [start_eq hfalse]
  cases hmode : c.program.config.startMode with
  | never =>
      have hstop := stop_moves hmoves.good none
      exact ⟨hstop, fun _ => Live.of_stopped (stop_state none)⟩
  | always =>
      have hspawn := (spawnProcess_moves hmoves.good).1
      refine ⟨hspawn, spawnProcess_lives hmoves.good fun hne => ?_⟩
      rw [hprogram] at hne
      exact absurd hmode hne
  | interval =>
      obtain ⟨htimer, hend⟩ := startTimer_moves hmoves.good hrunning 0
        (c.program.config.startInterval.toNat * 1000000)
      refine ⟨htimer, fun _ => ?_⟩
      rcases hend with hstopped | ⟨hscheduler, -⟩
      · exact Live.of_stopped hstopped
      · intro _
        have hconfig : (startTimer p 0 (c.program.config.startInterval.toNat * 1000000)
            (startedRunning p c)).program.config = c.program.config := by
          rw [htimer.program, hprogram]
        dsimp only
        rw [hconfig, hmode, hscheduler, hprogram]
        change armingOf _ _ c.program.config.startMode = _
        rw [hmode, armingOf_interval]
  | cron =>
      have hcronMode : (startedRunning p c).program.config.startMode = .cron := by
        rw [hprogram]
        exact hmode
      obtain ⟨hcron, hend⟩ := startCron_moves hmoves.good hrunning hcronMode
      refine ⟨hcron, fun _ => ?_⟩
      rcases hend with hstopped | hscheduler
      · exact Live.of_stopped hstopped
      · intro _
        have hconfig : (startCron p (startedRunning p c)).program.config = c.program.config := by
          rw [hcron.program, hprogram]
        dsimp only
        rw [hconfig, hmode, hscheduler]

theorem start_moves (h : c.Good p) :
    Moves p c (programSchedulerStart p c) ∧ (programSchedulerStart p c).Lives := by
  by_cases hshutdown : c.program.scheduler.shutdown = true
  · have hsame : programSchedulerStart p c = c := if_pos hshutdown
    rw [hsame]
    exact ⟨Moves.refl h, fun _ => Live.of_stopped (h.shutdown hshutdown)⟩
  have hfalse : c.program.scheduler.shutdown = false := by simpa using hshutdown
  obtain ⟨hmoves, hlives⟩ := startedRunning_continues h hfalse
  exact ⟨(startedRunning_moves h hfalse).trans hmoves, hlives⟩

-- A stopped scheduler tells that it is started.
theorem start_tells (h : c.Good p) (hfalse : c.program.scheduler.shutdown = false)
    (hstopped : c.program.scheduler.state = .stopped) :
    .stateChanged p .running ∈ (programSchedulerStart p c).log := by
  refine (startedRunning_continues h hfalse).1.logs.mem ?_
  unfold startedRunning programSchedulerSetState
  rw [if_neg]
  · exact List.mem_cons_self
  · rintro ⟨hrunning, -⟩
    change c.program.scheduler.state = .running at hrunning
    rw [hstopped] at hrunning
    cases hrunning

end Start

end RedApid.Scheduling

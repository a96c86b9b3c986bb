import RedApid.Scheduler.Shutdown
import RedApid.Scheduler.World

namespace RedApid.Scheduling

open Memory

variable {p : ProgramRef} {c : Context}

section Setters

-- No invariant of a scheduler but its liveness depends on the config.
theorem Base.config {program : Program} {daemon : Daemon} {log : List Effect}
    (h : Base p program daemon log) (config : ProgramSettings) :
    Base p { program with config } daemon log :=
  { h with }

-- The config that a request saves.
inductive Edits (old : ProgramSettings) : World.Request → ProgramSettings → Prop
  | command {p : ProgramRef} {command : Command} (executable : CString)
      (arguments environment : List CString) (workingDirectory : CString) :
      Edits old (.programSetCommand p command)
        { old with executable, arguments, environment, workingDirectory }
  | redirection {p : ProgramRef} {redirections : Redirections}
      {stdinRedirection stdoutRedirection stderrRedirection : ProgramStdioRedirection}
      {stdinFileName stdoutFileName stderrFileName : Option CString}
      (checked : checkRedirections redirections =
        some (stdinRedirection, stdoutRedirection, stderrRedirection))
      (stdin : lookupFileName stdinRedirection redirections.stdinFileName = .ok stdinFileName)
      (stdout : lookupFileName stdoutRedirection redirections.stdoutFileName = .ok stdoutFileName)
      (stderr : lookupFileName stderrRedirection redirections.stderrFileName =
        .ok stderrFileName) :
      Edits old (.programSetStdioRedirection p redirections)
        { old with
          stdinRedirection, stdinFileName
          stdoutRedirection, stdoutFileName
          stderrRedirection, stderrFileName }
  | schedule {p : ProgramRef} {schedule : Schedule} (startMode : ProgramStartMode)
      (continueAfterError : Bool) (startFields : Option CString)
      (interval : schedule.startInterval ≠ 0) :
      Edits old (.programSetSchedule p schedule)
        { old with
          startMode, continueAfterError, startFields
          startInterval := schedule.startInterval }

-- A setter that does not fail saves a new config. Only program_set_schedule tries to start, the
-- others keep the start mode and the start interval.
inductive SetterCases (request : World.Request) (p : ProgramRef) (c : Context) :
    APIE × Context → Prop
  | kept {c' : Context} (code : APIE) (quiet : Quiet c c') : SetterCases request p c (code, c')
  | saved {c' : Context} {config : ProgramSettings} (tryStart : Bool) (quiet : Quiet c c')
      (edits : Edits c.program.config request config)
      (same : tryStart = false → config.startMode = c.program.config.startMode ∧
        config.startInterval = c.program.config.startInterval) :
      SetterCases request p c (.success,
        programSchedulerUpdate p tryStart { c' with program := { c.program with config } })

variable {request : World.Request}

theorem saveConfig_cases {config : ProgramSettings} (tryStart : Bool)
    (hedits : Edits c.program.config request config)
    (hsame : tryStart = false → config.startMode = c.program.config.startMode ∧
      config.startInterval = c.program.config.startInterval) :
    SetterCases request p c (saveConfig p config tryStart c) := by
  unfold saveConfig Context.call
  cases c.outcomes.calls.headD none with
  | some code => exact .kept _ call_quiet
  | none =>
      have hquiet := @call_quiet c
      exact .saved tryStart hquiet hedits hsame

theorem programSetCommand_cases (command : Command) :
    SetterCases (.programSetCommand p command) p c (programSetCommand p command c) := by
  have hkept : ∀ code, SetterCases (.programSetCommand p command) p c (code, c) := fun code => .kept code ⟨rfl, rfl, rfl⟩
  unfold programSetCommand
  by_cases hpurged : c.program.purged = true
  · rw [if_pos hpurged]
    exact hkept _
  rw [if_neg hpurged]
  cases command.executable with
  | error code => exact hkept _
  | ok executable =>
      dsimp only
      split_ifs
      · exact hkept _
      cases command.arguments with
      | error code => exact hkept _
      | ok arguments =>
          cases command.environment with
          | error code => exact hkept _
          | ok environment =>
              cases command.workingDirectory with
              | error code => exact hkept _
              | ok workingDirectory =>
                  dsimp only
                  split_ifs
                  · exact hkept _
                  · exact saveConfig_cases false (.command _ _ _ _) fun _ => ⟨rfl, rfl⟩

theorem programSetStdioRedirection_cases (redirections : Redirections) :
    SetterCases (.programSetStdioRedirection p redirections) p c
      (programSetStdioRedirection p redirections c) := by
  have hkept : ∀ code, SetterCases (.programSetStdioRedirection p redirections) p c (code, c) := fun code => .kept code ⟨rfl, rfl, rfl⟩
  unfold programSetStdioRedirection
  by_cases hpurged : c.program.purged = true
  · rw [if_pos hpurged]
    exact hkept _
  rw [if_neg hpurged]
  cases hchecked : checkRedirections redirections with
  | none => exact hkept _
  | some checked =>
      obtain ⟨stdinRedirection, stdoutRedirection, stderrRedirection⟩ := checked
      dsimp only
      cases hstdin : lookupFileName stdinRedirection redirections.stdinFileName with
      | error code => exact hkept _
      | ok stdinFileName =>
          cases hstdout : lookupFileName stdoutRedirection redirections.stdoutFileName with
          | error code => exact hkept _
          | ok stdoutFileName =>
              cases hstderr : lookupFileName stderrRedirection redirections.stderrFileName with
              | error code => exact hkept _
              | ok stderrFileName =>
                  exact saveConfig_cases false (.redirection hchecked hstdin hstdout hstderr)
                    fun _ => ⟨rfl, rfl⟩

theorem programSetSchedule_cases (schedule : Schedule) :
    SetterCases (.programSetSchedule p schedule) p c (programSetSchedule p schedule c) := by
  have hkept : ∀ code, SetterCases (.programSetSchedule p schedule) p c (code, c) := fun code => .kept code ⟨rfl, rfl, rfl⟩
  unfold programSetSchedule
  by_cases hpurged : c.program.purged = true
  · rw [if_pos hpurged]
    exact hkept _
  rw [if_neg hpurged]
  cases startModeOfByte schedule.startMode with
  | none => exact hkept _
  | some startMode =>
      dsimp only
      by_cases hinterval : schedule.startInterval < 1
      · rw [if_pos hinterval]
        exact hkept _
      rw [if_neg hinterval]
      cases lookupStartFields startMode schedule.startFields with
      | error code => exact hkept _
      | ok startFields =>
          refine saveConfig_cases true (.schedule _ _ _ fun hzero => hinterval ?_) nofun
          rw [hzero]
          decide

-- The update behind a new config. Requests are only made while a Brick Daemon is connected.
theorem Quiet.saved {c' : Context} (hquiet : Quiet c c') (config : ProgramSettings) (tryStart : Bool)
    (hsame : tryStart = false → config.startMode = c.program.config.startMode ∧
      config.startInterval = c.program.config.startInterval)
    (h : c.Good p) (hlive : c.Live) (hconnected : c.daemon.brickdConnected = true) :
    let updated := programSchedulerUpdate p tryStart
      { c' with program := { c.program with config } }
    Handled p c updated ∧ updated.Lives ∧ updated.program.config = config := by
  dsimp only
  obtain ⟨-, hdaemon, hlog⟩ := hquiet
  have hset : Handled p c { c' with program := { c.program with config } } :=
    { good := by
        change Base p _ c'.daemon c'.log
        rw [hdaemon, hlog]
        exact h.config config
      id := rfl
      brickd := Or.inl rfl
      shutdown := id
      frame := by
        change Frame p c.daemon c'.daemon
        rw [hdaemon]
        exact Frame.refl _
      logs := by
        change Logs p c.log c'.log
        rw [hlog]
        exact Logs.refl _ }
  obtain ⟨hmoves, hlives⟩ := update_moves hset.good tryStart fun hneeded => by
    rcases hneeded with htry | ⟨-, hdisconnected⟩
    · -- neither the mode nor the interval has changed
      obtain ⟨hmode, hinterval⟩ := hsame htry
      exact Live.congr hlive rfl hmode hinterval hdaemon
    · change c'.daemon.brickdConnected = false at hdisconnected
      rw [hdaemon, hconnected] at hdisconnected
      cases hdisconnected
  refine ⟨hset.trans hmoves.handled, hlives, ?_⟩
  rw [hmoves.program]

theorem SetterCases.handled {result : APIE × Context} (hcases : SetterCases request p c result)
    (h : c.Good p) (hlive : c.Live) (hconnected : c.daemon.brickdConnected = true) :
    Handled p c result.2 ∧ result.2.Lives ∧
      (result.2.program.config = c.program.config ∨
        Edits c.program.config request result.2.program.config) := by
  cases hcases with
  | kept code hquiet =>
      refine ⟨(hquiet.moves h).handled, fun _ => ?_, Or.inl (by rw [hquiet.1])⟩
      unfold Context.Live
      rw [hquiet.1, hquiet.2.1]
      exact hlive
  | saved tryStart hquiet hedits hsame =>
      obtain ⟨hhandled, hlives, hconfig⟩ := hquiet.saved _ tryStart hsame h hlive hconnected
      refine ⟨hhandled, hlives, Or.inr ?_⟩
      rw [hconfig]
      exact hedits

end Setters

section Purge

theorem Base.purged {program : Program} {daemon : Daemon} {log : List Effect}
    (h : Base p program daemon log) (purged : Bool) :
    Base p { program with purged } daemon log :=
  { h with }

theorem purgeAttempts_quiet (attempts : Nat) (renames : List RenameResult) :
    (purgeAttempts attempts renames c).2.daemon = c.daemon ∧
      (purgeAttempts attempts renames c).2.log = c.log ∧
      ∃ purged, (purgeAttempts attempts renames c).2.program = { c.program with purged } := by
  induction attempts generalizing renames c with
  | zero => exact ⟨rfl, rfl, c.program.purged, rfl⟩
  | succ attempts ih =>
      unfold purgeAttempts
      cases renames.headD .renamed with
      | renamed => exact ⟨rfl, rfl, true, rfl⟩
      | failed code => exact ⟨rfl, rfl, c.program.purged, rfl⟩
      | «exists» =>
          have hcall : c.call = (c.outcomes.calls.headD none, c.call.2) := rfl
          rw [hcall]
          cases c.outcomes.calls.headD none with
          | some code => exact ⟨rfl, rfl, c.program.purged, rfl⟩
          | none => exact ih renames.tail

theorem programPurge_handled (h : c.Good p) (hlive : c.Live) (cookie : UInt32)
    (renames : List RenameResult) :
    Handled p c (Scheduling.programPurge p cookie renames c).2 ∧
      (Scheduling.programPurge p cookie renames c).2.Lives ∧
      (Scheduling.programPurge p cookie renames c).2.program.config = c.program.config := by
  unfold Scheduling.programPurge
  by_cases hpurged : c.program.purged = true
  · rw [if_pos hpurged]
    exact ⟨(Moves.refl h).handled, fun _ => hlive, rfl⟩
  rw [if_neg hpurged]
  by_cases hcookie : cookie ≠ purgeCookie c.program.identifier
  · rw [if_pos hcookie]
    exact ⟨(Moves.refl h).handled, fun _ => hlive, rfl⟩
  rw [if_neg hcookie]
  have hdone := shutdown_shutDown h
  have hstopped : Live (programSchedulerShutdown p c).program
      (programSchedulerShutdown p c).daemon := Live.of_stopped hdone.inert.stopped
  have hcall := (call_quiet (c := programSchedulerShutdown p c)).moves hdone.handled.good
  have hconfig : (programSchedulerShutdown p c).program.config = c.program.config := by
    rw [hdone.program]
  unfold Context.call
  cases (programSchedulerShutdown p c).outcomes.calls.headD none with
  | some code => exact ⟨hdone.handled.trans hcall.handled, fun _ => hstopped, hconfig⟩
  | none =>
      obtain ⟨hdaemon, hlog, purged, hprogram⟩ :=
        purgeAttempts_quiet (c := (programSchedulerShutdown p c).call.2) 1000 renames
      change Handled p c (purgeAttempts 1000 renames (programSchedulerShutdown p c).call.2).2 ∧
        Context.Lives (purgeAttempts 1000 renames (programSchedulerShutdown p c).call.2).2 ∧
        (purgeAttempts 1000 renames (programSchedulerShutdown p c).call.2).2.program.config = _
      generalize (purgeAttempts 1000 renames (programSchedulerShutdown p c).call.2).2 = c'
        at hdaemon hlog hprogram ⊢
      have hpurge : Handled p (programSchedulerShutdown p c).call.2 c' :=
        { good := by
            unfold Context.Good
            rw [hprogram, hdaemon, hlog]
            exact Base.purged hcall.good purged
          id := by rw [hprogram]
          brickd := Or.inl (by rw [hprogram])
          shutdown := by rw [hprogram]; exact id
          frame := by rw [hdaemon]; exact Frame.refl _
          logs := by rw [hlog]; exact Logs.refl _ }
      refine ⟨(hdone.handled.trans hcall.handled).trans hpurge, fun _ => Live.of_stopped ?_, ?_⟩
      · rw [hprogram]
        exact hdone.inert.stopped
      · rw [hprogram]
        exact hconfig

-- What a purge does not change, whether it succeeds or not.
structure Spares (c c' : Context) : Prop where
  internal : c'.program.internalReferenceCount = c.program.internalReferenceCount
  external : c'.program.externalReferenceCount = c.program.externalReferenceCount
  last : c'.program.scheduler.lastSpawnedProcess = c.program.scheduler.lastSpawnedProcess
  processes : c'.daemon.processes = c.daemon.processes
  starts : starts c'.log = starts c.log

theorem Spares.refl (c : Context) : Spares c c := ⟨rfl, rfl, rfl, rfl, rfl⟩

theorem programPurge_spares (h : c.Good p) (cookie : UInt32) (renames : List RenameResult) :
    Spares c (programPurge p cookie renames c).2 := by
  unfold programPurge
  split_ifs
  · exact Spares.refl c
  · exact Spares.refl c
  have hdone := shutdown_shutDown h
  have hshutdown : Spares c (programSchedulerShutdown p c) :=
    ⟨by rw [hdone.program], by rw [hdone.program], hdone.last, hdone.processes, hdone.starts⟩
  unfold Context.call
  cases (programSchedulerShutdown p c).outcomes.calls.headD none with
  | some code => exact ⟨hshutdown.1, hshutdown.2, hshutdown.3, hshutdown.4, hshutdown.5⟩
  | none =>
      obtain ⟨hdaemon, hlog, purged, hprogram⟩ :=
        purgeAttempts_quiet (c := (programSchedulerShutdown p c).call.2) 1000 renames
      change Spares c (purgeAttempts 1000 renames (programSchedulerShutdown p c).call.2).2
      generalize (purgeAttempts 1000 renames (programSchedulerShutdown p c).call.2).2 = c'
        at hdaemon hlog hprogram ⊢
      exact
        { internal := by rw [hprogram]; exact hshutdown.internal
          external := by rw [hprogram]; exact hshutdown.external
          last := by rw [hprogram]; exact hshutdown.last
          processes := by rw [hdaemon]; exact hshutdown.processes
          starts := by rw [hlog]; exact hshutdown.starts }

end Purge

end RedApid.Scheduling

import RedApid.Scheduler.World

namespace RedApid.Scheduling

open Memory

variable {p : ProgramRef} {c : Context}

-- What a client has made of a program.
@[ext] structure ProgramIdentity where
  identifier : CString
  rootDirectory : CString
  purged : Bool
  config : ProgramSettings

def Program.identity (program : Program) : ProgramIdentity :=
  ⟨program.identifier, program.rootDirectory, program.purged, program.config⟩

-- The functions of a scheduler change nothing but the scheduler.
def Context.Keeps (c c' : Context) : Prop := c'.program.identity = c.program.identity

theorem Context.Keeps.refl (c : Context) : c.Keeps c := rfl

theorem Context.Keeps.trans {c c' c'' : Context} (h : c.Keeps c') (h' : c'.Keeps c'') :
    c.Keeps c'' :=
  Eq.trans h' h

section Calls

theorem call_identity (c : Context) : ∃ result c', c.call = (result, c') ∧ c.Keeps c' :=
  ⟨_, _, rfl, rfl⟩

theorem setScheduler_identity (scheduler : ProgramScheduler) (c : Context) :
    c.Keeps (c.setScheduler scheduler) := rfl

theorem setObservation_identity (observation : ProcessObservation) (c : Context) :
    c.Keeps (c.setObservation observation) := rfl

theorem firstFailure_identity (calls : Nat) (c : Context) : c.Keeps (firstFailure calls c).2 := by
  induction calls generalizing c with
  | zero => exact .refl c
  | succ calls ih =>
      unfold firstFailure Context.call
      cases c.outcomes.calls.headD none with
      | some code => exact .refl c
      | none => exact ih _

end Calls

section Stop

theorem setState_identity (state : ProgramSchedulerState) (message : Option MessageRef) :
    c.Keeps (programSchedulerSetState p state message c) := by
  unfold programSchedulerSetState releaseOldMessage
  split_ifs
  · exact .refl c
  · cases c.program.scheduler.message with
    | none => rfl
    | some old =>
        dsimp only
        split_ifs <;> rfl

theorem wrapMessage_identity (format : String) (code : Option APIError) (c : Context) :
    c.Keeps (wrapMessage format code c).2 := by
  unfold wrapMessage Context.call
  cases c.outcomes.calls.headD none <;> rfl

theorem abortObserver_identity : c.Keeps (programSchedulerAbortObserver p c) := rfl

theorem stopTimer_identity : c.Keeps (stopTimer p c) := by
  unfold stopTimer Context.timerStop
  split_ifs
  · cases c.outcomes.timerStops.headD none with
    | some code => exact wrapMessage_identity _ _ _
    | none => rfl
  · exact .refl c

theorem stopCron_identity (c : Context) : c.Keeps (stopCron c) := by
  unfold stopCron
  split_ifs
  · rfl
  · exact .refl c

theorem stop_identity (message : Option MessageRef) :
    c.Keeps (programSchedulerStop p message c) :=
  ((abortObserver_identity.trans stopTimer_identity).trans (stopCron_identity _)).trans
    (setState_identity .stopped message)

theorem handleError_identity (format : String) (code : Option APIError) :
    c.Keeps (programSchedulerHandleError p format code c) :=
  (wrapMessage_identity format code c).trans (stop_identity _)

end Stop

section Spawn

theorem openFile_identity (format : String) : c.Keeps (openFile p format c).2 := by
  unfold openFile Context.call
  cases c.outcomes.calls.headD none with
  | some code => exact handleError_identity format code
  | none => rfl

theorem prepareStdin_identity : c.Keeps (programSchedulerPrepareStdin p c).2 := by
  unfold programSchedulerPrepareStdin
  cases c.program.config.stdinRedirection with
  | devNull | pipe => exact openFile_identity _
  | file =>
      cases c.program.scheduler.absoluteStdinFileName with
      | none => exact handleError_identity _ _
      | some name => exact openFile_identity _
  | individualLog | continuousLog | stdout => exact handleError_identity _ _

theorem individualLogAttempts_identity (attempts : Nat) (c : Context) :
    c.Keeps (individualLogAttempts p attempts c).2 := by
  induction attempts generalizing c with
  | zero => exact handleError_identity _ _
  | succ attempts ih =>
      unfold individualLogAttempts
      extract_lets next
      have hnext : ∀ c : Context, c.Keeps (next c).2 := by
        intro c
        obtain ⟨result, c₁, hcall, hkeeps⟩ := call_identity c
        dsimp only [next]
        rw [hcall]
        cases result with
        | some code => exact hkeeps.trans (handleError_identity _ _)
        | none => exact hkeeps.trans (ih _)
      obtain ⟨lstat, c₁, hlstat, hkeeps₁⟩ := call_identity c
      rw [hlstat]
      cases lstat with
      | none => exact hkeeps₁.trans (hnext c₁)
      | some code =>
          obtain ⟨wrap, c₂, hwrap, hkeeps₂⟩ := call_identity c₁
          dsimp only
          rw [hwrap]
          cases wrap with
          | some code => exact (hkeeps₁.trans hkeeps₂).trans (handleError_identity _ _)
          | none =>
              obtain ⟨create, c₃, hcreate, hkeeps₃⟩ := call_identity c₂
              dsimp only
              rw [hcreate]
              cases create with
              | none => exact (hkeeps₁.trans hkeeps₂).trans hkeeps₃
              | some code =>
                  dsimp only
                  split_ifs
                  · exact ((hkeeps₁.trans hkeeps₂).trans hkeeps₃).trans (handleError_identity _ _)
                  · exact ((hkeeps₁.trans hkeeps₂).trans hkeeps₃).trans (hnext c₃)

theorem prepareIndividualLog_identity : c.Keeps (programSchedulerPrepareIndividualLog p c).2 := by
  unfold programSchedulerPrepareIndividualLog
  obtain ⟨format, c₁, hformat, hkeeps⟩ := call_identity c
  rw [hformat]
  cases format with
  | some code => exact hkeeps.trans (handleError_identity _ _)
  | none => exact hkeeps.trans (individualLogAttempts_identity 1000 _)

-- The timestamp in front of what the process writes.
theorem writeTimestamp_identity (file : FileRef) (c : Context) : c.Keeps (match c.call with
    | (some code, c) =>
        (none, (programSchedulerHandleError p
          "Could not format timestamp for %s log file: %s (%d)" code c).record
            (.releaseFile file))
    | (none, c) =>
        match c.call with
        | (some code, c) =>
            (none, (programSchedulerHandleError p
              "Could not write timestamp to %s log file: %s (%d)" code c).record
                (.releaseFile file))
        | (none, c) => (some file, c) : Option FileRef × Context).2 := by
  obtain ⟨format, c₁, hformat, hkeeps₁⟩ := call_identity c
  rw [hformat]
  cases format with
  | some code => exact hkeeps₁.trans (handleError_identity _ _)
  | none =>
      obtain ⟨write, c₂, hwrite, hkeeps₂⟩ := call_identity c₁
      dsimp only
      rw [hwrite]
      cases write with
      | some code => exact (hkeeps₁.trans hkeeps₂).trans (handleError_identity _ _)
      | none => exact hkeeps₁.trans hkeeps₂

theorem prepareContinuousLog_identity : c.Keeps (programSchedulerPrepareContinuousLog p c).2 := by
  unfold programSchedulerPrepareContinuousLog
  obtain ⟨format, c₁, hformat, hkeeps₁⟩ := call_identity c
  rw [hformat]
  cases format with
  | some code => exact hkeeps₁.trans (handleError_identity _ _)
  | none =>
      obtain ⟨wrap, c₂, hwrap, hkeeps₂⟩ := call_identity c₁
      dsimp only
      rw [hwrap]
      cases wrap with
      | some code => exact (hkeeps₁.trans hkeeps₂).trans (handleError_identity _ _)
      | none =>
          have hopen := @openFile_identity p c₂ "Could not open/create %s log file: %s (%d)"
          dsimp only
          generalize openFile p "Could not open/create %s log file: %s (%d)" c₂ = result at hopen ⊢
          obtain ⟨_ | file, c₃⟩ := result
          · exact (hkeeps₁.trans hkeeps₂).trans hopen
          · exact ((hkeeps₁.trans hkeeps₂).trans hopen).trans (writeTimestamp_identity file c₃)

theorem prepareStdout_identity : c.Keeps (programSchedulerPrepareStdout p c).2 := by
  unfold programSchedulerPrepareStdout
  cases c.program.config.stdoutRedirection with
  | devNull => exact openFile_identity _
  | pipe | stdout => exact handleError_identity _ _
  | file =>
      cases c.program.scheduler.absoluteStdoutFileName with
      | none => exact handleError_identity _ _
      | some name => exact openFile_identity _
  | individualLog => exact prepareIndividualLog_identity
  | continuousLog => exact prepareContinuousLog_identity

theorem prepareStderr_identity (stdout : FileRef) :
    c.Keeps (programSchedulerPrepareStderr p stdout c).2 := by
  unfold programSchedulerPrepareStderr
  cases c.program.config.stderrRedirection with
  | devNull => exact openFile_identity _
  | pipe => exact handleError_identity _ _
  | file =>
      cases c.program.scheduler.absoluteStderrFileName with
      | none => exact handleError_identity _ _
      | some name => exact openFile_identity _
  | individualLog => exact prepareIndividualLog_identity
  | continuousLog => exact prepareContinuousLog_identity
  | stdout => rfl

theorem processSpawn_identity (workingDirectory : CString) (files : List FileRef) :
    c.Keeps (processSpawn p workingDirectory files c).2 := by
  unfold processSpawn Context.spawn
  split_ifs
  · exact .refl c
  · cases c.outcomes.spawns.headD .spawned <;> rfl

theorem spawnInDirectory_identity (workingDirectory : CString) (files : List FileRef) :
    c.Keeps (spawnInDirectory p workingDirectory files c) := by
  have hspawn := @processSpawn_identity p (c.record (.processSpawn p c.program workingDirectory))
    workingDirectory files
  unfold spawnInDirectory
  generalize processSpawn p workingDirectory files (c.record (.processSpawn p c.program workingDirectory))
    = result at hspawn ⊢
  obtain ⟨_ | code | _, c₁⟩ := result
  · exact hspawn
  · exact Context.Keeps.trans hspawn (handleError_identity _ _)
  · exact hspawn

theorem spawnWithFiles_identity (files : List FileRef) : c.Keeps (spawnWithFiles p files c) := by
  unfold spawnWithFiles
  cases c.program.scheduler.absoluteWorkingDirectory with
  | none => rfl
  | some workingDirectory => exact spawnInDirectory_identity workingDirectory files

theorem spawnProcess_identity : c.Keeps (programSchedulerSpawnProcess p c) := by
  unfold programSchedulerSpawnProcess
  have habort : c.Keeps (programSchedulerAbortObserver p c) := abortObserver_identity
  generalize programSchedulerAbortObserver p c = c₀ at habort ⊢
  dsimp only
  split_ifs
  · exact habort
  · have hstdin := @prepareStdin_identity p c₀
    generalize programSchedulerPrepareStdin p c₀ = result at hstdin ⊢
    obtain ⟨_ | stdin, c₁⟩ := result
    · exact habort.trans hstdin
    · have hstdout := @prepareStdout_identity p c₁
      dsimp only
      generalize programSchedulerPrepareStdout p c₁ = result at hstdout ⊢
      obtain ⟨_ | stdout, c₂⟩ := result
      · exact (habort.trans hstdin).trans hstdout
      · have hstderr := @prepareStderr_identity p c₂ stdout
        dsimp only
        generalize programSchedulerPrepareStderr p stdout c₂ = result at hstderr ⊢
        obtain ⟨_ | stderr, c₃⟩ := result
        · exact ((habort.trans hstdin).trans hstdout).trans hstderr
        · exact (((habort.trans hstdin).trans hstdout).trans hstderr).trans
            (spawnWithFiles_identity _)

end Spawn

section Handlers

theorem timerConfigure_identity (delay interval : Nat) :
    c.Keeps (timerConfigure p delay interval c).2 := by
  unfold timerConfigure Context.timerStop Context.timerStart
  split_ifs
  · cases c.outcomes.timerStops.headD none <;> rfl
  · cases c.outcomes.timerStarts.headD none <;> rfl

theorem startTimer_identity (delay interval : Nat) : c.Keeps (startTimer p delay interval c) := by
  have hconfigure := @timerConfigure_identity p c delay interval
  unfold startTimer
  generalize timerConfigure p delay interval c = result at hconfigure ⊢
  obtain ⟨_ | code, c₁⟩ := result
  · exact hconfigure
  · exact hconfigure.trans (handleError_identity _ _)

theorem cronAddEntry_identity : c.Keeps (cronAddEntry p c).2 := by
  have hformat := firstFailure_identity 2 c
  unfold cronAddEntry
  generalize firstFailure 2 c = result at hformat ⊢
  obtain ⟨_ | code, c₁⟩ := result
  · dsimp only
    split_ifs
    · exact hformat.trans (firstFailure_identity 4 _)
    · have hwrite := firstFailure_identity 5 c₁
      generalize firstFailure 5 c₁ = result at hwrite ⊢
      obtain ⟨_ | code, c₂⟩ := result
      · exact hformat.trans hwrite
      · exact hformat.trans hwrite
  · exact hformat

theorem startCron_identity : c.Keeps (startCron p c) := by
  have hentry := @cronAddEntry_identity p c
  unfold startCron
  generalize cronAddEntry p c = result at hentry ⊢
  obtain ⟨_ | code, c₁⟩ := result
  · exact hentry
  · exact hentry.trans (handleError_identity _ _)

theorem start_identity : c.Keeps (programSchedulerStart p c) := by
  unfold programSchedulerStart
  split_ifs
  · exact .refl c
  · have hrunning : c.Keeps (programSchedulerSetState p .running none
        (programSchedulerAbortObserver p c)) := abortObserver_identity.trans (setState_identity _ _)
    generalize programSchedulerSetState p .running none (programSchedulerAbortObserver p c) = c₁
      at hrunning ⊢
    dsimp only
    cases c₁.program.config.startMode with
    | never => exact hrunning.trans (stop_identity _)
    | always => exact hrunning.trans spawnProcess_identity
    | interval => exact hrunning.trans (startTimer_identity _ _)
    | cron => exact hrunning.trans startCron_identity

theorem handleDeath_identity (process : Process) : c.Keeps (handleDeath p process c) := by
  unfold handleDeath
  split_ifs
  · exact startTimer_identity _ _
  · exact .refl c
  · exact stop_identity _

theorem handleProcessStateChange_identity :
    c.Keeps (programSchedulerHandleProcessStateChange p c) := by
  unfold programSchedulerHandleProcessStateChange
  by_cases hrunning : c.program.scheduler.state ≠ .running
  · rw [if_pos hrunning]
    exact .refl c
  · rw [if_neg hrunning]
    cases c.program.scheduler.lastSpawnedProcess.bind c.daemon.processes.get with
    | none => rfl
    | some process =>
        dsimp only
        split_ifs
        · exact .refl c
        · exact handleDeath_identity process

theorem handleTimer_identity : c.Keeps (programSchedulerHandleTimer p c) := by
  unfold programSchedulerHandleTimer
  split_ifs
  · exact spawnProcess_identity
  · exact .refl c
  · exact .refl c

theorem handleCron_identity : c.Keeps (programSchedulerHandleCron p c) := by
  unfold programSchedulerHandleCron
  split_ifs
  · exact spawnProcess_identity
  · exact .refl c

theorem informObserver_identity : c.Keeps (informObserver p c) := by
  unfold informObserver programSchedulerHandleObserver
  split_ifs
  · exact (show c.Keeps (programSchedulerAbortObserver p (c.record (.observer p))) from
      rfl).trans start_identity
  · rfl

theorem joinObservation_identity (observation : ProcessObservation) :
    c.Keeps (joinObservation p observation c).2 := by
  unfold joinObservation
  obtain ⟨result, c₁, hcall, hkeeps⟩ := call_identity c
  rw [hcall]
  cases result with
  | some code => exact hkeeps
  | none =>
      have hjoined := hkeeps.trans (setObservation_identity
        { observation with observers := observation.observers ++ [p] } c₁)
      dsimp only
      split_ifs
      · exact hjoined
      · exact hjoined.trans informObserver_identity

theorem newObservation_identity (timeout : Nat) : c.Keeps (newObservation p timeout c).2 := by
  unfold newObservation Context.search
  cases c.outcomes.searches.headD .notFound with
  | error => rfl
  | notFound =>
      have hcalls := firstFailure_identity 6
        { c with outcomes := { c.outcomes with searches := c.outcomes.searches.tail } }
      dsimp only
      generalize firstFailure 6 _ = result at hcalls ⊢
      obtain ⟨_ | code, c₁⟩ := result
      · exact hcalls
      · exact hcalls
  | found =>
      have hcalls := firstFailure_identity 4
        { c with outcomes := { c.outcomes with searches := c.outcomes.searches.tail } }
      dsimp only
      generalize firstFailure 4 _ = result at hcalls ⊢
      obtain ⟨_ | code, c₁⟩ := result
      · exact Context.Keeps.trans hcalls informObserver_identity
      · exact hcalls

theorem addObserver_identity (timeout : Nat) : c.Keeps (processMonitorAddObserver p timeout c).2 := by
  unfold processMonitorAddObserver
  cases c.daemon.observation with
  | some observation => exact joinObservation_identity observation
  | none => exact newObservation_identity timeout

end Handlers

section Update

theorem runFilesystemCalls_identity (calls : List (Option ProgramStdioRedirection × String))
    (c : Context) : c.Keeps (runFilesystemCalls p calls c).2 := by
  induction calls generalizing c with
  | nil => exact .refl c
  | cons call calls ih =>
      obtain ⟨redirection, format⟩ := call
      unfold runFilesystemCalls
      split_ifs
      · obtain ⟨result, c₁, hcall, hkeeps⟩ := call_identity c
        rw [hcall]
        cases result with
        | some code => exact hkeeps.trans (handleError_identity _ _)
        | none => exact hkeeps.trans (ih c₁)
      · exact ih c

theorem prepareFilesystem_identity : c.Keeps (programSchedulerPrepareFilesystem p c).2 := by
  have hcalls := @runFilesystemCalls_identity p (filesystemCalls c.program.config) c
  unfold programSchedulerPrepareFilesystem
  generalize runFilesystemCalls p (filesystemCalls c.program.config) c = result at hcalls ⊢
  obtain ⟨_ | code, c₁⟩ := result
  · dsimp only
    split_ifs
    · obtain ⟨create, c₂, hcall, hkeeps⟩ := call_identity c₁
      rw [hcall]
      cases create with
      | some code => exact (Context.Keeps.trans hcalls hkeeps).trans (handleError_identity _ _)
      | none => exact Context.Keeps.trans hcalls hkeeps
    · exact hcalls
  · exact hcalls

theorem observeLxpanel_identity : c.Keeps (observeLxpanel p c) := by
  unfold observeLxpanel
  split_ifs
  · have hadd := @addObserver_identity p
      (c.setScheduler { c.program.scheduler with observerState := .waiting }) 30
    dsimp only
    generalize processMonitorAddObserver p 30 (c.setScheduler { c.program.scheduler with observerState := .waiting })
      = result at hadd ⊢
    obtain ⟨_ | _, c₁⟩ := result
    · exact hadd
    · exact hadd
  · exact .refl c

theorem tryStart_identity : c.Keeps (programSchedulerTryStart p c) := by
  unfold programSchedulerTryStart
  split_ifs
  · exact stop_identity _
  · have hobserve := @observeLxpanel_identity p c
    dsimp only
    split_ifs
    · exact hobserve
    · exact hobserve.trans start_identity
    · exact hobserve

theorem update_identity (tryStart : Bool) : c.Keeps (programSchedulerUpdate p tryStart c) := by
  unfold programSchedulerUpdate
  split_ifs with hshutdown htry
  · exact .refl c
  all_goals
    have hcheck : c.Keeps (checkBrickd c) := by
      unfold checkBrickd
      split_ifs
      · rfl
      · exact .refl c
    have hprepare := hcheck.trans (@prepareFilesystem_identity p (checkBrickd c))
    generalize programSchedulerPrepareFilesystem p (checkBrickd c) = result at hprepare ⊢
    obtain ⟨_ | code, c₁⟩ := result
  · exact hprepare.trans tryStart_identity
  · exact hprepare
  · exact hprepare
  · exact hprepare

theorem continue_identity : c.Keeps (programSchedulerContinue p c) := by
  unfold programSchedulerContinue
  split_ifs
  · exact .refl c
  · exact start_identity
  · exact .refl c

theorem shutdown_identity : c.Keeps (programSchedulerShutdown p c) := by
  unfold programSchedulerShutdown
  split_ifs
  · exact .refl c
  · dsimp only
    generalize hstopped : programSchedulerStop p none _ = c₁
    have hstop : c.Keeps c₁ := by
      rw [← hstopped]
      exact (setScheduler_identity _ c).trans (stop_identity none)
    cases c₁.program.scheduler.lastSpawnedProcess with
    | none => exact hstop
    | some process =>
        dsimp only
        split_ifs
        · exact hstop
        · exact hstop

theorem destroy_identity : c.Keeps (programSchedulerDestroy p c) :=
  (shutdown_identity : c.Keeps (programSchedulerShutdown p c))

theorem handleBrickdConnection_identity : c.Keeps (World.handleBrickdConnection p c) := by
  unfold World.handleBrickdConnection
  split_ifs
  · exact update_identity true
  · exact .refl c

end Update

section Requests

-- A setter that succeeds has saved a config, any other one changes nothing.
inductive Saves (P : ProgramSettings → Prop) (c : Context) : APIE × Context → Prop
  | kept {code : APIE} {c' : Context} (failed : code ≠ .success) (keeps : c.Keeps c') :
      Saves P c (code, c')
  | saved {c' : Context} {config : ProgramSettings} (allowed : P config)
      (unpurged : c.program.purged = false)
      (identity : c'.program.identity = { c.program.identity with config }) :
      Saves P c (.success, c')

variable {P : ProgramSettings → Prop}

theorem saveConfig_saves {config : ProgramSettings} (tryStart : Bool) (hallowed : P config)
    (hpurged : c.program.purged = false) : Saves P c (saveConfig p config tryStart c) := by
  unfold saveConfig Context.call
  cases c.outcomes.calls.headD none with
  | some code => exact .kept code.property (.refl c)
  | none => exact .saved hallowed hpurged (update_identity tryStart)

theorem programSetCommand_saves {command : Command}
    (hallowed : ∀ executable arguments environment workingDirectory,
      c.program.purged = false → command.executable = .ok executable →
      command.arguments = .ok arguments → command.environment = .ok environment →
      command.workingDirectory = .ok workingDirectory →
      P { c.program.config with executable, arguments, environment, workingDirectory }) :
    Saves P c (programSetCommand p command c) := by
  unfold programSetCommand
  by_cases hpurged : c.program.purged = true
  · rw [if_pos hpurged]
    exact .kept (by decide) (.refl c)
  rw [if_neg hpurged]
  have hunpurged := Bool.eq_false_iff.mpr hpurged
  cases hexecutable : command.executable with
  | error code => exact .kept code.property (.refl c)
  | ok executable =>
      dsimp only
      split_ifs
      · exact .kept (by decide) (.refl c)
      cases harguments : command.arguments with
      | error code => exact .kept code.property (.refl c)
      | ok arguments =>
          cases henvironment : command.environment with
          | error code => exact .kept code.property (.refl c)
          | ok environment =>
              cases hdirectory : command.workingDirectory with
              | error code => exact .kept code.property (.refl c)
              | ok workingDirectory =>
                  dsimp only
                  split_ifs
                  · exact .kept (by decide) (.refl c)
                  · exact saveConfig_saves false (hallowed _ _ _ _ hunpurged hexecutable
                      harguments henvironment hdirectory) hunpurged

theorem lookupFileName_error {redirection : ProgramStdioRedirection}
    {fileName : Except APIError CString} {code : APIE}
    (h : lookupFileName redirection fileName = .error code) : code ≠ .success := by
  unfold lookupFileName at h
  split_ifs at h
  cases fileName with
  | error code =>
      cases h
      exact code.property
  | ok name =>
      cases name with
      | nil =>
          cases h
          decide
      | cons _ _ => cases h

theorem programSetStdioRedirection_saves {redirections : Redirections}
    (hallowed : ∀ stdinRedirection stdoutRedirection stderrRedirection stdinFileName stdoutFileName
      stderrFileName, c.program.purged = false → checkRedirections redirections =
        some (stdinRedirection, stdoutRedirection, stderrRedirection) →
      lookupFileName stdinRedirection redirections.stdinFileName = .ok stdinFileName →
      lookupFileName stdoutRedirection redirections.stdoutFileName = .ok stdoutFileName →
      lookupFileName stderrRedirection redirections.stderrFileName = .ok stderrFileName →
      P { c.program.config with
        stdinRedirection, stdinFileName
        stdoutRedirection, stdoutFileName
        stderrRedirection, stderrFileName }) :
    Saves P c (programSetStdioRedirection p redirections c) := by
  unfold programSetStdioRedirection
  by_cases hpurged : c.program.purged = true
  · rw [if_pos hpurged]
    exact .kept (by decide) (.refl c)
  rw [if_neg hpurged]
  have hunpurged := Bool.eq_false_iff.mpr hpurged
  cases hchecked : checkRedirections redirections with
  | none => exact .kept (by decide) (.refl c)
  | some checked =>
      obtain ⟨first, second, third⟩ := checked
      dsimp only
      cases hstdin : lookupFileName first redirections.stdinFileName with
      | error code => exact .kept (lookupFileName_error hstdin) (.refl c)
      | ok stdinFileName =>
          cases hstdout : lookupFileName second redirections.stdoutFileName with
          | error code => exact .kept (lookupFileName_error hstdout) (.refl c)
          | ok stdoutFileName =>
              cases hstderr : lookupFileName third redirections.stderrFileName with
              | error code => exact .kept (lookupFileName_error hstderr) (.refl c)
              | ok stderrFileName =>
                  exact saveConfig_saves false
                    (hallowed _ _ _ _ _ _ hunpurged hchecked hstdin hstdout hstderr) hunpurged

theorem lookupStartFields_error {startMode : ProgramStartMode}
    {startFields : Except APIError CString} {code : APIE}
    (h : lookupStartFields startMode startFields = .error code) : code ≠ .success := by
  unfold lookupStartFields at h
  split_ifs at h
  cases startFields with
  | error code =>
      cases h
      exact code.property
  | ok fields =>
      cases fields with
      | nil =>
          cases h
          decide
      | cons _ _ => cases h

theorem programSetSchedule_saves {schedule : Schedule}
    (hallowed : ∀ startMode startFields, c.program.purged = false →
      lookupStartFields startMode schedule.startFields = .ok startFields →
      P { c.program.config with
        startMode, startFields
        continueAfterError := schedule.continueAfterError ≠ 0
        startInterval := schedule.startInterval }) :
    Saves P c (programSetSchedule p schedule c) := by
  unfold programSetSchedule
  by_cases hpurged : c.program.purged = true
  · rw [if_pos hpurged]
    exact .kept (by decide) (.refl c)
  rw [if_neg hpurged]
  have hunpurged := Bool.eq_false_iff.mpr hpurged
  cases startModeOfByte schedule.startMode with
  | none => exact .kept (by decide) (.refl c)
  | some startMode =>
      dsimp only
      split_ifs
      · exact .kept (by decide) (.refl c)
      cases hfields : lookupStartFields startMode schedule.startFields with
      | error code => exact .kept (lookupStartFields_error hfields) (.refl c)
      | ok startFields => exact saveConfig_saves true (hallowed _ _ hunpurged hfields) hunpurged

-- A purge that succeeds marks the program, and nothing else.
theorem programPurge_identity (cookie : UInt32) (renames : List RenameResult) :
    ((programPurge p cookie renames c).1 = .success ∧
        (programPurge p cookie renames c).2.program.identity =
          { c.program.identity with purged := true }) ∨
      (programPurge p cookie renames c).1 ≠ .success ∧
        c.Keeps (programPurge p cookie renames c).2 := by
  have hattempts : ∀ (attempts : Nat) (renames : List RenameResult) (c : Context),
      ((purgeAttempts attempts renames c).1 = .success ∧
          (purgeAttempts attempts renames c).2.program.identity =
            { c.program.identity with purged := true }) ∨
        (purgeAttempts attempts renames c).1 ≠ .success ∧
          c.Keeps (purgeAttempts attempts renames c).2 := by
    intro attempts
    induction attempts with
    | zero => exact fun renames c => Or.inr ⟨(by intro h; cases h), .refl c⟩
    | succ attempts ih =>
        intro renames c
        unfold purgeAttempts
        cases renames.headD .renamed with
        | renamed => exact Or.inl ⟨rfl, rfl⟩
        | failed code => exact Or.inr ⟨code.property, .refl c⟩
        | «exists» =>
            obtain ⟨result, c₁, hcall, hkeeps⟩ := call_identity c
            dsimp only
            rw [hcall]
            cases result with
            | some code => exact Or.inr ⟨code.property, hkeeps⟩
            | none =>
                rcases ih renames.tail c₁ with ⟨hcode, hpurged⟩ | ⟨hcode, hrest⟩
                · refine Or.inl ⟨hcode, hpurged.trans ?_⟩
                  rw [hkeeps]
                · exact Or.inr ⟨hcode, hkeeps.trans hrest⟩
  unfold programPurge
  split_ifs
  · exact Or.inr ⟨(by intro h; cases h), .refl c⟩
  · exact Or.inr ⟨(by intro h; cases h), .refl c⟩
  have hshutdown := @shutdown_identity p c
  generalize programSchedulerShutdown p c = c₁ at hshutdown ⊢
  obtain ⟨result, c₂, hcall, hkeeps⟩ := call_identity c₁
  rw [hcall]
  cases result with
  | some code => exact Or.inr ⟨code.property, hshutdown.trans hkeeps⟩
  | none =>
      rcases hattempts 1000 renames c₂ with ⟨hcode, hpurged⟩ | ⟨hcode, hrest⟩
      · refine Or.inl ⟨hcode, hpurged.trans ?_⟩
        rw [hshutdown.trans hkeeps]
      · exact Or.inr ⟨hcode, (hshutdown.trans hkeeps).trans hrest⟩

end Requests

section Worlds

namespace World

variable {w w' w'' : World} {outcomes : Outcomes}

-- Every program that is there was there before, and is the same.
def Keeps (w w' : World) : Prop :=
  ∀ q program', w'.programs.get q = some program' →
    ∃ program, w.programs.get q = some program ∧ program'.identity = program.identity

theorem Keeps.refl (w : World) : w.Keeps w := fun _ program' hget => ⟨program', hget, rfl⟩

theorem Keeps.trans (h : w.Keeps w') (h' : w'.Keeps w'') : w.Keeps w'' := by
  intro q program'' hget''
  obtain ⟨program', hget', hsame'⟩ := h' q program'' hget''
  obtain ⟨program, hget, hsame⟩ := h q program' hget'
  exact ⟨program, hget, hsame'.trans hsame⟩

theorem Keeps.of_programs (h : w'.programs = w.programs) : w.Keeps w' := by
  intro q program' hget'
  rw [h] at hget'
  exact ⟨program', hget', rfl⟩

theorem modify_identity (p : ProgramRef) {f : Program → Program}
    (hf : ∀ program, w.programs.get p = some program → (f program).identity = program.identity)
    (daemon : Daemon) (log : List Effect) :
    w.Keeps { programs := w.programs.modify p f, daemon, log } := by
  intro q program' hget'
  change (w.programs.modify p f).get q = some program' at hget'
  rw [Heap.get_modify] at hget'
  split_ifs at hget' with hq
  · obtain ⟨program, hget, rfl⟩ := Option.map_eq_some_iff.mp hget'
    exact ⟨program, hget, hf program (hq ▸ hget)⟩
  · exact ⟨program', hget', rfl⟩

theorem modifyProgram_identity (p : ProgramRef) {f : Program → Program}
    (hf : ∀ program, (f program).identity = program.identity) : w.Keeps (w.modifyProgram p f) :=
  modify_identity p (fun program _ => hf program) _ _

theorem replaceProgram_identity {program replaced : Program} (hget : w.programs.get p = some program)
    (hsame : replaced.identity = program.identity) (daemon : Daemon) (log : List Effect) :
    w.Keeps { programs := w.programs.modify p fun _ => replaced, daemon, log } := by
  refine modify_identity p (fun other hother => ?_) daemon log
  rw [hget] at hother
  cases hother
  exact hsame

theorem run_identity {f : Context → Context} (hf : ∀ c : Context, c.Keeps (f c)) (p : ProgramRef)
    (outcomes : Outcomes) : w.Keeps (w.run p f outcomes).1 := by
  unfold run
  cases hget : w.programs.get p with
  | none => exact .of_programs rfl
  | some program =>
      refine replaceProgram_identity hget ?_ _ _
      exact hf ⟨program, w.daemon, w.log, outcomes⟩

theorem destroyUnreferenced_identity (p : ProgramRef) (outcomes : Outcomes) :
    w.Keeps (w.destroyUnreferenced p outcomes) := by
  unfold destroyUnreferenced
  cases w.programs.get p with
  | none => exact .refl w
  | some program =>
      dsimp only
      split_ifs
      · refine Keeps.trans (run_identity (fun _ => @destroy_identity p _) p outcomes) ?_
        intro q program' hget'
        change (Heap.free _ p).get q = some program' at hget'
        rw [Heap.get_free] at hget'
        split_ifs at hget'
        exact ⟨program', hget', rfl⟩
      · exact .refl w

theorem removeProgramInternalReference_identity (p : ProgramRef) (outcomes : Outcomes) :
    w.Keeps (w.removeProgramInternalReference p outcomes) := by
  unfold removeProgramInternalReference
  split_ifs
  · exact .refl w
  · refine Keeps.trans (modifyProgram_identity p fun _ => ?_) (destroyUnreferenced_identity p outcomes)
    rfl

theorem removeProcessExternalReference_programs (process : ProcessRef) :
    (w.removeProcessExternalReference process).programs = w.programs := by
  unfold removeProcessExternalReference
  cases w.daemon.processes.get process with
  | none => rfl
  | some found =>
      dsimp only
      split_ifs <;> rfl

end World

end Worlds

end RedApid.Scheduling

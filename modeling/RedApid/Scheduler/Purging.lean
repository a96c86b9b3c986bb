import RedApid.Scheduler.Counts
import RedApid.Scheduler.Finality

namespace RedApid.Scheduling

open Memory

variable {w w' : World} {p : ProgramRef} {program : Program} {c : Context}

section Setters

theorem wrapMessage_daemon (format : String) (code : Option APIError) :
    (wrapMessage format code c).2.program = c.program ∧
      (wrapMessage format code c).2.daemon = c.daemon := by
  unfold wrapMessage Context.call
  cases c.outcomes.calls.headD none with
  | some _ => exact ⟨rfl, rfl⟩
  | none => exact ⟨rfl, rfl⟩

theorem stop_crashed (message : Option MessageRef) :
    (programSchedulerStop p message c).daemon.crashed = c.daemon.crashed := by
  have habort : (programSchedulerAbortObserver p c).daemon.crashed = c.daemon.crashed := by
    unfold programSchedulerAbortObserver
    dsimp only
    split_ifs <;> rfl
  have htimer : ∀ c : Context, (stopTimer p c).daemon = c.daemon := by
    intro c
    unfold stopTimer
    split_ifs
    · unfold Context.timerStop
      cases c.outcomes.timerStops.headD none with
      | none => rfl
      | some code => exact (wrapMessage_daemon _ _).2
    · rfl
  have hcron : ∀ c : Context, (stopCron c).daemon.crashed = c.daemon.crashed := by
    intro c
    unfold stopCron
    split_ifs <;> rfl
  unfold programSchedulerStop
  rw [setState_daemon, hcron, htimer, habort]

-- A setter whose update fails. The new config is there, and nothing is running.
structure Stops (config : ProgramSettings) (c c' : Context) : Prop where
  config : c'.program.config = config
  purged : c'.program.purged = c.program.purged
  shutdown : c'.program.scheduler.shutdown = false
  stopped : c'.program.scheduler.state = .stopped
  last : c'.program.scheduler.lastSpawnedProcess = c.program.scheduler.lastSpawnedProcess
  processes : c'.daemon.processes = c.daemon.processes
  crashed : c'.daemon.crashed = c.daemon.crashed
  brickd : c'.daemon.brickdConnected = c.daemon.brickdConnected
  starts : starts c'.log = starts c.log

theorem handleError_stops (h : c.Good p) (hshutdown : c.program.scheduler.shutdown = false)
    (format : String) (code : Option APIError) :
    Stops c.program.config c (programSchedulerHandleError p format code c) := by
  obtain ⟨hprogram, hdaemon⟩ := @wrapMessage_daemon c format code
  have hmoves := handleError_moves h format code
  obtain ⟨-, hlast, hprocesses⟩ :=
    @stop_keeps p (wrapMessage format code c).2 (wrapMessage format code c).1
  have hcrashed := @stop_crashed p (wrapMessage format code c).2 (wrapMessage format code c).1
  exact
    { config := by rw [hmoves.program]
      purged := by rw [hmoves.program]
      shutdown := hmoves.shutdown.trans hshutdown
      stopped := handleError_state format code
      last := hlast.trans (by rw [hprogram])
      processes := hprocesses.trans (by rw [hdaemon])
      crashed := hcrashed.trans (by rw [hdaemon])
      brickd := hmoves.frame.brickd
      starts := handleError_starts format code }

-- The config is saved, and the first call behind that fails.
def Outcomes.saveOnly : Outcomes :=
  { Outcomes.succeed with calls := [none, some ⟨.internalError, by decide⟩] }

theorem checkBrickd_eq : ∃ waitingForBrickd,
    checkBrickd c = c.setScheduler { c.program.scheduler with waitingForBrickd } := by
  unfold checkBrickd
  split_ifs
  · exact ⟨false, rfl⟩
  · exact ⟨c.program.scheduler.waitingForBrickd, rfl⟩

theorem prepareFilesystem_fails {code : APIError}
    (hfails : c.outcomes.calls.headD none = some code) :
    ∃ format, programSchedulerPrepareFilesystem p c =
      (some code, programSchedulerHandleError p format code c.call.2) := by
  have hcall : c.call = (some code, c.call.2) := by
    unfold Context.call
    rw [hfails]
  have hneeded : (none : Option ProgramStdioRedirection).getD .file = .file := rfl
  refine ⟨"Could not wrap absolute program working directory name into string object: %s (%d)", ?_⟩
  unfold programSchedulerPrepareFilesystem filesystemCalls runFilesystemCalls
  rw [if_pos hneeded, hcall]

theorem update_stops (h : c.Good p) (hshutdown : c.program.scheduler.shutdown = false)
    {code : APIError} (hfails : c.outcomes.calls.headD none = some code) (tryStart : Bool) :
    Stops c.program.config c (programSchedulerUpdate p tryStart c) := by
  have hrunning : ¬c.program.scheduler.shutdown = true := by simp [hshutdown]
  have hgood := (call_moves (checkBrickd_moves h).good).good
  obtain ⟨waitingForBrickd, hcheck⟩ := @checkBrickd_eq c
  have hleft : (checkBrickd c).outcomes.calls.headD none = some code := by
    rw [hcheck]
    exact hfails
  obtain ⟨format, hprepare⟩ := prepareFilesystem_fails (p := p) hleft
  have hstops := handleError_stops hgood (by rw [hcheck]; exact hshutdown) format (some code)
  unfold programSchedulerUpdate
  rw [if_neg hrunning, hprepare]
  rw [hcheck] at hstops ⊢
  exact ⟨hstops.config, hstops.purged, hstops.shutdown, hstops.stopped, hstops.last,
    hstops.processes, hstops.crashed, hstops.brickd, hstops.starts⟩

theorem saveConfig_stops (h : c.Good p) (hshutdown : c.program.scheduler.shutdown = false)
    (houtcomes : c.outcomes = .saveOnly) (config : ProgramSettings) (tryStart : Bool) :
    Stops config c (saveConfig p config tryStart c).2 := by
  have hcall : c.call = (none, c.call.2) := by
    unfold Context.call
    rw [houtcomes]
    rfl
  have hleft : c.call.2.outcomes.calls.headD none = some ⟨.internalError, by decide⟩ := by
    unfold Context.call
    rw [houtcomes]
    rfl
  have hsaved : Context.Good p { c.call.2 with program := { c.program with config } } :=
    h.config config
  have hstops := update_stops hsaved hshutdown hleft tryStart
  have hresult : (saveConfig p config tryStart c).2 = programSchedulerUpdate p tryStart
      { c.call.2 with program := { c.program with config } } := by
    unfold saveConfig
    rw [hcall]
    rfl
  rw [hresult]
  exact ⟨hstops.config, hstops.purged, hstops.shutdown, hstops.stopped, hstops.last,
    hstops.processes, hstops.crashed, hstops.brickd, hstops.starts⟩

end Setters

section Start

-- Everything that can be redirected is, and the program starts always.
def idleRedirections : Redirections where
  stdin := 0
  stdinFileName := .ok []
  stdout := 0
  stdoutFileName := .ok []
  stderr := 0
  stderrFileName := .ok []

def alwaysSchedule : Schedule where
  startMode := 1
  continueAfterError := 0
  startInterval := 1
  startFields := .ok []

theorem setStdioRedirection_eq (hpurged : c.program.purged = false) :
    programSetStdioRedirection p idleRedirections c =
      saveConfig p { c.program.config with
        stdinRedirection := .devNull, stdinFileName := none
        stdoutRedirection := .devNull, stdoutFileName := none
        stderrRedirection := .devNull, stderrFileName := none } false c := by
  unfold programSetStdioRedirection
  rw [if_neg (by rw [hpurged]; nofun)]
  rfl

theorem setSchedule_eq (hpurged : c.program.purged = false) :
    programSetSchedule p alwaysSchedule c =
      saveConfig p { c.program.config with
        startMode := .always, startFields := none, continueAfterError := false
        startInterval := 1 } true c := by
  unfold programSetSchedule
  rw [if_neg (by rw [hpurged]; nofun)]
  rfl

-- /dev/null can be opened, and nothing that follows fails either.
def Opens (c : Context) (result : Option FileRef × Context) : Prop :=
  ∃ file c', result = (some file, c') ∧ c'.program = c.program ∧ c'.outcomes.calls = []

theorem openFile_opens (format : String) (hcalls : c.outcomes.calls = []) :
    Opens c (openFile p format c) := by
  unfold openFile Context.call
  rw [hcalls]
  exact ⟨_, _, rfl, rfl, rfl⟩

theorem opensFiles_of_devNull (hstdin : c.program.config.stdinRedirection = .devNull)
    (hstdout : c.program.config.stdoutRedirection = .devNull)
    (hstderr : c.program.config.stderrRedirection = .devNull) (hcalls : c.outcomes.calls = []) :
    opensFiles p c = true := by
  have hfirst : Opens c (programSchedulerPrepareStdin p c) := by
    unfold programSchedulerPrepareStdin
    rw [hstdin]
    exact openFile_opens _ hcalls
  obtain ⟨stdin, c₁, hfirst, hprogram₁, hcalls₁⟩ := hfirst
  have hsecond : Opens c₁ (programSchedulerPrepareStdout p c₁) := by
    unfold programSchedulerPrepareStdout
    rw [hprogram₁, hstdout]
    exact openFile_opens _ hcalls₁
  obtain ⟨stdout, c₂, hsecond, hprogram₂, hcalls₂⟩ := hsecond
  have hthird : Opens c₂ (programSchedulerPrepareStderr p stdout c₂) := by
    unfold programSchedulerPrepareStderr
    rw [hprogram₂, hprogram₁, hstderr]
    exact openFile_opens _ hcalls₂
  obtain ⟨stderr, c₃, hthird, -⟩ := hthird
  unfold opensFiles
  rw [hfirst]
  dsimp only
  rw [hsecond]
  dsimp only
  rw [hthird]
  rfl

theorem startedRunning_spawnsOf : spawnsOf p (startedRunning p c).log = spawnsOf p c.log := by
  unfold startedRunning programSchedulerSetState
  split_ifs
  · rfl
  · have hold := spawnsOf_of_starts (p := p)
      (@releaseOldMessage_starts (programSchedulerAbortObserver p c) none)
    exact (List.filter_cons_of_neg Bool.false_ne_true).trans hold

-- A stopped scheduler whose last process is dead starts the next one.
theorem continue_spawns (h : c.Good p) (hshutdown : c.program.scheduler.shutdown = false)
    (hstopped : c.program.scheduler.state = .stopped)
    (hmode : c.program.config.startMode = .always) (hdead : c.lastAlive = false)
    (hstdin : c.program.config.stdinRedirection = .devNull)
    (hstdout : c.program.config.stdoutRedirection = .devNull)
    (hstderr : c.program.config.stderrRedirection = .devNull) (hcalls : c.outcomes.calls = []) :
    spawnsOf p (programSchedulerContinue p c).log ≠ spawnsOf p c.log := by
  have hprogram := @startedRunning_program p c
  have hgood := (startedRunning_moves h hshutdown).good
  have hrunning : ¬c.program.scheduler.shutdown = true := by simp [hshutdown]
  have hcontinue : programSchedulerContinue p c =
      programSchedulerSpawnProcess p (startedRunning p c) := by
    unfold programSchedulerContinue
    rw [if_neg hrunning, if_pos ⟨hstopped, by simp [hmode]⟩, start_eq hshutdown, hmode]
  have hlast : (startedRunning p c).lastAlive = false := by
    refine Eq.trans ?_ ((@abortObserver_lastAlive p c).trans hdead)
    unfold Context.lastAlive startedRunning
    rw [setState_program, setState_daemon]
  have hcalls' : (startedRunning p c).outcomes.calls = [] := by
    unfold startedRunning
    rw [setState_outcomes]
    exact hcalls
  have hopens : opensFiles p (startedRunning p c) = true :=
    opensFiles_of_devNull (by rw [hprogram]; exact hstdin) (by rw [hprogram]; exact hstdout)
      (by rw [hprogram]; exact hstderr) hcalls'
  rcases spawnProcess_starts hgood (by rw [hprogram]) with
    ⟨-, program, directory, hstarts⟩ | ⟨hno, -⟩
  · rw [hcontinue, spawnsOf_eq, hstarts, List.filter_cons_of_pos (by exact decide_eq_true rfl),
      ← spawnsOf_eq, startedRunning_spawnsOf]
    exact List.cons_ne_self _ _
  · exact absurd ⟨hlast, hopens⟩ hno

end Start

section Later

-- What comes later, apart from program_start, which does not ask the scheduler.
def Indirect (p : ProgramRef) (event : World.Event × Outcomes) : Prop :=
  event.1 ≠ .request (.programStart p)

-- A program that has not been purged, as a client finds it.
structure World.Usable (w : World) (p : ProgramRef) (program : Program) : Prop where
  inv : w.Inv
  get : w.programs.get p = some program
  running : w.daemon.crashed = false
  connected : w.daemon.brickdConnected = true
  purged : program.purged = false
  shutdown : program.scheduler.shutdown = false

theorem World.next_of_step {event : World.Event} {outcomes : Outcomes}
    (hrunning : w.daemon.crashed = false) (hstep : w.step outcomes event = some w') :
    w.next (event, outcomes) = some w' := by
  unfold World.next
  rw [hrunning]
  exact hstep

-- A client changes the config, and the scheduler stops.
theorem World.Usable.set (h : w.Usable p program) (request : World.Request)
    {f : Context → APIE × Context} {config : ProgramSettings} {tryStart : Bool}
    (hrequest : w.handleRequest .saveOnly request =
      some (w.run p (fun c => (f c).2) .saveOnly).1)
    (hf : f (w.context program .saveOnly) =
      saveConfig p config tryStart (w.context program .saveOnly)) :
    ∃ w' program', w.next (.request request, .saveOnly) = some w' ∧ w'.Usable p program' ∧
      program'.config = config ∧ program'.scheduler.state = .stopped ∧
      spawnsOf p w'.log = spawnsOf p w.log := by
  have hgood : (w.context program .saveOnly).Good p := h.inv.core.base p program h.get
  have hstops := saveConfig_stops hgood h.shutdown rfl config tryStart
  rw [← hf] at hstops
  have hnext : w.next (.request request, .saveOnly) =
      some (w.put p (f (w.context program .saveOnly)).2) := by
    rw [World.run_eq h.get] at hrequest
    exact World.next_of_step h.running ((if_pos h.connected).trans hrequest)
  exact ⟨_, _, hnext,
    { inv := h.inv.next hnext
      get := (World.get_put h.get _ p).trans (if_pos rfl)
      running := hstops.crashed.trans h.running
      connected := hstops.brickd.trans h.connected
      purged := hstops.purged.trans h.purged
      shutdown := hstops.shutdown },
    hstops.config, hstops.stopped, spawnsOf_of_starts hstops.starts⟩

-- The last process dies, if it is still alive.
theorem World.Usable.die (h : w.Usable p program) (hstopped : program.scheduler.state = .stopped) :
    ∃ events w', Trace.run World.next w events = some w' ∧ w'.Usable p program ∧
      (w'.context program .succeed).lastAlive = false ∧ spawnsOf p w'.log = spawnsOf p w.log ∧
      ∀ event ∈ events, Indirect p event := by
  cases halive : (w.context program .succeed).lastAlive with
  | false => exact ⟨[], w, rfl, h, halive, rfl, fun _ hmem => absurd hmem List.not_mem_nil⟩
  | true =>
      obtain ⟨q, hlast, hq⟩ := (Option.any_eq_true _ _).mp halive
      change program.scheduler.lastSpawnedProcess = some q at hlast
      obtain ⟨process, hprocess, hchanged⟩ := (h.inv.core.base p program h.get).last q hlast
      have hrelease := ((h.inv.core.base p program h.get).process q process hprocess hchanged).2.1
      have hqalive : process.state.isAlive = true := by
        change w.daemon.isAlive q = true at hq
        unfold Daemon.isAlive at hq
        rwa [hprocess] at hq
      have hdies : (w.modifyProcess q fun process =>
          { process with state := .killed, exitCode := 9 }).programs.get p = some program := h.get
      have hcontext : programSchedulerHandleProcessStateChange p
          ((w.modifyProcess q fun process =>
            { process with state := .killed, exitCode := 9 }).context program .succeed) =
          (w.modifyProcess q fun process =>
            { process with state := .killed, exitCode := 9 }).context program .succeed :=
        handleProcessStateChange_idle hstopped
      have hnext : w.next (.processStateChange q .killed 9, .succeed) =
          some ((w.modifyProcess q fun process =>
            { process with state := .killed, exitCode := 9 }).put p
              ((w.modifyProcess q fun process =>
                { process with state := .killed, exitCode := 9 }).context program .succeed)) := by
        apply World.next_of_step h.running
        unfold World.step
        dsimp only
        rw [hprocess]
        dsimp only
        rw [if_pos hqalive]
        unfold World.processHandleStateChange
        rw [hchanged, hrelease]
        dsimp only
        rw [World.run_eq hdies, hcontext]
        rfl
      refine ⟨[(.processStateChange q .killed 9, .succeed)], _, Trace.run_cons hnext [], ?_, ?_,
        rfl, fun event hmem => ?_⟩
      · exact
          { h with
            inv := h.inv.next hnext
            get := (World.get_put hdies _ p).trans (if_pos rfl) }
      · have hget : (w.daemon.processes.modify q fun process =>
            { process with state := .killed, exitCode := 9 }).get q =
            some { process with state := .killed, exitCode := 9 } := by
          rw [Heap.get_modify_self, hprocess]
          rfl
        change program.scheduler.lastSpawnedProcess.any _ = false
        rw [hlast, Option.any_some]
        unfold Daemon.isAlive
        change Option.any _ ((w.daemon.processes.modify q fun process =>
          { process with state := .killed, exitCode := 9 }).get q) = false
        rw [hget]
        rfl
      · rw [List.mem_singleton.mp hmem]
        nofun

-- The daemon calls process_spawn for the program.
def World.Starts (w : World) (p : ProgramRef) (events : List (World.Event × Outcomes)) : Prop :=
  ∃ w', Trace.run World.next w events = some w' ∧ spawnsOf p w'.log ≠ spawnsOf p w.log

-- Nothing but a purge keeps a client from starting a program through its scheduler.
theorem World.Usable.starts (h : w.Usable p program) :
    ∃ events, w.Starts p events ∧ ∀ event ∈ events, Indirect p event := by
  have hsome : ∀ {w : World} {program : Program}, w.Usable p program →
      (w.programs.get p).isSome = true := fun h => by rw [h.get]; rfl
  obtain ⟨w₁, program₁, hnext₁, h₁, hconfig₁, -, hsame₁⟩ :=
    h.set (.programSetStdioRedirection p idleRedirections) (if_pos (hsome h))
      (setStdioRedirection_eq h.purged)
  obtain ⟨w₂, program₂, hnext₂, h₂, hconfig₂, hstopped₂, hsame₂⟩ :=
    h₁.set (.programSetSchedule p alwaysSchedule) (if_pos (hsome h₁)) (setSchedule_eq h₁.purged)
  obtain ⟨events, w₃, hrun₃, h₃, hdead₃, hsame₃, hindirect⟩ := h₂.die hstopped₂
  have hnext₄ : w₃.next (.request (.programContinueSchedule p), .succeed) =
      some (w₃.put p (programSchedulerContinue p (w₃.context program₂ .succeed))) := by
    have hrequest : w₃.handleRequest .succeed (.programContinueSchedule p) =
        some (w₃.run p (programSchedulerContinue p) .succeed).1 := if_pos (hsome h₃)
    rw [World.run_eq h₃.get] at hrequest
    exact World.next_of_step h₃.running ((if_pos h₃.connected).trans hrequest)
  have hgood : (w₃.context program₂ .succeed).Good p := h₃.inv.core.base p program₂ h₃.get
  have hstdin : program₂.config.stdinRedirection = .devNull := by
    rw [hconfig₂]
    exact congrArg ProgramSettings.stdinRedirection hconfig₁
  have hstdout : program₂.config.stdoutRedirection = .devNull := by
    rw [hconfig₂]
    exact congrArg ProgramSettings.stdoutRedirection hconfig₁
  have hstderr : program₂.config.stderrRedirection = .devNull := by
    rw [hconfig₂]
    exact congrArg ProgramSettings.stderrRedirection hconfig₁
  have hmode : program₂.config.startMode = .always := by rw [hconfig₂]
  have hspawns :=
    continue_spawns hgood h₃.shutdown hstopped₂ hmode hdead₃ hstdin hstdout hstderr rfl
  refine ⟨(.request (.programSetStdioRedirection p idleRedirections), .saveOnly) ::
    (.request (.programSetSchedule p alwaysSchedule), .saveOnly) ::
      (events ++ [(.request (.programContinueSchedule p), .succeed)]),
    ⟨w₃.put p (programSchedulerContinue p (w₃.context program₂ .succeed)), ?_, ?_⟩, ?_⟩
  · rw [Trace.run_cons hnext₁, Trace.run_cons hnext₂, Trace.run_append hrun₃,
      Trace.run_cons hnext₄]
    rfl
  · rw [← hsame₁, ← hsame₂, ← hsame₃]
    exact hspawns
  · intro event hmem
    rcases List.mem_cons.mp hmem with rfl | hmem
    · nofun
    rcases List.mem_cons.mp hmem with rfl | hmem
    · nofun
    rcases List.mem_append.mp hmem with hmem | hmem
    · exact hindirect event hmem
    · rw [List.mem_singleton.mp hmem]
      nofun

-- A scheduler that was shut down does not start anything, whatever comes later.
theorem World.Inv.not_starts (h : w.Inv) (hshut : w.Shut p)
    {events : List (World.Event × Outcomes)} (hindirect : ∀ event ∈ events, Indirect p event) :
    ¬w.Starts p events := by
  rintro ⟨w', hrun, hspawns⟩
  have halways := Trace.always_of_along
    (I := fun reached => reached.Inv ∧ reached.Shut p ∧
      spawnsOf p reached.log = spawnsOf p w.log) (C := fun _ event _ => Indirect p event)
    (fun reached event reached' hreached hnext hevent => by
      obtain ⟨hinv, hshut, hsame⟩ := hreached
      have hlog := (hinv.next_spawnsOf hshut hnext).mpr fun hrestarts => hevent hrestarts.1
      exact ⟨hinv.next hnext, World.DoesAll.shut (hinv.next_does hnext) hinv hshut,
        hlog.trans hsame⟩)
    ⟨h, hshut, rfl⟩ (Trace.along_of_mem hindirect w)
  exact hspawns (halways.of_run hrun).2.2

end Later

section Purge

variable {cookie : UInt32} {renames : List RenameResult} {outcomes : Outcomes}

-- What program_purge leaves, if it returns `code`. A failure leaves the references, and whatever
-- comes later starts the program exactly if it could have done so before.
structure PurgeExact (p : ProgramRef) (program : Program) (code : APIE) (w w' : World) : Prop where
  references : code ≠ .success →
    ∃ program', w'.programs.get p = some program' ∧ SameReferences program program'
  reacts : code ≠ .success → ∀ events, w'.Starts p events ↔ w.Starts p events
  defined : code = .success → program.internalReferenceCount = program.listed + 1
  purged : code = .success → ∀ program', w'.programs.get p = some program' →
    program'.purged = true ∧ program'.internalReferenceCount = program.listed ∧
      program'.externalReferenceCount = program.externalReferenceCount ∧
      program'.listed = program.listed
  destroyed : code = .success → (w'.programs.get p = none ↔
    program.listed = 0 ∧ program.externalReferenceCount = 0)
  others : ∀ q, q ≠ p → w'.programs.get q = w.programs.get q

-- The cookie is right, but the directory of a program whose scheduler was not shut down before
-- cannot be moved.
structure BreaksOff (cookie : UInt32) (renames : List RenameResult) (outcomes : Outcomes)
    (program : Program) (w : World) : Prop where
  purgeable : Purgeable cookie program
  running : program.scheduler.shutdown = false
  unmoved : ¬Movable renames (w.context program outcomes)

theorem World.put_same (hget : w.programs.get p = some program) (hprogram : c.program = program)
    (hdaemon : c.daemon = w.daemon) (hlog : c.log = w.log) : w.put p c = w := by
  have hmodify : w.programs.modify p (fun _ => program) = w.programs :=
    (Heap.modify_congr_of_get (f := fun _ => program) (g := id) hget rfl).trans (Heap.modify_id _ _)
  unfold World.put
  rw [hprogram, hdaemon, hlog, hmodify]

theorem PurgeExact.of_same (hget : w.programs.get p = some program) {code : APIE}
    (hcode : code ≠ .success) : PurgeExact p program code w w where
  references _ := ⟨program, hget, SameReferences.refl program⟩
  reacts _ _ := Iff.rfl
  defined hsuccess := absurd hsuccess hcode
  purged hsuccess := absurd hsuccess hcode
  destroyed hsuccess := absurd hsuccess hcode
  others _ _ := rfl

theorem PurgeExact.of_purged (hget : w.programs.get p = some program)
    (hcounted : program.Counted) (hunpurged : program.purged = false)
    (hpurged : c.program.purged = true)
    (hinternal : c.program.internalReferenceCount = program.internalReferenceCount)
    (hexternal : c.program.externalReferenceCount = program.externalReferenceCount)
    (hlisted : c.program.listed = program.listed) (outcomes : Outcomes) :
    PurgeExact p program .success w ((w.put p c).removeProgramInternalReference p outcomes) := by
  have hdefined : program.internalReferenceCount = program.listed + 1 := by
    unfold Program.Counted at hcounted
    rw [hunpurged] at hcounted
    exact hcounted
  have hself : (w.put p c).programs.get p = some c.program :=
    (World.get_put hget c p).trans (if_pos rfl)
  have hresult := World.get_removeProgramInternalReference hself (hinternal.trans hdefined) outcomes
  have hp := hresult p
  rw [if_pos rfl, hexternal] at hp
  refine
    { references := fun hfailed => absurd rfl hfailed
      reacts := fun hfailed => absurd rfl hfailed
      defined := fun _ => hdefined
      purged := fun _ program' hprogram' => ?_
      destroyed := fun _ => ?_
      others := fun q hq => ?_ }
  · rw [hp] at hprogram'
    obtain ⟨-, hsome⟩ := Option.ite_none_left_eq_some.mp hprogram'
    cases hsome
    exact ⟨hpurged, rfl, rfl, hlisted⟩
  · rw [hp]
    simp
  · rw [hresult q, if_neg hq, World.get_put hget, if_neg hq]

theorem programPurge_next (hget : w.programs.get p = some program)
    (hnext : w.next (.request (.programPurge p cookie renames), outcomes) = some w') :
    w.daemon.crashed = false ∧ w.daemon.brickdConnected = true ∧
      w' = if (programPurge p cookie renames (w.context program outcomes)).1 = .success then
          (w.put p (programPurge p cookie renames (w.context program outcomes)).2)
            |>.removeProgramInternalReference p
              (programPurge p cookie renames (w.context program outcomes)).2.outcomes
        else w.put p (programPurge p cookie renames (w.context program outcomes)).2 := by
  obtain ⟨hcrashed, hstep⟩ := World.next_step hnext
  obtain ⟨hconnected, hrequest⟩ := Option.ite_none_right_eq_some.mp hstep
  obtain ⟨-, hresult⟩ := Option.ite_none_right_eq_some.mp hrequest
  refine ⟨hcrashed, hconnected, ?_⟩
  rw [← World.programPurge_eq hget]
  exact (Option.some.inj hresult).symm

-- The scheduler is shut down, and the program is left behind without it.
theorem BreaksOff.not_exact (h : BreaksOff cookie renames outcomes program w) (hinv : w.Inv)
    (hget : w.programs.get p = some program)
    (hnext : w.next (.request (.programPurge p cookie renames), outcomes) = some w') :
    ¬PurgeExact p program (programPurge p cookie renames (w.context program outcomes)).1 w w' := by
  have hgood : (w.context program outcomes).Good p := hinv.core.base p program hget
  have hshutdown := shutdown_shutDown hgood
  have hinv' := hinv.next hnext
  obtain ⟨hcrashed, hconnected, hw'⟩ := programPurge_next hget hnext
  have hcases := programPurge_cases (p := p) (c := w.context program outcomes) cookie renames
  generalize programPurge p cookie renames (w.context program outcomes) = result at hcases hw' ⊢
  intro hexact
  cases hcases with
  | rejected code _ hrefused => exact hrefused h.purgeable
  | purged _ hmoved _ _ _ => exact h.unmoved hmoved
  | failed code hfailed _ _ hquiet =>
      rw [if_neg hfailed] at hw'
      have husable : w.Usable p program :=
        ⟨hinv, hget, hcrashed, hconnected, h.purgeable.1, h.running⟩
      obtain ⟨events, hstarts, hindirect⟩ := husable.starts
      have hshut : w'.Shut p := by
        rw [hw']
        refine ⟨(Heap.lt_next_of_get hget).trans_eq (Heap.next_modify _ _ _).symm, ?_⟩
        intro other hother
        rw [World.get_put hget, if_pos rfl] at hother
        cases hother
        rw [hquiet.1]
        exact hshutdown.inert.shutdown
      exact hinv'.not_starts hshut hindirect ((hexact.reacts hfailed events).mpr hstarts)

theorem program_purge_exact_iff {x11Enabled : Bool} {before : List (World.Event × Outcomes)}
    (hrun : Trace.run World.next (World.init x11Enabled) before = some w)
    (hget : w.programs.get p = some program)
    (hnext : w.next (.request (.programPurge p cookie renames), outcomes) = some w') :
    PurgeExact p program (programPurge p cookie renames (w.context program outcomes)).1 w w' ↔
      ¬BreaksOff cookie renames outcomes program w := by
  have hinv := World.inv_of_run hrun
  have hcounted := World.counted_of_run hrun p program hget
  have hgood : (w.context program outcomes).Good p := hinv.core.base p program hget
  have hreferences := (shutdown_shutDown hgood).sameReferences
  refine ⟨fun hexact hbreaks => hbreaks.not_exact hinv hget hnext hexact, fun hkeeps => ?_⟩
  obtain ⟨-, -, hw'⟩ := programPurge_next hget hnext
  have hcases := programPurge_cases (p := p) (c := w.context program outcomes) cookie renames
  generalize programPurge p cookie renames (w.context program outcomes) = result at hcases hw' ⊢
  cases hcases with
  | rejected code hfailed _ =>
      rw [if_neg hfailed, World.put_same hget rfl rfl rfl] at hw'
      rw [hw']
      exact .of_same hget hfailed
  | failed code hfailed hpurgeable hunmoved hquiet =>
      have hshutdown : program.scheduler.shutdown = true := by
        by_contra hrunning
        exact hkeeps ⟨hpurgeable, by simpa using hrunning, hunmoved⟩
      -- an earlier attempt has shut the scheduler down
      have hsame : programSchedulerShutdown p (w.context program outcomes) =
          w.context program outcomes := if_pos hshutdown
      rw [hsame] at hquiet
      rw [if_neg hfailed, World.put_same hget hquiet.1 hquiet.2.1 hquiet.2.2] at hw'
      rw [hw']
      exact .of_same hget hfailed
  | @purged c' hpurgeable hmoved hprogram hdaemon hlog =>
      rw [if_pos rfl] at hw'
      rw [hw']
      exact .of_purged hget hcounted hpurgeable.1 (by rw [hprogram])
        (by rw [hprogram]; exact hreferences.internal)
        (by rw [hprogram]; exact hreferences.external)
        (by rw [hprogram]; exact hreferences.listed) _

def connectedGreeter : List (World.Event × Outcomes) :=
  [loadGreeter keeperFile, (.brickdAccept, .succeed)]

theorem connectedGreeter_purge_exact : ∃ w program w',
    Trace.run World.next (World.init false) connectedGreeter = some w ∧
      w.programs.get 0 = some program ∧
      PurgeExact 0 program (programPurge 0 (purgeCookie (ascii "greeter")) []
        (w.context program .succeed)).1 w w' := by
  obtain ⟨w, hrun, program, hget, hmovable, w', hnext⟩ : ∃ w,
      Trace.run World.next (World.init false) connectedGreeter = some w ∧
        ∃ program, w.programs.get 0 = some program ∧ Movable [] (w.context program .succeed) ∧
          ∃ w', w.next (.request (.programPurge 0 (purgeCookie (ascii "greeter")) []), .succeed) =
            some w' :=
    ⟨_, rfl, _, rfl, ⟨rfl, 0, by decide, rfl, fun i hi => absurd hi (Nat.not_lt_zero i)⟩, _, rfl⟩
  exact ⟨w, program, w', hrun, hget,
    (program_purge_exact_iff hrun hget hnext).mpr fun hbreaks => hbreaks.unmoved hmovable⟩

-- The directory is on another file system than /tmp, so it cannot be renamed.
theorem connectedGreeter_purge_not_exact : ∃ w program w',
    Trace.run World.next (World.init false) connectedGreeter = some w ∧
      w.programs.get 0 = some program ∧
      w.next (.request (.programPurge 0 (purgeCookie (ascii "greeter"))
        [.failed ⟨.unknownError, nofun⟩]), .succeed) = some w' ∧
      ¬PurgeExact 0 program (programPurge 0 (purgeCookie (ascii "greeter"))
        [.failed ⟨.unknownError, nofun⟩] (w.context program .succeed)).1 w w' := by
  obtain ⟨w, hrun, program, hget, hpurgeable, hrunning, w', hnext⟩ : ∃ w,
      Trace.run World.next (World.init false) connectedGreeter = some w ∧
        ∃ program, w.programs.get 0 = some program ∧
          Purgeable (purgeCookie (ascii "greeter")) program ∧
          program.scheduler.shutdown = false ∧
          ∃ w', w.next (.request (.programPurge 0 (purgeCookie (ascii "greeter"))
            [.failed ⟨.unknownError, nofun⟩]), .succeed) = some w' :=
    ⟨_, rfl, _, rfl, ⟨rfl, rfl⟩, rfl, _, rfl⟩
  refine ⟨w, program, w', hrun, hget, hnext, ?_⟩
  refine BreaksOff.not_exact ⟨hpurgeable, hrunning, fun hmovable => ?_⟩ (World.inv_of_run hrun)
    hget hnext
  obtain ⟨k, -, hrenamed, hbefore⟩ := hmovable.2
  cases k with
  | zero => cases hrenamed
  | succ k => cases (hbefore 0 (by omega)).1

end Purge

end RedApid.Scheduling

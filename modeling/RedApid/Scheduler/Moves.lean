import RedApid.Scheduler.Openings

namespace RedApid.Scheduling

open Memory

variable {p : ProgramRef} {c : Context}

section Entries

theorem filter_eraseP {α : Type*} {q r : α → Bool} {l : List α}
    (h : ∀ a ∈ l, q a = true → r a = false) : (l.eraseP q).filter r = l.filter r := by
  induction l with
  | nil => rfl
  | cons a l ih =>
      by_cases hq : q a = true
      · rw [List.eraseP_cons_of_pos hq, List.filter_cons, h a List.mem_cons_self hq]
        rfl
      · rw [List.eraseP_cons_of_neg hq, List.filter_cons, List.filter_cons,
          ih fun b hb => h b (List.mem_cons_of_mem _ hb)]

theorem countP_eraseP {α : Type*} {q : α → Bool} (l : List α) :
    (l.eraseP q).countP q = l.countP q - 1 := by
  induction l with
  | nil => rfl
  | cons a l ih =>
      by_cases hq : q a = true
      · rw [List.eraseP_cons_of_pos hq, List.countP_cons_of_pos hq, Nat.add_sub_cancel]
      · rw [List.eraseP_cons_of_neg hq, List.countP_cons_of_neg hq, List.countP_cons_of_neg hq, ih]

-- The entry of the program is the one with its ID.
theorem eraseP_entries {program : Program} {daemon : Daemon} {log : List Effect}
    (h : Base p program daemon log) :
    daemon.entries.eraseP (fun entry => entry.programId = program.id) =
      daemon.entries.eraseP fun entry => entry.notify = p := by
  have hentries := h.entries
  generalize daemon.entries = entries at hentries
  induction entries with
  | nil => rfl
  | cons entry entries ih =>
      have hsame := (hentries entry List.mem_cons_self).1
      rw [List.eraseP_cons, List.eraseP_cons, ih fun other hother =>
        hentries other (List.mem_cons_of_mem _ hother)]
      by_cases hnotify : entry.notify = p
      · simp [hnotify, hsame.mpr hnotify]
      · simp [hnotify, mt hsame.mp hnotify]

end Entries

section State

theorem releaseOldMessage_quiet (message : Option MessageRef) :
    (releaseOldMessage message c).program = c.program ∧
      (releaseOldMessage message c).daemon = c.daemon ∧
      Logs p c.log (releaseOldMessage message c).log := by
  unfold releaseOldMessage
  cases c.program.scheduler.message with
  | none => exact ⟨rfl, rfl, Logs.refl _⟩
  | some old =>
      change (if some old ≠ message then c.record (.releaseMessage old) else c).program = _ ∧
        (if some old ≠ message then c.record (.releaseMessage old) else c).daemon = _ ∧
        Logs p c.log (if some old ≠ message then c.record (.releaseMessage old) else c).log
      by_cases hold : some old ≠ message
      · rw [if_pos hold]
        exact ⟨rfl, rfl, (Logs.refl _).cons (Effect.allowed_of_none rfl trivial)⟩
      · rw [if_neg hold]
        exact ⟨rfl, rfl, Logs.refl _⟩

theorem setState_program (state : ProgramSchedulerState) (message : Option MessageRef) :
    (programSchedulerSetState p state message c).program =
      { c.program with scheduler := { c.program.scheduler with state, message } } := by
  unfold programSchedulerSetState
  split_ifs with hsame
  · obtain ⟨rfl, rfl⟩ := hsame
    rfl
  · change { (releaseOldMessage message c).program with
      scheduler := { c.program.scheduler with state, message } } = _
    rw [(releaseOldMessage_quiet (p := p) message).1]

theorem setState_daemon (state : ProgramSchedulerState) (message : Option MessageRef) :
    (programSchedulerSetState p state message c).daemon = c.daemon := by
  unfold programSchedulerSetState
  split_ifs
  · rfl
  · exact (releaseOldMessage_quiet (p := p) message).2.1

theorem setState_logs (state : ProgramSchedulerState) (message : Option MessageRef) :
    Logs p c.log (programSchedulerSetState p state message c).log := by
  unfold programSchedulerSetState
  split_ifs
  · exact Logs.refl _
  · exact (releaseOldMessage_quiet message).2.2.cons (Effect.allowed_of_some rfl trivial)

theorem wrapMessage_quiet (h : c.Good p) (format : String) (code : Option APIError) :
    Moves p c (wrapMessage format code c).2 := by
  unfold wrapMessage Context.call
  cases c.outcomes.calls.headD none with
  | some _ => exact Moves.of_quiet h rfl rfl (Logs.refl _)
  | none =>
      exact Moves.of_quiet h rfl rfl ((Logs.refl _).cons (Effect.allowed_of_none rfl trivial))

theorem abortObserver_moves (h : c.Good p) : Moves p c (programSchedulerAbortObserver p c) := by
  by_cases hwaiting : c.program.scheduler.observerState = .waiting
  · have hdaemon : (programSchedulerAbortObserver p c).daemon =
        processMonitorRemoveObserver p c.daemon := if_pos hwaiting
    have hobservers : (processMonitorRemoveObserver p c.daemon).observers =
        c.daemon.observers.erase p := by
      unfold processMonitorRemoveObserver Daemon.observers
      cases c.daemon.observation <;> rfl
    have hcount : c.daemon.observers.count p = 1 := by rw [h.observers, if_pos hwaiting]
    refine
      { good := ?_, program := rfl, brickd := Or.inl rfl, shutdown := rfl, frame := ?_, logs := Logs.refl _ }
    · unfold Context.Good
      rw [hdaemon]
      exact
        { h with
          pending := fun hne => absurd rfl hne
          observers := by
            rw [hobservers, List.count_erase_self, hcount]
            rfl }
    · rw [hdaemon]
      exact
        { Frame.refl c.daemon with
          observers := fun other hother => by rw [hobservers, List.count_erase_of_ne hother] }
  · have hdaemon : (programSchedulerAbortObserver p c).daemon = c.daemon := if_neg hwaiting
    refine
      { good := ?_, program := rfl, brickd := Or.inl rfl, shutdown := rfl, frame := ?_, logs := Logs.refl _ }
    · unfold Context.Good
      rw [hdaemon]
      exact
        { h with
          pending := fun hne => absurd rfl hne
          observers := by
            rw [h.observers, if_neg hwaiting]
            rfl }
    · rw [hdaemon]
      exact Frame.refl _

end State

section Stop

theorem stopTimer_moves (h : c.Good p) :
    Moves p c (stopTimer p c) ∧
      ((stopTimer p c).program.scheduler.timerActive = true →
        .timerStopFailed p ∈ (stopTimer p c).log) := by
  unfold stopTimer
  by_cases hactive : c.program.scheduler.timerActive = true
  · rw [if_pos hactive]
    unfold Context.timerStop
    cases c.outcomes.timerStops.headD none with
    | some code =>
        have hquiet : Moves p c ({ c with outcomes := { c.outcomes with
            timerStops := c.outcomes.timerStops.tail } }.record (.timerStopFailed p)) :=
          Moves.of_quiet h rfl rfl ((Logs.refl _).cons (Effect.allowed_of_some rfl trivial))
        have hwrap := wrapMessage_quiet hquiet.good "Could not stop timer: %s (%d)" (some code)
        exact ⟨hquiet.trans hwrap, fun _ => hwrap.logs.mem List.mem_cons_self⟩
    | none =>
        refine ⟨?_, nofun⟩
        exact
          { good :=
              { h with
                timer := nofun
                inert := nofun }
            program := rfl
            brickd := Or.inl rfl
            shutdown := rfl
            frame := Frame.refl _
            logs := Logs.refl _ }
  · rw [if_neg hactive]
    exact ⟨Moves.refl h, fun htrue => absurd htrue hactive⟩

theorem stopCron_moves (h : c.Good p) :
    Moves p c (stopCron c) ∧ (stopCron c).program.scheduler.cronActive = false ∧
      (stopCron c).program.scheduler.timerActive = c.program.scheduler.timerActive ∧
      (stopCron c).log = c.log := by
  unfold stopCron
  by_cases hactive : c.program.scheduler.cronActive = true
  · rw [if_pos hactive]
    have hentries := eraseP_entries h
    have hcount : c.daemon.entries.countP (·.notify = p) = 1 := by rw [h.entry, if_pos hactive]
    refine ⟨?_, rfl, rfl, rfl⟩
    exact
      { good :=
          { h with
            cron := nofun
            entries := fun entry hentry => h.entries entry (List.mem_of_mem_eraseP hentry)
            entry := by
              change (c.daemon.entries.eraseP _).countP _ = 0
              rw [hentries, countP_eraseP, hcount] }
        program := rfl
        brickd := Or.inl rfl
        shutdown := rfl
        frame :=
          { Frame.refl c.daemon with
            entries := by
              change (c.daemon.entries.eraseP _).filter _ = _
              rw [hentries]
              refine filter_eraseP fun entry _ hentry => ?_
              simpa using hentry }
        logs := Logs.refl _ }
  · rw [if_neg hactive]
    exact ⟨Moves.refl h, by simpa using hactive, rfl, rfl⟩

theorem setState_stopped_moves (h : c.Good p) (message : Option MessageRef)
    (hcron : c.program.scheduler.cronActive = false)
    (htimer : c.program.scheduler.timerActive = true → .timerStopFailed p ∈ c.log) :
    Moves p c (programSchedulerSetState p .stopped message c) := by
  have hlogs := @setState_logs p c .stopped message
  refine { good := ?_, program := ?_, brickd := ?_, shutdown := ?_, frame := ?_, logs := hlogs }
  · unfold Context.Good
    rw [setState_program, setState_daemon]
    exact
      { h with
        inert := fun _ hactive => hlogs.mem (htimer hactive)
        shutdown := fun _ => rfl
        pending := fun hpending => ⟨rfl, (h.pending hpending).2⟩
        cron := fun hactive => by
          rw [hcron] at hactive
          cases hactive }
  · rw [setState_program]
  · exact Or.inl (by rw [setState_program])
  · rw [setState_program]
  · rw [setState_daemon]; exact Frame.refl _

theorem setState_running_moves (h : c.Good p) (hshutdown : c.program.scheduler.shutdown = false)
    (hfinished : c.program.scheduler.observerState = .finished) :
    Moves p c (programSchedulerSetState p .running none c) := by
  have hlogs := @setState_logs p c .running none
  refine { good := ?_, program := ?_, brickd := ?_, shutdown := ?_, frame := ?_, logs := hlogs }
  · unfold Context.Good
    rw [setState_program, setState_daemon]
    exact
      { h with
        inert := nofun
        shutdown := fun htrue => by
          rw [hshutdown] at htrue
          cases htrue
        pending := fun hpending => absurd hfinished hpending
        cron := fun _ => rfl }
  · rw [setState_program]
  · exact Or.inl (by rw [setState_program])
  · rw [setState_program]
  · rw [setState_daemon]; exact Frame.refl _

theorem stop_moves (h : c.Good p) (message : Option MessageRef) :
    Moves p c (programSchedulerStop p message c) := by
  have habort := abortObserver_moves h
  obtain ⟨htimer, hfailed⟩ := stopTimer_moves habort.good
  obtain ⟨hcron, hinactive, hsame, hlog⟩ := stopCron_moves htimer.good
  refine ((habort.trans htimer).trans hcron).trans (setState_stopped_moves hcron.good _ hinactive ?_)
  rw [hsame, hlog]
  exact hfailed

theorem stop_state (message : Option MessageRef) :
    (programSchedulerStop p message c).program.scheduler.state = .stopped := by
  unfold programSchedulerStop
  rw [setState_program]

theorem handleError_moves (h : c.Good p) (format : String) (code : Option APIError) :
    Moves p c (programSchedulerHandleError p format code c) := by
  have hwrap := wrapMessage_quiet h format code
  exact hwrap.trans (stop_moves hwrap.good _)

theorem handleError_state (format : String) (code : Option APIError) :
    (programSchedulerHandleError p format code c).program.scheduler.state = .stopped :=
  stop_state _

theorem releaseOldMessage_starts (message : Option MessageRef) :
    starts (releaseOldMessage message c).log = starts c.log := by
  unfold releaseOldMessage
  cases c.program.scheduler.message with
  | none => rfl
  | some old =>
      dsimp only
      split_ifs
      · exact starts_cons_of_not rfl _
      · rfl

theorem setState_stopped_starts (message : Option MessageRef) :
    starts (programSchedulerSetState p .stopped message c).log = starts c.log := by
  unfold programSchedulerSetState
  split_ifs
  · rfl
  · exact (starts_cons_of_not rfl _).trans (releaseOldMessage_starts message)

theorem wrapMessage_starts (format : String) (code : Option APIError) :
    starts (wrapMessage format code c).2.log = starts c.log := by
  unfold wrapMessage Context.call
  cases c.outcomes.calls.headD none with
  | some _ => rfl
  | none => exact starts_cons_of_not rfl _

theorem stopTimer_starts : starts (stopTimer p c).log = starts c.log := by
  unfold stopTimer
  split_ifs
  · unfold Context.timerStop
    cases c.outcomes.timerStops.headD none with
    | some code => exact (wrapMessage_starts _ _).trans (starts_cons_of_not rfl _)
    | none => rfl
  · rfl

theorem stopCron_log : (stopCron c).log = c.log := by
  unfold stopCron
  split_ifs
  · rfl
  · rfl

theorem stop_starts (message : Option MessageRef) :
    starts (programSchedulerStop p message c).log = starts c.log := by
  unfold programSchedulerStop
  rw [setState_stopped_starts, stopCron_log, stopTimer_starts]
  rfl

theorem handleError_starts (format : String) (code : Option APIError) :
    starts (programSchedulerHandleError p format code c).log = starts c.log := by
  unfold programSchedulerHandleError
  exact (stop_starts _).trans (wrapMessage_starts format code)

end Stop

section Files

-- Without a file the scheduler is stopped, otherwise it is as before.
structure FileResult (p : ProgramRef) (c : Context) (result : Option FileRef × Context) : Prop where
  moves : Moves p c result.2
  opened : result.1 ≠ none → result.2.program = c.program ∧ result.2.daemon = c.daemon
  failed : result.1 = none → result.2.program.scheduler.state = .stopped
  starts : starts result.2.log = starts c.log

theorem FileResult.error (h : c.Good p) (format : String) (code : Option APIError) :
    FileResult p c (none, programSchedulerHandleError p format code c) where
  moves := handleError_moves h format code
  opened hne := absurd rfl hne
  failed _ := handleError_state format code
  starts := handleError_starts format code

theorem FileResult.success {c' : Context} (h : c.Good p) (file : FileRef)
    (hprogram : c'.program = c.program) (hdaemon : c'.daemon = c.daemon)
    (hlogs : Logs p c.log c'.log) (hstarts : Scheduling.starts c'.log = Scheduling.starts c.log) :
    FileResult p c (some file, c') where
  moves := Moves.of_quiet h hprogram hdaemon hlogs
  opened _ := ⟨hprogram, hdaemon⟩
  failed hnone := by cases hnone
  starts := hstarts

theorem FileResult.of_quiet {c' : Context} {result : Option FileRef × Context}
    (h : FileResult p c' result) (hmoves : Moves p c c') (hprogram : c'.program = c.program)
    (hdaemon : c'.daemon = c.daemon)
    (hstarts : Scheduling.starts c'.log = Scheduling.starts c.log) : FileResult p c result where
  moves := hmoves.trans h.moves
  opened hopened := by
    obtain ⟨hsame, hsame'⟩ := h.opened hopened
    exact ⟨hsame.trans hprogram, hsame'.trans hdaemon⟩
  failed := h.failed
  starts := h.starts.trans hstarts

theorem call_moves (h : c.Good p) : Moves p c c.call.2 := Moves.of_quiet h rfl rfl (Logs.refl _)

theorem record_moves (h : c.Good p) {effect : Effect} (heffect : effect.Allowed p) :
    Moves p c (c.record effect) :=
  Moves.of_quiet h rfl rfl ((Logs.refl _).cons heffect)

theorem FileResult.errorRelease (h : c.Good p) (format : String) (code : Option APIError)
    (file : FileRef) :
    FileResult p c
      (none, (programSchedulerHandleError p format code c).record (.releaseFile file)) := by
  have hmoves := handleError_moves h format code
  exact
    { moves := hmoves.trans (record_moves hmoves.good (Effect.allowed_of_none rfl trivial))
      opened := fun hne => absurd rfl hne
      failed := fun _ => handleError_state format code
      starts := (starts_cons_of_not rfl _).trans (handleError_starts format code) }

theorem Writes.result {file : FileRef} {result : Option FileRef × Context}
    (hwrites : Writes p file c result) (h : c.Good p) : FileResult p c result := by
  induction hwrites with
  | written => exact FileResult.success h file rfl rfl (Logs.refl _) rfl
  | call _ ih =>
      have hmoves := call_moves h
      exact (ih hmoves.good).of_quiet hmoves rfl rfl rfl
  | failed format code _ => exact FileResult.errorRelease h format code file

theorem Obtains.result {shared : Option FileRef} {result : Option FileRef × Context}
    (hobtains : Obtains p shared c result) (h : c.Good p) : FileResult p c result := by
  induction hobtains with
  | error format code _ => exact FileResult.error h format code
  | call _ ih =>
      have hmoves := call_moves h
      exact (ih hmoves.good).of_quiet hmoves rfl rfl rfl
  | @named c result stream name hredirection hname _ ih =>
      have hmoves : Moves p c (c.record (.fileOpen p c.program stream name)) :=
        record_moves h (Effect.allowed_of_some rfl ⟨hredirection, hname⟩)
      exact (ih hmoves.good).of_quiet hmoves rfl rfl (starts_cons_of_not rfl _)
  | created =>
      exact FileResult.success h _ rfl rfl
        ((Logs.refl _).cons (Effect.allowed_of_none rfl trivial)) (starts_cons_of_not rfl _)
  | acquired file _ =>
      exact FileResult.success h file rfl rfl
        ((Logs.refl _).cons (Effect.allowed_of_none rfl trivial)) (starts_cons_of_not rfl _)
  | @header c result hwrites =>
      have hmoves : Moves p c (c.record .createFile) :=
        record_moves h (Effect.allowed_of_none rfl trivial)
      exact (hwrites.result hmoves.good).of_quiet hmoves rfl rfl (starts_cons_of_not rfl _)

theorem prepareStdin_result (h : c.Good p) : FileResult p c (programSchedulerPrepareStdin p c) :=
  (@prepareStdin_obtains p c none).result h

theorem prepareStdout_result (h : c.Good p) : FileResult p c (programSchedulerPrepareStdout p c) :=
  (@prepareStdout_obtains p c none).result h

theorem prepareStderr_result (h : c.Good p) (stdout : FileRef) :
    FileResult p c (programSchedulerPrepareStderr p stdout c) := (prepareStderr_obtains stdout).result h

end Files

section Spawn

def Context.lastAlive (c : Context) : Bool :=
  c.program.scheduler.lastSpawnedProcess.any c.daemon.isAlive

-- A process loses an internal reference, its last one if there is no other.
theorem removeInternalReference_cases {daemon : Daemon} {q : ProcessRef} {found : Process}
    (hfound : daemon.processes.get q = some found) (log : List Effect) :
    ∃ processes, (removeInternalReference q daemon log).1 = { daemon with processes } ∧
      (∀ r, r ≠ q → processes.get r = daemon.processes.get r) ∧
      processes.get q =
        (if found.internalReferenceCount = 1 ∧ found.externalReferenceCount = 0 then none
          else some { found with
            internalReferenceCount := found.internalReferenceCount - 1 }) ∧
      ∃ files : List FileRef,
        (removeInternalReference q daemon log).2 = files.map .releaseFile ++ log := by
  unfold removeInternalReference
  rw [hfound]
  by_cases hzero : found.internalReferenceCount = 0
  · refine ⟨daemon.processes, by simp only [if_pos hzero], fun _ _ => rfl, ?_, ?_⟩
    · rw [if_neg (by omega), hfound]
      congr 1
      rw [hzero]
      cases found
      simp only at hzero
      simp only [hzero]
    · simp only [if_pos hzero]
      exact ⟨[], rfl⟩
  simp only [if_neg hzero]
  by_cases hlast : found.internalReferenceCount = 1 ∧ found.externalReferenceCount = 0
  · simp only [if_pos hlast]
    refine ⟨daemon.processes.free q, rfl, fun r hr => Heap.get_free_ne hr, Heap.get_free_self _ _, ?_⟩
    exact ⟨found.files, rfl⟩
  · simp only [if_neg hlast]
    refine ⟨_, rfl, fun r hr => Heap.get_modify_ne hr _, ?_, [], rfl⟩
    rw [Heap.get_modify_self, hfound]
    rfl

-- The release of the last process, if there is one.
structure Released (c : Context) (result : Daemon × List Effect) : Prop where
  same : result.1 = { c.daemon with processes := result.1.processes }
  others : ∀ q, c.program.scheduler.lastSpawnedProcess ≠ some q →
    result.1.processes.get q = c.daemon.processes.get q
  last : ∀ q found, c.program.scheduler.lastSpawnedProcess = some q →
    c.daemon.processes.get q = some found → result.1.processes.get q =
      if found.internalReferenceCount = 1 ∧ found.externalReferenceCount = 0 then none
      else some { found with internalReferenceCount := found.internalReferenceCount - 1 }
  files : ∃ files : List FileRef, result.2 = files.map .releaseFile ++ c.log

theorem releaseLastProcess_released
    (hlast : ∀ q, c.program.scheduler.lastSpawnedProcess = some q →
      ∃ found, c.daemon.processes.get q = some found) : Released c (releaseLastProcess c) := by
  unfold releaseLastProcess
  cases hnone : c.program.scheduler.lastSpawnedProcess with
  | none =>
      exact
        { same := rfl
          others := fun _ _ => rfl
          last := fun q found hq => by
            rw [hnone] at hq
            cases hq
          files := ⟨[], rfl⟩ }
  | some old =>
      obtain ⟨before, hbefore⟩ := hlast old hnone
      obtain ⟨processes, hremoved, hrest, hold, hfiles⟩ :=
        removeInternalReference_cases hbefore c.log
      dsimp only
      refine { same := ?_, others := fun q hq => ?_, last := fun q found hq hfound => ?_, files := hfiles }
      · rw [hremoved]
      · rw [hremoved]
        exact hrest q fun heq => hq (heq ▸ hnone)
      · rw [hnone] at hq
        cases hq
        rw [hbefore] at hfound
        cases hfound
        rw [hremoved]
        exact hold

-- What process_spawn creates for a program.
structure NewProcess (p : ProgramRef) (process : Process) : Prop where
  state : process.state = .running
  stateChanged : process.stateChanged = some p
  releaseOnDeath : process.releaseOnDeath = false
  internalReferenceCount : process.internalReferenceCount = 1
  listed : process.listed = 0

-- The last process is replaced by one that has just been spawned.
structure Replaced (p : ProgramRef) (program : Program) (daemon daemon' : Daemon) : Prop where
  same : daemon' = { daemon with processes := daemon'.processes }
  new : ∃ process, daemon'.processes.get daemon.processes.next = some process ∧ NewProcess p process
  others : ∀ r, r ≠ daemon.processes.next → program.scheduler.lastSpawnedProcess ≠ some r →
    daemon'.processes.get r = daemon.processes.get r
  old : ∀ r found, program.scheduler.lastSpawnedProcess = some r →
    daemon.processes.get r = some found → daemon'.processes.get r =
      if found.internalReferenceCount = 1 ∧ found.externalReferenceCount = 0 then none
      else some { found with internalReferenceCount := found.internalReferenceCount - 1 }

theorem Replaced.base {program : Program} {daemon daemon' : Daemon} {log : List Effect}
    (h : Base p program daemon log) (hreplaced : Replaced p program daemon daemon')
    (hdead : program.scheduler.lastSpawnedProcess.any daemon.isAlive = false) :
    Base p
      { program with scheduler :=
        { program.scheduler with lastSpawnedProcess := some daemon.processes.next } }
      daemon' log := by
  obtain ⟨process, hprocess, hnew⟩ := hreplaced.new
  have hfresh : ∀ r, program.scheduler.lastSpawnedProcess = some r →
      r ≠ daemon.processes.next := by
    intro r hr
    obtain ⟨found, hfound, -⟩ := h.last r hr
    exact Nat.ne_of_lt (Heap.lt_next_of_get hfound)
  have hobservers : daemon'.observers = daemon.observers := by
    unfold Daemon.observers
    rw [hreplaced.same]
  have hentries : daemon'.entries = daemon.entries := by rw [hreplaced.same]
  exact
    { h with
      observers := by rw [hobservers]; exact h.observers
      entries := by rw [hentries]; exact h.entries
      entry := by rw [hentries]; exact h.entry
      last := fun q hq => by
        cases hq
        exact ⟨process, hprocess, hnew.stateChanged⟩
      process := fun q found hfound hchanged => by
        by_cases hq : q = daemon.processes.next
        · subst hq
          rw [hprocess] at hfound
          cases hfound
          exact ⟨fun _ => rfl, hnew.releaseOnDeath, by
            rw [hnew.internalReferenceCount, hnew.listed]
            simp⟩
        have hne : (some daemon.processes.next : Option ProcessRef) ≠ some q :=
          fun heq => hq (Option.some.inj heq).symm
        by_cases hlast : program.scheduler.lastSpawnedProcess = some q
        · obtain ⟨before, hbefore, hbeforeChanged⟩ := h.last q hlast
          obtain ⟨-, hrelease, hcount⟩ := h.process q before hbefore hbeforeChanged
          have hdeadBefore : before.state.isAlive = false := by
            rw [hlast, Option.any_some, Daemon.isAlive, hbefore, Option.any_some] at hdead
            exact hdead
          rw [hreplaced.old q before hlast hbefore] at hfound
          split_ifs at hfound
          cases hfound
          refine ⟨fun halive => ?_, hrelease, ?_⟩
          · change before.state.isAlive = true at halive
            rw [hdeadBefore] at halive
            cases halive
          · change before.internalReferenceCount - 1 = before.listed + _
            rw [hcount, if_pos hlast, if_neg hne]
            omega
        · rw [hreplaced.others q hq hlast] at hfound
          obtain ⟨halive, hrelease, hcount⟩ := h.process q found hfound hchanged
          refine ⟨fun htrue => absurd (halive htrue) hlast, hrelease, ?_⟩
          rw [hcount, if_neg hlast, if_neg hne] }

theorem Replaced.frame {program : Program} {daemon daemon' : Daemon} {log : List Effect}
    (h : Base p program daemon log) (hreplaced : Replaced p program daemon daemon') :
    Frame p daemon daemon' where
  observers other _ := by
    unfold Daemon.observers
    rw [hreplaced.same]
  entries := by rw [hreplaced.same]
  processes r found hchanged := by
    obtain ⟨process, hprocess, hnew⟩ := hreplaced.new
    by_cases hr : r = daemon.processes.next
    · subst hr
      rw [hprocess, Heap.get_eq_none_of_next_le _ (Nat.le_refl _)]
      refine iff_of_false (fun heq => ?_) nofun
      cases heq
      exact hchanged hnew.stateChanged
    by_cases hlast : program.scheduler.lastSpawnedProcess = some r
    · obtain ⟨before, hbefore, hbeforeChanged⟩ := h.last r hlast
      rw [hreplaced.old r before hlast hbefore, hbefore]
      refine iff_of_false (fun heq => ?_) fun heq => ?_
      · split_ifs at heq
        cases heq
        exact hchanged hbeforeChanged
      · cases heq
        exact hchanged hbeforeChanged
    · rw [hreplaced.others r hr hlast]
  brickd := by rw [hreplaced.same]
  crashed hcrashed := by
    rw [hreplaced.same]
    exact hcrashed

theorem spawnedProcess_new (files : List FileRef) : NewProcess p (spawnedProcess p files) :=
  ⟨rfl, rfl, rfl, rfl, rfl⟩

theorem releaseLastProcess_replaced (files : List FileRef)
    (hlast : ∀ q, c.program.scheduler.lastSpawnedProcess = some q →
      ∃ found, c.daemon.processes.get q = some found) {c' : Context}
    (hprogram : c'.program = c.program)
    (hdaemon : c'.daemon = { c.daemon with
      processes := c.daemon.processes.alloc (spawnedProcess p files) }) :
    Replaced p c.program c.daemon (releaseLastProcess c').1 ∧
      (releaseLastProcess c').1.processes.get c.daemon.processes.next =
        some (spawnedProcess p files) ∧
      ∃ released : List FileRef, (releaseLastProcess c').2 = released.map .releaseFile ++ c'.log := by
  have hother : ∀ r, r ≠ c.daemon.processes.next →
      c'.daemon.processes.get r = c.daemon.processes.get r := by
    intro r hr
    rw [hdaemon]
    exact (Heap.get_alloc _ _ r).trans (if_neg hr)
  have hfresh : ∀ q, c.program.scheduler.lastSpawnedProcess = some q →
      q ≠ c.daemon.processes.next := by
    intro q hq
    obtain ⟨found, hfound⟩ := hlast q hq
    exact Nat.ne_of_lt (Heap.lt_next_of_get hfound)
  have hreleased : Released c' (releaseLastProcess c') := by
    refine releaseLastProcess_released fun q hq => ?_
    rw [hprogram] at hq
    obtain ⟨found, hfound⟩ := hlast q hq
    exact ⟨found, (hother q (hfresh q hq)).trans hfound⟩
  have hnew : (releaseLastProcess c').1.processes.get c.daemon.processes.next =
      some (spawnedProcess p files) := by
    rw [hreleased.others, hdaemon]
    · exact Heap.get_alloc_next _ _
    · rw [hprogram]
      exact fun heq => hfresh _ heq rfl
  refine ⟨?_, hnew, hreleased.files⟩
  exact
    { same := by rw [hreleased.same, hdaemon]
      new := ⟨_, hnew, spawnedProcess_new files⟩
      others := fun r hr hnotLast =>
        (hreleased.others r (by rw [hprogram]; exact hnotLast)).trans (hother r hr)
      old := fun r found hr hfound =>
        hreleased.last r found (by rw [hprogram]; exact hr)
          ((hother r (hfresh r hr)).trans hfound) }

-- What is left of the scheduler after a spawn that did not fail: its last process is alive.
structure Kept (c c' : Context) : Prop where
  scheduler : ∃ lastSpawnedProcess, c'.program.scheduler =
    { c.program.scheduler with observerState := .finished, lastSpawnedProcess }
  alive : c'.lastAlive = true

def SpawnEnd (c c' : Context) : Prop :=
  c'.program.scheduler.state = .stopped ∨ c'.daemon.crashed = true ∨ Kept c c'

theorem crash_moves (h : c.Good p) : Moves p c c.crash where
  good := { h with }
  program := rfl
  brickd := Or.inl rfl
  shutdown := rfl
  frame := { Frame.refl c.daemon with crashed := fun _ => rfl }
  logs := Logs.refl _

theorem keepSpawnedProcess_moves (h : c.Good p) (hdead : c.lastAlive = false)
    (hfinished : c.program.scheduler.observerState = .finished) (files : List FileRef)
    {c' : Context} (hprogram : c'.program = c.program)
    (hdaemon : c'.daemon = { c.daemon with
      processes := c.daemon.processes.alloc (spawnedProcess p files) })
    (hlogs : Logs p c.log c'.log) :
    Moves p c (keepSpawnedProcess p c.daemon.processes.next files c') ∧
      Kept c (keepSpawnedProcess p c.daemon.processes.next files c') := by
  obtain ⟨hreplaced, -, released, hreleased⟩ := releaseLastProcess_replaced files (fun q hq => by
    obtain ⟨found, hfound, -⟩ := h.last q hq
    exact ⟨found, hfound⟩) hprogram hdaemon
  have hscheduler : (keepSpawnedProcess p c.daemon.processes.next files c').program =
      { c.program with scheduler :=
        { c.program.scheduler with lastSpawnedProcess := some c.daemon.processes.next } } := by
    unfold keepSpawnedProcess Context.setScheduler
    rw [hprogram]
  have hspawned : (Effect.processSpawned p).Allowed p := Effect.allowed_of_some rfl trivial
  have hfinal : Logs p c.log (keepSpawnedProcess p c.daemon.processes.next files c').log := by
    unfold keepSpawnedProcess
    rw [hreleased]
    exact ((hlogs.append (releaseFiles_allowed released)).cons hspawned).append
      (releaseFiles_allowed _)
  obtain ⟨process, hprocess, hnew⟩ := hreplaced.new
  constructor
  · exact
      { good := by
          unfold Context.Good
          rw [hscheduler]
          exact (hreplaced.base h hdead).log fun _ => hfinal.mem
        program := by rw [hscheduler]
        brickd := Or.inl (by rw [hscheduler])
        shutdown := by rw [hscheduler]
        frame := hreplaced.frame h
        logs := hfinal }
  · refine ⟨⟨some c.daemon.processes.next, ?_⟩, ?_⟩
    · rw [hscheduler, ← hfinished]
    · unfold Context.lastAlive
      rw [hscheduler, Option.any_some]
      change Daemon.isAlive (releaseLastProcess c').1 _ = true
      rw [Daemon.isAlive, hprocess, Option.any_some, hnew.state]
      rfl

-- A process is created if and only if process_spawn says so and does not leave it unset.
inductive SpawnCases (p : ProgramRef) (files : List FileRef) (c : Context) :
    SpawnResult × Context → Prop
  | failed {c' : Context} (code : APIError) (program : c'.program = c.program)
      (daemon : c'.daemon = c.daemon) (log : c'.log = c.log) : SpawnCases p files c (.failed code, c')
  | unset {c' : Context} (program : c'.program = c.program)
      (daemon : c'.daemon = c.daemon) (log : c'.log = c.log) : SpawnCases p files c (.unset, c')
  | spawned {c' : Context} (program : c'.program = c.program)
      (daemon : c'.daemon = { c.daemon with
        processes := c.daemon.processes.alloc (spawnedProcess p files) })
      (log : c'.log = files.reverse.map .acquireFile ++ c.log) :
      SpawnCases p files c (.spawned, c')

theorem processSpawn_cases (workingDirectory : CString) (files : List FileRef) :
    SpawnCases p files c (processSpawn p workingDirectory files c) := by
  unfold processSpawn
  by_cases hrejects : processSpawnRejects c.program.config.executable workingDirectory = true
  · rw [if_pos hrejects]
    exact .failed _ rfl rfl rfl
  · rw [if_neg hrejects]
    unfold Context.spawn
    cases c.outcomes.spawns.headD .spawned with
    | failed code => exact .failed _ rfl rfl rfl
    | unset => exact .unset rfl rfl rfl
    | spawned => exact .spawned rfl rfl rfl

theorem spawnInDirectory_moves (h : c.Good p) (hdead : c.lastAlive = false)
    (hfinished : c.program.scheduler.observerState = .finished) {workingDirectory : CString}
    (hworking : c.program.scheduler.absoluteWorkingDirectory = some workingDirectory)
    (files : List FileRef) :
    Moves p c (spawnInDirectory p workingDirectory files c) ∧
      SpawnEnd c (spawnInDirectory p workingDirectory files c) := by
  have hrecord : Moves p c (c.record (.processSpawn p c.program (some workingDirectory))) :=
    record_moves h (Effect.allowed_of_some rfl hworking.symm)
  have hcases := processSpawn_cases (p := p) workingDirectory files
    (c := c.record (.processSpawn p c.program (some workingDirectory)))
  unfold spawnInDirectory
  generalize processSpawn p workingDirectory files
    (c.record (.processSpawn p c.program (some workingDirectory))) = result at hcases
  cases hcases with
  | failed code hprogram hdaemon hlog =>
      have hmoves := hrecord.trans (Moves.of_quiet hrecord.good hprogram hdaemon
        (hlog ▸ Logs.refl _))
      have herror := handleError_moves hmoves.good "Could not spawn process: %s (%d)" (some code)
      refine ⟨(hmoves.trans herror).trans ?_, Or.inl (handleError_state _ _)⟩
      exact Moves.of_quiet herror.good rfl rfl ((Logs.refl _).append (releaseFiles_allowed files))
  | unset hprogram hdaemon hlog =>
      have hmoves := hrecord.trans (Moves.of_quiet hrecord.good hprogram hdaemon
        (hlog ▸ Logs.refl _))
      exact ⟨hmoves.trans (crash_moves hmoves.good), Or.inr (Or.inl rfl)⟩
  | spawned hprogram hdaemon hlog =>
      have hlogs := hrecord.logs.append (acquireFiles_allowed files.reverse)
      have hkeep := keepSpawnedProcess_moves h hdead hfinished files hprogram hdaemon
        (hlog ▸ hlogs)
      exact ⟨hkeep.1, Or.inr (Or.inr hkeep.2)⟩

theorem spawnWithFiles_moves (h : c.Good p) (hdead : c.lastAlive = false)
    (hfinished : c.program.scheduler.observerState = .finished) (files : List FileRef) :
    Moves p c (spawnWithFiles p files c) ∧ SpawnEnd c (spawnWithFiles p files c) := by
  unfold spawnWithFiles
  cases hworking : c.program.scheduler.absoluteWorkingDirectory with
  | none =>
      have hrecord : Moves p c (c.record (.processSpawn p c.program none)) :=
        record_moves h (Effect.allowed_of_some rfl hworking.symm)
      exact ⟨hrecord.trans (crash_moves hrecord.good), Or.inr (Or.inl rfl)⟩
  | some workingDirectory => exact spawnInDirectory_moves h hdead hfinished hworking files

theorem lastAlive_congr {c' : Context} (hprogram : c'.program = c.program)
    (hdaemon : c'.daemon = c.daemon) : c'.lastAlive = c.lastAlive := by
  unfold Context.lastAlive
  rw [hprogram, hdaemon]

theorem abortObserver_lastAlive : (programSchedulerAbortObserver p c).lastAlive = c.lastAlive := by
  unfold Context.lastAlive programSchedulerAbortObserver
  by_cases hwaiting : c.program.scheduler.observerState = .waiting
  · rw [if_pos hwaiting]
    rfl
  · rw [if_neg hwaiting]
    rfl

theorem Kept.of_abort {c₁ c' : Context} (h : Kept c₁ c')
    (hprogram : c₁.program = (programSchedulerAbortObserver p c).program) : Kept c c' where
  scheduler := by
    obtain ⟨last, hlast⟩ := h.scheduler
    refine ⟨last, ?_⟩
    rw [hlast, hprogram]
    rfl
  alive := h.alive

theorem spawnProcess_moves (h : c.Good p) :
    Moves p c (programSchedulerSpawnProcess p c) ∧
      SpawnEnd c (programSchedulerSpawnProcess p c) := by
  have habort := abortObserver_moves h
  unfold programSchedulerSpawnProcess
  by_cases halive : (programSchedulerAbortObserver p c).lastAlive = true
  · refine (if_pos halive).symm ▸ ⟨habort, Or.inr (Or.inr ?_)⟩
    exact ⟨⟨c.program.scheduler.lastSpawnedProcess, rfl⟩, halive⟩
  have hdead : (programSchedulerAbortObserver p c).lastAlive = false := by simpa using halive
  refine (if_neg halive).symm ▸ ?_
  have hstdin := prepareStdin_result habort.good
  generalize programSchedulerPrepareStdin p (programSchedulerAbortObserver p c) = result at hstdin
  obtain ⟨stdin, c₁⟩ := result
  cases stdin with
  | none => exact ⟨habort.trans hstdin.moves, Or.inl (hstdin.failed rfl)⟩
  | some stdin =>
      obtain ⟨hprogram₁, hdaemon₁⟩ := hstdin.opened nofun
      have hstdout := prepareStdout_result hstdin.moves.good
      have hmoves₁ := habort.trans hstdin.moves
      dsimp only at hprogram₁ hdaemon₁ hstdout hmoves₁ ⊢
      generalize programSchedulerPrepareStdout p c₁ = result at hstdout
      obtain ⟨stdout, c₂⟩ := result
      have hmoves₂ := hmoves₁.trans hstdout.moves
      cases stdout with
      | none =>
          refine ⟨hmoves₂.trans (record_moves hstdout.moves.good ?_), Or.inl (hstdout.failed rfl)⟩
          exact Effect.allowed_of_none rfl trivial
      | some stdout =>
          obtain ⟨hprogram₂, hdaemon₂⟩ := hstdout.opened nofun
          have hstderr := prepareStderr_result hstdout.moves.good stdout
          dsimp only at hprogram₂ hdaemon₂ hstderr hmoves₂ ⊢
          generalize programSchedulerPrepareStderr p stdout c₂ = result at hstderr
          obtain ⟨stderr, c₃⟩ := result
          have hmoves₃ := hmoves₂.trans hstderr.moves
          cases stderr with
          | none =>
              have hrelease : Moves p c₃ (c₃.record (.releaseFile stdout)) :=
                record_moves hstderr.moves.good (Effect.allowed_of_none rfl trivial)
              refine ⟨hmoves₃.trans (hrelease.trans (record_moves hrelease.good ?_)),
                Or.inl (hstderr.failed rfl)⟩
              exact Effect.allowed_of_none rfl trivial
          | some stderr =>
              obtain ⟨hprogram₃, hdaemon₃⟩ := hstderr.opened nofun
              dsimp only at hprogram₃ hdaemon₃
              have hprogram : c₃.program = (programSchedulerAbortObserver p c).program := by
                rw [hprogram₃, hprogram₂, hprogram₁]
              have hdaemon : c₃.daemon = (programSchedulerAbortObserver p c).daemon := by
                rw [hdaemon₃, hdaemon₂, hdaemon₁]
              obtain ⟨hspawn, hend⟩ := spawnWithFiles_moves hmoves₃.good
                ((lastAlive_congr hprogram hdaemon).trans hdead) (by rw [hprogram]; rfl)
                [stdin, stdout, stderr]
              refine ⟨hmoves₃.trans hspawn, ?_⟩
              rcases hend with hstopped | hcrashed | hkept
              · exact Or.inl hstopped
              · exact Or.inr (Or.inl hcrashed)
              · exact Or.inr (Or.inr (hkept.of_abort hprogram))

end Spawn

end RedApid.Scheduling

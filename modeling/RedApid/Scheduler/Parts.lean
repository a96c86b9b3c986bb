import RedApid.Scheduler.Runs

namespace RedApid.Scheduling

open Memory

variable {p : ProgramRef} {c c' : Context}

section Paths

-- What the paths of a process come from.
def Program.paths (program : Program) :
    CString × ProgramSettings × Option CString × (Stdio → Option CString) :=
  (program.rootDirectory, program.config, program.scheduler.absoluteWorkingDirectory,
    absoluteNameOf program.scheduler)

-- The program that a path was formed for.
def Effect.formed : Effect → Option Program
  | .fileOpen _ program _ _ => some program
  | .processSpawn _ program _ => some program
  | _ => none

-- The message that is put into a String object.
def Effect.message : Effect → Option String
  | .wrapMessage format _ => some format
  | _ => none

structure Effect.Fits (program : Program) (effect : Effect) : Prop where
  paths : ∀ other ∈ effect.formed, other.paths = program.paths
  redirection : ∀ message ∈ effect.message, message ∈ unservedMessages →
    ∃ stream, unservedMessage stream (redirectionOf program.config stream) = some message

-- No effect uses other paths than those of the program, or is about redirections it does not have.
def Uses (program : Program) (new : List Effect) : Prop := ∀ effect ∈ new, effect.Fits program

theorem Effect.Fits.congr {program other : Program} {effect : Effect} (h : effect.Fits program)
    (hpaths : other.paths = program.paths) : effect.Fits other := by
  have hconfig : other.config = program.config := congrArg (fun paths => paths.2.1) hpaths
  refine ⟨fun formed hformed => (h.paths formed hformed).trans hpaths.symm, ?_⟩
  rw [hconfig]
  exact h.redirection

-- The absolute names are used, but not stored.
structure Follows (c c' : Context) : Prop where
  paths : c'.program.paths = c.program.paths
  log : ∃ new, c'.log = new ++ c.log ∧ Uses c.program new

theorem uses_of_none {program : Program} {new : List Effect}
    (h : ∀ effect ∈ new, effect.message = none ∧ effect.formed = none) : Uses program new := by
  intro effect heffect
  obtain ⟨hmessage, hformed⟩ := h effect heffect
  refine ⟨fun other hother => ?_, fun message hmem => ?_⟩
  · rw [hformed] at hother
    cases hother
  · rw [hmessage] at hmem
    cases hmem

theorem Follows.refl (c : Context) : Follows c c :=
  ⟨rfl, [], rfl, fun _ h => absurd h List.not_mem_nil⟩

theorem Follows.trans {c'' : Context} (h : Follows c c') (h' : Follows c' c'') : Follows c c'' where
  paths := h'.paths.trans h.paths
  log := by
    obtain ⟨new, hlog, hnew⟩ := h.log
    obtain ⟨new', hlog', hnew'⟩ := h'.log
    refine ⟨new' ++ new, by rw [hlog', hlog, List.append_assoc], fun effect heffect => ?_⟩
    rcases List.mem_append.mp heffect with heffect | heffect
    · exact (hnew' effect heffect).congr h.paths.symm
    · exact hnew effect heffect

theorem Follows.record {effect : Effect} (h : effect.message = none ∧ effect.formed = none) :
    Follows c (c.record effect) := by
  refine ⟨rfl, [effect], rfl, uses_of_none fun other hother => ?_⟩
  rw [List.mem_singleton.mp hother]
  exact h

end Paths

section Parts

def Effect.aboutMessage : Effect → Bool
  | .wrapMessage _ _ => true
  | .releaseMessage _ => true
  | _ => false

theorem Effect.message_of_apart {effect : Effect} (h : effect.aboutMessage = false) :
    effect.message = none := by
  cases effect with
  | wrapMessage format code => cases h
  | _ => rfl

theorem uses_of_silent {program : Program} {new : List Effect}
    (h : ∀ effect ∈ new, effect.aboutMessage = false ∧ effect.formed = none) : Uses program new :=
  uses_of_none fun effect heffect => ⟨effect.message_of_apart (h effect heffect).1,
    (h effect heffect).2⟩

-- The files of the processes that schedulers have spawned were created before.
def FilesKnown (processes : Heap Process) (log : List Effect) : Prop :=
  ∀ q process, processes.get q = some process → process.stateChanged ≠ none →
    ∀ file ∈ process.files, file < log.length

theorem FilesKnown.mono {processes : Heap Process} {log log' : List Effect}
    (h : FilesKnown processes log) (hlength : log.length ≤ log'.length) :
    FilesKnown processes log' :=
  fun q process hprocess hchanged file hfile =>
    (h q process hprocess hchanged file hfile).trans_le hlength

-- What is done without a message.
structure Apart (c c' : Context) : Prop where
  state : c'.program.scheduler.state = c.program.scheduler.state
  message : c'.program.scheduler.message = c.program.scheduler.message
  log : ∃ new, c'.log = new ++ c.log ∧ ∀ effect ∈ new, effect.aboutMessage = false
  follows : Follows c c'
  files : FilesKnown c.daemon.processes c.log → FilesKnown c'.daemon.processes c'.log

inductive Part (p : ProgramRef) (c : Context) : Context → Prop
  | apart {c' : Context} (apart : Apart c c') : Part p c c'
  | error (format : String) (code : Option APIError) (reports : Reports c.program.config format) :
      Part p c (programSchedulerHandleError p format code c)
  | stop : Part p c (programSchedulerStop p none c)
  | keep : Part p c (programSchedulerStop p c.program.scheduler.message c)
  | start : Part p c (programSchedulerSetState p .running none c)

-- The functions of the scheduler do nothing else.
abbrev Parts (p : ProgramRef) : Context → Context → Prop := Relation.ReflTransGen (Part p)

theorem Apart.parts (h : Apart c c') : Parts p c c' := .single (.apart h)

theorem Apart.of_log {new : List Effect}
    (hstate : c'.program.scheduler.state = c.program.scheduler.state)
    (hmessage : c'.program.scheduler.message = c.program.scheduler.message)
    (hpaths : c'.program.paths = c.program.paths)
    (hprocesses : c'.daemon.processes = c.daemon.processes) (hlog : c'.log = new ++ c.log)
    (hnew : ∀ effect ∈ new, effect.aboutMessage = false) (huses : Uses c.program new) :
    Apart c c' where
  state := hstate
  message := hmessage
  log := ⟨new, hlog, hnew⟩
  follows := ⟨hpaths, new, hlog, huses⟩
  files h := by
    rw [hprocesses, hlog]
    apply h.mono
    rw [List.length_append]
    omega

theorem Apart.silent (hstate : c'.program.scheduler.state = c.program.scheduler.state)
    (hmessage : c'.program.scheduler.message = c.program.scheduler.message)
    (hpaths : c'.program.paths = c.program.paths)
    (hprocesses : c'.daemon.processes = c.daemon.processes) (hlog : c'.log = c.log) :
    Apart c c' :=
  @Apart.of_log c c' [] hstate hmessage hpaths hprocesses hlog
    (fun _ h => absurd h List.not_mem_nil) fun _ h => absurd h List.not_mem_nil

theorem Apart.recordUse {effect : Effect} (h : effect.aboutMessage = false)
    (huses : Uses c.program [effect]) : Apart c (c.record effect) :=
  @Apart.of_log c _ [effect] rfl rfl rfl rfl rfl (fun other hother => by
    rw [List.mem_singleton.mp hother]
    exact h) huses

theorem Apart.record {effect : Effect} (h : effect.aboutMessage = false)
    (hformed : effect.formed = none) : Apart c (c.record effect) :=
  .recordUse h (uses_of_none fun other hother => by
    rw [List.mem_singleton.mp hother]
    exact ⟨effect.message_of_apart h, hformed⟩)

theorem Apart.form {effect : Effect} (h : effect.aboutMessage = false)
    (hformed : effect.formed = some c.program) : Apart c (c.record effect) := by
  refine .recordUse h fun other hother => ?_
  rw [List.mem_singleton.mp hother]
  refine ⟨fun program hprogram => ?_, fun message hmessage => ?_⟩
  · rw [hformed] at hprogram
    cases hprogram
    rfl
  · rw [effect.message_of_apart h] at hmessage
    cases hmessage

theorem Apart.trans {c'' : Context} (h : Apart c c') (h' : Apart c' c'') : Apart c c'' where
  state := h'.state.trans h.state
  message := h'.message.trans h.message
  log := by
    obtain ⟨new, hlog, hnew⟩ := h.log
    obtain ⟨new', hlog', hnew'⟩ := h'.log
    refine ⟨new' ++ new, by rw [hlog', hlog, List.append_assoc], fun effect heffect => ?_⟩
    exact (List.mem_append.mp heffect).elim (hnew' effect) (hnew effect)
  follows := h.follows.trans h'.follows
  files := h'.files ∘ h.files

theorem Apart.crash : Apart c c.crash := .silent rfl rfl rfl rfl rfl

theorem Quiet.apart (h : Quiet c c') : Apart c c' :=
  .silent (by rw [h.1]) (by rw [h.1]) (by rw [h.1]) (by rw [h.2.1]) h.2.2

theorem Parts.call : Parts p c c.call.2 := call_quiet.apart.parts

theorem Parts.error {format : String} (h : Reports c.program.config format)
    (code : Option APIError) : Parts p c (programSchedulerHandleError p format code c) :=
  .single (.error format code h)

theorem abortObserver_apart : Apart c (programSchedulerAbortObserver p c) := by
  refine .silent rfl rfl rfl ?_ rfl
  unfold programSchedulerAbortObserver
  split_ifs
  · rfl
  · rfl

end Parts

section Stop

-- What program_scheduler_stop does before it sets the state.
def stopTriggers (p : ProgramRef) (c : Context) : Context :=
  stopCron (stopTimer p (programSchedulerAbortObserver p c))

-- A timer that cannot be stopped leaves the message for this, if there is memory for it.
inductive StopLog (p : ProgramRef) (log : List Effect) : List Effect → Prop
  | stopped : StopLog p log log
  | failed : StopLog p log (.timerStopFailed p :: log)
  | stray (code : Option APIError) : StopLog p log
      (.wrapMessage "Could not stop timer: %s (%d)" code :: .timerStopFailed p :: log)

theorem stopTimer_log : StopLog p c.log (stopTimer p c).log := by
  unfold stopTimer
  split_ifs with hactive
  · have hstop : c.timerStop = (c.outcomes.timerStops.headD none, c.timerStop.2) := rfl
    rw [hstop]
    cases c.outcomes.timerStops.headD none with
    | none => exact .stopped
    | some code =>
        unfold wrapMessage Context.call
        dsimp only
        cases (c.timerStop.2.record (.timerStopFailed p)).outcomes.calls.headD none with
        | some _ => exact .failed
        | none => exact .stray (some code)
  · exact .stopped

-- Only the triggers are different.
theorem stopTimer_scheduler :
    (stopTimer p c).program.scheduler.state = c.program.scheduler.state ∧
      (stopTimer p c).program.scheduler.message = c.program.scheduler.message := by
  unfold stopTimer
  split_ifs with hactive
  · have hstop : c.timerStop = (c.outcomes.timerStops.headD none, c.timerStop.2) := rfl
    rw [hstop]
    cases c.outcomes.timerStops.headD none with
    | none => exact ⟨rfl, rfl⟩
    | some code =>
        unfold wrapMessage Context.call
        dsimp only
        cases (c.timerStop.2.record (.timerStopFailed p)).outcomes.calls.headD none with
        | some _ => exact ⟨rfl, rfl⟩
        | none => exact ⟨rfl, rfl⟩
  · exact ⟨rfl, rfl⟩

theorem stopCron_scheduler :
    (stopCron c).program.scheduler.state = c.program.scheduler.state ∧
      (stopCron c).program.scheduler.message = c.program.scheduler.message := by
  unfold stopCron
  split_ifs
  · exact ⟨rfl, rfl⟩
  · exact ⟨rfl, rfl⟩

structure Triggerless (p : ProgramRef) (c c' : Context) : Prop where
  state : c'.program.scheduler.state = c.program.scheduler.state
  message : c'.program.scheduler.message = c.program.scheduler.message
  processes : c'.daemon.processes = c.daemon.processes
  log : StopLog p c.log c'.log

theorem stopTriggers_triggerless : Triggerless p c (stopTriggers p c) := by
  have habort := @abortObserver_apart p c
  obtain ⟨hstate, hmessage⟩ := @stopTimer_scheduler p (programSchedulerAbortObserver p c)
  obtain ⟨hstate', hmessage'⟩ := @stopCron_scheduler (stopTimer p (programSchedulerAbortObserver p c))
  refine ⟨?_, ?_, ?_, ?_⟩
  · exact hstate'.trans (hstate.trans habort.state)
  · exact hmessage'.trans (hmessage.trans habort.message)
  · have hkept := @stop_keeps p c none
    unfold programSchedulerStop at hkept
    rw [setState_daemon] at hkept
    exact hkept.2.2
  · unfold stopTriggers
    rw [stopCron_log]
    change StopLog p (programSchedulerAbortObserver p c).log _
    exact stopTimer_log

theorem StopLog.grown {log log' : List Effect} (h : StopLog p log log') : log <:+ log' := by
  cases h with
  | stopped => exact List.suffix_rfl
  | failed => exact List.suffix_cons _ _
  | stray code => exact (List.suffix_cons _ _).trans (List.suffix_cons _ _)

theorem setState_grown (state : ProgramSchedulerState) (message : Option MessageRef) :
    c.log <:+ (programSchedulerSetState p state message c).log := by
  obtain ⟨new, hlog, -⟩ := @setState_logs p c state message
  exact ⟨new, hlog.symm⟩

theorem stop_grown (message : Option MessageRef) :
    c.log <:+ (programSchedulerStop p message c).log :=
  (@stopTriggers_triggerless p c).log.grown.trans (setState_grown .stopped message)

theorem wrapMessage_grown (format : String) (code : Option APIError) :
    c.log <:+ (wrapMessage format code c).2.log := by
  unfold wrapMessage Context.call
  cases c.outcomes.calls.headD none with
  | some _ => exact List.suffix_rfl
  | none => exact List.suffix_cons _ _

theorem Part.grown (h : Part p c c') : c.log <:+ c'.log := by
  cases h with
  | apart hapart =>
      obtain ⟨new, hlog, -⟩ := hapart.log
      exact ⟨new, hlog.symm⟩
  | error format code => exact (wrapMessage_grown format code).trans (stop_grown _)
  | stop => exact stop_grown none
  | keep => exact stop_grown _
  | start => exact setState_grown .running none

theorem wrapMessage_follows {format : String} (h : format ∈ unservedMessages →
      ∃ stream, unservedMessage stream (redirectionOf c.program.config stream) = some format)
    (code : Option APIError) : Follows c (wrapMessage format code c).2 := by
  unfold wrapMessage Context.call
  cases c.outcomes.calls.headD none with
  | some _ => exact ⟨rfl, [], rfl, fun _ h => absurd h List.not_mem_nil⟩
  | none =>
      refine ⟨rfl, [.wrapMessage format code], rfl, fun effect heffect => ?_⟩
      rw [List.mem_singleton.mp heffect]
      refine ⟨fun other hother => ?_, fun message hmessage => ?_⟩
      · cases hother
      · cases hmessage
        exact h

theorem setState_follows (state : ProgramSchedulerState) (message : Option MessageRef) :
    Follows c (programSchedulerSetState p state message c) := by
  have hset : ∀ c : Context, Follows c ((c.setScheduler
      { c.program.scheduler with state, message }).record (.stateChanged p state)) := fun c =>
    ⟨rfl, [.stateChanged p state], rfl, uses_of_none (by simp [Effect.message, Effect.formed])⟩
  unfold programSchedulerSetState releaseOldMessage
  split_ifs
  · exact .refl c
  · cases c.program.scheduler.message with
    | none => exact hset c
    | some old =>
        dsimp only
        split_ifs
        · have hreleased : Follows c (c.record (.releaseMessage old)) := .record ⟨rfl, rfl⟩
          exact hreleased.trans (hset (c.record (.releaseMessage old)))
        · exact hset c

theorem stopTriggers_follows : Follows c (stopTriggers p c) := by
  have htimer : ∀ c : Context, Follows c (stopTimer p c) := by
    intro c
    unfold stopTimer Context.timerStop
    split_ifs
    · cases c.outcomes.timerStops.headD none with
      | none => exact ⟨rfl, [], rfl, fun _ h => absurd h List.not_mem_nil⟩
      | some code =>
          have hfailed : Follows c (c.timerStop.2.record (.timerStopFailed p)) :=
            ⟨rfl, [.timerStopFailed p], rfl, uses_of_none (by simp [Effect.message, Effect.formed])⟩
          exact hfailed.trans (wrapMessage_follows (fun hmem => absurd hmem (by decide)) _)
    · exact .refl c
  have hcron : ∀ c : Context, Follows c (stopCron c) := by
    intro c
    unfold stopCron
    split_ifs
    · exact ⟨rfl, [], rfl, fun _ h => absurd h List.not_mem_nil⟩
    · exact .refl c
  exact (abortObserver_apart.follows.trans (htimer _)).trans (hcron _)

theorem Part.follows (h : Part p c c') : Follows c c' := by
  have hstop : ∀ c message, Follows c (programSchedulerStop p message c) :=
    fun c message => stopTriggers_follows.trans (setState_follows .stopped message)
  cases h with
  | apart hapart => exact hapart.follows
  | error format code hreports =>
      exact (wrapMessage_follows hreports.redirection code).trans (hstop _ _)
  | stop => exact hstop c none
  | keep => exact hstop c _
  | start => exact setState_follows .running none

theorem Parts.follows (h : Parts p c c') : Follows c c' := by
  induction h with
  | refl => exact .refl c
  | tail _ hpart ih => exact ih.trans hpart.follows

-- No effect is taken back.
theorem Parts.grown (h : Parts p c c') : c.log <:+ c'.log := by
  induction h with
  | refl => exact List.suffix_rfl
  | tail _ hpart ih => exact ih.trans hpart.grown

end Stop

section Files

-- A file that is opened, or an error.
structure Yields (p : ProgramRef) (c : Context) (result : Option FileRef × Context) : Prop where
  parts : Parts p c result.2
  known : ∀ file, result.1 = some file → file < result.2.log.length

theorem Yields.error {format : String} (h : Reports c.program.config format)
    (code : Option APIError) : Yields p c (none, programSchedulerHandleError p format code c) :=
  ⟨.error h code, fun _ hnone => by cases hnone⟩

theorem Yields.after {result : Option FileRef × Context} (hparts : Parts p c c')
    (h : Yields p c' result) : Yields p c result := ⟨hparts.trans h.parts, h.known⟩

theorem Writes.yields {file : FileRef} {result : Option FileRef × Context}
    (hwrites : Writes p file c result) (h : file < c.log.length) : Yields p c result := by
  induction hwrites with
  | written =>
      refine ⟨.refl, fun other hother => ?_⟩
      cases hother
      exact h
  | call _ ih => exact .after .call (ih h)
  | failed format code hformat =>
      exact ⟨(Parts.error hformat code).trans (Apart.record rfl rfl).parts,
        fun _ hnone => by cases hnone⟩

-- A shared file has to be known before.
theorem Obtains.yields {shared : Option FileRef} {result : Option FileRef × Context}
    (hobtains : Obtains p shared c result) (h : ∀ file, shared = some file → file < c.log.length) :
    Yields p c result := by
  induction hobtains with
  | error format code hformat => exact .error hformat code
  | call _ ih => exact .after .call (ih h)
  | named stream name _ _ _ ih =>
      refine .after (Apart.form rfl rfl).parts (ih fun file hfile => ?_)
      exact Nat.lt_succ_of_lt (h file hfile)
  | created =>
      refine ⟨(Apart.record rfl rfl).parts, fun file hfile => ?_⟩
      cases hfile
      exact Nat.lt_succ_self _
  | acquired file hshared =>
      refine ⟨(Apart.record rfl rfl).parts, fun other hother => ?_⟩
      cases hother
      exact Nat.lt_succ_of_lt (h file hshared)
  | header hwrites => exact .after (Apart.record rfl rfl).parts (hwrites.yields (Nat.lt_succ_self _))

end Files

section Spawn

theorem releaseFiles_silent (files : List FileRef) :
    ∀ effect ∈ files.map Effect.releaseFile, effect.aboutMessage = false ∧ effect.formed = none := by
  intro effect heffect
  obtain ⟨file, -, rfl⟩ := List.mem_map.mp heffect
  exact ⟨rfl, rfl⟩

theorem acquireFiles_silent (files : List FileRef) :
    ∀ effect ∈ files.map Effect.acquireFile, effect.aboutMessage = false ∧ effect.formed = none := by
  intro effect heffect
  obtain ⟨file, -, rfl⟩ := List.mem_map.mp heffect
  exact ⟨rfl, rfl⟩

-- A process loses a reference, or is destroyed.
structure Removed (daemon : Daemon) (log : List Effect) (result : Daemon × List Effect) : Prop where
  released : ∃ files : List FileRef, result.2 = files.map .releaseFile ++ log
  files : FilesKnown daemon.processes log → FilesKnown result.1.processes result.2

theorem removeInternalReference_removed (q : ProcessRef) (daemon : Daemon) (log : List Effect) :
    Removed daemon log (removeInternalReference q daemon log) := by
  unfold removeInternalReference
  cases hget : daemon.processes.get q with
  | none => exact ⟨⟨[], rfl⟩, id⟩
  | some found =>
      dsimp only
      split_ifs with hzero hlast
      · exact ⟨⟨[], rfl⟩, id⟩
      · refine ⟨⟨found.files, rfl⟩, fun h r process hprocess hchanged file hfile => ?_⟩
        change (daemon.processes.free q).get r = some process at hprocess
        rw [Heap.get_free] at hprocess
        split_ifs at hprocess with hr
        have hknown := h r process hprocess hchanged file hfile
        rw [List.length_append]
        exact hknown.trans_le (Nat.le_add_left _ _)
      · refine ⟨⟨[], rfl⟩, fun h r process hprocess hchanged file hfile => ?_⟩
        change (daemon.processes.modify q _).get r = some process at hprocess
        rw [Heap.get_modify] at hprocess
        split_ifs at hprocess with hr
        · obtain ⟨before, hbefore, rfl⟩ := Option.map_eq_some_iff.mp hprocess
          exact h r before hbefore hchanged file hfile
        · exact h r process hprocess hchanged file hfile

theorem releaseLastProcess_removed : Removed c.daemon c.log (releaseLastProcess c) := by
  unfold releaseLastProcess
  cases c.program.scheduler.lastSpawnedProcess with
  | none => exact ⟨⟨[], rfl⟩, id⟩
  | some q => exact removeInternalReference_removed q c.daemon c.log

theorem keepSpawnedProcess_apart (process : ProcessRef) (files : List FileRef) :
    Apart c (keepSpawnedProcess p process files c) := by
  obtain ⟨⟨released, hlog⟩, hfiles⟩ := @releaseLastProcess_removed c
  obtain ⟨new, hnew, hsilent⟩ : ∃ new, (keepSpawnedProcess p process files c).log = new ++ c.log ∧
      ∀ effect ∈ new, effect.aboutMessage = false ∧ effect.formed = none := by
    refine ⟨files.reverse.map .releaseFile ++ .processSpawned p :: released.map .releaseFile, ?_, ?_⟩
    · simp [keepSpawnedProcess, hlog]
    · intro effect heffect
      rcases List.mem_append.mp heffect with heffect | heffect
      · exact releaseFiles_silent _ effect heffect
      · rcases List.mem_cons.mp heffect with rfl | heffect
        · exact ⟨rfl, rfl⟩
        · exact releaseFiles_silent _ effect heffect
  refine { state := rfl, message := rfl, log := ?_, follows := ?_, files := fun h => (hfiles h).mono ?_ }
  · exact ⟨new, hnew, fun effect heffect => (hsilent effect heffect).1⟩
  · exact ⟨rfl, new, hnew, uses_of_silent hsilent⟩
  · simp only [keepSpawnedProcess, List.length_append, List.length_cons]
    omega

theorem spawnInDirectory_parts (workingDirectory : CString) {files : List FileRef}
    (hfiles : ∀ file ∈ files, file < c.log.length) :
    Parts p c (spawnInDirectory p workingDirectory files c) := by
  have hrecord : Apart c (c.record (.processSpawn p c.program (some workingDirectory))) :=
    .form rfl rfl
  have hcases := processSpawn_cases (p := p) workingDirectory files
    (c := c.record (.processSpawn p c.program (some workingDirectory)))
  unfold spawnInDirectory
  generalize processSpawn p workingDirectory files
    (c.record (.processSpawn p c.program (some workingDirectory))) = result at hcases
  cases hcases with
  | @failed c₁ code hprogram hdaemon hlog =>
      have hquiet : Quiet _ c₁ := ⟨hprogram, hdaemon, hlog⟩
      have herror : Parts p c₁ (programSchedulerHandleError p
          "Could not spawn process: %s (%d)" (some code) c₁) :=
        .single (.error _ _ (.plain (by decide)))
      refine ((hrecord.parts.trans hquiet.apart.parts).trans herror).trans ?_
      have hreleased : ∀ c : Context, Apart c { c with log := files.map .releaseFile ++ c.log } :=
        fun c => .of_log rfl rfl rfl rfl rfl
          (fun effect heffect => (releaseFiles_silent files effect heffect).1)
          (uses_of_silent (releaseFiles_silent files))
      exact (hreleased _).parts
  | @unset c₁ hprogram hdaemon hlog =>
      have hquiet : Quiet _ c₁ := ⟨hprogram, hdaemon, hlog⟩
      exact (hrecord.parts.trans hquiet.apart.parts).trans
        Apart.crash.parts
  | @spawned c₁ hprogram hdaemon hlog =>
      -- behind the call the process is there
      have hacquired := fun effect => acquireFiles_silent files.reverse effect
      have hspawned : Apart (c.record (.processSpawn p c.program (some workingDirectory))) c₁ :=
        { state := by rw [hprogram]
          message := by rw [hprogram]
          log := ⟨_, hlog, fun effect heffect => (hacquired effect heffect).1⟩
          follows := ⟨by rw [hprogram], _, hlog,
            uses_of_silent hacquired⟩
          files := fun h => by
            have hlength : c.log.length ≤ c₁.log.length := by
              rw [hlog]
              simp [Context.record]
              omega
            have hlater : (c.record (.processSpawn p c.program (some workingDirectory))).log.length ≤
                c₁.log.length := by
              rw [hlog]
              simp
            intro q process hprocess hchanged file hfile
            rw [hdaemon] at hprocess
            change (c.daemon.processes.alloc (spawnedProcess p files)).get q = some process at hprocess
            rw [Heap.get_alloc] at hprocess
            split_ifs at hprocess with hq
            · cases hprocess
              exact (hfiles file hfile).trans_le hlength
            · exact (h q process hprocess hchanged file hfile).trans_le hlater }
      exact (hrecord.parts.trans hspawned.parts).trans (keepSpawnedProcess_apart _ files).parts

theorem spawnWithFiles_parts {files : List FileRef} (hfiles : ∀ file ∈ files, file < c.log.length) :
    Parts p c (spawnWithFiles p files c) := by
  unfold spawnWithFiles
  cases c.program.scheduler.absoluteWorkingDirectory with
  | none =>
      have hrecord : Apart c (c.record (.processSpawn p c.program none)) := .form rfl rfl
      exact hrecord.parts.trans Apart.crash.parts
  | some workingDirectory => exact spawnInDirectory_parts workingDirectory hfiles

theorem Parts.record {effect : Effect} (h : effect.aboutMessage = false)
    (hformed : effect.formed = none) : Parts p c (c.record effect) :=
  (Apart.record h hformed).parts

theorem spawnProcess_parts : Parts p c (programSchedulerSpawnProcess p c) := by
  have habort : Parts p c (programSchedulerAbortObserver p c) := abortObserver_apart.parts
  unfold programSchedulerSpawnProcess
  dsimp only
  generalize programSchedulerAbortObserver p c = c₀ at habort
  apply habort.trans
  split_ifs
  · exact .refl
  have hstdin := (@prepareStdin_obtains p c₀ none).yields fun _ hnone => by cases hnone
  generalize programSchedulerPrepareStdin p c₀ = result at hstdin
  obtain ⟨stdin, c₁⟩ := result
  cases stdin with
  | none => exact hstdin.parts
  | some stdin =>
      apply hstdin.parts.trans
      have hstdout := (@prepareStdout_obtains p c₁ none).yields fun _ hnone => by cases hnone
      dsimp only
      generalize programSchedulerPrepareStdout p c₁ = result at hstdout
      obtain ⟨stdout, c₂⟩ := result
      cases stdout with
      | none => exact hstdout.parts.trans (Parts.record rfl rfl)
      | some stdout =>
          apply hstdout.parts.trans
          have hstderr := (@prepareStderr_obtains p c₂ stdout).yields fun file hfile => by
            rw [← Option.some.inj hfile]
            exact hstdout.known stdout rfl
          dsimp only
          generalize programSchedulerPrepareStderr p stdout c₂ = result at hstderr
          obtain ⟨stderr, c₃⟩ := result
          cases stderr with
          | none =>
              exact (hstderr.parts.trans (Parts.record rfl rfl)).trans (Parts.record rfl rfl)
          | some stderr =>
              refine hstderr.parts.trans (spawnWithFiles_parts fun file hfile => ?_)
              have hfirst := hstdin.known stdin rfl
              have hsecond := hstdout.known stdout rfl
              have hthird := hstderr.known stderr rfl
              have hlength₁ := hstdout.parts.grown.length_le
              have hlength₂ := hstderr.parts.grown.length_le
              dsimp only at hfirst hsecond hthird hlength₁ hlength₂
              simp only [List.mem_cons, List.not_mem_nil, or_false] at hfile
              obtain rfl | rfl | rfl := hfile
              · exact (hfirst.trans_le hlength₁).trans_le hlength₂
              · exact hsecond.trans_le hlength₂
              · exact hthird

end Spawn

section Handlers

theorem setScheduler_apart {scheduler : ProgramScheduler}
    (hstate : scheduler.state = c.program.scheduler.state)
    (hmessage : scheduler.message = c.program.scheduler.message)
    (hpaths : ({ c.program with scheduler } : Program).paths = c.program.paths) :
    Apart c (c.setScheduler scheduler) := .silent hstate hmessage hpaths rfl rfl

theorem startTimer_parts (delay interval : Nat) : Parts p c (startTimer p delay interval c) := by
  have hset : ∀ (timer : Option Arming) (outcomes : Outcomes), Parts p c
      { c.setScheduler { c.program.scheduler with timer, timerActive := true } with outcomes } :=
    fun timer outcomes => Apart.parts (.silent rfl rfl rfl rfl rfl)
  unfold startTimer timerConfigure
  by_cases hzero : delay = 0 ∧ interval = 0
  · rw [if_pos hzero]
    unfold Context.timerStop
    cases c.outcomes.timerStops.headD none with
    | some code =>
        have hfailed : Apart c (c.timerStop.2.record (.timerStopFailed p)) :=
          @Apart.of_log c _ [.timerStopFailed p] rfl rfl rfl rfl rfl
            (by simp [Effect.aboutMessage]) (uses_of_none (by simp [Effect.message, Effect.formed]))
        exact hfailed.parts.trans (Parts.error (.plain (by decide)) _)
    | none => exact hset none _
  · rw [if_neg hzero]
    unfold Context.timerStart
    cases c.outcomes.timerStarts.headD none with
    | some code =>
        have hfailed : Apart c c.timerStart.2 := .silent rfl rfl rfl rfl rfl
        exact hfailed.parts.trans (Parts.error (.plain (by decide)) _)
    | none => exact hset _ _

theorem cronAddEntry_apart : Apart c (cronAddEntry p c).2 := by
  have hformat := @firstFailure_quiet c 2
  unfold cronAddEntry
  generalize firstFailure 2 c = result at hformat
  obtain ⟨code, c₁⟩ := result
  cases code with
  | some code => exact hformat.apart
  | none =>
      obtain ⟨hprogram, hdaemon, hlog⟩ := hformat
      -- the entries are not part of it
      have hentries : ∀ (entries : List CronEntry) (c₂ : Context),
          Quiet { c₁ with daemon := { c₁.daemon with entries } } c₂ → Apart c c₂ := by
        rintro entries c₂ ⟨hprogram₂, hdaemon₂, hlog₂⟩
        apply Apart.silent
        · rw [hprogram₂, ← hprogram]
        · rw [hprogram₂, ← hprogram]
        · rw [hprogram₂, ← hprogram]
        · rw [hdaemon₂, ← hdaemon]
        · rw [hlog₂, ← hlog]
      dsimp only
      split_ifs with hany
      · exact hentries _ _ (firstFailure_quiet 4)
      · have happend := @firstFailure_quiet c₁ 5
        generalize firstFailure 5 c₁ = result at happend
        obtain ⟨code, c₂⟩ := result
        obtain ⟨hprogram₂, hdaemon₂, hlog₂⟩ := happend
        cases code with
        | some code => exact hentries c₁.daemon.entries c₂ ⟨hprogram₂, hdaemon₂, hlog₂⟩
        | none =>
            dsimp only at hprogram₂ hdaemon₂ hlog₂ ⊢
            apply (hentries c₁.daemon.entries c₂ ⟨hprogram₂, hdaemon₂, hlog₂⟩).trans
            exact .silent rfl rfl rfl rfl rfl

theorem startCron_parts : Parts p c (startCron p c) := by
  have hadd := @cronAddEntry_apart p c
  unfold startCron
  generalize cronAddEntry p c = result at hadd
  obtain ⟨code, c₁⟩ := result
  cases code with
  | some code => exact hadd.parts.trans (Parts.error (.plain (by decide)) _)
  | none => exact hadd.parts.trans (Apart.parts (setScheduler_apart rfl rfl rfl))

theorem start_parts : Parts p c (programSchedulerStart p c) := by
  unfold programSchedulerStart
  split_ifs with hshutdown
  · exact .refl
  · have hrunning : Parts p c (programSchedulerSetState p .running none
        (programSchedulerAbortObserver p c)) := abortObserver_apart.parts.trans (.single .start)
    dsimp only
    generalize programSchedulerSetState p .running none (programSchedulerAbortObserver p c) = c₁
      at hrunning
    apply hrunning.trans
    cases c₁.program.config.startMode with
    | never => exact .single .stop
    | always => exact spawnProcess_parts
    | interval => exact startTimer_parts _ _
    | cron => exact startCron_parts

theorem handleProcessStateChange_parts :
    Parts p c (programSchedulerHandleProcessStateChange p c) := by
  unfold programSchedulerHandleProcessStateChange
  split_ifs with hrunning
  · exact .refl
  · cases c.program.scheduler.lastSpawnedProcess.bind c.daemon.processes.get with
    | none => exact Apart.crash.parts
    | some process =>
        dsimp only
        unfold handleDeath
        split_ifs
        · exact .refl
        · exact startTimer_parts _ _
        · exact .refl
        · exact .single .stop

theorem informObserver_parts : Parts p c (informObserver p c) := by
  have hrecord : Parts p c (c.record (.observer p)) := .record rfl rfl
  apply hrecord.trans
  unfold informObserver programSchedulerHandleObserver
  split_ifs
  · exact abortObserver_apart.parts.trans start_parts
  · exact .refl

theorem handleTimer_parts : Parts p c (programSchedulerHandleTimer p c) := by
  unfold programSchedulerHandleTimer
  split_ifs
  · exact spawnProcess_parts
  · exact .refl
  · exact .refl

theorem handleCron_parts : Parts p c (programSchedulerHandleCron p c) := by
  unfold programSchedulerHandleCron
  split_ifs
  · exact spawnProcess_parts
  · exact .refl

end Handlers

section Update

theorem observeLxpanel_parts : Parts p c (observeLxpanel p c) := by
  unfold observeLxpanel
  split_ifs with hpending
  · have hset : Apart c (c.setScheduler { c.program.scheduler with observerState := .waiting }) :=
      setScheduler_apart rfl rfl rfl
    have hcases := addObserver_cases (p := p) 30
      (c := c.setScheduler { c.program.scheduler with observerState := .waiting })
    apply hset.parts.trans
    dsimp only
    generalize c.setScheduler { c.program.scheduler with observerState := .waiting } = c₀ at hcases
    generalize processMonitorAddObserver p 30 c₀ = result at hcases
    have hobserved : ∀ (c₁ : Context) observation, Quiet c₀ c₁ →
        Parts p c₀ (c₁.setObservation observation) := by
      intro c₁ observation hquiet
      have hset : Apart c₁ (c₁.setObservation observation) := .silent rfl rfl rfl rfl rfl
      exact (hquiet.apart.trans hset).parts
    cases hcases with
    | failed hquiet => exact hquiet.apart.parts.trans (Apart.parts (setScheduler_apart rfl rfl rfl))
    | added observation hquiet _ => exact hobserved _ observation hquiet
    | informed observation hquiet _ =>
        exact (hobserved _ observation hquiet).trans informObserver_parts
  · exact .refl

theorem tryStart_parts : Parts p c (programSchedulerTryStart p c) := by
  unfold programSchedulerTryStart
  split_ifs with hnever
  · exact .single .keep
  · apply observeLxpanel_parts.trans
    dsimp only
    split_ifs
    · exact .refl
    · exact start_parts
    · exact .refl

-- The calls that program_scheduler_prepare_filesystem makes if none of them fails.
def filesystemCallCount (config : ProgramSettings) : Nat :=
  ((filesystemCalls config).filter fun call => call.1.getD .file = .file).length +
    if config.stderrRedirection = .file then 1 else 0

def PreparationFails (config : ProgramSettings) (outcomes : Outcomes) : Prop :=
  ∃ call ∈ outcomes.calls.take (filesystemCallCount config), call ≠ none

instance (config : ProgramSettings) (outcomes : Outcomes) :
    Decidable (PreparationFails config outcomes) :=
  inferInstanceAs (Decidable (∃ call ∈ _, call ≠ none))

theorem runFilesystemCalls_parts {calls : List (Option ProgramStdioRedirection × String)}
    (h : ∀ call ∈ calls, call.2 ∉ "Could not stop timer: %s (%d)" :: unservedMessages) :
    Parts p c (runFilesystemCalls p calls c).2 := by
  induction calls generalizing c with
  | nil => exact .refl
  | cons call calls ih =>
      obtain ⟨redirection, format⟩ := call
      have hrest := fun other hother => h other (List.mem_cons_of_mem _ hother)
      have hcall : c.call = (c.outcomes.calls.headD none, c.call.2) := rfl
      unfold runFilesystemCalls
      split_ifs
      · rw [hcall]
        cases c.outcomes.calls.headD none with
        | some code =>
            exact Parts.call.trans (Parts.error (.plain (h (redirection, format) List.mem_cons_self)) _)
        | none => exact Parts.call.trans (ih hrest)
      · exact ih hrest

-- Nothing else is different.
def Context.dropCalls (n : Nat) (c : Context) : Context :=
  { c with outcomes := { c.outcomes with calls := c.outcomes.calls.drop n } }

theorem runFilesystemCalls_eq (calls : List (Option ProgramStdioRedirection × String))
    (c : Context) {n : Nat}
    (hn : n = (calls.filter fun call => call.1.getD .file = .file).length) :
    if ∃ call ∈ c.outcomes.calls.take n, call ≠ none then (runFilesystemCalls p calls c).1.isSome
    else runFilesystemCalls p calls c = (none, c.dropCalls n) := by
  induction calls generalizing c n with
  | nil =>
      subst hn
      rw [if_neg (by simp)]
      rfl
  | cons call calls ih =>
      obtain ⟨redirection, format⟩ := call
      unfold runFilesystemCalls
      by_cases hfile : redirection.getD .file = .file
      · rw [if_pos hfile]
        rw [List.filter_cons_of_pos (by simpa using hfile), List.length_cons] at hn
        subst hn
        have hrest := ih c.call.2 rfl
        obtain ⟨program, daemon, log, outcomes⟩ := c
        obtain ⟨results, timerStarts, timerStops, searches, spawns⟩ := outcomes
        cases results with
        | nil =>
            rw [if_neg (by simp [Context.call])] at hrest
            rw [if_neg (by simp)]
            exact hrest.trans (by simp [Context.dropCalls, Context.call])
        | cons result results =>
            cases result with
            | some code =>
                rw [if_pos ⟨some code, by simp, Option.some_ne_none code⟩]
                rfl
            | none =>
                simp only [List.take_succ_cons, List.mem_cons, exists_eq_or_imp, ne_eq,
                  not_true_eq_false, false_or]
                exact hrest
      · rw [if_neg hfile]
        rw [List.filter_cons_of_neg (by simpa using hfile)] at hn
        exact ih c hn

theorem call_drop (n : Nat) (c : Context) :
    (c.dropCalls n).call = (c.outcomes.calls[n]?.getD none, c.dropCalls (n + 1)) := by
  unfold Context.call Context.dropCalls
  simp [List.headD_eq_head?_getD, List.head?_drop, List.tail_drop]

theorem mem_take_succ_iff (calls : List (Option APIError)) (n : Nat) :
    (∃ call ∈ calls.take (n + 1), call ≠ none) ↔
      (∃ call ∈ calls.take n, call ≠ none) ∨ calls[n]?.getD none ≠ none := by
  rw [List.take_add_one]
  cases calls[n]? <;> simp [or_and_right, exists_or]

-- The names are stored if no call fails.
theorem prepareFilesystem_eq (p : ProgramRef) (c : Context) :
    (PreparationFails c.program.config c.outcomes →
      Parts p c (programSchedulerPrepareFilesystem p c).2) ∧
    (¬PreparationFails c.program.config c.outcomes →
      programSchedulerPrepareFilesystem p c = (none,
        (c.setScheduler (storeAbsoluteNames c.program)).dropCalls
          (filesystemCallCount c.program.config))) := by
  have hparts := @runFilesystemCalls_parts p c (filesystemCalls c.program.config) (by
    simp [filesystemCalls, unservedMessages])
  have hcalls := @runFilesystemCalls_eq p (filesystemCalls c.program.config) c _ rfl
  unfold programSchedulerPrepareFilesystem PreparationFails filesystemCallCount
  generalize ((filesystemCalls c.program.config).filter fun call =>
    call.1.getD .file = .file).length = n at hcalls
  by_cases hfirst : ∃ call ∈ c.outcomes.calls.take n, call ≠ none
  · rw [if_pos hfirst] at hcalls
    obtain ⟨call, hcall, hfails⟩ := hfirst
    refine ⟨fun _ => ?_, fun hnone => absurd ⟨call, ?_, hfails⟩ hnone⟩
    · generalize runFilesystemCalls p (filesystemCalls c.program.config) c = result at hparts hcalls
      obtain ⟨code, c₁⟩ := result
      obtain ⟨code, rfl⟩ := Option.isSome_iff_exists.mp hcalls
      exact hparts
    · exact (List.take_prefix_take_left (Nat.le_add_right _ _)).subset hcall
  rw [if_neg hfirst] at hcalls
  rw [hcalls]
  dsimp only
  by_cases hstderr : c.program.config.stderrRedirection = .file
  · have hlast := mem_take_succ_iff c.outcomes.calls n
    rw [or_iff_right hfirst] at hlast
    rw [if_pos (show (c.dropCalls n).program.config.stderrRedirection = _ from hstderr), call_drop,
      if_pos hstderr, hlast]
    cases c.outcomes.calls[n]?.getD none with
    | some code =>
        refine ⟨fun _ => ?_, fun hnone => absurd nofun hnone⟩
        have hdropped : Parts p c (c.dropCalls (n + 1)) :=
          Apart.parts (.silent rfl rfl rfl rfl rfl)
        exact hdropped.trans (Parts.error (.plain (by decide)) _)
    | none => exact ⟨fun hfails => absurd rfl hfails, fun _ => rfl⟩
  · rw [if_neg (show ¬(c.dropCalls n).program.config.stderrRedirection = _ from hstderr),
      if_neg hstderr]
    exact ⟨fun hfails => absurd hfails hfirst, fun _ => rfl⟩

theorem checkBrickd_parts : Parts p c (checkBrickd c) := by
  unfold checkBrickd
  split_ifs
  · exact Apart.parts (setScheduler_apart rfl rfl rfl)
  · exact .refl

-- The config or the absolute names are different, and what is waited for.
structure Renamed (c c' : Context) : Prop where
  state : c'.program.scheduler.state = c.program.scheduler.state
  message : c'.program.scheduler.message = c.program.scheduler.message
  daemon : c'.daemon = c.daemon
  log : c'.log = c.log

theorem Renamed.refl (c : Context) : Renamed c c := ⟨rfl, rfl, rfl, rfl⟩

-- What an update has stored before it tries to start.
def Updated (c : Context)
    (paths : CString × ProgramSettings × Option CString × (Stdio → Option CString)) : Prop :=
  paths = if c.program.scheduler.shutdown ∨ PreparationFails c.program.config c.outcomes then
    c.program.paths
  else ({ c.program with scheduler := storeAbsoluteNames c.program } : Program).paths

theorem update_parts (tryStart : Bool) : ∃ c₀, Renamed c c₀ ∧ Updated c c₀.program.paths ∧
    Parts p c₀ (programSchedulerUpdate p tryStart c) := by
  unfold programSchedulerUpdate Updated
  by_cases hshutdown : c.program.scheduler.shutdown = true
  · rw [if_pos hshutdown, if_pos (Or.inl hshutdown)]
    exact ⟨c, .refl c, rfl, .refl⟩
  rw [if_neg hshutdown, if_congr (or_iff_right hshutdown) rfl rfl]
  obtain ⟨waitingForBrickd, hchecked⟩ : ∃ waitingForBrickd,
      checkBrickd c = c.setScheduler { c.program.scheduler with waitingForBrickd } := by
    unfold checkBrickd
    split_ifs
    · exact ⟨false, rfl⟩
    · exact ⟨c.program.scheduler.waitingForBrickd, rfl⟩
  have hparts := @checkBrickd_parts p c
  rw [hchecked] at hparts ⊢
  have hprepared := prepareFilesystem_eq p
    (c.setScheduler { c.program.scheduler with waitingForBrickd })
  change (PreparationFails c.program.config c.outcomes → _) ∧
    (¬PreparationFails c.program.config c.outcomes → _) at hprepared
  have htries : ∀ c₁ : Context, Parts p c₁ (if tryStart then programSchedulerTryStart p c₁ else c₁) := by
    intro c₁
    split_ifs
    · exact tryStart_parts
    · exact .refl
  by_cases hfails : PreparationFails c.program.config c.outcomes
  · rw [if_pos hfails]
    refine ⟨c, .refl c, rfl, hparts.trans ((hprepared.1 hfails).trans ?_)⟩
    generalize programSchedulerPrepareFilesystem p _ = result
    obtain ⟨code, c₁⟩ := result
    cases code with
    | some code => exact .refl
    | none => exact htries c₁
  · rw [if_neg hfails, hprepared.2 hfails]
    refine ⟨_, ?_, ?_, htries _⟩
    · exact ⟨rfl, rfl, rfl, rfl⟩
    · rfl

theorem continue_parts : Parts p c (programSchedulerContinue p c) := by
  unfold programSchedulerContinue
  split_ifs
  · exact .refl
  · exact start_parts
  · exact .refl

theorem shutdown_parts : Parts p c (programSchedulerShutdown p c) := by
  unfold programSchedulerShutdown
  split_ifs
  · exact .refl
  · have hset : Parts p c (c.setScheduler { c.program.scheduler with shutdown := true }) :=
      Apart.parts (setScheduler_apart rfl rfl rfl)
    have hstop := hset.tail .stop
    dsimp only
    generalize programSchedulerStop p none
      (c.setScheduler { c.program.scheduler with shutdown := true }) = c₁ at hstop
    apply hstop.trans
    cases c₁.program.scheduler.lastSpawnedProcess with
    | none => exact .refl
    | some process =>
        dsimp only
        split_ifs
        · exact Parts.record rfl rfl
        · exact .refl

theorem programPurge_parts (cookie : UInt32) (renames : List RenameResult) :
    Parts p c (programPurge p cookie renames c).2 := by
  unfold programPurge
  split_ifs
  · exact .refl
  · exact .refl
  · apply shutdown_parts.trans
    generalize programSchedulerShutdown p c = c₁
    have hcall : c₁.call = (c₁.outcomes.calls.headD none, c₁.call.2) := rfl
    rw [hcall]
    cases c₁.outcomes.calls.headD none with
    | some code => exact Parts.call
    | none =>
        apply Parts.call.trans
        obtain ⟨hdaemon, hlog, purged, hprogram⟩ := @purgeAttempts_quiet c₁.call.2 1000 renames
        apply Apart.parts
        exact .silent (by rw [hprogram]) (by rw [hprogram]) (by rw [hprogram]; rfl) (by rw [hdaemon])
          hlog

variable {event : World.Event}

theorem SetterCases.parts {request : World.Request} {result : APIE × Context}
    (h : SetterCases request p c result) : ∃ c₀, Renamed c c₀ ∧ Parts p c₀ result.2 := by
  cases h with
  | kept code hquiet => exact ⟨c, .refl c, hquiet.apart.parts⟩
  | @saved c' config tryStart hquiet _ _ =>
      obtain ⟨c₀, hrenamed, -, hparts⟩ :=
        @update_parts p { c' with program := { c.program with config } } tryStart
      exact ⟨c₀, ⟨hrenamed.state, hrenamed.message, hrenamed.daemon.trans hquiet.2.1,
        hrenamed.log.trans hquiet.2.2⟩, hparts⟩

theorem Called.parts (h : Called event p c c') : ∃ c₀, Renamed c c₀ ∧ Parts p c₀ c' := by
  have hupdate : ∃ c₀, Renamed c c₀ ∧ Parts p c₀ (programSchedulerUpdate p true c) := by
    obtain ⟨c₀, hrenamed, -, hparts⟩ := @update_parts p c true
    exact ⟨c₀, hrenamed, hparts⟩
  cases h with
  | setter _ _ hcases => exact hcases.parts
  | continueSchedule => exact ⟨c, .refl c, continue_parts⟩
  | start => exact ⟨c, .refl c, spawnProcess_parts⟩
  | purge => exact ⟨c, .refl c, programPurge_parts _ _⟩
  | cron => exact ⟨c, .refl c, handleCron_parts⟩
  | observer => exact ⟨c, .refl c, informObserver_parts⟩
  | brickd =>
      unfold World.handleBrickdConnection
      split_ifs
      · exact hupdate
      · exact ⟨c, .refl c, .refl⟩
  | create => exact hupdate

end Update

end RedApid.Scheduling

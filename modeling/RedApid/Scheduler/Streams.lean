import RedApid.Scheduler.Messages

namespace RedApid.Scheduling

open Memory

variable {p : ProgramRef} {c c' : Context} {log : List Effect} {base : Nat}
  {held files : List FileRef} {file : FileRef}

section References

-- The references that are left to a file, none at all if there is no such file. A file without
-- references has been destroyed, and cannot be used any more.
def fileReferences (file : FileRef) : List Effect → Option Nat
  | [] => none
  | .createFile :: log => if log.length = file then some 1 else fileReferences file log
  | .acquireFile other :: log =>
      if other = file then
        (fileReferences file log).bind fun count => if count = 0 then none else some (count + 1)
      else fileReferences file log
  | .releaseFile other :: log =>
      if other = file then
        (fileReferences file log).bind fun count => if count = 0 then none else some (count - 1)
      else fileReferences file log
  | _ :: log => fileReferences file log

-- Nothing is done with a file from `base` on.
def Effect.Foreign (base : Nat) : Effect → Prop
  | .createFile => False
  | .acquireFile file => file < base
  | .releaseFile file => file < base
  | _ => True

-- The files from `base` on have the references in `held` and no others.
structure Holding (base : Nat) (log : List Effect) (held : List FileRef) : Prop where
  base_le : base ≤ log.length
  known : ∀ file ∈ held, base ≤ file ∧ effectAt log file = some .createFile
  references : ∀ file, base ≤ file → effectAt log file = some .createFile →
    fileReferences file log = some (held.count file)

theorem Holding.empty (log : List Effect) : Holding log.length log [] where
  base_le := Nat.le_refl _
  known file hfile := absurd hfile List.not_mem_nil
  references file hfile hcreated := by
    rw [effectAt_of_length_le hfile] at hcreated
    cases hcreated

theorem Holding.lt_length (h : Holding base log held) (hfile : file ∈ held) :
    file < log.length := by
  by_contra hge
  have hcreated := (h.known file hfile).2
  rw [effectAt_of_length_le (Nat.le_of_not_lt hge)] at hcreated
  cases hcreated

theorem Holding.perm {held' : List FileRef} (h : Holding base log held) (hperm : held.Perm held') :
    Holding base log held' where
  base_le := h.base_le
  known file hfile := h.known file (hperm.mem_iff.mpr hfile)
  references file hfile hcreated := by
    rw [h.references file hfile hcreated, hperm.count_eq]

theorem effectAt_cons_of_ne {effect : Effect} {n : Nat} (h : n < log.length) :
    effectAt (effect :: log) n = effectAt log n := effectAt_grown (List.suffix_cons effect log) h

-- What is recorded without the creation of a file.
theorem Holding.cons {effect : Effect} {held' : List FileRef} (h : Holding base log held)
    (heffect : effect ≠ .createFile) (hheld : ∀ file ∈ held', file ∈ held)
    (hreferences : ∀ file, base ≤ file → fileReferences file log = some (held.count file) →
      fileReferences file (effect :: log) = some (held'.count file)) :
    Holding base (effect :: log) held' where
  base_le := Nat.le_succ_of_le h.base_le
  known file hfile := by
    have hold := hheld file hfile
    rw [effectAt_cons_of_ne (h.lt_length hold)]
    exact h.known file hold
  references file hfile hcreated := by
    apply hreferences file hfile
    apply h.references file hfile
    rw [effectAt] at hcreated
    split_ifs at hcreated
    · exact absurd (Option.some.inj hcreated) heffect
    · exact hcreated

theorem Holding.foreign (h : Holding base log held) {effect : Effect}
    (heffect : effect.Foreign base) : Holding base (effect :: log) held := by
  refine h.cons ?_ (fun _ => id) fun file hfile hreferences => ?_
  · rintro rfl
    exact heffect
  · have hother : ∀ other, other < base → other ≠ file :=
      fun other hother => Nat.ne_of_lt (Nat.lt_of_lt_of_le hother hfile)
    cases effect with
    | createFile => exact heffect.elim
    | acquireFile other => rwa [fileReferences, if_neg (hother other heffect)]
    | releaseFile other => rwa [fileReferences, if_neg (hother other heffect)]
    | wrapMessage | releaseMessage | fileOpen | processSpawn | processKill | processSpawned
    | stateChanged | observer | timerStopFailed => exact hreferences

theorem Holding.append (h : Holding base log held) {new : List Effect}
    (hnew : ∀ effect ∈ new, effect.Foreign base) : Holding base (new ++ log) held := by
  induction new with
  | nil => exact h
  | cons effect new ih =>
      have hrest := ih fun other hother => hnew other (List.mem_cons_of_mem effect hother)
      exact hrest.foreign (hnew effect List.mem_cons_self)

-- The new file has one reference.
theorem Holding.create (h : Holding base log held) :
    Holding base (.createFile :: log) (log.length :: held) where
  base_le := Nat.le_succ_of_le h.base_le
  known file hfile := by
    rcases List.mem_cons.mp hfile with rfl | hfile
    · exact ⟨h.base_le, if_pos rfl⟩
    · rw [effectAt_cons_of_ne (h.lt_length hfile)]
      exact h.known file hfile
  references file hfile hcreated := by
    rw [fileReferences]
    by_cases heq : log.length = file
    · have hnew : file ∉ held := fun hmem => Nat.ne_of_gt (h.lt_length hmem) heq
      rw [if_pos heq, heq, List.count_cons_self, List.count_eq_zero_of_not_mem hnew]
    · rw [effectAt, if_neg heq] at hcreated
      rw [if_neg heq, List.count_cons_of_ne heq]
      exact h.references file hfile hcreated

theorem Holding.acquire (h : Holding base log held) (hfile : file ∈ held) :
    Holding base (.acquireFile file :: log) (file :: held) := by
  refine h.cons nofun (fun other hother => ?_) fun other _ hreferences => ?_
  · rcases List.mem_cons.mp hother with rfl | hother
    · exact hfile
    · exact hother
  · rw [fileReferences]
    by_cases heq : file = other
    · subst heq
      have hpos : held.count file ≠ 0 := Nat.ne_of_gt (List.count_pos_iff.mpr hfile)
      rw [if_pos rfl, hreferences, Option.bind_some, if_neg hpos, List.count_cons_self]
    · rw [if_neg heq, List.count_cons_of_ne heq]
      exact hreferences

theorem Holding.release (h : Holding base log (file :: held)) :
    Holding base (.releaseFile file :: log) held := by
  refine h.cons nofun (fun other hother => List.mem_cons_of_mem file hother)
    fun other _ hreferences => ?_
  rw [fileReferences]
  by_cases heq : file = other
  · subst heq
    rw [List.count_cons_self] at hreferences
    rw [if_pos rfl, hreferences, Option.bind_some, if_neg (Nat.succ_ne_zero _), Nat.add_sub_cancel]
  · rw [List.count_cons_of_ne heq] at hreferences
    rw [if_neg heq]
    exact hreferences

theorem Holding.releases (h : Holding base log (files ++ held)) :
    Holding base (files.map .releaseFile ++ log) held := by
  induction files generalizing held with
  | nil => exact h
  | cons file files ih => exact (ih (h.perm List.perm_middle.symm)).release

theorem Holding.acquires (h : Holding base log held) (hfiles : ∀ file ∈ files, file ∈ held) :
    Holding base (files.map .acquireFile ++ log) (files ++ held) := by
  induction files with
  | nil => exact h
  | cons file files ih =>
      have hrest := ih fun other hother => hfiles other (List.mem_cons_of_mem file hother)
      exact hrest.acquire (List.mem_append_right files (hfiles file List.mem_cons_self))

end References

section Openings

-- No process is spawned, and none is released.
structure Unspawned (c c' : Context) : Prop where
  last : c'.program.scheduler.lastSpawnedProcess = c.program.scheduler.lastSpawnedProcess
  processes : c'.daemon.processes = c.daemon.processes

theorem Unspawned.trans {c'' : Context} (h : Unspawned c c') (h' : Unspawned c' c'') :
    Unspawned c c'' := ⟨h'.last.trans h.last, h'.processes.trans h.processes⟩

theorem abortObserver_unspawned : Unspawned c (programSchedulerAbortObserver p c) := by
  unfold programSchedulerAbortObserver
  by_cases hwaiting : c.program.scheduler.observerState = .waiting
  · rw [if_pos hwaiting]
    exact ⟨rfl, rfl⟩
  · rw [if_neg hwaiting]
    exact ⟨rfl, rfl⟩

theorem Holding.stop (h : Holding base c.log held) (message : Option MessageRef) :
    Holding base (programSchedulerStop p message c).log held := by
  have htriggers : Holding base (stopTriggers p c).log held := by
    have hstop := (@stopTriggers_triggerless p c).log
    generalize (stopTriggers p c).log = log' at hstop
    cases hstop with
    | stopped => exact h
    | failed => exact h.foreign trivial
    | stray code =>
        have htimer : Holding base (.timerStopFailed p :: c.log) held := h.foreign trivial
        exact @Holding.foreign _ base held htimer (.wrapMessage _ code) trivial
  change Holding base (programSchedulerSetState p .stopped message (stopTriggers p c)).log held
  generalize stopTriggers p c = c' at htriggers
  unfold programSchedulerSetState releaseOldMessage
  split_ifs
  · exact htriggers
  · refine Holding.foreign ?_ (show Effect.Foreign base (.stateChanged p .stopped) from trivial)
    cases c'.program.scheduler.message with
    | none => exact htriggers
    | some old =>
        dsimp only
        split_ifs
        · exact htriggers.foreign trivial
        · exact htriggers

-- What is left of a failure, also of one behind the first file.
structure Failed (base : Nat) (held : List FileRef) (c c' : Context) : Prop where
  holding : Holding base c'.log held
  unspawned : Unspawned c c'
  stopped : c'.program.scheduler.state = .stopped

theorem handleError_failed (h : Holding base c.log held) (format : String)
    (code : Option APIError) : Failed base held c (programSchedulerHandleError p format code c) := by
  have hcall : c.call = (c.outcomes.calls.headD none, c.call.2) := rfl
  refine ⟨?_, ?_, handleError_state format code⟩
  · unfold programSchedulerHandleError wrapMessage
    rw [hcall]
    cases c.outcomes.calls.headD none with
    | some _ => exact @Holding.stop p c.call.2 base held h none
    | none =>
        have hwrapped : Holding base (.wrapMessage format code :: c.log) held := h.foreign trivial
        exact @Holding.stop p (c.call.2.record (.wrapMessage format code)) base held hwrapped
          (some c.call.2.log.length)
  · unfold programSchedulerHandleError wrapMessage
    rw [hcall]
    cases c.outcomes.calls.headD none with
    | some _ =>
        obtain ⟨-, hlast, hprocesses⟩ := @stop_keeps p c.call.2 none
        exact ⟨hlast, hprocesses⟩
    | none =>
        obtain ⟨-, hlast, hprocesses⟩ := @stop_keeps p
          (c.call.2.record (.wrapMessage format code)) (some c.call.2.log.length)
        exact ⟨hlast, hprocesses⟩

theorem Failed.release (h : Failed base (file :: held) c c') :
    Failed base held c (c'.record (.releaseFile file)) :=
  ⟨h.holding.release, ⟨h.unspawned.last, h.unspawned.processes⟩, h.stopped⟩

-- A file is held after it has been opened, and nothing else is different then.
structure Prepared (base : Nat) (held : List FileRef) (c : Context)
    (result : Option FileRef × Context) : Prop where
  opened : ∀ file, result.1 = some file → Holding base result.2.log (file :: held) ∧
    result.2.program = c.program ∧ result.2.daemon = c.daemon
  failed : result.1 = none → Failed base held c result.2

variable {result : Option FileRef × Context}

theorem Prepared.error (h : Failed base held c c') : Prepared base held c (none, c') :=
  ⟨(fun _ hnone => by cases hnone), fun _ => h⟩

theorem Prepared.success (h : Holding base c'.log (file :: held))
    (hprogram : c'.program = c.program) (hdaemon : c'.daemon = c.daemon) :
    Prepared base held c (some file, c') := by
  refine ⟨fun other hother => ?_, fun hnone => ?_⟩
  · cases hother
    exact ⟨h, hprogram, hdaemon⟩
  · cases hnone

theorem Prepared.after (h : Prepared base held c' result) (hprogram : c'.program = c.program)
    (hdaemon : c'.daemon = c.daemon) : Prepared base held c result where
  opened file hfile := by
    obtain ⟨hholding, hprogram', hdaemon'⟩ := h.opened file hfile
    exact ⟨hholding, hprogram'.trans hprogram, hdaemon'.trans hdaemon⟩
  failed hnone := by
    obtain ⟨hholding, hunspawned, hstopped⟩ := h.failed hnone
    have hsame : Unspawned c c' := ⟨by rw [hprogram], by rw [hdaemon]⟩
    exact ⟨hholding, hsame.trans hunspawned, hstopped⟩

theorem Writes.prepared (hwrites : Writes p file c result)
    (h : Holding base c.log (file :: held)) : Prepared base held c result := by
  induction hwrites with
  | written => exact .success h rfl rfl
  | call _ ih => exact (ih h).after rfl rfl
  | failed format code _ => exact .error (handleError_failed h format code).release

theorem Obtains.prepared {shared : Option FileRef} (hobtains : Obtains p shared c result)
    (h : Holding base c.log held) (hshared : ∀ file, shared = some file → file ∈ held) :
    Prepared base held c result := by
  induction hobtains with
  | error format code _ => exact .error (handleError_failed h format code)
  | call _ ih => exact (ih h).after rfl rfl
  | named stream name _ _ _ ih => exact (ih (h.foreign trivial)).after rfl rfl
  | created => exact .success h.create rfl rfl
  | acquired file hsame => exact .success (h.acquire (hshared file hsame)) rfl rfl
  | header hwrites => exact (hwrites.prepared h.create).after rfl rfl

end Openings

section Spawn

theorem Failed.releases (h : Failed base files c c') :
    Failed base [] c { c' with log := files.map .releaseFile ++ c'.log } := by
  have hholding : Holding base c'.log (files ++ []) := by
    rw [List.append_nil]
    exact h.holding
  exact ⟨hholding.releases, ⟨h.unspawned.last, h.unspawned.processes⟩, h.stopped⟩

theorem Failed.after (h : Failed base held c' c) {c₀ : Context} (hunspawned : Unspawned c₀ c') :
    Failed base held c₀ c := ⟨h.holding, hunspawned.trans h.unspawned, h.stopped⟩

-- The last process of the scheduler is there, and has files from before `base`.
def LastHeld (base : Nat) (c : Context) : Prop :=
  ∀ q, c.program.scheduler.lastSpawnedProcess = some q → ∃ process,
    c.daemon.processes.get q = some process ∧ 0 < process.internalReferenceCount ∧
      ∀ file ∈ process.files, file < base

theorem LastHeld.unspawned (h : LastHeld base c) (hunspawned : Unspawned c c') :
    LastHeld base c' := by
  intro q hq
  rw [hunspawned.processes]
  exact h q (hunspawned.last ▸ hq)

theorem LastHeld.ne_next (h : LastHeld base c) :
    c.program.scheduler.lastSpawnedProcess ≠ some c.daemon.processes.next := by
  intro hlast
  obtain ⟨process, hprocess, -⟩ := h _ hlast
  exact Nat.lt_irrefl _ (Heap.lt_next_of_get hprocess)

-- The files of a process that is destroyed are older.
theorem LastHeld.release (h : LastHeld base c) (hholding : Holding base c.log held) :
    Holding base (releaseLastProcess c).2 held := by
  unfold releaseLastProcess
  cases hlast : c.program.scheduler.lastSpawnedProcess with
  | none => exact hholding
  | some q =>
      obtain ⟨process, hprocess, -, hfiles⟩ := h q hlast
      dsimp only
      unfold removeInternalReference
      rw [hprocess]
      dsimp only
      split_ifs
      · exact hholding
      · apply hholding.append
        intro effect heffect
        obtain ⟨file, hfile, rfl⟩ := List.mem_map.mp heffect
        exact hfiles file hfile
      · exact hholding

-- The new process has taken the place of the last one, and has its files.
structure Spawned (p : ProgramRef) (base : Nat) (c c' : Context) : Prop where
  last : c'.program.scheduler.lastSpawnedProcess = some c.daemon.processes.next
  replaced : Replaced p c.program c.daemon c'.daemon
  holding : ∃ process, c'.daemon.processes.get c.daemon.processes.next = some process ∧
    Holding base c'.log process.files

theorem keepSpawnedProcess_spawned (hholding : Holding base c.log files) (hheld : LastHeld base c)
    (hprogram : c'.program = c.program)
    (hdaemon : c'.daemon = { c.daemon with
      processes := c.daemon.processes.alloc (spawnedProcess p files) })
    (hlog : c'.log = files.reverse.map .acquireFile ++ c.log) :
    Spawned p base c (keepSpawnedProcess p c.daemon.processes.next files c') := by
  have hfound : ∀ q, c.program.scheduler.lastSpawnedProcess = some q →
      ∃ found, c.daemon.processes.get q = some found := by
    intro q hq
    obtain ⟨found, hfound, -⟩ := hheld q hq
    exact ⟨found, hfound⟩
  obtain ⟨hreplaced, hnew, -⟩ := releaseLastProcess_replaced files hfound hprogram hdaemon
  have hheld' : LastHeld base c' := by
    intro q hq
    rw [hprogram] at hq
    obtain ⟨process, hprocess, hrest⟩ := hheld q hq
    refine ⟨process, ?_, hrest⟩
    rw [hdaemon]
    exact Heap.get_alloc_of_get hprocess _
  have hacquired : Holding base c'.log (files.reverse ++ files) := by
    rw [hlog]
    exact hholding.acquires fun file hfile => List.mem_reverse.mp hfile
  have hspawned : Holding base (.processSpawned p :: (releaseLastProcess c').2)
      (files.reverse ++ files) := (hheld'.release hacquired).foreign trivial
  exact ⟨rfl, hreplaced, _, hnew, hspawned.releases⟩

theorem spawnWithFiles_ends (hholding : Holding base c.log files) (hheld : LastHeld base c)
    (hreturns : (spawnWithFiles p files c).daemon.crashed = false) :
    Failed base [] c (spawnWithFiles p files c) ∨ Spawned p base c (spawnWithFiles p files c) := by
  unfold spawnWithFiles at hreturns ⊢
  cases hworking : c.program.scheduler.absoluteWorkingDirectory with
  | none =>
      rw [hworking] at hreturns
      cases hreturns
  | some workingDirectory =>
      rw [hworking] at hreturns
      have hrecord : Holding base
          (c.record (.processSpawn p c.program (some workingDirectory))).log files :=
        hholding.foreign trivial
      have hcases := processSpawn_cases (p := p) workingDirectory files
        (c := c.record (.processSpawn p c.program (some workingDirectory)))
      dsimp only at hreturns ⊢
      unfold spawnInDirectory at hreturns ⊢
      generalize processSpawn p workingDirectory files
        (c.record (.processSpawn p c.program (some workingDirectory))) = result
        at hcases hreturns
      cases hcases with
      | @failed c₁ code hprogram hdaemon hlog =>
          rw [← hlog] at hrecord
          have hsame : Unspawned c c₁ := ⟨by rw [hprogram]; rfl, by rw [hdaemon]; rfl⟩
          have hfailed := handleError_failed (p := p) hrecord "Could not spawn process: %s (%d)"
            (some code)
          exact .inl (hfailed.releases.after hsame)
      | unset => cases hreturns
      | @spawned c₁ hprogram hdaemon hlog =>
          have hheld' : LastHeld base
              (c.record (.processSpawn p c.program (some workingDirectory))) :=
            hheld.unspawned ⟨rfl, rfl⟩
          have hspawned := keepSpawnedProcess_spawned hrecord hheld' hprogram hdaemon hlog
          exact .inr ⟨hspawned.last, hspawned.replaced, hspawned.holding⟩

-- Only one of two processes at a time.
theorem spawnProcess_alive (halive : c.lastAlive = true) :
    programSchedulerSpawnProcess p c = programSchedulerAbortObserver p c := by
  rw [← @abortObserver_lastAlive p c] at halive
  exact if_pos halive

theorem spawnProcess_ends (hheld : LastHeld c.log.length c) (hdead : c.lastAlive = false)
    (hreturns : (programSchedulerSpawnProcess p c).daemon.crashed = false) :
    Failed c.log.length [] c (programSchedulerSpawnProcess p c) ∨
      Spawned p c.log.length (programSchedulerAbortObserver p c)
        (programSchedulerSpawnProcess p c) := by
  have habort := @abortObserver_unspawned p c
  have hheld₀ := hheld.unspawned habort
  have hempty : Holding c.log.length (programSchedulerAbortObserver p c).log [] := .empty c.log
  have hnotAlive : ¬(programSchedulerAbortObserver p c).lastAlive = true := by
    rw [abortObserver_lastAlive, hdead]
    exact Bool.false_ne_true
  unfold Context.lastAlive at hnotAlive
  unfold programSchedulerSpawnProcess at hreturns ⊢
  dsimp only at hreturns ⊢
  rw [if_neg hnotAlive] at hreturns ⊢
  generalize programSchedulerAbortObserver p c = c₀ at habort hheld₀ hempty hreturns ⊢
  have hstdin := (@prepareStdin_obtains p c₀ none).prepared hempty fun _ hnone => by cases hnone
  generalize programSchedulerPrepareStdin p c₀ = result at hstdin hreturns ⊢
  obtain ⟨stdin, c₁⟩ := result
  cases stdin with
  | none => exact .inl ((hstdin.failed rfl).after habort)
  | some stdin =>
      obtain ⟨hholding₁, hprogram₁, hdaemon₁⟩ := hstdin.opened stdin rfl
      have hstdout := (@prepareStdout_obtains p c₁ none).prepared hholding₁
        fun _ hnone => by cases hnone
      have hsame₁ : Unspawned c₀ c₁ := ⟨by rw [hprogram₁], by rw [hdaemon₁]⟩
      dsimp only at hreturns ⊢
      generalize programSchedulerPrepareStdout p c₁ = result at hstdout hreturns ⊢
      obtain ⟨stdout, c₂⟩ := result
      cases stdout with
      | none => exact .inl ((hstdout.failed rfl).release.after (habort.trans hsame₁))
      | some stdout =>
          obtain ⟨hholding₂, hprogram₂, hdaemon₂⟩ := hstdout.opened stdout rfl
          have hstderr := (@prepareStderr_obtains p c₂ stdout).prepared hholding₂
            fun file hfile => by
              rw [← Option.some.inj hfile]
              exact List.mem_cons_self
          have hsame₂ : Unspawned c₀ c₂ := hsame₁.trans ⟨by rw [hprogram₂], by rw [hdaemon₂]⟩
          dsimp only at hreturns ⊢
          generalize programSchedulerPrepareStderr p stdout c₂ = result at hstderr hreturns ⊢
          obtain ⟨stderr, c₃⟩ := result
          cases stderr with
          | none =>
              exact .inl ((hstderr.failed rfl).release.release.after (habort.trans hsame₂))
          | some stderr =>
              obtain ⟨hholding₃, hprogram₃, hdaemon₃⟩ := hstderr.opened stderr rfl
              have hprogram : c₃.program = c₀.program :=
                hprogram₃.trans (hprogram₂.trans hprogram₁)
              have hdaemon : c₃.daemon = c₀.daemon := hdaemon₃.trans (hdaemon₂.trans hdaemon₁)
              have hsame₃ : Unspawned c₀ c₃ := ⟨by rw [hprogram], by rw [hdaemon]⟩
              have hfiles : Holding c.log.length c₃.log [stdin, stdout, stderr] :=
                hholding₃.perm (List.reverse_perm [stdin, stdout, stderr])
              rcases spawnWithFiles_ends hfiles (hheld₀.unspawned hsame₃) hreturns with
                hfailed | hspawned
              · exact .inl (hfailed.after (habort.trans hsame₃))
              · obtain ⟨hlast, hreplaced, hholding⟩ := hspawned
                rw [hdaemon] at hlast hreplaced hholding
                rw [hprogram] at hreplaced
                exact .inr ⟨hlast, hreplaced, hholding⟩

-- The process that a call has spawned, it has the next address.
def spawnedBy (c c' : Context) : Option Process := c'.daemon.processes.get c.daemon.processes.next

-- `c'` is the context after a call that starts with `c`.
structure SpawnAccounts (p : ProgramRef) (c c' : Context) : Prop where
  files : ∀ file, c.log.length ≤ file → effectAt c'.log file = some .createFile →
    fileReferences file c'.log =
      some ((((spawnedBy c c').map (·.files)).getD []).count file)
  changed : c'.program.scheduler.lastSpawnedProcess ≠ c.program.scheduler.lastSpawnedProcess ↔
    spawnedBy c c' ≠ none
  moved : spawnedBy c c' ≠ none →
    c'.program.scheduler.lastSpawnedProcess = some c.daemon.processes.next ∧
      Replaced p c.program (programSchedulerAbortObserver p c).daemon c'.daemon
  kept : spawnedBy c c' = none → c'.daemon.processes = c.daemon.processes
  stopped : spawnedBy c c' = none → c.lastAlive = false →
    c'.program.scheduler.state = .stopped

theorem Unspawned.accounts (hunspawned : Unspawned c c') (hholding : Holding c.log.length c'.log [])
    (hstopped : c.lastAlive = false → c'.program.scheduler.state = .stopped) :
    SpawnAccounts p c c' := by
  have hnone : spawnedBy c c' = none := by
    unfold spawnedBy
    rw [hunspawned.processes]
    exact Heap.get_eq_none_of_next_le _ (Nat.le_refl _)
  refine ⟨?_, ?_, fun hspawned => absurd hnone hspawned, fun _ => hunspawned.processes,
    fun _ => hstopped⟩
  · rw [hnone]
    exact hholding.references
  · rw [hnone, hunspawned.last]
    exact iff_of_false (fun hne => hne rfl) fun hne => hne rfl

theorem Spawned.accounts (hspawned : Spawned p c.log.length (programSchedulerAbortObserver p c) c')
    (hheld : LastHeld c.log.length c) : SpawnAccounts p c c' := by
  have habort := @abortObserver_unspawned p c
  obtain ⟨hlast, hreplaced, process, hprocess, hholding⟩ := hspawned
  rw [habort.processes] at hlast hprocess
  have hsome : spawnedBy c c' = some process := hprocess
  refine ⟨?_, ?_, fun _ => ⟨hlast, ?_⟩, fun hnone => ?_, fun hnone => ?_⟩
  · rw [hsome]
    exact hholding.references
  · rw [hsome, hlast]
    exact iff_of_true (fun heq => hheld.ne_next heq.symm) (Option.some_ne_none process)
  · exact
      { same := hreplaced.same
        new := hreplaced.new
        others := fun r hr hnotLast => hreplaced.others r hr hnotLast
        old := fun r found hr hfound => hreplaced.old r found hr hfound }
  · rw [hsome] at hnone
    cases hnone
  · rw [hsome] at hnone
    cases hnone

theorem spawnProcess_accounts (hheld : LastHeld c.log.length c)
    (hreturns : (programSchedulerSpawnProcess p c).daemon.crashed = false) :
    SpawnAccounts p c (programSchedulerSpawnProcess p c) := by
  by_cases halive : c.lastAlive = true
  · rw [spawnProcess_alive halive]
    refine abortObserver_unspawned.accounts (.empty c.log) fun hdead => ?_
    rw [hdead] at halive
    cases halive
  · have hdead : c.lastAlive = false := by simpa using halive
    rcases spawnProcess_ends hheld hdead hreturns with hfailed | hspawned
    · exact hfailed.unspawned.accounts hfailed.holding fun _ => hfailed.stopped
    · exact hspawned.accounts hheld

end Spawn

section World

variable {w w' : World} {event : World.Event}

theorem Part.filesKnown (hpart : Part p c c') (h : FilesKnown c.daemon.processes c.log) :
    FilesKnown c'.daemon.processes c'.log := by
  have hgrown := hpart.grown.length_le
  have hkept : c'.daemon.processes = c.daemon.processes → FilesKnown c'.daemon.processes c'.log := by
    intro hprocesses
    rw [hprocesses]
    exact h.mono hgrown
  cases hpart with
  | apart hapart => exact hapart.files h
  | error format code =>
      exact hkept (handleError_failed (.empty c.log) format code).unspawned.processes
  | stop => exact hkept (stop_keeps none).2.2
  | keep => exact hkept (stop_keeps _).2.2
  | start => exact hkept (by rw [setState_daemon])

theorem Parts.filesKnown (hparts : Parts p c c') (h : FilesKnown c.daemon.processes c.log) :
    FilesKnown c'.daemon.processes c'.log := by
  induction hparts with
  | refl => exact h
  | tail _ hpart ih => exact hpart.filesKnown ih

theorem destroy_filesKnown (h : FilesKnown c.daemon.processes c.log) :
    FilesKnown (programSchedulerDestroy p c).daemon.processes (programSchedulerDestroy p c).log := by
  have hshutdown := (@shutdown_parts p c).filesKnown h
  have hreleased := (@releaseLastProcess_removed (programSchedulerShutdown p c)).files hshutdown
  unfold programSchedulerDestroy
  generalize programSchedulerShutdown p c = c₁ at hreleased
  dsimp only
  cases c₁.program.scheduler.message with
  | none => exact hreleased
  | some message => exact hreleased.mono (Nat.le_succ _)

-- The processes of the schedulers have files that were created before.
def World.FilesKnown (w : World) : Prop := Scheduling.FilesKnown w.daemon.processes w.log

theorem World.FilesKnown.modifyProcess (h : w.FilesKnown) {q : ProcessRef} {f : Process → Process}
    (hf : ∀ process, (f process).files = process.files ∧
      (f process).stateChanged = process.stateChanged) : (w.modifyProcess q f).FilesKnown := by
  intro r process hprocess hchanged
  change (w.daemon.processes.modify q f).get r = some process at hprocess
  rw [Heap.get_modify] at hprocess
  split_ifs at hprocess with hr
  · obtain ⟨before, hbefore, rfl⟩ := Option.map_eq_some_iff.mp hprocess
    obtain ⟨hfiles, hsame⟩ := hf before
    rw [hfiles]
    exact h r before hbefore (hsame ▸ hchanged)
  · exact h r process hprocess hchanged

theorem World.Does.filesKnown (hdoes : World.Does event w w') (h : w.FilesKnown) :
    w'.FilesKnown := by
  cases hdoes with
  | called _ _ hcalled =>
      obtain ⟨c₀, hrenamed, hparts⟩ := hcalled.parts
      refine hparts.filesKnown ?_
      rw [hrenamed.daemon, hrenamed.log]
      exact h
  | @died p program q found state exitCode outcomes _ _ _ _ _ _ =>
      exact (@handleProcessStateChange_parts p _).filesKnown (h.modifyProcess fun _ => ⟨rfl, rfl⟩)
  | orphaned => exact h.modifyProcess fun _ => ⟨rfl, rfl⟩
  | @expired p program arming outcomes _ _ _ _ => exact (@handleTimer_parts p _).filesKnown h
  | noted => exact h
  | adjusted hadjusted =>
      obtain ⟨processes, files, rfl, hadjusts, -⟩ := hadjusted
      intro q process' hprocess' hchanged' file hfile
      obtain ⟨process, hprocess, hchanged, hsame⟩ := hadjusts.files q process' hprocess' hchanged'
      have hknown := h q process hprocess hchanged file (hsame ▸ hfile)
      change file < (files.map Effect.releaseFile ++ w.log).length
      rw [List.length_append]
      exact hknown.trans_le (Nat.le_add_left _ _)
  | observed => exact h
  | connected => exact h
  | created => exact h
  | destroyed => exact destroy_filesKnown h

theorem World.DoesAll.filesKnown (hdoes : World.DoesAll event w w') (h : w.FilesKnown) :
    w'.FilesKnown := by
  induction hdoes with
  | refl => exact h
  | tail _ hdoes ih => exact hdoes.filesKnown ih

-- Before a call for a program has spawned or released a process.
def World.HoldsLast (w : World) : Prop :=
  ∀ p program, w.programs.get p = some program → ∀ c : Context,
    c.program.scheduler.lastSpawnedProcess = program.scheduler.lastSpawnedProcess →
    c.daemon.processes = w.daemon.processes → w.log <:+ c.log → LastHeld c.log.length c

theorem World.Inv.holdsLast (h : w.Inv) (hfiles : w.FilesKnown) : w.HoldsLast := by
  intro p program hget c hlast hprocesses hgrown q hq
  have hbase := h.core.base p program hget
  rw [hlast] at hq
  obtain ⟨process, hprocess, hchanged⟩ := hbase.last q hq
  have hcount := (hbase.process q process hprocess hchanged).2.2
  rw [if_pos hq] at hcount
  refine ⟨process, by rw [hprocesses, hprocess], by omega, fun file hfile => ?_⟩
  have hsome : process.stateChanged ≠ none := by
    rw [hchanged]
    exact Option.some_ne_none p
  exact (hfiles q process hprocess hsome file hfile).trans_le hgrown.length_le

theorem scheduler_spawn_accounts (x11Enabled : Bool) (events : List (World.Event × Outcomes)) :
    Trace.Always World.next World.HoldsLast (World.init x11Enabled) events ∧
      ∀ (p : ProgramRef) (c : Context), LastHeld c.log.length c →
        (programSchedulerSpawnProcess p c).daemon.crashed = false →
          SpawnAccounts p c (programSchedulerSpawnProcess p c) := by
  refine ⟨?_, fun p c hheld hreturns => spawnProcess_accounts hheld hreturns⟩
  apply Trace.always_of_step (I := fun w => w.Inv ∧ w.FilesKnown)
  · rintro w event w' ⟨hinv, hfiles⟩ hnext
    exact ⟨hinv.next hnext, (hinv.next_does hnext).filesKnown hfiles⟩
  · rintro w ⟨hinv, hfiles⟩
    exact hinv.holdsLast hfiles
  · refine ⟨World.init_inv x11Enabled, fun q process hprocess => ?_⟩
    change Heap.empty.get q = some process at hprocess
    rw [Heap.get_empty] at hprocess
    cases hprocess

def sharingFile : ConfFile where
  entries := [(ascii "executable", ascii "keeper"), (ascii "start_mode", ascii "always"),
    (ascii "stderr_redirection", ascii "stdout")]
  distinct := by
    change [fold (ascii "executable"), fold (ascii "start_mode"),
      fold (ascii "stderr_redirection")].Nodup
    decide

-- A program with one file for stdout and stderr whose process has ended.
def sharingEvents : List (World.Event × Outcomes) :=
  [loadGreeter sharingFile, (.brickdAccept, .succeed), (.processStateChange 0 .exited 0, .succeed)]

theorem scheduler_spawn_accounts_sharing :
    ∃ w program, Trace.run World.next (World.init false) sharingEvents = some w ∧
      w.programs.get 0 = some program ∧ program.scheduler.lastSpawnedProcess = some 0 ∧
      SpawnAccounts 0 (w.context program .succeed)
        (programSchedulerSpawnProcess 0 (w.context program .succeed)) ∧
      spawnedBy (w.context program .succeed)
        (programSchedulerSpawnProcess 0 (w.context program .succeed)) ≠ none := by
  obtain ⟨w, program, hrun, hget, hlast, hreturns, hspawned⟩ : ∃ w program,
      Trace.run World.next (World.init false) sharingEvents = some w ∧
        w.programs.get 0 = some program ∧ program.scheduler.lastSpawnedProcess = some 0 ∧
        (programSchedulerSpawnProcess 0 (w.context program .succeed)).daemon.crashed = false ∧
        spawnedBy (w.context program .succeed)
          (programSchedulerSpawnProcess 0 (w.context program .succeed)) ≠ none :=
    ⟨_, _, rfl, rfl, rfl, rfl, Option.some_ne_none _⟩
  obtain ⟨halways, haccounts⟩ := scheduler_spawn_accounts false sharingEvents
  have hheld := halways.of_run hrun 0 program hget (w.context program .succeed) rfl rfl
    List.suffix_rfl
  exact ⟨w, program, hrun, hget, hlast, haccounts 0 _ hheld hreturns, hspawned⟩

end World

end RedApid.Scheduling

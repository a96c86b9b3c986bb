import RedApid.Scheduler.Programs

namespace RedApid.Scheduling

open Memory

variable {w : World} {p : ProgramRef}

section Processes

-- What a change of processes leaves to the programs that have spawned them. No process comes to
-- life, and those stay that have references besides the ones by lists.
structure Adjusts (processes processes' : Heap Process) : Prop where
  old : ∀ q process' p, processes'.get q = some process' → process'.stateChanged = some p →
    ∃ process, processes.get q = some process ∧ process.stateChanged = some p ∧
      (process'.state.isAlive = true → process.state.isAlive = true) ∧
      process'.releaseOnDeath = process.releaseOnDeath ∧
      process'.internalReferenceCount + process.listed =
        process.internalReferenceCount + process'.listed
  kept : ∀ q process p, processes.get q = some process → process.stateChanged = some p →
    process.listed < process.internalReferenceCount →
    ∃ process', processes'.get q = some process' ∧ process'.stateChanged = some p
  files : ∀ q process', processes'.get q = some process' → process'.stateChanged ≠ none →
    ∃ process, processes.get q = some process ∧ process.stateChanged ≠ none ∧
      process'.files = process.files

theorem Base.adjust {program : Program} {daemon : Daemon} {log log' : List Effect}
    {processes : Heap Process} (h : Base p program daemon log)
    (hadjusts : Adjusts daemon.processes processes) (hlog : ∀ effect ∈ log, effect ∈ log') :
    Base p program { daemon with processes } log' :=
  { h with
    inert := fun hstopped hactive => hlog _ (h.inert hstopped hactive)
    last := fun q hq => by
      obtain ⟨process, hprocess, hchanged⟩ := h.last q hq
      refine hadjusts.kept q process p hprocess hchanged ?_
      rw [(h.process q process hprocess hchanged).2.2, if_pos hq]
      exact Nat.lt_succ_self _
    process := fun q process' hprocess' hchanged' => by
      obtain ⟨process, hprocess, hchanged, halive, hrelease, hcount⟩ :=
        hadjusts.old q process' p hprocess' hchanged'
      obtain ⟨hlast, hfalse, hinternal⟩ := h.process q process hprocess hchanged
      refine ⟨fun halive' => hlast (halive halive'), hrelease.trans hfalse, ?_⟩
      omega }

-- The world with other processes, and with the files released that a process had.
def World.adjust (w : World) (processes : Heap Process) (files : List FileRef) : World :=
  { w with
    daemon := { w.daemon with processes }
    log := files.map .releaseFile ++ w.log }

theorem World.Core.adjust (h : w.Core) {processes : Heap Process}
    (hadjusts : Adjusts w.daemon.processes processes) (files : List FileRef) :
    (w.adjust processes files).Core where
  base q program hget :=
    (h.base q program hget).adjust hadjusts fun _ => List.mem_append_right _
  ids := h.ids
  entries := h.entries
  observers := h.observers
  process q process' r hprocess' hchanged' := by
    obtain ⟨process, hprocess, hchanged, -, hrelease, hcount⟩ :=
      hadjusts.old q process' r hprocess' hchanged'
    obtain ⟨hlt, hfalse, hlisted⟩ := h.process q process r hprocess hchanged
    exact ⟨hlt, hrelease.trans hfalse, by omega⟩
  alive q q' process process' r hget hget' hchanged hchanged' halive halive' := by
    obtain ⟨before, hbefore, hsame, haliveBefore, -⟩ := hadjusts.old q process r hget hchanged
    obtain ⟨before', hbefore', hsame', haliveBefore', -⟩ :=
      hadjusts.old q' process' r hget' hchanged'
    exact h.alive q q' before before' r hbefore hbefore' hsame hsame' (haliveBefore halive)
      (haliveBefore' halive')
  sound effect heffect := by
    rcases List.mem_append.mp heffect with heffect | heffect
    · obtain ⟨file, -, rfl⟩ := List.mem_map.mp heffect
      trivial
    · exact h.sound effect heffect
  logged effect heffect r hr := by
    rcases List.mem_append.mp heffect with heffect | heffect
    · obtain ⟨file, -, rfl⟩ := List.mem_map.mp heffect
      cases hr
    · exact h.logged effect heffect r hr

-- The same for all processes of a kind that have references besides the ones by lists.
def KeepsAlive (processes processes' : Heap Process) (P : ProgramRef → Prop) : Prop :=
  ∀ q process r, processes.get q = some process → process.stateChanged = some r → P r →
    process.listed < process.internalReferenceCount → process.state.isAlive = true →
    ∃ process', processes'.get q = some process' ∧ process'.state.isAlive = true

-- Only ALWAYS depends on a process.
theorem Live.of_not_always {program : Program} {daemon : Daemon} (h : Live program daemon)
    (hmode : program.config.startMode ≠ .always) (daemon' : Daemon) : Live program daemon' := by
  intro hrunning
  have htrigger := h hrunning
  cases hstart : program.config.startMode with
  | never =>
      rw [hstart] at htrigger
      exact htrigger
  | always => exact absurd hstart hmode
  | interval =>
      rw [hstart] at htrigger
      exact htrigger
  | cron =>
      rw [hstart] at htrigger
      exact htrigger

theorem Live.adjust {program : Program} {daemon : Daemon} {log : List Effect}
    {processes : Heap Process} (h : Live program daemon) (hbase : Base p program daemon log)
    {P : ProgramRef → Prop} (hkeeps : KeepsAlive daemon.processes processes P) (hp : P p) :
    Live program { daemon with processes } := by
  have halive : program.scheduler.lastSpawnedProcess.any daemon.isAlive = true →
      program.scheduler.lastSpawnedProcess.any
        ({ daemon with processes } : Daemon).isAlive = true := by
    intro hlive
    cases hlast : program.scheduler.lastSpawnedProcess with
    | none =>
        rw [hlast] at hlive
        cases hlive
    | some q =>
        obtain ⟨process, hprocess, hchanged⟩ := hbase.last q hlast
        have hcount := (hbase.process q process hprocess hchanged).2.2
        rw [if_pos hlast] at hcount
        rw [hlast, Option.any_some, Daemon.isAlive, hprocess, Option.any_some] at hlive
        obtain ⟨process', hprocess', halive'⟩ := hkeeps q process p hprocess hchanged hp
          (by omega) hlive
        rw [Option.any_some, Daemon.isAlive, hprocess', Option.any_some]
        exact halive'
  by_cases hmode : program.config.startMode = .always
  · intro hrunning
    have htrigger := h hrunning
    rw [hmode] at htrigger ⊢
    exact htrigger.imp_left halive
  · exact h.of_not_always hmode _

theorem adjusts_modify {processes : Heap Process} {q : ProcessRef} {f : Process → Process}
    (hf : ∀ process, processes.get q = some process →
      (f process).stateChanged = process.stateChanged ∧
      (process.stateChanged ≠ none →
        ((f process).state.isAlive = true → process.state.isAlive = true) ∧
        (f process).releaseOnDeath = process.releaseOnDeath ∧
        (f process).internalReferenceCount + process.listed =
          process.internalReferenceCount + (f process).listed))
    (hfiles : ∀ process, processes.get q = some process → process.stateChanged ≠ none →
      (f process).files = process.files) :
    Adjusts processes (processes.modify q f) where
  old r process' p hprocess' hchanged' := by
    rw [Heap.get_modify] at hprocess'
    by_cases hr : r = q
    · subst hr
      rw [if_pos rfl] at hprocess'
      obtain ⟨process, hprocess, rfl⟩ := Option.map_eq_some_iff.mp hprocess'
      obtain ⟨hchanged, hkept⟩ := hf process hprocess
      rw [hchanged] at hchanged'
      exact ⟨process, hprocess, hchanged', hkept (by rw [hchanged']; nofun)⟩
    · rw [if_neg hr] at hprocess'
      exact ⟨process', hprocess', hchanged', fun halive => halive, rfl, rfl⟩
  kept r process p hprocess hchanged _ := by
    by_cases hr : r = q
    · subst hr
      refine ⟨f process, ?_, ?_⟩
      · rw [Heap.get_modify_self, hprocess]
        rfl
      · rw [(hf process hprocess).1, hchanged]
    · exact ⟨process, (Heap.get_modify_ne hr f).trans hprocess, hchanged⟩
  files r process' hprocess' hchanged' := by
    rw [Heap.get_modify] at hprocess'
    by_cases hr : r = q
    · subst hr
      rw [if_pos rfl] at hprocess'
      obtain ⟨process, hprocess, rfl⟩ := Option.map_eq_some_iff.mp hprocess'
      rw [(hf process hprocess).1] at hchanged'
      exact ⟨process, hprocess, hchanged', hfiles process hprocess hchanged'⟩
    · rw [if_neg hr] at hprocess'
      exact ⟨process', hprocess', hchanged', rfl⟩

theorem keepsAlive_modify {processes : Heap Process} {q : ProcessRef} {f : Process → Process}
    {P : ProgramRef → Prop} (hf : ∀ process r, processes.get q = some process →
      process.stateChanged = some r → P r → (f process).state.isAlive = process.state.isAlive) :
    KeepsAlive processes (processes.modify q f) P := by
  intro r process p hprocess hchanged hp _ halive
  by_cases hr : r = q
  · subst hr
    refine ⟨f process, ?_, ?_⟩
    · rw [Heap.get_modify_self, hprocess]
      rfl
    · rw [hf process p hprocess hchanged hp, halive]
  · exact ⟨process, (Heap.get_modify_ne hr f).trans hprocess, halive⟩

-- A process of a program that is destroyed has no references besides the ones by lists.
theorem adjusts_free {processes : Heap Process} {q : ProcessRef}
    (hq : ∀ process r, processes.get q = some process → process.stateChanged = some r →
      process.internalReferenceCount ≤ process.listed) :
    Adjusts processes (processes.free q) ∧
      ∀ P, KeepsAlive processes (processes.free q) P := by
  have hkept : ∀ r process p, processes.get r = some process → process.stateChanged = some p →
      process.listed < process.internalReferenceCount →
      (processes.free q).get r = some process := by
    intro r process p hprocess hchanged hheld
    rw [Heap.get_free, if_neg]
    · exact hprocess
    · rintro rfl
      have hunheld := hq process p hprocess hchanged
      omega
  refine ⟨{ old := ?_, kept := ?_, files := ?_ }, ?_⟩
  · intro r process' p hprocess' hchanged'
    rw [Heap.get_free] at hprocess'
    split_ifs at hprocess'
    exact ⟨process', hprocess', hchanged', fun halive => halive, rfl, rfl⟩
  · intro r process p hprocess hchanged hheld
    exact ⟨process, hkept r process p hprocess hchanged hheld, hchanged⟩
  · intro r process' hprocess' hchanged'
    rw [Heap.get_free] at hprocess'
    split_ifs at hprocess'
    exact ⟨process', hprocess', hchanged', rfl⟩
  · intro P r process p hprocess hchanged _ hheld halive
    exact ⟨process, hkept r process p hprocess hchanged hheld, halive⟩

theorem adjusts_alloc {processes : Heap Process} {new : Process} (hnew : new.stateChanged = none) :
    Adjusts processes (processes.alloc new) ∧ ∀ P, KeepsAlive processes (processes.alloc new) P := by
  refine ⟨{ old := ?_, kept := ?_, files := ?_ }, ?_⟩
  · intro r process' p hprocess' hchanged'
    rw [Heap.get_alloc] at hprocess'
    split_ifs at hprocess'
    · cases hprocess'
      rw [hnew] at hchanged'
      cases hchanged'
    · exact ⟨process', hprocess', hchanged', fun halive => halive, rfl, rfl⟩
  · intro r process p hprocess hchanged _
    exact ⟨process, Heap.get_alloc_of_get hprocess new, hchanged⟩
  · intro r process' hprocess' hchanged'
    rw [Heap.get_alloc] at hprocess'
    split_ifs at hprocess'
    · cases hprocess'
      exact absurd hnew hchanged'
    · exact ⟨process', hprocess', hchanged', rfl⟩
  · intro P r process p hprocess _ _ _ halive
    exact ⟨process, Heap.get_alloc_of_get hprocess new, halive⟩

-- A process that is still alive can change its state to any other.
theorem World.Core.modifyAlive (h : w.Core) {q : ProcessRef} {found : Process}
    (hget : w.daemon.processes.get q = some found) (halive : found.state.isAlive = true)
    (state : ProcessState) (exitCode : UInt8) :
    (w.modifyProcess q fun process => { process with state, exitCode }).Core := by
  have hadjusts : Adjusts w.daemon.processes (w.daemon.processes.modify q fun process =>
      { process with state, exitCode }) := by
    refine adjusts_modify (fun process hprocess => ⟨rfl, fun _ => ⟨fun _ => ?_, rfl, rfl⟩⟩)
      fun _ _ _ => rfl
    rw [hget] at hprocess
    cases hprocess
    exact halive
  exact h.adjust hadjusts []

-- A step that only concerns processes.
def World.Adjusted (w w' : World) : Prop :=
  ∃ processes files, w' = w.adjust processes files ∧ Adjusts w.daemon.processes processes ∧
    KeepsAlive w.daemon.processes processes fun _ => True

theorem World.Inv.adjusted {w' : World} (h : w.Inv) (hadjusted : w.Adjusted w') : w'.Inv := by
  obtain ⟨processes, files, rfl, hadjusts, hkeeps⟩ := hadjusted
  refine { core := h.core.adjust hadjusts files, lively := fun hcrashed => ?_ }
  intro q program hget
  exact (h.lively hcrashed q program hget).adjust (h.core.base q program hget) hkeeps trivial

theorem World.Adjusted.refl (w : World) : w.Adjusted w := by
  refine ⟨w.daemon.processes, [], rfl, ⟨?_, ?_, ?_⟩, ?_⟩
  · intro q process p hprocess hchanged
    exact ⟨process, hprocess, hchanged, fun halive => halive, rfl, rfl⟩
  · intro q process p hprocess hchanged _
    exact ⟨process, hprocess, hchanged⟩
  · intro q process hprocess hchanged
    exact ⟨process, hprocess, hchanged, rfl⟩
  · intro q process p hprocess _ _ _ halive
    exact ⟨process, hprocess, halive⟩

theorem World.modifyProcess_adjusted {q : ProcessRef} {f : Process → Process}
    (hf : ∀ process, (f process).stateChanged = process.stateChanged ∧
      (f process).state = process.state ∧ (f process).releaseOnDeath = process.releaseOnDeath ∧
      (f process).internalReferenceCount + process.listed =
        process.internalReferenceCount + (f process).listed)
    (hfiles : ∀ process, (f process).files = process.files) :
    w.Adjusted (w.modifyProcess q f) := by
  refine ⟨w.daemon.processes.modify q f, [], rfl,
    adjusts_modify (fun process _ => ?_) fun process _ _ => hfiles process,
    keepsAlive_modify fun process _ _ _ _ => by rw [(hf process).2.1]⟩
  obtain ⟨hchanged, hstate, hrelease, hcount⟩ := hf process
  exact ⟨hchanged, fun _ => ⟨by rw [hstate]; exact id, hrelease, hcount⟩⟩

theorem World.removeProcessExternalReference_adjusted (q : ProcessRef) :
    w.Adjusted (w.removeProcessExternalReference q) := by
  unfold World.removeProcessExternalReference
  cases hget : w.daemon.processes.get q with
  | none => exact World.Adjusted.refl w
  | some found =>
      by_cases hlast : found.externalReferenceCount = 1 ∧ found.internalReferenceCount = 0
      · simp only [if_pos hlast]
        obtain ⟨hadjusts, hkeeps⟩ := @adjusts_free w.daemon.processes q
          fun process r hprocess _ => by
            rw [hget] at hprocess
            cases hprocess
            omega
        exact ⟨_, found.files, rfl, hadjusts, hkeeps _⟩
      · simp only [if_neg hlast]
        refine World.modifyProcess_adjusted (fun process => ?_) fun _ => rfl
        exact ⟨rfl, rfl, rfl, rfl⟩

-- A list drops its reference to a process.
theorem World.unlistProcess_adjusted (h : w.Core) {q : ProcessRef} {found : Process}
    (hget : w.daemon.processes.get q = some found) (hlisted : 0 < found.listed) :
    w.Adjusted ((w.modifyProcess q fun process => { process with listed := process.listed - 1 })
      |>.removeProcessInternalReference q) := by
  have hget' : (w.modifyProcess q fun process =>
      { process with listed := process.listed - 1 }).daemon.processes.get q =
      some { found with listed := found.listed - 1 } := by
    change (w.daemon.processes.modify q _).get q = _
    rw [Heap.get_modify_self, hget]
    rfl
  -- a process of a program is not destroyed by this as long as the program holds it
  have hcount : ∀ r, found.stateChanged = some r → found.listed ≤ found.internalReferenceCount :=
    fun r hchanged => (h.process q found r hget hchanged).2.2
  unfold World.removeProcessInternalReference removeInternalReference
  rw [hget']
  by_cases hzero : found.internalReferenceCount = 0
  · simp only [if_pos hzero]
    refine ⟨_, [], rfl, adjusts_modify (fun process hprocess => ?_) fun _ _ _ => rfl,
      keepsAlive_modify fun _ _ _ _ _ => rfl⟩
    rw [hget] at hprocess
    cases hprocess
    refine ⟨rfl, fun hne => ⟨id, rfl, ?_⟩⟩
    obtain ⟨r, hchanged⟩ := Option.ne_none_iff_exists'.mp hne
    have hle := hcount r hchanged
    omega
  simp only [if_neg hzero]
  by_cases hlast : found.internalReferenceCount = 1 ∧ found.externalReferenceCount = 0
  · simp only [if_pos hlast]
    have hsame : ((w.daemon.processes.modify q fun process =>
        { process with listed := process.listed - 1 }).free q) = w.daemon.processes.free q :=
      Heap.free_modify _ _ _
    obtain ⟨hadjusts, hkeeps⟩ := @adjusts_free w.daemon.processes q fun process r hprocess _ => by
      rw [hget] at hprocess
      cases hprocess
      omega
    rw [← hsame] at hadjusts hkeeps
    exact ⟨_, found.files, rfl, hadjusts, hkeeps _⟩
  · simp only [if_neg hlast]
    have hsame : (w.daemon.processes.modify q fun process =>
        { process with listed := process.listed - 1 }).modify q (fun process =>
          { process with internalReferenceCount := process.internalReferenceCount - 1 }) =
        w.daemon.processes.modify q fun process =>
          { process with
            listed := process.listed - 1
            internalReferenceCount := process.internalReferenceCount - 1 } :=
      Heap.modify_modify _ _ _ _
    have hadjusts : Adjusts w.daemon.processes (w.daemon.processes.modify q fun process =>
        { process with
          listed := process.listed - 1
          internalReferenceCount := process.internalReferenceCount - 1 }) := by
      refine adjusts_modify (fun process hprocess => ?_) fun _ _ _ => rfl
      rw [hget] at hprocess
      cases hprocess
      refine ⟨rfl, fun _ => ⟨id, rfl, ?_⟩⟩
      change found.internalReferenceCount - 1 + found.listed =
        found.internalReferenceCount + (found.listed - 1)
      omega
    have hkeeps : KeepsAlive w.daemon.processes (w.daemon.processes.modify q fun process =>
        { process with
          listed := process.listed - 1
          internalReferenceCount := process.internalReferenceCount - 1 }) fun _ => True :=
      keepsAlive_modify fun _ _ _ _ _ => rfl
    rw [← hsame] at hadjusts hkeeps
    exact ⟨_, [], rfl, hadjusts, hkeeps⟩

-- The processes of clients are no concern of the programs.
theorem World.modifyClient_adjusted {q : ProcessRef} {found : Process}
    (hget : w.daemon.processes.get q = some found) (hclient : found.stateChanged = none)
    {f : Process → Process} (hf : (f found).stateChanged = none) :
    w.Adjusted (w.modifyProcess q f) := by
  refine ⟨_, [], rfl, adjusts_modify (fun process hprocess => ?_) fun process hprocess hne => ?_,
    keepsAlive_modify fun process r hprocess hchanged _ => ?_⟩
  · rw [hget] at hprocess
    cases hprocess
    exact ⟨hf.trans hclient.symm, fun hne => absurd hclient hne⟩
  · rw [hget] at hprocess
    cases hprocess
    exact absurd hclient hne
  · rw [hget] at hprocess
    cases hprocess
    rw [hclient] at hchanged
    cases hchanged

theorem World.releaseClient_adjusted {q : ProcessRef} {found : Process}
    (hget : w.daemon.processes.get q = some found) (hclient : found.stateChanged = none) :
    w.Adjusted (w.removeProcessInternalReference q) := by
  unfold World.removeProcessInternalReference removeInternalReference
  rw [hget]
  by_cases hzero : found.internalReferenceCount = 0
  · simp only [if_pos hzero]
    exact World.Adjusted.refl w
  simp only [if_neg hzero]
  by_cases hlast : found.internalReferenceCount = 1 ∧ found.externalReferenceCount = 0
  · simp only [if_pos hlast]
    obtain ⟨hadjusts, hkeeps⟩ := @adjusts_free w.daemon.processes q
      fun process r hprocess hchanged => by
        rw [hget] at hprocess
        cases hprocess
        rw [hclient] at hchanged
        cases hchanged
    exact ⟨_, found.files, rfl, hadjusts, hkeeps _⟩
  · simp only [if_neg hlast]
    exact World.modifyClient_adjusted hget hclient (f := fun process =>
      { process with internalReferenceCount := process.internalReferenceCount - 1 }) hclient

theorem World.spawnClient_adjusted :
    w.Adjusted { w with daemon := { w.daemon with
      processes := w.daemon.processes.alloc World.clientProcess } } := by
  obtain ⟨hadjusts, hkeeps⟩ := @adjusts_alloc w.daemon.processes World.clientProcess rfl
  exact ⟨_, [], rfl, hadjusts, hkeeps _⟩

end Processes

end RedApid.Scheduling

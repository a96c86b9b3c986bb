import RedApid.Scheduler.Evolution

namespace RedApid.Scheduling

open Memory

variable {w w' : World} {p : ProgramRef} {event : World.Event}

section Alive

-- The processes that a scheduler has spawned are those that call it back.
structure World.OneAlive (w : World) : Prop where
  unique : ∀ p q q' process process', w.daemon.processes.get q = some process →
    w.daemon.processes.get q' = some process' → process.stateChanged = some p →
    process'.stateChanged = some p → process.state.isAlive = true →
    process'.state.isAlive = true → q = q'
  last : ∀ p program q process, w.programs.get p = some program →
    w.daemon.processes.get q = some process → process.stateChanged = some p →
    process.state.isAlive = true → program.scheduler.lastSpawnedProcess = some q
  held : ∀ p program q, w.programs.get p = some program →
    program.scheduler.lastSpawnedProcess = some q → ∃ process,
      w.daemon.processes.get q = some process ∧ process.stateChanged = some p ∧
        process.internalReferenceCount = process.listed + 1
  others : ∀ p program q process, w.programs.get p = some program →
    w.daemon.processes.get q = some process → process.stateChanged = some p →
    program.scheduler.lastSpawnedProcess ≠ some q →
      process.internalReferenceCount = process.listed

theorem World.Core.oneAlive (h : w.Core) : w.OneAlive where
  unique p q q' process process' hget hget' hchanged hchanged' halive halive' :=
    h.alive q q' process process' p hget hget' hchanged hchanged' halive halive'
  last p program q process hget hprocess hchanged halive :=
    ((h.base p program hget).process q process hprocess hchanged).1 halive
  held p program q hget hlast := by
    obtain ⟨process, hprocess, hchanged⟩ := (h.base p program hget).last q hlast
    have hcount := ((h.base p program hget).process q process hprocess hchanged).2.2
    rw [if_pos hlast] at hcount
    exact ⟨process, hprocess, hchanged, hcount⟩
  others p program q process hget hprocess hchanged hlast := by
    have hcount := ((h.base p program hget).process q process hprocess hchanged).2.2
    rw [if_neg hlast] at hcount
    exact hcount

theorem one_alive (x11Enabled : Bool) (events : List (World.Event × Outcomes)) :
    Trace.Always World.next World.OneAlive (World.init x11Enabled) events :=
  (World.always_inv x11Enabled events).mono fun _ h => h.core.oneAlive

end Alive

section Releases

theorem Unheld.congr {program program' : Program} {daemon daemon' : Daemon}
    (hlast : program'.scheduler.lastSpawnedProcess = program.scheduler.lastSpawnedProcess)
    (hprocesses : daemon'.processes = daemon.processes) :
    Unheld p program' daemon' ↔ Unheld p program daemon := by
  unfold Unheld
  rw [hlast, hprocesses]

def World.NotCalledBack (w : World) (p : ProgramRef) : Prop :=
  ∀ q process, w.daemon.processes.get q = some process → process.stateChanged ≠ some p

-- With its last reference a program goes, and without this it stays.
inductive World.DropCases (w : World) (p : ProgramRef) (program : Program) (drops : Prop)
    (w' : World) : Prop
  | gone (drops : drops) (none : w'.programs.get p = none)
      (callbacks : w'.NotCalledBack p ↔ Unheld p program w.daemon)
  | kept {program' : Program} (drops : ¬drops) (get : w'.programs.get p = some program')

theorem World.DropCases.congr {program program₁ : Program} {drops drops₁ : Prop} {w₁ : World}
    (h : w₁.DropCases p program₁ drops₁ w') (hdrops : drops ↔ drops₁)
    (hlast : program₁.scheduler.lastSpawnedProcess = program.scheduler.lastSpawnedProcess)
    (hprocesses : w₁.daemon.processes = w.daemon.processes) : w.DropCases p program drops w' := by
  cases h with
  | gone hgone hnone hcallbacks =>
      exact .gone (hdrops.mpr hgone) hnone (hcallbacks.trans (Unheld.congr hlast hprocesses))
  | kept hkept hget => exact .kept (mt hdrops.mp hkept) hget

theorem World.Core.destroyUnreferenced_drops (h : w.Core) {program : Program}
    (hget : w.programs.get p = some program) (outcomes : Outcomes) :
    w.DropCases p program
      (program.internalReferenceCount = 0 ∧ program.externalReferenceCount = 0)
      (w.destroyUnreferenced p outcomes) := by
  unfold World.destroyUnreferenced
  rw [hget]
  by_cases hcounts : program.internalReferenceCount = 0 ∧ program.externalReferenceCount = 0
  · have hdestroyed := destroy_destroyed (c := w.context program outcomes) (h.base p program hget)
    simp only [if_pos hcounts, World.run_eq hget]
    exact .gone hcounts (Heap.get_free_self _ _) hdestroyed.callbacks
  · simp only [if_neg hcounts]
    exact .kept hcounts hget

theorem World.get_modifyProgram {program : Program} (hget : w.programs.get p = some program)
    (f : Program → Program) : (w.modifyProgram p f).programs.get p = some (f program) := by
  change (w.programs.modify p f).get p = _
  rw [Heap.get_modify_self, hget]
  rfl

theorem World.Inv.release_drops (h : w.Inv) {f : Program → Program} (hf : Unnoticed f)
    {program : Program} (hget : w.programs.get p = some program) (outcomes : Outcomes) :
    w.DropCases p program
      ((f program).internalReferenceCount = 0 ∧ (f program).externalReferenceCount = 0)
      ((w.modifyProgram p f).destroyUnreferenced p outcomes) := by
  refine ((h.modifyProgram hf p).core.destroyUnreferenced_drops
    (World.get_modifyProgram hget f) outcomes).congr Iff.rfl ?_ rfl
  rw [hf.scheduler]

theorem World.Inv.removeProgramInternalReference_drops (h : w.Inv) {program : Program}
    (hget : w.programs.get p = some program) (outcomes : Outcomes) :
    w.DropCases p program
      (program.internalReferenceCount = 1 ∧ program.externalReferenceCount = 0)
      (w.removeProgramInternalReference p outcomes) := by
  unfold World.removeProgramInternalReference
  rw [hget]
  by_cases hzero : program.internalReferenceCount = 0
  · rw [if_pos (by exact decide_eq_true hzero)]
    exact .kept (fun hone => by omega) hget
  · rw [if_neg (by simpa using hzero)]
    have hunnoticed : Unnoticed fun program =>
        { program with internalReferenceCount := program.internalReferenceCount - 1 } :=
      ⟨fun _ => rfl, fun _ => rfl, fun _ => ⟨_, rfl⟩, fun _ => rfl⟩
    refine (h.release_drops hunnoticed hget outcomes).congr ?_ rfl rfl
    change _ ↔ program.internalReferenceCount - 1 = 0 ∧ program.externalReferenceCount = 0
    omega

-- The step removes the last reference to a program.
def World.DropsLast (w : World) (event : World.Event × Outcomes) (p : ProgramRef)
    (program : Program) : Prop :=
  match event.1 with
  | .releaseProgram q =>
      q = p ∧ program.internalReferenceCount = 0 ∧ program.externalReferenceCount = 1
  | .unlistProgram q =>
      q = p ∧ program.internalReferenceCount = 1 ∧ program.externalReferenceCount = 0
  | .request (.programPurge q cookie renames) =>
      q = p ∧ program.internalReferenceCount = 1 ∧ program.externalReferenceCount = 0 ∧
        (Scheduling.programPurge q cookie renames (w.context program event.2)).1 = .success
  | _ => False

theorem World.Inv.step_drops (h : w.Inv) (hcrashed : w.daemon.crashed = false)
    {event : World.Event × Outcomes} (hstep : w.step event.2 event.1 = some w')
    (hreleases : event.1.Releases p) :
    ∃ program, w.programs.get p = some program ∧
      w.DropCases p program (w.DropsLast event p program) w' := by
  obtain ⟨event, outcomes⟩ := event
  cases hreleases with
  | release hevent =>
      cases hevent
      obtain ⟨hpositive, ⟨⟩⟩ := Option.ite_none_right_eq_some.mp hstep
      obtain ⟨program, hget, hexternal⟩ := (Option.any_eq_true _ _).mp hpositive
      have hexternal := of_decide_eq_true hexternal
      have hunnoticed : Unnoticed fun program =>
          { program with externalReferenceCount := program.externalReferenceCount - 1 } :=
        ⟨fun _ => rfl, fun _ => rfl, fun _ => ⟨_, rfl⟩, fun _ => rfl⟩
      refine ⟨program, hget, (h.release_drops hunnoticed hget outcomes).congr ?_ rfl rfl⟩
      change p = p ∧ program.internalReferenceCount = 0 ∧ program.externalReferenceCount = 1 ↔
        program.internalReferenceCount = 0 ∧ program.externalReferenceCount - 1 = 0
      constructor
      · rintro ⟨-, hinternal, hone⟩
        exact ⟨hinternal, by omega⟩
      · rintro ⟨hinternal, hzero⟩
        exact ⟨rfl, hinternal, by omega⟩
  | unlist hevent =>
      cases hevent
      obtain ⟨hlisted, ⟨⟩⟩ := Option.ite_none_right_eq_some.mp hstep
      obtain ⟨program, hget, -⟩ := (Option.any_eq_true _ _).mp hlisted
      have hunnoticed : Unnoticed fun program =>
          { program with listed := program.listed - 1 } :=
        ⟨fun _ => rfl, fun _ => rfl, fun _ => ⟨_, rfl⟩, fun _ => rfl⟩
      refine ⟨program, hget, ((h.modifyProgram hunnoticed p).removeProgramInternalReference_drops
        (World.get_modifyProgram hget _) outcomes).congr ?_ rfl rfl⟩
      change p = p ∧ program.internalReferenceCount = 1 ∧ program.externalReferenceCount = 0 ↔
        program.internalReferenceCount = 1 ∧ program.externalReferenceCount = 0
      exact and_iff_right rfl
  | @purge cookie renames hevent =>
      cases hevent
      obtain ⟨-, hrequest⟩ := Option.ite_none_right_eq_some.mp hstep
      obtain ⟨hsome, ⟨⟩⟩ := Option.ite_none_right_eq_some.mp hrequest
      obtain ⟨program, hget⟩ := Option.isSome_iff_exists.mp hsome
      have hspares := programPurge_spares (c := w.context program outcomes)
        (h.core.base p program hget) cookie renames
      have hdoes : World.Does (.request (.programPurge p cookie renames)) w
          (World.put w p (Scheduling.programPurge p cookie renames
            (w.context program outcomes)).2) := .called hget hcrashed (.purge rfl)
      have hput := hdoes.inv h
      have hget' : (World.put w p (Scheduling.programPurge p cookie renames
          (w.context program outcomes)).2).programs.get p =
          some (Scheduling.programPurge p cookie renames (w.context program outcomes)).2.program :=
        (World.get_put hget _ p).trans (if_pos rfl)
      refine ⟨program, hget, ?_⟩
      rw [World.programPurge_eq hget]
      split_ifs with hsuccess
      · refine (hput.removeProgramInternalReference_drops hget' _).congr ?_ hspares.last
          hspares.processes
        rw [hspares.internal, hspares.external]
        exact ⟨fun hdrops => ⟨hdrops.2.1, hdrops.2.2.1⟩,
          fun hdrops => ⟨rfl, hdrops.1, hdrops.2, hsuccess⟩⟩
      · exact .kept (fun hdrops => hsuccess hdrops.2.2.2) hget'

end Releases

section Callbacks

-- The programs that processes call back are there.
def World.CallbacksLive (w : World) : Prop :=
  ∀ q process p, w.daemon.processes.get q = some process → process.stateChanged = some p →
    ∃ program, w.programs.get p = some program

-- Who releases the last reference to a program also has to be the last one to hold a process of
-- it, which is the last one that was spawned.
def World.DropsUnheld (w : World) (event : World.Event × Outcomes) : Prop :=
  ∀ p program, w.programs.get p = some program → w.DropsLast event p program →
    Unheld p program w.daemon

def World.CalledBack (w : World) (p : ProgramRef) : Prop :=
  ∃ q process, w.daemon.processes.get q = some process ∧ process.stateChanged = some p

theorem World.Does.live (hdoes : World.Does event w w') (h : w.Inv)
    (hreleases : ¬event.Releases p) (hlive : ∃ program, w.programs.get p = some program) :
    ∃ program, w'.programs.get p = some program := by
  have hserved : ∀ {q : ProgramRef} {other : Program}, w.Serves q other w' →
      ∃ program, w'.programs.get p = some program := fun hserves => hserves.live (Or.inr hlive)
  obtain ⟨program, hget⟩ := hlive
  cases hdoes with
  | called hprogram hcrashed hcalled => exact hserved (h.called_serves hprogram hcrashed hcalled)
  | died outcomes _ hprocess halive hchanged hprogram hcrashed =>
      exact hserved (h.died_serves hprocess halive hchanged hprogram hcrashed _ _ outcomes)
  | orphaned _ _ _ _ _ => exact ⟨program, hget⟩
  | expired outcomes _ hprogram harmed hcrashed =>
      exact hserved (h.expired_serves hcrashed hprogram harmed outcomes)
  | noted _ q =>
      change ∃ program, (w.programs.modify q _).get p = some program
      rw [Heap.get_modify]
      split_ifs
      · rw [hget]
        exact ⟨_, rfl⟩
      · exact ⟨program, hget⟩
  | adjusted hadjusted =>
      obtain ⟨processes, files, rfl, -, -⟩ := hadjusted
      exact ⟨program, hget⟩
  | observed _ _ => exact ⟨program, hget⟩
  | connected _ _ => exact ⟨program, hget⟩
  | created _ _ _ => exact ⟨program, Heap.get_alloc_of_get hget _⟩
  | @destroyed q _ _ hdrops hprogram _ =>
      by_cases hp : p = q
      · exact absurd (hp ▸ hdrops) hreleases
      · exact ⟨program, World.get_remove_isSome hprogram _ hp hget⟩

-- What a call for one program does leaves the processes of the others alone.
theorem Frame.calledBack {q : ProgramRef} (h : Frame q w.daemon w'.daemon) (hp : p ≠ q)
    (hcalled : w'.CalledBack p) : w.CalledBack p := by
  obtain ⟨r, process, hget, hchanged⟩ := hcalled
  refine ⟨r, process, (h.processes r process ?_).mp hget, hchanged⟩
  rw [hchanged]
  exact fun heq => hp (Option.some.inj heq)

theorem modifyProcess_calledBack {q : ProcessRef} {f : Process → Process}
    (hf : ∀ process, (f process).stateChanged = process.stateChanged)
    (h : (w.modifyProcess q f).CalledBack p) : w.CalledBack p := by
  obtain ⟨r, process', hget', hchanged'⟩ := h
  change (w.daemon.processes.modify q f).get r = some process' at hget'
  rw [Heap.get_modify] at hget'
  split_ifs at hget' with hr
  · obtain ⟨process, hget, rfl⟩ := Option.map_eq_some_iff.mp hget'
    exact ⟨r, process, hget, (hf process).symm.trans hchanged'⟩
  · exact ⟨r, process', hget', hchanged'⟩

-- Only a program that is there gets processes that call it back.
theorem World.Does.calledBack (hdoes : World.Does event w w') (h : w.Inv)
    (hcalled : w'.CalledBack p) :
    (∃ program, w'.programs.get p = some program) ∨ event.Releases p ∨ w.CalledBack p := by
  have hserved : ∀ {q : ProgramRef} {other : Program}, w.Serves q other w' →
      (∃ program, w'.programs.get p = some program) ∨ event.Releases p ∨ w.CalledBack p := by
    intro q other hserves
    by_cases hp : p = q
    · exact Or.inl (hserves.live (Or.inl hp))
    · exact Or.inr (Or.inr (hserves.frame.calledBack hp hcalled))
  cases hdoes with
  | called hprogram hcrashed hfunction =>
      exact hserved (h.called_serves hprogram hcrashed hfunction)
  | died outcomes _ hprocess halive hchanged hprogram hcrashed =>
      exact hserved (h.died_serves hprocess halive hchanged hprogram hcrashed _ _ outcomes)
  | @orphaned _ _ _ state exitCode _ _ _ _ _ =>
      exact Or.inr (Or.inr (modifyProcess_calledBack
        (f := fun process => { process with state, exitCode }) (fun _ => rfl) hcalled))
  | expired outcomes _ hprogram harmed hcrashed =>
      exact hserved (h.expired_serves hcrashed hprogram harmed outcomes)
  | noted _ _ => exact Or.inr (Or.inr hcalled)
  | adjusted hadjusted =>
      obtain ⟨processes, files, rfl, hadjusts, -⟩ := hadjusted
      obtain ⟨r, process', hget', hchanged'⟩ := hcalled
      obtain ⟨process, hget, hchanged, -⟩ := hadjusts.old r process' p hget' hchanged'
      exact Or.inr (Or.inr ⟨r, process, hget, hchanged⟩)
  | observed _ _ => exact Or.inr (Or.inr hcalled)
  | connected _ _ => exact Or.inr (Or.inr hcalled)
  | created _ _ _ => exact Or.inr (Or.inr hcalled)
  | @destroyed q program outcomes hreleases hprogram hdestroyed =>
      by_cases hp : p = q
      · exact Or.inr (Or.inl (hp ▸ hreleases))
      · have hframe : Frame q w.daemon (w.remove q (programSchedulerDestroy q
            (w.context program outcomes))).daemon := hdestroyed.frame
        exact Or.inr (Or.inr (hframe.calledBack hp hcalled))

theorem World.DoesAll.live (hdoes : World.DoesAll event w w') (h : w.Inv)
    (hreleases : ¬event.Releases p) (hlive : ∃ program, w.programs.get p = some program) :
    ∃ program, w'.programs.get p = some program := by
  induction hdoes with
  | refl => exact hlive
  | tail hdoesAll hdoes ih => exact hdoes.live (World.DoesAll.inv hdoesAll h) hreleases ih

theorem World.DoesAll.calledBack (hdoes : World.DoesAll event w w') (h : w.Inv)
    (hcalled : w'.CalledBack p) :
    (∃ program, w'.programs.get p = some program) ∨ event.Releases p ∨ w.CalledBack p := by
  induction hdoes with
  | refl => exact Or.inr (Or.inr hcalled)
  | tail hdoesAll hdoes ih =>
      by_cases hreleases : event.Releases p
      · exact Or.inr (Or.inl hreleases)
      have h₁ := World.DoesAll.inv hdoesAll h
      rcases hdoes.calledBack h₁ hcalled with hlive | hrest
      · exact Or.inl hlive
      · rcases hrest with hreleases' | hcalled'
        · exact absurd hreleases' hreleases
        · rcases ih hcalled' with hlive | hrest
          · exact Or.inl (hdoes.live h₁ hreleases hlive)
          · exact Or.inr hrest

theorem World.Inv.next_callbacksLive (h : w.Inv) (hlive : w.CallbacksLive)
    {event : World.Event × Outcomes} (hnext : w.next event = some w') :
    w'.CallbacksLive ↔ w.DropsUnheld event := by
  obtain ⟨hcrashed, hstep⟩ := World.next_step hnext
  have hdoes := h.step_does hcrashed hstep
  constructor
  · intro hlive' p program hget hdrops
    have hreleases : event.1.Releases p := by
      unfold World.DropsLast at hdrops
      split at hdrops
      · exact .release (by rw [← hdrops.1]; assumption)
      · exact .unlist (by rw [← hdrops.1]; assumption)
      · exact .purge (by rw [← hdrops.1]; assumption)
      · exact hdrops.elim
    obtain ⟨program', hget', hcases⟩ := h.step_drops hcrashed hstep hreleases
    cases hget.symm.trans hget'
    cases hcases with
    | gone _ hnone hcallbacks =>
        refine hcallbacks.mp fun q process hprocess hchanged => ?_
        obtain ⟨program₁, hget₁⟩ := hlive' q process p hprocess hchanged
        rw [hnone] at hget₁
        cases hget₁
    | kept hkept _ => exact absurd hdrops hkept
  · intro hunheld q process p hprocess hchanged
    have hreleased : event.1.Releases p → ∃ program, w'.programs.get p = some program := by
      intro hreleases
      obtain ⟨program, hget, hcases⟩ := h.step_drops hcrashed hstep hreleases
      cases hcases with
      | gone hdrops _ hcallbacks =>
          exact absurd hchanged (hcallbacks.mpr (hunheld p program hget hdrops) q process hprocess)
      | kept _ hget' => exact ⟨_, hget'⟩
    rcases hdoes.calledBack h ⟨q, process, hprocess, hchanged⟩ with hlive' | hreleases |
      ⟨r, found, hfound, hfoundChanged⟩
    · exact hlive'
    · exact hreleased hreleases
    · by_cases hreleases : event.1.Releases p
      · exact hreleased hreleases
      · exact hdoes.live h hreleases (hlive r found p hfound hfoundChanged)

-- Exactly if nobody releases a program before its processes, no process calls a destroyed one.
theorem callbacks_live_iff (x11Enabled : Bool) (events : List (World.Event × Outcomes)) :
    Trace.Always World.next World.CallbacksLive (World.init x11Enabled) events ↔
      Trace.Along World.next (fun w event _ => w.DropsUnheld event) (World.init x11Enabled)
        events := by
  refine Trace.always_iff_along (fun _ _ _ h hnext => h.next hnext)
    (fun _ _ _ h hlive hnext => h.next_callbacksLive hlive hnext) (World.init_inv x11Enabled) ?_
    events
  intro q process p hprocess
  have hnone : (World.init x11Enabled).daemon.processes.get q = none := Heap.get_empty q
  rw [hnone] at hprocess
  cases hprocess

-- A client gets the last process of a program and purges the program.
def purgeEvents : List (World.Event × Outcomes) :=
  [loadGreeter keeperFile, (.brickdAccept, .succeed),
    (.request (.programGetLastSpawnedProcess 0), .succeed),
    (.request (.programPurge 0 (purgeCookie (ascii "greeter")) []), .succeed)]

-- The process is still there, and its death is reported to the program.
theorem purgeEvents_not_callbacksLive :
    ¬Trace.Always World.next World.CallbacksLive (World.init false) purgeEvents := by
  intro h
  obtain ⟨w, hrun, process, hprocess, hchanged, hnone⟩ :
      ∃ w, Trace.run World.next (World.init false) purgeEvents = some w ∧
        ∃ process, w.daemon.processes.get 0 = some process ∧ process.stateChanged = some 0 ∧
          w.programs.get 0 = none :=
    ⟨_, rfl, _, rfl, rfl, rfl⟩
  obtain ⟨program, hget⟩ := h.of_run hrun 0 process 0 hprocess hchanged
  rw [hnone] at hget
  cases hget

end Callbacks

end RedApid.Scheduling

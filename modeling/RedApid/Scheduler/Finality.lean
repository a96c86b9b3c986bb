import RedApid.Scheduler.Evolution

namespace RedApid.Scheduling

open Memory

variable {w w' : World} {p : ProgramRef} {c c' : Context} {event : World.Event}

section Spawns

def Effect.spawns (p : ProgramRef) : Effect → Bool
  | .processSpawn q _ _ => q = p
  | _ => false

-- The calls of process_spawn for one program.
def spawnsOf (p : ProgramRef) (log : List Effect) : List Effect := log.filter (·.spawns p)

theorem spawnsOf_eq (log : List Effect) : spawnsOf p log = (starts log).filter (·.spawns p) := by
  unfold spawnsOf starts
  rw [List.filter_filter]
  refine List.filter_congr fun effect _ => ?_
  cases effect <;> simp [Effect.spawns, Effect.starts]

theorem spawnsOf_of_starts {log log' : List Effect} (h : starts log' = starts log) :
    spawnsOf p log' = spawnsOf p log := by
  rw [spawnsOf_eq, spawnsOf_eq, h]

theorem Bystands.spawnsOf {log log' : List Effect} (h : Bystands p log log') :
    spawnsOf p log' = spawnsOf p log := by
  obtain ⟨new, rfl, hnew⟩ := h
  unfold Scheduling.spawnsOf
  rw [List.filter_append, List.filter_eq_nil_iff.mpr, List.nil_append]
  intro effect heffect hspawns
  refine hnew effect heffect ?_
  cases effect with
  | processSpawn q program workingDirectory => exact congrArg some (of_decide_eq_true hspawns)
  | _ => cases hspawns

-- The three files of the next process can be opened.
def opensFiles (p : ProgramRef) (c : Context) : Bool :=
  match programSchedulerPrepareStdin p c with
  | (none, _) => false
  | (some _, c) =>
      match programSchedulerPrepareStdout p c with
      | (none, _) => false
      | (some stdout, c) => (programSchedulerPrepareStderr p stdout c).1.isSome

theorem acquireFiles_starts (files : List FileRef) (log : List Effect) :
    starts (files.map .acquireFile ++ log) = starts log := by
  induction files with
  | nil => rfl
  | cons file files ih => exact (starts_cons_of_not rfl _).trans ih

theorem releaseLastProcess_starts : starts (releaseLastProcess c).2 = starts c.log := by
  unfold releaseLastProcess
  cases c.program.scheduler.lastSpawnedProcess with
  | none => rfl
  | some process =>
      dsimp only
      unfold removeInternalReference
      cases c.daemon.processes.get process with
      | none => rfl
      | some found =>
          dsimp only
          split_ifs
          · rfl
          · exact releaseFiles_starts _ _
          · rfl

theorem spawnWithFiles_starts (files : List FileRef) :
    ∃ program workingDirectory, starts (spawnWithFiles p files c).log =
      .processSpawn p program workingDirectory :: starts c.log := by
  unfold spawnWithFiles
  cases hworking : c.program.scheduler.absoluteWorkingDirectory with
  | none => exact ⟨c.program, none, rfl⟩
  | some workingDirectory =>
      refine ⟨c.program, some workingDirectory, ?_⟩
      have hcases := processSpawn_cases (p := p) workingDirectory files
        (c := c.record (.processSpawn p c.program (some workingDirectory)))
      dsimp only
      unfold spawnInDirectory
      generalize processSpawn p workingDirectory files
        (c.record (.processSpawn p c.program (some workingDirectory))) = result at hcases
      cases hcases with
      | failed code hprogram hdaemon hlog =>
          dsimp only
          rw [releaseFiles_starts, handleError_starts, hlog]
          rfl
      | @unset c' hprogram hdaemon hlog =>
          change starts c'.log = _
          rw [hlog]
          rfl
      | @spawned c' hprogram hdaemon hlog =>
          change starts (files.reverse.map .releaseFile ++
            .processSpawned p :: (releaseLastProcess c').2) = _
          rw [releaseFiles_starts, starts_cons_of_not rfl, releaseLastProcess_starts, hlog,
            acquireFiles_starts]
          rfl

-- A process is spawned if the last one is dead and the files can be opened, and only then.
theorem spawnProcess_starts (h : c.Good p)
    (hfinished : c.program.scheduler.observerState = .finished) :
    ((c.lastAlive = false ∧ opensFiles p c = true) ∧
        ∃ program workingDirectory, starts (programSchedulerSpawnProcess p c).log =
          .processSpawn p program workingDirectory :: starts c.log) ∨
      (¬(c.lastAlive = false ∧ opensFiles p c = true) ∧
        starts (programSchedulerSpawnProcess p c).log = starts c.log) := by
  have habort : programSchedulerAbortObserver p c = c := by
    unfold programSchedulerAbortObserver
    rw [hfinished, if_neg nofun, ← hfinished]
    rfl
  unfold programSchedulerSpawnProcess
  rw [habort]
  by_cases halive : c.lastAlive = true
  · refine Or.inr ⟨fun hboth => ?_, congrArg (fun c : Context => starts c.log) (if_pos halive)⟩
    rw [halive] at hboth
    cases hboth.1
  have hdead : c.lastAlive = false := by simpa using halive
  rw [hdead]
  unfold opensFiles
  refine (if_neg halive).symm ▸ ?_
  have hstdin := prepareStdin_result h
  generalize programSchedulerPrepareStdin p c = result at hstdin
  obtain ⟨stdin, c₁⟩ := result
  cases stdin with
  | none => exact Or.inr ⟨nofun, hstdin.starts⟩
  | some stdin =>
      have hstdout := prepareStdout_result hstdin.moves.good
      have hstarts₁ := hstdin.starts
      dsimp only at hstdout hstarts₁ ⊢
      generalize programSchedulerPrepareStdout p c₁ = result at hstdout
      obtain ⟨stdout, c₂⟩ := result
      have hstarts₂ := hstdout.starts.trans hstarts₁
      cases stdout with
      | none => exact Or.inr ⟨nofun, (starts_cons_of_not rfl _).trans hstarts₂⟩
      | some stdout =>
          have hstderr := prepareStderr_result hstdout.moves.good stdout
          dsimp only at hstderr hstarts₂ ⊢
          generalize programSchedulerPrepareStderr p stdout c₂ = result at hstderr
          obtain ⟨stderr, c₃⟩ := result
          have hstarts₃ := hstderr.starts.trans hstarts₂
          cases stderr with
          | none =>
              exact Or.inr ⟨nofun,
                (starts_cons_of_not rfl _).trans ((starts_cons_of_not rfl _).trans hstarts₃)⟩
          | some stderr =>
              obtain ⟨program, workingDirectory, hspawn⟩ :=
                spawnWithFiles_starts (p := p) (c := c₃) [stdin, stdout, stderr]
              exact Or.inl ⟨⟨rfl, rfl⟩, program, workingDirectory, by rw [hspawn, hstarts₃]⟩

end Spawns

section Shut

-- The scheduler of a program was shut down. This is also what the destruction of the program
-- begins with.
def World.Shut (w : World) (p : ProgramRef) : Prop :=
  p < w.programs.next ∧
    ∀ program, w.programs.get p = some program → program.scheduler.shutdown = true

theorem update_of_shutdown (hshutdown : c.program.scheduler.shutdown = true) (tryStart : Bool) :
    programSchedulerUpdate p tryStart c = c := if_pos hshutdown

theorem Called.spawnsOf (hcalled : Called event p c c') (h : c.Good p)
    (hshutdown : c.program.scheduler.shutdown = true)
    (hstart : event ≠ .request (.programStart p)) : spawnsOf p c'.log = spawnsOf p c.log := by
  have hinert := Base.inert_of_shutdown h hshutdown
  cases hcalled with
  | @setter request result _ _ hcases =>
      cases hcases with
      | kept code hquiet => rw [hquiet.2.2]
      | @saved c₁ config tryStart hquiet _ _ =>
          have hsame := update_of_shutdown (p := p)
            (c := { c₁ with program := { c.program with config } }) hshutdown tryStart
          dsimp only
          rw [hsame]
          exact congrArg (Scheduling.spawnsOf p) hquiet.2.2
  | continueSchedule _ =>
      unfold programSchedulerContinue
      rw [if_pos hshutdown]
  | start hevent => exact absurd hevent hstart
  | purge _ => exact spawnsOf_of_starts (programPurge_spares h _ _).starts
  | cron _ =>
      unfold programSchedulerHandleCron
      rw [if_neg]
      rw [hinert.stopped]
      nofun
  | observer _ _ =>
      have hfinished : ¬(c.record (.observer p)).program.scheduler.observerState = .waiting := by
        change ¬c.program.scheduler.observerState = .waiting
        rw [hinert.finished]
        nofun
      unfold informObserver programSchedulerHandleObserver
      rw [if_neg hfinished]
      exact List.filter_cons_of_neg nofun
  | brickd _ =>
      unfold World.handleBrickdConnection
      split_ifs
      · rw [update_of_shutdown hshutdown]
      · rfl
  | create hscheduler =>
      rw [hscheduler] at hshutdown
      cases hshutdown

theorem Acts.shutdown (hacts : Acts event p c c') (h : c.Good p)
    (hshutdown : c.program.scheduler.shutdown = true) :
    c'.program.scheduler.shutdown = true := by
  cases hacts with
  | called hlive hcalled => exact (hcalled.handled h hlive).1.shutdown hshutdown
  | triggered htriggered => exact htriggered.shutdown.trans hshutdown
  | noted hunnoticed => exact (congrArg (·.shutdown) (hunnoticed.scheduler c.program)).trans hshutdown
  | bystands hprogram _ => exact hprogram ▸ hshutdown

theorem Acts.spawnsOf (hacts : Acts event p c c') (h : c.Good p)
    (hshutdown : c.program.scheduler.shutdown = true)
    (hstart : event ≠ .request (.programStart p)) : spawnsOf p c'.log = spawnsOf p c.log := by
  cases hacts with
  | called _ hcalled => exact hcalled.spawnsOf h hshutdown hstart
  | triggered htriggered =>
      have hidle := htriggered.idle (Base.inert_of_shutdown h hshutdown).stopped
      rw [hidle.2]
  | noted _ => rfl
  | bystands _ hbystands => exact hbystands.spawnsOf

theorem World.Does.next_le (hdoes : World.Does event w w') (h : w.Inv) :
    w.programs.next ≤ w'.programs.next := by
  cases hdoes with
  | called hget hcrashed hcalled => exact (h.called_serves hget hcrashed hcalled).next_eq.ge
  | died outcomes _ hprocess halive hchanged hget hcrashed =>
      exact (h.died_serves hprocess halive hchanged hget hcrashed _ _ outcomes).next_eq.ge
  | orphaned _ _ _ _ _ => exact le_rfl
  | expired outcomes _ hget harmed hcrashed =>
      exact (h.expired_serves hcrashed hget harmed outcomes).next_eq.ge
  | noted _ _ => exact (Heap.next_modify _ _ _).ge
  | adjusted hadjusted =>
      obtain ⟨processes, files, rfl, -, -⟩ := hadjusted
      exact le_rfl
  | observed _ _ => exact le_rfl
  | connected _ _ => exact le_rfl
  | created _ _ _ => exact (Nat.le_succ _).trans (Heap.next_alloc _ _).ge
  | destroyed _ _ _ => exact (World.next_remove _).ge

-- What is done while a program is not there, or ends it.
theorem World.Does.spawnsOf_none (hdoes : World.Does event w w') (h : w.Inv)
    (hnone : w'.programs.get p = none) : spawnsOf p w'.log = spawnsOf p w.log := by
  have hserved : ∀ {q : ProgramRef} {other : Program}, w.Serves q other w' →
      spawnsOf p w'.log = spawnsOf p w.log := by
    intro q other hserves
    refine (hserves.logs.bystands fun hp => ?_).spawnsOf
    obtain ⟨program, hget⟩ := hserves.live (Or.inl hp)
    rw [hnone] at hget
    cases hget
  cases hdoes with
  | called hget hcrashed hcalled => exact hserved (h.called_serves hget hcrashed hcalled)
  | died outcomes _ hprocess halive hchanged hget hcrashed =>
      exact hserved (h.died_serves hprocess halive hchanged hget hcrashed _ _ outcomes)
  | orphaned _ _ _ _ _ => rfl
  | expired outcomes _ hget harmed hcrashed =>
      exact hserved (h.expired_serves hcrashed hget harmed outcomes)
  | noted _ _ => rfl
  | adjusted hadjusted =>
      obtain ⟨processes, files, rfl, -, -⟩ := hadjusted
      exact spawnsOf_of_starts (releaseFiles_starts files w.log)
  | observed _ _ => rfl
  | connected _ _ => rfl
  | created _ _ _ => rfl
  | destroyed _ _ hdestroyed => exact spawnsOf_of_starts hdestroyed.starts

theorem World.Does.shut (hdoes : World.Does event w w') (h : w.Inv) (hshut : w.Shut p) :
    w'.Shut p := by
  refine ⟨hshut.1.trans_le (hdoes.next_le h), fun program' hget' => ?_⟩
  rcases hdoes.acts h hget' with ⟨-, -, -, hp, -, -⟩ | ⟨program, outcomes, outcomes', hget, hacts⟩
  · exact absurd hshut.1 (by rw [hp]; exact lt_irrefl _)
  · exact hacts.shutdown (h.core.base p program hget) (hshut.2 program hget)

theorem World.Does.spawnsOf (hdoes : World.Does event w w') (h : w.Inv) (hshut : w.Shut p)
    (hstart : event ≠ .request (.programStart p)) : spawnsOf p w'.log = spawnsOf p w.log := by
  cases hget' : w'.programs.get p with
  | none => exact hdoes.spawnsOf_none h hget'
  | some program' =>
      rcases hdoes.acts h hget' with ⟨-, hlog, -⟩ | ⟨program, outcomes, outcomes', hget, hacts⟩
      · rw [hlog]
      · exact hacts.spawnsOf (h.core.base p program hget) (hshut.2 program hget) hstart

theorem World.DoesAll.shut (hdoes : World.DoesAll event w w') (h : w.Inv) (hshut : w.Shut p) :
    w'.Shut p := by
  induction hdoes with
  | refl => exact hshut
  | tail hdoesAll hdoes ih => exact hdoes.shut (World.DoesAll.inv hdoesAll h) ih

theorem World.DoesAll.spawnsOf (hdoes : World.DoesAll event w w') (h : w.Inv) (hshut : w.Shut p)
    (hstart : event ≠ .request (.programStart p)) : spawnsOf p w'.log = spawnsOf p w.log := by
  induction hdoes with
  | refl => rfl
  | tail hdoesAll hdoes ih =>
      exact (hdoes.spawnsOf (World.DoesAll.inv hdoesAll h) (World.DoesAll.shut hdoesAll h hshut)
        hstart).trans ih

end Shut

section Final

-- program_start for a program without a living process, with files that can be opened.
def World.Restarts (w : World) (event : World.Event × Outcomes) (p : ProgramRef) : Prop :=
  event.1 = .request (.programStart p) ∧ ∃ program, w.programs.get p = some program ∧
    (w.context program event.2).lastAlive = false ∧
    opensFiles p (w.context program event.2) = true

theorem World.Inv.start_spawnsOf (h : w.Inv) (hshut : w.Shut p) {outcomes : Outcomes}
    (hstep : w.step outcomes (.request (.programStart p)) = some w') :
    spawnsOf p w'.log = spawnsOf p w.log ↔
      ¬w.Restarts (.request (.programStart p), outcomes) p := by
  obtain ⟨-, hrequest⟩ := Option.ite_none_right_eq_some.mp hstep
  obtain ⟨hsome, ⟨⟩⟩ := Option.ite_none_right_eq_some.mp hrequest
  obtain ⟨program, hget⟩ := Option.isSome_iff_exists.mp hsome
  have hgood : (w.context program outcomes).Good p := h.core.base p program hget
  have hinert := Base.inert_of_shutdown hgood (hshut.2 program hget)
  have hrestarts : w.Restarts (.request (.programStart p), outcomes) p ↔
      (w.context program outcomes).lastAlive = false ∧
        opensFiles p (w.context program outcomes) = true := by
    constructor
    · rintro ⟨-, other, hother, hspawns⟩
      rw [hget] at hother
      cases hother
      exact hspawns
    · exact fun hspawns => ⟨rfl, program, hget, hspawns⟩
  rw [hrestarts, World.run_eq hget]
  rcases spawnProcess_starts hgood hinert.finished with
    ⟨hspawns, program', workingDirectory, hstarts⟩ | ⟨hspawns, hstarts⟩
  · refine iff_of_false (fun hsame => ?_) (not_not_intro hspawns)
    -- there is one call more than before
    have hlength := congrArg List.length hsame
    change (spawnsOf p (programSchedulerSpawnProcess p (w.context program outcomes)).log).length =
      (spawnsOf p (w.context program outcomes).log).length at hlength
    rw [spawnsOf_eq, hstarts, List.filter_cons_of_pos (by exact decide_eq_true rfl),
      ← spawnsOf_eq, List.length_cons] at hlength
    omega
  · exact iff_of_true (spawnsOf_of_starts hstarts) hspawns

theorem World.Inv.next_spawnsOf (h : w.Inv) (hshut : w.Shut p) {event : World.Event × Outcomes}
    (hnext : w.next event = some w') :
    spawnsOf p w'.log = spawnsOf p w.log ↔ ¬w.Restarts event p := by
  obtain ⟨hcrashed, hstep⟩ := World.next_step hnext
  by_cases hstart : event.1 = .request (.programStart p)
  · obtain ⟨event, outcomes⟩ := event
    cases hstart
    exact h.start_spawnsOf hshut hstep
  · have hspawns := World.DoesAll.spawnsOf (h.step_does hcrashed hstep) h hshut hstart
    exact iff_of_true hspawns fun hrestarts => hstart hrestarts.1

-- The scheduler is stopped, and no process was spawned for it since `w`.
def World.Rests (w : World) (p : ProgramRef) (w' : World) : Prop :=
  (∀ program, w'.programs.get p = some program → program.scheduler.state = .stopped) ∧
    spawnsOf p w'.log = spawnsOf p w.log

-- Only program_start brings a scheduler that was shut down to spawn another process.
theorem shutdown_final_iff {x11Enabled : Bool} {before : List (World.Event × Outcomes)}
    (hrun : Trace.run World.next (World.init x11Enabled) before = some w) (hshut : w.Shut p)
    (events : List (World.Event × Outcomes)) :
    Trace.Always World.next (w.Rests p) w events ↔
      Trace.Along World.next (fun w event _ => ¬w.Restarts event p) w events := by
  have hstopped : ∀ {w : World}, w.Inv → w.Shut p → ∀ program,
      w.programs.get p = some program → program.scheduler.state = .stopped :=
    fun h hshut program hget => (h.core.base p program hget).shutdown (hshut.2 program hget)
  have hinv := World.inv_of_run hrun
  refine Trace.always_iff_along (I := fun w => w.Inv ∧ w.Shut p)
    (fun w event w' h hnext => ?_) (fun w₁ event w₂ h hrests hnext => ?_) ⟨hinv, hshut⟩
    ⟨hstopped hinv hshut, rfl⟩ events
  · exact ⟨h.1.next hnext, World.DoesAll.shut (h.1.next_does hnext) h.1 h.2⟩
  · have hshut' := World.DoesAll.shut (h.1.next_does hnext) h.1 h.2
    rw [← h.1.next_spawnsOf h.2 hnext, hrests.2]
    exact and_iff_right (hstopped (h.1.next hnext) hshut')

-- The greeter is purged while somebody else references it.
def referencedPurge : List (World.Event × Outcomes) :=
  [loadGreeter keeperFile, (.brickdAccept, .succeed),
    (.request (.addProgramReference 0), .succeed),
    (.request (.programPurge 0 (purgeCookie (ascii "greeter")) []), .succeed),
    (.processStateChange 0 .killed 9, .succeed)]

theorem referencedPurge_final : ∃ w,
    Trace.run World.next (World.init false) referencedPurge = some w ∧
      Trace.Always World.next (w.Rests 0) w
        [(.request (.programContinueSchedule 0), .succeed)] := by
  obtain ⟨w, hrun, hlt, program, hget, hshutdown⟩ : ∃ w,
      Trace.run World.next (World.init false) referencedPurge = some w ∧
        0 < w.programs.next ∧ ∃ program, w.programs.get 0 = some program ∧
          program.scheduler.shutdown = true :=
    ⟨_, rfl, by decide, _, rfl, rfl⟩
  refine ⟨w, hrun, (shutdown_final_iff hrun ⟨hlt, fun other hother => ?_⟩ _).mpr ?_⟩
  · rw [hget] at hother
    cases hother
    exact hshutdown
  · unfold Trace.Along
    cases World.next w (.request (.programContinueSchedule 0), .succeed) with
    | none => trivial
    | some w' => exact ⟨fun hrestarts => (by cases hrestarts.1), trivial⟩

-- The process that program_start spawns is a second one.
theorem referencedPurge_not_final : ∃ w,
    Trace.run World.next (World.init false) referencedPurge = some w ∧ w.Shut 0 ∧
      ¬Trace.Always World.next (w.Rests 0) w [(.request (.programStart 0), .succeed)] := by
  obtain ⟨w, hrun, hlt, ⟨program, hget, hshutdown⟩, hbefore, w', hrun', hafter⟩ : ∃ w,
      Trace.run World.next (World.init false) referencedPurge = some w ∧
        0 < w.programs.next ∧ (∃ program, w.programs.get 0 = some program ∧
          program.scheduler.shutdown = true) ∧ (spawnsOf 0 w.log).length = 1 ∧
        ∃ w', Trace.run World.next w [(.request (.programStart 0), .succeed)] = some w' ∧
          (spawnsOf 0 w'.log).length = 2 :=
    ⟨_, rfl, by decide, ⟨_, rfl, rfl⟩, rfl, _, rfl, rfl⟩
  refine ⟨w, hrun, ⟨hlt, fun other hother => ?_⟩, fun h => ?_⟩
  · rw [hget] at hother
    cases hother
    exact hshutdown
  · have hrests := (h.of_run hrun').2
    rw [hrests, hbefore] at hafter
    cases hafter

end Final

end RedApid.Scheduling

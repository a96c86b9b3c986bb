import RedApid.Scheduler.Runs

namespace RedApid.Scheduling

open Memory

variable {w w' : World} {p : ProgramRef} {event : World.Event}

section Acts

-- New effects that are not about this program.
def Bystands (p : ProgramRef) (log log' : List Effect) : Prop :=
  ∃ new, log' = new ++ log ∧ ∀ effect ∈ new, effect.program ≠ some p

-- What its timer and the state changes of its processes do to a program.
structure Triggered (c c' : Context) : Prop where
  config : c'.program.config = c.program.config
  brickd : c'.program.scheduler.waitingForBrickd = c.program.scheduler.waitingForBrickd ∨
    c.daemon.brickdConnected = true ∧ c'.program.scheduler.waitingForBrickd = false
  shutdown : c'.program.scheduler.shutdown = c.program.scheduler.shutdown
  idle : c.program.scheduler.state = .stopped →
    c'.program.scheduler.state = .stopped ∧ c'.log = c.log
  logs : ∀ effect ∈ c.log, effect ∈ c'.log

-- All that a step can do to one program, be it about this program or about another one.
inductive Acts (event : World.Event) (p : ProgramRef) (c : Context) : Context → Prop
  | called {c' : Context} (live : c.Live) (called : Called event p c c') : Acts event p c c'
  | triggered {c' : Context} (triggered : Triggered c c') : Acts event p c c'
  | noted {f : Program → Program} (unnoticed : Unnoticed f) :
      Acts event p c { c with program := f c.program }
  | bystands {c' : Context} (program : c'.program = c.program)
      (bystands : Bystands p c.log c'.log) : Acts event p c c'

theorem Bystands.refl (log : List Effect) : Bystands p log log :=
  ⟨[], rfl, fun _ hmem => absurd hmem List.not_mem_nil⟩

theorem Logs.bystands {q : ProgramRef} {log log' : List Effect} (h : Logs p log log')
    (hne : q ≠ p) : Bystands q log log' := by
  obtain ⟨new, hnew, hallowed⟩ := h
  exact ⟨new, hnew, fun effect heffect hq => hne ((hallowed effect heffect).1 q hq)⟩

theorem Moves.triggered {c c₀ c' : Context} (h : Moves p c₀ c')
    (hconfig : c₀.program.config = c.program.config)
    (hwaiting : c₀.program.scheduler.waitingForBrickd = c.program.scheduler.waitingForBrickd)
    (hconnected : c₀.daemon.brickdConnected = c.daemon.brickdConnected)
    (hshutdown : c₀.program.scheduler.shutdown = c.program.scheduler.shutdown)
    (hidle : c.program.scheduler.state = .stopped →
      c'.program.scheduler.state = .stopped ∧ c'.log = c.log) (hlog : c₀.log = c.log) :
    Triggered c c' where
  config := by rw [h.program, ← hconfig]
  brickd := by rw [← hwaiting, ← hconnected]; exact h.brickd
  shutdown := h.shutdown.trans hshutdown
  idle := hidle
  logs effect heffect := h.logs.mem (hlog ▸ heffect)

theorem handleProcessStateChange_idle {c : Context} (h : c.program.scheduler.state = .stopped) :
    programSchedulerHandleProcessStateChange p c = c := by
  unfold programSchedulerHandleProcessStateChange
  rw [if_pos]
  rw [h]
  nofun

theorem handleTimer_idle {c : Context} (h : c.program.scheduler.state = .stopped) :
    programSchedulerHandleTimer p c = c := by
  unfold programSchedulerHandleTimer
  rw [if_neg]
  rw [h]
  nofun

-- A program is new, or something was done to it that its context tells.
theorem World.Does.acts (hdoes : World.Does event w w') (h : w.Inv) {q : ProgramRef}
    {other' : Program} (hget' : w'.programs.get q = some other') :
    (w.programs.get q = none ∧ w'.log = w.log ∧ w'.daemon = w.daemon ∧
        q = w.programs.next ∧ Originates event other'.config ∧
        other'.scheduler = programSchedulerCreate other'.config w.daemon) ∨
      ∃ other outcomes outcomes', w.programs.get q = some other ∧
        Acts event q (w.context other outcomes) (w'.context other' outcomes') := by
  have hbystands : ∀ other, w.programs.get q = some other → other' = other →
      Bystands q w.log w'.log → ∃ other outcomes outcomes', w.programs.get q = some other ∧
        Acts event q (w.context other outcomes) (w'.context other' outcomes') := by
    rintro other hget rfl hlog
    exact ⟨other', .succeed, .succeed, hget, .bystands rfl hlog⟩
  cases hdoes with
  | @called p program outcomes c hget hcrashed hcalled =>
      refine Or.inr ?_
      have hhandled := (hcalled.handled (h.core.base _ _ hget) (h.lively hcrashed _ _ hget)).1
      rcases World.get_put_some hget hget' with ⟨rfl, rfl⟩ | ⟨hq, hother⟩
      · exact ⟨program, outcomes, c.outcomes, hget,
          .called (h.lively hcrashed _ _ hget) hcalled⟩
      · exact hbystands other' hother rfl (hhandled.logs.bystands hq)
  | @died p program r found state exitCode outcomes _ hprocess halive hchanged hget hcrashed =>
      refine Or.inr ?_
      have hcore := h.core.modifyAlive hprocess halive state exitCode
      have hget₁ : (w.modifyProcess r fun process =>
          { process with state, exitCode }).programs.get p = some program := hget
      obtain ⟨hmoves, -⟩ := handleProcessStateChange_moves
        (c := (w.modifyProcess r fun process => { process with state, exitCode }).context program
          outcomes) (hcore.base p program hget₁)
          fun halways => (h.lively hcrashed p program hget).of_not_always halways _
      have hidle := handleProcessStateChange_idle (p := p)
        (c := (w.modifyProcess r fun process => { process with state, exitCode }).context program
          outcomes)
      generalize programSchedulerHandleProcessStateChange p
        ((w.modifyProcess r fun process => { process with state, exitCode }).context program
          outcomes) = c at hbystands hmoves hidle hget' ⊢
      rcases World.get_put_some hget₁ hget' with ⟨rfl, rfl⟩ | ⟨hq, hother⟩
      · refine ⟨program, outcomes, c.outcomes, hget, .triggered
          (hmoves.triggered (c := w.context program outcomes) rfl rfl rfl rfl (fun hstopped => ?_) rfl)⟩
        rw [hidle hstopped]
        exact ⟨hstopped, rfl⟩
      · exact hbystands other' hother rfl (hmoves.logs.bystands hq)
  | orphaned _ _ _ _ _ => exact Or.inr (hbystands other' hget' rfl (Bystands.refl _))
  | @expired p program arming outcomes _ hget harmed hcrashed =>
      refine Or.inr ?_
      have hcore := h.core.put hget
        (Program.expired_handled (h.core.base p program hget) harmed outcomes)
      have hget₁ : (w.put p (w.context (program.expired arming) outcomes)).programs.get p =
          some (program.expired arming) := (World.get_put hget _ p).trans (if_pos rfl)
      obtain ⟨hmoves, -⟩ := handleTimer_moves
        (c := (w.put p (w.context (program.expired arming) outcomes)).context
          (program.expired arming) outcomes) (hcore.base p _ hget₁)
        fun halways => Program.expired_live (h.lively hcrashed p program hget) harmed halways
      have hidle := handleTimer_idle (p := p)
        (c := (w.put p (w.context (program.expired arming) outcomes)).context
          (program.expired arming) outcomes)
      generalize programSchedulerHandleTimer p
        ((w.put p (w.context (program.expired arming) outcomes)).context
          (program.expired arming) outcomes) = c at hbystands hmoves hidle hget' ⊢
      rcases World.get_put_some hget₁ hget' with ⟨rfl, rfl⟩ | ⟨hq, hother⟩
      · refine ⟨program, outcomes, c.outcomes, hget, .triggered
          (hmoves.triggered (c := w.context program outcomes) rfl rfl rfl rfl (fun hstopped => ?_) rfl)⟩
        rw [hidle hstopped]
        exact ⟨hstopped, rfl⟩
      · rcases World.get_put_some hget hother with ⟨heq, -⟩ | ⟨-, hother⟩
        · exact absurd heq hq
        · exact hbystands other' hother rfl (hmoves.logs.bystands hq)
  | @noted f hunnoticed p =>
      refine Or.inr ?_
      cases hget : w.programs.get p with
      | none =>
          have hsame : w.modifyProgram p f = w := by
            unfold World.modifyProgram
            rw [Heap.modify_of_none hget]
          rw [hsame] at hget' ⊢
          exact ⟨other', .succeed, .succeed, hget', .bystands rfl (Bystands.refl _)⟩
      | some program =>
          rw [World.modifyProgram_eq hget f .succeed] at hget'
          rcases World.get_put_some hget hget' with ⟨rfl, rfl⟩ | ⟨hq, hother⟩
          · exact ⟨program, .succeed, .succeed, hget, .noted hunnoticed⟩
          · exact hbystands other' hother rfl (Bystands.refl _)
  | adjusted hadjusted =>
      obtain ⟨processes, files, rfl, -, -⟩ := hadjusted
      refine Or.inr (hbystands other' hget' rfl ⟨_, rfl, fun effect heffect => ?_⟩)
      obtain ⟨file, -, rfl⟩ := List.mem_map.mp heffect
      nofun
  | observed _ _ => exact Or.inr (hbystands other' hget' rfl (Bystands.refl _))
  | connected _ _ => exact Or.inr (hbystands other' hget' rfl (Bystands.refl _))
  | @created program hfree horigin hscheduler =>
      rcases World.get_alloc_some hget' with ⟨rfl, rfl⟩ | ⟨hq, hother⟩
      · exact Or.inl ⟨Heap.get_eq_none_of_next_le _ (Nat.le_refl _), rfl, rfl, rfl, horigin,
          hscheduler⟩
      · exact Or.inr (hbystands other' hother rfl (Bystands.refl _))
  | destroyed _ hget hdestroyed =>
      obtain ⟨hq, hother⟩ := World.get_remove_some hget hget'
      exact Or.inr (hbystands other' hother rfl (hdestroyed.logs.bystands hq))

end Acts

section Each

-- What holds of new programs and is kept by all that can be done to a program.
theorem World.DoesAll.each {J : World → ProgramRef → Program → Prop}
    (hnew : ∀ w w' : World, ∀ q program, w.Inv → w'.log = w.log → w'.daemon = w.daemon →
      q = w.programs.next → Originates event program.config →
      program.scheduler = programSchedulerCreate program.config w.daemon → J w' q program)
    (hacts : ∀ (w w' : World) q program program' outcomes outcomes', w.Inv →
      World.Does event w w' → w.programs.get q = some program →
      Acts event q (w.context program outcomes) (w'.context program' outcomes') →
      J w q program → J w' q program')
    (hdoes : World.DoesAll event w w') (h : w.Inv)
    (hJ : ∀ q program, w.programs.get q = some program → J w q program) :
    ∀ q program, w'.programs.get q = some program → J w' q program := by
  induction hdoes with
  | refl => exact hJ
  | @tail w₁ w₂ hdoesAll hdoes ih =>
      have h₁ := World.DoesAll.inv hdoesAll h
      intro q program' hget'
      rcases hdoes.acts h₁ hget' with ⟨-, hlog, hdaemon, hq, horigin, hscheduler⟩ |
        ⟨program, outcomes, outcomes', hget, hact⟩
      · exact hnew w₁ w₂ q program' h₁ hlog hdaemon hq horigin hscheduler
      · exact hacts w₁ w₂ q program program' outcomes outcomes' h₁ hdoes hget hact
          (ih q program hget)

end Each

section Config

-- The config of a program changes by requests only, its custom options apart.
theorem Acts.config {c c' : Context} (hacts : Acts event p c c') (h : c.Good p) :
    Configured event c.program.config c'.program.config ∨
      ∃ customOptions, c'.program.config = { c.program.config with customOptions } := by
  cases hacts with
  | called hlive hcalled => exact Or.inl (hcalled.handled h hlive).2.2
  | triggered htriggered => exact Or.inl (Or.inl htriggered.config)
  | noted hunnoticed => exact Or.inr (hunnoticed.config c.program)
  | bystands hprogram _ => exact Or.inl (Or.inl (by rw [hprogram]))

end Config

end RedApid.Scheduling

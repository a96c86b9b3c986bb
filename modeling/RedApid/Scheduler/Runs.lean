import RedApid.Scheduler.Processes
import RedApid.Trace
import Mathlib.Logic.Relation

namespace RedApid.Scheduling

open Memory

variable {w w' : World} {p : ProgramRef} {event : World.Event}

section Expiry

-- A program whose timer has expired.
def Program.expired (program : Program) (arming : Arming) : Program :=
  { program with scheduler :=
    { program.scheduler with timer := if arming.periodic then some arming else none } }

theorem Program.expired_handled {program : Program} {arming : Arming}
    (h : Base p program w.daemon w.log) (harming : program.scheduler.timer = some arming)
    (outcomes : Outcomes) :
    Handled p (w.context program outcomes) (w.context (program.expired arming) outcomes) where
  good :=
    { h with
      timer := fun _ => h.timer (by rw [harming]; nofun) }
  id := rfl
  brickd := Or.inl rfl
  shutdown hshutdown := hshutdown
  frame := Frame.refl _
  logs := Logs.refl _

-- Only ALWAYS loses its trigger by the expiry.
theorem Program.expired_live {program : Program} {daemon : Daemon} {arming : Arming}
    (h : Live program daemon) (harming : program.scheduler.timer = some arming)
    (hmode : program.config.startMode ≠ .always) : Live (program.expired arming) daemon := by
  intro hrunning
  have htrigger := h hrunning
  have hconfig : (program.expired arming).config = program.config := rfl
  rw [hconfig]
  cases hstart : program.config.startMode with
  | never =>
      rw [hstart] at htrigger
      exact htrigger
  | always => exact absurd hstart hmode
  | interval =>
      rw [hstart] at htrigger
      dsimp only at htrigger ⊢
      rw [harming] at htrigger
      split_ifs at htrigger with hzero
      cases htrigger
      rw [if_neg hzero]
      rfl
  | cron =>
      rw [hstart] at htrigger
      exact htrigger

theorem World.handleTimer_eq {program : Program} (hget : w.programs.get p = some program)
    (arming : Arming) (outcomes : Outcomes) :
    w.handleTimer outcomes p program arming =
      ((w.put p (w.context (program.expired arming) outcomes)).run p
        (programSchedulerHandleTimer p) outcomes).1 := by
  unfold World.handleTimer
  dsimp only
  rw [World.modifyProgram_eq hget _ outcomes]
  rfl

end Expiry

section Does

-- The functions that an event calls for one program.
inductive Called (event : World.Event) (p : ProgramRef) (c : Context) : Context → Prop
  | setter {request : World.Request} {result : APIE × Context}
      (event_eq : event = .request request) (connected : c.daemon.brickdConnected = true)
      (cases : SetterCases request p c result) : Called event p c result.2
  | continueSchedule (event_eq : event = .request (.programContinueSchedule p)) :
      Called event p c (programSchedulerContinue p c)
  | start (event_eq : event = .request (.programStart p)) :
      Called event p c (programSchedulerSpawnProcess p c)
  | purge {cookie : UInt32} {renames : List RenameResult}
      (event_eq : event = .request (.programPurge p cookie renames)) :
      Called event p c (programPurge p cookie renames c).2
  | cron {programId : ObjectID} (event_eq : event = .cronNotification true programId) :
      Called event p c (programSchedulerHandleCron p c)
  | observer (event_eq : event = .observationTimer)
      (waiting : c.program.scheduler.observerState = .waiting) :
      Called event p c (informObserver p c)
  | brickd (event_eq : event = .brickdAccept) : Called event p c (World.handleBrickdConnection p c)
  | create (scheduler : c.program.scheduler = programSchedulerCreate c.program.config c.daemon) :
      Called event p c (programSchedulerUpdate p true c)

-- The config of a new program.
inductive Originates (event : World.Event) : ProgramSettings → Prop
  | load {identifier rootDirectory : CString} {file : ConfFile} {id : ObjectID}
      {creation : Option APIError}
      (event_eq : event = .programLoad identifier rootDirectory file id creation) :
      Originates event (programConfigLoad file)
  | define {programsDirectory identifier : CString} {id : ObjectID} {creation : Option APIError}
      (event_eq : event = .request (.programDefine programsDirectory identifier id creation)) :
      Originates event programConfigCreate

-- The last reference to a program is removed by one of these.
inductive World.Event.Releases (event : World.Event) (p : ProgramRef) : Prop
  | release (event_eq : event = .releaseProgram p)
  | unlist (event_eq : event = .unlistProgram p)
  | purge {cookie : UInt32} {renames : List RenameResult}
      (event_eq : event = .request (.programPurge p cookie renames))

-- What the daemon does for an event, one function after the other.
inductive World.Does (event : World.Event) : World → World → Prop
  | called {w : World} {p : ProgramRef} {program : Program} {outcomes : Outcomes} {c : Context}
      (get : w.programs.get p = some program) (running : w.daemon.crashed = false)
      (called : Called event p (w.context program outcomes) c) : Does event w (w.put p c)
  | died {w : World} {p : ProgramRef} {program : Program} {q : ProcessRef} {found : Process}
      {state : ProcessState} {exitCode : UInt8} (outcomes : Outcomes)
      (event_eq : event = .processStateChange q state exitCode)
      (process : w.daemon.processes.get q = some found) (alive : found.state.isAlive = true)
      (changed : found.stateChanged = some p) (get : w.programs.get p = some program)
      (running : w.daemon.crashed = false) :
      Does event w
        ((w.modifyProcess q fun process => { process with state, exitCode }).put p
          (programSchedulerHandleProcessStateChange p
            ((w.modifyProcess q fun process => { process with state, exitCode }).context program
              outcomes)))
  | orphaned {w : World} {p : ProgramRef} {q : ProcessRef} {found : Process}
      {state : ProcessState} {exitCode : UInt8}
      (event_eq : event = .processStateChange q state exitCode)
      (process : w.daemon.processes.get q = some found) (alive : found.state.isAlive = true)
      (changed : found.stateChanged = some p) (get : w.programs.get p = none) :
      Does event w (w.modifyProcess q fun process => { process with state, exitCode }).crash
  | expired {w : World} {p : ProgramRef} {program : Program} {arming : Arming} (outcomes : Outcomes)
      (event_eq : event = .timer p) (get : w.programs.get p = some program)
      (armed : program.scheduler.timer = some arming) (running : w.daemon.crashed = false) :
      Does event w
        ((w.put p (w.context (program.expired arming) outcomes)).put p
          (programSchedulerHandleTimer p
            ((w.put p (w.context (program.expired arming) outcomes)).context
              (program.expired arming) outcomes)))
  | noted {w : World} {f : Program → Program} (unnoticed : Unnoticed f) (p : ProgramRef) :
      Does event w (w.modifyProgram p f)
  | adjusted {w w' : World} (adjusted : w.Adjusted w') : Does event w w'
  | observed {w : World} {observation observation' : ProcessObservation}
      (observation_eq : w.daemon.observation = some observation)
      (observers : observation'.observers = observation.observers) :
      Does event w { w with daemon := { w.daemon with observation := some observation' } }
  | connected {w : World} (brickdConnected : Bool)
      (event_eq : event = if brickdConnected then .brickdAccept else .brickdDisconnect) :
      Does event w { w with daemon := { w.daemon with brickdConnected } }
  | created {w : World} {program : Program} (free : w.IsFreeId program.id)
      (origin : Originates event program.config)
      (scheduler : program.scheduler = programSchedulerCreate program.config w.daemon) :
      Does event w (w.alloc program)
  | destroyed {w : World} {p : ProgramRef} {program : Program} {outcomes : Outcomes}
      (releases : event.Releases p) (get : w.programs.get p = some program)
      (destroyed : Destroyed p (w.context program outcomes)
        (programSchedulerDestroy p (w.context program outcomes))) :
      Does event w (w.remove p (programSchedulerDestroy p (w.context program outcomes)))

end Does

section Invariant

-- Only requests change a config.
def Configured (event : World.Event) (old new : ProgramSettings) : Prop :=
  new = old ∨ ∃ request, event = .request request ∧ Edits old request new

theorem Called.handled {c c' : Context} (hcalled : Called event p c c') (h : c.Good p)
    (hlive : c.Live) :
    Handled p c c' ∧ c'.Lives ∧ Configured event c.program.config c'.program.config := by
  have hmoved : ∀ {c'}, Moves p c c' ∧ c'.Lives →
      Handled p c c' ∧ c'.Lives ∧ Configured event c.program.config c'.program.config :=
    fun hmoves => ⟨hmoves.1.handled, hmoves.2, Or.inl (by rw [hmoves.1.program])⟩
  cases hcalled with
  | setter hevent hconnected hcases =>
      obtain ⟨hhandled, hlives, hconfig⟩ := hcases.handled h hlive hconnected
      exact ⟨hhandled, hlives, hconfig.imp_right fun hedits => ⟨_, hevent, hedits⟩⟩
  | continueSchedule _ => exact hmoved (continue_moves h hlive)
  | start _ => exact hmoved ⟨(spawnProcess_moves h).1, spawnProcess_lives h fun _ => hlive⟩
  | @purge cookie renames _ =>
      obtain ⟨hhandled, hlives, hconfig⟩ := programPurge_handled h hlive cookie renames
      exact ⟨hhandled, hlives, Or.inl hconfig⟩
  | cron _ => exact hmoved (handleCron_moves h hlive)
  | observer _ _ => exact hmoved (informObserver_moves h hlive)
  | brickd _ =>
      refine hmoved ?_
      unfold World.handleBrickdConnection
      split_ifs
      · exact update_moves h true fun _ => hlive
      · exact ⟨Moves.refl h, fun _ => hlive⟩
  | create _ => exact hmoved (update_moves h true fun _ => hlive)

theorem World.Core.crash (h : w.Core) : w.crash.Inv where
  core := { h with base := fun q program hget => { h.base q program hget with } }
  lively := nofun

theorem World.Inv.died (h : w.Inv) {program : Program} {q : ProcessRef} {found : Process}
    (hprocess : w.daemon.processes.get q = some found) (halive : found.state.isAlive = true)
    (hchanged : found.stateChanged = some p) (hget : w.programs.get p = some program)
    (hcrashed : w.daemon.crashed = false) (state : ProcessState) (exitCode : UInt8)
    (outcomes : Outcomes) :
    ((w.modifyProcess q fun process => { process with state, exitCode }).put p
      (programSchedulerHandleProcessStateChange p
        ((w.modifyProcess q fun process => { process with state, exitCode }).context program
          outcomes))).Inv := by
  have hcore := h.core.modifyAlive hprocess halive state exitCode
  -- no other program has spawned the process
  have hkeeps : KeepsAlive w.daemon.processes (w.daemon.processes.modify q fun process =>
      { process with state, exitCode }) (· ≠ p) := by
    refine keepsAlive_modify fun process r hfound hprocessChanged hr => ?_
    rw [hprocess] at hfound
    cases hfound
    rw [hchanged] at hprocessChanged
    exact absurd (Option.some.inj hprocessChanged).symm hr
  have hlively := h.lively hcrashed
  have hget' : (w.modifyProcess q fun process =>
      { process with state, exitCode }).programs.get p = some program := hget
  obtain ⟨hmoves, hlives⟩ := handleProcessStateChange_moves
    (c := (w.modifyProcess q fun process => { process with state, exitCode }).context program
      outcomes) (hcore.base p program hget')
      fun halways => (hlively p program hget).of_not_always halways _
  refine hcore.inv_put (fun _ => ?_) hget' hmoves.handled hlives
  intro r other hr hother
  exact (hlively r other hother).adjust (h.core.base r other hother) hkeeps hr

theorem World.Inv.expired (h : w.Inv) (hcrashed : w.daemon.crashed = false)
    {program : Program} (hget : w.programs.get p = some program) {arming : Arming}
    (harming : program.scheduler.timer = some arming) (outcomes : Outcomes) :
    ((w.put p (w.context (program.expired arming) outcomes)).put p
      (programSchedulerHandleTimer p
        ((w.put p (w.context (program.expired arming) outcomes)).context
          (program.expired arming) outcomes))).Inv := by
  have hlively := h.lively hcrashed
  have hexpired := Program.expired_handled (h.core.base p program hget) harming outcomes
  have hcore := h.core.put hget hexpired
  have hget' : (w.put p (w.context (program.expired arming) outcomes)).programs.get p =
      some (program.expired arming) := (World.get_put hget _ p).trans (if_pos rfl)
  obtain ⟨hmoves, hlives⟩ := handleTimer_moves
    (c := (w.put p (w.context (program.expired arming) outcomes)).context
      (program.expired arming) outcomes) (hcore.base p _ hget')
    fun halways => Program.expired_live (hlively p program hget) harming halways
  refine hcore.inv_put (fun _ => ?_) hget' hmoves.handled hlives
  intro q other hq hother
  rcases World.get_put_some hget hother with ⟨heq, -⟩ | ⟨-, hother⟩
  · exact absurd heq hq
  · exact hlively q other hother

theorem World.Inv.observed (h : w.Inv) {observation observation' : ProcessObservation}
    (hobservation : w.daemon.observation = some observation)
    (hobservers : observation'.observers = observation.observers) :
    ({ w with daemon := { w.daemon with observation := some observation' } } : World).Inv := by
  have hsame : ({ w.daemon with observation := some observation' } : Daemon).observers =
      w.daemon.observers := by
    unfold Daemon.observers
    rw [hobservation]
    exact hobservers
  refine { core := ?_, lively := h.lively }
  refine { h.core with base := fun q program hget => ?_, observers := ?_ }
  · exact
      { h.core.base q program hget with
        observers := by
          rw [hsame]
          exact (h.core.base q program hget).observers }
  · rw [hsame]
    exact h.core.observers

theorem World.Inv.connected (h : w.Inv) (brickdConnected : Bool) :
    ({ w with daemon := { w.daemon with brickdConnected } } : World).Inv where
  core := { h.core with base := fun q program hget => { h.core.base q program hget with } }
  lively := h.lively

-- What is done for one program.
structure World.Serves (p : ProgramRef) (program : Program) (w w' : World) : Prop where
  get : w.programs.get p = some program
  programs : ∃ program', w'.programs = w.programs.modify p fun _ => program'
  frame : Frame p w.daemon w'.daemon
  logs : Logs p w.log w'.log

theorem World.Inv.called_serves (h : w.Inv) {program : Program}
    (hget : w.programs.get p = some program) (hcrashed : w.daemon.crashed = false)
    {outcomes : Outcomes} {c : Context} (hcalled : Called event p (w.context program outcomes) c) :
    w.Serves p program (w.put p c) := by
  have hhandled := (hcalled.handled (h.core.base _ _ hget) (h.lively hcrashed _ _ hget)).1
  exact ⟨hget, ⟨c.program, rfl⟩, hhandled.frame, hhandled.logs⟩

-- The process of a program, and then the program itself.
theorem World.Inv.died_serves (h : w.Inv) {program : Program} {q : ProcessRef} {found : Process}
    (hprocess : w.daemon.processes.get q = some found) (halive : found.state.isAlive = true)
    (hchanged : found.stateChanged = some p) (hget : w.programs.get p = some program)
    (hcrashed : w.daemon.crashed = false) (state : ProcessState) (exitCode : UInt8)
    (outcomes : Outcomes) :
    w.Serves p program ((w.modifyProcess q fun process => { process with state, exitCode }).put p
      (programSchedulerHandleProcessStateChange p
        ((w.modifyProcess q fun process => { process with state, exitCode }).context program
          outcomes))) := by
  have hcore := h.core.modifyAlive hprocess halive state exitCode
  obtain ⟨hmoves, -⟩ := handleProcessStateChange_moves
    (c := (w.modifyProcess q fun process => { process with state, exitCode }).context program
      outcomes) (hcore.base p program hget)
      fun halways => (h.lively hcrashed p program hget).of_not_always halways _
  have hframe : Frame p w.daemon
      (w.modifyProcess q fun process => { process with state, exitCode }).daemon :=
    { Frame.refl w.daemon with
      processes := fun r process hother => by
        change (w.daemon.processes.modify q _).get r = _ ↔ _
        rw [Heap.get_modify]
        split_ifs with hr
        · subst hr
          rw [hprocess, Option.map_some]
          refine iff_of_false (fun heq => ?_) fun heq => ?_
          · cases heq
            exact hother hchanged
          · cases heq
            exact hother hchanged
        · rfl }
  exact ⟨hget, ⟨_, rfl⟩, hframe.trans hmoves.frame, hmoves.logs⟩

theorem World.Inv.expired_serves (h : w.Inv) (hcrashed : w.daemon.crashed = false)
    {program : Program} (hget : w.programs.get p = some program) {arming : Arming}
    (harming : program.scheduler.timer = some arming) (outcomes : Outcomes) :
    w.Serves p program ((w.put p (w.context (program.expired arming) outcomes)).put p
      (programSchedulerHandleTimer p
        ((w.put p (w.context (program.expired arming) outcomes)).context
          (program.expired arming) outcomes))) := by
  have hexpired := Program.expired_handled (h.core.base p program hget) harming outcomes
  have hget' : (w.put p (w.context (program.expired arming) outcomes)).programs.get p =
      some (program.expired arming) := (World.get_put hget _ p).trans (if_pos rfl)
  obtain ⟨hmoves, -⟩ := handleTimer_moves
    (c := (w.put p (w.context (program.expired arming) outcomes)).context
      (program.expired arming) outcomes) ((h.core.put hget hexpired).base p _ hget')
    fun halways => Program.expired_live (h.lively hcrashed p program hget) harming halways
  exact ⟨hget, ⟨_, Heap.modify_modify _ _ _ _⟩, hmoves.frame, hmoves.logs⟩

theorem World.Serves.live {program : Program} (h : w.Serves p program w') {q : ProgramRef}
    (hlive : q = p ∨ ∃ other, w.programs.get q = some other) :
    ∃ other, w'.programs.get q = some other := by
  obtain ⟨program', hprograms⟩ := h.programs
  rw [hprograms, Heap.get_modify]
  split_ifs with hq
  · rw [hq, h.get]
    exact ⟨program', rfl⟩
  · exact hlive.resolve_left hq

theorem World.Serves.next_eq {program : Program} (h : w.Serves p program w') :
    w'.programs.next = w.programs.next := by
  obtain ⟨program', hprograms⟩ := h.programs
  rw [hprograms, Heap.next_modify]

theorem World.Does.inv (hdoes : World.Does event w w') (h : w.Inv) : w'.Inv := by
  cases hdoes with
  | called hget hcrashed hcalled =>
      obtain ⟨hhandled, hlives, -⟩ := hcalled.handled (h.core.base _ _ hget)
        (h.lively hcrashed _ _ hget)
      exact h.put hget hhandled hlives
  | died outcomes _ hprocess halive hchanged hget hcrashed =>
      exact h.died hprocess halive hchanged hget hcrashed _ _ outcomes
  | orphaned _ hprocess halive _ _ =>
      exact (h.core.modifyAlive hprocess halive _ _).crash
  | expired outcomes _ hget harmed hcrashed => exact h.expired hcrashed hget harmed outcomes
  | noted hunnoticed p => exact h.modifyProgram hunnoticed p
  | adjusted hadjusted => exact h.adjusted hadjusted
  | observed hobservation hobservers => exact h.observed hobservation hobservers
  | connected brickdConnected _ => exact h.connected brickdConnected
  | created hfree _ hscheduler => exact h.alloc hfree hscheduler
  | destroyed _ hget hdestroyed => exact h.remove hget hdestroyed

abbrev World.DoesAll (event : World.Event) : World → World → Prop :=
  Relation.ReflTransGen (World.Does event)

theorem World.DoesAll.inv (hdoes : World.DoesAll event w w') (h : w.Inv) : w'.Inv := by
  induction hdoes with
  | refl => exact h
  | tail _ hdoes ih => exact hdoes.inv ih

end Invariant

section Step

theorem World.run_does {program : Program} (hget : w.programs.get p = some program)
    (hcrashed : w.daemon.crashed = false) {f : Context → Context}
    (hcalled : ∀ c : Context, c.daemon = w.daemon → Called event p c (f c)) (outcomes : Outcomes) :
    World.DoesAll event w (w.run p f outcomes).1 := by
  rw [World.run_eq hget]
  exact .single (.called hget hcrashed (hcalled (w.context program outcomes) rfl))

-- All programs of a list that are called are there until the end, and what holds of the later
-- ones is not changed by the earlier ones.
theorem World.runAll_does {f : ProgramRef → Context → Context} {Q : World → ProgramRef → Prop}
    (hcalled : ∀ (w : World) p program outcomes, w.Inv → w.programs.get p = some program → Q w p →
      Called event p (w.context program outcomes) (f p (w.context program outcomes)))
    (hkept : ∀ (w w' : World) p program q, w.Serves p program w' → q ≠ p → Q w q → Q w' q)
    (h : w.Inv) {ps : List ProgramRef} (hnodup : ps.Nodup)
    (hps : ∀ p ∈ ps, (∃ program, w.programs.get p = some program) ∧ Q w p) (outcomes : Outcomes) :
    World.DoesAll event w (World.runAll f ps outcomes w) := by
  induction ps generalizing w outcomes with
  | nil => exact .refl
  | cons p ps ih =>
      unfold World.runAll
      by_cases hcrashed : w.daemon.crashed = true
      · rw [if_pos hcrashed]
      rw [if_neg hcrashed]
      have hrunning : w.daemon.crashed = false := by simpa using hcrashed
      obtain ⟨⟨program, hget⟩, hp⟩ := hps p List.mem_cons_self
      have hcall := hcalled w p program outcomes h hget hp
      have hserves := h.called_serves hget hrunning hcall
      have hdoes : World.Does event w (w.put p (f p (w.context program outcomes))) :=
        .called hget hrunning hcall
      rw [World.run_eq hget]
      obtain ⟨hnew, hnodup⟩ := List.nodup_cons.mp hnodup
      refine (Relation.ReflTransGen.single hdoes).trans (ih (hdoes.inv h) hnodup (fun q hq => ?_) _)
      obtain ⟨hlive, hrest⟩ := hps q (List.mem_cons_of_mem _ hq)
      exact ⟨hserves.live (Or.inr hlive),
        hkept _ _ _ _ _ hserves (fun heq => hnew (heq ▸ hq)) hrest⟩

theorem World.createProgram_does {id : ObjectID} (hfree : w.IsFreeId id)
    (hcrashed : w.daemon.crashed = false) {config : ProgramSettings}
    (horigin : Originates event config) (identifier rootDirectory : CString)
    (externalReferenceCount : Nat) (outcomes : Outcomes) :
    World.DoesAll event w
      (w.createProgram id identifier rootDirectory config externalReferenceCount outcomes) := by
  have hupdated : ∀ program : Program, program.id = id → program.config = config →
      program.scheduler = programSchedulerCreate program.config w.daemon →
      World.DoesAll event w ((w.alloc program).run w.programs.next
        (programSchedulerUpdate w.programs.next true) outcomes).1 := by
    rintro program rfl rfl hscheduler
    have hget : (w.alloc program).programs.get w.programs.next = some program :=
      Heap.get_alloc_next _ _
    rw [World.run_eq hget]
    exact (Relation.ReflTransGen.single (.created hfree horigin hscheduler)).tail
      (.called hget hcrashed (.create hscheduler))
  exact hupdated _ rfl rfl rfl

theorem World.modifyProgram_does {f : Program → Program} (hf : Unnoticed f) (p : ProgramRef) :
    World.DoesAll event w (w.modifyProgram p f) :=
  .single (.noted hf p)

theorem World.destroyUnreferenced_does (h : w.Core) (hreleases : event.Releases p)
    (outcomes : Outcomes) : World.DoesAll event w (w.destroyUnreferenced p outcomes) := by
  rcases World.destroyUnreferenced_cases h p outcomes with
    hsame | ⟨program, hget, -, -, hremoved, hdestroyed⟩
  · rw [hsame]
  · rw [hremoved]
    exact .single (.destroyed hreleases hget hdestroyed)

-- Changes of counts are not noticed.
theorem World.Inv.release_does (h : w.Inv) {f : Program → Program} (hf : Unnoticed f)
    (hreleases : event.Releases p) (outcomes : Outcomes) :
    World.DoesAll event w ((w.modifyProgram p f).destroyUnreferenced p outcomes) :=
  (World.modifyProgram_does hf p).trans
    (World.destroyUnreferenced_does (h.modifyProgram hf p).core hreleases outcomes)

theorem World.Inv.removeProgramInternalReference_does (h : w.Inv) (hreleases : event.Releases p)
    (outcomes : Outcomes) :
    World.DoesAll event w (w.removeProgramInternalReference p outcomes) := by
  unfold World.removeProgramInternalReference
  split_ifs
  · exact .refl
  · refine h.release_does ?_ hreleases outcomes
    exact ⟨fun _ => rfl, fun _ => rfl, fun _ => ⟨_, rfl⟩, fun _ => rfl⟩

theorem World.programPurge_eq {program : Program} (hget : w.programs.get p = some program)
    (cookie : UInt32) (renames : List RenameResult) (outcomes : Outcomes) :
    w.programPurge outcomes p cookie renames =
      if (Scheduling.programPurge p cookie renames (w.context program outcomes)).1 = .success then
        (w.put p (Scheduling.programPurge p cookie renames (w.context program outcomes)).2)
          |>.removeProgramInternalReference p
            (Scheduling.programPurge p cookie renames (w.context program outcomes)).2.outcomes
      else w.put p (Scheduling.programPurge p cookie renames (w.context program outcomes)).2 := by
  unfold World.programPurge
  rw [hget]
  rfl

theorem World.Inv.programPurge_does (h : w.Inv) (hcrashed : w.daemon.crashed = false)
    {cookie : UInt32} {renames : List RenameResult} {outcomes : Outcomes}
    (hevent : event = .request (.programPurge p cookie renames)) :
    World.DoesAll event w (w.programPurge outcomes p cookie renames) := by
  cases hget : w.programs.get p with
  | none =>
      unfold World.programPurge
      rw [hget]
  | some program =>
      have hpurge : World.Does event w
          (w.put p (Scheduling.programPurge p cookie renames (w.context program outcomes)).2) :=
        .called hget hcrashed (.purge hevent)
      rw [World.programPurge_eq hget]
      split_ifs
      · exact (Relation.ReflTransGen.single hpurge).trans
          ((hpurge.inv h).removeProgramInternalReference_does (.purge hevent) _)
      · exact .single hpurge

theorem World.setter_does (hcrashed : w.daemon.crashed = false)
    (hconnected : w.daemon.brickdConnected = true) {request : World.Request}
    (hevent : event = .request request) {f : Context → APIE × Context}
    (hf : ∀ c, SetterCases request p c (f c)) (hsome : (w.programs.get p).isSome = true)
    (outcomes : Outcomes) : World.DoesAll event w (w.run p (fun c => (f c).2) outcomes).1 := by
  obtain ⟨program, hget⟩ := Option.isSome_iff_exists.mp hsome
  refine World.run_does hget hcrashed (fun c hdaemon => ?_) outcomes
  exact .setter hevent (by rw [hdaemon]; exact hconnected) (hf c)

theorem World.Inv.handleRequest_does (h : w.Inv) (hcrashed : w.daemon.crashed = false)
    (hconnected : w.daemon.brickdConnected = true) {outcomes : Outcomes} {request : World.Request}
    (hstep : w.handleRequest outcomes request = some w') :
    World.DoesAll (.request request) w w' := by
  cases request with
  | programDefine programsDirectory identifier id creation =>
      obtain ⟨hfree, ⟨⟩⟩ := Option.ite_none_right_eq_some.mp hstep
      unfold World.programDefine
      split_ifs
      · exact World.createProgram_does hfree hcrashed (.define rfl) _ _ _ _
      · exact .refl
  | programPurge p cookie renames =>
      obtain ⟨-, ⟨⟩⟩ := Option.ite_none_right_eq_some.mp hstep
      exact h.programPurge_does hcrashed rfl
  | programSetCommand p command =>
      obtain ⟨hsome, ⟨⟩⟩ := Option.ite_none_right_eq_some.mp hstep
      exact World.setter_does hcrashed hconnected rfl (fun _ => programSetCommand_cases command)
        hsome outcomes
  | programSetStdioRedirection p redirections =>
      obtain ⟨hsome, ⟨⟩⟩ := Option.ite_none_right_eq_some.mp hstep
      exact World.setter_does hcrashed hconnected rfl
        (fun _ => programSetStdioRedirection_cases redirections) hsome outcomes
  | programSetSchedule p schedule =>
      obtain ⟨hsome, ⟨⟩⟩ := Option.ite_none_right_eq_some.mp hstep
      exact World.setter_does hcrashed hconnected rfl (fun _ => programSetSchedule_cases schedule)
        hsome outcomes
  | programSetCustomOptions p customOptions =>
      cases hstep
      refine World.modifyProgram_does ?_ p
      exact ⟨fun _ => rfl, fun _ => rfl, fun _ => ⟨_, rfl⟩, fun _ => rfl⟩
  | programContinueSchedule p =>
      obtain ⟨hsome, ⟨⟩⟩ := Option.ite_none_right_eq_some.mp hstep
      obtain ⟨program, hget⟩ := Option.isSome_iff_exists.mp hsome
      exact World.run_does hget hcrashed (fun _ _ => .continueSchedule rfl) outcomes
  | programStart p =>
      obtain ⟨hsome, ⟨⟩⟩ := Option.ite_none_right_eq_some.mp hstep
      obtain ⟨program, hget⟩ := Option.isSome_iff_exists.mp hsome
      exact World.run_does hget hcrashed (fun _ _ => .start rfl) outcomes
  | programGetLastSpawnedProcess p =>
      unfold World.handleRequest at hstep
      dsimp only at hstep
      cases hget : w.programs.get p with
      | none =>
          rw [hget] at hstep
          cases hstep
      | some program =>
          rw [hget] at hstep
          dsimp only at hstep
          split_ifs at hstep
          · cases hstep
            exact .refl
          · cases hlast : program.scheduler.lastSpawnedProcess with
            | none =>
                rw [hlast] at hstep
                cases hstep
                exact .refl
            | some q =>
                rw [hlast] at hstep
                cases hstep
                refine .single (.adjusted (World.modifyProcess_adjusted (fun process => ?_) fun _ => rfl))
                exact ⟨rfl, rfl, rfl, rfl⟩
  | addProgramReference p =>
      cases hstep
      refine World.modifyProgram_does ?_ p
      exact ⟨fun _ => rfl, fun _ => rfl, fun _ => ⟨_, rfl⟩, fun _ => rfl⟩
  | listProgram p =>
      cases hstep
      refine World.modifyProgram_does ?_ p
      exact ⟨fun _ => rfl, fun _ => rfl, fun _ => ⟨_, rfl⟩, fun _ => rfl⟩
  | addProcessReference q =>
      cases hstep
      refine .single (.adjusted (World.modifyProcess_adjusted (fun process => ?_) fun _ => rfl))
      exact ⟨rfl, rfl, rfl, rfl⟩
  | listProcess q =>
      cases hstep
      refine .single (.adjusted (World.modifyProcess_adjusted (fun process => ?_) fun _ => rfl))
      refine ⟨rfl, rfl, rfl, ?_⟩
      change process.internalReferenceCount + 1 + process.listed =
        process.internalReferenceCount + (process.listed + 1)
      omega
  | processSpawn =>
      cases hstep
      exact .single (.adjusted World.spawnClient_adjusted)

theorem World.Inv.stateChange_does (h : w.Inv) (hcrashed : w.daemon.crashed = false)
    {q : ProcessRef} {found : Process} (hget : w.daemon.processes.get q = some found)
    (halive : found.state.isAlive = true) (state : ProcessState) (exitCode : UInt8)
    (outcomes : Outcomes) :
    World.DoesAll (.processStateChange q state exitCode) w
      (w.processHandleStateChange outcomes q found state exitCode) := by
  have hget' : (w.modifyProcess q fun process =>
      { process with state, exitCode }).daemon.processes.get q =
      some { found with state, exitCode } := by
    change (w.daemon.processes.modify q _).get q = _
    rw [Heap.get_modify_self, hget]
    rfl
  unfold World.processHandleStateChange
  cases hchanged : found.stateChanged with
  | none =>
      have hchange := World.modifyClient_adjusted hget hchanged (f := fun process =>
        { process with state, exitCode }) hchanged
      dsimp only
      generalize (w.modifyProcess q fun process =>
        { process with state, exitCode }) = w₁ at hchange hget'
      split_ifs
      · have hrelease := World.modifyClient_adjusted hget' hchanged (f := fun process =>
          { process with releaseOnDeath := false }) hchanged
        have hfound : (w₁.modifyProcess q fun process =>
            { process with releaseOnDeath := false }).daemon.processes.get q =
            some { found with state, exitCode, releaseOnDeath := false } := by
          change (w₁.daemon.processes.modify q _).get q = _
          rw [Heap.get_modify_self, hget']
          rfl
        exact ((Relation.ReflTransGen.single (.adjusted hchange)).tail (.adjusted hrelease)).tail
          (.adjusted (World.releaseClient_adjusted hfound hchanged))
      · exact .single (.adjusted hchange)
  | some p =>
      have hrelease : found.releaseOnDeath = false :=
        (h.core.process q found p hget hchanged).2.1
      dsimp only
      rw [hrelease, if_neg fun hboth => by cases hboth.1]
      cases hprogram : w.programs.get p with
      | none =>
          have hrun : (w.modifyProcess q fun process => { process with state, exitCode }).run p
              (programSchedulerHandleProcessStateChange p) outcomes =
              ((w.modifyProcess q fun process => { process with state, exitCode }).crash,
                outcomes) := by
            unfold World.run
            have hnone : (w.modifyProcess q fun process =>
              { process with state, exitCode }).programs.get p = none := hprogram
            rw [hnone]
          rw [hrun]
          exact .single (.orphaned rfl hget halive hchanged hprogram)
      | some program =>
          have hprogram' : (w.modifyProcess q fun process =>
              { process with state, exitCode }).programs.get p = some program := hprogram
          rw [World.run_eq hprogram']
          exact .single (.died outcomes rfl hget halive hchanged hprogram hcrashed)

-- A program has one observer at most.
theorem World.Core.observers_nodup (h : w.Core) : w.daemon.observers.Nodup := by
  refine List.nodup_iff_count_le_one.mpr fun p => ?_
  by_cases hmem : p ∈ w.daemon.observers
  · obtain ⟨program, hget⟩ := h.observers p hmem
    rw [(h.base p program hget).observers]
    split_ifs
    · exact le_rfl
    · exact Nat.zero_le _
  · rw [List.count_eq_zero_of_not_mem hmem]
    exact Nat.zero_le _

theorem World.Inv.updateObservation_does (h : w.Inv) {observation : ProcessObservation}
    (hobservation : w.daemon.observation = some observation) (outcomes : Outcomes) :
    World.DoesAll .observationTimer w
      (w.processMonitorUpdateObservation outcomes observation) := by
  unfold World.processMonitorUpdateObservation
  dsimp only
  generalize (if outcomes.searches.headD .notFound = .found then 0
    else observation.remainingTimeout - World.SEARCH_INTERVAL) = remainingTimeout
  by_cases hzero : remainingTimeout = 0
  · rw [if_pos hzero]
    have hobserved : World.Does .observationTimer w { w with daemon := { w.daemon with
        observation := some { observation with remainingTimeout := 0, waiting := false } } } :=
      .observed hobservation rfl
    have h₁ := hobserved.inv h
    have hobservers : observation.observers = w.daemon.observers := by
      unfold Daemon.observers
      rw [hobservation]
      rfl
    refine (Relation.ReflTransGen.single hobserved).trans
      (World.runAll_does (Q := fun w p => w.daemon.observers.count p ≠ 0) ?_ ?_ h₁ ?_ ?_ _)
    · intro w p program outcomes h hget hcount
      have hwaiting := (h.core.base p program hget).observers
      split_ifs at hwaiting with hstate
      · exact .observer rfl hstate
      · exact absurd hwaiting hcount
    · intro w w' p program q hserves hq hcount
      rw [hserves.frame.observers q hq]
      exact hcount
    · rw [List.nodup_reverse, hobservers]
      exact h.core.observers_nodup
    · intro p hp
      have hmem := List.mem_reverse.mp hp
      exact ⟨h.core.observers p (hobservers ▸ hmem), (List.count_pos_iff.mpr hmem).ne'⟩
  · rw [if_neg hzero]
    exact .single (.observed hobservation rfl)

-- What a round of the event loop does, one function after the other.
theorem World.Inv.step_does (h : w.Inv) (hcrashed : w.daemon.crashed = false)
    {outcomes : Outcomes} (hstep : w.step outcomes event = some w') :
    World.DoesAll event w w' := by
  cases event with
  | programLoad identifier rootDirectory file id creation =>
      obtain ⟨hfree, ⟨⟩⟩ := Option.ite_none_right_eq_some.mp hstep
      unfold World.programLoad
      split_ifs
      · exact World.createProgram_does hfree hcrashed (.load rfl) _ _ _ _
      · exact .refl
  | request request =>
      obtain ⟨hconnected, hrequest⟩ := Option.ite_none_right_eq_some.mp hstep
      exact h.handleRequest_does hcrashed hconnected hrequest
  | releaseProgram p =>
      obtain ⟨-, ⟨⟩⟩ := Option.ite_none_right_eq_some.mp hstep
      refine h.release_does ?_ (.release rfl) outcomes
      exact ⟨fun _ => rfl, fun _ => rfl, fun _ => ⟨_, rfl⟩, fun _ => rfl⟩
  | unlistProgram p =>
      obtain ⟨-, ⟨⟩⟩ := Option.ite_none_right_eq_some.mp hstep
      have hunnoticed : Unnoticed fun program =>
          { program with listed := program.listed - 1 } :=
        ⟨fun _ => rfl, fun _ => rfl, fun _ => ⟨_, rfl⟩, fun _ => rfl⟩
      exact (World.modifyProgram_does hunnoticed p).trans
        ((h.modifyProgram hunnoticed p).removeProgramInternalReference_does (.unlist rfl) outcomes)
  | releaseProcess q =>
      obtain ⟨-, ⟨⟩⟩ := Option.ite_none_right_eq_some.mp hstep
      exact .single (.adjusted (World.removeProcessExternalReference_adjusted q))
  | unlistProcess q =>
      obtain ⟨hlisted, ⟨⟩⟩ := Option.ite_none_right_eq_some.mp hstep
      obtain ⟨found, hget, hpositive⟩ := (Option.any_eq_true _ _).mp hlisted
      exact .single (.adjusted (World.unlistProcess_adjusted h.core hget
        (of_decide_eq_true hpositive)))
  | processStateChange q state exitCode =>
      cases hget : w.daemon.processes.get q with
      | none =>
          simp only [World.step, hget] at hstep
          cases hstep
      | some found =>
          simp only [World.step, hget] at hstep
          obtain ⟨halive, ⟨⟩⟩ := Option.ite_none_right_eq_some.mp hstep
          exact h.stateChange_does hcrashed hget halive state exitCode outcomes
  | timer p =>
      cases hget : w.programs.get p with
      | none =>
          simp only [World.step, hget] at hstep
          cases hstep
      | some program =>
          simp only [World.step, hget] at hstep
          obtain ⟨arming, harming, rfl⟩ := Option.map_eq_some_iff.mp hstep
          have hget' : (w.put p (w.context (program.expired arming) outcomes)).programs.get p =
              some (program.expired arming) := (World.get_put hget _ p).trans (if_pos rfl)
          rw [World.handleTimer_eq hget, World.run_eq hget']
          exact .single (.expired outcomes rfl hget harming hcrashed)
  | cronNotification cookieMatches programId =>
      unfold World.step at hstep
      dsimp only at hstep
      split_ifs at hstep with hmatches
      · cases hstep
        unfold World.cronHandleNotification
        cases hfind : w.daemon.entries.find? fun entry => entry.programId = programId with
        | none => exact .refl
        | some entry =>
            obtain ⟨program, hget⟩ := h.core.entries entry (List.mem_of_find?_eq_some hfind)
            exact World.run_does hget hcrashed (fun _ _ => .cron (by rw [hmatches])) outcomes
      · cases hstep
        exact .refl
  | observationTimer =>
      cases hobservation : w.daemon.observation with
      | none =>
          simp only [World.step, hobservation] at hstep
          cases hstep
      | some observation =>
          simp only [World.step, hobservation] at hstep
          obtain ⟨-, ⟨⟩⟩ := Option.ite_none_right_eq_some.mp hstep
          exact h.updateObservation_does hobservation outcomes
  | brickdAccept =>
      unfold World.step at hstep
      dsimp only at hstep
      split_ifs at hstep
      cases hstep
      exact (Relation.ReflTransGen.single (.connected true rfl)).trans
        (World.runAll_does (Q := fun _ _ => True) (fun _ _ _ _ _ _ _ => .brickd rfl)
          (fun _ _ _ _ _ _ _ _ => trivial) (h.connected true)
          (List.nodup_range.filter _)
          (fun q hq => ⟨World.get_of_mem_programRefs hq, trivial⟩) outcomes)
  | brickdDisconnect =>
      cases hstep
      exact .single (.connected false rfl)

theorem World.next_step {event : World.Event × Outcomes} (hnext : w.next event = some w') :
    w.daemon.crashed = false ∧ w.step event.2 event.1 = some w' := by
  unfold World.next at hnext
  split_ifs at hnext with hcrashed
  exact ⟨by simpa using hcrashed, hnext⟩

theorem World.Inv.next_does (h : w.Inv) {event : World.Event × Outcomes}
    (hnext : w.next event = some w') : World.DoesAll event.1 w w' := by
  obtain ⟨hcrashed, hstep⟩ := World.next_step hnext
  exact h.step_does hcrashed hstep

theorem World.Inv.next (h : w.Inv) {event : World.Event × Outcomes}
    (hnext : w.next event = some w') : w'.Inv :=
  (h.next_does hnext).inv h

theorem World.init_inv (x11Enabled : Bool) : (World.init x11Enabled).Inv := by
  have hprograms : ∀ p program, (World.init x11Enabled).programs.get p ≠ some program := by
    intro p program hget
    have hnone : (World.init x11Enabled).programs.get p = none := Heap.get_empty p
    rw [hnone] at hget
    cases hget
  have hprocesses : ∀ q process,
      (World.init x11Enabled).daemon.processes.get q ≠ some process := by
    intro q process hget
    have hnone : (World.init x11Enabled).daemon.processes.get q = none := Heap.get_empty q
    rw [hnone] at hget
    cases hget
  exact
    { core :=
        { base := fun p program hget => absurd hget (hprograms p program)
          ids := fun p _ program _ hget => absurd hget (hprograms p program)
          entries := fun _ hentry => absurd hentry List.not_mem_nil
          observers := fun _ hobserver => absurd hobserver List.not_mem_nil
          process := fun q process _ hget => absurd hget (hprocesses q process)
          alive := fun q _ process _ _ hget => absurd hget (hprocesses q process)
          sound := fun _ heffect => absurd heffect List.not_mem_nil
          logged := fun _ heffect => absurd heffect List.not_mem_nil }
      lively := fun _ p program hget => absurd hget (hprograms p program) }

theorem World.inv_of_run {x11Enabled : Bool} {events : List (World.Event × Outcomes)}
    (h : Trace.run World.next (World.init x11Enabled) events = some w) : w.Inv :=
  Trace.of_run (fun _ _ _ hs hnext => hs.next hnext) (World.init_inv x11Enabled) h

theorem World.always_inv (x11Enabled : Bool) (events : List (World.Event × Outcomes)) :
    Trace.Always World.next World.Inv (World.init x11Enabled) events :=
  Trace.always_of_step (fun _ _ _ hs hnext => hs.next hnext) (fun _ hs => hs)
    (World.init_inv x11Enabled) events

end Step

section Greeter

-- The config file of a program that only has a schedule.
def greeterFile (startMode startInterval : CString) : ConfFile where
  entries := [(ascii "start_mode", startMode), (ascii "start_interval", startInterval)]
  distinct := by
    change [fold (ascii "start_mode"), fold (ascii "start_interval")].Nodup
    decide

-- The same of a program that is started again whenever it ends.
def keeperFile : ConfFile where
  entries := [(ascii "executable", ascii "keeper"), (ascii "start_mode", ascii "always")]
  distinct := by
    change [fold (ascii "executable"), fold (ascii "start_mode")].Nodup
    decide

def loadGreeter (file : ConfFile) : World.Event × Outcomes :=
  (.programLoad (ascii "greeter") (ascii "/programs/greeter") file 1 none, .succeed)

end Greeter

end RedApid.Scheduling

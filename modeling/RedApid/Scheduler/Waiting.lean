import RedApid.Scheduler.Evolution

namespace RedApid.Scheduling

open Memory

variable {w w' : World} {p : ProgramRef} {c c' : Context} {event : World.Event}

section Telling

-- The observer was called, and the scheduler has started.
def Told (p : ProgramRef) (log : List Effect) : Prop :=
  .observer p ∈ log ∧ .stateChanged p .running ∈ log

-- A scheduler that stays stopped, or is started by its observer.
def StaysOrTold (p : ProgramRef) (c c' : Context) : Prop :=
  (c'.program.scheduler.state = .stopped ∧ starts c'.log = starts c.log) ∨ Told p c'.log

theorem Told.mem {log log' : List Effect} (h : Told p log)
    (hlog : ∀ effect ∈ log, effect ∈ log') : Told p log' :=
  ⟨hlog _ h.1, hlog _ h.2⟩

theorem informObserver_told (h : c.Good p) (hwaiting : c.program.scheduler.observerState = .waiting) :
    Told p (informObserver p c).log := by
  have hrecord : Moves p c (c.record (.observer p)) :=
    record_moves h (Effect.allowed_of_some rfl trivial)
  have habort := abortObserver_moves hrecord.good
  obtain ⟨hstopped, hshutdown⟩ := h.pending (by rw [hwaiting]; nofun)
  have hwaits : (c.record (.observer p)).program.scheduler.observerState = .waiting := hwaiting
  unfold informObserver programSchedulerHandleObserver
  rw [if_pos hwaits]
  refine ⟨(start_moves habort.good).1.logs.mem (habort.logs.mem List.mem_cons_self), ?_⟩
  refine start_tells habort.good ?_ ?_
  · exact habort.shutdown.trans hshutdown
  · exact hstopped

theorem observeLxpanel_told (h : c.Good p) (hstopped : c.program.scheduler.state = .stopped) :
    StaysOrTold p c (observeLxpanel p c) := by
  unfold observeLxpanel
  by_cases hpending : c.program.scheduler.observerState = .pending
  · rw [if_pos hpending]
    have hcases := addObserver_cases (p := p) 30
      (c := c.setScheduler { c.program.scheduler with observerState := .waiting })
    dsimp only
    generalize processMonitorAddObserver p 30
      (c.setScheduler { c.program.scheduler with observerState := .waiting }) = result at hcases
    cases hcases with
    | @failed c₁ hquiet =>
        refine Or.inl ⟨?_, congrArg starts hquiet.2.2⟩
        change c₁.program.scheduler.state = .stopped
        rw [hquiet.1]
        exact hstopped
    | @added c₁ observation hquiet _ =>
        refine Or.inl ⟨?_, congrArg starts hquiet.2.2⟩
        change c₁.program.scheduler.state = .stopped
        rw [hquiet.1]
        exact hstopped
    | @informed c₁ observation hquiet hobservers =>
        have hmoves := setObservation_moves h hpending hquiet.1 hquiet.2.1 hquiet.2.2 _ hobservers
        refine Or.inr (informObserver_told hmoves.good ?_)
        change c₁.program.scheduler.observerState = .waiting
        rw [hquiet.1]
        rfl
  · rw [if_neg hpending]
    exact Or.inl ⟨hstopped, rfl⟩

theorem tryStart_told (h : c.Good p) (hstopped : c.program.scheduler.state = .stopped)
    (hwaiting : c.program.scheduler.waitingForBrickd = true)
    (hdisconnected : c.daemon.brickdConnected = false) :
    StaysOrTold p c (programSchedulerTryStart p c) := by
  unfold programSchedulerTryStart
  by_cases hnever : c.program.config.startMode = .never
  · rw [if_pos hnever]
    exact Or.inl ⟨stop_state _, stop_starts _⟩
  rw [if_neg hnever]
  have hmoves := (observeLxpanel_moves h (Live.of_stopped hstopped)).1
  have htold := observeLxpanel_told h hstopped
  have hwaits : (observeLxpanel p c).program.scheduler.waitingForBrickd = true := by
    rcases hmoves.brickd with hsame | ⟨hconnected, -⟩
    · rw [hsame]
      exact hwaiting
    · rw [hdisconnected] at hconnected
      cases hconnected
  dsimp only
  rw [if_neg (fun hboth => hboth.2 hwaits : ¬((observeLxpanel p c).program.scheduler.observerState =
    .finished ∧ ¬(observeLxpanel p c).program.scheduler.waitingForBrickd = true))]
  split_ifs
  · exact htold
  · exact htold

theorem update_told (h : c.Good p) (hstopped : c.program.scheduler.state = .stopped)
    (hwaiting : c.program.scheduler.waitingForBrickd = true)
    (hdisconnected : c.daemon.brickdConnected = false) :
    StaysOrTold p c (programSchedulerUpdate p true c) := by
  have hcheck : checkBrickd c = c := by
    refine if_neg fun hboth => ?_
    rw [hdisconnected] at hboth
    cases hboth.2
  have htry : ∀ c₁, Moves p c c₁ → c₁.program.scheduler.state = .stopped →
      starts c₁.log = starts c.log → StaysOrTold p c (programSchedulerTryStart p c₁) := by
    intro c₁ hmoves hstopped₁ hstarts
    have hwaiting₁ : c₁.program.scheduler.waitingForBrickd = true := by
      rcases hmoves.brickd with hsame | ⟨hconnected, -⟩
      · rw [hsame]
        exact hwaiting
      · rw [hdisconnected] at hconnected
        cases hconnected
    have htold := tryStart_told hmoves.good hstopped₁ hwaiting₁
      (hmoves.frame.brickd.trans hdisconnected)
    unfold StaysOrTold at htold ⊢
    rw [hstarts] at htold
    exact htold
  unfold programSchedulerUpdate
  rw [hcheck]
  by_cases hshutdown : c.program.scheduler.shutdown = true
  · rw [if_pos hshutdown]
    exact Or.inl ⟨hstopped, rfl⟩
  rw [if_neg hshutdown]
  have hcases := prepareFilesystem_cases h
  generalize programSchedulerPrepareFilesystem p c = result at hcases
  cases hcases with
  | failed code hmoves hstopped₁ hstarts => exact Or.inl ⟨hstopped₁, hstarts⟩
  | missed hmoves hstopped₁ hstarts => exact htry _ hmoves hstopped₁ hstarts
  | @stored c₁ hprogram hdaemon hlog =>
      refine htry _ (storeAbsoluteNames_moves h hprogram hdaemon hlog) ?_ (congrArg starts hlog)
      rw [hprogram]
      exact hstopped

end Telling

section Waits

-- Nothing has started the scheduler yet.
def Silent (p : ProgramRef) (log : List Effect) : Prop :=
  ∀ effect ∈ starts log, effect.program ≠ some p

-- A program that waits for the Brick Daemon is stopped until its observer is called.
def Waits (p : ProgramRef) (program : Program) (log : List Effect) : Prop :=
  program.scheduler.waitingForBrickd = true → program.scheduler.shutdown = false ∧
    ((program.scheduler.state = .stopped ∧ Silent p log) ∨ Told p log)

theorem Silent.bystands {log log' : List Effect} (h : Silent p log) (hnew : Bystands p log log') :
    Silent p log' := by
  obtain ⟨new, rfl, hnew⟩ := hnew
  intro effect heffect
  unfold starts at heffect
  rw [List.filter_append] at heffect
  rcases List.mem_append.mp heffect with hleft | hright
  · exact hnew effect (List.mem_of_mem_filter hleft)
  · exact h effect hright

-- Only requests shut a scheduler down.
theorem Called.moves (hcalled : Called event p c c') (h : c.Good p) (hlive : c.Live)
    (hrequest : ∀ request, event ≠ .request request) : Moves p c c' := by
  cases hcalled with
  | setter hevent _ _ => exact absurd hevent (hrequest _)
  | continueSchedule hevent => exact absurd hevent (hrequest _)
  | start hevent => exact absurd hevent (hrequest _)
  | purge hevent => exact absurd hevent (hrequest _)
  | cron _ => exact (handleCron_moves h hlive).1
  | observer _ _ => exact (informObserver_moves h hlive).1
  | brickd _ =>
      unfold World.handleBrickdConnection
      split_ifs
      · exact (update_moves h true fun _ => hlive).1
      · exact Moves.refl h
  | create _ => exact (update_moves h true fun _ => hlive).1

theorem update_waits (h : c.Good p) (hlive : c.Live) (hstopped : c.program.scheduler.state = .stopped)
    (hwaiting : c.program.scheduler.waitingForBrickd = true)
    (hshutdown : c.program.scheduler.shutdown = false)
    (hwaiting' : (programSchedulerUpdate p true c).program.scheduler.waitingForBrickd = true) :
    StaysOrTold p c (programSchedulerUpdate p true c) := by
  cases hconnected : c.daemon.brickdConnected with
  | false => exact update_told h hstopped hwaiting hconnected
  | true =>
      have hshutdown' := update_announced h true hconnected hwaiting'
      rw [(update_moves h true fun _ => hlive).1.shutdown, hshutdown] at hshutdown'
      cases hshutdown'

theorem Called.waits (hcalled : Called event p c c') (h : c.Good p) (hlive : c.Live)
    (hrequest : ∀ request, event ≠ .request request) (hwaits : Waits p c.program c.log) :
    Waits p c'.program c'.log := by
  have hmoves := hcalled.moves h hlive hrequest
  intro hwaiting'
  have hwaiting := hmoves.waiting hwaiting'
  obtain ⟨hshutdown, hend⟩ := hwaits hwaiting
  refine ⟨hmoves.shutdown.trans hshutdown, ?_⟩
  rcases hend with ⟨hstopped, hsilent⟩ | htold
  · have hstays : StaysOrTold p c c' := by
      cases hcalled with
      | setter hevent _ _ => exact absurd hevent (hrequest _)
      | continueSchedule hevent => exact absurd hevent (hrequest _)
      | start hevent => exact absurd hevent (hrequest _)
      | purge hevent => exact absurd hevent (hrequest _)
      | cron _ =>
          have hidle : programSchedulerHandleCron p c = c := by
            refine if_neg fun hboth => ?_
            rw [hstopped] at hboth
            cases hboth.1
          rw [hidle]
          exact Or.inl ⟨hstopped, rfl⟩
      | observer _ hobserves => exact Or.inr (informObserver_told h hobserves)
      | brickd _ =>
          unfold World.handleBrickdConnection at hwaiting' ⊢
          rw [if_pos hwaiting] at hwaiting' ⊢
          exact update_waits h hlive hstopped hwaiting hshutdown hwaiting'
      | create _ => exact update_waits h hlive hstopped hwaiting hshutdown hwaiting'
    rcases hstays with ⟨hstopped', hstarts⟩ | htold
    · refine Or.inl ⟨hstopped', ?_⟩
      unfold Silent
      rw [hstarts]
      exact hsilent
    · exact Or.inr htold
  · exact Or.inr (htold.mem fun _ => hmoves.logs.mem)

theorem Acts.waits (hacts : Acts event p c c') (h : c.Good p)
    (hrequest : ∀ request, event = .request request → c.program.scheduler.waitingForBrickd = false)
    (hwaits : Waits p c.program c.log) : Waits p c'.program c'.log := by
  cases hacts with
  | called hlive hcalled =>
      by_cases hevent : ∃ request, event = .request request
      · obtain ⟨request, hevent⟩ := hevent
        intro hwaiting'
        have hwaiting := (hcalled.handled h hlive).1.waiting hwaiting'
        rw [hrequest request hevent] at hwaiting
        cases hwaiting
      · exact hcalled.waits h hlive (fun request heq => hevent ⟨request, heq⟩) hwaits
  | triggered htriggered =>
      intro hwaiting'
      have hwaiting : c.program.scheduler.waitingForBrickd = true := by
        rcases htriggered.brickd with hsame | ⟨-, hended⟩
        · rw [← hsame]
          exact hwaiting'
        · rw [hended] at hwaiting'
          cases hwaiting'
      obtain ⟨hshutdown, hend⟩ := hwaits hwaiting
      refine ⟨htriggered.shutdown.trans hshutdown, ?_⟩
      rcases hend with ⟨hstopped, hsilent⟩ | htold
      · obtain ⟨hstopped', hlog⟩ := htriggered.idle hstopped
        exact Or.inl ⟨hstopped', by rw [hlog]; exact hsilent⟩
      · exact Or.inr (htold.mem htriggered.logs)
  | noted hunnoticed =>
      unfold Waits
      rw [hunnoticed.scheduler]
      exact hwaits
  | bystands hprogram hbystands =>
      unfold Waits
      rw [hprogram]
      intro hwaiting
      obtain ⟨hshutdown, hend⟩ := hwaits hwaiting
      refine ⟨hshutdown, ?_⟩
      rcases hend with ⟨hstopped, hsilent⟩ | htold
      · exact Or.inl ⟨hstopped, hsilent.bystands hbystands⟩
      · obtain ⟨new, hnew, -⟩ := hbystands
        exact Or.inr (htold.mem fun _ heffect => hnew ▸ List.mem_append_right _ heffect)

theorem Acts.waiting (hacts : Acts event p c c') (h : c.Good p)
    (hwaiting' : c'.program.scheduler.waitingForBrickd = true) :
    c.program.scheduler.waitingForBrickd = true := by
  cases hacts with
  | called hlive hcalled => exact (hcalled.handled h hlive).1.waiting hwaiting'
  | triggered htriggered =>
      rcases htriggered.brickd with hsame | ⟨-, hended⟩
      · rw [← hsame]
        exact hwaiting'
      · rw [hended] at hwaiting'
        cases hwaiting'
  | noted hunnoticed =>
      rw [← hunnoticed.scheduler]
      exact hwaiting'
  | bystands hprogram _ => exact hprogram ▸ hwaiting'

end Waits

section Announced

-- Every program knows of the Brick Daemon that is connected.
def World.Announced (w : World) : Prop :=
  w.daemon.brickdConnected = true → ∀ p program, w.programs.get p = some program →
    program.scheduler.waitingForBrickd = false

def World.AllWait (w : World) : Prop :=
  ∀ p program, w.programs.get p = some program → Waits p program w.log

theorem World.Does.brickd (hdoes : World.Does event w w') (h : w.Inv) :
    w'.daemon.brickdConnected = w.daemon.brickdConnected ∨
      event = if w'.daemon.brickdConnected then .brickdAccept else .brickdDisconnect := by
  cases hdoes with
  | called hget hcrashed hcalled =>
      exact Or.inl (h.called_serves hget hcrashed hcalled).frame.brickd
  | died outcomes _ hprocess halive hchanged hget hcrashed =>
      exact Or.inl
        (h.died_serves hprocess halive hchanged hget hcrashed _ _ outcomes).frame.brickd
  | orphaned _ _ _ _ _ => exact Or.inl rfl
  | expired outcomes _ hget harmed hcrashed =>
      exact Or.inl (h.expired_serves hcrashed hget harmed outcomes).frame.brickd
  | noted _ _ => exact Or.inl rfl
  | adjusted hadjusted =>
      obtain ⟨processes, files, rfl, -, -⟩ := hadjusted
      exact Or.inl rfl
  | observed _ _ => exact Or.inl rfl
  | connected _ hevent => exact Or.inr hevent
  | created _ _ _ => exact Or.inl rfl
  | destroyed _ _ hdestroyed => exact Or.inl hdestroyed.frame.brickd

theorem World.Does.brickd_eq (hdoes : World.Does event w w') (h : w.Inv)
    (haccept : event ≠ .brickdAccept) (hdisconnect : event ≠ .brickdDisconnect) :
    w'.daemon.brickdConnected = w.daemon.brickdConnected := by
  refine (hdoes.brickd h).resolve_right fun hevent => ?_
  split_ifs at hevent
  · exact haccept hevent
  · exact hdisconnect hevent

theorem World.DoesAll.announced (hdoes : World.DoesAll event w w') (h : w.Inv)
    (haccept : event ≠ .brickdAccept) (hdisconnect : event ≠ .brickdDisconnect)
    (hannounced : w.Announced) :
    w'.daemon.brickdConnected = w.daemon.brickdConnected ∧ w'.Announced := by
  induction hdoes with
  | refl => exact ⟨rfl, hannounced⟩
  | @tail w₁ w₂ hdoesAll hdoes ih =>
      have h₁ := World.DoesAll.inv hdoesAll h
      have hbrickd := hdoes.brickd_eq h₁ haccept hdisconnect
      refine ⟨hbrickd.trans ih.1, fun hconnected p program' hget' => ?_⟩
      rw [hbrickd] at hconnected
      rcases hdoes.acts h₁ hget' with ⟨-, -, -, -, -, hscheduler⟩ |
        ⟨program, outcomes, outcomes', hget, hacts⟩
      · rw [hscheduler]
        change (!w₁.daemon.brickdConnected) = false
        rw [hconnected]
        rfl
      · by_contra hwaiting
        have hwaiting₁ := hacts.waiting (h₁.core.base p program hget) 
          (Bool.eq_true_of_not_eq_false hwaiting)
        have hfalse := ih.2 hconnected p program hget
        change program.scheduler.waitingForBrickd = true at hwaiting₁
        rw [hfalse] at hwaiting₁
        cases hwaiting₁

theorem World.Does.allWait (hdoes : World.Does event w w') (h : w.Inv) (hwait : w.AllWait)
    (hrequest : ∀ request, event = .request request → ∀ p program,
      w.programs.get p = some program → program.scheduler.waitingForBrickd = false) :
    w'.AllWait := by
  intro p program' hget'
  rcases hdoes.acts h hget' with ⟨-, hlog, -, hp, -, hscheduler⟩ |
    ⟨program, outcomes, outcomes', hget, hacts⟩
  · intro _
    rw [hscheduler, hlog]
    refine ⟨rfl, Or.inl ⟨rfl, fun effect heffect heq => ?_⟩⟩
    have hlt := h.core.logged effect (List.mem_of_mem_filter heffect) p heq
    rw [hp] at hlt
    exact lt_irrefl _ hlt
  · exact hacts.waits (h.core.base p program hget)
      (fun request hevent => hrequest request hevent p program hget) (hwait p program hget)

theorem World.DoesAll.allWait (hdoes : World.DoesAll event w w') (h : w.Inv) (hwait : w.AllWait)
    (hrequest : ∀ request, event = .request request →
      w.daemon.brickdConnected = true ∧ w.Announced) : w'.AllWait := by
  induction hdoes with
  | refl => exact hwait
  | @tail w₁ w₂ hdoesAll hdoes ih =>
      refine hdoes.allWait (World.DoesAll.inv hdoesAll h) ih fun request hevent => ?_
      obtain ⟨hconnected, hannounced⟩ := hrequest request hevent
      obtain ⟨hsame, hannounced₁⟩ := World.DoesAll.announced hdoesAll h (by rw [hevent]; nofun)
        (by rw [hevent]; nofun) hannounced
      exact hannounced₁ (hsame.trans hconnected)

-- The programs that are told about the connection stop waiting.
theorem World.runAll_announces {ps : List ProgramRef} (h : w.Inv) (hwait : w.AllWait)
    (hconnected : w.daemon.brickdConnected = true)
    (hps : ∀ p ∈ ps, ∃ program, w.programs.get p = some program) (outcomes : Outcomes)
    (hcrashed' : (World.runAll World.handleBrickdConnection ps outcomes w).daemon.crashed = false)
    {p : ProgramRef} {program' : Program}
    (hget' : (World.runAll World.handleBrickdConnection ps outcomes w).programs.get p =
      some program') (hwaiting' : program'.scheduler.waitingForBrickd = true) :
    p ∉ ps ∧ ∃ program, w.programs.get p = some program ∧
      program.scheduler.waitingForBrickd = true := by
  induction ps generalizing w outcomes with
  | nil => exact ⟨List.not_mem_nil, program', hget', hwaiting'⟩
  | cons q ps ih =>
      unfold World.runAll at hcrashed' hget'
      by_cases hcrashed : w.daemon.crashed = true
      · rw [if_pos hcrashed, hcrashed] at hcrashed'
        cases hcrashed'
      rw [if_neg hcrashed] at hcrashed' hget'
      have hrunning : w.daemon.crashed = false := by simpa using hcrashed
      obtain ⟨other, hother⟩ := hps q List.mem_cons_self
      have hcalled : Called .brickdAccept q (w.context other outcomes)
          (World.handleBrickdConnection q (w.context other outcomes)) := .brickd rfl
      have hdoes : World.Does .brickdAccept w (w.put q _) := .called hother hrunning hcalled
      have hserves := h.called_serves hother hrunning hcalled
      rw [World.run_eq hother] at hcrashed' hget'
      have hwait' := hdoes.allWait h hwait fun request hevent => by cases hevent
      have hrest := ih (hdoes.inv h) hwait'
        (hserves.frame.brickd.trans hconnected)
        (fun r hr => hserves.live (Or.inr (hps r (List.mem_cons_of_mem _ hr)))) _ hcrashed' hget'
      obtain ⟨hp, program, hget, hwaiting⟩ := hrest
      rcases World.get_put_some hother hget with ⟨rfl, rfl⟩ | ⟨hne, hget⟩
      · -- the program that was told first
        have hgood : (w.context other outcomes).Good p := h.core.base p other hother
        have hlive : (w.context other outcomes).Live := h.lively hrunning p other hother
        have hmoves := hcalled.moves hgood hlive fun request hevent => by cases hevent
        have hbefore := hmoves.waiting hwaiting
        have hshutdown := hmoves.shutdown.trans (hwait p other hother hbefore).1
        have heq : World.handleBrickdConnection p (w.context other outcomes) =
            programSchedulerUpdate p true (w.context other outcomes) := if_pos hbefore
        rw [heq] at hwaiting hshutdown
        have hannounced := update_announced (c := w.context other outcomes) hgood true hconnected
          hwaiting
        rw [hshutdown] at hannounced
        cases hannounced
      · refine ⟨fun hmem => ?_, program, hget, hwaiting⟩
        rcases List.mem_cons.mp hmem with heq | hmem
        · exact hne heq
        · exact hp hmem

theorem World.Inv.next_waits (h : w.Inv) (hwait : w.AllWait)
    (hannounced : w.daemon.crashed = false → w.Announced) {event : World.Event × Outcomes}
    (hnext : w.next event = some w') :
    w'.AllWait ∧ (w'.daemon.crashed = false → w'.Announced) := by
  obtain ⟨hcrashed, hstep⟩ := World.next_step hnext
  obtain ⟨event, outcomes⟩ := event
  have hdoes := h.step_does hcrashed hstep
  refine ⟨World.DoesAll.allWait hdoes h hwait fun request hevent => ?_, fun hcrashed' => ?_⟩
  · change event = _ at hevent
    subst hevent
    exact ⟨(Option.ite_none_right_eq_some.mp hstep).1, hannounced hcrashed⟩
  · by_cases haccept : event = .brickdAccept
    · subst haccept
      unfold World.step at hstep
      dsimp only at hstep
      split_ifs at hstep
      cases hstep
      intro _ p program' hget'
      by_contra hwaiting'
      have hannounces := World.runAll_announces (h.connected true) hwait rfl
        (fun q hq => World.get_of_mem_programRefs hq) outcomes hcrashed' hget'
        (Bool.eq_true_of_not_eq_false hwaiting')
      obtain ⟨hp, program, hget, -⟩ := hannounces
      exact hp (World.mem_programRefs hget)
    by_cases hdisconnect : event = .brickdDisconnect
    · subst hdisconnect
      cases hstep
      nofun
    · exact (World.DoesAll.announced hdoes h haccept hdisconnect (hannounced hcrashed)).2

end Announced

section Start

def Effect.begins (p : ProgramRef) : Effect → Bool
  | .processSpawn q _ _ => q = p
  | .stateChanged q .running => q = p
  | _ => false

-- The scheduler is stopped, and has not started before.
def World.NotStarted (w : World) (p : ProgramRef) (program : Program) : Prop :=
  program.scheduler.state = .stopped ∧ ∀ effect ∈ w.log, effect.begins p = false

-- While a program waits for the Brick Daemon only its observer starts it.
def World.WaitsForBrickd (w : World) : Prop :=
  ∀ p program, w.programs.get p = some program → program.scheduler.waitingForBrickd = true →
    (w.NotStarted p program ↔ .observer p ∉ w.log)

def World.NoneAnnounced (w : World) : Prop :=
  ∀ p program, w.programs.get p = some program → program.scheduler.waitingForBrickd = true

theorem Waits.notStarted_iff {program : Program} (h : Waits p program w.log)
    (hwaiting : program.scheduler.waitingForBrickd = true) :
    w.NotStarted p program ↔ .observer p ∉ w.log := by
  rcases (h hwaiting).2 with ⟨hstopped, hsilent⟩ | ⟨hobserver, hrunning⟩
  · refine iff_of_true ⟨hstopped, fun effect heffect => ?_⟩ fun hobserver => ?_
    · by_contra hbegins
      have hfound : effect.starts = true ∧ effect.program = some p := by
        unfold Effect.begins at hbegins
        split at hbegins
        · simpa [Effect.starts, Effect.program] using hbegins
        · simpa [Effect.starts, Effect.program] using hbegins
        · exact absurd rfl hbegins
      exact hsilent effect (List.mem_filter.mpr ⟨heffect, hfound.1⟩) hfound.2
    · exact hsilent _ (List.mem_filter.mpr ⟨hobserver, rfl⟩) rfl
  · refine iff_of_false (fun hboth => ?_) (not_not_intro hobserver)
    have hbegins := hboth.2 _ hrunning
    simp [Effect.begins] at hbegins

theorem Acts.waiting_kept (hacts : Acts event p c c') (h : c.Good p)
    (hdisconnected : c.daemon.brickdConnected = false)
    (hwaiting : c.program.scheduler.waitingForBrickd = true) :
    c'.program.scheduler.waitingForBrickd = true := by
  have hbrickd : c'.program.scheduler.waitingForBrickd = c.program.scheduler.waitingForBrickd ∨
      c.daemon.brickdConnected = true ∧ c'.program.scheduler.waitingForBrickd = false := by
    cases hacts with
    | called hlive hcalled => exact (hcalled.handled h hlive).1.brickd
    | triggered htriggered => exact htriggered.brickd
    | noted hunnoticed => exact Or.inl (by rw [hunnoticed.scheduler])
    | bystands hprogram _ => exact Or.inl (by rw [hprogram])
  rcases hbrickd with hsame | ⟨hconnected, -⟩
  · exact hsame.trans hwaiting
  · rw [hdisconnected] at hconnected
    cases hconnected

theorem World.DoesAll.noneAnnounced (hdoes : World.DoesAll event w w') (h : w.Inv)
    (haccept : event ≠ .brickdAccept)
    (hnone : w.daemon.brickdConnected = false ∧ w.NoneAnnounced) :
    w'.daemon.brickdConnected = false ∧ w'.NoneAnnounced := by
  induction hdoes with
  | refl => exact hnone
  | @tail w₁ w₂ hdoesAll hdoes ih =>
      have h₁ := World.DoesAll.inv hdoesAll h
      refine ⟨?_, fun p program' hget' => ?_⟩
      · rcases hdoes.brickd h₁ with hsame | hevent
        · exact hsame.trans ih.1
        · by_contra hconnected
          rw [if_pos (Bool.eq_true_of_not_eq_false hconnected)] at hevent
          exact haccept hevent
      · rcases hdoes.acts h₁ hget' with ⟨-, -, -, -, -, hscheduler⟩ |
          ⟨program, outcomes, outcomes', hget, hacts⟩
        · rw [hscheduler]
          change (!w₁.daemon.brickdConnected) = true
          rw [ih.1]
          rfl
        · exact hacts.waiting_kept (h₁.core.base p program hget) ih.1 (ih.2 p program hget)

-- Before the first connection all programs wait, and a program that waits is started by its
-- observer only.
theorem waits_for_brickd (x11Enabled : Bool) (events : List (World.Event × Outcomes)) :
    Trace.Always World.next World.WaitsForBrickd (World.init x11Enabled) events ∧
      ((∀ event ∈ events, event.1 ≠ .brickdAccept) →
        Trace.Always World.next World.NoneAnnounced (World.init x11Enabled) events) := by
  have hempty : ∀ p program, (World.init x11Enabled).programs.get p ≠ some program := by
    intro p program hget
    have hnone : (World.init x11Enabled).programs.get p = none := Heap.get_empty p
    rw [hnone] at hget
    cases hget
  constructor
  · refine Trace.always_of_step (I := fun w => w.Inv ∧ w.AllWait ∧
      (w.daemon.crashed = false → w.Announced)) (fun w event w' h hnext => ?_) (fun w h => ?_)
      ⟨World.init_inv x11Enabled, fun p program hget => absurd hget (hempty p program),
        fun _ hconnected => by cases hconnected⟩ events
    · exact ⟨h.1.next hnext, h.1.next_waits h.2.1 h.2.2 hnext⟩
    · exact fun p program hget hwaiting => (h.2.1 p program hget).notStarted_iff hwaiting
  · intro haccept
    have hinv := Trace.always_of_along (I := fun w : World => w.Inv ∧
        w.daemon.brickdConnected = false ∧ w.NoneAnnounced)
      (fun w event w' h hnext hevent => ⟨h.1.next hnext,
        World.DoesAll.noneAnnounced (h.1.next_does hnext) h.1 hevent h.2⟩)
      ⟨World.init_inv x11Enabled, rfl, fun p program hget => absurd hget (hempty p program)⟩
      (Trace.along_of_mem haccept _)
    exact hinv.mono fun w h => h.2.2

-- A program of the X server, which waits for lxpanel.
def panelFile : ConfFile where
  entries := [(ascii "executable", ascii "panel"), (ascii "environment.length", ascii "1"),
    (ascii "environment.item0", ascii "DISPLAY=:0"), (ascii "start_mode", ascii "always")]
  distinct := by
    change [fold (ascii "executable"), fold (ascii "environment.length"),
      fold (ascii "environment.item0"), fold (ascii "start_mode")].Nodup
    decide

-- lxpanel is found when the program is loaded.
theorem panelFile_started :
    ¬Trace.Always World.next (fun w => ∀ p program, w.programs.get p = some program →
        program.scheduler.waitingForBrickd = true → w.NotStarted p program)
      (World.init true)
      [((loadGreeter panelFile).1, { Outcomes.succeed with searches := [.found] })] := by
  intro h
  obtain ⟨w, hrun, program, hget, hwaiting, hrunning⟩ : ∃ w,
      Trace.run World.next (World.init true)
        [((loadGreeter panelFile).1, { Outcomes.succeed with searches := [.found] })] = some w ∧
        ∃ program, w.programs.get 0 = some program ∧
          program.scheduler.waitingForBrickd = true ∧ program.scheduler.state = .running :=
    ⟨_, rfl, _, rfl, rfl, rfl⟩
  have hstopped := (h.of_run hrun 0 program hget hwaiting).1
  rw [hrunning] at hstopped
  cases hstopped

end Start

end RedApid.Scheduling

import RedApid.Scheduler.Evolution

namespace RedApid.Scheduling

open Memory

variable {w w' : World} {p : ProgramRef}

section Intervals

-- The trigger of the start mode of a program.
def TriggerLive (program : Program) (daemon : Daemon) : Prop :=
  program.scheduler.state = .running →
    match program.config.startMode with
    | .never => False
    | .always => program.scheduler.lastSpawnedProcess.any daemon.isAlive = true ∨
        program.scheduler.timer ≠ none
    | .interval => ∃ arming, program.scheduler.timer = some arming ∧ arming.periodic = true
    | .cron => program.scheduler.cronActive = true ∧
        ∃ entry ∈ daemon.entries, entry.programId = program.id

-- A crash ends within a handler.
def World.TriggersLive (w : World) : Prop :=
  w.daemon.crashed = false →
    ∀ p program, w.programs.get p = some program → TriggerLive program w.daemon

def Regular (config : ProgramSettings) : Prop :=
  config.startMode = .interval → config.startInterval ≠ 0

theorem triggerLive_of_regular {program : Program} {daemon : Daemon} {log : List Effect}
    (h : Base p program daemon log) (hlive : Live program daemon)
    (hregular : Regular program.config) : TriggerLive program daemon := by
  intro hrunning
  have htrigger := hlive hrunning
  cases hmode : program.config.startMode with
  | never =>
      rw [hmode] at htrigger
      exact htrigger
  | always =>
      rw [hmode] at htrigger
      refine htrigger.imp_right fun htimer => ?_
      rw [htimer]
      nofun
  | interval =>
      rw [hmode] at htrigger
      dsimp only at htrigger
      rw [if_neg (hregular hmode)] at htrigger
      exact ⟨_, htrigger, rfl⟩
  | cron =>
      rw [hmode] at htrigger
      have hactive : program.scheduler.cronActive = true := htrigger
      refine ⟨hactive, ?_⟩
      have hcount := h.entry
      rw [if_pos hactive] at hcount
      obtain ⟨entry, hentry, hnotify⟩ := List.countP_pos_iff.mp (by rw [hcount]; exact Nat.one_pos)
      exact ⟨entry, hentry, (h.entries entry hentry).1.mpr (of_decide_eq_true hnotify)⟩

-- What a config file says about the interval.
def ReadsInterval (file : ConfFile) : Prop :=
  programConfigGetSymbol file startModeEnumValueNames (ascii "start_mode") .never = .interval →
    (programConfigGetInteger file (ascii "start_interval") 0).toUInt32 ≠ 0

def World.Event.ReadsInterval : World.Event → Prop
  | .programLoad _ _ file _ _ => Scheduling.ReadsInterval file
  | _ => True

theorem programConfigLoad_regular {file : ConfFile} (h : ReadsInterval file) :
    Regular (programConfigLoad file) := by
  intro hmode
  refine h ?_
  change (loadStartMode file).1 = .interval at hmode
  unfold loadStartMode at hmode
  dsimp only at hmode
  generalize programConfigGetSymbol file startModeEnumValueNames (ascii "start_mode") .never =
    startMode at hmode ⊢
  cases startMode with
  | cron =>
      rw [if_pos rfl] at hmode
      split_ifs at hmode
  | never => exact hmode
  | always => exact hmode
  | interval => rfl

theorem Edits.regular {old new : ProgramSettings} {request : World.Request}
    (hedits : Edits old request new) (h : Regular old) : Regular new := by
  cases hedits with
  | command _ _ _ _ => exact h
  | redirection _ _ _ _ => exact h
  | schedule _ _ _ hinterval => exact fun _ => hinterval

theorem World.DoesAll.regular {event : World.Event} (hdoes : World.DoesAll event w w')
    (hevent : event.ReadsInterval) (h : w.Inv)
    (hregular : ∀ p program, w.programs.get p = some program → Regular program.config) :
    ∀ p program, w'.programs.get p = some program → Regular program.config := by
  refine World.DoesAll.each (J := fun _ _ program => Regular program.config) ?_ ?_ hdoes h hregular
  · intro w w' q program _ _ _ _ horigin _
    generalize program.config = config at horigin
    cases horigin with
    | load hload =>
        rw [hload] at hevent
        exact programConfigLoad_regular hevent
    | define _ => nofun
  · intro w w' q program program' _ _ h _ hget hacts hregular
    rcases hacts.config (h.core.base q program hget) with (hsame | ⟨request, -, hedits⟩) |
      ⟨customOptions, hcustom⟩
    · change program'.config = program.config at hsame
      rw [hsame]
      exact hregular
    · exact hedits.regular hregular
    · change program'.config = _ at hcustom
      rw [hcustom]
      exact hregular

-- As long as no config file sets an interval of zero, no running scheduler is without a trigger.
theorem triggersLive_of_intervals (x11Enabled : Bool)
    (events : List (World.Event × Outcomes)) (h : ∀ event ∈ events, event.1.ReadsInterval) :
    Trace.Always World.next World.TriggersLive (World.init x11Enabled) events := by
  have hnone : ∀ p program, (World.init x11Enabled).programs.get p ≠ some program := by
    intro p program hget
    have hempty : (World.init x11Enabled).programs.get p = none := Heap.get_empty p
    rw [hempty] at hget
    cases hget
  have hinv := Trace.always_of_along (I := fun w : World => w.Inv ∧
      ∀ p program, w.programs.get p = some program → Regular program.config)
    (fun w event w' hw hnext hevent =>
      ⟨hw.1.next hnext, World.DoesAll.regular (hw.1.next_does hnext) hevent hw.1 hw.2⟩)
    ⟨World.init_inv x11Enabled, fun p program hget => absurd hget (hnone p program)⟩
    (Trace.along_of_mem h _)
  refine hinv.mono fun w hw hcrashed p program hget => ?_
  exact triggerLive_of_regular (hw.1.core.base p program hget) (hw.1.lively hcrashed p program hget)
    (hw.2 p program hget)

-- The greeter is loaded, and the Brick Daemon connects.
def greeterEvents (startInterval : CString) : List (World.Event × Outcomes) :=
  [loadGreeter (greeterFile (ascii "interval") startInterval), (.brickdAccept, .succeed)]

theorem greeterEvents_triggersLive :
    Trace.Always World.next World.TriggersLive (World.init false) (greeterEvents (ascii "10")) := by
  refine triggersLive_of_intervals false (greeterEvents (ascii "10")) fun event hevent => ?_
  rcases List.mem_cons.mp hevent with rfl | hevent
  · exact fun _ => by decide
  · rw [List.mem_singleton.mp hevent]
    trivial

-- An interval of zero leaves the timer of a running scheduler disarmed.
theorem greeterEvents_not_triggersLive :
    ¬Trace.Always World.next World.TriggersLive (World.init false) (greeterEvents (ascii "0")) := by
  intro h
  obtain ⟨w, hrun, hcrashed, program, hget, hrunning, hmode, htimer⟩ :
      ∃ w, Trace.run World.next (World.init false) (greeterEvents (ascii "0")) = some w ∧
        w.daemon.crashed = false ∧ ∃ program, w.programs.get 0 = some program ∧
          program.scheduler.state = .running ∧ program.config.startMode = .interval ∧
          program.scheduler.timer = none :=
    ⟨_, rfl, rfl, _, rfl, rfl, rfl, rfl⟩
  have hlive := h.of_run hrun hcrashed 0 program hget hrunning
  rw [hmode, htimer] at hlive
  obtain ⟨arming, harming, -⟩ := hlive
  cases harming

end Intervals

section Inertness

-- A stopped scheduler has no trigger, as long as timer_configure(.., 0, 0) has not failed for it.
def World.StoppedInert (w : World) : Prop :=
  ∀ p program, w.programs.get p = some program → .timerStopFailed p ∉ w.log →
    program.scheduler.state = .stopped →
      program.scheduler.timer = none ∧ program.scheduler.cronActive = false

-- The entries of the cron table are those of the programs with an active cron, one for each. They
-- notify the program that has the ID now.
structure World.CronTable (w : World) : Prop where
  active : ∀ programId, (∃ entry ∈ w.daemon.entries, entry.programId = programId) ↔
    ∃ p program, w.programs.get p = some program ∧ program.id = programId ∧
      program.scheduler.cronActive = true
  unique : ∀ programId, w.daemon.entries.countP (·.programId = programId) ≤ 1
  notify : ∀ entry ∈ w.daemon.entries, ∃ program,
    w.programs.get entry.notify = some program ∧ program.id = entry.programId

theorem World.Core.stoppedInert (h : w.Core) : w.StoppedInert := by
  intro p program hget hfailed hstopped
  have hbase := h.base p program hget
  constructor
  · by_contra htimer
    exact hfailed (hbase.inert hstopped (hbase.timer htimer))
  · by_contra hactive
    have hrunning := hbase.cron (by simpa using hactive)
    rw [hstopped] at hrunning
    cases hrunning

theorem World.Core.notify_live (h : w.Core) {entry : CronEntry} (hentry : entry ∈ w.daemon.entries) :
    ∃ program, w.programs.get entry.notify = some program ∧ program.id = entry.programId ∧
      program.scheduler.cronActive = true := by
  obtain ⟨program, hget⟩ := h.entries entry hentry
  have hbase := h.base _ program hget
  refine ⟨program, hget, ((hbase.entries entry hentry).1.mpr rfl).symm, ?_⟩
  by_contra hinactive
  have hcount := hbase.entry
  rw [if_neg hinactive, List.countP_eq_zero] at hcount
  exact hcount entry hentry (decide_eq_true rfl)

theorem World.Core.cronTable (h : w.Core) : w.CronTable where
  active programId := by
    constructor
    · rintro ⟨entry, hentry, rfl⟩
      obtain ⟨program, hget, hid, hactive⟩ := h.notify_live hentry
      exact ⟨entry.notify, program, hget, hid, hactive⟩
    · rintro ⟨p, program, hget, rfl, hactive⟩
      have hbase := h.base p program hget
      have hcount := hbase.entry
      rw [if_pos hactive] at hcount
      obtain ⟨entry, hentry, hnotify⟩ :=
        List.countP_pos_iff.mp (by rw [hcount]; exact Nat.one_pos)
      exact ⟨entry, hentry, (hbase.entries entry hentry).1.mpr (of_decide_eq_true hnotify)⟩
  unique programId := by
    by_cases hnone : w.daemon.entries.countP (·.programId = programId) = 0
    · omega
    obtain ⟨entry, hentry, hid⟩ := List.countP_pos_iff.mp (Nat.pos_of_ne_zero hnone)
    obtain ⟨program, hget, hsame, -⟩ := h.notify_live hentry
    have hbase := h.base _ program hget
    -- the entries with this ID are those of one program
    have hcount : w.daemon.entries.countP (·.programId = programId) =
        w.daemon.entries.countP (·.notify = entry.notify) := by
      refine List.countP_congr fun other hother => ?_
      rw [decide_eq_true_eq, decide_eq_true_eq, ← (hbase.entries other hother).1, hsame,
        of_decide_eq_true hid]
    rw [hcount, hbase.entry]
    split_ifs <;> omega
  notify entry hentry := by
    obtain ⟨program, hget, hid, -⟩ := h.notify_live hentry
    exact ⟨program, hget, hid⟩

theorem stopped_inert_cronTable (x11Enabled : Bool) (events : List (World.Event × Outcomes)) :
    Trace.Always World.next (fun w => w.StoppedInert ∧ w.CronTable) (World.init x11Enabled)
      events :=
  (World.always_inv x11Enabled events).mono fun _ h => ⟨h.core.stoppedInert, h.core.cronTable⟩

end Inertness

section Tags

-- A call of process_spawn among the new effects.
def Spawns (log log' : List Effect) : Prop :=
  ∃ new p program workingDirectory, log' = new ++ log ∧
    Effect.processSpawn p program workingDirectory ∈ new

theorem not_spawns_self (log : List Effect) : ¬Spawns log log := by
  rintro ⟨new, p, program, workingDirectory, hlog, hmem⟩
  have hnil : new = [] := List.append_left_eq_self.mp hlog.symm
  rw [hnil] at hmem
  exact absurd hmem List.not_mem_nil

-- No process is spawned while another one is alive.
theorem spawnProcess_spawns {c : Context}
    (h : Spawns c.log (programSchedulerSpawnProcess p c).log) : c.lastAlive = false := by
  by_contra htrue
  have halive : (programSchedulerAbortObserver p c).lastAlive = true :=
    abortObserver_lastAlive.trans (by simpa using htrue)
  have hsame : programSchedulerSpawnProcess p c = programSchedulerAbortObserver p c := if_pos halive
  rw [hsame] at h
  exact not_spawns_self _ h

theorem handleTimer_spawns {c : Context}
    (h : Spawns c.log (programSchedulerHandleTimer p c).log) :
    c.program.scheduler.state = .running ∧ c.lastAlive = false ∧
      (c.program.config.startMode = .always ∨ c.program.config.startMode = .interval) := by
  unfold programSchedulerHandleTimer at h
  split_ifs at h with hrunning hmode
  · exact ⟨hrunning, spawnProcess_spawns h, hmode⟩
  · exact (not_spawns_self _ h).elim
  · exact (not_spawns_self _ h).elim

theorem handleCron_spawns {c : Context} (h : Spawns c.log (programSchedulerHandleCron p c).log) :
    c.program.scheduler.state = .running ∧ c.program.config.startMode = .cron := by
  unfold programSchedulerHandleCron at h
  split_ifs at h with hcron
  · exact hcron
  · exact (not_spawns_self _ h).elim

-- The tag of the trigger that fires is the start mode that the program has now.
structure World.TagsCurrent (w : World) : Prop where
  timer : ∀ p outcomes w', w.next (.timer p, outcomes) = some w' → Spawns w.log w'.log →
    ∃ program arming, w.programs.get p = some program ∧
      program.scheduler.timer = some arming ∧ program.scheduler.state = .running ∧
      arming.tag = program.config.startMode
  cron : ∀ cookieMatches programId outcomes w',
    w.next (.cronNotification cookieMatches programId, outcomes) = some w' →
    Spawns w.log w'.log →
    ∃ entry program,
      w.daemon.entries.find? (fun entry => entry.programId = programId) = some entry ∧
      w.programs.get entry.notify = some program ∧ program.scheduler.state = .running ∧
      entry.tag = program.config.startMode

theorem World.Inv.timer_tag (h : w.Inv) (hcrashed : w.daemon.crashed = false) {outcomes : Outcomes}
    (hstep : w.step outcomes (.timer p) = some w') (hspawns : Spawns w.log w'.log) :
    ∃ program arming, w.programs.get p = some program ∧ program.scheduler.timer = some arming ∧
      program.scheduler.state = .running ∧ arming.tag = program.config.startMode := by
  cases hget : w.programs.get p with
  | none =>
      simp only [World.step, hget] at hstep
      cases hstep
  | some program =>
      simp only [World.step, hget] at hstep
      obtain ⟨arming, harming, rfl⟩ := Option.map_eq_some_iff.mp hstep
      have hget' : (w.put p (w.context (program.expired arming) outcomes)).programs.get p =
          some (program.expired arming) := (World.get_put hget _ p).trans (if_pos rfl)
      rw [World.handleTimer_eq hget, World.run_eq hget'] at hspawns
      obtain ⟨hrunning, hdead, hmode⟩ := handleTimer_spawns (p := p)
        (c := (w.put p (w.context (program.expired arming) outcomes)).context
          (program.expired arming) outcomes) hspawns
      change program.scheduler.state = .running at hrunning
      change program.scheduler.lastSpawnedProcess.any w.daemon.isAlive = false at hdead
      refine ⟨program, arming, rfl, harming, hrunning, ?_⟩
      have htrigger := h.lively hcrashed p program hget hrunning
      rcases hmode with halways | hinterval
      · change program.config.startMode = .always at halways
        rw [halways] at htrigger ⊢
        rcases htrigger with halive | htimer
        · rw [hdead] at halive
          cases halive
        · rw [harming] at htimer
          cases htimer
          rfl
      · change program.config.startMode = .interval at hinterval
        rw [hinterval] at htrigger ⊢
        dsimp only at htrigger
        rw [harming] at htrigger
        split_ifs at htrigger
        cases htrigger
        rfl

theorem World.Core.cron_tag (h : w.Core) {cookieMatches : Bool} {programId : ObjectID}
    {outcomes : Outcomes}
    (hstep : w.step outcomes (.cronNotification cookieMatches programId) = some w')
    (hspawns : Spawns w.log w'.log) :
    ∃ entry program,
      w.daemon.entries.find? (fun entry => entry.programId = programId) = some entry ∧
      w.programs.get entry.notify = some program ∧ program.scheduler.state = .running ∧
      entry.tag = program.config.startMode := by
  unfold World.step at hstep
  dsimp only at hstep
  split_ifs at hstep
  · cases hstep
    unfold World.cronHandleNotification at hspawns
    cases hfind : w.daemon.entries.find? fun entry => entry.programId = programId with
    | none =>
        rw [hfind] at hspawns
        exact (not_spawns_self _ hspawns).elim
    | some entry =>
        have hentry := List.mem_of_find?_eq_some hfind
        obtain ⟨program, hget⟩ := h.entries entry hentry
        rw [hfind] at hspawns
        dsimp only at hspawns
        rw [World.run_eq hget] at hspawns
        obtain ⟨hrunning, hmode⟩ := handleCron_spawns (p := entry.notify)
          (c := w.context program outcomes) hspawns
        refine ⟨entry, program, rfl, hget, hrunning, ?_⟩
        rw [((h.base _ program hget).entries entry hentry).2 rfl]
        exact hmode.symm
  · cases hstep
    exact (not_spawns_self _ hspawns).elim

theorem tags_current (x11Enabled : Bool) (events : List (World.Event × Outcomes)) :
    Trace.Always World.next World.TagsCurrent (World.init x11Enabled) events := by
  refine (World.always_inv x11Enabled events).mono fun w h => ?_
  refine { timer := ?_, cron := ?_ }
  · intro p outcomes w' hnext hspawns
    obtain ⟨hcrashed, hstep⟩ := World.next_step hnext
    exact h.timer_tag hcrashed hstep hspawns
  · intro cookieMatches programId outcomes w' hnext hspawns
    exact h.core.cron_tag (World.next_step hnext).2 hspawns

end Tags

end RedApid.Scheduling

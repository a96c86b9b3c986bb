import RedApid.Scheduler.Evolution
import RedApid.Scheduler.Parts

namespace RedApid.Scheduling

open Memory

variable {w w' : World} {p : ProgramRef} {c c' : Context} {event : World.Event}

section Names

-- The absolute names that a scheduler has stored are those of a config.
structure NamesOf (program : Program) (config : ProgramSettings) : Prop where
  workingDirectory : program.scheduler.absoluteWorkingDirectory =
    some (binName program config.workingDirectory)
  files : ∀ stream, redirectionOf config stream = .file →
    absoluteNameOf program.scheduler stream =
      some (binName program ((fileNameOf config stream).getD []))

theorem NamesOf.congr {program other : Program} {config : ProgramSettings}
    (h : NamesOf program config) (hpaths : other.paths = program.paths) : NamesOf other config := by
  obtain ⟨hroot, -, hworking, hfiles⟩ :
      other.rootDirectory = program.rootDirectory ∧ other.config = program.config ∧
        other.scheduler.absoluteWorkingDirectory = program.scheduler.absoluteWorkingDirectory ∧
        absoluteNameOf other.scheduler = absoluteNameOf program.scheduler := by
    simpa [Program.paths] using hpaths
  have hname : ∀ name, binName other name = binName program name := by
    intro name
    unfold binName
    rw [hroot]
  refine ⟨?_, fun stream hfile => ?_⟩
  · rw [hworking, hname]
    exact h.workingDirectory
  · rw [hfiles, hname]
    exact h.files stream hfile

theorem config_of_paths {program other : Program} (hpaths : other.paths = program.paths) :
    other.config = program.config := congrArg (fun paths => paths.2.1) hpaths

theorem namesOf_of_paths {program other : Program} (hpaths : other.paths = program.paths) :
    NamesOf other other.config ↔ NamesOf program program.config := by
  rw [config_of_paths hpaths]
  exact ⟨fun h => h.congr hpaths.symm, fun h => h.congr hpaths⟩

theorem storeAbsoluteNames_namesOf (program : Program) :
    NamesOf { program with scheduler := storeAbsoluteNames program } program.config := by
  refine ⟨rfl, fun stream hfile => ?_⟩
  cases stream <;> exact if_pos hfile

-- Behind an update they are those of the config, unless it has not come to the end of
-- program_scheduler_prepare_filesystem and they were others before.
theorem update_namesOf_iff (tryStart : Bool) :
    NamesOf (programSchedulerUpdate p tryStart c).program
        (programSchedulerUpdate p tryStart c).program.config ↔
      ¬((c.program.scheduler.shutdown ∨ PreparationFails c.program.config c.outcomes) ∧
        ¬NamesOf c.program c.program.config) := by
  obtain ⟨c₀, -, hupdated, hparts⟩ := @update_parts p c tryStart
  rw [namesOf_of_paths hparts.follows.paths]
  unfold Updated at hupdated
  split_ifs at hupdated with hfails
  · rw [namesOf_of_paths hupdated, and_iff_right hfails, not_not]
  · rw [namesOf_of_paths hupdated]
    exact iff_of_true (storeAbsoluteNames_namesOf c.program) fun hboth => hfails hboth.1

end Names

section Current

-- The path of a call is the one that the config has at that time.
def Effect.Current : Effect → Prop
  | .fileOpen _ program stream name =>
      name = binName program ((fileNameOf program.config stream).getD [])
  | .processSpawn _ program workingDirectory =>
      workingDirectory = some (binName program program.config.workingDirectory)
  | _ => True

theorem Effect.Sound.current {effect : Effect} (h : effect.Sound)
    (hnames : ∀ other ∈ effect.formed, NamesOf other other.config) : effect.Current := by
  cases effect with
  | fileOpen p program stream name =>
      obtain ⟨hfile, hname⟩ := h
      rw [(hnames program rfl).files stream hfile] at hname
      exact (Option.some.inj hname).symm
  | processSpawn p program workingDirectory =>
      have hworking : workingDirectory = program.scheduler.absoluteWorkingDirectory := h
      rw [hworking]
      exact (hnames program rfl).workingDirectory
  | _ => trivial

def World.PathsCurrent (w : World) : Prop := ∀ effect ∈ w.log, effect.Current

def World.NamesCurrent (w : World) : Prop :=
  ∀ p program, w.programs.get p = some program → NamesOf program program.config

-- New effects use the paths of a program whose names are those of its config.
theorem World.PathsCurrent.grow (h : w.PathsCurrent) (h' : w'.Inv) {new : List Effect}
    {program : Program} (hlog : w'.log = new ++ w.log) (huses : Uses program new)
    (hnames : NamesOf program program.config) : w'.PathsCurrent := by
  intro effect heffect
  have hsound := h'.core.sound effect heffect
  rw [hlog] at heffect
  rcases List.mem_append.mp heffect with hnew | hold
  · exact hsound.current fun other hother =>
      (namesOf_of_paths ((huses effect hnew).paths other hother)).mpr hnames
  · exact h effect hold

theorem World.PathsCurrent.same (h : w.PathsCurrent) (hlog : w'.log = w.log) : w'.PathsCurrent := by
  unfold World.PathsCurrent
  rw [hlog]
  exact h

-- What follows on the paths that a function leaves.
structure Ends (c c' : Context) : Prop where
  log : ∃ new, c'.log = new ++ c.log ∧ Uses c'.program new

theorem Parts.ends {c₀ : Context} (hparts : Parts p c₀ c') (hlog : c₀.log = c.log) : Ends c c' := by
  obtain ⟨hpaths, new, hnew, huses⟩ := hparts.follows
  exact ⟨new, by rw [hnew, hlog], fun effect heffect => (huses effect heffect).congr hpaths⟩

theorem World.put_namesCurrent_iff {program : Program} (h : ∀ q other, q ≠ p →
      w.programs.get q = some other → NamesOf other other.config)
    (hget : w.programs.get p = some program) :
    (w.put p c).NamesCurrent ↔ NamesOf c.program c.program.config := by
  constructor
  · intro hnames
    exact hnames p c.program ((World.get_put hget c p).trans (if_pos rfl))
  · intro hnames q other hother
    rcases World.get_put_some hget hother with ⟨rfl, rfl⟩ | ⟨hq, hother⟩
    · exact hnames
    · exact h q other hq hother

end Current

section Quiet

-- Programs are not created, and no setter gives them other paths.
def World.Event.repaths : World.Event → Bool
  | .programLoad _ _ _ _ _ => true
  | .request (.programDefine _ _ _ _) => true
  | .request (.programSetCommand _ _) => true
  | .request (.programSetStdioRedirection _ _) => true
  | _ => false

theorem Called.namesOf (hcalled : Called event p c c') (hquiet : event.repaths = false)
    (h : NamesOf c.program c.program.config) : NamesOf c'.program c'.program.config := by
  have hkept : ∀ {c'}, Parts p c c' → NamesOf c'.program c'.program.config :=
    fun hparts => (namesOf_of_paths hparts.follows.paths).mpr h
  have hupdate : ∀ {c : Context} tryStart, NamesOf c.program c.program.config →
      NamesOf (programSchedulerUpdate p tryStart c).program
        (programSchedulerUpdate p tryStart c).program.config :=
    fun tryStart h => (update_namesOf_iff tryStart).mpr fun hboth => hboth.2 h
  cases hcalled with
  | setter hevent _ hcases =>
      subst hevent
      cases hcases with
      | kept code hquiet => exact hkept hquiet.apart.parts
      | saved tryStart _ hedits _ =>
          cases hedits with
          | command => cases hquiet
          | redirection => cases hquiet
          | schedule => exact hupdate tryStart ⟨h.workingDirectory, h.files⟩
  | continueSchedule => exact hkept continue_parts
  | start => exact hkept spawnProcess_parts
  | purge => exact hkept (programPurge_parts _ _)
  | cron => exact hkept handleCron_parts
  | observer => exact hkept informObserver_parts
  | brickd =>
      unfold World.handleBrickdConnection
      split_ifs
      · exact hupdate true h
      · exact h
  | create => exact hupdate true h

theorem Called.ends (hcalled : Called event p c c') : Ends c c' := by
  obtain ⟨c₀, hrenamed, hparts⟩ := hcalled.parts
  exact hparts.ends hrenamed.log

theorem World.put_current {program : Program} {outcomes : Outcomes} (h' : (w.put p c).Inv)
    (hget : w.programs.get p = some program) (hnames : w.NamesCurrent) (hpaths : w.PathsCurrent)
    (hends : Ends (w.context program outcomes) c) (hnamesOf : NamesOf c.program c.program.config) :
    (w.put p c).NamesCurrent ∧ (w.put p c).PathsCurrent := by
  obtain ⟨new, hlog, huses⟩ := hends.log
  refine ⟨(World.put_namesCurrent_iff (fun q other _ hother => hnames q other hother) hget).mpr
    hnamesOf, ?_⟩
  exact hpaths.grow h' hlog huses hnamesOf

theorem destroy_uses : ∃ new, (programSchedulerDestroy p c).log = new ++ c.log ∧
    Uses c.program new := by
  obtain ⟨-, shut, hshut, huses⟩ := (@shutdown_parts p c).follows
  obtain ⟨⟨files, hfiles⟩, -⟩ := @releaseLastProcess_removed (programSchedulerShutdown p c)
  have hreleased : Uses c.program (files.map .releaseFile ++ shut) := by
    intro effect heffect
    rcases List.mem_append.mp heffect with hfile | hold
    · exact uses_of_silent (releaseFiles_silent files) effect hfile
    · exact huses effect hold
  unfold programSchedulerDestroy
  dsimp only
  cases (programSchedulerShutdown p c).program.scheduler.message with
  | none => exact ⟨_, by rw [hfiles, hshut, List.append_assoc], hreleased⟩
  | some message =>
      refine ⟨.releaseMessage message :: (files.map .releaseFile ++ shut), ?_, ?_⟩
      · rw [hfiles, hshut, List.cons_append, List.append_assoc]
      · intro effect heffect
        rcases List.mem_cons.mp heffect with rfl | hold
        · refine ⟨fun other hother => ?_, fun message hmessage => ?_⟩
          · cases hother
          · cases hmessage
        · exact hreleased effect hold

theorem World.Does.current (hdoes : World.Does event w w') (h : w.Inv)
    (hquiet : event.repaths = false) (hcurrent : w.NamesCurrent ∧ w.PathsCurrent) :
    w'.NamesCurrent ∧ w'.PathsCurrent := by
  have h' := hdoes.inv h
  obtain ⟨hnames, hpaths⟩ := hcurrent
  cases hdoes with
  | called hget hcrashed hcalled =>
      exact World.put_current h' hget hnames hpaths hcalled.ends
        (hcalled.namesOf hquiet (hnames _ _ hget))
  | @died p program q found state exitCode outcomes _ _ _ _ hget _ =>
      have hparts := @handleProcessStateChange_parts p
        ((w.modifyProcess q fun process => { process with state, exitCode }).context program outcomes)
      exact @World.put_current
        (w.modifyProcess q fun process => { process with state, exitCode }) p _ program outcomes h'
        hget hnames hpaths (hparts.ends rfl)
        ((namesOf_of_paths hparts.follows.paths).mpr (hnames _ _ hget))
  | orphaned => exact ⟨hnames, hpaths⟩
  | @expired p program arming outcomes _ hget _ _ =>
      have hget' : (w.put p (w.context (program.expired arming) outcomes)).programs.get p =
          some (program.expired arming) := (World.get_put hget _ p).trans (if_pos rfl)
      have hexpired : NamesOf (program.expired arming) (program.expired arming).config :=
        (hnames _ _ hget).congr rfl
      have hparts := @handleTimer_parts p
        ((w.put p (w.context (program.expired arming) outcomes)).context (program.expired arming)
          outcomes)
      refine World.put_current h' hget' ?_ hpaths (hparts.ends rfl)
        ((namesOf_of_paths hparts.follows.paths).mpr hexpired)
      exact (World.put_namesCurrent_iff (fun q other _ hother => hnames q other hother) hget).mpr
        hexpired
  | @noted f hunnoticed p =>
      refine ⟨?_, hpaths⟩
      cases hget : w.programs.get p with
      | none =>
          have hsame : (w.modifyProgram p f).programs = w.programs := Heap.modify_of_none hget f
          unfold World.NamesCurrent
          rw [hsame]
          exact hnames
      | some program =>
          rw [World.modifyProgram_eq hget f .succeed]
          refine (World.put_namesCurrent_iff (fun q other _ hother => hnames q other hother)
            hget).mpr ?_
          obtain ⟨customOptions, hconfig⟩ := hunnoticed.config program
          have hbefore := hnames p program hget
          have hscheduler := hunnoticed.scheduler program
          have hname : ∀ name, binName (f program) name = binName program name := by
            intro name
            unfold binName
            rw [hunnoticed.rootDirectory program]
          change NamesOf (f program) (f program).config
          rw [hconfig]
          refine ⟨?_, fun stream hfile => ?_⟩
          · rw [hscheduler, hname]
            exact hbefore.workingDirectory
          · rw [hscheduler, hname]
            exact hbefore.files stream hfile
  | adjusted hadjusted =>
      obtain ⟨processes, files, rfl, -, -⟩ := hadjusted
      refine ⟨hnames, fun effect heffect => ?_⟩
      rcases List.mem_append.mp heffect with hnew | hold
      · obtain ⟨file, -, rfl⟩ := List.mem_map.mp hnew
        trivial
      · exact hpaths effect hold
  | observed => exact ⟨hnames, hpaths⟩
  | connected => exact ⟨hnames, hpaths⟩
  | @created program _ horigin _ =>
      generalize program.config = config at horigin
      cases horigin with
      | load hevent =>
          rw [hevent] at hquiet
          cases hquiet
      | define hevent =>
          rw [hevent] at hquiet
          cases hquiet
  | @destroyed p program outcomes _ hget _ =>
      obtain ⟨new, hlog, huses⟩ := @destroy_uses p (w.context program outcomes)
      refine ⟨fun q other hother => ?_, hpaths.grow h' hlog huses (hnames p program hget)⟩
      exact hnames q other (World.get_remove_some hget hother).2

theorem World.DoesAll.current (hdoes : World.DoesAll event w w') (h : w.Inv)
    (hquiet : event.repaths = false) (hcurrent : w.NamesCurrent ∧ w.PathsCurrent) :
    w'.NamesCurrent ∧ w'.PathsCurrent := by
  induction hdoes with
  | refl => exact hcurrent
  | tail hdoesAll hdoes ih => exact hdoes.current (World.DoesAll.inv hdoesAll h) hquiet ih

end Quiet

section Unprepared

-- The config that a setter for the command or the redirections asks for, if its parameters are right.
def Command.config (command : Command) (old : ProgramSettings) : Option ProgramSettings :=
  match command.executable, command.arguments, command.environment, command.workingDirectory with
  | .ok executable, .ok arguments, .ok environment, .ok workingDirectory =>
      if executable = [] ∨ workingDirectory = [] then none
      else some { old with executable, arguments, environment, workingDirectory }
  | _, _, _, _ => none

def Redirections.config (redirections : Redirections) (old : ProgramSettings) :
    Option ProgramSettings :=
  match checkRedirections redirections with
  | none => none
  | some (stdinRedirection, stdoutRedirection, stderrRedirection) =>
      match lookupFileName stdinRedirection redirections.stdinFileName,
        lookupFileName stdoutRedirection redirections.stdoutFileName,
        lookupFileName stderrRedirection redirections.stderrFileName with
      | .ok stdinFileName, .ok stdoutFileName, .ok stderrFileName =>
          some { old with
            stdinRedirection, stdinFileName
            stdoutRedirection, stdoutFileName
            stderrRedirection, stderrFileName }
      | _, _, _ => none

-- A setter does nothing, or it saves the config that it asks for.
def SavesAsked (p : ProgramRef) (asked : ProgramSettings → Option ProgramSettings)
    (c c' : Context) : Prop :=
  if c.program.purged then c' = c
  else
    match asked c.program.config with
    | none => c' = c
    | some config => c' = (saveConfig p config false c).2

theorem programSetCommand_asked (command : Command) (c : Context) :
    SavesAsked p command.config c (programSetCommand p command c).2 := by
  unfold SavesAsked Command.config programSetCommand
  by_cases hpurged : c.program.purged = true
  · rw [if_pos hpurged, if_pos hpurged]
  rw [if_neg hpurged, if_neg hpurged]
  cases command.executable with
  | error code => rfl
  | ok executable =>
      cases command.arguments with
      | error code =>
          dsimp only
          split_ifs <;> rfl
      | ok arguments =>
          cases command.environment with
          | error code =>
              dsimp only
              split_ifs <;> rfl
          | ok environment =>
              cases command.workingDirectory with
              | error code =>
                  dsimp only
                  split_ifs <;> rfl
              | ok workingDirectory =>
                  by_cases hexecutable : executable = []
                  · simp [hexecutable]
                  · by_cases hworking : workingDirectory = []
                    · simp [hexecutable, hworking]
                    · simp [hexecutable, hworking]

theorem programSetStdioRedirection_asked (redirections : Redirections) (c : Context) :
    SavesAsked p redirections.config c (programSetStdioRedirection p redirections c).2 := by
  unfold SavesAsked Redirections.config programSetStdioRedirection
  by_cases hpurged : c.program.purged = true
  · rw [if_pos hpurged, if_pos hpurged]
  rw [if_neg hpurged, if_neg hpurged]
  cases checkRedirections redirections with
  | none => rfl
  | some checked =>
      obtain ⟨stdinRedirection, stdoutRedirection, stderrRedirection⟩ := checked
      dsimp only
      cases lookupFileName stdinRedirection redirections.stdinFileName with
      | error code => rfl
      | ok stdinFileName =>
          cases lookupFileName stdoutRedirection redirections.stdoutFileName with
          | error code => rfl
          | ok stdoutFileName =>
              cases lookupFileName stderrRedirection redirections.stderrFileName with
              | error code => rfl
              | ok stderrFileName => rfl

-- The config is saved, and has a path that is not stored. This stays so if the scheduler is shut
-- down, or if a call of program_scheduler_prepare_filesystem fails.
def Context.Outdates (c : Context) (asked : ProgramSettings → Option ProgramSettings) : Prop :=
  c.program.purged = false ∧ ∃ config, asked c.program.config = some config ∧ c.call.1 = none ∧
    (c.program.scheduler.shutdown ∨ PreparationFails config c.call.2.outcomes) ∧
    ¬NamesOf c.program config

theorem SavesAsked.namesOf_iff {asked : ProgramSettings → Option ProgramSettings}
    (hsaves : SavesAsked p asked c c') (h : NamesOf c.program c.program.config) :
    (NamesOf c'.program c'.program.config ↔ ¬c.Outdates asked) ∧ Ends c c' := by
  have hkept : ∀ c' : Context, c'.program = c.program → c'.log = c.log → ¬c.Outdates asked →
      (NamesOf c'.program c'.program.config ↔ ¬c.Outdates asked) ∧ Ends c c' := by
    intro c' hprogram hlog hnot
    rw [hprogram]
    exact ⟨iff_of_true h hnot, ⟨[], hlog, fun _ h => absurd h List.not_mem_nil⟩⟩
  unfold SavesAsked at hsaves
  by_cases hpurged : c.program.purged = true
  · rw [if_pos hpurged] at hsaves
    refine hkept c' (by rw [hsaves]) (by rw [hsaves]) fun houtdates => ?_
    rw [houtdates.1] at hpurged
    cases hpurged
  rw [if_neg hpurged] at hsaves
  cases hasked : asked c.program.config with
  | none =>
      rw [hasked] at hsaves
      refine hkept c' (by rw [hsaves]) (by rw [hsaves]) ?_
      rintro ⟨-, config, hsome, -⟩
      rw [hasked] at hsome
      cases hsome
  | some config =>
      rw [hasked] at hsaves
      have hcall : c.call = (c.call.1, c.call.2) := rfl
      unfold saveConfig at hsaves
      rw [hcall] at hsaves
      cases hsaved : c.call.1 with
      | some code =>
          rw [hsaved] at hsaves
          refine hkept c' (by rw [hsaves]; rfl) (by rw [hsaves]; rfl) ?_
          rintro ⟨-, -, -, hfalse, -⟩
          rw [hsaved] at hfalse
          cases hfalse
      | none =>
          rw [hsaved] at hsaves
          subst hsaves
          obtain ⟨c₀, hrenamed, -, hparts⟩ :=
            @update_parts p { c.call.2 with program := { c.call.2.program with config } } false
          refine ⟨(update_namesOf_iff false).trans (not_congr ?_), hparts.ends hrenamed.log⟩
          have hconfig : NamesOf { c.program with config } config ↔ NamesOf c.program config :=
            ⟨fun h => ⟨h.workingDirectory, h.files⟩, fun h => ⟨h.workingDirectory, h.files⟩⟩
          change (c.program.scheduler.shutdown ∨ PreparationFails config c.call.2.outcomes) ∧
            ¬NamesOf { c.program with config } config ↔ _
          rw [hconfig]
          constructor
          · rintro ⟨hskipped, hothers⟩
            exact ⟨by simpa using hpurged, config, hasked, hsaved, hskipped, hothers⟩
          · rintro ⟨-, other, hother, -, hskipped, hothers⟩
            rw [hasked] at hother
            cases hother
            exact ⟨hskipped, hothers⟩

-- A program gets paths that are not stored in the same step.
def World.Unprepared (w : World) (event : World.Event × Outcomes) : Prop :=
  match event.1 with
  | .programLoad identifier _ file _ creation =>
      programIsValidIdentifier identifier ∧ creation = none ∧
        PreparationFails (programConfigLoad file) event.2
  | .request (.programDefine _ identifier _ creation) =>
      programIsValidIdentifier identifier ∧ creation = none ∧
        PreparationFails programConfigCreate event.2
  | .request (.programSetCommand p command) => ∃ program, w.programs.get p = some program ∧
      (w.context program event.2).Outdates command.config
  | .request (.programSetStdioRedirection p redirections) =>
      ∃ program, w.programs.get p = some program ∧
        (w.context program event.2).Outdates redirections.config
  | _ => False

theorem World.put_current_iff {program : Program} {outcomes : Outcomes} (h' : (w.put p c).Inv)
    (hget : w.programs.get p = some program)
    (hnames : ∀ q other, q ≠ p → w.programs.get q = some other → NamesOf other other.config)
    (hpaths : w.PathsCurrent) (hends : Ends (w.context program outcomes) c) :
    ((w.put p c).NamesCurrent ∧ (w.put p c).PathsCurrent) ↔ NamesOf c.program c.program.config := by
  have hput := @World.put_namesCurrent_iff w p c program hnames hget
  refine ⟨fun hboth => hput.mp hboth.1, fun hnamesOf => ⟨hput.mpr hnamesOf, ?_⟩⟩
  obtain ⟨new, hlog, huses⟩ := hends.log
  exact hpaths.grow h' hlog huses hnamesOf

theorem run_asked_current_iff {outcomes : Outcomes} {f : Context → Context}
    {asked : ProgramSettings → Option ProgramSettings} (hsaves : ∀ c, SavesAsked p asked c (f c))
    (hsome : (w.programs.get p).isSome) (h' : (w.run p f outcomes).1.Inv)
    (hcurrent : w.NamesCurrent ∧ w.PathsCurrent) :
    ((w.run p f outcomes).1.NamesCurrent ∧ (w.run p f outcomes).1.PathsCurrent) ↔
      ¬∃ program, w.programs.get p = some program ∧ (w.context program outcomes).Outdates asked := by
  obtain ⟨program, hget⟩ := Option.isSome_iff_exists.mp hsome
  obtain ⟨hiff, hends⟩ :=
    (hsaves (w.context program outcomes)).namesOf_iff (hcurrent.1 p program hget)
  rw [World.run_eq hget] at h' ⊢
  rw [World.put_current_iff h' hget (fun q other _ hother => hcurrent.1 q other hother) hcurrent.2
    hends, hiff, hget]
  simp

-- A new program has no names before its update.
theorem createProgram_current_iff {id : ObjectID} {identifier rootDirectory : CString}
    {config : ProgramSettings} {externalReferenceCount : Nat} {outcomes : Outcomes}
    (h' : (w.createProgram id identifier rootDirectory config externalReferenceCount outcomes).Inv)
    (hcurrent : w.NamesCurrent ∧ w.PathsCurrent) :
    ((w.createProgram id identifier rootDirectory config externalReferenceCount
          outcomes).NamesCurrent ∧
        (w.createProgram id identifier rootDirectory config externalReferenceCount
          outcomes).PathsCurrent) ↔ ¬PreparationFails config outcomes := by
  have hupdated : ∀ program : Program, program.config = config →
      program.scheduler = programSchedulerCreate config w.daemon →
      ((w.alloc program).run w.programs.next (programSchedulerUpdate w.programs.next true)
        outcomes).1.Inv →
      (((w.alloc program).run w.programs.next (programSchedulerUpdate w.programs.next true)
          outcomes).1.NamesCurrent ∧
        ((w.alloc program).run w.programs.next (programSchedulerUpdate w.programs.next true)
          outcomes).1.PathsCurrent ↔ ¬PreparationFails config outcomes) := by
    intro program hconfig hscheduler h'
    have hget : (w.alloc program).programs.get w.programs.next = some program :=
      (Heap.get_alloc w.programs program w.programs.next).trans (if_pos rfl)
    obtain ⟨c₀, hrenamed, -, hparts⟩ := @update_parts w.programs.next
      ((w.alloc program).context program outcomes) true
    rw [World.run_eq hget] at h' ⊢
    rw [World.put_current_iff h' hget (fun q other hq hother => ?_) hcurrent.2
      (hparts.ends hrenamed.log), update_namesOf_iff]
    · have hnone : ¬NamesOf program program.config := by
        intro hnames
        have hworking := hnames.workingDirectory
        rw [hscheduler] at hworking
        cases hworking
      have hrunning : program.scheduler.shutdown = false := by
        rw [hscheduler]
        rfl
      change ¬((program.scheduler.shutdown ∨ PreparationFails program.config outcomes) ∧
        ¬NamesOf program program.config) ↔ _
      rw [hrunning, hconfig] at *
      simp [hnone]
    · rcases World.get_alloc_some hother with ⟨heq, -⟩ | ⟨-, hother⟩
      · exact absurd heq hq
      · exact hcurrent.1 q other hother
  exact hupdated _ rfl rfl h'

theorem World.Inv.next_current_iff (h : w.Inv) (hcurrent : w.NamesCurrent ∧ w.PathsCurrent)
    {event : World.Event × Outcomes} (hnext : w.next event = some w') :
    (w'.NamesCurrent ∧ w'.PathsCurrent) ↔ ¬w.Unprepared event := by
  have h' := h.next hnext
  have hdoes := h.next_does hnext
  obtain ⟨event, outcomes⟩ := event
  obtain ⟨-, hstep⟩ := World.next_step hnext
  have hquiet : event.repaths = false → ¬w.Unprepared (event, outcomes) →
      ((w'.NamesCurrent ∧ w'.PathsCurrent) ↔ ¬w.Unprepared (event, outcomes)) :=
    fun hquiet hnot => iff_of_true (hdoes.current h hquiet hcurrent) hnot
  cases event with
  | programLoad identifier rootDirectory file id creation =>
      obtain ⟨-, ⟨⟩⟩ := Option.ite_none_right_eq_some.mp hstep
      unfold World.programLoad at h' ⊢
      dsimp only [World.Unprepared]
      split_ifs at h' ⊢ with hcreated
      · rw [createProgram_current_iff h' hcurrent, ← and_assoc, and_iff_right hcreated]
      · rw [← and_assoc]
        exact iff_of_true hcurrent fun hboth => hcreated hboth.1
  | request request =>
      obtain ⟨-, hrequest⟩ := Option.ite_none_right_eq_some.mp hstep
      cases request with
      | programDefine programsDirectory identifier id creation =>
          obtain ⟨-, ⟨⟩⟩ := Option.ite_none_right_eq_some.mp hrequest
          unfold World.programDefine at h' ⊢
          dsimp only [World.Unprepared]
          split_ifs at h' ⊢ with hcreated
          · rw [createProgram_current_iff h' hcurrent, ← and_assoc, and_iff_right hcreated]
          · rw [← and_assoc]
            exact iff_of_true hcurrent fun hboth => hcreated hboth.1
      | programSetCommand p command =>
          obtain ⟨hsome, ⟨⟩⟩ := Option.ite_none_right_eq_some.mp hrequest
          exact run_asked_current_iff (programSetCommand_asked command) hsome h' hcurrent
      | programSetStdioRedirection p redirections =>
          obtain ⟨hsome, ⟨⟩⟩ := Option.ite_none_right_eq_some.mp hrequest
          exact run_asked_current_iff (programSetStdioRedirection_asked redirections) hsome h'
            hcurrent
      | _ => exact hquiet rfl id
  | _ => exact hquiet rfl id

end Unprepared

section Runs

-- Exactly as long as no program gets paths that are not stored in the same step, the stored names
-- are those of the config in every state, and so is the path of every call.
theorem paths_current_iff (x11Enabled : Bool) (events : List (World.Event × Outcomes)) :
    Trace.Always World.next (fun w => w.NamesCurrent ∧ w.PathsCurrent) (World.init x11Enabled)
        events ↔
      Trace.Along World.next (fun w event _ => ¬w.Unprepared event) (World.init x11Enabled)
        events := by
  refine Trace.always_iff_along (fun _ _ _ h hnext => h.next hnext)
    (fun _ _ _ h hcurrent hnext => h.next_current_iff hcurrent hnext) (World.init_inv x11Enabled)
    ⟨fun p program hget => ?_, fun effect heffect => absurd heffect List.not_mem_nil⟩ events
  have hempty : (World.init x11Enabled).programs.get p = none := Heap.get_empty p
  rw [hempty] at hget
  cases hget

-- A program is defined, and its working directory cannot be created.
def unpreparedEvents : List (World.Event × Outcomes) :=
  [(.brickdAccept, .succeed),
    (.request (.programDefine (ascii "/programs/") (ascii "greeter") 1 none),
      { Outcomes.succeed with calls := [none, some ⟨.accessDenied, nofun⟩] }),
    (.request (.programStart 0), .succeed)]

-- There is no path for the process.
theorem unpreparedEvents_not_current :
    ¬Trace.Always World.next World.PathsCurrent (World.init false) unpreparedEvents := by
  intro h
  obtain ⟨w, hrun, program, hmem⟩ : ∃ w,
      Trace.run World.next (World.init false) unpreparedEvents = some w ∧
        ∃ program, Effect.processSpawn 0 program none ∈ w.log :=
    ⟨_, rfl, _, List.mem_cons_self⟩
  have hcurrent : none = some _ := h.of_run hrun _ hmem
  cases hcurrent

end Runs

end RedApid.Scheduling

import RedApid.Config.RoundTrip
import RedApid.Programs.Storage
import RedApid.Scheduler.Redirections
import RedApid.Scheduler.Runs
import RedApid.Scheduler.Survival
import RedApid.Trace

namespace RedApid.Scheduling

open Memory

section Texts

-- A config file is a text file.
def ConfFile.Text (file : ConfFile) : Prop := ∀ entry ∈ file.entries, 0 ∉ entry.1 ∧ 0 ∉ entry.2

variable {file : ConfFile}

theorem confFileGet_mem {name value : CString} {entries : List (CString × CString)}
    (h : OrderedMap.lookup fold name entries = some value) : ∃ entry ∈ entries, entry.2 = value := by
  induction entries with
  | nil => cases h
  | cons entry entries ih =>
      unfold OrderedMap.lookup at h
      split_ifs at h
      · cases h
        exact ⟨entry, List.mem_cons_self, rfl⟩
      · obtain ⟨other, hother, hvalue⟩ := ih h
        exact ⟨other, List.mem_cons_of_mem _ hother, hvalue⟩

theorem ConfFile.Text.getString (h : ConfFile.Text file) (name : CString) {default : CString}
    (hdefault : 0 ∉ default) : 0 ∉ programConfigGetString file name default := by
  unfold programConfigGetString confFileGetOptionValue
  cases hget : file.get name with
  | none => exact hdefault
  | some value =>
      obtain ⟨entry, hentry, rfl⟩ := confFileGet_mem hget
      exact (h entry hentry).2

theorem ConfFile.Text.getStringList (h : ConfFile.Text file) (name : CString) :
    (programConfigGetStringList file name).length ≤ INT32_MAX ∧
      ∀ item ∈ programConfigGetStringList file name, 0 ∉ item := by
  unfold programConfigGetStringList
  dsimp only
  constructor
  · rw [List.length_map, List.length_range]
    unfold intOfLength uint32 INT32_MAX
    split_ifs <;> omega
  · intro item hitem
    obtain ⟨i, -, rfl⟩ := List.mem_map.mp hitem
    exact h.getString _ List.not_mem_nil

theorem ConfFile.Text.loadRedirection (h : ConfFile.Text file)
    (loads : ProgramStdioRedirection → Bool) (hdevNull : loads .devNull = true)
    (name fileName : CString) :
    loads (loadRedirection file loads name fileName).1 = true ∧
      SavedString ((loadRedirection file loads name fileName).1 = .file)
        (loadRedirection file loads name fileName).2 := by
  have hstring := h.getString fileName (List.not_mem_nil : (0 : UInt8) ∉ [])
  unfold RedApid.loadRedirection
  dsimp only
  generalize programConfigGetSymbol file stdioRedirectionEnumValueNames name .devNull = loaded
  have hloads : loads (if loads loaded = true then loaded else .devNull) = true := by
    split_ifs with haccepted
    · exact haccepted
    · exact hdevNull
  generalize (if loads loaded = true then loaded else .devNull) = redirection at hloads ⊢
  split_ifs with hfile hempty
  · exact ⟨hdevNull, Or.inr ⟨(fun hother => by cases hother), rfl⟩⟩
  · exact ⟨hloads, Or.inl ⟨hfile, _, rfl, hempty, hstring⟩⟩
  · exact ⟨hloads, Or.inr ⟨hfile, rfl⟩⟩

theorem ConfFile.Text.loadStartMode (h : ConfFile.Text file) :
    SavedString ((RedApid.loadStartMode file).1 = .cron) (RedApid.loadStartMode file).2 := by
  have hstring := h.getString (ascii "start_fields") (by decide : 0 ∉ ascii "* * * * *")
  unfold RedApid.loadStartMode
  dsimp only
  split_ifs with hcron hempty
  · exact Or.inr ⟨(fun hother => by cases hother), rfl⟩
  · exact Or.inl ⟨hcron, _, rfl, hempty, hstring⟩
  · exact Or.inr ⟨hcron, rfl⟩

theorem fold_drop {start name : CString} (h : startsWithCase start name = true) :
    fold name = fold start ++ fold (name.drop start.length) := by
  obtain ⟨rest, hrest⟩ := List.isPrefixOf_iff_prefix.mp h
  have hdrop : fold (name.drop start.length) = (fold name).drop start.length := List.map_drop
  rw [hdrop, ← hrest, List.drop_append_of_le_length (by simp [fold])]
  simp [fold]

-- Whatever is loaded from a text file can be saved and loaded again.
theorem programConfigLoad_saveable (h : ConfFile.Text file) :
    (programConfigLoad file).Saveable where
  executable := h.getString _ List.not_mem_nil
  arguments := (h.getStringList _).2
  argumentsLength := (h.getStringList _).1
  environment := (h.getStringList _).2
  environmentLength := (h.getStringList _).1
  workingDirectory := h.getString _ (by decide)
  stdin := (h.loadRedirection loadsStdin (by decide) _ _).1
  stdinFileName := (h.loadRedirection loadsStdin (by decide) _ _).2
  stdout := (h.loadRedirection loadsStdout (by decide) _ _).1
  stdoutFileName := (h.loadRedirection loadsStdout (by decide) _ _).2
  stderr := (h.loadRedirection loadsStderr (by decide) _ _).1
  stderrFileName := (h.loadRedirection loadsStderr (by decide) _ _).2
  startFields := h.loadStartMode
  customOptions option hoption := by
    obtain ⟨entry, hentry, rfl⟩ := List.mem_map.mp hoption
    obtain ⟨hname, hvalue⟩ := h entry (List.mem_filter.mp hentry).1
    exact ⟨fun hzero => hname (List.mem_of_mem_drop hzero), hvalue⟩
  customDistinct := by
    unfold programConfigLoad loadCustomOptions
    rw [List.map_map]
    have hkept : ((file.entries.filter fun entry => startsWithCase (ascii "custom.") entry.1).map
        fun entry => fold entry.1).Nodup :=
      file.distinct.sublist (List.filter_sublist.map _)
    have hsame : (file.entries.filter fun entry => startsWithCase (ascii "custom.") entry.1).map
        (fun entry => fold entry.1) =
        ((file.entries.filter fun entry => startsWithCase (ascii "custom.") entry.1).map
          fun entry => fold (entry.1.drop (ascii "custom.").length)).map
            (fold (ascii "custom.") ++ ·) := by
      rw [List.map_map]
      exact List.map_congr_left fun entry hentry => fold_drop (List.mem_filter.mp hentry).2
    rw [hsame] at hkept
    exact hkept.of_map _

end Texts

section Conditions

-- The contents of Strings are C strings, and a List has no more items than its `int` counts.
def TextOnly (text : Except APIError CString) : Prop := ∀ content, text = .ok content → 0 ∉ content

def TextsOnly (texts : Except APIError (List CString)) : Prop :=
  ∀ items, texts = .ok items → items.length ≤ INT32_MAX ∧ ∀ item ∈ items, 0 ∉ item

structure Command.Proper (command : Command) : Prop where
  executable : TextOnly command.executable
  arguments : TextsOnly command.arguments
  environment : TextsOnly command.environment
  workingDirectory : TextOnly command.workingDirectory

-- A pipe as stderr is saved, but not loaded.
structure Redirections.Proper (redirections : Redirections) : Prop where
  stdinFileName : TextOnly redirections.stdinFileName
  stdoutFileName : TextOnly redirections.stdoutFileName
  stderrFileName : TextOnly redirections.stderrFileName
  stderr : redirections.stderr ≠ PROGRAM_STDIO_REDIRECTION_PIPE

def World.Event.Proper : World.Event → Prop
  | .request (.programSetCommand _ command) => command.Proper
  | .request (.programSetStdioRedirection _ redirections) => redirections.Proper
  | .request (.programSetSchedule _ schedule) => TextOnly schedule.startFields
  | _ => True

-- An option whose removal cannot be saved is put back behind all others.
def OptionRequest.Proper (outcomes : OptionOutcomes) (customOptions : List (CString × CString)) :
    OptionRequest → Prop
  | .setValue name value => TextOnly name ∧ TextOnly value
  | .remove name => ∀ content front option back, name = .ok content →
      customOptions = front ++ option :: back → strcaseeq option.1 content = true →
      outcomes.save ≠ none → back = [] ∧ outcomes.append = none

-- What program_define writes before anything else can write it.
def freshFile : ConfFile :=
  (programConfigEdits programConfigCreate).foldl ConfEdit.apply OrderedMap.empty

-- No config file is torn, and the requests are proper ones.
def Host.Event.Meets (host : Host) : Host.Event → Prop
  | .world event _ torn => event.Proper ∧ torn = none
  | .programDefine _ _ _ _ left => ∀ file, left = some (some file) → file = freshFile
  | .customOption p request outcomes torn => torn = none ∧ ∀ program,
      host.world.programs.get p = some program →
        request.Proper outcomes program.config.customOptions
  | .restart _ _ => True

-- No config file is left of a program_define that fails, and all programs are loaded.
def Host.Event.Complete : Host.Event → Prop
  | .programDefine _ _ _ _ left => ∀ file, left ≠ some (some file)
  | .restart _ loads => ∀ load ∈ loads, load.creation = none
  | _ => True

end Conditions

section Configs

variable {p : ProgramRef} {c : Context}

theorem programConfigCreate_saveable : programConfigCreate.Saveable where
  executable := by decide
  arguments := by decide
  argumentsLength := by decide
  environment := by decide
  environmentLength := by decide
  workingDirectory := by decide
  stdin := by decide
  stdinFileName := Or.inr (by decide)
  stdout := by decide
  stdoutFileName := Or.inr (by decide)
  stderr := by decide
  stderrFileName := Or.inr (by decide)
  startFields := Or.inr (by decide)
  customOptions := by decide
  customDistinct := by decide

theorem savedString_of_lookup {redirection : ProgramStdioRedirection}
    {fileName : Except APIError CString} {found : Option CString}
    (h : lookupFileName redirection fileName = .ok found) (htext : TextOnly fileName) :
    SavedString (redirection = .file) found := by
  by_cases hfile : redirection = .file
  · obtain ⟨name, hname, rfl, hne⟩ := lookupFileName_ok h hfile
    exact Or.inl ⟨hfile, name, rfl, hne, htext name hname⟩
  · unfold lookupFileName at h
    rw [if_neg hfile] at h
    cases h
    exact Or.inr ⟨hfile, rfl⟩

theorem savedString_of_fields {startMode : ProgramStartMode} {fields : Except APIError CString}
    {found : Option CString} (h : lookupStartFields startMode fields = .ok found)
    (htext : TextOnly fields) : SavedString (startMode = .cron) found := by
  unfold lookupStartFields at h
  split_ifs at h with hcron
  · cases fields with
    | error code => cases h
    | ok content =>
        cases content with
        | nil => cases h
        | cons byte bytes =>
            cases h
            exact Or.inl ⟨hcron, _, rfl, List.cons_ne_nil _ _, htext _ rfl⟩
  · cases h
    exact Or.inr ⟨hcron, rfl⟩

theorem setCommand_saves {command : Command} (hproper : command.Proper)
    (h : c.program.purged = false → c.program.config.Saveable) :
    Saves ProgramSettings.Saveable c (programSetCommand p command c) := by
  refine programSetCommand_saves fun executable arguments environment workingDirectory
    hunpurged hexecutable harguments henvironment hdirectory => ?_
  exact { h hunpurged with
    executable := hproper.executable _ hexecutable
    arguments := (hproper.arguments _ harguments).2
    argumentsLength := (hproper.arguments _ harguments).1
    environment := (hproper.environment _ henvironment).2
    environmentLength := (hproper.environment _ henvironment).1
    workingDirectory := hproper.workingDirectory _ hdirectory }

theorem setStdioRedirection_saves {redirections : Redirections} (hproper : redirections.Proper)
    (h : c.program.purged = false → c.program.config.Saveable) :
    Saves ProgramSettings.Saveable c (programSetStdioRedirection p redirections c) := by
  refine programSetStdioRedirection_saves fun first second third stdinFileName stdoutFileName
    stderrFileName hunpurged hchecked hstdin hstdout hstderr => ?_
  obtain ⟨⟨-, hfirst⟩, ⟨-, hsecond⟩, hthird⟩ := checkRedirections_iff.mp hchecked
  have hpipe : third ≠ .pipe := by
    rintro rfl
    exact hproper.stderr (stdioRedirectionOfByte_pipe_iff.mp hthird)
  exact { h hunpurged with
    stdin := (loads_iff .stdin first).mpr hfirst
    stdinFileName := savedString_of_lookup hstdin hproper.stdinFileName
    stdout := (loads_iff .stdout second).mpr hsecond
    stdoutFileName := savedString_of_lookup hstdout hproper.stdoutFileName
    stderr := (loads_iff .stderr third).mpr (served_stderr_iff.mpr hpipe)
    stderrFileName := savedString_of_lookup hstderr hproper.stderrFileName }

theorem setSchedule_saves {schedule : Schedule} (hproper : TextOnly schedule.startFields)
    (h : c.program.purged = false → c.program.config.Saveable) :
    Saves ProgramSettings.Saveable c (programSetSchedule p schedule c) := by
  refine programSetSchedule_saves fun startMode startFields hunpurged hfields => ?_
  exact { h hunpurged with startFields := savedString_of_fields hfields hproper }

end Configs

section Options

variable {outcomes : OptionOutcomes} {customOptions : List (CString × CString)}

-- The custom options that can be saved.
structure OptionsSaveable (customOptions : List (CString × CString)) : Prop where
  texts : ∀ option ∈ customOptions, 0 ∉ option.1 ∧ 0 ∉ option.2
  distinct : (customOptions.map fun option => fold option.1).Nodup

theorem findCustomOption_some {name : CString} {index : Nat}
    (h : programFindCustomOption customOptions name = some index) :
    ∃ front option back, customOptions = front ++ option :: back ∧ front.length = index ∧
      strcaseeq option.1 name = true := by
  obtain ⟨hlt, hname, -⟩ := List.findIdx?_eq_some_iff_getElem.mp h
  refine ⟨customOptions.take index, customOptions[index], customOptions.drop (index + 1), ?_,
    by rw [List.length_take, Nat.min_eq_left (Nat.le_of_lt hlt)], hname⟩
  rw [List.getElem_cons_drop, List.take_append_drop]

theorem findCustomOption_none {name : CString}
    (h : programFindCustomOption customOptions name = none) :
    fold name ∉ customOptions.map fun option => fold option.1 := by
  intro hmem
  obtain ⟨option, hoption, hsame⟩ := List.mem_map.mp hmem
  have hnone := List.findIdx?_eq_none_iff.mp h option hoption
  rw [strcaseeq, hsame, decide_eq_true rfl] at hnone
  cases hnone

theorem modify_append {α : Type} (front : List α) (a : α) (back : List α) (f : α → α) :
    (front ++ a :: back).modify front.length f = front ++ f a :: back := by
  induction front with
  | nil => rfl
  | cons first front ih => exact congrArg (first :: ·) ih

theorem setOption_saves {name value : CString} (hname : 0 ∉ name) (hvalue : 0 ∉ value)
    (h : OptionsSaveable customOptions) :
    let result := programSetCustomOptionValue outcomes customOptions name value
    OptionsSaveable result.2 ∧ (result.1 ≠ .success → result.2 = customOptions) := by
  unfold programSetCustomOptionValue
  cases hfind : programFindCustomOption customOptions name with
  | none =>
      cases outcomes.append with
      | some code => exact ⟨h, fun _ => rfl⟩
      | none =>
          cases outcomes.save with
          | some code => exact ⟨h, fun _ => rfl⟩
          | none =>
              refine ⟨⟨fun option hoption => ?_, ?_⟩, fun hcode => absurd rfl hcode⟩
              · rcases List.mem_append.mp hoption with hold | hnew
                · exact h.texts option hold
                · cases List.mem_singleton.mp hnew
                  exact ⟨hname, hvalue⟩
              · rw [List.map_append]
                refine h.distinct.append (List.nodup_singleton _) fun key hold hnew => ?_
                rw [List.map_singleton, List.mem_singleton] at hnew
                exact findCustomOption_none hfind (hnew ▸ hold)
  | some index =>
      cases outcomes.save with
      | some code => exact ⟨h, fun _ => rfl⟩
      | none =>
          obtain ⟨front, option, back, rfl, rfl, -⟩ := findCustomOption_some hfind
          dsimp only
          rw [modify_append]
          refine ⟨⟨fun other hother => ?_, ?_⟩, fun hcode => absurd rfl hcode⟩
          · rcases List.mem_append.mp hother with hfront | hback
            · exact h.texts other (List.mem_append_left _ hfront)
            · rcases List.mem_cons.mp hback with rfl | hback
              · exact ⟨(h.texts option (by simp)).1, hvalue⟩
              · exact h.texts other (List.mem_append_right _ (List.mem_cons_of_mem _ hback))
          · have hdistinct := h.distinct
            rw [List.map_append, List.map_cons] at hdistinct ⊢
            exact hdistinct

theorem removeOption_saves {name : CString} (h : OptionsSaveable customOptions)
    (hproper : OptionRequest.Proper outcomes customOptions (.remove (.ok name))) :
    let result := programRemoveCustomOption outcomes customOptions name
    OptionsSaveable result.2 ∧ (result.1 ≠ .success → result.2 = customOptions) := by
  unfold programRemoveCustomOption
  cases hfind : programFindCustomOption customOptions name with
  | none => exact ⟨h, fun _ => rfl⟩
  | some index =>
      obtain ⟨front, option, back, hsplit, rfl, hname⟩ := findCustomOption_some hfind
      have herase : customOptions.eraseIdx front.length = front ++ back := by
        rw [hsplit, List.eraseIdx_append_of_length_le (Nat.le_refl _), Nat.sub_self]
        rfl
      cases hsave : outcomes.save with
      | none =>
          refine ⟨⟨fun other hother => ?_, ?_⟩, fun hcode => absurd rfl hcode⟩
          · exact h.texts other ((List.eraseIdx_sublist _ _).subset hother)
          · exact h.distinct.sublist ((List.eraseIdx_sublist _ _).map _)
      | some code =>
          obtain ⟨rfl, happend⟩ := hproper name front option back rfl hsplit hname (by simp [hsave])
          have hback : customOptions.eraseIdx front.length ++ customOptions[front.length]?.toList =
              customOptions := by
            rw [herase, hsplit, List.append_nil]
            simp
          dsimp only
          rw [happend]
          dsimp only
          rw [hback]
          exact ⟨h, fun _ => rfl⟩

-- A request that fails leaves the custom options as they are.
theorem optionRequest_saves {request : OptionRequest} (h : OptionsSaveable customOptions)
    (hproper : request.Proper outcomes customOptions) :
    let result := request.run outcomes customOptions
    OptionsSaveable result.2 ∧ (result.1 ≠ .success → result.2 = customOptions) := by
  cases request with
  | setValue name value =>
      cases name with
      | error code => exact ⟨h, fun _ => rfl⟩
      | ok name =>
          cases value with
          | error code => exact ⟨h, fun _ => rfl⟩
          | ok value => exact setOption_saves (hproper.1 _ rfl) (hproper.2 _ rfl) h
  | remove name =>
      cases name with
      | error code => exact ⟨h, fun _ => rfl⟩
      | ok name => exact removeOption_saves h hproper

end Options

section Invariant

variable {programsDirectory : CString} {host : Host} {w w' : World} {p : ProgramRef}

-- What a restart finds of a program.
def Host.Stores (programsDirectory : CString) (directories : ProgramsDirectory)
    (identity : ProgramIdentity) : Prop :=
  identity.rootDirectory = Host.rootDirectory programsDirectory identity.identifier ∧
    programIsValidIdentifier identity.identifier = true ∧
    ∃ file, directories.get identity.identifier = some (some file) ∧
      programConfigLoad file = identity.config

-- What holds between two events.
structure Host.Sound (programsDirectory : CString) (host : Host) : Prop where
  loadable : ∀ identifier file, host.directories.get identifier = some (some file) →
    (programConfigLoad file).Saveable
  stored : ∀ p program, host.world.programs.get p = some program → program.purged = false →
    Host.Stores programsDirectory host.directories program.identity
  distinct : ∀ p q program other, host.world.programs.get p = some program →
    host.world.programs.get q = some other → program.purged = false → other.purged = false →
    program.identifier = other.identifier → p = q

namespace Host.Sound

theorem saveable (h : host.Sound programsDirectory) {program : Program}
    (hget : host.world.programs.get p = some program) (hpurged : program.purged = false) :
    program.config.Saveable := by
  obtain ⟨-, -, file, hfile, hconfig⟩ := h.stored p program hget hpurged
  exact (show programConfigLoad file = program.config from hconfig) ▸ h.loadable _ file hfile

theorem keeps (h : host.Sound programsDirectory) (hkeeps : host.world.Keeps w) :
    Host.Sound programsDirectory ⟨w, host.directories⟩ where
  loadable := h.loadable
  stored q program' hget' hpurged := by
    obtain ⟨program, hget, hsame⟩ := hkeeps q program' hget'
    rw [hsame]
    exact h.stored q program hget ((congrArg ProgramIdentity.purged hsame).symm.trans hpurged)
  distinct q r program' other' hget' hother' hpurged hpurged' hsame := by
    obtain ⟨program, hget, hprogram⟩ := hkeeps q program' hget'
    obtain ⟨other, hother, hsecond⟩ := hkeeps r other' hother'
    refine h.distinct q r program other hget hother
      ((congrArg ProgramIdentity.purged hprogram).symm.trans hpurged)
      ((congrArg ProgramIdentity.purged hsecond).symm.trans hpurged') ?_
    have hfirst := congrArg ProgramIdentity.identifier hprogram
    have hlast := congrArg ProgramIdentity.identifier hsecond
    exact hfirst.symm.trans (hsame.trans hlast)

-- The directory of one program changes, together with the program.
theorem replace (h : host.Sound programsDirectory) {program program' : Program}
    {directories : ProgramsDirectory} (hget : host.world.programs.get p = some program)
    (hget' : ∀ q, w.programs.get q = if q = p then some program' else host.world.programs.get q)
    (hpurged : program.purged = false) (hidentifier : program'.identifier = program.identifier)
    (hloadable : ∀ identifier file, directories.get identifier = some (some file) →
      (programConfigLoad file).Saveable)
    (hstored : program'.purged = false →
      Host.Stores programsDirectory directories program'.identity)
    (hothers : ∀ identifier, identifier ≠ program.identifier →
      directories.get identifier = host.directories.get identifier) :
    Host.Sound programsDirectory ⟨w, directories⟩ where
  loadable := hloadable
  stored q other hother hpurged' := by
    change w.programs.get q = some other at hother
    rw [hget'] at hother
    by_cases hq : q = p
    · rw [if_pos hq] at hother
      cases hother
      exact hstored hpurged'
    · rw [if_neg hq] at hother
      obtain ⟨hroot, hvalid, file, hfile, hconfig⟩ := h.stored q other hother hpurged'
      refine ⟨hroot, hvalid, file, ?_, hconfig⟩
      refine (hothers _ fun hsame => hq ?_).trans hfile
      exact h.distinct q p other program hother hget hpurged' hpurged hsame
  distinct q r first second hfirst hsecond hpurged₁ hpurged₂ hsame := by
    change w.programs.get q = some first at hfirst
    change w.programs.get r = some second at hsecond
    rw [hget'] at hfirst hsecond
    by_cases hq : q = p
    · by_cases hr : r = p
      · exact hq.trans hr.symm
      · rw [if_pos hq] at hfirst
        rw [if_neg hr] at hsecond
        cases hfirst
        exact hq.trans (h.distinct p r program second hget hsecond hpurged hpurged₂
          (hidentifier.symm.trans hsame))
    · rw [if_neg hq] at hfirst
      by_cases hr : r = p
      · rw [if_pos hr] at hsecond
        cases hsecond
        exact (h.distinct q p first program hfirst hget hpurged₁ hpurged
          (hsame.trans hidentifier)).trans hr.symm
      · rw [if_neg hr] at hsecond
        exact h.distinct q r first second hfirst hsecond hpurged₁ hpurged₂ hsame

theorem save_loadable (h : host.Sound programsDirectory) {config : ProgramSettings}
    (hconfig : config.Saveable) (identifier : CString) :
    ∀ other file, (programConfigSave identifier config host.directories).get other =
      some (some file) → (programConfigLoad file).Saveable := by
  intro other file hfile
  unfold programConfigSave at hfile
  by_cases hother : other = identifier
  · subst hother
    rw [OrderedMap.get_set_self] at hfile
    cases hfile
    rw [load_edits hconfig]
    exact hconfig
  · rw [OrderedMap.get_set_of_ne _ _ hother] at hfile
    exact h.loadable other file hfile

theorem save_stores {config : ProgramSettings} (hconfig : config.Saveable) (identifier : CString)
    (directories : ProgramsDirectory) :
    ∃ file, (programConfigSave identifier config directories).get identifier = some (some file) ∧
      programConfigLoad file = config :=
  ⟨_, OrderedMap.get_set_self _ _ _, load_edits hconfig _⟩

-- A program whose config has just been saved.
theorem save (h : host.Sound programsDirectory) {program program' : Program}
    {config : ProgramSettings} (hconfig : config.Saveable)
    (hget : host.world.programs.get p = some program)
    (hget' : ∀ q, w.programs.get q = if q = p then some program' else host.world.programs.get q)
    (hpurged : program.purged = false)
    (hidentity : program'.identity = { program.identity with config }) :
    Host.Sound programsDirectory
      ⟨w, programConfigSave program.identifier config host.directories⟩ := by
  obtain ⟨hroot, hvalid, -⟩ := h.stored p program hget hpurged
  refine h.replace hget hget' hpurged (congrArg ProgramIdentity.identifier hidentity)
    (h.save_loadable hconfig _) (fun _ => ?_) fun identifier hne =>
      OrderedMap.get_set_of_ne _ _ hne
  rw [hidentity]
  exact ⟨hroot, hvalid, save_stores hconfig _ _⟩

end Host.Sound

end Invariant

section Steps

variable {programsDirectory : CString} {host host' : Host} {w w' : World} {p : ProgramRef}
  {outcomes : Outcomes}

theorem createProgram_get (id : ObjectID) (identifier root : CString) (config : ProgramSettings)
    (externalReferenceCount : Nat) :
    ∃ program : Program, program.identity = ⟨identifier, root, false, config⟩ ∧
      ∀ q, (w.createProgram id identifier root config externalReferenceCount
        outcomes).programs.get q = if q = w.programs.next then some program
          else w.programs.get q := by
  unfold World.createProgram
  dsimp only
  generalize hnew : (⟨id, false, identifier, root, config, programSchedulerCreate config w.daemon, 1,
    externalReferenceCount, 0⟩ : Program) = new
  have hget : ({ w with programs := w.programs.alloc new } : World).programs.get w.programs.next =
      some new := Heap.get_alloc_next _ _
  rw [World.run_eq hget]
  have hkeeps := @update_identity w.programs.next
    (World.context { w with programs := w.programs.alloc new } new outcomes) true
  refine ⟨_, Eq.trans hkeeps ?_, fun q => ?_⟩
  · rw [← hnew]
    rfl
  · dsimp only
    rw [World.get_put hget]
    split_ifs with hq
    · rfl
    · exact (Heap.get_alloc _ _ _).trans (if_neg hq)

theorem Host.Sound.create (h : host.Sound programsDirectory) {program : Program}
    {directories : ProgramsDirectory}
    (hget' : ∀ q, w.programs.get q = if q = host.world.programs.next then some program
      else host.world.programs.get q)
    (hloadable : ∀ identifier file, directories.get identifier = some (some file) →
      (programConfigLoad file).Saveable)
    (hstored : Host.Stores programsDirectory directories program.identity)
    (hothers : ∀ identifier, identifier ≠ program.identifier →
      directories.get identifier = host.directories.get identifier)
    (hfresh : ∀ q other, host.world.programs.get q = some other → other.purged = false →
      other.identifier ≠ program.identifier) :
    Host.Sound programsDirectory ⟨w, directories⟩ where
  loadable := hloadable
  stored q other hother hpurged := by
    change w.programs.get q = some other at hother
    rw [hget'] at hother
    split_ifs at hother with hq
    · cases hother
      exact hstored
    · obtain ⟨hroot, hvalid, file, hfile, hconfig⟩ := h.stored q other hother hpurged
      exact ⟨hroot, hvalid, file, (hothers _ (hfresh q other hother hpurged)).trans hfile, hconfig⟩
  distinct q r first second hfirst hsecond hpurged₁ hpurged₂ hsame := by
    change w.programs.get q = some first at hfirst
    change w.programs.get r = some second at hsecond
    rw [hget'] at hfirst hsecond
    split_ifs at hfirst with hq
    · cases hfirst
      split_ifs at hsecond with hr
      · exact hq.trans hr.symm
      · exact absurd hsame.symm (hfresh r second hsecond hpurged₂)
    · split_ifs at hsecond with hr
      · cases hsecond
        exact absurd hsame (hfresh q first hfirst hpurged₁)
      · exact h.distinct q r first second hfirst hsecond hpurged₁ hpurged₂ hsame

-- The directories behind a setter or program_purge of a program that is there.
theorem Host.saved_eq {program : Program} (hget : host.world.programs.get p = some program)
    (setter : Context → APIE × Context) (torn : Option ConfFile) :
    host.saved p setter outcomes torn =
      if program.purged then host.directories
      else if (setter (host.world.context program outcomes)).1 = .success then
        programConfigSave program.identifier
          (setter (host.world.context program outcomes)).2.program.config host.directories
      else host.tear program.identifier torn := by
  unfold Host.saved
  rw [hget]
  rfl

theorem Host.moved_eq {program : Program} (hget : host.world.programs.get p = some program)
    (cookie : UInt32) (renames : List RenameResult) :
    host.moved p cookie renames outcomes =
      if (programPurge p cookie renames (host.world.context program outcomes)).1 = .success then
        host.directories.removeAll (· = program.identifier)
      else host.directories := by
  unfold Host.moved
  rw [hget]
  rfl

theorem get_removed (directories : ProgramsDirectory) (name identifier : CString) :
    (directories.removeAll (· = name)).get identifier =
      if identifier = name then none else directories.get identifier := by
  have hremoved := @OrderedMap.get_removeAll _ _ _ _ id directories identifier
    (fun other => decide (other = name)) fun other hother => by
      rw [show other = identifier from hother]
  simp only [decide_eq_true_eq] at hremoved
  exact hremoved

theorem Host.Sound.set (h : host.Sound programsDirectory)
    (hsome : (host.world.programs.get p).isSome = true) {setter : Context → APIE × Context}
    (hsaves : ∀ c : Context, (c.program.purged = false → c.program.config.Saveable) →
      Saves ProgramSettings.Saveable c (setter c)) :
    Host.Sound programsDirectory ⟨(host.world.run p (fun c => (setter c).2) outcomes).1,
      host.saved p setter outcomes none⟩ := by
  obtain ⟨program, hget⟩ := Option.isSome_iff_exists.mp hsome
  have hcases := hsaves (host.world.context program outcomes) fun hpurged => h.saveable hget hpurged
  rw [World.run_eq hget, Host.saved_eq hget]
  dsimp only
  generalize setter (host.world.context program outcomes) = result at hcases ⊢
  cases hcases with
  | kept hfailed hkeeps =>
      rw [if_neg hfailed, show host.tear program.identifier none = host.directories from rfl,
        ite_self]
      exact h.keeps (World.replaceProgram_identity hget hkeeps _ _)
  | @saved c' config hconfig hunpurged hidentity =>
      have hunpurged' : program.purged = false := hunpurged
      have hsame : c'.program.config = config := congrArg ProgramIdentity.config hidentity
      rw [if_neg (by simp [hunpurged']), if_pos rfl, hsame]
      exact h.save hconfig hget (World.get_put hget c') hunpurged' hidentity

theorem Host.Sound.purge (h : host.Sound programsDirectory)
    (hsome : (host.world.programs.get p).isSome = true) (cookie : UInt32)
    (renames : List RenameResult) :
    Host.Sound programsDirectory ⟨host.world.programPurge outcomes p cookie renames,
      host.moved p cookie renames outcomes⟩ := by
  obtain ⟨program, hget⟩ := Option.isSome_iff_exists.mp hsome
  have hcases := @programPurge_identity p (host.world.context program outcomes) cookie renames
  rw [World.programPurge_eq hget, Host.moved_eq hget]
  by_cases hpurged : program.purged = true
  · have hfailed : (programPurge p cookie renames (host.world.context program outcomes)).1 ≠
        .success := by
      unfold programPurge
      rw [if_pos (show (host.world.context program outcomes).program.purged = true from hpurged)]
      intro hsuccess
      cases hsuccess
    rw [if_neg hfailed, if_neg hfailed]
    rcases hcases with ⟨hsuccess, -⟩ | ⟨-, hkeeps⟩
    · exact absurd hsuccess hfailed
    · exact h.keeps (World.replaceProgram_identity hget hkeeps _ _)
  rcases hcases with ⟨hsuccess, hidentity⟩ | ⟨hfailed, hkeeps⟩
  · rw [if_pos hsuccess, if_pos hsuccess]
    generalize programPurge p cookie renames (host.world.context program outcomes) = result
      at hidentity ⊢
    have hreplaced : Host.Sound programsDirectory ⟨host.world.put p result.2,
        host.directories.removeAll (· = program.identifier)⟩ := by
      refine h.replace hget (World.get_put hget result.2) (Bool.eq_false_iff.mpr hpurged)
        (congrArg ProgramIdentity.identifier hidentity) (fun identifier file hfile => ?_)
        (fun hunpurged => ?_) fun identifier hne => by rw [get_removed, if_neg hne]
      · rw [get_removed] at hfile
        split_ifs at hfile
        exact h.loadable identifier file hfile
      · have hnow : result.2.program.purged = true := congrArg ProgramIdentity.purged hidentity
        rw [hunpurged] at hnow
        cases hnow
    exact hreplaced.keeps (World.removeProgramInternalReference_identity p _)
  · rw [if_neg hfailed, if_neg hfailed]
    exact h.keeps (World.replaceProgram_identity hget hkeeps _ _)

-- Whatever program_define leaves of a failure can be loaded.
theorem Host.Sound.leave (h : host.Sound programsDirectory) {identifier : CString}
    {directory : Option ConfFile} (hfree : host.directories.get identifier = none)
    (hleft : ∀ file, directory = some file → file = freshFile) :
    Host.Sound programsDirectory ⟨host.world, host.directories.set identifier directory⟩ where
  loadable other file hfile := by
    change (host.directories.set identifier directory).get other = some (some file) at hfile
    by_cases hother : other = identifier
    · rw [hother, OrderedMap.get_set_self] at hfile
      rw [hleft file (Option.some.inj hfile), freshFile, load_edits programConfigCreate_saveable]
      exact programConfigCreate_saveable
    · rw [OrderedMap.get_set_of_ne _ _ hother] at hfile
      exact h.loadable other file hfile
  stored q program hget hpurged := by
    obtain ⟨hroot, hvalid, file, hfile, hconfig⟩ := h.stored q program hget hpurged
    refine ⟨hroot, hvalid, file, ?_, hconfig⟩
    refine (OrderedMap.get_set_of_ne _ _ fun hsame => ?_).trans hfile
    rw [show program.identity.identifier = identifier from hsame, hfree] at hfile
    cases hfile
  distinct := h.distinct

-- What program_define makes of the programs and of the directories.
theorem define_cases {identifier : CString} {id : ObjectID} {creation : Option APIError}
    {left : Option (Option ConfFile)}
    (hnext : host.define programsDirectory identifier id creation outcomes left = some host') :
    host.world.next (.request (.programDefine programsDirectory identifier id creation),
        outcomes) = some host'.world ∧
      ((programIsValidIdentifier identifier = true ∧ host.directories.get identifier = none ∧
          host'.directories =
            programConfigSave identifier programConfigCreate host.directories ∧
          ∃ program : Program, program.identity =
              ⟨identifier, programsDirectory ++ ascii "/" ++ identifier, false,
                programConfigCreate⟩ ∧
            ∀ q, host'.world.programs.get q =
              if q = host.world.programs.next then some program else host.world.programs.get q) ∨
        host'.world = host.world ∧
          (host'.directories = host.directories ∨ ∃ directory, left = some directory ∧
            host.directories.get identifier = none ∧
            host'.directories = host.directories.set identifier directory)) := by
  unfold Host.define at hnext
  dsimp only at hnext
  cases hworld : host.world.next
      (.request (.programDefine programsDirectory identifier id creation), outcomes) with
  | none =>
      rw [hworld] at hnext
      cases hnext
  | some w =>
      rw [hworld] at hnext
      dsimp only at hnext
      obtain ⟨-, hrequest⟩ := Option.ite_none_right_eq_some.mp (World.next_step hworld).2
      obtain ⟨-, hdefine⟩ := Option.ite_none_right_eq_some.mp hrequest
      have hw := Option.some.inj hdefine
      unfold World.programDefine at hw
      split_ifs at hnext with hvalid
      · cases creation with
        | none =>
            rw [if_pos ⟨hvalid, rfl⟩] at hw
            cases hfree : host.directories.get identifier with
            | some directory =>
                rw [hfree] at hnext
                cases hnext
            | none =>
                rw [hfree] at hnext
                cases hnext
                obtain ⟨program, hidentity, hget'⟩ := @createProgram_get host.world outcomes id
                  identifier (programsDirectory ++ ascii "/" ++ identifier) programConfigCreate 1
                rw [hw] at hget'
                exact ⟨rfl, Or.inl ⟨hvalid, rfl, rfl, program, hidentity, hget'⟩⟩
        | some code =>
            rw [if_neg fun hboth => by cases hboth.2] at hw
            subst hw
            cases left with
            | none =>
                cases hnext
                exact ⟨rfl, Or.inr ⟨rfl, Or.inl rfl⟩⟩
            | some directory =>
                cases hfree : host.directories.get identifier with
                | some other =>
                    rw [hfree] at hnext
                    cases hnext
                | none =>
                    rw [hfree] at hnext
                    cases hnext
                    exact ⟨rfl, Or.inr ⟨rfl, Or.inr ⟨directory, rfl, rfl, rfl⟩⟩⟩
      · rw [if_neg fun hboth => hvalid hboth.1] at hw
        cases hnext
        exact ⟨rfl, Or.inr ⟨hw.symm, Or.inl rfl⟩⟩

theorem Host.Sound.define (h : host.Sound programsDirectory) {identifier : CString} {id : ObjectID}
    {creation : Option APIError} {left : Option (Option ConfFile)}
    (hleft : ∀ file, left = some (some file) → file = freshFile)
    (hnext : host.define programsDirectory identifier id creation outcomes left = some host') :
    host'.Sound programsDirectory := by
  obtain ⟨-, hcases⟩ := define_cases hnext
  obtain ⟨w, directories⟩ := host'
  dsimp only at hcases
  rcases hcases with ⟨hvalid, hfree, rfl, program, hidentity, hget'⟩ | ⟨rfl, hkept⟩
  · have hname : program.identifier = identifier := congrArg ProgramIdentity.identifier hidentity
    refine h.create hget' (h.save_loadable programConfigCreate_saveable _) ?_
      (fun other hne => OrderedMap.get_set_of_ne _ _ (hname ▸ hne)) ?_
    · rw [hidentity]
      exact ⟨rfl, hvalid, Host.Sound.save_stores programConfigCreate_saveable _ _⟩
    · intro q other hother hpurged hsame
      obtain ⟨-, -, file, hfile, -⟩ := h.stored q other hother hpurged
      rw [show other.identity.identifier = identifier from hsame.trans hname, hfree] at hfile
      cases hfile
  · rcases hkept with rfl | ⟨directory, hdirectory, hfree, rfl⟩
    · exact h
    · exact h.leave hfree fun file hfile => hleft file (hdirectory.trans (congrArg some hfile))

-- What a custom option makes of them.
theorem setOptions_cases {request : OptionRequest} {optionOutcomes : OptionOutcomes}
    {torn : Option ConfFile} (hnext : host.setOptions p request optionOutcomes torn = some host') :
    host' = host ∨ ∃ program code customOptions, host.world.programs.get p = some program ∧
      program.purged = false ∧
      request.run optionOutcomes program.config.customOptions = (code, customOptions) ∧
      host.world.next (.request (.programSetCustomOptions p customOptions), .succeed) =
        some host'.world ∧
      (∀ q, host'.world.programs.get q =
        if q = p then some { program with config := { program.config with customOptions } }
        else host.world.programs.get q) ∧
      host'.directories =
        if code = .success then
          programConfigSave program.identifier { program.config with customOptions }
            host.directories
        else host.tear program.identifier torn := by
  unfold Host.setOptions at hnext
  cases hget : host.world.programs.get p with
  | none =>
      rw [hget] at hnext
      cases hnext
  | some program =>
      rw [hget] at hnext
      dsimp only at hnext
      by_cases hpurged : program.purged = true
      · rw [if_pos hpurged] at hnext
        cases hnext
        exact Or.inl rfl
      rw [if_neg hpurged] at hnext
      cases hrun : request.run optionOutcomes program.config.customOptions with
      | mk code customOptions =>
          rw [hrun] at hnext
          dsimp only at hnext
          refine Or.inr ⟨program, code, customOptions, rfl, Bool.eq_false_iff.mpr hpurged, hrun, ?_⟩
          cases hworld : host.world.next
              (.request (.programSetCustomOptions p customOptions), .succeed) with
          | none =>
              rw [hworld] at hnext
              cases hnext
          | some w =>
              rw [hworld] at hnext
              obtain ⟨-, hrequest⟩ := Option.ite_none_right_eq_some.mp (World.next_step hworld).2
              have hw := Option.some.inj hrequest
              have hget' : ∀ q, w.programs.get q =
                  if q = p then some { program with config := { program.config with customOptions } }
                  else host.world.programs.get q := by
                intro q
                rw [← hw]
                exact World.modifyProgram_get hget _ q
              split_ifs at hnext with hcode
              · cases hnext
                exact ⟨rfl, hget', (if_pos hcode).symm⟩
              · cases hnext
                exact ⟨rfl, hget', (if_neg hcode).symm⟩

theorem Host.Sound.setOptions (h : host.Sound programsDirectory) {request : OptionRequest}
    {optionOutcomes : OptionOutcomes}
    (hproper : ∀ program, host.world.programs.get p = some program →
      request.Proper optionOutcomes program.config.customOptions)
    (hnext : host.setOptions p request optionOutcomes none = some host') :
    host'.Sound programsDirectory := by
  rcases setOptions_cases hnext with
    rfl | ⟨program, code, customOptions, hget, hunpurged, hrun, -, hget', hdirectories⟩
  · exact h
  · obtain ⟨w, directories⟩ := host'
    dsimp only at hget' hdirectories
    subst hdirectories
    have hsaveable := h.saveable hget hunpurged
    have hsaves := optionRequest_saves ⟨hsaveable.customOptions, hsaveable.customDistinct⟩
      (hproper program hget)
    rw [hrun] at hsaves
    obtain ⟨hoptions, hfailed⟩ := hsaves
    split_ifs with hcode
    · exact h.save ⟨hsaveable.executable, hsaveable.arguments, hsaveable.argumentsLength,
        hsaveable.environment, hsaveable.environmentLength, hsaveable.workingDirectory,
        hsaveable.stdin, hsaveable.stdinFileName, hsaveable.stdout, hsaveable.stdoutFileName,
        hsaveable.stderr, hsaveable.stderrFileName, hsaveable.startFields, hoptions.texts,
        hoptions.distinct⟩ hget hget' hunpurged rfl
    · refine h.keeps fun q program' hq => ?_
      rw [hget'] at hq
      split_ifs at hq with hsame
      · cases hq
        refine ⟨program, hsame ▸ hget, ?_⟩
        rw [show customOptions = _ from hfailed hcode]
      · exact ⟨program', hq, rfl⟩

-- Only the setters and program_purge reach the directories.
theorem Host.stored_cases {event : World.Event} {torn : Option ConfFile}
    {directories : ProgramsDirectory} (hstep : host.world.step outcomes event = some w)
    (hstored : host.stored outcomes torn event = some directories) :
    (directories = host.directories ∧ host.world.Keeps w ∧
      (host.world.Counted → host.world.Stays w)) ∨
    (∃ p setter, (host.world.programs.get p).isSome = true ∧
      w = (host.world.run p (fun c => (setter c).2) outcomes).1 ∧
      directories = host.saved p setter outcomes torn ∧
      ((∃ command, event = .request (.programSetCommand p command) ∧
          setter = programSetCommand p command) ∨
        (∃ redirections, event = .request (.programSetStdioRedirection p redirections) ∧
          setter = programSetStdioRedirection p redirections) ∨
        ∃ schedule, event = .request (.programSetSchedule p schedule) ∧
          setter = programSetSchedule p schedule)) ∨
    ∃ p cookie renames, (host.world.programs.get p).isSome = true ∧
      w = host.world.programPurge outcomes p cookie renames ∧
      directories = host.moved p cookie renames outcomes := by
  cases event with
  | programLoad _ _ _ _ _ => cases hstored
  | request request =>
      cases request with
      | programDefine _ _ _ _ | programSetCustomOptions _ _ => cases hstored
      | programSetCommand p command =>
          cases hstored
          obtain ⟨-, hrequest⟩ := Option.ite_none_right_eq_some.mp hstep
          obtain ⟨hsome, ⟨⟩⟩ := Option.ite_none_right_eq_some.mp hrequest
          exact Or.inr (Or.inl ⟨p, _, hsome, rfl, rfl, Or.inl ⟨command, rfl, rfl⟩⟩)
      | programSetStdioRedirection p redirections =>
          cases hstored
          obtain ⟨-, hrequest⟩ := Option.ite_none_right_eq_some.mp hstep
          obtain ⟨hsome, ⟨⟩⟩ := Option.ite_none_right_eq_some.mp hrequest
          exact Or.inr (Or.inl ⟨p, _, hsome, rfl, rfl, Or.inr (Or.inl ⟨redirections, rfl, rfl⟩)⟩)
      | programSetSchedule p schedule =>
          cases hstored
          obtain ⟨-, hrequest⟩ := Option.ite_none_right_eq_some.mp hstep
          obtain ⟨hsome, ⟨⟩⟩ := Option.ite_none_right_eq_some.mp hrequest
          exact Or.inr (Or.inl ⟨p, _, hsome, rfl, rfl, Or.inr (Or.inr ⟨schedule, rfl, rfl⟩)⟩)
      | programPurge p cookie renames =>
          cases hstored
          obtain ⟨-, hrequest⟩ := Option.ite_none_right_eq_some.mp hstep
          obtain ⟨hsome, ⟨⟩⟩ := Option.ite_none_right_eq_some.mp hrequest
          exact Or.inr (Or.inr ⟨p, cookie, renames, hsome, rfl, rfl⟩)
      | _ =>
          cases hstored
          refine Or.inl ⟨rfl, World.step_continues (fun _ _ _ _ _ hevent => by cases hevent)
            (fun other hevent => ?_) hstep⟩
          cases hevent
          rfl
  | _ =>
      cases hstored
      exact Or.inl ⟨rfl, World.step_continues (fun _ _ _ _ _ hevent => by cases hevent)
        (fun _ hevent => by cases hevent) hstep⟩

theorem Host.Sound.world (h : host.Sound programsDirectory) {event : World.Event}
    {directories : ProgramsDirectory} (hproper : event.Proper)
    (hnext : host.world.next (event, outcomes) = some w)
    (hstored : host.stored outcomes none event = some directories) :
    Host.Sound programsDirectory ⟨w, directories⟩ := by
  rcases Host.stored_cases (World.next_step hnext).2 hstored with
    ⟨rfl, hkeeps, -⟩ | ⟨p, setter, hsome, rfl, rfl, hsetter⟩ | ⟨p, cookie, renames, hsome, rfl, rfl⟩
  · exact h.keeps hkeeps
  · rcases hsetter with ⟨command, rfl, rfl⟩ | ⟨redirections, rfl, rfl⟩ | ⟨schedule, rfl, rfl⟩
    · exact h.set hsome fun c hc => setCommand_saves hproper hc
    · exact h.set hsome fun c hc => setStdioRedirection_saves hproper hc
    · exact h.set hsome fun c hc => setSchedule_saves hproper hc
  · exact h.purge hsome cookie renames

end Steps

section Loading

variable {programsDirectory : CString} {directories : ProgramsDirectory} {w w' : World}
  {outcomes : Outcomes}

theorem programLoad_next {name root : CString} {file : ConfFile} {id : ObjectID}
    {creation : Option APIError}
    (hnext : w.next (.programLoad name root file id creation, outcomes) = some w') :
    (programIsValidIdentifier name = true ∧ creation = none ∧ ∃ program : Program,
        program.identity = ⟨name, root, false, programConfigLoad file⟩ ∧
        ∀ q, w'.programs.get q = if q = w.programs.next then some program
          else w.programs.get q) ∨
      ¬(programIsValidIdentifier name = true ∧ creation = none) ∧ w' = w := by
  obtain ⟨-, hload⟩ := Option.ite_none_right_eq_some.mp (World.next_step hnext).2
  have hw := Option.some.inj hload
  unfold World.programLoad at hw
  split_ifs at hw with hboth
  · obtain ⟨program, hidentity, hget'⟩ := @createProgram_get w outcomes id name root
      (programConfigLoad file) 0
    rw [hw] at hget'
    exact Or.inl ⟨hboth.1, hboth.2, program, hidentity, hget'⟩
  · exact Or.inr ⟨hboth, hw.symm⟩

-- What the start of the daemon has made of the directories.
structure Loaded (programsDirectory : CString) (directories : ProgramsDirectory)
    (loads : List Load) (w w' : World) : Prop where
  kept : ∀ q program, w.programs.get q = some program → w'.programs.get q = some program
  old : ∀ q program, w'.programs.get q = some program → w.programs.get q = some program ∨
    program.purged = false ∧ program.identifier ∈ loads.map (·.name) ∧
      Host.Stores programsDirectory directories program.identity
  new : ∀ load ∈ loads, load.creation = none → ∀ identity, identity.identifier = load.name →
    identity.purged = false → Host.Stores programsDirectory directories identity →
      ∃ q program, w'.programs.get q = some program ∧ program.identity = identity
  distinct : (loads.map (·.name)).Nodup →
    (∀ q program, w.programs.get q = some program →
      program.identifier ∉ loads.map (·.name)) →
    (∀ q r program other, w.programs.get q = some program → w.programs.get r = some other →
      program.identifier = other.identifier → q = r) →
    ∀ q r program other, w'.programs.get q = some program → w'.programs.get r = some other →
      program.identifier = other.identifier → q = r

-- A directory that no program comes from.
theorem Loaded.skip {load : Load} {loads : List Load}
    (hnot : load.creation = none → ∀ identity, identity.identifier = load.name →
      ¬Host.Stores programsDirectory directories identity)
    (h : Loaded programsDirectory directories loads w w') :
    Loaded programsDirectory directories (load :: loads) w w' where
  kept := h.kept
  old q program hget := by
    rcases h.old q program hget with hold | ⟨hpurged, hmem, hstores⟩
    · exact Or.inl hold
    · exact Or.inr ⟨hpurged, List.mem_cons_of_mem _ hmem, hstores⟩
  new other hother hcreation identity hname hpurged hstores := by
    rcases List.mem_cons.mp hother with rfl | hother
    · exact absurd hstores (hnot hcreation identity hname)
    · exact h.new other hother hcreation identity hname hpurged hstores
  distinct hnodup hfresh hbefore := by
    rw [List.map_cons] at hnodup
    exact h.distinct (List.nodup_cons.mp hnodup).2
      (fun q program hget hmem => hfresh q program hget (List.mem_cons_of_mem _ hmem)) hbefore

-- A directory that a program comes from.
theorem Loaded.add {load : Load} {loads : List Load} {w₁ : World} {program : Program}
    (hget₁ : ∀ q, w₁.programs.get q = if q = w.programs.next then some program
      else w.programs.get q)
    (hname : program.identifier = load.name) (hpurged : program.purged = false)
    (hstores : Host.Stores programsDirectory directories program.identity)
    (h : Loaded programsDirectory directories loads w₁ w') :
    Loaded programsDirectory directories (load :: loads) w w' where
  kept q other hother := by
    refine h.kept q other ?_
    rw [hget₁, if_neg, hother]
    exact Nat.ne_of_lt (Heap.lt_next_of_get hother)
  old q other hother := by
    rcases h.old q other hother with hold | ⟨hunpurged, hmem, hother⟩
    · rw [hget₁] at hold
      split_ifs at hold
      · cases hold
        exact Or.inr ⟨hpurged, List.mem_cons.mpr (Or.inl hname), hstores⟩
      · exact Or.inl hold
    · exact Or.inr ⟨hunpurged, List.mem_cons_of_mem _ hmem, hother⟩
  new other hother hcreation identity hidentifier hunpurged hother' := by
    rcases List.mem_cons.mp hother with rfl | hmem
    · refine ⟨w.programs.next, program, h.kept _ _ ((hget₁ _).trans (if_pos rfl)), ?_⟩
      -- the file of the directory decides on the config
      obtain ⟨hroot, -, file, hfile, hconfig⟩ := hother'
      obtain ⟨hroot', -, file', hfile', hconfig'⟩ := hstores
      have hsame : program.identity.identifier = identity.identifier :=
        hname.trans hidentifier.symm
      rw [hsame] at hfile' hroot'
      rw [hfile] at hfile'
      cases hfile'
      cases hidentity : program.identity
      rw [hidentity] at hroot' hconfig' hsame
      have hpurged' : program.identity.purged = false := hpurged
      rw [hidentity] at hpurged'
      cases identity
      simp only at *
      simp only [hsame, hroot, hroot', hpurged', hunpurged, ← hconfig, ← hconfig']
    · exact h.new other hmem hcreation identity hidentifier hunpurged hother'
  distinct hnodup hfresh hbefore := by
    rw [List.map_cons] at hnodup
    obtain ⟨hnot, hrest⟩ := List.nodup_cons.mp hnodup
    refine h.distinct hrest (fun q other hother hmem => ?_) fun q r first second hfirst hsecond
      hsame => ?_
    · rw [hget₁] at hother
      split_ifs at hother
      · cases hother
        exact hnot (hname ▸ hmem)
      · exact hfresh q other hother (List.mem_cons_of_mem _ hmem)
    · rw [hget₁] at hfirst hsecond
      split_ifs at hfirst with hq
      · cases hfirst
        split_ifs at hsecond with hr
        · exact hq.trans hr.symm
        · exact absurd (List.mem_cons.mpr (Or.inl (hsame.symm.trans hname))) (hfresh r second hsecond)
      · split_ifs at hsecond with hr
        · cases hsecond
          exact absurd (List.mem_cons.mpr (Or.inl (hsame.trans hname))) (hfresh q first hfirst)
        · exact hbefore q r first second hfirst hsecond hsame

theorem inventoryLoadPrograms_cons {load : Load} {loads : List Load}
    (h : Host.inventoryLoadPrograms programsDirectory directories (load :: loads) w = some w') :
    ((∀ file, directories.get load.name ≠ some (some file)) ∧
        Host.inventoryLoadPrograms programsDirectory directories loads w = some w') ∨
      ∃ file w₁, directories.get load.name = some (some file) ∧
        w.next (.programLoad load.name (Host.rootDirectory programsDirectory load.name) file
          load.id load.creation, load.outcomes) = some w₁ ∧
        Host.inventoryLoadPrograms programsDirectory directories loads w₁ = some w' := by
  unfold Host.inventoryLoadPrograms at h
  cases hdirectory : directories.get load.name with
  | none =>
      rw [hdirectory] at h
      exact Or.inl ⟨fun _ hsome => (by cases hsome), h⟩
  | some directory =>
      cases directory with
      | none =>
          rw [hdirectory] at h
          exact Or.inl ⟨fun _ hsome => (by cases hsome), h⟩
      | some file =>
          rw [hdirectory] at h
          dsimp only at h
          cases hnext : w.next (.programLoad load.name
              (Host.rootDirectory programsDirectory load.name) file load.id load.creation,
              load.outcomes) with
          | none =>
              rw [hnext] at h
              cases h
          | some w₁ =>
              rw [hnext] at h
              exact Or.inr ⟨file, w₁, rfl, hnext, h⟩

theorem inventoryLoadPrograms_loaded {loads : List Load}
    (h : Host.inventoryLoadPrograms programsDirectory directories loads w = some w') :
    Loaded programsDirectory directories loads w w' := by
  induction loads generalizing w with
  | nil =>
      cases h
      exact
        { kept := fun _ _ hget => hget
          old := fun _ _ hget => Or.inl hget
          new := fun _ hmem => absurd hmem List.not_mem_nil
          distinct := fun _ _ hbefore => hbefore }
  | cons load loads ih =>
      rcases inventoryLoadPrograms_cons h with
        ⟨hnone, hrest⟩ | ⟨file, w₁, hdirectory, hnext, hrest⟩
      · refine (ih hrest).skip fun _ identity hname hstores => ?_
        obtain ⟨-, -, file, hfile, -⟩ := hstores
        rw [hname] at hfile
        exact hnone file hfile
      · rcases programLoad_next hnext with ⟨hvalid, -, program, hidentity, hget₁⟩ | ⟨hfails, rfl⟩
        · have hname : program.identifier = load.name :=
            congrArg ProgramIdentity.identifier hidentity
          refine (ih hrest).add hget₁ hname (congrArg ProgramIdentity.purged hidentity) ?_
          rw [hidentity]
          exact ⟨rfl, hvalid, file, hdirectory, rfl⟩
        · refine (ih hrest).skip fun hcreation identity hname hstores => hfails ⟨?_, hcreation⟩
          exact hname ▸ hstores.2.1

end Loading

end RedApid.Scheduling

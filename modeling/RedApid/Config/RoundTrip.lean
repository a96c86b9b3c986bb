import Mathlib.Data.List.Pairwise
import RedApid.Config.Program

namespace RedApid

section Names

def savedFileName (redirection : ProgramStdioRedirection) (fileName : Option CString) : CString :=
  if redirection = .file then cString (fileName.getD []) else []

def stdioEntries (config : ProgramSettings) : List (CString × CString) :=
  [(ascii "stdin_redirection", enumGetName stdioRedirectionEnumValueNames config.stdinRedirection),
    (ascii "stdin_file_name", savedFileName config.stdinRedirection config.stdinFileName),
    (ascii "stdout_redirection",
      enumGetName stdioRedirectionEnumValueNames config.stdoutRedirection),
    (ascii "stdout_file_name", savedFileName config.stdoutRedirection config.stdoutFileName),
    (ascii "stderr_redirection",
      enumGetName stdioRedirectionEnumValueNames config.stderrRedirection),
    (ascii "stderr_file_name", savedFileName config.stderrRedirection config.stderrFileName)]

def scheduleEntries (config : ProgramSettings) : List (CString × CString) :=
  [(ascii "start_mode", enumGetName startModeEnumValueNames config.startMode),
    (ascii "continue_after_error",
      if config.continueAfterError then ascii "true" else ascii "false"),
    (ascii "start_interval", decimal config.startInterval.toNat),
    (ascii "start_fields",
      if config.startMode = .cron then cString (config.startFields.getD []) else [])]

-- The options that program_config_save sets under a fixed name, and their values.
def fixedEntries (config : ProgramSettings) : List (CString × CString) :=
  (ascii "executable", cString config.executable) ::
    (ascii "arguments.length", decimal config.arguments.length) ::
    (ascii "environment.length", decimal config.environment.length) ::
    (ascii "working_directory", cString config.workingDirectory) ::
    (stdioEntries config ++ scheduleEntries config)

def fixedNames : List CString :=
  [ascii "executable", ascii "arguments.length", ascii "environment.length",
    ascii "working_directory", ascii "stdin_redirection", ascii "stdin_file_name",
    ascii "stdout_redirection", ascii "stdout_file_name", ascii "stderr_redirection",
    ascii "stderr_file_name", ascii "start_mode", ascii "continue_after_error",
    ascii "start_interval", ascii "start_fields"]

-- The starts of the names of list items and custom options.
def familyStarts : List CString := [ascii "arguments.item", ascii "environment.item", ascii "custom."]

-- The options that belong to a ProgramConfig.
def isManaged (name : CString) : Bool :=
  fixedNames.any (strcaseeq · name) || familyStarts.any (startsWithCase · name)

theorem fixedEntries_names (config : ProgramSettings) :
    (fixedEntries config).map Prod.fst = fixedNames := rfl

theorem fixedNames_distinct : (fixedNames.map fold).Nodup := by decide

theorem fixedNames_noFamily :
    ∀ name ∈ fixedNames, ∀ start ∈ familyStarts, startsWithCase start name = false := by
  decide

-- Every edit sets an option under a fixed name, or is about a family of names.
def ConfEdit.IsFamily (start : CString) : ConfEdit → Prop
  | .set name _ => startsWithCase start name
  | .format _ name _ => startsWithCase start name
  | .remove other => other = start

theorem strcaseeq_of_start {start name other : CString} (h : startsWithCase start name)
    (hother : startsWithCase start other = false) : strcaseeq name other = false := by
  refine Bool.eq_false_iff.mpr fun heq => ?_
  rw [← startsWithCase_congr (of_decide_eq_true heq), h] at hother
  cases hother

theorem ConfEdit.IsFamily.not_touches {start name : CString} {edit : ConfEdit}
    (h : edit.IsFamily start) (hname : startsWithCase start name = false) :
    edit.touches name = false := by
  cases edit with
  | set other value => exact strcaseeq_of_start h hname
  | format size other value => exact strcaseeq_of_start h hname
  | remove other =>
      cases h
      exact hname

theorem itemName_start (name : CString) (i : Nat) :
    startsWithCase (name ++ ascii ".item") (itemName name i) := startsWithCase_append _ _

theorem stringList_edits (name : CString) (value : List (List UInt8)) :
    ∀ edit ∈ programConfigSetStringList name value,
      edit = .set (name ++ ascii ".length") (decimal value.length) ∨
        edit.IsFamily (name ++ ascii ".item") := by
  intro edit hedit
  rcases List.mem_cons.mp hedit with rfl | hedit
  · exact Or.inl rfl
  rcases List.mem_cons.mp hedit with rfl | hedit
  · exact Or.inr rfl
  · obtain ⟨i, hi, rfl⟩ := List.mem_mapIdx.mp hedit
    exact Or.inr (itemName_start name i)

theorem saveCustomOptions_edits (config : ProgramSettings) :
    ∀ edit ∈ saveCustomOptions config, edit.IsFamily (ascii "custom.") := by
  intro edit hedit
  rcases List.mem_cons.mp hedit with rfl | hedit
  · exact rfl
  · obtain ⟨option, -, rfl⟩ := List.mem_map.mp hedit
    exact startsWithCase_append _ _

theorem saveFileName_eq (redirection : ProgramStdioRedirection) (name : CString)
    (fileName : Option CString) :
    saveFileName redirection name fileName = .set name (savedFileName redirection fileName) := by
  unfold saveFileName savedFileName
  by_cases hfile : redirection = .file
  · rw [if_pos hfile, if_pos hfile]
    rfl
  · rw [if_neg hfile, if_neg hfile]
    rfl

theorem saveStdio_eq (config : ProgramSettings) :
    saveStdio config = (stdioEntries config).map fun entry => .set entry.1 entry.2 := by
  unfold saveStdio
  simp only [saveFileName_eq]
  rfl

theorem saveSchedule_eq (config : ProgramSettings) :
    saveSchedule config = (scheduleEntries config).map fun entry => .set entry.1 entry.2 := by
  unfold saveSchedule scheduleEntries
  by_cases hcron : config.startMode = .cron
  · rw [if_pos hcron, if_pos hcron]
    rfl
  · rw [if_neg hcron, if_neg hcron]
    rfl

-- What follows the two lists.
def tailEdits (config : ProgramSettings) : List ConfEdit :=
  programConfigSetString (ascii "working_directory") config.workingDirectory ::
    (saveStdio config ++ (saveSchedule config ++ saveCustomOptions config))

theorem tailEdits_cases (config : ProgramSettings) :
    ∀ edit ∈ tailEdits config,
      (∃ entry ∈ fixedEntries config, edit = .set entry.1 entry.2) ∨
        edit.IsFamily (ascii "custom.") := by
  intro edit hedit
  unfold tailEdits at hedit
  rcases List.mem_cons.mp hedit with rfl | hedit
  · exact Or.inl ⟨_, List.mem_of_getElem? (i := 3) rfl, rfl⟩
  have hentries : ∀ entry ∈ stdioEntries config ++ scheduleEntries config,
      entry ∈ fixedEntries config := fun entry hentry =>
    List.mem_cons_of_mem _ (List.mem_cons_of_mem _
      (List.mem_cons_of_mem _ (List.mem_cons_of_mem _ hentry)))
  rcases List.mem_append.mp hedit with hedit | hedit
  · rw [saveStdio_eq] at hedit
    obtain ⟨entry, hentry, rfl⟩ := List.mem_map.mp hedit
    exact Or.inl ⟨entry, hentries entry (List.mem_append_left _ hentry), rfl⟩
  rcases List.mem_append.mp hedit with hedit | hedit
  · rw [saveSchedule_eq] at hedit
    obtain ⟨entry, hentry, rfl⟩ := List.mem_map.mp hedit
    exact Or.inl ⟨entry, hentries entry (List.mem_append_right _ hentry), rfl⟩
  · exact Or.inr (saveCustomOptions_edits config edit hedit)

theorem programConfigEdits_cases (config : ProgramSettings) :
    ∀ edit ∈ programConfigEdits config,
      (∃ entry ∈ fixedEntries config, edit = .set entry.1 entry.2) ∨
        ∃ start ∈ familyStarts, edit.IsFamily start := by
  intro edit hedit
  unfold programConfigEdits at hedit
  rcases List.mem_cons.mp hedit with rfl | hedit
  · exact Or.inl ⟨_, List.mem_of_getElem? (i := 0) rfl, rfl⟩
  rcases List.mem_append.mp hedit with hedit | hedit
  · rcases stringList_edits _ _ edit hedit with rfl | hfamily
    · exact Or.inl ⟨_, List.mem_of_getElem? (i := 1) rfl, rfl⟩
    · exact Or.inr ⟨ascii "arguments.item", by decide, hfamily⟩
  rcases List.mem_append.mp hedit with hedit | hedit
  · rcases stringList_edits _ _ edit hedit with rfl | hfamily
    · exact Or.inl ⟨_, List.mem_of_getElem? (i := 2) rfl, rfl⟩
    · exact Or.inr ⟨ascii "environment.item", by decide, hfamily⟩
  · rcases tailEdits_cases config edit hedit with hfixed | hfamily
    · exact Or.inl hfixed
    · exact Or.inr ⟨ascii "custom.", by decide, hfamily⟩

theorem fixedEntries_edits (config : ProgramSettings) :
    ∀ entry ∈ fixedEntries config, .set entry.1 entry.2 ∈ programConfigEdits config := by
  intro entry hentry
  unfold fixedEntries at hentry
  unfold programConfigEdits
  rcases List.mem_cons.mp hentry with rfl | hentry
  · exact List.mem_cons_self
  apply List.mem_cons_of_mem
  rcases List.mem_cons.mp hentry with rfl | hentry
  · exact List.mem_append_left _ List.mem_cons_self
  apply List.mem_append_right
  rcases List.mem_cons.mp hentry with rfl | hentry
  · exact List.mem_append_left _ List.mem_cons_self
  apply List.mem_append_right
  rcases List.mem_cons.mp hentry with rfl | hentry
  · exact List.mem_cons_self
  apply List.mem_cons_of_mem
  rcases List.mem_append.mp hentry with hentry | hentry
  · apply List.mem_append_left
    rw [saveStdio_eq]
    exact List.mem_map_of_mem hentry
  · apply List.mem_append_right
    apply List.mem_append_left
    rw [saveSchedule_eq]
    exact List.mem_map_of_mem hentry

-- An edit can only touch a managed option.
theorem programConfigEdits_managed (config : ProgramSettings) :
    ∀ edit ∈ programConfigEdits config, ∀ name, (!isManaged name) = true →
      edit.touches name = false := by
  intro edit hedit name hname
  have hmanaged : isManaged name = false := by simpa using hname
  obtain ⟨hfixed, hstarts⟩ := Bool.or_eq_false_iff.mp hmanaged
  rcases programConfigEdits_cases config edit hedit with ⟨entry, hentry, rfl⟩ | ⟨start, hstart, h⟩
  · have hmem : entry.1 ∈ fixedNames :=
      fixedEntries_names config ▸ List.mem_map_of_mem hentry
    exact Bool.eq_false_iff.mpr (List.any_eq_false.mp hfixed entry.1 hmem)
  · exact h.not_touches (Bool.eq_false_iff.mpr (List.any_eq_false.mp hstarts start hstart))

end Names

section Fixed

variable (config : ProgramSettings) (file : ConfFile)

theorem saved_get {entry : CString × CString} (hentry : entry ∈ fixedEntries config) :
    ((programConfigEdits config).foldl ConfEdit.apply file).get entry.1 = some entry.2 := by
  have hnames : ((fixedEntries config).map fun entry => fold entry.1).Nodup := by
    have h := fixedNames_distinct
    rw [← fixedEntries_names config, List.map_map] at h
    exact h
  have hmem : entry.1 ∈ fixedNames := fixedEntries_names config ▸ List.mem_map_of_mem hentry
  apply get_foldl_of_unique file (fixedEntries_edits config entry hentry)
  intro edit hedit htouches
  rcases programConfigEdits_cases config edit hedit with ⟨other, hother, rfl⟩ | ⟨start, hstart, h⟩
  · have hfold : fold other.1 = fold entry.1 := of_decide_eq_true htouches
    rw [List.inj_on_of_nodup_map hnames hother hentry hfold]
  · rw [h.not_touches (fixedNames_noFamily _ hmem start hstart)] at htouches
    cases htouches

end Fixed

section Lists

theorem fold_decimal (n : Nat) : fold (decimal n) = decimal n := by
  have hdigit : ∀ byte ∈ decimal n, tolower byte = byte := by
    intro byte hbyte
    obtain ⟨d, hd, rfl⟩ := decimal_digits n byte hbyte
    interval_cases d <;> rfl
  exact (List.map_congr_left (g := id) hdigit).trans (List.map_id _)

theorem itemName_eq_of_fold {name : CString} {i j : Nat}
    (h : fold (itemName name i) = fold (itemName name j)) : i = j := by
  unfold itemName at h
  rw [fold_append, fold_append _ (decimal j), fold_decimal, fold_decimal] at h
  exact decimal_injective (List.append_cancel_left h)

-- The items of a list are found again unless the edits behind touch them.
theorem stringList_get {name : CString} {value : List (List UInt8)} {i : Nat}
    (hi : i < value.length) (file : ConfFile) {after : List ConfEdit}
    (hafter : ∀ edit ∈ after, edit.touches (itemName name i) = false) :
    ((programConfigSetStringList name value ++ after).foldl ConfEdit.apply file).get
      (itemName name i) = some (cString value[i]) := by
  unfold programConfigSetStringList programConfigSetInteger
  rw [List.foldl_append, get_foldl_of_not_touches _ hafter, List.foldl_cons, List.foldl_cons]
  apply get_foldl_of_unique
  · exact List.mem_mapIdx.mpr ⟨i, hi, rfl⟩
  · intro edit hedit htouches
    obtain ⟨j, hj, rfl⟩ := List.mem_mapIdx.mp hedit
    have hsame : j = i := itemName_eq_of_fold (of_decide_eq_true htouches)
    subst hsame
    rfl

-- Names with different beginnings.
theorem startsWithCase_append_of_take {start known : CString} {n : Nat} (rest : CString)
    (h : (fold start).take n ≠ (fold known).take n) (hstart : n ≤ start.length)
    (hknown : n ≤ known.length) : startsWithCase start (known ++ rest) = false := by
  apply startsWithCase_of_take (n := n) _ hstart
  rw [fold_append, List.take_append_of_le_length]
  · exact h
  · rw [fold, List.length_map]
    exact hknown

variable {config : ProgramSettings}

-- An edit of a fixed option does not touch a list item.
theorem fixedEntries_not_touches {start name : CString} (hstart : start ∈ familyStarts)
    (hname : startsWithCase start name) {entry : CString × CString}
    (hentry : entry ∈ fixedEntries config) :
    (ConfEdit.set entry.1 entry.2).touches name = false := by
  have hmem : entry.1 ∈ fixedNames := fixedEntries_names config ▸ List.mem_map_of_mem hentry
  have hother := fixedNames_noFamily _ hmem start hstart
  refine Bool.eq_false_iff.mpr fun htouches => ?_
  have hfold : fold entry.1 = fold name := of_decide_eq_true htouches
  rw [startsWithCase_congr hfold, hname] at hother
  cases hother

theorem tailEdits_not_touches {start name : CString} (hstart : start ∈ familyStarts)
    (hname : startsWithCase start name)
    (hcustom : startsWithCase (ascii "custom.") name = false) :
    ∀ edit ∈ tailEdits config, edit.touches name = false := by
  intro edit hedit
  rcases tailEdits_cases config edit hedit with ⟨entry, hentry, rfl⟩ | hfamily
  · exact fixedEntries_not_touches hstart hname hentry
  · exact hfamily.not_touches hcustom

theorem saved_get_argument {i : Nat} (hi : i < config.arguments.length) (file : ConfFile) :
    ((programConfigEdits config).foldl ConfEdit.apply file).get (itemName (ascii "arguments") i) =
      some (cString config.arguments[i]) := by
  have hstart : ascii "arguments.item" ∈ familyStarts := by decide
  have hname : startsWithCase (ascii "arguments.item") (itemName (ascii "arguments") i) :=
    itemName_start (ascii "arguments") i
  have hother : ∀ start, (fold start).take 3 ≠ (fold (ascii "arguments.item")).take 3 →
      3 ≤ start.length → startsWithCase start (itemName (ascii "arguments") i) = false :=
    fun start htake hlength => startsWithCase_append_of_take (decimal i) htake hlength (by decide)
  unfold programConfigEdits
  rw [List.foldl_cons]
  apply stringList_get hi
  intro edit hedit
  rcases List.mem_append.mp hedit with hedit | hedit
  · rcases stringList_edits _ _ edit hedit with rfl | hfamily
    · have hentry : ∀ entry, (fixedEntries config)[2]? = some entry → entry ∈ fixedEntries config :=
        fun _ => List.mem_of_getElem?
      exact fixedEntries_not_touches hstart hname (hentry _ rfl)
    · exact hfamily.not_touches (hother _ (by decide) (by decide))
  · exact tailEdits_not_touches hstart hname (hother _ (by decide) (by decide)) edit hedit

theorem saved_get_environment {i : Nat} (hi : i < config.environment.length) (file : ConfFile) :
    ((programConfigEdits config).foldl ConfEdit.apply file).get
      (itemName (ascii "environment") i) = some (cString config.environment[i]) := by
  have hstart : ascii "environment.item" ∈ familyStarts := by decide
  have hname : startsWithCase (ascii "environment.item") (itemName (ascii "environment") i) :=
    itemName_start (ascii "environment") i
  have hcustom : startsWithCase (ascii "custom.") (itemName (ascii "environment") i) = false :=
    startsWithCase_append_of_take (n := 3) (decimal i) (by decide) (by decide) (by decide)
  unfold programConfigEdits
  rw [List.foldl_cons, List.foldl_append]
  exact stringList_get hi _ (tailEdits_not_touches hstart hname hcustom)

end Lists

section Custom

variable {config : ProgramSettings}

def customEntries (config : ProgramSettings) : List (CString × CString) :=
  config.customOptions.map fun option => (customName (cString option.1), cString option.2)

-- After the removal of the old custom options the new ones line up in their order.
theorem saved_custom (file : ConfFile)
    (hdistinct : ((customEntries config).map fun entry => fold entry.1).Nodup) :
    ((programConfigEdits config).foldl ConfEdit.apply file).entries.filter
      (fun entry => startsWithCase (ascii "custom.") entry.1) = customEntries config := by
  obtain ⟨before, hbefore⟩ : saveCustomOptions config <:+ programConfigEdits config := by
    have htail : saveCustomOptions config <:+ tailEdits config :=
      ((List.suffix_append _ _).trans (List.suffix_append _ _)).trans (List.suffix_cons _ _)
    exact ((htail.trans (List.suffix_append _ _)).trans (List.suffix_append _ _)).trans
      (List.suffix_cons _ _)
  have hcustom : ∀ entry ∈ customEntries config,
      startsWithCase (ascii "custom.") entry.1 = true := by
    intro entry hentry
    obtain ⟨option, -, rfl⟩ := List.mem_map.mp hentry
    exact startsWithCase_append _ _
  let removed := confFileRemoveOption (before.foldl ConfEdit.apply file) (ascii "custom.")
  have hremoved : ∀ entry ∈ removed.entries, startsWithCase (ascii "custom.") entry.1 = false := by
    intro entry hentry
    simpa using (List.mem_filter.mp hentry).2
  have hnew : ((removed.entries ++ customEntries config).map fun entry => fold entry.1).Nodup := by
    rw [List.map_append]
    refine removed.distinct.append hdistinct fun key hold hkey => ?_
    obtain ⟨entry, hentry, rfl⟩ := List.mem_map.mp hold
    obtain ⟨other, hother, hsame⟩ := List.mem_map.mp hkey
    have h := hcustom other hother
    rw [startsWithCase_congr hsame, hremoved entry hentry] at h
    cases h
  have hentries := OrderedMap.set_all_entries removed (customEntries config) hnew
  have hfoldl : ((programConfigEdits config).foldl ConfEdit.apply file) =
      (customEntries config).foldl (fun map entry => map.set entry.1 entry.2) removed := by
    rw [← hbefore, List.foldl_append, saveCustomOptions, List.foldl_cons, List.foldl_map,
      customEntries, List.foldl_map]
    rfl
  rw [hfoldl, hentries, List.filter_append, List.filter_eq_self.mpr hcustom,
    List.filter_eq_nil_iff.mpr, List.nil_append]
  intro entry hentry h
  rw [hremoved entry hentry] at h
  cases h

end Custom

section Load

-- What a file name or the start fields look like where they are used, and where they are not.
def SavedString (used : Prop) (string : Option CString) : Prop :=
  (used ∧ ∃ content, string = some content ∧ content ≠ [] ∧ 0 ∉ content) ∨ (¬used ∧ string = none)

-- The configs that program_config_load accepts. The lists count their items with an `int`.
structure ProgramSettings.Saveable (config : ProgramSettings) : Prop where
  executable : 0 ∉ config.executable
  arguments : ∀ item ∈ config.arguments, 0 ∉ item
  argumentsLength : config.arguments.length ≤ INT32_MAX
  environment : ∀ item ∈ config.environment, 0 ∉ item
  environmentLength : config.environment.length ≤ INT32_MAX
  workingDirectory : 0 ∉ config.workingDirectory
  stdin : loadsStdin config.stdinRedirection
  stdinFileName : SavedString (config.stdinRedirection = .file) config.stdinFileName
  stdout : loadsStdout config.stdoutRedirection
  stdoutFileName : SavedString (config.stdoutRedirection = .file) config.stdoutFileName
  stderr : loadsStderr config.stderrRedirection
  stderrFileName : SavedString (config.stderrRedirection = .file) config.stderrFileName
  startFields : SavedString (config.startMode = .cron) config.startFields
  customOptions : ∀ option ∈ config.customOptions, 0 ∉ option.1 ∧ 0 ∉ option.2
  customDistinct : (config.customOptions.map fun option => fold option.1).Nodup

variable {file : ConfFile}

theorem loadRedirection_saved {loads : ProgramStdioRedirection → Bool} {name fileName : CString}
    {redirection : ProgramStdioRedirection} {string : Option CString} (hloads : loads redirection)
    (hstring : SavedString (redirection = .file) string)
    (hname : file.get name = some (enumGetName stdioRedirectionEnumValueNames redirection))
    (hfileName : file.get fileName = some (savedFileName redirection string)) :
    loadRedirection file loads name fileName = (redirection, string) := by
  have hvalue : ∀ redirection, enumGetValue stdioRedirectionEnumValueNames
      (enumGetName stdioRedirectionEnumValueNames redirection) = some redirection := by
    intro redirection
    cases redirection <;> decide
  have hsymbol : programConfigGetSymbol file stdioRedirectionEnumValueNames name .devNull =
      redirection := by
    simp only [programConfigGetSymbol, confFileGetOptionValue, hname, hvalue, Option.getD_some]
  unfold loadRedirection
  simp only [hsymbol, if_pos hloads]
  rcases hstring with ⟨hfile, content, rfl, hne, hnull⟩ | ⟨hfile, rfl⟩
  · have hcontent : programConfigGetString file fileName [] = content := by
      simp only [programConfigGetString, confFileGetOptionValue, hfileName, Option.getD_some,
        savedFileName, if_pos hfile, cString_of_noNull hnull]
    rw [if_pos hfile, hcontent, if_neg hne]
  · rw [if_neg hfile]

theorem loadStartMode_saved {startMode : ProgramStartMode} {string : Option CString}
    (hstring : SavedString (startMode = .cron) string)
    (hmode : file.get (ascii "start_mode") = some (enumGetName startModeEnumValueNames startMode))
    (hfields : file.get (ascii "start_fields") =
      some (if startMode = .cron then cString (string.getD []) else [])) :
    loadStartMode file = (startMode, string) := by
  have hvalue : ∀ startMode, enumGetValue startModeEnumValueNames
      (enumGetName startModeEnumValueNames startMode) = some startMode := by
    intro startMode
    cases startMode <;> decide
  have hsymbol : programConfigGetSymbol file startModeEnumValueNames (ascii "start_mode") .never =
      startMode := by
    simp only [programConfigGetSymbol, confFileGetOptionValue, hmode, hvalue, Option.getD_some]
  unfold loadStartMode
  simp only [hsymbol]
  rcases hstring with ⟨hcron, content, rfl, hne, hnull⟩ | ⟨hcron, rfl⟩
  · have hcontent : programConfigGetString file (ascii "start_fields") (ascii "* * * * *") =
        content := by
      simp only [programConfigGetString, confFileGetOptionValue, hfields, Option.getD_some,
        if_pos hcron, cString_of_noNull hnull]
    rw [if_pos hcron, hcontent, if_neg hne]
  · rw [if_neg hcron]

theorem getStringList_saved {name : CString} {value : List CString}
    (hlength : value.length ≤ INT32_MAX) (hnull : ∀ item ∈ value, 0 ∉ item)
    (hcount : file.get (name ++ ascii ".length") = some (decimal value.length))
    (hitems : ∀ i (hi : i < value.length), file.get (itemName name i) = some (cString value[i])) :
    programConfigGetStringList file name = value := by
  have hint : programConfigGetInteger file (name ++ ascii ".length") 0 = value.length := by
    have hmax : value.length ≤ INT64_MAX := hlength.trans (by decide)
    simp only [programConfigGetInteger, confFileGetOptionValue, hcount, parseInteger_decimal hmax,
      Option.getD_some]
  have hrange : (intOfLength value.length).toNat = value.length := by
    unfold intOfLength uint32
    unfold INT32_MAX at *
    split_ifs <;> omega
  unfold programConfigGetStringList
  simp only [hint, hrange]
  apply List.ext_getElem
  · simp
  · intro i hleft hi
    simp only [List.getElem_map, List.getElem_range, programConfigGetString,
      confFileGetOptionValue, hitems i hi, Option.getD_some]
    exact cString_of_noNull (hnull _ (List.getElem_mem hi))

theorem loadCustomOptions_saved {config : ProgramSettings}
    (hnull : ∀ option ∈ config.customOptions, 0 ∉ option.1 ∧ 0 ∉ option.2)
    (hcustom : file.entries.filter (fun entry => startsWithCase (ascii "custom.") entry.1) =
      customEntries config) :
    loadCustomOptions file = config.customOptions := by
  unfold loadCustomOptions
  rw [hcustom, customEntries, List.map_map]
  refine (List.map_congr_left (g := id) fun option hoption => ?_).trans (List.map_id _)
  obtain ⟨hname, hvalue⟩ := hnull option hoption
  change ((customName (cString option.1)).drop (ascii "custom.").length, cString option.2) = option
  rw [cString_of_noNull hname, cString_of_noNull hvalue, customName, List.drop_left]

end Load

section RoundTrip

variable {config : ProgramSettings}

theorem customEntries_distinct (hconfig : config.Saveable) :
    ((customEntries config).map fun entry => fold entry.1).Nodup := by
  have hmap : (customEntries config).map (fun entry => fold entry.1) =
      (config.customOptions.map fun option => fold option.1).map (fold (ascii "custom.") ++ ·) := by
    rw [customEntries, List.map_map, List.map_map]
    refine List.map_congr_left fun option hoption => ?_
    change fold (customName (cString option.1)) = _
    rw [cString_of_noNull (hconfig.customOptions option hoption).1, customName, fold_append]
    rfl
  rw [hmap]
  exact hconfig.customDistinct.map fun first second h => List.append_cancel_left h

theorem programConfigSave_ok {outcome : ProgramConfigSave} {file : Option ConfFile}
    {saved : ConfFile} (h : programConfigSave config outcome file = .ok saved) :
    saved = (programConfigEdits config).foldl ConfEdit.apply (file.getD OrderedMap.empty) := by
  unfold programConfigSave at h
  split at h
  · cases h
  · cases h
  · split at h
    · cases h
    · rename_i hedits
      split at h
      · cases h
      · cases h
        exact runEdits_ok hedits

theorem load_edits (hconfig : config.Saveable) (file : ConfFile) :
    programConfigLoad ((programConfigEdits config).foldl ConfEdit.apply file) = config := by
  have hfixed : ∀ i (entry : CString × CString), (fixedEntries config)[i]? = some entry →
      ((programConfigEdits config).foldl ConfEdit.apply file).get entry.1 = some entry.2 :=
    fun i entry hentry => saved_get config file (List.mem_of_getElem? hentry)
  have harguments := fun i hi => @saved_get_argument config i hi file
  have henvironment := fun i hi => @saved_get_environment config i hi file
  have hcustom := saved_custom file (customEntries_distinct hconfig)
  generalize (programConfigEdits config).foldl ConfEdit.apply file = saved at *
  have hstdin : loadStdin saved = (config.stdinRedirection, config.stdinFileName) :=
    loadRedirection_saved hconfig.stdin hconfig.stdinFileName (hfixed 4 _ rfl) (hfixed 5 _ rfl)
  have hstdout : loadStdout saved = (config.stdoutRedirection, config.stdoutFileName) :=
    loadRedirection_saved hconfig.stdout hconfig.stdoutFileName (hfixed 6 _ rfl) (hfixed 7 _ rfl)
  have hstderr : loadStderr saved = (config.stderrRedirection, config.stderrFileName) :=
    loadRedirection_saved hconfig.stderr hconfig.stderrFileName (hfixed 8 _ rfl) (hfixed 9 _ rfl)
  have hmode : loadStartMode saved = (config.startMode, config.startFields) :=
    loadStartMode_saved hconfig.startFields (hfixed 10 _ rfl) (hfixed 13 _ rfl)
  have hstring : ∀ name default content, saved.get name = some (cString content) →
      0 ∉ content → programConfigGetString saved name default = content := by
    intro name default content hsaved hnull
    simp only [programConfigGetString, confFileGetOptionValue, hsaved, Option.getD_some,
      cString_of_noNull hnull]
  apply ProgramSettings.ext
  · exact hstring _ _ _ (hfixed 0 _ rfl) hconfig.executable
  · exact getStringList_saved hconfig.argumentsLength hconfig.arguments (hfixed 1 _ rfl) harguments
  · exact getStringList_saved hconfig.environmentLength hconfig.environment (hfixed 2 _ rfl)
      henvironment
  · exact hstring _ _ _ (hfixed 3 _ rfl) hconfig.workingDirectory
  · exact congrArg Prod.fst hstdin
  · exact congrArg Prod.snd hstdin
  · exact congrArg Prod.fst hstdout
  · exact congrArg Prod.snd hstdout
  · exact congrArg Prod.fst hstderr
  · exact congrArg Prod.snd hstderr
  · exact congrArg Prod.fst hmode
  · have h : saved.get (ascii "continue_after_error") =
        some (if config.continueAfterError then ascii "true" else ascii "false") := hfixed 11 _ rfl
    change programConfigGetBoolean saved (ascii "continue_after_error") false = _
    unfold programConfigGetBoolean confFileGetOptionValue
    rw [h]
    cases config.continueAfterError <;> decide
  · have h : saved.get (ascii "start_interval") = some (decimal config.startInterval.toNat) :=
      hfixed 12 _ rfl
    have hmax : config.startInterval.toNat ≤ INT64_MAX := by
      have hless := config.startInterval.toNat_lt
      unfold INT64_MAX
      omega
    change (programConfigGetInteger saved (ascii "start_interval") 0).toUInt32 = _
    unfold programConfigGetInteger confFileGetOptionValue
    rw [h]
    simp only [parseInteger_decimal hmax, Option.getD_some]
    exact UInt32.ofNat_toNat
  · exact congrArg Prod.snd hmode
  · exact loadCustomOptions_saved hconfig.customOptions hcustom

-- What program_config_save writes is what program_config_load reads, and options of others stay.
theorem load_save (hconfig : config.Saveable) {outcome : ProgramConfigSave}
    {file : Option ConfFile} {saved : ConfFile}
    (h : programConfigSave config outcome file = .ok saved) :
    programConfigLoad saved = config ∧
      saved.entries.filter (fun entry => !isManaged entry.1) =
        (file.getD OrderedMap.empty).entries.filter fun entry => !isManaged entry.1 := by
  rw [programConfigSave_ok h]
  exact ⟨load_edits hconfig _,
    foldl_filter (p := fun name => !isManaged name) _ (programConfigEdits_managed config)⟩

def greeterConfig : ProgramSettings where
  executable := ascii "greeter"
  arguments := [ascii "--name", ascii "world"]
  environment := [ascii "DISPLAY=:0"]
  workingDirectory := ascii "."
  stdinRedirection := .pipe
  stdinFileName := none
  stdoutRedirection := .file
  stdoutFileName := some (ascii "greetings.txt")
  stderrRedirection := .stdout
  stderrFileName := none
  startMode := .interval
  continueAfterError := true
  startInterval := 10
  startFields := none
  customOptions := [(ascii "name", ascii "Greeter"), (ascii "language", ascii "c")]

-- A file with a longer list of arguments and an option of its own.
def olderConfFile : ConfFile :=
  ⟨[(ascii "Arguments.Length", ascii "3"), (ascii "arguments.item2", ascii "moon"),
      (ascii "custom.NAME", ascii "Old"), (ascii "comment", ascii "keep me")], by decide⟩

def programConfigSaveSucceeds : ProgramConfigSave := ⟨none, none, [], ⟨.nameTooLong, nofun⟩, none⟩

theorem greeterConfig_saveable : greeterConfig.Saveable where
  executable := by decide
  arguments := by decide
  argumentsLength := by decide
  environment := by decide
  environmentLength := by decide
  workingDirectory := by decide
  stdin := by decide
  stdinFileName := Or.inr (by decide)
  stdout := by decide
  stdoutFileName := Or.inl ⟨by decide, ascii "greetings.txt", rfl, by decide, by decide⟩
  stderr := by decide
  stderrFileName := Or.inr (by decide)
  startFields := Or.inr (by decide)
  customOptions := by decide
  customDistinct := by decide

theorem greeterConfig_saved : ∃ saved,
    programConfigSave greeterConfig programConfigSaveSucceeds (some olderConfFile) = .ok saved :=
  ⟨_, rfl⟩

theorem greeterConfig_load_save : ∃ saved,
    programConfigSave greeterConfig programConfigSaveSucceeds (some olderConfFile) = .ok saved ∧
      programConfigLoad saved = greeterConfig ∧
      saved.entries.filter (fun entry => !isManaged entry.1) =
        olderConfFile.entries.filter fun entry => !isManaged entry.1 := by
  obtain ⟨saved, h⟩ := greeterConfig_saved
  exact ⟨saved, h, load_save greeterConfig_saveable h⟩

end RoundTrip

end RedApid

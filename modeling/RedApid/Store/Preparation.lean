import RedApid.Store.Filesystem
import RedApid.Store.Setters

namespace RedApid

open Memory

section Stages

variable {array : ArrayRemove} {grow : GrowAllocation} {outcomes : FilesystemOutcomes}
  {program : ObjectRef} {p : Program} {store other : Store} {created : List (ObjectRef × CString)}
  {s : Preparation}

-- So far nothing has failed.
structure Preparation.Stage (s : Preparation) (store : Store)
    (created : List (ObjectRef × CString)) : Prop where
  made : store.Created created s.store
  strings : s.strings = created.map Prod.fst
  released : s.released = []
  codes : ∀ code ∈ s.codes, code = .success

theorem createName_cases (call : NameCall) (h : store.Created created other) :
    (∃ code last, code ≠ .success ∧ createName grow p call other = (.error code, last) ∧
        store.Created created last) ∨
      ∃ name last, createName grow p call other = (.ok name, last) ∧
        (name = none ↔ call.needed = false) ∧
        store.Created
          (created ++ name.toList.map fun string => (string, other.binName p call.name)) last := by
  unfold createName
  cases call.needed with
  | false =>
      refine Or.inr ⟨none, other, rfl, ⟨fun _ => rfl, fun _ => rfl⟩, ?_⟩
      rw [Option.toList_none, List.map_nil, List.append_nil]
      exact h
  | true =>
      rcases @Store.Created.asprintf grow p store other created h call.outcome call.name with
        ⟨code, last, hcode, hresult, hcreated⟩ | ⟨string, last, hresult, hcreated⟩
      · exact Or.inl ⟨code, last, hcode, by simp only [hresult, if_true], hcreated⟩
      · exact Or.inr ⟨some string, last, by simp only [hresult, if_true],
          ⟨fun hnone => (nomatch hnone), fun hneeded => (nomatch hneeded)⟩, hcreated⟩

theorem Preparation.wrapFileName_eq (redirection : ProgramStdioRedirection) (outcome : StringOutcome)
    (name : ObjectRef) (format : String) :
    s.wrapFileName array grow outcomes program p redirection outcome name format =
      match createName grow p ⟨redirection = .file, outcome, name⟩ s.store with
      | (.error code, store) =>
          (.error code, { s with store, codes := s.codes ++ [code] }.handleError array grow
            outcomes program format code)
      | (.ok string, store) => (.ok string, { s with
          store
          codes := s.codes ++ string.toList.map fun _ => .success
          strings := s.strings ++ string.toList }) := by
  unfold wrapFileName createName asprintf
  by_cases hfile : redirection = .file
  · simp only [hfile, if_true, decide_true]
    rcases stringAsprintfObject grow outcome (s.store.binName p name) none ownedFlags s.store with
      ⟨code | string, store⟩
    · rfl
    · rfl
  · simp [hfile]

-- A failure of a call ends the preparation.
theorem Preparation.Stage.unprepared (hstage : s.Stage store created)
    (h : Preparable array program p store)
    (hcleanup : (s.cleanupStrings p).Perm (created.map Prod.fst)) {code : APIE}
    (hcode : code ≠ .success) {last : Store} (hlast : store.Created created last) (format : String) :
    FilesystemUnprepared store program p code
      ((({ s with store := last, codes := s.codes ++ [code] } : Preparation).handleError array grow
        outcomes program format code).cleanup array p) :=
  @Preparable.unprepared array grow outcomes program p store created
    { s with store := last, codes := s.codes ++ [code] } h hlast hstage.strings hstage.released hcleanup code
    hcode s.codes rfl hstage.codes format

theorem Preparation.Stage.wrapFileName (hstage : s.Stage store created)
    (h : Preparable array program p store)
    (hcleanup : (s.cleanupStrings p).Perm (created.map Prod.fst))
    (redirection : ProgramStdioRedirection) (outcome : StringOutcome) (name : ObjectRef)
    (format : String) :
    (∃ code last failed, createName grow p ⟨redirection = .file, outcome, name⟩ s.store =
        (.error code, last) ∧
      s.wrapFileName array grow outcomes program p redirection outcome name format =
        (.error code, failed) ∧ failed.phase = s.phase ∧
      FilesystemUnprepared store program p code (failed.cleanup array p)) ∨
    ∃ string wrapped, createName grow p ⟨redirection = .file, outcome, name⟩ s.store =
        (.ok string, wrapped.store) ∧ (string = none ↔ redirection ≠ .file) ∧
      s.wrapFileName array grow outcomes program p redirection outcome name format =
        (.ok string, wrapped) ∧
      wrapped = { s with store := wrapped.store, codes := wrapped.codes, strings := wrapped.strings } ∧
      wrapped.Stage store
        (created ++ string.toList.map fun string => (string, s.store.binName p name)) := by
  have heq := @Preparation.wrapFileName_eq array grow outcomes program p s redirection outcome name
    format
  rcases @createName_cases grow p store s.store created ⟨redirection = .file, outcome, name⟩
    hstage.made with ⟨code, last, hcode, hresult, hmade⟩ | ⟨string, last, hresult, hnone, hmade⟩
  · rw [hresult] at heq
    exact Or.inl ⟨code, last, _, hresult, heq, rfl, hstage.unprepared h hcleanup hcode hmade format⟩
  · rw [hresult] at heq
    refine Or.inr ⟨string, { s with
      store := last
      codes := s.codes ++ string.toList.map fun _ => .success
      strings := s.strings ++ string.toList }, hresult, hnone.trans decide_eq_false_iff_not, heq, rfl,
      hmade, ?_, hstage.released, fun code hmem => ?_⟩
    · have hfst : ((Prod.fst ∘ fun string => (string, s.store.binName p name)) :
          ObjectRef → ObjectRef) = id := rfl
      rw [List.map_append, List.map_map, hfst, List.map_id, hstage.strings]
    · rcases List.mem_append.mp hmem with hmem | hmem
      · exact hstage.codes code hmem
      · obtain ⟨_, -, rfl⟩ := List.mem_map.mp hmem
        rfl

theorem Preparation.Stage.ensureDirectory (hstage : s.Stage store created)
    (h : Preparable array program p store) (string : Option ObjectRef) (outcome : Option APIError)
    (format : String) :
    (∃ code failed, outcome = some code ∧ string ≠ none ∧
      s.ensureDirectory array grow outcomes program string outcome format = (.error code.val, failed) ∧
      failed.phase = s.phase ∧ code.val ∈ failed.codes ∧
      ((s.cleanupStrings p).Perm (created.map Prod.fst) →
        FilesystemUnprepared store program p code.val (failed.cleanup array p))) ∨
    ∃ ensured, (outcome = none ∨
        (string.bind fun string => directoryPart (s.store.text string)) = none) ∧
      s.ensureDirectory array grow outcomes program string outcome format = (.ok (), ensured) ∧
      ensured = { s with
        codes := ensured.codes
        directories := s.directories ++
          (string.bind fun string => directoryPart (s.store.text string)).toList } ∧
      ensured.Stage store created := by
  unfold Preparation.ensureDirectory Preparation.directoryCreate
  cases hpath : string.bind fun string => directoryPart (s.store.text string) with
  | none =>
      refine Or.inr ⟨s, Or.inr rfl, rfl, ?_, hstage⟩
      simp only [Option.toList_none, List.append_nil]
  | some path =>
      cases outcome with
      | none =>
          refine Or.inr ⟨{ s with
            codes := s.codes ++ [.success]
            directories := s.directories ++ [path] }, Or.inl rfl, rfl, rfl, hstage.made,
            hstage.strings, hstage.released, fun code hmem => ?_⟩
          rcases List.mem_append.mp hmem with hmem | hmem
          · exact hstage.codes code hmem
          · exact List.mem_singleton.mp hmem
      | some code =>
          refine Or.inl ⟨code, _, rfl, ?_, rfl, rfl, ?_, fun hcleanup => ?_⟩
          · rintro rfl
            cases hpath
          · exact List.mem_append_right _ (List.mem_singleton_self _)
          · exact hstage.unprepared h hcleanup code.property hstage.made format

end Stages

section AllOrNothing

variable {array : ArrayRemove} {grow : GrowAllocation} {outcomes : FilesystemOutcomes}
  {program : ObjectRef} {p : Program} {store : Store}

theorem FilesystemUnprepared.allOrNothing {code : APIE} {s : Preparation}
    (h : FilesystemUnprepared store program p code s) :
    FilesystemAllOrNothing store program p (code, s) :=
  ⟨fun hsuccess => absurd hsuccess h.code.1, fun _ => h⟩

-- How the first step ends.
theorem prepareWorkingDirectory_cases (h : Preparable array program p store) :
    (∃ code failed, (Preparation.start store).prepareWorkingDirectory array grow outcomes program p =
        (.error code, failed) ∧ failed.phase ≠ 4 ∧
      (WorkingDirectoryFails grow outcomes store p ∧ code ≠ .success ∧
          (∃ string ∈ failed.strings, (failed.cleanup array p).released.count string = 2) ∨
        (∃ last, createName grow p ⟨true, outcomes.workingDirectory, p.config.workingDirectory⟩
          store = (.error code, last)) ∧ FilesystemUnprepared store program p code (failed.cleanup array p))) ∨
    ∃ string last, createName grow p ⟨true, outcomes.workingDirectory, p.config.workingDirectory⟩
        store = (.ok (some string), last) ∧ outcomes.createWorkingDirectory = none ∧
      (Preparation.start store).prepareWorkingDirectory array grow outcomes program p =
        (.ok (), ⟨last, 1, some string, none, none, none, [.success, .success],
          [store.binName p p.config.workingDirectory], [string], []⟩) ∧
      store.Created [(string, store.binName p p.config.workingDirectory)] last := by
  unfold Preparation.prepareWorkingDirectory Preparation.asprintf
  rcases @Store.Created.asprintf grow p store store [] (.refl store) outcomes.workingDirectory
    p.config.workingDirectory with ⟨code, last, hcode, hresult, hmade⟩ | ⟨string, last, hresult, hmade⟩
  · have hstart : (Preparation.start store).Stage store [] :=
      ⟨.refl store, rfl, rfl, fun _ hmem => absurd hmem List.not_mem_nil⟩
    have hname : createName grow p ⟨true, outcomes.workingDirectory, p.config.workingDirectory⟩
        store = (.error code, last) := by
      simp only [createName, hresult, if_true]
    left
    refine ⟨code, _, by simp only [Preparation.start, hresult]; rfl, ?_, Or.inr ⟨⟨last, hname⟩, ?_⟩⟩
    · exact Nat.zero_ne_add_one 3
    · exact hstart.unprepared h (.refl _) hcode hmade _
  · have hname : createName grow p ⟨true, outcomes.workingDirectory, p.config.workingDirectory⟩
        store = (.ok (some string), last) := by
      simp only [createName, hresult, if_true]
    have htext : last.text string = store.binName p p.config.workingDirectory :=
      hmade.text _ (List.mem_singleton_self _)
    cases hdirectory : outcomes.createWorkingDirectory with
    | some code =>
        left
        refine ⟨code, _, by simp only [Preparation.start, hresult, Preparation.directoryCreate]; rfl,
          Nat.ne_of_lt (by decide : 1 < 4), Or.inl ⟨⟨by simp [hdirectory], [some string], last, ?_⟩,
            code.property, string, List.mem_singleton_self _, ?_⟩⟩
        · simp only [nameCalls, List.take, createNames, hname]
        · -- once in front of the cleanup and once by it
          change ([string] ++ [string]).count string = 2
          simp
    | none =>
        right
        refine ⟨string, last, hname, rfl, ?_, hmade⟩
        simp only [Preparation.start, hresult, Preparation.directoryCreate, htext, List.nil_append,
          List.cons_append]

theorem fileName_toList {redirection : ProgramStdioRedirection} {string : Option ObjectRef}
    (hnone : string = none ↔ redirection ≠ .file) :
    (if redirection = .file then string.toList else []) = string.toList := by
  by_cases hfile : redirection = .file
  · rw [if_pos hfile]
  · rw [if_neg hfile, hnone.mpr hfile]
    rfl

theorem Preparation.andThen_ok (step : Preparation → Except APIE Unit × Preparation)
    (s : Preparation) : Preparation.andThen step (.ok (), s) = step s := rfl

-- The cleanup leaves nothing behind.
def Ends (array : ArrayRemove) (store : Store) (program : ObjectRef) (p : Program)
    (result : Except APIE Unit × Preparation) : Prop :=
  ∃ code failed, result = (.error code, failed) ∧ failed.phase ≠ 4 ∧
    FilesystemUnprepared store program p code (failed.cleanup array p)

theorem Ends.andThen {result : Except APIE Unit × Preparation} (h : Ends array store program p result)
    (step : Preparation → Except APIE Unit × Preparation) :
    Ends array store program p (Preparation.andThen step result) := by
  obtain ⟨code, failed, rfl, hphase, hunprepared⟩ := h
  exact ⟨code, failed, rfl, hphase, hunprepared⟩

section Streams

variable {s : Preparation} {created : List (ObjectRef × CString)} {workingDirectory : ObjectRef}
  {stdin stdout : Option ObjectRef}

theorem prepareStdin_cases (h : Preparable array program p store) (hstage : s.Stage store created)
    (hphase : s.phase = 1) (hworking : s.absoluteWorkingDirectory = some workingDirectory)
    (hcreated : created.map Prod.fst = [workingDirectory]) :
    ((∃ code last, createName grow p (fileNameCall p.config.stdinRedirection outcomes.stdin
        p.config.stdinFileName) s.store = (.error code, last)) ∧
      Ends array store program p (s.prepareStdin array grow outcomes program p)) ∨
    ∃ string s', createName grow p (fileNameCall p.config.stdinRedirection outcomes.stdin
        p.config.stdinFileName) s.store = (.ok string, s'.store) ∧
      s.prepareStdin array grow outcomes program p = (.ok (), s') ∧
      (string = none ↔ p.config.stdinRedirection ≠ .file) ∧
      s'.Stage store (created ++ string.toList.map fun object =>
        (object, s.store.binName p p.config.stdinFileName)) ∧
      s'.phase = 2 ∧ s'.absoluteWorkingDirectory = some workingDirectory ∧
      s'.absoluteStdinFileName = string ∧ s'.directories = s.directories := by
  have hcleanup : s.cleanupStrings p = created.map Prod.fst := by
    unfold Preparation.cleanupStrings
    simp [hphase, hworking, hcreated]
  unfold Preparation.prepareStdin
  rcases @Preparation.Stage.wrapFileName array grow outcomes program p store created s hstage h
    (hcleanup ▸ .refl _) p.config.stdinRedirection outcomes.stdin p.config.stdinFileName
    "Could not wrap absolute stdin file name into string object: %s (%d)" with
    ⟨code, last, failed, hname, hresult, hfailed, hunprepared⟩ |
      ⟨string, wrapped, hname, hnone, hresult, hwrapped, hstage'⟩
  · refine Or.inl ⟨⟨code, last, hname⟩, code, failed, by simp only [hresult], ?_, hunprepared⟩
    rw [hfailed, hphase]
    decide
  · refine Or.inr ⟨string, { wrapped with phase := 2, absoluteStdinFileName := string }, hname,
      by simp only [hresult], hnone, ⟨hstage'.made, hstage'.strings, hstage'.released, hstage'.codes⟩, rfl, ?_, rfl, ?_⟩
    · rw [hwrapped]
      exact hworking
    · rw [hwrapped]

theorem directoryPart_binName (store : Store) (p : Program) (name : ObjectRef) :
    directoryPart (store.binName p name) ≠ none := by
  have hmem : (47 : UInt8) ∈ store.binName p name :=
    List.mem_append_left _ (List.mem_append_right _ (by decide))
  unfold directoryPart
  rw [if_pos hmem]
  exact Option.some_ne_none _

-- The directory of a file that was named in the last step.
theorem Preparation.Stage.directory_eq {string : Option ObjectRef} {text : CString}
    {redirection : ProgramStdioRedirection} (hnone : string = none ↔ redirection ≠ .file)
    (hstage : s.Stage store (created ++ string.toList.map fun object => (object, text))) :
    (string.bind fun object => directoryPart (s.store.text object)) =
      if redirection = .file then directoryPart text else none := by
  cases string with
  | none => rw [if_neg (hnone.mp rfl), Option.bind_none]
  | some object =>
      have hfile : redirection = .file := by
        by_contra hfile
        exact Option.some_ne_none object (hnone.mpr hfile)
      have htext : s.store.text object = text :=
        hstage.made.text (object, text) (List.mem_append_right _ (List.mem_singleton_self _))
      rw [if_pos hfile, Option.bind_some, htext]

theorem cleanupStrings_stdout {s : Preparation} (hphase : s.phase = 3)
    (hworking : s.absoluteWorkingDirectory = some workingDirectory)
    (hstdin : s.absoluteStdinFileName = stdin) (hstdout : s.absoluteStdoutFileName = stdout)
    (hstdinNone : stdin = none ↔ p.config.stdinRedirection ≠ .file)
    (hstdoutNone : stdout = none ↔ p.config.stdoutRedirection ≠ .file) :
    (s.cleanupStrings p).Perm ([workingDirectory] ++ stdin.toList ++ stdout.toList) := by
  have hperm : (stdout.toList ++ stdin.toList ++ [workingDirectory]).Perm
      ([workingDirectory] ++ stdin.toList ++ stdout.toList) := by
    rw [List.append_assoc]
    exact List.perm_append_comm.trans (List.perm_append_comm.append_right _)
  unfold Preparation.cleanupStrings
  simpa [hphase, hworking, hstdin, hstdout, fileName_toList hstdinNone,
    fileName_toList hstdoutNone] using hperm

theorem prepareStdout_cases (h : Preparable array program p store) (hstage : s.Stage store created)
    (hphase : s.phase = 2) (hworking : s.absoluteWorkingDirectory = some workingDirectory)
    (hstdin : s.absoluteStdinFileName = stdin)
    (hnone : stdin = none ↔ p.config.stdinRedirection ≠ .file)
    (hcreated : created.map Prod.fst = [workingDirectory] ++ stdin.toList) :
    ((∃ code last, createName grow p (fileNameCall p.config.stdoutRedirection outcomes.stdout
          p.config.stdoutFileName) s.store = (.error code, last)) ∨
        (p.config.stdoutRedirection = .file ∧ outcomes.createStdoutDirectory ≠ none)) ∧
      Ends array store program p (s.prepareStdout array grow outcomes program p) ∨
    ∃ string s', createName grow p (fileNameCall p.config.stdoutRedirection outcomes.stdout
        p.config.stdoutFileName) s.store = (.ok string, s'.store) ∧
      s.prepareStdout array grow outcomes program p = (.ok (), s') ∧
      (string = none ↔ p.config.stdoutRedirection ≠ .file) ∧
      (p.config.stdoutRedirection = .file → outcomes.createStdoutDirectory = none) ∧
      s'.Stage store (created ++ string.toList.map fun object =>
        (object, s.store.binName p p.config.stdoutFileName)) ∧
      s'.phase = 3 ∧ s'.absoluteWorkingDirectory = some workingDirectory ∧
      s'.absoluteStdinFileName = stdin ∧ s'.absoluteStdoutFileName = string ∧
      s'.directories = s.directories ++ (if p.config.stdoutRedirection = .file then
        (directoryPart (s.store.binName p p.config.stdoutFileName)).toList else []) := by
  have hcleanup : (s.cleanupStrings p).Perm (created.map Prod.fst) := by
    unfold Preparation.cleanupStrings
    rw [hcreated, hstdin, hworking]
    simp only [hphase]
    simp [fileName_toList hnone]
  unfold Preparation.prepareStdout
  rcases @Preparation.Stage.wrapFileName array grow outcomes program p store created s hstage h
    hcleanup p.config.stdoutRedirection outcomes.stdout p.config.stdoutFileName
    "Could not wrap absolute stdout file name into string object: %s (%d)" with
    ⟨code, last, failed, hname, hresult, hfailed, hunprepared⟩ |
      ⟨string, wrapped, hname, hstring, hresult, hwrapped, hnamed⟩
  · refine Or.inl ⟨Or.inl ⟨code, last, hname⟩, code, failed, by simp only [hresult], ?_, hunprepared⟩
    rw [hfailed, hphase]
    decide
  · simp only [hresult]
    have hstage' : ({ wrapped with phase := 3, absoluteStdoutFileName := string } :
        Preparation).Stage store (created ++ string.toList.map fun object =>
          (object, s.store.binName p p.config.stdoutFileName)) :=
      ⟨hnamed.made, hnamed.strings, hnamed.released, hnamed.codes⟩
    have hdirectory := hstage'.directory_eq hstring
    rcases @Preparation.Stage.ensureDirectory array grow outcomes program p store _ _ hstage' h string
      outcomes.createStdoutDirectory "Could not create directory for stdout file '%s': %s (%d)" with
      ⟨code, failed, houtcome, hsome, hresult, hfailed, -, hunprepared⟩ |
        ⟨ensured, houtcome, hresult, hensured, hstage''⟩
    · have hfile : p.config.stdoutRedirection = .file := by
        by_contra hfile
        exact hsome (hstring.mpr hfile)
      refine Or.inl ⟨Or.inr ⟨hfile, by simp [houtcome]⟩, code, failed, hresult, ?_, hunprepared ?_⟩
      · rw [hfailed]
        exact (by decide : 3 ≠ 4)
      · have hworking' : wrapped.absoluteWorkingDirectory = some workingDirectory := by
          rw [hwrapped]
          exact hworking
        have hstdin' : wrapped.absoluteStdinFileName = stdin := by
          rw [hwrapped]
          exact hstdin
        rw [List.map_append, hcreated, List.map_map, Function.comp_def, List.map_id']
        exact cleanupStrings_stdout rfl hworking' hstdin' rfl hnone hstring
    · refine Or.inr ⟨string, ensured, ?_, hresult, hstring, fun hfile => ?_, hstage'', ?_, ?_, ?_, ?_,
        ?_⟩
      · rw [hensured]
        exact hname
      · rw [hdirectory, if_pos hfile] at houtcome
        exact houtcome.resolve_right (directoryPart_binName s.store p _)
      · rw [hensured]
      · rw [hensured, hwrapped]
        exact hworking
      · rw [hensured, hwrapped]
        exact hstdin
      · rw [hensured]
      · rw [hensured, hdirectory, hwrapped]
        split <;> rfl

theorem prepareStderr_cases (h : Preparable array program p store) (hstage : s.Stage store created)
    (hphase : s.phase = 3) (hworking : s.absoluteWorkingDirectory = some workingDirectory)
    (hstdin : s.absoluteStdinFileName = stdin) (hstdout : s.absoluteStdoutFileName = stdout)
    (hstdinNone : stdin = none ↔ p.config.stdinRedirection ≠ .file)
    (hstdoutNone : stdout = none ↔ p.config.stdoutRedirection ≠ .file)
    (hcreated : created.map Prod.fst = [workingDirectory] ++ stdin.toList ++ stdout.toList) :
    ((∃ code last, createName grow p (fileNameCall p.config.stderrRedirection outcomes.stderr
        p.config.stderrFileName) s.store = (.error code, last)) ∧
      Ends array store program p (s.prepareStderr array grow outcomes program p)) ∨
    (∃ string last, createName grow p (fileNameCall p.config.stderrRedirection outcomes.stderr
        p.config.stderrFileName) s.store = (.ok string, last) ∧
      p.config.stderrRedirection = .file ∧ outcomes.createStderrDirectory ≠ none ∧
      ∃ code failed, s.prepareStderr array grow outcomes program p = (.error code, failed) ∧
        failed.phase = 4 ∧ code ≠ .success ∧ code ∈ failed.codes) ∨
    ∃ string s', createName grow p (fileNameCall p.config.stderrRedirection outcomes.stderr
        p.config.stderrFileName) s.store = (.ok string, s'.store) ∧
      s.prepareStderr array grow outcomes program p = (.ok (), s') ∧
      (string = none ↔ p.config.stderrRedirection ≠ .file) ∧
      (p.config.stderrRedirection = .file → outcomes.createStderrDirectory = none) ∧
      s'.Stage store (created ++ string.toList.map fun object =>
        (object, s.store.binName p p.config.stderrFileName)) ∧
      s'.phase = 4 ∧ s'.absoluteWorkingDirectory = some workingDirectory ∧
      s'.absoluteStdinFileName = stdin ∧ s'.absoluteStdoutFileName = stdout ∧
      s'.absoluteStderrFileName = string ∧
      s'.directories = s.directories ++ (if p.config.stderrRedirection = .file then
        (directoryPart (s.store.binName p p.config.stderrFileName)).toList else []) := by
  have hcleanup : (s.cleanupStrings p).Perm (created.map Prod.fst) := by
    rw [hcreated]
    exact cleanupStrings_stdout hphase hworking hstdin hstdout hstdinNone hstdoutNone
  unfold Preparation.prepareStderr
  rcases @Preparation.Stage.wrapFileName array grow outcomes program p store created s hstage h
    hcleanup p.config.stderrRedirection outcomes.stderr p.config.stderrFileName
    "Could not wrap absolute stderr file name into string object: %s (%d)" with
    ⟨code, last, failed, hname, hresult, hfailed, hunprepared⟩ |
      ⟨string, wrapped, hname, hstring, hresult, hwrapped, hnamed⟩
  · refine Or.inl ⟨⟨code, last, hname⟩, code, failed, by simp only [hresult], ?_, hunprepared⟩
    rw [hfailed, hphase]
    decide
  · simp only [hresult]
    have hstage' : ({ wrapped with phase := 4, absoluteStderrFileName := string } :
        Preparation).Stage store (created ++ string.toList.map fun object =>
          (object, s.store.binName p p.config.stderrFileName)) :=
      ⟨hnamed.made, hnamed.strings, hnamed.released, hnamed.codes⟩
    have hdirectory := hstage'.directory_eq hstring
    rcases @Preparation.Stage.ensureDirectory array grow outcomes program p store _ _ hstage' h string
      outcomes.createStderrDirectory "Could not create directory for stderr file '%s': %s (%d)" with
      ⟨code, failed, houtcome, hsome, hresult, hfailed, hcode, -⟩ |
        ⟨ensured, houtcome, hresult, hensured, hstage''⟩
    · have hfile : p.config.stderrRedirection = .file := by
        by_contra hfile
        exact hsome (hstring.mpr hfile)
      exact Or.inr (Or.inl ⟨string, wrapped.store, hname, hfile, by simp [houtcome], code, failed,
        hresult, hfailed, code.property, hcode⟩)
    · refine Or.inr (Or.inr ⟨string, ensured, ?_, hresult, hstring, fun hfile => ?_, hstage'', ?_, ?_,
        ?_, ?_, ?_, ?_⟩)
      · rw [hensured]
        exact hname
      · rw [hdirectory, if_pos hfile] at houtcome
        exact houtcome.resolve_right (directoryPart_binName s.store p _)
      · rw [hensured]
      · rw [hensured, hwrapped]
        exact hworking
      · rw [hensured, hwrapped]
        exact hstdin
      · rw [hensured, hwrapped]
        exact hstdout
      · rw [hensured]
      · rw [hensured, hdirectory, hwrapped]
        split <;> rfl

end Streams

-- The texts do not depend on the strings that were created in the meantime.
theorem fileName_texts {string : Option ObjectRef} {redirection : ProgramStdioRedirection}
    {text other : CString} (hnone : string = none ↔ redirection ≠ .file)
    (htext : redirection = .file → text = other) :
    (string.toList.map fun object => (object, text)) =
      string.toList.map fun object => (object, other) := by
  by_cases hfile : redirection = .file
  · rw [htext hfile]
  · rw [hnone.mpr hfile]
    rfl

theorem fileName_directories {redirection : ProgramStdioRedirection} {text other : CString}
    (htext : redirection = .file → text = other) :
    (if redirection = .file then (directoryPart text).toList else []) =
      if redirection = .file then (directoryPart other).toList else [] := by
  by_cases hfile : redirection = .file
  · rw [htext hfile]
  · rw [if_neg hfile, if_neg hfile]

theorem config_mem_holds (p : Program) :
    (p.config.stdinRedirection = .file → lockedHold p.config.stdinFileName ∈ p.holds) ∧
      (p.config.stdoutRedirection = .file → lockedHold p.config.stdoutFileName ∈ p.holds) ∧
      (p.config.stderrRedirection = .file → lockedHold p.config.stderrFileName ∈ p.holds) := by
  unfold Program.holds ProgramConfig.holds
  refine ⟨fun hfile => ?_, fun hfile => ?_, fun hfile => ?_⟩ <;> simp [hfile]

section Names

variable {call : NameCall} {calls : List NameCall} {names : List (Option ObjectRef)}
  {name : Option ObjectRef} {other last : Store}

theorem createNames_head (h : createNames grow p (call :: calls) store = (.ok names, other)) :
    ∃ name last, createName grow p call store = (.ok name, last) := by
  unfold createNames at h
  split at h
  · cases h
  · rename_i name last hname
    exact ⟨name, last, hname⟩

theorem createNames_tail (hname : createName grow p call store = (.ok name, last))
    (h : createNames grow p (call :: calls) store = (.ok names, other)) :
    ∃ names, createNames grow p calls last = (.ok names, other) := by
  unfold createNames at h
  simp only [hname] at h
  split at h
  · cases h
  · rename_i rest last' hrest
    cases h
    exact ⟨rest, hrest⟩

theorem createNames_cons (hname : createName grow p call store = (.ok name, last))
    (h : createNames grow p calls last = (.ok names, other)) :
    createNames grow p (call :: calls) store = (.ok (name :: names), other) := by
  unfold createNames
  simp only [hname, h]

theorem createNames_error {code : APIE} (hname : createName grow p call store = (.error code, last)) :
    createNames grow p (call :: calls) store ≠ (.ok names, other) := by
  intro h
  obtain ⟨name, last', hok⟩ := createNames_head h
  rw [hname] at hok
  cases hok

end Names

-- How all the steps end.
theorem prepareAll_cases (h : Preparable array program p store) :
    (∃ code failed, (Preparation.start store).prepareAll array grow outcomes program p =
        (.error code, failed) ∧ failed.phase ≠ 4 ∧ WorkingDirectoryFails grow outcomes store p ∧
        code ≠ .success ∧
        ∃ string ∈ failed.strings, (failed.cleanup array p).released.count string = 2) ∨
    (¬WorkingDirectoryFails grow outcomes store p ∧ ¬StderrDirectoryFails grow outcomes store p ∧
      Ends array store program p ((Preparation.start store).prepareAll array grow outcomes program p)) ∨
    (StderrDirectoryFails grow outcomes store p ∧ ∃ code failed,
      (Preparation.start store).prepareAll array grow outcomes program p = (.error code, failed) ∧
        failed.phase = 4 ∧ code ≠ .success ∧ code ∈ failed.codes) ∨
    ¬WorkingDirectoryFails grow outcomes store p ∧ ¬StderrDirectoryFails grow outcomes store p ∧
      ∃ workingDirectory stdin stdout stderr s,
        (Preparation.start store).prepareAll array grow outcomes program p = (.ok (), s) ∧
        s.phase = 4 ∧ s.directories = neededDirectories store p ∧
        s.Stage store ([(workingDirectory, store.binName p p.config.workingDirectory)] ++
          (stdin.toList.map fun object => (object, store.binName p p.config.stdinFileName)) ++
          (stdout.toList.map fun object => (object, store.binName p p.config.stdoutFileName)) ++
          stderr.toList.map fun object => (object, store.binName p p.config.stderrFileName)) ∧
        s.absoluteWorkingDirectory = some workingDirectory ∧ s.absoluteStdinFileName = stdin ∧
        s.absoluteStdoutFileName = stdout ∧ s.absoluteStderrFileName = stderr ∧
        (stdin = none ↔ p.config.stdinRedirection ≠ .file) ∧
        (stdout = none ↔ p.config.stdoutRedirection ≠ .file) ∧
        (stderr = none ↔ p.config.stderrRedirection ≠ .file) := by
  unfold Preparation.prepareAll
  rcases @prepareWorkingDirectory_cases array grow outcomes program p store h with
    ⟨code, failed, hresult, hphase, ⟨hfails, htwice⟩ | ⟨⟨last, hname⟩, hunprepared⟩⟩ |
      ⟨workingDirectory, last, hname₁, hcreate, hresult, hmade⟩
  · exact Or.inl ⟨code, failed, by rw [hresult]; rfl, hphase, hfails, htwice⟩
  · refine Or.inr (Or.inl ⟨?_, ?_, code, failed, by rw [hresult]; rfl, hphase, hunprepared⟩)
    · rintro ⟨-, names, other, hok⟩
      exact createNames_error hname hok
    · rintro ⟨-, -, -, -, names, other, hok⟩
      exact createNames_error hname hok
  have hworks : ¬WorkingDirectoryFails grow outcomes store p := fun hfails => hfails.1 hcreate
  obtain ⟨hstdinMem, hstdoutMem, hstderrMem⟩ := config_mem_holds p
  have hstage : Preparation.Stage ⟨last, 1, some workingDirectory, none, none, none,
      [.success, .success], [store.binName p p.config.workingDirectory], [workingDirectory], []⟩ store
      [(workingDirectory, store.binName p p.config.workingDirectory)] :=
    ⟨hmade, rfl, rfl, by simp⟩
  rw [hresult, Preparation.andThen_ok]
  rcases @prepareStdin_cases array grow outcomes program p store _ _ workingDirectory h hstage rfl rfl
    rfl with ⟨⟨code, last', hname₂⟩, hends⟩ |
      ⟨stdin, s₂, hname₂, hresult₂, hstdin, hstage₂, hphase₂, hworking₂, hstdin₂, hdirectories₂⟩
  · refine Or.inr (Or.inl ⟨hworks, ?_, (hends.andThen _).andThen _⟩)
    rintro ⟨-, -, -, -, names, other, hok⟩
    obtain ⟨names, hok⟩ := createNames_tail hname₁ hok
    exact createNames_error hname₂ hok
  rw [hresult₂, Preparation.andThen_ok]
  have hmap₂ : ([(workingDirectory, store.binName p p.config.workingDirectory)] ++
      stdin.toList.map fun object => (object, last.binName p p.config.stdinFileName)) =
      [(workingDirectory, store.binName p p.config.workingDirectory)] ++
        stdin.toList.map fun object => (object, store.binName p p.config.stdinFileName) :=
    congrArg _ (fileName_texts hstdin fun hfile => h.binName_eq hstage.made (hstdinMem hfile))
  have hstage₂ := hmap₂ ▸ hstage₂
  rcases @prepareStdout_cases array grow outcomes program p store _ _ workingDirectory stdin h hstage₂
    hphase₂ hworking₂ hstdin₂ hstdin (by simp [Function.comp_def]) with
    ⟨hfails, hends⟩ | ⟨stdout, s₃, hname₃, hresult₃, hstdout, hcreate₃, hstage₃, hphase₃, hworking₃,
      hstdin₃, hstdout₃, hdirectories₃⟩
  · refine Or.inr (Or.inl ⟨hworks, ?_, hends.andThen _⟩)
    rintro ⟨-, -, -, hcreated, names, other, hok⟩
    obtain ⟨names, hok⟩ := createNames_tail hname₁ hok
    obtain ⟨names, hok⟩ := createNames_tail hname₂ hok
    rcases hfails with ⟨code, last', hname₃⟩ | ⟨hfile, hfails⟩
    · exact createNames_error hname₃ hok
    · exact hfails (hcreated hfile)
  rw [hresult₃, Preparation.andThen_ok]
  have hbin₃ := fun hfile => h.binName_eq hstage₂.made (hstdoutMem hfile)
  rw [fileName_texts hstdout hbin₃] at hstage₃
  rcases @prepareStderr_cases array grow outcomes program p store _ _ workingDirectory stdin stdout h
    hstage₃ hphase₃ hworking₃ hstdin₃ hstdout₃ hstdin hstdout (by simp [Function.comp_def]) with
    ⟨⟨code, last', hname₄⟩, hends⟩ | ⟨stderr, last', hname₄, hfile, hcreate₄, hfailed⟩ |
      ⟨stderr, s₄, hname₄, hresult₄, hstderr, hcreate₄, hstage₄, hphase₄, hworking₄, hstdin₄, hstdout₄,
        hstderr₄, hdirectories₄⟩
  · refine Or.inr (Or.inl ⟨hworks, ?_, hends⟩)
    rintro ⟨-, -, -, -, names, other, hok⟩
    obtain ⟨names, hok⟩ := createNames_tail hname₁ hok
    obtain ⟨names, hok⟩ := createNames_tail hname₂ hok
    obtain ⟨names, hok⟩ := createNames_tail hname₃ hok
    exact createNames_error hname₄ hok
  · exact Or.inr (Or.inr (Or.inl ⟨⟨hfile, hcreate₄, hcreate, hcreate₃, _, _,
      createNames_cons hname₁ (createNames_cons hname₂ (createNames_cons hname₃
        (createNames_cons hname₄ rfl)))⟩, hfailed⟩))
  · have hbin₄ := fun hfile => h.binName_eq hstage₃.made (hstderrMem hfile)
    rw [fileName_texts hstderr hbin₄] at hstage₄
    refine Or.inr (Or.inr (Or.inr ⟨hworks, fun hfails => hfails.2.1 (hcreate₄ hfails.1),
      workingDirectory, stdin, stdout, stderr, s₄, hresult₄, hphase₄, ?_, hstage₄, hworking₄, hstdin₄,
      hstdout₄, hstderr₄, hstdin, hstdout, hstderr⟩))
    rw [hdirectories₄, hdirectories₃, hdirectories₂, fileName_directories hbin₃,
      fileName_directories hbin₄]
    rfl

section Ready

variable {s : Preparation} {created : List (ObjectRef × CString)} {other : Store}
  {released : List ObjectRef} {p' : Program}

-- A string that was created stays with its holder while the old ones are released.
theorem Replacing.newString (h : Preparable array program p store) (hstage : s.Stage store created)
    (hreplacing : Replacing program released p' s.store other)
    (hlive : ∀ q ∈ released, store.objects.get q ≠ none) {name string : ObjectRef}
    (hmem : (string, store.binName p name) ∈ created) : NewString store p other name string := by
  have hfst : string ∈ created.map Prod.fst := List.mem_map_of_mem hmem
  have hnew := hstage.made.new string hfst
  have hne : string ≠ program := by
    rintro rfl
    exact h.live hnew
  have hcount : released.count string = 0 :=
    List.count_eq_zero.mpr fun hreleased => hlive string hreleased hnew
  obtain ⟨id, payload, hget⟩ := (hstage.made.owned string hfst).object
  have hkept := hreplacing.get string hne
  rw [hget, Option.bind_some, hcount, Object.released_zero] at hkept
  refine ⟨hnew, ⟨_, hkept, rfl, rfl, rfl⟩, ?_⟩
  have hpayload : other.payload string = s.store.payload string := by
    unfold Store.payload
    rw [hkept, hget]
  have htext := hstage.made.text _ hmem
  unfold Store.text at htext ⊢
  rw [hpayload]
  exact htext

theorem Replacing.newFileName (h : Preparable array program p store)
    (hstage : s.Stage store created) (hreplacing : Replacing program released p' s.store other)
    (hlive : ∀ q ∈ released, store.objects.get q ≠ none) {name : ObjectRef}
    {string : Option ObjectRef} {redirection : ProgramStdioRedirection}
    (hnone : string = none ↔ redirection ≠ .file)
    (hsub : (string.toList.map fun object => (object, store.binName p name)) ⊆ created) :
    NewFileName store p other redirection name string := by
  refine ⟨hnone, fun object hsome => hreplacing.newString h hstage hlive ?_⟩
  subst hsome
  exact hsub (List.mem_singleton_self _)

end Ready

section Main

variable {pool : List Hold}

-- The scheduler holds these as strings.
def ProgramScheduler.Typed (scheduler : ProgramScheduler) (store : Store) : Prop :=
  ∀ string ∈ scheduler.stored ++ scheduler.message.toList,
    ∃ s, store.payload string = some (.string s)

theorem stored_count_le (p : Program) (q : ObjectRef) :
    p.scheduler.stored.count q ≤ p.holds.count (lockedHold q) := by
  have hcount : ∀ string : Option ObjectRef,
      (string.toList.map lockedHold).count (lockedHold q) = string.toList.count q := by
    intro string
    exact List.count_map_of_injective _ lockedHold (fun _ _ h => congrArg Hold.object h) q
  unfold Program.holds ProgramScheduler.holds ProgramScheduler.stored
  simp only [List.count_append, hcount]
  omega

theorem Sound.stored_count_le (h : Sound pool store)
    (hprogram : store.payload program = some (.program p)) {q : ObjectRef} {o : Object}
    (ho : store.objects.get q = some o) :
    p.scheduler.stored.count q ≤ o.internalReferenceCount ∧
      p.scheduler.stored.count q ≤ o.lockCount := by
  obtain ⟨holder, hholder, hpayload⟩ := Option.map_eq_some_iff.mp hprogram
  have hle : p.holds.count (lockedHold q) ≤ store.claims ownHolds pool (lockedHold q) := by
    have hincoming := Heap.le_incoming (e := lockedHold q) (fun r (o : Object) => ownHolds r o.payload)
      hholder
    unfold ownHolds at hincoming
    rw [hpayload] at hincoming
    exact Nat.le_add_right_of_le hincoming
  have hstored := RedApid.stored_count_le p q
  rw [h.holding.accounted.references q o ho, h.holding.accounted.locks q o ho]
  omega

theorem Sound.stores (h : Sound pool store) (hprogram : store.payload program = some (.program p))
    (htyped : p.scheduler.Typed store) : store.Stores p.scheduler.stored := by
  intro string hmem
  obtain ⟨s, hs⟩ := htyped string (List.mem_append_left _ hmem)
  obtain ⟨o, ho, hpayload⟩ := Option.map_eq_some_iff.mp hs
  exact ⟨o, s, ho, hpayload, (h.stored_count_le hprogram ho).1⟩

theorem Sound.preparable (h : Sound pool store) (hdirect : array.Direct)
    (hprogram : store.payload program = some (.program p))
    (htyped : p.scheduler.Typed store) : Preparable array program p store where
  direct := hdirect
  counted := h.counted
  program_eq := hprogram
  message message hmessage := by
    have hmem : lockedHold message ∈ p.holds := by
      simp [Program.holds, ProgramScheduler.holds, hmessage]
    obtain ⟨s, hs⟩ := htyped message (List.mem_append_right _ (by simp [hmessage]))
    obtain ⟨o, ho, hcount⟩ := h.held hprogram hmem
    obtain ⟨o', ho', hpayload⟩ := Option.map_eq_some_iff.mp hs
    have hsame : o' = o := Option.some.inj (ho'.symm.trans ho)
    exact ⟨o, s, ho, hsame ▸ hpayload, hcount⟩
  texts hold hmem := by
    obtain ⟨o, ho, -⟩ := h.held hprogram hmem
    simp [ho]

-- The new strings take the places of the old ones.
theorem Preparable.ready (h : Preparable array program p store)
    (hstores : store.Stores p.scheduler.stored)
    (hcounts : ∀ q o, store.objects.get q = some o →
      p.scheduler.stored.count q ≤ o.internalReferenceCount ∧
        p.scheduler.stored.count q ≤ o.lockCount)
    {s : Preparation} {workingDirectory : ObjectRef} {stdin stdout stderr : Option ObjectRef}
    (hdirectories : s.directories = neededDirectories store p)
    (hstage : s.Stage store ([(workingDirectory, store.binName p p.config.workingDirectory)] ++
      (stdin.toList.map fun object => (object, store.binName p p.config.stdinFileName)) ++
      (stdout.toList.map fun object => (object, store.binName p p.config.stdoutFileName)) ++
      stderr.toList.map fun object => (object, store.binName p p.config.stderrFileName)))
    (hworking : s.absoluteWorkingDirectory = some workingDirectory)
    (hstdin : s.absoluteStdinFileName = stdin) (hstdout : s.absoluteStdoutFileName = stdout)
    (hstderr : s.absoluteStderrFileName = stderr)
    (hstdinNone : stdin = none ↔ p.config.stdinRedirection ≠ .file)
    (hstdoutNone : stdout = none ↔ p.config.stdoutRedirection ≠ .file)
    (hstderrNone : stderr = none ↔ p.config.stderrRedirection ≠ .file) :
    FilesystemReady store program p (s.storeStrings array program) := by
  have hmade := hstage.made
  have hlive : ∀ q ∈ p.scheduler.stored, store.objects.get q ≠ none := by
    intro q hq
    obtain ⟨o, -, ho, -⟩ := hstores q hq
    simp [ho]
  have hkept : s.store.Stores p.scheduler.stored := by
    intro q hq
    obtain ⟨o, string, ho, hpayload, hcount⟩ := hstores q hq
    exact ⟨o, string, (hmade.touches.get q (hmade.not_mem (hlive q hq))).trans ho, hpayload, hcount⟩
  have hprogram := (hmade.touches.payload (hmade.not_mem h.live)).trans h.program_eq
  have hreplacing := storeStrings_replacing h.direct hprogram (hmade.touches.counted h.counted) hkept
  refine ⟨hstage.codes, hdirectories, ⟨workingDirectory, stdin, stdout, stderr, ?_, ?_, ?_, ?_, ?_⟩,
    fun q o hq ho => ?_, ?_⟩
  · rw [hreplacing.program_eq, hworking, hstdin, hstdout, hstderr]
  · exact hreplacing.newString h hstage hlive (by simp)
  · refine hreplacing.newFileName h hstage hlive hstdinNone fun entry hmem => ?_
    exact List.mem_append_left _ (List.mem_append_left _ (List.mem_append_right _ hmem))
  · refine hreplacing.newFileName h hstage hlive hstdoutNone fun entry hmem => ?_
    exact List.mem_append_left _ (List.mem_append_right _ hmem)
  · exact hreplacing.newFileName h hstage hlive hstderrNone (List.subset_append_right _ _)
  · have hsame := hmade.touches.get q (hmade.not_mem (by simp [ho]))
    have hlisted := hmade.touches.listed o.type q (hmade.not_mem (by simp [ho]))
    refine ⟨(hcounts q o ho).1, (hcounts q o ho).2, ?_⟩
    rw [hreplacing.get q hq, hsame, ho, Option.bind_some]
    unfold Object.released
    simp only [hlisted]
  · exact hreplacing.fault.trans hmade.touches.fault

-- Exactly if neither the working directory nor the directory for stderr is what cannot be created.
theorem prepare_filesystem_all_or_nothing_iff
    (hsteps : Relation.ReflTransGen (CleanStep array) ([], Store.init) (pool, store))
    (hdirect : array.Direct) (hprogram : store.payload program = some (.program p))
    (htyped : p.scheduler.Typed store) :
    FilesystemAllOrNothing store program p
        (programSchedulerPrepareFilesystem array grow outcomes program store) ↔
      ¬WorkingDirectoryFails grow outcomes store p ∧ ¬StderrDirectoryFails grow outcomes store p := by
  have hsound := sound_of_steps hsteps
  have h := hsound.preparable hdirect hprogram htyped
  unfold programSchedulerPrepareFilesystem
  simp only [hprogram]
  rcases @prepareAll_cases array grow outcomes program p store h with
    ⟨code, failed, hresult, hphase, hfails, hcode, string, hmem, htwice⟩ |
      ⟨hworks, hstderr, code, failed, hresult, hphase, hunprepared⟩ |
      ⟨hfails, code, failed, hresult, hphase, hcode, hmem⟩ |
      ⟨hworks, hstderr, workingDirectory, stdin, stdout, stderr, s, hresult, hphase, hdirectories,
        hstage, hlocals⟩
  · rw [hresult]
    refine iff_of_false (fun hall => ?_) fun hmet => hmet.1 hfails
    simp only [if_neg hphase] at hall
    have honce := ((hall.2 hcode).released string hmem).1
    exact absurd (htwice.symm.trans honce) (by decide)
  · rw [hresult]
    simp only [if_neg hphase]
    exact iff_of_true hunprepared.allOrNothing ⟨hworks, hstderr⟩
  · rw [hresult]
    refine iff_of_false (fun hall => hcode ?_) fun hmet => hmet.2 hfails
    simp only [if_pos hphase] at hall
    exact (hall.1 rfl).codes code hmem
  · rw [hresult]
    obtain ⟨hworking, hstdin, hstdout, hstderr', hnones⟩ := hlocals
    have hready := h.ready (hsound.stores hprogram htyped)
      (fun q o ho => hsound.stored_count_le hprogram ho) hdirectories hstage hworking hstdin hstdout
      hstderr' hnones.1 hnones.2.1 hnones.2.2
    have hcleanup : (s.storeStrings array program).cleanup array p = s.storeStrings array program := by
      unfold Preparation.cleanup Preparation.cleanupStrings
      simp [Preparation.storeStrings, Preparation.release, hphase, releaseAll]
    simp only [hcleanup]
    exact iff_of_true ⟨fun _ => hready, fun hne => absurd rfl hne⟩ ⟨hworks, hstderr⟩

-- Every string is made, and there is no memory for a message.
def filesystemOutcomes (createWorkingDirectory : Option APIError) : FilesystemOutcomes where
  workingDirectory := ⟨some fun _ => 0, true, ⟨true, none⟩⟩
  stdin := ⟨some fun _ => 0, true, ⟨true, none⟩⟩
  stdout := ⟨some fun _ => 0, true, ⟨true, none⟩⟩
  stderr := ⟨some fun _ => 0, true, ⟨true, none⟩⟩
  createWorkingDirectory := createWorkingDirectory
  createStdoutDirectory := none
  createStderrDirectory := none
  text _ _ := []
  handler := ⟨⟨none, true, ⟨true, none⟩⟩, none⟩

set_option maxRecDepth 4000 in
theorem programStore_prepare_filesystem :
    FilesystemAllOrNothing programStore 3 smallProgram
      (programSchedulerPrepareFilesystem .byIndex growTo16 (filesystemOutcomes none) 3
        programStore) := by
  refine (prepare_filesystem_all_or_nothing_iff programStore_steps ArrayRemove.byIndex_direct rfl
    fun string hmem => absurd hmem List.not_mem_nil).mpr ⟨fun hfails => hfails.1 rfl, ?_⟩
  rintro ⟨⟨⟩, -⟩

-- The working directory cannot be created, its string is released twice.
set_option maxRecDepth 4000 in
theorem prepare_filesystem_releases_twice :
    Relation.ReflTransGen (CleanStep .byIndex) ([], Store.init) ([], programStore) ∧
      programStore.fault = false ∧
      (programSchedulerPrepareFilesystem .byIndex growTo16
        (filesystemOutcomes (some ⟨.accessDenied, nofun⟩)) 3 programStore).1 = .accessDenied ∧
      (programSchedulerPrepareFilesystem .byIndex growTo16
        (filesystemOutcomes (some ⟨.accessDenied, nofun⟩)) 3 programStore).2.strings = [4] ∧
      (programSchedulerPrepareFilesystem .byIndex growTo16
        (filesystemOutcomes (some ⟨.accessDenied, nofun⟩)) 3 programStore).2.released = [4, 4] ∧
      (programSchedulerPrepareFilesystem .byIndex growTo16
        (filesystemOutcomes (some ⟨.accessDenied, nofun⟩)) 3 programStore).2.store.fault = true :=
  ⟨programStore_steps, rfl, rfl, rfl, rfl, rfl⟩

end Main

end AllOrNothing

end RedApid

import RedApid.Programs.FileNames
import RedApid.Scheduler.Paths

namespace RedApid.Scheduling

open Memory

variable {w w' : World} {p : ProgramRef} {c : Context}

section Served

-- The redirections that program_scheduler_prepare_stdin, _stdout and _stderr can serve.
def servedRedirections : Stdio → List ProgramStdioRedirection
  | .stdin => [.devNull, .pipe, .file]
  | .stdout => [.devNull, .file, .individualLog, .continuousLog]
  | .stderr => [.devNull, .file, .individualLog, .continuousLog, .stdout]

structure Served (config : ProgramSettings) : Prop where
  redirection : ∀ stream, redirectionOf config stream ∈ servedRedirections stream
  fileName : ∀ stream, redirectionOf config stream = .file →
    ∃ name, fileNameOf config stream = some name ∧ name ≠ []

def prepareStream (p : ProgramRef) (stdout : FileRef) :
    Stdio → Context → Option FileRef × Context
  | .stdin => programSchedulerPrepareStdin p
  | .stdout => programSchedulerPrepareStdout p
  | .stderr => programSchedulerPrepareStderr p stdout

theorem unservedMessage_eq_none_iff {stream : Stdio} {redirection : ProgramStdioRedirection} :
    unservedMessage stream redirection = none ↔ redirection ∈ servedRedirections stream := by
  cases stream <;> cases redirection <;> decide

theorem prepareStream_unserved {stream : Stdio} {message : String} (stdout : FileRef)
    (h : unservedMessage stream (redirectionOf c.program.config stream) = some message) :
    prepareStream p stdout stream c = (none, programSchedulerHandleError p message none c) := by
  cases stream with
  | stdin =>
      change programSchedulerPrepareStdin p c = _
      change unservedMessage .stdin c.program.config.stdinRedirection = _ at h
      unfold programSchedulerPrepareStdin
      cases hredirection : c.program.config.stdinRedirection <;> rw [hredirection] at h <;>
        cases h <;> rfl
  | stdout =>
      change programSchedulerPrepareStdout p c = _
      change unservedMessage .stdout c.program.config.stdoutRedirection = _ at h
      unfold programSchedulerPrepareStdout
      cases hredirection : c.program.config.stdoutRedirection <;> rw [hredirection] at h <;>
        cases h <;> rfl
  | stderr =>
      change programSchedulerPrepareStderr p stdout c = _
      change unservedMessage .stderr c.program.config.stderrRedirection = _ at h
      unfold programSchedulerPrepareStderr
      cases hredirection : c.program.config.stderrRedirection <;> rw [hredirection] at h <;>
        cases h
      rfl

end Served

section Setter

-- A byte of a request with a redirection of the stream, and with a file name if there has to be one.
def Usable (stream : Stdio) (byte : UInt8) (fileName : Except APIError CString) : Prop :=
  ∃ redirection ∈ servedRedirections stream, stdioRedirectionOfByte byte = some redirection ∧
    (redirection = .file → ∃ name, fileName = .ok name ∧ name ≠ [])

def PROGRAM_STDIO_REDIRECTION_PIPE : UInt8 := 1

-- A request for a pipe as stderr that is right in all other respects.
structure Redirections.PipesStderr (redirections : Redirections) : Prop where
  stdin : Usable .stdin redirections.stdin redirections.stdinFileName
  stdout : Usable .stdout redirections.stdout redirections.stdoutFileName
  stderr : redirections.stderr = PROGRAM_STDIO_REDIRECTION_PIPE

theorem stdioRedirectionOfByte_pipe_iff {byte : UInt8} :
    stdioRedirectionOfByte byte = some .pipe ↔ byte = PROGRAM_STDIO_REDIRECTION_PIPE := by
  constructor
  · intro h
    unfold stdioRedirectionOfByte at h
    apply UInt8.toNat_inj.mp
    change byte.toNat = 1
    obtain ⟨hlength, hpipe⟩ := List.getElem?_eq_some_iff.mp h
    generalize byte.toNat = i at hlength hpipe
    change i < 6 at hlength
    interval_cases i <;> first | rfl | cases hpipe
  · rintro rfl
    rfl

theorem not_served_stdin_iff {redirection : ProgramStdioRedirection} :
    redirection ∉ servedRedirections .stdin ↔
      redirection = .individualLog ∨ redirection = .continuousLog ∨ redirection = .stdout := by
  cases redirection <;> decide

theorem not_served_stdout_iff {redirection : ProgramStdioRedirection} :
    redirection ∉ servedRedirections .stdout ↔ redirection = .pipe ∨ redirection = .stdout := by
  cases redirection <;> decide

theorem served_stderr_iff {redirection : ProgramStdioRedirection} :
    redirection ∈ servedRedirections .stderr ↔ redirection ≠ .pipe := by
  cases redirection <;> decide

-- The check for stderr has no effect, what it looks for was already rejected for stdout.
theorem checkRedirections_iff {redirections : Redirections}
    {first second third : ProgramStdioRedirection} :
    checkRedirections redirections = some (first, second, third) ↔
      (stdioRedirectionOfByte redirections.stdin = some first ∧
        first ∈ servedRedirections .stdin) ∧
      (stdioRedirectionOfByte redirections.stdout = some second ∧
        second ∈ servedRedirections .stdout) ∧
      stdioRedirectionOfByte redirections.stderr = some third := by
  unfold checkRedirections
  cases stdioRedirectionOfByte redirections.stdin with
  | none => simp
  | some first' =>
      dsimp only
      by_cases hfirst : first' ∈ servedRedirections .stdin
      · rw [if_neg fun h => not_served_stdin_iff.mpr h hfirst]
        cases stdioRedirectionOfByte redirections.stdout with
        | none => simp
        | some second' =>
            dsimp only
            by_cases hsecond : second' ∈ servedRedirections .stdout
            · rw [if_neg fun h => not_served_stdout_iff.mpr h hsecond]
              cases stdioRedirectionOfByte redirections.stderr with
              | none => simp
              | some third' =>
                  dsimp only
                  rw [if_neg fun h => not_served_stdout_iff.mpr (Or.inl h) hsecond]
                  simp only [Option.some.injEq, Prod.mk.injEq]
                  constructor
                  · rintro ⟨rfl, rfl, rfl⟩
                    exact ⟨⟨rfl, hfirst⟩, ⟨rfl, hsecond⟩, rfl⟩
                  · rintro ⟨⟨rfl, -⟩, ⟨rfl, -⟩, rfl⟩
                    exact ⟨rfl, rfl, rfl⟩
            · rw [if_pos (not_served_stdout_iff.mp hsecond)]
              refine iff_of_false nofun ?_
              rintro ⟨-, ⟨⟨⟩, hserved⟩, -⟩
              exact hsecond hserved
      · rw [if_pos (not_served_stdin_iff.mp hfirst)]
        refine iff_of_false nofun ?_
        rintro ⟨⟨⟨⟩, hserved⟩, -⟩
        exact hfirst hserved

theorem lookupFileName_ok {redirection : ProgramStdioRedirection}
    {fileName : Except APIError CString} {found : Option CString}
    (h : lookupFileName redirection fileName = .ok found) (hfile : redirection = .file) :
    ∃ name, fileName = .ok name ∧ found = some name ∧ name ≠ [] := by
  subst hfile
  unfold lookupFileName at h
  rw [if_pos rfl] at h
  cases fileName with
  | error code => cases h
  | ok name =>
      cases name with
      | nil => cases h
      | cons byte bytes =>
          cases h
          exact ⟨_, rfl, rfl, List.cons_ne_nil _ _⟩

theorem lookupFileName_usable {redirection : ProgramStdioRedirection}
    {fileName : Except APIError CString}
    (h : redirection = .file → ∃ name, fileName = .ok name ∧ name ≠ []) :
    ∃ found, lookupFileName redirection fileName = .ok found := by
  unfold lookupFileName
  split_ifs with hfile
  · obtain ⟨name, rfl, hname⟩ := h hfile
    cases name with
    | nil => exact absurd rfl hname
    | cons byte bytes => exact ⟨_, rfl⟩
  · exact ⟨none, rfl⟩

theorem Usable.of_lookup {stream : Stdio} {byte : UInt8} {redirection : ProgramStdioRedirection}
    {fileName : Except APIError CString} {found : Option CString}
    (hbyte : stdioRedirectionOfByte byte = some redirection)
    (hserved : redirection ∈ servedRedirections stream)
    (hfound : lookupFileName redirection fileName = .ok found) : Usable stream byte fileName := by
  refine ⟨redirection, hserved, hbyte, fun hfile => ?_⟩
  obtain ⟨name, hname, -, hne⟩ := lookupFileName_ok hfound hfile
  exact ⟨name, hname, hne⟩

theorem Redirections.PipesStderr.checked {redirections : Redirections}
    (h : redirections.PipesStderr) : ∃ first second stdinFileName stdoutFileName,
      checkRedirections redirections = some (first, second, .pipe) ∧
      lookupFileName first redirections.stdinFileName = .ok stdinFileName ∧
      lookupFileName second redirections.stdoutFileName = .ok stdoutFileName := by
  obtain ⟨first, hfirst, hstdin, hstdinName⟩ := h.stdin
  obtain ⟨second, hsecond, hstdout, hstdoutName⟩ := h.stdout
  obtain ⟨stdinFileName, hstdinFound⟩ := lookupFileName_usable hstdinName
  obtain ⟨stdoutFileName, hstdoutFound⟩ := lookupFileName_usable hstdoutName
  have hstderr := stdioRedirectionOfByte_pipe_iff.mpr h.stderr
  exact ⟨first, second, stdinFileName, stdoutFileName,
    checkRedirections_iff.mpr ⟨⟨hstdin, hfirst⟩, ⟨hstdout, hsecond⟩, hstderr⟩, hstdinFound,
    hstdoutFound⟩

-- What a request saves can be served, unless stderr is a pipe.
theorem Edits.served_iff {old : ProgramSettings} {redirections : Redirections}
    {first second third : ProgramStdioRedirection}
    {stdinFileName stdoutFileName stderrFileName : Option CString}
    (hchecked : checkRedirections redirections = some (first, second, third))
    (hstdin : lookupFileName first redirections.stdinFileName = .ok stdinFileName)
    (hstdout : lookupFileName second redirections.stdoutFileName = .ok stdoutFileName)
    (hstderr : lookupFileName third redirections.stderrFileName = .ok stderrFileName) :
    Served { old with
        stdinRedirection := first, stdinFileName
        stdoutRedirection := second, stdoutFileName
        stderrRedirection := third, stderrFileName } ↔ ¬redirections.PipesStderr := by
  obtain ⟨⟨hfirstByte, hfirst⟩, ⟨hsecondByte, hsecond⟩, hthirdByte⟩ :=
    checkRedirections_iff.mp hchecked
  constructor
  · intro hserved hpipes
    rw [stdioRedirectionOfByte_pipe_iff.mpr hpipes.stderr] at hthirdByte
    cases hthirdByte
    exact served_stderr_iff.mp (hserved.redirection .stderr) rfl
  · intro hpipes
    have hthird : third ≠ .pipe := by
      rintro rfl
      exact hpipes ⟨.of_lookup hfirstByte hfirst hstdin, .of_lookup hsecondByte hsecond hstdout,
        stdioRedirectionOfByte_pipe_iff.mp hthirdByte⟩
    refine ⟨fun stream => ?_, fun stream hfile => ?_⟩
    · cases stream with
      | stdin => exact hfirst
      | stdout => exact hsecond
      | stderr => exact served_stderr_iff.mpr hthird
    · cases stream with
      | stdin =>
          obtain ⟨name, -, hfound, hne⟩ := lookupFileName_ok hstdin hfile
          exact ⟨name, hfound, hne⟩
      | stdout =>
          obtain ⟨name, -, hfound, hne⟩ := lookupFileName_ok hstdout hfile
          exact ⟨name, hfound, hne⟩
      | stderr =>
          obtain ⟨name, -, hfound, hne⟩ := lookupFileName_ok hstderr hfile
          exact ⟨name, hfound, hne⟩

-- The program is not purged, the request asks for a pipe, and the config is saved.
structure AcceptsPipe (redirections : Redirections) (c : Context) : Prop where
  unpurged : c.program.purged = false
  pipes : redirections.PipesStderr
  saved : c.outcomes.calls.headD none = none

-- Without a pipe as stderr a request leaves the config alone or replaces it by one that can be
-- served.
theorem SetterCases.served {result : APIE × Context} {redirections : Redirections}
    (hcases : SetterCases (.programSetStdioRedirection p redirections) p c result) (h : c.Good p)
    (hlive : c.Live) (hconnected : c.daemon.brickdConnected = true)
    (hserved : Served c.program.config) (hpipes : ¬redirections.PipesStderr) :
    Served result.2.program.config := by
  obtain ⟨-, -, hsame | hedits⟩ := hcases.handled h hlive hconnected
  · rw [hsame]
    exact hserved
  · generalize result.2.program.config = config at hedits
    cases hedits with
    | redirection hchecked hstdin hstdout hstderr =>
        exact (Edits.served_iff hchecked hstdin hstdout hstderr).mpr hpipes

theorem saveConfig_unsaved {config : ProgramSettings} {tryStart : Bool}
    (h : c.outcomes.calls.headD none ≠ none) :
    (saveConfig p config tryStart c).2.program.config = c.program.config := by
  unfold saveConfig Context.call
  cases hcall : c.outcomes.calls.headD none with
  | none => exact absurd hcall h
  | some code => rfl

theorem programSetStdioRedirection_unsaved {redirections : Redirections}
    (h : c.program.purged = true ∨ c.outcomes.calls.headD none ≠ none) :
    (programSetStdioRedirection p redirections c).2.program.config = c.program.config := by
  unfold programSetStdioRedirection
  by_cases hpurged : c.program.purged = true
  · rw [if_pos hpurged]
  rw [if_neg hpurged]
  cases checkRedirections redirections with
  | none => rfl
  | some checked =>
      obtain ⟨first, second, third⟩ := checked
      dsimp only
      cases lookupFileName first redirections.stdinFileName with
      | error code => rfl
      | ok stdinFileName =>
          cases lookupFileName second redirections.stdoutFileName with
          | error code => rfl
          | ok stdoutFileName =>
              cases lookupFileName third redirections.stderrFileName with
              | error code => rfl
              | ok stderrFileName => exact saveConfig_unsaved (h.resolve_left hpurged)

theorem AcceptsPipe.stderrRedirection {redirections : Redirections} (h : AcceptsPipe redirections c)
    (hgood : c.Good p) (hlive : c.Live) (hconnected : c.daemon.brickdConnected = true) :
    (programSetStdioRedirection p redirections c).2.program.config.stderrRedirection = .pipe := by
  obtain ⟨first, second, stdinFileName, stdoutFileName, hchecked, hstdin, hstdout⟩ :=
    h.pipes.checked
  have hstderr : lookupFileName .pipe redirections.stderrFileName = .ok none := rfl
  unfold programSetStdioRedirection
  rw [h.unpurged, if_neg Bool.false_ne_true, hchecked]
  dsimp only
  rw [hstdin, hstdout, hstderr]
  dsimp only
  unfold saveConfig Context.call
  rw [h.saved]
  have hquiet := @call_quiet c
  obtain ⟨-, -, hconfig⟩ := hquiet.saved { c.program.config with
    stdinRedirection := first, stdinFileName, stdoutRedirection := second, stdoutFileName
    stderrRedirection := .pipe, stderrFileName := none } false (fun _ => ⟨rfl, rfl⟩) hgood hlive
    hconnected
  exact congrArg ProgramSettings.stderrRedirection hconfig

theorem programSetStdioRedirection_served_iff (h : c.Good p) (hlive : c.Live)
    (hconnected : c.daemon.brickdConnected = true) (hserved : Served c.program.config)
    (redirections : Redirections) :
    Served (programSetStdioRedirection p redirections c).2.program.config ↔
      ¬AcceptsPipe redirections c := by
  constructor
  · intro hserved' haccepts
    exact served_stderr_iff.mp (hserved'.redirection .stderr)
      (haccepts.stderrRedirection h hlive hconnected)
  · intro haccepts
    by_cases hpurged : c.program.purged = true
    · rw [programSetStdioRedirection_unsaved (Or.inl hpurged)]
      exact hserved
    by_cases hsaved : c.outcomes.calls.headD none = none
    · refine (programSetStdioRedirection_cases redirections).served h hlive hconnected hserved ?_
      exact fun hpipes => haccepts ⟨by simpa using hpurged, hpipes, hsaved⟩
    · rw [programSetStdioRedirection_unsaved (Or.inr hsaved)]
      exact hserved

end Setter

section Loader

theorem loadRedirection_served (file : ConfFile) {loads : ProgramStdioRedirection → Bool}
    {stream : Stdio} (hloads : ∀ redirection, loads redirection = true ↔
      redirection ∈ servedRedirections stream) (name fileName : CString) :
    (loadRedirection file loads name fileName).1 ∈ servedRedirections stream ∧
      ((loadRedirection file loads name fileName).1 = .file →
        ∃ string, (loadRedirection file loads name fileName).2 = some string ∧ string ≠ []) := by
  have hdevNull : ProgramStdioRedirection.devNull ∈ servedRedirections stream := by
    cases stream <;> decide
  unfold loadRedirection
  dsimp only
  generalize programConfigGetSymbol file stdioRedirectionEnumValueNames name .devNull = loaded
  have hserved : (if loads loaded = true then loaded else .devNull) ∈ servedRedirections stream := by
    split_ifs with haccepted
    · exact (hloads loaded).mp haccepted
    · exact hdevNull
  generalize (if loads loaded = true then loaded else .devNull) = redirection at hserved ⊢
  split_ifs with hfile hempty
  · exact ⟨hdevNull, nofun⟩
  · exact ⟨hserved, fun _ => ⟨_, rfl, hempty⟩⟩
  · exact ⟨hserved, fun h => absurd h hfile⟩

def loads : Stdio → ProgramStdioRedirection → Bool
  | .stdin => loadsStdin
  | .stdout => loadsStdout
  | .stderr => loadsStderr

theorem loads_iff (stream : Stdio) (redirection : ProgramStdioRedirection) :
    loads stream redirection = true ↔ redirection ∈ servedRedirections stream := by
  cases stream <;> cases redirection <;> decide

theorem programConfigLoad_served (file : ConfFile) : Served (programConfigLoad file) := by
  have hstdin := loadRedirection_served file (loads_iff .stdin)
    (ascii "stdin_redirection") (ascii "stdin_file_name")
  have hstdout := loadRedirection_served file (loads_iff .stdout)
    (ascii "stdout_redirection") (ascii "stdout_file_name")
  have hstderr := loadRedirection_served file (loads_iff .stderr)
    (ascii "stderr_redirection") (ascii "stderr_file_name")
  refine ⟨fun stream => ?_, fun stream => ?_⟩
  · cases stream with
    | stdin => exact hstdin.1
    | stdout => exact hstdout.1
    | stderr => exact hstderr.1
  · cases stream with
    | stdin => exact hstdin.2
    | stdout => exact hstdout.2
    | stderr => exact hstderr.2

theorem programConfigCreate_served : Served programConfigCreate := by
  refine ⟨fun stream => ?_, fun stream hfile => ?_⟩
  · cases stream <;> decide
  · cases stream <;> cases hfile

-- There is a request that redirects the stream so and passes the checks of
-- program_set_stdio_redirection.
def Settable (stream : Stdio) (redirection : ProgramStdioRedirection) : Prop :=
  ∃ redirections first second third,
    checkRedirections redirections = some (first, second, third) ∧
      match stream with
      | .stdin => first = redirection
      | .stdout => second = redirection
      | .stderr => third = redirection

def byteOf : ProgramStdioRedirection → UInt8
  | .devNull => 0
  | .pipe => 1
  | .file => 2
  | .individualLog => 3
  | .continuousLog => 4
  | .stdout => 5

theorem stdioRedirectionOfByte_byteOf (redirection : ProgramStdioRedirection) :
    stdioRedirectionOfByte (byteOf redirection) = some redirection := by
  cases redirection <;> rfl

theorem settable_iff (stream : Stdio) (redirection : ProgramStdioRedirection) :
    Settable stream redirection ↔
      redirection ∈ servedRedirections stream ∨ stream = .stderr ∧ redirection = .pipe := by
  constructor
  · rintro ⟨redirections, first, second, third, hchecked, hredirection⟩
    obtain ⟨⟨-, hfirst⟩, ⟨-, hsecond⟩, -⟩ := checkRedirections_iff.mp hchecked
    cases stream with
    | stdin => exact Or.inl (hredirection ▸ hfirst)
    | stdout => exact Or.inl (hredirection ▸ hsecond)
    | stderr =>
        by_cases hpipe : redirection = .pipe
        · exact Or.inr ⟨rfl, hpipe⟩
        · exact Or.inl (served_stderr_iff.mpr hpipe)
  · intro h
    have hbyte := stdioRedirectionOfByte_byteOf redirection
    have hzero := stdioRedirectionOfByte_byteOf .devNull
    cases stream with
    | stdin =>
        have hserved := h.resolve_right fun h => by cases h.1
        exact ⟨⟨byteOf redirection, .ok [], 0, .ok [], 0, .ok []⟩, redirection, .devNull, .devNull,
          checkRedirections_iff.mpr ⟨⟨hbyte, hserved⟩, ⟨hzero, by decide⟩, hzero⟩, rfl⟩
    | stdout =>
        have hserved := h.resolve_right fun h => by cases h.1
        exact ⟨⟨0, .ok [], byteOf redirection, .ok [], 0, .ok []⟩, .devNull, redirection, .devNull,
          checkRedirections_iff.mpr ⟨⟨hzero, by decide⟩, ⟨hbyte, hserved⟩, hzero⟩, rfl⟩
    | stderr =>
        exact ⟨⟨0, .ok [], 0, .ok [], byteOf redirection, .ok []⟩, .devNull, .devNull, redirection,
          checkRedirections_iff.mpr ⟨⟨hzero, by decide⟩, ⟨hzero, by decide⟩, hbyte⟩, rfl⟩

end Loader

section Runs

structure World.StdioServed (w : World) : Prop where
  served : ∀ p program, w.programs.get p = some program → Served program.config

-- No message of these branches was reported.
def World.Unreported (w : World) : Prop :=
  ∀ effect ∈ w.log, ∀ message ∈ effect.message, message ∉ unservedMessages

structure World.NoneUnserved (w : World) : Prop where
  programs : ∀ p program, w.programs.get p = some program →
    ∀ stream, unservedMessage stream (redirectionOf program.config stream) = none
  log : w.Unreported

-- A request for a pipe as stderr that is accepted.
def World.PipesStderr (w : World) (event : World.Event × Outcomes) : Prop :=
  ∃ p redirections program, event.1 = .request (.programSetStdioRedirection p redirections) ∧
    w.programs.get p = some program ∧ AcceptsPipe redirections (w.context program event.2)

theorem Acts.served {event : World.Event} {c' : Context} (hacts : Acts event p c c')
    (h : c.Good p)
    (hother : ∀ p redirections, event ≠ .request (.programSetStdioRedirection p redirections))
    (hserved : Served c.program.config) : Served c'.program.config := by
  rcases hacts.config h with (hsame | ⟨request, hrequest, hedits⟩) | ⟨customOptions, hcustom⟩
  · rw [hsame]
    exact hserved
  · generalize c'.program.config = config at hedits
    cases hedits with
    | redirection _ _ _ _ => exact absurd hrequest (hother _ _)
    | command _ _ _ _ => exact ⟨hserved.redirection, hserved.fileName⟩
    | schedule _ _ _ _ => exact ⟨hserved.redirection, hserved.fileName⟩
  · rw [hcustom]
    exact ⟨hserved.redirection, hserved.fileName⟩

theorem World.Inv.redirect_served_iff (h : w.Inv) (hserved : w.StdioServed)
    {redirections : Redirections} {outcomes : Outcomes}
    (hnext : w.next (.request (.programSetStdioRedirection p redirections), outcomes) = some w') :
    w'.StdioServed ↔
      ¬w.PipesStderr (.request (.programSetStdioRedirection p redirections), outcomes) := by
  obtain ⟨hcrashed, hstep⟩ := World.next_step hnext
  obtain ⟨hconnected, hrequest⟩ := Option.ite_none_right_eq_some.mp hstep
  obtain ⟨hsome, ⟨⟩⟩ := Option.ite_none_right_eq_some.mp hrequest
  obtain ⟨program, hget⟩ := Option.isSome_iff_exists.mp hsome
  have hiff := programSetStdioRedirection_served_iff (c := w.context program outcomes)
    (h.core.base p program hget) (h.lively hcrashed p program hget) hconnected
    (hserved.served p program hget) redirections
  rw [World.run_eq hget]
  constructor
  · rintro hserved' ⟨q, _, other, ⟨⟩, hother, haccepts⟩
    rw [hget] at hother
    cases hother
    exact hiff.mp (hserved'.served p _ ((World.get_put hget _ p).trans (if_pos rfl))) haccepts
  · intro haccepts
    refine ⟨fun q other hother => ?_⟩
    rcases World.get_put_some hget hother with ⟨-, rfl⟩ | ⟨-, hother⟩
    · exact hiff.mpr fun hpipe => haccepts ⟨p, redirections, program, rfl, hget, hpipe⟩
    · exact hserved.served q other hother

theorem World.DoesAll.served {event : World.Event} (hdoes : World.DoesAll event w w') (h : w.Inv)
    (hother : ∀ p redirections, event ≠ .request (.programSetStdioRedirection p redirections))
    (hserved : w.StdioServed) : w'.StdioServed := by
  refine ⟨World.DoesAll.each (J := fun _ _ program => Served program.config) ?_ ?_ hdoes h
    hserved.served⟩
  · intro w w' q program _ _ _ _ horigin _
    generalize program.config = config at horigin
    cases horigin with
    | load _ => exact programConfigLoad_served _
    | define _ => exact programConfigCreate_served
  · intro w w' q program program' outcomes outcomes' h _ hget hacts hserved
    exact hacts.served (h.core.base q program hget) hother hserved

theorem World.Inv.next_served_iff (h : w.Inv) (hserved : w.StdioServed)
    {event : World.Event × Outcomes} (hnext : w.next event = some w') :
    w'.StdioServed ↔ ¬w.PipesStderr event := by
  obtain ⟨event, outcomes⟩ := event
  by_cases hredirect :
      ∃ p redirections, event = .request (.programSetStdioRedirection p redirections)
  · obtain ⟨p, redirections, rfl⟩ := hredirect
    exact h.redirect_served_iff hserved hnext
  · have hother : ∀ p redirections,
        event ≠ .request (.programSetStdioRedirection p redirections) :=
      fun p redirections hevent => hredirect ⟨p, redirections, hevent⟩
    refine iff_of_true (World.DoesAll.served (h.next_does hnext) h hother hserved) ?_
    rintro ⟨p, redirections, program, hevent, -⟩
    exact hother p redirections hevent

end Runs

section Unserved

variable {event : World.Event}

-- New messages are about redirections that a program has, and these can be served.
theorem World.Unreported.grow (h : w.Unreported) {new : List Effect} {program : Program}
    (hlog : w'.log = new ++ w.log) (huses : Uses program new) (hserved : Served program.config) :
    w'.Unreported := by
  intro effect heffect message hmessage hmem
  rw [hlog] at heffect
  rcases List.mem_append.mp heffect with hnew | hold
  · obtain ⟨stream, hunserved⟩ := (huses effect hnew).redirection message hmessage hmem
    rw [unservedMessage_eq_none_iff.mpr (hserved.redirection stream)] at hunserved
    cases hunserved
  · exact h effect hold message hmessage hmem

theorem World.Unreported.same (h : w.Unreported) (hlog : w'.log = w.log) : w'.Unreported := by
  unfold World.Unreported
  rw [hlog]
  exact h

theorem World.Unreported.put {program : Program} {outcomes : Outcomes} (h : w.Unreported)
    (hget : w.programs.get p = some program) (hends : Ends (w.context program outcomes) c)
    (hserved : (w.put p c).StdioServed) : (w.put p c).Unreported := by
  obtain ⟨new, hlog, huses⟩ := hends.log
  exact h.grow hlog huses (hserved.served p _ ((World.get_put hget c p).trans (if_pos rfl)))

theorem World.Does.unreported (hdoes : World.Does event w w') (hserved : w.StdioServed)
    (hserved' : w'.StdioServed) (h : w.Unreported) : w'.Unreported := by
  cases hdoes with
  | called hget hcrashed hcalled => exact h.put hget hcalled.ends hserved'
  | @died p program q found state exitCode outcomes _ _ _ _ hget _ =>
      have hmodified : (w.modifyProcess q fun process =>
        { process with state, exitCode }).Unreported := h.same rfl
      exact @World.Unreported.put _ p _ program outcomes hmodified hget
        (handleProcessStateChange_parts.ends rfl) hserved'
  | orphaned => exact h.same rfl
  | @expired p program arming outcomes _ hget _ _ =>
      have hget' : (w.put p (w.context (program.expired arming) outcomes)).programs.get p =
          some (program.expired arming) := (World.get_put hget _ p).trans (if_pos rfl)
      have hexpired : (w.put p (w.context (program.expired arming) outcomes)).Unreported :=
        h.same rfl
      exact @World.Unreported.put _ p _ (program.expired arming) outcomes hexpired hget'
        (handleTimer_parts.ends rfl) hserved'
  | noted => exact h.same rfl
  | adjusted hadjusted =>
      obtain ⟨processes, files, rfl, -, -⟩ := hadjusted
      intro effect heffect message hmessage
      rcases List.mem_append.mp heffect with hnew | hold
      · obtain ⟨file, -, rfl⟩ := List.mem_map.mp hnew
        cases hmessage
      · exact h effect hold message hmessage
  | observed => exact h.same rfl
  | connected => exact h.same rfl
  | created => exact h.same rfl
  | @destroyed p program outcomes _ hget _ =>
      obtain ⟨new, hlog, huses⟩ := @destroy_uses p (w.context program outcomes)
      exact h.grow hlog huses (hserved.served p program hget)

theorem World.DoesAll.unreported (hdoes : World.DoesAll event w w') (h : w.Inv)
    (hother : ∀ p redirections, event ≠ .request (.programSetStdioRedirection p redirections))
    (hserved : w.StdioServed) (hunreported : w.Unreported) : w'.Unreported := by
  induction hdoes with
  | refl => exact hunreported
  | tail hdoesAll hdoes ih =>
      have hmiddle := World.DoesAll.served hdoesAll h hother hserved
      exact hdoes.unreported hmiddle
        (World.DoesAll.served (hdoesAll.tail hdoes) h hother hserved) ih

theorem World.Inv.next_unreported (h : w.Inv) (hserved : w.StdioServed) (hunreported : w.Unreported)
    {event : World.Event × Outcomes} (hnext : w.next event = some w') (hpipes : ¬w.PipesStderr event) :
    w'.Unreported := by
  have hserved' := (h.next_served_iff hserved hnext).mpr hpipes
  obtain ⟨event, outcomes⟩ := event
  by_cases hredirect :
      ∃ p redirections, event = .request (.programSetStdioRedirection p redirections)
  · obtain ⟨p, redirections, rfl⟩ := hredirect
    obtain ⟨hcrashed, hstep⟩ := World.next_step hnext
    obtain ⟨hconnected, hrequest⟩ := Option.ite_none_right_eq_some.mp hstep
    obtain ⟨hsome, ⟨⟩⟩ := Option.ite_none_right_eq_some.mp hrequest
    obtain ⟨program, hget⟩ := Option.isSome_iff_exists.mp hsome
    rw [World.run_eq hget] at hserved' ⊢
    obtain ⟨c₀, hrenamed, hparts⟩ := (@programSetStdioRedirection_cases p
      (w.context program outcomes) redirections).parts
    exact hunreported.put hget (hparts.ends hrenamed.log) hserved'
  · exact World.DoesAll.unreported (h.next_does hnext) h
      (fun p redirections hevent => hredirect ⟨p, redirections, hevent⟩) hserved hunreported

theorem noneUnserved_of_along {w : World} (h : w.Inv) (hserved : w.StdioServed)
    (hunreported : w.Unreported) {events : List (World.Event × Outcomes)}
    (halong : Trace.Along World.next (fun w event _ => ¬w.PipesStderr event) w events) :
    Trace.Always World.next World.NoneUnserved w events := by
  have hinv : Trace.Always World.next (fun w => w.Inv ∧ w.StdioServed ∧ w.Unreported) w events := by
    refine Trace.always_of_along (fun w event w' hstate hnext hpipes => ?_)
      ⟨h, hserved, hunreported⟩ halong
    obtain ⟨h, hserved, hunreported⟩ := hstate
    exact ⟨h.next hnext, (h.next_served_iff hserved hnext).mpr hpipes,
      h.next_unreported hserved hunreported hnext hpipes⟩
  refine hinv.mono fun w hstate => ⟨fun p program hget stream => ?_, hstate.2.2⟩
  exact unservedMessage_eq_none_iff.mpr ((hstate.2.1.served p program hget).redirection stream)

end Unserved

section Runs

-- Exactly the accepted requests for a pipe as stderr leave a config that the scheduler cannot
-- serve. Without one the branches for this are not reached. The file names are locked in any case,
-- and the config file and the requests agree on the redirections of all streams but for the pipe.
theorem redirections_served_iff (x11Enabled : Bool) (array : ArrayRemove) (grow : GrowAllocation)
    (events : List (World.Event × Outcomes)) :
    (Trace.Always World.next World.StdioServed (World.init x11Enabled) events ↔
      Trace.Along World.next (fun w event _ => ¬w.PipesStderr event) (World.init x11Enabled)
        events) ∧
      (Trace.Along World.next (fun w event _ => ¬w.PipesStderr event) (World.init x11Enabled)
        events → Trace.Always World.next World.NoneUnserved (World.init x11Enabled) events) ∧
      (∀ p stdout stream c message,
        unservedMessage stream (redirectionOf c.program.config stream) = some message →
          prepareStream p stdout stream c =
            (none, programSchedulerHandleError p message none c)) ∧
      (∀ s, Relation.ReflTransGen (StdioStep array grow) StdioState.init s →
        s.store.FileNamesLocked) ∧
      ∀ stream redirection, (Settable stream redirection ↔ loads stream redirection = true) ↔
        ¬(stream = .stderr ∧ redirection = .pipe) := by
  have hempty : ∀ p, (World.init x11Enabled).programs.get p = none := Heap.get_empty
  have hfirst : (World.init x11Enabled).StdioServed := by
    refine ⟨fun p program hget => ?_⟩
    rw [hempty p] at hget
    cases hget
  have hiff : Trace.Always World.next World.StdioServed (World.init x11Enabled) events ↔
      Trace.Along World.next (fun w event _ => ¬w.PipesStderr event) (World.init x11Enabled)
        events :=
    Trace.always_iff_along (fun _ _ _ h hnext => h.next hnext)
      (fun _ _ _ h hserved hnext => h.next_served_iff hserved hnext) (World.init_inv x11Enabled)
      hfirst events
  refine ⟨hiff, noneUnserved_of_along (World.init_inv x11Enabled) hfirst fun _ hmem =>
      absurd hmem List.not_mem_nil,
    fun p stdout stream c message hunserved => prepareStream_unserved stdout hunserved,
    fun s hsteps => fileNames_locked_of_steps hsteps, fun stream redirection => ?_⟩
  rw [settable_iff, loads_iff]
  constructor
  · rintro hsame ⟨rfl, rfl⟩
    have hserved := hsame.mp (Or.inr ⟨rfl, rfl⟩)
    exact served_stderr_iff.mp hserved rfl
  · intro hpipe
    exact or_iff_left hpipe

set_option maxRecDepth 4000 in
theorem fileStore_locked :
    (∃ p, redirectedStore.payload 2 = some (.program p) ∧ p.config.stdinRedirection = .file ∧
      p.config.stdinFileName = 0) ∧ redirectedStore.LockedName 0 := by
  obtain ⟨p, hp, hfile, hname⟩ : ∃ p, redirectedStore.payload 2 = some (.program p) ∧
      p.config.stdinRedirection = .file ∧ p.config.stdinFileName = 0 := ⟨_, rfl, rfl, rfl⟩
  obtain ⟨-, -, -, hlocked, -⟩ := redirections_served_iff false .byIndex growTo16 []
  have hstdin := hlocked _ redirectedStore_steps 2 p hp .stdin hfile
  rw [show p.config.fileNameOf .stdin = 0 from hname] at hstdin
  exact ⟨⟨p, hp, hfile, hname⟩, hstdin⟩

-- A client defines a program, and redirects its stderr to a pipe.
def pipeEvents : List (World.Event × Outcomes) :=
  [(.brickdAccept, .succeed),
    (.request (.programDefine (ascii "/programs/") (ascii "greeter") 1 none), .succeed),
    (.request (.programSetStdioRedirection 0 ⟨0, .ok [], 0, .ok [], 1, .ok []⟩), .succeed)]

theorem pipeEvents_not_served :
    ¬Trace.Always World.next World.StdioServed (World.init false) pipeEvents := by
  intro h
  obtain ⟨w, hrun, program, hget, hpipe⟩ : ∃ w,
      Trace.run World.next (World.init false) pipeEvents = some w ∧
        ∃ program, w.programs.get 0 = some program ∧ program.config.stderrRedirection = .pipe :=
    ⟨_, rfl, _, rfl, rfl⟩
  have hserved := ((h.of_run hrun).served 0 program hget).redirection .stderr
  exact served_stderr_iff.mp hserved hpipe

end Runs

end RedApid.Scheduling

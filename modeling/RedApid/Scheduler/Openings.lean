import RedApid.Scheduler.Invariant

namespace RedApid.Scheduling

open Memory

variable {p : ProgramRef} {c : Context} {shared : Option FileRef}

section Messages

-- The messages of the branches that should never be reachable.
def unservedMessage : Stdio → ProgramStdioRedirection → Option String
  | .stdin, .individualLog => some "Cannot redirect stdin to a individual log file"
  | .stdin, .continuousLog => some "Cannot redirect stdin to a continuous log file"
  | .stdin, .stdout => some "Cannot redirect stdin to stdout"
  | .stdout, .pipe => some "Invalid stdout redirection %d"
  | .stdout, .stdout => some "Cannot redirect stdout to stdout"
  | .stderr, .pipe => some "Invalid stderr redirection %d"
  | _, _ => none

def unservedMessages : List String :=
  ["Cannot redirect stdin to a individual log file",
    "Cannot redirect stdin to a continuous log file", "Cannot redirect stdin to stdout",
    "Invalid stdout redirection %d", "Cannot redirect stdout to stdout",
    "Invalid stderr redirection %d"]

-- A message about a redirection is reported for a config that has it, and the one about the timer
-- is not part of an error that is handled here.
structure Reports (config : ProgramSettings) (message : String) : Prop where
  timer : message ≠ "Could not stop timer: %s (%d)"
  redirection : message ∈ unservedMessages →
    ∃ stream, unservedMessage stream (redirectionOf config stream) = some message

theorem Reports.plain {config : ProgramSettings} {message : String}
    (h : message ∉ "Could not stop timer: %s (%d)" :: unservedMessages) : Reports config message := by
  obtain ⟨htimer, hother⟩ := not_or.mp (List.mem_cons.not.mp h)
  exact ⟨htimer, fun hmem => absurd hmem hother⟩

theorem Reports.unserved {config : ProgramSettings} {message : String} (stream : Stdio)
    {redirection : ProgramStdioRedirection} (h : redirectionOf config stream = redirection)
    (hmessage : unservedMessage stream redirection = some message)
    (htimer : message ≠ "Could not stop timer: %s (%d)") : Reports config message :=
  ⟨htimer, fun _ => ⟨stream, by rw [h, hmessage]⟩⟩

end Messages

section Openings

-- What follows in a continuous log that has been opened. It is released if its header cannot be
-- written.
inductive Writes (p : ProgramRef) (file : FileRef) : Context → Option FileRef × Context → Prop
  | written {c : Context} : Writes p file c (some file, c)
  | call {c : Context} {result : Option FileRef × Context} (rest : Writes p file c.call.2 result) :
      Writes p file c result
  | failed {c : Context} (format : String) (code : Option APIError)
      (reports : Reports c.program.config format) :
      Writes p file c
        (none, (programSchedulerHandleError p format code c).record (.releaseFile file))

-- The ways to a file for a stream, or to an error. `shared` is the file that stderr can have in
-- common with stdout.
inductive Obtains (p : ProgramRef) (shared : Option FileRef) :
    Context → Option FileRef × Context → Prop
  | error {c : Context} (format : String) (code : Option APIError)
      (reports : Reports c.program.config format) :
      Obtains p shared c (none, programSchedulerHandleError p format code c)
  | call {c : Context} {result : Option FileRef × Context} (rest : Obtains p shared c.call.2 result) :
      Obtains p shared c result
  | named {c : Context} {result : Option FileRef × Context} (stream : Stdio) (name : CString)
      (redirection : redirectionOf c.program.config stream = .file)
      (stored : absoluteNameOf c.program.scheduler stream = some name)
      (rest : Obtains p shared (c.record (.fileOpen p c.program stream name)) result) :
      Obtains p shared c result
  | created {c : Context} : Obtains p shared c (some c.log.length, c.record .createFile)
  | acquired {c : Context} (file : FileRef) (same : shared = some file) :
      Obtains p shared c (some file, c.record (.acquireFile file))
  | header {c : Context} {result : Option FileRef × Context}
      (rest : Writes p c.log.length (c.record .createFile) result) : Obtains p shared c result

-- A call whose failure is handled as an error.
theorem Obtains.orError {format : String} (h : Reports c.program.config format)
    {next : Context → Option FileRef × Context}
    (hnext : Obtains p shared c.call.2 (next c.call.2)) :
    Obtains p shared c (match c.call with
      | (some code, c) => (none, programSchedulerHandleError p format code c)
      | (none, c) => next c) := by
  apply Obtains.call
  have hcall : c.call = (c.outcomes.calls.headD none, c.call.2) := rfl
  rw [hcall]
  cases c.outcomes.calls.headD none with
  | some code => exact .error format code h
  | none => exact hnext

theorem Writes.orError {file : FileRef} {format : String}
    (h : Reports c.program.config format) {next : Context → Option FileRef × Context}
    (hnext : Writes p file c.call.2 (next c.call.2)) :
    Writes p file c (match c.call with
      | (some code, c) =>
          (none, (programSchedulerHandleError p format code c).record (.releaseFile file))
      | (none, c) => next c) := by
  apply Writes.call
  have hcall : c.call = (c.outcomes.calls.headD none, c.call.2) := rfl
  rw [hcall]
  cases c.outcomes.calls.headD none with
  | some code => exact .failed format code h
  | none => exact hnext

theorem openFile_obtains {format : String} (h : Reports c.program.config format) :
    Obtains p shared c (openFile p format c) := Obtains.orError h .created

theorem prepareStdin_obtains : Obtains p shared c (programSchedulerPrepareStdin p c) := by
  unfold programSchedulerPrepareStdin
  cases hredirection : c.program.config.stdinRedirection with
  | devNull => exact openFile_obtains (.plain (by decide))
  | pipe => exact openFile_obtains (.plain (by decide))
  | file =>
      cases hname : c.program.scheduler.absoluteStdinFileName with
      | none => exact .error _ none (.plain (by decide))
      | some name => exact .named .stdin name hredirection hname (openFile_obtains (.plain (by decide)))
  | individualLog => exact .error _ none (.unserved .stdin hredirection rfl (by decide))
  | continuousLog => exact .error _ none (.unserved .stdin hredirection rfl (by decide))
  | stdout => exact .error _ none (.unserved .stdin hredirection rfl (by decide))

theorem individualLogAttempts_obtains (attempts : Nat) :
    Obtains p shared c (individualLogAttempts p attempts c) := by
  induction attempts generalizing c with
  | zero => exact .error _ none (.plain (by decide))
  | succ attempts ih =>
      have hnext : ∀ c : Context, Obtains p shared c (match c.call with
          | (some code, c) => (none, programSchedulerHandleError p
              "Could not format %s log file name: %s (%d)" code c)
          | (none, c) => individualLogAttempts p attempts c) :=
        fun c => Obtains.orError (.plain (by decide)) ih
      have hcall : ∀ c : Context, c.call = (c.outcomes.calls.headD none, c.call.2) := fun _ => rfl
      unfold individualLogAttempts
      dsimp only
      apply Obtains.call
      rw [hcall c]
      cases c.outcomes.calls.headD none with
      | none => exact hnext _
      | some _ =>
          apply Obtains.orError (.plain (by decide))
          apply Obtains.call
          rw [hcall c.call.2.call.2]
          cases c.call.2.call.2.outcomes.calls.headD none with
          | none => exact .created
          | some code =>
              dsimp only
              split_ifs
              · exact .error _ (some code) (.plain (by decide))
              · exact hnext _

theorem prepareIndividualLog_obtains :
    Obtains p shared c (programSchedulerPrepareIndividualLog p c) :=
  Obtains.orError (.plain (by decide)) (individualLogAttempts_obtains 1000)

theorem prepareContinuousLog_obtains :
    Obtains p shared c (programSchedulerPrepareContinuousLog p c) := by
  unfold programSchedulerPrepareContinuousLog
  apply Obtains.orError (.plain (by decide))
  apply Obtains.orError (.plain (by decide))
  apply Obtains.call
  unfold openFile
  have hcall : ∀ c : Context, c.call = (c.outcomes.calls.headD none, c.call.2) := fun _ => rfl
  rw [hcall c.call.2.call.2]
  cases c.call.2.call.2.outcomes.calls.headD none with
  | some code => exact .error _ (some code) (.plain (by decide))
  | none => exact .header (Writes.orError (.plain (by decide)) (Writes.orError (.plain (by decide)) .written))

theorem prepareStdout_obtains : Obtains p shared c (programSchedulerPrepareStdout p c) := by
  unfold programSchedulerPrepareStdout
  cases hredirection : c.program.config.stdoutRedirection with
  | devNull => exact openFile_obtains (.plain (by decide))
  | pipe => exact .error _ none (.unserved .stdout hredirection rfl (by decide))
  | file =>
      cases hname : c.program.scheduler.absoluteStdoutFileName with
      | none => exact .error _ none (.plain (by decide))
      | some name => exact .named .stdout name hredirection hname (openFile_obtains (.plain (by decide)))
  | individualLog => exact prepareIndividualLog_obtains
  | continuousLog => exact prepareContinuousLog_obtains
  | stdout => exact .error _ none (.unserved .stdout hredirection rfl (by decide))

theorem prepareStderr_obtains (stdout : FileRef) :
    Obtains p (some stdout) c (programSchedulerPrepareStderr p stdout c) := by
  unfold programSchedulerPrepareStderr
  cases hredirection : c.program.config.stderrRedirection with
  | devNull => exact openFile_obtains (.plain (by decide))
  | pipe => exact .error _ none (.unserved .stderr hredirection rfl (by decide))
  | file =>
      cases hname : c.program.scheduler.absoluteStderrFileName with
      | none => exact .error _ none (.plain (by decide))
      | some name => exact .named .stderr name hredirection hname (openFile_obtains (.plain (by decide)))
  | individualLog => exact prepareIndividualLog_obtains
  | continuousLog => exact prepareContinuousLog_obtains
  | stdout => exact .acquired stdout rfl

end Openings

end RedApid.Scheduling

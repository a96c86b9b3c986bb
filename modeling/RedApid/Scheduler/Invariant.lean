import Mathlib.Data.List.Count
import RedApid.Scheduler.Handlers

namespace RedApid.Scheduling

open Memory

section Names

def redirectionOf (config : ProgramSettings) : Stdio → ProgramStdioRedirection
  | .stdin => config.stdinRedirection
  | .stdout => config.stdoutRedirection
  | .stderr => config.stderrRedirection

def fileNameOf (config : ProgramSettings) : Stdio → Option CString
  | .stdin => config.stdinFileName
  | .stdout => config.stdoutFileName
  | .stderr => config.stderrFileName

def absoluteNameOf (scheduler : ProgramScheduler) : Stdio → Option CString
  | .stdin => scheduler.absoluteStdinFileName
  | .stdout => scheduler.absoluteStdoutFileName
  | .stderr => scheduler.absoluteStderrFileName

end Names

section Log

-- The program that an effect is about.
def Effect.program : Effect → Option ProgramRef
  | .fileOpen p _ _ _ => some p
  | .processSpawn p _ _ => some p
  | .processSpawned p => some p
  | .stateChanged p _ => some p
  | .observer p => some p
  | .timerStopFailed p => some p
  | _ => none

-- The names that are used are the stored ones.
def Effect.Sound : Effect → Prop
  | .fileOpen _ program stream name =>
      redirectionOf program.config stream = .file ∧
        absoluteNameOf program.scheduler stream = some name
  | .processSpawn _ program workingDirectory =>
      workingDirectory = program.scheduler.absoluteWorkingDirectory
  | _ => True

-- New effects are about this program, or about none.
def Effect.Allowed (p : ProgramRef) (effect : Effect) : Prop :=
  (∀ other, effect.program = some other → other = p) ∧ effect.Sound

def Logs (p : ProgramRef) (log log' : List Effect) : Prop :=
  ∃ new, log' = new ++ log ∧ ∀ effect ∈ new, effect.Allowed p

-- A scheduler that starts running, a process that is spawned, and the callback of an observer,
-- which starts its scheduler.
def Effect.starts : Effect → Bool
  | .processSpawn _ _ _ => true
  | .stateChanged _ .running => true
  | .observer _ => true
  | _ => false

def starts (log : List Effect) : List Effect := log.filter (·.starts)

theorem starts_cons_of_not {effect : Effect} (h : effect.starts = false) (log : List Effect) :
    starts (effect :: log) = starts log :=
  List.filter_cons_of_neg (by rw [h]; nofun)

theorem releaseFiles_starts (files : List FileRef) (log : List Effect) :
    starts (files.map .releaseFile ++ log) = starts log := by
  induction files with
  | nil => rfl
  | cons file files ih => exact (starts_cons_of_not rfl _).trans ih

variable {p : ProgramRef}

theorem Logs.refl (log : List Effect) : Logs p log log :=
  ⟨[], rfl, fun _ hmem => absurd hmem List.not_mem_nil⟩

theorem Logs.cons {log log' : List Effect} {effect : Effect} (h : Logs p log log')
    (heffect : effect.Allowed p) : Logs p log (effect :: log') := by
  obtain ⟨new, rfl, hnew⟩ := h
  refine ⟨effect :: new, rfl, fun other hother => ?_⟩
  rcases List.mem_cons.mp hother with rfl | hother
  · exact heffect
  · exact hnew other hother

theorem Logs.append {log log' effects : List Effect} (h : Logs p log log')
    (heffects : ∀ effect ∈ effects, effect.Allowed p) : Logs p log (effects ++ log') := by
  obtain ⟨new, rfl, hnew⟩ := h
  refine ⟨effects ++ new, (List.append_assoc _ _ _).symm, fun other hother => ?_⟩
  rcases List.mem_append.mp hother with hother | hother
  · exact heffects other hother
  · exact hnew other hother

theorem Logs.trans {log log' log'' : List Effect} (h : Logs p log log') (h' : Logs p log' log'') :
    Logs p log log'' := by
  obtain ⟨new, rfl, hnew⟩ := h'
  exact h.append hnew

theorem Logs.mem {log log' : List Effect} (h : Logs p log log') {effect : Effect}
    (heffect : effect ∈ log) : effect ∈ log' := by
  obtain ⟨new, rfl, -⟩ := h
  exact List.mem_append_right _ heffect

theorem Effect.allowed_of_none {effect : Effect} (h : effect.program = none)
    (hsound : effect.Sound) : effect.Allowed p := by
  refine ⟨fun other hother => ?_, hsound⟩
  rw [h] at hother
  cases hother

theorem Effect.allowed_of_some {effect : Effect} (h : effect.program = some p)
    (hsound : effect.Sound) : effect.Allowed p := by
  refine ⟨fun other hother => ?_, hsound⟩
  rw [h] at hother
  exact (Option.some.inj hother).symm

theorem releaseFiles_allowed (files : List FileRef) :
    ∀ effect ∈ files.map Effect.releaseFile, effect.Allowed p := by
  intro effect heffect
  obtain ⟨file, -, rfl⟩ := List.mem_map.mp heffect
  exact Effect.allowed_of_none rfl trivial

theorem acquireFiles_allowed (files : List FileRef) :
    ∀ effect ∈ files.map Effect.acquireFile, effect.Allowed p := by
  intro effect heffect
  obtain ⟨file, -, rfl⟩ := List.mem_map.mp heffect
  exact Effect.allowed_of_none rfl trivial

end Log

section Base

def Daemon.observers (daemon : Daemon) : List ProgramRef :=
  (daemon.observation.map (·.observers)).getD []

-- What holds of a scheduler, its cron entry, its observer and its processes between the steps of
-- a handler, whatever its start mode is.
structure Base (p : ProgramRef) (program : Program) (daemon : Daemon) (log : List Effect) :
    Prop where
  timer : program.scheduler.timer ≠ none → program.scheduler.timerActive = true
  inert : program.scheduler.state = .stopped → program.scheduler.timerActive = true →
    .timerStopFailed p ∈ log
  shutdown : program.scheduler.shutdown = true → program.scheduler.state = .stopped
  pending : program.scheduler.observerState ≠ .finished →
    program.scheduler.state = .stopped ∧ program.scheduler.shutdown = false
  observers : daemon.observers.count p =
    if program.scheduler.observerState = .waiting then 1 else 0
  cron : program.scheduler.cronActive = true → program.scheduler.state = .running
  entries : ∀ entry ∈ daemon.entries,
    (entry.programId = program.id ↔ entry.notify = p) ∧ (entry.notify = p → entry.tag = .cron)
  entry : daemon.entries.countP (·.notify = p) = if program.scheduler.cronActive then 1 else 0
  last : ∀ q, program.scheduler.lastSpawnedProcess = some q →
    ∃ process, daemon.processes.get q = some process ∧ process.stateChanged = some p
  process : ∀ q process, daemon.processes.get q = some process →
    process.stateChanged = some p →
      (process.state.isAlive = true → program.scheduler.lastSpawnedProcess = some q) ∧
      process.releaseOnDeath = false ∧
      process.internalReferenceCount =
        process.listed + if program.scheduler.lastSpawnedProcess = some q then 1 else 0

def Context.Good (p : ProgramRef) (c : Context) : Prop := Base p c.program c.daemon c.log

-- What a function called for one program leaves to the others.
structure Frame (p : ProgramRef) (daemon daemon' : Daemon) : Prop where
  observers : ∀ other, other ≠ p → daemon'.observers.count other = daemon.observers.count other
  entries : daemon'.entries.filter (·.notify ≠ p) = daemon.entries.filter (·.notify ≠ p)
  processes : ∀ q process, process.stateChanged ≠ some p →
    (daemon'.processes.get q = some process ↔ daemon.processes.get q = some process)
  brickd : daemon'.brickdConnected = daemon.brickdConnected
  crashed : daemon.crashed = true → daemon'.crashed = true

-- What a function called for a program does. Only a Brick Daemon that is connected ends the
-- waiting for it.
structure Moves (p : ProgramRef) (c c' : Context) : Prop where
  good : c'.Good p
  program : c'.program = { c.program with scheduler := c'.program.scheduler }
  brickd : c'.program.scheduler.waitingForBrickd = c.program.scheduler.waitingForBrickd ∨
    c.daemon.brickdConnected = true ∧ c'.program.scheduler.waitingForBrickd = false
  shutdown : c'.program.scheduler.shutdown = c.program.scheduler.shutdown
  frame : Frame p c.daemon c'.daemon
  logs : Logs p c.log c'.log

variable {p : ProgramRef}

theorem Frame.refl (daemon : Daemon) : Frame p daemon daemon where
  observers _ _ := rfl
  entries := rfl
  processes _ _ _ := Iff.rfl
  brickd := rfl
  crashed := id

theorem Frame.trans {daemon daemon' daemon'' : Daemon} (h : Frame p daemon daemon')
    (h' : Frame p daemon' daemon'') : Frame p daemon daemon'' where
  observers other hother := (h'.observers other hother).trans (h.observers other hother)
  entries := h'.entries.trans h.entries
  processes q process hprocess :=
    (h'.processes q process hprocess).trans (h.processes q process hprocess)
  brickd := h'.brickd.trans h.brickd
  crashed := h'.crashed ∘ h.crashed

theorem Base.log {program : Program} {daemon : Daemon} {log log' : List Effect}
    (h : Base p program daemon log) (hlog : ∀ effect ∈ log, effect ∈ log') :
    Base p program daemon log' :=
  { h with inert := fun hstate hactive => hlog _ (h.inert hstate hactive) }

theorem Moves.trans {c c' c'' : Context} (h : Moves p c c') (h' : Moves p c' c'') :
    Moves p c c'' where
  good := h'.good
  program := by rw [h'.program, h.program]
  brickd := by
    rcases h'.brickd with hsame | ⟨hconnected, hended⟩
    · rw [hsame]
      exact h.brickd
    · exact Or.inr ⟨h.frame.brickd ▸ hconnected, hended⟩
  shutdown := h'.shutdown.trans h.shutdown
  frame := h.frame.trans h'.frame
  logs := h.logs.trans h'.logs

-- Calls that only have an outcome and an effect.
theorem Moves.of_quiet {c c' : Context} (h : c.Good p) (hprogram : c'.program = c.program)
    (hdaemon : c'.daemon = c.daemon) (hlogs : Logs p c.log c'.log) : Moves p c c' where
  good := by
    unfold Context.Good
    rw [hprogram, hdaemon]
    exact Base.log h fun _ => hlogs.mem
  program := by rw [hprogram]
  brickd := Or.inl (by rw [hprogram])
  shutdown := by rw [hprogram]
  frame := by rw [hdaemon]; exact Frame.refl _
  logs := hlogs

theorem Moves.refl {c : Context} (h : c.Good p) : Moves p c c :=
  Moves.of_quiet h rfl rfl (Logs.refl _)

-- What a handler of a request does. It can change everything about a program but its ID, and
-- never takes a shutdown back.
structure Handled (p : ProgramRef) (c c' : Context) : Prop where
  good : c'.Good p
  id : c'.program.id = c.program.id
  brickd : c'.program.scheduler.waitingForBrickd = c.program.scheduler.waitingForBrickd ∨
    c.daemon.brickdConnected = true ∧ c'.program.scheduler.waitingForBrickd = false
  shutdown : c.program.scheduler.shutdown = true → c'.program.scheduler.shutdown = true
  frame : Frame p c.daemon c'.daemon
  logs : Logs p c.log c'.log

theorem Moves.handled {c' : Context} (h : Moves p c c') : Handled p c c' where
  good := h.good
  id := by rw [h.program]
  brickd := h.brickd
  shutdown hshutdown := h.shutdown.trans hshutdown
  frame := h.frame
  logs := h.logs

theorem Handled.waiting {c c' : Context} (h : Handled p c c')
    (hwaiting : c'.program.scheduler.waitingForBrickd = true) :
    c.program.scheduler.waitingForBrickd = true := by
  rcases h.brickd with hsame | ⟨-, hended⟩
  · rw [← hsame]
    exact hwaiting
  · rw [hended] at hwaiting
    cases hwaiting

theorem Moves.waiting {c c' : Context} (h : Moves p c c')
    (hwaiting : c'.program.scheduler.waitingForBrickd = true) :
    c.program.scheduler.waitingForBrickd = true := h.handled.waiting hwaiting

theorem Handled.trans {c' c'' : Context} (h : Handled p c c') (h' : Handled p c' c'') :
    Handled p c c'' where
  good := h'.good
  id := h'.id.trans h.id
  brickd := by
    rcases h'.brickd with hsame | ⟨hconnected, hended⟩
    · rw [hsame]
      exact h.brickd
    · exact Or.inr ⟨h.frame.brickd ▸ hconnected, hended⟩
  shutdown := h'.shutdown ∘ h.shutdown
  frame := h.frame.trans h'.frame
  logs := h.logs.trans h'.logs

end Base

end RedApid.Scheduling

import RedApid.String.Basic

namespace RedApid

-- Addresses of objects, of sessions and of the entries that tie an object to a session.
abbrev ObjectRef := Nat
abbrev SessionRef := Nat
abbrev ReferenceRef := Nat

inductive ObjectType where
  | string
  | list
  | file
  | directory
  | process
  | program
deriving DecidableEq, Repr

-- Ascending as in the enumeration of object.h.
def ObjectType.all : List ObjectType := [.string, .list, .file, .directory, .process, .program]

-- An internal reference to an object. It is `locked` if it goes along with a lock, as the
-- acquire_and_lock functions take it.
structure Hold where
  object : ObjectRef
  locked : Bool
deriving DecidableEq, Repr

structure Process where
  executable : ObjectRef
  arguments : ObjectRef
  environment : ObjectRef
  workingDirectory : ObjectRef
  stdin : ObjectRef
  stdout : ObjectRef
  stderr : ObjectRef
  releaseOnDeath : Bool
  alive : Bool
deriving DecidableEq, Repr

inductive ProgramStdioRedirection where
  | devNull
  | pipe
  | file
  | individualLog
  | continuousLog
  | stdout
deriving DecidableEq, Repr

inductive ProgramStartMode where
  | never
  | always
  | interval
  | cron
deriving DecidableEq, Repr

structure ProgramCustomOption where
  name : ObjectRef
  value : ObjectRef
deriving DecidableEq, Repr

structure ProgramConfig where
  executable : ObjectRef
  arguments : ObjectRef
  environment : ObjectRef
  workingDirectory : ObjectRef
  stdinRedirection : ProgramStdioRedirection
  stdinFileName : ObjectRef
  stdoutRedirection : ProgramStdioRedirection
  stdoutFileName : ObjectRef
  stderrRedirection : ProgramStdioRedirection
  stderrFileName : ObjectRef
  startMode : ProgramStartMode
  continueAfterError : Bool
  startInterval : UInt32
  startFields : ObjectRef
  customOptions : List ProgramCustomOption
deriving DecidableEq, Repr

structure ProgramScheduler where
  absoluteWorkingDirectory : Option ObjectRef
  absoluteStdinFileName : Option ObjectRef
  absoluteStdoutFileName : Option ObjectRef
  absoluteStderrFileName : Option ObjectRef
  devNullFileName : ObjectRef
  lastSpawnedProcess : Option ObjectRef
  message : Option ObjectRef
deriving DecidableEq, Repr

structure Program where
  identifier : ObjectRef
  rootDirectory : ObjectRef
  config : ProgramConfig
  scheduler : ProgramScheduler
  noneMessage : ObjectRef
deriving DecidableEq, Repr

-- The part of an object behind its Object base.
inductive Payload where
  | string (string : StringObject)
  | list (items : List ObjectRef)
  | file (name : ObjectRef)
  | directory (name : ObjectRef)
  | process (process : Process)
  | program (program : Program)

def Payload.type : Payload → ObjectType
  | .string _ => .string
  | .list _ => .list
  | .file _ => .file
  | .directory _ => .directory
  | .process _ => .process
  | .program _ => .program

section Holds

-- What string_acquire_and_lock and list_acquire_and_lock take.
def lockedHold (object : ObjectRef) : Hold := ⟨object, true⟩

-- What object_add_internal_reference alone takes.
def plainHold (object : ObjectRef) : Hold := ⟨object, false⟩

-- process_destroy
def Process.holds (process : Process) : List Hold :=
  [plainHold process.stderr, plainHold process.stdout, plainHold process.stdin,
    lockedHold process.workingDirectory, lockedHold process.environment,
    lockedHold process.arguments, lockedHold process.executable]

-- program_config_destroy
def ProgramConfig.holds (config : ProgramConfig) : List Hold :=
  (config.customOptions.flatMap fun customOption =>
      [lockedHold customOption.name, lockedHold customOption.value]) ++
    (if config.startMode = .cron then [lockedHold config.startFields] else []) ++
    (if config.stderrRedirection = .file then [lockedHold config.stderrFileName] else []) ++
    (if config.stdoutRedirection = .file then [lockedHold config.stdoutFileName] else []) ++
    (if config.stdinRedirection = .file then [lockedHold config.stdinFileName] else []) ++
    [lockedHold config.workingDirectory, lockedHold config.environment,
      lockedHold config.arguments, lockedHold config.executable]

-- program_scheduler_destroy
def ProgramScheduler.holds (scheduler : ProgramScheduler) : List Hold :=
  scheduler.lastSpawnedProcess.toList.map plainHold ++
    scheduler.message.toList.map lockedHold ++
    [lockedHold scheduler.devNullFileName] ++
    scheduler.absoluteStderrFileName.toList.map lockedHold ++
    scheduler.absoluteStdoutFileName.toList.map lockedHold ++
    scheduler.absoluteStdinFileName.toList.map lockedHold ++
    scheduler.absoluteWorkingDirectory.toList.map lockedHold

-- program_destroy
def Program.holds (program : Program) : List Hold :=
  program.scheduler.holds ++ program.config.holds ++
    [lockedHold program.rootDirectory, lockedHold program.identifier,
      lockedHold program.noneMessage]

-- The internal references to other objects that the destroy function of an object drops,
-- in this order.
def Payload.holds : Payload → List Hold
  | .string _ => []
  | .list items => items.map lockedHold
  | .file name => [lockedHold name]
  | .directory name => [lockedHold name]
  | .process p => p.holds
  | .program p => p.holds

end Holds

end RedApid

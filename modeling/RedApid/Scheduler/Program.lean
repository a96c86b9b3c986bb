import RedApid.Scheduler.Handlers

namespace RedApid.Scheduling

section Parameters

def identifierAlphabet : CString :=
  ascii "abcdefghijklmnopqrstuvwxyzABCDEFGHIJKLMNOPQRSTUVWXYZ0123456789_.-"

def programIsValidIdentifier (identifier : CString) : Bool :=
  identifier.head? ≠ some 45 ∧ identifier.head? ≠ some 46 ∧ 3 ≤ identifier.length ∧
    identifier.all (· ∈ identifierAlphabet)

-- A byte of a request as ProgramStdioRedirection, if program_is_valid_stdio_redirection accepts it.
def stdioRedirectionOfByte (byte : UInt8) : Option ProgramStdioRedirection :=
  [.devNull, .pipe, .file, .individualLog, .continuousLog, .stdout][byte.toNat]?

-- A byte of a request as ProgramStartMode, if program_is_valid_start_mode accepts it.
def startModeOfByte (byte : UInt8) : Option ProgramStartMode :=
  [.never, .always, .interval, .cron][byte.toNat]?

-- What program_config_create sets.
def programConfigCreate : ProgramSettings where
  executable := []
  arguments := []
  environment := []
  workingDirectory := ascii "."
  stdinRedirection := .devNull
  stdinFileName := none
  stdoutRedirection := .devNull
  stdoutFileName := none
  stderrRedirection := .devNull
  stderrFileName := none
  startMode := .never
  continueAfterError := false
  startInterval := 0
  startFields := none
  customOptions := []

end Parameters

section Setters

variable (p : ProgramRef)

-- A setter ends with program_config_save. The backup is restored if this fails.
def saveConfig (config : ProgramSettings) (tryStart : Bool) (c : Context) : APIE × Context :=
  match c.call with
  | (some code, c) => (code, c)
  | (none, c) =>
      (.success, programSchedulerUpdate p tryStart { c with program := { c.program with config } })

-- Strings and lists are passed by their contents, or by the error of the lookup. They are
-- locked as long as the config holds them.
structure Command where
  executable : Except APIError CString
  arguments : Except APIError (List CString)
  environment : Except APIError (List CString)
  workingDirectory : Except APIError CString

def programSetCommand (command : Command) (c : Context) : APIE × Context :=
  if c.program.purged then (.programIsPurged, c)
  else
    match command.executable with
    | .error code => (code, c)
    | .ok executable =>
        if executable = [] then (.invalidParameter, c)
        else
          match command.arguments, command.environment, command.workingDirectory with
          | .error code, _, _ => (code, c)
          | .ok _, .error code, _ => (code, c)
          | .ok _, .ok _, .error code => (code, c)
          | .ok arguments, .ok environment, .ok workingDirectory =>
              if workingDirectory = [] then (.invalidParameter, c)
              else
                saveConfig p
                  { c.program.config with executable, arguments, environment, workingDirectory }
                  false c

-- The file name for a redirection, which is looked up for FILE only.
def lookupFileName (redirection : ProgramStdioRedirection) (fileName : Except APIError CString) :
    Except APIE (Option CString) :=
  if redirection = .file then
    match fileName with
    | .error code => .error code
    | .ok [] => .error .invalidParameter
    | .ok name => .ok (some name)
  else .ok none

structure Redirections where
  stdin : UInt8
  stdinFileName : Except APIError CString
  stdout : UInt8
  stdoutFileName : Except APIError CString
  stderr : UInt8
  stderrFileName : Except APIError CString

-- The three checks of program_set_stdio_redirection. The one for stderr looks at the redirection
-- of stdout.
def checkRedirections (redirections : Redirections) :
    Option (ProgramStdioRedirection × ProgramStdioRedirection × ProgramStdioRedirection) :=
  match stdioRedirectionOfByte redirections.stdin with
  | none => none
  | some first =>
      if first = .individualLog ∨ first = .continuousLog ∨ first = .stdout then none
      else
        match stdioRedirectionOfByte redirections.stdout with
        | none => none
        | some second =>
            if second = .pipe ∨ second = .stdout then none
            else
              match stdioRedirectionOfByte redirections.stderr with
              | none => none
              | some third => if second = .pipe then none else some (first, second, third)

def programSetStdioRedirection (redirections : Redirections) (c : Context) : APIE × Context :=
  if c.program.purged then (.programIsPurged, c)
  else
    match checkRedirections redirections with
    | none => (.invalidParameter, c)
    | some (stdinRedirection, stdoutRedirection, stderrRedirection) =>
        match lookupFileName stdinRedirection redirections.stdinFileName,
          lookupFileName stdoutRedirection redirections.stdoutFileName,
          lookupFileName stderrRedirection redirections.stderrFileName with
        | .error code, _, _ => (code, c)
        | .ok _, .error code, _ => (code, c)
        | .ok _, .ok _, .error code => (code, c)
        | .ok stdinFileName, .ok stdoutFileName, .ok stderrFileName =>
            saveConfig p
              { c.program.config with
                stdinRedirection, stdinFileName
                stdoutRedirection, stdoutFileName
                stderrRedirection, stderrFileName }
              false c

structure Schedule where
  startMode : UInt8
  continueAfterError : UInt8
  startInterval : UInt32
  startFields : Except APIError CString

-- The fields are looked up for CRON only.
def lookupStartFields (startMode : ProgramStartMode) (startFields : Except APIError CString) :
    Except APIE (Option CString) :=
  if startMode = .cron then
    match startFields with
    | .error code => .error code
    | .ok [] => .error .invalidParameter
    | .ok fields => .ok (some fields)
  else .ok none

def programSetSchedule (schedule : Schedule) (c : Context) : APIE × Context :=
  if c.program.purged then (.programIsPurged, c)
  else
    match startModeOfByte schedule.startMode with
    | none => (.invalidParameter, c)
    | some startMode =>
        if schedule.startInterval < 1 then (.invalidParameter, c)
        else
          match lookupStartFields startMode schedule.startFields with
          | .error code => (code, c)
          | .ok startFields =>
              saveConfig p
                { c.program.config with
                  startMode, startFields
                  continueAfterError := schedule.continueAfterError ≠ 0
                  startInterval := schedule.startInterval }
                true c

end Setters

section Purge

inductive RenameResult where
  | renamed
  | exists
  | failed (code : APIError)
deriving DecidableEq, Repr

-- The loop of program_purge over `counter`, with the attempts that are left.
def purgeAttempts : Nat → List RenameResult → Context → APIE × Context
  | 0, _, c => (.internalError, c)
  | attempts + 1, renames, c =>
      match renames.headD .renamed with
      | .renamed => (.success, { c with program := { c.program with purged := true } })
      | .failed code => (code, c)
      | .exists =>
          match c.call with
          | (some code, c) => (code, c)
          | (none, c) => purgeAttempts attempts renames.tail c

def purgeCookie (identifier : CString) : UInt32 :=
  identifier.foldl (fun cookie byte => cookie + byte.toUInt32) 0

-- program_purge up to the removal of the internal reference, which follows if it succeeds.
def programPurge (p : ProgramRef) (cookie : UInt32) (renames : List RenameResult) (c : Context) :
    APIE × Context :=
  if c.program.purged then (.programIsPurged, c)
  else if cookie ≠ purgeCookie c.program.identifier then (.invalidParameter, c)
  else
    match (programSchedulerShutdown p c).call with
    | (some code, c) => (code, c)
    | (none, c) => purgeAttempts 1000 renames c

end Purge

end RedApid.Scheduling

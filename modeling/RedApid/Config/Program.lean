import RedApid.Config.ConfFile
import RedApid.Store.Payload

namespace RedApid

-- A ProgramConfig with the contents of its strings in place of the objects. The file names and
-- the start fields are NULL where the header comments of program_config.h say so.
@[ext]
structure ProgramSettings where
  executable : CString
  arguments : List CString
  environment : List CString
  workingDirectory : CString
  stdinRedirection : ProgramStdioRedirection
  stdinFileName : Option CString
  stdoutRedirection : ProgramStdioRedirection
  stdoutFileName : Option CString
  stderrRedirection : ProgramStdioRedirection
  stderrFileName : Option CString
  startMode : ProgramStartMode
  continueAfterError : Bool
  startInterval : UInt32
  startFields : Option CString
  customOptions : List (CString × CString)
deriving DecidableEq, Repr

section Symbols

def stdioRedirectionEnumValueNames : List (ProgramStdioRedirection × CString) :=
  [(.devNull, ascii "/dev/null"), (.pipe, ascii "pipe"), (.file, ascii "file"),
    (.individualLog, ascii "individual_log"), (.continuousLog, ascii "continuous_log"),
    (.stdout, ascii "stdout")]

def startModeEnumValueNames : List (ProgramStartMode × CString) :=
  [(.never, ascii "never"), (.always, ascii "always"), (.interval, ascii "interval"),
    (.cron, ascii "cron")]

variable {α : Type} [DecidableEq α]

def enumGetName (names : List (α × CString)) (value : α) : CString :=
  ((names.find? fun entry => entry.1 = value).map (·.2)).getD (ascii "<unknown>")

-- With its last parameter set to ignore the case.
def enumGetValue (names : List (α × CString)) (name : CString) : Option α :=
  (names.find? fun entry => strcaseeq entry.2 name).map (·.1)

end Symbols

section Save

def programConfigSetString (name : CString) (value : List UInt8) : ConfEdit :=
  .set name (cString value)

def programConfigSetEmpty (name : CString) : ConfEdit := .set name []

def programConfigSetInteger (name : CString) (value : Nat) : ConfEdit := .set name (decimal value)

def programConfigSetBoolean (name : CString) (value : Bool) : ConfEdit :=
  .set name (if value then ascii "true" else ascii "false")

def programConfigSetSymbol {α : Type} [DecidableEq α] (names : List (α × CString))
    (name : CString) (value : α) : ConfEdit :=
  .set name (enumGetName names value)

-- <name>.item<i>
def itemName (name : CString) (i : Nat) : CString := name ++ ascii ".item" ++ decimal i

def programConfigSetStringList (name : CString) (value : List (List UInt8)) : List ConfEdit :=
  programConfigSetInteger (name ++ ascii ".length") value.length ::
    -- ensure that old items are deleted if the list shrinks
    .remove (name ++ ascii ".item") ::
    value.mapIdx fun i item => programConfigSetString (itemName name i) item

def customName (name : CString) : CString := ascii "custom." ++ name

variable (config : ProgramSettings)

def saveFileName (redirection : ProgramStdioRedirection) (name : CString)
    (fileName : Option CString) : ConfEdit :=
  if redirection = .file then programConfigSetString name (fileName.getD [])
  else programConfigSetEmpty name

def saveStdio : List ConfEdit :=
  [programConfigSetSymbol stdioRedirectionEnumValueNames (ascii "stdin_redirection")
      config.stdinRedirection,
    saveFileName config.stdinRedirection (ascii "stdin_file_name") config.stdinFileName,
    programConfigSetSymbol stdioRedirectionEnumValueNames (ascii "stdout_redirection")
      config.stdoutRedirection,
    saveFileName config.stdoutRedirection (ascii "stdout_file_name") config.stdoutFileName,
    programConfigSetSymbol stdioRedirectionEnumValueNames (ascii "stderr_redirection")
      config.stderrRedirection,
    saveFileName config.stderrRedirection (ascii "stderr_file_name") config.stderrFileName]

def saveSchedule : List ConfEdit :=
  [programConfigSetSymbol startModeEnumValueNames (ascii "start_mode") config.startMode,
    programConfigSetBoolean (ascii "continue_after_error") config.continueAfterError,
    programConfigSetInteger (ascii "start_interval") config.startInterval.toNat,
    if config.startMode = .cron then
      programConfigSetString (ascii "start_fields") (config.startFields.getD [])
    else programConfigSetEmpty (ascii "start_fields")]

def saveCustomOptions : List ConfEdit :=
  .remove (ascii "custom.") ::
    config.customOptions.map fun option =>
      .format 1024 (customName (cString option.1)) (cString option.2)

-- The calls of program_config_save that change its ConfFile, in this order.
def programConfigEdits : List ConfEdit :=
  programConfigSetString (ascii "executable") config.executable ::
    (programConfigSetStringList (ascii "arguments") config.arguments ++
      (programConfigSetStringList (ascii "environment") config.environment ++
        (programConfigSetString (ascii "working_directory") config.workingDirectory ::
          (saveStdio config ++ (saveSchedule config ++ saveCustomOptions config)))))

-- The outcomes of the calls in program_config_save that can fail: conf_file_create,
-- conf_file_read, memory for the options, robust_snprintf of a name that is too long, and
-- conf_file_write.
structure ProgramConfigSave where
  create : Option APIError
  read : Option APIError
  edits : List (Option APIError)
  tooLong : APIError
  write : Option APIError

-- `file` is the file as it is before, if there is one. The result is what is written.
def programConfigSave (outcome : ProgramConfigSave) (file : Option ConfFile) :
    Except APIE ConfFile :=
  match outcome.create, outcome.read with
  | some code, _ => .error code
  | none, some code => .error code
  | none, none =>
      match runEdits outcome.tooLong (programConfigEdits config) outcome.edits
        (file.getD OrderedMap.empty) with
      | .error code => .error code
      | .ok saved =>
          match outcome.write with
          | some code => .error code
          | none => .ok saved

end Save

section Load

variable (file : ConfFile)

def programConfigGetString (name default : CString) : CString :=
  (confFileGetOptionValue file name).getD default

def programConfigGetInteger (name : CString) (default : Nat) : Nat :=
  match confFileGetOptionValue file name with
  | none => default
  | some string => (parseInteger string).getD default

def programConfigGetBoolean (name : CString) (default : Bool) : Bool :=
  match confFileGetOptionValue file name with
  | none => default
  | some string =>
      if strcaseeq string (ascii "true") then true
      else if strcaseeq string (ascii "false") then false
      else default

def programConfigGetSymbol {α : Type} (names : List (α × CString)) (name : CString)
    (default : α) : α :=
  match confFileGetOptionValue file name with
  | none => default
  | some string => (enumGetValue names string).getD default

def programConfigGetStringList (name : CString) : List CString :=
  let length := programConfigGetInteger file (name ++ ascii ".length") 0
  (List.range (intOfLength length).toNat).map fun i =>
    programConfigGetString file (itemName name i) []

-- What program_config_load accepts for the three streams.
def loadsStdin (redirection : ProgramStdioRedirection) : Bool :=
  redirection ≠ .individualLog ∧ redirection ≠ .continuousLog ∧ redirection ≠ .stdout

def loadsStdout (redirection : ProgramStdioRedirection) : Bool :=
  redirection ≠ .pipe ∧ redirection ≠ .stdout

def loadsStderr (redirection : ProgramStdioRedirection) : Bool := redirection ≠ .pipe

-- The redirection of one stream and its file name. An empty file name is released again, and
-- the pointer to it is not used any more.
def loadRedirection (loads : ProgramStdioRedirection → Bool) (name fileName : CString) :
    ProgramStdioRedirection × Option CString :=
  let redirection := programConfigGetSymbol file stdioRedirectionEnumValueNames name .devNull
  let redirection := if loads redirection then redirection else .devNull
  if redirection = .file then
    let string := programConfigGetString file fileName []
    if string = [] then (.devNull, none) else (redirection, some string)
  else (redirection, none)

def loadStdin : ProgramStdioRedirection × Option CString :=
  loadRedirection file loadsStdin (ascii "stdin_redirection") (ascii "stdin_file_name")

def loadStdout : ProgramStdioRedirection × Option CString :=
  loadRedirection file loadsStdout (ascii "stdout_redirection") (ascii "stdout_file_name")

def loadStderr : ProgramStdioRedirection × Option CString :=
  loadRedirection file loadsStderr (ascii "stderr_redirection") (ascii "stderr_file_name")

def loadStartMode : ProgramStartMode × Option CString :=
  let startMode := programConfigGetSymbol file startModeEnumValueNames (ascii "start_mode") .never
  if startMode = .cron then
    let string := programConfigGetString file (ascii "start_fields") (ascii "* * * * *")
    -- cannot start with empty cron fields, starting never instead
    if string = [] then (.never, none) else (startMode, some string)
  else (startMode, none)

def loadCustomOptions : List (CString × CString) :=
  (file.entries.filter fun entry => startsWithCase (ascii "custom.") entry.1).map fun entry =>
    (entry.1.drop (ascii "custom.").length, entry.2)

-- program_config_load as long as it gets its memory and IDs. The interval is cut off to an
-- `uint32_t`.
def programConfigLoad : ProgramSettings where
  executable := programConfigGetString file (ascii "executable") []
  arguments := programConfigGetStringList file (ascii "arguments")
  environment := programConfigGetStringList file (ascii "environment")
  workingDirectory := programConfigGetString file (ascii "working_directory") (ascii ".")
  stdinRedirection := (loadStdin file).1
  stdinFileName := (loadStdin file).2
  stdoutRedirection := (loadStdout file).1
  stdoutFileName := (loadStdout file).2
  stderrRedirection := (loadStderr file).1
  stderrFileName := (loadStderr file).2
  startMode := (loadStartMode file).1
  continueAfterError := programConfigGetBoolean file (ascii "continue_after_error") false
  startInterval := (programConfigGetInteger file (ascii "start_interval") 0).toUInt32
  startFields := (loadStartMode file).2
  customOptions := loadCustomOptions file

end Load

end RedApid

import RedApid.Programs.CustomOptions
import RedApid.Scheduler.World

namespace RedApid.Scheduling

-- The directories below the programs directory, and the program.conf of each that has one.
abbrev ProgramsDirectory := OrderedMap (id : CString → CString) (Option ConfFile)

-- What program_config_save writes, on top of what is there.
def programConfigSave (identifier : CString) (config : ProgramSettings)
    (directories : ProgramsDirectory) : ProgramsDirectory :=
  directories.set identifier
    (some ((programConfigEdits config).foldl ConfEdit.apply
      ((directories.get identifier).join.getD OrderedMap.empty)))

section CustomOptions

variable (outcomes : OptionOutcomes) (customOptions : List (CString × CString))

-- program_find_custom_option without suffix_match
def programFindCustomOption (name : CString) : Option Nat :=
  customOptions.findIdx? fun customOption => strcaseeq customOption.1 name

def programSetCustomOptionValue (name value : CString) : APIE × List (CString × CString) :=
  match programFindCustomOption customOptions name with
  | none =>
      match outcomes.append with
      | some code => (code, customOptions)
      | none =>
          -- what is appended is removed again if the config cannot be saved
          match outcomes.save with
          | some code => (code, customOptions)
          | none => (.success, customOptions ++ [(name, value)])
  | some index =>
      match outcomes.save with
      | some code => (code, customOptions)
      | none =>
          (.success, customOptions.modify index fun customOption => (customOption.1, value))

def programRemoveCustomOption (name : CString) : APIE × List (CString × CString) :=
  match programFindCustomOption customOptions name with
  | none => (.doesNotExist, customOptions)
  | some index =>
      let removed := customOptions.eraseIdx index
      match outcomes.save with
      | none => (.success, removed)
      | some code =>
          match outcomes.append with
          | some _ => (code, removed)
          | none => (code, removed ++ customOptions[index]?.toList)

-- Strings are passed by their contents, or by the error of the lookup.
inductive OptionRequest where
  | setValue (name value : Except APIError CString)
  | remove (name : Except APIError CString)

def OptionRequest.run : OptionRequest → APIE × List (CString × CString)
  | .setValue (.ok name) (.ok value) =>
      programSetCustomOptionValue outcomes customOptions name value
  | .setValue (.ok _) (.error code) => (code, customOptions)
  | .setValue (.error code) _ => (code, customOptions)
  | .remove (.ok name) => programRemoveCustomOption outcomes customOptions name
  | .remove (.error code) => (code, customOptions)

end CustomOptions

-- The daemon and its programs directory.
structure Host where
  world : World
  directories : ProgramsDirectory

-- What inventory_load_programs does for one directory. The config may not be loaded or the object
-- may not be created.
structure Load where
  name : CString
  id : ObjectID
  creation : Option APIError
  outcomes : Outcomes

namespace Host

-- `torn` is what a program_config_save that fails leaves of its file, if that is not what was there
-- before, and `left` is the directory that a program_define that fails leaves, if there is one.
inductive Event where
  | world (event : World.Event) (outcomes : Outcomes) (torn : Option ConfFile)
  | programDefine (identifier : CString) (id : ObjectID) (creation : Option APIError)
      (outcomes : Outcomes) (left : Option (Option ConfFile))
  | customOption (p : ProgramRef) (request : OptionRequest) (outcomes : OptionOutcomes)
      (torn : Option ConfFile)
  | restart (x11Enabled : Bool) (loads : List Load)

variable (programsDirectory : CString) (host : Host)

def init (x11Enabled : Bool) (directories : ProgramsDirectory) : Host :=
  ⟨World.init x11Enabled, directories⟩

section Files

def rootDirectory (identifier : CString) : CString := programsDirectory ++ ascii "/" ++ identifier

def tear (identifier : CString) (torn : Option ConfFile) : ProgramsDirectory :=
  match torn with
  | none => host.directories
  | some file => host.directories.set identifier (some file)

-- The directories behind a setter. One that succeeds has saved the config.
def saved (p : ProgramRef) (setter : Context → APIE × Context) (outcomes : Outcomes)
    (torn : Option ConfFile) : ProgramsDirectory :=
  match host.world.programs.get p with
  | none => host.directories
  | some program =>
      let (code, c) := setter ⟨program, host.world.daemon, host.world.log, outcomes⟩
      if program.purged then host.directories
      else if code = .success then
        programConfigSave program.identifier c.program.config host.directories
      else host.tear program.identifier torn

-- The directories behind program_purge, which moves one of them to /tmp.
def moved (p : ProgramRef) (cookie : UInt32) (renames : List RenameResult)
    (outcomes : Outcomes) : ProgramsDirectory :=
  match host.world.programs.get p with
  | none => host.directories
  | some program =>
      let (code, _) := Scheduling.programPurge p cookie renames
        ⟨program, host.world.daemon, host.world.log, outcomes⟩
      if code = .success then host.directories.removeAll (· = program.identifier)
      else host.directories

-- No other event reaches the directories. The ones without a result are events of their own.
def stored (outcomes : Outcomes) (torn : Option ConfFile) :
    World.Event → Option ProgramsDirectory
  | .programLoad _ _ _ _ _ => none
  | .request (.programDefine _ _ _ _) => none
  | .request (.programSetCustomOptions _ _) => none
  | .request (.programSetCommand p command) =>
      some (host.saved p (programSetCommand p command) outcomes torn)
  | .request (.programSetStdioRedirection p redirections) =>
      some (host.saved p (programSetStdioRedirection p redirections) outcomes torn)
  | .request (.programSetSchedule p schedule) =>
      some (host.saved p (programSetSchedule p schedule) outcomes torn)
  | .request (.programPurge p cookie renames) => some (host.moved p cookie renames outcomes)
  | _ => some host.directories

end Files

section Loading

variable (directories : ProgramsDirectory)

-- inventory_load_programs, with the directories in the order of readdir. What cannot be loaded is
-- ignored.
def inventoryLoadPrograms : List Load → World → Option World
  | [], w => some w
  | load :: loads, w =>
      match directories.get load.name with
      | some (some file) =>
          match w.next (.programLoad load.name (rootDirectory programsDirectory load.name) file
            load.id load.creation, load.outcomes) with
          | none => none
          | some w => inventoryLoadPrograms loads w
      | _ => inventoryLoadPrograms loads w

end Loading

-- The directory of a new program is made with DIRECTORY_FLAG_EXCLUSIVE, so it was not there.
def define (identifier : CString) (id : ObjectID) (creation : Option APIError)
    (outcomes : Outcomes) (left : Option (Option ConfFile)) : Option Host :=
  let event : World.Event :=
    .request (.programDefine programsDirectory identifier id creation)
  match host.world.next (event, outcomes) with
  | none => none
  | some world =>
      if programIsValidIdentifier identifier then
        match creation, left, host.directories.get identifier with
        | none, _, none =>
            some ⟨world, programConfigSave identifier programConfigCreate host.directories⟩
        | none, _, some _ => none
        | some _, some directory, none =>
            some ⟨world, host.directories.set identifier directory⟩
        | some _, some _, some _ => none
        | some _, none, _ => some ⟨world, host.directories⟩
      else some ⟨world, host.directories⟩

def setOptions (p : ProgramRef) (request : OptionRequest) (outcomes : OptionOutcomes)
    (torn : Option ConfFile) : Option Host :=
  match host.world.programs.get p with
  | none => none
  | some program =>
      if program.purged then some host
      else
        let (code, customOptions) := request.run outcomes program.config.customOptions
        let event : World.Event := .request (.programSetCustomOptions p customOptions)
        match host.world.next (event, .succeed) with
        | none => none
        | some world =>
            if code = .success then
              some ⟨world, programConfigSave program.identifier
                { program.config with customOptions } host.directories⟩
            else some ⟨world, host.tear program.identifier torn⟩

-- The daemon can be restarted in every state, be it running or not.
def next : Event → Option Host
  | .world event outcomes torn =>
      match host.world.next (event, outcomes), host.stored outcomes torn event with
      | some world, some directories => some ⟨world, directories⟩
      | _, _ => none
  | .programDefine identifier id creation outcomes left =>
      host.define programsDirectory identifier id creation outcomes left
  | .customOption p request outcomes torn => host.setOptions p request outcomes torn
  | .restart x11Enabled loads =>
      if (loads.map (·.name)).Perm (host.directories.entries.map (·.1)) then
        (inventoryLoadPrograms programsDirectory host.directories loads
          (World.init x11Enabled)).map (⟨·, host.directories⟩)
      else none

end Host

end RedApid.Scheduling

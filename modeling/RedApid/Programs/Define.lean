import RedApid.Files.Disk
import RedApid.Scheduler.Program
import RedApid.Store.Demands

namespace RedApid

open Files Memory

-- The objects, and the file system.
structure Site where
  store : Store
  disk : Disk

-- The outcomes of the calls in program_config_create: the stock strings and the lists in their order,
-- calloc and array_create for the custom options, and strdup.
structure ConfigOutcomes where
  executable : StockOutcome
  arguments : ListCreation
  environment : ListCreation
  workingDirectory : StockOutcome
  calloc : Bool
  arrayCreate : Option APIError
  strdup : Bool

-- The outcome of program_config_save. A write that fails can leave the file.
structure SaveOutcome where
  error : Option APIError
  leavesFile : Bool

-- The outcomes of the calls in program_scheduler_create: each directory name and its directory, the
-- stock string, and timer_create_.
structure SchedulerOutcomes where
  binDirectory : Option APIError
  createBin : DirectoryOutcome
  logDirectory : Option APIError
  createLog : DirectoryOutcome
  devNull : StockOutcome
  timer : Option APIError

-- The outcomes of the calls in program_define.
structure DefineOutcomes where
  rootDirectory : StringOutcome
  configFilename : Option APIError
  createRoot : DirectoryOutcome
  noneMessage : StockOutcome
  calloc : Bool
  config : ConfigOutcomes
  save : SaveOutcome
  scheduler : SchedulerOutcomes
  objectCreate : ObjectCreation

section Functions

variable {α β : Type} (array : ArrayRemove) (grow : GrowAllocation)

def Site.onStore (site : Site) (result : Except APIE α × Store) : Except APIE α × Site :=
  (result.1, { site with store := result.2 })

-- A step that takes references, and what follows. If that fails the references are given back.
def Site.taking (holds : β → List Hold) (taken : Except APIE β × Site)
    (body : β → Site → Except APIE α × Site) : Except APIE α × Site :=
  match taken with
  | (.error code, site) => (.error code, site)
  | (.ok b, site) =>
      match body b site with
      | (.ok a, site) => (.ok a, site)
      | (.error code, site) =>
          (.error code, { site with store := releaseAll array (holds b) site.store })

def takenString (string : ObjectRef) : List Hold := [lockedHold string]

-- directory_create, and what follows.
def Site.creating (outcome : DirectoryOutcome) (name : CString) (flags : UInt32) (site : Site)
    (body : Site → Except APIE α × Site) : Except APIE α × Site :=
  let (code, disk) := directoryCreate outcome name flags site.disk
  if code = .success then body { site with disk } else (.error code, { site with disk })

-- FIXME: do a recursive remove here
def Site.removing (name : CString) : Except APIE α × Site → Except APIE α × Site
  | (.ok a, site) => (.ok a, site)
  | (.error code, site) => (.error code, { site with disk := rmdir name site.disk })

-- What program_config_create sets. A file name that is NULL is a zero here.
def ProgramConfig.fresh (executable arguments environment workingDirectory : ObjectRef) :
    ProgramConfig where
  executable
  arguments
  environment
  workingDirectory
  stdinRedirection := .devNull
  stdinFileName := 0
  stdoutRedirection := .devNull
  stdoutFileName := 0
  stderrRedirection := .devNull
  stderrFileName := 0
  startMode := .never
  continueAfterError := false
  startInterval := 0
  startFields := 0
  customOptions := []

def programConfigCreate (outcomes : ConfigOutcomes) (store : Store) :
    Except APIE ProgramConfig × Store :=
  acquiring array true (inventoryGetStockString array grow outcomes.executable [] store)
    fun executable store =>
  -- phase 1
  acquiring array true (listAllocate outcomes.arguments none ownedFlags store) fun arguments store =>
  -- phase 2
  acquiring array true (listAllocate outcomes.environment none ownedFlags store) fun environment store =>
  -- phase 3
  acquiring array true
      (inventoryGetStockString array grow outcomes.workingDirectory (ascii ".") store)
    fun workingDirectory store =>
  -- phase 4
  if !outcomes.calloc then (.error .noFreeMemory, store)
  else
    match outcomes.arrayCreate with
    | some code => (.error code, store)
    | none =>
        if !outcomes.strdup then (.error .noFreeMemory, store)
        else (.ok (.fresh executable arguments environment workingDirectory), store)

def programConfigSaveFile (outcome : SaveOutcome) (filename : CString) (disk : Disk) : APIE × Disk :=
  match outcome.error with
  | none => (.success, disk.createFile filename)
  | some code => (code, if outcome.leavesFile then disk.createFile filename else disk)

-- What program_scheduler_create sets.
def ProgramScheduler.fresh (devNullFileName : ObjectRef) : ProgramScheduler where
  absoluteWorkingDirectory := none
  absoluteStdinFileName := none
  absoluteStdoutFileName := none
  absoluteStderrFileName := none
  devNullFileName
  lastSpawnedProcess := none
  message := none

def programSchedulerCreate (outcomes : SchedulerOutcomes) (rootDirectory : CString) (site : Site) :
    Except APIE ProgramScheduler × Site :=
  match outcomes.binDirectory with
  | some code => (.error code, site)
  | none =>
      site.creating outcomes.createBin (rootDirectory ++ ascii "/bin") DIRECTORY_FLAG_RECURSIVE
        fun site =>
      match outcomes.logDirectory with
      | some code => (.error code, site)
      | none =>
          site.creating outcomes.createLog (rootDirectory ++ ascii "/log") DIRECTORY_FLAG_RECURSIVE
            fun site =>
          Site.taking array takenString
              (site.onStore (inventoryGetStockString array grow outcomes.devNull (ascii "/dev/null")
                site.store))
            fun devNullFileName site =>
          match outcomes.timer with
          | some code => (.error code, site)
          | none => (.ok (.fresh devNullFileName), site)

-- program_define behind program_config_create.
def programDefineSaved (outcomes : DefineOutcomes) (session : SessionRef)
    (program : ProgramScheduler → Program) (name : CString) (site : Site) :
    Except APIE ObjectRef × Site :=
  let (code, disk) := programConfigSaveFile outcomes.save (name ++ ascii "/program.conf") site.disk
  if code ≠ .success then (.error code, { site with disk })
  else
    Site.taking array ProgramScheduler.holds
        (programSchedulerCreate array grow outcomes.scheduler name { site with disk })
      fun scheduler site =>
    -- phase 7
    site.onStore (site.store.createObject outcomes.objectCreate (.program (program scheduler))
      (some session) sharedFlags)

-- program_define behind directory_create. The buffer of the root directory is `name`, nothing writes
-- to it.
def programDefineBelow (outcomes : DefineOutcomes) (session : SessionRef)
    (identifier rootDirectory : ObjectRef) (name : CString) (site : Site) :
    Except APIE ObjectRef × Site :=
  Site.taking array takenString
      (site.onStore (inventoryGetStockString array grow outcomes.noneMessage (ascii "None") site.store))
    fun noneMessage site =>
  -- phase 4
  if !outcomes.calloc then (.error .noFreeMemory, site)
  else
    -- phase 5
    Site.taking array ProgramConfig.holds
        (site.onStore (programConfigCreate array grow outcomes.config site.store))
      fun config site =>
    -- phase 6
    programDefineSaved array grow outcomes session
      (fun scheduler => ⟨identifier, rootDirectory, config, scheduler, noneMessage⟩) name site

-- program_define behind the string of the root directory.
def programDefineNamed (outcomes : DefineOutcomes) (session : SessionRef)
    (identifier rootDirectory : ObjectRef) (site : Site) : Except APIE ObjectRef × Site :=
  match outcomes.configFilename with
  | some code => (.error code, site)
  | none =>
      let name := site.store.text rootDirectory
      site.creating outcomes.createRoot name bothFlags fun site =>
      -- phase 3
      Site.removing name
        (programDefineBelow array grow outcomes session identifier rootDirectory name site)

-- "%s/%s"
def rootDirectoryName (programsDirectory : List UInt8) (identifier : CString) : CString :=
  cString programsDirectory ++ slash :: identifier

-- The scheduler is not updated at the end, whatever comes of that is not reported.
def programDefine (programsDirectory : List UInt8) (outcomes : DefineOutcomes)
    (identifierId : ObjectID) (session : SessionRef) (site : Site) : Except APIE ObjectRef × Site :=
  Site.taking array takenString (site.onStore (stringGetAcquiredAndLocked identifierId site.store))
    fun identifier site =>
  -- phase 1
  if !Scheduling.programIsValidIdentifier (site.store.text identifier) then
    (.error .invalidParameter, site)
  else
    Site.taking array takenString
        (site.onStore (stringAsprintfObject grow outcomes.rootDirectory
          (rootDirectoryName programsDirectory (site.store.text identifier)) none ownedFlags site.store))
      fun rootDirectory site =>
    -- phase 2
    programDefineNamed array grow outcomes session identifier rootDirectory site

end Functions

end RedApid

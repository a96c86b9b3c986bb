import RedApid.Memory.Handles
import RedApid.Store.Spawning
import RedApid.Store.Stock

namespace RedApid.Opening

open Memory Files

-- The number of an error code in api_error.h.
def value : APIE → UInt8
  | .success => 0
  | .unknownError => 1
  | .invalidOperation => 2
  | .operationAborted => 3
  | .internalError => 4
  | .unknownSessionId => 5
  | .noFreeSessionId => 6
  | .unknownObjectId => 7
  | .noFreeObjectId => 8
  | .objectIsLocked => 9
  | .noMoreData => 10
  | .wrongListItemType => 11
  | .programIsPurged => 12
  | .invalidParameter => 128
  | .noFreeMemory => 129
  | .noFreeSpace => 130
  | .accessDenied => 131
  | .alreadyExists => 132
  | .doesNotExist => 133
  | .interrupted => 134
  | .isDirectory => 135
  | .notADirectory => 136
  | .wouldBlock => 137
  | .overflow => 138
  | .badFileDescriptor => 139
  | .outOfRange => 140
  | .nameTooLong => 141
  | .invalidSeek => 142
  | .notSupported => 143
  | .tooManyOpenFiles => 144

section Flags

def FILE_FLAG_READ_ONLY : UInt32 := 0x0001
def FILE_FLAG_WRITE_ONLY : UInt32 := 0x0002
def FILE_FLAG_READ_WRITE : UInt32 := 0x0004
def FILE_FLAG_APPEND : UInt32 := 0x0008
def FILE_FLAG_CREATE : UInt32 := 0x0010
def FILE_FLAG_EXCLUSIVE : UInt32 := 0x0020
def FILE_FLAG_NON_BLOCKING : UInt32 := 0x0040
def FILE_FLAG_TRUNCATE : UInt32 := 0x0080
def FILE_FLAG_TEMPORARY : UInt32 := 0x0100
def FILE_FLAG_REPLACE : UInt32 := 0x0200

def FILE_FLAG_ALL : UInt32 :=
  FILE_FLAG_READ_ONLY ||| FILE_FLAG_WRITE_ONLY ||| FILE_FLAG_READ_WRITE ||| FILE_FLAG_APPEND |||
    FILE_FLAG_CREATE ||| FILE_FLAG_EXCLUSIVE ||| FILE_FLAG_NON_BLOCKING ||| FILE_FLAG_TRUNCATE |||
    FILE_FLAG_TEMPORARY ||| FILE_FLAG_REPLACE

-- The FILE_PERMISSION_ constants from USER_READ down to OTHERS_EXECUTE.
def filePermissions : List UInt16 :=
  [0o400, 0o200, 0o100, 0o040, 0o020, 0o010, 0o004, 0o002, 0o001]

def FILE_PERMISSION_ALL : UInt16 := filePermissions.foldl (· ||| ·) 0

-- The flags of open.
inductive OpenFlag where
  | noctty
  | rdonly
  | wronly
  | rdwr
  | append
  | creat
  | excl
  | nonblock
  | trunc
deriving DecidableEq, Repr

def fileGetOflagsFromFlags (flags : UInt32) : List OpenFlag :=
  ([(FILE_FLAG_READ_ONLY, OpenFlag.rdonly), (FILE_FLAG_WRITE_ONLY, .wronly),
    (FILE_FLAG_READ_WRITE, .rdwr), (FILE_FLAG_APPEND, .append), (FILE_FLAG_CREATE, .creat),
    (FILE_FLAG_EXCLUSIVE, .excl), (FILE_FLAG_NON_BLOCKING, .nonblock),
    (FILE_FLAG_TRUNCATE, .trunc)].filter fun flag => flags &&& flag.1 ≠ 0).map Prod.snd

-- The constants of <sys/stat.h> have the values of those in file.h.
def fileGetModeFromPermissions (permissions : UInt16) : UInt16 :=
  (filePermissions.filter fun permission => permissions &&& permission ≠ 0).foldl (· ||| ·) 0

-- What the S_IS macros say about a file.
inductive StatMode where
  | regular
  | directory
  | character
  | block
  | fifo
  | symlink
  | socket
  | other
deriving DecidableEq, Repr

def fileGetTypeFromStatMode : StatMode → FileType
  | .regular => .regular
  | .directory => .directory
  | .character => .character
  | .block => .block
  | .fifo => .fifo
  | .symlink => .symlink
  | .socket => .socket
  | .other => .unknown

theorem fileGetTypeFromStatMode_ne_pipe (mode : StatMode) :
    fileGetTypeFromStatMode mode ≠ .pipe := by
  cases mode <;> decide

end Flags

section Types

structure Pipe where
  readHandle : IOHandle
  writeHandle : IOHandle
deriving DecidableEq

-- What a File has behind its Object and its name. `fd` is -1 for a pipe, and nothing else has a
-- pipe.
structure OpenedFile where
  type : FileType
  flags : UInt32
  fd : Option IOHandle
  pipe : Option Pipe
  asyncReadEventfd : IOHandle
  pipe_iff : type = .pipe ↔ pipe ≠ none
  fd_iff : type = .pipe ↔ fd = none

-- The inventory, the descriptors of the daemon, and the Files.
structure Tables where
  store : Store
  descriptors : HandleTable
  files : ObjectRef → Option OpenedFile

-- pipe_create and pipe_destroy of daemonlib, and what PIPE_FLAG_ALL is made of.
structure PipeFunctions where
  nonBlockingRead : UInt32
  nonBlockingWrite : UInt32
  create : UInt32 → HandleTable → Except APIError Pipe × HandleTable
  destroy : Pipe → HandleTable → HandleTable

-- Two descriptors are opened or none, and both are closed.
structure PipeFunctions.Lawful (pipes : PipeFunctions) : Prop where
  failed : ∀ flags table code, (pipes.create flags table).1 = .error code →
    (pipes.create flags table).2 = table
  created : ∀ flags table pipe, (pipes.create flags table).1 = .ok pipe →
    pipe.readHandle ∉ table.opened ∧ pipe.writeHandle ∉ table.opened ∧
      pipe.readHandle ≠ pipe.writeHandle ∧
      (pipes.create flags table).2 = (table.add pipe.readHandle).add pipe.writeHandle
  destroyed : ∀ pipe table,
    pipes.destroy pipe table = (table.close pipe.writeHandle).close pipe.readHandle

-- `id` and `object` tell whether these pointers are given.
structure OpenRequest where
  nameId : ObjectID
  flags : UInt32
  permissions : UInt16
  uid : UInt32
  gid : UInt32
  session : Option SessionRef
  objectCreateFlags : UInt16
  id : Bool
  object : Bool

structure PipeRequest where
  flags : UInt32
  length : UInt64
  session : Option SessionRef
  objectCreateFlags : UInt16
  id : Bool
  object : Bool

-- A call that is made again as long as it is interrupted.
structure Retried (α : Type) where
  interruptions : Nat
  result : α

-- What open is called with, by the daemon or by its child.
structure OpenCall where
  name : CString
  oflags : List OpenFlag
  mode : UInt16
  uid : UInt32
  gid : UInt32

inductive ChildStatus where
  | exited (status : UInt8)
  | notExited

-- `received` tells whether a descriptor has come along. A file that unlink does not find is none
-- of its errors.
structure OpenOutcomes where
  effectiveUid : UInt32
  effectiveGid : UInt32
  unlink : CString → Option APIError
  openFile : OpenCall → Option APIError
  socketpair : Option APIError
  fork : Bool
  received : OpenCall → Retried (Except APIError Bool)
  waited : OpenCall → Retried (Except APIError ChildStatus)
  fstat : Except APIError StatMode
  calloc : Bool
  eventfd : Option APIError
  objectCreate : ObjectCreation

structure PipeOutcomes where
  stock : StockOutcome
  calloc : Bool
  setPipeSize : Option APIError
  eventfd : Option APIError
  objectCreate : ObjectCreation

-- The return value, and what is stored behind the pointers.
structure OpenResult where
  code : UInt8
  id : Option ObjectID
  object : Option ObjectRef
  tables : Tables

end Types

section Functions

variable (array : ArrayRemove)

-- The cleanup of a phase, unless the last one is reached.
def cleanup {α : Type} (undo : Tables → Tables) :
    Except UInt8 α × Tables → Except UInt8 α × Tables
  | (.ok a, tables) => (.ok a, tables)
  | (.error code, tables) => (.error code, undo tables)

def Tables.close (fd : IOHandle) (tables : Tables) : Tables :=
  { tables with descriptors := tables.descriptors.close fd }

-- string_unlock_and_release
def Tables.release (name : ObjectRef) (tables : Tables) : Tables :=
  { tables with store := (lockedHold name).release array tables.store }

-- The loop around recvfd, with the interruptions that are left.
def recvfd (result : Except APIError Bool) :
    Nat → HandleTable → Except UInt8 (Option IOHandle) × HandleTable
  | 0, table =>
      match result with
      | .error code => (.error (value code.1), table)
      | .ok false => (.ok none, table)
      | .ok true => (.ok (some table.openLowest.1), table.openLowest.2)
  | interruptions + 1, table => recvfd result interruptions table

-- The loop around waitpid.
def waitpid (result : Except APIError ChildStatus) : Nat → Except UInt8 ChildStatus
  | 0 => result.mapError fun code => value code.1
  | interruptions + 1 => waitpid result interruptions

def closeReceived (fd : Option IOHandle) (table : HandleTable) : HandleTable :=
  match fd with
  | none => table
  | some fd => table.close fd

-- The parent's side of file_open_as behind process_fork, `pair` is its end of the socket pair.
def receiveFile (outcomes : OpenOutcomes) (call : OpenCall) (pair : IOHandle)
    (table : HandleTable) : Except UInt8 IOHandle × HandleTable :=
  match recvfd (outcomes.received call).result (outcomes.received call).interruptions table with
  | (.error code, table) => (.error code, table.close pair)
  | (.ok fd, table) =>
      let table := table.close pair
      match waitpid (outcomes.waited call).result (outcomes.waited call).interruptions with
      | .error code => (.error code, closeReceived fd table)
      | .ok .notExited => (.error (value .internalError), closeReceived fd table)
      | .ok (.exited status) =>
          if status ≠ 0 then (.error status, closeReceived fd table)
          else
            match fd with
            | none => (.error (value .internalError), table)
            | some fd => (.ok fd, table)

def fileOpenAs (outcomes : OpenOutcomes) (call : OpenCall) (table : HandleTable) :
    Except UInt8 IOHandle × HandleTable :=
  match outcomes.socketpair with
  | some code => (.error (value code.1), table)
  | none =>
      let (first, table) := table.openLowest
      let (second, table) := table.openLowest
      if !outcomes.fork then (.error (value .internalError), table)
      else receiveFile outcomes call first (table.close second)

def openDescriptor (outcomes : OpenOutcomes) (call : OpenCall) (table : HandleTable) :
    Except UInt8 IOHandle × HandleTable :=
  if outcomes.effectiveUid = call.uid ∧ outcomes.effectiveGid = call.gid then
    match outcomes.openFile call with
    | some code => (.error (value code.1), table)
    | none => (.ok table.openLowest.1, table.openLowest.2)
  else fileOpenAs outcomes call table

-- What file_open and pipe_create_ have in common: eventfd, object_create and the cleanup of
-- phase 4. The File has the next address that calloc returns.
def createFile (eventfd : Option APIError) (objectCreate : ObjectCreation) (name : ObjectRef)
    (session : Option SessionRef) (flags : UInt32) (file : IOHandle → OpenedFile)
    (tables : Tables) : Except UInt8 ObjectRef × Tables :=
  match eventfd with
  | some code => (.error (value code.1), tables)
  | none =>
      let (asyncReadEventfd, descriptors) := tables.descriptors.openLowest
      cleanup (Tables.close asyncReadEventfd)
        (match tables.store.createObject objectCreate (.file name) session flags with
        | (.error code, store) => (.error (value code), { tables with store, descriptors })
        | (.ok object, store) =>
            (.ok object,
              { store
                descriptors
                files := Function.update tables.files object (some (file asyncReadEventfd)) }))

-- Phase 2 of file_open and what follows.
def fileOpenDescriptor (outcomes : OpenOutcomes) (request : OpenRequest) (name : ObjectRef)
    (fd : IOHandle) (tables : Tables) : Except UInt8 ObjectRef × Tables :=
  cleanup (Tables.close fd)
    (match outcomes.fstat with
    | .error code => (.error (value code.1), tables)
    | .ok mode =>
        if !outcomes.calloc then (.error (value .noFreeMemory), tables)
        else
          createFile outcomes.eventfd outcomes.objectCreate name request.session
            request.objectCreateFlags.toUInt32
            (fun asyncReadEventfd =>
              { type := fileGetTypeFromStatMode mode
                flags := request.flags
                fd := some fd
                pipe := none
                asyncReadEventfd
                pipe_iff := iff_of_false (fileGetTypeFromStatMode_ne_pipe mode) fun hne => hne rfl
                fd_iff := iff_of_false (fileGetTypeFromStatMode_ne_pipe mode)
                  (Option.some_ne_none fd) }) tables)

def OpenRequest.call (request : OpenRequest) (name : CString) : OpenCall where
  name := name
  oflags := .noctty :: fileGetOflagsFromFlags request.flags
  mode := if request.flags &&& FILE_FLAG_CREATE ≠ 0 then
    fileGetModeFromPermissions request.permissions else 0
  uid := request.uid
  gid := request.gid

-- Phase 1 of file_open and what follows.
def fileOpenNamed (outcomes : OpenOutcomes) (request : OpenRequest) (name : ObjectRef)
    (tables : Tables) : Except UInt8 ObjectRef × Tables :=
  cleanup (Tables.release array name)
    (if tables.store.isEmptyString name then (.error (value .invalidParameter), tables)
    else if !tables.store.isAbsolutePath name then (.error (value .invalidParameter), tables)
    else
      let text := tables.store.text name
      match (if request.flags &&& FILE_FLAG_REPLACE ≠ 0 then outcomes.unlink text else none) with
      | some code => (.error (value code.1), tables)
      | none =>
          match openDescriptor outcomes (request.call text) tables.descriptors with
          | (.error code, descriptors) => (.error code, { tables with descriptors })
          | (.ok fd, descriptors) =>
              fileOpenDescriptor outcomes request name fd { tables with descriptors })

-- The checks of file_open, and those of the flags that need others.
def OpenRequest.valid (request : OpenRequest) : Bool :=
  request.flags &&& ~~~FILE_FLAG_ALL = 0 ∧
    request.permissions &&& ~~~FILE_PERMISSION_ALL = 0 ∧
    ¬(request.flags &&& FILE_FLAG_CREATE ≠ 0 ∧ request.permissions = 0) ∧
    ¬(request.flags &&& FILE_FLAG_CREATE = 0 ∧ request.permissions ≠ 0) ∧
    ¬(request.flags &&& FILE_FLAG_TEMPORARY ≠ 0 ∧
      (request.flags &&& FILE_FLAG_CREATE = 0 ∨ request.flags &&& FILE_FLAG_EXCLUSIVE = 0)) ∧
    ¬(request.flags &&& FILE_FLAG_REPLACE ≠ 0 ∧ request.flags &&& FILE_FLAG_CREATE = 0)

def fileOpenPhases (outcomes : OpenOutcomes) (request : OpenRequest) (tables : Tables) :
    Except UInt8 ObjectRef × Tables :=
  if !request.valid then (.error (value .invalidParameter), tables)
  else
    match stringGetAcquiredAndLocked request.nameId tables.store with
    | (.error code, store) => (.error (value code), { tables with store })
    | (.ok name, store) => fileOpenNamed array outcomes request name { tables with store }

def openResult (id object : Bool) : Except UInt8 ObjectRef × Tables → OpenResult
  | (.error code, tables) => ⟨code, none, none, tables⟩
  | (.ok file, tables) =>
      { code := 0
        id := if id then tables.store.objectId file else none
        object := if object then some file else none
        tables }

def fileOpen (outcomes : OpenOutcomes) (request : OpenRequest) (tables : Tables) : OpenResult :=
  openResult request.id request.object (fileOpenPhases array outcomes request tables)

variable (pipes : PipeFunctions)

-- Phase 3 of pipe_create_ and what follows.
def pipeCreateEnds (outcomes : PipeOutcomes) (request : PipeRequest) (name : ObjectRef)
    (pipe : Pipe) (tables : Tables) : Except UInt8 ObjectRef × Tables :=
  cleanup (fun tables => { tables with descriptors := pipes.destroy pipe tables.descriptors })
    (match (if request.length > 0 then outcomes.setPipeSize else none) with
    | some code => (.error (value code.1), tables)
    | none =>
        createFile outcomes.eventfd outcomes.objectCreate name request.session
          request.objectCreateFlags.toUInt32
          (fun asyncReadEventfd =>
            { type := .pipe
              flags := request.flags
              fd := none
              pipe := some pipe
              asyncReadEventfd
              pipe_iff := iff_of_true rfl (Option.some_ne_none pipe)
              fd_iff := iff_of_true rfl rfl }) tables)

-- Phase 1 of pipe_create_ and what follows.
def pipeCreateNamed (outcomes : PipeOutcomes) (request : PipeRequest) (name : ObjectRef)
    (tables : Tables) : Except UInt8 ObjectRef × Tables :=
  cleanup (Tables.release array name)
    (if !outcomes.calloc then (.error (value .noFreeMemory), tables)
    else
      match pipes.create request.flags tables.descriptors with
      | (.error code, descriptors) => (.error (value code.1), { tables with descriptors })
      | (.ok pipe, descriptors) =>
          pipeCreateEnds pipes outcomes request name pipe { tables with descriptors })

def pipeCreatePhases (grow : GrowAllocation) (outcomes : PipeOutcomes) (request : PipeRequest)
    (tables : Tables) : Except UInt8 ObjectRef × Tables :=
  if request.flags &&& ~~~(pipes.nonBlockingRead ||| pipes.nonBlockingWrite) ≠ 0 then
    (.error (value .invalidParameter), tables)
  else if request.length.toNat > INT32_MAX then (.error (value .outOfRange), tables)
  else
    match inventoryGetStockString array grow outcomes.stock (ascii "<unnamed>") tables.store with
    | (.error code, store) => (.error (value code), { tables with store })
    | (.ok name, store) => pipeCreateNamed array pipes outcomes request name { tables with store }

-- pipe_create_
def pipeCreate (grow : GrowAllocation) (outcomes : PipeOutcomes) (request : PipeRequest)
    (tables : Tables) : OpenResult :=
  openResult request.id request.object (pipeCreatePhases array pipes grow outcomes request tables)

-- The descriptors that file_destroy closes in front of the eventfd.
def closeEnds (file : OpenedFile) (table : HandleTable) : HandleTable :=
  if file.type = .pipe then
    match file.pipe with
    | none => table
    | some pipe => pipes.destroy pipe table
  else
    match file.fd with
    | none => table
    | some fd => table.close fd

-- file_destroy, as it is called by object_destroy.
def fileDestroy (object : ObjectRef) (tables : Tables) : Tables :=
  match tables.store.payload object, tables.files object with
  | some (.file name), some file =>
      { store := ((Payload.file name).destroy (Store.release array) tables.store).freeObject object
        descriptors := (closeEnds pipes file tables.descriptors).close file.asyncReadEventfd
        files := Function.update tables.files object none }
  | _, _ => { tables with store := tables.store.faulted }

end Functions

end RedApid.Opening

import Mathlib.Data.Finset.Erase
import Mathlib.Data.Finset.Insert
import RedApid.Types

namespace RedApid.Files

abbrev IOHandle := Nat

section Functions

inductive FileType where
  | unknown
  | regular
  | directory
  | character
  | block
  | fifo
  | symlink
  | socket
  | pipe
deriving DecidableEq, Repr

def FILE_EVENT_READABLE : UInt16 := 0x0001
def FILE_EVENT_WRITABLE : UInt16 := 0x0002
def FILE_EVENT_ALL : UInt16 := FILE_EVENT_READABLE ||| FILE_EVENT_WRITABLE

def FILE_MAX_READ_ASYNC_BUFFER_LENGTH : Nat := 60

-- What file_open and pipe_create_ got from the system. A pipe has two ends, any other file
-- leaves their handles unset.
structure Descriptors where
  type : FileType
  asyncReadEventfd : IOHandle
  readHandle : IOHandle
  writeHandle : IOHandle
  distinct : type = .pipe →
    asyncReadEventfd ≠ readHandle ∧ asyncReadEventfd ≠ writeHandle ∧ readHandle ≠ writeHandle

structure File extends Descriptors where
  events : UInt16
  asyncReadInProgress : Bool
  lengthToReadAsync : UInt64
  externalReferenceCount : Nat

inductive PacketE where
  | success
  | invalidParameter
  | unknownError
deriving DecidableEq, Repr

inductive Callback where
  | asyncFileRead (errorCode : APIE) (lengthRead : Nat)
  | fileEventsOccurred (events : UInt16)
deriving DecidableEq, Repr

-- A File and the event loop. `stray` is set if event_remove_source is called for a handle that
-- is not registered.
structure State where
  file : File
  sources : Finset IOHandle
  stray : Bool
  destroyed : Bool
  callbacks : List Callback

def eventAddSource (handle : IOHandle) (s : State) : State :=
  { s with sources := insert handle s.sources }

def eventRemoveSource (handle : IOHandle) (s : State) : State :=
  { s with
    sources := s.sources.erase handle
    stray := s.stray || decide (handle ∉ s.sources) }

def send (callback : Callback) (s : State) : State :=
  if s.file.externalReferenceCount > 0 then { s with callbacks := s.callbacks ++ [callback] } else s

def setAsyncRead (inProgress : Bool) (length : UInt64) (s : State) : State :=
  { s with
    file := { s.file with asyncReadInProgress := inProgress, lengthToReadAsync := length } }

def setEventMask (events : UInt16) (s : State) : State :=
  { s with file := { s.file with events } }

-- `added` tells whether event_add_source succeeds.
def fileReadAsync (lengthToRead : UInt64) (added : Bool) (s : State) : PacketE × State :=
  if lengthToRead.toNat > 9223372036854775807 then
    (.invalidParameter, send (.asyncFileRead .outOfRange 0) s)
  else if s.file.asyncReadInProgress then
    (.unknownError, send (.asyncFileRead .invalidOperation 0) s)
  else
    let s := setAsyncRead true lengthToRead s
    if ¬ added then (.unknownError, send (.asyncFileRead .internalError 0) s)
    else (.success, eventAddSource s.file.asyncReadEventfd s)

def fileAbortAsyncRead (s : State) : State :=
  if s.file.asyncReadInProgress then
    send (.asyncFileRead .operationAborted 0)
      (setAsyncRead false 0 (eventRemoveSource s.file.asyncReadEventfd s))
  else s

-- What the read function of a File returns.
inductive ReadResult where
  | data (count : Nat)
  | interrupted
  | wouldBlock
  | failed (code : APIError)

-- The end of file_handle_async_read after some bytes have been read.
def asyncReadProgress (lengthRead : Nat) (s : State) : State :=
  let left := s.file.lengthToReadAsync - lengthRead.toUInt64
  send (.asyncFileRead .success lengthRead)
    (if lengthRead = 0 ∨ left = 0 then
      eventRemoveSource s.file.asyncReadEventfd (setAsyncRead false 0 s)
    else setAsyncRead s.file.asyncReadInProgress left s)

def fileHandleAsyncRead (result : ReadResult) (s : State) : State :=
  if ¬ s.file.asyncReadInProgress then eventRemoveSource s.file.asyncReadEventfd s
  else
    let lengthToRead := min FILE_MAX_READ_ASYNC_BUFFER_LENGTH s.file.lengthToReadAsync.toNat
    match result with
    | .interrupted => s
    | .wouldBlock => asyncReadProgress 0 s
    | .failed code =>
        send (.asyncFileRead code.1 0)
          (setAsyncRead false 0 (eventRemoveSource s.file.asyncReadEventfd s))
    | .data count => asyncReadProgress (min count lengthToRead) s

-- Both parts of file_set_events, none if event_add_source fails.
def setEvent (flag : UInt16) (handle : IOHandle) (events : UInt16) (added : Bool) (s : State) :
    Option State :=
  if events &&& flag ≠ 0 ∧ s.file.events &&& flag = 0 then
    if ¬ added then none
    else some (setEventMask (s.file.events ||| flag) (eventAddSource handle s))
  else if events &&& flag = 0 ∧ s.file.events &&& flag ≠ 0 then
    some (setEventMask (s.file.events &&& ~~~flag) (eventRemoveSource handle s))
  else some s

def fileSetEvents (events : UInt16) (readAdded writeAdded : Bool) (s : State) : APIE × State :=
  if s.file.type ≠ .pipe then (.notSupported, s)
  else if events &&& ~~~FILE_EVENT_ALL ≠ 0 then (.invalidParameter, s)
  else
    match setEvent FILE_EVENT_READABLE s.file.readHandle events readAdded s with
    | none => (.internalError, s)
    | some s =>
        match setEvent FILE_EVENT_WRITABLE s.file.writeHandle events writeAdded s with
        | none => (.internalError, s)
        | some s => (.success, s)

def handleEvent (flag : UInt16) (handle : IOHandle) (s : State) : State :=
  send (.fileEventsOccurred flag)
    (setEventMask (s.file.events &&& ~~~flag) (eventRemoveSource handle s))

def fileHandleReadableEvent (s : State) : State :=
  handleEvent FILE_EVENT_READABLE s.file.readHandle s

def fileHandleWritableEvent (s : State) : State :=
  handleEvent FILE_EVENT_WRITABLE s.file.writeHandle s

def removeIf (condition : Bool) (handle : IOHandle) (s : State) : State :=
  if condition then eventRemoveSource handle s else s

def fileDestroy (s : State) : State :=
  let file := s.file
  let s := removeIf file.asyncReadInProgress file.asyncReadEventfd s
  let s :=
    if file.type = .pipe then
      removeIf (file.events &&& FILE_EVENT_WRITABLE ≠ 0) file.writeHandle
        (removeIf (file.events &&& FILE_EVENT_READABLE ≠ 0) file.readHandle s)
    else s
  { s with destroyed := true }

end Functions

section Runs

inductive Operation where
  | readAsync (lengthToRead : UInt64) (added : Bool)
  | abortAsyncRead
  | handleAsyncRead (result : ReadResult)
  | setEvents (events : UInt16) (readAdded writeAdded : Bool)
  | handleReadableEvent
  | handleWritableEvent
  | destroy

-- The event loop calls the handlers of registered handles only.
def next (s : State) (operation : Operation) : Option State :=
  if s.destroyed then none
  else
    match operation with
    | .readAsync lengthToRead added => some (fileReadAsync lengthToRead added s).2
    | .abortAsyncRead => some (fileAbortAsyncRead s)
    | .handleAsyncRead result =>
        if s.file.asyncReadEventfd ∈ s.sources then some (fileHandleAsyncRead result s) else none
    | .setEvents events readAdded writeAdded => some (fileSetEvents events readAdded writeAdded s).2
    | .handleReadableEvent =>
        if s.file.type = .pipe ∧ s.file.readHandle ∈ s.sources then
          some (fileHandleReadableEvent s)
        else none
    | .handleWritableEvent =>
        if s.file.type = .pipe ∧ s.file.writeHandle ∈ s.sources then
          some (fileHandleWritableEvent s)
        else none
    | .destroy => some (fileDestroy s)

-- A new File, in an event loop that has no source for its handles.
structure Fresh extends Descriptors where
  sources : Finset IOHandle
  externalReferenceCount : Nat
  async_fresh : asyncReadEventfd ∉ sources
  pipe_fresh : type = .pipe → readHandle ∉ sources ∧ writeHandle ∉ sources

def created (fresh : Fresh) : State :=
  ⟨⟨fresh.toDescriptors, 0, false, 0, fresh.externalReferenceCount⟩, fresh.sources, false, false, []⟩

end Runs

end RedApid.Files

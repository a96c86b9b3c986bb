import RedApid.Files.Events
import RedApid.Trace
import Mathlib.Data.List.OfFn

namespace RedApid.AsyncRead

open Files

section Functions

def FILE_MAX_READ_BUFFER_LENGTH : Nat := 62
def FILE_MAX_WRITE_BUFFER_LENGTH : Nat := 61
def FILE_MAX_WRITE_UNCHECKED_BUFFER_LENGTH : Nat := 61
def FILE_MAX_WRITE_ASYNC_BUFFER_LENGTH : Nat := 61

abbrev Buffer := Fin FILE_MAX_READ_ASYNC_BUFFER_LENGTH → UInt8

def memcpy (bytes : List UInt8) (buffer : Buffer) : Buffer :=
  fun i => bytes.getD i (buffer i)

def memset (start : Nat) (buffer : Buffer) : Buffer :=
  fun i => if i.val < start then buffer i else 0

structure AsyncFileReadCallback where
  errorCode : APIE
  lengthRead : UInt8
  buffer : Buffer

inductive Sender where
  | handler
  | abort
  | request
deriving DecidableEq, Repr

-- `accepted` is the start of a transfer, `returned` are the bytes that a read of the handler has
-- returned, and `io` is a call of one of the functions of the file by somebody else.
inductive Entry where
  | accepted (length : UInt64)
  | returned (bytes : List UInt8)
  | readCallback (sender : Sender) (callback : AsyncFileReadCallback)
  | writeCallback (errorCode : APIE) (lengthWritten : UInt8)
  | io

structure File where
  asyncReadInProgress : Bool
  lengthToReadAsync : UInt64
  externalReferenceCount : Nat

-- `registered` tells whether the event loop polls the eventfd, `packet` is the buffer of the
-- callback that was sent last, and the log has the newest entry at its end.
structure State where
  file : File
  registered : Bool
  packet : Buffer
  log : List Entry

def State.record (entry : Entry) (s : State) : State := { s with log := s.log ++ [entry] }

-- api_send_async_file_read_callback
def apiSendAsyncFileReadCallback (sender : Sender) (errorCode : APIE) (bytes : List UInt8)
    (s : State) : State :=
  let packet := memset bytes.length (memcpy bytes s.packet)
  { s with packet }.record (.readCallback sender ⟨errorCode, bytes.length.toUInt8, packet⟩)

def fileSendAsyncReadCallback (sender : Sender) (errorCode : APIE) (bytes : List UInt8)
    (s : State) : State :=
  if s.file.externalReferenceCount > 0 then apiSendAsyncFileReadCallback sender errorCode bytes s
  else s

def fileSendAsyncWriteCallback (errorCode : APIE) (lengthWritten : UInt8) (s : State) : State :=
  if s.file.externalReferenceCount > 0 then s.record (.writeCallback errorCode lengthWritten)
  else s

def setAsyncRead (inProgress : Bool) (length : UInt64) (s : State) : State :=
  { s with
    file := { s.file with asyncReadInProgress := inProgress, lengthToReadAsync := length } }

def eventRemoveSource (s : State) : State := { s with registered := false }

-- What a function of the file does with its buffer. A read does not return more bytes than there
-- is space for.
inductive ReadResult where
  | data (bytes : List UInt8)
  | interrupted
  | wouldBlock
  | failed (code : APIError)

-- The end of file_handle_async_read.
def asyncReadProgress (bytes : List UInt8) (s : State) : State :=
  let left := s.file.lengthToReadAsync - bytes.length.toUInt64
  let s := s.record (.returned bytes)
  let s :=
    if bytes.length = 0 ∨ left = 0 then eventRemoveSource (setAsyncRead false 0 s)
    else setAsyncRead s.file.asyncReadInProgress left s
  fileSendAsyncReadCallback .handler .success bytes s

def lengthToRead (s : State) : UInt8 :=
  if FILE_MAX_READ_ASYNC_BUFFER_LENGTH.toUInt64 > s.file.lengthToReadAsync then
    s.file.lengthToReadAsync.toUInt8
  else FILE_MAX_READ_ASYNC_BUFFER_LENGTH.toUInt8

def fileHandleAsyncRead (result : ReadResult) (s : State) : State :=
  if ¬s.file.asyncReadInProgress then eventRemoveSource s
  else
    match result with
    | .interrupted => s
    -- not an error, there is just nothing to read
    | .wouldBlock => asyncReadProgress [] s
    | .failed code =>
        fileSendAsyncReadCallback .handler code.val []
          (setAsyncRead false 0 (eventRemoveSource s))
    | .data bytes => asyncReadProgress (bytes.take (lengthToRead s).toNat) s

-- `added` tells whether event_add_source succeeds.
def fileReadAsync (length : UInt64) (added : Bool) (s : State) : PacketE × State :=
  if length.toNat > 9223372036854775807 then
    (.invalidParameter, fileSendAsyncReadCallback .request .outOfRange [] s)
  else if s.file.asyncReadInProgress then
    (.unknownError, fileSendAsyncReadCallback .request .invalidOperation [] s)
  else
    let s := setAsyncRead true length s
    if ¬added then (.unknownError, fileSendAsyncReadCallback .request .internalError [] s)
    else (.success, { s with registered := true }.record (.accepted length))

def fileAbortAsyncRead (s : State) : State :=
  if s.file.asyncReadInProgress then
    fileSendAsyncReadCallback .abort .operationAborted []
      (setAsyncRead false 0 (eventRemoveSource s))
  else s

-- file_read_. The bytes go to the caller.
def fileRead (lengthToRead : UInt8) (result : ReadResult) (s : State) :
    Except APIE (List UInt8) × State :=
  if lengthToRead.toNat > FILE_MAX_READ_BUFFER_LENGTH then (.error .outOfRange, s)
  else if s.file.asyncReadInProgress then (.error .invalidOperation, s)
  else
    match result with
    | .data bytes => (.ok (bytes.take lengthToRead.toNat), s.record .io)
    | .interrupted => (.error .interrupted, s.record .io)
    | .wouldBlock => (.ok [], s.record .io)
    | .failed code => (.error code.val, s.record .io)

-- The number of bytes, or the error code for errno.
abbrev WriteResult := Except APIError UInt8

-- file_write_
def fileWrite (lengthToWrite : UInt8) (result : WriteResult) (s : State) :
    Except APIE UInt8 × State :=
  if lengthToWrite.toNat > FILE_MAX_WRITE_BUFFER_LENGTH then (.error .outOfRange, s)
  else if s.file.asyncReadInProgress then (.error .invalidOperation, s)
  else
    match result with
    | .error code => (.error code.val, s.record .io)
    | .ok lengthWritten => (.ok lengthWritten, s.record .io)

def fileWriteUnchecked (lengthToWrite : UInt8) (result : WriteResult) (s : State) :
    PacketE × State :=
  if lengthToWrite.toNat > FILE_MAX_WRITE_UNCHECKED_BUFFER_LENGTH then (.invalidParameter, s)
  else if s.file.asyncReadInProgress then (.unknownError, s)
  else
    match result with
    | .error _ => (.unknownError, s.record .io)
    | .ok _ => (.success, s.record .io)

def fileWriteAsync (lengthToWrite : UInt8) (result : WriteResult) (s : State) :
    PacketE × State :=
  if lengthToWrite.toNat > FILE_MAX_WRITE_ASYNC_BUFFER_LENGTH then
    (.invalidParameter, fileSendAsyncWriteCallback .outOfRange 0 s)
  else if s.file.asyncReadInProgress then
    (.unknownError, fileSendAsyncWriteCallback .invalidOperation 0 s)
  else
    match result with
    | .error code => (.unknownError, fileSendAsyncWriteCallback code.val 0 (s.record .io))
    | .ok lengthWritten => (.success, fileSendAsyncWriteCallback .success lengthWritten (s.record .io))

def fileSetPosition (origin : UInt8) (result : Except APIError UInt64) (s : State) :
    Except APIE UInt64 × State :=
  if origin.toNat > 2 then (.error .invalidParameter, s)
  else if s.file.asyncReadInProgress then (.error .invalidOperation, s)
  else
    match result with
    | .error code => (.error code.val, s.record .io)
    | .ok position => (.ok position, s.record .io)

inductive Event where
  | handleAsyncRead (result : ReadResult)
  | readAsync (length : UInt64) (added : Bool)
  | abortAsyncRead
  | read (lengthToRead : UInt8) (result : ReadResult)
  | write (lengthToWrite : UInt8) (result : WriteResult)
  | writeUnchecked (lengthToWrite : UInt8) (result : WriteResult)
  | writeAsync (lengthToWrite : UInt8) (result : WriteResult)
  | setPosition (origin : UInt8) (result : Except APIError UInt64)

-- The event loop calls the handler of a registered eventfd only.
def next (s : State) : Event → Option State
  | .handleAsyncRead result => if s.registered then some (fileHandleAsyncRead result s) else none
  | .readAsync length added => some (fileReadAsync length added s).2
  | .abortAsyncRead => some (fileAbortAsyncRead s)
  | .read lengthToRead result => some (fileRead lengthToRead result s).2
  | .write lengthToWrite result => some (fileWrite lengthToWrite result s).2
  | .writeUnchecked lengthToWrite result => some (fileWriteUnchecked lengthToWrite result s).2
  | .writeAsync lengthToWrite result => some (fileWriteAsync lengthToWrite result s).2
  | .setPosition origin result => some (fileSetPosition origin result s).2

end Functions

section Specification

def AsyncFileReadCallback.bytes (callback : AsyncFileReadCallback) : List UInt8 :=
  (List.ofFn callback.buffer).take callback.lengthRead.toNat

-- What an entry delivers to the client, and what it took from the file.
def Entry.delivered : Entry → List UInt8
  | .readCallback .handler callback =>
      if callback.errorCode = .success then callback.bytes else []
  | _ => []

def Entry.returnedBytes : Entry → List UInt8
  | .returned bytes => bytes
  | _ => []

-- A transfer goes on until somebody tries to start the next one.
def Entry.begins : Entry → Bool
  | .accepted _ => true
  | .readCallback .request callback => callback.errorCode = .internalError
  | _ => false

-- The entries of the first transfer in a log.
def transfer (log : List Entry) : List Entry := log.tail.takeWhile fun entry => !entry.begins

-- The entry ends a transfer that has done what is in front of it.
def Ends (length : UInt64) (front : List Entry) : Entry → Prop
  | .readCallback .handler callback =>
      callback.errorCode ≠ .success ∨ callback.lengthRead = 0 ∨
        (front.flatMap Entry.delivered).length + callback.lengthRead.toNat = length.toNat
  | .readCallback .abort callback => callback.errorCode = .operationAborted
  | _ => False

def Ended (length : UInt64) (entries : List Entry) : Prop :=
  ∃ front entry back, entries = front ++ entry :: back ∧ Ends length front entry

-- Entries of the transfer itself.
def Entry.transfers : Entry → Prop
  | .returned _ => True
  | .readCallback .handler _ => True
  | .readCallback .abort _ => True
  | _ => False

structure TransferExact (length : UInt64) (s : State) : Prop where
  starts : s.log.head?.map Entry.begins = some true
  delivered :
    (transfer s.log).flatMap Entry.delivered = (transfer s.log).flatMap Entry.returnedBytes
  total : ((transfer s.log).flatMap Entry.delivered).length ≤ length.toNat
  callbacks : ∀ sender callback, .readCallback sender callback ∈ transfer s.log →
    callback.lengthRead.toNat ≤ FILE_MAX_READ_ASYNC_BUFFER_LENGTH ∧
      ∀ i, callback.lengthRead.toNat ≤ i.val → callback.buffer i = 0
  -- the transfer is in progress unless one of these entries has ended it
  active : ¬Ended length (transfer s.log) →
    transfer s.log = s.log.tail ∧ s.file.asyncReadInProgress = true ∧ s.registered = true ∧
      s.file.lengthToReadAsync.toNat + ((transfer s.log).flatMap Entry.delivered).length =
        length.toNat ∧ .io ∉ transfer s.log
  -- afterwards nothing of it follows
  ended : ∀ front entry back, transfer s.log = front ++ entry :: back → Ends length front entry →
    (∀ other ∈ back, ¬other.transfers) ∧
      (transfer s.log = s.log.tail → s.file.asyncReadInProgress = false ∧
        s.file.lengthToReadAsync = 0 ∧ s.registered = false)

-- The error code and the bytes of a callback of the transfer.
def Entry.answer : Entry → Option (APIE × List UInt8)
  | .readCallback .handler callback => some (callback.errorCode, callback.bytes)
  | .readCallback .abort callback => some (callback.errorCode, callback.bytes)
  | _ => none

-- What the client has to get for an event: the bytes that the read returns, the error of the read,
-- or that the transfer is aborted.
def Event.answer (s : State) : Event → List (APIE × List UInt8)
  | .handleAsyncRead .interrupted => []
  | .handleAsyncRead .wouldBlock => [(.success, [])]
  | .handleAsyncRead (.failed code) => [(code.val, [])]
  | .handleAsyncRead (.data bytes) =>
      [(.success,
        bytes.take (min FILE_MAX_READ_ASYNC_BUFFER_LENGTH s.file.lengthToReadAsync.toNat))]
  | .abortAsyncRead => if s.file.asyncReadInProgress then [(.operationAborted, [])] else []
  | _ => []

-- An event adds its answer to the log and nothing else of a transfer.
def Answered (s : State) (event : Event) (s' : State) : Prop :=
  ∃ entries, s'.log = s.log ++ entries ∧ entries.filterMap Entry.answer = event.answer s ∧
    entries.flatMap Entry.returnedBytes = (event.answer s).flatMap Prod.snd

end Specification

end RedApid.AsyncRead

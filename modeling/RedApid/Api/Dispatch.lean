import RedApid.Api.Packets
import RedApid.Store.Inventory

namespace RedApid

open ByteStream

-- packet.h of daemonlib, in the order of the numbers
inductive PacketE where
  | success
  | invalidParameter
  | functionNotSupported
  | unknownError
deriving DecidableEq, Repr

def PacketE.number : PacketE → BitVec 2
  | success => 0
  | invalidParameter => 1
  | functionNotSupported => 2
  | unknownError => 3

-- api_error.h
def APIE.number (code : APIE) : UInt8 :=
  (if code.ctorIdx < 13 then code.ctorIdx else code.ctorIdx - 13 + 128).toUInt8

-- The bytes of the members of a packet.
abbrev Members := MemberName → List UInt8

def Members.zero : Members := fun _ => []

def Members.set (members : Members) (name : MemberName) (bytes : List UInt8) : Members :=
  Function.update members name bytes

def Members.get (members : Members) (name : MemberName) : Nat := littleEndian (members name)

-- A callback before it gets its header.
structure APICallback where
  id : APIFunctionID
  members : Members

-- What the macros look up before a body runs: the object with the ID in a member of the request, of
-- one of these types, and the session.
structure Lookup where
  object : Option (List ObjectType × MemberName)
  session : Bool

-- The bodies of the functions and procedures, with everything they do. A procedure has only a
-- packet error code to return.
structure APIBodies (σ : Type) where
  store : σ → Store
  function : APIFunctionID → Members → Option ObjectRef → Option SessionRef → σ →
    (APIE × Members) × List APICallback × σ
  procedure : APIFunctionID → Members → Option ObjectRef → Option SessionRef → σ →
    PacketE × List APICallback × σ

section Packets

def apiPrepareResponse (request : Packet) (length : Nat) : PacketHeader where
  uid := request.header.uid
  length := length.toUInt8
  functionId := request.header.functionId
  sequenceNumber := request.header.sequenceNumber
  responseExpected := true
  errorCode := PacketE.success.number

def apiPrepareCallback (uid : UInt32) (length : Nat) (id : APIFunctionID) : PacketHeader where
  uid := uid
  length := length.toUInt8
  functionId := id.number
  sequenceNumber := 0
  responseExpected := true
  errorCode := PacketE.success.number

def apiSendResponseIfExpected (request : Packet) (code : PacketE) : List Packet :=
  if !request.header.responseExpected then []
  else [⟨{ apiPrepareResponse request 8 with errorCode := code.number }, []⟩]

def apiGetPacketErrorCode (code : APIE) : PacketE :=
  if code = .invalidParameter ∨ code = .unknownObjectId then .invalidParameter
  else if code ≠ .success then .unknownError
  else .success

-- The api_send_ functions of the callbacks.
def APICallback.packet (uid : UInt32) (callback : APICallback) : Packet :=
  ⟨apiPrepareCallback uid (APIFunctionID.sizeofPacket callback.id.response) callback.id,
    Record.pack callback.id.response callback.members⟩

end Packets

namespace APIFunctionID

-- By the CALL_ macro that the function is written with.
def lookup : APIFunctionID → Lookup
  | .releaseObject | .releaseObjectUnchecked => ⟨some (ObjectType.all, .objectId), true⟩
  | .expireSession | .expireSessionUnchecked | .keepSessionAlive | .allocateString | .allocateList
  | .openFile | .createPipe | .openDirectory | .getProcesses | .spawnProcess | .getPrograms
  | .defineProgram => ⟨none, true⟩
  | .truncateString | .getStringLength | .setStringChunk | .getStringChunk =>
      ⟨some ([.string], .stringId), false⟩
  | .createDirectory => ⟨some ([.string], .nameStringId), false⟩
  | .getListLength | .appendToList | .removeFromList => ⟨some ([.list], .listId), false⟩
  | .getListItem => ⟨some ([.list], .listId), true⟩
  | .readFile | .readFileAsync | .abortAsyncFileRead | .writeFile | .writeFileUnchecked
  | .writeFileAsync | .setFilePosition | .getFilePosition | .setFileEvents | .getFileEvents =>
      ⟨some ([.file], .fileId), false⟩
  | .getFileInfo => ⟨some ([.file], .fileId), true⟩
  | .rewindDirectory => ⟨some ([.directory], .directoryId), false⟩
  | .getDirectoryName | .getNextDirectoryEntry => ⟨some ([.directory], .directoryId), true⟩
  | .killProcess | .getProcessIdentity | .getProcessState =>
      ⟨some ([.process], .processId), false⟩
  | .getProcessCommand | .getProcessStdio => ⟨some ([.process], .processId), true⟩
  | .purgeProgram | .setProgramCommand | .setProgramStdioRedirection | .setProgramSchedule
  | .continueProgramSchedule | .startProgram | .setCustomProgramOptionValue
  | .removeCustomProgramOption => ⟨some ([.program], .programId), false⟩
  | .getProgramIdentifier | .getProgramRootDirectory | .getProgramCommand
  | .getProgramStdioRedirection | .getProgramSchedule | .getProgramSchedulerState
  | .getLastSpawnedProgramProcess | .getCustomProgramOptionNames | .getCustomProgramOptionValue =>
      ⟨some ([.program], .programId), true⟩
  | .createSession | .getIdentity | .asyncFileRead | .asyncFileWrite | .fileEventsOccurred
  | .processStateChanged | .programSchedulerStateChanged | .programProcessSpawned => ⟨none, false⟩

-- The error handlers of the procedures.
-- FIXME: this callback should be delivered after the response of this function
def errorHandler (id : APIFunctionID) (members : Members) (code : APIE) : List APICallback :=
  let callback := (Members.zero.set .fileId (members .fileId)).set .errorCode [code.number]
  match id with
  | .readFileAsync => [⟨.asyncFileRead, callback⟩]
  | .writeFileAsync => [⟨.asyncFileWrite, callback⟩]
  | _ => []

end APIFunctionID

section Functions

variable {σ : Type} (uid : UInt32) (bodies : APIBodies σ)

def Lookup.objectOf (lookup : Lookup) (members : Members) (store : Store) :
    Except APIE (Option ObjectRef) :=
  match lookup.object with
  | none => .ok none
  | some (types, name) => (inventoryGetObject types (members.get name).toUInt16 store).map some

def Lookup.sessionOf (lookup : Lookup) (members : Members) (store : Store) :
    Except APIE (Option SessionRef) :=
  if lookup.session then (inventoryGetSession (members.get .sessionId).toUInt16 store).map some
  else .ok none

-- The session is looked up after the object.
def Lookup.find (lookup : Lookup) (members : Members) (store : Store) :
    Except APIE (Option ObjectRef × Option SessionRef) :=
  match lookup.objectOf members store with
  | .error code => .error code
  | .ok object => (lookup.sessionOf members store).map fun session => (object, session)

-- The response as the macros leave it: zero but for what was put into it.
def apiResponse (id : APIFunctionID) (request : Packet) (code : APIE) (members : Members) : Packet :=
  ⟨apiPrepareResponse request (APIFunctionID.sizeofPacket id.response),
    Record.pack id.response (members.set .errorCode [code.number])⟩

def callFunction (id : APIFunctionID) (request : Packet) (members : Members) (state : σ) :
    List Packet × σ :=
  match id.lookup.find members (bodies.store state) with
  | .error code => ([apiResponse id request code .zero], state)
  | .ok (object, session) =>
      let ((code, response), callbacks, state) := bodies.function id members object session state
      (callbacks.map (APICallback.packet uid) ++ [apiResponse id request code response], state)

def callProcedure (id : APIFunctionID) (request : Packet) (members : Members) (state : σ) :
    List Packet × σ :=
  match id.lookup.find members (bodies.store state) with
  | .error code =>
      ((id.errorHandler members code).map (APICallback.packet uid) ++
        apiSendResponseIfExpected request (apiGetPacketErrorCode code), state)
  | .ok (object, session) =>
      let (code, callbacks, state) := bodies.procedure id members object session state
      (callbacks.map (APICallback.packet uid) ++ apiSendResponseIfExpected request code, state)

-- The packets in the order in which network_dispatch_response gets them.
def apiHandleRequest (request : Packet) (state : σ) : List Packet × σ :=
  match APIFunctionID.dispatched.find? fun id => id.number = request.header.functionId with
  | none => (apiSendResponseIfExpected request .functionNotSupported, state)
  | some id =>
      if request.header.length.toNat ≠ APIFunctionID.sizeofPacket id.request then
        (apiSendResponseIfExpected request .invalidParameter, state)
      else
        let members : Members := fun name => Record.member name id.request request.payload
        if id.IsFunction then callFunction uid bodies id request members state
        else callProcedure uid bodies id request members state

end Functions

end RedApid

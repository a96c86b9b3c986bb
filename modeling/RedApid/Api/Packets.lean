import RedApid.Api.Header
import RedApid.ByteStream.Record
import RedApid.Files.AsyncRead
import RedApid.Store.Payload

namespace RedApid

open ByteStream
open Files (FILE_MAX_READ_ASYNC_BUFFER_LENGTH)
open AsyncRead (FILE_MAX_READ_BUFFER_LENGTH FILE_MAX_WRITE_BUFFER_LENGTH
  FILE_MAX_WRITE_UNCHECKED_BUFFER_LENGTH FILE_MAX_WRITE_ASYNC_BUFFER_LENGTH)

-- APIFunctionID, and the function ID of get_identity.
inductive APIFunctionID where
  | createSession | expireSession | expireSessionUnchecked | keepSessionAlive | releaseObject
  | releaseObjectUnchecked | allocateString | truncateString | getStringLength | setStringChunk
  | getStringChunk | allocateList | getListLength | getListItem | appendToList | removeFromList
  | openFile | createPipe | getFileInfo | readFile | readFileAsync | abortAsyncFileRead | writeFile
  | writeFileUnchecked | writeFileAsync | setFilePosition | getFilePosition | setFileEvents
  | getFileEvents | asyncFileRead | asyncFileWrite | fileEventsOccurred | openDirectory
  | getDirectoryName | getNextDirectoryEntry | rewindDirectory | createDirectory | getProcesses
  | spawnProcess | killProcess | getProcessCommand | getProcessIdentity | getProcessStdio
  | getProcessState | processStateChanged | getPrograms | defineProgram | purgeProgram
  | getProgramIdentifier | getProgramRootDirectory | setProgramCommand | getProgramCommand
  | setProgramStdioRedirection | getProgramStdioRedirection | setProgramSchedule
  | getProgramSchedule | getProgramSchedulerState | continueProgramSchedule | startProgram
  | getLastSpawnedProgramProcess | getCustomProgramOptionNames | setCustomProgramOptionValue
  | getCustomProgramOptionValue | removeCustomProgramOption | programSchedulerStateChanged
  | programProcessSpawned | getIdentity
deriving DecidableEq, Repr

-- The members of the packets behind their headers.
inductive MemberName where
  | lifetime | errorCode | sessionId | objectId | lengthToReserve | buffer | stringId | length
  | offset | listId | index | itemObjectId | type | nameStringId | flags | permissions | uid | gid
  | fileId | accessTimestamp | modificationTimestamp | statusChangeTimestamp | lengthToRead
  | lengthRead | lengthToWrite | lengthWritten | origin | position | events | directoryId
  | processesListId | executableStringId | argumentsListId | environmentListId
  | workingDirectoryStringId | stdinFileId | stdoutFileId | stderrFileId | processId | signal | pid
  | state | timestamp | exitCode | programsListId | identifierStringId | programId | cookie
  | rootDirectoryStringId | stdinRedirection | stdinFileNameStringId | stdoutRedirection
  | stdoutFileNameStringId | stderrRedirection | stderrFileNameStringId | startMode
  | continueAfterError | startInterval | startFieldsStringId | messageStringId | namesListId
  | valueStringId | connectedUid | hardwareVersion | firmwareVersion | deviceIdentifier
deriving DecidableEq, Repr

-- What the types of the members take.
def uint8_t : Nat := 1
def uint16_t : Nat := 2
def uint32_t : Nat := 4
def uint64_t : Nat := 8
def int64_t : Nat := 8
def char : Nat := 1
def tfpbool : Nat := 1

-- A function has a response of its own, a procedure has an empty one, a callback is only sent.
inductive APIKind where
  | function (request response : List (Member MemberName))
  | procedure (request : List (Member MemberName))
  | callback (members : List (Member MemberName))

namespace APIFunctionID

-- api_packet.h
def kind : APIFunctionID → APIKind
  | .createSession => .function [⟨.lifetime, uint32_t⟩] [⟨.errorCode, uint8_t⟩,
      ⟨.sessionId, uint16_t⟩]
  | .expireSession => .function [⟨.sessionId, uint16_t⟩] [⟨.errorCode, uint8_t⟩]
  | .expireSessionUnchecked => .procedure [⟨.sessionId, uint16_t⟩]
  | .keepSessionAlive => .function [⟨.sessionId, uint16_t⟩, ⟨.lifetime, uint32_t⟩]
      [⟨.errorCode, uint8_t⟩]
  | .releaseObject => .function [⟨.objectId, uint16_t⟩, ⟨.sessionId, uint16_t⟩]
      [⟨.errorCode, uint8_t⟩]
  | .releaseObjectUnchecked => .procedure [⟨.objectId, uint16_t⟩, ⟨.sessionId, uint16_t⟩]
  | .allocateString => .function [⟨.lengthToReserve, uint32_t⟩,
      ⟨.buffer, STRING_MAX_ALLOCATE_BUFFER_LENGTH⟩, ⟨.sessionId, uint16_t⟩] [⟨.errorCode, uint8_t⟩,
      ⟨.stringId, uint16_t⟩]
  | .truncateString => .function [⟨.stringId, uint16_t⟩, ⟨.length, uint32_t⟩]
      [⟨.errorCode, uint8_t⟩]
  | .getStringLength => .function [⟨.stringId, uint16_t⟩] [⟨.errorCode, uint8_t⟩,
      ⟨.length, uint32_t⟩]
  | .setStringChunk => .function [⟨.stringId, uint16_t⟩, ⟨.offset, uint32_t⟩,
      ⟨.buffer, STRING_MAX_SET_CHUNK_BUFFER_LENGTH⟩] [⟨.errorCode, uint8_t⟩]
  | .getStringChunk => .function [⟨.stringId, uint16_t⟩, ⟨.offset, uint32_t⟩]
      [⟨.errorCode, uint8_t⟩, ⟨.buffer, STRING_MAX_GET_CHUNK_BUFFER_LENGTH⟩]
  | .allocateList => .function [⟨.lengthToReserve, uint16_t⟩, ⟨.sessionId, uint16_t⟩]
      [⟨.errorCode, uint8_t⟩, ⟨.listId, uint16_t⟩]
  | .getListLength => .function [⟨.listId, uint16_t⟩] [⟨.errorCode, uint8_t⟩, ⟨.length, uint16_t⟩]
  | .getListItem => .function [⟨.listId, uint16_t⟩, ⟨.index, uint16_t⟩, ⟨.sessionId, uint16_t⟩]
      [⟨.errorCode, uint8_t⟩, ⟨.itemObjectId, uint16_t⟩, ⟨.type, uint8_t⟩]
  | .appendToList => .function [⟨.listId, uint16_t⟩, ⟨.itemObjectId, uint16_t⟩]
      [⟨.errorCode, uint8_t⟩]
  | .removeFromList => .function [⟨.listId, uint16_t⟩, ⟨.index, uint16_t⟩] [⟨.errorCode, uint8_t⟩]
  | .openFile => .function [⟨.nameStringId, uint16_t⟩, ⟨.flags, uint32_t⟩, ⟨.permissions, uint16_t⟩,
      ⟨.uid, uint32_t⟩, ⟨.gid, uint32_t⟩, ⟨.sessionId, uint16_t⟩] [⟨.errorCode, uint8_t⟩,
      ⟨.fileId, uint16_t⟩]
  | .createPipe => .function [⟨.flags, uint32_t⟩, ⟨.length, uint64_t⟩, ⟨.sessionId, uint16_t⟩]
      [⟨.errorCode, uint8_t⟩, ⟨.fileId, uint16_t⟩]
  | .getFileInfo => .function [⟨.fileId, uint16_t⟩, ⟨.sessionId, uint16_t⟩] [⟨.errorCode, uint8_t⟩,
      ⟨.type, uint8_t⟩, ⟨.nameStringId, uint16_t⟩, ⟨.flags, uint32_t⟩, ⟨.permissions, uint16_t⟩,
      ⟨.uid, uint32_t⟩, ⟨.gid, uint32_t⟩, ⟨.length, uint64_t⟩, ⟨.accessTimestamp, uint64_t⟩,
      ⟨.modificationTimestamp, uint64_t⟩, ⟨.statusChangeTimestamp, uint64_t⟩]
  | .readFile => .function [⟨.fileId, uint16_t⟩, ⟨.lengthToRead, uint8_t⟩] [⟨.errorCode, uint8_t⟩,
      ⟨.buffer, FILE_MAX_READ_BUFFER_LENGTH⟩, ⟨.lengthRead, uint8_t⟩]
  | .readFileAsync => .procedure [⟨.fileId, uint16_t⟩, ⟨.lengthToRead, uint64_t⟩]
  | .abortAsyncFileRead => .function [⟨.fileId, uint16_t⟩] [⟨.errorCode, uint8_t⟩]
  | .writeFile => .function [⟨.fileId, uint16_t⟩, ⟨.buffer, FILE_MAX_WRITE_BUFFER_LENGTH⟩,
      ⟨.lengthToWrite, uint8_t⟩] [⟨.errorCode, uint8_t⟩, ⟨.lengthWritten, uint8_t⟩]
  | .writeFileUnchecked => .procedure [⟨.fileId, uint16_t⟩,
      ⟨.buffer, FILE_MAX_WRITE_UNCHECKED_BUFFER_LENGTH⟩, ⟨.lengthToWrite, uint8_t⟩]
  | .writeFileAsync => .procedure [⟨.fileId, uint16_t⟩,
      ⟨.buffer, FILE_MAX_WRITE_ASYNC_BUFFER_LENGTH⟩, ⟨.lengthToWrite, uint8_t⟩]
  | .setFilePosition => .function [⟨.fileId, uint16_t⟩, ⟨.offset, int64_t⟩, ⟨.origin, uint8_t⟩]
      [⟨.errorCode, uint8_t⟩, ⟨.position, uint64_t⟩]
  | .getFilePosition => .function [⟨.fileId, uint16_t⟩] [⟨.errorCode, uint8_t⟩,
      ⟨.position, uint64_t⟩]
  | .setFileEvents => .function [⟨.fileId, uint16_t⟩, ⟨.events, uint16_t⟩] [⟨.errorCode, uint8_t⟩]
  | .getFileEvents => .function [⟨.fileId, uint16_t⟩] [⟨.errorCode, uint8_t⟩, ⟨.events, uint16_t⟩]
  | .asyncFileRead => .callback [⟨.fileId, uint16_t⟩, ⟨.errorCode, uint8_t⟩,
      ⟨.buffer, FILE_MAX_READ_ASYNC_BUFFER_LENGTH⟩, ⟨.lengthRead, uint8_t⟩]
  | .asyncFileWrite => .callback [⟨.fileId, uint16_t⟩, ⟨.errorCode, uint8_t⟩,
      ⟨.lengthWritten, uint8_t⟩]
  | .fileEventsOccurred => .callback [⟨.fileId, uint16_t⟩, ⟨.events, uint16_t⟩]
  | .openDirectory => .function [⟨.nameStringId, uint16_t⟩, ⟨.sessionId, uint16_t⟩]
      [⟨.errorCode, uint8_t⟩, ⟨.directoryId, uint16_t⟩]
  | .getDirectoryName => .function [⟨.directoryId, uint16_t⟩, ⟨.sessionId, uint16_t⟩]
      [⟨.errorCode, uint8_t⟩, ⟨.nameStringId, uint16_t⟩]
  | .getNextDirectoryEntry => .function [⟨.directoryId, uint16_t⟩, ⟨.sessionId, uint16_t⟩]
      [⟨.errorCode, uint8_t⟩, ⟨.nameStringId, uint16_t⟩, ⟨.type, uint8_t⟩]
  | .rewindDirectory => .function [⟨.directoryId, uint16_t⟩] [⟨.errorCode, uint8_t⟩]
  | .createDirectory => .function [⟨.nameStringId, uint16_t⟩, ⟨.flags, uint32_t⟩,
      ⟨.permissions, uint16_t⟩, ⟨.uid, uint32_t⟩, ⟨.gid, uint32_t⟩] [⟨.errorCode, uint8_t⟩]
  | .getProcesses => .function [⟨.sessionId, uint16_t⟩] [⟨.errorCode, uint8_t⟩,
      ⟨.processesListId, uint16_t⟩]
  | .spawnProcess => .function [⟨.executableStringId, uint16_t⟩, ⟨.argumentsListId, uint16_t⟩,
      ⟨.environmentListId, uint16_t⟩, ⟨.workingDirectoryStringId, uint16_t⟩, ⟨.uid, uint32_t⟩,
      ⟨.gid, uint32_t⟩, ⟨.stdinFileId, uint16_t⟩, ⟨.stdoutFileId, uint16_t⟩,
      ⟨.stderrFileId, uint16_t⟩, ⟨.sessionId, uint16_t⟩] [⟨.errorCode, uint8_t⟩,
      ⟨.processId, uint16_t⟩]
  | .killProcess => .function [⟨.processId, uint16_t⟩, ⟨.signal, uint8_t⟩] [⟨.errorCode, uint8_t⟩]
  | .getProcessCommand => .function [⟨.processId, uint16_t⟩, ⟨.sessionId, uint16_t⟩]
      [⟨.errorCode, uint8_t⟩, ⟨.executableStringId, uint16_t⟩, ⟨.argumentsListId, uint16_t⟩,
      ⟨.environmentListId, uint16_t⟩, ⟨.workingDirectoryStringId, uint16_t⟩]
  | .getProcessIdentity => .function [⟨.processId, uint16_t⟩] [⟨.errorCode, uint8_t⟩,
      ⟨.pid, uint32_t⟩, ⟨.uid, uint32_t⟩, ⟨.gid, uint32_t⟩]
  | .getProcessStdio => .function [⟨.processId, uint16_t⟩, ⟨.sessionId, uint16_t⟩]
      [⟨.errorCode, uint8_t⟩, ⟨.stdinFileId, uint16_t⟩, ⟨.stdoutFileId, uint16_t⟩,
      ⟨.stderrFileId, uint16_t⟩]
  | .getProcessState => .function [⟨.processId, uint16_t⟩] [⟨.errorCode, uint8_t⟩,
      ⟨.state, uint8_t⟩, ⟨.timestamp, uint64_t⟩, ⟨.exitCode, uint8_t⟩]
  | .processStateChanged => .callback [⟨.processId, uint16_t⟩, ⟨.state, uint8_t⟩,
      ⟨.timestamp, uint64_t⟩, ⟨.exitCode, uint8_t⟩]
  | .getPrograms => .function [⟨.sessionId, uint16_t⟩] [⟨.errorCode, uint8_t⟩,
      ⟨.programsListId, uint16_t⟩]
  | .defineProgram => .function [⟨.identifierStringId, uint16_t⟩, ⟨.sessionId, uint16_t⟩]
      [⟨.errorCode, uint8_t⟩, ⟨.programId, uint16_t⟩]
  | .purgeProgram => .function [⟨.programId, uint16_t⟩, ⟨.cookie, uint32_t⟩] [⟨.errorCode, uint8_t⟩]
  | .getProgramIdentifier => .function [⟨.programId, uint16_t⟩, ⟨.sessionId, uint16_t⟩]
      [⟨.errorCode, uint8_t⟩, ⟨.identifierStringId, uint16_t⟩]
  | .getProgramRootDirectory => .function [⟨.programId, uint16_t⟩, ⟨.sessionId, uint16_t⟩]
      [⟨.errorCode, uint8_t⟩, ⟨.rootDirectoryStringId, uint16_t⟩]
  | .setProgramCommand => .function [⟨.programId, uint16_t⟩, ⟨.executableStringId, uint16_t⟩,
      ⟨.argumentsListId, uint16_t⟩, ⟨.environmentListId, uint16_t⟩,
      ⟨.workingDirectoryStringId, uint16_t⟩] [⟨.errorCode, uint8_t⟩]
  | .getProgramCommand => .function [⟨.programId, uint16_t⟩, ⟨.sessionId, uint16_t⟩]
      [⟨.errorCode, uint8_t⟩, ⟨.executableStringId, uint16_t⟩, ⟨.argumentsListId, uint16_t⟩,
      ⟨.environmentListId, uint16_t⟩, ⟨.workingDirectoryStringId, uint16_t⟩]
  | .setProgramStdioRedirection => .function [⟨.programId, uint16_t⟩, ⟨.stdinRedirection, uint8_t⟩,
      ⟨.stdinFileNameStringId, uint16_t⟩, ⟨.stdoutRedirection, uint8_t⟩,
      ⟨.stdoutFileNameStringId, uint16_t⟩, ⟨.stderrRedirection, uint8_t⟩,
      ⟨.stderrFileNameStringId, uint16_t⟩] [⟨.errorCode, uint8_t⟩]
  | .getProgramStdioRedirection => .function [⟨.programId, uint16_t⟩, ⟨.sessionId, uint16_t⟩]
      [⟨.errorCode, uint8_t⟩, ⟨.stdinRedirection, uint8_t⟩, ⟨.stdinFileNameStringId, uint16_t⟩,
      ⟨.stdoutRedirection, uint8_t⟩, ⟨.stdoutFileNameStringId, uint16_t⟩,
      ⟨.stderrRedirection, uint8_t⟩, ⟨.stderrFileNameStringId, uint16_t⟩]
  | .setProgramSchedule => .function [⟨.programId, uint16_t⟩, ⟨.startMode, uint8_t⟩,
      ⟨.continueAfterError, tfpbool⟩, ⟨.startInterval, uint32_t⟩, ⟨.startFieldsStringId, uint16_t⟩]
      [⟨.errorCode, uint8_t⟩]
  | .getProgramSchedule => .function [⟨.programId, uint16_t⟩, ⟨.sessionId, uint16_t⟩]
      [⟨.errorCode, uint8_t⟩, ⟨.startMode, uint8_t⟩, ⟨.continueAfterError, tfpbool⟩,
      ⟨.startInterval, uint32_t⟩, ⟨.startFieldsStringId, uint16_t⟩]
  | .getProgramSchedulerState => .function [⟨.programId, uint16_t⟩, ⟨.sessionId, uint16_t⟩]
      [⟨.errorCode, uint8_t⟩, ⟨.state, uint8_t⟩, ⟨.timestamp, uint64_t⟩,
      ⟨.messageStringId, uint16_t⟩]
  | .continueProgramSchedule => .function [⟨.programId, uint16_t⟩] [⟨.errorCode, uint8_t⟩]
  | .startProgram => .function [⟨.programId, uint16_t⟩] [⟨.errorCode, uint8_t⟩]
  | .getLastSpawnedProgramProcess => .function [⟨.programId, uint16_t⟩, ⟨.sessionId, uint16_t⟩]
      [⟨.errorCode, uint8_t⟩, ⟨.processId, uint16_t⟩, ⟨.timestamp, uint64_t⟩]
  | .getCustomProgramOptionNames => .function [⟨.programId, uint16_t⟩, ⟨.sessionId, uint16_t⟩]
      [⟨.errorCode, uint8_t⟩, ⟨.namesListId, uint16_t⟩]
  | .setCustomProgramOptionValue => .function [⟨.programId, uint16_t⟩, ⟨.nameStringId, uint16_t⟩,
      ⟨.valueStringId, uint16_t⟩] [⟨.errorCode, uint8_t⟩]
  | .getCustomProgramOptionValue => .function [⟨.programId, uint16_t⟩, ⟨.nameStringId, uint16_t⟩,
      ⟨.sessionId, uint16_t⟩] [⟨.errorCode, uint8_t⟩, ⟨.valueStringId, uint16_t⟩]
  | .removeCustomProgramOption => .function [⟨.programId, uint16_t⟩, ⟨.nameStringId, uint16_t⟩]
      [⟨.errorCode, uint8_t⟩]
  | .programSchedulerStateChanged => .callback [⟨.programId, uint16_t⟩]
  | .programProcessSpawned => .callback [⟨.programId, uint16_t⟩]
  | .getIdentity => .function [] [⟨.uid, 8⟩, ⟨.connectedUid, 8⟩, ⟨.position, char⟩,
      ⟨.hardwareVersion, 3⟩, ⟨.firmwareVersion, 3⟩, ⟨.deviceIdentifier, uint16_t⟩]

def number : APIFunctionID → UInt8
  | .getIdentity => 255
  | id => (id.ctorIdx + 1).toUInt8

-- The cases of the switch in api_handle_request.
def dispatched : List APIFunctionID :=
  [.createSession, .expireSession, .expireSessionUnchecked, .keepSessionAlive, .releaseObject,
    .releaseObjectUnchecked, .allocateString, .truncateString, .getStringLength, .setStringChunk,
    .getStringChunk, .allocateList, .getListLength, .getListItem, .appendToList, .removeFromList,
    .openFile, .createPipe, .getFileInfo, .readFile, .readFileAsync, .abortAsyncFileRead,
    .writeFile, .writeFileUnchecked, .writeFileAsync, .setFilePosition, .getFilePosition,
    .setFileEvents, .getFileEvents, .openDirectory, .getDirectoryName, .getNextDirectoryEntry,
    .rewindDirectory, .createDirectory, .getProcesses, .spawnProcess, .killProcess,
    .getProcessCommand, .getProcessIdentity, .getProcessStdio, .getProcessState, .getPrograms,
    .defineProgram, .purgeProgram, .getProgramIdentifier, .getProgramRootDirectory,
    .setProgramCommand, .getProgramCommand, .setProgramStdioRedirection,
    .getProgramStdioRedirection, .setProgramSchedule, .getProgramSchedule,
    .getProgramSchedulerState, .continueProgramSchedule, .startProgram,
    .getLastSpawnedProgramProcess, .getCustomProgramOptionNames, .setCustomProgramOptionValue,
    .getCustomProgramOptionValue, .removeCustomProgramOption, .getIdentity]

-- The members of a request behind the header.
def request (id : APIFunctionID) : List (Member MemberName) :=
  match id.kind with
  | .function request _ => request
  | .procedure request => request
  | .callback _ => []

-- The members of what is sent.
def response (id : APIFunctionID) : List (Member MemberName) :=
  match id.kind with
  | .function _ response => response
  | .procedure _ => []
  | .callback members => members

-- sizeof of a packet
def sizeofPacket (members : List (Member MemberName)) : Nat := 8 + Record.size members

def IsFunction (id : APIFunctionID) : Prop :=
  match id.kind with
  | .function _ _ => True
  | _ => False

instance : DecidablePred IsFunction := fun id => by
  unfold IsFunction
  cases id.kind <;> infer_instance

-- No packet is too long for its header or for the buffers.
theorem sizeofPacket_le (id : APIFunctionID) :
    sizeofPacket id.request ≤ 72 ∧ sizeofPacket id.response ≤ 72 := by
  cases id <;> decide

theorem request_nodup (id : APIFunctionID) : (id.request.map Member.name).Nodup := by
  cases id <;> decide

theorem response_nodup (id : APIFunctionID) : (id.response.map Member.name).Nodup := by
  cases id <;> decide

theorem dispatched_nodup : (dispatched.map number).Nodup := by decide

theorem number_ne_zero (id : APIFunctionID) : id.number ≠ 0 := by
  cases id <;> decide

end APIFunctionID

end RedApid

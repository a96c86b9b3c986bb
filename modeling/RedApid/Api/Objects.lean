import RedApid.Api.Dispatch
import RedApid.ByteStream.LittleEndian
import RedApid.Store.SessionTimers

namespace RedApid

open ByteStream Memory

-- object.h
def ObjectType.number (type : ObjectType) : UInt8 := type.ctorIdx.toUInt8

-- The outcomes of the calls behind one request that can fail.
structure Outcomes where
  session : SessionCreation
  timerConfigure : Option APIError
  memory : Allocation
  stringCalloc : Bool
  objectCreate : ObjectCreation
  list : ListCreation
  referenceCalloc : Bool
  append : Option APIError

-- What a function returns, a value is put into one member of its response.
def returned (name : MemberName) (size : Nat) : Except APIE Nat → APIE × Members
  | .error code => (code, .zero)
  | .ok value => (.success, Members.zero.set name (bytesOf size value))

section Functions

variable (array : ArrayRemove) (grow : GrowAllocation) (outcome : Outcomes)

-- The ID that a create function stores for its caller.
def createdId (created : Except APIE ObjectRef × Store) : Except APIE Nat × Store :=
  (created.1.map fun object => ((created.2.objectId object).getD 0).toNat, created.2)

-- What a function makes of a String, its lock count is in the Object base.
def Store.onString {α : Type} (store : Store) (string : ObjectRef) (dead : α)
    (f : Nat → StringObject → α × StringObject) : α × Store :=
  match store.objects.get string with
  | none => (dead, store.faulted)
  | some o =>
      match o.payload with
      | .string s =>
          let (result, s) := f o.lockCount s
          (result, store.modifyObject string fun o => { o with payload := .string s })
      | _ => (dead, store.faulted)

def Store.onList {α : Type} (store : Store) (list : ObjectRef) (dead : α) (f : Object → α) :
    α × Store :=
  match store.objects.get list with
  | none => (dead, store.faulted)
  | some l => (f l, store)

-- The bodies of the functions of objects, strings and lists, with the object and the session that
-- were looked up.
def storeFunction (id : APIFunctionID) (members : Members) (object : Option ObjectRef)
    (session : Option SessionRef) (store : Store) : (APIE × Members) × Store :=
  match id, object, session with
  | .releaseObject, some object, some session =>
      let (code, store) := objectRelease array object session store
      ((code, .zero), store)
  | .allocateString, _, some session =>
      let (created, store) := createdId (stringAllocateObject grow outcome.memory outcome.stringCalloc
        outcome.objectCreate (members.get .lengthToReserve).toUInt32 (members .buffer) (some session)
        OBJECT_CREATE_FLAG_EXTERNAL store)
      (returned .stringId uint16_t created, store)
  | .truncateString, some string, _ =>
      store.onString string (.internalError, .zero) fun lockCount s =>
        let (code, s) := stringTruncate lockCount (members.get .length).toUInt32 s
        ((code, .zero), s)
  | .getStringLength, some string, _ =>
      store.onString string (.internalError, .zero) fun _ s =>
        (returned .length uint32_t (.ok s.length), s)
  | .setStringChunk, some string, _ =>
      store.onString string (.internalError, .zero) fun lockCount s =>
        let (code, s) := stringSetChunk grow outcome.memory lockCount (members.get .offset).toUInt32
          (members .buffer) s
        ((code, .zero), s)
  | .getStringChunk, some string, _ =>
      store.onString string (.internalError, .zero) fun _ s =>
        let (code, buffer, s) := stringGetChunk (members.get .offset).toUInt32
          (List.replicate STRING_MAX_GET_CHUNK_BUFFER_LENGTH 0) s
        ((code, Members.zero.set .buffer buffer), s)
  | .allocateList, _, some session =>
      let (created, store) :=
        createdId (listAllocate outcome.list (some session) OBJECT_CREATE_FLAG_EXTERNAL store)
      (returned .listId uint16_t created, store)
  | .getListLength, some list, _ =>
      store.onList list (.internalError, .zero) fun l =>
        returned .length uint16_t (.ok l.items.length)
  | .getListItem, some list, some session =>
      match listGetItem outcome.referenceCalloc list (members.get .index).toUInt16 session store with
      | (.error code, store) => ((code, .zero), store)
      | (.ok (itemId, type), store) =>
          ((.success, (Members.zero.set .itemObjectId (bytesOf uint16_t itemId.toNat)).set .type
            [type.number]), store)
  | .appendToList, some list, _ =>
      let (code, store) := listAppendTo outcome.append list (members.get .itemObjectId).toUInt16 store
      ((code, .zero), store)
  | .removeFromList, some list, _ =>
      let (code, store) := listRemoveFrom array list (members.get .index).toUInt16 store
      ((code, .zero), store)
  | _, _, _ => ((.internalError, .zero), store.faulted)

-- Those of the sessions have to do with timers too.
def objectFunction (id : APIFunctionID) (members : Members) (object : Option ObjectRef)
    (session : Option SessionRef) (t : TimedStore) : (APIE × Members) × TimedStore :=
  match id, session with
  | .createSession, _ =>
      let (created, t) := t.create outcome.session (members.get .lifetime).toUInt32
      (returned .sessionId uint16_t (created.map (·.toNat)), t)
  | .expireSession, some session => ((.success, .zero), t.expire array session)
  | .keepSessionAlive, some session =>
      let (code, t) := t.sessionKeepAlive outcome.timerConfigure session
        (members.get .lifetime).toUInt32
      ((code, .zero), t)
  | _, _ =>
      let (result, store) := storeFunction array grow outcome id members object session t.store
      (result, { t with store })

def objectProcedure (id : APIFunctionID) (object : Option ObjectRef) (session : Option SessionRef)
    (t : TimedStore) : PacketE × TimedStore :=
  match id, object, session with
  | .expireSessionUnchecked, _, some session => (.success, t.expire array session)
  | .releaseObjectUnchecked, some object, some session =>
      let (success, store) := objectReleaseUnchecked array object session t.store
      (if success then .success else .unknownError, { t with store })
  | _, _, _ => (.unknownError, { t with store := t.store.faulted })

def objectBodies : APIBodies TimedStore where
  store t := t.store
  function id members object session t :=
    let (result, t) := objectFunction array grow outcome id members object session t
    (result, [], t)
  procedure id _ object session t :=
    let (code, t) := objectProcedure array id object session t
    (code, [], t)

end Functions

namespace APIFunctionID

-- The functions with these bodies.
def onObjects : List APIFunctionID :=
  [.createSession, .expireSession, .expireSessionUnchecked, .keepSessionAlive, .releaseObject,
    .releaseObjectUnchecked, .allocateString, .truncateString, .getStringLength, .setStringChunk,
    .getStringChunk, .allocateList, .getListLength, .getListItem, .appendToList, .removeFromList]

end APIFunctionID

end RedApid

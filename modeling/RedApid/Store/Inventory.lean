import RedApid.Search
import RedApid.Store.Basic

namespace RedApid

-- array_remove of daemonlib once the destroy callback of item `i` has returned. The
-- callback may have removed further items in the meantime.
structure ArrayRemove where
  remove : Nat → ObjectRef → List ObjectRef → List ObjectRef
  remove_sublist : ∀ i object items, (remove i object items).Sublist items

-- Shift the items above index `i` down by one and decrement the count.
def ArrayRemove.byIndex : ArrayRemove where
  remove i _ items := if i < items.length then items.eraseIdx i else items.dropLast
  remove_sublist i _ items := by
    split
    · exact List.eraseIdx_sublist items i
    · exact List.dropLast_sublist items

-- Drop exactly the object.
def ArrayRemove.exact : ArrayRemove where
  remove _ object items := items.erase object
  remove_sublist _ _ _ := List.erase_sublist

-- The candidate for the next ID, and the counter behind it.
def nextId (next : UInt16) : UInt16 × UInt16 :=
  let candidate := if next = 0 then 1 else next -- don't use ID zero
  (candidate, candidate + 1)

-- The loop of the two inventory_get_next functions: the free ID, if one was found, and the
-- counter.
def nextFreeId (inUse : UInt16 → Bool) (next : UInt16) : Option UInt16 × UInt16 :=
  Search.search nextId inUse UINT16_MAX next

namespace Store

variable (store : Store)

def objectId (object : ObjectRef) : Option ObjectID := (store.objects.get object).map (·.id)

def sessionId (session : SessionRef) : Option SessionID := (store.sessions.get session).map (·.id)

def objectIdInUse (id : ObjectID) : Bool :=
  ObjectType.all.any fun type => (store.objectArray type).any fun object =>
    store.objectId object == some id

def sessionIdInUse (id : SessionID) : Bool :=
  store.sessionArray.any fun session => store.sessionId session == some id

end Store

section Functions

def inventoryGetNextSessionId (store : Store) : Except APIE SessionID × Store :=
  match nextFreeId store.sessionIdInUse store.nextSessionId with
  | (none, next) => (.error .noFreeSessionId, { store with nextSessionId := next })
  | (some id, next) => (.ok id, { store with nextSessionId := next })

def inventoryGetNextObjectId (store : Store) : Except APIE ObjectID × Store :=
  match nextFreeId store.objectIdInUse store.nextObjectId with
  | (none, next) => (.error .noFreeObjectId, { store with nextObjectId := next })
  | (some id, next) => (.ok id, { store with nextObjectId := next })

-- `append` is the error of array_append, if it fails.
def inventoryAddSession (append : Option APIError) (session : SessionRef) (store : Store) :
    APIE × Store :=
  match inventoryGetNextSessionId store with
  | (.error code, store) => (code, store)
  | (.ok id, store) =>
      let store := store.modifySession session fun s => { s with id }
      match append with
      | some code => (code, store)
      | none => (.success, { store with sessionArray := store.sessionArray ++ [session] })

def inventoryAddObject (append : Option APIError) (type : ObjectType) (object : ObjectRef)
    (store : Store) : APIE × Store :=
  match inventoryGetNextObjectId store with
  | (.error code, store) => (code, store)
  | (.ok id, store) =>
      let store := store.modifyObject object fun o => { o with id }
      match append with
      | some code => (code, store)
      | none => (.success, store.setObjectArray type (store.objectArray type ++ [object]))

-- Only the destroy callback `destroy` runs in between, an object that is not in its array
-- is only logged.
def inventoryRemoveObject (array : ArrayRemove) (destroy : ObjectRef → Store → Store)
    (object : ObjectRef) (store : Store) : Store :=
  match store.objects.get object with
  | none => store.faulted
  | some o =>
      match (store.objectArray o.type).idxOf? object with
      | none => store
      | some i =>
          let store := destroy object store
          store.setObjectArray o.type (array.remove i object (store.objectArray o.type))

def inventoryRemoveSession (destroy : SessionRef → Store → Store) (session : SessionRef)
    (store : Store) : Store :=
  match store.sessionArray.idxOf? session with
  | none => store
  | some i =>
      let store := destroy session store
      { store with sessionArray := store.sessionArray.eraseIdx i }

-- Search of the arrays of `types` in this order.
def inventoryGetObject (types : List ObjectType) (id : ObjectID) (store : Store) :
    Except APIE ObjectRef :=
  match (types.flatMap store.objectArray).find? fun object => store.objectId object == some id with
  | none => .error .unknownObjectId
  | some object => .ok object

def inventoryGetSession (id : SessionID) (store : Store) : Except APIE SessionRef :=
  match store.sessionArray.find? fun session => store.sessionId session == some id with
  | none => .error .unknownSessionId
  | some session => .ok session

end Functions

end RedApid

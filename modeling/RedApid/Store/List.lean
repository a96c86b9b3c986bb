import RedApid.Store.Session

namespace RedApid

-- The outcomes of the calls in list_allocate that can fail.
structure ListCreation where
  calloc : Bool
  arrayCreate : Option APIError
  objectCreate : ObjectCreation

def Payload.items : Payload → List ObjectRef
  | .list items => items
  | _ => []

-- `free` of the memory of an object that was never created.
def Store.freeMemory (store : Store) (object : ObjectRef) : Store :=
  { store with objects := store.objects.free object }

def Payload.mapItems (f : List ObjectRef → List ObjectRef) : Payload → Payload
  | .list items => .list (f items)
  | payload => payload

def Object.items (o : Object) : List ObjectRef := o.payload.items

-- The object memory, object_create, and `free` of that memory if object_create fails: what
-- the create functions of all object types have in common.
def Store.createObject (outcome : ObjectCreation) (payload : Payload)
    (session : Option SessionRef) (flags : UInt32) (store : Store) :
    Except APIE ObjectRef × Store :=
  let (object, store) := store.callocObject payload
  let (code, store) := objectCreate outcome object payload.type session flags store
  if code = .success then (.ok object, store)
  else (.error code, store.freeMemory object)

-- The contents are put into the buffer before the object is created instead of afterwards.
def stringAllocateObject (grow : GrowAllocation) (memory : Allocation) (calloc : Bool)
    (outcome : ObjectCreation) (reserve : UInt32) (buffer : List UInt8)
    (session : Option SessionRef) (flags : UInt32) (store : Store) :
    Except APIE ObjectRef × Store :=
  match stringAllocate grow ⟨memory, calloc, .success⟩ reserve buffer with
  | .error code => (.error code, store)
  | .ok string => store.createObject outcome (.string string) session flags

def listAllocate (outcome : ListCreation) (session : Option SessionRef) (flags : UInt32)
    (store : Store) : Except APIE ObjectRef × Store :=
  if !outcome.calloc then (.error .noFreeMemory, store)
  else
    match outcome.arrayCreate with
    | some code => (.error code, store)
    | none => store.createObject outcome.objectCreate (.list []) session flags

variable (array : ArrayRemove)

def listUnlockAndReleaseItem (item : ObjectRef) (store : Store) : Store :=
  (objectUnlock item store).release array item

def listGetItem (calloc : Bool) (list : ObjectRef) (index : UInt16) (session : SessionRef)
    (store : Store) : Except APIE (ObjectID × ObjectType) × Store :=
  match store.objects.get list with
  | none => (.error .internalError, store.faulted)
  | some l =>
      match l.items[index.toNat]? with
      | none => (.error .outOfRange, store)
      | some item =>
          match objectAddExternalReference calloc item session store with
          | (.success, store) =>
              match store.objects.get item with
              | none => (.error .internalError, store.faulted)
              | some o => (.ok (o.id, o.type), store)
          | (code, store) => (.error code, store)

def Store.appendItem (store : Store) (list item : ObjectRef) : Store :=
  store.modifyObject list fun l => { l with payload := l.payload.mapItems (· ++ [item]) }

-- What array_remove does to the items once the destroy callback has returned.
def Store.removeItem (store : Store) (list : ObjectRef) (index : Nat) : Store :=
  store.modifyObject list fun l => { l with payload := l.payload.mapItems (·.eraseIdx index) }

-- `append` is the error of array_append, if it fails.
def listAppendTo (append : Option APIError) (list : ObjectRef) (itemId : ObjectID) (store : Store) :
    APIE × Store :=
  match store.objects.get list with
  | none => (.internalError, store.faulted)
  | some l =>
      if itemId = l.id then (.notSupported, store)
      else if l.lockCount > 0 then (.objectIsLocked, store)
      else if l.items.length = UINT16_MAX then (.invalidOperation, store)
      else
        match inventoryGetObject ObjectType.all itemId store with
        | .error code => (code, store)
        | .ok item =>
            match append with
            | some code => (code, store)
            | none =>
                let store := objectLock item (objectAddInternalReference item store)
                (.success, store.appendItem list item)

def listRemoveFrom (list : ObjectRef) (index : UInt16) (store : Store) : APIE × Store :=
  match store.objects.get list with
  | none => (.internalError, store.faulted)
  | some l =>
      if l.lockCount > 0 then (.objectIsLocked, store)
      else
        match l.items[index.toNat]? with
        | none => (.outOfRange, store)
        | some item =>
            (.success, (listUnlockAndReleaseItem array item store).removeItem list index.toNat)

end RedApid

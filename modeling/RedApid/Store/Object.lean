import RedApid.Store.Inventory

namespace RedApid

def OBJECT_CREATE_FLAG_INTERNAL : UInt32 := 0x0001
def OBJECT_CREATE_FLAG_EXTERNAL : UInt32 := 0x0002
def OBJECT_CREATE_FLAG_LOCKED : UInt32 := 0x0004

-- The outcomes of the calls in object_create that can fail: the calloc of a new entry
-- and the error of array_append in inventory_add_object.
structure ObjectCreation where
  calloc : Bool
  append : Option APIError
deriving DecidableEq, Repr

section References

def objectAddInternalReference (object : ObjectRef) (store : Store) : Store :=
  store.modifyObject object fun o =>
    { o with internalReferenceCount := o.internalReferenceCount + 1 }

-- `--object->internal_reference_count`
def objectDropInternalReference (object : ObjectRef) (store : Store) : Store :=
  store.modifyObject object fun o =>
    { o with internalReferenceCount := o.internalReferenceCount - 1 }

def objectLock (object : ObjectRef) (store : Store) : Store :=
  store.modifyObject object fun o => { o with lockCount := o.lockCount + 1 }

def objectUnlock (object : ObjectRef) (store : Store) : Store :=
  store.modifyObject object fun o =>
    if o.lockCount = 0 then o else { o with lockCount := o.lockCount - 1 }

namespace Store

variable (store : Store) (reference : ReferenceRef) (object : ObjectRef) (session : SessionRef)

-- The entry of `object` for `session`, found by a walk through the list of the object.
def findReference : Option ReferenceRef :=
  (store.objects.get object).bind fun o => o.externalReferences.find? fun reference =>
    ((store.references.get reference).map (·.session)) == some session

def countObject (amount : Int) : Store :=
  store.modifyObject object fun o =>
    { o with externalReferenceCount := o.externalReferenceCount + amount }

def countSession (amount : Int) : Store :=
  store.modifySession session fun s =>
    { s with externalReferenceCount := s.externalReferenceCount + amount }

def countReference (amount : Int) : Store :=
  { store with
    references := store.references.modify reference fun e => { e with count := e.count + amount } }

-- node_insert_before the sentinels
def linkObject : Store :=
  store.modifyObject object fun o =>
    { o with externalReferences := o.externalReferences ++ [reference] }

def linkSession : Store :=
  store.modifySession session fun s =>
    { s with externalReferences := s.externalReferences ++ [reference] }

-- node_remove
def unlinkObject : Store :=
  store.modifyObject object fun o =>
    { o with externalReferences := o.externalReferences.erase reference }

def unlinkSession : Store :=
  store.modifySession session fun s =>
    { s with externalReferences := s.externalReferences.erase reference }

def callocReference : Store :=
  { store with references := store.references.alloc ⟨object, session, 1⟩ }

def freeReference : Store := { store with references := store.references.free reference }

-- The external reference counts of an object and a session.
def countExternal (amount : Int) : Store :=
  (store.countObject object amount).countSession session amount

-- Take an entry out of both lists, then `free` it.
def unlinkReference : Store :=
  ((store.unlinkObject reference object).unlinkSession reference session).freeReference reference

-- Remove an entry with everything it counts for.
def dropReference (count : Int) : Store :=
  (store.unlinkReference reference object session).countExternal object session (-count)

-- Create a new entry that counts for one reference.
def createReference : Store :=
  (((store.callocReference object session).linkObject store.references.next object).linkSession
    store.references.next session).countExternal object session 1

-- Count one reference less, an entry that counts for none is removed.
def releaseReference : Store :=
  let store := (store.countReference reference (-1)).countExternal object session (-1)
  if (store.references.get reference).map (·.count) = some 0 then
    store.unlinkReference reference object session
  else store

end Store

-- The pointers have to be valid, an entry for freed memory is never made.
def objectAddExternalReference (calloc : Bool) (object : ObjectRef) (session : SessionRef)
    (store : Store) : APIE × Store :=
  if store.objects.get object = none ∨ store.sessions.get session = none then
    (.internalError, store.faulted)
  else
    match store.findReference object session with
    | some reference =>
        (.success, (store.countReference reference 1).countExternal object session 1)
    | none =>
        if !calloc then (.noFreeMemory, store)
        else (.success, store.createReference object session)

end References

section Destroy

variable (array : ArrayRemove)

-- One round of the loop in object_destroy: drop the entry at the head of the list.
def objectDropReference (object : ObjectRef) (store : Store) (reference : ReferenceRef) : Store :=
  match store.references.get reference with
  | none => store.faulted
  | some e => store.dropReference reference object e.session e.count

-- The unlock that goes along with dropping an internal reference.
def Hold.unlock (hold : Hold) (store : Store) : Store :=
  if hold.locked then objectUnlock hold.object store else store

-- The destroy function of an object, up to the final `free`. `release` stands for
-- object_remove_internal_reference.
def Payload.destroy (release : ObjectRef → Store → Store) (payload : Payload) (store : Store) :
    Store :=
  payload.holds.foldl (fun store hold => release hold.object (hold.unlock store)) store

def objectDestroy (release : ObjectRef → Store → Store) (object : ObjectRef) (store : Store) :
    Store :=
  match store.objects.get object with
  | none => store.faulted
  | some o =>
      let store := o.externalReferences.foldl (objectDropReference object) store
      let store := o.payload.destroy release store
      store.freeObject object

-- The recursion through inventory_remove_object, object_destroy and the destroy functions
-- of the objects, bounded by its depth.
def objectRemoveInternalReference : Nat → ObjectRef → Store → Store
  | depth, object, store =>
      match store.objects.get object with
      | none => store.faulted
      | some o =>
          if o.internalReferenceCount = 0 then store
          else
            let store := objectDropInternalReference object store
            -- destroy object if last reference was removed
            if o.internalReferenceCount - 1 = 0 ∧ o.externalReferenceCount = 0 then
              match depth with
              | 0 => store.overran
              | depth + 1 =>
                  inventoryRemoveObject array
                    (objectDestroy (objectRemoveInternalReference depth)) object store
            else store

-- Every nested call has dropped one internal reference before, so this many levels are
-- enough.
def Store.depth (store : Store) : Nat := store.objects.total fun _ o => o.internalReferenceCount

def Store.release (object : ObjectRef) (store : Store) : Store :=
  objectRemoveInternalReference array store.depth object store

def Store.remove (object : ObjectRef) (store : Store) : Store :=
  inventoryRemoveObject array (objectDestroy (objectRemoveInternalReference array store.depth))
    object store

def objectRemoveExternalReference (object : ObjectRef) (session : SessionRef) (store : Store) :
    Store :=
  match store.objects.get object with
  | none => store.faulted
  | some o =>
      if o.externalReferenceCount = 0 then store
      else
        match store.findReference object session with
        | none => store
        | some reference =>
            let store := store.releaseReference reference object session
            -- destroy object if last reference was removed
            if o.internalReferenceCount = 0 ∧ o.externalReferenceCount - 1 = 0 then
              store.remove array object
            else store

def objectRelease (object : ObjectRef) (session : SessionRef) (store : Store) : APIE × Store :=
  match store.objects.get object with
  | none => (.invalidOperation, store.faulted)
  | some o =>
      if o.externalReferenceCount = 0 then (.invalidOperation, store)
      else (.success, objectRemoveExternalReference array object session store)

-- Whether PACKET_E_SUCCESS is returned, and not PACKET_E_UNKNOWN_ERROR.
def objectReleaseUnchecked (object : ObjectRef) (session : SessionRef) (store : Store) :
    Bool × Store :=
  let (code, store) := objectRelease array object session store
  (code = .success, store)

end Destroy

section Create

variable (outcome : ObjectCreation) (object : ObjectRef) (type : ObjectType)
  (session : Option SessionRef) (flags : UInt32)

def objectCreateExternal (store : Store) : APIE × Store :=
  match session with
  | some session =>
      if flags &&& OBJECT_CREATE_FLAG_EXTERNAL ≠ 0 then
        objectAddExternalReference outcome.calloc object session store
      else (.success, store)
  | none => (.success, store)

-- The steps of object_create behind the checks of its flags.
def objectCreateReferences (store : Store) : APIE × Store :=
  let store :=
    if flags &&& OBJECT_CREATE_FLAG_INTERNAL ≠ 0 then objectAddInternalReference object store
    else store
  let (code, store) := objectCreateExternal outcome object session flags store
  if code ≠ .success then (code, store)
  else
    let store :=
      if flags &&& OBJECT_CREATE_FLAG_LOCKED ≠ 0 then objectLock object store else store
    inventoryAddObject outcome.append type object store

-- The first lines of object_create.
def Store.resetObject (store : Store) : Store :=
  store.modifyObject object fun o => ⟨0, type, 0, [], 0, 0, o.payload⟩

def objectCreate (store : Store) : APIE × Store :=
  let store := store.resetObject object type
  -- OBJECT_CREATE_FLAG_INTERNAL or OBJECT_CREATE_FLAG_EXTERNAL has to be used
  if flags &&& (OBJECT_CREATE_FLAG_INTERNAL ||| OBJECT_CREATE_FLAG_EXTERNAL) = 0 then
    (.internalError, store)
  -- session has to be valid if OBJECT_CREATE_FLAG_EXTERNAL is used
  else if flags &&& OBJECT_CREATE_FLAG_EXTERNAL ≠ 0 ∧ session = none then
    (.internalError, store)
  -- OBJECT_CREATE_FLAG_LOCKED can only be used in combination with OBJECT_CREATE_FLAG_INTERNAL
  else if flags &&& OBJECT_CREATE_FLAG_LOCKED ≠ 0 ∧ flags &&& OBJECT_CREATE_FLAG_INTERNAL = 0 then
    (.internalError, store)
  else objectCreateReferences outcome object type session flags store

end Create

end RedApid

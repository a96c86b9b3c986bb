import Mathlib.Data.List.Basic
import RedApid.Memory.Heap
import RedApid.Store.Payload

namespace RedApid

open Memory

abbrev ObjectID := UInt16
abbrev SessionID := UInt16

-- ExternalReference of session.h
structure ExternalReference where
  object : ObjectRef
  session : SessionRef
  count : Int
deriving DecidableEq, Repr

-- `externalReferences` is the list that starts at external_reference_sentinel.
structure Object where
  id : ObjectID
  type : ObjectType
  internalReferenceCount : Nat
  externalReferences : List ReferenceRef
  externalReferenceCount : Int
  lockCount : Nat
  payload : Payload

structure Session where
  id : SessionID
  externalReferences : List ReferenceRef
  externalReferenceCount : Int
deriving DecidableEq, Repr

-- The allocated objects, sessions and entries, and the static variables of inventory.c.
-- No program reads the last three members: the objects destroyed so far in this order,
-- whether freed memory was accessed, and whether a recursion went on beyond its bound.
structure Store where
  objects : Heap Object
  sessions : Heap Session
  references : Heap ExternalReference
  objectArray : ObjectType → List ObjectRef
  sessionArray : List SessionRef
  stockStrings : List ObjectRef
  nextObjectId : ObjectID
  nextSessionId : SessionID
  destroyed : List ObjectRef
  fault : Bool
  overrun : Bool

namespace Store

variable (store : Store)

def init : Store where
  objects := Heap.empty
  sessions := Heap.empty
  references := Heap.empty
  objectArray _ := []
  sessionArray := []
  stockStrings := []
  nextObjectId := 1
  nextSessionId := 1
  destroyed := []
  fault := false
  overrun := false

def faulted : Store := { store with fault := true }

def overran : Store := { store with overrun := true }

-- An access to freed memory changes nothing that is still allocated.
def modifyObject (object : ObjectRef) (f : Object → Object) : Store :=
  match store.objects.get object with
  | none => store.faulted
  | some _ => { store with objects := store.objects.modify object f }

def modifySession (session : SessionRef) (f : Session → Session) : Store :=
  match store.sessions.get session with
  | none => store.faulted
  | some _ => { store with sessions := store.sessions.modify session f }

def setObjectArray (type : ObjectType) (array : List ObjectRef) : Store :=
  { store with objectArray := Function.update store.objectArray type array }

-- What `free` of a destroyed object does.
def freeObject (object : ObjectRef) : Store :=
  { store with
    objects := store.objects.free object
    destroyed := store.destroyed ++ [object] }

-- The object behind the header that object_create fills in. calloc clears the rest.
def callocObject (payload : Payload) : ObjectRef × Store :=
  (store.objects.next,
    { store with objects := store.objects.alloc ⟨0, payload.type, 0, [], 0, 0, payload⟩ })

theorem setObjectArray_objectArray (type : ObjectType) (items : List ObjectRef)
    (other : ObjectType) :
    (store.setObjectArray type items).objectArray other =
      if other = type then items else store.objectArray other :=
  Function.update_apply _ _ _ _

section Projections

variable {store} {object : ObjectRef} {session : SessionRef}

theorem modifyObject_of_get {o : Object} (h : store.objects.get object = some o)
    (f : Object → Object) :
    store.modifyObject object f = { store with objects := store.objects.modify object f } := by
  simp only [modifyObject, h]

theorem modifyObject_of_none (h : store.objects.get object = none) (f : Object → Object) :
    store.modifyObject object f = store.faulted := by
  simp only [modifyObject, h]

variable (store object session) (f : Object → Object) (g : Session → Session)

@[simp] theorem modifyObject_objects :
    (store.modifyObject object f).objects = store.objects.modify object f := by
  unfold modifyObject
  split
  · rename_i h
    exact (Heap.modify_of_none h f).symm
  · rfl

@[simp] theorem modifySession_sessions :
    (store.modifySession session g).sessions = store.sessions.modify session g := by
  unfold modifySession
  split
  · rename_i h
    exact (Heap.modify_of_none h g).symm
  · rfl

@[simp] theorem modifyObject_sessions :
    (store.modifyObject object f).sessions = store.sessions := by
  unfold modifyObject; split <;> rfl

@[simp] theorem modifyObject_references :
    (store.modifyObject object f).references = store.references := by
  unfold modifyObject; split <;> rfl

@[simp] theorem modifyObject_objectArray :
    (store.modifyObject object f).objectArray = store.objectArray := by
  unfold modifyObject; split <;> rfl

@[simp] theorem modifyObject_sessionArray :
    (store.modifyObject object f).sessionArray = store.sessionArray := by
  unfold modifyObject; split <;> rfl

@[simp] theorem modifyObject_stockStrings :
    (store.modifyObject object f).stockStrings = store.stockStrings := by
  unfold modifyObject; split <;> rfl

@[simp] theorem modifyObject_nextObjectId :
    (store.modifyObject object f).nextObjectId = store.nextObjectId := by
  unfold modifyObject; split <;> rfl

@[simp] theorem modifyObject_destroyed :
    (store.modifyObject object f).destroyed = store.destroyed := by
  unfold modifyObject; split <;> rfl

@[simp] theorem modifyObject_overrun :
    (store.modifyObject object f).overrun = store.overrun := by
  unfold modifyObject; split <;> rfl

@[simp] theorem modifySession_objects :
    (store.modifySession session g).objects = store.objects := by
  unfold modifySession; split <;> rfl

@[simp] theorem modifySession_references :
    (store.modifySession session g).references = store.references := by
  unfold modifySession; split <;> rfl

@[simp] theorem modifySession_objectArray :
    (store.modifySession session g).objectArray = store.objectArray := by
  unfold modifySession; split <;> rfl

@[simp] theorem modifySession_sessionArray :
    (store.modifySession session g).sessionArray = store.sessionArray := by
  unfold modifySession; split <;> rfl

@[simp] theorem modifySession_stockStrings :
    (store.modifySession session g).stockStrings = store.stockStrings := by
  unfold modifySession; split <;> rfl

@[simp] theorem modifySession_nextObjectId :
    (store.modifySession session g).nextObjectId = store.nextObjectId := by
  unfold modifySession; split <;> rfl

@[simp] theorem modifySession_destroyed :
    (store.modifySession session g).destroyed = store.destroyed := by
  unfold modifySession; split <;> rfl

@[simp] theorem modifySession_overrun :
    (store.modifySession session g).overrun = store.overrun := by
  unfold modifySession; split <;> rfl

end Projections

end Store

end RedApid

import RedApid.Store.Object

namespace RedApid

def SESSION_MAX_LIFETIME : Nat := 3600 -- limit maximum session lifetime to 1 hour

-- The outcomes of the calls in session_create that can fail: calloc, the errors of
-- timer_create_ and timer_configure, and of array_append in inventory_add_session.
structure SessionCreation where
  calloc : Bool
  timerCreate : Option APIError
  timerConfigure : Option APIError
  append : Option APIError

variable (array : ArrayRemove)

-- Destroy an object if its last reference was removed.
def Store.removeUnreferenced (object : ObjectRef) (store : Store) : Store :=
  match store.objects.get object with
  | none => store.faulted
  | some o =>
      if o.internalReferenceCount = 0 ∧ o.externalReferenceCount = 0 then
        store.remove array object
      else store

-- One round of the loop in session_remove_external_references. Nobody can reach an entry
-- that is in no list, so it is already freed before its object is.
def sessionDropReference (session : SessionRef) (reference : ReferenceRef) (store : Store) :
    Store :=
  match store.references.get reference with
  | none => store.faulted
  | some e =>
      (store.dropReference reference e.object session e.count).removeUnreferenced array e.object

-- The loop with its remaining rounds.
def removeExternalReferences : Nat → SessionRef → Store → Store
  | 0, session, store =>
      match (store.sessions.get session).map (·.externalReferences) with
      | none => store.faulted
      | some [] => store
      | some (_ :: _) => store.overran
  | rounds + 1, session, store =>
      match (store.sessions.get session).map (·.externalReferences) with
      | none => store.faulted
      | some [] => store
      | some (reference :: _) =>
          removeExternalReferences rounds session
            (sessionDropReference array session reference store)

-- Every round takes at least one entry off the list.
def sessionRemoveExternalReferences (session : SessionRef) (store : Store) : Store :=
  match store.sessions.get session with
  | none => store.faulted
  | some s => removeExternalReferences array s.externalReferences.length session store

def Store.callocSession (store : Store) : SessionRef × Store :=
  (store.sessions.next, { store with sessions := store.sessions.alloc ⟨0, [], 0⟩ })

def Store.freeSession (store : Store) (session : SessionRef) : Store :=
  { store with sessions := store.sessions.free session }

def sessionDestroy (session : SessionRef) (store : Store) : Store :=
  (sessionRemoveExternalReferences array session store).freeSession session

def sessionExpireHelper (session : SessionRef) (store : Store) : Store :=
  let store := sessionRemoveExternalReferences array session store
  inventoryRemoveSession (sessionDestroy array) session store

-- The expire timer.
def sessionHandleExpire (session : SessionRef) (store : Store) : Store :=
  sessionExpireHelper array session store

def sessionExpire (session : SessionRef) (store : Store) : APIE × Store :=
  (.success, sessionExpireHelper array session store)

def sessionCreate (outcome : SessionCreation) (lifetime : UInt32) (store : Store) :
    Except APIE SessionID × Store :=
  if lifetime.toNat > SESSION_MAX_LIFETIME then (.error .outOfRange, store)
  else if !outcome.calloc then (.error .noFreeMemory, store)
  else
    let (session, store) := store.callocSession
    match outcome.timerCreate, outcome.timerConfigure with
    | some code, _ => (.error code, store.freeSession session)
    | none, some code => (.error code, store.freeSession session)
    | none, none =>
        let (code, store) := inventoryAddSession outcome.append session store
        if code = .success then (.ok ((store.sessionId session).getD 0), store)
        else (.error code, store.freeSession session)

end RedApid

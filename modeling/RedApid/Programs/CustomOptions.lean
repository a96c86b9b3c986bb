import RedApid.Config.Text
import RedApid.OrderedMap
import RedApid.Store.Setters
import RedApid.Store.Stock

namespace RedApid

open Memory

section Functions

variable (array : ArrayRemove) (status : ProgramStatus) (program : ObjectRef)

-- The outcomes of array_append and program_config_save.
structure OptionOutcomes where
  append : Option APIError
  save : Option APIError

-- The outcomes of list_allocate and of array_append in each list_append_to.
structure NamesOutcomes where
  list : ListCreation
  append : Nat → Option APIError

def Program.withOptions (p : Program) (customOptions : List ProgramCustomOption) : Program :=
  { p with config := { p.config with customOptions } }

-- program_find_custom_option without suffix_match, from the i-th option on.
def programFindCustomOption (store : Store) (name : CString) :
    List ProgramCustomOption → Nat → Option (Nat × ProgramCustomOption)
  | [], _ => none
  | customOption :: customOptions, i =>
      if strcaseeq (store.text customOption.name) name then some (i, customOption)
      else programFindCustomOption store name customOptions (i + 1)

-- The access rights of www-data to the bin directory are left out.
def programSetCustomOptionValue (outcomes : OptionOutcomes) (nameId valueId : ObjectID)
    (store : Store) : Except APIE Unit × Store :=
  match store.payload program with
  | some (.program p) =>
      if status.purged then (.error .programIsPurged, store)
      else
        match inventoryGetObject [.string] nameId store with
        | .error code => (.error code, store)
        | .ok name =>
            acquiring array true (stringGetAcquiredAndLocked valueId store) fun value store =>
              match programFindCustomOption store (store.text name) p.config.customOptions 0 with
              | none =>
                  match outcomes.append with
                  | some code => (.error code, store)
                  | none =>
                      -- what is appended is removed again if the config cannot be saved
                      Hold.cleanup array (lockedHold name)
                        (programConfigReplace array id outcomes.save program p
                          (p.withOptions (p.config.customOptions ++ [⟨name, value⟩])).config []
                          ((lockedHold name).acquire store))
              | some (index, customOption) =>
                  programConfigReplace array id outcomes.save program p
                    (p.withOptions (p.config.customOptions.set index
                      { customOption with value })).config
                    [lockedHold customOption.value] store
  | _ => (.error .internalError, store.faulted)

def programRemoveCustomOption (outcomes : OptionOutcomes) (nameId : ObjectID) (store : Store) :
    Except APIE Unit × Store :=
  match store.payload program with
  | some (.program p) =>
      if status.purged then (.error .programIsPurged, store)
      else
        match inventoryGetObject [.string] nameId store with
        | .error code => (.error code, store)
        | .ok name =>
            match programFindCustomOption store (store.text name) p.config.customOptions 0 with
            | none => (.error .doesNotExist, store)
            | some (index, backup) =>
                let removed := p.config.customOptions.eraseIdx index
                let store := store.setPayload program (.program (p.withOptions removed))
                match outcomes.save with
                | none =>
                    (.ok (), releaseAll array [lockedHold backup.name, lockedHold backup.value] store)
                | some code =>
                    match outcomes.append with
                    | some _ => (.error code, store)
                    | none =>
                        (.error code,
                          store.setPayload program (.program (p.withOptions (removed ++ [backup]))))
  | _ => (.error .internalError, store.faulted)

def programGetCustomOptionValue (calloc : Bool) (session : SessionRef) (nameId : ObjectID)
    (store : Store) : Except APIE ObjectID × Store :=
  match store.payload program with
  | some (.program p) =>
      if status.purged then (.error .programIsPurged, store)
      else
        match inventoryGetObject [.string] nameId store with
        | .error code => (.error code, store)
        | .ok name =>
            match programFindCustomOption store (store.text name) p.config.customOptions 0 with
            | none => (.error .doesNotExist, store)
            | some (_, customOption) =>
                match objectAddExternalReference calloc customOption.value session store with
                | (.success, store) => (.ok (store.idOf (some customOption.value)), store)
                | (code, store) => (.error code, store)
  | _ => (.error .internalError, store.faulted)

-- The loop of program_get_custom_option_names.
def appendNames (append : Nat → Option APIError) (names : ObjectRef) :
    List ProgramCustomOption → Nat → Store → APIE × Store
  | [], _, store => (.success, store)
  | customOption :: customOptions, i, store =>
      match listAppendTo (append i) names (store.idOf (some customOption.name)) store with
      | (.success, store) => appendNames append names customOptions (i + 1) store
      | (code, store) => (code, store)

def programGetCustomOptionNames (outcomes : NamesOutcomes) (session : SessionRef) (store : Store) :
    Except APIE ObjectID × Store :=
  match store.payload program with
  | some (.program p) =>
      if status.purged then (.error .programIsPurged, store)
      else
        match listAllocate outcomes.list (some session) OBJECT_CREATE_FLAG_EXTERNAL store with
        | (.error code, store) => (.error code, store)
        | (.ok names, store) =>
            match appendNames outcomes.append names p.config.customOptions 0 store with
            | (.success, store) => (.ok (store.idOf (some names)), store)
            | (code, store) => (.error code, objectRemoveExternalReference array names session store)
  | _ => (.error .internalError, store.faulted)

inductive OptionCall where
  | set (outcomes : OptionOutcomes) (nameId valueId : ObjectID)
  | remove (outcomes : OptionOutcomes) (nameId : ObjectID)
  | get (calloc : Bool) (session : SessionRef) (nameId : ObjectID)
  | names (outcomes : NamesOutcomes) (session : SessionRef)

-- The getters return an ID.
def OptionCall.run (store : Store) : OptionCall → Except APIE (Option ObjectID) × Store
  | .set outcomes nameId valueId =>
      let (result, store) :=
        programSetCustomOptionValue array status program outcomes nameId valueId store
      (result.map fun _ => none, store)
  | .remove outcomes nameId =>
      let (result, store) := programRemoveCustomOption array status program outcomes nameId store
      (result.map fun _ => none, store)
  | .get calloc session nameId =>
      let (result, store) := programGetCustomOptionValue status program calloc session nameId store
      (result.map some, store)
  | .names outcomes session =>
      let (result, store) := programGetCustomOptionNames array status program outcomes session store
      (result.map some, store)

end Functions

section Specification

-- The custom options as a client sees them.
def Store.entriesOf (store : Store) (customOptions : List ProgramCustomOption) :
    List (CString × ObjectRef) :=
  customOptions.map fun customOption => (store.text customOption.name, customOption.value)

def Store.customOptions (store : Store) (program : ObjectRef) : List ProgramCustomOption :=
  match store.payload program with
  | some (.program p) => p.config.customOptions
  | _ => []

def Store.customEntries (store : Store) (program : ObjectRef) : List (CString × ObjectRef) :=
  store.entriesOf (store.customOptions program)

def Distinct (entries : List (CString × ObjectRef)) : Prop :=
  (entries.map fun entry => fold entry.1).Nodup

-- All names and values are strings, and no name occurs twice.
structure Store.ValidOptions (store : Store) (customOptions : List ProgramCustomOption) : Prop where
  names : ∀ customOption ∈ customOptions, ∃ s,
    store.payload customOption.name = some (.string s)
  values : ∀ customOption ∈ customOptions, ∃ s,
    store.payload customOption.value = some (.string s)
  distinct : Distinct (store.entriesOf customOptions)

-- All references, locks and payloads, and the references of the sessions.
structure Store.Unchanged (store other : Store) : Prop where
  objects : store.SameObjects other
  sessions : other.sessions = store.sessions

open OrderedMap in
-- The options behind a call that has succeeded, and the ID that it has returned.
def OptionCall.Done (program : ObjectRef) (store : Store) (id : Option ObjectID) (other : Store) :
    OptionCall → Prop
  | .set _ nameId valueId => ∃ name value,
      inventoryGetObject [.string] nameId store = .ok name ∧
      inventoryGetObject [.string] valueId store = .ok value ∧
      other.customEntries program =
        update fold (store.text name) value (store.customEntries program) ∧
      (∀ key, lookup fold key (other.customEntries program) =
        if fold key = fold (store.text name) then some value
        else lookup fold key (store.customEntries program)) ∧
      ∀ (i : Nat) (entry : CString × ObjectRef), (store.customEntries program)[i]? = some entry →
        fold entry.1 ≠ fold (store.text name) → (other.customEntries program)[i]? = some entry
  | .remove _ nameId => ∃ name,
      inventoryGetObject [.string] nameId store = .ok name ∧
      other.customEntries program =
        (store.customEntries program).filter (fun entry : CString × ObjectRef => fold entry.1 ≠ fold (store.text name)) ∧
      ∀ key, lookup fold key (other.customEntries program) =
        if fold key = fold (store.text name) then none
        else lookup fold key (store.customEntries program)
  | .get _ _ nameId => ∃ name value,
      inventoryGetObject [.string] nameId store = .ok name ∧
      lookup fold (store.text name) (store.customEntries program) = some value ∧
      id = other.objectId value ∧ id ≠ none ∧
      other.customOptions program = store.customOptions program ∧
      other.customEntries program = store.customEntries program
  | .names _ _ => ∃ names,
      store.objects.get names = none ∧ id = other.objectId names ∧ id ≠ none ∧
      other.payload names = some (.list ((store.customOptions program).map (·.name))) ∧
      other.customOptions program = store.customOptions program ∧
      other.customEntries program = store.customEntries program

-- What a lookup that finds nothing reports.
def OptionCall.Reports (status : ProgramStatus) (program : ObjectRef) (store : Store)
    (result : Except APIE (Option ObjectID)) : OptionCall → Prop
  | .get _ _ nameId => ∀ name, status.purged = false →
      inventoryGetObject [.string] nameId store = .ok name →
      (result = .error .doesNotExist ↔
        OrderedMap.lookup fold (store.text name) (store.customEntries program) = none)
  | _ => True

structure OptionsExact (status : ProgramStatus) (program : ObjectRef) (call : OptionCall)
    (store : Store) (result : Except APIE (Option ObjectID) × Store) : Prop where
  distinct : Distinct (result.2.customEntries program)
  failed : ∀ code, result.1 = .error code → code ≠ .success ∧ store.Unchanged result.2
  done : ∀ id, result.1 = .ok id → call.Done program store id result.2
  reports : call.Reports status program store result.1

-- An option in front of others cannot be removed from the saved config, or the list of the names
-- is left in the session that asked for it.
def OptionCall.Fails (status : ProgramStatus) (program : ObjectRef) (store : Store) :
    OptionCall → Prop
  | .remove outcomes nameId => status.purged = false ∧ outcomes.save ≠ none ∧
      ∃ name front entry back, inventoryGetObject [.string] nameId store = .ok name ∧
        store.customEntries program = front ++ entry :: back ∧
        fold entry.1 = fold (store.text name) ∧ back ≠ []
  | .names outcomes session => status.purged = false ∧ outcomes.list.calloc = true ∧
      outcomes.list.arrayCreate = none ∧
      store.LeavesEntry outcomes.list.objectCreate (some session) OBJECT_CREATE_FLAG_EXTERNAL
  | _ => False

-- array_append behind array_remove.
def OptionCall.AppendsAgain : OptionCall → Prop
  | .remove outcomes _ => outcomes.append = none
  | _ => True

-- A history of calls, each of them with the status of the program.
def HistoryExact (array : ArrayRemove) (program : ObjectRef) :
    List (ProgramStatus × OptionCall) → Store → Prop
  | [], _ => True
  | (status, call) :: calls, store =>
      OptionsExact status program call store (call.run array status program store) ∧
        HistoryExact array program calls (call.run array status program store).2

def HistoryMeets (array : ArrayRemove) (program : ObjectRef) :
    List (ProgramStatus × OptionCall) → Store → Prop
  | [], _ => True
  | (status, call) :: calls, store => ¬call.Fails status program store ∧
      HistoryMeets array program calls (call.run array status program store).2

end Specification

end RedApid

import RedApid.Files.Events
import RedApid.Store.Strings

namespace RedApid

open Memory

-- An entry of the event loop for a state change pipe.
structure EventSource where
  handle : Files.IOHandle
  process : ObjectRef
deriving DecidableEq, Repr

-- The inventory, the event loop, and the read handles of the state change pipes.
structure Host where
  store : Store
  eventSources : List EventSource
  stateChangePipe : ObjectRef → Files.IOHandle

structure SpawnArguments where
  executableId : ObjectID
  argumentsId : ObjectID
  environmentId : ObjectID
  workingDirectoryId : ObjectID
  uid : UInt32
  gid : UInt32
  stdinId : ObjectID
  stdoutId : ObjectID
  stderrId : ObjectID
  session : Option SessionRef
  objectCreateFlags : UInt16
  releaseOnDeath : Bool
  -- whether the pointers are given
  id : Bool
  object : Bool

-- What the child gets: whom it has to become, and what it has to execute.
structure ChildCommand where
  executable : CString
  arguments : List (Option CString)
  environment : List (Option CString)
  workingDirectory : CString
  uid : UInt32
  gid : UInt32
  stdin : ObjectRef
  stdout : ObjectRef
  stderr : ObjectRef

-- array_create, and array_append one after the other.
structure ArrayOutcome where
  create : Option APIError
  append : Nat → Option APIError

-- `child` is what is read from the status pipe, or the error of robust_read.
structure SpawnOutcomes where
  argumentsArray : ArrayOutcome
  environmentArray : ArrayOutcome
  statusPipe : Option APIError
  fork : Bool
  child : ChildCommand → Except APIError APIE
  calloc : Bool
  stateChangePipe : Except APIError Files.IOHandle
  eventAddSource : Bool
  objectCreate : ObjectCreation

-- What process_spawn returns and what it stores behind its pointers.
structure SpawnResult where
  code : APIE
  id : Option ObjectID
  object : Option ObjectRef
  host : Host

section Functions

variable (array : ArrayRemove) (outcomes : SpawnOutcomes)

def fileGetAcquired (id : ObjectID) (store : Store) : Except APIE ObjectRef × Store :=
  match inventoryGetObject [.file] id store with
  | .error code => (.error code, store)
  | .ok file => (.ok file, objectAddInternalReference file store)

def Store.itemsOf (store : Store) (list : ObjectRef) : List ObjectRef :=
  ((store.objects.get list).map Object.items).getD []

def Store.isAbsolutePath (store : Store) (string : ObjectRef) : Bool :=
  match store.payload string with
  | some (.string s) => s.buffer.bytes 0 = 47
  | _ => false

def appendAll {α : Type} (append : Nat → Option APIError) : Nat → List α → Except APIE (List α)
  | _, [] => .ok []
  | i, item :: items =>
      match append i with
      | some code => .error code
      | none =>
          match appendAll append (i + 1) items with
          | .error code => .error code
          | .ok items => .ok (item :: items)

-- The buffers of these strings and NULL, as execvpe takes them.
def execArray (outcome : ArrayOutcome) (strings : List ObjectRef) (store : Store) :
    Except APIE (List (Option CString)) :=
  match outcome.create with
  | some code => .error code
  | none => appendAll outcome.append 0 (strings.map (fun string => some (store.text string)) ++ [none])

-- The cleanup of a phase, unless the last one is reached.
def Hold.giveBack {α : Type} (hold : Hold) : Except APIE α × Host → Except APIE α × Host
  | (.ok a, host) => (.ok a, host)
  | (.error code, host) => (.error code, { host with store := hold.release array host.store })

-- A phase that acquires an object, and those behind it.
def Host.acquiring {α : Type} (locked : Bool) (acquired : Except APIE ObjectRef × Store)
    (host : Host) (body : ObjectRef → Host → Except APIE α × Host) : Except APIE α × Host :=
  match acquired with
  | (.error code, store) => (.error code, { host with store })
  | (.ok object, store) => Hold.giveBack array ⟨object, locked⟩ (body object { host with store })

def Host.addSource (host : Host) (source : EventSource) : Host :=
  { host with eventSources := source :: host.eventSources }

def Host.removeSource (host : Host) (handle : Files.IOHandle) : Host :=
  { host with eventSources := host.eventSources.eraseP fun source => source.handle = handle }

def Host.setPipe (host : Host) (process : ObjectRef) (handle : Files.IOHandle) : Host :=
  { host with stateChangePipe := Function.update host.stateChangePipe process handle }

-- The phases from the status pipe on. The memory of the process is the next that calloc returns,
-- its contents are put into it by object_create.
def processStart (request : SpawnArguments) (command : ChildCommand) (process : Process)
    (host : Host) : Except APIE ObjectRef × Host :=
  match outcomes.statusPipe with
  | some code => (.error code, host)
  | none =>
      -- phase 10
      if !outcomes.fork then (.error .internalError, host)
      else
        -- phase 11
        match outcomes.child command with
        | .error code => (.error code, host)
        | .ok errorCode =>
            if errorCode ≠ .success then (.error errorCode, host)
            else if !outcomes.calloc then (.error .noFreeMemory, host)
            else
              -- phase 12
              match outcomes.stateChangePipe with
              | .error code => (.error code, host)
              | .ok handle =>
                  -- phase 13
                  let host := host.setPipe host.store.objects.next handle
                  -- the error code is still that of the child
                  if !outcomes.eventAddSource then (.error errorCode, host)
                  else
                    -- phase 14
                    let host := host.addSource ⟨handle, host.store.objects.next⟩
                    match host.store.createObject outcomes.objectCreate (.process process)
                        request.session
                        (request.objectCreateFlags.toUInt32 ||| OBJECT_CREATE_FLAG_INTERNAL) with
                    | (.error code, store) =>
                        (.error code, { host with store }.removeSource handle)
                    | (.ok object, store) => (.ok object, { host with store })

def processSpawnPhases (request : SpawnArguments) (host : Host) : Except APIE ObjectRef × Host :=
  host.acquiring array true (stringGetAcquiredAndLocked request.executableId host.store)
    fun executable host =>
  -- phase 1
  if host.store.isEmptyString executable then (.error .invalidParameter, host)
  else
    host.acquiring array true
      (listGetAcquiredAndLocked request.argumentsId .string host.store) fun list host =>
    -- phase 2 and phase 3
    match execArray outcomes.argumentsArray (executable :: host.store.itemsOf list) host.store with
    | .error code => (.error code, host)
    | .ok argumentsArray =>
        host.acquiring array true
          (listGetAcquiredAndLocked request.environmentId .string host.store)
          fun environment host =>
        -- phase 4 and phase 5
        match execArray outcomes.environmentArray (host.store.itemsOf environment) host.store with
        | .error code => (.error code, host)
        | .ok environmentArray =>
            host.acquiring array true
              (stringGetAcquiredAndLocked request.workingDirectoryId host.store)
              fun workingDirectory host =>
            -- phase 6
            if host.store.isEmptyString workingDirectory then (.error .invalidParameter, host)
            else if !host.store.isAbsolutePath workingDirectory then
              (.error .invalidParameter, host)
            else
              host.acquiring array false (fileGetAcquired request.stdinId host.store)
                fun stdin host =>
              -- phase 7
              host.acquiring array false (fileGetAcquired request.stdoutId host.store)
                fun stdout host =>
              -- phase 8
              host.acquiring array false (fileGetAcquired request.stderrId host.store)
                fun stderr host =>
              -- phase 9
              processStart outcomes request
                { executable := host.store.text executable
                  arguments := argumentsArray
                  environment := environmentArray
                  workingDirectory := host.store.text workingDirectory
                  uid := request.uid
                  gid := request.gid
                  stdin, stdout, stderr }
                { executable
                  arguments := list
                  environment
                  workingDirectory
                  stdin, stdout, stderr
                  releaseOnDeath := request.releaseOnDeath
                  alive := true } host

-- What is left to do in phase 15, and the return value.
def spawnResult (request : SpawnArguments) : Except APIE ObjectRef × Host → SpawnResult
  | (.ok process, host) =>
      { code := .success
        id := if request.id then host.store.objectId process else none
        object := if request.object then some process else none
        host }
  | (.error code, host) => ⟨code, none, none, host⟩

def processSpawn (request : SpawnArguments) (host : Host) : SpawnResult :=
  spawnResult request (processSpawnPhases array outcomes request host)

-- process_destroy, as it is called by object_destroy.
def processDestroy (process : ObjectRef) (host : Host) : Host :=
  match host.store.payload process with
  | some (.process p) =>
      { host.removeSource (host.stateChangePipe process) with
        store := ((Payload.process p).destroy (Store.release array) host.store).freeObject process }
  | _ => { host with store := host.store.faulted }

end Functions

section Specification

-- All calls of array_create and array_append succeed for so many items.
def ArrayOutcome.Succeeds (outcome : ArrayOutcome) (count : Nat) : Prop :=
  outcome.create = none ∧ ∀ i < count, outcome.append i = none

def spawnCommand (request : SpawnArguments) (process : Process) (store : Store) : ChildCommand where
  executable := store.text process.executable
  arguments := (process.executable :: store.itemsOf process.arguments).map
    (fun string => some (store.text string)) ++ [none]
  environment := (store.itemsOf process.environment).map
    (fun string => some (store.text string)) ++ [none]
  workingDirectory := store.text process.workingDirectory
  uid := request.uid
  gid := request.gid
  stdin := process.stdin
  stdout := process.stdout
  stderr := process.stderr

-- The IDs belong to these objects.
structure SpawnFound (request : SpawnArguments) (store : Store) (process : Process) : Prop where
  executable : inventoryGetObject [.string] request.executableId store = .ok process.executable
  arguments : inventoryGetObject [.list] request.argumentsId store = .ok process.arguments
  environment : inventoryGetObject [.list] request.environmentId store = .ok process.environment
  working_directory :
    inventoryGetObject [.string] request.workingDirectoryId store = .ok process.workingDirectory
  stdin : inventoryGetObject [.file] request.stdinId store = .ok process.stdin
  stdout : inventoryGetObject [.file] request.stdoutId store = .ok process.stdout
  stderr : inventoryGetObject [.file] request.stderrId store = .ok process.stderr
  flags : process.releaseOnDeath = request.releaseOnDeath ∧ process.alive = true

-- Nothing can fail in front of the event source: the objects are there, their contents are fine,
-- and so are the outcomes of the calls.
structure SpawnReady (request : SpawnArguments) (outcomes : SpawnOutcomes) (store : Store)
    (process : Process) : Prop extends SpawnFound request store process where
  named : store.isEmptyString process.executable = false
  argument_strings : listEnsureItemType process.arguments .string store = .success
  arguments_array : outcomes.argumentsArray.Succeeds
    ((store.itemsOf process.arguments).length + 2)
  environment_strings : listEnsureItemType process.environment .string store = .success
  environment_array : outcomes.environmentArray.Succeeds
    ((store.itemsOf process.environment).length + 1)
  absolute : store.isAbsolutePath process.workingDirectory = true
  status_pipe : outcomes.statusPipe = none
  fork : outcomes.fork = true
  child : outcomes.child (spawnCommand request process store) = .ok .success
  calloc : outcomes.calloc = true
  state_change_pipe : ∃ handle, outcomes.stateChangePipe = .ok handle

def SpawnArguments.createFlags (request : SpawnArguments) : UInt32 :=
  request.objectCreateFlags.toUInt32 ||| OBJECT_CREATE_FLAG_INTERNAL

-- What object_create can leave behind is an entry of the session.
def SpawnFails (request : SpawnArguments) (outcomes : SpawnOutcomes) (store : Store) : Prop :=
  (∃ process, SpawnReady request outcomes store process) ∧
    (outcomes.eventAddSource = false ∨ outcomes.eventAddSource = true ∧
      store.LeavesEntry outcomes.objectCreate request.session request.createFlags)

def Store.SameObjects (store other : Store) : Prop :=
  ∀ p, other.objects.get p = store.objects.get p

-- The sessions with their entries, and the arrays of the inventory.
structure Store.SameTables (store other : Store) : Prop where
  sessions : other.sessions = store.sessions
  references : other.references = store.references
  objectArray : other.objectArray = store.objectArray
  sessionArray : other.sessionArray = store.sessionArray
  stockStrings : other.stockStrings = store.stockStrings

-- Every count, the inventory and the event sources are as before.
structure Host.Same (host other : Host) : Prop where
  objects : host.store.SameObjects other.store
  tables : host.store.SameTables other.store
  eventSources : other.eventSources = host.eventSources

-- How many of these holds are on an object.
def holdCount (holds : List Hold) (p : ObjectRef) : Nat :=
  holds.count (lockedHold p) + holds.count (plainHold p)

-- The object with those holds on it in addition, and without them.
def Object.gain (holds : List Hold) (p : ObjectRef) (o : Object) : Object :=
  { o with
    internalReferenceCount := o.internalReferenceCount + holdCount holds p
    lockCount := o.lockCount + holds.count (lockedHold p) }

def Object.lose (holds : List Hold) (p : ObjectRef) (o : Object) : Object :=
  { o with
    internalReferenceCount := o.internalReferenceCount - holdCount holds p
    lockCount := o.lockCount - holds.count (lockedHold p) }

-- Without these holds the object is still referenced.
def Object.Outlasts (holds : List Hold) (p : ObjectRef) (o : Object) : Prop :=
  holdCount holds p < o.internalReferenceCount ∨
    holdCount holds p = o.internalReferenceCount ∧ o.externalReferenceCount ≠ 0

-- A new Process object is in the inventory, and what is stored behind the pointers refers to it.
structure NewProcess (request : SpawnArguments) (host : Host) (result : SpawnResult)
    (object : ObjectRef) : Prop where
  fresh : host.store.objects.get object = none
  created : ∃ o, result.host.store.objects.get object = some o ∧ o.type = .process ∧
    (request.id = true → result.id = some o.id)
  listed : object ∈ result.host.store.objectArray .process
  object : request.object = true → result.object = some object

-- The process holds the objects with these IDs, each has gained what the process holds of it, and
-- the process gives back exactly this whenever it is destroyed.
structure SpawnBalanced (array : ArrayRemove) (request : SpawnArguments) (host : Host)
    (result : SpawnResult) (object : ObjectRef) (process : Process) : Prop where
  found : SpawnFound request host.store process
  payload : result.host.store.payload object = some (.process process)
  gained : ∀ p, p ≠ object → result.host.store.objects.get p =
    (host.store.objects.get p).map (Object.gain process.holds p)
  source : result.host.eventSources =
    ⟨result.host.stateChangePipe object, object⟩ :: host.eventSources
  restored : host.store.SameObjects (processDestroy array object result.host).store ∧
    (processDestroy array object result.host).eventSources = host.eventSources
  given_back : ∀ later : Host, (∃ process', process'.holds = process.holds ∧
      later.store.payload object = some (.process process')) →
    (∀ hold ∈ process.holds, ∃ o, later.store.objects.get hold.object = some o ∧
      o.Outlasts process.holds hold.object) →
    ∀ p, p ≠ object → (processDestroy array object later).store.objects.get p =
      (later.store.objects.get p).map (Object.lose process.holds p)

structure SpawnExact (array : ArrayRemove) (request : SpawnArguments) (host : Host)
    (result : SpawnResult) : Prop where
  success_iff : result.code = .success ↔ ∃ object, NewProcess request host result object
  balanced : result.code = .success → ∃ object process, NewProcess request host result object ∧
    SpawnBalanced array request host result object process
  unchanged : result.code ≠ .success → host.Same result.host

end Specification

section Balance

variable {array : ArrayRemove} {store last : Store} {hold : Hold} {holds : List Hold}
  {p : ObjectRef} {o : Object}

theorem holdCount_cons (hold : Hold) (holds : List Hold) (p : ObjectRef) :
    holdCount (hold :: holds) p = holdCount holds p + if p = hold.object then 1 else 0 := by
  obtain ⟨object, locked⟩ := hold
  unfold holdCount
  by_cases hp : p = object
  · subst hp
    cases locked <;> simp [lockedHold, plainHold] <;> omega
  · have hne : ¬object = p := fun heq => hp heq.symm
    simp [hp, hne, lockedHold, plainHold]

theorem Object.lose_cons (hold : Hold) (holds : List Hold) (p : ObjectRef) (o : Object) :
    o.lose (hold :: holds) p = (if p = hold.object then hold.forgo o else o).lose holds p := by
  obtain ⟨object, locked⟩ := hold
  by_cases hp : p = object
  · subst hp
    cases locked
    · simp [lose, holdCount_cons, Hold.forgo, lockedHold]
      omega
    · simp [lose, holdCount_cons, Hold.forgo, lockedHold]
      omega
  · have hne : ¬object = p := fun heq => hp heq.symm
    simp [lose, holdCount_cons, hp, hne, lockedHold]

theorem Object.gain_cons (hold : Hold) (holds : List Hold) (p : ObjectRef) (o : Object) :
    o.gain (hold :: holds) p = (if p = hold.object then hold.retain o else o).gain holds p := by
  obtain ⟨object, locked⟩ := hold
  by_cases hp : p = object
  · subst hp
    cases locked
    · simp [gain, holdCount_cons, Hold.retain, lockedHold]
      omega
    · simp [gain, holdCount_cons, Hold.retain, lockedHold]
      omega
  · have hne : ¬object = p := fun heq => hp heq.symm
    simp [gain, holdCount_cons, hp, hne, lockedHold]

theorem Object.gain_perm {more : List Hold} (h : holds.Perm more) (p : ObjectRef) (o : Object) :
    o.gain holds p = o.gain more p := by
  unfold gain holdCount
  rw [h.count_eq, h.count_eq]

@[simp] theorem Object.lose_gain (holds : List Hold) (p : ObjectRef) (o : Object) :
    (o.gain holds p).lose holds p = o := by
  simp [lose, gain]

theorem Object.Referenced.outlasts (h : o.Referenced) (holds : List Hold) (p : ObjectRef) :
    (o.gain holds p).Outlasts holds p := by
  unfold Outlasts gain
  by_cases hinternal : o.internalReferenceCount = 0
  · right
    refine ⟨by simp [hinternal], ?_⟩
    exact h.resolve_left fun hne => hne hinternal
  · left
    simp only
    omega

theorem Hold.acquire_get (hold : Hold) (store : Store) (p : ObjectRef) :
    (hold.acquire store).objects.get p =
      (store.objects.get p).map fun o => if p = hold.object then hold.retain o else o := by
  rw [hold.acquire_eq, Store.modifyObject_objects, Heap.get_modify]
  split_ifs
  · rfl
  · exact Option.map_id'.symm

theorem Hold.drop_get (hold : Hold) (store : Store) (p : ObjectRef) :
    (hold.drop store).objects.get p =
      (store.objects.get p).map fun o => if p = hold.object then hold.forgo o else o := by
  rw [hold.drop_eq, Store.modifyObject_objects, Heap.get_modify]
  split_ifs
  · rfl
  · exact Option.map_id'.symm

theorem acquireAll_get (holds : List Hold) (store : Store) (p : ObjectRef) :
    (acquireAll holds store).objects.get p = (store.objects.get p).map (Object.gain holds p) := by
  induction holds generalizing store with
  | nil => exact Option.map_id'.symm
  | cons hold holds ih =>
      change (acquireAll holds (hold.acquire store)).objects.get p = _
      rw [ih, hold.acquire_get, Option.map_map]
      exact congrArg (fun f => (store.objects.get p).map f)
        (funext fun o => (o.gain_cons hold holds p).symm)

-- The object is still referenced without the first of these holds.
theorem Object.Outlasts.release (array : ArrayRemove) (hlast : ∀ other ∈ hold :: holds, ∃ o,
      store.objects.get other.object = some o ∧ o.Outlasts (hold :: holds) other.object) :
    hold.release array store = hold.drop store ∧ ∀ other ∈ holds, ∃ o,
      (hold.drop store).objects.get other.object = some o ∧ o.Outlasts holds other.object := by
  obtain ⟨o, ho, houtlasts⟩ := hlast hold List.mem_cons_self
  unfold Object.Outlasts at houtlasts
  rw [holdCount_cons, if_pos rfl] at houtlasts
  constructor
  · refine Hold.release_eq_drop ho (by omega) ?_
    rintro ⟨hzero, hexternal⟩
    rcases houtlasts with hlt | ⟨heq, hne⟩
    · omega
    · exact hne hexternal
  · intro other hmem
    obtain ⟨o', ho', houtlasts'⟩ := hlast other (List.mem_cons_of_mem _ hmem)
    refine ⟨_, by rw [hold.drop_get, ho', Option.map_some], ?_⟩
    unfold Object.Outlasts at houtlasts' ⊢
    rw [holdCount_cons] at houtlasts'
    split_ifs at houtlasts' ⊢
    · simp only [Hold.forgo]
      omega
    · omega

-- So it is there after each of them is released.
theorem releaseAll_get (array : ArrayRemove) (hlast : ∀ hold ∈ holds, ∃ o,
      store.objects.get hold.object = some o ∧ o.Outlasts holds hold.object) (p : ObjectRef) :
    (releaseAll array holds store).objects.get p =
      (store.objects.get p).map (Object.lose holds p) := by
  induction holds generalizing store with
  | nil => exact Option.map_id'.symm
  | cons hold holds ih =>
      obtain ⟨hreleased, hrest⟩ := Object.Outlasts.release array hlast
      change (releaseAll array holds (hold.release array store)).objects.get p = _
      rw [hreleased, ih hrest, hold.drop_get, Option.map_map]
      exact congrArg (fun f => (store.objects.get p).map f)
        (funext fun o => (o.lose_cons hold holds p).symm)

end Balance

end RedApid

import Mathlib.Data.Finset.Option
import RedApid.Files.Open
import RedApid.Store.Spawns

namespace RedApid.Opening

open Memory Files

section Specification

-- The objects with their references and locks, the descriptors and the Files.
structure Tables.Same (tables other : Tables) : Prop where
  objects : tables.store.SameObjects other.store
  descriptors : other.descriptors = tables.descriptors
  files : other.files = tables.files

-- The descriptors that are stored in a File.
def OpenedFile.handles (file : OpenedFile) : Finset IOHandle :=
  insert file.asyncReadEventfd (file.fd.toFinset ∪
    match file.pipe with
    | none => ∅
    | some pipe => {pipe.readHandle, pipe.writeHandle})

-- A File that was not there in `base`, with its descriptors and its hold on its name.
structure NewFile (array : ArrayRemove) (pipes : PipeFunctions) (base : Store) (table : HandleTable)
    (name object : ObjectRef) (file : OpenedFile) (tables : Tables) : Prop where
  fresh : base.objects.get object = none
  payload : tables.store.payload object = some (.file name)
  listed : object ∈ tables.store.objectArray .file
  stored : tables.files object = some file
  opened : tables.descriptors.opened = table.opened ∪ file.handles
  apart : Disjoint table.opened file.handles
  gained : ∀ p, p ≠ object → tables.store.objects.get p =
    (base.objects.get p).map (Object.gain [lockedHold name] p)
  restored : base.SameObjects (fileDestroy array pipes object tables).store ∧
    (fileDestroy array pipes object tables).descriptors = table
  given_back : ∀ later : Tables, later.store.payload object = some (.file name) →
    later.files object = some file →
    (fileDestroy array pipes object later).descriptors = later.descriptors.closeAll file.handles ∧
      (∀ p, p ≠ object → (fileDestroy array pipes object later).store.objects.get p =
        ((lockedHold name).release array later.store).objects.get p) ∧
      ((∃ o, later.store.objects.get name = some o ∧ o.Outlasts [lockedHold name] name) →
        ∀ p, p ≠ object → (fileDestroy array pipes object later).store.objects.get p =
          (later.store.objects.get p).map (Object.lose [lockedHold name] p))

-- What is stored behind the pointers.
structure OpenResult.Returns (result : OpenResult) (id object : Bool) (file : ObjectRef) :
    Prop where
  id : result.id = if id then result.tables.store.objectId file else none
  object : result.object = if object then some file else none

structure OpenExact (array : ArrayRemove) (pipes : PipeFunctions) (request : OpenRequest)
    (tables : Tables) (result : OpenResult) : Prop where
  unchanged : result.code ≠ 0 → tables.Same result.tables
  opened : result.code = 0 → ∃ name object file,
    inventoryGetObject [.string] request.nameId tables.store = .ok name ∧
      NewFile array pipes tables.store tables.descriptors name object file result.tables ∧
      result.Returns request.id request.object object

-- The string is in the inventory already, or it is there now with the reference and the lock of
-- the inventory.
inductive StockBase (store base : Store) (name : ObjectRef) : Prop
  | known (stock : store.stockString (ascii "<unnamed>") = some name)
      (same : store.SameObjects base)
  | added (unknown : store.stockString (ascii "<unnamed>") = none)
      (stock : base.stockStrings = store.stockStrings ++ [name])
      (fresh : store.objects.get name = none)
      (held : ∃ o, base.objects.get name = some o ∧ o.internalReferenceCount = 1 ∧
        o.lockCount = 1 ∧ o.externalReferenceCount = 0)
      (others : ∀ p, p ≠ name → base.objects.get p = store.objects.get p)

structure PipeExact (array : ArrayRemove) (pipes : PipeFunctions) (request : PipeRequest)
    (tables : Tables) (result : OpenResult) : Prop where
  unchanged : result.code ≠ 0 → tables.Same result.tables ∨
    ∃ base name, StockBase tables.store base name ∧
      ({ tables with store := base } : Tables).Same result.tables
  opened : result.code = 0 → ∃ base name object file, StockBase tables.store base name ∧
    NewFile array pipes base tables.descriptors name object file result.tables ∧
      result.Returns request.id request.object object

-- process_fork is reached and fails.
structure ForkFails (outcomes : OpenOutcomes) (request : OpenRequest) (store : Store) : Prop where
  valid : request.valid = true
  found : ∃ name, inventoryGetObject [.string] request.nameId store = .ok name ∧
    store.isAbsolutePath name = true ∧
    (request.flags &&& FILE_FLAG_REPLACE ≠ 0 → outcomes.unlink (store.text name) = none)
  other : ¬(outcomes.effectiveUid = request.uid ∧ outcomes.effectiveGid = request.gid)
  socketpair : outcomes.socketpair = none
  fork : outcomes.fork = false

end Specification

section Table

variable {outcomes : OpenOutcomes} {call : OpenCall} {table : HandleTable} {pair : IOHandle}

theorem value_ne_zero {code : APIE} (h : code ≠ .success) : value code ≠ 0 := by
  cases code <;> first | exact absurd rfl h | decide

-- A descriptor is opened, or the table is as before.
inductive Opens (table : HandleTable) : Except UInt8 IOHandle × HandleTable → Prop
  | failed (code : UInt8) (error : code ≠ 0) : Opens table (.error code, table)
  | opened (fd : IOHandle) (unused : fd ∉ table.opened) : Opens table (.ok fd, table.add fd)

theorem recvfd_eq (result : Except APIError Bool) (interruptions : Nat) (table : HandleTable) :
    recvfd result interruptions table = recvfd result 0 table := by
  induction interruptions with
  | zero => rfl
  | succ interruptions ih => exact ih

theorem waitpid_error {result : Except APIError ChildStatus} {interruptions : Nat} {code : UInt8}
    (h : waitpid result interruptions = .error code) : code ≠ 0 := by
  induction interruptions with
  | zero =>
      cases result with
      | error error =>
          cases h
          exact value_ne_zero error.property
      | ok status => cases h
  | succ interruptions ih => exact ih h

-- The end of the pair is closed in any case, and a descriptor that is not returned as well.
theorem receiveFile_opens (h : pair ∉ table.opened) :
    Opens table (receiveFile outcomes call pair (table.add pair)) := by
  unfold receiveFile
  rw [recvfd_eq]
  have hunused := (table.add pair).lowest_notMem
  have hne : (table.add pair).lowest ≠ pair := by
    rintro heq
    rw [heq] at hunused
    exact hunused (Finset.mem_insert_self _ _)
  have hclose : ((table.add pair).openLowest.2).close pair =
      table.add (table.add pair).lowest := by
    unfold HandleTable.openLowest
    rw [HandleTable.close_add_of_ne hne, HandleTable.close_add h]
  have hlowest : (table.add pair).lowest ∉ table.opened :=
    fun hmem => hunused (HandleTable.mem_add.mpr (Or.inr hmem))
  cases (outcomes.received call).result with
  | error code =>
      unfold recvfd
      dsimp only
      rw [HandleTable.close_add h]
      exact .failed _ (value_ne_zero code.property)
  | ok received =>
      cases received with
      | false =>
          unfold recvfd
          dsimp only
          rw [HandleTable.close_add h]
          cases hwait : waitpid (outcomes.waited call).result
            (outcomes.waited call).interruptions with
          | error code => exact .failed code (waitpid_error hwait)
          | ok status =>
              cases status with
              | notExited => exact .failed _ (by decide)
              | exited status =>
                  dsimp only
                  split_ifs with hstatus
                  · exact .failed status hstatus
                  · exact .failed _ (by decide)
      | true =>
          unfold recvfd
          dsimp only
          rw [hclose]
          have hback : closeReceived (some (table.add pair).openLowest.1)
              (table.add (table.add pair).lowest) = table := HandleTable.close_add hlowest
          cases hwait : waitpid (outcomes.waited call).result
            (outcomes.waited call).interruptions with
          | error code =>
              dsimp only
              rw [hback]
              exact .failed code (waitpid_error hwait)
          | ok status =>
              cases status with
              | notExited =>
                  dsimp only
                  rw [hback]
                  exact .failed _ (by decide)
              | exited status =>
                  dsimp only
                  split_ifs with hstatus
                  · rw [hback]
                    exact .failed status hstatus
                  · exact .opened _ hlowest

-- Nothing is closed if process_fork fails.
theorem fileOpenAs_opens (h : ¬(outcomes.socketpair = none ∧ outcomes.fork = false)) :
    Opens table (fileOpenAs outcomes call table) := by
  unfold fileOpenAs
  cases hpair : outcomes.socketpair with
  | some code => exact .failed _ (value_ne_zero code.property)
  | none =>
      have hfork : outcomes.fork = true := by
        by_contra hnot
        exact h ⟨hpair, by simpa using hnot⟩
      unfold HandleTable.openLowest
      dsimp only
      rw [hfork, Bool.not_true, if_neg Bool.false_ne_true,
        HandleTable.close_add (table.add table.lowest).lowest_notMem]
      exact receiveFile_opens table.lowest_notMem

theorem fileOpenAs_leaks (hpair : outcomes.socketpair = none) (hfork : outcomes.fork = false) :
    ∃ code other, fileOpenAs outcomes call table = (.error code, other) ∧ code ≠ 0 ∧
      other ≠ table := by
  unfold fileOpenAs
  rw [hpair, hfork]
  refine ⟨_, _, rfl, by decide, fun heq => ?_⟩
  have hsame := Finset.ext_iff.mp (congrArg HandleTable.opened heq) table.lowest
  apply table.lowest_notMem
  exact hsame.mp (HandleTable.mem_add.mpr (Or.inr (HandleTable.mem_add.mpr (Or.inl rfl))))

theorem openDescriptor_opens
    (h : ¬(¬(outcomes.effectiveUid = call.uid ∧ outcomes.effectiveGid = call.gid) ∧
      outcomes.socketpair = none ∧ outcomes.fork = false)) :
    Opens table (openDescriptor outcomes call table) := by
  unfold openDescriptor
  split_ifs with hsame
  · cases outcomes.openFile call with
    | some code => exact .failed _ (value_ne_zero code.property)
    | none => exact .opened _ table.lowest_notMem
  · exact fileOpenAs_opens fun hboth => h ⟨hsame, hboth⟩

end Table

section Phases

variable {array : ArrayRemove} {pipes : PipeFunctions} {tables last : Tables}
  {name object : ObjectRef} {file : OpenedFile} {base : Store}
  {result : Except UInt8 ObjectRef × Tables} {undo : Tables → Tables}

theorem Tables.Same.refl (tables : Tables) : tables.Same tables := ⟨fun _ => rfl, rfl, rfl⟩

-- An error, and nothing is left behind.
def Failed (tables : Tables) (result : Except UInt8 ObjectRef × Tables) : Prop :=
  ∃ code last, code ≠ 0 ∧ result = (.error code, last) ∧ tables.Same last

theorem Failed.error {code : UInt8} (h : code ≠ 0) : Failed tables (.error code, tables) :=
  ⟨code, tables, h, rfl, .refl tables⟩

theorem Failed.cleanup (h : Failed last result)
    (hundo : ∀ other, last.Same other → tables.Same (undo other)) :
    Failed tables (cleanup undo result) := by
  obtain ⟨code, other, hcode, rfl, hsame⟩ := h
  exact ⟨code, undo other, hcode, rfl, hundo other hsame⟩

-- A File has been created, with some descriptors that were not open before.
structure Created (tables : Tables) (name object : ObjectRef) (file : OpenedFile)
    (added : Finset IOHandle) (last : Tables) : Prop where
  fresh : tables.store.objects.get object = none
  payload : last.store.payload object = some (.file name)
  listed : object ∈ last.store.objectArray .file
  others : ∀ p, p ≠ object → last.store.objects.get p = tables.store.objects.get p
  stored : last.files object = some file
  opened : last.descriptors.opened = tables.descriptors.opened ∪ added
  apart : Disjoint tables.descriptors.opened added

-- An error, or a File that stores everything that has been opened for it.
inductive Creates (tables : Tables) (name : ObjectRef) : Except UInt8 ObjectRef × Tables → Prop
  | failed {result : Except UInt8 ObjectRef × Tables} (failed : Failed tables result) :
      Creates tables name result
  | created (object : ObjectRef) (file : OpenedFile) (last : Tables)
      (created : Created tables name object file file.handles last) :
      Creates tables name (.ok object, last)

variable {eventfd : Option APIError} {objectCreate : ObjectCreation} {session : Option SessionRef}
  {flags : UInt32} {files : IOHandle → OpenedFile} {ends : Finset IOHandle} {table : HandleTable}

theorem createFile_cases (tables : Tables) :
    Failed tables (createFile eventfd objectCreate name session flags files tables) ∨
      ∃ object last, createFile eventfd objectCreate name session flags files tables =
          (.ok object, last) ∧
        Created tables name object (files tables.descriptors.lowest) {tables.descriptors.lowest}
          last := by
  unfold createFile
  cases eventfd with
  | some code => exact Or.inl (.error (value_ne_zero code.property))
  | none =>
      have hunused := tables.descriptors.lowest_notMem
      unfold HandleTable.openLowest
      dsimp only
      rcases hcreate : tables.store.createObject objectCreate (.file name) session flags
        with ⟨code | object, store⟩
      · have hcode := createObject_error_code (congrArg Prod.fst hcreate)
        have hobjects := createObject_sameObjects (congrArg Prod.fst hcreate)
        rw [hcreate] at hobjects
        refine Or.inl ⟨value code, _, value_ne_zero hcode, rfl, hobjects, ?_, rfl⟩
        exact HandleTable.close_add hunused
      · obtain ⟨hobject, hlisted, o, ho, -, hpayload⟩ :=
          createObject_ok_object (congrArg Prod.fst hcreate)
        have hothers : ∀ p, p ≠ object → store.objects.get p = tables.store.objects.get p := by
          intro p hp
          have hne : p ≠ tables.store.objects.next := hobject ▸ hp
          have hget := createObject_get_ne objectCreate (.file name) session flags hne
          rw [hcreate] at hget
          exact hget
        rw [hcreate] at hlisted ho
        refine Or.inr ⟨object, _, rfl, ?_, ?_, hlisted, hothers, ?_, ?_, ?_⟩
        · rw [hobject]
          exact Heap.get_eq_none_of_next_le _ (Nat.le_refl _)
        · unfold Store.payload
          rw [ho, Option.map_some, hpayload]
        · exact Function.update_self _ _ _
        · exact (Finset.insert_eq _ _).trans (Finset.union_comm _ _)
        · exact Finset.disjoint_singleton_right.mpr hunused

-- The phases behind those that open the first descriptors, which are closed if they fail.
theorem createFile_creates (hopened : table.opened = tables.descriptors.opened ∪ ends)
    (hapart : Disjoint tables.descriptors.opened ends)
    (hfiles : ∀ handle, (files handle).handles = insert handle ends)
    (hundo : ∀ other, ({ tables with descriptors := table } : Tables).Same other →
      tables.Same (undo other)) :
    Creates tables name (cleanup undo (createFile eventfd objectCreate name session flags files
      { tables with descriptors := table })) := by
  rcases @createFile_cases name eventfd objectCreate session flags files
    { tables with descriptors := table } with hfailed | ⟨object, last, heq, hcreated⟩
  · exact .failed (hfailed.cleanup hundo)
  · rw [heq]
    refine .created object (files table.lowest) last
      ⟨hcreated.fresh, hcreated.payload, hcreated.listed, hcreated.others, hcreated.stored, ?_, ?_⟩
    · rw [hcreated.opened, hfiles, hopened, Finset.union_assoc, Finset.insert_eq,
        Finset.union_comm ends]
    · have hlast : Disjoint table.opened {table.lowest} := hcreated.apart
      rw [hopened, Finset.disjoint_union_left] at hlast
      rw [hfiles, Finset.insert_eq, Finset.disjoint_union_right]
      exact ⟨hlast.1, hapart⟩

theorem fileOpenDescriptor_creates {outcomes : OpenOutcomes} {request : OpenRequest} {fd : IOHandle}
    (hunused : fd ∉ tables.descriptors.opened) :
    Creates tables name (fileOpenDescriptor outcomes request name fd
      { tables with descriptors := tables.descriptors.add fd }) := by
  have hundo : ∀ other, ({ tables with descriptors := tables.descriptors.add fd } : Tables).Same
      other → tables.Same (Tables.close fd other) := by
    intro other hsame
    refine ⟨hsame.objects, ?_, hsame.files⟩
    unfold Tables.close
    rw [hsame.descriptors]
    exact HandleTable.close_add hunused
  unfold fileOpenDescriptor
  cases outcomes.fstat with
  | error code => exact .failed (Failed.cleanup (.error (value_ne_zero code.property)) hundo)
  | ok mode =>
      dsimp only
      cases outcomes.calloc with
      | false => exact .failed (Failed.cleanup (.error (by decide)) hundo)
      | true =>
          rw [Bool.not_true, if_neg Bool.false_ne_true]
          refine @createFile_creates _ _ _ _ _ _ _ _ {fd} _ ?_ ?_ ?_ hundo
          · exact (Finset.insert_eq _ _).trans (Finset.union_comm _ _)
          · exact Finset.disjoint_singleton_right.mpr hunused
          · intro handle
            rfl

theorem pipeCreateEnds_creates {outcomes : PipeOutcomes} {request : PipeRequest} {pipe : Pipe}
    (hpipes : pipes.Lawful)
    (hcreate : (pipes.create request.flags tables.descriptors).1 = .ok pipe) :
    Creates tables name (pipeCreateEnds pipes outcomes request name pipe
      { tables with descriptors := (pipes.create request.flags tables.descriptors).2 }) := by
  obtain ⟨hread, hwrite, hne, htable⟩ := hpipes.created _ _ _ hcreate
  rw [htable]
  have hundo : ∀ other, ({ tables with descriptors :=
      (tables.descriptors.add pipe.readHandle).add pipe.writeHandle } : Tables).Same other →
      tables.Same { other with descriptors := pipes.destroy pipe other.descriptors } := by
    intro other hsame
    refine ⟨hsame.objects, ?_, hsame.files⟩
    have hwrite' : pipe.writeHandle ∉ (tables.descriptors.add pipe.readHandle).opened := by
      intro hmem
      exact (HandleTable.mem_add.mp hmem).elim (fun heq => hne heq.symm) hwrite
    rw [hpipes.destroyed, hsame.descriptors]
    dsimp only
    rw [HandleTable.close_add hwrite', HandleTable.close_add hread]
  unfold pipeCreateEnds
  cases hsize : (if request.length > 0 then outcomes.setPipeSize else none) with
  | some code => exact .failed (Failed.cleanup (.error (value_ne_zero code.property)) hundo)
  | none =>
      refine @createFile_creates _ _ _ _ _ _ _ _ {pipe.readHandle, pipe.writeHandle} _ ?_ ?_ ?_
        hundo
      · ext handle
        simp [HandleTable.add]
        tauto
      · rw [Finset.disjoint_insert_right, Finset.disjoint_singleton_right]
        exact ⟨hread, hwrite⟩
      · intro handle
        rfl

end Phases

section Destroy

variable {array : ArrayRemove} {pipes : PipeFunctions} {tables last later : Tables}
  {name object : ObjectRef} {file : OpenedFile} {base : Store} {o : Object}

theorem closeEnds_close (hpipes : pipes.Lawful) (file : OpenedFile) (table : HandleTable) :
    (closeEnds pipes file table).close file.asyncReadEventfd = table.closeAll file.handles := by
  unfold closeEnds OpenedFile.handles
  rw [HandleTable.closeAll_insert]
  by_cases htype : file.type = .pipe
  · obtain ⟨pipe, hpipe⟩ := Option.ne_none_iff_exists'.mp (file.pipe_iff.mp htype)
    rw [if_pos htype, hpipe, file.fd_iff.mp htype]
    dsimp only
    rw [hpipes.destroyed, Option.toFinset_none, Finset.empty_union, HandleTable.closeAll_insert,
      HandleTable.closeAll_singleton]
  · obtain ⟨fd, hfd⟩ := Option.ne_none_iff_exists'.mp fun hnone => htype (file.fd_iff.mpr hnone)
    have hpipe : file.pipe = none := by
      by_contra hne
      exact htype (file.pipe_iff.mpr hne)
    rw [if_neg htype, hfd, hpipe]
    dsimp only
    rw [Option.toFinset_some, Finset.union_empty, HandleTable.closeAll_singleton]

theorem fileDestroy_eq (hpayload : later.store.payload object = some (.file name))
    (hstored : later.files object = some file) :
    fileDestroy array pipes object later =
      { store := (releaseAll array [lockedHold name] later.store).freeObject object
        descriptors := (closeEnds pipes file later.descriptors).close file.asyncReadEventfd
        files := Function.update later.files object none } := by
  unfold fileDestroy
  rw [hpayload, hstored]
  rfl

theorem fileDestroy_get (hpayload : later.store.payload object = some (.file name))
    (hstored : later.files object = some file) {p : ObjectRef} (hp : p ≠ object) :
    (fileDestroy array pipes object later).store.objects.get p =
      ((lockedHold name).release array later.store).objects.get p := by
  rw [fileDestroy_eq hpayload hstored]
  exact Heap.get_free_ne hp

theorem fileDestroy_lose (hpayload : later.store.payload object = some (.file name))
    (hstored : later.files object = some file)
    (hlast : ∃ o, later.store.objects.get name = some o ∧ o.Outlasts [lockedHold name] name)
    {p : ObjectRef} (hp : p ≠ object) :
    (fileDestroy array pipes object later).store.objects.get p =
      (later.store.objects.get p).map (Object.lose [lockedHold name] p) := by
  rw [fileDestroy_get hpayload hstored hp]
  have houtlasts : ∀ hold ∈ [lockedHold name], ∃ o, later.store.objects.get hold.object = some o ∧
      o.Outlasts [lockedHold name] hold.object := by
    intro hold hmem
    rw [List.mem_singleton.mp hmem]
    exact hlast
  exact releaseAll_get array houtlasts p

-- The name is referenced by others as well.
theorem Created.newFile {table : HandleTable} (hpipes : pipes.Lawful)
    (h : Created { tables with store := (lockedHold name).acquire base } name object file
      file.handles last)
    (ho : base.objects.get name = some o) (hreferenced : o.Referenced)
    (htable : tables.descriptors = table) :
    NewFile array pipes base table name object file last := by
  subst htable
  have hacquired : ∀ p, ((lockedHold name).acquire base).objects.get p =
      (base.objects.get p).map (Object.gain [lockedHold name] p) :=
    fun p => acquireAll_get [lockedHold name] base p
  have hfresh : base.objects.get object = none := by
    have hnone := h.fresh
    rw [hacquired] at hnone
    exact Option.map_eq_none_iff.mp hnone
  have hgained : ∀ p, p ≠ object → last.store.objects.get p =
      (base.objects.get p).map (Object.gain [lockedHold name] p) :=
    fun p hp => (h.others p hp).trans (hacquired p)
  have hne : name ≠ object := by
    rintro rfl
    rw [ho] at hfresh
    cases hfresh
  have hlast : ∃ o, last.store.objects.get name = some o ∧
      o.Outlasts [lockedHold name] name :=
    ⟨_, by rw [hgained name hne, ho, Option.map_some], hreferenced.outlasts _ _⟩
  refine ⟨hfresh, h.payload, h.listed, h.stored, h.opened, h.apart, hgained, ⟨fun p => ?_, ?_⟩,
    fun later hpayload hstored => ⟨?_, fun p hp => fileDestroy_get hpayload hstored hp,
      fun hlast p hp => fileDestroy_lose hpayload hstored hlast hp⟩⟩
  · by_cases hp : p = object
    · rw [hp, hfresh, fileDestroy_eq h.payload h.stored]
      exact Heap.get_free_self _ _
    · rw [fileDestroy_lose h.payload h.stored hlast hp, hgained p hp, Option.map_map]
      refine Eq.trans ?_ Option.map_id'
      exact congrArg (fun f => (base.objects.get p).map f)
        (funext fun o => Object.lose_gain [lockedHold name] p o)
  · rw [fileDestroy_eq h.payload h.stored]
    dsimp only
    rw [closeEnds_close hpipes]
    exact HandleTable.closeAll_of_union h.opened h.apart
  · rw [fileDestroy_eq hpayload hstored]
    exact closeEnds_close hpipes file later.descriptors

end Destroy

section Names

variable {array : ArrayRemove} {pipes : PipeFunctions} {tables : Tables} {pool : List Hold}
  {name : ObjectRef} {base : Store} {o : Object}

-- A File with its descriptors and its name, or an error and nothing is left behind.
def Completed (array : ArrayRemove) (pipes : PipeFunctions) (tables : Tables) (name : ObjectRef)
    (result : Except UInt8 ObjectRef × Tables) : Prop :=
  Failed tables result ∨ ∃ object file last, result = (.ok object, last) ∧
    NewFile array pipes tables.store tables.descriptors name object file last

-- The hold on the name is released, or the File has it.
theorem Creates.completed {result : Except UInt8 ObjectRef × Tables} (hpipes : pipes.Lawful)
    (ho : base.objects.get name = some o) (hreferenced : o.Referenced)
    (h : Creates { tables with store := (lockedHold name).acquire base } name result) :
    Completed array pipes { tables with store := base } name
      (cleanup (Tables.release array name) result) := by
  cases h with
  | failed hfailed =>
      refine Or.inl (hfailed.cleanup fun other hsame => ⟨?_, hsame.descriptors, hsame.files⟩)
      exact (@Hold.release_undoes array (lockedHold name) o _ _ ho hreferenced hsame.objects).1
  | created object file last hcreated =>
      exact Or.inr ⟨object, file, last, rfl, hcreated.newFile hpipes ho hreferenced rfl⟩

variable {outcomes : OpenOutcomes} {request : OpenRequest}

theorem fileOpenNamed_completed (hpipes : pipes.Lawful) (hsound : Sound pool tables.store)
    (hvalid : request.valid = true)
    (hfound : inventoryGetObject [.string] request.nameId tables.store = .ok name)
    (hmet : ¬ForkFails outcomes request tables.store) :
    Completed array pipes tables name (fileOpenNamed array outcomes request name
      { tables with store := (lockedHold name).acquire tables.store }) := by
  obtain ⟨o, ho, -, -, -, hreferenced⟩ := hsound.found hfound
  have hshape := Store.SameShape.acquire tables.store (lockedHold name)
  unfold fileOpenNamed
  refine Creates.completed hpipes ho hreferenced ?_
  dsimp only
  by_cases hempty : ((lockedHold name).acquire tables.store).isEmptyString name = true
  · rw [if_pos hempty]
    exact .failed (.error (by decide))
  rw [if_neg hempty]
  cases habsolute : ((lockedHold name).acquire tables.store).isAbsolutePath name with
  | false => exact .failed (.error (by decide))
  | true =>
      rw [Bool.not_true, if_neg Bool.false_ne_true, hshape.text]
      rw [hshape.isAbsolutePath] at habsolute
      cases hunlink : (if request.flags &&& FILE_FLAG_REPLACE ≠ 0 then
        outcomes.unlink (tables.store.text name) else none) with
      | some code => exact .failed (.error (value_ne_zero code.property))
      | none =>
          have hopens : Opens tables.descriptors (openDescriptor outcomes
              (request.call (tables.store.text name)) tables.descriptors) := by
            refine openDescriptor_opens fun hfails => hmet ?_
            refine ⟨hvalid, ⟨name, hfound, habsolute, fun hreplace => ?_⟩, hfails.1, hfails.2.1,
              hfails.2.2⟩
            rw [if_pos hreplace] at hunlink
            exact hunlink
          generalize openDescriptor outcomes (request.call (tables.store.text name))
            tables.descriptors = opened at hopens ⊢
          cases hopens with
          | failed code hcode => exact .failed (.error hcode)
          | opened fd hunused => exact @fileOpenDescriptor_creates { tables with
              store := (lockedHold name).acquire tables.store } name outcomes request fd hunused

theorem fileOpenPhases_completed (hpipes : pipes.Lawful) (hsound : Sound pool tables.store)
    (hmet : ¬ForkFails outcomes request tables.store) :
    Failed tables (fileOpenPhases array outcomes request tables) ∨
      ∃ name, inventoryGetObject [.string] request.nameId tables.store = .ok name ∧
        Completed array pipes tables name (fileOpenPhases array outcomes request tables) := by
  unfold fileOpenPhases
  cases hvalid : request.valid with
  | false => exact Or.inl (.error (by decide))
  | true =>
      rw [Bool.not_true, if_neg Bool.false_ne_true]
      rcases hsound.stringGetAcquiredAndLocked request.nameId with
        ⟨code, hcode, heq⟩ | ⟨name, o, hfound, -, -, heq⟩
      · rw [heq]
        exact Or.inl (.error (value_ne_zero hcode))
      · rw [heq]
        exact Or.inr ⟨name, hfound,
          fileOpenNamed_completed hpipes hsound hvalid hfound hmet⟩

-- Both ends of the pair stay open.
theorem ForkFails.leaks (h : ForkFails outcomes request tables.store) :
    ∃ code last, fileOpenPhases array outcomes request tables = (.error code, last) ∧ code ≠ 0 ∧
      last.descriptors ≠ tables.descriptors := by
  obtain ⟨name, hfound, habsolute, hunlink⟩ := h.found
  have hshape := Store.SameShape.acquire tables.store (lockedHold name)
  have hacquired : ((lockedHold name).acquire tables.store).isAbsolutePath name = true := by
    rw [hshape.isAbsolutePath, habsolute]
  have hempty := Store.isEmptyString_of_isAbsolutePath hacquired
  obtain ⟨code, other, heq, hcode, hne⟩ := @fileOpenAs_leaks outcomes
    (request.call (tables.store.text name)) tables.descriptors h.socketpair h.fork
  have hdescriptor : openDescriptor outcomes (request.call (tables.store.text name))
      tables.descriptors = (.error code, other) := by
    unfold openDescriptor
    rw [if_neg (show ¬(outcomes.effectiveUid = (request.call (tables.store.text name)).uid ∧
      outcomes.effectiveGid = (request.call (tables.store.text name)).gid) from h.other), heq]
  have hnone : (if request.flags &&& FILE_FLAG_REPLACE ≠ 0 then
      outcomes.unlink (tables.store.text name) else none) = none := by
    split_ifs with hreplace
    · exact hunlink hreplace
    · rfl
  unfold fileOpenPhases
  rw [h.valid, Bool.not_true, if_neg Bool.false_ne_true, stringGetAcquiredAndLocked_of_found hfound]
  unfold fileOpenNamed
  dsimp only
  rw [show (⟨name, true⟩ : Hold) = lockedHold name from rfl, hempty, if_neg Bool.false_ne_true,
    hacquired, Bool.not_true, if_neg Bool.false_ne_true, hshape.text, hnone]
  dsimp only
  rw [hdescriptor]
  exact ⟨code, _, rfl, hcode, hne⟩

variable {grow : GrowAllocation} {pipeOutcomes : PipeOutcomes} {pipeRequest : PipeRequest}

theorem pipeCreateNamed_completed (hpipes : pipes.Lawful) (ho : base.objects.get name = some o)
    (hreferenced : o.Referenced) :
    Completed array pipes { tables with store := base } name (pipeCreateNamed array pipes
      pipeOutcomes pipeRequest name { tables with store := (lockedHold name).acquire base }) := by
  unfold pipeCreateNamed
  refine Creates.completed hpipes ho hreferenced ?_
  dsimp only
  cases pipeOutcomes.calloc with
  | false => exact .failed (.error (by decide))
  | true =>
      rw [Bool.not_true, if_neg Bool.false_ne_true]
      rcases hcreate : pipes.create pipeRequest.flags tables.descriptors with
        ⟨code | pipe, descriptors⟩
      · have hsame := hpipes.failed _ _ code (congrArg Prod.fst hcreate)
        rw [hcreate] at hsame
        dsimp only at hsame ⊢
        rw [hsame]
        exact .failed (.error (value_ne_zero code.property))
      · have hends := @pipeCreateEnds_creates pipes
          { tables with store := (lockedHold name).acquire base } name pipeOutcomes pipeRequest pipe
          hpipes (congrArg Prod.fst hcreate)
        dsimp only at hends ⊢
        rw [hcreate] at hends
        exact hends

-- A new stock string has the reference and the lock of the inventory.
theorem StockBase.of_owned {created : Store} {s : StringObject}
    (hunknown : base.stockString (ascii "<unnamed>") = none)
    (h : base.Owned created name (.string s)) :
    StockBase base (created.appendStock name) name := by
  obtain ⟨id, hnew⟩ := h.new
  refine .added hunknown ?_ h.fresh ⟨_, hnew, rfl, rfl, rfl⟩ h.others
  unfold Store.appendStock
  dsimp only
  rw [h.stockStrings]

theorem pipeCreatePhases_completed (hpipes : pipes.Lawful) (hdirect : array.Direct)
    (hsound : Sound (pool ++ tables.store.stockHolds) tables.store) :
    Failed tables (pipeCreatePhases array pipes grow pipeOutcomes pipeRequest tables) ∨
      ∃ base name, StockBase tables.store base name ∧
        Completed array pipes { tables with store := base } name
          (pipeCreatePhases array pipes grow pipeOutcomes pipeRequest tables) := by
  unfold pipeCreatePhases
  split_ifs with hflags hlength
  · exact Or.inl (.error (by decide))
  · exact Or.inl (.error (by decide))
  · have hstock := @Sound.getStock array grow pool tables.store hsound hdirect pipeOutcomes.stock
      (ascii "<unnamed>")
    generalize inventoryGetStockString array grow pipeOutcomes.stock (ascii "<unnamed>")
      tables.store = result at hstock ⊢
    cases hstock with
    | found name o hfound ho hreferenced =>
        exact Or.inr ⟨tables.store, name, .known hfound fun _ => rfl,
          pipeCreateNamed_completed hpipes ho hreferenced⟩
    | made name s created hunknown _ _ _ _ _ howned _ =>
        obtain ⟨id, hnew⟩ := howned.new
        exact Or.inr ⟨created.appendStock name, name, .of_owned hunknown howned,
          pipeCreateNamed_completed hpipes hnew (Or.inl Nat.one_ne_zero)⟩
    | failed code last _ _ hcode hsame =>
        exact Or.inl ⟨value code, _, value_ne_zero hcode, rfl, hsame.objects, rfl, rfl⟩

end Names

section Exact

variable {array : ArrayRemove} {pipes : PipeFunctions} {tables : Tables} {pool : List Hold}
  {name : ObjectRef} {grow : GrowAllocation} {result : Except UInt8 ObjectRef × Tables}

theorem Failed.openResult (h : Failed tables result) (id object : Bool) :
    (openResult id object result).code ≠ 0 ∧ tables.Same (openResult id object result).tables := by
  obtain ⟨code, last, hcode, rfl, hsame⟩ := h
  exact ⟨hcode, hsame⟩

theorem Completed.openResult (h : Completed array pipes tables name result) (id object : Bool) :
    ((openResult id object result).code ≠ 0 ∧ tables.Same (openResult id object result).tables) ∨
      (openResult id object result).code = 0 ∧ ∃ new file,
        NewFile array pipes tables.store tables.descriptors name new file
          (openResult id object result).tables ∧
        (openResult id object result).Returns id object new := by
  rcases h with hfailed | ⟨new, file, last, rfl, hnew⟩
  · exact Or.inl (hfailed.openResult id object)
  · exact Or.inr ⟨rfl, new, file, hnew, ⟨rfl, rfl⟩⟩

theorem fileOpen_exact_iff (hpipes : pipes.Lawful) (hsound : Sound pool tables.store)
    (outcomes : OpenOutcomes) (request : OpenRequest) :
    OpenExact array pipes request tables (fileOpen array outcomes request tables) ↔
      ¬ForkFails outcomes request tables.store := by
  unfold fileOpen
  constructor
  · intro hexact hfails
    obtain ⟨code, last, heq, hcode, hne⟩ := @ForkFails.leaks array tables outcomes request hfails
    rw [heq] at hexact
    exact hne (hexact.unchanged hcode).descriptors
  · intro hmet
    have hphases := @fileOpenPhases_completed array pipes tables pool outcomes request hpipes hsound
      hmet
    rcases hphases with hfailed | ⟨name, hfound, hcompleted⟩
    · obtain ⟨hcode, hsame⟩ := hfailed.openResult request.id request.object
      exact ⟨fun _ => hsame, fun hzero => absurd hzero hcode⟩
    · rcases hcompleted.openResult request.id request.object with
        ⟨hcode, hsame⟩ | ⟨hzero, new, file, hnew, hreturns⟩
      · exact ⟨fun _ => hsame, fun hzero => absurd hzero hcode⟩
      · exact ⟨fun hcode => absurd hzero hcode, fun _ => ⟨name, new, file, hfound, hnew, hreturns⟩⟩

theorem pipeCreate_exact (hpipes : pipes.Lawful) (hdirect : array.Direct)
    (hsound : Sound (pool ++ tables.store.stockHolds) tables.store) (outcomes : PipeOutcomes)
    (request : PipeRequest) :
    PipeExact array pipes request tables (pipeCreate array pipes grow outcomes request tables) := by
  unfold pipeCreate
  rcases @pipeCreatePhases_completed array pipes tables pool grow outcomes request hpipes hdirect
    hsound with hfailed | ⟨base, name, hbase, hcompleted⟩
  · obtain ⟨hcode, hsame⟩ := hfailed.openResult request.id request.object
    exact ⟨fun _ => Or.inl hsame, fun hzero => absurd hzero hcode⟩
  · rcases hcompleted.openResult request.id request.object with
      ⟨hcode, hsame⟩ | ⟨hzero, new, file, hnew, hreturns⟩
    · exact ⟨fun _ => Or.inr ⟨base, name, hbase, hsame⟩, fun hzero => absurd hzero hcode⟩
    · exact ⟨fun hcode => absurd hzero hcode,
        fun _ => ⟨base, name, new, file, hbase, hnew, hreturns⟩⟩

-- The descriptors are leaked by file_open_as alone, if process_fork fails.
theorem open_descriptors_exact_iff
    (hsteps : Relation.ReflTransGen (StockStep .byIndex grow) ([], Store.init) (pool, tables.store))
    (hpipes : pipes.Lawful) (outcomes : OpenOutcomes) (request : OpenRequest)
    (pipeOutcomes : PipeOutcomes) (pipeRequest : PipeRequest) :
    (OpenExact .byIndex pipes request tables (fileOpen .byIndex outcomes request tables) ↔
        ¬ForkFails outcomes request tables.store) ∧
      PipeExact .byIndex pipes pipeRequest tables
        (pipeCreate .byIndex pipes grow pipeOutcomes pipeRequest tables) := by
  have hsound := sound_of_stockSteps ArrayRemove.byIndex_direct hsteps
  exact ⟨fileOpen_exact_iff hpipes hsound outcomes request,
    pipeCreate_exact hpipes ArrayRemove.byIndex_direct hsound pipeOutcomes pipeRequest⟩

end Exact

section Examples

-- A session with the string "/a".
def pathStore : Store :=
  ((sessionCreate ⟨true, none, none, none⟩ 10 Store.init).2.createObject ⟨true, none⟩
    (.string ⟨Block.malloc (fun i => (ascii "/a").getD i 0) 3, 2, 3⟩) (some 0)
    OBJECT_CREATE_FLAG_EXTERNAL).2

theorem pathStore_steps :
    Relation.ReflTransGen (StockStep .byIndex growTo16) ([], Store.init) ([], pathStore) := by
  have hsession : StockStep .byIndex growTo16 ([], Store.init)
      ([], (sessionCreate ⟨true, none, none, none⟩ 10 Store.init).2) :=
    .clean ⟨.sessionCreate [] _ ⟨true, none, none, none⟩ 10, Store.entriesLive_of_cells rfl⟩
  have hholder : HolderStep .byIndex ([], (sessionCreate ⟨true, none, none, none⟩ 10 Store.init).2)
      ([], pathStore) :=
    .created [] _ ⟨true, none⟩ (.string ⟨Block.malloc (fun i => (ascii "/a").getD i 0) 3, 2, 3⟩)
      (some 0) OBJECT_CREATE_FLAG_EXTERNAL 0 rfl (fun hold hmem => by cases hmem) rfl
  have hstring : StockStep .byIndex growTo16
      ([], (sessionCreate ⟨true, none, none, none⟩ 10 Store.init).2) ([], pathStore) :=
    .clean ⟨hholder, Store.entriesLive_of_cells rfl⟩
  exact (Relation.ReflTransGen.refl.tail hsession).tail hstring

-- The ends of a pipe are the lowest descriptors that are not open.
def lowestPipes : PipeFunctions where
  nonBlockingRead := 0x0001
  nonBlockingWrite := 0x0002
  create _ table :=
    let (readHandle, table) := table.openLowest
    let (writeHandle, table) := table.openLowest
    (.ok ⟨readHandle, writeHandle⟩, table)
  destroy pipe table := (table.close pipe.writeHandle).close pipe.readHandle

theorem lowestPipes_lawful : lowestPipes.Lawful where
  failed flags table code h := by cases h
  created flags table pipe h := by
    have hunused := (table.add table.lowest).lowest_notMem
    cases h
    refine ⟨table.lowest_notMem, fun hmem => ?_, fun heq => ?_, rfl⟩
    · exact hunused (HandleTable.mem_add.mpr (Or.inr hmem))
    · exact hunused (HandleTable.mem_add.mpr (Or.inl heq.symm))
  destroyed pipe table := rfl

def openTables : Tables := ⟨pathStore, ⟨{0, 1, 2}⟩, fun _ => none⟩

-- Not with the identity of the daemon, which is root.
def openRequest : OpenRequest where
  nameId := 1
  flags := FILE_FLAG_READ_ONLY
  permissions := 0
  uid := 1000
  gid := 1000
  session := some 0
  objectCreateFlags := 2
  id := true
  object := true

def openOutcomes (fork : Bool) : OpenOutcomes where
  effectiveUid := 0
  effectiveGid := 0
  unlink _ := none
  openFile _ := none
  socketpair := none
  fork
  received _ := ⟨1, .ok true⟩
  waited _ := ⟨0, .ok (.exited 0)⟩
  fstat := .ok .regular
  calloc := true
  eventfd := none
  objectCreate := ⟨true, none⟩

def pipeOutcomes : PipeOutcomes where
  stock := ⟨⟨some fun _ => 0, true, ⟨true, none⟩⟩, none⟩
  calloc := true
  setPipeSize := none
  eventfd := none
  objectCreate := ⟨true, none⟩

def pipeRequest : PipeRequest where
  flags := 0x0003
  length := 4096
  session := none
  objectCreateFlags := 1
  id := false
  object := true

theorem openTables_open_descriptors :
    OpenExact .byIndex lowestPipes openRequest openTables
        (fileOpen .byIndex (openOutcomes true) openRequest openTables) ∧
      PipeExact .byIndex lowestPipes pipeRequest openTables
        (pipeCreate .byIndex lowestPipes growTo16 pipeOutcomes pipeRequest openTables) := by
  obtain ⟨hopen, hpipe⟩ := @open_descriptors_exact_iff lowestPipes openTables [] growTo16
    pathStore_steps lowestPipes_lawful (openOutcomes true) openRequest pipeOutcomes pipeRequest
  exact ⟨hopen.mpr fun hfails => absurd hfails.fork (by decide), hpipe⟩

-- Without a child the socket pair stays open.
theorem file_open_leaks_socketpair :
    Relation.ReflTransGen (StockStep .byIndex growTo16) ([], Store.init) ([], openTables.store) ∧
      (fileOpen .byIndex (openOutcomes false) openRequest openTables).code = value .internalError ∧
      (fileOpen .byIndex (openOutcomes false) openRequest openTables).tables.descriptors.opened =
        {0, 1, 2, 3, 4} ∧
      ¬OpenExact .byIndex lowestPipes openRequest openTables
        (fileOpen .byIndex (openOutcomes false) openRequest openTables) := by
  have hdescriptors : (fileOpen .byIndex (openOutcomes false) openRequest
      openTables).tables.descriptors.opened = {0, 1, 2, 3, 4} := by decide
  refine ⟨pathStore_steps, by decide, hdescriptors, fun hexact => ?_⟩
  have hsame := (hexact.unchanged (by decide)).descriptors
  rw [hsame] at hdescriptors
  exact absurd hdescriptors (by decide)

end Examples

end RedApid.Opening

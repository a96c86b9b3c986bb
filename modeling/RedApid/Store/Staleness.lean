import RedApid.Store.Filing

namespace RedApid

open Memory

section Index

variable {α : Type} [DecidableEq α] {items : List α} {a b : α} {i j : Nat}

-- An item keeps its index if one behind it goes.
theorem idxOf?_erase_of_lt (ha : items.idxOf? a = some i) (hb : items.idxOf? b = some j)
    (hlt : i < j) : (items.erase b).idxOf? a = some i := by
  have herase : items.erase b = items.eraseIdx j := by
    rw [List.erase_eq_eraseIdx, hb]
  obtain ⟨hi, hat, hfront⟩ := List.idxOf?_eq_some_iff.mp ha
  obtain ⟨hj, -⟩ := List.idxOf?_eq_some_iff.mp hb
  rw [herase, List.idxOf?_eq_some_iff]
  have hlength : (items.eraseIdx j).length = items.length - 1 := List.length_eraseIdx_of_lt hj
  refine ⟨by omega, ?_, fun k hk => ?_⟩
  · rw [List.getElem_eraseIdx_of_lt (by omega) hlt]
    exact hat
  · rw [List.getElem_eraseIdx_of_lt (by omega) (Nat.lt_trans hk hlt)]
    exact hfront k hk

end Index

section Crossing

variable {store other last : Store} {tasks rest : List Task}

-- While an item is being removed from an array, one in front of it is removed.
inductive Crosses : List Task → Store → Prop where
  | here {object : ObjectRef} {rest : List Task} {store : Store} {o : Object} {i j : Nat}
      {p : ObjectRef} (get : store.objects.get object = some o)
      (index : (store.objectArray o.type).idxOf? object = some j)
      (pending : Task.shift o.type i p ∈ rest) (front : j ≤ i) :
      Crosses (.removeObject object :: rest) store
  | step {task : Task} {rest : List Task} {store : Store}
      (next : Crosses ((task.run .exact store).1 ++ rest) (task.run .exact store).2) :
      Crosses (task :: rest) store

def Task.Inside : Task → Task → Prop
  | .shift type j _, .shift type' i _ => type = type' → i < j
  | _, _ => True

-- What is being removed is still at its index, and behind what its removal belongs to.
structure Fresh (tasks : List Task) (store : Store) : Prop where
  index : ∀ type i p, Task.shift type i p ∈ tasks → (store.objectArray type).idxOf? p = some i
  inside : tasks.Pairwise Task.Inside

theorem Task.run_eq (task : Task) (store : Store)
    (hshift : ∀ type i p, task = .shift type i p → (store.objectArray type).idxOf? p = some i) :
    task.run .byIndex store = task.run .exact store := by
  cases task with
  | shift type i p =>
      have hindex := hshift type i p rfl
      simp only [Task.run]
      rw [ArrayRemove.byIndex_direct i p _ hindex]
      rfl
  | _ => rfl

theorem Fresh.nil (store : Store) : Fresh [] store :=
  ⟨fun _ _ _ hmem => (by cases hmem), .nil⟩

-- Nothing new is being removed.
theorem Fresh.congr {task : Task} {more : List Task} (h : Fresh (task :: rest) store)
    (harray : other.objectArray = store.objectArray)
    (hnone : ∀ type i p, Task.shift type i p ∉ more) : Fresh (more ++ rest) other := by
  have hinside : ∀ head ∈ more, ∀ other, Task.Inside head other := by
    intro head hmem other
    cases head with
    | shift type i p => exact absurd hmem (hnone type i p)
    | _ => trivial
  refine ⟨fun type i p hmem => ?_, List.pairwise_append.mpr ⟨?_, h.inside.of_cons, ?_⟩⟩
  · rw [harray]
    rcases List.mem_append.mp hmem with hmem | hmem
    · exact absurd hmem (hnone type i p)
    · exact h.index type i p (List.mem_cons_of_mem _ hmem)
  · exact List.pairwise_of_forall_mem_list fun head hmem other _ => hinside head hmem other
  · exact fun head hmem other _ => hinside head hmem other

theorem Fresh.removeObject {object : ObjectRef} (h : Fresh (.removeObject object :: rest) store)
    (hnot : ¬Crosses (.removeObject object :: rest) store) :
    Fresh ((Task.run .exact (.removeObject object) store).1 ++ rest)
      (Task.run .exact (.removeObject object) store).2 := by
  cases hget : store.objects.get object with
  | none =>
      simp only [Task.run, hget]
      exact h.congr rfl fun _ _ _ hmem => (by cases hmem)
  | some o =>
      cases hindex : (store.objectArray o.type).idxOf? object with
      | none =>
          simp only [Task.run, hget, hindex]
          exact h.congr rfl fun _ _ _ hmem => (by cases hmem)
      | some j =>
          simp only [Task.run, hget, hindex, List.cons_append, List.nil_append]
          have hpending : ∀ type i p, Task.shift type i p ∈ rest →
              (store.objectArray type).idxOf? p = some i :=
            fun type i p hmem => h.index type i p (List.mem_cons_of_mem _ hmem)
          refine ⟨fun type i p hmem => ?_, ?_⟩
          · rcases List.mem_cons.mp hmem with heq | hmem
            · cases heq
            · rcases List.mem_cons.mp hmem with heq | hmem
              · cases heq
                exact hindex
              · exact hpending type i p hmem
          · refine List.pairwise_cons.mpr ⟨fun _ _ => trivial, List.pairwise_cons.mpr
              ⟨fun other hmem => ?_, h.inside.of_cons⟩⟩
            cases other with
            | shift type i p =>
                rintro rfl
                by_contra hle
                exact hnot (.here hget hindex hmem (Nat.le_of_not_lt hle))
            | _ => trivial

theorem Fresh.shift {type : ObjectType} {i : Nat} {object : ObjectRef}
    (h : Fresh (.shift type i object :: rest) store) :
    Fresh rest (store.setObjectArray type ((store.objectArray type).erase object)) := by
  refine ⟨fun other j p hmem => ?_, h.inside.of_cons⟩
  have hindex := h.index other j p (List.mem_cons_of_mem _ hmem)
  rw [Store.setObjectArray_objectArray]
  split_ifs with htype
  · subst htype
    have hlt : j < i := (List.pairwise_cons.mp h.inside).1 _ hmem rfl
    exact idxOf?_erase_of_lt hindex (h.index other i object List.mem_cons_self) hlt
  · exact hindex

theorem Fresh.run {task : Task} (h : Fresh (task :: rest) store)
    (hnot : ¬Crosses (task :: rest) store) :
    Fresh ((task.run .exact store).1 ++ rest) (task.run .exact store).2 := by
  cases task with
  | drop hold =>
      obtain ⟨harray, -, htasks⟩ := objectDropTasks_frame hold.object (hold.unlock store)
      rw [hold.unlock_objectArray] at harray
      refine h.congr harray fun type i p hmem => ?_
      simp only [Task.run] at hmem
      rcases htasks with htasks | htasks
      · rw [htasks] at hmem
        cases hmem
      · rw [htasks] at hmem
        cases List.mem_singleton.mp hmem
  | removeObject object => exact h.removeObject hnot
  | destroy object =>
      cases hget : store.objects.get object with
      | none =>
          simp only [Task.run, hget]
          exact h.congr rfl fun _ _ _ hmem => (by cases hmem)
      | some o =>
          simp only [Task.run, hget]
          refine h.congr (Store.SameInternals.foldl_objectDropReference object o.externalReferences
            store).objectArray fun type i p hmem => ?_
          simp only [List.mem_append, List.mem_map, List.mem_singleton, reduceCtorEq, and_false,
            exists_false, or_self] at hmem
  | free object => exact h.congr rfl fun _ _ _ hmem => (by cases hmem)
  | shift type i object => exact h.shift

-- As long as no removal is overtaken, each item is found at its index.
theorem Runs.byIndex (hruns : Runs .exact tasks store last) (hnot : ¬Crosses tasks store)
    (h : Fresh tasks store) : Runs .byIndex tasks store last := by
  induction hruns with
  | done store => exact .done store
  | @step task rest store last _ ih =>
      have hsame : task.run .byIndex store = task.run .exact store := by
        refine task.run_eq store fun type i p heq => ?_
        subst heq
        exact h.index type i p List.mem_cons_self
      refine .step ?_
      rw [hsame]
      exact ih (fun hnext => hnot (.step hnext)) (h.run hnot)

theorem Store.remove_byIndex {object : ObjectRef} (hnot : ¬Crosses [.removeObject object] store) :
    store.remove .byIndex object = store.remove .exact object := by
  have hfresh : Fresh [.removeObject object] store := by
    refine ⟨fun type i p hmem => ?_, List.pairwise_singleton _ _⟩
    cases List.mem_singleton.mp hmem
  exact ((Store.remove_runs object store).byIndex hnot hfresh).unique (Store.remove_runs object store)

end Crossing

section Calls

variable (array : ArrayRemove) (store : Store)

-- The public functions that make and destroy strings and lists.
inductive ObjectCall where
  | sessionCreate (outcome : SessionCreation) (lifetime : UInt32)
  | stringAllocate (grow : GrowAllocation) (memory : Allocation) (calloc : Bool)
      (outcome : ObjectCreation) (reserve : UInt32) (buffer : List UInt8) (session : SessionRef)
  | listAllocate (outcome : ListCreation) (session : SessionRef)
  | listAppendTo (append : Option APIError) (listId itemId : ObjectID)
  | listRemoveFrom (listId : ObjectID) (index : UInt16)
  | objectRelease (objectId : ObjectID) (session : SessionRef)
  | sessionExpire (session : SessionRef)

def ObjectCall.run : ObjectCall → Store
  | .sessionCreate outcome lifetime => (RedApid.sessionCreate outcome lifetime store).2
  | .stringAllocate grow memory calloc outcome reserve buffer session =>
      (stringAllocateObject grow memory calloc outcome reserve buffer (some session)
        OBJECT_CREATE_FLAG_EXTERNAL store).2
  | .listAllocate outcome session =>
      (RedApid.listAllocate outcome (some session) OBJECT_CREATE_FLAG_EXTERNAL store).2
  | .listAppendTo append listId itemId =>
      match inventoryGetObject [.list] listId store with
      | .error _ => store
      | .ok list => (RedApid.listAppendTo append list itemId store).2
  | .listRemoveFrom listId index =>
      match inventoryGetObject [.list] listId store with
      | .error _ => store
      | .ok list => (RedApid.listRemoveFrom array list index store).2
  | .objectRelease objectId session =>
      match inventoryGetObject ObjectType.all objectId store with
      | .error _ => store
      | .ok object => (RedApid.objectRelease array object session store).2
  | .sessionExpire session => (RedApid.sessionExpire array session store).2

-- The object that is left without a reference takes an object in front of it along.
def Store.RemovalCrosses (object : ObjectRef) : Prop :=
  ∃ o, store.objects.get object = some o ∧ o.internalReferenceCount = 0 ∧
    o.externalReferenceCount = 0 ∧ Crosses [.removeObject object] store

def Store.ReleaseCrosses (object : ObjectRef) (session : SessionRef) : Prop :=
  ∃ reference, store.findReference object session = some reference ∧
    (store.releaseReference reference object session).RemovalCrosses object

-- One of the entries of the session, from the first to the last.
inductive ExpireCrosses (session : SessionRef) : Store → Prop where
  | here {store : Store} {reference : ReferenceRef} {references : List ReferenceRef}
      {e : ExternalReference}
      (head : (store.sessions.get session).map (·.externalReferences) =
        some (reference :: references))
      (get : store.references.get reference = some e)
      (crosses : (store.dropReference reference e.object session e.count).RemovalCrosses e.object) :
      ExpireCrosses session store
  | next {store : Store} {reference : ReferenceRef} {references : List ReferenceRef}
      (head : (store.sessions.get session).map (·.externalReferences) =
        some (reference :: references))
      (rest : ExpireCrosses session (sessionDropReference .exact session reference store)) :
      ExpireCrosses session store

-- No list is destroyed inside the destruction of a list behind it, and a creation that fails leaves
-- no entry.
def ObjectCall.Meets : ObjectCall → Prop
  | .stringAllocate grow memory calloc outcome reserve buffer session =>
      ∀ string, RedApid.stringAllocate grow ⟨memory, calloc, .success⟩ reserve buffer = .ok string →
        ¬store.LeavesEntry outcome (some session) OBJECT_CREATE_FLAG_EXTERNAL
  | .listAllocate outcome session => outcome.calloc = true → outcome.arrayCreate = none →
      ¬store.LeavesEntry outcome.objectCreate (some session) OBJECT_CREATE_FLAG_EXTERNAL
  | .listRemoveFrom listId index => ∀ list l item,
      inventoryGetObject [.list] listId store = .ok list → store.objects.get list = some l →
      l.lockCount = 0 → l.items[index.toNat]? = some item →
        ¬Crosses [.drop (lockedHold item)] store
  | .objectRelease objectId session => ∀ object,
      inventoryGetObject ObjectType.all objectId store = .ok object →
        ¬store.ReleaseCrosses object session
  | .sessionExpire session => ¬ExpireCrosses session store
  | _ => True

structure InventoryExact : Prop where
  exact : store.Exact
  found : ∀ types id object, inventoryGetObject types id store = .ok object ↔
    ∃ o, store.objects.get object = some o ∧ o.type ∈ types ∧ o.id = id

end Calls

section Indices

variable {store other : Store} {object : ObjectRef} {session : SessionRef}

theorem Store.removeUnreferenced_byIndex (hnot : ¬store.RemovalCrosses object) :
    store.removeUnreferenced .byIndex object = store.removeUnreferenced .exact object := by
  unfold removeUnreferenced
  cases ho : store.objects.get object with
  | none => rfl
  | some o =>
      dsimp only
      by_cases hzero : o.internalReferenceCount = 0 ∧ o.externalReferenceCount = 0
      · rw [if_pos hzero, if_pos hzero]
        exact store.remove_byIndex fun hcrosses => hnot ⟨o, ho, hzero.1, hzero.2, hcrosses⟩
      · rw [if_neg hzero, if_neg hzero]

theorem objectRemoveExternalReference_byIndex (hnot : ¬store.ReleaseCrosses object session) :
    objectRemoveExternalReference .byIndex object session store =
      objectRemoveExternalReference .exact object session store := by
  unfold objectRemoveExternalReference
  cases ho : store.objects.get object with
  | none => rfl
  | some o =>
      dsimp only
      by_cases hexternal : o.externalReferenceCount = 0
      · rw [if_pos hexternal, if_pos hexternal]
      rw [if_neg hexternal, if_neg hexternal]
      cases hfind : store.findReference object session with
      | none => rfl
      | some reference =>
          dsimp only
          by_cases hzero : o.internalReferenceCount = 0 ∧ o.externalReferenceCount - 1 = 0
          · rw [if_pos hzero, if_pos hzero]
            refine Store.remove_byIndex fun hcrosses => hnot ⟨reference, hfind, ?_⟩
            obtain ⟨-, hobject⟩ := Store.Collecting.releaseReference_get reference object session store
            obtain ⟨o', ho', hinternal, hexternal'⟩ := hobject o ho
            exact ⟨o', ho', hinternal.trans hzero.1, hexternal'.trans hzero.2, hcrosses⟩
          · rw [if_neg hzero, if_neg hzero]

theorem objectRelease_byIndex (hnot : ¬store.ReleaseCrosses object session) :
    objectRelease .byIndex object session store = objectRelease .exact object session store := by
  unfold objectRelease
  rw [objectRemoveExternalReference_byIndex hnot]

theorem sessionDropReference_byIndex {reference : ReferenceRef}
    (hnot : ∀ e, store.references.get reference = some e →
      ¬(store.dropReference reference e.object session e.count).RemovalCrosses e.object) :
    sessionDropReference .byIndex session reference store =
      sessionDropReference .exact session reference store := by
  unfold sessionDropReference
  cases he : store.references.get reference with
  | none => rfl
  | some e => exact Store.removeUnreferenced_byIndex (hnot e he)

theorem removeExternalReferences_byIndex (rounds : Nat) (hnot : ¬ExpireCrosses session store) :
    removeExternalReferences .byIndex rounds session store =
      removeExternalReferences .exact rounds session store := by
  induction rounds generalizing store with
  | zero => rfl
  | succ rounds ih =>
      unfold removeExternalReferences
      cases hhead : (store.sessions.get session).map (·.externalReferences) with
      | none => rfl
      | some references =>
          cases references with
          | nil => rfl
          | cons reference references =>
              dsimp only
              rw [sessionDropReference_byIndex fun e he hcrosses => hnot (.here hhead he hcrosses)]
              exact ih fun hrest => hnot (.next hhead hrest)

theorem removeExternalReferences_empty (array : ArrayRemove) (rounds : Nat) {s : Session}
    (hs : store.sessions.get session = some s) (hempty : s.externalReferences = []) :
    removeExternalReferences array rounds session store = store := by
  cases rounds <;> simp [removeExternalReferences, hs, hempty]

theorem sessionExpireHelper_byIndex (hcounted : store.Counted) (hnot : ¬ExpireCrosses session store) :
    sessionExpireHelper .byIndex session store = sessionExpireHelper .exact session store := by
  have hfirst : sessionRemoveExternalReferences .byIndex session store =
      sessionRemoveExternalReferences .exact session store := by
    unfold sessionRemoveExternalReferences
    cases store.sessions.get session with
    | none => rfl
    | some s => exact removeExternalReferences_byIndex _ hnot
  obtain ⟨-, -, hempty⟩ := sessionRemoveExternalReferences_counted .exact session hcounted
  have hagain : sessionDestroy .byIndex session (sessionRemoveExternalReferences .exact session store) =
      sessionDestroy .exact session (sessionRemoveExternalReferences .exact session store) := by
    unfold sessionDestroy
    generalize sessionRemoveExternalReferences .exact session store = dropped at hempty
    unfold sessionRemoveExternalReferences
    cases hs : dropped.sessions.get session with
    | none => rfl
    | some s =>
        dsimp only
        rw [removeExternalReferences_empty .byIndex _ hs (hempty s hs),
          removeExternalReferences_empty .exact _ hs (hempty s hs)]
  unfold sessionExpireHelper inventoryRemoveSession
  rw [hfirst]
  dsimp only
  rw [hagain]

theorem Hold.release_byIndex {hold : Hold} (hnot : ¬Crosses [.drop hold] store) :
    hold.release .byIndex store = hold.release .exact store := by
  have hfresh : Fresh [.drop hold] store := by
    refine ⟨fun type i p hmem => ?_, List.pairwise_singleton _ _⟩
    cases List.mem_singleton.mp hmem
  exact ((hold.release_runs store).byIndex hnot hfresh).unique (hold.release_runs store)

theorem ObjectCall.run_byIndex {call : ObjectCall} (hcounted : store.Counted)
    (hmeets : call.Meets store) : call.run .byIndex store = call.run .exact store := by
  cases call with
  | listRemoveFrom listId index =>
      simp only [run]
      cases hlist : inventoryGetObject [.list] listId store with
      | error code => rfl
      | ok list =>
          simp only [RedApid.listRemoveFrom]
          cases hl : store.objects.get list with
          | none => rfl
          | some l =>
              dsimp only
              by_cases hlock : l.lockCount > 0
              · rw [if_pos hlock, if_pos hlock]
              rw [if_neg hlock, if_neg hlock]
              cases hitem : l.items[index.toNat]? with
              | none => rfl
              | some item =>
                  have hrelease := Hold.release_byIndex
                    (hmeets list l item hlist hl (Nat.eq_zero_of_not_pos hlock) hitem)
                  exact congrArg (fun released : Store => released.removeItem list index.toNat) hrelease
  | objectRelease objectId session =>
      simp only [run]
      cases hobject : inventoryGetObject ObjectType.all objectId store with
      | error code => rfl
      | ok object => exact congrArg Prod.snd (objectRelease_byIndex (hmeets object hobject))
  | sessionExpire session => exact sessionExpireHelper_byIndex hcounted hmeets
  | _ => rfl

end Indices

section Runs

variable {array : ArrayRemove} {pool next : List Hold} {store other : Store}

theorem CleanStep.exact (hstep : CleanStep .exact (pool, store) (next, other)) (h : store.Exact) :
    other.Exact := by
  rcases hstep.1.operations with ⟨operations, rfl⟩ | ⟨outcome, payload, session, flags, rfl⟩
  · clear hstep
    induction operations generalizing store with
    | nil => exact h
    | cons operation operations ih => exact ih (operation.exact h)
  · exact createObject_exact outcome payload session flags h

theorem Sound.list_payload (h : Sound pool store) (htyped : store.Typed) {id : ObjectID}
    {list : ObjectRef} (hfound : inventoryGetObject [.list] id store = .ok list) :
    ∃ l, store.objects.get list = some l ∧ l.payload.type = .list := by
  obtain ⟨l, hl, -, htype, -⟩ := h.found hfound
  exact ⟨l, hl, (htyped list l hl).symm.trans (List.mem_singleton.mp htype)⟩

theorem ObjectCall.steps {call : ObjectCall} (h : Sound pool store) (htyped : store.Typed)
    (hmeets : call.Meets store) :
    Relation.ReflTransGen (CleanStep array) (pool, store) (pool, call.run array store) := by
  cases call with
  | sessionCreate outcome lifetime =>
      exact .single (@Sound.cleanStep array _ _ _ _ h [.sessionCreate outcome lifetime]
        (.sessionCreate pool store outcome lifetime) rfl)
  | stringAllocate grow memory calloc outcome reserve buffer session =>
      simp only [run, stringAllocateObject]
      cases hstring : RedApid.stringAllocate grow ⟨memory, calloc, .success⟩ reserve buffer with
      | error code => exact .refl
      | ok string => exact .single (h.createStep outcome session rfl rfl (hmeets string hstring))
  | listAllocate outcome session =>
      simp only [run]
      rcases listAllocate_createObject outcome (some session) OBJECT_CREATE_FLAG_EXTERNAL store with
        ⟨code, -, hallocate, -⟩ | ⟨hcalloc, hcreate, hallocate⟩
      · rw [hallocate]
      · rw [hallocate]
        exact .single (h.createStep outcome.objectCreate session rfl rfl (hmeets hcalloc hcreate))
  | listAppendTo append listId itemId =>
      simp only [run]
      cases hlist : inventoryGetObject [.list] listId store with
      | error code => exact .refl
      | ok list =>
          obtain ⟨l, hl, hpayload⟩ := h.list_payload htyped hlist
          obtain ⟨operations, hoperations⟩ :=
            @listAppendTo_operations array store append list itemId l hl
          exact .single (h.cleanStep (.listAppendTo pool store append list itemId l hl hpayload)
            hoperations)
  | listRemoveFrom listId index =>
      simp only [run]
      cases hlist : inventoryGetObject [.list] listId store with
      | error code => exact .refl
      | ok list =>
          obtain ⟨l, hl, hpayload⟩ := h.list_payload htyped hlist
          obtain ⟨operations, hoperations⟩ := @listRemoveFrom_operations array store list index l hl
          exact .single (h.cleanStep (.listRemoveFrom pool store list index l hl hpayload) hoperations)
  | objectRelease objectId session =>
      simp only [run]
      cases inventoryGetObject ObjectType.all objectId store with
      | error code => exact .refl
      | ok object =>
          exact .single (@Sound.cleanStep array _ _ _ _ h [.release object session]
            (.objectRelease pool store object session) rfl)
  | sessionExpire session =>
      exact .single (@Sound.cleanStep array _ _ _ _ h [.sessionExpire session]
        (.sessionExpire pool store session) rfl)

-- A call that meets the condition.
def CallStep (store other : Store) : Prop :=
  ∃ call : ObjectCall, call.Meets store ∧ other = call.run .byIndex store

theorem exact_of_cleanSteps
    (h : Relation.ReflTransGen (CleanStep .exact) ([], Store.init) (pool, store)) : store.Exact := by
  generalize hlast : (pool, store) = last at h
  induction h generalizing pool store with
  | refl =>
      cases hlast
      refine ⟨fun _ => List.nodup_nil, fun _ _ => ?_⟩
      simp [Store.init]
  | @tail before _ _ hstep ih =>
      subst hlast
      exact hstep.exact (@ih before.1 before.2 rfl)

-- Every call has the effect that it has where the arrays lose exactly what is destroyed.
theorem CallStep.steps (h : Relation.ReflTransGen CallStep Store.init store) :
    Relation.ReflTransGen (CleanStep .exact) ([], Store.init) ([], store) := by
  induction h with
  | refl => exact .refl
  | tail _ hstep ih =>
      obtain ⟨call, hmeets, rfl⟩ := hstep
      have hsound := sound_of_steps ih
      rw [call.run_byIndex hsound.counted hmeets]
      exact ih.trans (call.steps hsound (typed_of_steps ih) hmeets)

theorem inventory_exact_of_calls (h : Relation.ReflTransGen CallStep Store.init store) :
    InventoryExact store := by
  have hsteps := CallStep.steps h
  have hsound := sound_of_steps hsteps
  have hexact := exact_of_cleanSteps hsteps
  refine ⟨hexact, fun types id object => ⟨fun hfound => ?_, ?_⟩⟩
  · obtain ⟨o, ho, -, htype, hid, -⟩ := hsound.found hfound
    exact ⟨o, ho, htype, hid⟩
  · rintro ⟨o, ho, htype, rfl⟩
    refine hsound.identified.inventoryGetObject_eq htype ((hexact.mem_iff _ _).mpr ⟨o, ho, rfl⟩) ?_
    unfold Store.objectId
    rw [ho, Option.map_some]

end Runs

section Examples

def ObjectCall.runAll (array : ArrayRemove) (calls : List ObjectCall) (store : Store) : Store :=
  calls.foldl (fun store call => call.run array store) store

-- A session and two lists, the second is an item of the first alone.
def nestedCalls : List ObjectCall :=
  [.sessionCreate ⟨true, none, none, none⟩ 10,
    .listAllocate ⟨true, none, ⟨true, none⟩⟩ 0,
    .listAllocate ⟨true, none, ⟨true, none⟩⟩ 0,
    .listAppendTo none 1 2,
    .objectRelease 2 0]

def nestedLists (count : Nat) : Store :=
  ObjectCall.runAll .byIndex (nestedCalls.take count) Store.init

theorem not_leavesEntry {store : Store} {outcome : ObjectCreation} {session : Option SessionRef}
    {flags : UInt32} (happend : outcome.append = none) {id : ObjectID} (hid : id ≠ 0)
    (hfree : store.objectIdInUse id = false) : ¬store.LeavesEntry outcome session flags := by
  rintro ⟨-, -, -, -, hall | hne⟩
  · rw [hall id hid] at hfree
    cases hfree
  · exact hne happend

def Task.overtakes (store : Store) (rest : List Task) : Task → Bool
  | .removeObject object => (store.objects.get object).any fun o =>
      ((store.objectArray o.type).idxOf? object).any fun j => rest.any fun
        | .shift type i _ => type == o.type && j ≤ i
        | _ => false
  | _ => false

-- Whether the first of so many tasks overtake another one, or there are more.
def crossesIn : Nat → List Task → Store → Bool
  | 0, _, _ => true
  | _, [], _ => false
  | count + 1, task :: rest, store => task.overtakes store rest ||
      crossesIn count ((task.run .exact store).1 ++ rest) (task.run .exact store).2

theorem Crosses.crossesIn {tasks : List Task} {store : Store} (h : Crosses tasks store) (count : Nat) :
    crossesIn count tasks store = true := by
  induction h generalizing count with
  | @here object rest store o i j p hget hindex hpending hfront =>
      cases count with
      | zero => rfl
      | succ count =>
          have hovertakes : Task.overtakes store rest (.removeObject object) = true := by
            simp only [Task.overtakes, hget, Option.any_some, hindex, List.any_eq_true]
            exact ⟨_, hpending, by simp [hfront]⟩
          unfold RedApid.crossesIn
          rw [hovertakes, Bool.true_or]
  | step _ ih =>
      cases count with
      | zero => rfl
      | succ count =>
          unfold RedApid.crossesIn
          rw [ih count, Bool.or_true]

theorem nestedLists_steps : Relation.ReflTransGen CallStep Store.init (nestedLists 5) := by
  have hfree : ∀ store : Store, store.objectIdInUse 7 = false → ∀ session flags,
      ¬store.LeavesEntry ⟨true, none⟩ session flags := fun store h session flags =>
    not_leavesEntry rfl (by decide : (7 : ObjectID) ≠ 0) h
  have hsession : CallStep (nestedLists 0) (nestedLists 1) :=
    ⟨.sessionCreate ⟨true, none, none, none⟩ 10, trivial, rfl⟩
  have hfirst : CallStep (nestedLists 1) (nestedLists 2) :=
    ⟨.listAllocate ⟨true, none, ⟨true, none⟩⟩ 0, fun _ _ => hfree _ rfl _ _, rfl⟩
  have hsecond : CallStep (nestedLists 2) (nestedLists 3) :=
    ⟨.listAllocate ⟨true, none, ⟨true, none⟩⟩ 0, fun _ _ => hfree _ rfl _ _, rfl⟩
  have hitem : CallStep (nestedLists 3) (nestedLists 4) := ⟨.listAppendTo none 1 2, trivial, rfl⟩
  have hrelease : CallStep (nestedLists 4) (nestedLists 5) := by
    refine ⟨.objectRelease 2 0, ?_, rfl⟩
    rintro object hobject ⟨reference, hfind, o, ho, hzero, -⟩
    cases hobject
    cases hfind
    cases ho
    cases hzero
  exact ((((Relation.ReflTransGen.refl.tail hsession).tail hfirst).tail hsecond).tail hitem).tail
    hrelease

-- The first list takes the second one along, which is behind it.
theorem nestedLists_release :
    InventoryExact (ObjectCall.run .byIndex (nestedLists 5) (.objectRelease 1 0)) := by
  refine inventory_exact_of_calls (nestedLists_steps.tail ⟨.objectRelease 1 0, ?_, rfl⟩)
  rintro object hobject ⟨reference, hfind, o, ho, hzero, -, hcrosses⟩
  cases hobject
  cases hfind
  cases hcrosses.crossesIn 12

-- A session and three lists, the first is an item of the second alone.
def invertedCalls : List ObjectCall :=
  [.sessionCreate ⟨true, none, none, none⟩ 10,
    .listAllocate ⟨true, none, ⟨true, none⟩⟩ 0,
    .listAllocate ⟨true, none, ⟨true, none⟩⟩ 0,
    .listAllocate ⟨true, none, ⟨true, none⟩⟩ 0,
    .listAppendTo none 2 1,
    .objectRelease 1 0]

def invertedLists : Store := ObjectCall.runAll .byIndex invertedCalls Store.init

-- The second list goes, and with it the entry of the third one.
theorem released_list_hides_another :
    ¬InventoryExact (ObjectCall.run .byIndex invertedLists (.objectRelease 2 0)) ∧
      (ObjectCall.run .byIndex invertedLists (.objectRelease 2 0)).objectId 2 = some 3 ∧
      inventoryGetObject ObjectType.all 3
        (ObjectCall.run .byIndex invertedLists (.objectRelease 2 0)) = .error .unknownObjectId := by
  have hid : (ObjectCall.run .byIndex invertedLists (.objectRelease 2 0)).objectId 2 = some 3 := rfl
  have hlost : inventoryGetObject ObjectType.all 3
      (ObjectCall.run .byIndex invertedLists (.objectRelease 2 0)) = .error .unknownObjectId := rfl
  refine ⟨fun hexact => ?_, hid, hlost⟩
  obtain ⟨o, ho, hobject⟩ := Option.map_eq_some_iff.mp hid
  have htype : o.type ∈ ObjectType.all := by
    cases o.type <;> decide
  have hfound := (hexact.found _ _ _).mpr ⟨o, ho, htype, hobject⟩
  rw [hlost] at hfound
  cases hfound

end Examples

end RedApid

import RedApid.Store.Soundness
import RedApid.Store.Strings

namespace RedApid

open Memory

-- Every string that is alive is in its array.
def Store.Filed (store : Store) : Prop :=
  ∀ p, store.objectType p = some .string → p ∈ store.objectArray .string

section Tasks

variable {array : ArrayRemove} {store other last : Store} {tasks rest : List Task}

def NoStringShift (tasks : List Task) : Prop := ∀ i p, Task.shift .string i p ∉ tasks

-- string_destroy calls nothing, so the string that is removed is still at its index.
inductive Filing (store : Store) : List Task → Prop where
  | idle {tasks : List Task} (none : NoStringShift tasks) : Filing store tasks
  | destroy {p : ObjectRef} {i : Nat} {rest : List Task} (none : NoStringShift rest)
      (index : (store.objectArray .string).idxOf? p = some i)
      (type : ∀ o, store.objects.get p = some o → o.type = .string) :
      Filing store (.destroy p :: .shift .string i p :: rest)
  | free {p : ObjectRef} {i : Nat} {rest : List Task} (none : NoStringShift rest)
      (index : (store.objectArray .string).idxOf? p = some i) :
      Filing store (.free p :: .shift .string i p :: rest)
  | shift {p : ObjectRef} {i : Nat} {rest : List Task} (none : NoStringShift rest)
      (index : (store.objectArray .string).idxOf? p = some i)
      (dead : store.objectType p = Option.none) :
      Filing store (.shift .string i p :: rest)

theorem NoStringShift.tail {task : Task} (h : NoStringShift (task :: rest)) : NoStringShift rest :=
  fun i p hmem => h i p (List.mem_cons_of_mem _ hmem)

theorem NoStringShift.append (h : NoStringShift tasks) (h' : NoStringShift rest) :
    NoStringShift (tasks ++ rest) := by
  intro i p hmem
  rcases List.mem_append.mp hmem with hmem | hmem
  · exact h i p hmem
  · exact h' i p hmem

theorem noStringShift_drops (holds : List Hold) : NoStringShift (holds.map .drop) := by
  intro i p hmem
  obtain ⟨hold, -, hdrop⟩ := List.mem_map.mp hmem
  cases hdrop

theorem Store.Filed.congr (h : store.Filed) (harray : other.objectArray = store.objectArray)
    (htype : other.objectType = store.objectType) : other.Filed := by
  unfold Filed
  rw [harray, htype]
  exact h

theorem Store.Filed.freeObject (h : store.Filed) (object : ObjectRef) :
    (store.freeObject object).Filed := by
  intro p hp
  rw [Store.freeObject_objectType] at hp
  split_ifs at hp
  exact h p hp

-- What a string holds is dropped as well, and it holds nothing.
theorem Filing.run {task : Task} (hdirect : array.Direct) (htyped : store.Typed) (h : store.Filed)
    (hfiling : Filing store (task :: rest)) :
    (task.run array store).2.Filed ∧
      Filing (task.run array store).2 ((task.run array store).1 ++ rest) := by
  cases hfiling with
  | idle hnone =>
      have hrest := hnone.tail
      cases task with
      | drop hold =>
          obtain ⟨harray, htype, htasks⟩ := objectDropTasks_frame hold.object (hold.unlock store)
          rw [hold.unlock_objectArray] at harray
          rw [hold.unlock_objectType] at htype
          refine ⟨h.congr harray htype, .idle ?_⟩
          simp only [Task.run]
          rcases htasks with htasks | htasks
          · rw [htasks]
            exact hrest
          · rw [htasks]
            refine NoStringShift.append (fun i p hmem => ?_) hrest
            cases List.mem_singleton.mp hmem
      | removeObject object =>
          cases hget : store.objects.get object with
          | none =>
              simp only [Task.run, hget]
              exact ⟨h, .idle hrest⟩
          | some o =>
              cases hindex : (store.objectArray o.type).idxOf? object with
              | none =>
                  simp only [Task.run, hget, hindex]
                  exact ⟨h, .idle hrest⟩
              | some i =>
                  simp only [Task.run, hget, hindex]
                  refine ⟨h, ?_⟩
                  by_cases htype : o.type = .string
                  · rw [htype] at hindex ⊢
                    refine .destroy hrest hindex fun o' ho' => ?_
                    rw [hget] at ho'
                    cases ho'
                    exact htype
                  · refine .idle (NoStringShift.append (fun j p hmem => ?_) hrest)
                    simp only [List.mem_cons, reduceCtorEq, Task.shift.injEq, List.not_mem_nil,
                      or_false, false_or] at hmem
                    exact htype hmem.1.symm
      | destroy object =>
          cases hget : store.objects.get object with
          | none =>
              simp only [Task.run, hget]
              exact ⟨h, .idle hrest⟩
          | some o =>
              simp only [Task.run, hget]
              have hsame :=
                Store.SameInternals.foldl_objectDropReference object o.externalReferences store
              refine ⟨h.congr hsame.objectArray hsame.objectType, .idle ?_⟩
              refine NoStringShift.append (NoStringShift.append (noStringShift_drops _) ?_) hrest
              intro i p hmem
              cases List.mem_singleton.mp hmem
      | free object => exact ⟨h.freeObject object, .idle hrest⟩
      | shift type i object =>
          have hne : ObjectType.string ≠ type := by
            rintro rfl
            exact hnone i object List.mem_cons_self
          refine ⟨fun p hp => ?_, .idle hrest⟩
          simp only [Task.run] at hp ⊢
          rw [Store.setObjectArray_objectArray, if_neg hne]
          exact h p hp
  | @destroy object i rest hrest hindex htype =>
      cases hget : store.objects.get object with
      | none =>
          simp only [Task.run, hget]
          refine ⟨h, .shift hrest hindex ?_⟩
          unfold Store.objectType
          change (store.objects.get object).map _ = none
          rw [hget]
          rfl
      | some o =>
          have hsame :=
            Store.SameInternals.foldl_objectDropReference object o.externalReferences store
          have hpayload : o.payload.holds = [] := by
            have hstring : o.payload.type = .string := (htyped object o hget).symm.trans (htype o hget)
            cases hpayload : o.payload with
            | string s => rfl
            | _ =>
                rw [hpayload] at hstring
                cases hstring
          simp only [Task.run, hget, hpayload]
          refine ⟨h.congr hsame.objectArray hsame.objectType, .free hrest ?_⟩
          rw [hsame.objectArray]
          exact hindex
  | @free object i rest hrest hindex =>
      refine ⟨h.freeObject object, .shift hrest hindex ?_⟩
      simp only [Task.run]
      rw [Store.freeObject_objectType, if_pos rfl]
  | @shift object i rest hrest hindex hdead =>
      refine ⟨fun p hp => ?_, .idle hrest⟩
      simp only [Task.run] at hp ⊢
      rw [hdirect i object _ hindex, Store.setObjectArray_objectArray, if_pos rfl]
      have hp' : store.objectType p = some .string := hp
      have hne : p ≠ object := by
        rintro rfl
        rw [hdead] at hp'
        cases hp'
      exact (List.mem_erase_of_ne hne).mpr (h p hp')

end Tasks

section Operations

variable {array : ArrayRemove} {store other last : Store} {tasks : List Task}

-- What holds between two operations.
structure Store.InFiles (store : Store) : Prop where
  filed : store.Filed
  typed : store.Typed

namespace Store.InFiles

theorem of_runs (hdirect : array.Direct) (h : store.InFiles) (hnone : NoStringShift tasks)
    (hruns : Runs array tasks store last) : last.InFiles := by
  refine (hruns.invariant (P := fun tasks s => s.InFiles ∧ Filing s tasks) ?_
    ⟨h, .idle hnone⟩).1
  rintro task rest s ⟨hs, hfiling⟩
  obtain ⟨hfiled, hnext⟩ := hfiling.run hdirect hs.typed hs.filed
  exact ⟨⟨hfiled, hs.typed.kept (.run array task s)⟩, hnext⟩

theorem sameInternals (h : store.InFiles) (hsame : store.SameInternals other) : other.InFiles :=
  ⟨h.filed.congr hsame.objectArray hsame.objectType, h.typed.kept (.of_sameInternals hsame)⟩

theorem congr (h : store.InFiles) (hobjects : other.objects = store.objects)
    (harray : other.objectArray = store.objectArray) : other.InFiles := by
  refine ⟨h.filed.congr harray ?_, fun p o ho => h.typed p o (hobjects ▸ ho)⟩
  unfold objectType
  rw [hobjects]

theorem release (hdirect : array.Direct) (h : store.InFiles) (hold : Hold) :
    (hold.release array store).InFiles := by
  refine h.of_runs hdirect (fun i p hmem => ?_) (hold.release_runs store)
  cases List.mem_singleton.mp hmem

theorem remove (hdirect : array.Direct) (h : store.InFiles) (object : ObjectRef) :
    (store.remove array object).InFiles := by
  refine h.of_runs hdirect (fun i p hmem => ?_) (store.remove_runs object)
  cases List.mem_singleton.mp hmem

theorem preserved (hdirect : array.Direct) : Preserved array Store.InFiles where
  congr _ _ hobjects harray h := h.congr hobjects harray
  sameInternals _ _ hsame h := h.sameInternals hsame
  remove _ object h := h.remove hdirect object

theorem modifyObject (h : store.InFiles) (object : ObjectRef) {f : Object → Object}
    (hf : ∀ o, store.objects.get object = some o → (f o).type = o.type ∧
      (f o).payload.type = o.payload.type) : (store.modifyObject object f).InFiles := by
  refine ⟨fun p hp => ?_, h.typed.modifyObject object hf⟩
  rw [Store.modifyObject_objectArray]
  obtain ⟨o', ho', htype⟩ := Option.map_eq_some_iff.mp hp
  obtain ⟨o, ho, rfl⟩ := Store.modifyObject_get ho'
  refine h.filed p ?_
  unfold objectType
  rw [ho, Option.map_some]
  split_ifs at htype with hsame
  · rw [← (hf o (hsame ▸ ho)).1, htype]
  · rw [htype]

theorem mapItems (h : store.InFiles) (list : ObjectRef) (change : List ObjectRef → List ObjectRef) :
    (store.modifyObject list fun l => { l with payload := l.payload.mapItems change }).InFiles := by
  refine h.modifyObject list fun o _ => ⟨rfl, ?_⟩
  change (o.payload.mapItems change).type = o.payload.type
  cases o.payload <;> rfl

theorem createObject (h : store.InFiles) (outcome : ObjectCreation) (payload : Payload)
    (session : Option SessionRef) (flags : UInt32) :
    (store.createObject outcome payload session flags).2.InFiles := by
  refine ⟨fun p hp => ?_, h.typed.createObject outcome payload session flags⟩
  obtain ⟨o, ho, htype⟩ := Option.map_eq_some_iff.mp hp
  have hobjects := createObject_objects outcome payload session flags store ho
  have harray := createObject_objectArray outcome payload session flags store .string
  rcases hobjects with ⟨rfl, hcore, object, hok⟩ | ⟨o', ho', hcore⟩
  · obtain ⟨rfl, -, hcreated⟩ := createObject_ok hok
    obtain ⟨-, hadded, -⟩ := objectCreateReferences_frame outcome store.objects.next payload.type
      session flags (store.callocObject payload).2
    rw [hcreated] at hadded
    have hpayload : ObjectType.string = payload.type := htype.symm.trans (congrArg Prod.fst hcore)
    rw [hadded rfl, if_pos hpayload]
    exact List.mem_append_right _ List.mem_cons_self
  · have hlisted : p ∈ store.objectArray .string := by
      refine h.filed p ?_
      unfold objectType
      rw [ho', Option.map_some, ← htype]
      exact congrArg some (congrArg Prod.fst hcore).symm
    rcases harray with hsame | ⟨-, -, happended⟩
    · rw [hsame]
      exact hlisted
    · rw [happended]
      exact List.mem_append_left _ hlisted

end Store.InFiles

theorem HolderStep.inFiles {pool next : List Hold} (hdirect : array.Direct)
    (hstep : HolderStep array (pool, store) (next, other)) (h : store.InFiles) : other.InFiles := by
  have hpreserved := Store.InFiles.preserved hdirect
  cases hstep with
  | perm => exact h
  | sessionCreate _ _ outcome lifetime =>
      obtain ⟨hobjects, harray, -⟩ := sessionCreate_frame outcome lifetime store
      exact h.congr hobjects harray
  | sessionExpire _ _ session => exact hpreserved.sessionExpireHelper session h
  | sessionHandleExpire _ _ session => exact hpreserved.sessionExpireHelper session h
  | addExternalReference _ _ calloc object session =>
      exact h.sameInternals (.objectAddExternalReference calloc object session store)
  | objectRelease _ _ object session => exact hpreserved.objectRelease object session h
  | created _ _ outcome payload session flags => exact h.createObject outcome payload session flags
  | notCreated _ _ outcome payload session flags => exact h.createObject outcome payload session flags
  | acquire _ _ hold =>
      rw [hold.acquire_eq]
      exact h.modifyObject hold.object fun _ _ => ⟨rfl, rfl⟩
  | release _ _ hold => exact h.release hdirect hold
  | setPayload _ _ _ object o payload hget _ htype =>
      refine h.modifyObject object fun o' ho' => ⟨rfl, ?_⟩
      rw [hget] at ho'
      cases ho'
      exact htype
  | listAppendTo _ _ append list itemId l hl =>
      rcases listAppendTo_cases append itemId hl with ⟨-, hsame⟩ | ⟨item, -, -, -, happend⟩
      · rw [hsame]
        exact h
      · rw [happend, Hold.acquire_eq]
        have hacquired := h.modifyObject (lockedHold item).object
          (f := (lockedHold item).retain) fun _ _ => ⟨rfl, rfl⟩
        exact hacquired.mapItems list (· ++ [item])
  | listRemoveFrom _ _ list index l hl =>
      rcases @listRemoveFrom_cases array store list l index hl with ⟨-, hsame⟩ | ⟨item, -, -, hremove⟩
      · rw [hsame]
        exact h
      · rw [hremove]
        exact (h.release hdirect (lockedHold item)).mapItems list (·.eraseIdx index.toNat)

theorem Store.InFiles.steps {pool next : List Hold} (hdirect : array.Direct) (h : store.InFiles)
    (hsteps : Relation.ReflTransGen (CleanStep array) (pool, store) (next, other)) :
    other.InFiles := by
  generalize hlast : (next, other) = last at hsteps
  induction hsteps generalizing next other with
  | refl =>
      cases hlast
      exact h
  | tail _ hstep ih =>
      subst hlast
      exact hstep.1.inFiles hdirect (ih rfl)

theorem Store.InFiles.init : Store.init.InFiles := by
  refine ⟨fun p hp => ?_, fun p o ho => ?_⟩
  · simp [Store.objectType, Store.init] at hp
  · simp [Store.init] at ho

-- The ID of an object in the array of its type leads to it.
theorem Store.Identified.inventoryGetObject_eq (h : store.Identified) {types : List ObjectType}
    {type : ObjectType} {object : ObjectRef} {id : ObjectID} (htype : type ∈ types)
    (hlisted : object ∈ store.objectArray type) (hid : store.objectId object = some id) :
    inventoryGetObject types id store = .ok object := by
  have hall : ∀ other : ObjectRef, ∀ type, other ∈ store.objectArray type → other ∈ store.listed := by
    intro other type hmem
    refine List.mem_flatMap.mpr ⟨type, ?_, hmem⟩
    cases type <;> decide
  cases hfound : inventoryGetObject types id store with
  | error code =>
      unfold inventoryGetObject at hfound
      split at hfound
      · rename_i hnone
        exact absurd (beq_iff_eq.mpr hid)
          (List.find?_eq_none.mp hnone object (List.mem_flatMap.mpr ⟨type, htype, hlisted⟩))
      · cases hfound
  | ok found =>
      obtain ⟨⟨type', -, hmem⟩, hid'⟩ := inventoryGetObject_ok hfound
      rw [h.eq_of_objectId (hall found type' hmem) (hall object type hlisted) hid' hid]

theorem Sound.inventoryGetObject_idOf {pool : List Hold} (h : Sound pool store)
    (hfiles : store.InFiles) {string : ObjectRef} {s : StringObject}
    (hstring : store.payload string = some (.string s)) :
    inventoryGetObject ObjectType.all (store.idOf (some string)) store = .ok string := by
  obtain ⟨o, ho, hpayload⟩ := Option.map_eq_some_iff.mp hstring
  have htype : store.objectType string = some .string := by
    unfold Store.objectType
    rw [ho, Option.map_some, hfiles.typed string o ho, hpayload]
    rfl
  have hid : store.objectId string = some o.id := by
    unfold Store.objectId
    rw [ho, Option.map_some]
  rw [Store.idOf_of_get ho]
  exact h.identified.inventoryGetObject_eq (by decide) (hfiles.filed string htype) hid

end Operations

end RedApid

import RedApid.Store.Staleness

namespace RedApid

open Memory

section Faults

@[simp] theorem Memory.Heap.get_modify_isNone {α : Type} (heap : Heap α) (address : Nat)
    (f : α → α) (other : Nat) :
    ((heap.modify address f).get other).isNone = (heap.get other).isNone := by
  rw [Heap.get_modify]
  split_ifs
  · exact Option.isNone_map
  · rfl

variable (store : Store) (object : ObjectRef) (session : SessionRef)

@[simp] theorem Store.modifyObject_fault (f : Object → Object) : (store.modifyObject object f).fault =
    (store.fault || (store.objects.get object).isNone) := by
  unfold modifyObject
  cases store.objects.get object with
  | none => exact (Bool.or_true _).symm
  | some o => exact (Bool.or_false _).symm

@[simp] theorem Store.modifySession_fault (f : Session → Session) :
    (store.modifySession session f).fault =
      (store.fault || (store.sessions.get session).isNone) := by
  unfold modifySession
  cases store.sessions.get session with
  | none => exact (Bool.or_true _).symm
  | some s => exact (Bool.or_false _).symm

-- Entries are only changed together with their object and their session.
theorem Store.dropReference_fault (reference : ReferenceRef) (count : Int) :
    (store.dropReference reference object session count).fault =
      (store.fault || (store.objects.get object).isNone || (store.sessions.get session).isNone) := by
  simp only [dropReference, unlinkReference, countExternal, countSession, countObject, freeReference,
    unlinkSession, unlinkObject, modifyObject_fault, modifySession_fault, modifyObject_sessions,
    modifySession_objects, modifyObject_objects, modifySession_sessions, Heap.get_modify_isNone]
  cases store.fault <;> cases (store.objects.get object).isNone <;>
    cases (store.sessions.get session).isNone <;> rfl

theorem Store.createReference_fault : (store.createReference object session).fault =
    (store.fault || (store.objects.get object).isNone || (store.sessions.get session).isNone) := by
  simp only [createReference, callocReference, countExternal, countSession, countObject, linkSession,
    linkObject, modifyObject_fault, modifySession_fault, modifyObject_sessions,
    modifySession_objects, modifyObject_objects, modifySession_sessions, Heap.get_modify_isNone]
  cases store.fault <;> cases (store.objects.get object).isNone <;>
    cases (store.sessions.get session).isNone <;> rfl

theorem Store.countExternal_fault (amount : Int) :
    (store.countExternal object session amount).fault =
      (store.fault || (store.objects.get object).isNone || (store.sessions.get session).isNone) := by
  simp only [countExternal, countSession, countObject, modifyObject_fault, modifySession_fault,
    modifyObject_sessions]

theorem Store.releaseReference_fault (reference : ReferenceRef) :
    (store.releaseReference reference object session).fault =
      (store.fault || (store.objects.get object).isNone || (store.sessions.get session).isNone) := by
  unfold releaseReference
  dsimp only
  split
  · simp only [unlinkReference, freeReference, unlinkSession, unlinkObject, countExternal,
      countSession, countObject, countReference, modifyObject_fault, modifySession_fault,
      modifyObject_sessions, modifySession_objects, modifyObject_objects,
      modifySession_sessions, Heap.get_modify_isNone]
    cases store.fault <;> cases (store.objects.get object).isNone <;>
      cases (store.sessions.get session).isNone <;> rfl
  · exact countExternal_fault _ object session (-1)

end Faults

section Cascades

variable {array : ArrayRemove} {view : View} {spared : ObjectRef → Prop} {pool : List Hold}
  {tasks : List Task} {store last : Store}

-- What a cascade of destructions accesses has not been freed yet.
theorem Task.run_fault {task : Task} (hc : store.Cascading view spared pool (task :: tasks))
    (hunheld : Store.SameClients.Unheld (task :: tasks) store) :
    (task.run array store).2.fault = store.fault := by
  cases task with
  | drop hold =>
      obtain ⟨o, ho, hpos, -⟩ := hc.accounted.count_pos
      rw [Task.run_drop ho hpos, hold.drop_eq]
      simp [ho]
  | removeObject object =>
      obtain ⟨o, ho, -⟩ := hc.dying_unreferenced object List.mem_cons_self
      simp only [Task.run, ho]
      split <;> rfl
  | destroy object =>
      obtain ⟨o, ho, -⟩ := hc.dying_unreferenced object List.mem_cons_self
      simp only [Task.run, ho, hunheld object List.mem_cons_self o ho, List.foldl_nil]
  | free object => rfl
  | shift type i object => rfl

theorem Runs.fault_eq (hruns : Runs array tasks store last)
    (hview : ∀ p payload, ¬ spared p → view p payload = payload.holds)
    (hc : store.Cascading view spared pool tasks) (hcounted : store.Counted)
    (hunheld : Store.SameClients.Unheld tasks store) : last.fault = store.fault := by
  refine (hruns.invariant (P := fun tasks s => s.Cascading view spared pool tasks ∧ s.Counted ∧
    Store.SameClients.Unheld tasks s ∧ s.fault = store.fault) ?_ ⟨hc, hcounted, hunheld, rfl⟩).2.2.2
  rintro task rest s ⟨hc, hcounted, hunheld, hfault⟩
  exact ⟨hc.run hview task, (hcounted.run hunheld.cleared).1,
    (Store.SameClients.run hcounted hunheld).2, (Task.run_fault hc hunheld).trans hfault⟩

theorem unheld_drop (hold : Hold) (store : Store) :
    Store.SameClients.Unheld [.drop hold] store := fun p hp => by cases hp

theorem Hold.release_fault {hold : Hold} (haccounted : store.Accounted ownHolds (hold :: pool))
    (hcounted : store.Counted) : (hold.release array store).fault = store.fault :=
  (hold.release_runs store).fault_eq (fun _ _ _ => rfl)
    (.of_drop haccounted store.apart_false id) hcounted (unheld_drop hold store)

theorem Store.remove_fault {object : ObjectRef} {o : Object}
    (haccounted : store.Accounted ownHolds pool) (hcounted : store.Counted)
    (ho : store.objects.get object = some o) (hinternal : o.internalReferenceCount = 0)
    (hexternal : o.externalReferenceCount = 0) :
    (store.remove array object).fault = store.fault := by
  refine (store.remove_runs object).fault_eq (fun _ _ _ => rfl) (.of_remove haccounted ho hinternal)
    hcounted fun p hp o' ho' => ?_
  rw [List.mem_singleton.mp hp, ho] at ho'
  cases ho'
  exact hcounted.externalReferences_eq_nil ho hexternal

end Cascades

section Care

variable {array : ArrayRemove} {pool : List Hold} {store other last : Store} {object : ObjectRef}
  {session : SessionRef}

-- A step that accesses nothing that has been freed, and neither makes nor frees a session.
structure Store.Careful (store other : Store) : Prop where
  fault : other.fault = store.fault
  overrun : other.overrun = store.overrun
  sessionArray : other.sessionArray = store.sessionArray
  sessions : ∀ s, (other.sessions.get s).isNone = (store.sessions.get s).isNone

-- The item is alive, its list holds it.
theorem listGetItem_cases {list : ObjectRef} {l : Object} (calloc : Bool) (index : UInt16)
    (session : SessionRef) (h : store.Accounted ownHolds pool)
    (hl : store.objects.get list = some l) :
    (listGetItem calloc list index session store).2 = store ∨
      ∃ item, store.objects.get item ≠ none ∧ (listGetItem calloc list index session store).2 =
        (objectAddExternalReference calloc item session store).2 := by
  simp only [listGetItem, hl]
  cases hitem : l.items[index.toNat]? with
  | none => exact Or.inl rfl
  | some item =>
      have hcontains : store.Contains list item := ⟨l, hl, List.mem_of_getElem? hitem⟩
      obtain ⟨o, ho, -⟩ := h.item_locked hcontains
      have hlive : store.objects.get item ≠ none := by simp [ho]
      have hsame := Store.SameInternals.objectAddExternalReference calloc item session store
      refine Or.inr ⟨item, hlive, ?_⟩
      dsimp only
      rcases hresult : objectAddExternalReference calloc item session store with ⟨code, added⟩
      rw [hresult] at hsame
      cases code with
      | success =>
          obtain ⟨o', ho'⟩ := Option.ne_none_iff_exists'.mp
            (fun hnone : added.objects.get item = none => hlive (hsame.get_eq_none.mp hnone))
          simp only [ho']
      | _ => rfl

namespace Store.Careful

theorem congr (hfault : other.fault = store.fault) (hoverrun : other.overrun = store.overrun)
    (harray : other.sessionArray = store.sessionArray) (hsessions : other.sessions = store.sessions) :
    store.Careful other :=
  ⟨hfault, hoverrun, harray, fun s => by rw [hsessions]⟩

theorem refl (store : Store) : store.Careful store := congr rfl rfl rfl rfl

theorem trans (h : store.Careful other) (h' : other.Careful last) : store.Careful last :=
  ⟨h'.fault.trans h.fault, h'.overrun.trans h.overrun, h'.sessionArray.trans h.sessionArray,
    fun s => (h'.sessions s).trans (h.sessions s)⟩

theorem session_live (h : store.Careful other) (s : SessionRef) :
    other.sessions.get s ≠ none ↔ store.sessions.get s ≠ none := by
  rw [Ne, ← Option.isNone_iff_eq_none, h.sessions, Option.isNone_iff_eq_none]

theorem modifyObject (hlive : store.objects.get object ≠ none) (f : Object → Object) :
    store.Careful (store.modifyObject object f) := by
  obtain ⟨o, ho⟩ := Option.ne_none_iff_exists'.mp hlive
  refine ⟨?_, by simp, by simp, fun s => by simp⟩
  rw [Store.modifyObject_fault, ho]
  exact Bool.or_false _

theorem acquire {hold : Hold} (hlive : store.objects.get hold.object ≠ none) :
    store.Careful (hold.acquire store) := by
  rw [Hold.acquire_eq]
  exact modifyObject hlive hold.retain

-- The changes of entries, for a live object and a live session.
theorem of_fault (hobject : store.objects.get object ≠ none)
    (hsession : store.sessions.get session ≠ none)
    (hfault : other.fault =
      (store.fault || (store.objects.get object).isNone || (store.sessions.get session).isNone))
    (hoverrun : other.overrun = store.overrun) (harray : other.sessionArray = store.sessionArray)
    (hsessions : ∀ s, (other.sessions.get s).isNone = (store.sessions.get s).isNone) :
    store.Careful other := by
  refine ⟨?_, hoverrun, harray, hsessions⟩
  rw [hfault, Option.isNone_eq_false_iff.mpr (Option.isSome_iff_ne_none.mpr hobject),
    Option.isNone_eq_false_iff.mpr (Option.isSome_iff_ne_none.mpr hsession)]
  simp

theorem countExternal (hobject : store.objects.get object ≠ none)
    (hsession : store.sessions.get session ≠ none) (amount : Int) :
    store.Careful (store.countExternal object session amount) := by
  refine of_fault hobject hsession (store.countExternal_fault object session amount) ?_ ?_ ?_
  all_goals simp [Store.countExternal, Store.countSession, Store.countObject]

theorem createReference (hobject : store.objects.get object ≠ none)
    (hsession : store.sessions.get session ≠ none) :
    store.Careful (store.createReference object session) := by
  refine of_fault hobject hsession (store.createReference_fault object session) ?_ ?_ ?_
  all_goals simp [Store.createReference, Store.callocReference, Store.linkObject, Store.linkSession,
    Store.countExternal, Store.countSession, Store.countObject]

theorem dropReference (hobject : store.objects.get object ≠ none)
    (hsession : store.sessions.get session ≠ none) (reference : ReferenceRef) (count : Int) :
    store.Careful (store.dropReference reference object session count) := by
  refine of_fault hobject hsession (store.dropReference_fault object session reference count) ?_ ?_ ?_
  all_goals simp [Store.dropReference, Store.unlinkReference, Store.freeReference,
    Store.unlinkObject, Store.unlinkSession, Store.countExternal, Store.countSession,
    Store.countObject]

theorem releaseReference (hobject : store.objects.get object ≠ none)
    (hsession : store.sessions.get session ≠ none) (reference : ReferenceRef) :
    store.Careful (store.releaseReference reference object session) := by
  have hfault := store.releaseReference_fault object session reference
  refine of_fault hobject hsession hfault ?_ ?_ ?_
  all_goals
    unfold Store.releaseReference
    dsimp only
    split
  all_goals simp [Store.unlinkReference, Store.freeReference, Store.unlinkObject,
    Store.unlinkSession, Store.countReference, Store.countExternal, Store.countSession,
    Store.countObject]

theorem of_runs {tasks : List Task} (hruns : Runs array tasks store last)
    (hfault : last.fault = store.fault) (hcounted : store.Counted)
    (hunheld : Store.SameClients.Unheld tasks store) : store.Careful last := by
  refine ⟨hfault, hruns.overrun_eq, hruns.sessionArray, fun s => ?_⟩
  rw [(Store.SameClients.of_runs hcounted hunheld hruns).sessions]

theorem release {hold : Hold} (haccounted : store.Accounted ownHolds (hold :: pool))
    (hcounted : store.Counted) : store.Careful (hold.release array store) :=
  of_runs (hold.release_runs store) (Hold.release_fault haccounted hcounted) hcounted
    (unheld_drop hold store)

theorem remove {o : Object} (haccounted : store.Accounted ownHolds pool) (hcounted : store.Counted)
    (ho : store.objects.get object = some o) (hinternal : o.internalReferenceCount = 0)
    (hexternal : o.externalReferenceCount = 0) : store.Careful (store.remove array object) := by
  refine of_runs (store.remove_runs object)
    (Store.remove_fault haccounted hcounted ho hinternal hexternal) hcounted fun p hp o' ho' => ?_
  rw [List.mem_singleton.mp hp, ho] at ho'
  cases ho'
  exact hcounted.externalReferences_eq_nil ho hexternal

theorem removeUnreferenced (haccounted : store.Accounted ownHolds pool) (hcounted : store.Counted)
    (hlive : store.objects.get object ≠ none) :
    store.Careful (store.removeUnreferenced array object) := by
  obtain ⟨o, ho⟩ := Option.ne_none_iff_exists'.mp hlive
  simp only [Store.removeUnreferenced, ho]
  split
  · rename_i hzero
    exact remove haccounted hcounted ho hzero.1 hzero.2
  · exact refl store

theorem objectAddExternalReference (hobject : store.objects.get object ≠ none)
    (hsession : store.sessions.get session ≠ none) (calloc : Bool) :
    store.Careful (objectAddExternalReference calloc object session store).2 := by
  unfold RedApid.objectAddExternalReference
  rw [if_neg (by simp [hobject, hsession])]
  split
  · rename_i reference _
    have hcounted : store.Careful (store.countReference reference 1) := congr rfl rfl rfl rfl
    exact hcounted.trans
      (@countExternal (store.countReference reference 1) object session hobject hsession 1)
  · split_ifs
    · exact refl store
    · exact createReference hobject hsession

theorem objectRelease (haccounted : store.Accounted ownHolds pool) (hcounted : store.Counted)
    (hobject : store.objects.get object ≠ none) (session : SessionRef) :
    store.Careful (objectRelease array object session store).2 := by
  obtain ⟨o, ho⟩ := Option.ne_none_iff_exists'.mp hobject
  simp only [RedApid.objectRelease, objectRemoveExternalReference, ho]
  split
  · exact refl store
  cases hfind : store.findReference object session with
  | none => exact refl store
  | some reference =>
      obtain ⟨e, he, rfl, rfl⟩ := hcounted.linked.findReference_some hfind
      have hsession := hcounted.linked.sessions.owner_live reference e he
      have hreleased := releaseReference hobject hsession reference
      have hsame := Store.SameInternals.releaseReference store reference e.object e.session
      obtain ⟨-, hget⟩ := Store.Collecting.releaseReference_get reference e.object e.session store
      obtain ⟨o', ho', hinternal, hexternal⟩ := hget o ho
      dsimp only
      split
      · rename_i hzero
        have hexternal' : o'.externalReferenceCount = 0 := hexternal.trans hzero.2
        exact hreleased.trans (remove (haccounted.sameInternals hsame)
          (hcounted.releaseReference he) ho' (hinternal.trans hzero.1) hexternal')
      · exact hreleased

theorem objectCreateExternal (outcome : ObjectCreation) {session : Option SessionRef}
    (hobject : store.objects.get object ≠ none)
    (hsession : ∀ s, session = some s → store.sessions.get s ≠ none) (flags : UInt32) :
    store.Careful (objectCreateExternal outcome object session flags store).2 := by
  unfold RedApid.objectCreateExternal
  cases session with
  | none => exact refl store
  | some session =>
      dsimp only
      split_ifs
      · exact objectAddExternalReference hobject (hsession session rfl) outcome.calloc
      · exact refl store

theorem inventoryAddObject (append : Option APIError) (type : ObjectType)
    (hobject : store.objects.get object ≠ none) :
    store.Careful (inventoryAddObject append type object store).2 := by
  unfold RedApid.inventoryAddObject inventoryGetNextObjectId
  obtain ⟨found, next⟩ := nextFreeId store.objectIdInUse store.nextObjectId
  have hcounter : store.Careful { store with nextObjectId := next } := congr rfl rfl rfl rfl
  cases found with
  | none => exact hcounter
  | some id =>
      have hstored := hcounter.trans
        (@modifyObject { store with nextObjectId := next } object hobject fun o => { o with id })
      cases append with
      | some code => exact hstored
      | none => exact hstored.trans (congr rfl rfl rfl rfl)

theorem objectCreateReferences (outcome : ObjectCreation) (type : ObjectType)
    {session : Option SessionRef} (hobject : store.objects.get object ≠ none)
    (hsession : ∀ s, session = some s → store.sessions.get s ≠ none) (flags : UInt32) :
    store.Careful (objectCreateReferences outcome object type session flags store).2 := by
  have hcondition : ∀ (condition : Prop) [Decidable condition] (store : Store) (f : Object → Object),
      store.objects.get object ≠ none →
      store.Careful (if condition then store.modifyObject object f else store) ∧
        (if condition then store.modifyObject object f else store).objects.get object ≠ none := by
    intro condition _ store f hlive
    by_cases h : condition
    · rw [if_pos h]
      exact ⟨modifyObject hlive f, (Store.modifyObject_get_ne_none object f object).mpr hlive⟩
    · rw [if_neg h]
      exact ⟨refl store, hlive⟩
  unfold RedApid.objectCreateReferences
  obtain ⟨hacquired, hlive⟩ := hcondition (flags &&& OBJECT_CREATE_FLAG_INTERNAL ≠ 0) store
    (fun o => { o with internalReferenceCount := o.internalReferenceCount + 1 }) hobject
  change store.Careful (if flags &&& OBJECT_CREATE_FLAG_INTERNAL ≠ 0 then
    objectAddInternalReference object store else store) at hacquired
  change (if flags &&& OBJECT_CREATE_FLAG_INTERNAL ≠ 0 then
    objectAddInternalReference object store else store).objects.get object ≠ none at hlive
  generalize (if flags &&& OBJECT_CREATE_FLAG_INTERNAL ≠ 0 then
    objectAddInternalReference object store else store) = acquired at hacquired hlive
  have hexternal := @objectCreateExternal acquired object outcome session hlive
    (fun s hs => (hacquired.session_live s).mpr (hsession s hs)) flags
  have hsame := objectCreateExternal_sameInternals outcome object session flags acquired
  rcases hresult : RedApid.objectCreateExternal outcome object session flags acquired with
    ⟨code, external⟩
  rw [hresult] at hexternal hsame
  have hlive' : external.objects.get object ≠ none := fun hnone => hlive (hsame.get_eq_none.mp hnone)
  simp only [hresult]
  split_ifs with hcode hlock
  · exact hacquired.trans hexternal
  · have hlocked := modifyObject hlive' fun o => { o with lockCount := o.lockCount + 1 }
    refine (hacquired.trans hexternal).trans (hlocked.trans (inventoryAddObject _ _ ?_))
    exact (Store.modifyObject_get_ne_none object _ object).mpr hlive'
  · exact (hacquired.trans hexternal).trans (inventoryAddObject _ _ hlive')

theorem createObject (outcome : ObjectCreation) (payload : Payload) {session : Option SessionRef}
    (hsession : ∀ s, session = some s → store.sessions.get s ≠ none) (flags : UInt32) :
    store.Careful (store.createObject outcome payload session flags).2 := by
  have hallocated : store.Careful (store.callocObject payload).2 := congr rfl rfl rfl rfl
  have hlive : (store.callocObject payload).2.objects.get store.objects.next ≠ none := by
    rw [Store.callocObject, Heap.get_alloc_next]
    exact Option.some_ne_none _
  have hfree : ∀ other : Store, other.Careful (other.freeMemory store.objects.next) :=
    fun other => congr rfl rfl rfl rfl
  by_cases hvalid : ValidFlags session flags
  · rw [createObject_of_valid outcome payload store hvalid]
    have hcreated := objectCreateReferences outcome payload.type hlive hsession flags
    dsimp only
    split_ifs
    · exact hallocated.trans hcreated
    · exact (hallocated.trans hcreated).trans (hfree _)
  · rw [createObject_of_invalid outcome payload store hvalid]
    exact hallocated.trans (hfree _)

theorem listAppendTo {list : ObjectRef} {l : Object} (append : Option APIError) (itemId : ObjectID)
    (hl : store.objects.get list = some l) :
    store.Careful (listAppendTo append list itemId store).2 := by
  rcases listAppendTo_cases append itemId hl with ⟨-, hsame⟩ | ⟨item, -, -, hitem, happend⟩
  · rw [hsame]
    exact refl store
  · rw [happend]
    have hacquired : store.Careful ((lockedHold item).acquire store) := acquire hitem
    refine hacquired.trans (modifyObject ?_ _)
    rw [Hold.acquire_eq, Store.modifyObject_get_ne_none, hl]
    exact Option.some_ne_none l

-- The list keeps its item until it has been released.
theorem listRemoveFrom {list : ObjectRef} {l : Object} (h : Sound pool store) (index : UInt16)
    (hl : store.objects.get list = some l) (hlist : l.payload.type = .list) :
    store.Careful (listRemoveFrom array list index store).2 := by
  rcases @listRemoveFrom_cases array store list l index hl with
    ⟨-, hsame⟩ | ⟨item, hunlocked, hitem, hremove⟩
  · rw [hsame]
    exact refl store
  rw [hremove]
  have hapart := h.holding.accounted.apart_of_unlocked h.holding.shaped.plainApart hl hlist hunlocked
  have hcontains : store.Contains list item := ⟨l, hl, List.mem_of_getElem? hitem⟩
  have hne : item ≠ list := by
    rintro rfl
    exact h.holding.shaped.acyclic item (.single hcontains)
  have hchanged := h.holding.accounted.changed hl
    (f := fun l => { l with payload := l.payload.mapItems (·.eraseIdx index.toNat) })
    (g := Payload.mapItems (·.eraseIdx index.toNat)) (fun _ => rfl) (fun _ => rfl)
    (removed_perm pool hlist hitem)
  have hspared : ∀ p payload, ¬ p = list →
      changed list (Payload.mapItems (·.eraseIdx index.toNat)) p payload = payload.holds :=
    changed_of_spared _ rfl
  have hruns := @Hold.release_runs array (lockedHold item) store
  have hfault := hruns.fault_eq hspared (.of_drop hchanged hapart hne) h.counted (unheld_drop _ store)
  obtain ⟨-, hspares⟩ := @Store.Accounted.releaseFrom array _ pool store (lockedHold item)
    list l (fun l => { l with payload := l.payload.mapItems (·.eraseIdx index.toNat) }) _
    h.holding.accounted hl (fun _ => rfl) (fun _ => rfl) (removed_perm pool hlist hitem) hapart rfl hne
  have hget := hspares list rfl
  rw [hl] at hget
  obtain ⟨l', hl', -⟩ := Option.map_eq_some_iff.mp hget
  exact (of_runs hruns hfault h.counted (unheld_drop _ store)).trans (modifyObject (by simp [hl']) _)

theorem listGetItem {list : ObjectRef} {l : Object} (calloc : Bool) (index : UInt16)
    (h : store.Accounted ownHolds pool) (hl : store.objects.get list = some l)
    (hsession : store.sessions.get session ≠ none) :
    store.Careful (listGetItem calloc list index session store).2 := by
  rcases listGetItem_cases calloc index session h hl with hsame | ⟨item, hitem, hadded⟩
  · rw [hsame]
    exact refl store
  · rw [hadded]
    exact objectAddExternalReference hitem hsession calloc

-- One entry of the session after the other.
theorem removeExternalReferences (rounds : Nat) (hcounted : store.Counted)
    (haccounted : store.Accounted ownHolds pool) {s : Session}
    (hs : store.sessions.get session = some s) (hrounds : s.externalReferences.length ≤ rounds) :
    store.Careful (removeExternalReferences array rounds session store) := by
  induction rounds generalizing store s with
  | zero =>
      have hempty : s.externalReferences = [] := List.eq_nil_of_length_eq_zero (by omega)
      simp only [RedApid.removeExternalReferences, hs, Option.map_some, hempty]
      exact refl store
  | succ rounds ih =>
      cases hlist : s.externalReferences with
      | nil =>
          simp only [RedApid.removeExternalReferences, hs, Option.map_some, hlist]
          exact refl store
      | cons reference references =>
          have hmem : reference ∈ s.externalReferences := hlist ▸ List.mem_cons_self
          obtain ⟨e, he, howner⟩ := (hcounted.linked.sessions.mem_iff session s hs reference).mp hmem
          change e.session = session at howner
          subst howner
          simp only [RedApid.removeExternalReferences, hs, Option.map_some, hlist,
            sessionDropReference, he]
          have hlive : store.objects.get e.object ≠ none :=
            hcounted.linked.objects.owner_live reference e he
          have hsession : store.sessions.get e.session ≠ none := by simp [hs]
          have hsame := Store.SameInternals.dropReference store reference e.object e.session e.count
          have hdropped := dropReference hlive hsession reference e.count
          have hget := store.dropReference_get_session reference e.object e.session e.count
          have haccounted' := haccounted.sameInternals hsame
          have hlive' : (store.dropReference reference e.object e.session e.count).objects.get
              e.object ≠ none := fun hnone => hlive (hsame.get_eq_none.mp hnone)
          have hcounted' := hcounted.dropReference he
          generalize store.dropReference reference e.object e.session e.count = dropped at *
          have hremoved : dropped.Careful (dropped.removeUnreferenced array e.object) :=
            removeUnreferenced haccounted' hcounted' hlive'
          obtain ⟨hcounted', hshrinks, -⟩ := Store.Counted.removeUnreferenced array hcounted' e.object
          rw [hs, Option.map_some] at hget
          obtain ⟨s', hs', hsub⟩ := hshrinks.sessions e.session _ hget
          have hlength := hsub.length_le
          simp only [hlist, List.erase_cons_head] at hlength
          simp only [hlist, List.length_cons] at hrounds
          have hkeeps : dropped.KeepsHolds (dropped.removeUnreferenced array e.object) :=
            .removeUnreferenced e.object dropped
          exact (hdropped.trans hremoved).trans
            (ih hcounted' (hkeeps.accounted pool haccounted') hs' (by omega))

theorem sessionRemoveExternalReferences (hcounted : store.Counted)
    (haccounted : store.Accounted ownHolds pool) (hsession : store.sessions.get session ≠ none) :
    store.Careful (sessionRemoveExternalReferences array session store) := by
  obtain ⟨s, hs⟩ := Option.ne_none_iff_exists'.mp hsession
  simp only [RedApid.sessionRemoveExternalReferences, hs]
  exact removeExternalReferences _ hcounted haccounted hs (Nat.le_refl _)

end Store.Careful

end Care

section Intact

variable {array : ArrayRemove} {pool : List Hold} {pending : List SessionRef} {store other : Store}
  {session : SessionRef}

-- Nothing that has been freed was accessed, and the inventory lists just the sessions that are
-- alive, but for those that are being created.
structure Store.Intact (pending : List SessionRef) (store : Store) : Prop where
  fault : store.fault = false
  overrun : store.overrun = false
  nodup : (store.sessionArray ++ pending).Nodup
  live_iff : ∀ session,
    session ∈ store.sessionArray ++ pending ↔ store.sessions.get session ≠ none

namespace Store.Intact

theorem init : Store.init.Intact [] :=
  ⟨rfl, rfl, List.nodup_nil, fun session => by simp [Store.init]⟩

theorem live (h : store.Intact pending) (hmem : session ∈ store.sessionArray) :
    store.sessions.get session ≠ none :=
  (h.live_iff session).mp (List.mem_append_left pending hmem)

theorem careful (h : store.Intact pending) (hcareful : store.Careful other) :
    other.Intact pending := by
  refine ⟨hcareful.fault.trans h.fault, hcareful.overrun.trans h.overrun,
    hcareful.sessionArray ▸ h.nodup, fun session => ?_⟩
  rw [hcareful.sessionArray, h.live_iff, hcareful.session_live]

theorem callocSession (h : store.Intact []) : store.callocSession.2.Intact [store.sessions.next] := by
  have hfree := Heap.get_eq_none_of_next_le store.sessions (Nat.le_refl _)
  have hnew : store.sessions.next ∉ store.sessionArray := fun hmem => h.live hmem hfree
  refine ⟨h.fault, h.overrun, ?_, fun session => ?_⟩
  · have hnodup := h.nodup
    rw [List.append_nil] at hnodup
    exact hnodup.append (List.nodup_singleton _) (List.disjoint_singleton.mpr hnew)
  · have hiff := h.live_iff session
    rw [List.append_nil] at hiff
    change session ∈ store.sessionArray ++ [store.sessions.next] ↔
      (store.sessions.alloc _).get session ≠ none
    rw [List.mem_append, List.mem_singleton, Heap.get_alloc, hiff]
    split_ifs with hsame
    · exact iff_of_true (Or.inr hsame) (Option.some_ne_none _)
    · exact or_iff_left hsame

theorem freeSession (h : store.Intact [session]) : (store.freeSession session).Intact [] := by
  obtain ⟨hnodup, -, hdisjoint⟩ := List.nodup_append.mp h.nodup
  have hunlisted : session ∉ store.sessionArray := fun hmem =>
    hdisjoint session hmem session (List.mem_singleton_self session) rfl
  refine ⟨h.fault, h.overrun, (List.append_nil store.sessionArray).symm ▸ hnodup, fun other => ?_⟩
  have hiff := h.live_iff other
  change other ∈ store.sessionArray ++ [] ↔ (store.sessions.free session).get other ≠ none
  rw [List.append_nil, Heap.get_free]
  rw [List.mem_append, List.mem_singleton] at hiff
  split_ifs with hsame
  · rw [hsame]
    exact iff_of_false hunlisted fun hlive => hlive rfl
  · rw [← hiff]
    exact (or_iff_left hsame).symm

theorem inventoryAddSession (append : Option APIError) (h : store.Intact [session]) :
    let result := inventoryAddSession append session store
    result.2.Intact (if result.1 = .success then [] else [session]) := by
  unfold RedApid.inventoryAddSession inventoryGetNextSessionId
  obtain ⟨found, next⟩ := nextFreeId store.sessionIdInUse store.nextSessionId
  have hcounter : store.Careful { store with nextSessionId := next } := .congr rfl rfl rfl rfl
  cases found with
  | none => exact h.careful hcounter
  | some id =>
      have hlive : store.sessions.get session ≠ none :=
        (h.live_iff session).mp (List.mem_append_right _ (List.mem_singleton_self session))
      obtain ⟨s, hs⟩ := Option.ne_none_iff_exists'.mp hlive
      have hstored : store.Careful (Store.modifySession { store with nextSessionId := next } session
          fun s => { s with id }) := by
        refine ⟨?_, by simp, by simp, fun _ => by simp⟩
        rw [Store.modifySession_fault, hs]
        exact Bool.or_false _
      have hintact := h.careful hstored
      cases append with
      | some code =>
          dsimp only
          rw [if_neg code.property]
          exact hintact
      | none =>
          refine ⟨hintact.fault, hintact.overrun, ?_, fun other => ?_⟩
          · rw [if_pos rfl, List.append_nil]
            exact hintact.nodup
          · rw [if_pos rfl, List.append_nil]
            exact hintact.live_iff other

theorem sessionCreate (h : store.Intact []) (outcome : SessionCreation) (lifetime : UInt32) :
    (sessionCreate outcome lifetime store).2.Intact [] := by
  have hfailed := freeSession h.callocSession
  have hadded := inventoryAddSession outcome.append h.callocSession
  unfold RedApid.sessionCreate
  split_ifs
  · exact h
  · exact h
  cases outcome.timerCreate with
  | some code => exact hfailed
  | none =>
      cases outcome.timerConfigure with
      | some code => exact hfailed
      | none =>
          change Intact (if (RedApid.inventoryAddSession outcome.append store.callocSession.1
            store.callocSession.2).1 = .success then [] else [store.callocSession.1]) _ at hadded
          dsimp only
          split_ifs with hcode
          · rw [if_pos hcode] at hadded
            exact hadded
          · rw [if_neg hcode] at hadded
            exact freeSession hadded

theorem sessionExpireHelper (h : store.Intact []) (hcounted : store.Counted)
    (haccounted : store.Accounted ownHolds pool) (hmem : session ∈ store.sessionArray) :
    (sessionExpireHelper array session store).Intact [] := by
  have hsession := h.live hmem
  have hfirst : store.Careful (sessionRemoveExternalReferences array session store) :=
    .sessionRemoveExternalReferences hcounted haccounted hsession
  have hkeeps : store.KeepsHolds (sessionRemoveExternalReferences array session store) :=
    .sessionRemoveExternalReferences session store
  have hcounted' := (sessionRemoveExternalReferences_counted array session hcounted).1
  have haccounted' := hkeeps.accounted pool haccounted
  -- session_destroy finds no entry any more
  have hsecond : store.Careful (sessionRemoveExternalReferences array session
      (sessionRemoveExternalReferences array session store)) :=
    hfirst.trans (.sessionRemoveExternalReferences hcounted' haccounted'
      ((hfirst.session_live session).mpr hsession))
  have hhelper : RedApid.sessionExpireHelper array session store =
      { sessionDestroy array session (sessionRemoveExternalReferences array session store) with
        sessionArray := store.sessionArray.erase session } := by
    have hsame : (sessionRemoveExternalReferences array session store).sessionArray =
        store.sessionArray := hfirst.sessionArray
    have hdestroyed : (sessionDestroy array session
        (sessionRemoveExternalReferences array session store)).sessionArray =
          (sessionRemoveExternalReferences array session store).sessionArray :=
      sessionRemoveExternalReferences_sessionArray array session _
    unfold RedApid.sessionExpireHelper
    dsimp only
    rw [inventoryRemoveSession_of_mem (hsame ▸ hmem) hdestroyed, hsame]
  have hnodup := h.nodup
  rw [List.append_nil] at hnodup
  rw [hhelper]
  refine ⟨hsecond.fault.trans h.fault, hsecond.overrun.trans h.overrun, ?_, fun other => ?_⟩
  · rw [List.append_nil]
    exact hnodup.erase session
  · have hiff := h.live_iff other
    rw [List.append_nil] at hiff ⊢
    change other ∈ store.sessionArray.erase session ↔
      (Heap.free (sessionRemoveExternalReferences array session
        (sessionRemoveExternalReferences array session store)).sessions session).get other ≠ none
    rw [hnodup.mem_erase_iff, Heap.get_free]
    split_ifs with hsame
    · exact iff_of_false (fun h => h.1 hsame) fun h => h rfl
    · rw [and_iff_right hsame, hsecond.session_live]
      exact hiff

end Store.Intact

end Intact

end RedApid

import RedApid.Store.References

namespace RedApid

open Memory

-- No object or session gets an entry, and sessions stay allocated.
structure Store.Shrinks (store other : Store) : Prop where
  objects : ∀ p o', other.objects.get p = some o' →
    ∃ o, store.objects.get p = some o ∧ o'.externalReferences.Sublist o.externalReferences
  sessions : ∀ p s, store.sessions.get p = some s →
    ∃ s', other.sessions.get p = some s' ∧ s'.externalReferences.Sublist s.externalReferences

namespace Store.Shrinks

variable {store other last : Store}

theorem refl (store : Store) : store.Shrinks store :=
  ⟨fun _ o h => ⟨o, h, .refl _⟩, fun _ s h => ⟨s, h, .refl _⟩⟩

theorem trans (h : store.Shrinks other) (h' : other.Shrinks last) : store.Shrinks last := by
  refine ⟨fun p o'' ho'' => ?_, fun p s hs => ?_⟩
  · obtain ⟨o', ho', hsub'⟩ := h'.objects p o'' ho''
    obtain ⟨o, ho, hsub⟩ := h.objects p o' ho'
    exact ⟨o, ho, hsub'.trans hsub⟩
  · obtain ⟨s', hs', hsub⟩ := h.sessions p s hs
    obtain ⟨s'', hs'', hsub'⟩ := h'.sessions p s' hs'
    exact ⟨s'', hs'', hsub'.trans hsub⟩

theorem congr (hobjects : other.objects = store.objects)
    (hsessions : other.sessions = store.sessions) : store.Shrinks other := by
  refine ⟨fun p o ho => ⟨o, ?_, .refl _⟩, fun p s hs => ⟨s, ?_, .refl _⟩⟩
  · rwa [← hobjects]
  · rwa [hsessions]

theorem modifyObject (store : Store) (object : ObjectRef) {f : Object → Object}
    (hf : ∀ o, (f o).externalReferences.Sublist o.externalReferences) :
    store.Shrinks (store.modifyObject object f) := by
  refine ⟨fun p o' ho' => ?_, fun p s hs => ⟨s, by rwa [modifyObject_sessions], .refl _⟩⟩
  rw [modifyObject_objects, Heap.get_modify] at ho'
  split_ifs at ho'
  · obtain ⟨o, ho, rfl⟩ := Option.map_eq_some_iff.mp ho'
    exact ⟨o, ho, hf o⟩
  · exact ⟨o', ho', .refl _⟩

theorem modifySession (store : Store) (session : SessionRef) {f : Session → Session}
    (hf : ∀ s, (f s).externalReferences.Sublist s.externalReferences) :
    store.Shrinks (store.modifySession session f) := by
  refine ⟨fun p o ho => ⟨o, by rwa [modifySession_objects] at ho, .refl _⟩, fun p s hs => ?_⟩
  rw [modifySession_sessions, Heap.get_modify, hs]
  split_ifs
  · exact ⟨f s, rfl, hf s⟩
  · exact ⟨s, rfl, .refl _⟩

theorem freeObject (store : Store) (object : ObjectRef) :
    store.Shrinks (store.freeObject object) := by
  refine ⟨fun p o ho => ?_, fun p s hs => ⟨s, hs, .refl _⟩⟩
  simp only [Store.freeObject, Heap.get_free] at ho
  split_ifs at ho
  exact ⟨o, ho, .refl _⟩

theorem dropReference (store : Store) (reference : ReferenceRef) (object : ObjectRef)
    (session : SessionRef) (count : Int) :
    store.Shrinks (store.dropReference reference object session count) := by
  have hobject : store.Shrinks (store.unlinkObject reference object) :=
    modifyObject store object fun _ => List.erase_sublist
  have hsession (store : Store) : store.Shrinks (store.unlinkSession reference session) :=
    modifySession store session fun _ => List.erase_sublist
  have hfree (store : Store) : store.Shrinks (store.freeReference reference) := congr rfl rfl
  have hcount (store : Store) : store.Shrinks (store.countObject object (-count)) :=
    modifyObject store object fun _ => .refl _
  have hcount' (store : Store) : store.Shrinks (store.countSession session (-count)) :=
    modifySession store session fun _ => .refl _
  exact (((hobject.trans (hsession _)).trans (hfree _)).trans (hcount _)).trans (hcount' _)

theorem foldl_objectDropReference (object : ObjectRef) (references : List ReferenceRef)
    (store : Store) : store.Shrinks (references.foldl (objectDropReference object) store) := by
  induction references generalizing store with
  | nil => exact refl store
  | cons reference references ih =>
      refine trans ?_ (ih _)
      unfold objectDropReference
      split
      · exact congr rfl rfl
      · exact dropReference store reference object _ _

theorem unlock (hold : Hold) (store : Store) : store.Shrinks (hold.unlock store) := by
  unfold Hold.unlock
  split
  · refine modifyObject store hold.object fun o => ?_
    split <;> exact .refl _
  · exact refl store

theorem objectDropInternalReference (object : ObjectRef) (store : Store) :
    store.Shrinks (objectDropInternalReference object store) :=
  modifyObject store object fun _ => .refl _

theorem run (array : ArrayRemove) (task : Task) (store : Store) :
    store.Shrinks (task.run array store).2 := by
  cases task with
  | drop hold =>
      refine (unlock hold store).trans ?_
      simp only [Task.run, objectDropTasks]
      split
      · exact congr rfl rfl
      · split_ifs
        · exact refl _
        · exact objectDropInternalReference _ _
        · exact objectDropInternalReference _ _
  | removeObject object =>
      simp only [Task.run]
      split
      · exact congr rfl rfl
      · split <;> exact refl _
  | destroy object =>
      simp only [Task.run]
      split
      · exact congr rfl rfl
      · exact foldl_objectDropReference object _ store
  | free object => exact freeObject store object
  | shift type i object => exact congr rfl rfl

theorem of_runs {array : ArrayRemove} {tasks : List Task} (h : Runs array tasks store last) :
    store.Shrinks last := by
  refine h.invariant (P := fun _ s => store.Shrinks s) ?_ (refl store)
  exact fun task _ s hs => hs.trans (run array task s)

end Store.Shrinks

theorem Store.dropReference_get_object (store : Store) (reference : ReferenceRef)
    (object : ObjectRef) (session : SessionRef) (count : Int) :
    (store.dropReference reference object session count).objects.get object =
      (store.objects.get object).map fun o =>
        { o with
          externalReferences := o.externalReferences.erase reference
          externalReferenceCount := o.externalReferenceCount + -count } := by
  simp only [dropReference, countExternal, countSession, countObject, unlinkReference,
    freeReference, unlinkSession, unlinkObject, modifySession_objects, modifyObject_objects,
    Heap.get_modify_self, Option.map_map]
  rfl

-- The loop in object_destroy empties the list of the object.
theorem foldl_objectDropReference_counted {store : Store} {object : ObjectRef} {o : Object}
    (references : List ReferenceRef) (h : store.Counted) (ho : store.objects.get object = some o)
    (hlist : o.externalReferences = references) :
    (references.foldl (objectDropReference object) store).Counted ∧
      ∃ o', (references.foldl (objectDropReference object) store).objects.get object = some o' ∧
        o'.externalReferences = [] := by
  induction references generalizing store o with
  | nil => exact ⟨h, o, ho, hlist⟩
  | cons reference references ih =>
      have hmem : reference ∈ o.externalReferences := by rw [hlist]; exact List.mem_cons_self
      obtain ⟨e, he, howner⟩ := (h.linked.objects.mem_iff object o ho reference).mp hmem
      change e.object = object at howner
      subst howner
      have hstep : objectDropReference e.object store reference =
          store.dropReference reference e.object e.session e.count := by
        simp only [objectDropReference, he]
      rw [List.foldl_cons, hstep]
      refine ih (h.dropReference he) (o := { o with
        externalReferences := o.externalReferences.erase reference
        externalReferenceCount := o.externalReferenceCount + -e.count }) ?_ ?_
      · rw [store.dropReference_get_object, ho]
        rfl
      · simp only [hlist, List.erase_cons_head]

namespace Store.Counted

variable {array : ArrayRemove} {store last : Store}

theorem unlock (h : store.Counted) (hold : Hold) : (hold.unlock store).Counted := by
  unfold Hold.unlock
  split
  · refine h.modifyObject ?_ ?_ <;> intro o <;> split <;> rfl
  · exact h

-- An object that is about to be freed has no entry left.
def Cleared (tasks : List Task) (store : Store) : Prop :=
  ∀ object, Task.free object ∈ tasks → ∀ o, store.objects.get object = some o →
    o.externalReferences = []

theorem Cleared.shrink {tasks : List Task} (h : Cleared tasks store) {other : Store}
    (hshrinks : store.Shrinks other) : Cleared tasks other := by
  intro object hmem o' ho'
  obtain ⟨o, ho, hsub⟩ := hshrinks.objects object o' ho'
  rw [h object hmem o ho] at hsub
  exact List.sublist_nil.mp hsub

theorem run {task : Task} {tasks : List Task} (h : store.Counted)
    (hcleared : Cleared (task :: tasks) store) :
    (task.run array store).2.Counted ∧
      Cleared ((task.run array store).1 ++ tasks) (task.run array store).2 := by
  have htail : Cleared tasks (task.run array store).2 :=
    Cleared.shrink (fun object hmem => hcleared object (List.mem_cons_of_mem _ hmem))
      (.run array task store)
  cases task with
  | drop hold =>
      have hunlocked := h.unlock hold
      simp only [Task.run, objectDropTasks] at htail ⊢
      split
      · rename_i hget
        simp only [hget] at htail
        exact ⟨hunlocked.congr rfl rfl rfl, htail⟩
      · rename_i o hget
        simp only [hget] at htail
        split_ifs at htail ⊢
        · exact ⟨hunlocked, htail⟩
        · refine ⟨hunlocked.modifyObject (fun _ => rfl) (fun _ => rfl), ?_⟩
          intro object hmem
          exact htail object (by simpa using hmem)
        · exact ⟨hunlocked.modifyObject (fun _ => rfl) (fun _ => rfl), htail⟩
  | removeObject object =>
      simp only [Task.run] at htail ⊢
      split
      · rename_i hget
        simp only [hget] at htail
        exact ⟨h.congr rfl rfl rfl, htail⟩
      · rename_i o hget
        simp only [hget] at htail
        split
        · rename_i hindex
          simp only [hindex] at htail
          exact ⟨h, htail⟩
        · rename_i i hindex
          simp only [hindex] at htail
          exact ⟨h, fun object hmem => htail object (by simpa using hmem)⟩
  | destroy object =>
      cases hget : store.objects.get object with
      | none =>
          simp only [Task.run, hget] at htail ⊢
          exact ⟨h.congr rfl rfl rfl, htail⟩
      | some o =>
          obtain ⟨hcounted, o', ho', hempty⟩ :=
            foldl_objectDropReference_counted o.externalReferences h hget rfl
          simp only [Task.run, hget] at htail ⊢
          refine ⟨hcounted, ?_⟩
          intro other hmem
          simp only [List.append_assoc, List.mem_append, List.mem_map, reduceCtorEq, and_false,
            exists_false, List.mem_singleton, Task.free.injEq, false_or] at hmem
          rcases hmem with rfl | hmem
          · intro o'' ho''
            rw [ho'] at ho''
            cases ho''
            exact hempty
          · exact htail other hmem
  | free object =>
      refine ⟨⟨⟨h.linked.objects.free_owner ?_, h.linked.sessions, h.linked.unique⟩, h.count_pos⟩,
        htail⟩
      exact fun o ho => hcleared object List.mem_cons_self o ho
  | shift type i object => exact ⟨h.congr rfl rfl rfl, htail⟩

theorem of_runs {tasks : List Task} (h : store.Counted) (hcleared : Cleared tasks store)
    (hruns : Runs array tasks store last) : last.Counted :=
  (hruns.invariant (P := fun tasks s => s.Counted ∧ Cleared tasks s)
    (fun _ _ _ hs => hs.1.run hs.2) ⟨h, hcleared⟩).1

theorem release (h : store.Counted) (object : ObjectRef) : (store.release array object).Counted :=
  h.of_runs (by simp [Cleared]) (store.release_runs object)

theorem remove (h : store.Counted) (object : ObjectRef) : (store.remove array object).Counted :=
  h.of_runs (by simp [Cleared]) (store.remove_runs object)

theorem removeExternalReference (h : store.Counted) (object : ObjectRef) (session : SessionRef) :
    (objectRemoveExternalReference array object session store).Counted := by
  unfold objectRemoveExternalReference
  split
  · exact h.congr rfl rfl rfl
  · rename_i o ho
    split
    · exact h
    · split
      · exact h
      · rename_i reference hfind
        obtain ⟨e, he, rfl, rfl⟩ := h.linked.findReference_some hfind
        have hreleased := h.releaseReference he
        simp only
        split
        · exact hreleased.remove e.object
        · exact hreleased

theorem objectRelease (h : store.Counted) (object : ObjectRef) (session : SessionRef) :
    (objectRelease array object session store).2.Counted := by
  unfold RedApid.objectRelease
  split
  · exact h.congr rfl rfl rfl
  · split
    · exact h
    · exact h.removeExternalReference object session

end Store.Counted

section Sessions

variable {array : ArrayRemove}

variable (array) in
theorem Store.Counted.removeUnreferenced {store : Store} (h : store.Counted)
    (object : ObjectRef) :
    (store.removeUnreferenced array object).Counted ∧
      store.Shrinks (store.removeUnreferenced array object) ∧
      (store.removeUnreferenced array object).overrun = store.overrun := by
  unfold Store.removeUnreferenced
  split
  · exact ⟨h.congr rfl rfl rfl, .congr rfl rfl, rfl⟩
  · split
    · have hruns := @Store.remove_runs array object store
      exact ⟨h.remove object, .of_runs hruns, hruns.overrun_eq⟩
    · exact ⟨h, .refl _, rfl⟩

theorem Store.dropReference_get_session (store : Store) (reference : ReferenceRef)
    (object : ObjectRef) (session : SessionRef) (count : Int) :
    (store.dropReference reference object session count).sessions.get session =
      (store.sessions.get session).map fun s =>
        { s with
          externalReferences := s.externalReferences.erase reference
          externalReferenceCount := s.externalReferenceCount + -count } := by
  simp only [dropReference, countExternal, countSession, countObject, unlinkReference,
    freeReference, unlinkSession, unlinkObject, modifySession_sessions, modifyObject_sessions,
    Memory.Heap.get_modify_self, Option.map_map]
  rfl

theorem Store.dropReference_overrun (store : Store) (reference : ReferenceRef)
    (object : ObjectRef) (session : SessionRef) (count : Int) :
    (store.dropReference reference object session count).overrun = store.overrun := by
  simp [dropReference, countExternal, countSession, countObject, unlinkReference, freeReference,
    unlinkSession, unlinkObject]

variable (array) in
-- Every round takes the head off the list, and a cascade only takes more entries off it.
theorem removeExternalReferences_counted (rounds : Nat) (session : SessionRef) (store : Store)
    (h : store.Counted) {s : Session} (hs : store.sessions.get session = some s)
    (hrounds : s.externalReferences.length ≤ rounds) :
    let last := removeExternalReferences array rounds session store
    last.Counted ∧ last.overrun = store.overrun ∧
      ∃ s', last.sessions.get session = some s' ∧ s'.externalReferences = [] := by
  induction rounds generalizing store s with
  | zero =>
      have hempty : s.externalReferences = [] := List.eq_nil_of_length_eq_zero (by omega)
      simp only [removeExternalReferences, hs, Option.map_some, hempty]
      exact ⟨h, trivial, s, rfl, hempty⟩
  | succ rounds ih =>
      cases hlist : s.externalReferences with
      | nil =>
          simp only [removeExternalReferences, hs, Option.map_some, hlist]
          exact ⟨h, trivial, s, rfl, hlist⟩
      | cons reference references =>
          have hmem : reference ∈ s.externalReferences := by rw [hlist]; exact List.mem_cons_self
          obtain ⟨e, he, howner⟩ := (h.linked.sessions.mem_iff session s hs reference).mp hmem
          change e.session = session at howner
          subst howner
          simp only [removeExternalReferences, hs, Option.map_some, hlist, sessionDropReference, he]
          have hget := store.dropReference_get_session reference e.object e.session e.count
          rw [hs, Option.map_some] at hget
          obtain ⟨hcounted, hshrinks, hoverrun⟩ :=
            Store.Counted.removeUnreferenced array (h.dropReference he) e.object
          obtain ⟨s', hs', hsub⟩ := hshrinks.sessions e.session _ hget
          have hlength := hsub.length_le
          simp only [hlist, List.erase_cons_head] at hlength
          simp only [hlist, List.length_cons] at hrounds
          obtain ⟨hlast, hoverrun', hempty⟩ := ih _ hcounted hs' (by omega)
          exact ⟨hlast, hoverrun'.trans (hoverrun.trans (store.dropReference_overrun _ _ _ _)), hempty⟩

variable (array) in
theorem sessionRemoveExternalReferences_counted (session : SessionRef) {store : Store}
    (h : store.Counted) :
    let last := sessionRemoveExternalReferences array session store
    last.Counted ∧ last.overrun = store.overrun ∧
      ∀ s, last.sessions.get session = some s → s.externalReferences = [] := by
  unfold sessionRemoveExternalReferences
  cases hs : store.sessions.get session with
  | none =>
      refine ⟨h.congr rfl rfl rfl, rfl, ?_⟩
      intro s hs'
      change store.sessions.get session = some s at hs'
      rw [hs] at hs'
      cases hs'
  | some s =>
      obtain ⟨hlast, hoverrun, s', hs', hempty⟩ :=
        removeExternalReferences_counted array _ session store h hs (Nat.le_refl _)
      refine ⟨hlast, hoverrun, ?_⟩
      intro s'' hs''
      rw [hs'] at hs''
      cases hs''
      exact hempty

variable (array) in
theorem sessionDestroy_counted (session : SessionRef) {store : Store} (h : store.Counted) :
    (sessionDestroy array session store).Counted ∧
      (sessionDestroy array session store).overrun = store.overrun := by
  obtain ⟨hlast, hoverrun, hempty⟩ :=
    sessionRemoveExternalReferences_counted array session h
  exact ⟨⟨⟨hlast.linked.objects, hlast.linked.sessions.free_owner hempty, hlast.linked.unique⟩,
    hlast.count_pos⟩, hoverrun⟩

theorem sessionExpireHelper_counted (session : SessionRef) {store : Store} (h : store.Counted) :
    (sessionExpireHelper array session store).Counted ∧
      (sessionExpireHelper array session store).overrun = store.overrun := by
  obtain ⟨hlast, hoverrun, -⟩ := sessionRemoveExternalReferences_counted array session h
  unfold sessionExpireHelper inventoryRemoveSession
  simp only
  split
  · exact ⟨hlast, hoverrun⟩
  · obtain ⟨hdestroyed, hoverrun'⟩ := sessionDestroy_counted array session hlast
    exact ⟨hdestroyed.congr rfl rfl rfl, hoverrun'.trans hoverrun⟩

theorem inventoryAddSession_counted (append : Option APIError) (session : SessionRef) {store : Store}
    (h : store.Counted) : (inventoryAddSession append session store).2.Counted := by
  unfold inventoryAddSession inventoryGetNextSessionId
  generalize nextFreeId _ _ = found
  obtain ⟨_ | id, next⟩ := found
  · exact h.congr rfl rfl rfl
  · have hcounter : Store.Counted { store with nextSessionId := next } := h.congr rfl rfl rfl
    have hstored : (Store.modifySession { store with nextSessionId := next } session
        fun s => { s with id }).Counted :=
      hcounter.modifySession (by intro _; rfl) (by intro _; rfl)
    cases append with
    | some code => exact hstored
    | none => exact hstored.congr rfl rfl rfl

theorem inventoryAddSession_shrinks (append : Option APIError) (session : SessionRef)
    (store : Store) : store.Shrinks (inventoryAddSession append session store).2 := by
  unfold inventoryAddSession inventoryGetNextSessionId
  generalize nextFreeId _ _ = found
  obtain ⟨_ | id, next⟩ := found
  · exact .congr rfl rfl
  · have hcounter : store.Shrinks { store with nextSessionId := next } := .congr rfl rfl
    have hstored : store.Shrinks (Store.modifySession { store with nextSessionId := next } session
        fun s => { s with id }) :=
      hcounter.trans (.modifySession _ _ (by intro _; exact .refl _))
    cases append with
    | some code => exact hstored
    | none => exact hstored.trans (.congr rfl rfl)

theorem Store.Counted.freeSession {store : Store} {session : SessionRef} (h : store.Counted)
    (hempty : ∀ s, store.sessions.get session = some s → s.externalReferences = []) :
    (store.freeSession session).Counted :=
  ⟨⟨h.linked.objects, h.linked.sessions.free_owner hempty, h.linked.unique⟩, h.count_pos⟩

theorem sessionCreate_counted (outcome : SessionCreation) (lifetime : UInt32) {store : Store}
    (h : store.Counted) : (sessionCreate outcome lifetime store).2.Counted := by
  have hallocated : store.callocSession.2.Counted :=
    ⟨⟨h.linked.objects, h.linked.sessions.alloc_owner rfl rfl, h.linked.unique⟩, h.count_pos⟩
  have hget : store.callocSession.2.sessions.get store.callocSession.1 = some ⟨0, [], 0⟩ :=
    store.sessions.get_alloc_next _
  have hfailed : (store.callocSession.2.freeSession store.callocSession.1).Counted := by
    refine hallocated.freeSession ?_
    intro s hs
    rw [hget] at hs
    cases hs
    rfl
  have hadded := inventoryAddSession_counted outcome.append store.callocSession.1 hallocated
  obtain ⟨s', hs', hsub⟩ := (inventoryAddSession_shrinks outcome.append store.callocSession.1
    store.callocSession.2).sessions _ _ hget
  unfold sessionCreate
  split
  · exact h
  split
  · exact h
  cases outcome.timerCreate with
  | some code => exact hfailed
  | none =>
      cases outcome.timerConfigure with
      | some code => exact hfailed
      | none =>
          simp only
          split
          · exact hadded
          · refine hadded.freeSession ?_
            intro s hs
            rw [hs'] at hs
            cases hs
            exact List.sublist_nil.mp hsub

end Sessions

section Objects

theorem inventoryAddObject_counted (append : Option APIError) (type : ObjectType) (object : ObjectRef)
    {store : Store} (h : store.Counted) :
    (inventoryAddObject append type object store).2.Counted := by
  unfold inventoryAddObject inventoryGetNextObjectId
  generalize nextFreeId _ _ = found
  obtain ⟨_ | id, next⟩ := found
  · exact h.congr rfl rfl rfl
  · have hcounter : Store.Counted { store with nextObjectId := next } := h.congr rfl rfl rfl
    have hstored : (Store.modifyObject { store with nextObjectId := next } object
        fun o => { o with id }).Counted :=
      hcounter.modifyObject (by intro _; rfl) (by intro _; rfl)
    cases append with
    | some code => exact hstored
    | none => exact hstored.congr rfl rfl rfl

theorem objectCreateReferences_counted (outcome : ObjectCreation) (object : ObjectRef)
    (type : ObjectType) (session : Option SessionRef) (flags : UInt32) {store : Store}
    (h : store.Counted) :
    (objectCreateReferences outcome object type session flags store).2.Counted := by
  have hinternal : (if flags &&& OBJECT_CREATE_FLAG_INTERNAL ≠ 0 then
      objectAddInternalReference object store else store).Counted := by
    split
    · exact h.modifyObject (fun _ => rfl) (fun _ => rfl)
    · exact h
  unfold objectCreateReferences
  generalize (if flags &&& OBJECT_CREATE_FLAG_INTERNAL ≠ 0 then
      objectAddInternalReference object store else store) = acquired at hinternal ⊢
  have hexternal : (objectCreateExternal outcome object session flags acquired).2.Counted := by
    unfold objectCreateExternal
    split
    · split
      · exact hinternal.addExternalReference _ _ _
      · exact hinternal
    · exact hinternal
  simp only
  split
  · exact hexternal
  · refine inventoryAddObject_counted _ _ _ ?_
    split
    · exact hexternal.modifyObject (fun _ => rfl) (fun _ => rfl)
    · exact hexternal

-- The memory of a new object is zeroed already.
theorem resetObject_callocObject (store : Store) (payload : Payload) :
    (store.callocObject payload).2.resetObject (store.callocObject payload).1 payload.type =
      (store.callocObject payload).2 := by
  have hget : (store.callocObject payload).2.objects.get (store.callocObject payload).1 =
      some ⟨0, payload.type, 0, [], 0, 0, payload⟩ := store.objects.get_alloc_next _
  unfold Store.resetObject
  rw [Store.modifyObject_of_get hget]
  simp only [Store.callocObject, Heap.modify_alloc_next]

-- The flags that object_create accepts.
def ValidFlags (session : Option SessionRef) (flags : UInt32) : Prop :=
  ¬ flags &&& (OBJECT_CREATE_FLAG_INTERNAL ||| OBJECT_CREATE_FLAG_EXTERNAL) = 0 ∧
    ¬ (flags &&& OBJECT_CREATE_FLAG_EXTERNAL ≠ 0 ∧ session = none) ∧
    ¬ (flags &&& OBJECT_CREATE_FLAG_LOCKED ≠ 0 ∧ flags &&& OBJECT_CREATE_FLAG_INTERNAL = 0)

theorem createObject_of_invalid (outcome : ObjectCreation) (payload : Payload)
    {session : Option SessionRef} {flags : UInt32} (store : Store)
    (h : ¬ ValidFlags session flags) :
    store.createObject outcome payload session flags =
      (.error .internalError, (store.callocObject payload).2.freeMemory store.objects.next) := by
  have hcreate : objectCreate outcome (store.callocObject payload).1 payload.type session flags
      (store.callocObject payload).2 = (.internalError, (store.callocObject payload).2) := by
    simp only [objectCreate, resetObject_callocObject]
    split
    · rfl
    split
    · rfl
    split
    · rfl
    · rename_i hflags hsession hlocked
      exact absurd ⟨hflags, hsession, hlocked⟩ h
  simp only [Store.createObject, hcreate]
  rfl

theorem createObject_of_valid (outcome : ObjectCreation) (payload : Payload)
    {session : Option SessionRef} {flags : UInt32} (store : Store) (h : ValidFlags session flags) :
    store.createObject outcome payload session flags =
      let result := objectCreateReferences outcome store.objects.next payload.type session flags
        (store.callocObject payload).2
      if result.1 = .success then (.ok store.objects.next, result.2)
      else (.error result.1, result.2.freeMemory store.objects.next) := by
  obtain ⟨hflags, hsession, hlocked⟩ := h
  have hcreate : objectCreate outcome (store.callocObject payload).1 payload.type session flags
      (store.callocObject payload).2 = objectCreateReferences outcome store.objects.next
        payload.type session flags (store.callocObject payload).2 := by
    simp only [objectCreate, resetObject_callocObject, if_neg hflags, if_neg hsession,
      if_neg hlocked]
    rfl
  simp only [Store.createObject, hcreate]
  rfl

-- What a successful creation has done.
theorem createObject_ok {outcome : ObjectCreation} {payload : Payload}
    {session : Option SessionRef} {flags : UInt32} {store : Store} {object : ObjectRef}
    (h : (store.createObject outcome payload session flags).1 = .ok object) :
    object = store.objects.next ∧ ValidFlags session flags ∧
      objectCreateReferences outcome object payload.type session flags
          (store.callocObject payload).2 =
        (.success, (store.createObject outcome payload session flags).2) := by
  by_cases hvalid : ValidFlags session flags
  · rw [createObject_of_valid outcome payload store hvalid] at h ⊢
    simp only at h ⊢
    split at h
    · rename_i hcode
      rw [if_pos hcode]
      have hobject : store.objects.next = object := by injection h
      rw [← hobject]
      exact ⟨rfl, hvalid, Prod.ext hcode rfl⟩
    · cases h
  · rw [createObject_of_invalid outcome payload store hvalid] at h
    cases h

theorem createObject_counted {outcome : ObjectCreation} {payload : Payload}
    {session : Option SessionRef} {flags : UInt32} {store : Store} {object : ObjectRef}
    (h : store.Counted)
    (hcreated : (store.createObject outcome payload session flags).1 = .ok object) :
    (store.createObject outcome payload session flags).2.Counted := by
  have hallocated : (store.callocObject payload).2.Counted :=
    ⟨⟨h.linked.objects.alloc_owner rfl rfl, h.linked.sessions, h.linked.unique⟩, h.count_pos⟩
  obtain ⟨-, -, hreferences⟩ := createObject_ok hcreated
  have := objectCreateReferences_counted outcome object payload.type session flags hallocated
  rwa [hreferences] at this

end Objects

section Runs

-- The operations on objects and sessions that create no object. The payload of an object,
-- which decides what its destroy function drops, may change in any way.
inductive Operation where
  | sessionCreate (outcome : SessionCreation) (lifetime : UInt32)
  | addExternalReference (calloc : Bool) (object : ObjectRef) (session : SessionRef)
  | removeExternalReference (object : ObjectRef) (session : SessionRef)
  | release (object : ObjectRef) (session : SessionRef)
  | addInternalReference (object : ObjectRef)
  | removeInternalReference (object : ObjectRef)
  | sessionExpire (session : SessionRef)
  | sessionHandleExpire (session : SessionRef)
  | lock (object : ObjectRef)
  | unlock (object : ObjectRef)
  | setPayload (object : ObjectRef) (payload : Payload)

def Operation.run (array : ArrayRemove) : Operation → Store → Store
  | .sessionCreate outcome lifetime, store => (RedApid.sessionCreate outcome lifetime store).2
  | .addExternalReference calloc object session, store =>
      (objectAddExternalReference calloc object session store).2
  | .removeExternalReference object session, store =>
      objectRemoveExternalReference array object session store
  | .release object session, store => (objectRelease array object session store).2
  | .addInternalReference object, store => objectAddInternalReference object store
  | .removeInternalReference object, store => store.release array object
  | .sessionExpire session, store => (RedApid.sessionExpire array session store).2
  | .sessionHandleExpire session, store => RedApid.sessionHandleExpire array session store
  | .lock object, store => objectLock object store
  | .unlock object, store => objectUnlock object store
  | .setPayload object payload, store =>
      store.modifyObject object fun o => { o with payload }

-- The operations, successful creations of objects and the destruction of any object.
inductive ReferenceStep (array : ArrayRemove) : Store → Store → Prop where
  | operation (store : Store) (operation : Operation) :
      ReferenceStep array store (operation.run array store)
  | objectCreate (store : Store) (outcome : ObjectCreation) (payload : Payload)
      (session : Option SessionRef) (flags : UInt32) (object : ObjectRef)
      (created : (store.createObject outcome payload session flags).1 = .ok object) :
      ReferenceStep array store (store.createObject outcome payload session flags).2
  | objectDestroy (store : Store) (object : ObjectRef) :
      ReferenceStep array store
        (objectDestroy (objectRemoveInternalReference array store.depth) object store)

variable {array : ArrayRemove} {store other : Store}

theorem Operation.counted (operation : Operation) (h : store.Counted) :
    (operation.run array store).Counted := by
  cases operation with
  | sessionCreate outcome lifetime => exact sessionCreate_counted outcome lifetime h
  | addExternalReference calloc object session => exact h.addExternalReference calloc object session
  | removeExternalReference object session => exact h.removeExternalReference object session
  | release object session => exact h.objectRelease object session
  | addInternalReference object => exact h.modifyObject (fun _ => rfl) (fun _ => rfl)
  | removeInternalReference object => exact h.release object
  | sessionExpire session => exact (sessionExpireHelper_counted session h).1
  | sessionHandleExpire session => exact (sessionExpireHelper_counted session h).1
  | lock object => exact h.modifyObject (fun _ => rfl) (fun _ => rfl)
  | unlock object => exact h.unlock (lockedHold object)
  | setPayload object payload => exact h.modifyObject (by intro _; rfl) (by intro _; rfl)

theorem ReferenceStep.counted (hstep : ReferenceStep array store other) (h : store.Counted) :
    other.Counted := by
  cases hstep with
  | operation operation => exact operation.counted h
  | objectCreate outcome payload session flags object created =>
      exact createObject_counted h created
  | objectDestroy object =>
      exact h.of_runs (by simp [Store.Counted.Cleared])
        (Runs.destroy (bounded array store.depth) object (Nat.le_refl _))

theorem counted_of_steps (h : Relation.ReflTransGen (ReferenceStep array) Store.init store) :
    store.Counted := by
  induction h with
  | refl => exact .init
  | tail _ hstep ih => exact hstep.counted ih

-- What the reference accounting promises about a state.
structure Store.ReferencesExact (store : Store) : Prop where
  -- the counts of live objects and sessions are the sums over their lists
  object_count : ∀ p o, store.objects.get p = some o → o.externalReferenceCount =
    (o.externalReferences.map fun r => ((store.references.get r).map (·.count)).getD 0).sum
  session_count : ∀ p s, store.sessions.get p = some s → s.externalReferenceCount =
    (s.externalReferences.map fun r => ((store.references.get r).map (·.count)).getD 0).sum
  -- the object and the session of an entry are live and have it in their lists
  entry_object : ∀ r e, store.references.get r = some e →
    ∃ o, store.objects.get e.object = some o ∧ r ∈ o.externalReferences
  entry_session : ∀ r e, store.references.get r = some e →
    ∃ s, store.sessions.get e.session = some s ∧ r ∈ s.externalReferences
  -- it is there once, in no other list, and the lists hold nothing else
  object_nodup : ∀ p o, store.objects.get p = some o → o.externalReferences.Nodup
  session_nodup : ∀ p s, store.sessions.get p = some s → s.externalReferences.Nodup
  object_entry : ∀ p o, store.objects.get p = some o → ∀ r ∈ o.externalReferences,
    ∃ e, store.references.get r = some e ∧ e.object = p
  session_entry : ∀ p s, store.sessions.get p = some s → ∀ r ∈ s.externalReferences,
    ∃ e, store.references.get r = some e ∧ e.session = p
  -- one entry per object and session, which counts for something
  unique : ∀ r r' e e', store.references.get r = some e → store.references.get r' = some e' →
    e.object = e'.object → e.session = e'.session → r = r'
  count_pos : ∀ r e, store.references.get r = some e → 1 ≤ e.count

theorem Store.Counted.exact (h : store.Counted) : store.ReferencesExact := by
  have hweight : ∀ r, ((store.references.get r).map (·.count)).getD 0 =
      (store.references.get r).elim 0 ExternalReference.count := by
    intro r
    cases store.references.get r <;> rfl
  refine ⟨?_, ?_, ?_, ?_, h.linked.objects.nodup, h.linked.sessions.nodup, ?_, ?_,
    h.linked.unique, h.count_pos⟩
  · intro p o ho
    simp only [hweight]
    exact (h.linked.objects.count_eq p o ho).trans (Int.add_zero _)
  · intro p s hs
    simp only [hweight]
    exact (h.linked.sessions.count_eq p s hs).trans (Int.add_zero _)
  · intro r e he
    obtain ⟨o, ho⟩ := Option.ne_none_iff_exists'.mp (h.linked.objects.owner_live r e he)
    exact ⟨o, ho, (h.linked.objects.mem_iff _ o ho r).mpr ⟨e, he, rfl⟩⟩
  · intro r e he
    obtain ⟨s, hs⟩ := Option.ne_none_iff_exists'.mp (h.linked.sessions.owner_live r e he)
    exact ⟨s, hs, (h.linked.sessions.mem_iff _ s hs r).mpr ⟨e, he, rfl⟩⟩
  · exact fun p o ho r hr => (h.linked.objects.mem_iff p o ho r).mp hr
  · exact fun p s hs r hr => (h.linked.sessions.mem_iff p s hs r).mp hr

variable (array) in
theorem references_exact (h : Relation.ReflTransGen (ReferenceStep array) Store.init store) :
    store.ReferencesExact :=
  (counted_of_steps h).exact

-- A session takes two references to a list and expires.
def oneListStore : Store :=
  (((sessionCreate ⟨true, none, none, none⟩ 10 Store.init).2).createObject ⟨true, none⟩ (.list [])
    (some 0) OBJECT_CREATE_FLAG_EXTERNAL).2

def expiredStore : Store :=
  (sessionExpire .byIndex 0 (objectAddExternalReference true 0 0 oneListStore).2).2

theorem expiredStore_references_exact : expiredStore.ReferencesExact :=
  references_exact .byIndex
    ((((Relation.ReflTransGen.refl.tail
      (.operation _ (.sessionCreate ⟨true, none, none, none⟩ 10))).tail
      (.objectCreate _ ⟨true, none⟩ (.list []) (some 0) OBJECT_CREATE_FLAG_EXTERNAL 0 rfl)).tail
      (.operation _ (.addExternalReference true 0 0))).tail (.operation _ (.sessionExpire 0)))

end Runs

end RedApid

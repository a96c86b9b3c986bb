import RedApid.Store.Reachability

namespace RedApid

open Memory

-- While a destruction is running: what is alive in an array has the type of the array, and is
-- referenced or about to be destroyed.
def Store.Listing (tasks : List Task) (store : Store) : Prop :=
  ∀ type, ∀ p ∈ store.objectArray type, ∀ o, store.objects.get p = some o →
    o.type = type ∧ (p ∈ dying tasks ∨ o.Referenced)

section Create

variable {store other : Store}

theorem Store.Modifies.get_ne {object p : ObjectRef} {f : Object → Object}
    (h : store.Modifies object f other) (hp : p ≠ object) :
    other.objects.get p = store.objects.get p := by
  rw [h.objects, Heap.get_modify_ne hp]

theorem objectCreateReferences_modifies_object (outcome : ObjectCreation) (object : ObjectRef)
    (type : ObjectType) (session : Option SessionRef) (flags : UInt32) (store : Store) :
    ∃ f, store.Modifies object f
      (objectCreateReferences outcome object type session flags store).2 := by
  have hcondition : ∀ (condition : Prop) [Decidable condition] (store : Store) (f : Object → Object),
      ∃ g, store.Modifies object g (if condition then store.modifyObject object f else store) := by
    intro condition _ store f
    split
    · exact ⟨f, .modifyObject store object f⟩
    · exact ⟨id, .congr object rfl rfl⟩
  have hacquired : ∃ f, store.Modifies object f (if flags &&& OBJECT_CREATE_FLAG_INTERNAL ≠ 0 then
      objectAddInternalReference object store else store) := hcondition _ store _
  unfold objectCreateReferences
  generalize (if flags &&& OBJECT_CREATE_FLAG_INTERNAL ≠ 0 then
      objectAddInternalReference object store else store) = acquired at hacquired ⊢
  obtain ⟨_, hacquired⟩ := hacquired
  obtain ⟨_, _, hexternal, -⟩ :=
    objectCreateExternal_modifies outcome object session flags acquired
  rcases hresult : objectCreateExternal outcome object session flags acquired with ⟨code, external⟩
  simp only [hresult] at hexternal ⊢
  have hmade := hacquired.trans hexternal
  by_cases hcode : code ≠ .success
  · rw [if_pos hcode]
    exact ⟨_, hmade⟩
  · rw [if_neg hcode]
    have hlocked : ∃ f, external.Modifies object f (if flags &&& OBJECT_CREATE_FLAG_LOCKED ≠ 0 then
        objectLock object external else external) := hcondition _ external _
    generalize (if flags &&& OBJECT_CREATE_FLAG_LOCKED ≠ 0 then objectLock object external
        else external) = locked at hlocked ⊢
    obtain ⟨_, hlocked⟩ := hlocked
    obtain ⟨_, hadded, -⟩ := inventoryAddObject_modifies outcome.append type object locked
    exact ⟨_, (hmade.trans hlocked).trans hadded⟩

-- The creation of an object touches no other.
theorem createObject_get_ne (outcome : ObjectCreation) (payload : Payload)
    (session : Option SessionRef) (flags : UInt32) {p : ObjectRef} (hp : p ≠ store.objects.next) :
    (store.createObject outcome payload session flags).2.objects.get p = store.objects.get p := by
  have hallocated : (store.callocObject payload).2.objects.get p = store.objects.get p := by
    rw [Store.callocObject, Heap.get_alloc, if_neg hp]
  by_cases hvalid : ValidFlags session flags
  · obtain ⟨_, hmodifies⟩ := objectCreateReferences_modifies_object outcome store.objects.next
      payload.type session flags (store.callocObject payload).2
    have hcreated := (hmodifies.get_ne hp).trans hallocated
    rw [createObject_of_valid outcome payload store hvalid]
    simp only
    split
    · exact hcreated
    · rw [Store.freeMemory, Heap.get_free_ne hp]
      exact hcreated
  · rw [createObject_of_invalid outcome payload store hvalid, Store.freeMemory, Heap.get_free_ne hp]
    exact hallocated

theorem createObject_next (outcome : ObjectCreation) (payload : Payload)
    (session : Option SessionRef) (flags : UInt32) (store : Store) :
    (store.createObject outcome payload session flags).2.objects.next = store.objects.next + 1 := by
  have hallocated : (store.callocObject payload).2.objects.next = store.objects.next + 1 :=
    Heap.next_alloc _ _
  by_cases hvalid : ValidFlags session flags
  · obtain ⟨_, hmodifies⟩ := objectCreateReferences_modifies_object outcome store.objects.next
      payload.type session flags (store.callocObject payload).2
    have hcreated := congrArg Heap.next hmodifies.objects
    rw [Heap.next_modify, hallocated] at hcreated
    rw [createObject_of_valid outcome payload store hvalid]
    simp only
    split
    · exact hcreated
    · exact (Heap.next_free _ _).trans hcreated
  · rw [createObject_of_invalid outcome payload store hvalid]
    exact (Heap.next_free _ _).trans hallocated

theorem createObject_get_error {outcome : ObjectCreation} {payload : Payload}
    {session : Option SessionRef} {flags : UInt32} {code : APIE}
    (h : (store.createObject outcome payload session flags).1 = .error code) :
    (store.createObject outcome payload session flags).2.objects.get store.objects.next = none := by
  by_cases hvalid : ValidFlags session flags
  · rw [createObject_of_valid outcome payload store hvalid] at h ⊢
    simp only at h ⊢
    split at h
    · cases h
    · rename_i hcode
      rw [if_neg hcode, Store.freeMemory, Heap.get_free_self]
  · rw [createObject_of_invalid outcome payload store hvalid, Store.freeMemory, Heap.get_free_self]

-- A new object has a reference that its creator asked for.
theorem createObject_referenced {outcome : ObjectCreation} {payload : Payload}
    {session : Option SessionRef} {flags : UInt32} {object : ObjectRef} {o : Object}
    (hok : (store.createObject outcome payload session flags).1 = .ok object)
    (ho : (store.createObject outcome payload session flags).2.objects.get object = some o) :
    o.Referenced := by
  obtain ⟨rfl, hvalid, hcreated⟩ := createObject_ok hok
  obtain ⟨f, i, e, hmodifies, hrefers, hone⟩ := objectCreateReferences_modifies outcome
    store.objects.next payload.type (store.callocObject payload).2 hvalid (by rw [hcreated])
  rw [hcreated] at hmodifies
  have hnew : (store.callocObject payload).2.objects.get store.objects.next =
      some ⟨0, payload.type, 0, [], 0, 0, payload⟩ := store.objects.get_alloc_next _
  rw [hmodifies.objects, Heap.get_modify_self, hnew] at ho
  cases ho
  obtain ⟨hinternal, hexternal⟩ := hrefers ⟨0, payload.type, 0, [], 0, 0, payload⟩
  unfold Object.Referenced
  simp only at hinternal hexternal
  omega

theorem createObject_objectArray (outcome : ObjectCreation) (payload : Payload)
    (session : Option SessionRef) (flags : UInt32) (store : Store) (type : ObjectType) :
    (store.createObject outcome payload session flags).2.objectArray type =
        store.objectArray type ∨
      type = payload.type ∧ (∃ object, (store.createObject outcome payload session flags).1 =
        .ok object) ∧ (store.createObject outcome payload session flags).2.objectArray type =
          store.objectArray type ++ [store.objects.next] := by
  by_cases hvalid : ValidFlags session flags
  · obtain ⟨-, hsuccess, hfailure⟩ := objectCreateReferences_frame outcome store.objects.next
      payload.type session flags (store.callocObject payload).2
    rw [createObject_of_valid outcome payload store hvalid]
    simp only
    split
    · rename_i hcode
      have harray := hsuccess hcode type
      by_cases htype : type = payload.type
      · subst htype
        rw [if_pos rfl] at harray
        exact Or.inr ⟨rfl, ⟨_, rfl⟩, harray⟩
      · rw [if_neg htype] at harray
        exact Or.inl harray
    · rename_i hcode
      exact Or.inl (congrFun (hfailure hcode) type)
  · rw [createObject_of_invalid outcome payload store hvalid]
    exact Or.inl rfl

end Create

namespace Store.Listing

variable {array : ArrayRemove} {tasks rest : List Task} {pool : List Hold} {store other : Store}

theorem keep (h : store.Listing tasks) (hkept : store.Kept other)
    (harray : ∀ type, other.objectArray type ⊆ store.objectArray type)
    (hreferenced : ∀ p o o', p ∈ store.objectArray o.type → store.objects.get p = some o →
      other.objects.get p = some o' → p ∈ dying tasks ∨ o.Referenced →
      p ∈ dying rest ∨ o'.Referenced) : other.Listing rest := by
  intro type p hp o' ho'
  obtain ⟨o, ho, htype, -⟩ := hkept.get ho'
  obtain ⟨hlisted, halive⟩ := h type p (harray type hp) o ho
  refine ⟨htype.trans hlisted, hreferenced p o o' ?_ ho ho' halive⟩
  rw [hlisted]
  exact harray type hp

theorem drop_get_ne {hold : Hold} {p : ObjectRef} (hp : p ≠ hold.object) :
    (Task.run array (.drop hold) store).2.objects.get p = store.objects.get p := by
  have hunlock : (hold.unlock store).objects.get p = store.objects.get p := by
    unfold Hold.unlock objectUnlock
    split
    · rw [modifyObject_objects, Heap.get_modify_ne hp]
    · rfl
  rw [← hunlock]
  simp only [Task.run, objectDropTasks]
  split
  · rfl
  · split_ifs
    · rfl
    all_goals rw [objectDropInternalReference, modifyObject_objects, Heap.get_modify_ne hp]

theorem drop_referenced {hold : Hold} {o o' : Object} (ho : store.objects.get hold.object = some o)
    (ho' : (Task.run array (.drop hold) store).2.objects.get hold.object = some o')
    (hreferenced : o.Referenced) :
    hold.object ∈ dying (Task.run array (.drop hold) store).1 ∨ o'.Referenced := by
  obtain ⟨o₁, ho₁, hinternal, hexternal⟩ := Hold.unlock_get ho
  have hsame : o₁.Referenced := by
    unfold Object.Referenced
    rwa [hinternal, hexternal]
  simp only [Task.run, objectDropTasks, ho₁] at ho' ⊢
  by_cases hzero : o₁.internalReferenceCount = 0
  · rw [if_pos hzero] at ho' ⊢
    rw [ho₁] at ho'
    cases ho'
    exact Or.inr hsame
  · rw [if_neg hzero] at ho' ⊢
    by_cases hlast : o₁.internalReferenceCount - 1 = 0 ∧ o₁.externalReferenceCount = 0
    · rw [if_pos hlast]
      exact Or.inl List.mem_cons_self
    · rw [if_neg hlast] at ho' ⊢
      right
      rw [objectDropInternalReference, modifyObject_objects, Heap.get_modify_self, ho₁] at ho'
      cases ho'
      unfold Object.Referenced
      simp only
      omega

theorem run (task : Task) (h : store.Listing (task :: tasks)) :
    (task.run array store).2.Listing ((task.run array store).1 ++ tasks) := by
  refine h.keep (.run array task store)
    (fun type => ((NoNewIds.run array task store).objectArray type).subset) ?_
  intro p o o' hp ho ho' halive
  rw [dying_append, List.mem_append]
  cases task with
  | drop hold =>
      rcases halive with hdying | hreferenced
      · exact Or.inl (Or.inr hdying)
      · by_cases hobject : p = hold.object
        · subst hobject
          exact (drop_referenced ho ho' hreferenced).imp_left Or.inl
        · rw [drop_get_ne hobject, ho] at ho'
          cases ho'
          exact Or.inr hreferenced
  | removeObject object =>
      by_cases hobject : p = object
      · subst hobject
        -- it is listed, so it is found there
        cases hindex : (store.objectArray o.type).idxOf? p with
        | none => exact absurd (List.idxOf?_eq_none_iff.mp hindex) (not_not.mpr hp)
        | some i =>
            simp only [Task.run, ho, hindex]
            exact Or.inl (Or.inl List.mem_cons_self)
      · have hsame : (Task.run array (.removeObject object) store).2.objects = store.objects := by
          simp only [Task.run]
          split
          · rfl
          · split <;> rfl
        rw [hsame, ho] at ho'
        cases ho'
        exact halive.imp_left fun hdying => Or.inr ((List.mem_cons.mp hdying).resolve_left hobject)
  | destroy object =>
      by_cases hobject : p = object
      · subst hobject
        simp only [Task.run, ho, dying_append, dying_map_drop, List.nil_append]
        exact Or.inl (Or.inl List.mem_cons_self)
      · have hsame : (Task.run array (.destroy object) store).2.objects.get p =
            store.objects.get p := by
          simp only [Task.run]
          split
          · rfl
          · exact foldl_objectDropReference_get_ne _ _ hobject
        rw [hsame, ho] at ho'
        cases ho'
        exact halive.imp_left fun hdying => Or.inr ((List.mem_cons.mp hdying).resolve_left hobject)
  | free object =>
      by_cases hobject : p = object
      · subst hobject
        simp [Task.run, freeObject] at ho'
      · rw [Task.run, freeObject, Heap.get_free_ne hobject, ho] at ho'
        cases ho'
        exact halive.imp_left fun hdying => Or.inr ((List.mem_cons.mp hdying).resolve_left hobject)
  | shift type i object =>
      rw [show o' = o from Option.some.inj (ho'.symm.trans ho)]
      exact halive.imp_left Or.inr

theorem of_runs (h : store.Listing tasks) (hruns : Runs array tasks store other) :
    other.Listing [] :=
  hruns.invariant (P := fun tasks s => s.Listing tasks) (fun task _ _ hs => hs.run task) h

-- Between two operations.
theorem init : Store.init.Listing [] := by
  intro type p hp
  simp [Store.init] at hp

theorem referenced_of_get (h : store.Listing []) {type : ObjectType} {p : ObjectRef} {o : Object}
    (hp : p ∈ store.objectArray type) (ho : store.objects.get p = some o) :
    o.type = type ∧ o.Referenced := by
  obtain ⟨htype, halive⟩ := h type p hp o ho
  exact ⟨htype, halive.resolve_left List.not_mem_nil⟩

theorem congr (h : store.Listing tasks) (hobjects : other.objects = store.objects)
    (harray : other.objectArray = store.objectArray) : other.Listing tasks := by
  unfold Listing
  rw [hobjects, harray]
  exact h

theorem drops (h : store.Listing []) (hold : Hold) : store.Listing [.drop hold] := h

theorem release (h : store.Listing []) (hold : Hold) : (hold.release array store).Listing [] :=
  (h.drops hold).of_runs (hold.release_runs store)

-- A change of the external references of one object, which is to be destroyed or keeps some.
theorem sameInternals {object : ObjectRef} (h : store.Listing []) (hsame : store.SameInternals other)
    (hothers : ∀ p, p ≠ object → other.objects.get p = store.objects.get p)
    (hreferenced : ∀ o, other.objects.get object = some o → object ∈ dying rest ∨ o.Referenced) :
    other.Listing rest := by
  refine h.keep (.of_sameInternals hsame) (fun type => ?_) ?_
  · rw [hsame.objectArray]
    exact fun p hp => hp
  · intro p o o' hp ho ho' halive
    by_cases hobject : p = object
    · subst hobject
      exact hreferenced o' ho'
    · rw [hothers p hobject, ho] at ho'
      cases ho'
      exact Or.inr (halive.resolve_left List.not_mem_nil)

theorem removeUnreferenced {object : ObjectRef} (h : store.Listing [])
    (hsame : store.SameInternals other)
    (hothers : ∀ p, p ≠ object → other.objects.get p = store.objects.get p) :
    (other.removeUnreferenced array object).Listing [] := by
  unfold Store.removeUnreferenced
  cases ho : other.objects.get object with
  | none => exact (h.sameInternals hsame hothers fun o ho' => by simp [ho] at ho').congr rfl rfl
  | some o =>
      simp only
      by_cases hzero : o.internalReferenceCount = 0 ∧ o.externalReferenceCount = 0
      · rw [if_pos hzero]
        have hdying : other.Listing [.removeObject object] :=
          h.sameInternals hsame hothers fun _ _ => Or.inl List.mem_cons_self
        exact hdying.of_runs (other.remove_runs object)
      · rw [if_neg hzero]
        refine h.sameInternals hsame hothers fun o' ho' => Or.inr ?_
        rw [ho] at ho'
        cases ho'
        unfold Object.Referenced
        omega

theorem sessionDropReference (session : SessionRef) (reference : ReferenceRef)
    (h : store.Listing []) : (sessionDropReference array session reference store).Listing [] := by
  unfold RedApid.sessionDropReference
  split
  · exact h.congr rfl rfl
  · rename_i e _
    exact h.removeUnreferenced (.dropReference store reference e.object session e.count)
      fun p hp => dropReference_get_ne reference session e.count hp

theorem removeExternalReferences (rounds : Nat) (session : SessionRef) (h : store.Listing []) :
    (removeExternalReferences array rounds session store).Listing [] := by
  induction rounds generalizing store with
  | zero =>
      unfold RedApid.removeExternalReferences
      split
      · exact h.congr rfl rfl
      · exact h
      · exact h.congr rfl rfl
  | succ rounds ih =>
      unfold RedApid.removeExternalReferences
      split
      · exact h.congr rfl rfl
      · exact h
      · exact ih (h.sessionDropReference session _)

theorem sessionRemoveExternalReferences (session : SessionRef) (h : store.Listing []) :
    (sessionRemoveExternalReferences array session store).Listing [] := by
  unfold RedApid.sessionRemoveExternalReferences
  split
  · exact h.congr rfl rfl
  · exact h.removeExternalReferences _ session

theorem sessionExpireHelper (session : SessionRef) (h : store.Listing []) :
    (sessionExpireHelper array session store).Listing [] := by
  have hremoved := @sessionRemoveExternalReferences array store session h
  unfold RedApid.sessionExpireHelper inventoryRemoveSession
  simp only
  split
  · exact hremoved
  · exact (hremoved.sessionRemoveExternalReferences session).congr rfl rfl

theorem removeExternalReference (object : ObjectRef) (session : SessionRef) (h : store.Listing []) :
    (objectRemoveExternalReference array object session store).Listing [] := by
  unfold objectRemoveExternalReference
  cases ho : store.objects.get object with
  | none => exact h.congr rfl rfl
  | some o =>
      simp only
      by_cases hzero : o.externalReferenceCount = 0
      · rw [if_pos hzero]
        exact h
      rw [if_neg hzero]
      cases store.findReference object session with
      | none => exact h
      | some reference =>
          have hsame := SameInternals.releaseReference store reference object session
          obtain ⟨hothers, hobject⟩ :=
            Collecting.releaseReference_get reference object session store
          obtain ⟨o', ho', hinternal, hexternal⟩ := hobject o ho
          simp only
          by_cases hlast : o.internalReferenceCount = 0 ∧ o.externalReferenceCount - 1 = 0
          · rw [if_pos hlast]
            have hdying : (store.releaseReference reference object session).Listing
                [.removeObject object] :=
              h.sameInternals hsame hothers fun _ _ => Or.inl List.mem_cons_self
            exact hdying.of_runs (remove_runs object _)
          · rw [if_neg hlast]
            refine h.sameInternals hsame hothers fun o'' ho'' => Or.inr ?_
            rw [ho'] at ho''
            cases ho''
            unfold Object.Referenced
            omega

theorem objectRelease (object : ObjectRef) (session : SessionRef) (h : store.Listing []) :
    (objectRelease array object session store).2.Listing [] := by
  unfold RedApid.objectRelease
  split
  · exact h.congr rfl rfl
  · split
    · exact h
    · exact h.removeExternalReference object session

theorem addExternalReference (calloc : Bool) (object : ObjectRef) (session : SessionRef)
    (h : store.Listing []) (hcounted : store.Counted) :
    (objectAddExternalReference calloc object session store).2.Listing [] := by
  obtain ⟨f, amount, hmodifies, hrefers, hnonneg, -⟩ :=
    objectAddExternalReference_modifies calloc object session store
  refine h.keep (.of_sameInternals (.objectAddExternalReference calloc object session store))
    (fun type => ?_) ?_
  · rw [(SameInternals.objectAddExternalReference calloc object session store).objectArray]
    exact fun p hp => hp
  · intro p o o' hp ho ho' halive
    have hreferenced := halive.resolve_left List.not_mem_nil
    rw [hmodifies.objects] at ho'
    by_cases hobject : p = object
    · subst hobject
      rw [Heap.get_modify_self, ho] at ho'
      cases ho'
      have hexternal := Collecting.external_nonneg hcounted ho
      obtain ⟨hinternal', hexternal'⟩ := hrefers o
      right
      unfold Object.Referenced at hreferenced ⊢
      omega
    · rw [Heap.get_modify_ne hobject, ho] at ho'
      cases ho'
      exact Or.inr hreferenced

theorem modifyObject (h : store.Listing []) (object : ObjectRef) {f : Object → Object}
    (htype : ∀ o, (f o).type = o.type) (hreferenced : ∀ o, o.Referenced → (f o).Referenced) :
    (store.modifyObject object f).Listing [] := by
  intro type p hp o ho
  rw [modifyObject_objectArray] at hp
  obtain ⟨o', ho', rfl⟩ := Store.modifyObject_get ho
  obtain ⟨hlisted, halive⟩ := h.referenced_of_get hp ho'
  split
  · exact ⟨(htype o').trans hlisted, Or.inr (hreferenced o' halive)⟩
  · exact ⟨hlisted, Or.inr halive⟩

theorem acquire (h : store.Listing []) (hold : Hold) : (hold.acquire store).Listing [] := by
  rw [Hold.acquire_eq]
  refine h.modifyObject hold.object (fun _ => rfl) fun o _ => Or.inl ?_
  exact Nat.succ_ne_zero o.internalReferenceCount

theorem createObject (outcome : ObjectCreation) (payload : Payload) (session : Option SessionRef)
    (flags : UInt32) (h : store.Listing [])
    (hlt : ∀ p ∈ store.listed, p < store.objects.next) :
    (store.createObject outcome payload session flags).2.Listing [] := by
  have hnew : ∀ type, store.objects.next ∉ store.objectArray type := by
    intro type hp
    refine Nat.lt_irrefl _ (hlt _ (List.mem_flatMap.mpr ⟨type, ?_, hp⟩))
    cases type <;> decide
  intro type p hp o ho
  rcases createObject_objectArray outcome payload session flags store type with
    harray | ⟨rfl, ⟨object, hok⟩, harray⟩
  · rw [harray] at hp
    have hne : p ≠ store.objects.next := fun heq => hnew type (heq ▸ hp)
    rw [createObject_get_ne outcome payload session flags hne] at ho
    exact h type p hp o ho
  · rw [harray, List.mem_append, List.mem_singleton] at hp
    by_cases hne : p = store.objects.next
    · subst hne
      have hobject : object = store.objects.next := (createObject_ok hok).1
      rw [hobject] at hok
      rcases createObject_objects outcome payload session flags store ho with
        ⟨-, hcore, -⟩ | ⟨o', ho', -⟩
      · exact ⟨congrArg Prod.fst hcore, Or.inr (createObject_referenced hok ho)⟩
      · exact absurd (Heap.lt_next_of_get ho') (Nat.lt_irrefl _)
    · rw [createObject_get_ne outcome payload session flags hne] at ho
      exact h payload.type p (hp.resolve_right hne) o ho

end Store.Listing

end RedApid

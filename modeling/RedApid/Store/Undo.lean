import RedApid.Store.Spawns

namespace RedApid

open Memory

-- Every count, the inventory and the sessions are as before.
structure Store.Same (store other : Store) : Prop where
  objects : store.SameObjects other
  tables : store.SameTables other

namespace Store.Same

variable {store other last : Store}

theorem refl (store : Store) : store.Same store := ⟨fun _ => rfl, .refl store⟩

theorem trans (h : store.Same other) (h' : other.Same last) : store.Same last :=
  ⟨fun p => (h'.objects p).trans (h.objects p), h.tables.trans h'.tables⟩

end Store.Same

section Create

variable {outcome : ObjectCreation} {payload : Payload} {store : Store}

theorem Store.Identified.not_listed (h : store.Identified) (type : ObjectType) :
    store.objects.next ∉ store.objectArray type := by
  intro hmem
  have hlisted : store.objects.next ∈ store.listed := by
    refine List.mem_flatMap.mpr ⟨type, ?_, hmem⟩
    cases type <;> decide
  exact Nat.lt_irrefl _ (h.object_lt _ hlisted)

-- Nobody but its creator refers to the object, and it is the last one in its array.
structure Store.Owned (store created : Store) (object : ObjectRef) (payload : Payload) : Prop where
  fresh : store.objects.get object = none
  unlisted : object ∉ store.objectArray payload.type
  new : ∃ id, created.objects.get object = some (payload.owned id)
  others : ∀ p, p ≠ object → created.objects.get p = store.objects.get p
  sessions : created.sessions = store.sessions
  references : created.references = store.references
  sessionArray : created.sessionArray = store.sessionArray
  stockStrings : created.stockStrings = store.stockStrings
  objectArray : ∀ type, created.objectArray type =
    if type = payload.type then store.objectArray payload.type ++ [object] else store.objectArray type

theorem createObject_owned_frame (outcome : ObjectCreation) (payload : Payload)
    (h : store.Identified) :
    (∃ code, code ≠ .success ∧
        (store.createObject outcome payload none ownedFlags).1 = .error code ∧
        store.Same (store.createObject outcome payload none ownedFlags).2) ∨
      ((store.createObject outcome payload none ownedFlags).1 = .ok store.objects.next ∧
        store.Owned (store.createObject outcome payload none ownedFlags).2 store.objects.next
          payload) := by
  obtain ⟨-, hsessions, hreferences, hsessionArray, hstock, hadded, hfailed⟩ :=
    inventoryAddObject_frame outcome.append payload.type store.objects.next
      { store with objects := store.objects.alloc (payload.owned 0) }
  rcases createObject_owned outcome payload store with
    ⟨code, hcode, herror, -⟩ | ⟨hok, htouches, hnew, -⟩
  · left
    refine ⟨code, hcode, herror, createObject_sameObjects herror, ?_⟩
    rw [createObject_owned_eq] at herror ⊢
    generalize inventoryAddObject outcome.append payload.type store.objects.next
      { store with objects := store.objects.alloc (payload.owned 0) } = result at *
    by_cases hsuccess : result.1 = .success
    · simp only [if_pos hsuccess] at herror
      cases herror
    · simp only [if_neg hsuccess]
      exact ⟨hsessions, hreferences, hfailed hsuccess, hsessionArray, hstock⟩
  · right
    have hfresh := Heap.get_eq_none_of_next_le store.objects (Nat.le_refl _)
    have hothers := htouches.get
    refine ⟨hok, ?_⟩
    rw [createObject_owned_eq] at hok hnew hothers ⊢
    generalize inventoryAddObject outcome.append payload.type store.objects.next
      { store with objects := store.objects.alloc (payload.owned 0) } = result at *
    by_cases hsuccess : result.1 = .success
    · simp only [if_pos hsuccess] at hnew hothers ⊢
      exact ⟨hfresh, h.not_listed _, hnew, hothers, hsessions, hreferences, hsessionArray, hstock,
        hadded hsuccess⟩
    · simp only [if_neg hsuccess] at hok
      cases hok

-- One ID for each of so many more objects.
def Store.Fits (store : Store) (count : Nat) : Prop := store.objectIds.length + count ≤ UINT16_MAX

theorem Store.all_used_iff (store : Store) (h : store.Identified) :
    (∀ id, id ≠ 0 → store.objectIdInUse id = true) ↔ ¬store.Fits 1 := by
  have hfree := exists_free_iff h.object_nodup h.object_ne_zero
  unfold Store.Fits
  rw [show store.objectIds.length + 1 ≤ UINT16_MAX ↔ store.objectIds.length < UINT16_MAX from Iff.rfl,
    ← hfree]
  simp only [store.objectIdInUse_iff]
  push Not
  exact Iff.rfl

theorem createObject_owned_ok_iff (outcome : ObjectCreation) (payload : Payload)
    (h : store.Identified) :
    (∃ object, (store.createObject outcome payload none ownedFlags).1 = .ok object) ↔
      outcome.append = none ∧ store.Fits 1 := by
  constructor
  · rintro ⟨object, hok⟩
    have hplace := createObject_ok_place hok
    rw [not_or, store.all_used_iff h, not_not, not_not] at hplace
    exact ⟨hplace.2, hplace.1⟩
  · rintro ⟨happend, hfits⟩
    rw [createObject_owned_eq]
    simp only
    split_ifs with hsuccess
    · exact ⟨_, rfl⟩
    · rcases (inventoryAddObject_fails_iff _ _ _ _).mp hsuccess with hall | hne
      · exfalso
        refine (store.all_used_iff h).mp (fun id hid => ?_) hfits
        refine Store.objectIdInUse_congr ?_ (fun p hp => ?_) (hall id hid)
        · rfl
        · unfold Store.objectId at hp ⊢
          dsimp only at hp
          rw [Heap.get_alloc] at hp
          split_ifs at hp
          · cases hp
            exact absurd rfl hid
          · exact hp
      · exact absurd happend hne

-- The flags of an object that both its creator and a session refer to.
def sharedFlags : UInt32 := OBJECT_CREATE_FLAG_INTERNAL ||| OBJECT_CREATE_FLAG_EXTERNAL

theorem objectCreateExternal_success {object : ObjectRef} {o : Object} {session : SessionRef}
    (ho : store.objects.get object = some o) (hnew : o.externalReferences = [])
    (h : (objectCreateExternal outcome object (some session) sharedFlags store).1 = .success) :
    store.sessions.get session ≠ none ∧ outcome.calloc = true := by
  have hflag : sharedFlags &&& OBJECT_CREATE_FLAG_EXTERNAL ≠ 0 := by decide
  simp only [objectCreateExternal, if_pos hflag] at h
  by_cases hsession : store.sessions.get session = none
  · simp only [objectAddExternalReference, if_pos (Or.inr hsession)] at h
    cases h
  · rw [objectAddExternalReference_of_new ho hnew hsession] at h
    cases hcalloc : outcome.calloc with
    | true => exact ⟨hsession, rfl⟩
    | false =>
        rw [hcalloc] at h
        cases h

theorem createObject_shared_ok_iff (outcome : ObjectCreation) (payload : Payload)
    (session : SessionRef) (h : store.Identified) :
    (∃ object, (store.createObject outcome payload (some session) sharedFlags).1 = .ok object) ↔
      (store.sessions.get session ≠ none ∧ outcome.calloc = true ∧ outcome.append = none) ∧
        store.Fits 1 := by
  have hvalid : ValidFlags (some session) sharedFlags := by
    refine ⟨by decide, ?_, by decide⟩
    rintro ⟨-, hnone⟩
    cases hnone
  have hget : (store.callocObject payload).2.objects.get store.objects.next =
      some ⟨0, payload.type, 0, [], 0, 0, payload⟩ := store.objects.get_alloc_next _
  constructor
  · rintro ⟨object, hok⟩
    have hplace := createObject_ok_place hok
    obtain ⟨rfl, -, hcreated⟩ := createObject_ok hok
    rw [not_or, store.all_used_iff h, not_not, not_not] at hplace
    unfold objectCreateReferences at hcreated
    have hacquired : (if sharedFlags &&& OBJECT_CREATE_FLAG_INTERNAL ≠ 0 then
        objectAddInternalReference store.objects.next (store.callocObject payload).2
      else (store.callocObject payload).2).objects.get store.objects.next =
        some ⟨0, payload.type, 1, [], 0, 0, payload⟩ := by
      rw [if_pos (by decide)]
      unfold objectAddInternalReference
      rw [Store.modifyObject_objects, Heap.get_modify, if_pos rfl, hget]
      rfl
    have hsessions : (if sharedFlags &&& OBJECT_CREATE_FLAG_INTERNAL ≠ 0 then
        objectAddInternalReference store.objects.next (store.callocObject payload).2
      else (store.callocObject payload).2).sessions = store.sessions := by
      rw [if_pos (by decide)]
      exact Store.modifyObject_sessions _ _ _
    generalize (if sharedFlags &&& OBJECT_CREATE_FLAG_INTERNAL ≠ 0 then
        objectAddInternalReference store.objects.next (store.callocObject payload).2
      else (store.callocObject payload).2) = acquired at hacquired hsessions hcreated
    have hexternal := @objectCreateExternal_success outcome acquired _ _ session hacquired rfl
    rcases hresult : objectCreateExternal outcome store.objects.next (some session) sharedFlags acquired
      with ⟨code, external⟩
    simp only [hresult] at hexternal hcreated
    by_cases hcode : code = .success
    · obtain ⟨hsession, hcalloc⟩ := hexternal hcode
      rw [hsessions] at hsession
      exact ⟨⟨hsession, hcalloc, hplace.2⟩, hplace.1⟩
    · rw [if_pos hcode] at hcreated
      exact absurd (congrArg Prod.fst hcreated) hcode
  · rintro ⟨⟨hsession, hcalloc, happend⟩, hfits⟩
    rw [createObject_of_valid outcome payload store hvalid]
    simp only
    split_ifs with hsuccess
    · exact ⟨_, rfl⟩
    · exfalso
      obtain ⟨-, -, hcases⟩ :=
        objectCreateReferences_cases outcome payload.type (some session) sharedFlags hget rfl
      have hmade : sharedFlags &&& OBJECT_CREATE_FLAG_EXTERNAL ≠ 0 ∧
          (∃ s, some session = some s ∧ store.sessions.get s ≠ none) ∧ outcome.calloc = true :=
        ⟨by decide, ⟨session, rfl, hsession⟩, hcalloc⟩
      rcases hcases with ⟨-, -, -, -, hwhy⟩ | ⟨hnone, -⟩
      · rcases hwhy hsuccess with hall | hne
        · refine (store.all_used_iff h).mp (fun id hid => ?_) hfits
          exact store.callocObject_objectIdInUse payload hid (hall id hid)
        · exact hne happend
      · exact hnone hmade
theorem Store.Owned.objectIds {created : Store} {object : ObjectRef} (h : store.Owned created object payload)
    (hunlisted : object ∉ store.listed) :
    created.objectIds.length = store.objectIds.length + 1 := by
  obtain ⟨id, hnew⟩ := h.new
  have hlisted : created.listed.Perm (object :: store.listed) := by
    have happended := store.listed_append payload.type object
    refine Eq.subst (motive := fun listed => List.Perm listed _) ?_ happended
    unfold Store.listed
    refine congrArg (fun f => ObjectType.all.flatMap f) (funext fun type => ?_)
    rw [Store.setObjectArray_objectArray, h.objectArray]
  have hids : ∀ p ∈ store.listed, created.objectId p = store.objectId p := by
    intro p hp
    unfold Store.objectId
    rw [h.others p fun hsame => hunlisted (hsame ▸ hp)]
  have hid : created.objectId object = some id := by
    unfold Store.objectId
    rw [hnew]
    rfl
  unfold Store.objectIds
  rw [(hlisted.filterMap created.objectId).length_eq, List.filterMap_cons_some hid,
    List.filterMap_congr hids, List.length_cons]

end Create

section Cascades

variable {array : ArrayRemove} {first second : List Task} {store other last : Store}

theorem Runs.append_inv (h : Runs array (first ++ second) store last) :
    ∃ middle, Runs array first store middle ∧ Runs array second middle last := by
  generalize htasks : first ++ second = tasks at h
  induction h generalizing first with
  | done store =>
      obtain ⟨rfl, rfl⟩ := List.append_eq_nil_iff.mp htasks
      exact ⟨store, .done store, .done store⟩
  | @step task tasks store last hrest ih =>
      cases first with
      | nil =>
          rw [List.nil_append] at htasks
          subst htasks
          exact ⟨store, .done store, .step hrest⟩
      | cons head first =>
          obtain ⟨rfl, rfl⟩ := List.cons.inj htasks
          obtain ⟨middle, hfirst, hsecond⟩ := ih (List.append_assoc _ _ _)
          exact ⟨middle, .step hfirst, hsecond⟩

theorem releaseAll_runs (holds : List Hold) (store : Store) :
    Runs array (holds.map .drop) store (releaseAll array holds store) := by
  induction holds generalizing store with
  | nil => exact .done store
  | cons hold holds ih =>
      have hrelease := (@Hold.release_runs array hold store).append (ih (hold.release array store))
      exact hrelease

end Cascades

section Release

variable {array : ArrayRemove} {store created other : Store} {hold : Hold} {o : Object}
  {object : ObjectRef} {payload : Payload}

-- Everything that the object holds goes, then the object itself.
theorem Store.remove_unreferenced (ho : store.objects.get object = some o)
    (hunreferenced : o.externalReferences = []) (hlisted : object ∈ store.objectArray o.type) :
    ∃ i, (store.objectArray o.type).idxOf? object = some i ∧
      store.remove array object =
        let last := (releaseAll array o.payload.holds store).freeObject object
        last.setObjectArray o.type (array.remove i object (last.objectArray o.type)) := by
  have hruns := (@Store.remove_runs array object store).cons_inv
  simp only [Task.run, ho] at hruns
  cases hindex : (store.objectArray o.type).idxOf? object with
  | none => exact absurd (List.idxOf?_eq_none_iff.mp hindex) (not_not.mpr hlisted)
  | some i =>
      refine ⟨i, rfl, ?_⟩
      simp only [hindex] at hruns
      have hruns := hruns.cons_inv
      simp only [Task.run, ho, hunreferenced, List.foldl_nil, List.append_assoc] at hruns
      obtain ⟨middle, hholds, hrest⟩ := hruns.append_inv
      have hmiddle := (releaseAll_runs o.payload.holds store).unique hholds
      subst hmiddle
      exact hrest.cons_inv.cons_inv.nil_inv

-- The last reference goes, then everything that the object holds, then the object itself.
theorem Hold.release_last (ho : store.objects.get hold.object = some o)
    (hinternal : o.internalReferenceCount = 1) (hexternal : o.externalReferenceCount = 0)
    (hunreferenced : o.externalReferences = []) (hlisted : hold.object ∈ store.objectArray o.type) :
    ∃ i, (store.objectArray o.type).idxOf? hold.object = some i ∧
      hold.release array store =
        let last := (releaseAll array o.payload.holds (hold.drop store)).freeObject hold.object
        last.setObjectArray o.type (array.remove i hold.object (last.objectArray o.type)) := by
  have hruns := (@Hold.release_runs array hold store).cons_inv
  have hlast : o.internalReferenceCount - 1 = 0 ∧ o.externalReferenceCount = 0 := by
    rw [hinternal]
    exact ⟨rfl, hexternal⟩
  rw [Task.run_drop ho (by omega), if_pos hlast] at hruns
  have hget : (hold.drop store).objects.get hold.object = some (hold.forgo o) := by
    rw [hold.drop_get, ho, Option.map_some, if_pos rfl]
  have harray : (hold.drop store).objectArray = store.objectArray := by
    rw [hold.drop_eq, Store.modifyObject_objectArray]
  have hremoved := (Store.remove_runs hold.object (hold.drop store)).unique hruns
  obtain ⟨i, hindex, hremove⟩ := @Store.remove_unreferenced array (hold.drop store) _ _ hget
    hunreferenced (harray ▸ hlisted)
  refine ⟨i, ?_, hremoved.trans hremove⟩
  rw [← harray]
  exact hindex

-- An object that holds nothing, and that is released by its creator.
theorem Store.Owned.release (h : store.Owned created object payload) (hdirect : array.Direct)
    (hholds : payload.holds = []) (hsame : created.Same other) :
    store.Same ((lockedHold object).release array other) := by
  obtain ⟨id, hnew⟩ := h.new
  have hget : other.objects.get object = some (payload.owned id) := by rw [hsame.objects, hnew]
  have hcreated : created.objectArray payload.type = store.objectArray payload.type ++ [object] := by
    rw [h.objectArray, if_pos rfl]
  have hlisted : object ∈ other.objectArray payload.type := by
    rw [hsame.tables.objectArray, hcreated]
    exact List.mem_append_right _ (List.mem_singleton_self _)
  obtain ⟨i, hindex, hrelease⟩ := @Hold.release_last array other (lockedHold object) _ hget rfl rfl rfl
    hlisted
  have hdrop : ∀ p, p ≠ object → ((lockedHold object).drop other).objects.get p =
      store.objects.get p := by
    intro p hp
    rw [Hold.drop_get, hsame.objects, h.others p hp]
    refine (congrArg (fun f => (store.objects.get p).map f) (funext fun o => ?_)).trans Option.map_id'
    exact if_neg hp
  have htables := Store.SameTables.drop (lockedHold object) other
  have harray : ((lockedHold object).drop other).objectArray = created.objectArray :=
    htables.objectArray.trans hsame.tables.objectArray
  rw [show (payload.owned id).payload.holds = [] from hholds] at hrelease
  rw [hrelease]
  refine ⟨fun p => ?_, htables.sessions.trans (hsame.tables.sessions.trans h.sessions),
    htables.references.trans (hsame.tables.references.trans h.references), ?_,
    htables.sessionArray.trans (hsame.tables.sessionArray.trans h.sessionArray),
    htables.stockStrings.trans (hsame.tables.stockStrings.trans h.stockStrings)⟩
  · change (((lockedHold object).drop other).objects.free object).get p = _
    by_cases hp : p = object
    · rw [hp, Heap.get_free_self, h.fresh]
    · rw [Heap.get_free_ne hp, hdrop p hp]
  · funext type
    rw [Store.setObjectArray_objectArray]
    change (if type = payload.type then array.remove i object
      (((lockedHold object).drop other).objectArray payload.type)
        else ((lockedHold object).drop other).objectArray type) = _
    rw [harray]
    split_ifs with htype
    · have hindex' : (created.objectArray payload.type).idxOf? object = some i := by
        rw [← hsame.tables.objectArray]
        exact hindex
      rw [hdirect i object _ hindex', hcreated, List.erase_append_right _ h.unlisted,
        List.erase_cons_head, List.append_nil, htype]
    · rw [h.objectArray, if_neg htype]

end Release

end RedApid

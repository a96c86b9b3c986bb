import RedApid.Store.Failure

namespace RedApid

open Memory

section SessionArray

variable {array : ArrayRemove} {store last : Store}

theorem Hold.unlock_sessionArray (hold : Hold) (store : Store) :
    (hold.unlock store).sessionArray = store.sessionArray := by
  unfold Hold.unlock objectUnlock
  split_ifs
  · exact store.modifyObject_sessionArray _ _
  · rfl

theorem Task.run_sessionArray (task : Task) (store : Store) :
    (task.run array store).2.sessionArray = store.sessionArray := by
  cases task with
  | drop hold =>
      have hdrop (object : ObjectRef) (store : Store) :
          (objectDropTasks object store).2.sessionArray = store.sessionArray := by
        unfold objectDropTasks
        split
        · rfl
        · split_ifs
          · rfl
          · exact store.modifyObject_sessionArray _ _
          · exact store.modifyObject_sessionArray _ _
      exact (hdrop _ _).trans (hold.unlock_sessionArray store)
  | removeObject object =>
      simp only [Task.run]
      split
      · rfl
      · split <;> rfl
  | destroy object =>
      simp only [Task.run]
      split
      · rfl
      · exact (Store.SameInternals.foldl_objectDropReference object _ store).sessionArray
  | free object => rfl
  | shift type i object => rfl

theorem Runs.sessionArray {tasks : List Task} (h : Runs array tasks store last) :
    last.sessionArray = store.sessionArray :=
  h.invariant (P := fun _ other => other.sessionArray = store.sessionArray)
    (fun task _ other hother => (task.run_sessionArray other).trans hother) rfl

theorem removeUnreferenced_sessionArray (object : ObjectRef) (store : Store) :
    (store.removeUnreferenced array object).sessionArray = store.sessionArray := by
  unfold Store.removeUnreferenced
  split
  · rfl
  · split_ifs
    · exact (store.remove_runs object).sessionArray
    · rfl

theorem sessionDropReference_sessionArray (session : SessionRef) (reference : ReferenceRef)
    (store : Store) :
    (sessionDropReference array session reference store).sessionArray = store.sessionArray := by
  unfold sessionDropReference
  split
  · rfl
  · exact (removeUnreferenced_sessionArray _ _).trans
      (Store.SameInternals.dropReference store reference _ session _).sessionArray

theorem removeExternalReferences_sessionArray (rounds : Nat) (session : SessionRef)
    (store : Store) :
    (removeExternalReferences array rounds session store).sessionArray = store.sessionArray := by
  induction rounds generalizing store with
  | zero =>
      unfold removeExternalReferences
      split <;> rfl
  | succ rounds ih =>
      unfold removeExternalReferences
      split
      · rfl
      · rfl
      · exact (ih _).trans (sessionDropReference_sessionArray session _ store)

variable (array) in
theorem sessionRemoveExternalReferences_sessionArray (session : SessionRef) (store : Store) :
    (sessionRemoveExternalReferences array session store).sessionArray = store.sessionArray := by
  unfold sessionRemoveExternalReferences
  split
  · rfl
  · exact removeExternalReferences_sessionArray _ session store

theorem objectRemoveExternalReference_sessionArray (object : ObjectRef) (session : SessionRef)
    (store : Store) :
    (objectRemoveExternalReference array object session store).sessionArray =
      store.sessionArray := by
  have hrelease (reference : ReferenceRef) :=
    (Store.SameInternals.releaseReference store reference object session).sessionArray
  unfold objectRemoveExternalReference
  split
  · rfl
  · split_ifs
    · rfl
    · split
      · rfl
      · exact (Runs.sessionArray (Store.remove_runs object _)).trans (hrelease _)
    · split
      · rfl
      · exact hrelease _

theorem createObject_sessionArray (outcome : ObjectCreation) (payload : Payload)
    (session : Option SessionRef) (flags : UInt32) (store : Store) :
    (store.createObject outcome payload session flags).2.sessionArray = store.sessionArray := by
  by_cases hvalid : ValidFlags session flags
  · have hget : (store.callocObject payload).2.objects.get store.objects.next =
        some ⟨0, payload.type, 0, [], 0, 0, payload⟩ := store.objects.get_alloc_next _
    have hsame := (objectCreateReferences_cases outcome payload.type session flags hget rfl).1
    rw [createObject_of_valid outcome payload store hvalid]
    simp only
    split_ifs
    · exact hsame
    · exact hsame
  · rw [createObject_of_invalid outcome payload store hvalid]
    rfl

end SessionArray

section Expiry

variable {array : ArrayRemove} {store : Store}

theorem inventoryRemoveSession_of_mem {destroy : SessionRef → Store → Store} {session : SessionRef}
    (hmem : session ∈ store.sessionArray)
    (hdestroy : (destroy session store).sessionArray = store.sessionArray) :
    inventoryRemoveSession destroy session store =
      { destroy session store with sessionArray := store.sessionArray.erase session } := by
  obtain ⟨i, hi⟩ := Option.isSome_iff_exists.mp (List.isSome_idxOf?.mpr hmem)
  have herase : store.sessionArray.erase session = store.sessionArray.eraseIdx i := by
    rw [List.erase_eq_eraseIdx, hi]
  unfold inventoryRemoveSession
  simp only [hi, hdestroy, herase]

variable (array) in
-- A session of the inventory leaves it.
theorem sessionExpireHelper_sessionArray {session : SessionRef}
    (hmem : session ∈ store.sessionArray) :
    (sessionExpireHelper array session store).sessionArray = store.sessionArray.erase session ∧
      (sessionExpireHelper array session store).sessions.get session = none := by
  have hremoved := sessionRemoveExternalReferences_sessionArray array session store
  have hdestroyed : (sessionDestroy array session
      (sessionRemoveExternalReferences array session store)).sessionArray =
        (sessionRemoveExternalReferences array session store).sessionArray :=
    sessionRemoveExternalReferences_sessionArray array session _
  unfold sessionExpireHelper
  simp only
  rw [inventoryRemoveSession_of_mem (hremoved ▸ hmem) hdestroyed, hremoved]
  exact ⟨rfl, Heap.get_free_self _ _⟩

-- What is left of an expired session.
structure Store.Expired (session : SessionRef) (store : Store) : Prop where
  unlisted : session ∉ store.sessionArray
  freed : store.sessions.get session = none
  unreferenced : ∀ r e, store.references.get r = some e → e.session ≠ session
  exact : store.ReferencesExact

theorem sessionExpireHelper_expired {session : SessionRef} (h : store.Counted)
    (hnodup : store.sessionArray.Nodup) (hmem : session ∈ store.sessionArray) :
    (sessionExpireHelper array session store).Expired session := by
  obtain ⟨harray, hfreed⟩ := sessionExpireHelper_sessionArray array hmem
  have hcounted := (@sessionExpireHelper_counted array session store h).1
  refine ⟨?_, hfreed, ?_, hcounted.exact⟩
  · rw [harray]
    exact hnodup.not_mem_erase
  · rintro r e he rfl
    exact hcounted.linked.sessions.owner_live r e he hfreed

-- A new session is appended to the inventory.
theorem sessionCreate_sessionArray (outcome : SessionCreation) (lifetime : UInt32)
    (store : Store) :
    (∃ id, (sessionCreate outcome lifetime store).1 = .ok id ∧
      (sessionCreate outcome lifetime store).2.sessionArray =
        store.sessionArray ++ [store.sessions.next]) ∨
    ∃ code, (sessionCreate outcome lifetime store).1 = .error code ∧
      (sessionCreate outcome lifetime store).2.sessionArray = store.sessionArray := by
  have hadded (session : SessionRef) (store : Store) :
      ((inventoryAddSession outcome.append session store).1 = .success ∧
        (inventoryAddSession outcome.append session store).2.sessionArray =
          store.sessionArray ++ [session]) ∨
      (inventoryAddSession outcome.append session store).1 ≠ .success ∧
        (inventoryAddSession outcome.append session store).2.sessionArray =
          store.sessionArray := by
    unfold inventoryAddSession inventoryGetNextSessionId
    obtain ⟨found, next⟩ := nextFreeId store.sessionIdInUse store.nextSessionId
    cases found with
    | none => exact Or.inr ⟨APIE.noConfusion, rfl⟩
    | some id =>
        cases outcome.append with
        | none => exact Or.inl ⟨rfl, by simp⟩
        | some code => exact Or.inr ⟨code.property, by simp⟩
  unfold sessionCreate
  by_cases hlifetime : lifetime.toNat > SESSION_MAX_LIFETIME
  · rw [if_pos hlifetime]
    exact Or.inr ⟨_, rfl, rfl⟩
  rw [if_neg hlifetime]
  by_cases hcalloc : (!outcome.calloc) = true
  · rw [if_pos hcalloc]
    exact Or.inr ⟨_, rfl, rfl⟩
  rw [if_neg hcalloc]
  cases outcome.timerCreate with
  | some code => exact Or.inr ⟨code.1, rfl, rfl⟩
  | none =>
      cases outcome.timerConfigure with
      | some code => exact Or.inr ⟨code.1, rfl, rfl⟩
      | none =>
          simp only
          rcases hadded store.callocSession.1 store.callocSession.2 with
            ⟨hcode, harray⟩ | ⟨hcode, harray⟩
          · rw [if_pos hcode]
            exact Or.inl ⟨_, rfl, harray⟩
          · rw [if_neg hcode]
            exact Or.inr ⟨_, rfl, harray⟩

end Expiry

end RedApid

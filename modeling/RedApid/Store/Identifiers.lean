import Mathlib.Data.Finset.Interval
import Mathlib.Order.Interval.Finset.Nat
import RedApid.Store.Accounts

namespace RedApid

open Memory Search

section Counter

theorem toNat_pos {id : UInt16} (h : id ≠ 0) : 0 < id.toNat :=
  Nat.pos_of_ne_zero fun h0 => h (UInt16.toNat_inj.mp h0)

theorem nextId_ne_zero (next : UInt16) : (nextId next).1 ≠ 0 := by
  unfold nextId
  split_ifs with h
  · decide
  · exact h

-- The candidates run through the numbers from 1 to 65535 in a circle.
theorem nth_nextId (next : UInt16) (k : Nat) :
    (nth nextId k next).toNat = ((nextId next).1.toNat - 1 + k) % 65535 + 1 := by
  induction k generalizing next with
  | zero =>
      have hpos := toNat_pos (nextId_ne_zero next)
      have hlt := UInt16.toNat_lt (nextId next).1
      change (nextId next).1.toNat = _
      rw [Nat.add_zero, Nat.mod_eq_of_lt (by omega)]
      omega
  | succ k ih =>
      rw [nth_succ, ih]
      have hpos := toNat_pos (nextId_ne_zero next)
      have hlt := UInt16.toNat_lt (nextId next).1
      have hnext : (nextId (nextId next).2).1.toNat = (nextId next).1.toNat % 65535 + 1 := by
        have hadd : (nextId next).2.toNat = ((nextId next).1.toNat + 1) % 65536 :=
          UInt16.toNat_add _ _
        by_cases hwrap : (nextId next).2 = 0
        · have : (nextId next).2.toNat = 0 := congrArg UInt16.toNat hwrap
          have hone : (nextId (nextId next).2).1 = 1 := by rw [nextId, if_pos hwrap]
          rw [hone]
          change 1 = _
          omega
        · have hne := toNat_pos hwrap
          have hsame : (nextId (nextId next).2).1 = (nextId next).2 := by
            rw [nextId, if_neg hwrap]
          rw [hsame, hadd]
          omega
      rw [hnext]
      omega

theorem exists_nth_nextId (next id : UInt16) (hid : id ≠ 0) :
    ∃ k < UINT16_MAX, nth nextId k next = id := by
  have hpos := toNat_pos hid
  have hlt := UInt16.toNat_lt id
  have hlt' := UInt16.toNat_lt (nextId next).1
  refine ⟨(id.toNat - 1 + (65535 - ((nextId next).1.toNat - 1))) % 65535,
    Nat.mod_lt _ (by decide), UInt16.toNat_inj.mp ?_⟩
  rw [nth_nextId]
  omega

-- The search fails only if every ID is in use.
theorem nextFreeId_eq_none_iff (inUse : UInt16 → Bool) (next : UInt16) :
    (nextFreeId inUse next).1 = none ↔ ∀ id, id ≠ 0 → inUse id = true := by
  rw [nextFreeId, search_eq_none_iff]
  constructor
  · intro h id hid
    obtain ⟨k, hk, rfl⟩ := exists_nth_nextId next id hid
    exact h k hk
  · intro h k _
    refine h _ fun hzero => ?_
    have := nth_nextId next k
    rw [hzero] at this
    exact absurd this (by simp)

theorem nextFreeId_some {inUse : UInt16 → Bool} {next id : UInt16}
    (h : (nextFreeId inUse next).1 = some id) : id ≠ 0 ∧ inUse id = false := by
  obtain ⟨hfree, k, -, rfl⟩ := search_some h
  refine ⟨fun hzero => ?_, hfree⟩
  have := nth_nextId next k
  rw [hzero] at this
  exact absurd this (by simp)

-- Distinct numbers leave one of the others free as long as there are fewer than 65535.
theorem exists_free_iff {ids : List UInt16} (hnodup : ids.Nodup) (hzero : 0 ∉ ids) :
    (∃ id, id ≠ 0 ∧ id ∉ ids) ↔ ids.length < UINT16_MAX := by
  have hcard : (ids.map UInt16.toNat).toFinset.card = ids.length := by
    rw [List.toFinset_card_of_nodup (hnodup.map fun _ _ => UInt16.toNat_inj.mp), List.length_map]
  have hsub : (ids.map UInt16.toNat).toFinset ⊆ Finset.Ico 1 65536 := by
    intro n hn
    obtain ⟨id, hid, rfl⟩ := List.mem_map.mp (List.mem_toFinset.mp hn)
    exact Finset.mem_Ico.mpr ⟨toNat_pos fun h0 => hzero (h0 ▸ hid), UInt16.toNat_lt id⟩
  have hall : (Finset.Ico 1 65536).card = UINT16_MAX := Nat.card_Ico 1 65536
  constructor
  · rintro ⟨id, hid, hfree⟩
    rw [← hcard, ← hall]
    refine Finset.card_lt_card ⟨hsub, fun hsup => hfree ?_⟩
    have hmem : id.toNat ∈ Finset.Ico 1 65536 :=
      Finset.mem_Ico.mpr ⟨toNat_pos hid, UInt16.toNat_lt id⟩
    obtain ⟨other, hother, hsame⟩ := List.mem_map.mp (List.mem_toFinset.mp (hsup hmem))
    rwa [← UInt16.toNat_inj.mp hsame]
  · intro hlt
    by_contra hnone
    push Not at hnone
    have hsup : Finset.Ico 1 65536 ⊆ (ids.map UInt16.toNat).toFinset := by
      intro n hn
      obtain ⟨hpos, hn⟩ := Finset.mem_Ico.mp hn
      have htoNat : (UInt16.ofNat n).toNat = n := UInt16.toNat_ofNat_of_lt hn
      refine List.mem_toFinset.mpr (List.mem_map.mpr ⟨UInt16.ofNat n, hnone _ ?_, htoNat⟩)
      intro h0
      rw [h0] at htoNat
      change 0 = n at htoNat
      omega
    have := Finset.card_le_card hsup
    rw [hall, hcard] at this
    omega

end Counter

section Ids

-- The objects that the arrays of all types list.
def Store.listed (store : Store) : List ObjectRef := ObjectType.all.flatMap store.objectArray

-- The IDs of the live objects over the six arrays, and of the live sessions.
def Store.objectIds (store : Store) : List ObjectID := store.listed.filterMap store.objectId

def Store.sessionIds (store : Store) : List SessionID :=
  store.sessionArray.filterMap store.sessionId

theorem Store.objectIdInUse_iff (store : Store) (id : ObjectID) :
    store.objectIdInUse id = true ↔ id ∈ store.objectIds := by
  simp only [objectIdInUse, objectIds, listed, List.any_eq_true, beq_iff_eq, List.mem_filterMap,
    List.mem_flatMap]
  constructor
  · rintro ⟨type, htype, object, hobject, hid⟩
    exact ⟨object, ⟨type, htype, hobject⟩, hid⟩
  · rintro ⟨object, ⟨type, htype, hobject⟩, hid⟩
    exact ⟨type, htype, object, hobject, hid⟩

theorem Store.sessionIdInUse_iff (store : Store) (id : SessionID) :
    store.sessionIdInUse id = true ↔ id ∈ store.sessionIds := by
  simp [sessionIdInUse, sessionIds]

-- Live objects have pairwise distinct non-zero IDs, and so have live sessions. The arrays
-- list nothing that was never allocated.
structure Store.Identified (store : Store) : Prop where
  object_nodup : store.objectIds.Nodup
  object_ne_zero : 0 ∉ store.objectIds
  session_nodup : store.sessionIds.Nodup
  session_ne_zero : 0 ∉ store.sessionIds
  object_lt : ∀ object ∈ store.listed, object < store.objects.next
  session_lt : ∀ session ∈ store.sessionArray, session < store.sessions.next

-- Objects and sessions leave the arrays or are freed, nothing gets a new ID.
structure Store.NoNewIds (store other : Store) : Prop where
  objectArray : ∀ type, (other.objectArray type).Sublist (store.objectArray type)
  objectId : ∀ object < store.objects.next,
    other.objectId object = store.objectId object ∨ other.objectId object = none
  objectNext : store.objects.next ≤ other.objects.next
  sessionArray : other.sessionArray.Sublist store.sessionArray
  sessionId : ∀ session < store.sessions.next,
    other.sessionId session = store.sessionId session ∨ other.sessionId session = none
  sessionNext : store.sessions.next ≤ other.sessions.next

theorem filterMap_sublist {α β : Type} {f g : α → Option β} (items : List α)
    (h : ∀ a ∈ items, g a = f a ∨ g a = none) :
    (items.filterMap g).Sublist (items.filterMap f) := by
  induction items with
  | nil => exact .refl _
  | cons a items ih =>
      have htail := ih fun b hb => h b (List.mem_cons_of_mem a hb)
      rw [List.filterMap_cons, List.filterMap_cons]
      rcases h a List.mem_cons_self with hsame | hnone
      · rw [hsame]
        cases f a with
        | none => exact htail
        | some b => exact htail.cons_cons b
      · rw [hnone]
        cases f a with
        | none => exact htail
        | some b => exact htail.cons b

theorem flatMap_sublist {α β : Type} {f g : α → List β} (items : List α)
    (h : ∀ a, (g a).Sublist (f a)) : (items.flatMap g).Sublist (items.flatMap f) := by
  induction items with
  | nil => exact .refl _
  | cons a items ih =>
      rw [List.flatMap_cons, List.flatMap_cons]
      exact (h a).append ih

namespace Store.NoNewIds

variable {store other last : Store}

theorem refl (store : Store) : store.NoNewIds store :=
  ⟨fun _ => .refl _, fun _ _ => Or.inl rfl, Nat.le_refl _, .refl _, fun _ _ => Or.inl rfl,
    Nat.le_refl _⟩

theorem trans (h : store.NoNewIds other) (h' : other.NoNewIds last) : store.NoNewIds last := by
  refine ⟨fun type => (h'.objectArray type).trans (h.objectArray type), ?_,
    h.objectNext.trans h'.objectNext, h'.sessionArray.trans h.sessionArray, ?_,
    h.sessionNext.trans h'.sessionNext⟩
  · intro object hobject
    rcases h'.objectId object (Nat.lt_of_lt_of_le hobject h.objectNext) with hsame | hnone
    · rw [hsame]
      exact h.objectId object hobject
    · exact Or.inr hnone
  · intro session hsession
    rcases h'.sessionId session (Nat.lt_of_lt_of_le hsession h.sessionNext) with hsame | hnone
    · rw [hsame]
      exact h.sessionId session hsession
    · exact Or.inr hnone

theorem of_sameInternals (h : store.SameInternals other) : store.NoNewIds other := by
  refine ⟨fun _ => by rw [h.objectArray], fun object _ => Or.inl ?_, Nat.le_of_eq h.next.symm,
    by rw [h.sessionArray], fun _ _ => Or.inl (by rw [h.sessionId]),
    Nat.le_of_eq h.sessionNext.symm⟩
  have hid : ∀ o : Option Object, o.map (·.id) = (o.map Object.internals).map (·.id) := by
    rintro (_ | o) <;> rfl
  unfold Store.objectId
  rw [hid, h.objects object, ← hid]

theorem modifyObject (store : Store) (object : ObjectRef) {f : Object → Object}
    (hf : ∀ o, (f o).id = o.id) : store.NoNewIds (store.modifyObject object f) := by
  refine ⟨fun _ => by simp, fun p _ => Or.inl ?_, by simp, by simp, fun p _ => Or.inl ?_, by simp⟩
  · unfold Store.objectId
    rw [Store.modifyObject_objects, Heap.get_modify]
    split_ifs
    · cases store.objects.get p with
      | none => rfl
      | some o => exact congrArg some (hf o)
    · rfl
  · unfold Store.sessionId
    rw [Store.modifyObject_sessions]

theorem of_objects (hobjects : other.objects = store.objects)
    (harray : ∀ type, (other.objectArray type).Sublist (store.objectArray type))
    (hsessions : other.sessions = store.sessions)
    (hsessionArray : other.sessionArray.Sublist store.sessionArray) : store.NoNewIds other := by
  refine ⟨harray, fun _ _ => Or.inl ?_, by rw [hobjects], hsessionArray, fun _ _ => Or.inl ?_,
    by rw [hsessions]⟩
  · unfold Store.objectId
    rw [hobjects]
  · unfold Store.sessionId
    rw [hsessions]

theorem freeMemory (store : Store) (object : ObjectRef) :
    store.NoNewIds (store.freeMemory object) := by
  refine ⟨fun _ => .refl _, fun p _ => ?_, Nat.le_of_eq (Heap.next_free _ _).symm, .refl _,
    fun _ _ => Or.inl rfl, Nat.le_refl _⟩
  unfold Store.objectId Store.freeMemory
  rw [Heap.get_free]
  split_ifs
  · exact Or.inr rfl
  · exact Or.inl rfl

theorem freeObject (store : Store) (object : ObjectRef) :
    store.NoNewIds (store.freeObject object) :=
  (freeMemory store object).trans (of_objects rfl (fun _ => .refl _) rfl (.refl _))

theorem freeSession (store : Store) (session : SessionRef) :
    store.NoNewIds (store.freeSession session) := by
  refine ⟨fun _ => .refl _, fun _ _ => Or.inl rfl, Nat.le_refl _, .refl _, fun p _ => ?_,
    Nat.le_of_eq (Heap.next_free _ _).symm⟩
  unfold Store.sessionId Store.freeSession
  rw [Heap.get_free]
  split_ifs
  · exact Or.inr rfl
  · exact Or.inl rfl

theorem callocObject (store : Store) (payload : Payload) :
    store.NoNewIds (store.callocObject payload).2 := by
  refine ⟨fun _ => .refl _, fun p hp => Or.inl ?_, ?_, .refl _, fun _ _ => Or.inl rfl,
    Nat.le_refl _⟩
  · unfold Store.objectId Store.callocObject
    rw [Heap.get_alloc, if_neg (Nat.ne_of_lt hp)]
  · exact (Nat.le_succ _).trans (Nat.le_of_eq (Heap.next_alloc _ _).symm)

theorem callocSession (store : Store) : store.NoNewIds store.callocSession.2 := by
  refine ⟨fun _ => .refl _, fun _ _ => Or.inl rfl, Nat.le_refl _, .refl _, fun p hp => Or.inl ?_, ?_⟩
  · unfold Store.sessionId Store.callocSession
    rw [Heap.get_alloc, if_neg (Nat.ne_of_lt hp)]
  · exact (Nat.le_succ _).trans (Nat.le_of_eq (Heap.next_alloc _ _).symm)

theorem setObjectArray (store : Store) (type : ObjectType) {items : List ObjectRef}
    (h : items.Sublist (store.objectArray type)) :
    store.NoNewIds (store.setObjectArray type items) := by
  refine of_objects rfl (fun other => ?_) rfl (.refl _)
  rw [Store.setObjectArray_objectArray]
  split_ifs with heq
  · rw [heq]
    exact h
  · exact .refl _

theorem unlock (hold : Hold) (store : Store) : store.NoNewIds (hold.unlock store) := by
  unfold Hold.unlock
  split
  · refine modifyObject store hold.object fun o => ?_
    split <;> rfl
  · exact refl store

theorem faulted (store : Store) : store.NoNewIds store.faulted :=
  of_objects rfl (fun _ => .refl _) rfl (.refl _)

theorem run (array : ArrayRemove) (task : Task) (store : Store) :
    store.NoNewIds (task.run array store).2 := by
  cases task with
  | drop hold =>
      refine (unlock hold store).trans ?_
      simp only [Task.run, objectDropTasks]
      split
      · exact faulted _
      · split_ifs
        · exact refl _
        · exact modifyObject _ _ fun _ => rfl
        · exact modifyObject _ _ fun _ => rfl
  | removeObject object =>
      simp only [Task.run]
      split
      · exact faulted store
      · split <;> exact refl store
  | destroy object =>
      simp only [Task.run]
      split
      · exact faulted store
      · exact of_sameInternals (.foldl_objectDropReference object _ store)
  | free object => exact freeObject store object
  | shift type i object => exact setObjectArray store type (array.remove_sublist _ _ _)

theorem of_runs {array : ArrayRemove} {tasks : List Task} (h : Runs array tasks store last) :
    store.NoNewIds last :=
  h.invariant (P := fun _ s => store.NoNewIds s) (fun task _ s hs => hs.trans (run array task s))
    (refl store)

theorem identified (h : store.NoNewIds other) (hids : store.Identified) : other.Identified := by
  have hlisted : other.listed.Sublist store.listed := flatMap_sublist _ h.objectArray
  have hobjects : other.objectIds.Sublist store.objectIds :=
    (hlisted.filterMap _).trans
      (filterMap_sublist _ fun object hobject => h.objectId object (hids.object_lt object hobject))
  have hsessions : other.sessionIds.Sublist store.sessionIds :=
    (h.sessionArray.filterMap _).trans
      (filterMap_sublist _ fun session hsession =>
        h.sessionId session (hids.session_lt session hsession))
  exact ⟨hids.object_nodup.sublist hobjects, fun hzero => hids.object_ne_zero (hobjects.subset hzero),
    hids.session_nodup.sublist hsessions, fun hzero => hids.session_ne_zero (hsessions.subset hzero),
    fun object hobject =>
      (hids.object_lt object (hlisted.subset hobject)).trans_le h.objectNext,
    fun session hsession =>
      (hids.session_lt session (h.sessionArray.subset hsession)).trans_le h.sessionNext⟩

end Store.NoNewIds

variable {array : ArrayRemove} {store : Store}

theorem Store.NoNewIds.removeUnreferenced (object : ObjectRef) (store : Store) :
    store.NoNewIds (store.removeUnreferenced array object) := by
  unfold Store.removeUnreferenced
  split
  · exact .faulted store
  · split
    · exact .of_runs (store.remove_runs object)
    · exact .refl store

theorem Store.NoNewIds.removeExternalReference (object : ObjectRef) (session : SessionRef)
    (store : Store) :
    store.NoNewIds (objectRemoveExternalReference array object session store) := by
  unfold objectRemoveExternalReference
  split
  · exact .faulted store
  · split
    · exact .refl store
    · split
      · exact .refl store
      · rename_i reference _
        have hreleased := Store.NoNewIds.of_sameInternals
          (Store.SameInternals.releaseReference store reference object session)
        simp only
        split
        · exact hreleased.trans (.of_runs (Store.remove_runs object _))
        · exact hreleased

theorem Store.NoNewIds.objectRelease (object : ObjectRef) (session : SessionRef) (store : Store) :
    store.NoNewIds (objectRelease array object session store).2 := by
  unfold RedApid.objectRelease
  split
  · exact .faulted store
  · split
    · exact .refl store
    · exact removeExternalReference object session store

theorem Store.NoNewIds.removeExternalReferences (rounds : Nat) (session : SessionRef)
    (store : Store) : store.NoNewIds (removeExternalReferences array rounds session store) := by
  induction rounds generalizing store with
  | zero =>
      unfold RedApid.removeExternalReferences
      split
      · exact .faulted store
      · exact .refl store
      · exact .of_objects rfl (fun _ => .refl _) rfl (.refl _)
  | succ rounds ih =>
      unfold RedApid.removeExternalReferences
      split
      · exact .faulted store
      · exact .refl store
      · refine .trans ?_ (ih _)
        unfold sessionDropReference
        split
        · exact .faulted store
        · exact (of_sameInternals (.dropReference store _ _ session _)).trans
            (.removeUnreferenced _ _)

variable (array) in
theorem Store.NoNewIds.sessionRemoveExternalReferences (session : SessionRef) (store : Store) :
    store.NoNewIds (sessionRemoveExternalReferences array session store) := by
  unfold RedApid.sessionRemoveExternalReferences
  split
  · exact .faulted store
  · exact removeExternalReferences _ session store

theorem Store.NoNewIds.sessionExpireHelper (session : SessionRef) (store : Store) :
    store.NoNewIds (sessionExpireHelper array session store) := by
  have hremoved (store : Store) :=
    Store.NoNewIds.sessionRemoveExternalReferences array session store
  unfold RedApid.sessionExpireHelper inventoryRemoveSession
  simp only
  split
  · exact hremoved store
  · exact (((hremoved store).trans (hremoved _)).trans (.freeSession _ session)).trans
      (.of_objects rfl (fun _ => .refl _) rfl (List.eraseIdx_sublist _ _))

-- One more entry in one of the arrays.
theorem Store.listed_append (store : Store) (type : ObjectType) (object : ObjectRef) :
    (store.setObjectArray type (store.objectArray type ++ [object])).listed.Perm
      (object :: store.listed) := by
  rw [List.perm_iff_count]
  intro p
  cases type <;>
    simp [listed, ObjectType.all, setObjectArray_objectArray, List.count_cons, List.count_append] <;>
    omega

theorem inventoryAddObject_identified (append : Option APIError) (type : ObjectType)
    {object : ObjectRef} (h : store.Identified) {o : Object}
    (ho : store.objects.get object = some o) (hnew : object ∉ store.listed) :
    (inventoryAddObject append type object store).2.Identified := by
  unfold inventoryAddObject inventoryGetNextObjectId
  cases hfound : nextFreeId store.objectIdInUse store.nextObjectId with
  | mk found next =>
      have hcounter : store.NoNewIds { store with nextObjectId := next } :=
        .of_objects rfl (fun _ => .refl _) rfl (.refl _)
      cases found with
      | none => exact hcounter.identified h
      | some id =>
          obtain ⟨hzero, hfree⟩ := nextFreeId_some (congrArg Prod.fst hfound)
          have hfresh : id ∉ store.objectIds := by
            rw [← store.objectIdInUse_iff, hfree]
            simp
          -- the new ID at `object`, which no array lists yet
          have hids : ∀ p ∈ store.listed, (Store.modifyObject { store with nextObjectId := next }
              object fun o => { o with id }).objectId p = store.objectId p := by
            intro p hp
            unfold Store.objectId
            rw [Store.modifyObject_objects, Heap.get_modify_ne]
            rintro rfl
            exact hnew hp
          have hid : (Store.modifyObject { store with nextObjectId := next } object
              fun o => { o with id }).objectId object = some id := by
            unfold Store.objectId
            rw [Store.modifyObject_objects, Heap.get_modify_self]
            simp only [ho, Option.map_some]
          generalize hstored : Store.modifyObject { store with nextObjectId := next } object
            (fun o => { o with id }) = stored at hids hid
          have hlisted : stored.listed = store.listed := by
            rw [← hstored]
            simp [Store.listed]
          have hobjectIds : stored.objectIds = store.objectIds := by
            unfold Store.objectIds
            rw [hlisted]
            exact List.filterMap_congr hids
          have hnext : stored.objects.next = store.objects.next := by
            rw [← hstored]
            simp
          have hsessions : stored.sessionIds = store.sessionIds ∧
              stored.sessionArray = store.sessionArray ∧ stored.sessions = store.sessions := by
            rw [← hstored]
            refine ⟨?_, by simp, by simp⟩
            unfold Store.sessionIds Store.sessionId
            simp only [Store.modifyObject_sessions, Store.modifyObject_sessionArray]
          have hkept : stored.Identified := by
            obtain ⟨hsessionIds, hsessionArray, hsessions⟩ := hsessions
            exact ⟨hobjectIds ▸ h.object_nodup, hobjectIds ▸ h.object_ne_zero,
              hsessionIds ▸ h.session_nodup, hsessionIds ▸ h.session_ne_zero,
              fun p hp => hnext ▸ h.object_lt p (hlisted ▸ hp),
              fun p hp => hsessions ▸ h.session_lt p (hsessionArray ▸ hp)⟩
          cases append with
          | some code => simpa only [hstored] using hkept
          | none =>
              simp only [hstored]
              have hperm := stored.listed_append type object
              have hidsPerm : (stored.setObjectArray type
                  (stored.objectArray type ++ [object])).objectIds.Perm (id :: store.objectIds) := by
                have := hperm.filterMap stored.objectId
                rw [List.filterMap_cons_some hid] at this
                rwa [← hobjectIds]
              refine ⟨?_, ?_, hkept.session_nodup, hkept.session_ne_zero, ?_, hkept.session_lt⟩
              · exact hidsPerm.nodup_iff.mpr (List.nodup_cons.mpr ⟨hfresh, h.object_nodup⟩)
              · rw [hidsPerm.mem_iff, List.mem_cons, not_or]
                exact ⟨Ne.symm hzero, h.object_ne_zero⟩
              · intro p hp
                rcases List.mem_cons.mp (hperm.mem_iff.mp hp) with rfl | hp
                · exact hnext ▸ Heap.lt_next_of_get ho
                · exact hkept.object_lt p hp

theorem Store.NoNewIds.not_listed {other : Store} (h : store.NoNewIds other) {object : ObjectRef}
    (hnew : object ∉ store.listed) : object ∉ other.listed :=
  fun hmem => hnew ((flatMap_sublist _ h.objectArray).subset hmem)

theorem Store.modifyObject_live {object p : ObjectRef} (f : Object → Object)
    (h : store.objects.get p ≠ none) : (store.modifyObject object f).objects.get p ≠ none := by
  rw [Store.modifyObject_objects, Heap.get_modify]
  split_ifs
  · exact fun hnone => h (Option.map_eq_none_iff.mp hnone)
  · exact h

theorem objectCreateExternal_sameInternals (outcome : ObjectCreation) (object : ObjectRef)
    (session : Option SessionRef) (flags : UInt32) (store : Store) :
    store.SameInternals (objectCreateExternal outcome object session flags store).2 := by
  unfold objectCreateExternal
  split
  · split
    · exact .objectAddExternalReference _ _ _ _
    · exact .refl store
  · exact .refl store

theorem objectCreateReferences_identified (outcome : ObjectCreation) {object : ObjectRef}
    (type : ObjectType) (session : Option SessionRef) (flags : UInt32) (h : store.Identified)
    (hlive : store.objects.get object ≠ none) (hnew : object ∉ store.listed) :
    (objectCreateReferences outcome object type session flags store).2.Identified := by
  unfold objectCreateReferences
  have hinternal : store.NoNewIds (if flags &&& OBJECT_CREATE_FLAG_INTERNAL ≠ 0 then
      objectAddInternalReference object store else store) ∧
      (if flags &&& OBJECT_CREATE_FLAG_INTERNAL ≠ 0 then
        objectAddInternalReference object store else store).objects.get object ≠ none := by
    split
    · exact ⟨.modifyObject _ _ fun _ => rfl, Store.modifyObject_live _ hlive⟩
    · exact ⟨.refl store, hlive⟩
  generalize (if flags &&& OBJECT_CREATE_FLAG_INTERNAL ≠ 0 then
      objectAddInternalReference object store else store) = acquired at hinternal ⊢
  have hsame := objectCreateExternal_sameInternals outcome object session flags acquired
  have hexternal := hinternal.1.trans (.of_sameInternals hsame)
  simp only
  split
  · exact hexternal.identified h
  · have hlocked : store.NoNewIds (if flags &&& OBJECT_CREATE_FLAG_LOCKED ≠ 0 then
        objectLock object (objectCreateExternal outcome object session flags acquired).2
        else (objectCreateExternal outcome object session flags acquired).2) ∧
        (if flags &&& OBJECT_CREATE_FLAG_LOCKED ≠ 0 then
          objectLock object (objectCreateExternal outcome object session flags acquired).2
          else (objectCreateExternal outcome object session flags acquired).2).objects.get
            object ≠ none := by
      have hlive' := fun hnone => hinternal.2 (hsame.get_eq_none.mp hnone)
      split
      · exact ⟨hexternal.trans (.modifyObject _ _ fun _ => rfl), Store.modifyObject_live _ hlive'⟩
      · exact ⟨hexternal, hlive'⟩
    obtain ⟨o, ho⟩ := Option.ne_none_iff_exists'.mp hlocked.2
    exact inventoryAddObject_identified _ _ (hlocked.1.identified h) ho (hlocked.1.not_listed hnew)

theorem createObject_identified (outcome : ObjectCreation) (payload : Payload)
    (session : Option SessionRef) (flags : UInt32) (h : store.Identified) :
    (store.createObject outcome payload session flags).2.Identified := by
  have hallocated := Store.NoNewIds.callocObject store payload
  have hnew : store.objects.next ∉ store.listed :=
    fun hmem => Nat.lt_irrefl _ (h.object_lt _ hmem)
  have hlive : (store.callocObject payload).2.objects.get store.objects.next ≠ none := by
    rw [Store.callocObject, Heap.get_alloc_next]
    simp
  by_cases hvalid : ValidFlags session flags
  · have hcreated := objectCreateReferences_identified outcome payload.type session flags
      (hallocated.identified h) hlive (hallocated.not_listed hnew)
    rw [createObject_of_valid outcome payload store hvalid]
    simp only
    split
    · exact hcreated
    · exact (Store.NoNewIds.freeMemory _ _).identified hcreated
  · rw [createObject_of_invalid outcome payload store hvalid]
    exact (hallocated.trans (.freeMemory _ _)).identified h

theorem inventoryAddSession_identified (append : Option APIError) {session : SessionRef}
    (h : store.Identified) {s : Session} (hs : store.sessions.get session = some s)
    (hnew : session ∉ store.sessionArray) :
    (inventoryAddSession append session store).2.Identified := by
  unfold inventoryAddSession inventoryGetNextSessionId
  cases hfound : nextFreeId store.sessionIdInUse store.nextSessionId with
  | mk found next =>
      have hcounter : store.NoNewIds { store with nextSessionId := next } :=
        .of_objects rfl (fun _ => .refl _) rfl (.refl _)
      cases found with
      | none => exact hcounter.identified h
      | some id =>
          obtain ⟨hzero, hfree⟩ := nextFreeId_some (congrArg Prod.fst hfound)
          have hfresh : id ∉ store.sessionIds := by
            rw [← store.sessionIdInUse_iff, hfree]
            simp
          have hids : ∀ p ∈ store.sessionArray, (Store.modifySession
              { store with nextSessionId := next } session fun s => { s with id }).sessionId p =
                store.sessionId p := by
            intro p hp
            unfold Store.sessionId
            rw [Store.modifySession_sessions, Heap.get_modify_ne]
            rintro rfl
            exact hnew hp
          have hid : (Store.modifySession { store with nextSessionId := next } session
              fun s => { s with id }).sessionId session = some id := by
            unfold Store.sessionId
            rw [Store.modifySession_sessions, Heap.get_modify_self]
            simp only [hs, Option.map_some]
          generalize hstored : Store.modifySession { store with nextSessionId := next } session
            (fun s => { s with id }) = stored at hids hid
          have hobjects : stored.objectIds = store.objectIds ∧ stored.listed = store.listed ∧
              stored.objects = store.objects := by
            rw [← hstored]
            refine ⟨?_, ?_, by simp⟩
            · unfold Store.objectIds Store.objectId Store.listed
              simp only [Store.modifySession_objects, Store.modifySession_objectArray]
            · unfold Store.listed
              simp only [Store.modifySession_objectArray]
          have hsessionArray : stored.sessionArray = store.sessionArray := by
            rw [← hstored]
            simp
          have hsessionIds : stored.sessionIds = store.sessionIds := by
            unfold Store.sessionIds
            rw [hsessionArray]
            exact List.filterMap_congr hids
          have hnext : stored.sessions.next = store.sessions.next := by
            rw [← hstored]
            simp
          obtain ⟨hobjectIds, hlisted, hobjects⟩ := hobjects
          have hkept : stored.Identified :=
            ⟨hobjectIds ▸ h.object_nodup, hobjectIds ▸ h.object_ne_zero,
              hsessionIds ▸ h.session_nodup, hsessionIds ▸ h.session_ne_zero,
              fun p hp => hobjects ▸ h.object_lt p (hlisted ▸ hp),
              fun p hp => hnext ▸ h.session_lt p (hsessionArray ▸ hp)⟩
          cases append with
          | some code => simpa only [hstored] using hkept
          | none =>
              simp only [hstored]
              have hidsAppend : (stored.sessionArray ++ [session]).filterMap stored.sessionId =
                  store.sessionIds ++ [id] := by
                rw [List.filterMap_append, List.filterMap_cons_some hid, List.filterMap_nil,
                  ← hsessionIds]
                rfl
              refine ⟨hkept.object_nodup, hkept.object_ne_zero, ?_, ?_, hkept.object_lt, ?_⟩
              · change ((stored.sessionArray ++ [session]).filterMap stored.sessionId).Nodup
                rw [hidsAppend]
                exact h.session_nodup.append (List.nodup_singleton _)
                  (List.disjoint_singleton.mpr hfresh)
              · change 0 ∉ (stored.sessionArray ++ [session]).filterMap stored.sessionId
                rw [hidsAppend, List.mem_append, List.mem_singleton, not_or]
                exact ⟨h.session_ne_zero, Ne.symm hzero⟩
              · intro p hp
                rcases List.mem_append.mp hp with hp | hp
                · exact hkept.session_lt p hp
                · rw [List.mem_singleton.mp hp]
                  exact hnext ▸ Heap.lt_next_of_get hs

theorem sessionCreate_identified (outcome : SessionCreation) (lifetime : UInt32)
    (h : store.Identified) : (sessionCreate outcome lifetime store).2.Identified := by
  have hallocated := Store.NoNewIds.callocSession store
  have hget : store.callocSession.2.sessions.get store.callocSession.1 = some ⟨0, [], 0⟩ :=
    store.sessions.get_alloc_next _
  have hnew : store.callocSession.1 ∉ store.callocSession.2.sessionArray :=
    fun hmem => Nat.lt_irrefl _ (h.session_lt _ hmem)
  have hadded := inventoryAddSession_identified outcome.append (hallocated.identified h) hget hnew
  have hfailed := (hallocated.trans (.freeSession _ store.callocSession.1)).identified h
  unfold sessionCreate
  split
  · exact h
  split
  · exact h
  cases outcome.timerCreate with
  | some code => exact hfailed
  | none =>
      cases outcome.timerConfigure with
      | some code => exact hfailed
      | none =>
          simp only
          split
          · exact hadded
          · exact (Store.NoNewIds.freeSession _ _).identified hadded

-- The operations, and creations of objects whether they succeed or not.
inductive InventoryStep (array : ArrayRemove) : Store → Store → Prop where
  | operation (store : Store) (operation : Operation) :
      InventoryStep array store (operation.run array store)
  | createObject (store : Store) (outcome : ObjectCreation) (payload : Payload)
      (session : Option SessionRef) (flags : UInt32) :
      InventoryStep array store (store.createObject outcome payload session flags).2

theorem Operation.identified (operation : Operation) (h : store.Identified) :
    (operation.run array store).Identified := by
  cases operation with
  | sessionCreate outcome lifetime => exact sessionCreate_identified outcome lifetime h
  | addExternalReference calloc object session =>
      exact (Store.NoNewIds.of_sameInternals (.objectAddExternalReference _ _ _ _)).identified h
  | removeExternalReference object session =>
      exact (Store.NoNewIds.removeExternalReference object session store).identified h
  | release object session =>
      exact (Store.NoNewIds.objectRelease object session store).identified h
  | addInternalReference object =>
      exact (Store.NoNewIds.modifyObject _ _ (by intro _; rfl)).identified h
  | removeInternalReference object =>
      exact (Store.NoNewIds.of_runs (store.release_runs object)).identified h
  | sessionExpire session => exact (Store.NoNewIds.sessionExpireHelper session store).identified h
  | sessionHandleExpire session =>
      exact (Store.NoNewIds.sessionExpireHelper session store).identified h
  | lock object => exact (Store.NoNewIds.modifyObject _ _ (by intro _; rfl)).identified h
  | unlock object => exact (Store.NoNewIds.unlock (lockedHold object) store).identified h
  | setPayload object payload =>
      exact (Store.NoNewIds.modifyObject _ _ (by intro _; rfl)).identified h

theorem identified_of_steps (h : Relation.ReflTransGen (InventoryStep array) Store.init store) :
    store.Identified := by
  induction h with
  | refl => exact ⟨List.nodup_nil, List.not_mem_nil, List.nodup_nil, List.not_mem_nil,
      fun _ hp => absurd hp (by simp [Store.listed, Store.init]), fun _ hp => absurd hp List.not_mem_nil⟩
  | tail _ hstep ih =>
      cases hstep with
      | operation operation => exact operation.identified ih
      | createObject outcome payload session flags =>
          exact createObject_identified outcome payload session flags ih

end Ids

end RedApid

import RedApid.Memory.Incoming
import RedApid.Store.Failure

namespace RedApid

open Memory

-- What the object at an address, with its payload, is taken to hold.
abbrev View := ObjectRef → Payload → List Hold

-- The internal references that the destroy functions drop.
def ownHolds : View := fun _ payload => payload.holds

namespace Store

variable (view : View) (pool : List Hold) (store : Store)

def incoming (hold : Hold) : Nat := store.objects.incoming (fun p o => view p o.payload) hold

-- How often a hold is kept, by objects and outside of them.
def claims (hold : Hold) : Nat := store.incoming view hold + pool.count hold

-- Every internal reference and every lock is accounted for by a hold, either of another
-- object or in the pool of those that are kept elsewhere.
structure Accounted : Prop where
  locks : ∀ p o, store.objects.get p = some o → o.lockCount = store.claims view pool (lockedHold p)
  references : ∀ p o, store.objects.get p = some o → o.internalReferenceCount =
    store.claims view pool (lockedHold p) + store.claims view pool (plainHold p)
  live : ∀ hold, 0 < store.claims view pool hold → store.objects.get hold.object ≠ none

end Store

def Object.counts (o : Object) : Nat × Nat := (o.lockCount, o.internalReferenceCount)

-- object_add_internal_reference, and object_lock for a locked reference.
def Hold.acquire (hold : Hold) (store : Store) : Store :=
  let store := objectAddInternalReference hold.object store
  if hold.locked then objectLock hold.object store else store

-- object_unlock for a locked reference, and the decrement of
-- object_remove_internal_reference.
def Hold.drop (hold : Hold) (store : Store) : Store :=
  objectDropInternalReference hold.object (hold.unlock store)

section Counts

variable {store : Store}

def Hold.retain (hold : Hold) (o : Object) : Object :=
  { o with
    internalReferenceCount := o.internalReferenceCount + 1
    lockCount := if hold.locked then o.lockCount + 1 else o.lockCount }

def Hold.forgo (hold : Hold) (o : Object) : Object :=
  { o with
    internalReferenceCount := o.internalReferenceCount - 1
    lockCount := if hold.locked then o.lockCount - 1 else o.lockCount }

theorem Store.modifyObject_modifyObject (store : Store) (object : ObjectRef) (f g : Object → Object) :
    (store.modifyObject object f).modifyObject object g =
      store.modifyObject object fun o => g (f o) := by
  cases hget : store.objects.get object with
  | none =>
      have hnone : store.faulted.objects.get object = none := hget
      rw [modifyObject_of_none hget, modifyObject_of_none hget, modifyObject_of_none hnone]
      rfl
  | some o =>
      have hget' : ({ store with objects := store.objects.modify object f } : Store).objects.get
          object = some (f o) := by simp [hget]
      rw [modifyObject_of_get hget, modifyObject_of_get hget, modifyObject_of_get hget']
      exact congrArg (fun objects => { store with objects }) (store.objects.modify_modify object f g)

theorem Hold.acquire_eq (hold : Hold) (store : Store) :
    hold.acquire store = store.modifyObject hold.object hold.retain := by
  unfold Hold.acquire objectAddInternalReference objectLock
  simp only
  split
  · rename_i hlocked
    rw [Store.modifyObject_modifyObject]
    refine congrArg (store.modifyObject hold.object) (funext fun o => ?_)
    simp only [Hold.retain, hlocked, if_true]
  · rename_i hlocked
    refine congrArg (store.modifyObject hold.object) (funext fun o => ?_)
    simp only [Hold.retain, hlocked, if_false, Bool.false_eq_true]

theorem Hold.drop_eq (hold : Hold) (store : Store) :
    hold.drop store = store.modifyObject hold.object hold.forgo := by
  unfold Hold.drop Hold.unlock objectDropInternalReference objectUnlock
  split
  · rename_i hlocked
    rw [Store.modifyObject_modifyObject]
    refine congrArg (store.modifyObject hold.object) (funext fun o => ?_)
    simp only [Hold.forgo, hlocked, if_true]
    split
    · rename_i hzero
      simp [hzero]
    · rfl
  · rename_i hlocked
    refine congrArg (store.modifyObject hold.object) (funext fun o => ?_)
    simp only [Hold.forgo, hlocked, if_false, Bool.false_eq_true]

theorem Hold.retain_counts (hold : Hold) (p : ObjectRef) (o : Object) :
    let o' := if p = hold.object then hold.retain o else o
    o'.lockCount = o.lockCount + (if hold = lockedHold p then 1 else 0) ∧
      o'.internalReferenceCount = o.internalReferenceCount +
        ((if hold = lockedHold p then 1 else 0) + if hold = plainHold p then 1 else 0) := by
  obtain ⟨object, locked⟩ := hold
  by_cases hp : p = object
  · subst hp
    cases locked <;> simp [Hold.retain, lockedHold, plainHold]
  · have hne : ¬ object = p := fun heq => hp heq.symm
    simp [hp, hne, lockedHold, plainHold]

theorem Hold.forgo_counts (hold : Hold) (p : ObjectRef) (o : Object) :
    let o' := if p = hold.object then hold.forgo o else o
    o'.lockCount = o.lockCount - (if hold = lockedHold p then 1 else 0) ∧
      o'.internalReferenceCount = o.internalReferenceCount -
        ((if hold = lockedHold p then 1 else 0) + if hold = plainHold p then 1 else 0) := by
  obtain ⟨object, locked⟩ := hold
  by_cases hp : p = object
  · subst hp
    cases locked <;> simp [Hold.forgo, lockedHold, plainHold]
  · have hne : ¬ object = p := fun heq => hp heq.symm
    simp [hp, hne, lockedHold, plainHold]

theorem Store.modifyObject_get {object : ObjectRef} {f : Object → Object} {p : ObjectRef}
    {o : Object} (h : (store.modifyObject object f).objects.get p = some o) :
    ∃ o', store.objects.get p = some o' ∧ o = if p = object then f o' else o' := by
  rw [Store.modifyObject_objects, Heap.get_modify] at h
  split_ifs at h ⊢
  · obtain ⟨o', ho', rfl⟩ := Option.map_eq_some_iff.mp h
    exact ⟨o', ho', rfl⟩
  · exact ⟨o, h, rfl⟩

theorem Store.modifyObject_get_ne_none (object : ObjectRef) (f : Object → Object) (p : ObjectRef) :
    (store.modifyObject object f).objects.get p ≠ none ↔ store.objects.get p ≠ none := by
  rw [Store.modifyObject_objects, Heap.get_modify]
  split_ifs <;> simp

end Counts

namespace Store

variable {view other : View} {pool : List Hold} {store : Store} {object : ObjectRef} {o : Object}

theorem modifyObject_incoming {f : Object → Object}
    (h : ∀ o, store.objects.get object = some o → view object (f o).payload = view object o.payload)
    (hold : Hold) : (store.modifyObject object f).incoming view hold = store.incoming view hold := by
  unfold incoming
  rw [modifyObject_objects]
  exact Heap.incoming_modify_same hold h

theorem modifyObject_claims {f : Object → Object}
    (h : ∀ o, store.objects.get object = some o → view object (f o).payload = view object o.payload)
    (pool : List Hold) (hold : Hold) :
    (store.modifyObject object f).claims view pool hold = store.claims view pool hold := by
  rw [claims, modifyObject_incoming h hold]
  rfl

theorem claims_cons (view : View) (pool : List Hold) (store : Store) (hold e : Hold) :
    store.claims view (hold :: pool) e =
      store.claims view pool e + if hold = e then 1 else 0 := by
  unfold claims
  rw [List.count_cons]
  simp only [beq_iff_eq]
  omega

end Store

namespace Store.Accounted

variable {view other : View} {pool next : List Hold} {store last : Store} {object : ObjectRef}
  {o : Object}

theorem init (view : View) : Store.init.Accounted view [] := by
  refine ⟨?_, ?_, ?_⟩
  · simp [Store.init]
  · simp [Store.init]
  · intro hold hpos
    simp [Store.claims, Store.incoming, Heap.incoming, Heap.total, Store.init, Heap.empty,
      Heap.next] at hpos

-- Nothing but the counts and the claims matters.
theorem congr (h : store.Accounted view pool)
    (hcounts : ∀ p, (last.objects.get p).map Object.counts =
      (store.objects.get p).map Object.counts)
    (hclaims : ∀ hold, last.claims other next hold = store.claims view pool hold) :
    last.Accounted other next := by
  have hget : ∀ p o, last.objects.get p = some o →
      ∃ o', store.objects.get p = some o' ∧ o'.counts = o.counts := by
    intro p o ho
    have := hcounts p
    rw [ho] at this
    exact Option.map_eq_some_iff.mp this.symm
  refine ⟨fun p o ho => ?_, fun p o ho => ?_, fun hold hpos => ?_⟩
  · obtain ⟨o', ho', hsame⟩ := hget p o ho
    rw [hclaims, ← h.locks p o' ho']
    exact (congrArg Prod.fst hsame).symm
  · obtain ⟨o', ho', hsame⟩ := hget p o ho
    rw [hclaims, hclaims, ← h.references p o' ho']
    exact (congrArg Prod.snd hsame).symm
  · rw [hclaims] at hpos
    have hlive := h.live hold hpos
    rwa [Ne, ← Option.map_eq_none_iff (f := Object.counts), hcounts, Option.map_eq_none_iff]

theorem perm (h : store.Accounted view pool) (hperm : pool.Perm next) :
    store.Accounted view next := by
  refine h.congr (fun _ => rfl) fun hold => ?_
  unfold Store.claims
  rw [hperm.count_eq]

-- A change that touches neither a count nor what an object holds.
theorem modifyObject (h : store.Accounted view pool) {f : Object → Object}
    (hcounts : ∀ o, (f o).counts = o.counts)
    (hview : ∀ o, store.objects.get object = some o →
      view object (f o).payload = view object o.payload) :
    (store.modifyObject object f).Accounted view pool := by
  refine h.congr (fun p => ?_) (Store.modifyObject_claims hview pool)
  rw [Store.modifyObject_objects, Heap.get_modify]
  split_ifs
  · cases store.objects.get p with
    | none => rfl
    | some o => exact congrArg some (hcounts o)
  · rfl

theorem sameInternals (h : store.Accounted view pool) (hsame : store.SameInternals last) :
    last.Accounted view pool := by
  have hcounts : ∀ o : Option Object,
      o.map Object.counts = (o.map Object.internals).map Object.counts := by
    rintro (_ | o) <;> rfl
  refine h.congr (fun p => ?_) fun hold => ?_
  · rw [hcounts, hsame.objects p, ← hcounts]
  · have htotal := hsame.total (fun p o => (view p o.payload).count hold) fun _ _ => rfl
    unfold Store.claims Store.incoming Heap.incoming
    rw [htotal]

theorem acquire (h : store.Accounted view pool) (hold : Hold)
    (hlive : store.objects.get hold.object ≠ none) :
    (hold.acquire store).Accounted view (hold :: pool) := by
  have hclaims : ∀ e, (store.modifyObject hold.object hold.retain).claims view (hold :: pool) e =
      store.claims view pool e + if hold = e then 1 else 0 := by
    intro e
    rw [Store.claims_cons]
    rw [Store.modifyObject_claims (f := hold.retain) (by intro _ _; rfl)]
  rw [hold.acquire_eq]
  refine ⟨fun p o ho => ?_, fun p o ho => ?_, fun e hpos => ?_⟩
  · obtain ⟨o', ho', rfl⟩ := Store.modifyObject_get ho
    rw [(hold.retain_counts p o').1, h.locks p o' ho', hclaims]
  · obtain ⟨o', ho', rfl⟩ := Store.modifyObject_get ho
    rw [(hold.retain_counts p o').2, h.references p o' ho', hclaims, hclaims]
    omega
  · rw [hclaims] at hpos
    rw [Store.modifyObject_get_ne_none]
    split_ifs at hpos with he
    · rwa [← he]
    · exact h.live e hpos

theorem drop {hold : Hold} (h : store.Accounted view (hold :: pool)) :
    (hold.drop store).Accounted view pool := by
  have hclaims : ∀ e, store.claims view (hold :: pool) e =
      (store.modifyObject hold.object hold.forgo).claims view pool e +
        if hold = e then 1 else 0 := by
    intro e
    rw [Store.claims_cons]
    rw [Store.modifyObject_claims (f := hold.forgo) (by intro _ _; rfl)]
  rw [hold.drop_eq]
  refine ⟨fun p o ho => ?_, fun p o ho => ?_, fun e hpos => ?_⟩
  · obtain ⟨o', ho', rfl⟩ := Store.modifyObject_get ho
    rw [(hold.forgo_counts p o').1, h.locks p o' ho', hclaims]
    omega
  · obtain ⟨o', ho', rfl⟩ := Store.modifyObject_get ho
    rw [(hold.forgo_counts p o').2, h.references p o' ho', hclaims, hclaims]
    omega
  · rw [Store.modifyObject_get_ne_none]
    refine h.live e ?_
    rw [hclaims]
    omega

theorem live_of_mem {hold : Hold} (h : store.Accounted view pool) (hmem : hold ∈ pool) :
    store.objects.get hold.object ≠ none :=
  h.live hold (Nat.add_pos_right _ (List.count_pos_iff.mpr hmem))

-- A hold that is kept outside of the objects has been counted.
theorem count_pos {hold : Hold} (h : store.Accounted view (hold :: pool)) :
    ∃ o, store.objects.get hold.object = some o ∧ 0 < o.internalReferenceCount ∧
      (hold.locked = true → 0 < o.lockCount) := by
  have hpos : 0 < store.claims view (hold :: pool) hold := by
    rw [Store.claims_cons, if_pos rfl]
    omega
  obtain ⟨o, ho⟩ := Option.ne_none_iff_exists'.mp (h.live hold hpos)
  have hlocks := h.locks _ o ho
  have hreferences := h.references _ o ho
  obtain ⟨object, locked⟩ := hold
  refine ⟨o, ho, ?_, ?_⟩
  · cases locked with
    | true => exact hreferences ▸ Nat.add_pos_left hpos _
    | false => exact hreferences ▸ Nat.add_pos_right _ hpos
  · rintro rfl
    exact hlocks ▸ hpos

-- Holds move between the payload of an object and the pool.
theorem modifyPayload (h : store.Accounted view pool) (ho : store.objects.get object = some o)
    {f : Object → Object} (hcounts : ∀ o, (f o).counts = o.counts)
    (hperm : (view object (f o).payload ++ next).Perm (view object o.payload ++ pool)) :
    (store.modifyObject object f).Accounted view next := by
  refine h.congr (fun p => ?_) fun hold => ?_
  · rw [Store.modifyObject_objects, Heap.get_modify]
    split_ifs
    · cases store.objects.get p with
      | none => rfl
      | some o => exact congrArg some (hcounts o)
    · rfl
  · have hmodify := Heap.incoming_modify hold (fun p o => view p o.payload) ho f
    have hcount := hperm.count_eq hold
    rw [List.count_append, List.count_append] at hcount
    unfold Store.claims Store.incoming
    rw [Store.modifyObject_objects]
    omega

-- An object that is being destroyed hands over its holds.
theorem hide {skip : List ObjectRef} (h : store.Accounted (Heap.hide skip view) pool)
    (ho : store.objects.get object = some o) (hskip : object ∉ skip) :
    store.Accounted (Heap.hide (object :: skip) view) (view object o.payload ++ pool) := by
  refine h.congr (fun _ => rfl) fun hold => ?_
  have hhide := Heap.incoming_hide (fun p (o : Object) => view p o.payload) ho hskip hold
  unfold Store.claims
  rw [List.count_append, ← Nat.add_assoc]
  exact congrArg (· + pool.count hold) hhide

theorem claims_eq_zero (h : store.Accounted view pool) (ho : store.objects.get object = some o)
    (hzero : o.internalReferenceCount = 0) {hold : Hold} (hobject : hold.object = object) :
    store.claims view pool hold = 0 := by
  subst hobject
  have hreferences := h.references _ o ho
  obtain ⟨object, locked⟩ := hold
  unfold lockedHold plainHold at hreferences
  cases locked <;> simp only at hreferences ⊢ <;> omega

-- The claims on an object that is not allocated.
theorem claims_eq_zero_of_none (h : store.Accounted view pool) {hold : Hold}
    (hnone : store.objects.get hold.object = none) : store.claims view pool hold = 0 := by
  by_contra hpos
  exact h.live hold (Nat.pos_of_ne_zero hpos) hnone

theorem freeObject {skip : List ObjectRef}
    (h : store.Accounted (Heap.hide (object :: skip) view) pool)
    (ho : store.objects.get object = some o) (hzero : o.internalReferenceCount = 0) :
    (store.freeObject object).Accounted (Heap.hide skip view) pool := by
  have hclaims : ∀ hold, (store.freeObject object).claims (Heap.hide skip view) pool hold =
      store.claims (Heap.hide (object :: skip) view) pool hold := by
    intro hold
    exact congrArg (· + pool.count hold)
      (Heap.incoming_free_hide (fun p (o : Object) => view p o.payload) ho hold)
  have hget : ∀ p o, (store.freeObject object).objects.get p = some o →
      store.objects.get p = some o := by
    intro p o hp
    unfold Store.freeObject at hp
    rw [Heap.get_free] at hp
    split_ifs at hp
    exact hp
  refine ⟨fun p o hp => ?_, fun p o hp => ?_, fun hold hpos => ?_⟩
  · rw [hclaims, h.locks p o (hget p o hp)]
  · rw [hclaims, hclaims, h.references p o (hget p o hp)]
  · rw [hclaims] at hpos
    have hne : hold.object ≠ object := fun heq => Nat.ne_of_gt hpos (h.claims_eq_zero ho hzero heq)
    unfold Store.freeObject
    rw [Heap.get_free_ne hne]
    exact h.live hold hpos

-- A new object takes over the holds of its payload.
theorem callocObject {payload : Payload}
    (h : store.Accounted view (view store.objects.next payload ++ pool)) :
    (store.callocObject payload).2.Accounted view pool ∧
      ∀ hold, hold.object = store.objects.next →
        (store.callocObject payload).2.claims view pool hold = 0 := by
  have hclaims : ∀ hold, (store.callocObject payload).2.claims view pool hold =
      store.claims view (view store.objects.next payload ++ pool) hold := by
    intro hold
    have halloc := Heap.incoming_alloc hold (fun p (o : Object) => view p o.payload) store.objects
      ⟨0, payload.type, 0, [], 0, 0, payload⟩
    unfold Store.claims
    rw [List.count_append, ← Nat.add_assoc]
    exact congrArg (· + pool.count hold) halloc
  have hnext : ∀ hold, hold.object = store.objects.next →
      store.claims view (view store.objects.next payload ++ pool) hold = 0 := by
    intro hold hobject
    refine h.claims_eq_zero_of_none ?_
    rw [hobject]
    exact Heap.get_eq_none_of_next_le _ (Nat.le_refl _)
  have hget : ∀ p o, (store.callocObject payload).2.objects.get p = some o →
      (p = store.objects.next ∧ o = ⟨0, payload.type, 0, [], 0, 0, payload⟩) ∨
        store.objects.get p = some o := by
    intro p o ho
    unfold Store.callocObject at ho
    rw [Heap.get_alloc] at ho
    split_ifs at ho with hp
    · cases ho
      exact Or.inl ⟨hp, rfl⟩
    · exact Or.inr ho
  refine ⟨⟨fun p o ho => ?_, fun p o ho => ?_, fun hold hpos => ?_⟩, fun hold hobject => ?_⟩
  · rw [hclaims]
    rcases hget p o ho with ⟨hp, rfl⟩ | ho
    · exact (hnext _ hp).symm
    · exact h.locks p o ho
  · rw [hclaims, hclaims]
    rcases hget p o ho with ⟨hp, rfl⟩ | ho
    · rw [hnext _ hp, hnext _ hp]
    · exact h.references p o ho
  · rw [hclaims] at hpos
    obtain ⟨o, ho⟩ := Option.ne_none_iff_exists'.mp (h.live hold hpos)
    rw [Store.callocObject, Heap.get_alloc_of_get ho]
    exact Option.some_ne_none o
  · rw [hclaims, hnext hold hobject]

-- The memory of an object is given back though it was not destroyed: `own` are the holds
-- on itself, all others still belong to someone.
theorem freeMemory {own : List Hold} (h : store.Accounted view (own ++ pool))
    (ho : store.objects.get object = some o) (hown : ∀ hold ∈ own, hold.object = object)
    (hunclaimed : ∀ hold, hold.object = object → store.claims view pool hold = 0) :
    (store.freeMemory object).Accounted view (view object o.payload ++ pool) := by
  have hclaims : ∀ hold, hold.object ≠ object →
      (store.freeMemory object).claims view (view object o.payload ++ pool) hold =
        store.claims view (own ++ pool) hold := by
    intro hold hne
    have hfree := Heap.incoming_free hold (fun p (o : Object) => view p o.payload) ho
    have hnone : own.count hold = 0 := List.count_eq_zero.mpr fun hmem => hne (hown hold hmem)
    unfold Store.claims
    rw [List.count_append, List.count_append, hnone, Nat.zero_add, ← Nat.add_assoc]
    exact congrArg (· + pool.count hold) hfree
  have hself : ∀ hold, hold.object = object →
      (store.freeMemory object).claims view (view object o.payload ++ pool) hold = 0 := by
    intro hold hobject
    have hfree := Heap.incoming_free hold (fun p (o : Object) => view p o.payload) ho
    have hzero := hunclaimed hold hobject
    unfold Store.claims Store.incoming at hzero ⊢
    rw [List.count_append]
    unfold Store.freeMemory
    simp only
    omega
  have hget : ∀ p o, (store.freeMemory object).objects.get p = some o →
      p ≠ object ∧ store.objects.get p = some o := by
    intro p o hp
    unfold Store.freeMemory at hp
    rw [Heap.get_free] at hp
    split_ifs at hp with hsame
    exact ⟨hsame, hp⟩
  refine ⟨fun p o hp => ?_, fun p o hp => ?_, fun hold hpos => ?_⟩
  · obtain ⟨hne, hp⟩ := hget p o hp
    rw [hclaims _ hne, h.locks p o hp]
  · obtain ⟨hne, hp⟩ := hget p o hp
    rw [hclaims _ hne, hclaims _ hne, h.references p o hp]
  · have hne : hold.object ≠ object := fun heq => Nat.ne_of_gt hpos (hself hold heq)
    rw [hclaims hold hne] at hpos
    unfold Store.freeMemory
    rw [Heap.get_free_ne hne]
    exact h.live hold hpos

end Store.Accounted

end RedApid

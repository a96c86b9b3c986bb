import RedApid.Store.Getters

namespace RedApid

open Memory

section Functions

-- The cleanup of a function gives back a reference that was acquired before, unless the function
-- succeeds.
def Hold.cleanup {α : Type} (array : ArrayRemove) (hold : Hold) :
    Except APIE α × Store → Except APIE α × Store
  | (.ok a, store) => (.ok a, store)
  | (.error code, store) => (.error code, hold.release array store)

def stringGetAcquiredAndLocked (id : ObjectID) (store : Store) : Except APIE ObjectRef × Store :=
  match inventoryGetObject [.string] id store with
  | .error code => (.error code, store)
  | .ok string => (.ok string, (lockedHold string).acquire store)

def listEnsureItemType (list : ObjectRef) (type : ObjectType) (store : Store) : APIE :=
  match store.objects.get list with
  | none => .internalError
  | some l =>
      if l.items.all fun item => (store.objects.get item).map (·.type) = some type then .success
      else .wrongListItemType

def listGetAcquiredAndLocked (id : ObjectID) (itemType : ObjectType) (store : Store) :
    Except APIE ObjectRef × Store :=
  match inventoryGetObject [.list] id store with
  | .error code => (.error code, store)
  | .ok list =>
      match listEnsureItemType list itemType store with
      | .success => (.ok list, (lockedHold list).acquire store)
      | code => (.error code, store)

-- A step that acquires an object, and what follows. If it fails nothing follows, if what follows
-- fails the object is given back.
def acquiring {α : Type} (array : ArrayRemove) (locked : Bool)
    (acquired : Except APIE ObjectRef × Store) (body : ObjectRef → Store → Except APIE α × Store) :
    Except APIE α × Store :=
  match acquired with
  | (.error code, store) => (.error code, store)
  | (.ok object, store) => Hold.cleanup array ⟨object, locked⟩ (body object store)

-- The buffer starts with the NULL-terminator.
def Store.isEmptyString (store : Store) (string : ObjectRef) : Bool :=
  match store.payload string with
  | some (.string s) => s.buffer.bytes 0 = 0
  | _ => true

end Functions

section Cleanup

variable {α : Type} {array : ArrayRemove} {pool : List Hold} {store other : Store} {hold : Hold}
  {o : Object}

-- What fails reports so and leaves everything as it was.
def UnchangedOnError (store : Store) (result : Except APIE α × Store) : Prop :=
  ∀ code, result.1 = .error code → code ≠ .success ∧ result.2 = store

-- One reference less, when it is not the last one.
theorem Hold.release_eq_drop (ho : store.objects.get hold.object = some o)
    (hcount : o.internalReferenceCount ≠ 0)
    (hothers : ¬ (o.internalReferenceCount - 1 = 0 ∧ o.externalReferenceCount = 0)) :
    hold.release array store = hold.drop store := by
  obtain ⟨o', ho', hinternal, hexternal⟩ := Hold.unlock_get ho
  unfold Hold.release Store.release Hold.drop objectRemoveInternalReference
  rw [← hinternal] at hcount
  rw [← hinternal, ← hexternal] at hothers
  simp only [ho', if_neg hcount, if_neg hothers]

-- An object that somebody refers to is not destroyed by a reference that comes and goes.
theorem Hold.release_acquire (hold : Hold) (ho : store.objects.get hold.object = some o)
    (hreferenced : o.Referenced) : hold.release array (hold.acquire store) = store := by
  have hget : (hold.acquire store).objects.get hold.object = some (hold.retain o) := by
    rw [hold.acquire_eq, Store.modifyObject_objects, Heap.get_modify_self, ho]
    rfl
  have hothers : ¬ ((hold.retain o).internalReferenceCount - 1 = 0 ∧
      (hold.retain o).externalReferenceCount = 0) := by
    rintro ⟨hinternal, hexternal⟩
    exact hreferenced.elim (fun hne => hne hinternal) fun hne => hne hexternal
  rw [Hold.release_eq_drop hget (Nat.succ_ne_zero _) hothers, hold.drop_eq, hold.acquire_eq,
    Store.modifyObject_modifyObject]
  have hback : store.modifyObject hold.object (fun o => hold.forgo (hold.retain o)) =
      store.modifyObject hold.object id := by
    refine Store.modifyObject_congr fun o _ => ?_
    unfold Hold.forgo Hold.retain
    cases hold.locked <;> rfl
  rw [hback, Store.modifyObject_of_get ho, Heap.modify_id]

theorem UnchangedOnError.cleanup {result : Except APIE α × Store}
    (h : UnchangedOnError (hold.acquire store) result)
    (ho : store.objects.get hold.object = some o) (hreferenced : o.Referenced) :
    UnchangedOnError store (hold.cleanup array result) := by
  rcases result with ⟨code | a, last⟩
  · rintro _ ⟨⟩
    obtain ⟨hcode, hlast⟩ := h code rfl
    refine ⟨hcode, ?_⟩
    change hold.release array last = store
    rw [show last = hold.acquire store from hlast]
    exact hold.release_acquire ho hreferenced
  · exact fun _ herror => (nomatch herror)

theorem Hold.cleanup_eq_ok {a : α} {result : Except APIE α × Store}
    (h : hold.cleanup array result = (.ok a, other)) : result = (.ok a, other) := by
  rcases result with ⟨code | a', last⟩
  · cases h
  · exact h

-- An object that a lookup finds is acquired, or nothing changes.
def Acquires (types : List ObjectType) (id : ObjectID) (locked : Bool) (store : Store)
    (result : Except APIE ObjectRef × Store) : Prop :=
  (∃ code, code ≠ .success ∧ result = (.error code, store)) ∨
    ∃ object o, inventoryGetObject types id store = .ok object ∧
      store.objects.get object = some o ∧ o.Referenced ∧
      result = (.ok object, Hold.acquire ⟨object, locked⟩ store)

theorem inventoryGetObject_error {types : List ObjectType} {id : ObjectID} {code : APIE}
    (h : inventoryGetObject types id store = .error code) : code ≠ .success := by
  unfold inventoryGetObject at h
  split at h
  · cases h
    decide
  · cases h

theorem Sound.stringGetAcquiredAndLocked (h : Sound pool store) (id : ObjectID) :
    Acquires [.string] id true store (stringGetAcquiredAndLocked id store) := by
  unfold RedApid.stringGetAcquiredAndLocked
  cases hfound : inventoryGetObject [.string] id store with
  | error code => exact Or.inl ⟨code, inventoryGetObject_error hfound, rfl⟩
  | ok string =>
      obtain ⟨o, ho, -, -, -, hreferenced⟩ := h.found hfound
      exact Or.inr ⟨string, o, hfound, ho, hreferenced, rfl⟩

theorem Sound.listGetAcquiredAndLocked (h : Sound pool store) (id : ObjectID)
    (itemType : ObjectType) :
    Acquires [.list] id true store (listGetAcquiredAndLocked id itemType store) := by
  unfold RedApid.listGetAcquiredAndLocked
  cases hfound : inventoryGetObject [.list] id store with
  | error code => exact Or.inl ⟨code, inventoryGetObject_error hfound, rfl⟩
  | ok list =>
      obtain ⟨o, ho, -, -, -, hreferenced⟩ := h.found hfound
      by_cases hitems : listEnsureItemType list itemType store = .success
      · exact Or.inr ⟨list, o, hfound, ho, hreferenced, by simp only [hitems]; rfl⟩
      · exact Or.inl ⟨_, hitems, by simp only⟩

-- What is acquired is counted in the pool until somebody takes it over.
theorem Sound.acquireStep (h : Sound pool store) (array : ArrayRemove) (hold : Hold)
    (hlive : store.objects.get hold.object ≠ none) :
    CleanStep array (pool, store) (hold :: pool, hold.acquire store) := by
  refine ⟨.acquire pool store hold hlive, fun r e he => ?_⟩
  rw [hold.acquire_eq] at he ⊢
  rw [Store.modifyObject_get_ne_none]
  rw [Store.modifyObject_references] at he
  exact h.counted.linked.objects.owner_live r e he

theorem Sound.acquire (h : Sound pool store) (hold : Hold)
    (hlive : store.objects.get hold.object ≠ none) : Sound (hold :: pool) (hold.acquire store) :=
  (h.acquireStep .exact hold hlive).sound h

def acquireAll (holds : List Hold) (store : Store) : Store :=
  holds.foldl (fun store hold => hold.acquire store) store

theorem acquireAll_steps {array : ArrayRemove} (holds : List Hold)
    (h : Relation.ReflTransGen (CleanStep array) ([], Store.init) (pool, store))
    (hlive : ∀ hold ∈ holds, store.objects.get hold.object ≠ none) :
    Relation.ReflTransGen (CleanStep array) ([], Store.init)
      (holds.reverse ++ pool, acquireAll holds store) := by
  induction holds generalizing pool store with
  | nil => exact h
  | cons hold holds ih =>
      have hstep := (sound_of_steps h).acquireStep array hold (hlive hold List.mem_cons_self)
      rw [List.reverse_cons, List.append_assoc]
      refine ih (h.tail hstep) fun other hmem => ?_
      change (hold.acquire store).objects.get other.object ≠ none
      rw [hold.acquire_eq, Store.modifyObject_get_ne_none]
      exact hlive other (List.mem_cons_of_mem _ hmem)

theorem UnchangedOnError.error (store : Store) {code : APIE} (hcode : code ≠ .success) :
    UnchangedOnError store ((.error code, store) : Except APIE α × Store) := by
  rintro _ ⟨⟩
  exact ⟨hcode, rfl⟩

theorem UnchangedOnError.acquiring {types : List ObjectType} {id : ObjectID} {locked : Bool}
    {acquired : Except APIE ObjectRef × Store}
    {body : ObjectRef → Store → Except APIE α × Store} (h : Sound pool store)
    (hacquires : Acquires types id locked store acquired)
    (hbody : ∀ object, inventoryGetObject types id store = .ok object →
      acquired = (.ok object, Hold.acquire ⟨object, locked⟩ store) →
      Sound (⟨object, locked⟩ :: pool) (Hold.acquire ⟨object, locked⟩ store) →
      UnchangedOnError (Hold.acquire ⟨object, locked⟩ store)
        (body object (Hold.acquire ⟨object, locked⟩ store))) :
    UnchangedOnError store (acquiring array locked acquired body) := by
  rcases hacquires with ⟨code, hcode, rfl⟩ | ⟨object, o, hfound, ho, hreferenced, rfl⟩
  · exact .error store hcode
  · have hlive : store.objects.get (⟨object, locked⟩ : Hold).object ≠ none := by simp [ho]
    exact (hbody object hfound rfl (h.acquire ⟨object, locked⟩ hlive)).cleanup ho hreferenced

theorem acquiring_eq_ok {types : List ObjectType} {id : ObjectID} {locked : Bool} {a : α}
    {acquired : Except APIE ObjectRef × Store}
    {body : ObjectRef → Store → Except APIE α × Store} (h : Sound pool store)
    (hacquires : Acquires types id locked store acquired)
    (hok : acquiring array locked acquired body = (.ok a, other)) :
    ∃ object, inventoryGetObject types id store = .ok object ∧
      Sound (⟨object, locked⟩ :: pool) (Hold.acquire ⟨object, locked⟩ store) ∧
      body object (Hold.acquire ⟨object, locked⟩ store) = (.ok a, other) := by
  rcases hacquires with ⟨code, -, rfl⟩ | ⟨object, o, hfound, ho, -, rfl⟩
  · cases hok
  · have hlive : store.objects.get (⟨object, locked⟩ : Hold).object ≠ none := by simp [ho]
    refine ⟨object, hfound, h.acquire ⟨object, locked⟩ hlive, ?_⟩
    exact Hold.cleanup_eq_ok hok

end Cleanup

section Swap

variable {array : ArrayRemove} {pool next old new : List Hold} {store acquired configured other : Store}
  {object : ObjectRef} {o : Object}

def releaseAll (array : ArrayRemove) (holds : List Hold) (store : Store) : Store :=
  holds.foldl (fun store hold => hold.release array store) store

theorem Store.Accounted.releaseAll (h : store.Accounted ownHolds (old ++ pool)) :
    (releaseAll array old store).Accounted ownHolds pool := by
  induction old generalizing store with
  | nil => exact h
  | cons hold old ih => exact ih h.release

theorem releaseAll_kept (array : ArrayRemove) (holds : List Hold) (store : Store) :
    store.Kept (releaseAll array holds store) ∧ store.NoNewIds (releaseAll array holds store) := by
  induction holds generalizing store with
  | nil => exact ⟨.refl store, .refl store⟩
  | cons hold holds ih =>
      obtain ⟨hkept, hids⟩ := ih (hold.release array store)
      have hruns := @Hold.release_runs array hold store
      exact ⟨(Store.Kept.of_runs hruns).trans hkept, (Store.NoNewIds.of_runs hruns).trans hids⟩

-- How often the objects that were destroyed on the way held something.
def Store.lost (store other : Store) (hold : Hold) : Nat :=
  store.objects.total fun p o => (other.objects.get p).elim (o.payload.holds.count hold) fun _ => 0

theorem Store.claims_eq_add_lost (hkept : store.Kept other) (hids : store.NoNewIds other)
    (hold : Hold) : store.claims ownHolds pool hold =
      other.claims ownHolds pool hold + store.lost other hold := by
  have htotal := Heap.total_eq_add_freed (fun p o => (ownHolds p o.payload).count hold)
    hids.objectNext fun p o' ho' => by
      obtain ⟨o, ho, -, hpayload⟩ := hkept.get ho'
      exact ⟨o, ho, by rw [hpayload]⟩
  have hlost : store.incoming ownHolds hold =
      other.incoming ownHolds hold + store.lost other hold := htotal
  unfold claims
  omega

def Object.shape (o : Object) : ObjectID × ObjectType × Payload := (o.id, o.type, o.payload)

-- Nothing but counts is different.
structure Store.SameShape (store other : Store) : Prop where
  shape : ∀ p, (other.objects.get p).map Object.shape = (store.objects.get p).map Object.shape
  next : other.objects.next = store.objects.next
  objectArray : other.objectArray = store.objectArray
  stockStrings : other.stockStrings = store.stockStrings

namespace Store.SameShape

theorem refl (store : Store) : store.SameShape store := ⟨fun _ => rfl, rfl, rfl, rfl⟩

theorem trans (h : store.SameShape acquired) (h' : acquired.SameShape other) :
    store.SameShape other :=
  ⟨fun p => (h'.shape p).trans (h.shape p), h'.next.trans h.next,
    h'.objectArray.trans h.objectArray, h'.stockStrings.trans h.stockStrings⟩

theorem acquire (store : Store) (hold : Hold) : store.SameShape (hold.acquire store) := by
  rw [hold.acquire_eq]
  refine ⟨fun p => ?_, by simp, by simp, by simp⟩
  rw [Store.modifyObject_objects, Heap.get_modify]
  split_ifs
  · rw [Option.map_map]
    rfl
  · rfl

theorem map {β : Type} (h : store.SameShape other) (f : ObjectID × ObjectType × Payload → β)
    (p : ObjectRef) : (other.objects.get p).map (fun o => f o.shape) =
      (store.objects.get p).map fun o => f o.shape := by
  have hshape := congrArg (Option.map f) (h.shape p)
  rw [Option.map_map, Option.map_map] at hshape
  exact hshape

theorem payload (h : store.SameShape other) (p : ObjectRef) : other.payload p = store.payload p :=
  h.map (·.2.2) p

theorem kept (h : store.SameShape other) : store.Kept other := by
  refine ⟨fun p o' ho' => ?_, h.stockStrings⟩
  have hcore := h.map (·.2) p
  rw [ho'] at hcore
  obtain ⟨o, ho, heq⟩ := Option.map_eq_some_iff.mp hcore.symm
  exact ⟨o, ho, heq.symm⟩

theorem get_eq (h : store.SameShape other) {p : ObjectRef} (ho : store.objects.get p = some o) :
    ∃ o', other.objects.get p = some o' ∧ o'.payload = o.payload := by
  have hpayload := h.payload p
  unfold Store.payload at hpayload
  rw [ho] at hpayload
  exact Option.map_eq_some_iff.mp hpayload

theorem claims (h : store.SameShape other) (pool : List Hold) (hold : Hold) :
    other.claims ownHolds pool hold = store.claims ownHolds pool hold := by
  have htotal := Heap.total_map_congr (f := Object.payload)
    (fun p payload => (ownHolds p payload).count hold) h.next h.payload
  exact congrArg (· + pool.count hold) htotal

theorem inventoryGetObject (h : store.SameShape other) (types : List ObjectType) (id : ObjectID) :
    inventoryGetObject types id other = inventoryGetObject types id store := by
  have hid : other.objectId = store.objectId := funext fun p => h.map (·.1) p
  unfold RedApid.inventoryGetObject
  rw [h.objectArray, hid]

theorem isEmptyString (h : store.SameShape other) (string : ObjectRef) :
    other.isEmptyString string = store.isEmptyString string := by
  unfold Store.isEmptyString
  rw [h.payload]

theorem listEnsureItemType (h : store.SameShape other) (list : ObjectRef) (type : ObjectType) :
    listEnsureItemType list type other = listEnsureItemType list type store := by
  have htype : ∀ p, (other.objects.get p).map (·.type) = (store.objects.get p).map (·.type) :=
    fun p => h.map (·.2.1) p
  unfold RedApid.listEnsureItemType
  simp only [htype]
  have hlist := h.payload list
  unfold Store.payload at hlist
  cases hget : store.objects.get list with
  | none =>
      rw [hget] at hlist
      rw [Option.map_eq_none_iff.mp hlist]
  | some l =>
      rw [hget] at hlist
      obtain ⟨l', hl', hpayload⟩ := Option.map_eq_some_iff.mp hlist
      have hitems : l'.items = l.items := by
        unfold Object.items
        rw [hpayload]
      simp only [hl', hitems]

end Store.SameShape

def Store.setPayload (store : Store) (object : ObjectRef) (payload : Payload) : Store :=
  store.modifyObject object fun o => { o with payload }

-- An object holds others from now on. Every other object has gained one reference and one lock
-- for each new hold on it, and has lost them for each old one and for those of what was
-- destroyed.
structure Swapped (pool : List Hold) (object : ObjectRef) (payload : Payload) (old new : List Hold)
    (store other : Store) : Prop where
  kept : (store.setPayload object payload).Kept other
  accounted : other.Accounted ownHolds pool
  locks : ∀ p o o', store.objects.get p = some o → other.objects.get p = some o' →
    o'.lockCount + (old.count (lockedHold p) +
      (store.setPayload object payload).lost other (lockedHold p)) =
        o.lockCount + new.count (lockedHold p)
  references : ∀ p o o', store.objects.get p = some o → other.objects.get p = some o' →
    o'.internalReferenceCount + (old.count (lockedHold p) + old.count (plainHold p) +
      ((store.setPayload object payload).lost other (lockedHold p) +
        (store.setPayload object payload).lost other (plainHold p))) =
          o.internalReferenceCount + (new.count (lockedHold p) + new.count (plainHold p))

theorem Store.Kept.setPayload (h : store.Kept other) (object : ObjectRef) (payload : Payload) :
    (store.setPayload object payload).Kept (other.setPayload object payload) := by
  refine ⟨fun p o' ho' => ?_, ?_⟩
  · obtain ⟨o₁, ho₁, rfl⟩ := Store.modifyObject_get ho'
    obtain ⟨o₂, ho₂, hcore⟩ := h.objects p o₁ ho₁
    by_cases hp : p = object
    · subst hp
      refine ⟨{ o₂ with payload }, ?_, ?_⟩
      · rw [Store.setPayload, Store.modifyObject_objects, Heap.get_modify_self, ho₂]
        rfl
      · have htype := congrArg Prod.fst hcore
        change o₁.type = o₂.type at htype
        rw [if_pos rfl]
        exact congrArg (·, payload) htype
    · refine ⟨o₂, ?_, ?_⟩
      · rw [Store.setPayload, Store.modifyObject_objects, Heap.get_modify_ne hp, ho₂]
      · rw [if_neg hp]
        exact hcore
  · unfold Store.setPayload
    simp only [Store.modifyObject_stockStrings]
    exact h.stockStrings

-- What was lost depends on the payloads only.
theorem Store.SameShape.lost_setPayload (h : store.SameShape acquired) (object : ObjectRef)
    (payload : Payload) (other : Store) (hold : Hold) :
    (acquired.setPayload object payload).lost other hold =
      (store.setPayload object payload).lost other hold := by
  refine Heap.total_map_congr (f := Object.payload)
    (fun p payload => (other.objects.get p).elim (payload.holds.count hold) fun _ => 0) ?_
    fun p => ?_
  · unfold Store.setPayload
    simp only [Store.modifyObject_objects, Heap.next_modify]
    exact h.next
  · have hpayload := h.payload p
    unfold Store.payload at hpayload
    unfold Store.setPayload
    simp only [Store.modifyObject_objects, Heap.get_modify]
    split_ifs
    · have hsame := congrArg (Option.map fun _ => payload) hpayload
      rw [Option.map_map, Option.map_map] at hsame ⊢
      exact hsame
    · exact hpayload

-- The new holds were acquired before, and the old ones are released afterwards.
theorem Swapped.of_acquired {payload : Payload} (h : store.Accounted ownHolds pool)
    (hacquired : acquired.Accounted ownHolds (new ++ pool)) (hsame : store.SameShape acquired)
    (ho : store.objects.get object = some o)
    (hperm : (payload.holds ++ old).Perm (o.payload.holds ++ new)) :
    Swapped pool object payload old new store
      (releaseAll array old (acquired.setPayload object payload)) := by
  obtain ⟨o', ho', hpayload⟩ := hsame.get_eq ho
  obtain ⟨hreleased, hids⟩ := releaseAll_kept array old (acquired.setPayload object payload)
  have hconfigured : (acquired.setPayload object payload).Accounted ownHolds (old ++ pool) := by
    refine hacquired.modifyPayload ho' (fun _ => rfl) ?_
    unfold ownHolds
    rw [hpayload, ← List.append_assoc, ← List.append_assoc]
    exact hperm.append_right pool
  have hfinal := @Store.Accounted.releaseAll array pool old _ hconfigured
  have hclaims : ∀ hold, (releaseAll array old (acquired.setPayload object payload)).claims ownHolds
      pool hold + (old.count hold + (store.setPayload object payload).lost
        (releaseAll array old (acquired.setPayload object payload)) hold) =
        store.claims ownHolds pool hold + new.count hold := by
    intro hold
    have hlost := @Store.claims_eq_add_lost pool _ _ hreleased hids hold
    rw [hsame.lost_setPayload] at hlost
    have hmodify := Heap.incoming_modify hold (fun p o => ownHolds p o.payload) ho'
      fun o => { o with payload }
    have hbefore := hsame.claims pool hold
    have hcount := hperm.count_eq hold
    rw [List.count_append, List.count_append] at hcount
    unfold Store.claims Store.incoming at hlost hbefore ⊢
    unfold Store.setPayload at hlost ⊢
    simp only [Store.modifyObject_objects, ownHolds, hpayload] at hlost hmodify hbefore hcount ⊢
    omega
  refine ⟨(hsame.kept.setPayload object payload).trans hreleased, hfinal, fun p o₁ o₂ ho₁ ho₂ => ?_,
    fun p o₁ o₂ ho₁ ho₂ => ?_⟩
  · rw [hfinal.locks p o₂ ho₂, h.locks p o₁ ho₁]
    exact hclaims (lockedHold p)
  · rw [hfinal.references p o₂ ho₂, h.references p o₁ ho₁]
    have hlocked := hclaims (lockedHold p)
    have hplain := hclaims (plainHold p)
    omega

end Swap

end RedApid

import RedApid.Graph
import RedApid.Store.Holders

namespace RedApid

open Memory

-- List `list` has `item` as an item.
def Store.Contains (store : Store) (list item : ObjectRef) : Prop :=
  ∃ l, store.objects.get list = some l ∧ item ∈ l.items

section Lists

variable {array : ArrayRemove} {pool : List Hold} {store : Store} {list : ObjectRef} {l : Object}

theorem inventoryGetObject_ok {types : List ObjectType} {id : ObjectID} {object : ObjectRef}
    (h : inventoryGetObject types id store = .ok object) :
    (∃ type ∈ types, object ∈ store.objectArray type) ∧ store.objectId object = some id := by
  unfold inventoryGetObject at h
  split at h
  · cases h
  · rename_i found hfound
    cases h
    exact ⟨List.mem_flatMap.mp (List.mem_of_find?_eq_some hfound),
      by simpa using List.find?_some hfound⟩

-- A new item is another live object, and the list is not locked.
theorem listAppendTo_cases (append : Option APIError) (itemId : ObjectID)
    (hl : store.objects.get list = some l) :
    let result := listAppendTo append list itemId store
    (result.1 ≠ .success ∧ result.2 = store) ∨
      ∃ item, l.lockCount = 0 ∧ item ≠ list ∧ store.objects.get item ≠ none ∧
        result = (.success, ((lockedHold item).acquire store).appendItem list item) := by
  simp only [listAppendTo, hl]
  split
  · exact Or.inl ⟨nofun, rfl⟩
  rename_i hself
  split
  · exact Or.inl ⟨nofun, rfl⟩
  rename_i hlock
  split
  · exact Or.inl ⟨nofun, rfl⟩
  cases hitem : inventoryGetObject ObjectType.all itemId store with
  | error code =>
      refine Or.inl ⟨?_, rfl⟩
      unfold inventoryGetObject at hitem
      split at hitem
      · cases hitem
        exact nofun
      · cases hitem
  | ok item =>
      cases append with
      | some code => exact Or.inl ⟨code.property, rfl⟩
      | none =>
          obtain ⟨-, hid⟩ := inventoryGetObject_ok hitem
          refine Or.inr ⟨item, by omega, ?_, ?_, rfl⟩
          · rintro rfl
            simp only [Store.objectId, hl, Option.map_some, Option.some.injEq] at hid
            exact hself hid.symm
          · intro hnone
            simp [Store.objectId, hnone] at hid

theorem listRemoveFrom_cases (index : UInt16) (hl : store.objects.get list = some l) :
    let result := listRemoveFrom array list index store
    (result.1 ≠ .success ∧ result.2 = store) ∨
      ∃ item, l.lockCount = 0 ∧ l.items[index.toNat]? = some item ∧
        result = (.success, ((lockedHold item).release array store).removeItem list index.toNat) := by
  simp only [listRemoveFrom, hl]
  split
  · exact Or.inl ⟨nofun, rfl⟩
  rename_i hlock
  cases hitem : l.items[index.toNat]? with
  | none => exact Or.inl ⟨nofun, rfl⟩
  | some item => exact Or.inr ⟨item, by omega, rfl, rfl⟩

theorem contains_iff {item : ObjectRef} :
    store.Contains list item ↔
      ∃ items, (∃ l, store.objects.get list = some l ∧ l.payload = .list items) ∧ item ∈ items := by
  constructor
  · rintro ⟨l, hl, hitem⟩
    unfold Object.items at hitem
    cases hpayload : l.payload with
    | list items =>
        rw [hpayload] at hitem
        exact ⟨items, ⟨l, hl, hpayload⟩, hitem⟩
    | string _ | file _ | directory _ | process _ | program _ =>
        rw [hpayload] at hitem
        exact absurd hitem List.not_mem_nil
  · rintro ⟨items, ⟨l, hl, hpayload⟩, hitem⟩
    refine ⟨l, hl, ?_⟩
    rw [Object.items, hpayload]
    exact hitem

theorem payload_eq_list (h : l.payload.type = .list) : l.payload = .list l.items := by
  unfold Object.items
  cases hpayload : l.payload with
  | list items => rfl
  | string _ | file _ | directory _ | process _ | program _ =>
      rw [hpayload] at h
      cases h

-- A list without one of its items holds all but that one.
theorem removed_perm {item : ObjectRef} {index : Nat} (pool : List Hold)
    (hlist : l.payload.type = .list) (hitem : l.items[index]? = some item) :
    ((l.payload.mapItems (·.eraseIdx index)).holds ++ lockedHold item :: pool).Perm
      (l.payload.holds ++ pool) := by
  obtain ⟨hindex, hget⟩ := List.getElem?_eq_some_iff.mp hitem
  have herase := List.getElem_cons_eraseIdx_perm hindex
  rw [hget] at herase
  rw [payload_eq_list hlist]
  exact List.perm_middle.trans ((herase.map lockedHold).append_right pool)

-- An item is held, and locked, by its list.
theorem Store.Contains.mem_holds {item : ObjectRef} (h : store.Contains list item) :
    ∃ l, store.objects.get list = some l ∧ lockedHold item ∈ l.payload.holds := by
  obtain ⟨items, ⟨l, hl, hpayload⟩, hitem⟩ := contains_iff.mp h
  refine ⟨l, hl, ?_⟩
  rw [hpayload]
  exact List.mem_map_of_mem hitem

theorem Store.claims_pos (pool : List Hold) {p : ObjectRef} {o : Object}
    (ho : store.objects.get p = some o) {hold : Hold} (hmem : hold ∈ o.payload.holds) :
    0 < store.claims ownHolds pool hold :=
  Nat.add_pos_left ((Heap.incoming_pos_iff hold).mpr ⟨p, o, ho, hmem⟩) _

theorem Store.Accounted.item_locked {item : ObjectRef} (h : store.Accounted ownHolds pool)
    (hcontains : store.Contains list item) :
    ∃ o, store.objects.get item = some o ∧ 0 < o.lockCount := by
  obtain ⟨l, hl, hmem⟩ := hcontains.mem_holds
  have hpos := Store.claims_pos pool hl hmem
  obtain ⟨o, ho⟩ := Option.ne_none_iff_exists'.mp (h.live _ hpos)
  refine ⟨o, ho, ?_⟩
  rw [h.locks _ o ho]
  exact hpos

-- A reference that is no lock never goes to a list.
def Store.PlainApart (store : Store) : Prop :=
  ∀ p o, store.objects.get p = some o → ∀ hold ∈ o.payload.holds, hold.locked = false →
    ∀ q, store.objects.get hold.object = some q → q.payload.type ≠ .list

-- Nobody holds a list that is not locked, except perhaps outside of the objects.
theorem Store.Accounted.apart_of_unlocked (h : store.Accounted ownHolds pool)
    (hplain : store.PlainApart) (hl : store.objects.get list = some l)
    (hlist : l.payload.type = .list) (hunlocked : l.lockCount = 0) :
    store.Apart fun p => p = list := by
  have hzero : store.claims ownHolds pool (lockedHold list) = 0 := by
    rw [← h.locks list l hl, hunlocked]
  intro p o ho _ hold hmem hsame
  change hold.object = list at hsame
  by_cases hlocked : hold.locked = true
  · have hhold : hold = lockedHold list := by
      rw [lockedHold, ← hsame, ← hlocked]
    have hpos := Store.claims_pos pool ho hmem
    rw [hhold] at hpos
    omega
  · refine hplain p o ho hold hmem (Bool.eq_false_iff.mpr hlocked) l ?_ hlist
    rw [hsame, hl]

end Lists

section Steps

-- The steps of sessions, of lists and of programs, processes and others that keep
-- references to objects, either in their payload or outside of all objects, in the pool.
inductive HolderStep (array : ArrayRemove) : List Hold × Store → List Hold × Store → Prop where
  | perm (store : Store) {pool next : List Hold} (perm : pool.Perm next) :
      HolderStep array (pool, store) (next, store)
  | sessionCreate (pool : List Hold) (store : Store) (outcome : SessionCreation)
      (lifetime : UInt32) :
      HolderStep array (pool, store) (pool, (sessionCreate outcome lifetime store).2)
  | sessionExpire (pool : List Hold) (store : Store) (session : SessionRef) :
      HolderStep array (pool, store) (pool, (sessionExpire array session store).2)
  | sessionHandleExpire (pool : List Hold) (store : Store) (session : SessionRef) :
      HolderStep array (pool, store) (pool, sessionHandleExpire array session store)
  | addExternalReference (pool : List Hold) (store : Store) (calloc : Bool) (object : ObjectRef)
      (session : SessionRef) :
      HolderStep array (pool, store)
        (pool, (objectAddExternalReference calloc object session store).2)
  | objectRelease (pool : List Hold) (store : Store) (object : ObjectRef) (session : SessionRef) :
      HolderStep array (pool, store) (pool, (objectRelease array object session store).2)
  | created (pool : List Hold) (store : Store) (outcome : ObjectCreation) (payload : Payload)
      (session : Option SessionRef) (flags : UInt32) (object : ObjectRef)
      (noItems : payload.items = [])
      (plain : ∀ hold ∈ payload.holds, hold.locked = false →
        ∀ q, store.objects.get hold.object = some q → q.payload.type ≠ .list)
      (ok : (store.createObject outcome payload session flags).1 = .ok object) :
      HolderStep array (payload.holds ++ pool, store)
        (createdHolds flags object ++ pool,
          (store.createObject outcome payload session flags).2)
  | notCreated (pool : List Hold) (store : Store) (outcome : ObjectCreation) (payload : Payload)
      (session : Option SessionRef) (flags : UInt32) (code : APIE)
      (error : (store.createObject outcome payload session flags).1 = .error code) :
      HolderStep array (payload.holds ++ pool, store)
        (payload.holds ++ pool, (store.createObject outcome payload session flags).2)
  | acquire (pool : List Hold) (store : Store) (hold : Hold)
      (live : store.objects.get hold.object ≠ none) :
      HolderStep array (pool, store) (hold :: pool, hold.acquire store)
  | release (pool : List Hold) (store : Store) (hold : Hold) :
      HolderStep array (hold :: pool, store) (pool, hold.release array store)
  | setPayload (pool next : List Hold) (store : Store) (object : ObjectRef) (o : Object)
      (payload : Payload) (get : store.objects.get object = some o)
      (noList : o.payload.type ≠ .list) (type : payload.type = o.payload.type)
      (plain : ∀ hold ∈ payload.holds, hold.locked = false →
        ∀ q, store.objects.get hold.object = some q → q.payload.type ≠ .list)
      (perm : (payload.holds ++ next).Perm (o.payload.holds ++ pool)) :
      HolderStep array (pool, store) (next, store.modifyObject object fun o => { o with payload })
  | listAppendTo (pool : List Hold) (store : Store) (append : Option APIError) (list : ObjectRef)
      (itemId : ObjectID) (l : Object) (get : store.objects.get list = some l)
      (isList : l.payload.type = .list) :
      HolderStep array (pool, store) (pool, (listAppendTo append list itemId store).2)
  | listRemoveFrom (pool : List Hold) (store : Store) (list : ObjectRef) (index : UInt16)
      (l : Object) (get : store.objects.get list = some l) (isList : l.payload.type = .list) :
      HolderStep array (pool, store) (pool, (listRemoveFrom array list index store).2)

structure Store.Shaped (store : Store) : Prop where
  plainApart : store.PlainApart
  acyclic : Graph.Acyclic store.Contains

-- What holds between two steps.
structure Holding (pool : List Hold) (store : Store) : Prop where
  accounted : store.Accounted ownHolds pool
  shaped : store.Shaped

variable {array : ArrayRemove} {pool next : List Hold} {store other : Store}

namespace Store.Shaped

theorem init : Store.init.Shaped := by
  refine ⟨?_, ?_⟩
  · intro p o ho
    simp [Store.init] at ho
  · intro a hcycle
    obtain ⟨b, -, l, hl, -⟩ := Relation.TransGen.tail'_iff.mp hcycle
    simp [Store.init] at hl

-- Objects keep their payload, and none is new.
theorem of_kept (h : store.Shaped) (hkept : store.Kept other) : other.Shaped := by
  refine ⟨?_, h.acyclic.mono ?_⟩
  · intro p o ho hold hmem hlocked q hq
    obtain ⟨o', ho', -, hpayload⟩ := hkept.get ho
    obtain ⟨q', hq', -, hpayload'⟩ := hkept.get hq
    rw [hpayload']
    exact h.plainApart p o' ho' hold (hpayload ▸ hmem) hlocked q' hq'
  · rintro list item ⟨l, hl, hitem⟩
    obtain ⟨l', hl', -, hpayload⟩ := hkept.get hl
    refine ⟨l', hl', ?_⟩
    unfold Object.items at hitem ⊢
    rwa [← hpayload]

-- The items of a list change, and of no other.
theorem setItems {list : ObjectRef} {l : Object} (h : store.Shaped)
    (hl : store.objects.get list = some l) (hlist : l.payload.type = .list)
    (change : List ObjectRef → List ObjectRef)
    (hacyclic : Graph.Acyclic (store.modifyObject list fun l =>
      { l with payload := l.payload.mapItems change }).Contains) :
    (store.modifyObject list fun l => { l with payload := l.payload.mapItems change }).Shaped := by
  refine ⟨?_, hacyclic⟩
  have htype : ∀ payload : Payload, (payload.mapItems change).type = payload.type := by
    intro payload
    cases payload <;> rfl
  intro p o ho hold hmem hlocked q hq
  obtain ⟨o', ho', rfl⟩ := Store.modifyObject_get ho
  obtain ⟨q', hq', rfl⟩ := Store.modifyObject_get hq
  have hsame : (if hold.object = list then { q' with payload := q'.payload.mapItems change }
      else q').payload.type = q'.payload.type := by
    split
    · exact htype q'.payload
    · rfl
  rw [hsame]
  by_cases hp : p = list
  · subst hp
    rw [if_pos rfl] at hmem
    -- all references of a list are locks
    have ho'' : o' = l := Option.some.inj (ho'.symm.trans hl)
    subst ho''
    rw [payload_eq_list hlist] at hmem
    obtain ⟨item, -, rfl⟩ := List.mem_map.mp hmem
    cases hlocked
  · rw [if_neg hp] at hmem
    exact h.plainApart p o' ho' hold hmem hlocked q' hq'

end Store.Shaped

namespace Holding

theorem init : Holding [] Store.init := ⟨.init ownHolds, .init⟩

theorem of_kept (h : Holding pool store) (hkept : store.Kept other)
    (haccounted : other.Accounted ownHolds next) : Holding next other :=
  ⟨haccounted, h.shaped.of_kept hkept⟩

theorem keepsHolds (h : Holding pool store) (hkeeps : store.KeepsHolds other) :
    Holding pool other :=
  h.of_kept hkeeps.kept (hkeeps.accounted pool h.accounted)

-- What an object holds is alive, so it is not the new object.
theorem ne_next (h : store.Accounted ownHolds pool) {p : ObjectRef} {o : Object}
    (ho : store.objects.get p = some o) {hold : Hold} (hmem : hold ∈ o.payload.holds) :
    hold.object ≠ store.objects.next := by
  intro hnext
  refine h.live hold (Store.claims_pos pool ho hmem) ?_
  rw [hnext]
  exact Heap.get_eq_none_of_next_le _ (Nat.le_refl _)

-- A new object without items does not change the containment.
theorem createObject (outcome : ObjectCreation) (payload : Payload) (session : Option SessionRef)
    (flags : UInt32) (h : Holding (payload.holds ++ pool) store) (hitems : payload.items = [])
    (hplain : ∀ hold ∈ payload.holds, hold.locked = false →
      ∀ q, store.objects.get hold.object = some q → q.payload.type ≠ .list)
    (haccounted : (store.createObject outcome payload session flags).2.Accounted ownHolds next) :
    Holding next (store.createObject outcome payload session flags).2 := by
  have hcases := fun p o => createObject_objects outcome payload session flags store (p := p) (o := o)
  have hlive : ∀ hold ∈ payload.holds, hold.object ≠ store.objects.next := by
    intro hold hmem hnext
    refine h.accounted.live_of_mem (List.mem_append_left _ hmem) ?_
    rw [hnext]
    exact Heap.get_eq_none_of_next_le _ (Nat.le_refl _)
  refine ⟨haccounted, ?_, h.shaped.acyclic.mono ?_⟩
  · intro p o ho hold hmem hlocked q hq
    have hold_ne : hold.object ≠ store.objects.next := by
      rcases hcases p o ho with ⟨-, hcore, -⟩ | ⟨o', ho', hcore⟩
      · have hpayload : o.payload = payload := congrArg Prod.snd hcore
        exact hlive hold (hpayload ▸ hmem)
      · have hpayload : o.payload = o'.payload := congrArg Prod.snd hcore
        exact ne_next h.accounted ho' (hpayload ▸ hmem)
    rcases hcases _ q hq with ⟨hnext, -⟩ | ⟨q', hq', hcore'⟩
    · exact absurd hnext hold_ne
    have hpayload' : q.payload = q'.payload := congrArg Prod.snd hcore'
    rw [hpayload']
    rcases hcases p o ho with ⟨-, hcore, -⟩ | ⟨o', ho', hcore⟩
    · have hpayload : o.payload = payload := congrArg Prod.snd hcore
      exact hplain hold (hpayload ▸ hmem) hlocked q' hq'
    · have hpayload : o.payload = o'.payload := congrArg Prod.snd hcore
      exact h.shaped.plainApart p o' ho' hold (hpayload ▸ hmem) hlocked q' hq'
  · rintro list item ⟨l, hl, hitem⟩
    unfold Object.items at hitem
    rcases hcases list l hl with ⟨-, hcore, -⟩ | ⟨l', hl', hcore⟩
    · have hpayload : l.payload = payload := congrArg Prod.snd hcore
      rw [hpayload, hitems] at hitem
      exact absurd hitem List.not_mem_nil
    · have hpayload : l.payload = l'.payload := congrArg Prod.snd hcore
      rw [hpayload] at hitem
      exact ⟨l', hl', hitem⟩

-- The payload of an object that is no list may change.
theorem setPayload {object : ObjectRef} {o : Object} {payload : Payload}
    (h : Holding pool store) (ho : store.objects.get object = some o)
    (hlist : o.payload.type ≠ .list) (htype : payload.type = o.payload.type)
    (hplain : ∀ hold ∈ payload.holds, hold.locked = false →
      ∀ q, store.objects.get hold.object = some q → q.payload.type ≠ .list)
    (hperm : (payload.holds ++ next).Perm (o.payload.holds ++ pool)) :
    Holding next (store.modifyObject object fun o => { o with payload }) := by
  have hget : ∀ p o', (store.modifyObject object fun o => { o with payload }).objects.get p = some o' →
      (p = object ∧ o'.payload = payload) ∨ store.objects.get p = some o' := by
    intro p o' ho'
    obtain ⟨o'', ho'', rfl⟩ := Store.modifyObject_get ho'
    by_cases hp : p = object
    · rw [if_pos hp]
      exact Or.inl ⟨hp, rfl⟩
    · rw [if_neg hp]
      exact Or.inr ho''
  have htypes : ∀ p q', (store.modifyObject object fun o => { o with payload }).objects.get p =
      some q' → ∃ q, store.objects.get p = some q ∧ q'.payload.type = q.payload.type := by
    intro p q' hq'
    rcases hget p q' hq' with ⟨rfl, hpayload⟩ | hq
    · exact ⟨o, ho, by rw [hpayload, htype]⟩
    · exact ⟨q', hq, rfl⟩
  refine ⟨h.accounted.modifyPayload ho (fun _ => rfl) hperm, ?_, h.shaped.acyclic.mono ?_⟩
  · intro p o' ho' hold hmem hlocked q' hq'
    obtain ⟨q, hq, hsame⟩ := htypes _ q' hq'
    rw [hsame]
    rcases hget p o' ho' with ⟨-, hpayload⟩ | ho'
    · exact hplain hold (hpayload ▸ hmem) hlocked q hq
    · exact h.shaped.plainApart p o' ho' hold hmem hlocked q hq
  · rintro list item ⟨l, hl, hitem⟩
    rcases hget list l hl with ⟨-, hpayload⟩ | hl
    · -- the changed object has no items
      unfold Object.items at hitem
      rw [hpayload] at hitem
      rw [← htype] at hlist
      cases payload with
      | list items => exact absurd rfl hlist
      | string _ | file _ | directory _ | process _ | program _ =>
          exact absurd hitem List.not_mem_nil
    · exact ⟨l, hl, hitem⟩

theorem listAppendTo {list : ObjectRef} {l : Object} (h : Holding pool store)
    (append : Option APIError) (itemId : ObjectID) (hl : store.objects.get list = some l)
    (hlist : l.payload.type = .list) : Holding pool (listAppendTo append list itemId store).2 := by
  rcases listAppendTo_cases append itemId hl with ⟨-, hsame⟩ | ⟨item, hunlocked, hne, hlive, happend⟩
  · rw [hsame]
    exact h
  have hacquired : Holding (lockedHold item :: pool) ((lockedHold item).acquire store) := by
    refine h.of_kept ?_ (h.accounted.acquire (lockedHold item) hlive)
    rw [Hold.acquire_eq]
    exact .modifyObject store item fun _ => rfl
  have hl' : ((lockedHold item).acquire store).objects.get list = some l := by
    have hother : list ≠ (lockedHold item).object := hne.symm
    rw [Hold.acquire_eq, Store.modifyObject_objects, Heap.get_modify_ne hother, hl]
  rw [happend]
  refine ⟨?_, hacquired.shaped.setItems hl' hlist (· ++ [item]) ?_⟩
  · refine hacquired.accounted.modifyPayload hl' (fun _ => rfl) ?_
    rw [payload_eq_list hlist]
    simp only [ownHolds, Payload.mapItems, Payload.holds, List.map_append, List.map_cons,
      List.map_nil, List.append_assoc, List.cons_append, List.nil_append]
    exact List.Perm.refl _
  · -- the list is not locked, so it is nobody's item
    refine hacquired.shaped.acyclic.insert hne.symm ?_ (b := item) ?_
    · intro other hcontains
      obtain ⟨o, ho, hlocked⟩ := hacquired.accounted.item_locked hcontains
      rw [hl'] at ho
      cases ho
      omega
    · rintro x y ⟨o, ho, hitem⟩
      obtain ⟨o', ho', rfl⟩ := Store.modifyObject_get ho
      by_cases hx : x = list
      · subst hx
        rw [hl'] at ho'
        cases ho'
        rw [if_pos rfl, Object.items, payload_eq_list hlist] at hitem
        rcases List.mem_append.mp hitem with hitem | hitem
        · exact Or.inl ⟨l, hl', hitem⟩
        · exact Or.inr ⟨rfl, List.mem_singleton.mp hitem⟩
      · rw [if_neg hx] at hitem
        exact Or.inl ⟨o', ho', hitem⟩

theorem listRemoveFrom {list : ObjectRef} {l : Object} (h : Holding pool store) (index : UInt16)
    (hl : store.objects.get list = some l) (hlist : l.payload.type = .list) :
    Holding pool (listRemoveFrom array list index store).2 := by
  rcases @listRemoveFrom_cases array store list l index hl with
    ⟨-, hsame⟩ | ⟨item, hunlocked, hitem, hremove⟩
  · rw [hsame]
    exact h
  have hapart := h.accounted.apart_of_unlocked h.shaped.plainApart hl hlist hunlocked
  have hcontains : store.Contains list item := ⟨l, hl, List.mem_of_getElem? hitem⟩
  have hne : item ≠ list := by
    rintro rfl
    exact h.shaped.acyclic item (.single hcontains)
  obtain ⟨haccounted, hspares⟩ := @Store.Accounted.releaseFrom array _ pool store (lockedHold item)
    list l (fun l => { l with payload := l.payload.mapItems (·.eraseIdx index.toNat) }) _
    h.accounted hl (fun _ => rfl) (fun _ => rfl) (removed_perm pool hlist hitem) hapart rfl hne
  rw [hremove]
  have hkept : store.Kept ((lockedHold item).release array store) :=
    .of_runs ((lockedHold item).release_runs store)
  obtain ⟨l', hl', hinternals⟩ : ∃ l', ((lockedHold item).release array store).objects.get list =
      some l' ∧ l'.internals = l.internals := by
    have hget := hspares list rfl
    rw [hl] at hget
    exact Option.map_eq_some_iff.mp hget
  have hpayload : l'.payload = l.payload := by
    have := congrArg Object.payload hinternals
    exact this
  have hshaped := h.shaped.of_kept hkept
  refine ⟨haccounted, hshaped.setItems hl' (hpayload ▸ hlist) (·.eraseIdx index.toNat)
    (hshaped.acyclic.mono ?_)⟩
  rintro x y ⟨o, ho, hy⟩
  obtain ⟨o', ho', rfl⟩ := Store.modifyObject_get ho
  refine ⟨o', ho', ?_⟩
  by_cases hx : x = list
  · rw [if_pos hx] at hy
    unfold Object.items at hy ⊢
    cases hpayload : o'.payload with
    | list items =>
        simp only [hpayload] at hy
        exact List.mem_of_mem_eraseIdx hy
    | string _ | file _ | directory _ | process _ | program _ =>
        simp only [hpayload] at hy
        exact absurd hy List.not_mem_nil
  · rwa [if_neg hx] at hy

end Holding

theorem HolderStep.holding (hstep : HolderStep array (pool, store) (next, other))
    (h : Holding pool store) : Holding next other := by
  cases hstep with
  | perm _ hperm => exact ⟨h.accounted.perm hperm, h.shaped⟩
  | sessionCreate _ _ outcome lifetime => exact h.keepsHolds (.sessionCreate outcome lifetime store)
  | sessionExpire _ _ session => exact h.keepsHolds (.sessionExpireHelper session store)
  | sessionHandleExpire _ _ session => exact h.keepsHolds (.sessionExpireHelper session store)
  | addExternalReference _ _ calloc object session =>
      exact h.keepsHolds (.of_sameInternals (.objectAddExternalReference calloc object session store))
  | objectRelease _ _ object session => exact h.keepsHolds (.objectRelease object session store)
  | created pool _ outcome payload session flags object hitems hplain hok =>
      have haccounted := h.accounted.createObject outcome session flags
      exact h.createObject outcome payload session flags hitems hplain (haccounted.1 object hok).2
  | notCreated pool _ outcome payload session flags code herror =>
      exact h.of_kept (.createObject_error herror)
        ((h.accounted.createObject outcome session flags).2 code herror)
  | acquire _ _ hold hlive =>
      refine h.of_kept ?_ (h.accounted.acquire hold hlive)
      rw [Hold.acquire_eq]
      exact .modifyObject store hold.object fun _ => rfl
  | release _ _ hold => exact h.of_kept (.of_runs (hold.release_runs store)) h.accounted.release
  | setPayload _ _ _ object o payload hget hlist htype hplain hperm =>
      exact h.setPayload hget hlist htype hplain hperm
  | listAppendTo _ _ append list itemId l hget hlist =>
      exact h.listAppendTo append itemId hget hlist
  | listRemoveFrom _ _ list index l hget hlist => exact h.listRemoveFrom index hget hlist

theorem holding_of_steps
    (h : Relation.ReflTransGen (HolderStep array) ([], Store.init) (pool, store)) :
    Holding pool store := by
  generalize hlast : (pool, store) = last at h
  induction h generalizing pool store with
  | refl =>
      cases hlast
      exact .init
  | tail _ hstep ih =>
      subst hlast
      exact hstep.holding (ih rfl)

variable (array) in
-- No list is inside itself, and the recursion through the destroy functions ends, whatever
-- object it starts with: it goes no deeper than there are internal references.
theorem containment_acyclic
    (h : Relation.ReflTransGen (HolderStep array) ([], Store.init) (pool, store)) :
    (∀ list, ¬ Relation.TransGen store.Contains list list) ∧
      ∀ object, Runs array [.removeObject object] store (store.remove array object) ∧
        (store.remove array object).overrun = store.overrun :=
  ⟨(holding_of_steps h).shaped.acyclic, fun object =>
    ⟨store.remove_runs object, (store.remove_runs object).overrun_eq⟩⟩

-- A client puts its second list into the first one.
def nestedStore : Store :=
  (listAppendTo none 0 2 (oneListStore.createObject ⟨true, none⟩ (.list []) (some 0)
    OBJECT_CREATE_FLAG_EXTERNAL).2).2

theorem nestedStore_acyclic :
    (∀ list, ¬ Relation.TransGen nestedStore.Contains list list) ∧
      ∀ object, Runs .byIndex [.removeObject object] nestedStore
          (nestedStore.remove .byIndex object) ∧
        (nestedStore.remove .byIndex object).overrun = nestedStore.overrun :=
  containment_acyclic .byIndex
    ((((Relation.ReflTransGen.refl.tail
      (.sessionCreate [] _ ⟨true, none, none, none⟩ 10)).tail
      (.created [] _ ⟨true, none⟩ (.list []) (some 0) OBJECT_CREATE_FLAG_EXTERNAL 0 rfl nofun rfl)).tail
      (.created [] _ ⟨true, none⟩ (.list []) (some 0) OBJECT_CREATE_FLAG_EXTERNAL 1 rfl nofun rfl)).tail
      (.listAppendTo [] _ none 0 2 _ rfl rfl))

end Steps

end RedApid

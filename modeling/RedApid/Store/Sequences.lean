import RedApid.Store.Soundness

namespace RedApid

open Memory

def listGetLength (list : ObjectRef) (store : Store) : APIE × UInt16 :=
  match store.objects.get list with
  | none => (.internalError, 0)
  | some l => (.success, UInt16.ofNat l.items.length)

section Steps

-- The operations that clients call without a reference to any list.
def Operation.onClients : Operation → Bool
  | .sessionCreate _ _ | .addExternalReference _ _ _ | .release _ _ | .sessionExpire _
  | .sessionHandleExpire _ => true
  | _ => false

-- The steps of sessions and of all others that keep references, apart from the calls that
-- change the items of a list.
inductive OtherStep (array : ArrayRemove) : List Hold × Store → List Hold × Store → Prop where
  | perm (store : Store) {pool next : List Hold} (perm : pool.Perm next) :
      OtherStep array (pool, store) (next, store)
  | client (pool : List Hold) (store : Store) (operation : Operation)
      (onClients : operation.onClients = true) :
      OtherStep array (pool, store) (pool, operation.run array store)
  | created (pool : List Hold) (store : Store) (outcome : ObjectCreation) (payload : Payload)
      (session : Option SessionRef) (flags : UInt32) (object : ObjectRef)
      (noItems : payload.items = [])
      (plain : ∀ hold ∈ payload.holds, hold.locked = false →
        ∀ q, store.objects.get hold.object = some q → q.payload.type ≠ .list)
      (ok : (store.createObject outcome payload session flags).1 = .ok object) :
      OtherStep array (payload.holds ++ pool, store)
        (createdHolds flags object ++ pool, (store.createObject outcome payload session flags).2)
  | notCreated (pool : List Hold) (store : Store) (outcome : ObjectCreation) (payload : Payload)
      (session : Option SessionRef) (flags : UInt32) (code : APIE)
      (error : (store.createObject outcome payload session flags).1 = .error code) :
      OtherStep array (payload.holds ++ pool, store)
        (payload.holds ++ pool, (store.createObject outcome payload session flags).2)
  | acquire (pool : List Hold) (store : Store) (hold : Hold)
      (live : store.objects.get hold.object ≠ none) :
      OtherStep array (pool, store) (hold :: pool, hold.acquire store)
  | release (pool : List Hold) (store : Store) (hold : Hold) :
      OtherStep array (hold :: pool, store) (pool, hold.release array store)
  | setPayload (pool next : List Hold) (store : Store) (object : ObjectRef) (o : Object)
      (payload : Payload) (get : store.objects.get object = some o)
      (noList : o.payload.type ≠ .list) (type : payload.type = o.payload.type)
      (plain : ∀ hold ∈ payload.holds, hold.locked = false →
        ∀ q, store.objects.get hold.object = some q → q.payload.type ≠ .list)
      (perm : (payload.holds ++ next).Perm (o.payload.holds ++ pool)) :
      OtherStep array (pool, store) (next, store.modifyObject object fun o => { o with payload })

-- The sequences that the calls on lists make up.
abbrev Sequences := ObjectRef → List ObjectRef

def Sequences.append (sequences : Sequences) (list item : ObjectRef) : Sequences :=
  Function.update sequences list (sequences list ++ [item])

def Sequences.remove (sequences : Sequences) (list : ObjectRef) (index : Nat) : Sequences :=
  Function.update sequences list ((sequences list).eraseIdx index)

-- Every successful call does to the sequence of its list what it says, nothing else does.
inductive SequenceStep (array : ArrayRemove) :
    (List Hold × Store) × Sequences → (List Hold × Store) × Sequences → Prop where
  | appended (pool : List Hold) (store : Store) (sequences : Sequences) (append : Option APIError)
      (list item : ObjectRef) (itemId : ObjectID) (l : Object)
      (get : store.objects.get list = some l) (isList : l.payload.type = .list)
      (found : inventoryGetObject ObjectType.all itemId store = .ok item)
      (success : (listAppendTo append list itemId store).1 = .success) :
      SequenceStep array ((pool, store), sequences)
        ((pool, (listAppendTo append list itemId store).2), sequences.append list item)
  | notAppended (pool : List Hold) (store : Store) (sequences : Sequences)
      (append : Option APIError) (list : ObjectRef) (itemId : ObjectID) (l : Object)
      (get : store.objects.get list = some l) (isList : l.payload.type = .list)
      (failure : (listAppendTo append list itemId store).1 ≠ .success) :
      SequenceStep array ((pool, store), sequences)
        ((pool, (listAppendTo append list itemId store).2), sequences)
  | removed (pool : List Hold) (store : Store) (sequences : Sequences) (list : ObjectRef)
      (index : UInt16) (l : Object) (get : store.objects.get list = some l)
      (isList : l.payload.type = .list)
      (success : (listRemoveFrom array list index store).1 = .success) :
      SequenceStep array ((pool, store), sequences)
        ((pool, (listRemoveFrom array list index store).2), sequences.remove list index.toNat)
  | notRemoved (pool : List Hold) (store : Store) (sequences : Sequences) (list : ObjectRef)
      (index : UInt16) (l : Object) (get : store.objects.get list = some l)
      (isList : l.payload.type = .list)
      (failure : (listRemoveFrom array list index store).1 ≠ .success) :
      SequenceStep array ((pool, store), sequences)
        ((pool, (listRemoveFrom array list index store).2), sequences)
  | other (pool next : List Hold) (store other : Store) (sequences : Sequences)
      (step : OtherStep array (pool, store) (next, other)) :
      SequenceStep array ((pool, store), sequences) ((next, other), sequences)

end Steps

section Refinement

variable {array : ArrayRemove} {pool next : List Hold} {store other : Store}
  {sequences after : Sequences}

theorem OtherStep.holderStep (hstep : OtherStep array (pool, store) (next, other)) :
    HolderStep array (pool, store) (next, other) := by
  cases hstep with
  | perm _ hperm => exact .perm store hperm
  | client _ _ operation honClients =>
      cases operation with
      | sessionCreate outcome lifetime => exact .sessionCreate pool store outcome lifetime
      | addExternalReference calloc object session =>
          exact .addExternalReference pool store calloc object session
      | release object session => exact .objectRelease pool store object session
      | sessionExpire session => exact .sessionExpire pool store session
      | sessionHandleExpire session => exact .sessionHandleExpire pool store session
      | removeExternalReference | addInternalReference | removeInternalReference | lock | unlock
      | setPayload => cases honClients
  | created pool _ outcome payload session flags object hitems hplain hok =>
      exact .created pool store outcome payload session flags object hitems hplain hok
  | notCreated pool _ outcome payload session flags code herror =>
      exact .notCreated pool store outcome payload session flags code herror
  | acquire _ _ hold hlive => exact .acquire pool store hold hlive
  | release _ _ hold => exact .release next store hold
  | setPayload _ _ _ object o payload hget hlist htype hplain hperm =>
      exact .setPayload pool next store object o payload hget hlist htype hplain hperm

-- A list that is there afterwards has the items from before, or is new and empty.
theorem OtherStep.items (hstep : OtherStep array (pool, store) (next, other)) {list : ObjectRef}
    {l : Object} (hl : other.objects.get list = some l) (hlist : l.payload.type = .list) :
    (∃ l', store.objects.get list = some l' ∧ l'.payload.type = .list ∧ l.items = l'.items) ∨
      list = store.objects.next ∧ l.items = [] := by
  have hkeeps : ∀ {other : Store} {l : Object}, store.Kept other →
      other.objects.get list = some l → l.payload.type = .list →
      ∃ l', store.objects.get list = some l' ∧ l'.payload.type = .list ∧ l.items = l'.items := by
    intro other l hkept hl hlist
    obtain ⟨l', hl', -, hpayload⟩ := hkept.get hl
    exact ⟨l', hl', hpayload ▸ hlist, by rw [Object.items, hpayload]; rfl⟩
  cases hstep with
  | perm => exact Or.inl (hkeeps (.refl store) hl hlist)
  | client _ _ operation honClients =>
      refine Or.inl (hkeeps ?_ hl hlist)
      cases operation with
      | sessionCreate outcome lifetime => exact (Store.KeepsHolds.sessionCreate outcome lifetime store).kept
      | addExternalReference calloc object session =>
          exact .of_sameInternals (.objectAddExternalReference calloc object session store)
      | release object session => exact (Store.KeepsHolds.objectRelease object session store).kept
      | sessionExpire session => exact (Store.KeepsHolds.sessionExpireHelper session store).kept
      | sessionHandleExpire session => exact (Store.KeepsHolds.sessionExpireHelper session store).kept
      | removeExternalReference | addInternalReference | removeInternalReference | lock | unlock
      | setPayload => cases honClients
  | created pool _ outcome payload session flags object hitems hplain hok =>
      rcases createObject_objects outcome payload session flags store hl with
        ⟨hnew, hcore, -⟩ | ⟨l', hl', hcore⟩
      · have hpayload : l.payload = payload := congrArg Prod.snd hcore
        exact Or.inr ⟨hnew, by rw [Object.items, hpayload, hitems]⟩
      · have hpayload : l.payload = l'.payload := congrArg Prod.snd hcore
        exact Or.inl ⟨l', hl', hpayload ▸ hlist, by rw [Object.items, hpayload]; rfl⟩
  | notCreated pool _ outcome payload session flags code herror =>
      exact Or.inl (hkeeps (.createObject_error herror) hl hlist)
  | acquire _ _ hold hlive =>
      refine Or.inl (hkeeps ?_ hl hlist)
      rw [Hold.acquire_eq]
      exact .modifyObject store hold.object fun _ => rfl
  | release _ _ hold => exact Or.inl (hkeeps (.of_runs (hold.release_runs store)) hl hlist)
  | setPayload _ _ _ object o payload hget hnoList htype hplain hperm =>
      obtain ⟨l', hl', rfl⟩ := Store.modifyObject_get hl
      by_cases hobject : list = object
      · subst hobject
        rw [if_pos rfl, htype] at hlist
        exact absurd hlist hnoList
      · rw [if_neg hobject] at hlist ⊢
        exact Or.inl ⟨l', hl', hlist, rfl⟩

theorem OtherStep.next_le (hstep : OtherStep array (pool, store) (next, other)) :
    store.objects.next ≤ other.objects.next := by
  cases hstep with
  | perm => exact Nat.le_refl _
  | client _ _ operation honClients =>
      cases operation with
      | sessionCreate outcome lifetime =>
          obtain ⟨hobjects, -⟩ := sessionCreate_frame outcome lifetime store
          exact Nat.le_of_eq (congrArg Heap.next hobjects).symm
      | addExternalReference calloc object session =>
          exact (Store.NoNewIds.of_sameInternals
            (.objectAddExternalReference calloc object session store)).objectNext
      | release object session => exact (Store.NoNewIds.objectRelease object session store).objectNext
      | sessionExpire session =>
          exact (Store.NoNewIds.sessionExpireHelper session store).objectNext
      | sessionHandleExpire session =>
          exact (Store.NoNewIds.sessionExpireHelper session store).objectNext
      | removeExternalReference | addInternalReference | removeInternalReference | lock | unlock
      | setPayload => cases honClients
  | created _ _ outcome payload session flags =>
      rw [createObject_next]
      exact Nat.le_succ _
  | notCreated _ _ outcome payload session flags =>
      rw [createObject_next]
      exact Nat.le_succ _
  | acquire _ _ hold =>
      rw [Hold.acquire_eq, Store.modifyObject_objects, Heap.next_modify]
  | release _ _ hold => exact (Store.NoNewIds.of_runs (hold.release_runs store)).objectNext
  | setPayload _ _ _ object => rw [Store.modifyObject_objects, Heap.next_modify]

-- A successful call appends the object with this ID, and the list was not full.
theorem listAppendTo_success {append : Option APIError} {list item : ObjectRef} {itemId : ObjectID}
    {l : Object} (hl : store.objects.get list = some l)
    (hfound : inventoryGetObject ObjectType.all itemId store = .ok item)
    (hsuccess : (listAppendTo append list itemId store).1 = .success) :
    l.items.length ≠ UINT16_MAX ∧ listAppendTo append list itemId store =
      (.success, ((lockedHold item).acquire store).appendItem list item) := by
  simp only [listAppendTo, hl] at hsuccess ⊢
  by_cases hself : itemId = l.id
  · rw [if_pos hself] at hsuccess
    cases hsuccess
  rw [if_neg hself] at hsuccess ⊢
  by_cases hlock : l.lockCount > 0
  · rw [if_pos hlock] at hsuccess
    cases hsuccess
  rw [if_neg hlock] at hsuccess ⊢
  by_cases hfull : l.items.length = UINT16_MAX
  · rw [if_pos hfull] at hsuccess
    cases hsuccess
  rw [if_neg hfull, hfound] at hsuccess ⊢
  cases append with
  | some code => exact absurd hsuccess code.property
  | none => exact ⟨hfull, rfl⟩

-- What holds between two steps: the lists are the sequences, and none is longer than its length
-- can tell.
structure Refines (pool : List Hold) (store : Store) (sequences : Sequences) : Prop where
  holding : Holding pool store
  items : ∀ list l, store.objects.get list = some l → l.payload.type = .list →
    l.items = sequences list
  unborn : ∀ p, store.objects.next ≤ p → sequences p = []
  length_le : ∀ list l, store.objects.get list = some l → l.payload.type = .list →
    l.items.length ≤ UINT16_MAX

namespace Refines

theorem init : Refines [] Store.init fun _ => [] := by
  refine ⟨.init, ?_, fun _ _ => rfl, ?_⟩
  · simp [Store.init]
  · simp [Store.init]

theorem otherStep (h : Refines pool store sequences)
    (hstep : OtherStep array (pool, store) (next, other)) : Refines next other sequences := by
  refine ⟨hstep.holderStep.holding h.holding, fun list l hl hlist => ?_, fun p hp => ?_,
    fun list l hl hlist => ?_⟩
  · rcases hstep.items hl hlist with ⟨l', hl', hlist', hitems⟩ | ⟨rfl, hitems⟩
    · rw [hitems]
      exact h.items list l' hl' hlist'
    · rw [hitems, h.unborn _ (Nat.le_refl _)]
  · exact h.unborn p (Nat.le_trans hstep.next_le hp)
  · rcases hstep.items hl hlist with ⟨l', hl', hlist', hitems⟩ | ⟨-, hitems⟩
    · rw [hitems]
      exact h.length_le list l' hl' hlist'
    · rw [hitems]
      exact Nat.zero_le _

-- The items of one list are changed, and its sequence in the same way.
theorem setItems {list : ObjectRef} (change : List ObjectRef → List ObjectRef)
    (h : Refines pool store sequences) (hholding : Holding next (other.modifyObject list fun l =>
      { l with payload := l.payload.mapItems change })) (hkept : store.Kept other)
    (hnext : store.objects.next ≤ other.objects.next) {l : Object}
    (hl : store.objects.get list = some l) (hlist : l.payload.type = .list)
    (hlength : (change l.items).length ≤ UINT16_MAX) :
    Refines next (other.modifyObject list fun l => { l with payload := l.payload.mapItems change })
      (Function.update sequences list (change (sequences list))) := by
  have hitems : ∀ p l', (other.modifyObject list fun l =>
      { l with payload := l.payload.mapItems change }).objects.get p = some l' →
      l'.payload.type = .list → ∃ l'', store.objects.get p = some l'' ∧ l''.payload.type = .list ∧
        l'.items = if p = list then change l''.items else l''.items := by
    intro p l' hl' hlist'
    obtain ⟨l₁, hl₁, rfl⟩ := Store.modifyObject_get hl'
    obtain ⟨l₂, hl₂, -, hpayload⟩ := hkept.get hl₁
    by_cases hp : p = list
    · subst hp
      rw [hl] at hl₂
      cases hl₂
      refine ⟨l, hl, hlist, ?_⟩
      rw [if_pos rfl, if_pos rfl]
      change (l₁.payload.mapItems change).items = _
      rw [hpayload, payload_eq_list hlist]
      rfl
    · rw [if_neg hp] at hlist' ⊢
      refine ⟨l₂, hl₂, hpayload ▸ hlist', ?_⟩
      rw [if_neg hp, Object.items, hpayload]
      rfl
  refine ⟨hholding, fun p l' hl' hlist' => ?_, fun p hp => ?_, fun p l' hl' hlist' => ?_⟩
  · obtain ⟨l'', hl'', hlist'', hsame⟩ := hitems p l' hl' hlist'
    rw [hsame, Function.update_apply]
    split_ifs with hp
    · rw [h.items p l'' hl'' hlist'', hp]
    · exact h.items p l'' hl'' hlist''
  · rw [Store.modifyObject_objects, Heap.next_modify] at hp
    have hunborn := Nat.le_trans hnext hp
    have hne : p ≠ list := fun heq =>
      Nat.lt_irrefl _ (Nat.lt_of_lt_of_le (Heap.lt_next_of_get (heq ▸ hl)) hunborn)
    rw [Function.update_of_ne hne]
    exact h.unborn p hunborn
  · obtain ⟨l'', hl'', hlist'', hsame⟩ := hitems p l' hl' hlist'
    rw [hsame]
    split_ifs with hp
    · subst hp
      rw [hl] at hl''
      cases hl''
      exact hlength
    · exact h.length_le p l'' hl'' hlist''

theorem step (hstep : SequenceStep array ((pool, store), sequences) ((next, other), after))
    (h : Refines pool store sequences) : Refines next other after := by
  cases hstep with
  | appended _ _ _ append list item itemId l hl hlist hfound hsuccess =>
      have hholding := h.holding.listAppendTo append itemId hl hlist
      obtain ⟨hlength, happend⟩ := listAppendTo_success hl hfound hsuccess
      rw [happend] at hholding ⊢
      have hle := h.length_le list l hl hlist
      have hkept : store.Kept ((lockedHold item).acquire store) := by
        rw [Hold.acquire_eq]
        exact .modifyObject store item fun _ => rfl
      refine h.setItems (· ++ [item]) hholding hkept ?_ hl hlist ?_
      · rw [Hold.acquire_eq, Store.modifyObject_objects, Heap.next_modify]
      · rw [List.length_append, List.length_singleton]
        omega
  | notAppended _ _ _ append list itemId l hl hlist hfailure =>
      rcases listAppendTo_cases append itemId hl with ⟨-, hsame⟩ | ⟨item, -, -, -, happend⟩
      · rw [hsame]
        exact h
      · exact absurd (congrArg Prod.fst happend) hfailure
  | removed _ _ _ list index l hl hlist hsuccess =>
      have hholding := @Holding.listRemoveFrom array _ _ _ _ h.holding index hl hlist
      rcases @listRemoveFrom_cases array store list l index hl with
        ⟨hfailed, -⟩ | ⟨item, -, hitem, hremove⟩
      · exact absurd hsuccess hfailed
      rw [hremove] at hholding ⊢
      have hruns := @Hold.release_runs array (lockedHold item) store
      have hle := h.length_le list l hl hlist
      exact h.setItems (·.eraseIdx index.toNat) hholding (.of_runs hruns)
        (Store.NoNewIds.of_runs hruns).objectNext hl hlist
        (Nat.le_trans (List.length_eraseIdx_le _ _) hle)
  | notRemoved _ _ _ list index l hl hlist hfailure =>
      rcases @listRemoveFrom_cases array store list l index hl with
        ⟨-, hsame⟩ | ⟨item, -, -, hremove⟩
      · rw [hsame]
        exact h
      · exact absurd (congrArg Prod.fst hremove) hfailure
  | other _ _ _ _ _ hstep => exact h.otherStep hstep

end Refines

-- How often an object is an item of a list.
def Store.occurrences (store : Store) (object : ObjectRef) : Nat :=
  store.objects.total fun _ l => l.items.count object

-- What is held other than by being an item.
def otherHolds : View := fun _ payload => if payload.type = .list then [] else payload.holds

def Store.elsewhere (pool : List Hold) (store : Store) (hold : Hold) : Nat :=
  store.claims otherHolds pool hold

theorem count_holds (p : ObjectRef) (o : Object) (hold : Hold) :
    (ownHolds p o.payload).count hold = (if hold.locked then o.items.count hold.object else 0) +
      (otherHolds p o.payload).count hold := by
  obtain ⟨object, locked⟩ := hold
  unfold ownHolds otherHolds Object.items
  cases hpayload : o.payload with
  | list items =>
      simp only [Payload.holds, Payload.items, Payload.type, if_true, List.count_nil, Nat.add_zero]
      clear hpayload
      induction items with
      | nil => cases locked <;> rfl
      | cons item items ih =>
          rw [List.map_cons, List.count_cons, List.count_cons, ih]
          cases locked with
          | true => simp [lockedHold]
          | false => simp [lockedHold]
  | string _ | file _ | directory _ | process _ | program _ =>
      simp [Payload.items, Payload.type]

-- Every occurrence in a list is one claim of a locked reference.
theorem Store.claims_eq (pool : List Hold) (store : Store) (hold : Hold) :
    store.claims ownHolds pool hold =
      (if hold.locked then store.occurrences hold.object else 0) + store.elsewhere pool hold := by
  have hincoming : store.incoming ownHolds hold =
      (if hold.locked then store.occurrences hold.object else 0) +
        store.incoming otherHolds hold := by
    unfold incoming Heap.incoming occurrences
    simp only [count_holds]
    rw [Heap.total_add]
    congr 1
    by_cases hlocked : hold.locked = true
    · simp only [hlocked, if_true]
    · simp only [if_neg hlocked, Heap.total]
      refine Finset.sum_eq_zero fun address _ => ?_
      cases store.objects.get address <;> rfl
  unfold elsewhere claims
  omega

theorem objectAddExternalReference_success {object : ObjectRef} {session : SessionRef}
    (hobject : store.objects.get object ≠ none) (hsession : store.sessions.get session ≠ none) :
    (objectAddExternalReference true object session store).1 = .success := by
  have hlive : ¬ (store.objects.get object = none ∨ store.sessions.get session = none) := by
    simp [hobject, hsession]
  simp only [objectAddExternalReference, if_neg hlive]
  cases store.findReference object session <;> rfl

theorem listGetItem_success {list item : ObjectRef} {l o : Object} {index : UInt16}
    {session : SessionRef} (hl : store.objects.get list = some l)
    (hitem : l.items[index.toNat]? = some item) (ho : store.objects.get item = some o)
    (hsession : store.sessions.get session ≠ none) :
    (listGetItem true list index session store).1 = .ok (o.id, o.type) := by
  have hlive : store.objects.get item ≠ none := by simp [ho]
  have hsuccess := objectAddExternalReference_success hlive hsession
  obtain ⟨o', ho', hinternals⟩ :=
    (Store.SameInternals.objectAddExternalReference true item session store).get_eq ho
  have hid := congrArg Object.id hinternals
  have htype := congrArg Object.type hinternals
  change o'.id = o.id at hid
  change o'.type = o.type at htype
  simp only [listGetItem, hl, hitem]
  rcases hresult : objectAddExternalReference true item session store with ⟨code, other⟩
  rw [hresult] at hsuccess ho'
  subst hsuccess
  simp only at ho'
  simp only [ho', hid, htype]

-- What a client and the accounts see of the lists.
structure ListsExact (array : ArrayRemove) (pool : List Hold) (store : Store)
    (sequences : Sequences) : Prop where
  items : ∀ list l, store.objects.get list = some l → l.payload.type = .list →
    l.items = sequences list
  -- the 16 bit wide length and index reach every item
  get_length : ∀ list l, store.objects.get list = some l → l.payload.type = .list →
    ∃ length, listGetLength list store = (.success, length) ∧ length.toNat = l.items.length
  get_item : ∀ list l, store.objects.get list = some l → l.payload.type = .list →
    ∀ i item, l.items[i]? = some item → ∀ session, store.sessions.get session ≠ none →
      ∃ index o, UInt16.toNat index = i ∧ store.objects.get item = some o ∧
        (listGetItem true list index session store).1 = .ok (o.id, o.type)
  -- one reference and one lock for each occurrence
  locks : ∀ p o, store.objects.get p = some o →
    o.lockCount = store.occurrences p + store.elsewhere pool (lockedHold p)
  references : ∀ p o, store.objects.get p = some o → o.internalReferenceCount =
    store.occurrences p + store.elsewhere pool (lockedHold p) + store.elsewhere pool (plainHold p)
  -- a call that fails changes nothing
  append_failed : ∀ list l, store.objects.get list = some l → l.payload.type = .list →
    ∀ append itemId, (listAppendTo append list itemId store).1 ≠ .success →
      (listAppendTo append list itemId store).2 = store
  remove_failed : ∀ list l, store.objects.get list = some l → l.payload.type = .list →
    ∀ index, (listRemoveFrom array list index store).1 ≠ .success →
      (listRemoveFrom array list index store).2 = store

theorem Refines.exact (h : Refines pool store sequences) :
    ListsExact array pool store sequences where
  items := h.items
  get_length list l hl hlist := by
    have hlength := h.length_le list l hl hlist
    refine ⟨UInt16.ofNat l.items.length, by simp only [listGetLength, hl], ?_⟩
    exact UInt16.toNat_ofNat_of_lt' (Nat.lt_succ_of_le hlength)
  get_item list l hl hlist i item hitem session hsession := by
    have hlength := h.length_le list l hl hlist
    obtain ⟨hi, -⟩ := List.getElem?_eq_some_iff.mp hitem
    obtain ⟨o, ho, -⟩ := h.holding.accounted.item_locked ⟨l, hl, List.mem_of_getElem? hitem⟩
    have hindex : (UInt16.ofNat i).toNat = i :=
      UInt16.toNat_ofNat_of_lt' (Nat.lt_succ_of_le (Nat.le_trans (Nat.le_of_lt hi) hlength))
    exact ⟨UInt16.ofNat i, o, hindex, ho,
      listGetItem_success hl (by rw [hindex]; exact hitem) ho hsession⟩
  locks p o ho := by
    have hlocks := h.holding.accounted.locks p o ho
    rw [Store.claims_eq] at hlocks
    exact hlocks
  references p o ho := by
    have hreferences := h.holding.accounted.references p o ho
    rw [Store.claims_eq, Store.claims_eq] at hreferences
    simp only [lockedHold, plainHold, if_true, Bool.false_eq_true, if_false, Nat.zero_add]
      at hreferences
    exact hreferences
  append_failed list l hl hlist append itemId hfailed := by
    rcases listAppendTo_cases append itemId hl with ⟨-, hsame⟩ | ⟨item, -, -, -, happend⟩
    · exact hsame
    · exact absurd (congrArg Prod.fst happend) hfailed
  remove_failed list l hl hlist index hfailed := by
    rcases @listRemoveFrom_cases array store list l index hl with
      ⟨-, hsame⟩ | ⟨item, -, -, hremove⟩
    · exact hsame
    · exact absurd (congrArg Prod.fst hremove) hfailed

theorem refines_of_steps (h : Relation.ReflTransGen (SequenceStep array)
    (([], Store.init), fun _ => []) ((pool, store), sequences)) : Refines pool store sequences := by
  generalize hlast : ((pool, store), sequences) = last at h
  induction h generalizing pool store sequences with
  | refl =>
      cases hlast
      exact .init
  | tail _ hstep ih =>
      subst hlast
      exact Refines.step hstep (ih rfl)

-- Whatever calls are made on lists, and whatever else happens, lists are sequences and account
-- for their items.
theorem lists_refine_sequences (array : ArrayRemove) (h : Relation.ReflTransGen (SequenceStep array)
    (([], Store.init), fun _ => []) ((pool, store), sequences)) :
    ListsExact array pool store sequences :=
  (refines_of_steps h).exact

-- The second list of a client is appended to the first one twice and removed once.
def removedStore : Store :=
  (listRemoveFrom .byIndex 0 0 (listAppendTo none 0 2 nestedStore).2).2

theorem removedStore_exact : ListsExact .byIndex [] removedStore
    (((Sequences.append (fun _ => []) 0 1).append 0 1).remove 0 0) :=
  lists_refine_sequences .byIndex
    ((((((Relation.ReflTransGen.refl.tail
      (.other [] _ _ _ _ (.client [] _ (.sessionCreate ⟨true, none, none, none⟩ 10) rfl))).tail
      (.other [] _ _ _ _ (.created [] _ ⟨true, none⟩ (.list []) (some 0)
        OBJECT_CREATE_FLAG_EXTERNAL 0 rfl nofun rfl))).tail
      (.other [] _ _ _ _ (.created [] _ ⟨true, none⟩ (.list []) (some 0)
        OBJECT_CREATE_FLAG_EXTERNAL 1 rfl nofun rfl))).tail
      (.appended [] _ _ none 0 1 2 _ rfl rfl rfl rfl)).tail
      (.appended [] _ _ none 0 1 2 _ rfl rfl rfl rfl)).tail
      (.removed [] _ _ 0 0 _ rfl rfl rfl))

end Refinement

end RedApid

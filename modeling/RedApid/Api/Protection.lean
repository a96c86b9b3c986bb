import RedApid.Api.RoundTrip
import RedApid.Store.Containment
import RedApid.String.Bounds

namespace RedApid

open Memory

section Steps

-- What clients and holders do. They are the steps of holders, but only clients write to Strings.
inductive ObjectStep (array : ArrayRemove) (grow : GrowAllocation) :
    List Hold × Store → List Hold × Store → Prop where
  | perm (store : Store) {pool next : List Hold} (perm : pool.Perm next) :
      ObjectStep array grow (pool, store) (next, store)
  | sessionCreate (pool : List Hold) (store : Store) (outcome : SessionCreation)
      (lifetime : UInt32) :
      ObjectStep array grow (pool, store) (pool, (sessionCreate outcome lifetime store).2)
  | sessionExpire (pool : List Hold) (store : Store) (session : SessionRef) :
      ObjectStep array grow (pool, store) (pool, (sessionExpire array session store).2)
  | sessionHandleExpire (pool : List Hold) (store : Store) (session : SessionRef) :
      ObjectStep array grow (pool, store) (pool, sessionHandleExpire array session store)
  | addExternalReference (pool : List Hold) (store : Store) (calloc : Bool) (object : ObjectRef)
      (session : SessionRef) :
      ObjectStep array grow (pool, store)
        (pool, (objectAddExternalReference calloc object session store).2)
  | objectRelease (pool : List Hold) (store : Store) (object : ObjectRef) (session : SessionRef) :
      ObjectStep array grow (pool, store) (pool, (objectRelease array object session store).2)
  | created (pool : List Hold) (store : Store) (outcome : ObjectCreation) (payload : Payload)
      (session : Option SessionRef) (flags : UInt32) (object : ObjectRef)
      (noItems : payload.items = [])
      (plain : ∀ hold ∈ payload.holds, hold.locked = false →
        ∀ q, store.objects.get hold.object = some q → q.payload.type ≠ .list)
      (ok : (store.createObject outcome payload session flags).1 = .ok object) :
      ObjectStep array grow (payload.holds ++ pool, store)
        (createdHolds flags object ++ pool,
          (store.createObject outcome payload session flags).2)
  | notCreated (pool : List Hold) (store : Store) (outcome : ObjectCreation) (payload : Payload)
      (session : Option SessionRef) (flags : UInt32) (code : APIE)
      (error : (store.createObject outcome payload session flags).1 = .error code) :
      ObjectStep array grow (payload.holds ++ pool, store)
        (payload.holds ++ pool, (store.createObject outcome payload session flags).2)
  | acquire (pool : List Hold) (store : Store) (hold : Hold)
      (live : store.objects.get hold.object ≠ none) :
      ObjectStep array grow (pool, store) (hold :: pool, hold.acquire store)
  | release (pool : List Hold) (store : Store) (hold : Hold) :
      ObjectStep array grow (hold :: pool, store) (pool, hold.release array store)
  | setPayload (pool next : List Hold) (store : Store) (object : ObjectRef) (o : Object)
      (payload : Payload) (get : store.objects.get object = some o)
      (noString : o.payload.type ≠ .string) (noList : o.payload.type ≠ .list)
      (type : payload.type = o.payload.type)
      (plain : ∀ hold ∈ payload.holds, hold.locked = false →
        ∀ q, store.objects.get hold.object = some q → q.payload.type ≠ .list)
      (perm : (payload.holds ++ next).Perm (o.payload.holds ++ pool)) :
      ObjectStep array grow (pool, store)
        (next, store.modifyObject object fun o => { o with payload })
  | listAppendTo (pool : List Hold) (store : Store) (append : Option APIError) (list : ObjectRef)
      (itemId : ObjectID) (l : Object) (get : store.objects.get list = some l)
      (isList : l.payload.type = .list) :
      ObjectStep array grow (pool, store) (pool, (listAppendTo append list itemId store).2)
  | listRemoveFrom (pool : List Hold) (store : Store) (list : ObjectRef) (index : UInt16)
      (l : Object) (get : store.objects.get list = some l) (isList : l.payload.type = .list) :
      ObjectStep array grow (pool, store) (pool, (listRemoveFrom array list index store).2)
  | write (pool : List Hold) (store : Store) (outcome : Outcomes) (id : APIFunctionID)
      (members : Members) (string : ObjectRef)
      (writes : id = .truncateString ∨ id = .setStringChunk) :
      ObjectStep array grow (pool, store)
        (pool, (storeFunction array grow outcome id members (some string) none store).2)

-- Somebody has acquired and locked the object: either a call under way or another object.
def LockHeld (object : ObjectRef) (state : List Hold × Store) : Prop :=
  lockedHold object ∈ state.1 ∨
    ∃ holder o, state.2.objects.get holder = some o ∧ lockedHold object ∈ o.payload.holds

variable {array : ArrayRemove} {grow : GrowAllocation} {pool next : List Hold}
  {store other : Store} {p q : ObjectRef}

theorem lockHeld_iff : LockHeld p (pool, store) ↔ 0 < store.claims ownHolds pool (lockedHold p) := by
  unfold LockHeld Store.claims
  rw [Nat.add_pos_iff_pos_or_pos, List.count_pos_iff, or_comm]
  exact or_congr (Heap.incoming_pos_iff _).symm Iff.rfl

theorem LockHeld.locked (h : LockHeld p (pool, store)) (hholding : Holding pool store) :
    ∃ o, store.objects.get p = some o ∧ 0 < o.lockCount ∧
      o.lockCount ≤ o.internalReferenceCount := by
  have hpos := lockHeld_iff.mp h
  obtain ⟨o, ho⟩ := Option.ne_none_iff_exists'.mp (hholding.accounted.live _ hpos)
  have hlocks := hholding.accounted.locks p o ho
  have hreferences := hholding.accounted.references p o ho
  exact ⟨o, ho, by omega, by omega⟩

theorem Store.Contains.lockHeld (h : store.Contains p q) : LockHeld q (pool, store) := by
  obtain ⟨l, hl, hmem⟩ := h.mem_holds
  exact Or.inr ⟨p, l, hl, hmem⟩

theorem onString_cases {α : Type} (string : ObjectRef) (dead : α)
    (f : Nat → StringObject → α × StringObject) :
    (store.onString string dead f).2 = store.faulted ∨
      ∃ o s, store.objects.get string = some o ∧ o.payload = .string s ∧
        (store.onString string dead f).2 = store.modifyObject string fun o =>
          { o with payload := .string (f o.lockCount s).2 } := by
  unfold Store.onString
  cases ho : store.objects.get string with
  | none => exact Or.inl rfl
  | some o =>
      dsimp only
      cases hpayload : o.payload with
      | string s =>
          refine Or.inr ⟨o, s, rfl, hpayload, ?_⟩
          refine Store.modifyObject_congr fun o' ho' => ?_
          rw [ho] at ho'
          cases ho'
          rfl
      | list _ | file _ | directory _ | process _ | program _ => exact Or.inl rfl

-- A String that is locked refuses to be written to.
theorem storeFunction_write {id : APIFunctionID} (hwrites : id = .truncateString ∨ id = .setStringChunk)
    (outcome : Outcomes) (members : Members) (string : ObjectRef) :
    let written := (storeFunction array grow outcome id members (some string) none store).2
    written = store.faulted ∨ ∃ o s t, store.objects.get string = some o ∧ o.payload = .string s ∧
      (0 < o.lockCount → t = s) ∧
      written = store.modifyObject string fun o => { o with payload := .string t } := by
  have hwrite : ∀ f : Nat → StringObject → (APIE × Members) × StringObject,
      (∀ lockCount s, 0 < lockCount → (f lockCount s).2 = s) →
      let written := (store.onString string (APIE.internalError, Members.zero) f).2
      written = store.faulted ∨ ∃ o s t, store.objects.get string = some o ∧
        o.payload = .string s ∧ (0 < o.lockCount → t = s) ∧
        written = store.modifyObject string fun o => { o with payload := .string t } := by
    intro f hf
    rcases onString_cases string (APIE.internalError, Members.zero) f with
      hfault | ⟨o, s, ho, hpayload, hwritten⟩
    · exact Or.inl hfault
    · refine Or.inr ⟨o, s, (f o.lockCount s).2, ho, hpayload, hf o.lockCount s, ?_⟩
      refine hwritten.trans (Store.modifyObject_congr fun o' ho' => ?_)
      rw [ho] at ho'
      cases ho'
      rfl
  rcases hwrites with rfl | rfl
  · refine hwrite _ fun lockCount s hlocked => ?_
    unfold stringTruncate
    rw [if_pos hlocked]
  · refine hwrite _ fun lockCount s hlocked => ?_
    unfold stringSetChunk
    rw [if_pos hlocked]

-- Only a write is not a step of the holders.
theorem ObjectStep.holder_or_write (hstep : ObjectStep array grow (pool, store) (next, other)) :
    HolderStep array (pool, store) (next, other) ∨ next = pool ∧
      ∃ outcome id members string, (id = .truncateString ∨ id = .setStringChunk) ∧
        other = (storeFunction array grow outcome id members (some string) none store).2 := by
  cases hstep with
  | perm _ hperm => exact Or.inl (.perm _ hperm)
  | sessionCreate _ _ outcome lifetime => exact Or.inl (.sessionCreate _ _ outcome lifetime)
  | sessionExpire _ _ session => exact Or.inl (.sessionExpire _ _ session)
  | sessionHandleExpire _ _ session => exact Or.inl (.sessionHandleExpire _ _ session)
  | addExternalReference _ _ calloc object session =>
      exact Or.inl (.addExternalReference _ _ calloc object session)
  | objectRelease _ _ object session => exact Or.inl (.objectRelease _ _ object session)
  | created _ _ outcome payload session flags object hitems hplain hok =>
      exact Or.inl (.created _ _ outcome payload session flags object hitems hplain hok)
  | notCreated _ _ outcome payload session flags code herror =>
      exact Or.inl (.notCreated _ _ outcome payload session flags code herror)
  | acquire _ _ hold hlive => exact Or.inl (.acquire _ _ hold hlive)
  | release _ _ hold => exact Or.inl (.release _ _ hold)
  | setPayload _ _ _ object o payload hget _ hlist htype hplain hperm =>
      exact Or.inl (.setPayload _ _ _ object o payload hget hlist htype hplain hperm)
  | listAppendTo _ _ append list itemId l hl hlist =>
      exact Or.inl (.listAppendTo _ _ append list itemId l hl hlist)
  | listRemoveFrom _ _ list index l hl hlist =>
      exact Or.inl (.listRemoveFrom _ _ list index l hl hlist)
  | write _ _ outcome id members string writes =>
      exact Or.inr ⟨rfl, outcome, id, members, string, writes, rfl⟩

theorem ObjectStep.holding (hstep : ObjectStep array grow (pool, store) (next, other))
    (h : Holding pool store) : Holding next other := by
  rcases hstep.holder_or_write with hholder | ⟨rfl, outcome, id, members, string, hwrites, rfl⟩
  · exact hholder.holding h
  rcases @storeFunction_write array grow store id hwrites outcome members string with
    hfault | ⟨o, s, t, ho, hpayload, -, hwritten⟩
  · rw [hfault]
    have hkept : store.Kept store.faulted := .congr rfl rfl
    exact h.of_kept hkept (h.accounted.congr (fun _ => rfl) fun _ => rfl)
  · rw [hwritten]
    refine h.setPayload ho (by simp [hpayload, Payload.type]) (by rw [hpayload]; rfl)
      (fun hold hmem => absurd hmem List.not_mem_nil) ?_
    rw [hpayload]
    exact List.Perm.refl _

end Steps

section Contents

variable {array : ArrayRemove} {grow : GrowAllocation} {pool next : List Hold}
  {store other : Store} {p q : ObjectRef} {o o' : Object}

-- The content of a String and of a List stay, an object of another type may change.
structure Object.SameContent (o o' : Object) : Prop where
  type_eq : o'.type = o.type
  payload_type : o'.payload.type = o.payload.type
  content : o.payload.type = .string ∨ o.payload.type = .list → o'.payload = o.payload

theorem Object.SameContent.of_core (h : o'.core = o.core) : o.SameContent o' := by
  have htype : o'.type = o.type := congrArg Prod.fst h
  have hpayload : o'.payload = o.payload := congrArg Prod.snd h
  exact ⟨htype, by rw [hpayload], fun _ => hpayload⟩

theorem Object.SameContent.trans {o'' : Object} (h : o.SameContent o') (h' : o'.SameContent o'') :
    o.SameContent o'' where
  type_eq := h'.type_eq.trans h.type_eq
  payload_type := h'.payload_type.trans h.payload_type
  content hkind := (h'.content (h.payload_type ▸ hkind)).trans (h.content hkind)

theorem Store.Kept.sameContent (h : store.Kept other) (ho : store.objects.get q = some o)
    (ho' : other.objects.get q = some o') : o.SameContent o' := by
  obtain ⟨found, hfound, hcore⟩ := h.objects q o' ho'
  rw [ho] at hfound
  cases hfound
  exact .of_core hcore

theorem Store.Kept.acquire (hold : Hold) (store : Store) : store.Kept (hold.acquire store) := by
  rw [Hold.acquire_eq]
  exact .modifyObject store hold.object fun _ => rfl

-- The items of another list change.
theorem sameContent_of_modify {list : ObjectRef} {f : Object → Object} (hne : q ≠ list)
    (hkept : store.Kept other) (ho : store.objects.get q = some o)
    (ho' : (other.modifyObject list f).objects.get q = some o') : o.SameContent o' := by
  rw [Store.modifyObject_objects, Heap.get_modify_ne hne] at ho'
  exact hkept.sameContent ho ho'

-- What one step preserves of a locked object that outlives it.
theorem ObjectStep.sameContent (hstep : ObjectStep array grow (pool, store) (next, other))
    (hlocked : 0 < o.lockCount) (ho : store.objects.get q = some o)
    (ho' : other.objects.get q = some o') : o.SameContent o' := by
  cases hstep with
  | perm =>
      rw [ho] at ho'
      cases ho'
      exact .of_core rfl
  | sessionCreate _ _ outcome lifetime =>
      exact (Store.KeepsHolds.sessionCreate outcome lifetime store).kept.sameContent ho ho'
  | sessionExpire _ _ session | sessionHandleExpire _ _ session =>
      exact (Store.KeepsHolds.sessionExpireHelper session store).kept.sameContent ho ho'
  | addExternalReference _ _ calloc object session =>
      exact (Store.Kept.of_sameInternals
        (.objectAddExternalReference calloc object session store)).sameContent ho ho'
  | objectRelease _ _ object session =>
      exact (Store.KeepsHolds.objectRelease object session store).kept.sameContent ho ho'
  | created _ _ outcome payload session flags | notCreated _ _ outcome payload session flags =>
      rcases createObject_objects outcome payload session flags store ho' with
        ⟨hnew, -⟩ | ⟨found, hfound, hcore⟩
      · exact absurd hnew (Nat.ne_of_lt (Heap.lt_next_of_get ho))
      · rw [ho] at hfound
        cases hfound
        exact .of_core hcore
  | acquire _ _ hold =>
      exact (Store.Kept.acquire hold store).sameContent ho ho'
  | release _ _ hold =>
      exact (Store.Kept.of_runs (hold.release_runs store)).sameContent ho ho'
  | setPayload _ _ _ object found payload hget hstring hlist htype =>
      obtain ⟨before, hbefore, rfl⟩ := Store.modifyObject_get ho'
      rw [ho] at hbefore
      cases hbefore
      by_cases hq : q = object
      · subst hq
        rw [ho] at hget
        cases hget
        rw [if_pos rfl]
        exact ⟨rfl, htype, fun hkind => (hkind.elim hstring hlist).elim⟩
      · rw [if_neg hq]
        exact .of_core rfl
  | listAppendTo _ _ append list itemId l hl hlist =>
      rcases listAppendTo_cases append itemId hl with
        ⟨-, hsame⟩ | ⟨item, hunlocked, -, -, happend⟩
      · rw [hsame, ho] at ho'
        cases ho'
        exact .of_core rfl
      · have hne : q ≠ list := by
          rintro rfl
          rw [ho] at hl
          cases hl
          omega
        rw [happend] at ho'
        exact sameContent_of_modify hne (.acquire (lockedHold item) store) ho ho'
  | listRemoveFrom _ _ list index l hl hlist =>
      rcases @listRemoveFrom_cases array store list l index hl with
        ⟨-, hsame⟩ | ⟨item, hunlocked, -, hremove⟩
      · rw [hsame, ho] at ho'
        cases ho'
        exact .of_core rfl
      · have hne : q ≠ list := by
          rintro rfl
          rw [ho] at hl
          cases hl
          omega
        rw [hremove] at ho'
        exact sameContent_of_modify hne (.of_runs ((lockedHold item).release_runs store)) ho ho'
  | write _ _ outcome id members string writes =>
      rcases @storeFunction_write array grow store id writes outcome members string with
        hfault | ⟨found, s, t, hfound, hpayload, hsame, hwritten⟩
      · rw [hfault] at ho'
        change store.objects.get q = _ at ho'
        rw [ho] at ho'
        cases ho'
        exact .of_core rfl
      · rw [hwritten] at ho'
        obtain ⟨before, hbefore, rfl⟩ := Store.modifyObject_get ho'
        rw [ho] at hbefore
        cases hbefore
        by_cases hq : q = string
        · subst hq
          rw [ho] at hfound
          cases hfound
          rw [if_pos rfl, hsame hlocked, ← hpayload]
          exact .of_core rfl
        · rw [if_neg hq]
          exact .of_core rfl

end Contents

section Protection

variable {array : ArrayRemove} {grow : GrowAllocation} {pool next : List Hold}
  {store other : Store} {p q : ObjectRef}

-- Object `q` is still alive and locked, with the same content.
structure Store.Protects (store other : Store) (q : ObjectRef) : Prop where
  content : ∃ o o', store.objects.get q = some o ∧ other.objects.get q = some o' ∧
    o.SameContent o'
  locked : ∃ o', other.objects.get q = some o' ∧ 0 < o'.lockCount ∧
    o'.lockCount ≤ o'.internalReferenceCount

-- Everything inside a list that is locked keeps its lock, and so does what is inside of that.
theorem Store.Contains.kept (h : store.Contains p q) (hcontent : ∃ o o',
    store.objects.get p = some o ∧ other.objects.get p = some o' ∧ o.SameContent o') :
    other.Contains p q := by
  obtain ⟨o, o', ho, ho', hsame⟩ := hcontent
  obtain ⟨l, hl, hmem⟩ := h
  rw [ho] at hl
  cases hl
  refine ⟨o', ho', ?_⟩
  unfold Object.items at hmem ⊢
  cases hpayload : o.payload with
  | list items =>
      rw [hsame.content (Or.inr (by rw [hpayload]; rfl)), hpayload]
      rw [hpayload] at hmem
      exact hmem
  | string _ | file _ | directory _ | process _ | program _ =>
      rw [hpayload] at hmem
      cases hmem

theorem Store.Contains.former (h : other.Contains p q) (hcontent : ∃ o o',
    store.objects.get p = some o ∧ other.objects.get p = some o' ∧ o.SameContent o') :
    store.Contains p q := by
  obtain ⟨o, o', ho, ho', hsame⟩ := hcontent
  obtain ⟨l, hl, hmem⟩ := h
  rw [ho'] at hl
  cases hl
  have hlist : o'.payload.type = .list := by
    unfold Object.items at hmem
    cases hpayload : o'.payload with
    | list items => rfl
    | string _ | file _ | directory _ | process _ | program _ =>
        rw [hpayload] at hmem
        cases hmem
  refine ⟨o, ho, ?_⟩
  unfold Object.items at hmem ⊢
  rwa [← hsame.content (Or.inr (hsame.payload_type.symm.trans hlist))]

-- What a run keeps of all objects below a locked one.
structure Below (p : ObjectRef) (store : Store) (pool : List Hold) (other : Store) : Prop where
  holding : Holding pool other
  held : LockHeld p (pool, other)
  content : ∀ q, Relation.ReflTransGen store.Contains p q → ∃ o o',
    store.objects.get q = some o ∧ other.objects.get q = some o' ∧ o.SameContent o'

theorem Below.lockHeld (h : Below p store pool other)
    (hreach : Relation.ReflTransGen store.Contains p q) : LockHeld q (pool, other) := by
  rcases Relation.ReflTransGen.cases_tail hreach with rfl | ⟨list, hlist, hcontains⟩
  · exact h.held
  · exact (hcontains.kept (h.content list hlist)).lockHeld

theorem Below.start (h : Holding pool store) (hheld : LockHeld p (pool, store)) :
    Below p store pool store := by
  refine ⟨h, hheld, fun q hreach => ?_⟩
  have hlive : ∃ o, store.objects.get q = some o := by
    rcases Relation.ReflTransGen.cases_tail hreach with rfl | ⟨list, -, hcontains⟩
    · obtain ⟨o, ho, -⟩ := hheld.locked h
      exact ⟨o, ho⟩
    · obtain ⟨o, ho, -⟩ := h.accounted.item_locked hcontains
      exact ⟨o, ho⟩
  obtain ⟨o, ho⟩ := hlive
  exact ⟨o, o, ho, ho, .of_core rfl⟩

theorem Below.step {last : Store} {final : List Hold} (h : Below p store pool other)
    (hstep : ObjectStep array grow (pool, other) (final, last)) (hheld : LockHeld p (final, last)) :
    Below p store final last := by
  have hholding := hstep.holding h.holding
  have hone : ∀ q, Relation.ReflTransGen store.Contains p q → LockHeld q (final, last) →
      ∃ o o', store.objects.get q = some o ∧ last.objects.get q = some o' ∧ o.SameContent o' := by
    intro q hreach hheld
    obtain ⟨o, o', ho, ho', hsame⟩ := h.content q hreach
    obtain ⟨found, hfound, hlocked, -⟩ := (h.lockHeld hreach).locked h.holding
    rw [ho'] at hfound
    cases hfound
    obtain ⟨o'', ho'', -⟩ := hheld.locked hholding
    exact ⟨o, o'', ho, ho'', hsame.trans (hstep.sameContent hlocked ho' ho'')⟩
  refine ⟨hholding, hheld, fun q hreach => ?_⟩
  -- along the way from the locked object
  induction hreach with
  | refl => exact hone p .refl hheld
  | tail hfirst hcontains ih =>
      exact hone _ (hfirst.tail hcontains) (hcontains.kept ih).lockHeld

theorem holding_of_objectSteps
    (h : Relation.ReflTransGen (ObjectStep array grow) ([], Store.init) (pool, store)) :
    Holding pool store := by
  generalize hlast : (pool, store) = last at h
  induction h generalizing pool store with
  | refl =>
      cases hlast
      exact .init
  | tail _ hstep ih =>
      subst hlast
      exact hstep.holding (ih rfl)

-- While somebody holds a lock on an object.
theorem locked_objects_protected
    (hreached : Relation.ReflTransGen (ObjectStep array grow) ([], Store.init) (pool, store))
    (hheld : LockHeld p (pool, store))
    (hrun : Relation.ReflTransGen (fun before after =>
      ObjectStep array grow before after ∧ LockHeld p after) (pool, store) (next, other)) :
    ∀ q, Relation.ReflTransGen store.Contains p q →
      store.Protects other q ∧ ∀ r, other.Contains q r ↔ store.Contains q r := by
  have hbelow : Below p store next other := by
    generalize hlast : (next, other) = last at hrun
    induction hrun generalizing next other with
    | refl =>
        cases hlast
        exact .start (holding_of_objectSteps hreached) hheld
    | tail _ hstep ih =>
        subst hlast
        exact (ih rfl).step hstep.1 hstep.2
  intro q hreach
  have hcontent := hbelow.content q hreach
  obtain ⟨o', ho', hlocked, hle⟩ := (hbelow.lockHeld hreach).locked hbelow.holding
  exact ⟨⟨hcontent, o', ho', hlocked, hle⟩,
    fun r => ⟨fun h => h.former hcontent, fun h => h.kept hcontent⟩⟩

end Protection

section Examples

-- A client puts a String into a list, and a program takes the list as its arguments.
def argumentsStore : Store :=
  (lockedHold 1).acquire (listAppendTo none 1 1 (((sessionCreate ⟨true, none, none, none⟩ 10
    Store.init).2.createObject ⟨true, none⟩ (.string string15) (some 0)
      OBJECT_CREATE_FLAG_EXTERNAL).2.createObject ⟨true, none⟩ (.list []) (some 0)
        OBJECT_CREATE_FLAG_EXTERNAL).2).2

-- Then it tries to write to the String.
def writtenStore : Store :=
  (storeFunction .byIndex growTo16 succeeding .truncateString Members.zero (some 0) none
    argumentsStore).2

theorem argumentsStore_protected : argumentsStore.Contains 1 0 ∧
    ∀ q, Relation.ReflTransGen argumentsStore.Contains 1 q →
      argumentsStore.Protects writtenStore q ∧
        ∀ r, writtenStore.Contains q r ↔ argumentsStore.Contains q r := by
  have hheld : ∀ store : Store, LockHeld 1 ([lockedHold 1], store) :=
    fun _ => Or.inl List.mem_cons_self
  refine ⟨⟨_, rfl, List.mem_cons_self⟩, @locked_objects_protected .byIndex growTo16 [lockedHold 1]
    [lockedHold 1] argumentsStore writtenStore 1 ?_ (hheld _)
    (.single ⟨.write _ _ _ _ _ _ (Or.inl rfl), hheld _⟩)⟩
  refine ((((Relation.ReflTransGen.refl.tail
    (.sessionCreate [] _ ⟨true, none, none, none⟩ 10)).tail
    (.created [] _ ⟨true, none⟩ (.string string15) (some 0) OBJECT_CREATE_FLAG_EXTERNAL 0 rfl
      (fun _ hmem => absurd hmem List.not_mem_nil) rfl)).tail
    (.created [] _ ⟨true, none⟩ (.list []) (some 0) OBJECT_CREATE_FLAG_EXTERNAL 1 rfl
      (fun _ hmem => absurd hmem List.not_mem_nil) rfl)).tail
    (.listAppendTo [] _ none 1 1 _ rfl rfl)).tail (.acquire [] _ (lockedHold 1) ?_)
  intro hnone
  cases hnone

end Examples

end RedApid

import RedApid.Store.Undo
import RedApid.String.Content

namespace RedApid

open Memory

-- The outcomes of the calls in inventory_get_stock_string: those of string_wrap, and array_append
-- for the array of the stock strings.
structure StockOutcome where
  string : StringOutcome
  append : Option APIError

section Functions

variable (array : ArrayRemove) (grow : GrowAllocation)

-- The loop over the stock strings.
def Store.stockString (store : Store) (buffer : CString) : Option ObjectRef :=
  store.stockStrings.find? fun candidate => store.text candidate = buffer

def Store.appendStock (store : Store) (string : ObjectRef) : Store :=
  { store with stockStrings := store.stockStrings ++ [string] }

def inventoryGetStockString (outcome : StockOutcome) (buffer : CString) (store : Store) :
    Except APIE ObjectRef × Store :=
  match store.stockString buffer with
  | some candidate => (.ok candidate, (lockedHold candidate).acquire store)
  | none =>
      match stringWrapObject grow outcome.string buffer none ownedFlags store with
      | (.error code, store) => (.error code, store)
      | (.ok string, store) =>
          match outcome.append with
          | some code => (.error code, (lockedHold string).release array store)
          | none => (.ok string, (lockedHold string).acquire (store.appendStock string))

-- The references that the array of the stock strings keeps.
def Store.stockHolds (store : Store) : List Hold := store.stockStrings.map lockedHold

-- The steps of the holders, none of which gives back a stock string, and those that ask for one.
inductive StockStep : List Hold × Store → List Hold × Store → Prop where
  | clean {pool next : List Hold} {store other : Store}
      (step : CleanStep array (pool ++ store.stockHolds, store) (next ++ store.stockHolds, other)) :
      StockStep (pool, store) (next, other)
  | got (pool : List Hold) (store : Store) (outcome : StockOutcome) (buffer : CString)
      (string : ObjectRef)
      (ok : (inventoryGetStockString array grow outcome buffer store).1 = .ok string) :
      StockStep (pool, store)
        (lockedHold string :: pool, (inventoryGetStockString array grow outcome buffer store).2)
  | notGot (pool : List Hold) (store : Store) (outcome : StockOutcome) (buffer : CString) (code : APIE)
      (error : (inventoryGetStockString array grow outcome buffer store).1 = .error code) :
      StockStep (pool, store)
        (pool, (inventoryGetStockString array grow outcome buffer store).2)

end Functions

section Texts

variable {grow : GrowAllocation}

theorem StringObject.Readable.text {string : StringObject} (h : string.Readable) :
    cString (string.buffer.text string.buffer.size) = string.content := by
  have hle := h.length_le_allocated
  rw [← h.size_eq] at hle
  have hnonzero := @Block.IsStrlen.text_ne_zero string.buffer _ h.isStrlen
  unfold cString StringObject.content
  by_cases hsize : string.length = string.buffer.size
  · rw [← hsize]
    exact List.takeWhile_eq_self_iff.mpr fun byte hmem => decide_eq_true (hnonzero byte hmem)
  have hlt : string.length < string.buffer.size := by omega
  have hsplit : string.buffer.text string.buffer.size =
      string.buffer.text string.length ++ 0 :: (string.buffer.text string.buffer.size).drop
        (string.length + 1) := by
    have hdrop := List.take_append_drop string.length (string.buffer.text string.buffer.size)
    rw [Block.text_take _ _ _ hle, List.drop_eq_getElem_cons (by simpa using hlt)] at hdrop
    have hzero : (string.buffer.text string.buffer.size)[string.length]? = some 0 := by
      rw [Block.text_getElem?, if_pos hlt, h.isStrlen.1]
    rw [List.getElem?_eq_getElem (by simpa using hlt), Option.some_inj] at hzero
    rw [hzero] at hdrop
    exact hdrop.symm
  rw [hsplit, List.takeWhile_append_of_pos fun byte hmem => decide_eq_true (hnonzero byte hmem)]
  simp

-- The buffer holds what was wrapped, unless its length does not fit.
theorem stringWrap_text {outcome : StringCreation} {buffer : CString} {string : StringObject}
    (h : stringWrap grow outcome buffer = .ok string) (hlength : strlen buffer < 4294967296) :
    cString (string.buffer.text string.buffer.size) = cString buffer := by
  rw [(StringObject.wrap_readable h).text]
  simp only [stringWrap] at h
  rw [uint32_of_lt hlength] at h
  split at h
  · cases h
  · split at h
    · cases h
    · cases h
      have hle := strlen_le_length buffer
      unfold StringObject.content StringObject.setContents cString
      rw [← take_strlen]
      dsimp only
      apply List.ext_getElem?
      intro i
      rw [Block.text_getElem?, Block.write_bytes]
      split_ifs with hi
      · rw [Function.update_of_ne (by omega), Block.writeAll_bytes,
          dif_pos ⟨Nat.zero_le i, by rw [List.length_take]; omega⟩]
        exact (List.getElem?_eq_getElem _).symm
      · exact (List.getElem?_eq_none (by rw [List.length_take]; omega)).symm

-- A string that was made for its creator alone.
theorem Store.createString_frame (outcome : StringOutcome) {created : Except APIE StringObject}
    (herror : ∀ code, created = .error code → code ≠ .success) {store : Store} (h : store.Identified) :
    (∃ code, code ≠ .success ∧
        (store.createString outcome created none ownedFlags).1 = .error code ∧
        store.Same (store.createString outcome created none ownedFlags).2) ∨
      ∃ s, created = .ok s ∧
        (store.createString outcome created none ownedFlags).1 = .ok store.objects.next ∧
        store.Owned (store.createString outcome created none ownedFlags).2 store.objects.next
          (.string s) := by
  unfold Store.createString
  cases hcreated : created with
  | error code => exact Or.inl ⟨code, herror code hcreated, rfl, .refl store⟩
  | ok s =>
      rcases createObject_owned_frame outcome.objectCreate (.string s) h with herror | ⟨hok, howned⟩
      · exact Or.inl herror
      · exact Or.inr ⟨s, rfl, hok, howned⟩

theorem Store.createString_ok_iff (outcome : StringOutcome) (created : Except APIE StringObject)
    {store : Store} (h : store.Identified) :
    (∃ string, (store.createString outcome created none ownedFlags).1 = .ok string) ↔
      ((∃ s, created = .ok s) ∧ outcome.objectCreate.append = none) ∧ store.Fits 1 := by
  unfold Store.createString
  cases created with
  | error code => simp
  | ok s =>
      have hiff := createObject_owned_ok_iff outcome.objectCreate (.string s) h
      simpa using hiff

theorem stringWrapObject_frame (outcome : StringOutcome) (buffer : CString) {store : Store}
    (h : store.Identified) :
    (∃ code, code ≠ .success ∧
        (stringWrapObject grow outcome buffer none ownedFlags store).1 = .error code ∧
        store.Same (stringWrapObject grow outcome buffer none ownedFlags store).2) ∨
      ∃ s, stringWrap grow ⟨outcome.memory, outcome.calloc, .success⟩ buffer = .ok s ∧
        (stringWrapObject grow outcome buffer none ownedFlags store).1 = .ok store.objects.next ∧
        store.Owned (stringWrapObject grow outcome buffer none ownedFlags store).2 store.objects.next
          (.string s) :=
  Store.createString_frame outcome (fun _ herror => stringWrap_error rfl herror) h

-- What string_wrap needs besides an ID.
def StringOutcome.Wraps (grow : GrowAllocation) (outcome : StringOutcome) (buffer : CString) : Prop :=
  (∃ s, stringWrap grow ⟨outcome.memory, outcome.calloc, .success⟩ buffer = .ok s) ∧
    outcome.objectCreate.append = none

theorem stringWrapObject_ok_iff (outcome : StringOutcome) (buffer : CString) {store : Store}
    (h : store.Identified) :
    (∃ string, (stringWrapObject grow outcome buffer none ownedFlags store).1 = .ok string) ↔
      outcome.Wraps grow buffer ∧ store.Fits 1 :=
  Store.createString_ok_iff outcome _ h

end Texts

section Sound

variable {array : ArrayRemove} {grow : GrowAllocation} {pool next : List Hold} {store other : Store}
  {payload : Payload} {object : ObjectRef}

theorem Store.Owned.live (h : store.Owned other object payload) : other.objects.get object ≠ none := by
  obtain ⟨id, hnew⟩ := h.new
  simp [hnew]

theorem Sound.createOwned (h : Sound pool store) (outcome : ObjectCreation) (payload : Payload)
    (hholds : payload.holds = [])
    (hok : (store.createObject outcome payload none ownedFlags).1 = .ok store.objects.next) :
    Sound (lockedHold store.objects.next :: pool)
      (store.createObject outcome payload none ownedFlags).2 := by
  have hitems : payload.items = [] := by
    cases payload with
    | list items => exact List.map_eq_nil_iff.mp hholds
    | _ => rfl
  have howned : store.Owned (store.createObject outcome payload none ownedFlags).2
      store.objects.next payload := by
    rcases createObject_owned_frame outcome payload h.identified with ⟨_, _, herror, _⟩ | ⟨_, howned⟩
    · rw [hok] at herror
      cases herror
    · exact howned
  have hstep := @HolderStep.created .exact pool store outcome payload none ownedFlags
    store.objects.next hitems (fun hold hmem => by rw [hholds] at hmem; cases hmem) hok
  rw [hholds, List.nil_append] at hstep
  refine @CleanStep.sound .exact _ _ _ _ ⟨hstep, fun r e he => ?_⟩ h
  rw [howned.references] at he
  have hlive := h.counted.linked.objects.owner_live r e he
  have hne : e.object ≠ store.objects.next := h.counted.references_ne_next r e he
  rw [howned.others e.object hne]
  exact hlive

theorem Sound.appendStock (h : Sound pool store) (string : ObjectRef) :
    Sound pool (store.appendStock string) := by
  have hids : store.NoNewIds (store.appendStock string) :=
    .of_objects rfl (fun _ => .refl _) rfl (.refl _)
  exact ⟨⟨h.holding.accounted.congr (fun _ => rfl) fun _ => rfl,
      ⟨h.holding.shaped.plainApart, h.holding.shaped.acyclic⟩⟩,
    h.counted.congr rfl rfl rfl, hids.identified h.identified, h.listing⟩

theorem Sound.stock_live (h : Sound (pool ++ store.stockHolds) store) {string : ObjectRef}
    (hstring : string ∈ store.stockStrings) :
    ∃ o, store.objects.get string = some o ∧ o.Referenced := by
  have hmem : lockedHold string ∈ pool ++ store.stockHolds :=
    List.mem_append_right _ (List.mem_map_of_mem hstring)
  obtain ⟨o, ho, hpos, -⟩ := (h.holding.accounted.perm (List.perm_cons_erase hmem)).count_pos
  exact ⟨o, ho, Or.inl (by omega)⟩

theorem Store.mem_of_stockString {buffer : CString} (h : store.stockString buffer = some object) :
    object ∈ store.stockStrings ∧ store.text object = buffer := by
  unfold Store.stockString at h
  have htext := List.find?_some h
  exact ⟨List.mem_of_find?_eq_some h, of_decide_eq_true htext⟩

end Sound

section Growth

variable {pool : List Hold} {store other last : Store} {payload : Payload} {object : ObjectRef}
  {count more : Nat} {texts others : CString → Prop}

-- So many more objects, and no other stock strings but those with these texts.
structure Store.Grown (store other : Store) (count : Nat) (texts : CString → Prop) : Prop where
  ids : other.objectIds.length = store.objectIds.length + count
  stock : ∀ buffer, ¬texts buffer → (other.stockString buffer = none ↔ store.stockString buffer = none)
  live : ∀ p, store.objects.get p ≠ none → other.objects.get p ≠ none
  payload : ∀ p, store.objects.get p ≠ none → other.payload p = store.payload p
  sessions : other.sessions = store.sessions

namespace Store.Grown

theorem trans (h : store.Grown other count texts) (h' : other.Grown last more others) :
    store.Grown last (count + more) (fun buffer => texts buffer ∨ others buffer) where
  ids := by rw [h'.ids, h.ids, Nat.add_assoc]
  stock buffer hbuffer := by
    rw [not_or] at hbuffer
    exact (h'.stock buffer hbuffer.2).trans (h.stock buffer hbuffer.1)
  live p hp := h'.live p (h.live p hp)
  payload p hp := (h'.payload p (h.live p hp)).trans (h.payload p hp)
  sessions := h'.sessions.trans h.sessions

theorem text (h : store.Grown other count texts) (hlive : store.objects.get object ≠ none) :
    other.text object = store.text object := by
  unfold Store.text
  rw [h.payload object hlive]

theorem fits (h : store.Grown other count texts) (needed : Nat) :
    other.Fits needed ↔ store.Fits (count + needed) := by
  unfold Store.Fits
  rw [h.ids, Nat.add_assoc]

theorem acquire (store : Store) (hold : Hold) :
    store.Grown (hold.acquire store) 0 (fun _ => False) := by
  have hshape := Store.SameShape.acquire store hold
  have hid : (hold.acquire store).objectId = store.objectId := funext fun p => hshape.map (·.1) p
  refine ⟨?_, fun buffer _ => ?_, fun p hp => ?_, fun p _ => hshape.payload p,
    (Store.SameTables.acquire hold store).sessions⟩
  · unfold Store.objectIds Store.listed
    rw [hshape.objectArray, hid]
    rfl
  · unfold Store.stockString
    simp only [hshape.stockStrings, hshape.text]
  · rw [hold.acquire_eq, Store.modifyObject_get_ne_none]
    exact hp

theorem of_owned (h : Sound (pool ++ store.stockHolds) store) (howned : store.Owned other object payload)
    (hunlisted : object ∉ store.listed) : store.Grown other 1 (fun _ => False) := by
  have hothers : ∀ p, store.objects.get p ≠ none → other.objects.get p = store.objects.get p := by
    intro p hp
    apply howned.others
    rintro rfl
    exact hp howned.fresh
  refine ⟨howned.objectIds hunlisted, fun buffer _ => ?_, fun p hp => ?_, fun p hp => ?_,
    howned.sessions⟩
  · unfold Store.stockString
    rw [howned.stockStrings]
    simp only [List.find?_eq_none]
    refine forall₂_congr fun string hstring => ?_
    obtain ⟨o, ho, -⟩ := h.stock_live hstring
    unfold Store.text Store.payload
    rw [hothers string (by simp [ho])]
  · rw [hothers p hp]
    exact hp
  · unfold Store.payload
    rw [hothers p hp]

theorem appendStock (store : Store) (object : ObjectRef) :
    store.Grown (store.appendStock object) 0 (fun buffer => buffer = store.text object) where
  ids := rfl
  stock buffer hbuffer := by
    unfold Store.stockString Store.appendStock
    simp only [List.find?_append, Option.or_eq_none_iff]
    refine and_iff_left ?_
    simp only [List.find?_singleton, ite_eq_right_iff, reduceCtorEq, imp_false, decide_eq_true_eq]
    exact fun hsame => hbuffer hsame.symm
  live _ hp := hp
  payload _ _ := rfl
  sessions := rfl

end Store.Grown

theorem Store.Identified.next_not_listed (h : store.Identified) : store.objects.next ∉ store.listed :=
  fun hmem => Nat.lt_irrefl _ (h.object_lt _ hmem)

end Growth

section Stock

variable {array : ArrayRemove} {grow : GrowAllocation} {pool : List Hold} {store : Store}

theorem acquire_stockHolds (hold : Hold) (store : Store) :
    (hold.acquire store).stockHolds = store.stockHolds := by
  unfold Store.stockHolds
  rw [(Store.SameTables.acquire hold store).stockStrings]

-- A stock string that is already there, one that is made, or an error that leaves nothing.
inductive StockCases (array : ArrayRemove) (grow : GrowAllocation) (pool : List Hold)
    (outcome : StockOutcome) (buffer : CString) (store : Store) :
    Except APIE ObjectRef × Store → Prop where
  | found (string : ObjectRef) (o : Object) (stock : store.stockString buffer = some string)
      (get : store.objects.get string = some o) (referenced : o.Referenced) :
      StockCases array grow pool outcome buffer store (.ok string, (lockedHold string).acquire store)
  | made (string : ObjectRef) (s : StringObject) (created : Store)
      (unknown : store.stockString buffer = none) (fits : store.Fits 1)
      (wraps : outcome.string.Wraps grow buffer) (append : outcome.append = none)
      (wrap : stringWrap grow ⟨outcome.string.memory, outcome.string.calloc, .success⟩ buffer = .ok s)
      (unlisted : string ∉ store.listed) (owned : store.Owned created string (.string s))
      (sound : Sound (lockedHold string :: (pool ++ store.stockHolds)) created) :
      StockCases array grow pool outcome buffer store
        (.ok string, (lockedHold string).acquire (created.appendStock string))
  | failed (code : APIE) (last : Store) (unknown : store.stockString buffer = none)
      (fails : ¬(outcome.string.Wraps grow buffer ∧ outcome.append = none ∧ store.Fits 1))
      (error : code ≠ .success) (same : store.Same last) :
      StockCases array grow pool outcome buffer store (.error code, last)

theorem Sound.getStock (h : Sound (pool ++ store.stockHolds) store) (hdirect : array.Direct)
    (outcome : StockOutcome) (buffer : CString) :
    StockCases array grow pool outcome buffer store
      (inventoryGetStockString array grow outcome buffer store) := by
  unfold inventoryGetStockString
  cases hstock : store.stockString buffer with
  | some candidate =>
      obtain ⟨o, ho, hreferenced⟩ := h.stock_live (Store.mem_of_stockString hstock).1
      exact .found candidate o hstock ho hreferenced
  | none =>
      have hiff := @stringWrapObject_ok_iff grow outcome.string buffer store h.identified
      rcases @stringWrapObject_frame grow outcome.string buffer store h.identified with
        ⟨code, hcode, herror, hsame⟩ | ⟨s, hwrap, hok, howned⟩
      · rcases hresult : stringWrapObject grow outcome.string buffer none ownedFlags store with
          ⟨code' | string, last⟩
        · rw [hresult] at herror hsame hiff
          cases herror
          refine .failed code last hstock (fun hall => ?_) hcode hsame
          obtain ⟨_, hok⟩ := hiff.mpr ⟨hall.1, hall.2.2⟩
          cases hok
        · rw [hresult] at herror
          cases herror
      · have hsound := h.createOwned outcome.string.objectCreate (.string s) rfl
        have hcreate : stringWrapObject grow outcome.string buffer none ownedFlags store =
            store.createObject outcome.string.objectCreate (.string s) none ownedFlags := by
          unfold stringWrapObject Store.createString
          rw [hwrap]
        rw [hcreate] at hok howned hiff ⊢
        have hsound := hsound hok
        rcases hresult : store.createObject outcome.string.objectCreate (.string s) none ownedFlags
          with ⟨code' | string, created⟩
        · rw [hresult] at hok
          cases hok
        · rw [hresult] at hok howned hiff hsound
          cases hok
          obtain ⟨hwraps, hfits⟩ := hiff.mp ⟨_, rfl⟩
          cases happend : outcome.append with
          | some code =>
              refine .failed code _ hstock (fun hall => ?_) code.property
                (howned.release hdirect rfl (.refl created))
              rw [happend] at hall
              cases hall.2.1
          | none =>
              exact .made _ s created hstock hfits hwraps happend hwrap h.identified.next_not_listed
                howned hsound

namespace StockCases

variable {outcome : StockOutcome} {buffer : CString} {result : Except APIE ObjectRef × Store}
  {string : ObjectRef} {last : Store}

theorem sound (h : StockCases array grow pool outcome buffer store (.ok string, last))
    (hsound : Sound (pool ++ store.stockHolds) store) :
    Sound (lockedHold string :: pool ++ last.stockHolds) last := by
  cases h with
  | found _ o _ ho _ =>
      rw [acquire_stockHolds]
      have hlive : store.objects.get (lockedHold string).object ≠ none := by
        rw [show (lockedHold string).object = string from rfl, ho]
        exact Option.some_ne_none o
      exact hsound.acquire (lockedHold string) hlive
  | made _ s created _ _ _ _ _ _ howned hcreated =>
      rw [acquire_stockHolds]
      have hstock : (created.appendStock string).stockHolds =
          store.stockHolds ++ [lockedHold string] := by
        unfold Store.stockHolds Store.appendStock
        dsimp only
        rw [howned.stockStrings, List.map_append]
        rfl
      rw [hstock]
      refine ((hcreated.appendStock string).acquire (lockedHold string) howned.live).perm ?_
      rw [List.cons_append, ← List.append_assoc]
      refine List.Perm.cons _ ?_
      exact (List.perm_append_singleton (lockedHold string) (pool ++ store.stockHolds)).symm

theorem grown (h : StockCases array grow pool outcome buffer store (.ok string, last))
    (hsound : Sound (pool ++ store.stockHolds) store) (hbuffer : strlen buffer < 4294967296) :
    store.Grown last (if store.stockString buffer = none then 1 else 0) (· = cString buffer) := by
  cases h with
  | found _ o hstock _ _ =>
      rw [hstock, if_neg (Option.some_ne_none string)]
      have hgrown := Store.Grown.acquire store (lockedHold string)
      exact ⟨hgrown.ids, fun text _ => hgrown.stock text id, hgrown.live, hgrown.payload, hgrown.sessions⟩
  | made _ s created hunknown _ _ _ hwrap hunlisted howned _ =>
      rw [if_pos hunknown]
      have htext : created.text string = cString buffer := by
        obtain ⟨id, hnew⟩ := howned.new
        unfold Store.text Store.payload
        rw [hnew]
        exact stringWrap_text hwrap hbuffer
      have hgrown := ((Store.Grown.of_owned hsound howned hunlisted).trans
        (.appendStock created string)).trans (.acquire _ (lockedHold string))
      refine ⟨hgrown.ids, fun text htexts => hgrown.stock text ?_, hgrown.live, hgrown.payload,
        hgrown.sessions⟩
      rintro ((hfalse | hsame) | hfalse)
      · exact hfalse
      · exact htexts (hsame.trans htext)
      · exact hfalse

theorem error_same {code : APIE}
    (h : StockCases array grow pool outcome buffer store (.error code, last)) :
    code ≠ .success ∧ store.Same last := by
  cases h with
  | failed _ _ _ _ hcode hsame => exact ⟨hcode, hsame⟩

end StockCases

theorem Operation.stockStrings (operation : Operation) (store : Store) :
    (operation.run array store).stockStrings = store.stockStrings := by
  cases operation with
  | sessionCreate outcome lifetime => exact (sessionCreate_frame outcome lifetime store).2.2.2.1
  | addExternalReference calloc object session =>
      exact (Store.SameInternals.objectAddExternalReference calloc object session store).stockStrings
  | removeExternalReference object session =>
      exact (Store.KeepsHolds.objectRemoveExternalReference object session store).kept.stockStrings
  | release object session =>
      exact (Store.KeepsHolds.objectRelease object session store).kept.stockStrings
  | addInternalReference object => exact store.modifyObject_stockStrings object _
  | removeInternalReference object =>
      exact (Store.Kept.of_runs (@Store.release_runs array object store)).stockStrings
  | sessionExpire session => exact (Store.KeepsHolds.sessionExpireHelper session store).kept.stockStrings
  | sessionHandleExpire session =>
      exact (Store.KeepsHolds.sessionExpireHelper session store).kept.stockStrings
  | lock object => exact store.modifyObject_stockStrings object _
  | unlock object => exact store.modifyObject_stockStrings object _
  | setPayload object payload => exact store.modifyObject_stockStrings object _

theorem Operation.runAll_stockStrings (operations : List Operation) (store : Store) :
    (Operation.runAll array operations store).stockStrings = store.stockStrings := by
  induction operations generalizing store with
  | nil => rfl
  | cons operation operations ih => exact (ih _).trans (operation.stockStrings store)

theorem HolderStep.stockStrings {next : List Hold} {other : Store}
    (h : HolderStep array (pool, store) (next, other)) : other.stockStrings = store.stockStrings := by
  rcases h.operations with ⟨operations, rfl⟩ | ⟨outcome, payload, session, flags, rfl⟩
  · exact Operation.runAll_stockStrings operations store
  · exact createObject_stockStrings outcome payload session flags store

theorem Sound.sameStock {last : Store} (h : Sound (pool ++ store.stockHolds) last)
    (hstock : last.stockStrings = store.stockStrings) : Sound (pool ++ last.stockHolds) last := by
  unfold Store.stockHolds at h ⊢
  rw [hstock]
  exact h

end Stock

section Failing

variable {array : ArrayRemove} {grow : GrowAllocation} {pool next : List Hold} {store other : Store}

theorem Store.Same.entriesLive (h : store.Same other) (hsound : Sound pool store) :
    other.EntriesLive := by
  intro r e he
  rw [h.tables.references] at he
  rw [h.objects]
  exact hsound.counted.linked.objects.owner_live r e he

theorem Sound.createOwned_error (h : Sound pool store) (outcome : ObjectCreation) (payload : Payload)
    (hholds : payload.holds = []) {code : APIE}
    (herror : (store.createObject outcome payload none ownedFlags).1 = .error code) :
    Sound pool (store.createObject outcome payload none ownedFlags).2 := by
  have hsame : store.Same (store.createObject outcome payload none ownedFlags).2 := by
    rcases createObject_owned_frame outcome payload h.identified with ⟨_, _, _, hsame⟩ | ⟨hok, _⟩
    · exact hsame
    · rw [hok] at herror
      cases herror
  have hstep := @HolderStep.notCreated .exact pool store outcome payload none ownedFlags code herror
  rw [hholds, List.nil_append] at hstep
  exact @CleanStep.sound .exact _ _ _ _ ⟨hstep, hsame.entriesLive h⟩ h

theorem Sound.releaseOwned {created : Store} {object : ObjectRef} {payload : Payload}
    (h : Sound pool store) (hcreated : Sound (lockedHold object :: pool) created)
    (howned : store.Owned created object payload) (hdirect : array.Direct)
    (hholds : payload.holds = []) : Sound pool ((lockedHold object).release array created) := by
  have hsame := howned.release hdirect hholds (.refl created)
  exact @CleanStep.sound array _ _ _ _ ⟨.release pool created (lockedHold object),
    hsame.entriesLive h⟩ hcreated

theorem Sound.notGot (h : Sound (pool ++ store.stockHolds) store) (hdirect : array.Direct)
    (outcome : StockOutcome) (buffer : CString) {code : APIE}
    (herror : (inventoryGetStockString array grow outcome buffer store).1 = .error code) :
    Sound (pool ++ store.stockHolds) (inventoryGetStockString array grow outcome buffer store).2 := by
  unfold inventoryGetStockString at herror ⊢
  cases hstock : store.stockString buffer with
  | some candidate =>
      simp only [hstock] at herror
      cases herror
  | none =>
      simp only [hstock] at herror ⊢
      unfold stringWrapObject Store.createString at herror ⊢
      cases hwrap : stringWrap grow ⟨outcome.string.memory, outcome.string.calloc, .success⟩ buffer with
      | error code => exact h
      | ok s =>
          simp only [hwrap] at herror ⊢
          have hframe := createObject_owned_frame outcome.string.objectCreate (.string s) h.identified
          have hsound := h.createOwned outcome.string.objectCreate (.string s) rfl
          have hfailed := @Sound.createOwned_error _ _ h outcome.string.objectCreate (.string s) rfl
          rcases hresult : store.createObject outcome.string.objectCreate (.string s) none ownedFlags
            with ⟨code' | string, created⟩
          · rw [hresult] at hfailed
            exact hfailed rfl
          · rw [hresult] at hframe hsound
            simp only [hresult] at herror
            obtain ⟨hok, howned⟩ := hframe.resolve_left fun hleft => by
              obtain ⟨_, _, hleft, _⟩ := hleft
              cases hleft
            cases hok
            cases happend : outcome.append with
            | none =>
                rw [happend] at herror
                cases herror
            | some code => exact h.releaseOwned (hsound rfl) howned hdirect rfl

theorem inventoryGetStockString_error_stock (hdirect : array.Direct)
    (h : Sound (pool ++ store.stockHolds) store) {outcome : StockOutcome} {buffer : CString}
    {code : APIE} (herror : (inventoryGetStockString array grow outcome buffer store).1 = .error code) :
    (inventoryGetStockString array grow outcome buffer store).2.stockStrings = store.stockStrings := by
  have hcases := @Sound.getStock array grow pool store h hdirect outcome buffer
  rcases hresult : inventoryGetStockString array grow outcome buffer store with ⟨code' | string, last⟩
  · rw [hresult] at hcases
    exact hcases.error_same.2.tables.stockStrings
  · rw [hresult] at herror
    cases herror

theorem StockStep.sound (hstep : StockStep array grow (pool, store) (next, other))
    (hdirect : array.Direct) (h : Sound (pool ++ store.stockHolds) store) :
    Sound (next ++ other.stockHolds) other := by
  cases hstep with
  | clean step => exact (step.sound h).sameStock step.1.stockStrings
  | got _ _ outcome buffer string ok =>
      have hcases := @Sound.getStock array grow pool store h hdirect outcome buffer
      rcases hresult : inventoryGetStockString array grow outcome buffer store with
        ⟨code | string', last⟩
      · rw [hresult] at ok
        cases ok
      · rw [hresult] at ok hcases
        cases ok
        exact hcases.sound h
  | notGot _ _ outcome buffer code error =>
      exact (h.notGot hdirect outcome buffer error).sameStock
        (inventoryGetStockString_error_stock hdirect h error)

theorem sound_of_stockSteps (hdirect : array.Direct)
    (h : Relation.ReflTransGen (StockStep array grow) ([], Store.init) (pool, store)) :
    Sound (pool ++ store.stockHolds) store := by
  generalize hlast : (pool, store) = last at h
  induction h generalizing pool store with
  | refl =>
      cases hlast
      exact .init
  | tail _ hstep ih =>
      subst hlast
      exact hstep.sound hdirect (ih rfl)

end Failing

end RedApid

import RedApid.Store.Stock

namespace RedApid

open Memory

section Takes

variable {α : Type} {array : ArrayRemove} {holds inner : α → List Hold} {store other : Store}
  {ok new ok' new' : Prop} {result : Except APIE α × Store}

-- What a call takes from a store can be given back, and an error leaves nothing behind, unless a new
-- stock string was made on the way.
structure Takes (array : ArrayRemove) (holds : α → List Hold) (ok new : Prop) (store : Store)
    (result : Except APIE α × Store) : Prop where
  ok_iff : (∃ a, result.1 = .ok a) ↔ ok
  code : ∀ code, result.1 = .error code → code ≠ .success
  stock : store.stockStrings <+: result.2.stockStrings
  stock_iff : result.2.stockStrings ≠ store.stockStrings ↔ new
  error : ∀ code, result.1 = .error code → ¬new → store.Same result.2
  undo : ∀ a, result.1 = .ok a → ¬new → ∀ other, result.2.Same other →
    store.Same (releaseAll array (holds a) other)

namespace Takes

theorem congr (h : Takes array holds ok new store result) (hok : ok ↔ ok') (hnew : new ↔ new') :
    Takes array holds ok' new' store result where
  ok_iff := h.ok_iff.trans hok
  code := h.code
  stock := h.stock
  stock_iff := h.stock_iff.trans hnew
  error code hcode hnot := h.error code hcode fun hn => hnot (hnew.mp hn)
  undo a ha hnot := h.undo a ha fun hn => hnot (hnew.mp hn)

theorem pure (a : α) (hholds : holds a = []) (store : Store) :
    Takes array holds True False store (.ok a, store) where
  ok_iff := iff_true_intro ⟨a, rfl⟩
  code _ h := (nomatch h)
  stock := List.prefix_rfl
  stock_iff := iff_of_false (fun h => h rfl) id
  error _ h := (nomatch h)
  undo b hb _ other hsame := by
    cases hb
    rw [hholds]
    exact hsame

theorem refused {code : APIE} (hcode : code ≠ .success) (store : Store) :
    Takes array holds False False store (.error code, store) where
  ok_iff := iff_of_false (fun ⟨_, h⟩ => (nomatch h)) id
  code _ h := by
    cases h
    exact hcode
  stock := List.prefix_rfl
  stock_iff := iff_of_false (fun h => h rfl) id
  error _ _ _ := .refl store
  undo _ h := (nomatch h)

theorem failed {code : APIE} (hcode : code ≠ .success) (hsame : store.Same other) :
    Takes array holds False False store (.error code, other) where
  ok_iff := iff_of_false (fun ⟨_, h⟩ => (nomatch h)) id
  code _ h := by
    cases h
    exact hcode
  stock := by
    rw [hsame.tables.stockStrings]
  stock_iff := iff_of_false (fun h => h hsame.tables.stockStrings) id
  error _ _ _ := hsame
  undo _ h := (nomatch h)

end Takes

theorem releaseAll_stockStrings (array : ArrayRemove) (holds : List Hold) (store : Store) :
    (releaseAll array holds store).stockStrings = store.stockStrings :=
  (releaseAll_kept array holds store).1.stockStrings

theorem Hold.release_stockStrings (array : ArrayRemove) (hold : Hold) (store : Store) :
    (hold.release array store).stockStrings = store.stockStrings :=
  (Store.Kept.of_runs (@Hold.release_runs array hold store)).stockStrings

-- What grows twice is different if it is different once.
theorem grown_ne_iff {first middle last : List ObjectRef} (h : first <+: middle) (h' : middle <+: last) :
    last ≠ first ↔ middle ≠ first ∨ last ≠ middle := by
  constructor
  · intro hne
    by_cases hsame : middle = first
    · exact Or.inr fun h => hne (h.trans hsame)
    · exact Or.inl hsame
  · rintro (hne | hne) hsame
    · rw [hsame] at h'
      exact hne (h'.eq_of_length_le h.length_le)
    · rw [← hsame] at h
      exact hne (h.eq_of_length_le h'.length_le)

-- What is taken first is given back last.
theorem Takes.acquiring {taken : Except APIE ObjectRef × Store}
    {body : ObjectRef → Store → Except APIE α × Store}
    (htaken : Takes array (fun object => [lockedHold object]) ok new store taken)
    (hbody : ∀ object, taken.1 = .ok object → Takes array inner ok' new' taken.2 (body object taken.2))
    (hholds : ∀ object a, taken.1 = .ok object → (body object taken.2).1 = .ok a →
      holds a = inner a ++ [lockedHold object]) :
    Takes array holds (ok ∧ ok') (new ∨ ok ∧ new') store (acquiring array true taken body) := by
  rcases taken with ⟨code | object, last⟩
  · have hok : ¬ok := fun hok => by
      obtain ⟨_, h⟩ := htaken.ok_iff.mpr hok
      cases h
    change Takes array holds _ _ store (.error code, last)
    exact ⟨iff_of_false (fun ⟨_, h⟩ => (nomatch h)) fun h => hok h.1,
      fun code' h => htaken.code code' (by cases h; rfl), htaken.stock,
      htaken.stock_iff.trans (or_iff_left fun h => hok h.1).symm,
      fun code' h hnew => htaken.error code' (by cases h; rfl) fun hn => hnew (Or.inl hn),
      fun _ h => (nomatch h)⟩
  · have hok : ok := htaken.ok_iff.mp ⟨object, rfl⟩
    have hinner := hbody object rfl
    have hholds := fun a => hholds object a rfl
    have hstock : last.stockStrings ≠ store.stockStrings ↔ new := htaken.stock_iff
    dsimp only at hinner hholds
    change Takes array holds _ _ store (Hold.cleanup array ⟨object, true⟩ (body object last))
    have hgrown : store.stockStrings <+: (body object last).2.stockStrings :=
      htaken.stock.trans hinner.stock
    have hnew : (body object last).2.stockStrings ≠ store.stockStrings ↔ new ∨ ok ∧ new' := by
      rw [and_iff_right hok, ← hstock, ← hinner.stock_iff]
      exact grown_ne_iff htaken.stock hinner.stock
    have hundo : ∀ other, ¬(new ∨ ok ∧ new') → last.Same other →
        store.Same ((lockedHold object).release array other) :=
      fun other hnot hsame => htaken.undo object rfl (fun hn => hnot (Or.inl hn)) other hsame
    rcases hresult : body object last with ⟨code | a, final⟩
    · rw [hresult] at hinner hgrown hnew
      change Takes array holds _ _ store (.error code, (lockedHold object).release array final)
      have hkept := Hold.release_stockStrings array (lockedHold object) final
      refine ⟨iff_of_false (fun ⟨_, h⟩ => (nomatch h)) fun h => ?_, fun code' h => ?_, ?_, ?_,
        fun code' h hnot => ?_, fun _ h => (nomatch h)⟩
      · obtain ⟨_, h⟩ := hinner.ok_iff.mpr h.2
        cases h
      · exact hinner.code code' (by cases h; rfl)
      · rw [hkept]
        exact hgrown
      · rw [hkept]
        exact hnew
      · exact hundo final hnot (hinner.error code rfl fun hn => hnot (Or.inr ⟨hok, hn⟩))
    · rw [hresult] at hinner hgrown hnew
      have hholds := hholds a (congrArg Prod.fst hresult)
      change Takes array holds _ _ store (.ok a, final)
      refine ⟨iff_of_true ⟨a, rfl⟩ ⟨hok, hinner.ok_iff.mp ⟨a, rfl⟩⟩, fun _ h => (nomatch h), hgrown, hnew,
        fun _ h => (nomatch h), fun b hb hnot other hsame => ?_⟩
      cases hb
      have hback := hinner.undo a rfl (fun hn => hnot (Or.inr ⟨hok, hn⟩)) other hsame
      rw [hholds]
      unfold releaseAll at hback ⊢
      rw [List.foldl_append]
      exact hundo _ hnot hback

end Takes

section Steps

variable {array : ArrayRemove} {grow : GrowAllocation} {pool : List Hold} {store : Store}
  {payload : Payload}

-- What is needed for a stock string.
def StockOutcome.Gets (grow : GrowAllocation) (outcome : StockOutcome) (buffer : CString)
    (store : Store) : Prop :=
  store.stockString buffer ≠ none ∨
    outcome.string.Wraps grow buffer ∧ outcome.append = none ∧ store.Fits 1

-- One more reference to an object that has some.
theorem Takes.found {object : ObjectRef} {o : Object} (ho : store.objects.get object = some o)
    (hreferenced : o.Referenced) :
    Takes array (fun object => [lockedHold object]) True False store
      (.ok object, (lockedHold object).acquire store) := by
  have htables := Store.SameTables.acquire (lockedHold object) store
  refine ⟨iff_of_true ⟨object, rfl⟩ trivial, fun _ hcode => (nomatch hcode), ?_, ?_,
    fun _ hcode => (nomatch hcode), fun a ha _ other hsame => ?_⟩
  · rw [htables.stockStrings]
  · exact iff_of_false (fun hne => hne htables.stockStrings) id
  · cases ha
    obtain ⟨hobjects, hback⟩ := @Hold.release_undoes array (lockedHold object) o store other ho
      hreferenced hsame.objects
    exact ⟨hobjects, (htables.trans hsame.tables).trans hback⟩

theorem Sound.takes_stock (h : Sound (pool ++ store.stockHolds) store) (hdirect : array.Direct)
    (outcome : StockOutcome) (buffer : CString) :
    Takes array (fun string => [lockedHold string]) (outcome.Gets grow buffer store)
      (store.stockString buffer = none ∧ outcome.Gets grow buffer store) store
      (inventoryGetStockString array grow outcome buffer store) := by
  have hcases := @Sound.getStock array grow pool store h hdirect outcome buffer
  generalize inventoryGetStockString array grow outcome buffer store = result at hcases
  cases hcases with
  | found string o hstock ho hreferenced =>
      have hknown : store.stockString buffer ≠ none := by
        rw [hstock]
        exact Option.some_ne_none string
      exact (Takes.found ho hreferenced).congr (iff_of_true trivial (Or.inl hknown))
        (iff_of_false id fun hnew => hknown hnew.1)
  | made string s created hunknown hfits hwraps happend _ _ howned _ =>
      have hgets : outcome.Gets grow buffer store := Or.inr ⟨hwraps, happend, hfits⟩
      have hstock : ((lockedHold string).acquire (created.appendStock string)).stockStrings =
          store.stockStrings ++ [string] := by
        rw [(Store.SameTables.acquire (lockedHold string) _).stockStrings]
        exact congrArg (· ++ [string]) howned.stockStrings
      refine ⟨iff_of_true ⟨string, rfl⟩ hgets, fun _ hcode => (nomatch hcode), ?_, ?_,
        fun _ hcode => (nomatch hcode), fun _ _ hnot => absurd ⟨hunknown, hgets⟩ hnot⟩
      · rw [hstock]
        exact List.prefix_append _ _
      · refine iff_of_true (fun hsame => ?_) ⟨hunknown, hgets⟩
        have hlength := congrArg List.length (hstock.symm.trans hsame)
        simp at hlength
  | failed code last hunknown hfails hcode hsame =>
      have hnot : ¬outcome.Gets grow buffer store := fun hgets =>
        hgets.elim (fun hknown => hknown hunknown) hfails
      exact (Takes.failed hcode hsame).congr (iff_of_false id hnot)
        (iff_of_false id fun hnew => hnot hnew.2)

-- An object that is created for its creator alone.
theorem Takes.created {result : Except APIE ObjectRef × Store} {created : ObjectRef}
    (hdirect : array.Direct) (hholds : payload.holds = [])
    (hcases : (∃ code, code ≠ .success ∧ result.1 = .error code ∧ store.Same result.2) ∨
      result.1 = .ok created ∧ store.Owned result.2 created payload) :
    Takes array (fun object => [lockedHold object]) (∃ object, result.1 = .ok object) False store
      result := by
  rcases result with ⟨code | object, last⟩
  · obtain ⟨code', hcode, herror, hsame⟩ := hcases.resolve_right fun hok => (nomatch hok.1)
    cases herror
    exact (Takes.failed hcode hsame).congr (iff_of_false id fun ⟨_, hok⟩ => (nomatch hok)) Iff.rfl
  · obtain ⟨hok, howned⟩ := hcases.resolve_left fun ⟨_, _, herror, _⟩ => (nomatch herror)
    cases hok
    refine ⟨Iff.rfl, fun _ hcode => (nomatch hcode), ?_, ?_, fun _ hcode => (nomatch hcode),
      fun a ha _ other hsame => ?_⟩
    · change store.stockStrings <+: last.stockStrings
      rw [howned.stockStrings]
    · exact iff_of_false (fun hne => hne howned.stockStrings) id
    · cases ha
      exact howned.release hdirect hholds hsame

def ListCreation.Allocates (outcome : ListCreation) : Prop :=
  outcome.calloc = true ∧ outcome.arrayCreate = none ∧ outcome.objectCreate.append = none

theorem listAllocate_cases (outcome : ListCreation) (h : Sound pool store) :
    (∃ code, code ≠ .success ∧ ¬(outcome.Allocates ∧ store.Fits 1) ∧
        (listAllocate outcome none ownedFlags store).1 = .error code ∧
        store.Same (listAllocate outcome none ownedFlags store).2) ∨
      outcome.Allocates ∧ store.Fits 1 ∧
        listAllocate outcome none ownedFlags store =
          store.createObject outcome.objectCreate (.list []) none ownedFlags ∧
        (listAllocate outcome none ownedFlags store).1 = .ok store.objects.next ∧
        store.Owned (listAllocate outcome none ownedFlags store).2 store.objects.next (.list []) := by
  unfold listAllocate ListCreation.Allocates
  cases hcalloc : outcome.calloc with
  | false => exact Or.inl ⟨.noFreeMemory, by decide, fun hall => (nomatch hall.1.1), rfl, .refl store⟩
  | true =>
      cases hcreate : outcome.arrayCreate with
      | some code =>
          exact Or.inl ⟨code, code.property, fun hall => (nomatch hall.1.2.1), rfl, .refl store⟩
      | none =>
          have hiff := createObject_owned_ok_iff outcome.objectCreate (.list []) h.identified
          rcases createObject_owned_frame outcome.objectCreate (.list []) h.identified with
            ⟨code, hcode, herror, hsame⟩ | ⟨hok, howned⟩
          · refine Or.inl ⟨code, hcode, fun hall => ?_, herror, hsame⟩
            obtain ⟨_, hok⟩ := hiff.mpr ⟨hall.1.2.2, hall.2⟩
            rw [herror] at hok
            cases hok
          · obtain ⟨happend, hfits⟩ := hiff.mp ⟨_, hok⟩
            exact Or.inr ⟨⟨rfl, rfl, happend⟩, hfits, rfl, hok, howned⟩

theorem Sound.takes_list (h : Sound pool store) (hdirect : array.Direct) (outcome : ListCreation) :
    Takes array (fun list => [lockedHold list]) (outcome.Allocates ∧ store.Fits 1) False store
      (listAllocate outcome none ownedFlags store) := by
  rcases listAllocate_cases outcome h with
    ⟨code, hcode, hnot, herror, hsame⟩ | ⟨hallocates, hfits, -, hok, howned⟩
  · refine (@Takes.created array store (.list []) _ store.objects.next hdirect rfl
      (Or.inl ⟨code, hcode, herror, hsame⟩)).congr (iff_of_false ?_ hnot) Iff.rfl
    rintro ⟨object, hok⟩
    rw [herror] at hok
    cases hok
  · exact (Takes.created hdirect rfl (Or.inr ⟨hok, howned⟩)).congr
      (iff_of_true ⟨_, hok⟩ ⟨hallocates, hfits⟩) Iff.rfl

theorem Sound.allocated (h : Sound pool store) {outcome : ListCreation} {list : ObjectRef}
    (hok : (listAllocate outcome none ownedFlags store).1 = .ok list) :
    Sound (lockedHold list :: pool) (listAllocate outcome none ownedFlags store).2 ∧
      list ∉ store.listed ∧
      store.Owned (listAllocate outcome none ownedFlags store).2 list (.list []) := by
  rcases listAllocate_cases outcome h with ⟨code, -, -, herror, -⟩ | ⟨-, -, hsame, hok', howned⟩
  · rw [herror] at hok
    cases hok
  · rw [hok'] at hok
    cases hok
    rw [hsame] at hok' howned ⊢
    exact ⟨h.createOwned outcome.objectCreate (.list []) rfl hok', h.identified.next_not_listed, howned⟩

end Steps

end RedApid

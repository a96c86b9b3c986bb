import RedApid.Store.Taking

namespace RedApid

open Memory

section Demands

-- What a step needs: a call that may fail, an object that it makes, or a stock string that it makes
-- if there is none.
inductive Demand where
  | call (possible : Prop)
  | object (possible : Prop)
  | stock (buffer : CString) (possible : Prop)

namespace Demand

variable (store : Store) (count : Nat)

def texts : Demand → List CString
  | stock buffer _ => [buffer]
  | _ => []

-- The number of objects that the step makes.
def made : Demand → Nat
  | call _ => 0
  | object _ => 1
  | stock buffer _ => if store.stockString buffer = none then 1 else 0

-- Behind so many new objects.
def Met : Demand → Prop
  | call possible => possible
  | object possible => possible ∧ store.Fits (count + 1)
  | stock buffer possible => store.stockString buffer ≠ none ∨ possible ∧ store.Fits (count + 1)

-- Nobody gives a new stock string back.
def Stays : Demand → Prop
  | stock buffer _ => store.stockString buffer = none
  | _ => False

end Demand

variable (store : Store)

def made (demands : List Demand) : Nat := (demands.map (·.made store)).sum

def AllMet : Nat → List Demand → Prop
  | _, [] => True
  | count, demand :: demands =>
      demand.Met store count ∧ AllMet (count + demand.made store) demands

-- One of the steps that are done makes a new stock string.
def Leaves : Nat → List Demand → Prop
  | _, [] => False
  | count, demand :: demands =>
      demand.Met store count ∧ (demand.Stays store ∨ Leaves (count + demand.made store) demands)

variable {store}

theorem made_append (first second : List Demand) :
    made store (first ++ second) = made store first + made store second := by
  unfold made
  rw [List.map_append, List.sum_append]

theorem made_cons (demand : Demand) (demands : List Demand) :
    made store (demand :: demands) = demand.made store + made store demands := by
  unfold made
  rw [List.map_cons, List.sum_cons]

theorem allMet_append (first second : List Demand) (count : Nat) :
    AllMet store count (first ++ second) ↔
      AllMet store count first ∧ AllMet store (count + made store first) second := by
  induction first generalizing count with
  | nil => exact (and_iff_right trivial).symm
  | cons demand first ih =>
      change demand.Met store count ∧ AllMet store (count + demand.made store) (first ++ second) ↔
        (demand.Met store count ∧ AllMet store (count + demand.made store) first) ∧ _
      rw [ih, and_assoc, made_cons, Nat.add_assoc]

theorem leaves_append (first second : List Demand) (count : Nat) :
    Leaves store count (first ++ second) ↔
      Leaves store count first ∨
        AllMet store count first ∧ Leaves store (count + made store first) second := by
  induction first generalizing count with
  | nil =>
      change Leaves store count second ↔ False ∨ True ∧ Leaves store (count + 0) second
      rw [false_or, true_and, Nat.add_zero]
  | cons demand first ih =>
      change demand.Met store count ∧
          (demand.Stays store ∨ Leaves store (count + demand.made store) (first ++ second)) ↔
        demand.Met store count ∧
            (demand.Stays store ∨ Leaves store (count + demand.made store) first) ∨
          (demand.Met store count ∧ AllMet store (count + demand.made store) first) ∧ _
      rw [ih, made_cons, Nat.add_assoc]
      constructor
      · rintro ⟨hmet, hstays | hleaves | hall⟩
        · exact Or.inl ⟨hmet, Or.inl hstays⟩
        · exact Or.inl ⟨hmet, Or.inr hleaves⟩
        · exact Or.inr ⟨⟨hmet, hall.1⟩, hall.2⟩
      · rintro (⟨hmet, hstays | hleaves⟩ | ⟨⟨hmet, hall⟩, hlast⟩)
        · exact ⟨hmet, Or.inl hstays⟩
        · exact ⟨hmet, Or.inr (Or.inl hleaves)⟩
        · exact ⟨hmet, Or.inr (Or.inr ⟨hall, hlast⟩)⟩

end Demands

section Ready

variable {pool : List Hold} {store reached other : Store} {before : List Demand} {object : ObjectRef}
  {payload : Payload}

-- A state behind some steps.
structure Ready (pool : List Hold) (store : Store) (before : List Demand) (reached : Store) : Prop where
  sound : Sound (pool ++ reached.stockHolds) reached
  grown : store.Grown reached (made store before) (· ∈ before.flatMap Demand.texts)

namespace Ready

theorem start (h : Sound (pool ++ store.stockHolds) store) : Ready pool store [] store where
  sound := h
  grown := ⟨rfl, fun _ _ => Iff.rfl, fun _ hp => hp, fun _ _ => rfl, rfl⟩

theorem fits (h : Ready pool store before reached) :
    reached.Fits 1 ↔ store.Fits (made store before + 1) := h.grown.fits 1

theorem call (h : Ready pool store before reached) (possible : Prop) :
    Ready pool store (before ++ [.call possible]) reached := by
  have hmade : made store (before ++ [.call possible]) = made store before := by
    rw [made_append]
    rfl
  have htexts : (before ++ [Demand.call possible]).flatMap Demand.texts =
      before.flatMap Demand.texts := by
    rw [List.flatMap_append]
    exact List.append_nil _
  refine ⟨h.sound, ?_⟩
  rw [hmade, htexts]
  exact h.grown

theorem acquire (h : Ready pool store before reached) (hold : Hold)
    (hlive : reached.objects.get hold.object ≠ none) :
    Ready (hold :: pool) store before (hold.acquire reached) := by
  refine ⟨?_, ?_⟩
  · rw [acquire_stockHolds]
    exact h.sound.acquire hold hlive
  · have hgrown := h.grown.trans (.acquire reached hold)
    refine ⟨hgrown.ids, fun buffer hbuffer => hgrown.stock buffer ?_, hgrown.live, hgrown.payload,
      hgrown.sessions⟩
    exact not_or.mpr ⟨hbuffer, id⟩

theorem owned (h : Ready pool store before reached) (howned : reached.Owned other object payload)
    (hunlisted : object ∉ reached.listed)
    (hsound : Sound (lockedHold object :: (pool ++ reached.stockHolds)) other) (possible : Prop) :
    Ready (lockedHold object :: pool) store (before ++ [.object possible]) other := by
  have hmade : made store (before ++ [.object possible]) = made store before + 1 := by
    rw [made_append]
    rfl
  have htexts : (before ++ [Demand.object possible]).flatMap Demand.texts =
      before.flatMap Demand.texts := by
    rw [List.flatMap_append]
    exact List.append_nil _
  refine ⟨?_, ?_⟩
  · unfold Store.stockHolds at hsound ⊢
    rw [howned.stockStrings]
    exact hsound
  · rw [hmade, htexts]
    have hgrown := h.grown.trans (.of_owned h.sound howned hunlisted)
    refine ⟨hgrown.ids, fun buffer hbuffer => hgrown.stock buffer ?_, hgrown.live, hgrown.payload,
      hgrown.sessions⟩
    exact not_or.mpr ⟨hbuffer, id⟩

end Ready

end Ready

section Supplies

variable {α : Type} {array : ArrayRemove} {grow : GrowAllocation} {holds : α → List Hold}
  {demands first second before : List Demand} {pool : List Hold} {store reached : Store}
  {result : Except APIE α × Store}

-- Steps that take what they need, one after the other.
structure Supplies (array : ArrayRemove) (holds : α → List Hold) (demands : List Demand)
    (pool : List Hold) (store : Store) (before : List Demand) (reached : Store)
    (result : Except APIE α × Store) : Prop where
  takes : Takes array holds (AllMet store (made store before) demands)
    (Leaves store (made store before) demands) reached result
  ready : ∀ a, result.1 = .ok a → Ready (holds a ++ pool) store (before ++ demands) result.2

namespace Supplies

theorem pure (h : Ready pool store before reached) (a : α) (hholds : holds a = []) :
    Supplies array holds [] pool store before reached (.ok a, reached) where
  takes := .pure a hholds reached
  ready b hb := by
    cases hb
    rw [hholds, List.append_nil]
    exact h

-- A call that fails and changes nothing, or what follows it.
theorem called {possible : Prop} (h : Ready pool store before reached)
    (hcases : (¬possible ∧ ∃ code, code ≠ .success ∧ result = (.error code, reached)) ∨
      possible ∧ (Ready pool store (before ++ [.call possible]) reached →
        Supplies array holds demands pool store (before ++ [.call possible]) reached result)) :
    Supplies array holds (.call possible :: demands) pool store before reached result := by
  rcases hcases with ⟨hnot, code, hcode, rfl⟩ | ⟨hpossible, hbody⟩
  · refine ⟨(Takes.refused hcode reached).congr (iff_of_false id fun hmet => hnot hmet.1)
      (iff_of_false id fun hleaves => hnot hleaves.1), fun _ ha => (nomatch ha)⟩
  · have hnext := hbody (h.call possible)
    have hmade : made store (before ++ [.call possible]) = made store before := by
      rw [made_append]
      rfl
    refine ⟨hnext.takes.congr ?_ ?_, ?_⟩
    · rw [hmade]
      exact (and_iff_right hpossible).symm
    · rw [hmade]
      exact (or_iff_right id).symm.trans (and_iff_right hpossible).symm
    · rw [List.append_cons]
      exact hnext.ready

theorem guard {outcome : Option APIError} {body : Except APIE α × Store}
    (h : Ready pool store before reached) :
    (Ready pool store (before ++ [.call (outcome = none)]) reached →
      Supplies array holds demands pool store (before ++ [.call (outcome = none)]) reached body) →
    Supplies array holds (.call (outcome = none) :: demands) pool store before reached
      (match outcome with
        | some code => (.error code, reached)
        | none => body) := by
  intro hbody
  apply called h
  cases outcome with
  | some code => exact Or.inl ⟨fun hnone => (nomatch hnone), code, code.property, rfl⟩
  | none => exact Or.inr ⟨rfl, hbody⟩

theorem test {test : Bool} {code : APIE} {body : Except APIE α × Store} (hcode : code ≠ .success)
    (h : Ready pool store before reached)
    (hbody : Ready pool store (before ++ [.call (test = true)]) reached →
      Supplies array holds demands pool store (before ++ [.call (test = true)]) reached body) :
    Supplies array holds (.call (test = true) :: demands) pool store before reached
      (if !test then (.error code, reached) else body) := by
  apply called h
  cases test with
  | false => exact Or.inl ⟨fun htrue => (nomatch htrue), code, hcode, rfl⟩
  | true => exact Or.inr ⟨rfl, hbody⟩

-- The steps of a call and those of what follows.
theorem acquiring (inner : α → List Hold) {taken : Except APIE ObjectRef × Store}
    {body : ObjectRef → Store → Except APIE α × Store}
    (htaken : Supplies array (fun object => [lockedHold object]) first pool store before reached taken)
    (hbody : ∀ object last, Ready (lockedHold object :: pool) store (before ++ first) last →
      Supplies array inner second (lockedHold object :: pool) store (before ++ first) last
        (body object last))
    (hholds : ∀ object last a, (body object last).1 = .ok a → holds a = inner a ++ [lockedHold object]) :
    Supplies array holds (first ++ second) pool store before reached
      (acquiring array true taken body) := by
  have hmade := @made_append store before first
  refine ⟨(Takes.acquiring htaken.takes (fun object hok =>
    (hbody object taken.2 (htaken.ready object hok)).takes)
    fun object a _ ha => hholds object taken.2 a ha).congr ?_ ?_, fun a ha => ?_⟩
  · rw [allMet_append, hmade]
  · rw [leaves_append, hmade]
  · rcases taken with ⟨code | object, last⟩
    · cases ha
    · have hready := (hbody object last (htaken.ready object rfl)).ready a
      change (Hold.cleanup array ⟨object, true⟩ (body object last)).1 = .ok a at ha
      change Ready _ _ _ (Hold.cleanup array ⟨object, true⟩ (body object last)).2
      have hholds := hholds object last a
      rcases hresult : body object last with ⟨code | b, final⟩
      · rw [hresult] at ha
        cases ha
      · rw [hresult] at ha hready hholds
        rw [hholds ha, List.append_assoc, ← List.append_assoc before]
        exact hready ha

end Supplies

def StockOutcome.demand (grow : GrowAllocation) (outcome : StockOutcome) (buffer : CString) : Demand :=
  .stock buffer (outcome.string.Wraps grow buffer ∧ outcome.append = none)

def ListCreation.demand (outcome : ListCreation) : Demand := .object outcome.Allocates

variable (grow) in
theorem Ready.stock (h : Ready pool store before reached) (hdirect : array.Direct)
    (outcome : StockOutcome) {buffer : CString} (hnew : buffer ∉ before.flatMap Demand.texts)
    (hlength : strlen buffer < 4294967296) (hbytes : cString buffer = buffer) :
    Supplies array (fun string => [lockedHold string]) [outcome.demand grow buffer] pool store before
      reached (inventoryGetStockString array grow outcome buffer reached) := by
  have hstock : reached.stockString buffer = none ↔ store.stockString buffer = none :=
    h.grown.stock buffer hnew
  have hgets : outcome.Gets grow buffer reached ↔
      (outcome.demand grow buffer).Met store (made store before) := by
    change reached.stockString buffer ≠ none ∨
        outcome.string.Wraps grow buffer ∧ outcome.append = none ∧ reached.Fits 1 ↔
      store.stockString buffer ≠ none ∨ (outcome.string.Wraps grow buffer ∧ outcome.append = none) ∧
        store.Fits (made store before + 1)
    rw [Ne, hstock, h.fits, and_assoc]
  refine ⟨(h.sound.takes_stock hdirect outcome buffer).congr ?_ ?_, fun string hok => ?_⟩
  · rw [hgets]
    exact (and_iff_left trivial).symm
  · rw [hgets, hstock, and_comm]
    exact and_congr_right fun _ => (or_iff_left id).symm
  · have hcases := @Sound.getStock array grow pool reached h.sound hdirect outcome buffer
    rcases hresult : inventoryGetStockString array grow outcome buffer reached with
      ⟨code | string', last⟩
    · rw [hresult] at hok
      cases hok
    · rw [hresult] at hok hcases
      cases hok
      refine ⟨hcases.sound h.sound, ?_⟩
      have hgrown := h.grown.trans (hcases.grown h.sound hlength)
      rw [made_append, List.flatMap_append]
      refine ⟨hgrown.ids.trans ?_, fun text htext => hgrown.stock text ?_, hgrown.live,
        hgrown.payload, hgrown.sessions⟩
      · simp only [hstock]
        rfl
      · rw [List.mem_append, not_or] at htext
        refine not_or.mpr ⟨htext.1, fun hsame => htext.2 ?_⟩
        rw [hsame, hbytes]
        exact List.mem_singleton_self buffer

theorem Ready.list (h : Ready pool store before reached) (hdirect : array.Direct)
    (outcome : ListCreation) :
    Supplies array (fun list => [lockedHold list]) [outcome.demand] pool store before reached
      (listAllocate outcome none ownedFlags reached) := by
  refine ⟨(h.sound.takes_list hdirect outcome).congr ?_ ?_, fun list hok => ?_⟩
  · rw [h.fits]
    exact (and_iff_left trivial).symm
  · exact iff_of_false id fun hleaves => hleaves.2.elim id id
  · obtain ⟨hsound, hunlisted, howned⟩ := h.sound.allocated hok
    exact h.owned howned hunlisted hsound outcome.Allocates

theorem Ready.string (h : Ready pool store before reached) (hdirect : array.Direct)
    (outcome : StringOutcome) {created : Except APIE StringObject}
    (herror : ∀ code, created = .error code → code ≠ .success) :
    Supplies array (fun string => [lockedHold string])
      [.object ((∃ s, created = .ok s) ∧ outcome.objectCreate.append = none)] pool store before
      reached (reached.createString outcome created none ownedFlags) := by
  have hidentified := h.sound.identified
  have hframe := reached.createString_frame outcome herror hidentified
  have hiff := Store.createString_ok_iff outcome created hidentified
  refine ⟨?_, fun string hok => ?_⟩
  · obtain ⟨payload, hholds, hcases⟩ : ∃ payload : Payload, payload.holds = [] ∧
        ((∃ code, code ≠ .success ∧
          (reached.createString outcome created none ownedFlags).1 = .error code ∧
          reached.Same (reached.createString outcome created none ownedFlags).2) ∨
        (reached.createString outcome created none ownedFlags).1 = .ok reached.objects.next ∧
          reached.Owned (reached.createString outcome created none ownedFlags).2
            reached.objects.next payload) := by
      rcases hframe with herror | ⟨s, -, hok, howned⟩
      · exact ⟨.list [], rfl, Or.inl herror⟩
      · exact ⟨.string s, rfl, Or.inr ⟨hok, howned⟩⟩
    refine (Takes.created hdirect hholds hcases).congr ?_ ?_
    · rw [hiff, h.fits]
      exact (and_iff_left trivial).symm
    · exact iff_of_false id fun hleaves => hleaves.2.elim id id
  · obtain ⟨s, hs, hok', howned⟩ := hframe.resolve_left fun ⟨_, _, herror, _⟩ => by
      rw [hok] at herror
      cases herror
    rw [hok'] at hok
    cases hok
    refine h.owned howned hidentified.next_not_listed ?_ _
    have hcreate : reached.createString outcome created none ownedFlags =
        reached.createObject outcome.objectCreate (.string s) none ownedFlags := by
      unfold Store.createString
      rw [hs]
    rw [hcreate] at hok' ⊢
    exact h.sound.createOwned outcome.objectCreate (.string s) rfl hok'

end Supplies

end RedApid

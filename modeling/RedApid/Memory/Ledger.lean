import Mathlib.Algebra.BigOperators.Group.List.Basic
import Mathlib.Algebra.Ring.Int.Defs
import Mathlib.Tactic.SplitIfs
import RedApid.Memory.Heap

namespace RedApid.Memory

-- Entries that are kept in the lists of their owners. An owner has at hand the sum over
-- the weights of its entries.
structure Ledger (α ε : Type) where
  list : α → List Nat
  count : α → Int
  owner : ε → Nat
  weight : ε → Int

namespace Ledger

variable {α ε : Type} (ledger : Ledger α ε)

def weightAt (entries : Heap ε) (entry : Nat) : Int := (entries.get entry).elim 0 ledger.weight

-- Every list holds exactly the entries of its owner. The sum kept at owner `p` is off by
-- `off p`.
structure Balanced (off : Nat → Int) (owners : Heap α) (entries : Heap ε) : Prop where
  nodup : ∀ p a, owners.get p = some a → (ledger.list a).Nodup
  mem_iff : ∀ p a, owners.get p = some a →
    ∀ r, r ∈ ledger.list a ↔ ∃ e, entries.get r = some e ∧ ledger.owner e = p
  count_eq : ∀ p a, owners.get p = some a →
    ledger.count a = ((ledger.list a).map (ledger.weightAt entries)).sum + off p
  owner_live : ∀ r e, entries.get r = some e → owners.get (ledger.owner e) ≠ none

variable {ledger} {off : Nat → Int} {owners : Heap α} {entries : Heap ε}

theorem Balanced.empty : ledger.Balanced off Heap.empty Heap.empty := by
  constructor <;> simp

section Owners

variable (h : ledger.Balanced off owners entries) {p : Nat} {f : α → α}

include h

theorem Balanced.modify_owner (hlist : ∀ a, ledger.list (f a) = ledger.list a) (amount : Int)
    (hcount : ∀ a, ledger.count (f a) = ledger.count a + amount) :
    ledger.Balanced (Function.update off p (off p + amount)) (owners.modify p f) entries := by
  have hget : ∀ q b, (owners.modify p f).get q = some b → ∃ a, owners.get q = some a ∧
      ledger.list b = ledger.list a ∧
      ledger.count b = ledger.count a + if q = p then amount else 0 := by
    intro q b hb
    rw [Heap.get_modify] at hb
    split_ifs at hb ⊢ with hq
    · obtain ⟨a, ha, rfl⟩ := Option.map_eq_some_iff.mp hb
      exact ⟨a, ha, hlist a, hcount a⟩
    · exact ⟨b, hb, rfl, by omega⟩
  constructor
  · intro q b hb
    obtain ⟨a, ha, hl, -⟩ := hget q b hb
    rw [hl]
    exact h.nodup q a ha
  · intro q b hb r
    obtain ⟨a, ha, hl, -⟩ := hget q b hb
    rw [hl]
    exact h.mem_iff q a ha r
  · intro q b hb
    obtain ⟨a, ha, hl, hc⟩ := hget q b hb
    rw [hl, hc, h.count_eq q a ha, Function.update_apply]
    split_ifs with hq
    · rw [hq]
      omega
    · omega
  · intro r e he
    rw [Heap.get_modify]
    split_ifs
    · exact fun hnone => h.owner_live r e he (Option.map_eq_none_iff.mp hnone)
    · exact h.owner_live r e he

theorem Balanced.alloc_owner {a : α} (hlist : ledger.list a = [])
    (hcount : ledger.count a = off owners.next) :
    ledger.Balanced off (owners.alloc a) entries := by
  constructor
  · intro q b hb
    rw [Heap.get_alloc] at hb
    split_ifs at hb
    · cases hb
      rw [hlist]
      exact List.nodup_nil
    · exact h.nodup q b hb
  · intro q b hb r
    rw [Heap.get_alloc] at hb
    split_ifs at hb with hq
    · cases hb
      rw [hlist]
      refine ⟨fun hr => absurd hr List.not_mem_nil, ?_⟩
      rintro ⟨e, he, rfl⟩
      exact absurd (hq ▸ Heap.get_eq_none_of_next_le owners (Nat.le_refl _)) (h.owner_live r e he)
    · exact h.mem_iff q b hb r
  · intro q b hb
    rw [Heap.get_alloc] at hb
    split_ifs at hb with hq
    · cases hb
      rw [hlist, hcount, hq]
      simp
    · exact h.count_eq q b hb
  · intro r e he
    rw [Heap.get_alloc]
    split_ifs
    · simp
    · exact h.owner_live r e he

theorem Balanced.free_owner (hlist : ∀ a, owners.get p = some a → ledger.list a = []) :
    ledger.Balanced off (owners.free p) entries := by
  have hget : ∀ q b, (owners.free p).get q = some b → owners.get q = some b := by
    intro q b hb
    rw [Heap.get_free] at hb
    split_ifs at hb
    exact hb
  constructor
  · exact fun q b hb => h.nodup q b (hget q b hb)
  · exact fun q b hb => h.mem_iff q b (hget q b hb)
  · exact fun q b hb => h.count_eq q b (hget q b hb)
  · intro r e he
    have hlive := h.owner_live r e he
    rw [Heap.get_free, if_neg]
    · exact hlive
    · -- an owner that still has an entry has it in its list
      intro hq
      obtain ⟨a, ha⟩ := Option.ne_none_iff_exists'.mp hlive
      have hmem := (h.mem_iff _ a ha r).mpr ⟨e, he, rfl⟩
      rw [hlist a (hq ▸ ha)] at hmem
      exact List.not_mem_nil hmem

end Owners

section Entries

variable (h : ledger.Balanced off owners entries) {p r : Nat} {a : α} {e : ε}

include h

-- The sum at an owner does not depend on the entries of other owners.
theorem Balanced.sum_congr (ha : owners.get p = some a) (other : Heap ε)
    (hsame : ∀ r e, entries.get r = some e → ledger.owner e = p →
      ledger.weightAt other r = ledger.weightAt entries r) :
    (ledger.list a).map (ledger.weightAt other) = (ledger.list a).map (ledger.weightAt entries) := by
  refine List.map_congr_left fun r hr => ?_
  obtain ⟨e, he, howner⟩ := (h.mem_iff p a ha r).mp hr
  exact hsame r e he howner

theorem Balanced.insert (hp : ledger.owner e = p) (ha : owners.get p = some a) {f : α → α}
    (hlist : ∀ a, ledger.list (f a) = ledger.list a ++ [entries.next])
    (hcount : ∀ a, ledger.count (f a) = ledger.count a) :
    ledger.Balanced (Function.update off p (off p - ledger.weight e)) (owners.modify p f)
      (entries.alloc e) := by
  have hfresh : ∀ q b, owners.get q = some b → entries.next ∉ ledger.list b := by
    intro q b hb hmem
    obtain ⟨e', he', -⟩ := (h.mem_iff q b hb _).mp hmem
    exact absurd (Heap.lt_next_of_get he') (Nat.lt_irrefl _)
  have hold : ∀ q b, owners.get q = some b →
      (ledger.list b).map (ledger.weightAt (entries.alloc e)) =
        (ledger.list b).map (ledger.weightAt entries) := by
    intro q b hb
    refine h.sum_congr hb _ fun r e' he' _ => ?_
    unfold weightAt
    rw [Heap.get_alloc_of_get he', he']
  have hnew : ledger.weightAt (entries.alloc e) entries.next = ledger.weight e := by
    simp [weightAt]
  constructor
  · intro q b hb
    rw [Heap.get_modify] at hb
    split_ifs at hb
    · obtain ⟨c, hc, rfl⟩ := Option.map_eq_some_iff.mp hb
      rw [hlist]
      exact (h.nodup q c hc).append (List.nodup_singleton _)
        (List.disjoint_singleton.mpr (hfresh q c hc))
    · exact h.nodup q b hb
  · intro q b hb r
    rw [Heap.get_modify] at hb
    split_ifs at hb with hq
    · obtain ⟨c, hc, rfl⟩ := Option.map_eq_some_iff.mp hb
      rw [hlist, List.mem_append, List.mem_singleton, h.mem_iff q c hc r, Heap.get_alloc]
      split_ifs with hr
      · simp [hp, hq, hr]
      · simp [hr]
    · rw [h.mem_iff q b hb r, Heap.get_alloc]
      split_ifs with hr
      · rw [hr, Heap.get_eq_none_of_next_le entries (Nat.le_refl _)]
        simp [hp, Ne.symm hq]
      · rfl
  · intro q b hb
    rw [Heap.get_modify] at hb
    split_ifs at hb with hq
    · obtain ⟨c, hc, rfl⟩ := Option.map_eq_some_iff.mp hb
      rw [hlist, hcount, List.map_append, List.sum_append, hold q c hc, h.count_eq q c hc, hq]
      simp [hnew]
    · rw [hold q b hb, h.count_eq q b hb, Function.update_of_ne hq]
  · intro r e' he'
    rw [Heap.get_alloc] at he'
    split_ifs at he'
    · cases he'
      rw [hp, Heap.get_modify_self, ha]
      simp
    · have hlive := h.owner_live r e' he'
      rw [Heap.get_modify]
      split_ifs
      · exact fun hnone => hlive (Option.map_eq_none_iff.mp hnone)
      · exact hlive

theorem Balanced.remove (hr : entries.get r = some e) (hp : ledger.owner e = p) {f : α → α}
    (hlist : ∀ a, ledger.list (f a) = (ledger.list a).erase r)
    (hcount : ∀ a, ledger.count (f a) = ledger.count a) :
    ledger.Balanced (Function.update off p (off p + ledger.weight e)) (owners.modify p f)
      (entries.free r) := by
  have hrest : ∀ q b, owners.get q = some b → ∀ r' ∈ ledger.list b, r' ≠ r →
      ledger.weightAt (entries.free r) r' = ledger.weightAt entries r' := by
    intro q b hb r' _ hne
    unfold weightAt
    rw [Heap.get_free_ne hne]
  constructor
  · intro q b hb
    rw [Heap.get_modify] at hb
    split_ifs at hb
    · obtain ⟨c, hc, rfl⟩ := Option.map_eq_some_iff.mp hb
      rw [hlist]
      exact (h.nodup q c hc).erase r
    · exact h.nodup q b hb
  · intro q b hb r'
    rw [Heap.get_modify] at hb
    split_ifs at hb with hq
    · obtain ⟨c, hc, rfl⟩ := Option.map_eq_some_iff.mp hb
      rw [hlist, (h.nodup q c hc).mem_erase_iff, h.mem_iff q c hc r', Heap.get_free]
      split_ifs with hr' <;> simp [hr']
    · rw [h.mem_iff q b hb r', Heap.get_free]
      split_ifs with hr'
      · rw [hr', hr]
        simp [hp, Ne.symm hq]
      · rfl
  · intro q b hb
    rw [Heap.get_modify] at hb
    split_ifs at hb with hq
    · obtain ⟨c, hc, rfl⟩ := Option.map_eq_some_iff.mp hb
      have hmem : r ∈ ledger.list c := (h.mem_iff q c hc r).mpr ⟨e, hr, hp.trans hq.symm⟩
      have hsum := ((List.perm_cons_erase hmem).map (ledger.weightAt entries)).sum_eq
      have hweight : ledger.weightAt entries r = ledger.weight e := by simp [weightAt, hr]
      have hkept : ((ledger.list c).erase r).map (ledger.weightAt (entries.free r)) =
          ((ledger.list c).erase r).map (ledger.weightAt entries) := by
        refine List.map_congr_left fun r' hr' => ?_
        have hr' := (h.nodup q c hc).mem_erase_iff.mp hr'
        exact hrest q c hc r' hr'.2 hr'.1
      rw [List.map_cons, List.sum_cons, hweight] at hsum
      rw [hlist, hcount, hkept, h.count_eq q c hc, hsum, hq, Function.update_self]
      omega
    · rw [h.count_eq q b hb, Function.update_of_ne hq]
      congr 2
      refine (h.sum_congr hb _ fun r' e' he' howner => ?_).symm
      refine hrest q b hb r' ((h.mem_iff q b hb r').mpr ⟨e', he', howner⟩) ?_
      rintro rfl
      rw [hr] at he'
      cases he'
      exact hq (howner.symm.trans hp)
  · intro r' e' he'
    rw [Heap.get_free] at he'
    split_ifs at he'
    have hlive := h.owner_live r' e' he'
    rw [Heap.get_modify]
    split_ifs
    · exact fun hnone => hlive (Option.map_eq_none_iff.mp hnone)
    · exact hlive

theorem Balanced.weigh (hr : entries.get r = some e) {g : ε → ε} (amount : Int)
    (howner : ∀ e, ledger.owner (g e) = ledger.owner e)
    (hweight : ledger.weight (g e) = ledger.weight e + amount) :
    ledger.Balanced (Function.update off (ledger.owner e) (off (ledger.owner e) - amount)) owners
      (entries.modify r g) := by
  have hget : ∀ r' e', (entries.modify r g).get r' = some e' →
      ∃ e'', entries.get r' = some e'' ∧ ledger.owner e' = ledger.owner e'' := by
    intro r' e' he'
    rw [Heap.get_modify] at he'
    split_ifs at he'
    · obtain ⟨c, hc, rfl⟩ := Option.map_eq_some_iff.mp he'
      exact ⟨c, hc, howner c⟩
    · exact ⟨e', he', rfl⟩
  constructor
  · exact h.nodup
  · intro q b hb r'
    rw [h.mem_iff q b hb r', Heap.get_modify]
    split_ifs
    · simp [howner]
    · rfl
  · intro q b hb
    rw [h.count_eq q b hb]
    by_cases hq : q = ledger.owner e
    · have hmem : r ∈ ledger.list b := (h.mem_iff q b hb r).mpr ⟨e, hr, hq.symm⟩
      have hsum := fun entries => ((List.perm_cons_erase hmem).map (ledger.weightAt entries)).sum_eq
      have hnew : ledger.weightAt (entries.modify r g) r = ledger.weight e + amount := by
        simp [weightAt, hr, hweight]
      have hold : ledger.weightAt entries r = ledger.weight e := by simp [weightAt, hr]
      have hkept : ((ledger.list b).erase r).map (ledger.weightAt (entries.modify r g)) =
          ((ledger.list b).erase r).map (ledger.weightAt entries) := by
        refine List.map_congr_left fun r' hr' => ?_
        have hr' := (h.nodup q b hb).mem_erase_iff.mp hr'
        unfold weightAt
        rw [Heap.get_modify_ne hr'.1]
      rw [hsum, hsum, List.map_cons, List.map_cons, List.sum_cons, List.sum_cons, hnew, hold, hkept,
        hq, Function.update_self]
      omega
    · have hsame := h.sum_congr hb (entries.modify r g) fun r' e' he' howner' => by
        unfold weightAt
        rw [Heap.get_modify_ne]
        rintro rfl
        rw [hr] at he'
        cases he'
        exact hq howner'.symm
      rw [Function.update_of_ne hq, hsame]
  · intro r' e' he'
    obtain ⟨e'', he'', hsame⟩ := hget r' e' he'
    rw [hsame]
    exact h.owner_live r' e'' he''

end Entries

end Ledger

end RedApid.Memory

import Mathlib.Algebra.BigOperators.Group.Finset.Basic
import Mathlib.Algebra.Order.BigOperators.Group.Finset

namespace RedApid.Memory

-- The cells of one kind of allocated structures. An address is never given out a
-- second time, a freed cell stays empty.
structure Heap (α : Type) where
  cells : List (Option α)
deriving DecidableEq, Repr

namespace Heap

variable {α : Type} (heap : Heap α)

def empty : Heap α := ⟨[]⟩

def next : Nat := heap.cells.length

def get (address : Nat) : Option α := heap.cells[address]?.join

def alloc (a : α) : Heap α := ⟨heap.cells ++ [some a]⟩

def modify (address : Nat) (f : α → α) : Heap α := ⟨heap.cells.modify address (Option.map f)⟩

def free (address : Nat) : Heap α := ⟨heap.cells.modify address fun _ => none⟩

@[simp] theorem get_empty (address : Nat) : (empty : Heap α).get address = none := by
  simp [get, empty]

@[simp] theorem next_alloc (a : α) : (heap.alloc a).next = heap.next + 1 := by simp [next, alloc]

@[simp] theorem next_modify (address : Nat) (f : α → α) : (heap.modify address f).next = heap.next := by
  simp [next, modify]

@[simp] theorem next_free (address : Nat) : (heap.free address).next = heap.next := by
  simp [next, free]

theorem get_eq_none_of_next_le {address : Nat} (h : heap.next ≤ address) :
    heap.get address = none := by
  rw [get, List.getElem?_eq_none h]
  rfl

variable {heap}

theorem lt_next_of_get {address : Nat} {a : α} (h : heap.get address = some a) :
    address < heap.next := by
  by_contra hge
  rw [get_eq_none_of_next_le heap (Nat.le_of_not_lt hge)] at h
  cases h

variable (heap)

theorem get_alloc (a : α) (address : Nat) :
    (heap.alloc a).get address = if address = heap.next then some a else heap.get address := by
  unfold get alloc next
  rcases Nat.lt_trichotomy address heap.cells.length with hlt | heq | hgt
  · rw [if_neg (by omega), List.getElem?_append_left hlt]
  · rw [if_pos heq, heq, List.getElem?_concat_length]
    rfl
  · rw [if_neg (by omega), List.getElem?_eq_none (by simp; omega),
      List.getElem?_eq_none (by omega)]

theorem get_modify (address : Nat) (f : α → α) (other : Nat) :
    (heap.modify address f).get other =
      if other = address then (heap.get other).map f else heap.get other := by
  simp only [get, modify, List.getElem?_modify]
  rcases Decidable.em (address = other) with rfl | hne
  · simp only [if_true]
    cases heap.cells[address]? <;> rfl
  · simp only [if_neg hne, if_neg (Ne.symm hne)]
    cases heap.cells[other]? <;> rfl

theorem get_free (address other : Nat) :
    (heap.free address).get other = if other = address then none else heap.get other := by
  simp only [get, free, List.getElem?_modify]
  rcases Decidable.em (address = other) with rfl | hne
  · simp only [if_true]
    cases heap.cells[address]? <;> rfl
  · simp only [if_neg hne, if_neg (Ne.symm hne)]
    cases heap.cells[other]? <;> rfl

@[simp] theorem get_alloc_next (a : α) : (heap.alloc a).get heap.next = some a := by
  rw [get_alloc, if_pos rfl]

@[simp] theorem get_free_self (address : Nat) : (heap.free address).get address = none := by
  rw [get_free, if_pos rfl]

@[simp] theorem get_modify_self (address : Nat) (f : α → α) :
    (heap.modify address f).get address = (heap.get address).map f := by
  rw [get_modify, if_pos rfl]

variable {heap} in
theorem get_modify_ne {address other : Nat} (h : other ≠ address) (f : α → α) :
    (heap.modify address f).get other = heap.get other := by
  rw [get_modify, if_neg h]

variable {heap} in
theorem get_free_ne {address other : Nat} (h : other ≠ address) :
    (heap.free address).get other = heap.get other := by
  rw [get_free, if_neg h]

variable {heap} in
theorem get_alloc_of_get {address : Nat} {a : α} (h : heap.get address = some a) (b : α) :
    (heap.alloc b).get address = some a := by
  rw [get_alloc, if_neg (Nat.ne_of_lt (lt_next_of_get h)), h]

variable {heap} in
theorem modify_of_none {address : Nat} (h : heap.get address = none) (f : α → α) :
    heap.modify address f = heap := by
  have hcells : heap.cells.modify address (Option.map f) = heap.cells := by
    apply List.ext_getElem?
    intro i
    rw [List.getElem?_modify]
    by_cases hi : address = i
    · subst hi
      unfold get at h
      cases hcell : heap.cells[address]? with
      | none => rfl
      | some cell =>
          rw [hcell] at h
          cases cell with
          | none => simp
          | some a => cases h
    · simp only [if_neg hi]
      cases heap.cells[i]? <;> rfl
  exact congrArg Heap.mk hcells

@[simp] theorem modify_id (address : Nat) : heap.modify address id = heap := by
  refine congrArg Heap.mk ?_
  rw [Option.map_id, List.modify_id]

variable {heap} in
theorem modify_congr_of_get {address : Nat} {a : α} {f g : α → α} (h : heap.get address = some a)
    (hfg : f a = g a) : heap.modify address f = heap.modify address g := by
  refine congrArg Heap.mk (List.ext_getElem? fun i => ?_)
  rw [List.getElem?_modify, List.getElem?_modify]
  split_ifs with hi
  · subst hi
    unfold get at h
    cases hcell : heap.cells[address]? with
    | none => rfl
    | some cell =>
        rw [hcell] at h
        change cell = some a at h
        subst h
        exact congrArg (fun b => some (some b)) hfg
  · rfl

theorem modify_modify (address : Nat) (f g : α → α) :
    (heap.modify address f).modify address g = heap.modify address fun a => g (f a) := by
  refine congrArg Heap.mk ?_
  change (heap.cells.modify address (Option.map f)).modify address (Option.map g) = _
  rw [List.modify_modify_eq]
  refine congrArg (heap.cells.modify address) (funext fun cell => ?_)
  cases cell <;> rfl

theorem free_modify (address : Nat) (f : α → α) :
    (heap.modify address f).free address = heap.free address := by
  refine congrArg Heap.mk ?_
  change (heap.cells.modify address (Option.map f)).modify address (fun _ => none) = _
  rw [List.modify_modify_eq]
  rfl

theorem modify_alloc_next (a : α) (f : α → α) :
    (heap.alloc a).modify heap.next f = heap.alloc (f a) := by
  refine congrArg Heap.mk ?_
  change (heap.cells ++ [some a]).modify heap.cells.length (Option.map f) = _
  induction heap.cells with
  | nil => rfl
  | cons cell cells ih =>
      rw [List.cons_append, List.length_cons, List.modify_succ_cons, ih]
      rfl

-- The sum of a weight over the live cells.
def total (weight : Nat → α → Nat) : Nat :=
  ∑ address ∈ Finset.range heap.next, (heap.get address).elim 0 (weight address)

variable (weight : Nat → α → Nat)

theorem total_congr {other : Nat → α → Nat}
    (h : ∀ address a, heap.get address = some a → weight address a = other address a) :
    heap.total weight = heap.total other := by
  refine Finset.sum_congr rfl fun address _ => ?_
  cases hget : heap.get address with
  | none => rfl
  | some a => exact h address a hget

theorem total_add (other : Nat → α → Nat) :
    heap.total (fun address a => weight address a + other address a) =
      heap.total weight + heap.total other := by
  unfold total
  rw [← Finset.sum_add_distrib]
  refine Finset.sum_congr rfl fun address _ => ?_
  cases heap.get address <;> rfl

theorem total_alloc (a : α) :
    (heap.alloc a).total weight = heap.total weight + weight heap.next a := by
  unfold total
  rw [next_alloc, Finset.sum_range_succ, get_alloc_next]
  congr 1
  refine Finset.sum_congr rfl fun address haddress => ?_
  rw [get_alloc, if_neg (Nat.ne_of_lt (Finset.mem_range.mp haddress))]

variable {heap}

theorem total_eq_add {address : Nat} {a : α} (h : heap.get address = some a) :
    heap.total weight =
      (∑ other ∈ (Finset.range heap.next).erase address, (heap.get other).elim 0 (weight other)) +
        weight address a := by
  unfold total
  rw [← Finset.sum_erase_add _ _ (Finset.mem_range.mpr (lt_next_of_get h)), h]
  rfl

theorem total_modify {address : Nat} {a : α} (h : heap.get address = some a) (f : α → α) :
    (heap.modify address f).total weight + weight address a =
      heap.total weight + weight address (f a) := by
  have hget : (heap.modify address f).get address = some (f a) := by rw [get_modify_self, h]; rfl
  rw [total_eq_add weight hget, total_eq_add weight h, next_modify]
  have hrest : ∀ other ∈ (Finset.range heap.next).erase address,
      ((heap.modify address f).get other).elim 0 (weight other) =
        (heap.get other).elim 0 (weight other) := fun other hother => by
    rw [get_modify_ne (Finset.ne_of_mem_erase hother)]
  rw [Finset.sum_congr rfl hrest]
  omega

theorem total_free {address : Nat} {a : α} (h : heap.get address = some a) :
    (heap.free address).total weight + weight address a = heap.total weight := by
  rw [total_eq_add weight h]
  unfold total
  rw [next_free, ← Finset.sum_erase_add _ _ (Finset.mem_range.mpr (lt_next_of_get h)),
    get_free_self]
  have hrest : ∀ other ∈ (Finset.range heap.next).erase address,
      ((heap.free address).get other).elim 0 (weight other) =
        (heap.get other).elim 0 (weight other) := fun other hother => by
    rw [get_free_ne (Finset.ne_of_mem_erase hother)]
  rw [Finset.sum_congr rfl hrest]
  simp

theorem le_total {address : Nat} {a : α} (h : heap.get address = some a) :
    weight address a ≤ heap.total weight := by
  rw [total_eq_add weight h]
  exact Nat.le_add_left _ _

theorem add_le_total {address other : Nat} {a b : α} (h : heap.get address = some a)
    (hother : heap.get other = some b) (hne : other ≠ address) :
    weight other b + weight address a ≤ heap.total weight := by
  rw [total_eq_add weight h]
  have hmem : other ∈ (Finset.range heap.next).erase address :=
    Finset.mem_erase.mpr ⟨hne, Finset.mem_range.mpr (lt_next_of_get hother)⟩
  have hle := Finset.single_le_sum (f := fun other => (heap.get other).elim 0 (weight other))
    (fun _ _ => Nat.zero_le _) hmem
  rw [hother] at hle
  exact Nat.add_le_add_right hle _

theorem exists_of_total_pos (h : 0 < heap.total weight) :
    ∃ address a, heap.get address = some a ∧ 0 < weight address a := by
  obtain ⟨address, -, hpos⟩ := Finset.exists_ne_zero_of_sum_ne_zero (Nat.ne_of_gt h)
  cases hget : heap.get address with
  | none => rw [hget] at hpos; exact (hpos rfl).elim
  | some a => rw [hget] at hpos; exact ⟨address, a, hget, Nat.pos_of_ne_zero hpos⟩

-- What is live later was live before with the same weight, the rest was freed.
theorem total_eq_add_freed {other : Heap α} (hnext : heap.next ≤ other.next)
    (h : ∀ address b, other.get address = some b →
      ∃ a, heap.get address = some a ∧ weight address b = weight address a) :
    heap.total weight = other.total weight +
      heap.total fun address a => (other.get address).elim (weight address a) fun _ => 0 := by
  have hother : other.total weight =
      ∑ address ∈ Finset.range heap.next, (other.get address).elim 0 (weight address) := by
    refine (Finset.sum_subset (Finset.range_mono hnext) fun address _ hbehind => ?_).symm
    cases hget : other.get address with
    | none => rfl
    | some b =>
        obtain ⟨a, ha, -⟩ := h address b hget
        exact absurd (Finset.mem_range.mpr (lt_next_of_get ha)) hbehind
  rw [hother]
  unfold total
  rw [← Finset.sum_add_distrib]
  refine Finset.sum_congr rfl fun address _ => ?_
  cases hget : other.get address with
  | none =>
      cases heap.get address with
      | none => rfl
      | some a =>
          change weight address a = 0 + (other.get address).elim (weight address a) fun _ => 0
          rw [hget]
          exact (Nat.zero_add _).symm
  | some b =>
      obtain ⟨a, ha, hweight⟩ := h address b hget
      rw [ha]
      change weight address a = weight address b + (other.get address).elim (weight address a) _
      rw [hget]
      exact hweight.symm

-- A weight of what two heaps have in common.
theorem total_map_congr {β : Type} {other : Heap α} {f : α → β} (weight : Nat → β → Nat)
    (hnext : other.next = heap.next)
    (h : ∀ address, (other.get address).map f = (heap.get address).map f) :
    (other.total fun address a => weight address (f a)) =
      heap.total fun address a => weight address (f a) := by
  unfold total
  rw [hnext]
  refine Finset.sum_congr rfl fun address _ => ?_
  have hsame := congrArg (fun b => b.elim 0 (weight address)) (h address)
  rw [Option.elim_map, Option.elim_map] at hsame
  exact hsame

end Heap

end RedApid.Memory

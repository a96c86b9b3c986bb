import RedApid.Memory.Heap

namespace RedApid.Memory.Heap

variable {α ε : Type}

-- Cells that are about to be freed lose their references.
def hide (skip : List Nat) (refs : Nat → α → List ε) : Nat → α → List ε :=
  fun p a => if p ∈ skip then [] else refs p a

@[simp] theorem hide_nil (refs : Nat → α → List ε) : hide [] refs = refs := by
  funext p a
  simp [hide]

theorem hide_of_mem {skip : List Nat} {p : Nat} (refs : Nat → α → List ε) (a : α) (h : p ∈ skip) :
    hide skip refs p a = [] :=
  if_pos h

theorem hide_of_not_mem {skip : List Nat} {p : Nat} (refs : Nat → α → List ε) (a : α)
    (h : p ∉ skip) : hide skip refs p a = refs p a :=
  if_neg h

variable [DecidableEq ε]

-- How often the cells refer to `e`, where the cell at an address `p` with the contents `a`
-- has the references `refs p a`.
def incoming (refs : Nat → α → List ε) (heap : Heap α) (e : ε) : Nat :=
  heap.total fun p a => (refs p a).count e

section Incoming

variable {refs other : Nat → α → List ε} {heap : Heap α} {p : Nat} {a : α} {f : α → α} (e : ε)

theorem incoming_congr (h : ∀ p a, heap.get p = some a → (refs p a).count e = (other p a).count e) :
    heap.incoming refs e = heap.incoming other e :=
  total_congr _ _ h

theorem incoming_alloc (refs : Nat → α → List ε) (heap : Heap α) (a : α) :
    (heap.alloc a).incoming refs e = heap.incoming refs e + (refs heap.next a).count e :=
  heap.total_alloc _ a

theorem incoming_modify (refs : Nat → α → List ε) (h : heap.get p = some a) (f : α → α) :
    (heap.modify p f).incoming refs e + (refs p a).count e =
      heap.incoming refs e + (refs p (f a)).count e :=
  total_modify (fun p a => (refs p a).count e) h f

theorem incoming_modify_same (h : ∀ a, heap.get p = some a → refs p (f a) = refs p a) :
    (heap.modify p f).incoming refs e = heap.incoming refs e := by
  cases hget : heap.get p with
  | none => rw [modify_of_none hget]
  | some a =>
      have hmodify := incoming_modify e refs hget f
      rw [h a hget] at hmodify
      omega

theorem incoming_free (refs : Nat → α → List ε) (h : heap.get p = some a) :
    (heap.free p).incoming refs e + (refs p a).count e = heap.incoming refs e :=
  total_free (fun p a => (refs p a).count e) h

theorem le_incoming (refs : Nat → α → List ε) (h : heap.get p = some a) :
    (refs p a).count e ≤ heap.incoming refs e :=
  le_total (fun p a => (refs p a).count e) h

theorem incoming_pos_iff : 0 < heap.incoming refs e ↔ ∃ p a, heap.get p = some a ∧ e ∈ refs p a := by
  constructor
  · intro hpos
    obtain ⟨p, a, hget, hcount⟩ := exists_of_total_pos _ hpos
    exact ⟨p, a, hget, List.count_pos_iff.mp hcount⟩
  · rintro ⟨p, a, hget, hmem⟩
    exact Nat.lt_of_lt_of_le (List.count_pos_iff.mpr hmem) (le_incoming e refs hget)

-- A changed cell refers to the same as the old one, looked at with the change.
theorem incoming_modify_eq (refs : Nat → α → List ε) (heap : Heap α) (p : Nat) (f : α → α) (e : ε) :
    (heap.modify p f).incoming refs e =
      heap.incoming (fun q a => if q = p then refs q (f a) else refs q a) e := by
  unfold incoming total
  rw [next_modify]
  refine Finset.sum_congr rfl fun q _ => ?_
  rw [get_modify]
  by_cases hq : q = p
  · simp only [if_pos hq]
    cases heap.get q <;> rfl
  · simp only [if_neg hq]

end Incoming

section Hide

variable {refs : Nat → α → List ε} {heap : Heap α} {p : Nat} {a : α} {skip : List Nat}

-- A cell that is hidden no longer counts with its references.
theorem incoming_hide (refs : Nat → α → List ε) (h : heap.get p = some a) (hp : p ∉ skip) (e : ε) :
    heap.incoming (hide (p :: skip) refs) e + (refs p a).count e =
      heap.incoming (hide skip refs) e := by
  unfold incoming
  rw [total_eq_add _ h, total_eq_add _ h, hide_of_mem refs a List.mem_cons_self,
    hide_of_not_mem refs a hp]
  have hrest : ∀ q ∈ (Finset.range heap.next).erase p,
      ((heap.get q).elim 0 fun b => (hide (p :: skip) refs q b).count e) =
        (heap.get q).elim 0 fun b => (hide skip refs q b).count e := by
    intro q hq
    have hne := Finset.ne_of_mem_erase hq
    cases heap.get q with
    | none => rfl
    | some b => simp [hide, hne]
  rw [Finset.sum_congr rfl hrest]
  simp

-- Nothing changes when a hidden cell is freed, and it need not be hidden any more.
theorem incoming_free_hide (refs : Nat → α → List ε) (h : heap.get p = some a) (e : ε) :
    (heap.free p).incoming (hide skip refs) e = heap.incoming (hide (p :: skip) refs) e := by
  have hfree := incoming_free e (hide (p :: skip) refs) h
  rw [hide_of_mem refs a List.mem_cons_self, List.count_nil, Nat.add_zero] at hfree
  rw [← hfree]
  refine incoming_congr e fun q b hb => ?_
  have hne : q ≠ p := by
    rintro rfl
    rw [get_free_self] at hb
    cases hb
  simp [hide, hne]

end Hide

end RedApid.Memory.Heap

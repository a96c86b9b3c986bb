import Mathlib.Data.Finset.Card
import Mathlib.Data.Finset.Range

namespace RedApid.Memory

-- The open descriptors of one process. A new one gets the lowest number that is not in use.
structure HandleTable where
  opened : Finset Nat
deriving DecidableEq

namespace HandleTable

variable (table : HandleTable) (number other : Nat)

def lowest : Nat :=
  ((List.range (table.opened.card + 1)).find? fun number => number ∉ table.opened).getD 0

def add : HandleTable := ⟨insert number table.opened⟩

-- Nothing happens if the number is not in use.
def close : HandleTable := ⟨table.opened.erase number⟩

def openLowest : Nat × HandleTable := (table.lowest, table.add table.lowest)

def closeAll (numbers : Finset Nat) : HandleTable := ⟨table.opened \ numbers⟩

theorem lowest_notMem : table.lowest ∉ table.opened := by
  have hfound : ∃ number, (List.range (table.opened.card + 1)).find?
      (fun number => number ∉ table.opened) = some number := by
    rw [← Option.isSome_iff_exists, List.find?_isSome]
    have hcard : table.opened.card < (Finset.range (table.opened.card + 1)).card := by
      rw [Finset.card_range]
      exact Nat.lt_succ_self _
    obtain ⟨number, hmem, hunused⟩ := Finset.exists_mem_notMem_of_card_lt_card hcard
    exact ⟨number, List.mem_range.mpr (Finset.mem_range.mp hmem), decide_eq_true hunused⟩
  obtain ⟨number, hfound⟩ := hfound
  unfold lowest
  rw [hfound, Option.getD_some]
  simpa using List.find?_some hfound

variable {table number other}

@[simp] theorem mem_add {x : Nat} : x ∈ (table.add number).opened ↔ x = number ∨ x ∈ table.opened :=
  Finset.mem_insert

theorem close_add (h : number ∉ table.opened) : (table.add number).close number = table := by
  unfold add close
  rw [Finset.erase_insert h]

-- The order does not matter.
theorem close_add_of_ne (h : number ≠ other) :
    (table.add number).close other = (table.close other).add number := by
  unfold add close
  rw [Finset.erase_insert_of_ne h]

theorem closeAll_insert (numbers : Finset Nat) :
    table.closeAll (insert number numbers) = (table.closeAll numbers).close number := by
  unfold closeAll close
  rw [Finset.sdiff_insert]

theorem closeAll_singleton : table.closeAll {number} = table.close number := by
  unfold closeAll close
  rw [Finset.sdiff_singleton_eq_erase]

theorem closeAll_of_union {other : HandleTable} {numbers : Finset Nat}
    (h : other.opened = table.opened ∪ numbers) (hapart : Disjoint table.opened numbers) :
    other.closeAll numbers = table := by
  unfold closeAll
  rw [h, Finset.union_sdiff_cancel_right hapart]

end HandleTable

end RedApid.Memory

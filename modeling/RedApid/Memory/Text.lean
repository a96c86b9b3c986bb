import Mathlib.Data.List.Basic
import Mathlib.Tactic.SplitIfs
import RedApid.Memory.Block

namespace RedApid.Memory

section Overwrite

variable {α : Type*}

-- Pad `text` with `blank` up to `offset` if it is shorter, then put `chunk` there.
-- What lies behind the chunk stays.
def overwrite (blank : α) (text : List α) (offset : Nat) (chunk : List α) : List α :=
  (text ++ List.replicate (offset - text.length) blank).take offset ++ chunk ++
    text.drop (offset + chunk.length)

theorem overwrite_getElem? (blank : α) (text : List α) (offset : Nat) (chunk : List α) (i : Nat) :
    (overwrite blank text offset chunk)[i]? =
      if i < offset then if i < text.length then text[i]? else some blank
      else if i - offset < chunk.length then chunk[i - offset]? else text[i]? := by
  have hpad : ((text ++ List.replicate (offset - text.length) blank).take offset).length =
      offset := by
    simp only [List.length_take, List.length_append, List.length_replicate]
    omega
  unfold overwrite
  rw [List.append_assoc]
  by_cases hbefore : i < offset
  · rw [if_pos hbefore, List.getElem?_append_left (by omega), List.getElem?_take_of_lt hbefore]
    split_ifs with htext
    · exact List.getElem?_append_left htext
    · rw [List.getElem?_append_right (by omega), List.getElem?_replicate_of_lt (by omega)]
  · rw [if_neg hbefore, List.getElem?_append_right (by omega), hpad]
    split_ifs with hchunk
    · exact List.getElem?_append_left hchunk
    · rw [List.getElem?_append_right (by omega), List.getElem?_drop]
      congr 1
      omega

-- Reading consecutive pieces of `size` elements yields a prefix.
theorem flatMap_pieces (text : List α) (size count : Nat) :
    (List.range count).flatMap (fun k => (text.drop (size * k)).take size) =
      text.take (size * count) := by
  induction count with
  | zero => simp
  | succ count ih =>
      rw [List.range_succ, List.flatMap_append, ih, Nat.mul_succ, List.take_add]
      simp

end Overwrite

-- `strlen(block)` returns `length`.
def Block.IsStrlen (block : Block) (length : Nat) : Prop :=
  block.bytes length = 0 ∧ ∀ i < length, block.bytes i ≠ 0

-- The first `length` bytes of a block.
def Block.text (block : Block) (length : Nat) : List UInt8 :=
  (List.range length).map block.bytes

namespace Block

variable (block : Block)

@[simp] theorem text_length (length : Nat) : (block.text length).length = length := by
  simp [text]

theorem text_getElem? (length i : Nat) :
    (block.text length)[i]? = if i < length then some (block.bytes i) else none := by
  unfold text
  split_ifs with h
  · simp [h]
  · simp only [List.getElem?_map, Option.map_eq_none_iff]
    exact List.getElem?_eq_none (by simp; omega)

theorem text_congr {other : Block} {length : Nat}
    (h : ∀ i < length, block.bytes i = other.bytes i) : block.text length = other.text length :=
  List.map_congr_left fun i hi => h i (List.mem_range.mp hi)

theorem text_take (length shorter : Nat) (h : shorter ≤ length) :
    (block.text length).take shorter = block.text shorter := by
  unfold text
  rw [← List.map_take, List.take_range, Nat.min_eq_left h]

theorem IsStrlen.text_ne_zero {length : Nat} (h : block.IsStrlen length) :
    ∀ b ∈ block.text length, b ≠ 0 := by
  simp only [text, List.mem_map, List.mem_range]
  rintro b ⟨i, hi, rfl⟩
  exact h.2 i hi

theorem read_eq (start count length : Nat) (h : start + count ≤ length) :
    (block.read start count).1 = ((block.text length).drop start).take count := by
  unfold read text
  rw [← List.map_drop, ← List.map_take]
  apply List.ext_getElem
  · simp
    omega
  · intro i _ _
    simp

@[simp] theorem read_text (start count length : Nat) :
    (block.read start count).2.text length = block.text length := rfl

theorem writeAll_text (start : Nat) (source : List UInt8) :
    (block.writeAll start source).text (start + source.length) = block.text start ++ source := by
  apply List.ext_getElem?
  intro i
  rw [text_getElem?, writeAll_bytes]
  rcases Nat.lt_or_ge i start with hlt | hge
  · rw [List.getElem?_append_left (by simpa using hlt), text_getElem?,
      if_pos (by omega), if_pos hlt, dif_neg (by omega)]
  · rw [List.getElem?_append_right (by simpa using hge), text_length]
    by_cases h : i - start < source.length
    · rw [if_pos (by omega), dif_pos ⟨hge, h⟩]
      exact (List.getElem?_eq_getElem h).symm
    · rw [if_neg (by omega)]
      exact (List.getElem?_eq_none (by omega)).symm

-- What memmove leaves of a text whose first bytes it drops.
theorem writeAll_read_text (count length : Nat) :
    (block.writeAll 0 (block.read count (length - count)).1).text (length - count) =
      (block.text length).drop count := by
  rcases Nat.lt_or_ge length count with hlt | hge
  · rw [Nat.sub_eq_zero_of_le (by omega), List.drop_eq_nil_of_le (by simp; omega)]
    rfl
  · have hlength : (block.read count (length - count)).1.length = length - count := by simp [read]
    have h := block.writeAll_text 0 (block.read count (length - count)).1
    rw [Nat.zero_add, hlength] at h
    rw [h, read_eq _ _ _ length (by omega), List.take_of_length_le (by simp)]
    rfl

end Block

end RedApid.Memory

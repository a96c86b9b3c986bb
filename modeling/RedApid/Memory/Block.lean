import Mathlib.Logic.Function.Basic
import Mathlib.Data.List.TakeWhile

namespace RedApid.Memory

-- `strnlen(bytes, bound)` and `strlen(bytes)`. The list holds the readable
-- memory; its end acts as a NULL byte.
def strnlen (bytes : List UInt8) (bound : Nat) : Nat :=
  ((bytes.take bound).takeWhile (· ≠ 0)).length

def strlen (bytes : List UInt8) : Nat := (bytes.takeWhile (· ≠ 0)).length

theorem strnlen_le (bytes : List UInt8) (bound : Nat) : strnlen bytes bound ≤ bound := by
  have h := (List.takeWhile_prefix (· ≠ 0) (l := bytes.take bound)).length_le
  simp only [List.length_take] at h
  unfold strnlen
  omega

theorem strnlen_le_length (bytes : List UInt8) (bound : Nat) :
    strnlen bytes bound ≤ bytes.length := by
  have h := (List.takeWhile_prefix (· ≠ 0) (l := bytes.take bound)).length_le
  simp only [List.length_take] at h
  unfold strnlen
  omega

theorem strlen_le_length (bytes : List UInt8) : strlen bytes ≤ bytes.length :=
  (List.takeWhile_prefix _).length_le

theorem take_strlen (bytes : List UInt8) :
    bytes.take (strlen bytes) = bytes.takeWhile (· ≠ 0) := by
  exact (List.prefix_iff_eq_take.mp (List.takeWhile_prefix _)).symm

theorem take_strnlen (bytes : List UInt8) (bound : Nat) :
    bytes.take (strnlen bytes bound) = (bytes.take bound).takeWhile (· ≠ 0) := by
  have hprefix := List.takeWhile_prefix (fun b : UInt8 => decide (b ≠ 0)) (l := bytes.take bound)
  have hbound : ((bytes.take bound).takeWhile (· ≠ 0)).length ≤ bound := strnlen_le bytes bound
  have h := List.prefix_iff_eq_take.mp hprefix
  rw [List.take_take, Nat.min_eq_left hbound] at h
  exact h.symm

theorem take_strlen_ne_zero {bytes : List UInt8} {b : UInt8}
    (h : b ∈ bytes.take (strlen bytes)) : b ≠ 0 := by
  rw [take_strlen] at h
  simpa using List.mem_takeWhile_imp h

theorem take_strnlen_ne_zero {bytes : List UInt8} {bound : Nat} {b : UInt8}
    (h : b ∈ bytes.take (strnlen bytes bound)) : b ≠ 0 := by
  rw [take_strnlen] at h
  simpa using List.mem_takeWhile_imp h

theorem getD_strlen (bytes : List UInt8) : bytes.getD (strlen bytes) 0 = 0 := by
  induction bytes with
  | nil => rfl
  | cons b rest ih =>
      by_cases hb : b = 0
      · simp [strlen, hb]
      · have hcons : strlen (b :: rest) = strlen rest + 1 := by simp [strlen, hb]
        simpa [hcons] using ih

-- One byte access: its index and the size of the accessed block at that moment.
structure Access where
  index : Nat
  size : Nat
deriving DecidableEq, Repr

-- A heap block: unbounded memory of which the first `size` bytes belong to the
-- block, and the trace of all accesses made so far. No program reads the trace.
structure Block where
  bytes : Nat → UInt8
  size : Nat
  accesses : List Access

namespace Block

variable (block : Block)

-- `malloc(size)` returns memory with arbitrary contents.
def malloc (memory : Nat → UInt8) (size : Nat) : Block := ⟨memory, size, []⟩

-- `realloc(block, size)` keeps the old bytes, what lies behind them is arbitrary.
def realloc (memory : Nat → UInt8) (size : Nat) : Block :=
  { block with
    bytes := fun i => if i < block.size then block.bytes i else memory i
    size := size }

def write (i : Nat) (byte : UInt8) : Block :=
  { block with
    bytes := Function.update block.bytes i byte
    accesses := block.accesses ++ [⟨i, block.size⟩] }

-- `memcpy(block + start, source, length)`
def writeAll (block : Block) (start : Nat) : List UInt8 → Block
  | [] => block
  | byte :: rest => (block.write start byte).writeAll (start + 1) rest

-- `memcpy(target, block + start, length)`: the copied bytes and the block.
def read (start length : Nat) : List UInt8 × Block :=
  ((List.range' start length).map block.bytes,
    { block with
      accesses := block.accesses ++ (List.range' start length).map (⟨·, block.size⟩) })

def InBounds : Prop := ∀ a ∈ block.accesses, a.index < a.size

@[simp] theorem write_size (i : Nat) (byte : UInt8) : (block.write i byte).size = block.size := rfl

@[simp] theorem write_bytes (i : Nat) (byte : UInt8) :
    (block.write i byte).bytes = Function.update block.bytes i byte := rfl

@[simp] theorem realloc_size (memory : Nat → UInt8) (size : Nat) :
    (block.realloc memory size).size = size := rfl

theorem realloc_bytes {memory : Nat → UInt8} {size i : Nat} (h : i < block.size) :
    (block.realloc memory size).bytes i = block.bytes i := by simp [realloc, h]

@[simp] theorem writeAll_size (start : Nat) (source : List UInt8) :
    (block.writeAll start source).size = block.size := by
  induction source generalizing block start with
  | nil => rfl
  | cons byte rest ih => simp [writeAll, ih]

-- What the memory holds after a copy: the source inside the copied range, the
-- old bytes outside of it.
theorem writeAll_bytes (start : Nat) (source : List UInt8) (i : Nat) :
    (block.writeAll start source).bytes i =
      if h : start ≤ i ∧ i - start < source.length then source[i - start] else block.bytes i := by
  induction source generalizing block start with
  | nil => simp [writeAll]
  | cons byte rest ih =>
      simp only [writeAll, ih, write_bytes, Function.update_apply, List.length_cons]
      rcases Nat.lt_trichotomy i start with hlt | heq | hgt
      · simp [show ¬ start ≤ i by omega, show ¬ start + 1 ≤ i by omega, show i ≠ start by omega]
      · subst heq
        have hbehind : ¬ i + 1 ≤ i := Nat.not_succ_le_self i
        simp [hbehind]
      · have hi : i - start = (i - (start + 1)) + 1 := by omega
        simp only [show start ≤ i by omega, show start + 1 ≤ i by omega, true_and,
          show i ≠ start by omega, if_false, hi, List.getElem_cons_succ, Nat.add_lt_add_iff_right]

theorem write_inBounds_iff (i : Nat) (byte : UInt8) :
    (block.write i byte).InBounds ↔ block.InBounds ∧ i < block.size := by
  simp only [InBounds, write, List.mem_append, List.mem_singleton]
  constructor
  · intro h
    exact ⟨fun a ha => h a (Or.inl ha), h ⟨i, block.size⟩ (Or.inr rfl)⟩
  · rintro ⟨h, hi⟩ a (ha | rfl)
    · exact h a ha
    · exact hi

theorem writeAll_inBounds_iff (start : Nat) (source : List UInt8) :
    (block.writeAll start source).InBounds ↔
      block.InBounds ∧ (source ≠ [] → start + source.length ≤ block.size) := by
  induction source generalizing block start with
  | nil => simp [writeAll]
  | cons byte rest ih =>
      simp only [writeAll, ih, write_inBounds_iff, write_size, List.length_cons, ne_eq,
        reduceCtorEq, not_false_eq_true, true_implies, and_assoc, and_congr_right_iff]
      intro _
      cases rest with
      | nil =>
          simp only [not_true_eq_false, false_implies, and_true, List.length_nil]
          omega
      | cons next rest =>
          simp only [reduceCtorEq, not_false_eq_true, true_implies, List.length_cons]
          omega

theorem read_inBounds_iff (start length : Nat) :
    (block.read start length).2.InBounds ↔
      block.InBounds ∧ (length ≠ 0 → start + length ≤ block.size) := by
  simp only [InBounds, read, List.mem_append, List.mem_map, List.mem_range'_1]
  constructor
  · intro h
    refine ⟨fun a ha => h a (Or.inl ha), fun hl => ?_⟩
    have := h ⟨start + length - 1, block.size⟩ (Or.inr ⟨_, by omega, rfl⟩)
    simp only at this
    omega
  · rintro ⟨h, hl⟩ a (ha | ⟨i, hi, rfl⟩)
    · exact h a ha
    · have := hl (by omega)
      simp only
      omega

theorem realloc_inBounds_iff (memory : Nat → UInt8) (size : Nat) :
    (block.realloc memory size).InBounds ↔ block.InBounds := Iff.rfl

theorem malloc_inBounds (memory : Nat → UInt8) (size : Nat) : (malloc memory size).InBounds := by
  simp [InBounds, malloc]

end Block

end RedApid.Memory

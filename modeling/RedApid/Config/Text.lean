import Mathlib.Data.List.Infix
import Mathlib.Data.List.TakeWhile

namespace RedApid

-- The bytes of a C string in front of its NULL-terminator.
abbrev CString := List UInt8

def ascii (s : String) : CString := s.toList.map fun c => c.toNat.toUInt8

-- What a function that takes a `const char *` sees of a buffer.
def cString (buffer : List UInt8) : CString := buffer.takeWhile (· ≠ 0)

theorem cString_of_noNull {buffer : List UInt8} (h : 0 ∉ buffer) : cString buffer = buffer := by
  refine List.takeWhile_eq_self_iff.mpr fun byte hmem => ?_
  exact decide_eq_true fun hzero => h (hzero ▸ hmem)

section Case

-- tolower of the C locale
def tolower (byte : UInt8) : UInt8 := if 65 ≤ byte ∧ byte ≤ 90 then byte + 32 else byte

def fold (s : CString) : CString := s.map tolower

-- strcasecmp(first, second) == 0
def strcaseeq (first second : CString) : Bool := fold first = fold second

-- strncasecmp(name, start, strlen(start)) == 0
def startsWithCase (start name : CString) : Bool := (fold start).isPrefixOf (fold name)

theorem fold_append (first second : CString) : fold (first ++ second) = fold first ++ fold second :=
  List.map_append

theorem startsWithCase_append (start rest : CString) : startsWithCase start (start ++ rest) := by
  simp [startsWithCase, fold_append]

theorem startsWithCase_congr {start name other : CString} (h : fold name = fold other) :
    startsWithCase start name = startsWithCase start other := by
  unfold startsWithCase
  rw [h]

-- Names that differ at a place within both starts are different.
theorem startsWithCase_of_take {start name : CString} {n : Nat}
    (h : (fold start).take n ≠ (fold name).take n) (hn : n ≤ start.length) :
    startsWithCase start name = false := by
  refine Bool.eq_false_iff.mpr fun hstart => h ?_
  have hprefix := List.isPrefixOf_iff_prefix.mp hstart
  have hlength : n ≤ (fold start).length := by simpa [fold] using hn
  obtain ⟨rest, hrest⟩ := hprefix
  rw [← hrest, List.take_append_of_le_length hlength]

end Case

end RedApid

import RedApid.Config.Program

namespace RedApid

section Encode

-- The buffer of program_config_set_integer, the index of the byte that is written next, and the
-- width that is left.
structure Encoder where
  buffer : List UInt8
  index : Int
  width : Int
deriving DecidableEq, Repr

namespace Encoder

-- buffer[i--], or nothing if the index is not in the buffer
def put (byte : UInt8) (e : Encoder) : Option Encoder :=
  if 0 ≤ e.index ∧ e.index < e.buffer.length then
    some { e with buffer := e.buffer.set e.index.toNat byte, index := e.index - 1 }
  else none

def putDigit (byte : UInt8) (e : Encoder) : Option Encoder :=
  (e.put byte).map fun e => { e with width := e.width - 1 }

-- while (value > 0)
def putBits (value : Nat) (e : Encoder) : Option Encoder :=
  if value = 0 then some e
  else (e.putDigit (if value % 2 = 0 then 48 else 49)).bind (putBits (value / 2))
termination_by value
decreasing_by omega

def putValue (value : Nat) (e : Encoder) : Option Encoder :=
  if value = 0 then e.putDigit 48 else e.putBits value

-- while (width > 0)
def putZeros : Nat → Encoder → Option Encoder
  | 0, e => some e
  | width + 1, e => (e.putDigit 48).bind (putZeros width)

-- memmove to the front of the buffer, and the NULL-terminator
def toFront (e : Encoder) : Option CString :=
  let start := e.index + 1
  let count := e.buffer.length - start
  if 0 ≤ start ∧ 0 ≤ count ∧ count < e.buffer.length then
    let moved := e.buffer.drop start.toNat ++ e.buffer.drop count.toNat
    some (cString (moved.set count.toNat 0))
  else none

end Encoder

-- The text that program_config_set_integer writes. It is `none` if an index is not in the buffer,
-- which has arbitrary contents at first.
def integerText (buffer : Vector UInt8 128) (value base : Nat) (width : Int) : Option CString :=
  if base = 10 then some ((decimal value).take 127)
  else if base = 2 then do
    let e ← Encoder.putValue value ⟨buffer.toList, 127, width⟩
    let e ← e.putZeros e.width.toNat
    let e ← e.put 98
    let e ← e.put 48
    e.toFront
  else some (cString buffer.toList)

def programConfigSetIntegerBase (buffer : Vector UInt8 128) (name : CString) (value base : Nat)
    (width : Int) : Option ConfEdit :=
  (integerText buffer value base width).map (.set name)

-- What the end of the buffer holds.
structure Encoder.Written (text : CString) (e : Encoder) : Prop where
  size : e.buffer.length = 128
  index : e.index = 127 - text.length
  room : text.length ≤ 128
  tail : e.buffer.drop (128 - text.length) = text

namespace Encoder.Written

variable {text : CString} {e : Encoder}

theorem put (h : e.Written text) (byte : UInt8) (hroom : text.length < 128) :
    ∃ e', e.put byte = some e' ∧ e'.Written (byte :: text) ∧ e'.width = e.width := by
  obtain ⟨hsize, hindex, -, htail⟩ := h
  have hinside : 0 ≤ e.index ∧ e.index < e.buffer.length := by omega
  have hposition : e.index.toNat = 127 - text.length := by omega
  refine ⟨_, if_pos hinside, ⟨?_, ?_, ?_, ?_⟩, rfl⟩
  · simp [hsize]
  · simp only [List.length_cons]
    omega
  · simp only [List.length_cons]
    omega
  · -- the tail starts one byte earlier, with the byte that is written
    have hnext : 127 - text.length + 1 = 128 - text.length := by omega
    have hlength : 128 - (byte :: text).length = 127 - text.length := by
      rw [List.length_cons]
      omega
    have hless : 127 - text.length < (e.buffer.set (127 - text.length) byte).length := by
      simp only [List.length_set]
      omega
    simp only [hposition, hlength]
    rw [List.drop_eq_getElem_cons hless, List.getElem_set_self, hnext,
      List.drop_set_of_lt (by omega), htail]

theorem putDigit (h : e.Written text) (byte : UInt8) (hroom : text.length < 128) :
    ∃ e', e.putDigit byte = some e' ∧ e'.Written (byte :: text) ∧ e'.width = e.width - 1 := by
  obtain ⟨e', hput, hwritten, hwidth⟩ := h.put byte hroom
  refine ⟨{ e' with width := e'.width - 1 }, ?_, ⟨hwritten.size, hwritten.index, hwritten.room,
    hwritten.tail⟩, congrArg (· - 1) hwidth⟩
  simp [Encoder.putDigit, hput]

theorem putBits {value : Nat} (h : e.Written text)
    (hroom : (Nat.digits 2 value).length + text.length ≤ 128) :
    ∃ e', e.putBits value = some e' ∧
      e'.Written ((Nat.digits 2 value).reverse.map digit ++ text) ∧
      e'.width = e.width - (Nat.digits 2 value).length := by
  induction value using Nat.strongRecOn generalizing e text with
  | _ value ih =>
    by_cases hzero : value = 0
    · subst hzero
      exact ⟨e, by simp [Encoder.putBits], by simpa using h, by simp⟩
    have hdigits : Nat.digits 2 value = value % 2 :: Nat.digits 2 (value / 2) :=
      Nat.digits_def' (by omega) (Nat.pos_of_ne_zero hzero)
    have hbyte : (if value % 2 = 0 then 48 else 49) = digit (value % 2) := by
      obtain hmod | hmod := Nat.mod_two_eq_zero_or_one value <;> rw [hmod] <;> rfl
    rw [hdigits, List.length_cons] at hroom
    obtain ⟨e₁, hput, hwritten₁, hwidth₁⟩ := h.putDigit (digit (value % 2)) (by omega)
    obtain ⟨e₂, hrest, hwritten₂, hwidth₂⟩ := ih (value / 2) (by omega) hwritten₁ (by
      rw [List.length_cons]
      omega)
    refine ⟨e₂, ?_, ?_, ?_⟩
    · rw [Encoder.putBits, if_neg hzero, hbyte, hput]
      exact hrest
    · simpa [hdigits] using hwritten₂
    · rw [hwidth₂, hwidth₁, hdigits, List.length_cons]
      omega

theorem putZeros (h : e.Written text) {width : Nat} (hroom : width + text.length ≤ 128) :
    ∃ e', e.putZeros width = some e' ∧ e'.Written (List.replicate width 48 ++ text) := by
  induction width generalizing e text with
  | zero => exact ⟨e, rfl, h⟩
  | succ width ih =>
      obtain ⟨e₁, hput, hwritten₁, -⟩ := h.putDigit 48 (by omega)
      obtain ⟨e₂, hrest, hwritten₂⟩ := ih hwritten₁ (by
        rw [List.length_cons]
        omega)
      refine ⟨e₂, ?_, ?_⟩
      · rw [Encoder.putZeros, hput]
        exact hrest
      · simpa [List.replicate_succ'] using hwritten₂

theorem toFront (h : e.Written text) (hroom : text.length < 128) (hnull : 0 ∉ text) :
    e.toFront = some text := by
  obtain ⟨hsize, hindex, -, htail⟩ := h
  have hstart : (e.index + 1).toNat = 128 - text.length := by omega
  have hcount : ((e.buffer.length : Int) - (e.index + 1)).toNat = text.length := by omega
  simp only [Encoder.toFront]
  rw [if_pos (by omega), hstart, hcount, htail]
  have hless : text.length < e.buffer.length := by omega
  rw [List.set_append_right _ _ (Nat.le_refl _), Nat.sub_self,
    List.drop_eq_getElem_cons hless, List.set_cons_zero]
  congr 1
  rw [cString, List.takeWhile_append_of_pos]
  · simp
  · intro byte hmem
    exact decide_eq_true fun hzero => hnull (hzero ▸ hmem)

end Encoder.Written

-- The digits that are written for a number, the last one first.
def bits (value : Nat) : List Nat := if value = 0 then [0] else Nat.digits 2 value

def binaryText (value width : Nat) : CString :=
  48 :: 98 :: (List.replicate (width - (bits value).length) 48 ++ (bits value).reverse.map digit)

theorem bits_length {value : Nat} (h : value < 2 ^ 64) : (bits value).length ≤ 64 := by
  unfold bits
  split_ifs with hzero
  · simp
  · exact (Nat.digits_length_le_iff (by omega) value).mpr h

theorem bits_lt (value : Nat) : ∀ d ∈ bits value, d < 2 := by
  intro d hd
  unfold bits at hd
  split_ifs at hd with hzero
  · rw [List.mem_singleton.mp hd]
    omega
  · exact Nat.digits_lt_base (by omega) hd

theorem ofDigits_bits (value : Nat) : Nat.ofDigits 2 (bits value) = value := by
  unfold bits
  split_ifs with hzero
  · rw [hzero]
    rfl
  · exact Nat.ofDigits_digits 2 value

theorem Encoder.Written.putValue {text : CString} {e : Encoder} (h : e.Written text) {value : Nat}
    (hroom : (bits value).length + text.length ≤ 128) :
    ∃ e', e.putValue value = some e' ∧ e'.Written ((bits value).reverse.map digit ++ text) ∧
      e'.width = e.width - (bits value).length := by
  unfold bits at hroom ⊢
  unfold Encoder.putValue
  split_ifs at hroom ⊢ with hzero
  · rw [List.length_singleton] at hroom
    exact h.putDigit 48 (by omega)
  · exact h.putBits hroom

theorem zero_notMem_binaryText (value width : Nat) : 0 ∉ binaryText value width := by
  unfold binaryText
  simp only [List.mem_cons, List.mem_append, List.mem_replicate, List.mem_map, List.mem_reverse]
  rintro (h | h | ⟨-, h⟩ | ⟨d, hd, h⟩)
  · cases h
  · cases h
  · cases h
  · have hless := bits_lt value d hd
    interval_cases d <;> cases h

-- All indices are in the buffer.
theorem integerText_two (buffer : Vector UInt8 128) {value width : Nat} (hvalue : value < 2 ^ 64)
    (hwidth : width ≤ 64) :
    integerText buffer value 2 width = some (binaryText value width) := by
  have hlength := bits_length hvalue
  have hstart : (⟨buffer.toList, 127, width⟩ : Encoder).Written [] := by
    refine ⟨by simp, rfl, by simp, ?_⟩
    exact List.drop_eq_nil_of_le (by simp)
  obtain ⟨e₁, hbits, hwritten₁, hwidth₁⟩ := @hstart.putValue _ _ value (by
    rw [List.length_nil]
    omega)
  rw [List.append_nil] at hwritten₁
  change e₁.width = width - (bits value).length at hwidth₁
  have hleft : e₁.width.toNat = width - (bits value).length := by omega
  have hroom : (List.replicate (width - (bits value).length) 48 ++
      (bits value).reverse.map digit).length ≤ 64 := by
    simp only [List.length_append, List.length_replicate, List.length_map, List.length_reverse]
    omega
  obtain ⟨e₂, hzeros, hwritten₂⟩ := @hwritten₁.putZeros _ _ (width - (bits value).length) (by
    simp only [List.length_map, List.length_reverse]
    omega)
  obtain ⟨e₃, hput₃, hwritten₃, -⟩ := hwritten₂.put 98 (by omega)
  obtain ⟨e₄, hput₄, hwritten₄, -⟩ := hwritten₃.put 48 (by
    rw [List.length_cons]
    omega)
  have hfront := hwritten₄.toFront (by
    simp only [List.length_cons]
    omega) (zero_notMem_binaryText value width)
  rw [integerText, if_neg (by omega), if_pos rfl]
  simp only [Option.bind_eq_bind, hbits, Option.bind_some, hleft, hzeros, hput₃, hput₄, hfront]
  rfl

theorem integerText_ten (buffer : Vector UInt8 128) {value : Nat} (h : value < 2 ^ 64) (width : Int) :
    integerText buffer value 10 width = some (decimal value) := by
  rw [integerText, if_pos rfl, List.take_of_length_le]
  unfold decimal
  split_ifs with hzero
  · simp
  · rw [List.length_map, List.length_reverse]
    exact (Nat.digits_length_le_iff (by omega) value).mpr (by omega)

end Encode

section Decode

-- One digit after the other, the last one first. The weight and the sum are those of uint64_t.
theorem binaryValue_digits {digits : List Nat} (h : ∀ d ∈ digits, d < 2) (base value : Nat) :
    binaryValue (digits.map digit) (base % 18446744073709551616) (value % 18446744073709551616) =
      some ((value + base * Nat.ofDigits 2 digits) % 18446744073709551616) := by
  induction digits generalizing base value with
  | nil => simp [binaryValue]
  | cons d digits ih =>
      have hrest := fun d hd => h d (List.mem_cons_of_mem _ hd)
      rw [List.map_cons, Nat.ofDigits_cons]
      have hd := h d List.mem_cons_self
      interval_cases d
      · have hstep : binaryValue (digit 0 :: digits.map digit) (base % 18446744073709551616)
            (value % 18446744073709551616) =
            binaryValue (digits.map digit) (base * 2 % 18446744073709551616)
              (value % 18446744073709551616) := by
          rw [← Nat.mod_mul_mod]
          rfl
        rw [hstep, ih hrest]
        congr 2
        ring
      · have hstep : binaryValue (digit 1 :: digits.map digit) (base % 18446744073709551616)
            (value % 18446744073709551616) =
            binaryValue (digits.map digit) (base * 2 % 18446744073709551616)
              ((value + base) % 18446744073709551616) := by
          rw [Nat.add_mod, ← Nat.mod_mul_mod]
          rfl
        rw [hstep, ih hrest]
        congr 2
        ring

theorem intOfLength_of_le {length : Nat} (h : length ≤ INT32_MAX) : intOfLength length = length := by
  unfold INT32_MAX at h
  unfold intOfLength INT32_MAX uint32
  rw [Nat.mod_eq_of_lt (by omega), if_pos h]

theorem binaryInteger_of_le {digits : CString} (h : digits.length ≤ 64) :
    binaryInteger digits = binaryValue digits.reverse 1 0 := by
  have hlength : intOfLength digits.length = digits.length :=
    intOfLength_of_le (h.trans (by decide))
  simp only [binaryInteger, hlength]
  rw [if_neg (by omega), Int.toNat_natCast, List.take_length]

theorem parseInteger_binaryText {value width : Nat} (hvalue : value < 2 ^ 64) (hwidth : width ≤ 64) :
    parseInteger (binaryText value width) = some value := by
  have hlength := bits_length hvalue
  have hparse : parseInteger (binaryText value width) =
      binaryInteger (List.replicate (width - (bits value).length) 48 ++
        (bits value).reverse.map digit) := rfl
  have hdigits : (List.replicate (width - (bits value).length) 48 ++
      (bits value).reverse.map digit).reverse =
      (bits value ++ List.replicate (width - (bits value).length) 0).map digit := by
    simp only [List.reverse_append, List.map_append, List.map_reverse, List.reverse_reverse,
      List.reverse_replicate, List.map_replicate]
    rfl
  have hsmall : ∀ d ∈ bits value ++ List.replicate (width - (bits value).length) 0, d < 2 := by
    intro d hd
    obtain hd | hd := List.mem_append.mp hd
    · exact bits_lt value d hd
    · rw [(List.mem_replicate.mp hd).2]
      omega
  rw [hparse, binaryInteger_of_le (by simp; omega), hdigits]
  have hvalues := binaryValue_digits hsmall 1 0
  rw [Nat.ofDigits_append_replicate_zero, ofDigits_bits] at hvalues
  have hless : value < 18446744073709551616 := by omega
  rw [Nat.zero_mod, Nat.one_mul, Nat.zero_add, Nat.mod_eq_of_lt hless] at hvalues
  exact hvalues

-- What follows the whitespace and 0b or 0B.
def BinaryDigits (text digits : CString) : Prop :=
  text.dropWhile isspace = 48 :: 98 :: digits ∨ text.dropWhile isspace = 48 :: 66 :: digits

def AllBinary (digits : CString) : Prop := ∀ byte ∈ digits, byte = 48 ∨ byte = 49

def BinaryText (text : CString) : Prop :=
  ∃ digits, BinaryDigits text digits ∧ digits.length ≤ 64 ∧ AllBinary digits

-- What strtoll takes for a number that is not negative. The empty number counts as 0.
def NumberText (text : CString) : Prop :=
  let result := strtoll (text.dropWhile isspace)
  result.rest = [] ∧ result.range = false ∧ 0 ≤ result.value

-- More than 64 characters behind 0b or 0B, which are at most 64 as an `int`, and so many binary
-- digits at the start of them.
def Miscounted (text : CString) : Prop :=
  ∃ digits, BinaryDigits text digits ∧ 64 < digits.length ∧ intOfLength digits.length ≤ 64 ∧
    AllBinary (digits.take (intOfLength digits.length).toNat)

theorem BinaryDigits.unique {text digits digits' : CString} (h : BinaryDigits text digits)
    (h' : BinaryDigits text digits') : digits = digits' := by
  obtain h | h := h <;> obtain h' | h' := h' <;> rw [h] at h' <;> simp_all

theorem BinaryDigits.parse {text digits : CString} (h : BinaryDigits text digits) :
    parseInteger text = binaryInteger digits := by
  obtain h | h := h <;> simp only [parseInteger, h]

-- strtoll stops behind the zero.
theorem BinaryDigits.not_numberText {text digits : CString} (h : BinaryDigits text digits) :
    ¬NumberText text := by
  have hrest : ∀ x : UInt8, x = 98 ∨ x = 66 → (strtoll (48 :: x :: digits)).rest ≠ [] := by
    rintro x (rfl | rfl) <;> cases digits with
    | nil => decide
    | cons byte digits =>
        simp [strtoll, scanSign, scanBase, isspace, isDigit, digitValue]
  obtain h | h := h
  · exact fun hnumber => hrest 98 (by decide) (by rw [← h]; exact hnumber.1)
  · exact fun hnumber => hrest 66 (by decide) (by rw [← h]; exact hnumber.1)

theorem binaryValue_ok_iff {digits : CString} {base value : Nat} :
    (∃ v, binaryValue digits base value = some v) ↔ AllBinary digits := by
  induction digits generalizing base value with
  | nil => simp [binaryValue, AllBinary]
  | cons byte digits ih =>
      unfold AllBinary at ih ⊢
      rw [List.forall_mem_cons, binaryValue]
      by_cases hone : byte = 49
      · rw [if_pos hone, ih]
        simp [hone]
      by_cases hzero : byte = 48
      · rw [if_neg hone, if_pos hzero, ih]
        simp [hzero]
      · rw [if_neg hone, if_neg hzero]
        simp [hone, hzero]

theorem binaryInteger_ok_iff {digits : CString} :
    (∃ v, binaryInteger digits = some v) ↔ intOfLength digits.length ≤ 64 ∧
      AllBinary (digits.take (intOfLength digits.length).toNat) := by
  simp only [binaryInteger]
  by_cases hlong : intOfLength digits.length > 64
  · rw [if_pos hlong]
    refine iff_of_false (fun h => ?_) fun h => ?_
    · obtain ⟨v, h⟩ := h
      cases h
    · omega
  · rw [if_neg hlong, binaryValue_ok_iff]
    unfold AllBinary
    simp only [List.mem_reverse]
    exact (and_iff_right (by omega)).symm

-- What gives a value: the texts that should, and those with a wrong number of digits.
theorem parseInteger_ok_iff {text : CString} :
    (∃ v, parseInteger text = some v) ↔ BinaryText text ∨ NumberText text ∨ Miscounted text := by
  by_cases hbinary : ∃ digits, BinaryDigits text digits
  · obtain ⟨digits, hdigits⟩ := hbinary
    rw [hdigits.parse, binaryInteger_ok_iff]
    constructor
    · rintro ⟨hlength, hall⟩
      by_cases hshort : digits.length ≤ 64
      · rw [intOfLength_of_le (hshort.trans (by decide)), Int.toNat_natCast, List.take_length] at hall
        exact Or.inl ⟨digits, hdigits, hshort, hall⟩
      · exact Or.inr (Or.inr ⟨digits, hdigits, by omega, hlength, hall⟩)
    · rintro (⟨digits', hdigits', hshort, hall⟩ | hnumber | ⟨digits', hdigits', -, hlength, hall⟩)
      · obtain rfl := hdigits.unique hdigits'
        rw [intOfLength_of_le (hshort.trans (by decide)), Int.toNat_natCast, List.take_length]
        exact ⟨by omega, hall⟩
      · exact absurd hnumber hdigits.not_numberText
      · obtain rfl := hdigits.unique hdigits'
        exact ⟨hlength, hall⟩
  · have hother : (∃ v, parseInteger text = some v) ↔ NumberText text := by
      unfold parseInteger NumberText
      split
      · rename_i digits heq
        exact absurd ⟨digits, Or.inl heq⟩ hbinary
      · rename_i digits heq
        exact absurd ⟨digits, Or.inr heq⟩ hbinary
      · dsimp only
        split_ifs with hrange hrest hnegative
        · simp [hrange]
        · simp [hrest]
        · simp [not_le.mpr hnegative]
        · simp_all
    rw [hother]
    constructor
    · exact fun hnumber => Or.inr (Or.inl hnumber)
    · rintro (⟨digits, hdigits, -⟩ | hnumber | ⟨digits, hdigits, -⟩)
      · exact absurd ⟨digits, hdigits⟩ hbinary
      · exact hnumber
      · exact absurd ⟨digits, hdigits⟩ hbinary

theorem Miscounted.rejected {text : CString} (h : Miscounted text) :
    ¬(BinaryText text ∨ NumberText text) := by
  obtain ⟨digits, hdigits, hlong, -⟩ := h
  rintro (⟨digits', hdigits', hshort, -⟩ | hnumber)
  · obtain rfl := hdigits.unique hdigits'
    omega
  · exact hdigits.not_numberText hnumber

end Decode

section Options

variable {file : ConfFile} {name text : CString}

theorem programConfigGetInteger_eq (h : confFileGetOptionValue file name = some text) (default : Nat) :
    programConfigGetInteger file name default = (parseInteger text).getD default := by
  rw [programConfigGetInteger, h]

theorem confFileGetOptionValue_set (file : ConfFile) (name text : CString) :
    confFileGetOptionValue ((ConfEdit.set name text).apply file) name = some text :=
  OrderedMap.get_set_self file name text

theorem programConfigGetInteger_binary (file : ConfFile) (name : CString) (buffer : Vector UInt8 128)
    (value default : UInt64) {width : Int} (hpos : 0 ≤ width) (hwidth : width ≤ 64) :
    ∃ edit, programConfigSetIntegerBase buffer name value.toNat 2 width = some edit ∧
      programConfigGetInteger (edit.apply file) name default.toNat = value.toNat := by
  obtain ⟨width, rfl⟩ := Int.eq_ofNat_of_zero_le hpos
  have hvalue : value.toNat < 2 ^ 64 := value.toNat_lt
  refine ⟨.set name (binaryText value.toNat width), ?_, ?_⟩
  · rw [programConfigSetIntegerBase, integerText_two buffer hvalue (by omega)]
    rfl
  · rw [programConfigGetInteger_eq (confFileGetOptionValue_set file name _),
      parseInteger_binaryText hvalue (by omega)]
    rfl

theorem programConfigSetIntegerBase_ten (buffer : Vector UInt8 128) (name : CString) (value : UInt64)
    (width : Int) : programConfigSetIntegerBase buffer name value.toNat 10 width =
      some (programConfigSetInteger name value.toNat) := by
  rw [programConfigSetIntegerBase, integerText_ten buffer value.toNat_lt]
  rfl

theorem programConfigGetInteger_decimal (file : ConfFile) (name : CString) {value : Nat}
    (h : value ≤ INT64_MAX) (default : Nat) :
    programConfigGetInteger ((programConfigSetInteger name value).apply file) name default = value := by
  rw [programConfigSetInteger, programConfigGetInteger_eq (confFileGetOptionValue_set file name _),
    parseInteger_decimal h]
  rfl

theorem defaulted_iff (h : confFileGetOptionValue file name = some text) :
    (∀ default : UInt64, programConfigGetInteger file name default.toNat = default.toNat) ↔
      ¬(BinaryText text ∨ NumberText text ∨ Miscounted text) := by
  rw [← parseInteger_ok_iff]
  constructor
  · rintro hdefault ⟨value, hvalue⟩
    -- one of two defaults is not the value
    have hzero := hdefault 0
    have hone := hdefault 1
    rw [programConfigGetInteger_eq h, hvalue] at hzero hone
    exact absurd (hzero.symm.trans hone) (by decide)
  · intro hnone default
    rw [programConfigGetInteger_eq h, Option.eq_none_iff_forall_ne_some.mpr fun value hvalue =>
      hnone ⟨value, hvalue⟩]
    rfl

theorem config_integers_round_trip_iff (file : ConfFile) (name : CString)
    (buffer : Vector UInt8 128) :
    (∀ (value default : UInt64) (width : Int), 0 ≤ width → width ≤ 64 →
      ∃ edit, programConfigSetIntegerBase buffer name value.toNat 2 width = some edit ∧
        programConfigGetInteger (edit.apply file) name default.toNat = value.toNat) ∧
    (∀ (value default : UInt64) (width : Int), value.toNat ≤ INT64_MAX →
      ∃ edit, programConfigSetIntegerBase buffer name value.toNat 10 width = some edit ∧
        programConfigGetInteger (edit.apply file) name default.toNat = value.toNat) ∧
    ∀ text, confFileGetOptionValue file name = some text →
      ((¬(BinaryText text ∨ NumberText text) →
        ∀ default : UInt64, programConfigGetInteger file name default.toNat = default.toNat) ↔
        ¬Miscounted text) := by
  refine ⟨fun value default width hpos hwidth =>
      programConfigGetInteger_binary file name buffer value default hpos hwidth,
    fun value default width hvalue => ⟨_, programConfigSetIntegerBase_ten buffer name value width,
      programConfigGetInteger_decimal file name hvalue default.toNat⟩, fun text h => ?_⟩
  rw [defaulted_iff h]
  constructor
  · exact fun hdefault hmiscounted =>
      hdefault hmiscounted.rejected (Or.inr (Or.inr hmiscounted))
  · intro hcounted hrejected
    rintro (hbinary | hnumber | hmiscounted)
    · exact hrejected (Or.inl hbinary)
    · exact hrejected (Or.inr hnumber)
    · exact hcounted hmiscounted

theorem miscounted_zeros {length : Nat} (hlong : INT32_MAX < length) (hless : length < 4294967296) :
    Miscounted (48 :: 98 :: List.replicate length 48) := by
  unfold INT32_MAX at hlong
  have hnegative : intOfLength length = length - 4294967296 := by
    unfold intOfLength INT32_MAX
    rw [uint32_of_lt hless, if_neg (by omega)]
  refine ⟨List.replicate length 48, Or.inl rfl, ?_, ?_, fun byte hbyte => Or.inl ?_⟩
  · rw [List.length_replicate]
    omega
  · rw [List.length_replicate, hnegative]
    omega
  · exact List.eq_of_mem_replicate (List.mem_of_mem_take hbyte)

-- 2147483648 digits are taken for none, and the value is 0.
theorem long_integer_not_defaulted :
    let text := 48 :: 98 :: List.replicate 2147483648 48
    let file := confFileSetOptionValue OrderedMap.empty (ascii "start_interval") text
    ¬(¬(BinaryText text ∨ NumberText text) → ∀ default : UInt64,
      programConfigGetInteger file (ascii "start_interval") default.toNat = default.toNat) := by
  intro text file hdefault
  have hmiscounted : Miscounted text := miscounted_zeros (by decide) (by decide)
  have hget : confFileGetOptionValue file (ascii "start_interval") = some text :=
    confFileGetOptionValue_set OrderedMap.empty (ascii "start_interval") text
  exact (defaulted_iff hget).mp (hdefault hmiscounted.rejected) (Or.inr (Or.inr hmiscounted))

end Options

end RedApid

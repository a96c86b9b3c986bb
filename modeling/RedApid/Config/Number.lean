import Mathlib.Data.Nat.Digits.Lemmas
import RedApid.Config.Text
import RedApid.Types

namespace RedApid

def INT64_MAX : Nat := 9223372036854775807

section Functions

def digit (d : Nat) : UInt8 := (48 + d).toUInt8

-- What snprintf writes for "%llu" and for "%d" of a number that is not negative.
def decimal (n : Nat) : CString :=
  if n = 0 then [48] else (Nat.digits 10 n).reverse.map digit

-- isspace, and the set " \f\n\r\t\v" of strspn
def isspace (byte : UInt8) : Bool := byte = 32 ∨ (9 ≤ byte ∧ byte ≤ 13)

-- The value of a digit, 36 for any other byte.
def digitValue (byte : UInt8) : Nat :=
  if 48 ≤ byte ∧ byte ≤ 57 then byte.toNat - 48
  else if 97 ≤ byte ∧ byte ≤ 122 then byte.toNat - 87
  else if 65 ≤ byte ∧ byte ≤ 90 then byte.toNat - 55
  else 36

def isDigit (base : Nat) (byte : UInt8) : Bool := digitValue byte < base

def digitsValue (base : Nat) (digits : CString) : Nat :=
  digits.foldl (fun value byte => base * value + digitValue byte) 0

-- What strtoll returns, where `end` points to, and whether errno is ERANGE.
structure Strtoll where
  value : Int
  rest : CString
  range : Bool
deriving DecidableEq, Repr

-- The sign, and what follows it.
def scanSign : CString → Bool × CString
  | 45 :: s => (true, s)
  | 43 :: s => (false, s)
  | s => (false, s)

-- The base that strtoll takes for base 0, and the digits from there on.
def scanBase : CString → Nat × CString
  | 48 :: x :: byte :: s =>
      if (x = 120 ∨ x = 88) ∧ isDigit 16 byte then (16, byte :: s) else (8, 48 :: x :: byte :: s)
  | 48 :: s => (8, 48 :: s)
  | s => (10, s)

-- strtoll(string, &end, 0)
def strtoll (string : CString) : Strtoll :=
  let (negative, unsigned) := scanSign (string.dropWhile isspace)
  let (base, number) := scanBase unsigned
  let digits := number.takeWhile (isDigit base)
  let value := digitsValue base digits
  if digits = [] then ⟨0, string, false⟩
  else if negative then
    ⟨max (-value) (-(INT64_MAX + 1)), number.dropWhile (isDigit base), INT64_MAX + 1 < value⟩
  else ⟨min value INT64_MAX, number.dropWhile (isDigit base), INT64_MAX < value⟩

-- The loop of program_config_get_integer over the binary digits, from the last one to the
-- first one, in uint64_t arithmetic.
def binaryValue : CString → Nat → Nat → Option Nat
  | [], _, value => some value
  | byte :: digits, base, value =>
      if byte = 49 then
        binaryValue digits (base * 2 % 18446744073709551616) ((value + base) % 18446744073709551616)
      else if byte = 48 then binaryValue digits (base * 2 % 18446744073709551616) value
      else none

-- (int)length
def intOfLength (length : Nat) : Int :=
  if uint32 length ≤ INT32_MAX then uint32 length else uint32 length - 4294967296

-- What follows 0b or 0B. The loop starts at the `int` of the length, and does not run if that is
-- negative.
def binaryInteger (string : CString) : Option Nat :=
  let length := intOfLength string.length
  if length > 64 then none else binaryValue (string.take length.toNat).reverse 1 0

def parseInteger (string : CString) : Option Nat :=
  match string.dropWhile isspace with
  | 48 :: 98 :: digits => binaryInteger digits
  | 48 :: 66 :: digits => binaryInteger digits
  | string =>
      let result := strtoll string
      if result.range then none
      else if result.rest ≠ [] then none
      else if result.value < 0 then none
      else some result.value.toNat

end Functions

section Decimal

theorem digitValue_digit {d : Nat} (h : d < 10) : digitValue (digit d) = d := by
  interval_cases d <;> rfl

theorem isDigit_digit {base d : Nat} (h : d < 10) (hbase : d < base) : isDigit base (digit d) := by
  simp [isDigit, digitValue_digit h, hbase]

theorem decimal_eq (n : Nat) :
    decimal n = (if n = 0 then [0] else (Nat.digits 10 n).reverse).map digit := by
  unfold decimal
  split_ifs <;> rfl

theorem decimal_digits (n : Nat) : ∀ byte ∈ decimal n, ∃ d < 10, byte = digit d := by
  rw [decimal_eq]
  intro byte hbyte
  obtain ⟨d, hd, rfl⟩ := List.mem_map.mp hbyte
  refine ⟨d, ?_, rfl⟩
  by_cases hn : n = 0
  · rw [if_pos hn, List.mem_singleton] at hd
    omega
  · rw [if_neg hn, List.mem_reverse] at hd
    exact Nat.digits_lt_base (by omega) hd

theorem digitsValue_decimal (n : Nat) : digitsValue 10 (decimal n) = n := by
  unfold decimal
  split_ifs with hn
  · rw [hn]
    rfl
  have hfold : ∀ digits : List Nat, (∀ d ∈ digits, d < 10) →
      digitsValue 10 (digits.reverse.map digit) = Nat.ofDigits 10 digits := by
    intro digits hdigits
    rw [digitsValue, List.foldl_map, List.foldl_reverse]
    induction digits with
    | nil => rfl
    | cons d digits ih =>
        rw [List.foldr_cons, ih fun d hd => hdigits d (List.mem_cons_of_mem _ hd), Nat.ofDigits_cons,
          digitValue_digit (hdigits d List.mem_cons_self)]
        exact Nat.add_comm _ _
  rw [hfold _ fun d hd => Nat.digits_lt_base (by omega) hd, Nat.ofDigits_digits]

-- A number other than zero does not start with the digit zero.
theorem decimal_head {n : Nat} (hn : n ≠ 0) :
    ∃ d digits, 0 < d ∧ d < 10 ∧ decimal n = digit d :: digits := by
  have hne := Nat.digits_ne_nil_iff_ne_zero (b := 10).mpr hn
  have hlast := Nat.getLast_digit_ne_zero 10 hn
  have hless : (Nat.digits 10 n).getLast hne < 10 :=
    Nat.digits_lt_base (by omega) (List.getLast_mem hne)
  refine ⟨(Nat.digits 10 n).getLast hne, ((Nat.digits 10 n).dropLast.reverse).map digit,
    Nat.pos_of_ne_zero hlast, hless, ?_⟩
  rw [decimal, if_neg hn, ← List.map_cons]
  congr 1
  conv_lhs => rw [← List.dropLast_append_getLast hne]
  rw [List.reverse_append]
  rfl

theorem decimal_takeWhile {base n : Nat} (hbase : 10 ≤ base) :
    (decimal n).takeWhile (isDigit base) = decimal n ∧
      (decimal n).dropWhile (isDigit base) = [] := by
  have hall : ∀ byte ∈ decimal n, isDigit base byte := by
    intro byte hbyte
    obtain ⟨d, hd, rfl⟩ := decimal_digits n byte hbyte
    exact isDigit_digit hd (by omega)
  exact ⟨List.takeWhile_eq_self_iff.mpr hall, List.dropWhile_eq_nil_iff.mpr hall⟩

theorem digit_ne {d : Nat} (hd : d < 10) :
    isspace (digit d) = false ∧ digit d ≠ 43 ∧ digit d ≠ 45 ∧ (0 < d → digit d ≠ 48) := by
  interval_cases d <;> decide

theorem scanSign_digit {d : Nat} (hd : d < 10) (s : CString) :
    scanSign (digit d :: s) = (false, digit d :: s) := by
  interval_cases d <;> rfl

theorem scanBase_digit {d : Nat} (hpos : 0 < d) (hd : d < 10) (s : CString) :
    scanBase (digit d :: s) = (10, digit d :: s) := by
  interval_cases d <;> rfl

theorem strtoll_decimal {n : Nat} (hn : n ≤ INT64_MAX) : strtoll (decimal n) = ⟨n, [], false⟩ := by
  by_cases hzero : n = 0
  · subst hzero
    rfl
  obtain ⟨d, digits, hpos, hd, hdecimal⟩ := decimal_head hzero
  obtain ⟨htake, hdrop⟩ := @decimal_takeWhile 10 n (Nat.le_refl 10)
  have hspace : (digit d :: digits).dropWhile isspace = digit d :: digits := by
    rw [List.dropWhile_cons_of_neg]
    simp [(digit_ne hd).1]
  have hvalue := digitsValue_decimal n
  unfold strtoll
  rw [hdecimal] at htake hdrop hvalue ⊢
  rw [hspace, scanSign_digit hd]
  simp only [scanBase_digit hpos hd, htake, hdrop, hvalue]
  have hmin : min (n : Int) INT64_MAX = n := by omega
  have hrange : ¬ INT64_MAX < n := by omega
  simp [hmin, hrange]

-- What program_config_set_integer writes with base 10 is read back.
theorem parseInteger_decimal {n : Nat} (hn : n ≤ INT64_MAX) : parseInteger (decimal n) = some n := by
  have hstrtoll := strtoll_decimal hn
  by_cases hzero : n = 0
  · subst hzero
    rfl
  obtain ⟨d, digits, hpos, hd, hdecimal⟩ := decimal_head hzero
  have hspace : (digit d :: digits).dropWhile isspace = digit d :: digits := by
    rw [List.dropWhile_cons_of_neg]
    simp [(digit_ne hd).1]
  have hne := (digit_ne hd).2.2.2 hpos
  unfold parseInteger
  rw [hdecimal] at hstrtoll ⊢
  rw [hspace]
  split
  · rename_i heq
    exact absurd (List.cons.inj heq).1 hne
  · rename_i heq
    exact absurd (List.cons.inj heq).1 hne
  · simp [hstrtoll]

theorem decimal_injective : Function.Injective decimal :=
  Function.LeftInverse.injective digitsValue_decimal

end Decimal

end RedApid

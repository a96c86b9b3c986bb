import Mathlib.Data.Nat.Digits.Defs
import Mathlib.Tactic.Ring

namespace RedApid.ByteStream

-- The value of an unsigned integer that is stored with its least significant byte first.
def littleEndian (bytes : List UInt8) : Nat := Nat.ofDigits 256 (bytes.map UInt8.toNat)

-- The first `count` bytes of a number, from the least significant one on.
def bytesOf : Nat → Nat → List UInt8
  | 0, _ => []
  | count + 1, n => n.toUInt8 :: bytesOf count (n / 256)

@[simp] theorem bytesOf_length (count n : Nat) : (bytesOf count n).length = count := by
  induction count generalizing n with
  | zero => rfl
  | succ count ih => simp [bytesOf, ih]

theorem littleEndian_cons (byte : UInt8) (bytes : List UInt8) :
    littleEndian (byte :: bytes) = byte.toNat + 256 * littleEndian bytes := by
  simp [littleEndian, Nat.ofDigits_cons]

theorem littleEndian_bytesOf (count n : Nat) :
    littleEndian (bytesOf count n) = n % 256 ^ count := by
  induction count generalizing n with
  | zero => simp [bytesOf, littleEndian, Nat.mod_one]
  | succ count ih =>
      have hbyte : n.toUInt8.toNat = n % 256 := UInt8.toNat_ofNat'
      rw [bytesOf, littleEndian_cons, ih, hbyte, Nat.pow_succ', Nat.mod_mul]

end RedApid.ByteStream

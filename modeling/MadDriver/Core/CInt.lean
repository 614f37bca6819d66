import Mathlib.Algebra.Group.Int.Defs
import Mathlib.Algebra.Group.Nat.Defs

/-! The conversions between the fixed-width integers of a 64-bit C target, read
back as integers: `size_t` is `UInt64`, `loff_t`, `ssize_t` and `long` are
`Int64`, `int` is `Int32` and `unsigned` is `UInt32`. -/
namespace MadDriver.CInt

theorem bmod_word (x : Int) : x.bmod (2 ^ 64) = (x + 2 ^ 63) % 2 ^ 64 - 2 ^ 63 := by
  rw [Int.bmod_def]
  split <;> omega

theorem bmod_int {x : Int} (low : -2 ^ 31 ≤ x) (high : x < 2 ^ 31) : x.bmod (2 ^ 32) = x :=
  Int.bmod_eq_of_le (by omega) (by omega)

theorem toInt_int {x : Int64} (low : -2 ^ 31 ≤ x.toInt) (high : x.toInt < 2 ^ 31) :
    x.toInt32.toInt = x.toInt := by
  rw [Int64.toInt_toInt32]
  exact bmod_int low high

theorem toNat_toUInt64 (x : Int64) : (x.toUInt64.toNat : Int) = x.toInt % 2 ^ 64 := by
  have bits : x.toUInt64.toNat = x.toBitVec.toNat := rfl
  have bound := x.toBitVec.isLt
  rw [bits, ← Int64.toInt_toBitVec, BitVec.toInt_eq_toNat_bmod, bmod_word]
  omega

theorem toInt_toInt64 (x : UInt64) : x.toInt64.toInt = (x.toNat : Int).bmod (2 ^ 64) := by
  have bits : x.toInt64.toInt = x.toBitVec.toInt := rfl
  rw [bits, BitVec.toInt_eq_toNat_bmod]
  rfl

theorem toInt_add (x y : Int64) :
    (x + y).toInt = (x.toInt + y.toInt + 2 ^ 63) % 2 ^ 64 - 2 ^ 63 := by
  rw [Int64.toInt_add, bmod_word]

theorem toInt_sub (x y : Int64) :
    (x - y).toInt = (x.toInt - y.toInt + 2 ^ 63) % 2 ^ 64 - 2 ^ 63 := by
  rw [Int64.toInt_sub, bmod_word]

theorem toInt_toInt64_of_lt {x : UInt64} (small : x.toNat < 2 ^ 63) :
    x.toInt64.toInt = x.toNat := by
  rw [toInt_toInt64, bmod_word]
  omega

/-- An `int` passed as a `size_t`: exact when it is not negative, huge when it is. -/
theorem toNat_size (x : Int32) : (x.toInt64.toUInt64.toNat : Int) = x.toInt % 2 ^ 64 := by
  rw [toNat_toUInt64, Int32.toInt_toInt64]

theorem toNat_size_of_nonneg {x : Int32} (nonneg : 0 ≤ x.toInt) :
    x.toInt64.toUInt64.toNat = x.toInt.toNat := by
  have bound := x.toInt_lt
  have value := toNat_size x
  omega

end MadDriver.CInt

import MadDriver.Core.Decimal

/-! The `%x` and `%X` of `sprintf`, and the hexadecimal encoding of bytes with two digits for
each. The digits are those of `Nat.toDigits`, in lower case but for `%X`. -/
namespace MadDriver.Kernel

def hexDigit (d : Nat) : UInt8 := ascii d.digitChar

def formatHex (n : Nat) : List UInt8 := (Nat.toDigits 16 n).map ascii

def hex (bytes : List UInt8) : List UInt8 :=
  bytes.flatMap fun b => [hexDigit (b.toNat / 16), hexDigit (b.toNat % 16)]

@[simp] theorem length_hex (bytes : List UInt8) : (hex bytes).length = 2 * bytes.length := by
  induction bytes with
  | nil => rfl
  | cons b bytes ih =>
    simp only [hex, List.flatMap_cons, List.length_append, List.length_cons,
      List.length_nil] at ih ⊢
    omega

theorem hexDigit_injective {d e : Nat} (d_small : d < 16) (e_small : e < 16)
    (same : hexDigit d = hexDigit e) : d = e := by
  have digits : ∀ d < 16, ∀ e < 16, hexDigit d = hexDigit e → d = e := by decide
  exact digits d d_small e e_small same

theorem hexDigit_ne_nul {d : Nat} (small : d < 16) : hexDigit d ≠ 0 := by
  have digits : ∀ d < 16, hexDigit d ≠ 0 := by decide
  exact digits d small

def firstDigit (b : UInt8) : Nat := if b.toNat < 16 then b.toNat else b.toNat / 16

theorem firstDigit_lt (b : UInt8) : firstDigit b < 16 := by
  have small := b.toNat_lt
  unfold firstDigit
  split <;> omega

theorem formatHex_byte (b : UInt8) : ∃ more, formatHex b.toNat = hexDigit (firstDigit b) :: more ∧
    more.length ≤ 1 := by
  have small := b.toNat_lt
  unfold formatHex firstDigit
  split
  · rename_i single
    rw [Nat.toDigits_of_lt_base single]
    exact ⟨[], rfl, Nat.zero_le _⟩
  · rename_i double
    rw [Nat.toDigits_of_base_le (by decide) (by omega),
      Nat.toDigits_of_lt_base (show b.toNat / 16 < 16 by omega)]
    exact ⟨[hexDigit (b.toNat % 16)], rfl, Nat.le_refl _⟩

theorem firstDigit_zero {b : UInt8} (zero : firstDigit b = 0) : b = 0 := by
  apply UInt8.toNat_inj.mp
  unfold firstDigit at zero
  change _ = 0
  split at zero <;> omega

theorem firstDigit_shared {b : UInt8} (nonzero : b ≠ 0) :
    ∃ other, other ≠ b ∧ firstDigit other = firstDigit b := by
  have small := b.toNat_lt
  have positive : b.toNat ≠ 0 := fun zero => nonzero (UInt8.toNat_inj.mp zero)
  by_cases single : b.toNat < 16
  · have value : (UInt8.ofNat (16 * b.toNat)).toNat = 16 * b.toNat := by
      rw [UInt8.toNat_ofNat']
      omega
    refine ⟨.ofNat (16 * b.toNat), ?_, ?_⟩
    · intro same
      rw [same] at value
      omega
    · rw [firstDigit, firstDigit, value, if_pos single, if_neg (by omega)]
      omega
  · have value : (UInt8.ofNat (16 * (b.toNat / 16) + (b.toNat + 1) % 16)).toNat =
        16 * (b.toNat / 16) + (b.toNat + 1) % 16 := by
      rw [UInt8.toNat_ofNat']
      omega
    refine ⟨.ofNat (16 * (b.toNat / 16) + (b.toNat + 1) % 16), ?_, ?_⟩
    · intro same
      rw [same] at value
      omega
    · rw [firstDigit, firstDigit, value, if_neg single, if_neg (by omega)]
      omega

def hexDigitUpper (d : Nat) : UInt8 := ascii d.digitChar.toUpper

def formatHexUpper (width n : Nat) : List UInt8 :=
  let digits := (Nat.toDigits 16 n).map fun ch => ascii ch.toUpper
  List.replicate (width - digits.length) (ascii '0') ++ digits

theorem formatHexUpper_byte (b : UInt8) :
    formatHexUpper 2 b.toNat = [hexDigitUpper (b.toNat / 16), hexDigitUpper (b.toNat % 16)] := by
  have small := b.toNat_lt
  unfold formatHexUpper
  by_cases single : b.toNat < 16
  · rw [Nat.toDigits_of_lt_base single, Nat.div_eq_of_lt single, Nat.mod_eq_of_lt single]
    rfl
  · rw [Nat.toDigits_of_base_le (by decide) (by omega),
      Nat.toDigits_of_lt_base (show b.toNat / 16 < 16 by omega)]
    rfl

theorem length_formatHexUpper_le {n k : Nat} (some_digit : 0 < k) (small : n < 16 ^ k)
    (width : Nat) : (formatHexUpper width n).length ≤ max width k := by
  have digits : (Nat.toDigits 16 n).length ≤ k :=
    (Nat.length_toDigits_le_iff (by decide) some_digit).mpr small
  simp only [formatHexUpper, List.length_append, List.length_replicate, List.length_map]
  omega

end MadDriver.Kernel

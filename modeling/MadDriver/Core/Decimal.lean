import MadDriver.Core.Kstrtox

/-! The `%d` of `sprintf`: its bytes, how many there are, and that `kstrtol` reads the
number back. The digits are those of `Nat.toDigits`. -/
namespace MadDriver.Kernel

def ascii (c : Char) : UInt8 := .ofNat c.toNat

def decimal (n : Nat) : List UInt8 := (Nat.toDigits 10 n).map ascii

def formatInt (x : Int) : List UInt8 :=
  if x < 0 then 0x2D :: decimal x.natAbs else decimal x.toNat

theorem length_decimal_le {n k : Nat} (some_digit : 0 < k) :
    (decimal n).length ≤ k ↔ n < 10 ^ k := by
  rw [decimal, List.length_map]
  exact Nat.length_toDigits_le_iff (by decide) some_digit

theorem length_decimal_pos (n : Nat) : 0 < (decimal n).length := by
  rw [decimal, List.length_map]
  exact Nat.length_toDigits_pos

theorem length_formatInt_le {x : Int} {k : Nat} (some_digit : 0 < k) :
    (formatInt x).length ≤ k + 1 ↔ -10 ^ k < x ∧ x < 10 ^ (k + 1) := by
  have positive : (0 : Int) < 10 ^ k := Int.pow_pos (by decide)
  have wider : (0 : Int) < 10 ^ (k + 1) := Int.pow_pos (by decide)
  unfold formatInt
  split
  · have digits := length_decimal_le (n := x.natAbs) some_digit
    have value : ((10 ^ k : Nat) : Int) = 10 ^ k := Int.natCast_pow 10 k
    rw [← Int.ofNat_lt, value] at digits
    rw [List.length_cons, Nat.add_le_add_iff_right, digits]
    omega
  · have digits := length_decimal_le (n := x.toNat) (Nat.succ_pos k)
    have value : ((10 ^ (k + 1) : Nat) : Int) = 10 ^ (k + 1) := Int.natCast_pow 10 (k + 1)
    rw [← Int.ofNat_lt, value] at digits
    rw [digits]
    omega

theorem ascii_digit {c : Char} (digit : c.isDigit) :
    (ascii c).toNat = c.toNat ∧ 48 ≤ c.toNat ∧ c.toNat ≤ 57 := by
  have bounds : 48 ≤ c.toNat ∧ c.toNat ≤ 57 := by
    simpa [Char.isDigit, UInt32.le_iff_toNat_le] using digit
  refine ⟨?_, bounds⟩
  rw [ascii, UInt8.toNat_ofNat']
  omega

theorem digitValue_ascii {c : Char} (digit : c.isDigit) :
    digitValue (ascii c) = some (c.toNat - 48) := by
  obtain ⟨value, low, high⟩ := ascii_digit digit
  have decimal_digit : (0x30 : UInt8) ≤ ascii c ∧ ascii c ≤ 0x39 := by
    rw [UInt8.le_iff_toNat_le, UInt8.le_iff_toNat_le, value]
    exact ⟨low, high⟩
  rw [digitValue, if_pos decimal_digit, value]

theorem decimal_digits {n : Nat} {ch : UInt8} (member : ch ∈ decimal n) :
    48 ≤ ch.toNat ∧ ch.toNat ≤ 57 := by
  obtain ⟨c, digit, rfl⟩ := List.mem_map.mp member
  obtain ⟨value, bounds⟩ := ascii_digit (Nat.isDigit_of_mem_toDigits (by decide) (by decide) digit)
  rw [value]
  exact bounds

theorem parseInteger_digits {cs : List Char} (digits : ∀ c ∈ cs, c.isDigit)
    (rest : List UInt8) (value read : Nat) :
    parseInteger 10 (cs.map ascii ++ rest) value read =
      parseInteger 10 rest (Nat.ofDigitChars 10 cs value) (read + cs.length) := by
  induction cs generalizing value read with
  | nil => simp
  | cons c cs ih =>
    have digit := digits c List.mem_cons_self
    obtain ⟨_, low, high⟩ := ascii_digit digit
    have next : value * 10 + (c.toNat - 48) = 10 * value + (c.toNat - '0'.toNat) := by
      rw [Nat.mul_comm]
      rfl
    have small : c.toNat - 48 < 10 := by omega
    rw [List.map_cons, List.cons_append, parseInteger, digitValue_ascii digit]
    simp only [if_pos small, next]
    rw [ih fun c member => digits c (List.mem_cons_of_mem _ member), Nat.ofDigitChars_cons,
      List.length_cons]
    congr 1
    omega

theorem parseInteger_decimal (n : Nat) (rest : List UInt8) :
    parseInteger 10 (decimal n ++ rest) 0 0 =
      parseInteger 10 rest n (decimal n).length := by
  have digits : ∀ c ∈ Nat.toDigits 10 n, c.isDigit :=
    fun c => Nat.isDigit_of_mem_toDigits (by decide) (by decide)
  rw [decimal, parseInteger_digits digits, Nat.ofDigitChars_ten_toDigits, Nat.zero_add,
    List.length_map]

theorem kstrtoull_decimal {n : Nat} (small : n < 2 ^ 64) :
    kstrtoull (decimal n ++ [0x0A]) 10 = .ok n := by
  have some_digit := length_decimal_pos n
  have fixed : parseIntegerFixupRadix (decimal n ++ [0x0A]) 10 = (decimal n ++ [0x0A], 10) := rfl
  simp only [kstrtoull, fixed, parseInteger_decimal]
  have stop : parseInteger 10 [0x0A] n (decimal n).length = (n, (decimal n).length, [0x0A]) := rfl
  simp only [stop]
  rw [if_neg (by omega), if_neg (by omega), if_pos (by decide)]

theorem kstrtol_unsigned {ch : UInt8} {s : List UInt8} (digit : 48 ≤ ch.toNat) {n : Nat}
    (parsed : kstrtoull (ch :: s) 10 = .ok n) (small : n < 2 ^ 63) :
    kstrtol (ch :: s) 10 = .ok (.ofInt n) := by
  have minus : ch ≠ 0x2D := by
    rintro rfl
    exact absurd digit (by decide)
  have plus : (ch :: s).head? ≠ some 0x2B := by
    intro first
    cases Option.some.inj first
    exact absurd digit (by decide)
  unfold kstrtol
  split
  · rename_i same
    exact absurd (List.cons.inj same).1 minus
  · rw [if_neg plus, parsed]
    exact if_neg (by omega)

theorem kstrtol_formatInt {x : Int} (low : -2 ^ 63 ≤ x) (high : x < 2 ^ 63) :
    kstrtol (formatInt x ++ [0x0A]) 10 = .ok (.ofInt x) := by
  unfold formatInt
  split
  · have magnitude : (x.natAbs : Int) = -x := by omega
    have parsed : kstrtoull (decimal x.natAbs ++ [0x0A]) 10 = .ok x.natAbs :=
      kstrtoull_decimal (by omega)
    rw [List.cons_append, kstrtol, parsed]
    refine (if_neg (by omega)).trans ?_
    rw [magnitude, Int.neg_neg]
  · have value : (x.toNat : Int) = x := by omega
    have parsed : kstrtoull (decimal x.toNat ++ [0x0A]) 10 = .ok x.toNat :=
      kstrtoull_decimal (by omega)
    obtain ⟨ch, s, digits⟩ := List.exists_cons_of_length_pos (length_decimal_pos x.toNat)
    have first : 48 ≤ ch.toNat :=
      (decimal_digits (n := x.toNat) (digits ▸ List.mem_cons_self)).1
    rw [digits, List.cons_append] at parsed ⊢
    rw [kstrtol_unsigned first parsed (by omega), value]

theorem formatInt_injective {x y : Int} (x_low : -2 ^ 63 ≤ x) (x_high : x < 2 ^ 63)
    (y_low : -2 ^ 63 ≤ y) (y_high : y < 2 ^ 63) (same : formatInt x = formatInt y) : x = y := by
  have read := kstrtol_formatInt x_low x_high
  rw [same, kstrtol_formatInt y_low y_high] at read
  have value := congrArg Int64.toInt (Except.ok.inj read)
  rw [Int64.toInt_ofInt_of_le x_low (by omega), Int64.toInt_ofInt_of_le y_low (by omega)] at value
  exact value.symm

theorem formatInt_chars {x : Int} {ch : UInt8} (member : ch ∈ formatInt x) :
    ch = 0x2D ∨ 48 ≤ ch.toNat ∧ ch.toNat ≤ 57 := by
  unfold formatInt at member
  split at member
  · rcases List.mem_cons.mp member with minus | digit
    · exact .inl minus
    · exact .inr (decimal_digits digit)
  · exact .inr (decimal_digits member)

end MadDriver.Kernel

import Mathlib.Data.List.TakeWhile
import MadDriver.Core.Kernel

/-! `kstrtol`, the kernel's string to number conversion, for the bases the drivers
pass. A string is the list of its bytes before the NUL. -/
namespace MadDriver.Kernel

def cString (buf : List UInt8) : List UInt8 := buf.takeWhile (· ≠ 0)

theorem cString_cons (ch : UInt8) (rest : List UInt8) :
    cString (ch :: rest) = if ch = 0 then [] else ch :: cString rest := by
  by_cases zero : ch = 0 <;> simp [cString, zero]

theorem cString_append_nul (string rest : List UInt8) :
    cString (string ++ 0 :: rest) = cString string := by
  induction string with
  | nil => rfl
  | cons ch string ih => rw [List.cons_append, cString_cons, cString_cons, ih]

theorem cString_of_nulFree {string : List UInt8} (nulFree : 0 ∉ string) :
    cString string = string := by
  unfold cString
  rw [List.takeWhile_eq_self_iff]
  intro ch member
  simpa using fun zero : ch = 0 => nulFree (zero ▸ member)

theorem cString_nulFree (bytes : List UInt8) : 0 ∉ cString bytes := by
  intro member
  simpa using List.mem_takeWhile_imp member

theorem length_cString_le (bytes : List UInt8) : (cString bytes).length ≤ bytes.length :=
  (List.takeWhile_sublist _).length_le

theorem take_cString_nul (string : List UInt8) :
    (string ++ [0]).take ((cString string).length + 1) = cString string ++ [0] := by
  induction string with
  | nil => rfl
  | cons ch string ih =>
    rw [cString_cons]
    split
    · rename_i zero
      simp [zero]
    · simpa using ih

theorem take_cString (string : List UInt8) {n : Nat} (short : n ≤ (cString string).length) :
    (string ++ [0]).take n = (cString string).take n := by
  have front := congrArg (List.take n) (take_cString_nul string)
  rwa [List.take_take, Nat.min_eq_left (by omega), List.take_append_of_le_length short] at front

theorem getUser_drop (src : List UInt8) (i : Nat) :
    cString (src.drop i) =
      if getUser src i = 0 then [] else getUser src i :: cString (src.drop (i + 1)) := by
  by_cases inside : i < src.length
  · rw [List.drop_eq_getElem_cons inside, cString_cons]
    simp [getUser, inside]
  · have short : src.length ≤ i := Nat.le_of_not_lt inside
    simp [getUser, List.drop_eq_nil_of_le short, List.getElem?_eq_none short, cString]

/-- The value of a digit or letter; the test for a letter ignores its case. -/
def digitValue (c : UInt8) : Option Nat :=
  let lc := c ||| 0x20
  if 0x30 ≤ c ∧ c ≤ 0x39 then some (c.toNat - 0x30)
  else if 0x61 ≤ lc ∧ lc ≤ 0x66 then some (lc.toNat - 0x61 + 10)
  else none

def parseInteger (base : Nat) : List UInt8 → Nat → Nat → Nat × Nat × List UInt8
  | [], value, digits => (value, digits, [])
  | c :: rest, value, digits =>
    match digitValue c with
    | some v =>
      if v < base then parseInteger base rest (value * base + v) (digits + 1)
      else (value, digits, c :: rest)
    | none => (value, digits, c :: rest)

def hexMark : List UInt8 → Bool
  | c₀ :: c₁ :: _ => c₀ == 0x30 && c₁ ||| 0x20 == 0x78
  | _ => false

/-- Base 0 asks for the base the prefix shows; the `0x` of base 16 is skipped. -/
def parseIntegerFixupRadix (s : List UInt8) (base : Nat) : List UInt8 × Nat :=
  let hexDigit := ((s[2]?).bind digitValue).isSome
  let base :=
    if base ≠ 0 then base
    else if s.head? ≠ some 0x30 then 10
    else if hexMark s && hexDigit then 16
    else 8
  (if base = 16 ∧ hexMark s then s.drop 2 else s, base)

/-- One newline may follow the digits, and nothing else. -/
def kstrtoull (s : List UInt8) (base : Nat) : Except Int64 Nat :=
  let (s, base) := parseIntegerFixupRadix s base
  let (value, digits, rest) := parseInteger base s 0 0
  if 2 ^ 64 ≤ value then .error (-ERANGE)
  else if digits = 0 then .error (-EINVAL)
  else if rest = [] ∨ rest = [0x0A] then .ok value
  else .error (-EINVAL)

def kstrtol (s : List UInt8) (base : Nat) : Except Int64 Int64 :=
  match s with
  | 0x2D :: s => do
    let tmp ← kstrtoull s base
    if 2 ^ 63 < tmp then .error (-ERANGE) else .ok (.ofInt (-tmp))
  | s => do
    let tmp ← kstrtoull (if s.head? = some 0x2B then s.drop 1 else s) base
    if 2 ^ 63 ≤ tmp then .error (-ERANGE) else .ok (.ofInt tmp)

theorem kstrtoull_error {s : List UInt8} {base : Nat} {e : Int64}
    (failed : kstrtoull s base = .error e) : e.toInt < 0 := by
  unfold kstrtoull at failed
  dsimp only at failed
  split at failed
  · cases failed
    decide
  · split at failed
    · cases failed
      decide
    · split at failed
      · cases failed
      · cases failed
        decide

theorem ranged_error {s : List UInt8} {base : Nat} {beyond : Nat → Prop} [DecidablePred beyond]
    {value : Nat → Int64} {e : Int64}
    (failed : (do
      let tmp ← kstrtoull s base
      if beyond tmp then .error (-ERANGE) else .ok (value tmp)) = .error e) : e.toInt < 0 := by
  cases parsed : kstrtoull s base with
  | error e' =>
    rw [parsed] at failed
    cases failed
    exact kstrtoull_error parsed
  | ok tmp =>
    rw [parsed] at failed
    change (if beyond tmp then Except.error (-ERANGE) else Except.ok (value tmp)) = _ at failed
    split at failed
    · cases failed
      decide
    · cases failed

theorem kstrtol_error {s : List UInt8} {base : Nat} {e : Int64}
    (failed : kstrtol s base = .error e) : e.toInt < 0 := by
  unfold kstrtol at failed
  split at failed
  · exact ranged_error failed
  · exact ranged_error failed

theorem parseInteger_lt (s : List UInt8) {value k : Nat} (digits : Nat) (small : value < 10 ^ k) :
    (parseInteger 10 s value digits).1 < 10 ^ (k + s.length) := by
  induction s generalizing value digits k with
  | nil => exact small
  | cons ch s ih =>
    have grown : value < 10 ^ (k + (ch :: s).length) :=
      Nat.lt_of_lt_of_le small (Nat.pow_le_pow_right (by decide) (Nat.le_add_right _ _))
    unfold parseInteger
    split
    · rename_i v _
      split
      · have place : value * 10 + v < 10 ^ (k + 1) := by
          rw [Nat.pow_succ]
          omega
        have rest := ih (digits + 1) place
        rwa [List.length_cons, Nat.add_comm s.length, ← Nat.add_assoc]
      · exact grown
    · exact grown

theorem kstrtoull_lt {s : List UInt8} {n : Nat} (read : kstrtoull s 10 = .ok n) :
    n < 10 ^ s.length := by
  have fixed : parseIntegerFixupRadix s 10 = (s, 10) := rfl
  have zero : 0 < 10 ^ 0 := by decide
  have bound := parseInteger_lt s 0 zero
  rw [Nat.zero_add] at bound
  simp only [kstrtoull, fixed] at read
  split at read
  · cases read
  · split at read
    · cases read
    · split at read
      · cases read
        exact bound
      · cases read

theorem ranged_ok {s : List UInt8} {base : Nat} {beyond : Nat → Prop} [DecidablePred beyond]
    {value : Nat → Int64} {v : Int64}
    (read : (do
      let tmp ← kstrtoull s base
      if beyond tmp then .error (-ERANGE) else .ok (value tmp)) = .ok v) :
    ∃ tmp, kstrtoull s base = .ok tmp ∧ ¬ beyond tmp ∧ value tmp = v := by
  cases parsed : kstrtoull s base with
  | error e =>
    rw [parsed] at read
    cases read
  | ok tmp =>
    rw [parsed] at read
    change (if beyond tmp then Except.error (-ERANGE) else Except.ok (value tmp)) = _ at read
    split at read
    · cases read
    · rename_i within
      exact ⟨tmp, rfl, within, Except.ok.inj read⟩

theorem kstrtol_lt {s : List UInt8} {value : Int64} (read : kstrtol s 10 = .ok value) :
    value.toInt < 10 ^ s.length := by
  unfold kstrtol at read
  split at read
  · obtain ⟨tmp, _, within, rfl⟩ := ranged_ok read
    have positive : (0 : Int) < 10 ^ ((0x2D : UInt8) :: ‹List UInt8›).length :=
      Int.pow_pos (by decide)
    rw [Int64.toInt_ofInt_of_le (by omega) (by omega)]
    omega
  · obtain ⟨tmp, parsed, within, rfl⟩ := ranged_ok read
    have shorter : ∀ s : List UInt8,
        (if s.head? = some 0x2B then s.drop 1 else s).length ≤ s.length := by
      intro s
      split <;> simp
    have bound := Nat.lt_of_lt_of_le (kstrtoull_lt parsed)
      (Nat.pow_le_pow_right (by decide) (shorter _))
    rw [Int64.toInt_ofInt_of_le (by omega) (by omega)]
    exact_mod_cast bound

end MadDriver.Kernel

import MadDriver.Core.Bytes
import MadDriver.Core.Hex
import MadDriver.Core.Kernel

/-! show_hash_result of sha256_drv.c. The loop goes on one place for each byte and prints
one digit or two, so every byte leaves its first digit only. -/
namespace MadDriver.Sha256
open Kernel

def SHA256_LENGTH : Nat := 32

abbrev Digest := { bytes : List UInt8 // bytes.length = SHA256_LENGTH }

/-- `char str[SHA256_LENGTH * 2 + 1]`, which nothing initialises. -/
abbrev Str := { str : List UInt8 // str.length = SHA256_LENGTH * 2 + 1 }

/-- `sprintf` of a text and its NUL to `&str[i]`. -/
def sprintf (str : List UInt8) (i : Nat) (text : List UInt8) : Outcome (List UInt8) :=
  if i + (text ++ [0]).length ≤ str.length then .done (Bytes.patch str i (text ++ [0])) else .wild

def hashLoop : List UInt8 → Nat → List UInt8 → Outcome (List UInt8)
  | [], _, str => .done str
  | b :: hash, i, str => (sprintf str i (formatHex b.toNat)).bind (hashLoop hash (i + 1))

/-- The contents of `str` when it is printed, up to its first NUL. -/
def showHashResult (str : Str) (hash : Digest) : Outcome (List UInt8) :=
  (hashLoop hash.val 0 str.val).bind fun str =>
    if SHA256_LENGTH < str.length then .done (cString (str.set SHA256_LENGTH 0)) else .wild

/-- Printed right: the encoding of the digest, inside the array. -/
def PrintsHex (str : Str) (hash : Digest) : Prop := showHashResult str hash = .done (hex hash.val)

def Alike (str : Str) (hash hash' : Digest) : Prop :=
  ∃ line, showHashResult str hash = .done line ∧ showHashResult str hash' = .done line

/-- One iteration: its first digit stays, what is behind it may be overwritten. -/
theorem sprintf_digit {str : List UInt8} {i : Nat} (room : i + 3 ≤ str.length) (b : UInt8) :
    ∃ str', sprintf str i (formatHex b.toNat) = .done str' ∧ str'.length = str.length ∧
      str'.take (i + 1) = str.take i ++ [hexDigit (firstDigit b)] := by
  obtain ⟨more, digits, few⟩ := formatHex_byte b
  have inside : i + (formatHex b.toNat ++ [0]).length ≤ str.length := by
    rw [digits]
    simp only [List.length_append, List.length_cons, List.length_nil]
    omega
  refine ⟨_, if_pos inside, Bytes.length_patch inside, ?_⟩
  have front : (str.take i).length = i := List.length_take_of_le (by omega)
  rw [Bytes.patch, digits, List.append_assoc, List.take_append, front,
    List.take_of_length_le (by omega)]
  simp

theorem hashLoop_digits {hash str : List UInt8} {i : Nat}
    (room : i + hash.length + 2 ≤ str.length) :
    ∃ str', hashLoop hash i str = .done str' ∧ str'.length = str.length ∧
      str'.take (i + hash.length) =
        str.take i ++ hash.map fun b => hexDigit (firstDigit b) := by
  induction hash generalizing i str with
  | nil => exact ⟨str, rfl, rfl, by simp⟩
  | cons b hash ih =>
    rw [List.length_cons] at room ⊢
    have here : i + 3 ≤ str.length := by omega
    obtain ⟨str₁, printed, length₁, front₁⟩ := sprintf_digit here b
    have later : i + 1 + hash.length + 2 ≤ str₁.length := by omega
    obtain ⟨str₂, looped, length₂, front₂⟩ := ih later
    refine ⟨str₂, ?_, length₂.trans length₁, ?_⟩
    · rw [hashLoop, printed]
      exact looped
    · have ends : i + (hash.length + 1) = i + 1 + hash.length := by omega
      rw [ends, front₂, front₁]
      simp

theorem showHashResult_eq (str : Str) (hash : Digest) :
    showHashResult str hash = .done (hash.val.map fun b => hexDigit (firstDigit b)) := by
  obtain ⟨str, size⟩ := str
  obtain ⟨hash, length⟩ := hash
  have bound : SHA256_LENGTH = 32 := rfl
  have room : 0 + hash.length + 2 ≤ str.length := by omega
  obtain ⟨str', looped, same, front⟩ := hashLoop_digits room
  have inside : SHA256_LENGTH < str'.length := by omega
  have nulFree : 0 ∉ hash.map fun b => hexDigit (firstDigit b) := by
    intro member
    obtain ⟨b, _, nul⟩ := List.mem_map.mp member
    exact hexDigit_ne_nul (firstDigit_lt b) nul
  rw [Nat.zero_add, length, List.take_zero, List.nil_append] at front
  simp only [showHashResult, looped, Outcome.bind, if_pos inside]
  rw [List.set_eq_take_append_cons_drop, if_pos inside, front, cString_append_nul,
    cString_of_nulFree nulFree]

theorem first_digits_injective {hash hash' : List UInt8}
    (same : (hash.map fun b => hexDigit (firstDigit b)) =
      hash'.map fun b => hexDigit (firstDigit b)) :
    hash.map firstDigit = hash'.map firstDigit := by
  induction hash generalizing hash' with
  | nil => rw [List.map_eq_nil_iff.mp same.symm]
  | cons b hash ih =>
    cases hash' with
    | nil => cases same
    | cons b' hash' =>
      obtain ⟨digit, rest⟩ := List.cons.inj same
      rw [List.map_cons, List.map_cons, ih rest,
        hexDigit_injective (firstDigit_lt b) (firstDigit_lt b') digit]

theorem alike_iff (str : Str) {hash hash' : Digest} :
    Alike str hash hash' ↔ hash.val.map firstDigit = hash'.val.map firstDigit := by
  simp only [Alike, showHashResult_eq, Outcome.done.injEq, exists_eq_left']
  constructor
  · intro same
    exact first_digits_injective same.symm
  · intro same
    simpa [Function.comp_def] using congrArg (List.map hexDigit) same.symm

theorem alike_exists_iff (str : Str) {hash : Digest} :
    (∃ hash' ≠ hash, Alike str hash hash') ↔ ∃ b ∈ hash.val, b ≠ 0 := by
  constructor
  · rintro ⟨hash', other, alike⟩
    by_contra nonzero
    have zeros : ∀ b ∈ hash.val, b = 0 := fun b member =>
      Decidable.byContradiction fun other => nonzero ⟨b, member, other⟩
    apply other
    have same := (alike_iff str).mp alike
    rw [List.eq_replicate_of_mem zeros, List.map_replicate] at same
    have zeros' : ∀ b ∈ hash'.val, b = 0 := by
      intro b member
      have digit : firstDigit b ∈ hash'.val.map firstDigit := List.mem_map_of_mem member
      rw [← same] at digit
      exact firstDigit_zero (List.eq_of_mem_replicate digit)
    apply Subtype.ext
    rw [List.eq_replicate_of_mem zeros, List.eq_replicate_of_mem zeros', hash.property,
      hash'.property]
  · rintro ⟨b, member, nonzero⟩
    obtain ⟨b', other, digit⟩ := firstDigit_shared nonzero
    obtain ⟨before, after, split⟩ := List.append_of_mem member
    have length : (before ++ b' :: after).length = SHA256_LENGTH := by
      have whole := hash.property
      rw [split] at whole
      simpa using whole
    refine ⟨⟨before ++ b' :: after, length⟩, ?_, ?_⟩
    · intro same
      have lists : before ++ b' :: after = before ++ b :: after :=
        (congrArg Subtype.val same).trans split
      exact other (List.cons.inj (List.append_cancel_left lists)).1
    · rw [alike_iff, split]
      simp [digit]

/-- Never the encoding, for which the line has half the digits; and only the line of the
zero digest belongs to one digest alone. -/
theorem never_hex (str : Str) (hash : Digest) :
    (∃ line, showHashResult str hash = .done line ∧ line.length = SHA256_LENGTH) ∧
      ¬ PrintsHex str hash ∧
      ((∃ hash' ≠ hash, Alike str hash hash') ↔ ∃ b ∈ hash.val, b ≠ 0) := by
  refine ⟨⟨_, showHashResult_eq str hash, ?_⟩, ?_, alike_exists_iff str⟩
  · rw [List.length_map, hash.property]
  · intro prints
    have line := Outcome.done.inj ((showHashResult_eq str hash).symm.trans prints)
    have lengths := congrArg List.length line
    rw [List.length_map, length_hex, hash.property] at lengths
    cases lengths

def beginning (b : UInt8) : Digest := ⟨b :: List.replicate 31 0, rfl⟩

/-- 05 and 50 are both printed as 5. -/
theorem digests_alike : beginning 0x05 ≠ beginning 0x50 ∧ ∀ str : Str,
    showHashResult str (beginning 0x05) = .done (0x35 :: List.replicate 31 0x30) ∧
      showHashResult str (beginning 0x50) = .done (0x35 :: List.replicate 31 0x30) ∧
      ¬ PrintsHex str (beginning 0x05) := by
  refine ⟨by decide, fun str => ⟨showHashResult_eq str _, showHashResult_eq str _, ?_⟩⟩
  intro prints
  cases (showHashResult_eq str (beginning 0x05)).symm.trans prints

end MadDriver.Sha256

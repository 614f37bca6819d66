import MadDriver.Core.CInt
import MadDriver.Core.Decimal

/-! The `%d` of `sscanf`: which strings it takes a number from, as a grammar, and which
number. What `sprintf` prints for `%d` it takes back, whatever stands behind it. -/
namespace MadDriver.Kernel

/-- `isspace`, in whose table the no-break space is one. -/
def isSpace (c : UInt8) : Bool := c = 0x20 || (0x09 ≤ c && c ≤ 0x0D) || c = 0xA0

def isDigit (c : UInt8) : Bool := 0x30 ≤ c && c ≤ 0x39

def skipSpaces (s : List UInt8) : List UInt8 := s.dropWhile isSpace

/-- What overflows is lost. -/
def simpleStrtoull (s : List UInt8) : UInt64 := .ofNat (parseInteger 10 s 0 0).1

def simpleStrtoll (s : List UInt8) : Int64 :=
  match s with
  | 0x2D :: s => (-simpleStrtoull s).toInt64
  | s => (simpleStrtoull s).toInt64

/-- `sscanf(str, "%d", &x)`: what is stored, if anything is. -/
def sscanfD (str : List UInt8) : Option Int32 :=
  let str := skipSpaces str
  let digit := if str.head? = some 0x2D then (str.drop 1).head? else str.head?
  match digit with
  | none => none
  | some c => if isDigit c then some (simpleStrtoll str).toInt32 else none

def digitsValue (digits : List UInt8) : Nat := digits.foldl (fun n c => n * 10 + (c.toNat - 48)) 0

def sign : Bool → List UInt8
  | true => [0x2D]
  | false => []

def signed (negative : Bool) (n : Nat) : Int := if negative then -n else n

inductive Numeral : List UInt8 → Int → Prop where
  | intro {spaces digits rest : List UInt8} (negative : Bool) :
      (∀ c ∈ spaces, isSpace c = true) → digits ≠ [] → (∀ c ∈ digits, isDigit c = true) →
      (∀ c ∈ rest.head?, isDigit c = false) →
      Numeral (spaces ++ (sign negative ++ (digits ++ rest))) (signed negative (digitsValue digits))

theorem digitValue_digit {c : UInt8} (digit : isDigit c = true) :
    digitValue c = some (c.toNat - 48) ∧ c.toNat - 48 < 10 := by
  have bounds : 0x30 ≤ c ∧ c ≤ 0x39 := by simpa [isDigit] using digit
  refine ⟨by rw [digitValue, if_pos bounds], ?_⟩
  have high := UInt8.le_iff_toNat_le.mp bounds.2
  simp at high
  omega

theorem parseInteger_stop {rest : List UInt8} (stop : ∀ c ∈ rest.head?, isDigit c = false)
    (value digits : Nat) : parseInteger 10 rest value digits = (value, digits, rest) := by
  cases rest with
  | nil => rfl
  | cons c rest =>
    have other : ¬ (0x30 ≤ c ∧ c ≤ 0x39) := by simpa [isDigit] using stop c rfl
    rw [parseInteger, digitValue, if_neg other]
    by_cases letter : 0x61 ≤ c ||| 0x20 ∧ c ||| 0x20 ≤ 0x66
    · rw [if_pos letter]
      exact if_neg (by omega)
    · rw [if_neg letter]

theorem parseInteger_bytes {digits rest : List UInt8} (all : ∀ c ∈ digits, isDigit c = true)
    (stop : ∀ c ∈ rest.head?, isDigit c = false) (value read : Nat) :
    (parseInteger 10 (digits ++ rest) value read).1 =
      digits.foldl (fun n c => n * 10 + (c.toNat - 48)) value := by
  induction digits generalizing value read with
  | nil => rw [List.nil_append, parseInteger_stop stop]; rfl
  | cons c digits ih =>
    obtain ⟨digit, small⟩ := digitValue_digit (all c List.mem_cons_self)
    rw [List.cons_append, parseInteger, digit]
    simp only [if_pos small, List.foldl_cons]
    exact ih (fun c' member => all c' (List.mem_cons_of_mem _ member)) _ _

/-- Both conversions only drop bits. -/
theorem toInt32_unsigned (n : Nat) (negative : Bool) :
    (if negative then (-UInt64.ofNat n).toInt64 else (UInt64.ofNat n).toInt64).toInt32 =
      Int32.ofInt (signed negative n) := by
  cases negative with
  | false => exact Int64.toInt32_ofNat'.trans Int32.ofInt_eq_ofNat.symm
  | true =>
    change (-Int64.ofInt n).toInt32 = Int32.ofInt (-n)
    rw [← Int64.ofInt_neg, Int64.toInt32_ofInt]

theorem skipSpaces_append {spaces rest : List UInt8} (all : ∀ c ∈ spaces, isSpace c = true)
    (stop : ∀ c ∈ rest.head?, isSpace c = false) : skipSpaces (spaces ++ rest) = rest := by
  induction spaces with
  | nil =>
    cases rest with
    | nil => rfl
    | cons c rest => exact List.dropWhile_cons_of_neg (by simp [stop c rfl])
  | cons c spaces ih =>
    rw [List.cons_append, skipSpaces, List.dropWhile_cons_of_pos (all c List.mem_cons_self)]
    exact ih fun c' member => all c' (List.mem_cons_of_mem _ member)

theorem digit_bounds {c : UInt8} (digit : isDigit c = true) : 48 ≤ c.toNat ∧ c.toNat ≤ 57 := by
  have bounds : 0x30 ≤ c ∧ c ≤ 0x39 := by simpa [isDigit] using digit
  exact ⟨UInt8.le_iff_toNat_le.mp bounds.1, UInt8.le_iff_toNat_le.mp bounds.2⟩

theorem digit_not_minus {c : UInt8} (digit : isDigit c = true) : c ≠ 0x2D := by
  rintro rfl
  cases digit

theorem digit_not_space {c : UInt8} (digit : isDigit c = true) : isSpace c = false := by
  obtain ⟨low, high⟩ := digit_bounds digit
  simp only [isSpace, Bool.or_eq_false_iff, decide_eq_false_iff_not, Bool.and_eq_false_iff,
    UInt8.le_iff_toNat_le, ← UInt8.toNat_inj]
  simp
  omega

theorem sscanfD_minus {str t : List UInt8} (skipped : skipSpaces str = 0x2D :: t) :
    sscanfD str = t.head?.bind fun c =>
      if isDigit c then some (-simpleStrtoull t).toInt64.toInt32 else none := by
  simp only [sscanfD, skipped, List.head?_cons, if_true, List.drop_one, List.tail_cons,
    simpleStrtoll]
  cases t.head? <;> rfl

theorem sscanfD_plain {str t : List UInt8} (skipped : skipSpaces str = t)
    (plain : t.head? ≠ some 0x2D) :
    sscanfD str = t.head?.bind fun c =>
      if isDigit c then some (simpleStrtoull t).toInt64.toInt32 else none := by
  have unsigned : simpleStrtoll t = (simpleStrtoull t).toInt64 := by
    unfold simpleStrtoll
    split
    · exact absurd rfl plain
    · rfl
  simp only [sscanfD, skipped, if_neg plain, unsigned]
  cases t.head? <;> rfl

theorem sscanfD_numeral {str : List UInt8} {n : Int} (numeral : Numeral str n) :
    sscanfD str = some (Int32.ofInt n) := by
  obtain ⟨negative, spaces, some_digit, digits, stop⟩ := numeral
  rename_i blanks ds rest
  obtain ⟨c, ds, rfl⟩ := List.exists_cons_of_ne_nil some_digit
  have digit := digits c List.mem_cons_self
  have number : simpleStrtoull (c :: ds ++ rest) = .ofNat (digitsValue (c :: ds)) :=
    congrArg UInt64.ofNat (parseInteger_bytes digits stop 0 0)
  rw [← toInt32_unsigned, ← number]
  cases negative with
  | true =>
    change sscanfD (blanks ++ 0x2D :: (c :: ds ++ rest)) = _
    rw [sscanfD_minus (skipSpaces_append spaces fun c' head => by cases head; rfl)]
    simp [digit]
  | false =>
    have plain : (c :: ds ++ rest).head? ≠ some 0x2D := fun same =>
      digit_not_minus digit (Option.some.inj same)
    change sscanfD (blanks ++ (c :: ds ++ rest)) = _
    rw [sscanfD_plain (skipSpaces_append spaces fun c' head => ?_) plain]
    · simp [digit]
    · cases head
      exact digit_not_space digit

theorem numeral_of_digit {spaces t : List UInt8} {c : UInt8} (negative : Bool)
    (blank : ∀ c ∈ spaces, isSpace c = true) (first : t.head? = some c) (digit : isDigit c = true) :
    ∃ n, Numeral (spaces ++ (sign negative ++ t)) n := by
  obtain ⟨ds, rfl⟩ := List.head?_eq_some_iff.mp first
  have some_digit : (c :: ds).takeWhile isDigit ≠ [] := by
    rw [List.takeWhile_cons_of_pos digit]
    exact List.cons_ne_nil _ _
  have stop : ∀ c' ∈ ((c :: ds).dropWhile isDigit).head?, isDigit c' = false := by
    intro c' head
    have next := List.head?_dropWhile_not isDigit (c :: ds)
    rwa [head] at next
  have numeral := Numeral.intro negative blank some_digit (fun _ => List.mem_takeWhile_imp) stop
  rw [List.takeWhile_append_dropWhile] at numeral
  exact ⟨_, numeral⟩

/-- The strings `%d` takes a number from, and which. -/
theorem sscanfD_iff {str : List UInt8} {x : Int32} :
    sscanfD str = some x ↔ ∃ n, Numeral str n ∧ x = Int32.ofInt n := by
  constructor
  · intro taken
    have numeral : ∃ n, Numeral str n := by
      have whole := List.takeWhile_append_dropWhile (p := isSpace) (l := str)
      have blank : ∀ c ∈ str.takeWhile isSpace, isSpace c = true := fun c => List.mem_takeWhile_imp
      by_cases minus : (skipSpaces str).head? = some 0x2D
      · obtain ⟨t, skipped⟩ := List.head?_eq_some_iff.mp minus
        rw [sscanfD_minus skipped, Option.bind_eq_some_iff] at taken
        obtain ⟨c, first, taken⟩ := taken
        have digit : isDigit c = true := by
          by_contra other
          simp [other] at taken
        rw [← whole, ← skipSpaces, skipped]
        exact numeral_of_digit true blank first digit
      · rw [sscanfD_plain rfl minus, Option.bind_eq_some_iff] at taken
        obtain ⟨c, first, taken⟩ := taken
        have digit : isDigit c = true := by
          by_contra other
          simp [other] at taken
        rw [← whole]
        exact numeral_of_digit false blank first digit
    obtain ⟨n, numeral⟩ := numeral
    rw [sscanfD_numeral numeral] at taken
    exact ⟨n, numeral, (Option.some.inj taken).symm⟩
  · rintro ⟨n, numeral, rfl⟩
    exact sscanfD_numeral numeral

theorem decimal_isDigit {n : Nat} {c : UInt8} (member : c ∈ decimal n) : isDigit c = true := by
  have bounds := decimal_digits member
  simp only [isDigit, Bool.and_eq_true, decide_eq_true_eq, UInt8.le_iff_toNat_le]
  exact bounds

theorem digitsValue_decimal (n : Nat) : digitsValue (decimal n) = n := by
  have stop : ∀ c ∈ ([] : List UInt8).head?, isDigit c = false := by simp
  have bytes := parseInteger_bytes (fun _ => decimal_isDigit (n := n)) stop 0 0
  rw [parseInteger_decimal, parseInteger_stop stop] at bytes
  exact bytes.symm

theorem numeral_formatInt (x : Int) {rest : List UInt8}
    (stop : ∀ c ∈ rest.head?, isDigit c = false) : Numeral (formatInt x ++ rest) x := by
  have some_digit : ∀ n, decimal n ≠ [] := fun n => List.ne_nil_of_length_pos (length_decimal_pos n)
  have no_blank : ∀ c ∈ ([] : List UInt8), isSpace c = true := by simp
  have numeral := fun n negative => Numeral.intro negative no_blank (some_digit n)
    (fun _ => decimal_isDigit) stop
  unfold formatInt
  split
  · have below := numeral x.natAbs true
    rw [digitsValue_decimal] at below
    have value : signed true x.natAbs = x := by
      rw [signed, if_pos rfl]
      omega
    rwa [value] at below
  · have above := numeral x.toNat false
    rw [digitsValue_decimal] at above
    have value : signed false x.toNat = x := by
      rw [signed, if_neg Bool.false_ne_true]
      omega
    rwa [value] at above

theorem sscanfD_formatInt (x : Int32) {rest : List UInt8}
    (stop : ∀ c ∈ rest.head?, isDigit c = false) :
    sscanfD (formatInt x.toInt ++ rest) = some x := by
  rw [sscanfD_numeral (numeral_formatInt x.toInt stop), Int32.ofInt_toInt]

end MadDriver.Kernel

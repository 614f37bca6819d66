import Mathlib.Data.List.Induction
import MadDriver.Core.Decimal
import MadDriver.Core.Transition
import MadDriver.Lcd.Driver

/-! gpio-sysfs: the attributes direction and value of one line after any writes to them. -/
namespace MadDriver.GpioSysfs
open Kernel Transition Wire
open Lcd.GpioSysfs (sysfsStreq)

/-- The GPIO library as far as the driver uses it, for an active-high line on which the
calls succeed. -/
structure Gpiolib (L : Type) where
  gpiodGetDirection : L → Int32
  gpiodDirectionInput : L → Int32 × L
  gpiodDirectionOutput : L → Int32 → Int32 × L
  gpiodGetValue : L → Int32
  gpiodSetValue : L → Int32 → L
  input_succeeds : ∀ l, (gpiodDirectionInput l).1 = 0
  output_succeeds : ∀ l value, (gpiodDirectionOutput l value).1 = 0
  input_direction : ∀ l, gpiodGetDirection (gpiodDirectionInput l).2 = 1
  output_direction : ∀ l value, gpiodGetDirection (gpiodDirectionOutput l value).2 = 0
  output_value : ∀ l value,
    gpiodGetValue (gpiodDirectionOutput l value).2 = if value = 0 then 0 else 1
  set_direction : ∀ l value, gpiodGetDirection (gpiodSetValue l value) = gpiodGetDirection l
  set_value : ∀ l value, gpiodGetDirection l = 0 →
    gpiodGetValue (gpiodSetValue l value) = if value = 0 then 0 else 1

def textIn : List UInt8 := ['i', 'n'].map ascii

def textOut : List UInt8 := ['o', 'u', 't'].map ascii

inductive Store where
  | direction (buf : List UInt8)
  | value (buf : List UInt8)

def Store.buf : Store → List UInt8
  | .direction buf | .value buf => buf

structure Stored (L : Type) where
  ret : Int64
  line : L

section Driver

variable {L : Type} (g : Gpiolib L)

def directionShow (l : L) : Except Int32 (List UInt8) :=
  let dir := g.gpiodGetDirection l
  if dir < 0 then .error dir
  else
    let direction := if dir = 0 then textOut else textIn
    .ok (direction ++ [ascii '\n'])

/-- `return ret ? : count`. -/
def orCount (ret : Int64) (count : Nat) : Int64 := if ret ≠ 0 then ret else .ofNat count

def directionStore (l : L) (buf : List UInt8) : Stored L :=
  if sysfsStreq (cString buf) textIn then
    let (ret, line) := g.gpiodDirectionInput l
    ⟨orCount ret.toInt64 buf.length, line⟩
  else if sysfsStreq (cString buf) textOut then
    let (ret, line) := g.gpiodDirectionOutput l 0
    ⟨orCount ret.toInt64 buf.length, line⟩
  else ⟨orCount (-EINVAL) buf.length, l⟩

def valueShow (l : L) : List UInt8 := formatInt (g.gpiodGetValue l).toInt ++ [ascii '\n']

/-- The number is a `long`, the parameter of `gpiod_set_value` an `int`. -/
def valueStore (l : L) (buf : List UInt8) : Stored L :=
  match kstrtol (cString buf) 0 with
  | .error ret => ⟨ret, l⟩
  | .ok value => ⟨.ofNat buf.length, g.gpiodSetValue l value.toInt32⟩

def Store.run (l : L) : Store → Stored L
  | .direction buf => directionStore g l buf
  | .value buf => valueStore g l buf

def probed (l : L) : L := (g.gpiodDirectionOutput l 0).2

def lineAfter (l : L) (stores : List Store) : L :=
  stores.foldl (fun line store => (store.run g line).line) (probed g l)

end Driver

inductive Accepted where
  | input
  | output
  | integer (n : Int64)

def Store.accepted : Store → Option Accepted
  | .direction buf =>
    if sysfsStreq (cString buf) textIn then some .input
    else if sysfsStreq (cString buf) textOut then some .output
    else none
  | .value buf =>
    match kstrtol (cString buf) 0 with
    | .error _ => none
    | .ok n => some (.integer n)

/-- When a line becomes an output: with every "out" that is accepted, or only with one that
finds it an input. -/
inductive Became where
  | accepted | turned
  deriving DecidableEq

/-- The last accepted direction, and the last integer accepted since the line last became an
output, or 0. -/
structure Written where
  out : Bool
  value : Int64

def Written.after (became : Became) (w : Written) (store : Store) : Written :=
  match store.accepted with
  | none => w
  | some .input => { w with out := false }
  | some .output => if became = .turned ∧ w.out = true then w else ⟨true, 0⟩
  | some (.integer n) => { w with value := n }

def written (became : Became) (stores : List Store) : Written :=
  stores.foldl (Written.after became) ⟨true, 0⟩

structure Agrees {L : Type} (g : Gpiolib L) (w : Written) (l : L) : Prop where
  direction : directionShow g l = .ok ((if w.out = true then textOut else textIn) ++ [ascii '\n'])
  value : w.out = true →
    valueShow g l = [if w.value = 0 then ascii '0' else ascii '1', ascii '\n']

structure AttributesRight {L : Type} (g : Gpiolib L) (l : L) (became : Became)
    (stores : List Store) : Prop where
  agrees : ∀ before, before <+: stores → Agrees g (written became before) (lineAfter g l before)
  accepted : ∀ before store, before ++ [store] <+: stores → store.accepted ≠ none →
    (store.run g (lineAfter g l before)).ret = .ofNat store.buf.length
  rejected : ∀ before store, before ++ [store] <+: stores → store.accepted = none →
    (store.run g (lineAfter g l before)).ret.toInt < 0 ∧
    directionShow g (lineAfter g l (before ++ [store])) = directionShow g (lineAfter g l before) ∧
    valueShow g (lineAfter g l (before ++ [store])) = valueShow g (lineAfter g l before)

/-- No non-zero integer that is a multiple of 2^32 is accepted while the line is an output;
and, where only a turn counts, no "out" while it is one with another value than 0. -/
def Written.Keeps (became : Became) (w : Written) (store : Store) : Prop :=
  match store.accepted with
  | none | some .input => True
  | some .output => became = .turned → w.out = true → w.value = 0
  | some (.integer n) => w.out = true → (2 ^ 32 : Int) ∣ n.toInt → n = 0

theorem narrowed_zero (n : Int64) : n.toInt32 = 0 ↔ (2 ^ 32 : Int) ∣ n.toInt := by
  have zero : (0 : Int32).toInt = 0 := rfl
  rw [← Int32.toInt_inj, zero, Int64.toInt_toInt32, Int.bmod_def]
  split <;> omega

section Step

variable {L : Type} (g : Gpiolib L) (l : L)

def effect : Accepted → L
  | .input => (g.gpiodDirectionInput l).2
  | .output => (g.gpiodDirectionOutput l 0).2
  | .integer n => g.gpiodSetValue l n.toInt32

/-- A store returns the count, or leaves the line and returns an error. -/
theorem run_cases (store : Store) :
    (∃ a, store.accepted = some a ∧ store.run g l = ⟨.ofNat store.buf.length, effect g l a⟩) ∨
    (store.accepted = none ∧ ∃ ret : Int64, ret.toInt < 0 ∧ store.run g l = ⟨ret, l⟩) := by
  have success : ∀ count, orCount (0 : Int32).toInt64 count = .ofNat count := fun _ => rfl
  cases store with
  | direction buf =>
    simp only [Store.accepted, Store.run, directionStore]
    split
    · refine .inl ⟨.input, rfl, ?_⟩
      simp only [g.input_succeeds, success]
      rfl
    · split
      · refine .inl ⟨.output, rfl, ?_⟩
        simp only [g.output_succeeds, success]
        rfl
      · exact .inr ⟨rfl, -EINVAL, by decide, rfl⟩
  | value buf =>
    simp only [Store.accepted, Store.run, valueStore]
    cases parsed : kstrtol (cString buf) 0 with
    | error ret => exact .inr ⟨rfl, ret, kstrtol_error parsed, rfl⟩
    | ok n => exact .inl ⟨.integer n, rfl, rfl⟩

variable {g l}

theorem directionShow_out (out : g.gpiodGetDirection l = 0) :
    directionShow g l = .ok (textOut ++ [ascii '\n']) := by
  rw [directionShow, out]
  rfl

theorem direction_of_shown (shown : directionShow g l = .ok (textOut ++ [ascii '\n'])) :
    g.gpiodGetDirection l = 0 := by
  unfold directionShow at shown
  dsimp only at shown
  split at shown
  · cases shown
  · split at shown
    · assumption
    · exact absurd (Except.ok.inj shown) (by decide)

theorem valueShow_driven {n : Int32} (driven : g.gpiodGetValue l = if n = 0 then 0 else 1) :
    valueShow g l = [if n = 0 then ascii '0' else ascii '1', ascii '\n'] := by
  rw [valueShow, driven]
  split <;> rfl

theorem zero_of_low {n : Int64} (shown : [ascii '0', ascii '\n'] =
    [if n = 0 then ascii '0' else ascii '1', ascii '\n']) : n = 0 := by
  refine Classical.byContradiction fun other => ?_
  rw [if_neg other] at shown
  exact absurd shown (by decide)

theorem agrees_output {w : Written} (out : w.out = true) :
    Agrees g w (g.gpiodDirectionOutput l 0).2 ↔ w.value = 0 := by
  have shown : valueShow g (g.gpiodDirectionOutput l 0).2 = [ascii '0', ascii '\n'] :=
    valueShow_driven (n := 0) (g.output_value l 0)
  constructor
  · intro agrees
    have value := agrees.value out
    rw [shown] at value
    exact zero_of_low value
  · intro zero
    refine ⟨?_, fun _ => ?_⟩
    · rw [if_pos out]
      exact directionShow_out (g.output_direction l 0)
    · rw [shown, if_pos zero]

theorem agrees_integer {w : Written} (agrees : Agrees g w l) (n : Int64) :
    Agrees g { w with value := n } (g.gpiodSetValue l n.toInt32) ↔
      (w.out = true → (2 ^ 32 : Int) ∣ n.toInt → n = 0) := by
  have direction : directionShow g (g.gpiodSetValue l n.toInt32) = directionShow g l := by
    rw [directionShow, directionShow, g.set_direction]
  have shown : w.out = true → valueShow g (g.gpiodSetValue l n.toInt32) =
      [if n.toInt32 = 0 then ascii '0' else ascii '1', ascii '\n'] := by
    intro out
    have driven := agrees.direction
    rw [if_pos out] at driven
    exact valueShow_driven (g.set_value l _ (direction_of_shown driven))
  constructor
  · intro after out multiple
    have value := after.value out
    rw [shown out, if_pos ((narrowed_zero n).mpr multiple)] at value
    exact zero_of_low value
  · intro exact
    refine ⟨direction.trans agrees.direction, fun out => ?_⟩
    rw [shown out]
    by_cases zero : n = 0
    · simp [zero]
    · have narrowed : n.toInt32 ≠ 0 :=
        fun narrowed => zero (exact out ((narrowed_zero n).mp narrowed))
      rw [if_neg narrowed, if_neg zero]

/-- The one place where they part is a store that loses its value. -/
theorem agrees_after {became : Became} {w : Written} (agrees : Agrees g w l) (store : Store) :
    Agrees g (w.after became store) (store.run g l).line ↔ w.Keeps became store := by
  unfold Written.after Written.Keeps
  rcases run_cases g l store with ⟨a, accepted, run⟩ | ⟨rejected, _, _, run⟩
  · rw [run, accepted]
    cases a with
    | input =>
      refine iff_of_true ⟨?_, fun out => ?_⟩ trivial
      · rw [directionShow, effect, g.input_direction]
        rfl
      · cases out
    | output =>
      by_cases kept : became = .turned ∧ w.out = true
      · simp only [if_pos kept]
        refine (agrees_output kept.2).trans ⟨fun zero _ _ => zero, fun keeps => ?_⟩
        exact keeps kept.1 kept.2
      · simp only [if_neg kept]
        refine iff_of_true ((agrees_output rfl).mpr rfl) ?_
        exact fun turned out => absurd ⟨turned, out⟩ kept
    | integer n => exact agrees_integer agrees n
  · rw [run, rejected]
    exact iff_of_true agrees trivial

theorem agrees_probed : Agrees g ⟨true, 0⟩ (probed g l) := (agrees_output rfl).mpr rfl

theorem rejected_same {store : Store} (rejected : store.accepted = none) :
    (store.run g l).ret.toInt < 0 ∧ (store.run g l).line = l := by
  rcases run_cases g l store with ⟨_, accepted, _⟩ | ⟨_, ret, negative, run⟩
  · rw [rejected] at accepted
    cases accepted
  · rw [run]
    exact ⟨negative, rfl⟩

theorem accepted_count {store : Store} (accepted : store.accepted ≠ none) :
    (store.run g l).ret = .ofNat store.buf.length := by
  rcases run_cases g l store with ⟨_, _, run⟩ | ⟨rejected, _⟩
  · rw [run]
  · exact absurd rejected accepted

end Step

theorem written_snoc (became : Became) (before : List Store) (store : Store) :
    written became (before ++ [store]) = (written became before).after became store :=
  List.foldl_concat ..

theorem lineAfter_snoc {L : Type} (g : Gpiolib L) (l : L) (before : List Store) (store : Store) :
    lineAfter g l (before ++ [store]) = (store.run g (lineAfter g l before)).line :=
  List.foldl_concat ..

/-- Any writes to a line, in either reading of when it becomes an output. -/
theorem attributes_right_iff {L : Type} (g : Gpiolib L) (l : L) (became : Became)
    (stores : List Store) : AttributesRight g l became stores ↔
      ∀ before store, before ++ [store] <+: stores →
        (written became before).Keeps became store := by
  have agree : (∀ before, before <+: stores →
        Agrees g (written became before) (lineAfter g l before)) ↔
      ∀ before store, before ++ [store] <+: stores →
        (written became before).Keeps became store := by
    refine prefixes_iff (agrees_probed (l := l)) ?_ stores
    intro before store agrees
    rw [written_snoc, lineAfter_snoc]
    exact agrees_after agrees store
  constructor
  · intro right
    exact agree.mp right.agrees
  · intro keeps
    refine ⟨agree.mpr keeps, fun _ _ _ => accepted_count, ?_⟩
    intro before store _ rejected
    obtain ⟨negative, same⟩ := rejected_same (l := lineAfter g l before) rejected
    rw [lineAfter_snoc, same]
    exact ⟨negative, rfl, rfl⟩

structure Line where
  out : Bool
  high : Bool

def Line.library : Gpiolib Line where
  gpiodGetDirection l := if l.out then 0 else 1
  gpiodDirectionInput l := (0, { l with out := false })
  gpiodDirectionOutput _ value := (0, ⟨true, value ≠ 0⟩)
  gpiodGetValue l := if l.high then 1 else 0
  gpiodSetValue l value := { l with high := value ≠ 0 }
  input_succeeds _ := rfl
  output_succeeds _ _ := rfl
  input_direction _ := rfl
  output_direction _ _ := rfl
  output_value _ value := by by_cases zero : value = 0 <;> simp [zero]
  set_direction _ _ := rfl
  set_value _ value _ := by by_cases zero : value = 0 <;> simp [zero]

/-- What a store drives, as the display program is modelled over the attributes. -/
def Store.writes (label : String) : Store → List (Write String)
  | .direction buf => Lcd.GpioSysfs.directionStore label buf
  | .value buf => Lcd.GpioSysfs.valueStore label buf

/-- The trace of a store leaves the line on the level the library has. -/
theorem run_high (label : String) (store : Store) {levels : Levels String} {l : Line}
    (same : levels label = l.high) :
    after levels (store.writes label) label = (store.run Line.library l).line.high := by
  cases store with
  | direction buf =>
    simp only [Store.writes, Lcd.GpioSysfs.directionStore, Store.run, directionStore]
    have texts : textIn = [0x69, 0x6E] ∧ textOut = [0x6F, 0x75, 0x74] := ⟨rfl, rfl⟩
    rw [texts.1, texts.2]
    split
    · exact same
    · split
      · exact drive_self ..
      · exact same
  | value buf =>
    simp only [Store.writes, Lcd.GpioSysfs.valueStore, Store.run, valueStore]
    cases kstrtol (cString buf) 0 with
    | error ret => exact same
    | ok n => exact drive_self ..

theorem lineAfter_high (label : String) (levels : Levels String) (l : Line)
    (stores : List Store) :
    after levels (Lcd.gpiodDirectionOutput label 0 ++ stores.flatMap (Store.writes label)) label =
      (lineAfter Line.library l stores).high := by
  induction stores using List.reverseRecOn with
  | nil => exact drive_self ..
  | append_singleton before store ih =>
    rw [List.flatMap_append, List.flatMap_singleton, ← List.append_assoc, after_append,
      lineAfter_snoc]
    exact run_high label store ih

def beyondInt : Store := .value (['4', '2', '9', '4', '9', '6', '7', '2', '9', '6'].map ascii)

/-- 4294967296 is accepted, and the line is low. -/
theorem written_value_lost :
    beyondInt.accepted = some (.integer (2 ^ 32)) ∧
    valueShow Line.library (lineAfter Line.library ⟨false, false⟩ [beyondInt]) =
      [ascii '0', ascii '\n'] ∧
    ¬ AttributesRight Line.library ⟨false, false⟩ .accepted [beyondInt] := by
  have accepted : beyondInt.accepted = some (.integer (2 ^ 32)) := rfl
  have shown : valueShow Line.library (lineAfter Line.library ⟨false, false⟩ [beyondInt]) =
      [ascii '0', ascii '\n'] := rfl
  refine ⟨accepted, shown, fun right => ?_⟩
  have value := (right.agrees [beyondInt] List.prefix_rfl).value rfl
  rw [shown] at value
  exact absurd value (by decide)

end MadDriver.GpioSysfs

import MadDriver.Core.Transition
import MadDriver.Lcd.Attributes

/-! The bytes behind `lcdxy` under any stores. The text has two numbers between three
characters and the NUL, so it stays in its eight bytes while the numbers have no more
than four characters together. -/
namespace MadDriver.Lcd.Platform
open Kernel Transition

inductive LcdOp where
  | lcdxy (buf : List UInt8)
  | lcdscroll (buf : List UInt8)

def lcdStep (d : LcdPrivateData) : LcdOp → StoreResult
  | .lcdxy buf => lcdxyStore d buf
  | .lcdscroll buf => lcdscrollStore d buf

def LcdStep (d : LcdPrivateData) (op : LcdOp) (d' : LcdPrivateData) : Prop :=
  d' = (lcdStep d op).dev

def LcdOp.printed : LcdOp → List UInt8
  | .lcdxy buf =>
    match kstrtol (cString buf) 10 with
    | .error _ => []
    | .ok value => xyText (value / 10).toInt32.toInt (value % 10).toInt32.toInt ++ [0]
  | .lcdscroll _ => []

/-- A number with a quotient, modulo 2^32, of up to three characters, or of up to two if
a minus sign stands before the remainder. -/
def FitsXy (value : Int) : Prop :=
  (0 ≤ value.tmod 10 →
    -100 < (value.tdiv 10).bmod (2 ^ 32) ∧ (value.tdiv 10).bmod (2 ^ 32) < 1000) ∧
  (value.tmod 10 < 0 →
    -10 < (value.tdiv 10).bmod (2 ^ 32) ∧ (value.tdiv 10).bmod (2 ^ 32) < 100)

def LcdOp.Fits : LcdOp → Prop
  | .lcdxy buf => ∀ value, kstrtol (cString buf) 10 = .ok value → FitsXy value.toInt
  | .lcdscroll _ => True

/-- After the stores `ops` from d₀ on: their writes stayed in `lcdxy`, which is a string,
and neither the fields behind nor the attribute show more than that. -/
structure XyKept (d₀ : LcdPrivateData) (ops : List LcdOp) (d : LcdPrivateData) : Prop where
  inside : ∀ op ∈ ops, op.printed.length ≤ LCDXY_SIZE
  terminated : 0 ∈ d.lcdxy
  fields : d.behind = d₀.behind
  shown : lcdxyShow d = cString d.lcdxy ++ [ascii '\n']

theorem lcdStep_bytes (d : LcdPrivateData) (op : LcdOp) :
    (lcdStep d op).dev.bytes = Bytes.patch d.bytes 0 op.printed := by
  cases op with
  | lcdxy buf =>
    cases read : kstrtol (cString buf) 10 with
    | error status => simp only [lcdStep, lcdxyStore, LcdOp.printed, read, Bytes.patch_nil]
    | ok value =>
      simp only [lcdStep, lcdxyStore, LcdOp.printed, read]
      rfl
  | lcdscroll buf =>
    simp only [lcdStep, lcdscrollStore, LcdOp.printed, Bytes.patch_nil]
    split
    · rfl
    · split <;> rfl

theorem length_remainder {y : Int} (low : -10 < y) (high : y < 10) :
    (formatInt y).length = if y < 0 then 2 else 1 := by
  have digits : ∀ n : Fin 10, (formatInt n.val).length = 1 ∧ (n.val ≠ 0 →
      (formatInt (-n.val)).length = 2) := by decide
  split
  · have magnitude : y = -((-y).toNat : Int) := by omega
    rw [magnitude]
    exact (digits ⟨(-y).toNat, by omega⟩).2 (by simp; omega)
  · have magnitude : y = (y.toNat : Int) := by omega
    rw [magnitude]
    exact (digits ⟨y.toNat, by omega⟩).1

theorem length_printed_iff (value : Int64) :
    (xyText (value / 10).toInt32.toInt (value % 10).toInt32.toInt ++ [0]).length ≤ LCDXY_SIZE ↔
      FitsXy value.toInt := by
  obtain ⟨remainder, low, high⟩ := remainder_int value
  have quotient : (value / 10).toInt32.toInt = (value.toInt.tdiv 10).bmod (2 ^ 32) := by
    rw [Int64.toInt_toInt32, (quotient_remainder value).1]
  have three := length_formatInt_le (x := (value / 10).toInt32.toInt) (k := 2) (by decide)
  have two := length_formatInt_le (x := (value / 10).toInt32.toInt) (k := 1) (by decide)
  rw [List.length_append, length_xyText, remainder, length_remainder low high]
  unfold FitsXy LCDXY_SIZE
  rw [← quotient]
  simp only [List.length_singleton]
  split <;> omega

theorem fits_iff (op : LcdOp) : op.Fits ↔ op.printed.length ≤ LCDXY_SIZE := by
  cases op with
  | lcdscroll buf => simp [LcdOp.Fits, LcdOp.printed]
  | lcdxy buf =>
    cases read : kstrtol (cString buf) 10 with
    | error status => simp [LcdOp.Fits, LcdOp.printed, read]
    | ok value =>
      simp only [LcdOp.Fits, LcdOp.printed, read, Except.ok.injEq, forall_eq']
      exact (length_printed_iff value).symm

theorem printed_terminated (op : LcdOp) : op.printed = [] ∨ 0 ∈ op.printed := by
  cases op with
  | lcdscroll buf => exact .inl rfl
  | lcdxy buf =>
    cases read : kstrtol (cString buf) 10 with
    | error status => exact .inl (by simp only [LcdOp.printed, read])
    | ok value => exact .inr (by simp [LcdOp.printed, read])

theorem step_frame {d d' : LcdPrivateData} {op : LcdOp} (fits : op.Fits)
    (terminated : 0 ∈ d.lcdxy) (step : LcdStep d op d') :
    d'.behind = d.behind ∧ 0 ∈ d'.lcdxy := by
  have inside := (fits_iff op).mp fits
  have bytes : d'.bytes = op.printed ++ d.bytes.drop op.printed.length := by
    rw [step, lcdStep_bytes, Bytes.patch, List.take_zero, List.nil_append, Nat.zero_add]
  unfold LcdPrivateData.behind LcdPrivateData.lcdxy at *
  rw [bytes]
  constructor
  · rw [List.drop_append, List.drop_of_length_le inside, List.drop_drop, List.nil_append]
    congr 1
    omega
  · rcases printed_terminated op with nothing | text
    · rw [nothing]
      exact terminated
    · rw [List.take_append, List.take_of_length_le inside]
      exact List.mem_append_left _ text

theorem run_frame {d₀ d : LcdPrivateData} {ops : List LcdOp} (terminated : 0 ∈ d₀.lcdxy)
    (run : Run (Guarded LcdStep fun _ op => op.Fits) d₀ ops d) :
    d.behind = d₀.behind ∧ 0 ∈ d.lcdxy := by
  refine run_invariant (fun d => d.behind = d₀.behind ∧ 0 ∈ d.lcdxy) ⟨rfl, terminated⟩ ?_ run
  rintro d op d' ⟨fields, terminated⟩ ⟨step, fits⟩
  obtain ⟨fields', terminated'⟩ := step_frame fits terminated step
  exact ⟨fields'.trans fields, terminated'⟩

theorem show_lcdxy {d : LcdPrivateData} (terminated : 0 ∈ d.lcdxy) :
    lcdxyShow d = cString d.lcdxy ++ [ascii '\n'] := by
  have whole : d.bytes = d.lcdxy ++ d.behind := (List.take_append_drop _ _).symm
  obtain ⟨front, back, split⟩ := List.append_of_mem terminated
  rw [lcdxyShow, whole, split, List.append_assoc, List.cons_append, cString_append_nul,
    cString_append_nul]

theorem probed_terminated (pointers : List UInt8) (room : POINTER_BYTES ≤ pointers.length) :
    0 ∈ (probed pointers room).lcdxy := by
  have own : (probed pointers room).lcdxy = xyText 1 1 ++ [0, 0, 0] := List.take_left' rfl
  rw [own]
  exact List.mem_append_right _ List.mem_cons_self

theorem xy_frame_iff (pointers : List UInt8) (room : POINTER_BYTES ≤ pointers.length)
    {d : LcdPrivateData} {ops : List LcdOp} (run : Run LcdStep (probed pointers room) ops d) :
    XyKept (probed pointers room) ops d ↔ ∀ op ∈ ops, op.Fits := by
  constructor
  · intro kept op member
    exact (fits_iff op).mpr (kept.inside op member)
  · intro fits
    obtain ⟨fields, terminated⟩ := run_frame (probed_terminated pointers room)
      (run_guarded run fun op member _ => fits op member)
    exact ⟨fun op member => (fits_iff op).mp (fits op member), terminated, fields,
      show_lcdxy terminated⟩

theorem xy_frame_short :
    XyKept blank [.lcdxy [0x2D, 0x39, 0x39], .lcdscroll [0x6F, 0x6E]]
        (lcdscrollStore (lcdxyStore blank [0x2D, 0x39, 0x39]).dev [0x6F, 0x6E]).dev ↔
      ∀ op ∈ [LcdOp.lcdxy [0x2D, 0x39, 0x39], .lcdscroll [0x6F, 0x6E]], op.Fits :=
  xy_frame_iff (List.replicate POINTER_BYTES 0) (Nat.le_refl _)
    (.snoc (.snoc .start (rfl : LcdStep blank (.lcdxy [0x2D, 0x39, 0x39]) _)) rfl)

/-- "(1234,5)" takes all eight bytes, and its NUL goes into the field behind them. -/
theorem xy_five_digits :
    (lcdxyStore blank [0x31, 0x32, 0x33, 0x34, 0x35]).dev.lcdxy = xyText 1234 5 ∧
    ¬ XyKept blank [.lcdxy [0x31, 0x32, 0x33, 0x34, 0x35]]
      (lcdxyStore blank [0x31, 0x32, 0x33, 0x34, 0x35]).dev := by
  refine ⟨by decide, fun kept => ?_⟩
  have inside := kept.inside (.lcdxy [0x31, 0x32, 0x33, 0x34, 0x35]) List.mem_cons_self
  exact absurd inside (by decide)

end MadDriver.Lcd.Platform

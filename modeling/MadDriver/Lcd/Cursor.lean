import Mathlib.Data.List.Basic
import MadDriver.Lcd.Attributes

/-! A write to `lcdxy` as a request for a cell of the 16x2 display. The two parts of the
number are its decimal digits, so a cell is reached by two digits only, and the store
answers with the length of the text it keeps, not with that of the text it was given. -/
namespace MadDriver.Lcd.Platform
open Kernel Wire

/-- A row and a column as documented for `lcd_set_cursor`. -/
structure Cell where
  row : Nat
  column : Nat
  in_rows : 1 ≤ row ∧ row ≤ 2
  in_columns : 1 ≤ column ∧ column ≤ 16

def Cell.command (cell : Cell) : UInt8 :=
  .ofNat (0x80 + 0x40 * (cell.row - 1) + (cell.column - 1))

def Receives (writes : List (Write Pin)) (messages : List (Bool × UInt8)) : Prop :=
  ∀ l, Idle port l → decode (samples (port.line .EN) (readNibble port) l writes) = some messages

structure Selected (buf : List UInt8) (cell : Cell) (r : StoreResult) : Prop where
  taken : r.ret.toInt = buf.length
  sent : Receives r.writes [(false, cell.command)]
  shown : lcdxyShow r.dev = xyText cell.row cell.column ++ [ascii '\n']

/-- An error, which neither the display nor a reader of the attribute sees. -/
structure Rejected (d : LcdPrivateData) (r : StoreResult) : Prop where
  error : r.ret.toInt < 0
  sent : Receives r.writes []
  shown : lcdxyShow r.dev = lcdxyShow d

theorem command_received (command : UInt8) :
    Receives (lcdSendCommand command) [(false, command)] := by
  intro l idle
  have seen := (lcdSendCommand_sent port command l idle).1.samples
  exact (congrArg decode seen).trans (decode_nibbles [(false, command)])

theorem setCursor_cell (cell : Cell) :
    lcdSetCursor (.ofNat cell.row) (.ofNat cell.column) = lcdSendCommand cell.command := by
  have first : ∀ c : Fin 16, (UInt8.ofNat (c + 1) - 1) ||| DDRAM_FIRST_LINE_BASE_ADDR =
      UInt8.ofNat (0x80 + c) := by decide
  have second : ∀ c : Fin 16, (UInt8.ofNat (c + 1) - 1) ||| DDRAM_SECOND_LINE_BASE_ADDR =
      UInt8.ofNat (0x80 + 0x40 + c) := by decide
  obtain ⟨row, column, ⟨row_low, row_high⟩, column_low, column_high⟩ := cell
  obtain ⟨c, rfl⟩ := Nat.exists_eq_add_of_le' column_low
  have within : c < 16 := by omega
  obtain rfl | rfl : row = 1 ∨ row = 2 := by omega
  · exact congrArg lcdSendCommand (first ⟨c, within⟩)
  · exact congrArg lcdSendCommand (second ⟨c, within⟩)

theorem formatInt_free {ch : UInt8} (other : ¬ (ch = 0x2D ∨ 48 ≤ ch.toNat ∧ ch.toNat ≤ 57))
    (x : Int) : ch ∉ formatInt x := by
  intro member
  exact other (formatInt_chars member)

theorem xyText_nulFree (x y : Int) : 0 ∉ xyText x y := by
  have first : 0 ∉ formatInt x := formatInt_free (by decide) x
  have second : 0 ∉ formatInt y := formatInt_free (by decide) y
  have marks : 0 ≠ ascii '(' ∧ 0 ≠ ascii ',' ∧ 0 ≠ ascii ')' := by decide
  simp [xyText, first, second, marks]

theorem xyText_injective {x y x' y' : Int} (same : xyText x y = xyText x' y') :
    formatInt x = formatInt x' ∧ formatInt y = formatInt y' := by
  simp only [xyText, List.append_assoc, List.cons_append, List.cons.injEq, true_and] at same
  have first : ascii ',' ∉ formatInt x := formatInt_free (by decide) x
  have second : ascii ',' ∉ formatInt y := formatInt_free (by decide) y
  have later : ascii ',' ∉ formatInt y ++ [ascii ')'] := by
    have other : ascii ',' ≠ ascii ')' := by decide
    simp [second, other]
  obtain ⟨front, _, back⟩ :=
    (List.append_cons_inj_of_notMem first later).mp same
  exact ⟨front, List.append_cancel_right back⟩

theorem show_printXy (d : LcdPrivateData) (x y : Int32) :
    lcdxyShow (d.printXy x y) = xyText x.toInt y.toInt ++ [ascii '\n'] := by
  have text : cString (d.printXy x y).bytes = xyText x.toInt y.toInt := by
    change cString (Bytes.patch d.bytes 0 (xyText x.toInt y.toInt ++ [0])) = _
    rw [Bytes.patch, List.take_zero, List.nil_append, List.append_assoc]
    exact (cString_append_nul _ _).trans (cString_of_nulFree (xyText_nulFree _ _))
  rw [lcdxyShow, text]

theorem toUInt8_int {x : Int32} {n : Nat} (value : x.toInt = n) :
    x.toUInt32.toUInt8 = .ofNat n := by
  have bits : (x.toUInt32.toNat : Int) = x.toInt := by
    have unsigned : x.toInt = (x.toBitVec.toNat : Int) ∨ x.toInt < 0 := by
      rw [← Int32.toInt_toBitVec, BitVec.toInt_eq_toNat_cond]
      split
      · exact .inl rfl
      · have bound := x.toBitVec.isLt
        exact .inr (by omega)
    rcases unsigned with same | negative
    · exact same.symm
    · omega
  apply UInt8.toNat_inj.mp
  rw [UInt32.toNat_toUInt8, UInt8.toNat_ofNat']
  omega

section Store

variable {d : LcdPrivateData} {buf : List UInt8} {cell : Cell} {value : Int64}

theorem store_rejected {status : Int64}
    (failed : kstrtol (cString buf) 10 = .error status) :
    Rejected d (lcdxyStore d buf) := by
  rw [lcdxyStore, failed]
  exact ⟨kstrtol_error failed, fun _ _ => rfl, rfl⟩

theorem store_value (read : kstrtol (cString buf) 10 = .ok value) :
    lcdxyStore d buf =
      ⟨d.printXy (value / 10).toInt32 (value % 10).toInt32,
        .ofNat (xyText (value / 10).toInt32.toInt (value % 10).toInt32.toInt).length,
        lcdSetCursor (value / 10).toInt32.toUInt32.toUInt8
          (value % 10).toInt32.toUInt32.toUInt8⟩ := by
  rw [lcdxyStore, read]

theorem length_cellText (cell : Cell) (one_digit : cell.column ≤ 9) :
    (xyText cell.row cell.column).length = 5 := by
  have texts : ∀ r : Fin 2, ∀ c : Fin 9, (xyText (r + 1 : Nat) (c + 1 : Nat)).length = 5 := by
    decide
  obtain ⟨row, column, ⟨row_low, row_high⟩, column_low, _⟩ := cell
  obtain ⟨r, rfl⟩ := Nat.exists_eq_add_of_le' row_low
  obtain ⟨c, rfl⟩ := Nat.exists_eq_add_of_le' column_low
  change c + 1 ≤ 9 at one_digit
  exact texts ⟨r, by omega⟩ ⟨c, by omega⟩

theorem number_selects (whole : buf.length = 5) (one_digit : cell.column ≤ 9)
    (read : kstrtol (cString buf) 10 = .ok value)
    (number : value.toInt = 10 * cell.row + cell.column) :
    Selected buf cell (lcdxyStore d buf) := by
  have rows := cell.in_rows
  have x : (value / 10).toInt32.toInt = cell.row := by
    rw [quotient_int (by omega) (by omega)]
    omega
  have y : (value % 10).toInt32.toInt = cell.column := by
    rw [(remainder_int value).1, Int.tmod_eq_emod_of_nonneg (by omega)]
    omega
  rw [store_value read]
  refine ⟨?_, ?_, ?_⟩
  · rw [x, y, length_cellText cell one_digit, whole]
    rfl
  · rw [toUInt8_int x, toUInt8_int y, setCursor_cell]
    exact command_received cell.command
  · rw [show_printXy, x, y]

theorem selected_number (read : kstrtol (cString buf) 10 = .ok value)
    (selected : Selected buf cell (lcdxyStore d buf)) :
    buf.length = 5 ∧ cell.column ≤ 9 ∧ value.toInt = 10 * cell.row + cell.column := by
  obtain ⟨taken, _, shown⟩ := selected
  rw [store_value read] at taken shown
  rw [show_printXy] at shown
  have rows := cell.in_rows
  have columns := cell.in_columns
  have same := List.append_cancel_right shown
  obtain ⟨same_x, same_y⟩ := xyText_injective same
  have x_low := (value / 10).toInt32.le_toInt
  have x_high := (value / 10).toInt32.toInt_lt
  obtain ⟨remainder, y_low, y_high⟩ := remainder_int value
  have x : (value / 10).toInt32.toInt = cell.row :=
    formatInt_injective (by omega) (by omega) (by omega) (by omega) same_x
  have y : (value % 10).toInt32.toInt = cell.column :=
    formatInt_injective (by omega) (by omega) (by omega) (by omega) same_y
  have one_digit : cell.column ≤ 9 := by omega
  have five : (Int64.ofNat 5).toInt = 5 := rfl
  rw [same, length_cellText cell one_digit, five] at taken
  have positive : 0 ≤ value.toInt := by
    refine Int.not_lt.mp fun negative => ?_
    have mirrored := Int.tmod_nonneg (a := -value.toInt) 10 (by omega)
    rw [Int.neg_tmod] at mirrored
    omega
  have small : value.toInt < 10 ^ 5 := by
    have bound := kstrtol_lt read
    have short := length_cString_le buf
    have power : 10 ^ (cString buf).length ≤ 10 ^ 5 :=
      Nat.pow_le_pow_right (by decide) (by omega)
    exact Int.lt_of_lt_of_le bound (by exact_mod_cast power)
  rw [quotient_int positive (by omega)] at x
  rw [remainder, Int.tmod_eq_emod_of_nonneg positive] at y
  exact ⟨by omega, one_digit, by omega⟩

end Store

/-- A string the store is right about: no number, or five bytes with the number of a cell. -/
def CellString (buf : List UInt8) : Prop :=
  (∃ status, kstrtol (cString buf) 10 = .error status) ∨
    buf.length = 5 ∧ ∃ value, kstrtol (cString buf) 10 = .ok value ∧
      (11 ≤ value.toInt ∧ value.toInt ≤ 19 ∨ 21 ≤ value.toInt ∧ value.toInt ≤ 29)

theorem store_cell_iff (d : LcdPrivateData) (buf : List UInt8) :
    (Rejected d (lcdxyStore d buf) ∨
        ∃ cell, Selected buf cell (lcdxyStore d buf)) ↔ CellString buf := by
  constructor
  · intro stored
    cases read : kstrtol (cString buf) 10 with
    | error status => exact .inl ⟨status, read⟩
    | ok value =>
      rcases stored with rejected | ⟨cell, selected⟩
      · have error := rejected.error
        rw [store_value read] at error
        have text := length_xyText_le (value / 10).toInt32 (value % 10).toInt32
        rw [Int64.toInt_ofNat_of_lt (by omega)] at error
        omega
      · obtain ⟨five, one_digit, number⟩ := selected_number read selected
        have rows := cell.in_rows
        have columns := cell.in_columns
        exact .inr ⟨five, value, read, by omega⟩
  · rintro (⟨status, failed⟩ | ⟨five, value, read, number⟩)
    · exact .inl (store_rejected failed)
    · have one_digit : (value.toInt % 10).toNat ≤ 9 := by omega
      have parts : value.toInt =
          10 * ((value.toInt / 10).toNat : Int) + ((value.toInt % 10).toNat : Int) := by omega
      refine .inr ⟨⟨(value.toInt / 10).toNat, (value.toInt % 10).toNat, by omega, by omega⟩, ?_⟩
      exact number_selects five one_digit read parts

/-- No column behind the ninth can be asked for. -/
theorem cell_selected_iff (d : LcdPrivateData) (cell : Cell) :
    (∃ buf, Selected buf cell (lcdxyStore d buf)) ↔ cell.column ≤ 9 := by
  constructor
  · rintro ⟨buf, selected⟩
    cases read : kstrtol (cString buf) 10 with
    | error status =>
      have refused := kstrtol_error read
      have taken := selected.taken
      rw [lcdxyStore, read] at taken
      change status.toInt = buf.length at taken
      omega
    | ok value => exact (selected_number read selected).2.1
  · intro one_digit
    have strings : ∀ r : Fin 2, ∀ c : Fin 9,
        kstrtol (cString [0x30, 0x30, 0x30, .ofNat (0x31 + r), .ofNat (0x31 + c)]) 10 =
          .ok (.ofNat (10 * (r + 1) + (c + 1))) := by
      decide
    obtain ⟨row, column, ⟨row_low, row_high⟩, column_low, column_high⟩ := cell
    obtain ⟨r, rfl⟩ := Nat.exists_eq_add_of_le' row_low
    obtain ⟨c, rfl⟩ := Nat.exists_eq_add_of_le' column_low
    change c + 1 ≤ 9 at one_digit
    have read := strings ⟨r, by omega⟩ ⟨c, by omega⟩
    refine ⟨_, number_selects rfl one_digit read ?_⟩
    rw [Int64.toInt_ofNat_of_lt (by omega)]
    rfl

/-- Any private data; the strings the store is right about, and the cells it can reach. -/
theorem lcdxy_store_iff (d : LcdPrivateData) :
    (∀ buf, (Rejected d (lcdxyStore d buf) ∨ ∃ cell, Selected buf cell (lcdxyStore d buf)) ↔
      CellString buf) ∧
    ∀ cell : Cell, (∃ buf, Selected buf cell (lcdxyStore d buf)) ↔ cell.column ≤ 9 :=
  ⟨store_cell_iff d, cell_selected_iff d⟩

/-- The number of cell (1,1) without a newline: the call returns 5 for two bytes. -/
theorem store_two_bytes :
    (lcdxyStore blank [0x31, 0x31]).ret = 5 ∧
    ¬ (Rejected blank (lcdxyStore blank [0x31, 0x31]) ∨
      ∃ cell, Selected [0x31, 0x31] cell (lcdxyStore blank [0x31, 0x31])) := by
  refine ⟨rfl, ?_⟩
  rintro (rejected | ⟨cell, selected⟩)
  · exact absurd rejected.error (by decide)
  · exact absurd selected.taken (by decide)

end MadDriver.Lcd.Platform

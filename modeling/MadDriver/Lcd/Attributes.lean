import MadDriver.Core.CInt
import MadDriver.Core.Decimal
import MadDriver.Lcd.WireFormat

/-! The attributes `lcdxy` and `lcdscroll` of 008lcd_platform_driver. The text of `lcdxy`
is printed into the private data without a bound, so these are bytes here. -/
namespace MadDriver.Lcd.Platform
open Kernel Wire

def LCDXY_SIZE : Nat := 8

/-- `dev` and the seven of `desc`, of four bytes each or more. Where they have eight, four bytes
of padding come first: `behind` then begins with these. -/
def POINTER_BYTES : Nat := 32

structure LcdPrivateData where
  lcdScroll : Int32
  /-- From `lcdxy` on: its own bytes, then those up to the end of `desc`. -/
  bytes : List UInt8
  room : LCDXY_SIZE + POINTER_BYTES ≤ bytes.length
  deriving DecidableEq

def LcdPrivateData.lcdxy (d : LcdPrivateData) : List UInt8 := d.bytes.take LCDXY_SIZE

def LcdPrivateData.behind (d : LcdPrivateData) : List UInt8 := d.bytes.drop LCDXY_SIZE

def xyText (x y : Int) : List UInt8 :=
  ascii '(' :: formatInt x ++ ascii ',' :: formatInt y ++ [ascii ')']

theorem length_xyText (x y : Int) :
    (xyText x y).length = (formatInt x).length + (formatInt y).length + 3 := by
  simp [xyText]
  omega

theorem length_xyText_le (x y : Int32) : (xyText x.toInt y.toInt).length ≤ 25 := by
  have x_short : (formatInt x.toInt).length ≤ 11 := by
    have low := x.le_toInt
    have high := x.toInt_lt
    rw [length_formatInt_le (k := 10) (by decide)]
    omega
  have y_short : (formatInt y.toInt).length ≤ 11 := by
    have low := y.le_toInt
    have high := y.toInt_lt
    rw [length_formatInt_le (k := 10) (by decide)]
    omega
  rw [length_xyText]
  omega

/-- `sprintf(dev_data->lcdxy, "(%d,%d)", x, y)`, with its NUL. -/
def LcdPrivateData.printXy (d : LcdPrivateData) (x y : Int32) : LcdPrivateData where
  lcdScroll := d.lcdScroll
  bytes := Bytes.patch d.bytes 0 (xyText x.toInt y.toInt ++ [0])
  room := by
    have room := d.room
    have short := length_xyText_le x y
    unfold LCDXY_SIZE POINTER_BYTES at *
    rw [Bytes.length_patch]
    · exact room
    · simp only [List.length_append, List.length_singleton]
      omega

structure StoreResult where
  dev : LcdPrivateData
  ret : Int64
  writes : List (Write Pin)

def lcdxyStore (d : LcdPrivateData) (buf : List UInt8) : StoreResult :=
  match kstrtol (cString buf) 10 with
  | .error status => ⟨d, status, []⟩
  | .ok value =>
    let x := (value / 10).toInt32
    let y := (value % 10).toInt32
    let status := (xyText x.toInt y.toInt).length
    ⟨d.printXy x y, .ofNat status, lcdSetCursor x.toUInt32.toUInt8 y.toUInt32.toUInt8⟩

def lcdxyShow (d : LcdPrivateData) : List UInt8 := cString d.bytes ++ [ascii '\n']

def lcdscrollStore (d : LcdPrivateData) (buf : List UInt8) : StoreResult :=
  if GpioSysfs.sysfsStreq (cString buf) [ascii 'o', ascii 'n'] then
    ⟨{ d with lcdScroll := 1 }, .ofNat buf.length, lcdSendCommand 0x18⟩
  else if GpioSysfs.sysfsStreq (cString buf) [ascii 'o', ascii 'f', ascii 'f'] then
    ⟨{ d with lcdScroll := 0 }, .ofNat buf.length, lcdSendCommand 0x2 ++ lcdSendCommand 0x10⟩
  else ⟨d, -EINVAL, []⟩

/-- The private data as `lcd_probe` leaves them, with any bytes for the pointers. -/
def probed (pointers : List UInt8) (room : POINTER_BYTES ≤ pointers.length) :
    LcdPrivateData where
  lcdScroll := 0
  bytes := xyText 1 1 ++ [0, 0, 0] ++ pointers
  room := by
    have text : (xyText 1 1).length = 5 := rfl
    simp only [List.length_append, text, LCDXY_SIZE]
    exact Nat.add_le_add_left room 8

def blank : LcdPrivateData := probed (List.replicate POINTER_BYTES 0) (Nat.le_refl _)

theorem quotient_remainder (value : Int64) :
    (value / 10).toInt = value.toInt.tdiv 10 ∧ (value % 10).toInt = value.toInt.tmod 10 := by
  have ten : (10 : Int64).toInt = 10 := rfl
  refine ⟨?_, ?_⟩
  · rw [Int64.toInt_div_of_ne_right value 10 (by decide), ten]
  · rw [Int64.toInt_mod, ten]

theorem remainder_int (value : Int64) :
    (value % 10).toInt32.toInt = value.toInt.tmod 10 ∧
    -10 < value.toInt.tmod 10 ∧ value.toInt.tmod 10 < 10 := by
  have low := Int.lt_tmod_of_pos value.toInt (show (0 : Int) < 10 by decide)
  have high := Int.tmod_lt_of_pos value.toInt (show (0 : Int) < 10 by decide)
  refine ⟨?_, low, high⟩
  rw [Int64.toInt_toInt32, (quotient_remainder value).2]
  exact CInt.bmod_int (by omega) (by omega)

theorem quotient_int {value : Int64} (low : 0 ≤ value.toInt) (high : value.toInt < 2 ^ 31) :
    (value / 10).toInt32.toInt = value.toInt / 10 := by
  rw [Int64.toInt_toInt32, (quotient_remainder value).1, Int.tdiv_eq_ediv_of_nonneg low]
  exact CInt.bmod_int (by omega) (by omega)

end MadDriver.Lcd.Platform

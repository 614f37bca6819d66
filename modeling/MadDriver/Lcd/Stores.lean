import MadDriver.Lcd.Attributes
import MadDriver.Lcd.Panel

/-! The attributes of 008lcd_platform_driver as calls of lcd.c, and the driver from its
first probe on, with the display at its lines. -/
namespace MadDriver.Lcd.Platform
open Kernel Wire Hd44780

def lcdcmdStore (d : LcdPrivateData) (buf : List UInt8) : StoreResult :=
  match kstrtol (cString buf) 0 with
  | .error status => ⟨d, status, []⟩
  | .ok value => ⟨d, .ofNat buf.length, lcdSendCommand value.toUInt64.toUInt8⟩

/-- `behind` is the memory behind the NUL that ends the buffer. -/
def lcdtextStore (d : LcdPrivateData) (buf behind : List UInt8) : Outcome StoreResult :=
  (lcdPrintString (buf ++ 0 :: behind)).map fun printed => ⟨d, .ofNat buf.length, printed.writes⟩

inductive Store
  | lcdcmd (buf : List UInt8)
  | lcdtext (buf behind : List UInt8)
  | lcdscroll (buf : List UInt8)
  | lcdxy (buf : List UInt8)

def store (d : LcdPrivateData) : Store → Outcome StoreResult
  | .lcdcmd buf => .done (lcdcmdStore d buf)
  | .lcdtext buf behind => lcdtextStore d buf behind
  | .lcdscroll buf => .done (lcdscrollStore d buf)
  | .lcdxy buf => .done (lcdxyStore d buf)

/-- A number written to `lcdcmd` whose low byte asks for eight-bit mode. -/
def Store.Widens : Store → Prop
  | .lcdcmd buf =>
    ∃ value, kstrtol (cString buf) 0 = .ok value ∧ Hd44780.Widens (false, value.toUInt64.toUInt8)
  | _ => False

end MadDriver.Lcd.Platform

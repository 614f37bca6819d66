import MadDriver.Core.Kstrtox
import MadDriver.Core.Wire

/-! The two 16x2 display drivers: the program of 007_gpio_sysfs_lcd over the
attributes of its gpio driver, and the platform driver of 008lcd_platform_driver.
A function is the trace of level changes it makes; its delays are left out. -/
namespace MadDriver.Lcd

open Kernel Wire

inductive Pin
  | RS | RW | EN | D4 | D5 | D6 | D7
  deriving DecidableEq

section Gpiolib

variable {P : Type}

def gpiodSetValue (desc : P) (value : Int32) : List (Write P) := [(desc, value ≠ 0)]

def gpiodDirectionOutput (desc : P) (value : Int32) : List (Write P) := [(desc, value ≠ 0)]

/-- The chip stops driving the line. -/
def gpiodDirectionInput (_ : P) : List (Write P) := []

def gpiodGetOutLow (desc : P) : List (Write P) := gpiodDirectionOutput desc 0

end Gpiolib

def HIGH_VALUE : UInt8 := 1
def LOW_VALUE : UInt8 := 0

def GPIO_DIR_OUT : UInt8 := HIGH_VALUE

def LCD_CMD_4DL_2N_5X8F : UInt8 := 0x28
def LCD_CMD_DON_CURON : UInt8 := 0x0E
def LCD_CMD_INCADD : UInt8 := 0x06
def LCD_CMD_DIS_CLEAR : UInt8 := 0x01
def LCD_CMD_SET_DDRAM_ADDRESS : UInt8 := 0x80
def DDRAM_SECOND_LINE_BASE_ADDR : UInt8 := LCD_CMD_SET_DDRAM_ADDRESS ||| 0x40
def DDRAM_FIRST_LINE_BASE_ADDR : UInt8 := LCD_CMD_SET_DDRAM_ADDRESS

/-- A driver's way to its lines: every pin has a line of its own, and a value written
to the pin drives that line. -/
structure Port (P : Type) where
  line : Pin → P
  gpioConfigureDir : Pin → UInt8 → List (Write P)
  gpioWriteValue : Pin → UInt8 → List (Write P)
  line_inj : Function.Injective line
  configured_out : ∀ pin, gpioConfigureDir pin GPIO_DIR_OUT = [(line pin, false)]
  written : ∀ pin value, gpioWriteValue pin value = [(line pin, decide (value ≠ 0))]

/- What the two lcd.c have in common. -/
section Common

variable {P : Type} (io : Port P)

def lcdEnable : List (Write P) :=
  io.gpioWriteValue .EN LOW_VALUE ++
  io.gpioWriteValue .EN HIGH_VALUE ++
  io.gpioWriteValue .EN LOW_VALUE

def write4Bits (data : UInt8) : List (Write P) :=
  io.gpioWriteValue .D4 ((data >>> 0) &&& 0x1) ++
  io.gpioWriteValue .D5 ((data >>> 1) &&& 0x1) ++
  io.gpioWriteValue .D6 ((data >>> 2) &&& 0x1) ++
  io.gpioWriteValue .D7 ((data >>> 3) &&& 0x1) ++
  lcdEnable io

def lcdPrintChar (data : UInt8) : List (Write P) :=
  io.gpioWriteValue .RS HIGH_VALUE ++
  io.gpioWriteValue .RW LOW_VALUE ++
  write4Bits io (data >>> 4) ++
  write4Bits io data

def lcdSendCommand (command : UInt8) : List (Write P) :=
  io.gpioWriteValue .RS LOW_VALUE ++
  io.gpioWriteValue .RW LOW_VALUE ++
  write4Bits io (command >>> 4) ++
  write4Bits io command

def lcdDisplayClear : List (Write P) := lcdSendCommand io LCD_CMD_DIS_CLEAR

def lcdSetCursor (row column : UInt8) : List (Write P) :=
  let column := column - 1
  if row = 1 then lcdSendCommand io (column ||| DDRAM_FIRST_LINE_BASE_ADDR)
  else if row = 2 then lcdSendCommand io (column ||| DDRAM_SECOND_LINE_BASE_ADDR)
  else []

/-- What printing a string does: its writes, and the number of bytes it has read from
the start of the string on. -/
structure Printed (P : Type) where
  writes : List (Write P)
  read : Nat

/-- `do { .. } while (*message != '\0')`, over the memory from `message` on. -/
def lcdPrintString : List UInt8 → Outcome (Printed P)
  | [] | [_] => .wild
  | ch :: next :: memory =>
    if next = 0 then .done ⟨lcdPrintChar io ch, 2⟩
    else
      (lcdPrintString (next :: memory)).map fun rest =>
        ⟨lcdPrintChar io ch ++ rest.writes, rest.read + 1⟩

theorem written_low (pin : Pin) : io.gpioWriteValue pin LOW_VALUE = [(io.line pin, false)] :=
  io.written pin LOW_VALUE

theorem written_high (pin : Pin) : io.gpioWriteValue pin HIGH_VALUE = [(io.line pin, true)] :=
  io.written pin HIGH_VALUE

theorem lcdEnable_eq : lcdEnable io = pulse (io.line .EN) := by
  simp [lcdEnable, written_low, written_high, pulse]

def dataLines (data : UInt8) : List (Write P) :=
  [(io.line .D4, decide ((data >>> 0) &&& 0x1 ≠ 0)),
    (io.line .D5, decide ((data >>> 1) &&& 0x1 ≠ 0)),
    (io.line .D6, decide ((data >>> 2) &&& 0x1 ≠ 0)),
    (io.line .D7, decide ((data >>> 3) &&& 0x1 ≠ 0))]

theorem write4Bits_eq (data : UInt8) :
    write4Bits io data = dataLines io data ++ pulse (io.line .EN) := by
  simp [write4Bits, dataLines, io.written, lcdEnable_eq]

def initSequence : List (Write P) :=
  io.gpioWriteValue .RS LOW_VALUE ++
  io.gpioWriteValue .RW LOW_VALUE ++
  write4Bits io 0x03 ++
  write4Bits io 0x03 ++
  write4Bits io 0x03 ++
  write4Bits io 0x02 ++
  lcdSendCommand io LCD_CMD_4DL_2N_5X8F ++
  lcdSendCommand io LCD_CMD_DON_CURON ++
  lcdDisplayClear io ++
  lcdSendCommand io LCD_CMD_INCADD

end Common

/-- A display driver as its callers use it. `prepare` is what comes before `lcdInit`. -/
structure Driver (P : Type) where
  port : Port P
  prepare : List (Write P)
  lcdInit : List (Write P)
  lcdSendCommand : UInt8 → List (Write P)
  lcdPrintChar : UInt8 → List (Write P)

/- 007_gpio_sysfs_lcd. The gpio devices the program names are taken to exist, so that its
`open` succeeds. -/
namespace GpioSysfs

def line : Pin → String
  | .RS => "gpio2.2"
  | .RW => "gpio2.7"
  | .EN => "gpio2.8"
  | .D4 => "gpio2.9"
  | .D5 => "gpio2.10"
  | .D6 => "gpio2.11"
  | .D7 => "gpio2.12"

/-- Equal as strings, a newline at the end of one of them aside. -/
def sysfsStreq (s t : List UInt8) : Bool := s = t || t = s ++ [0x0A] || s = t ++ [0x0A]

def directionStore (label : String) (buf : List UInt8) : List (Write String) :=
  if sysfsStreq (cString buf) [0x69, 0x6E] then gpiodDirectionInput label
  else if sysfsStreq (cString buf) [0x6F, 0x75, 0x74] then gpiodDirectionOutput label 0
  else []

def valueStore (label : String) (buf : List UInt8) : List (Write String) :=
  match kstrtol (cString buf) 0 with
  | .error _ => []
  | .ok value => gpiodSetValue label value.toInt32

/-- The program writes "out" or "in" with its NUL. -/
def gpioConfigureDir (pin : Pin) (dirValue : UInt8) : List (Write String) :=
  if dirValue ≠ 0 then directionStore (line pin) [0x6F, 0x75, 0x74, 0]
  else directionStore (line pin) [0x69, 0x6E, 0]

def gpioWriteValue (pin : Pin) (outValue : UInt8) : List (Write String) :=
  if outValue ≠ 0 then valueStore (line pin) [0x31, 0]
  else valueStore (line pin) [0x30, 0]

theorem line_injective : Function.Injective line := by
  intro p q same
  cases p <;> cases q <;> first | rfl | (revert same; decide)

theorem gpioWriteValue_eq (pin : Pin) (value : UInt8) :
    gpioWriteValue pin value = [(line pin, decide (value ≠ 0))] := by
  have one : kstrtol (cString [0x31, 0]) 0 = .ok 1 := rfl
  have zero : kstrtol (cString [0x30, 0]) 0 = .ok 0 := rfl
  rcases eq_or_ne value 0 with low | high
  · simp [gpioWriteValue, valueStore, zero, gpiodSetValue, low]
  · simp [gpioWriteValue, valueStore, one, gpiodSetValue, high]

def port : Port String where
  line := line
  gpioConfigureDir := gpioConfigureDir
  gpioWriteValue := gpioWriteValue
  line_inj := line_injective
  configured_out _ := rfl
  written := gpioWriteValue_eq

def initGpios : List (Write String) :=
  [Pin.RS, .RW, .EN, .D4, .D5, .D6, .D7].flatMap (gpioConfigureDir · GPIO_DIR_OUT) ++
  [Pin.RS, .EN, .RW, .D4, .D5, .D6, .D7].flatMap (gpioWriteValue · LOW_VALUE)

def lcdInit : List (Write String) := initSequence port

def lcdSendCommand (command : UInt8) : List (Write String) := Lcd.lcdSendCommand port command

def lcdPrintChar (data : UInt8) : List (Write String) := Lcd.lcdPrintChar port data

def lcdPrintString (message : List UInt8) : Outcome (Printed String) :=
  Lcd.lcdPrintString port message

def driver : Driver String where
  port := port
  prepare := initGpios
  lcdInit := lcdInit
  lcdSendCommand := lcdSendCommand
  lcdPrintChar := lcdPrintChar

end GpioSysfs

/- 008lcd_platform_driver. -/
namespace Platform

def gpioConfigureDir (descId : Pin) (dirValue : UInt8) : List (Write Pin) :=
  if dirValue ≠ 0 then gpiodDirectionOutput descId 0 else gpiodDirectionInput descId

def gpioWriteValue (descId : Pin) (outValue : UInt8) : List (Write Pin) :=
  gpiodSetValue descId outValue.toUInt32.toInt32

theorem gpioWriteValue_eq (pin : Pin) (value : UInt8) :
    gpioWriteValue pin value = [(pin, decide (value ≠ 0))] := by
  have widened : value.toUInt32.toInt32 ≠ 0 ↔ value ≠ 0 := by
    obtain ⟨v⟩ := value
    revert v
    decide +kernel
  simp [gpioWriteValue, gpiodSetValue, widened]

def port : Port Pin where
  line := id
  gpioConfigureDir := gpioConfigureDir
  gpioWriteValue := gpioWriteValue
  line_inj := Function.injective_id
  configured_out _ := rfl
  written := gpioWriteValue_eq

def probeGpios : List (Write Pin) :=
  [Pin.RS, .RW, .EN, .D4, .D5, .D6, .D7].flatMap gpiodGetOutLow

def lcdInit : List (Write Pin) :=
  [Pin.RS, .RW, .EN, .D4, .D5, .D6, .D7].flatMap (gpioConfigureDir · GPIO_DIR_OUT) ++
  [Pin.RS, .EN, .D4, .D5, .D6, .D7].flatMap (gpioWriteValue · LOW_VALUE) ++
  initSequence port

def lcdSendCommand (command : UInt8) : List (Write Pin) := Lcd.lcdSendCommand port command

def lcdPrintChar (data : UInt8) : List (Write Pin) := Lcd.lcdPrintChar port data

def lcdPrintString (message : List UInt8) : Outcome (Printed Pin) :=
  Lcd.lcdPrintString port message

def lcdSetCursor (row column : UInt8) : List (Write Pin) := Lcd.lcdSetCursor port row column

def driver : Driver Pin where
  port := port
  prepare := probeGpios
  lcdInit := lcdInit
  lcdSendCommand := lcdSendCommand
  lcdPrintChar := lcdPrintChar

end Platform

end MadDriver.Lcd

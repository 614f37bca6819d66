import MadDriver.Lcd.Driver

/-! What a display in four-bit mode reads off the lines: two nibbles for each byte
sent, in order, and the four single nibbles `lcd_init` starts with. -/
namespace MadDriver.Lcd

open Wire

structure Nibble where
  rs : Bool
  value : UInt8
  deriving DecidableEq

def readNibble {P : Type} (io : Port P) (l : Levels P) : Nibble where
  rs := l (io.line .RS)
  value := (l (io.line .D7)).toUInt8 <<< 3 ||| (l (io.line .D6)).toUInt8 <<< 2 |||
    (l (io.line .D5)).toUInt8 <<< 1 ||| (l (io.line .D4)).toUInt8

/-- The display pairs the nibbles, the high one first, in one register. -/
def decode : List Nibble → Option (List (Bool × UInt8))
  | [] => some []
  | [_] => none
  | hi :: lo :: rest =>
    if hi.rs = lo.rs then
      (decode rest).map ((hi.rs, hi.value <<< 4 ||| lo.value) :: ·)
    else none

inductive Call
  | command (c : UInt8)
  | char (d : UInt8)

def Call.message : Call → Bool × UInt8
  | .command c => (false, c)
  | .char d => (true, d)

def nibbles (m : Bool × UInt8) : List Nibble := [⟨m.1, m.2 >>> 4⟩, ⟨m.1, m.2 &&& 0xF⟩]

def Driver.call {P : Type} (d : Driver P) : Call → List (Write P)
  | .command c => d.lcdSendCommand c
  | .char c => d.lcdPrintChar c

/-- The single nibbles that bring the display to four-bit mode. -/
def wakeUp : List Nibble := [⟨false, 3⟩, ⟨false, 3⟩, ⟨false, 3⟩, ⟨false, 2⟩]

def initCommands : List UInt8 :=
  [LCD_CMD_4DL_2N_5X8F, LCD_CMD_DON_CURON, LCD_CMD_DIS_CLEAR, LCD_CMD_INCADD]

def initMessages : List (Bool × UInt8) := initCommands.map (false, ·)

theorem halves (b : UInt8) : b >>> 4 <<< 4 ||| b &&& 0xF = b := by
  obtain ⟨b⟩ := b
  revert b
  decide +kernel

theorem high_half (b : UInt8) : (b >>> 4) &&& (0xF : UInt8) = b >>> 4 := by
  obtain ⟨b⟩ := b
  revert b
  decide +kernel

theorem decode_nibbles (ms : List (Bool × UInt8)) : decode (ms.flatMap nibbles) = some ms := by
  induction ms with
  | nil => rfl
  | cons m ms ih =>
    simp [nibbles, decode, ih, halves]

section Trace

variable {P : Type} [DecidableEq P] (io : Port P)

def display : Receiver P Nibble where
  clock := io.line .EN
  read := readNibble io
  keeps l := l (io.line .RW) = false

/-- The enable line and the read/write line are low. -/
def Idle (l : Levels P) : Prop := l (io.line .EN) = false ∧ l (io.line .RW) = false

def Selected (rs : Bool) (l : Levels P) : Prop := Idle io l ∧ l (io.line .RS) = rs

theorem drive_line (l : Levels P) (p q : Pin) (b : Bool) :
    drive l (io.line p, b) (io.line q) = if q = p then b else l (io.line q) := by
  rcases eq_or_ne q p with rfl | other
  · simp
  · rw [drive_other l b (io.line_inj.ne other), if_neg other]

theorem readNibble_enable (l : Levels P) (b : Bool) :
    readNibble io (drive l (io.line .EN, b)) = readNibble io l := by
  simp [readNibble, drive_line]

theorem readNibble_dataLines (l : Levels P) (data : UInt8) :
    readNibble io (after l (dataLines io data)) = ⟨l (io.line .RS), data &&& 0xF⟩ := by
  have low_half : (decide ((data >>> 3) &&& 0x1 ≠ 0)).toUInt8 <<< 3 |||
      (decide ((data >>> 2) &&& 0x1 ≠ 0)).toUInt8 <<< 2 |||
      (decide ((data >>> 1) &&& 0x1 ≠ 0)).toUInt8 <<< 1 |||
      (decide ((data >>> 0) &&& 0x1 ≠ 0)).toUInt8 = data &&& 0xF := by
    obtain ⟨b⟩ := data
    revert b
    decide +kernel
  rw [← low_half]
  simp [readNibble, dataLines, drive_line]

theorem write4Bits_sent (rs : Bool) (data : UInt8) :
    (display io).Triple (Selected io rs) (write4Bits io data) [⟨rs, data &&& 0xF⟩]
      (Selected io rs) := by
  rw [write4Bits_eq]
  have latched : (display io).Triple
      (fun l => Selected io rs l ∧ readNibble io l = ⟨rs, data &&& 0xF⟩)
      (pulse (io.line .EN)) [⟨rs, data &&& 0xF⟩]
      (fun l => Selected io rs l ∧ readNibble io l = ⟨rs, data &&& 0xF⟩) := by
    apply Receiver.Triple.pulse
    · exact fun l shown => shown.1.1.1
    · exact fun l shown => (readNibble_enable io l true).trans shown.2
    · rintro l ⟨⟨⟨_, low⟩, _⟩, _⟩
      exact ⟨low, by simpa [display, drive_line] using low⟩
  refine .append (.settle ?_ ?_ ?_ ?_) (latched.weaken (fun _ => id) fun _ => And.left)
  · exact fun l selected => selected.1
  · simp [dataLines, display, io.line_inj.eq_iff]
  · simp +contextual [dataLines, display, drive_line]
  · rintro l ⟨⟨enable, low⟩, rfl⟩
    refine ⟨⟨⟨?_, ?_⟩, ?_⟩, readNibble_dataLines io l data⟩
    all_goals simp [dataLines, drive_line, enable, low]

theorem select_sent (rs : Bool) (value : UInt8) (chosen : decide (value ≠ 0) = rs) :
    (display io).Triple (Idle io)
      (io.gpioWriteValue .RS value ++ io.gpioWriteValue .RW LOW_VALUE) []
      (Selected io rs) := by
  subst chosen
  rw [io.written, written_low]
  apply Receiver.Triple.settle
  · exact fun l idle => idle
  · simp [display, io.line_inj.eq_iff]
  · simp +contextual [display, drive_line]
  · rintro l ⟨enable, low⟩
    simp [Selected, Idle, drive_line, enable]

theorem byte_sent (rs : Bool) (b : UInt8) :
    (display io).Triple (Selected io rs) (write4Bits io (b >>> 4) ++ write4Bits io b)
      (nibbles (rs, b)) (Selected io rs) := by
  have high := write4Bits_sent io rs (b >>> 4)
  rw [high_half] at high
  exact high.append (write4Bits_sent io rs b)

theorem lcdSendCommand_sent (command : UInt8) :
    (display io).Triple (Idle io) (lcdSendCommand io command) (nibbles (false, command))
      (Idle io) := by
  have sent := (select_sent io false LOW_VALUE rfl).append (byte_sent io false command)
  simpa [lcdSendCommand] using sent.weaken (fun _ => id) fun _ => And.left

theorem lcdPrintChar_sent (data : UInt8) :
    (display io).Triple (Idle io) (lcdPrintChar io data) (nibbles (true, data)) (Idle io) := by
  have sent := (select_sent io true HIGH_VALUE rfl).append (byte_sent io true data)
  simpa [lcdPrintChar] using sent.weaken (fun _ => id) fun _ => And.left

theorem initSequence_sent :
    (display io).Triple (Idle io) (initSequence io)
      (wakeUp ++ initMessages.flatMap nibbles) (Idle io) := by
  have asleep := select_sent io false LOW_VALUE rfl
  have wake (data : UInt8) (small : data &&& 0xF = data) :
      (display io).Triple (Selected io false) (write4Bits io data) [⟨false, data⟩]
        (Selected io false) := by
    simpa only [small] using write4Bits_sent io false data
  have awake := (((asleep.append (wake 3 rfl)).append (wake 3 rfl)).append
    (wake 3 rfl)).append (wake 2 rfl)
  have commands := (((lcdSendCommand_sent io LCD_CMD_4DL_2N_5X8F).append
    (lcdSendCommand_sent io LCD_CMD_DON_CURON)).append
    (lcdSendCommand_sent io LCD_CMD_DIS_CLEAR)).append
    (lcdSendCommand_sent io LCD_CMD_INCADD)
  have sent := awake.append (commands.weaken (fun _ selected => selected.1) fun _ => id)
  simpa [initSequence, lcdDisplayClear, wakeUp, initMessages, initCommands] using sent

end Trace

section Drivers

variable {P : Type} [DecidableEq P]

/-- What a receiver finds out about a driver that is made ready on lines at any
levels, brings the display up, and then takes the calls. -/
structure Driver.WireFormat (d : Driver P) (before : Levels P) (calls : List Call) : Prop where
  init_nibbles :
    samples (d.port.line .EN) (readNibble d.port) (after before d.prepare) d.lcdInit =
      wakeUp ++ initMessages.flatMap nibbles
  call_nibbles :
    samples (d.port.line .EN) (readNibble d.port)
        (after (after before d.prepare) d.lcdInit) (calls.flatMap d.call) =
      calls.flatMap fun c => nibbles c.message
  aligned :
    decode ((samples (d.port.line .EN) (readNibble d.port) (after before d.prepare)
        (d.lcdInit ++ calls.flatMap d.call)).drop wakeUp.length) =
      some (initMessages ++ calls.map Call.message)
  still :
    Stable (d.port.line .EN) (after before d.prepare) (d.lcdInit ++ calls.flatMap d.call)
  writing :
    Throughout (fun l => l (d.port.line .RW) = false) (after before d.prepare)
      (d.lcdInit ++ calls.flatMap d.call)

structure Driver.Sends (d : Driver P) : Prop where
  prepared : ∀ before, Idle d.port (after before d.prepare)
  init : (display d.port).Triple (Idle d.port) d.lcdInit
    (wakeUp ++ initMessages.flatMap nibbles) (Idle d.port)
  call : ∀ c, (display d.port).Triple (Idle d.port) (d.call c) (nibbles c.message)
    (Idle d.port)

theorem Driver.Sends.format {d : Driver P} (sends : d.Sends) (before : Levels P)
    (calls : List Call) : d.WireFormat before calls := by
  have ready := sends.prepared before
  obtain ⟨init, idle⟩ := sends.init _ ready
  have later : (display d.port).Triple (Idle d.port) (calls.flatMap d.call)
      (calls.flatMap fun c => nibbles c.message) (Idle d.port) :=
    .flatMap (fun _ kept => kept.2) sends.call calls
  obtain ⟨whole, _⟩ := (sends.init.append later) _ ready
  refine ⟨init.samples, (later _ idle).1.samples, ?_, whole.stable, whole.throughout⟩
  have seen : samples (d.port.line .EN) (readNibble d.port) (after before d.prepare)
      (d.lcdInit ++ calls.flatMap d.call) =
      wakeUp ++ (initMessages ++ calls.map Call.message).flatMap nibbles := by
    rw [List.flatMap_append, List.flatMap_map, ← List.append_assoc]
    exact whole.samples
  rw [seen, List.drop_left, decode_nibbles]

end Drivers

theorem gpioSysfs_sends : GpioSysfs.driver.Sends where
  prepared before := by
    constructor <;> rfl
  init := initSequence_sent GpioSysfs.port
  call c := by
    cases c with
    | command c => exact lcdSendCommand_sent GpioSysfs.port c
    | char c => exact lcdPrintChar_sent GpioSysfs.port c

theorem platform_sends : Platform.driver.Sends where
  prepared before := by
    constructor <;> rfl
  init := by
    have lowered : (display Platform.port).Triple (Idle Platform.port)
        (([Pin.RS, .RW, .EN, .D4, .D5, .D6, .D7] ++
          [Pin.RS, .EN, .D4, .D5, .D6, .D7]).map (·, false)) [] (Idle Platform.port) := by
      refine .settle (fun _ idle => idle) (by simp) ?_ ?_
      · simp +contextual [display, Platform.port, drive, Function.update_apply]
      · rintro l ⟨enable, low⟩
        constructor <;> rfl
    exact lowered.append (initSequence_sent Platform.port)
  call c := by
    cases c with
    | command c => exact lcdSendCommand_sent Platform.port c
    | char c => exact lcdPrintChar_sent Platform.port c

theorem wire_format :
    (∀ before calls, GpioSysfs.driver.WireFormat before calls) ∧
      ∀ before calls, Platform.driver.WireFormat before calls :=
  ⟨gpioSysfs_sends.format, platform_sends.format⟩

example : samples Pin.EN (readNibble Platform.port) (fun _ => false)
    (Platform.lcdPrintChar 0x41) = [⟨true, 4⟩, ⟨true, 1⟩] := by decide

end MadDriver.Lcd

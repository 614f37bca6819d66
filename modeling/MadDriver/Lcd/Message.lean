import MadDriver.Core.Printf
import MadDriver.Lcd.Print

/-! 007, lcd_app.c: the message of the user on the display. It is the format of
lcd_printf, and its text goes through a buffer smaller than the message may be. -/
namespace MadDriver.Lcd.GpioSysfs
open Kernel Wire

def TEXT_BUFFER_SIZE : Nat := 32

def Printable (letter : UInt8) : Bool := 0x1F < letter && letter < 0x80

/-- The loop over the text; it stops at a newline. -/
def letters : List UInt8 → List UInt8
  | [] => []
  | letter :: rest =>
    if letter = 10 then [] else if Printable letter then letter :: letters rest else letters rest

def lcdPrintf (fmt : List UInt8) : Outcome (List (Write String)) :=
  (vsprintf fmt).bind fun text =>
    if text.length < TEXT_BUFFER_SIZE then .done ((letters text).flatMap lcdPrintChar) else .wild

/-- What `scanf("%80[^\n]s", msg_buf)` takes; a NUL may be among it. -/
structure Message where
  bytes : List UInt8
  some_byte : 1 ≤ bytes.length
  fits : bytes.length ≤ 80
  no_newline : 10 ∉ bytes

def Message.msgBuf (message : Message) : List UInt8 := message.bytes ++ [0]

/-- The text stays in its buffer, and the display gets the printable characters of the
message. -/
def Displays (message : Message) : Prop :=
  ∃ writes, lcdPrintf (cString message.msgBuf) = .done writes ∧
    ∀ l, Idle port l → (display port).Sees l writes
      ((message.bytes.filter Printable).flatMap fun ch => nibbles (true, ch))

/-- Nothing of it is a conversion, it has room, and nothing printable is behind a NUL. -/
def Message.Plain (message : Message) : Prop :=
  0x25 ∉ cString message.bytes ∧ (cString message.bytes).length < TEXT_BUFFER_SIZE ∧
    ∀ ch ∈ message.bytes.drop (cString message.bytes).length, Printable ch = false

theorem letters_filter {text : List UInt8} (no_newline : 10 ∉ text) :
    letters text = text.filter Printable := by
  induction text with
  | nil => rfl
  | cons letter rest ih =>
    have other : letter ≠ 10 := fun newline => no_newline (newline ▸ List.mem_cons_self)
    have later : 10 ∉ rest := fun member => no_newline (List.mem_cons_of_mem letter member)
    rw [letters, if_neg other, ih later, List.filter_cons]

theorem length_letters_le (text : List UInt8) :
    (letters text).length ≤ text.countP Printable := by
  induction text with
  | nil => simp [letters]
  | cons letter rest ih =>
    rw [letters, List.countP_cons]
    split
    · simp
    · split
      · simp [*]
      · simp [*]

theorem msgBuf_string (message : Message) : cString message.msgBuf = cString message.bytes :=
  cString_append_nul message.bytes []

theorem chars_seen {chars chars' : List UInt8} {l : Levels String} (idle : Idle port l)
    (sees : (display port).Sees l (chars.flatMap lcdPrintChar)
      (chars'.flatMap fun ch => nibbles (true, ch))) : chars = chars' := by
  have sent := ((chars_sent port chars) l idle).1.samples
  have same := sent.symm.trans sees.samples
  have messages : ∀ cs : List UInt8, (cs.flatMap fun ch => nibbles (true, ch)) =
      (cs.map fun ch => (true, ch)).flatMap nibbles := by
    intro cs
    rw [List.flatMap_map]
  rw [messages, messages] at same
  have decoded := congrArg decode same
  rw [decode_nibbles, decode_nibbles] at decoded
  have both := congrArg (List.map Prod.snd) (Option.some.inj decoded)
  simpa [Function.comp_def] using both

theorem split_message (bytes : List UInt8) :
    cString bytes ++ bytes.drop (cString bytes).length = bytes :=
  List.prefix_iff_eq_append.mp (List.takeWhile_prefix _)

theorem idle_lines : Idle port (fun _ => false) := ⟨rfl, rfl⟩

theorem displays_plain {message : Message} (displays : Displays message) : message.Plain := by
  obtain ⟨writes, done, sees⟩ := displays
  obtain ⟨text, printed, sent⟩ := Outcome.bind_done.mp done
  rw [msgBuf_string] at printed
  split at sent
  · rename_i room
    cases sent
    have seen := chars_seen idle_lines (sees _ idle_lines)
    have most := length_letters_le text
    obtain ⟨le, lt⟩ := vsprintf_count Printable rfl printed
    have all : (message.bytes.filter Printable).length =
        (cString message.bytes).countP Printable +
          (message.bytes.drop (cString message.bytes).length).countP Printable := by
      rw [← List.countP_append, split_message, List.countP_eq_length_filter]
    rw [seen, all] at most
    have plain : 0x25 ∉ cString message.bytes := by
      intro percent
      have less := lt percent
      omega
    cases (vsprintf_plain plain).symm.trans printed
    refine ⟨plain, room, ?_⟩
    have nothing : (message.bytes.drop (cString message.bytes).length).countP Printable = 0 := by
      omega
    simpa using List.countP_eq_zero.mp nothing
  · cases sent

theorem plain_displays {message : Message} (plain : message.Plain) : Displays message := by
  obtain ⟨no_percent, room, silent⟩ := plain
  have inside : ∀ ch ∈ cString message.bytes, ch ∈ message.bytes :=
    fun ch member => (List.takeWhile_sublist _).mem member
  have whole : message.bytes.filter Printable = (cString message.bytes).filter Printable ++
      (message.bytes.drop (cString message.bytes).length).filter Printable := by
    rw [← List.filter_append, split_message]
  have behind : (message.bytes.drop (cString message.bytes).length).filter Printable = [] := by
    simpa [List.filter_eq_nil_iff] using silent
  have sent : letters (cString message.bytes) = message.bytes.filter Printable := by
    rw [letters_filter fun newline => message.no_newline (inside 10 newline), whole, behind,
      List.append_nil]
  refine ⟨(letters (cString message.bytes)).flatMap lcdPrintChar, ?_, fun l idle => ?_⟩
  · rw [msgBuf_string, lcdPrintf, vsprintf_plain no_percent]
    exact if_pos room
  · rw [sent]
    exact (chars_sent port _ l idle).1

theorem message_display_iff (message : Message) : Displays message ↔ message.Plain :=
  ⟨displays_plain, plain_displays⟩

/-- "%d" asks for an argument that is not there, and 32 letters are one too many. -/
theorem message_not_displayed :
    ¬ Displays ⟨[0x25, 0x64], by decide, by decide, by decide⟩ ∧
      ¬ Displays ⟨List.replicate 32 0x41, by decide, by decide, by decide⟩ := by
  constructor
  · intro displays
    exact absurd (displays_plain displays).1 (by decide)
  · intro displays
    exact absurd (displays_plain displays).2.1 (by decide)

end MadDriver.Lcd.GpioSysfs

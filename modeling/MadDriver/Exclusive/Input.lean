import MadDriver.Exclusive.Sessions

/-! Writes to blocking_drv and intrpt_drv, and the read that follows. The store loop
leaves room for the NUL, so the message of a write is its string and nothing of the
writes before it. -/
namespace MadDriver.Exclusive
open Kernel

def store (message : List UInt8) (i : Nat) (ch : UInt8) : Outcome (List UInt8) :=
  if i < message.length then .done (message.set i ch) else .wild

/-- The loop from i on, with `left` bytes to MESSAGE_LENGTH - 1: the message, and where
i stands. -/
def inputLoop (buf : List UInt8) (length : UInt64) :
    Nat → Nat → List UInt8 → Outcome (List UInt8 × Nat)
  | 0, i, message => .done (message, i)
  | left + 1, i, message =>
    if i < length.toNat then
      (store message i (getUser buf i)).bind (inputLoop buf length left (i + 1))
    else .done (message, i)

/-- A write of `length` bytes, of which those of `buf` can be read. -/
def input (message buf : List UInt8) (length : UInt64) : Outcome (List UInt8) :=
  (inputLoop buf length (MESSAGE_LENGTH - 1) 0 message).bind fun (message, i) =>
    store message i 0

def moduleInput : List UInt8 → List UInt8 → UInt64 → Outcome (List UInt8) := input

def intrptInput : List UInt8 → List UInt8 → UInt64 → Outcome (List UInt8) := input

structure UserWrite where
  buf : List UInt8
  length : UInt64

def inputs (write : List UInt8 → List UInt8 → UInt64 → Outcome (List UInt8)) :
    List UInt8 → List UserWrite → Outcome (List UInt8)
  | message, [] => .done message
  | message, w :: ws => (write message w.buf w.length).bind fun message => inputs write message ws

def UserWrite.text (w : UserWrite) : List UInt8 :=
  cString ((w.buf.take w.length.toNat).take (MESSAGE_LENGTH - 1))

theorem inputLoop_eq {buf message : List UInt8} {length : UInt64} {left i : Nat}
    (room : i + left ≤ message.length) :
    inputLoop buf length left i message =
      .done (Bytes.patch message i
        ((List.range' i (min left (length.toNat - i))).map (getUser buf)),
        i + min left (length.toNat - i)) := by
  induction left generalizing i message with
  | zero => simp [inputLoop]
  | succ left ih =>
    by_cases more : i < length.toNat
    · have inside : i < message.length := by omega
      have next : min (left + 1) (length.toNat - i) = min left (length.toNat - (i + 1)) + 1 := by
        omega
      have rest : i + 1 + left ≤ (message.set i (getUser buf i)).length := by
        rw [List.length_set]
        omega
      rw [inputLoop, if_pos more, store, if_pos inside]
      simp only [Outcome.bind]
      rw [ih rest, next, List.range'_succ, List.map_cons, Bytes.patch_cons inside]
      congr 2
      omega
    · have nothing : length.toNat - i = 0 := by omega
      simp [inputLoop, more, nothing]

def stored (buf : List UInt8) (length : UInt64) : List UInt8 :=
  (List.range' 0 (min (MESSAGE_LENGTH - 1) length.toNat)).map (getUser buf)

theorem length_stored (buf : List UInt8) (length : UInt64) :
    (stored buf length).length = min (MESSAGE_LENGTH - 1) length.toNat := by
  simp [stored]

theorem input_eq {message : List UInt8} (size : message.length = MESSAGE_LENGTH)
    (buf : List UInt8) (length : UInt64) :
    input message buf length = .done (Bytes.patch message 0 (stored buf length ++ [0])) := by
  have bound : MESSAGE_LENGTH = 80 := rfl
  have count := length_stored buf length
  have fits : 0 + (stored buf length).length ≤ message.length := by omega
  have inside :
      (stored buf length).length < (Bytes.patch message 0 (stored buf length)).length := by
    rw [Bytes.length_patch fits]
    omega
  have room : 0 + (MESSAGE_LENGTH - 1) ≤ message.length := by omega
  have terminator := Bytes.patch_append (Nat.zero_le message.length) (stored buf length) [0]
  rw [Nat.zero_add, Bytes.patch_cons inside, Bytes.patch_nil] at terminator
  rw [input, inputLoop_eq room]
  change store (Bytes.patch message 0 (stored buf length))
    (0 + min (MESSAGE_LENGTH - 1) length.toNat) 0 = _
  rw [Nat.zero_add, ← count, store, if_pos inside, terminator]

theorem cString_getUser (buf : List UInt8) (i n : Nat) :
    cString ((List.range' i n).map (getUser buf)) = cString ((buf.drop i).take n) := by
  induction n generalizing i with
  | zero => simp
  | succ n ih =>
    rw [List.range'_succ, List.map_cons, cString_cons, ih]
    by_cases inside : i < buf.length
    · rw [List.drop_eq_getElem_cons inside, List.take_succ_cons, cString_cons]
      simp [getUser, inside]
    · have short : buf.length ≤ i := Nat.le_of_not_lt inside
      simp [getUser, List.drop_eq_nil_of_le short, List.getElem?_eq_none short, cString]

theorem cString_input (message : List UInt8) (w : UserWrite) :
    cString (Bytes.patch message 0 (stored w.buf w.length ++ [0])) = w.text := by
  rw [Bytes.patch, List.take_zero, List.nil_append, List.append_assoc, List.singleton_append,
    cString_append_nul, stored, cString_getUser, List.drop_zero, UserWrite.text, List.take_take]

theorem input_message {message : List UInt8} (size : message.length = MESSAGE_LENGTH)
    (w : UserWrite) :
    ∃ m : Message, input message w.buf w.length = .done m.bytes ∧ cString m.bytes = w.text := by
  have bound : MESSAGE_LENGTH = 80 := rfl
  have count := length_stored w.buf w.length
  refine ⟨⟨Bytes.patch message 0 (stored w.buf w.length ++ [0]), ?_, ?_⟩, ?_, ?_⟩
  · rw [Bytes.length_patch, size]
    simp only [List.length_append, List.length_singleton]
    omega
  · simp [Bytes.patch]
  · exact input_eq size w.buf w.length
  · exact cString_input message w

def emptyMessage : Message := ⟨List.replicate MESSAGE_LENGTH 0, rfl, by decide⟩

theorem inputs_message (ws : List UserWrite) (start : Message) :
    ∃ m : Message, inputs input start.bytes ws = .done m.bytes ∧
      ∀ last, ws.getLast? = some last → cString m.bytes = last.text := by
  induction ws generalizing start with
  | nil => exact ⟨start, rfl, nofun⟩
  | cons w ws ih =>
    obtain ⟨m, written, text⟩ := input_message start.length w
    obtain ⟨m', rest, last_text⟩ := ih m
    refine ⟨m', ?_, ?_⟩
    · rw [inputs, written]
      exact rest
    · intro last found
      cases ws with
      | nil =>
        cases found
        have same : m.bytes = m'.bytes := Outcome.done.inj rest
        rw [← same, text]
        rfl
      | cons next ws =>
        rw [List.getLast?_cons_cons] at found
        exact last_text last found

/-- After the writes `ws` the text fits its buffer, and a read that starts afresh with
room for all of it returns the last write in its line. -/
structure ShowsLast (read : Message → Int32 → UInt64 → Int32 × Reply) (ws : List UserWrite)
    (m : Message) : Prop where
  fits : (outputMsg m ++ [0]).length ≤ MESSAGE_LENGTH + 30
  returned : ∀ last, ws.getLast? = some last →
    ∀ len : UInt64, (lastInput ++ last.text ++ [0x0A]).length ≤ len.toNat →
      (read m 0 len).2.puts = lastInput ++ last.text ++ [0x0A] ∧
      (read m 0 len).2.ret.toInt = (lastInput ++ last.text ++ [0x0A]).length

theorem shows_last (shown : Nat → List LedWrite) {ws : List UserWrite} {m : Message}
    (text : ∀ last, ws.getLast? = some last → cString m.bytes = last.text) :
    ShowsLast (output shown) ws m := by
  have short := length_cString_le m.bytes
  have size := m.length
  have bound : MESSAGE_LENGTH = 80 := rfl
  have length : (outputMsg m ++ [0]).length = (cString m.bytes).length + 13 := by
    simp [outputMsg, lastInput]
  refine ⟨by omega, ?_⟩
  intro last found len room
  have line : outputMsg m = lastInput ++ last.text ++ [0x0A] := by rw [outputMsg, text last found]
  obtain ⟨_, puts, ret⟩ := output_fresh shown m len
  rw [line, List.take_of_length_le room] at puts ret
  refine ⟨puts, ?_⟩
  rw [ret, Int64.toInt_ofNat_of_lt]
  rw [← line]
  simp at length
  omega

theorem input_output (ws : List UserWrite) :
    (∃ m : Message, inputs moduleInput emptyMessage.bytes ws = .done m.bytes ∧
      ShowsLast moduleOutput ws m) ∧
    ∃ m : Message, inputs intrptInput emptyMessage.bytes ws = .done m.bytes ∧
      ShowsLast intrptOutput ws m := by
  obtain ⟨m, written, text⟩ := inputs_message ws emptyMessage
  exact ⟨⟨m, written, shows_last _ text⟩, ⟨m, written, shows_last _ text⟩⟩

end MadDriver.Exclusive

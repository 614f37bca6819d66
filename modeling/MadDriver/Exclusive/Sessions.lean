import Mathlib.Data.List.TakeDrop
import MadDriver.Core.Kstrtox

/-! Reading sessions of blocking_drv and intrpt_drv. The end of the file is told by
one flag of the module, whatever was delivered and whoever reads. -/
namespace MadDriver.Exclusive
open Kernel

def MESSAGE_LENGTH : Nat := 80

structure Message where
  bytes : List UInt8
  length : bytes.length = MESSAGE_LENGTH
  nul : 0 ∈ bytes

def lastInput : List UInt8 :=
  [0x4C, 0x61, 0x73, 0x74, 0x20, 0x69, 0x6E, 0x70, 0x75, 0x74, 0x3A]

def outputMsg (message : Message) : List UInt8 :=
  lastInput ++ cString message.bytes ++ [0x0A]

/-- The loop over `output_msg`, which ends with a NUL. -/
def outputLoop : Nat → List UInt8 → List UInt8
  | 0, _ => []
  | _ + 1, [] => []
  | len + 1, ch :: rest => if ch = 0 then [] else ch :: outputLoop len rest

abbrev LedWrite := Nat × Int

structure Reply where
  ret : Int64
  puts : List UInt8
  leds : List LedWrite
  deriving DecidableEq

/-- A read of either driver: `finished`, then the reply. The drivers differ in what a
byte's number does to the two lines. -/
def output (shown : Nat → List LedWrite) (message : Message) (finished : Int32) (len : UInt64) :
    Int32 × Reply :=
  if finished ≠ 0 then (0, ⟨0, [], []⟩)
  else
    let sent := outputLoop len.toNat (outputMsg message ++ [0])
    (1, ⟨.ofNat sent.length, sent, (List.range sent.length).flatMap shown⟩)

def moduleOutput : Message → Int32 → UInt64 → Int32 × Reply := output fun _ => []

def intrptOutput : Message → Int32 → UInt64 → Int32 × Reply := output fun i =>
  match i % 4 with
  | 0 => [(299, 0)]
  | 1 => [(299, 1)]
  | 2 => [(301, 0)]
  | _ => [(301, 1)]

abbrev Length := { len : UInt64 // 0 < len.toNat }

def session (read : Int32 → UInt64 → Int32 × Reply) : Int32 → List Length → Int32 × List Reply
  | finished, [] => (finished, [])
  | finished, len :: lens =>
    let (finished, reply) := read finished len
    let (finished, replies) := session read finished lens
    (finished, reply :: replies)

def sessions (read : Int32 → UInt64 → Int32 × Reply) :
    Int32 → List (List Length) → List (List Reply)
  | _, [] => []
  | finished, lens :: rest =>
    let (finished, replies) := session read finished lens
    replies :: sessions read finished rest

/-- The bytes returned before the first read that returns 0; byte i of a reply was put at
distance i. -/
def delivered : List Reply → Option (List UInt8)
  | [] => some []
  | reply :: replies =>
    if reply.ret = 0 then some []
    else do
      let bytes ← returned reply.ret reply.puts.zipIdx
      let rest ← delivered replies
      some (bytes ++ rest)

def SeesWhole (text : List UInt8) (replies : List Reply) : Prop :=
  ∃ bytes, delivered replies = some bytes ∧ bytes <+: text ∧
    ((∃ reply ∈ replies, reply.ret = 0) → bytes = text)

/-- A session without a read, or one that starts after an even number of reads and has
only one, or whose first read has room for everything. -/
def Covered (text : List UInt8) (before : Nat) : List Length → Prop
  | [] => True
  | len :: lens => before % 2 = 0 ∧ (lens ≠ [] → text.length ≤ len.val.toNat)

theorem outputLoop_eq {text : List UInt8} (nulFree : 0 ∉ text) (len : Nat) :
    outputLoop len (text ++ [0]) = text.take len := by
  induction text generalizing len with
  | nil => cases len <;> rfl
  | cons ch text ih =>
    have nonzero : ch ≠ 0 := fun zero => nulFree (zero ▸ List.mem_cons_self)
    have rest : 0 ∉ text := fun member => nulFree (List.mem_cons_of_mem _ member)
    cases len with
    | zero => rfl
    | succ len => rw [List.cons_append, outputLoop, if_neg nonzero, ih rest, List.take_succ_cons]

theorem outputMsg_nulFree (message : Message) : 0 ∉ outputMsg message := by
  simp [outputMsg, lastInput, cString_nulFree]

theorem length_outputMsg (message : Message) :
    0 < (outputMsg message).length ∧ (outputMsg message).length ≤ MESSAGE_LENGTH + 30 := by
  have short := length_cString_le message.bytes
  have size := message.length
  simp only [outputMsg, lastInput, List.length_append, List.length_cons, List.length_nil]
  omega

variable (shown : Nat → List LedWrite) (message : Message)

theorem output_finished {finished : Int32} (set : finished ≠ 0) (len : UInt64) :
    output shown message finished len = (0, ⟨0, [], []⟩) := if_pos set

theorem output_fresh (len : UInt64) :
    (output shown message 0 len).1 = 1 ∧
      (output shown message 0 len).2.puts = (outputMsg message).take len.toNat ∧
      (output shown message 0 len).2.ret = .ofNat ((outputMsg message).take len.toNat).length := by
  have sent := outputLoop_eq (outputMsg_nulFree message) len.toNat
  unfold output
  rw [if_neg (by simp), sent]
  exact ⟨rfl, rfl, rfl⟩

theorem fresh_ret_ne_zero (len : Length) : (output shown message 0 len.val).2.ret ≠ 0 := by
  obtain ⟨pos, bound⟩ := length_outputMsg message
  have size : MESSAGE_LENGTH = 80 := rfl
  have sent : ((outputMsg message).take len.val.toNat).length =
      min len.val.toNat (outputMsg message).length := List.length_take
  rw [(output_fresh shown message len.val).2.2, ← Int64.toInt_inj.ne, sent,
    Int64.toInt_ofNat_of_lt (by omega)]
  have some_sent := len.property
  have zero : (0 : Int64).toInt = 0 := rfl
  omega

theorem fresh_returned (len : UInt64) :
    returned (output shown message 0 len).2.ret (output shown message 0 len).2.puts.zipIdx =
      some ((outputMsg message).take len.toNat) := by
  obtain ⟨_, bound⟩ := length_outputMsg message
  have size : MESSAGE_LENGTH = 80 := rfl
  have sent : ((outputMsg message).take len.toNat).length ≤ (outputMsg message).length :=
    List.length_take_le' _ _
  obtain ⟨_, puts, ret⟩ := output_fresh shown message len
  rw [ret, puts, returned_zipIdx (by omega)]

def flag (reads : Nat) : Int32 := if reads % 2 = 0 then 0 else 1

theorem output_flag (n : Nat) (len : UInt64) :
    (output shown message (flag n) len).1 = flag (n + 1) := by
  rcases Nat.mod_two_eq_zero_or_one n with even | odd
  · have next : (n + 1) % 2 = 1 := by omega
    simp [flag, even, next, (output_fresh shown message len).1]
  · have next : (n + 1) % 2 = 0 := by omega
    simp [flag, odd, next, output_finished]

theorem session_flag (n : Nat) (lens : List Length) :
    (session (output shown message) (flag n) lens).1 = flag (n + lens.length) := by
  induction lens generalizing n with
  | nil => rfl
  | cons len lens ih =>
    change (session _ (output shown message (flag n) len.val).1 lens).1 = _
    rw [output_flag, ih (n + 1), List.length_cons, Nat.add_assoc, Nat.add_comm 1]

theorem session_whole_iff (n : Nat) (lens : List Length) :
    SeesWhole (outputMsg message) (session (output shown message) (flag n) lens).2 ↔
      Covered (outputMsg message) n lens := by
  obtain ⟨pos, _⟩ := length_outputMsg message
  cases lens with
  | nil => simp [session, SeesWhole, delivered, Covered]
  | cons len lens =>
    rcases Nat.mod_two_eq_zero_or_one n with even | odd
    · have first := fresh_ret_ne_zero shown message len
      have sent := fresh_returned shown message len.val
      have set := (output_fresh shown message len.val).1
      have zero : flag n = 0 := if_pos even
      cases lens with
      | nil =>
        simp [session, SeesWhole, delivered, Covered, zero, first, sent, even, List.take_prefix]
      | cons len' lens =>
        have one : (1 : Int32) ≠ 0 := by decide
        have last := output_finished shown message one len'.val
        simp [session, SeesWhole, delivered, Covered, zero, first, sent, set, last, even,
          List.take_prefix]
    · have set : flag n ≠ 0 := by simp [flag, odd]
      have text : outputMsg message ≠ [] := List.ne_nil_of_length_pos pos
      simp [session, SeesWhole, delivered, Covered, output_finished shown message set, odd,
        Ne.symm text]

theorem sessions_whole_iff (n : Nat) (runs : List (List Length)) :
    (∀ replies ∈ sessions (output shown message) (flag n) runs,
        SeesWhole (outputMsg message) replies) ↔
      ∀ before lens after, runs = before ++ lens :: after →
        Covered (outputMsg message) (n + before.flatten.length) lens := by
  induction runs generalizing n with
  | nil => simp [sessions]
  | cons lens rest ih =>
    rw [sessions, List.forall_mem_cons, session_whole_iff, session_flag, ih]
    constructor
    · rintro ⟨first, later⟩ before lens' after split
      rcases List.append_eq_cons_iff.mp split.symm with ⟨rfl, same⟩ | ⟨before', rfl, same⟩
      · cases same
        exact first
      · have covered := later before' lens' after same
        rwa [List.flatten_cons, List.length_append, ← Nat.add_assoc]
    · intro covered
      refine ⟨covered [] lens rest rfl, ?_⟩
      intro before lens' after split
      have later := covered (lens :: before) lens' after (congrArg (List.cons lens) split)
      rwa [List.flatten_cons, List.length_append, ← Nat.add_assoc] at later

/-- In the sessions of either driver everybody sees the whole message exactly when
every session that reads starts after an even number of reads, and takes the message
in its first read if it has a second one. -/
theorem sessions_see_whole_iff (message : Message) (runs : List (List Length)) :
    ((∀ replies ∈ sessions (moduleOutput message) 0 runs,
        SeesWhole (outputMsg message) replies) ↔
      ∀ before lens after, runs = before ++ lens :: after →
        Covered (outputMsg message) before.flatten.length lens) ∧
    ((∀ replies ∈ sessions (intrptOutput message) 0 runs,
        SeesWhole (outputMsg message) replies) ↔
      ∀ before lens after, runs = before ++ lens :: after →
        Covered (outputMsg message) before.flatten.length lens) := by
  have whole := fun shown => sessions_whole_iff shown message 0 runs
  simp only [Nat.zero_add] at whole
  exact ⟨whole _, whole _⟩

def letter : Message := ⟨0x41 :: List.replicate 79 0, rfl, by decide⟩

/-- A session closed after its first read leaves nothing for the next one, and a
short first read is taken for all. -/
theorem sessions_miss_bytes :
    sessions (moduleOutput letter) 0 [[⟨4096, by decide⟩], [⟨4096, by decide⟩]] =
        [[⟨13, outputMsg letter, []⟩], [⟨0, [], []⟩]] ∧
      ¬ SeesWhole (outputMsg letter) [⟨0, [], []⟩] ∧
    sessions (moduleOutput letter) 0 [[⟨4, by decide⟩, ⟨4, by decide⟩]] =
        [[⟨4, (outputMsg letter).take 4, []⟩, ⟨0, [], []⟩]] ∧
      ¬ SeesWhole (outputMsg letter) [⟨4, (outputMsg letter).take 4, []⟩, ⟨0, [], []⟩] := by
  refine ⟨rfl, ?_, rfl, ?_⟩
  · rintro ⟨bytes, read, _, whole⟩
    cases (show some [] = some bytes from read)
    exact absurd (whole ⟨_, List.mem_cons_self, rfl⟩) (by decide)
  · rintro ⟨bytes, read, _, whole⟩
    cases (show some ((outputMsg letter).take 4) = some bytes from read)
    exact absurd (whole ⟨_, List.mem_cons_of_mem _ List.mem_cons_self, rfl⟩) (by decide)

end MadDriver.Exclusive

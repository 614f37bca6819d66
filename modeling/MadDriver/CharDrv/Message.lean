import MadDriver.Core.CInt
import MadDriver.Core.Kstrtox
import MadDriver.Core.Transition

/-! The message of char_drv: one buffer behind write, read and three ioctls. A
pointer into it is the list of the bytes from there on to its end; an access
behind the end, or before the start, has no defined effect. -/
namespace MadDriver.CharDrv
open Kernel Transition

def BUF_LEN : Nat := 80

def initialMessage : List UInt8 := List.replicate BUF_LEN 0

def pointer (message : List UInt8) (offset : Int) : List UInt8 :=
  if 0 ≤ offset then message.drop offset.toNat else []

def printk (string : List UInt8) : Outcome Unit :=
  if 0 ∈ string then .done () else .wild

/-- The count that `copy_from_user` returns is dropped; `i` is never assigned, and
returned. -/
def testWrite (i : Int32) (user : UserAccess) (message buffer : List UInt8) (bufsize : UInt64) :
    Outcome (Int64 × List UInt8) :=
  (copyFromUser user message 0 buffer bufsize).bind fun (_, message) =>
    (printk message).map fun _ => (i.toInt64, message)

def readLoop : Nat → List UInt8 → Outcome (List UInt8)
  | 0, _ => .done []
  | _ + 1, [] => .wild
  | length + 1, ch :: rest =>
    if ch = 0 then .done [] else (readLoop length rest).map (ch :: ·)

/-- Bytes put to the user stand with their distance from the user's pointer. -/
structure ReadReply where
  ret : Int64
  offset : Int64
  puts : List (UInt8 × Nat)
  deriving Repr, DecidableEq

def testRead (message : List UInt8) (length : UInt64) (offset : Int64) : Outcome ReadReply :=
  match pointer message offset.toInt with
  | [] => .wild
  | ch :: rest =>
    if ch = 0 then .done ⟨0, 0, []⟩
    else
      (readLoop length.toNat (ch :: rest)).map fun bytes =>
        ⟨.ofNat bytes.length, offset + .ofNat bytes.length, bytes.zipIdx⟩

/-- The loop of `IOCTL_SET_MSG` with `ch` the byte read last; the fuel is what is left
of BUF_LEN. -/
def measure (src : List UInt8) : Nat → Nat → UInt8 → Nat
  | 0, i, _ => i
  | left + 1, i, ch => if ch ≠ 0 then measure src left (i + 1) (getUser src i) else i

def measured (src : List UInt8) : UInt64 := .ofNat (measure src BUF_LEN 0 (getUser src 0))

def ioctlSetMsg (i : Int32) (message src : List UInt8) : Outcome (Int64 × List UInt8) :=
  (testWrite i .full message src (measured src)).map fun (_, message) => (0, message)

def ioctlGetMsg (message : List UInt8) : Outcome (Int64 × List (UInt8 × Nat)) :=
  (testRead message 99 0).map fun reply => (0, reply.puts ++ [(0, reply.ret.toInt.toNat)])

/-- A `char` is unsigned on this target. -/
def ioctlGetNthByte (message : List UInt8) (param : UInt64) : Outcome Int64 :=
  match pointer message param.toInt64.toInt with
  | [] => .wild
  | ch :: _ => .done (.ofNat ch.toNat)

inductive Op where
  | write (i : Int32) (user : UserAccess) (buffer : List UInt8) (bufsize : UInt64)
  | setMsg (i : Int32) (string : List UInt8)
  | read (length : UInt64) (offset : Int64)
  | getMsg
  | getNthByte (param : UInt64)

/-- The message after a call. A user string is followed by its NUL. -/
def perform (message : List UInt8) : Op → Outcome (List UInt8)
  | .write i user buffer bufsize => (testWrite i user message buffer bufsize).map Prod.snd
  | .setMsg i string => (ioctlSetMsg i message (string ++ [0])).map Prod.snd
  | .read length offset => (testRead message length offset).map fun _ => message
  | .getMsg => (ioctlGetMsg message).map fun _ => message
  | .getNthByte param => (ioctlGetNthByte message param).map fun _ => message

def Step (message : List UInt8) (op : Op) (message' : List UInt8) : Prop :=
  perform message op = .done message'

structure Terminated (message : List UInt8) : Prop where
  length : message.length = BUF_LEN
  nul : 0 ∈ message

/-- The calls that stay inside a terminated message and leave it terminated. -/
def Op.Safe (message : List UInt8) : Op → Prop
  | .write _ user buffer bufsize => bufsize.toNat ≤ BUF_LEN ∧
      (0 ∈ user.copied buffer bufsize.toNat ∨
        0 ∈ message.drop (user.copied buffer bufsize.toNat).length)
  | .setMsg _ string => (cString string).length < BUF_LEN
  | .read length offset => 0 ≤ offset.toInt ∧ offset.toInt < BUF_LEN ∧
      (length.toNat + offset.toInt ≤ BUF_LEN ∨ 0 ∈ message.drop offset.toInt.toNat)
  | .getMsg => True
  | .getNthByte param => param.toNat < BUF_LEN

/-- The accesses of the call stay inside the message, and it stays terminated. -/
def Bounded (message : List UInt8) (op : Op) : Prop :=
  ∃ message', perform message op = .done message' ∧ Terminated message'

theorem readLoop_eq (length : Nat) (rest : List UInt8) :
    readLoop length rest =
      if length ≤ rest.length ∨ 0 ∈ rest then .done ((cString rest).take length) else .wild := by
  induction rest generalizing length with
  | nil => cases length <;> simp [readLoop, cString]
  | cons ch rest ih =>
    cases length with
    | zero => simp [readLoop]
    | succ length =>
      rw [readLoop, cString_cons, ih]
      by_cases zero : ch = 0
      · simp [zero]
      · by_cases reached : length ≤ rest.length ∨ 0 ∈ rest
        · simp [zero, Ne.symm zero, reached, Outcome.map, Outcome.bind]
        · simp [zero, Ne.symm zero, reached, Outcome.map, Outcome.bind]

theorem measure_nul (src : List UInt8) (left i : Nat) : measure src left i 0 = i := by
  cases left <;> simp [measure]

/-- The loop counts the bytes of the string and its NUL, unless it runs out first. -/
theorem measure_eq (src : List UInt8) {ch : UInt8} (left i : Nat) (more : ch ≠ 0) :
    measure src left i ch = i + min left ((cString (src.drop i)).length + 1) := by
  induction left generalizing i ch with
  | zero => simp [measure]
  | succ left ih =>
    rw [measure, if_pos more, getUser_drop]
    by_cases last : getUser src i = 0
    · rw [last, measure_nul]
      simp
    · rw [ih (i + 1) last, if_neg last, List.length_cons]
      omega

theorem measured_string (string : List UInt8) :
    (measured (string ++ [0])).toNat =
      if cString string = [] then 0 else min BUF_LEN ((cString string).length + 1) := by
  have whole : cString (string ++ [0]) = cString string := cString_append_nul string []
  have first := getUser_drop (string ++ [0]) 0
  rw [List.drop_zero, whole] at first
  unfold measured
  by_cases empty : getUser (string ++ [0]) 0 = 0
  · rw [empty, measure_nul, first, if_pos empty, if_pos rfl]
    rfl
  · have some_left : cString string ≠ [] := by
      rw [first, if_neg empty]
      exact List.cons_ne_nil _ _
    have small : min BUF_LEN ((cString string).length + 1) < 2 ^ 64 :=
      Nat.lt_of_le_of_lt (Nat.min_le_left _ _) (by decide)
    rw [measure_eq _ _ _ empty, List.drop_zero, whole, if_neg some_left, Nat.zero_add,
      UInt64.toNat_ofNat_of_lt' small]

theorem measured_le (string : List UInt8) : (measured (string ++ [0])).toNat ≤ BUF_LEN := by
  rw [measured_string]
  split
  · exact Nat.zero_le _
  · exact Nat.min_le_left _ _

/-- What the ioctl copies: nothing of an empty string, else the string and its NUL as
far as the buffer goes. -/
theorem copied_string (string : List UInt8) :
    UserAccess.full.copied (string ++ [0]) (measured (string ++ [0])).toNat =
      if cString string = [] then []
      else if (cString string).length < BUF_LEN then cString string ++ [0]
      else (cString string).take BUF_LEN := by
  rw [UserAccess.copied_whole rfl, measured_string]
  by_cases empty : cString string = []
  · rw [if_pos empty, if_pos empty]
    rfl
  · rw [if_neg empty, if_neg empty]
    by_cases short : (cString string).length < BUF_LEN
    · rw [if_pos short, Nat.min_eq_right short, take_cString_nul]
    · rw [if_neg short, Nat.min_eq_left (by omega), take_cString _ (by omega)]

theorem initial_terminated : Terminated initialMessage where
  length := List.length_replicate
  nul := List.mem_replicate.mpr ⟨by decide, rfl⟩

def written (user : UserAccess) (message buffer : List UInt8) (bufsize : UInt64) : List UInt8 :=
  Bytes.patch message 0 (user.copied buffer bufsize.toNat)

theorem testWrite_eq {message : List UInt8} (length : message.length = BUF_LEN) (i : Int32)
    (user : UserAccess) (buffer : List UInt8) (bufsize : UInt64) :
    testWrite i user message buffer bufsize =
      if bufsize.toNat ≤ BUF_LEN ∧ 0 ∈ written user message buffer bufsize then
        .done (i.toInt64, written user message buffer bufsize)
      else .wild := by
  have zero : (0 : Int64).toInt = 0 := rfl
  have room : Inside message.length 0 bufsize ↔ bufsize.toNat ≤ BUF_LEN := by
    unfold Inside
    rw [length, zero]
    omega
  unfold testWrite copyFromUser
  by_cases fits : bufsize.toNat ≤ BUF_LEN
  · rw [if_pos (room.mpr fits)]
    change (printk (written user message buffer bufsize)).map
      (fun _ => (i.toInt64, written user message buffer bufsize)) = _
    by_cases nul : 0 ∈ written user message buffer bufsize
    · rw [printk, if_pos nul, if_pos ⟨fits, nul⟩]
      rfl
    · rw [printk, if_neg nul, if_neg (fun both => nul both.2)]
      rfl
  · rw [if_neg (fun inside => fits (room.mp inside)), if_neg (fun both => fits both.1)]
    rfl

theorem length_written {user : UserAccess} {message buffer : List UInt8} {bufsize : UInt64}
    (length : message.length = BUF_LEN) (fits : bufsize.toNat ≤ BUF_LEN) :
    (written user message buffer bufsize).length = BUF_LEN := by
  have short := user.length_copied_le buffer bufsize.toNat
  rw [written, Bytes.length_patch (by omega), length]

theorem mem_written {user : UserAccess} {message buffer : List UInt8} {bufsize : UInt64} :
    0 ∈ written user message buffer bufsize ↔
      0 ∈ user.copied buffer bufsize.toNat ∨
        0 ∈ message.drop (user.copied buffer bufsize.toNat).length := by
  simp [written, Bytes.patch]

def stored (message string : List UInt8) : List UInt8 :=
  if cString string = [] then message else Bytes.patch message 0 (cString string ++ [0])

theorem stored_terminated {message string : List UInt8} (terminated : Terminated message)
    (short : (cString string).length < BUF_LEN) : Terminated (stored message string) := by
  unfold stored
  split
  · exact terminated
  · constructor
    · rw [Bytes.length_patch, terminated.length]
      simpa [terminated.length] using Nat.succ_le_of_lt short
    · simp [Bytes.patch]

theorem written_string (message string : List UInt8) :
    written .full message (string ++ [0]) (measured (string ++ [0])) =
      if (cString string).length < BUF_LEN then stored message string
      else Bytes.patch message 0 ((cString string).take BUF_LEN) := by
  have room : 0 < BUF_LEN := by decide
  rw [written, copied_string, stored]
  by_cases empty : cString string = []
  · simp [empty, room]
  · by_cases short : (cString string).length < BUF_LEN <;> simp [empty, short]

theorem ioctlSetMsg_eq {message : List UInt8} (terminated : Terminated message) (i : Int32)
    (string : List UInt8) :
    ioctlSetMsg i message (string ++ [0]) =
      if (cString string).length < BUF_LEN then .done (0, stored message string) else .wild := by
  rw [ioctlSetMsg, testWrite_eq terminated.length, written_string]
  by_cases short : (cString string).length < BUF_LEN
  · rw [if_pos short, if_pos ⟨measured_le string, (stored_terminated terminated short).nul⟩,
      if_pos short]
    rfl
  · have filled : ((cString string).take BUF_LEN).length = BUF_LEN := by
      rw [List.length_take]
      omega
    have nulFree : 0 ∉ (cString string).take BUF_LEN :=
      fun member => cString_nulFree string (List.mem_of_mem_take member)
    have behind : message.drop BUF_LEN = [] := by simp [terminated.length]
    have nowhere : 0 ∉ Bytes.patch message 0 ((cString string).take BUF_LEN) := by
      simp [Bytes.patch, nulFree, filled, behind]
    rw [if_neg short, if_neg (fun both => nowhere both.2), if_neg short]
    rfl

theorem pointer_inside {message : List UInt8} {offset : Int} (nonneg : 0 ≤ offset) :
    pointer message offset = message.drop offset.toNat := if_pos nonneg

theorem pointer_nil_iff {message : List UInt8} {offset : Int} :
    pointer message offset = [] ↔ offset < 0 ∨ message.length ≤ offset := by
  unfold pointer
  split
  · rw [List.drop_eq_nil_iff]
    omega
  · simp
    omega

theorem testRead_eq (message : List UInt8) (length : UInt64) (offset : Int64) :
    testRead message length offset =
      match pointer message offset.toInt with
      | [] => .wild
      | ch :: rest =>
        if ch = 0 then .done ⟨0, 0, []⟩
        else if length.toNat ≤ rest.length + 1 ∨ 0 ∈ rest then
          let bytes := (cString (ch :: rest)).take length.toNat
          .done ⟨.ofNat bytes.length, offset + .ofNat bytes.length, bytes.zipIdx⟩
        else .wild := by
  unfold testRead
  split
  · rfl
  · rename_i ch rest _
    by_cases zero : ch = 0
    · simp [zero]
    · rw [if_neg zero, if_neg zero, readLoop_eq]
      by_cases reached : length.toNat ≤ rest.length + 1 ∨ 0 ∈ rest
      · simp [reached, Ne.symm zero, Outcome.map, Outcome.bind]
      · simp [reached, Ne.symm zero, Outcome.map, Outcome.bind]

theorem testRead_done_iff {message : List UInt8} {length : UInt64} {offset : Int64} :
    (∃ reply, testRead message length offset = .done reply) ↔
      0 ≤ offset.toInt ∧ offset.toInt < message.length ∧
        (length.toNat + offset.toInt ≤ message.length ∨ 0 ∈ message.drop offset.toInt.toNat) := by
  rw [testRead_eq]
  cases here : pointer message offset.toInt with
  | nil =>
    have outside := pointer_nil_iff.mp here
    simp
    omega
  | cons ch rest =>
    have inside : ¬ (offset.toInt < 0 ∨ (message.length : Int) ≤ offset.toInt) := by
      rw [← pointer_nil_iff, here]
      exact List.cons_ne_nil _ _
    have nonneg : 0 ≤ offset.toInt := by omega
    rw [pointer_inside nonneg] at here
    have rest_length : rest.length + 1 = message.length - offset.toInt.toNat := by
      rw [← List.length_drop, here, List.length_cons]
    have bound : length.toNat ≤ rest.length + 1 ↔
        length.toNat + offset.toInt ≤ message.length := by
      omega
    rw [here, List.mem_cons, ← bound]
    by_cases zero : ch = 0
    · simp [zero]
      omega
    · by_cases reached : length.toNat ≤ rest.length + 1 ∨ 0 ∈ rest
      · simp [zero, Ne.symm zero, reached]
        omega
      · simp [zero, Ne.symm zero, reached]

theorem getMsg_eq {message : List UInt8} (terminated : Terminated message) :
    ioctlGetMsg message = .done (0, (cString message ++ [0]).zipIdx) := by
  have start : pointer message (0 : Int64).toInt = message := rfl
  have room : message.length ≤ 99 := by
    rw [terminated.length]
    decide
  have short := length_cString_le message
  rw [ioctlGetMsg, testRead_eq, start]
  obtain ⟨_, nul⟩ := terminated
  cases message with
  | nil => cases nul
  | cons ch rest =>
    by_cases zero : ch = 0
    · simp [zero, cString, Outcome.map, Outcome.bind]
    · have later : 0 ∈ rest := (List.mem_cons.mp nul).resolve_left (Ne.symm zero)
      have size : (99 : UInt64).toNat = 99 := rfl
      have whole : (cString (ch :: rest)).take 99 = cString (ch :: rest) :=
        List.take_of_length_le (by omega)
      have back : (Int64.ofNat (cString (ch :: rest)).length).toInt.toNat =
          (cString (ch :: rest)).length := by
        rw [Int64.toInt_ofNat_of_lt (by omega)]
        rfl
      simp only [zero, later, size, whole, or_true, if_true, if_false]
      change Outcome.done ((0 : Int64), (cString (ch :: rest)).zipIdx ++
        [(0, (Int64.ofNat (cString (ch :: rest)).length).toInt.toNat)]) = _
      rw [back, List.zipIdx_append, Nat.zero_add]
      rfl

theorem getNthByte_eq {message : List UInt8} {param : UInt64} {ch : UInt8}
    (length : message.length = BUF_LEN) (byte : message[param.toNat]? = some ch) :
    ioctlGetNthByte message param = .done (.ofNat ch.toNat) := by
  obtain ⟨inside, rfl⟩ := List.getElem?_eq_some_iff.mp byte
  have small : param.toNat < 80 := by rwa [length] at inside
  have index : param.toInt64.toInt = param.toNat := CInt.toInt_toInt64_of_lt (by omega)
  rw [ioctlGetNthByte, index, pointer_inside (by omega), Int.toNat_natCast,
    List.drop_eq_getElem_cons inside]

theorem getNthByte_done_iff {message : List UInt8} {param : UInt64}
    (length : message.length = BUF_LEN) :
    (∃ ret, ioctlGetNthByte message param = .done ret) ↔ param.toNat < BUF_LEN := by
  constructor
  · rintro ⟨ret, done⟩
    unfold ioctlGetNthByte at done
    split at done
    · cases done
    · rename_i found
      have inside : ¬ (param.toInt64.toInt < 0 ∨ (message.length : Int) ≤ param.toInt64.toInt) := by
        rw [← pointer_nil_iff, found]
        exact List.cons_ne_nil _ _
      have bits := CInt.toInt_toInt64 param
      rw [CInt.bmod_word] at bits
      have bound := param.toNat_lt
      rw [length] at inside
      have size : BUF_LEN = 80 := rfl
      omega
  · intro small
    exact ⟨_, getNthByte_eq length (List.getElem?_eq_getElem (length.symm ▸ small))⟩

/-- The exact condition under which one call keeps to the message. -/
theorem bounded_iff {message : List UInt8} (terminated : Terminated message) (op : Op) :
    Bounded message op ↔ op.Safe message := by
  have unchanged : ∀ {α : Type} {call : Outcome α},
      (∃ message', call.map (fun _ => message) = .done message' ∧ Terminated message') ↔
        ∃ reply, call = .done reply := by
    intro α call
    simp only [Outcome.map_done]
    constructor
    · rintro ⟨_, ⟨reply, done, _⟩, _⟩
      exact ⟨reply, done⟩
    · rintro ⟨reply, done⟩
      exact ⟨message, ⟨reply, done, rfl⟩, terminated⟩
  cases op with
  | write i user buffer bufsize =>
    have nul := @mem_written user message buffer bufsize
    simp only [Bounded, perform, testWrite_eq terminated.length, Op.Safe, ← nul]
    constructor
    · rintro ⟨message', done, kept⟩
      split at done
      · rename_i both
        exact both
      · cases done
    · rintro both
      rw [if_pos both]
      exact ⟨_, rfl, length_written terminated.length both.1, both.2⟩
  | setMsg i string =>
    simp only [Bounded, perform, ioctlSetMsg_eq terminated, Op.Safe]
    constructor
    · rintro ⟨message', done, kept⟩
      split at done
      · rename_i short
        exact short
      · cases done
    · intro short
      rw [if_pos short]
      exact ⟨_, rfl, stored_terminated terminated short⟩
  | read length offset =>
    refine unchanged.trans (testRead_done_iff.trans ?_)
    rw [terminated.length, Op.Safe]
  | getMsg =>
    refine unchanged.trans ?_
    exact ⟨fun _ => trivial, fun _ => ⟨_, getMsg_eq terminated⟩⟩
  | getNthByte param => exact unchanged.trans (getNthByte_done_iff terminated.length)

theorem step_terminated {message message' : List UInt8} {op : Op}
    (terminated : Terminated message) (safe : op.Safe message) (step : Step message op message') :
    Terminated message' := by
  obtain ⟨after, done, kept⟩ := (bounded_iff terminated op).mpr safe
  cases done.symm.trans step
  exact kept

/-- In a run whose calls are all safe the message stays terminated, and exactly the
safe calls keep to it in every state. -/
theorem message_bounded {hist : List Op} {message : List UInt8}
    (run : Run (Guarded Step fun message op => op.Safe message) initialMessage hist message) :
    Terminated message ∧ ∀ op : Op, Bounded message op ↔ op.Safe message := by
  have terminated : Terminated message :=
    run_invariant Terminated initial_terminated
      (fun _ _ _ kept step => step_terminated kept step.2 step.1) run
  exact ⟨terminated, bounded_iff terminated⟩

theorem message_bounded_letters :
    Terminated (65 :: 66 :: List.replicate 78 0) ∧
      ∀ op : Op, Bounded (65 :: 66 :: List.replicate 78 0) op ↔
        op.Safe (65 :: 66 :: List.replicate 78 0) :=
  message_bounded (.snoc .start ⟨(rfl : Step initialMessage (.setMsg 0 [65, 66]) _),
    (by decide : 2 < 80)⟩)

/-- A string of 80 bytes fills the buffer, and the NUL is looked for behind it. -/
theorem full_string_unbounded : ¬ Bounded initialMessage (.setMsg 0 (List.replicate 80 65)) := by
  intro bounded
  have short : (cString (List.replicate 80 65)).length < BUF_LEN :=
    (bounded_iff initial_terminated _).mp bounded
  exact absurd short (by decide)

end MadDriver.CharDrv

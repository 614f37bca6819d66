import MadDriver.CharDrv.Message

/-! A string set through one ioctl and read back through the two others. The two
sides meet at the string the message holds. -/
namespace MadDriver.CharDrv
open Kernel

/-- The loop of `ioctl_get_nth_byte` in the test application from index i on: what it
returns and prints, if the fuel is enough. -/
def getNthByteLoop (message : List UInt8) : Nat → Nat → Option (Int64 × List UInt8)
  | 0, _ => none
  | fuel + 1, i =>
    match ioctlGetNthByte message (.ofNat i) with
    | .done c₁ =>
      if c₁ < 0 then some (c₁, [])
      else if c₁ ≠ 0 then
        (getNthByteLoop message fuel (i + 1)).map fun (ret, printed) =>
          (ret, c₁.toUInt64.toUInt8 :: printed)
      else some (0, [c₁.toUInt64.toUInt8])
    | _ => none

/-- After `IOCTL_SET_MSG` with s on top of a message, the other ioctls and the test
application give s and its NUL. -/
def Agrees (message s : List UInt8) : Prop :=
  ∃ message', (∀ i, ioctlSetMsg i message (s ++ [0]) = .done (0, message')) ∧
    ioctlGetMsg message' = .done (0, (s ++ [0]).zipIdx) ∧
    (∀ k ch, (s ++ [0])[k]? = some ch →
      ioctlGetNthByte message' (.ofNat k) = .done (.ofNat ch.toNat)) ∧
    ∃ fuel, getNthByteLoop message' fuel 0 = some (0, s ++ [0])

theorem byte_toInt (ch : UInt8) : (Int64.ofNat ch.toNat).toInt = ch.toNat := by
  have bound := ch.toNat_lt
  exact Int64.toInt_ofNat_of_lt (by omega)

theorem byte_nonneg (ch : UInt8) : ¬ Int64.ofNat ch.toNat < 0 := by
  rw [Int64.lt_iff_toInt_lt, byte_toInt]
  exact Int.not_lt.mpr (Int.natCast_nonneg _)

theorem byte_eq_zero_iff (ch : UInt8) : Int64.ofNat ch.toNat = 0 ↔ ch = 0 := by
  rw [← Int64.toInt_inj, byte_toInt, ← UInt8.toNat_inj]
  exact Int.natCast_eq_zero

theorem cString_nul_prefix {message : List UInt8} (nul : 0 ∈ message) :
    cString message ++ [0] <+: message := by
  induction message with
  | nil => cases nul
  | cons ch rest ih =>
    rw [cString_cons]
    split
    · rename_i zero
      rw [zero]
      exact ⟨rest, rfl⟩
    · rename_i nonzero
      have later : 0 ∈ rest := (List.mem_cons.mp nul).resolve_left (Ne.symm nonzero)
      exact List.cons_prefix_cons.mpr ⟨rfl, ih later⟩

theorem nthByte_string {message : List UInt8} (terminated : Terminated message) {k : Nat}
    {ch : UInt8} (byte : (cString message ++ [0])[k]? = some ch) :
    ioctlGetNthByte message (.ofNat k) = .done (.ofNat ch.toNat) := by
  obtain ⟨rest, whole⟩ := cString_nul_prefix terminated.nul
  have inside := (List.getElem?_eq_some_iff.mp byte).1
  have found : message[k]? = some ch := by
    rw [← whole, List.getElem?_append_left inside, byte]
  have small : k < message.length := (List.getElem?_eq_some_iff.mp found).1
  have index : (UInt64.ofNat k).toNat = k := by
    apply UInt64.toNat_ofNat_of_lt'
    rw [terminated.length] at small
    exact Nat.lt_trans small (by decide)
  exact getNthByte_eq terminated.length (by rwa [index])

theorem loop_prints {message : List UInt8} (left : List UInt8) (i : Nat) (nulFree : 0 ∉ left)
    (bytes : ∀ k ch, (left ++ [0])[k]? = some ch →
      ioctlGetNthByte message (.ofNat (i + k)) = .done (.ofNat ch.toNat)) :
    getNthByteLoop message (left.length + 1) i = some (0, left ++ [0]) := by
  induction left generalizing i with
  | nil =>
    have last := bytes 0 0 rfl
    rw [Nat.add_zero] at last
    rw [getNthByteLoop, last]
    rfl
  | cons ch left ih =>
    have nonzero : ch ≠ 0 := fun zero => nulFree (zero ▸ List.mem_cons_self)
    have rest_free : 0 ∉ left := fun later => nulFree (List.mem_cons_of_mem _ later)
    have first := bytes 0 ch rfl
    rw [Nat.add_zero] at first
    have rest : getNthByteLoop message (left.length + 1) (i + 1) = some (0, left ++ [0]) := by
      apply ih (i + 1) rest_free
      intro k c₁ byte
      rw [Nat.add_assoc, Nat.add_comm 1 k]
      exact bytes (k + 1) c₁ byte
    have more : Int64.ofNat ch.toNat ≠ 0 := fun zero => nonzero ((byte_eq_zero_iff ch).mp zero)
    rw [List.length_cons, getNthByteLoop, first]
    simp [byte_nonneg, more, rest]

theorem readers_agree_iff {message s : List UInt8} (terminated : Terminated message)
    (nulFree : 0 ∉ s) :
    (ioctlGetMsg message = .done (0, (s ++ [0]).zipIdx) ∧
      (∀ k ch, (s ++ [0])[k]? = some ch →
        ioctlGetNthByte message (.ofNat k) = .done (.ofNat ch.toNat)) ∧
      ∃ fuel, getNthByteLoop message fuel 0 = some (0, s ++ [0])) ↔ cString message = s := by
  constructor
  · rintro ⟨get, _⟩
    rw [getMsg_eq terminated] at get
    have stores := congrArg (List.map Prod.fst) (Prod.mk.inj (Outcome.done.inj get)).2
    rw [List.zipIdx_map_fst, List.zipIdx_map_fst] at stores
    exact List.append_cancel_right stores
  · rintro rfl
    have bytes : ∀ k ch, (cString message ++ [0])[k]? = some ch →
        ioctlGetNthByte message (.ofNat k) = .done (.ofNat ch.toNat) :=
      fun k ch byte => nthByte_string terminated byte
    refine ⟨getMsg_eq terminated, bytes, (cString message).length + 1, ?_⟩
    apply loop_prints _ _ nulFree
    intro k ch byte
    rw [Nat.zero_add]
    exact bytes k ch byte

theorem cString_stored {message s : List UInt8} (nulFree : 0 ∉ s) :
    cString (stored message s) = if s = [] then cString message else s := by
  have same := cString_of_nulFree nulFree
  rw [stored, same]
  split
  · rfl
  · rw [Bytes.patch, List.take_zero, List.nil_append, List.append_assoc, List.singleton_append,
      cString_append_nul, same]

theorem cString_nil_iff {message : List UInt8} (terminated : Terminated message) :
    cString message = [] ↔ message.head? = some 0 := by
  cases message with
  | nil => cases terminated.nul
  | cons ch rest =>
    rw [cString_cons]
    split
    · rename_i zero
      simp [zero]
    · rename_i nonzero
      simpa using nonzero

/-- The ioctls agree about every string but the empty one, and about that one exactly
when there was no message before. -/
theorem set_get_agree_iff {message s : List UInt8} (terminated : Terminated message)
    (nulFree : 0 ∉ s) (short : s.length < BUF_LEN) :
    Agrees message s ↔ s ≠ [] ∨ message.head? = some 0 := by
  have fits : (cString s).length < BUF_LEN := by rwa [cString_of_nulFree nulFree]
  have set : ∀ i, ioctlSetMsg i message (s ++ [0]) = .done (0, stored message s) := by
    intro i
    rw [ioctlSetMsg_eq terminated, if_pos fits]
  have after : Agrees message s ↔ cString (stored message s) = s := by
    rw [← readers_agree_iff (stored_terminated terminated fits) nulFree]
    constructor
    · rintro ⟨message', done, readers⟩
      cases (done 0).symm.trans (set 0)
      exact readers
    · intro readers
      exact ⟨stored message s, set, readers⟩
  rw [after, cString_stored nulFree, ← cString_nil_iff terminated]
  by_cases empty : s = []
  · simp [empty]
  · simp [empty]

theorem set_get_agree_letters : Agrees initialMessage [65, 66] ↔
    ([65, 66] : List UInt8) ≠ [] ∨ initialMessage.head? = some 0 :=
  set_get_agree_iff initial_terminated (by decide) (by decide)

/-- The empty string on top of a letter leaves the letter. -/
theorem empty_string_keeps_message : Terminated (65 :: List.replicate 79 0) ∧
    ¬ Agrees (65 :: List.replicate 79 0) [] := by
  have terminated : Terminated (65 :: List.replicate 79 0) := ⟨rfl, by decide⟩
  refine ⟨terminated, ?_⟩
  rintro ⟨message', set, get, _⟩
  have kept : ioctlSetMsg 0 (65 :: List.replicate 79 0) ([] ++ [0]) =
      .done (0, 65 :: List.replicate 79 0) := rfl
  cases (set 0).symm.trans kept
  exact absurd get (by decide)

end MadDriver.CharDrv

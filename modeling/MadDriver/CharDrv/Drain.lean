import MadDriver.CharDrv.RoundTrip

/-! The message read in pieces, until a call returns 0. What is read is the string the
message holds, in whatever pieces; a write puts its bytes before what stood there, so
they are that string only where the old message ends with them. -/
namespace MadDriver.CharDrv
open Kernel

abbrev Length := { length : UInt64 // 0 < length.toNat }

/-- The bytes returned before the call that returned 0, the number of calls before it, and
the offset it left. -/
structure Drained where
  bytes : List UInt8
  reads : Nat
  offset : Int64

/-- `test_read` with the lengths of a sequence until it returns 0. None when a call
reads outside the message or does not fill the bytes it returns, or after `fuel` calls. -/
def drain (message : List UInt8) : Nat → (Nat → Length) → Int64 → Option Drained
  | 0, _, _ => none
  | fuel + 1, lengths, offset =>
    match testRead message (lengths 0).val offset with
    | .done reply =>
      if reply.ret = 0 then some ⟨[], 0, reply.offset⟩
      else do
        let bytes ← returned reply.ret reply.puts
        let rest ← drain message fuel (fun n => lengths (n + 1)) reply.offset
        some ⟨bytes ++ rest.bytes, rest.reads + 1, rest.offset⟩
    | .blocks | .wild => none

def FirstNul (message : List UInt8) (l : Nat) : Prop :=
  message[l]? = some 0 ∧ ∀ k < l, message[k]? ≠ some 0

theorem cString_first {message : List UInt8} {l : Nat} (first : FirstNul message l) :
    0 ∈ message ∧ cString message = message.take l := by
  obtain ⟨nul, before⟩ := first
  obtain ⟨inside, value⟩ := List.getElem?_eq_some_iff.mp nul
  have nulFree : 0 ∉ message.take l := by
    intro member
    obtain ⟨k, small, zero⟩ := List.mem_iff_getElem.mp member
    rw [List.length_take] at small
    rw [List.getElem_take] at zero
    exact before k (by omega) (by rw [← zero, List.getElem?_eq_getElem])
  have whole : message = message.take l ++ 0 :: message.drop (l + 1) := by
    rw [← value, List.getElem_cons_drop, List.take_append_drop]
  refine ⟨value ▸ List.getElem_mem inside, ?_⟩
  conv_lhs => rw [whole]
  rw [cString_append_nul, cString_of_nulFree nulFree]

theorem drop_message {message : List UInt8} (terminated : Terminated message) {k : Nat}
    (within : k ≤ (cString message).length) :
    ∃ rest, message.drop k = (cString message).drop k ++ 0 :: rest := by
  obtain ⟨rest, whole⟩ := cString_nul_prefix terminated.nul
  refine ⟨rest, ?_⟩
  conv_lhs => rw [← whole]
  rw [List.append_assoc, List.drop_append_of_le_length within]
  rfl

theorem toInt_offset {message : List UInt8} (terminated : Terminated message) {k : Nat}
    (within : k ≤ (cString message).length) : (Int64.ofNat k).toInt = k := by
  have short := length_cString_le message
  have size := terminated.length
  have bound : BUF_LEN = 80 := rfl
  exact Int64.toInt_ofNat_of_lt (by omega)

theorem cString_append {w : List UInt8} (nulFree : 0 ∉ w) (rest : List UInt8) :
    cString (w ++ rest) = w ++ cString rest := by
  induction w with
  | nil => rfl
  | cons ch w ih =>
    have nonzero : ch ≠ 0 := fun zero => nulFree (zero ▸ List.mem_cons_self)
    have later : 0 ∉ w := fun member => nulFree (List.mem_cons_of_mem _ member)
    rw [List.cons_append, cString_cons, if_neg nonzero, ih later, List.cons_append]

section Reads

variable {message : List UInt8} {k fuel : Nat} {lengths : Nat → Length} {d : Drained}

theorem read_end (terminated : Terminated message) (length : UInt64) :
    testRead message length (.ofNat (cString message).length) = .done ⟨0, 0, []⟩ := by
  obtain ⟨rest, here⟩ := drop_message terminated (Nat.le_refl _)
  rw [List.drop_length, List.nil_append] at here
  have offset := toInt_offset terminated (Nat.le_refl _)
  rw [testRead_eq, offset, pointer_inside (Int.natCast_nonneg _), Int.toNat_natCast, here]
  rfl

theorem read_inside (terminated : Terminated message) (within : k < (cString message).length)
    (length : UInt64) {bytes : List UInt8}
    (next : bytes = ((cString message).drop k).take length.toNat) :
    testRead message length (.ofNat k) =
      .done ⟨.ofNat bytes.length, .ofNat (k + bytes.length), bytes.zipIdx⟩ := by
  obtain ⟨rest, here⟩ := drop_message terminated (Nat.le_of_lt within)
  have offset := toInt_offset terminated (Nat.le_of_lt within)
  have nulFree : 0 ∉ (cString message).drop k :=
    fun member => cString_nulFree message (List.mem_of_mem_drop member)
  have left : 0 < ((cString message).drop k).length := by
    rw [List.length_drop]
    omega
  obtain ⟨ch, text, split⟩ := List.exists_cons_of_length_pos left
  rw [split] at here nulFree
  have nonzero : ch ≠ 0 := fun zero => nulFree (zero ▸ List.mem_cons_self)
  have string : cString (ch :: (text ++ 0 :: rest)) = ch :: text := by
    rw [← List.cons_append, cString_append_nul, cString_of_nulFree nulFree]
  rw [testRead_eq, offset, pointer_inside (Int.natCast_nonneg _), Int.toNat_natCast, here, next,
    split, List.cons_append]
  simp [nonzero, string, Int64.ofNat_add]

theorem drain_step (terminated : Terminated message) (within : k < (cString message).length)
    (fuel : Nat) (lengths : Nat → Length) :
    ∃ bytes, bytes = ((cString message).drop k).take (lengths 0).val.toNat ∧ 0 < bytes.length ∧
      k + bytes.length ≤ (cString message).length ∧
      drain message (fuel + 1) lengths (.ofNat k) =
        (drain message fuel (fun n => lengths (n + 1)) (.ofNat (k + bytes.length))).bind fun rest =>
          some ⟨bytes ++ rest.bytes, rest.reads + 1, rest.offset⟩ := by
  have positive := (lengths 0).property
  have taken : (((cString message).drop k).take (lengths 0).val.toNat).length =
      min (lengths 0).val.toNat ((cString message).length - k) := by
    rw [List.length_take, List.length_drop]
  have short := length_cString_le message
  have size := terminated.length
  have bound : BUF_LEN = 80 := rfl
  refine ⟨_, rfl, by omega, by omega, ?_⟩
  have nonzero :
      Int64.ofNat (((cString message).drop k).take (lengths 0).val.toNat).length ≠ 0 := by
    intro zero
    have value := congrArg Int64.toInt zero
    rw [Int64.toInt_ofNat_of_lt (by omega)] at value
    change _ = (0 : Int) at value
    omega
  have whole := @returned_zipIdx (((cString message).drop k).take (lengths 0).val.toNat) (by omega)
  rw [drain, read_inside terminated within _ rfl]
  simp only [if_neg nonzero, whole]
  rfl

theorem drain_string (terminated : Terminated message) (within : k ≤ (cString message).length)
    (done : drain message fuel lengths (.ofNat k) = some d) :
    d.bytes = (cString message).drop k ∧ d.reads ≤ (cString message).length - k ∧
      d.offset = 0 := by
  induction fuel generalizing k lengths d with
  | zero => cases done
  | succ fuel ih =>
    rcases Nat.eq_or_lt_of_le within with rfl | inside
    · rw [drain, read_end terminated] at done
      cases done
      simp
    · obtain ⟨bytes, next, some_read, later, step⟩ := drain_step terminated inside fuel lengths
      rw [step] at done
      obtain ⟨rest, drained, same⟩ := Option.bind_eq_some_iff.mp done
      cases Option.some.inj same
      obtain ⟨text, reads, offset⟩ := ih later drained
      refine ⟨?_, ?_, offset⟩
      · obtain ⟨more, split⟩ : bytes <+: (cString message).drop k := next ▸ List.take_prefix _ _
        change bytes ++ rest.bytes = _
        rw [text, ← List.drop_drop, ← split, List.drop_left]
      · change rest.reads + 1 ≤ _
        omega

theorem drain_ends (terminated : Terminated message) (within : k ≤ (cString message).length)
    (enough : (cString message).length - k < fuel) (lengths : Nat → Length) :
    ∃ d, drain message fuel lengths (.ofNat k) = some d := by
  induction fuel generalizing k lengths with
  | zero => omega
  | succ fuel ih =>
    rcases Nat.eq_or_lt_of_le within with rfl | inside
    · exact ⟨_, by rw [drain, read_end terminated]; rfl⟩
    · obtain ⟨bytes, _, some_read, later, step⟩ := drain_step terminated inside fuel lengths
      obtain ⟨rest, drained⟩ := ih later (by omega) fun n => lengths (n + 1)
      rw [step, drained]
      exact ⟨_, rfl⟩

end Reads

/-- Any message, and any positive lengths, in the first drain and in the next one. -/
theorem drain_pieces {message : List UInt8} (size : message.length = BUF_LEN) {l : Nat}
    (first : FirstNul message l) (lengths lengths' : Nat → Length) :
    ∃ d, drain message (l + 1) lengths 0 = some d ∧ d.bytes = message.take l ∧ d.reads ≤ l ∧
      d.offset = 0 ∧
      ∃ d', drain message (l + 1) lengths' d.offset = some d' ∧ d'.bytes = d.bytes := by
  obtain ⟨nul, string⟩ := cString_first first
  have terminated : Terminated message := ⟨size, nul⟩
  have inside := (List.getElem?_eq_some_iff.mp first.1).1
  have length : (cString message).length = l := by
    rw [string, List.length_take]
    omega
  have enough : (cString message).length - 0 < l + 1 := by omega
  obtain ⟨d, drained⟩ := drain_ends terminated (Nat.zero_le _) enough lengths
  obtain ⟨d', drained'⟩ := drain_ends terminated (Nat.zero_le _) enough lengths'
  obtain ⟨bytes, reads, offset⟩ := drain_string terminated (Nat.zero_le _) drained
  obtain ⟨bytes', _, _⟩ := drain_string terminated (Nat.zero_le _) drained'
  refine ⟨d, drained, bytes.trans string, by omega, offset, d', ?_, bytes'.trans bytes.symm⟩
  rw [offset]
  exact drained'

/-- The message "AB", read a byte at a time, and then at once. -/
theorem drain_pieces_letters :
    ∃ d, drain (65 :: 66 :: List.replicate 78 0) 3 (fun _ => ⟨1, by decide⟩) 0 = some d ∧
      d.bytes = [65, 66] ∧ d.reads ≤ 2 ∧ d.offset = 0 ∧
      ∃ d', drain (65 :: 66 :: List.replicate 78 0) 3 (fun _ => ⟨99, by decide⟩) d.offset =
        some d' ∧ d'.bytes = d.bytes :=
  drain_pieces rfl ⟨rfl, by decide⟩ _ _

/-- A write of w is answered with its length, and w is read back, in any pieces. -/
def ReadsBack (i : Int32) (message w : List UInt8) : Prop :=
  ∃ message', testWrite i .full message w (.ofNat w.length) = .done (.ofNat w.length, message') ∧
    ∀ lengths, ∃ fuel d, drain message' fuel lengths 0 = some d ∧ d.bytes = w

theorem testWrite_bytes {message w : List UInt8} (size : message.length = BUF_LEN)
    (short : w.length < BUF_LEN) (i : Int32) :
    testWrite i .full message w (.ofNat w.length) =
      if 0 ∈ w ++ message.drop w.length then .done (i.toInt64, w ++ message.drop w.length)
      else .wild := by
  have count : (UInt64.ofNat w.length).toNat = w.length :=
    UInt64.toNat_ofNat_of_lt' (Nat.lt_trans short (by decide))
  have after : written .full message w (.ofNat w.length) = w ++ message.drop w.length := by
    simp [written, UserAccess.copied, UserAccess.moved, UserAccess.cleared, count, Bytes.patch]
  rw [testWrite_eq size, after, count]
  simp [Nat.le_of_lt short]

theorem drop_string_nil_iff {message : List UInt8} {l : Nat} (inside : l < message.length) :
    cString (message.drop l) = [] ↔ message[l]? = some 0 := by
  rw [List.drop_eq_getElem_cons inside, cString_cons, List.getElem?_eq_getElem inside]
  by_cases zero : message[l] = 0 <;> simp [zero]

/-- The uninitialised `i` and the old message have to fit: the one holds the length of
the write, and the other ends where the write does. -/
theorem reads_back_iff {message : List UInt8} (size : message.length = BUF_LEN) (i : Int32)
    (w : List UInt8) (nulFree : 0 ∉ w) (short : w.length < BUF_LEN) :
    ReadsBack i message w ↔ i.toInt = w.length ∧ message[w.length]? = some 0 := by
  have bound : BUF_LEN = 80 := rfl
  have inside : w.length < message.length := by omega
  have value : (Int64.ofNat w.length).toInt = w.length := Int64.toInt_ofNat_of_lt (by omega)
  have length : (w ++ message.drop w.length).length = BUF_LEN := by simp; omega
  have string := cString_append nulFree (message.drop w.length)
  rw [← drop_string_nil_iff inside]
  constructor
  · rintro ⟨message', done, reads⟩
    rw [testWrite_bytes size short] at done
    split at done
    · rename_i nul
      obtain ⟨returned, rfl⟩ := Prod.mk.inj (Outcome.done.inj done)
      obtain ⟨fuel, d, drained, bytes⟩ := reads fun _ => ⟨1, by decide⟩
      obtain ⟨text, _⟩ := drain_string ⟨length, nul⟩ (Nat.zero_le _) drained
      rw [bytes, List.drop_zero, string] at text
      refine ⟨?_, List.self_eq_append_right.mp text⟩
      rw [← Int32.toInt_toInt64, returned, value]
    · cases done
  · rintro ⟨returned, ends⟩
    have nul : 0 ∈ w ++ message.drop w.length := by
      have zero := (drop_string_nil_iff inside).mp ends
      rw [List.drop_eq_getElem_cons inside, (List.getElem?_eq_some_iff.mp zero).2]
      simp
    have same : i.toInt64 = .ofNat w.length := by
      rw [← Int64.toInt_inj, Int32.toInt_toInt64, returned, value]
    refine ⟨w ++ message.drop w.length, ?_, fun lengths => ?_⟩
    · rw [testWrite_bytes size short, if_pos nul, same]
    · obtain ⟨d, drained⟩ :=
        drain_ends ⟨length, nul⟩ (Nat.zero_le _) (Nat.lt_succ_self _) lengths
      obtain ⟨text, _⟩ := drain_string ⟨length, nul⟩ (Nat.zero_le _) drained
      refine ⟨_, d, drained, ?_⟩
      rw [text, List.drop_zero, string, ends, List.append_nil]

theorem reads_back_letter : ReadsBack 1 (65 :: List.replicate 79 0) [66] ↔
    (1 : Int32).toInt = ([66] : List UInt8).length ∧
      (65 :: List.replicate 79 0 : List UInt8)[([66] : List UInt8).length]? = some 0 :=
  reads_back_iff rfl 1 [66] (by decide) (by decide)

/-- "B" over "AC" reads back as "BC", whatever the write returns. -/
theorem longer_message_shows :
    testWrite 1 .full (65 :: 67 :: List.replicate 78 0) [66] 1 =
      .done (1, 66 :: 67 :: List.replicate 78 0) ∧
    (drain (66 :: 67 :: List.replicate 78 0) 3 (fun _ => ⟨99, by decide⟩) 0).map
      Drained.bytes = some [66, 67] ∧
    ∀ i, ¬ ReadsBack i (65 :: 67 :: List.replicate 78 0) [66] := by
  refine ⟨rfl, rfl, fun i back => ?_⟩
  obtain ⟨message', done, reads⟩ := back
  have write : testWrite i .full (65 :: 67 :: List.replicate 78 0) [66] (.ofNat 1) =
      .done (i.toInt64, 66 :: 67 :: List.replicate 78 0) := rfl
  obtain ⟨_, rfl⟩ := Prod.mk.inj (Outcome.done.inj (write.symm.trans done))
  obtain ⟨fuel, d, drained, bytes⟩ := reads fun _ => ⟨1, by decide⟩
  have terminated : Terminated (66 :: 67 :: List.replicate 78 0) := ⟨rfl, by decide⟩
  obtain ⟨text, _⟩ := drain_string terminated (Nat.zero_le _) drained
  exact absurd (bytes.symm.trans text) (by decide)

end MadDriver.CharDrv

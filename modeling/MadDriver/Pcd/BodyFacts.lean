import MadDriver.Core.CInt
import MadDriver.Pcd.Body

/-! What the bodies do from a position inside a device whose buffer has at least
`max_size` bytes: one statement per body, and nothing below unfolds a body again. -/
namespace MadDriver.Pcd
open Kernel

structure Placed (maxSize : Int32) (buffer : List UInt8) (fPos : Int64) : Prop where
  nonneg : 0 ≤ fPos.toInt
  within : fPos.toInt ≤ maxSize.toInt
  room : maxSize.toInt ≤ buffer.length

def span (maxSize : Int32) (fPos : Int64) (count : UInt64) : Nat :=
  min count.toNat (maxSize.toInt - fPos.toInt).toNat

/-- The clamp in integers: both sums are taken modulo 2^64. -/
theorem adjustCount_value (maxSize : Int32) (fPos : Int64) (count : UInt64) :
    ((adjustCount maxSize fPos count).toNat : Int) =
      if maxSize.toInt % 2 ^ 64 < (fPos.toInt + count.toNat) % 2 ^ 64
      then (maxSize.toInt - fPos.toInt) % 2 ^ 64 else (count.toNat : Int) := by
  have pos := CInt.toNat_toUInt64 fPos
  have size := CInt.toNat_toUInt64 maxSize.toInt64
  have left := CInt.toNat_toUInt64 (maxSize.toInt64 - fPos)
  rw [CInt.toInt_sub] at left
  rw [Int32.toInt_toInt64] at size left
  have sum := UInt64.toNat_add fPos.toUInt64 count
  have exceeds : fPos.toUInt64 + count > maxSize.toInt64.toUInt64 ↔
      maxSize.toInt % 2 ^ 64 < (fPos.toInt + count.toNat) % 2 ^ 64 := by
    rw [gt_iff_lt, UInt64.lt_iff_toNat_lt]
    omega
  unfold adjustCount
  simp only [exceeds]
  split <;> omega

theorem adjustCount_span {maxSize : Int32} {fPos : Int64} {count : UInt64}
    (nonneg : 0 ≤ fPos.toInt) (within : fPos.toInt ≤ maxSize.toInt)
    (small : count.toNat < 2 ^ 63) :
    (adjustCount maxSize fPos count).toNat = span maxSize fPos count := by
  have bound := maxSize.toInt_lt
  rw [← Int.natCast_inj, adjustCount_value, span]
  split <;> omega

theorem span_end {maxSize : Int32} {fPos : Int64} (count : UInt64)
    (within : fPos.toInt ≤ maxSize.toInt) :
    fPos.toInt + span maxSize fPos count ≤ maxSize.toInt := by
  unfold span
  omega

theorem span_position {maxSize : Int32} {buffer : List UInt8} {fPos fPos' : Int64}
    {count : UInt64} {n : Nat} (placed : Placed maxSize buffer fPos)
    (len : n = span maxSize fPos count) (moved : fPos'.toInt = fPos.toInt + n) :
    0 ≤ fPos'.toInt ∧ fPos'.toInt ≤ maxSize.toInt := by
  have start := placed.nonneg
  have stop := span_end count placed.within
  omega

theorem span_inside {maxSize : Int32} {buffer : List UInt8} {fPos : Int64} {count n : UInt64}
    (placed : Placed maxSize buffer fPos) (len : n.toNat = span maxSize fPos count) :
    Inside buffer.length fPos n := by
  have stop := span_end count placed.within
  have room := placed.room
  exact .inr ⟨placed.nonneg, by omega⟩

theorem advance {maxSize : Int32} {fPos : Int64} {count n : UInt64} (nonneg : 0 ≤ fPos.toInt)
    (within : fPos.toInt ≤ maxSize.toInt) (len : n.toNat = span maxSize fPos count) :
    n.toInt64.toInt = n.toNat ∧ (fPos + n.toInt64).toInt = fPos.toInt + n.toNat := by
  have bound := maxSize.toInt_lt
  have stop := span_end count within
  have value : n.toInt64.toInt = n.toNat := CInt.toInt_toInt64_of_lt (by omega)
  refine ⟨value, ?_⟩
  rw [CInt.toInt_add, value]
  omega

structure Reads (maxSize : Int32) (buffer : List UInt8) (user : UserAccess) (count : UInt64)
    (fPos : Int64) (r : ReadResult) : Prop where
  out : r.out = Bytes.slice buffer fPos.toInt.toNat (user.moved (span maxSize fPos count))
  ends : (user.moved (span maxSize fPos count) = span maxSize fPos count ∧
      r.ret.toInt = span maxSize fPos count ∧
      r.fPos.toInt = fPos.toInt + span maxSize fPos count) ∨
    (user.moved (span maxSize fPos count) < span maxSize fPos count ∧
      r.ret = -EFAULT ∧ r.fPos = fPos)

theorem readBody_reads {maxSize : Int32} {buffer : List UInt8} {fPos : Int64} {count : UInt64}
    (user : UserAccess) (placed : Placed maxSize buffer fPos) (small : count.toNat < 2 ^ 63) :
    ∃ r, readBody maxSize buffer user count fPos = .done r ∧
      Reads maxSize buffer user count fPos r := by
  have len := adjustCount_span placed.nonneg placed.within small
  have exact_move := advance placed.nonneg placed.within len
  have le := user.moved_le (span maxSize fPos count)
  simp only [readBody, copyToUser, if_pos (span_inside placed len), Outcome.map, Outcome.bind, len]
  split
  · rename_i short
    exact ⟨_, rfl, rfl, .inr ⟨by omega, rfl, rfl⟩⟩
  · rename_i whole
    refine ⟨_, rfl, rfl, .inl ⟨by omega, ?_, ?_⟩⟩
    · rw [exact_move.1, len]
    · rw [exact_move.2, len]

theorem reads_answer {maxSize : Int32} {buffer other : List UInt8} {fPos : Int64}
    {count : UInt64} {user : UserAccess} {r s : ReadResult}
    (reads : Reads maxSize buffer user count fPos r)
    (reads' : Reads maxSize other user count fPos s) : s.ret = r.ret ∧ s.fPos = r.fPos := by
  rcases reads.ends with ⟨whole, ret, fPos⟩ | ⟨short, ret, fPos⟩
  · rcases reads'.ends with ⟨_, ret', fPos'⟩ | ⟨short, _, _⟩
    · exact ⟨Int64.toInt_inj.mp (ret'.trans ret.symm), Int64.toInt_inj.mp (fPos'.trans fPos.symm)⟩
    · omega
  · rcases reads'.ends with ⟨whole, _, _⟩ | ⟨_, ret', fPos'⟩
    · omega
    · exact ⟨ret'.trans ret.symm, fPos'.trans fPos.symm⟩

theorem reads_within {maxSize : Int32} {buffer : List UInt8} {fPos : Int64} {count : UInt64}
    {user : UserAccess} {r : ReadResult} (placed : Placed maxSize buffer fPos)
    (reads : Reads maxSize buffer user count fPos r) :
    0 ≤ r.fPos.toInt ∧ r.fPos.toInt ≤ maxSize.toInt := by
  rcases reads.ends with ⟨_, _, moved⟩ | ⟨_, _, kept⟩
  · exact span_position placed rfl moved
  · rw [kept]
    exact ⟨placed.nonneg, placed.within⟩

inductive Writes (maxSize : Int32) (buffer : List UInt8) (user : UserAccess)
    (buff : List UInt8) (count : UInt64) (fPos : Int64) (r : WriteResult) : Prop where
  | noSpace : span maxSize fPos count = 0 → r = ⟨-ENOMEM, buffer, fPos⟩ →
      Writes maxSize buffer user buff count fPos r
  | stored : 0 < span maxSize fPos count →
      user.moved (span maxSize fPos count) = span maxSize fPos count →
      r.ret.toInt = span maxSize fPos count →
      r.buffer = Bytes.patch buffer fPos.toInt.toNat (buff.take (span maxSize fPos count)) →
      r.fPos.toInt = fPos.toInt + span maxSize fPos count →
      Writes maxSize buffer user buff count fPos r
  | faulted : user.moved (span maxSize fPos count) < span maxSize fPos count →
      r = ⟨-EFAULT, Bytes.patch buffer fPos.toInt.toNat
        (user.copied buff (span maxSize fPos count)), fPos⟩ →
      Writes maxSize buffer user buff count fPos r

theorem writeBody_writes {maxSize : Int32} {buffer : List UInt8} {fPos : Int64}
    {count : UInt64} (buff : List UInt8) (user : UserAccess) (placed : Placed maxSize buffer fPos)
    (small : count.toNat < 2 ^ 63) :
    ∃ r, writeBody maxSize buffer user buff count fPos = .done r ∧
      Writes maxSize buffer user buff count fPos r := by
  have len := adjustCount_span placed.nonneg placed.within small
  have exact_move := advance placed.nonneg placed.within len
  have le := user.moved_le (span maxSize fPos count)
  unfold writeBody
  by_cases none_left : adjustCount maxSize fPos count = 0
  · have zero : span maxSize fPos count = 0 := by rw [← len, none_left]; rfl
    simp only [if_pos none_left]
    exact ⟨_, rfl, .noSpace zero rfl⟩
  · have some_left : 0 < span maxSize fPos count := by
      rw [← len]
      exact Nat.pos_of_ne_zero fun zero => none_left (UInt64.toNat_inj.mp zero)
    simp only [if_neg none_left, copyFromUser, if_pos (span_inside placed len), Outcome.map,
      Outcome.bind, len]
    split
    · rename_i short
      exact ⟨_, rfl, .faulted (by omega) rfl⟩
    · rename_i whole
      have moved : user.moved (span maxSize fPos count) = span maxSize fPos count := by omega
      refine ⟨_, rfl, .stored some_left moved ?_ ?_ ?_⟩
      · rw [exact_move.1, len]
      · rw [UserAccess.copied_whole moved]
      · rw [exact_move.2, len]

theorem writes_buffer {maxSize : Int32} {buffer buff : List UInt8} {fPos : Int64}
    {count : UInt64} {user : UserAccess} {r : WriteResult}
    (writes : Writes maxSize buffer user buff count fPos r) :
    r.buffer = Bytes.patch buffer fPos.toInt.toNat
      (user.copied buff (span maxSize fPos count)) := by
  cases writes with
  | noSpace full result =>
    have moved : user.moved 0 = 0 := Nat.le_zero.mp (user.moved_le 0)
    rw [result, full, UserAccess.copied_whole moved, List.take_zero, Bytes.patch_nil]
  | stored _ whole _ result _ => rw [result, UserAccess.copied_whole whole]
  | faulted _ result => rw [result]

theorem writes_length {maxSize : Int32} {buffer buff : List UInt8} {fPos : Int64}
    {count : UInt64} {user : UserAccess} {r : WriteResult} (placed : Placed maxSize buffer fPos)
    (writes : Writes maxSize buffer user buff count fPos r) : r.buffer.length = buffer.length := by
  have stop := span_end count placed.within
  have start := placed.nonneg
  have room := placed.room
  cases writes with
  | noSpace _ result => rw [result]
  | stored _ _ _ result _ =>
    rw [result, Bytes.length_patch]
    simp only [List.length_take]
    omega
  | faulted _ result =>
    have short := user.length_copied_le buff (span maxSize fPos count)
    rw [result, Bytes.length_patch]
    omega

theorem writes_within {maxSize : Int32} {buffer buff : List UInt8} {fPos : Int64}
    {count : UInt64} {user : UserAccess} {r : WriteResult} (placed : Placed maxSize buffer fPos)
    (writes : Writes maxSize buffer user buff count fPos r) :
    0 ≤ r.fPos.toInt ∧ r.fPos.toInt ≤ maxSize.toInt := by
  cases writes with
  | noSpace _ result | faulted _ result =>
    rw [result]
    exact ⟨placed.nonneg, placed.within⟩
  | stored _ _ _ _ moved => exact span_position placed rfl moved

theorem writes_answer {maxSize : Int32} {buffer other buff : List UInt8} {fPos : Int64}
    {count : UInt64} {user : UserAccess} {r s : WriteResult}
    (writes : Writes maxSize buffer user buff count fPos r)
    (writes' : Writes maxSize other user buff count fPos s) : s.ret = r.ret ∧ s.fPos = r.fPos := by
  cases writes with
  | noSpace full result =>
    cases writes' with
    | noSpace _ result' => rw [result, result']; exact ⟨rfl, rfl⟩
    | stored some_left _ _ _ _ => omega
    | faulted partly _ => omega
  | stored some_left whole ret _ fPos =>
    cases writes' with
    | noSpace full _ => omega
    | stored _ _ ret' _ fPos' =>
      exact ⟨Int64.toInt_inj.mp (ret'.trans ret.symm), Int64.toInt_inj.mp (fPos'.trans fPos.symm)⟩
    | faulted partly _ => omega
  | faulted partly result =>
    cases writes' with
    | noSpace full _ => omega
    | stored _ whole _ _ _ => omega
    | faulted _ result' => rw [result, result']; exact ⟨rfl, rfl⟩

/-- Behind the end the difference has wrapped. -/
theorem adjustCount_beyond {maxSize : Int32} {fPos : Int64} {count : UInt64}
    (nonneg : 0 ≤ maxSize.toInt) (small : count.toNat < 2 ^ 63)
    (beyond : maxSize.toInt < fPos.toInt) :
    ((adjustCount maxSize fPos count).toNat : Int) = 2 ^ 64 - (fPos.toInt - maxSize.toInt) := by
  have bound := fPos.toInt_lt
  rw [adjustCount_value, if_pos (by omega)]
  omega

theorem inside_within {maxSize : Int32} {length : Nat} {fPos : Int64} {count : UInt64}
    (nonneg : 0 ≤ fPos.toInt) (small : count.toNat < 2 ^ 63) (tight : maxSize.toInt = length)
    (inside : Inside length fPos (adjustCount maxSize fPos count)) :
    fPos.toInt ≤ maxSize.toInt := by
  refine Int.not_lt.mp fun behind => ?_
  have bound := fPos.toInt_lt
  have wrapped := adjustCount_beyond (by omega) small behind
  rcases inside with none_moved | ⟨_, stop⟩ <;> omega

theorem readBody_placed {maxSize : Int32} {buffer : List UInt8} {user : UserAccess}
    {count : UInt64} {fPos : Int64} {r : ReadResult} (nonneg : 0 ≤ fPos.toInt)
    (small : count.toNat < 2 ^ 63) (tight : maxSize.toInt = buffer.length)
    (done : readBody maxSize buffer user count fPos = .done r) : Placed maxSize buffer fPos := by
  refine ⟨nonneg, ?_, by omega⟩
  apply inside_within nonneg small tight
  obtain ⟨_, copied, _⟩ := Outcome.map_done.mp done
  unfold copyToUser at copied
  split at copied
  · assumption
  · cases copied

theorem writeBody_placed {maxSize : Int32} {buffer buff : List UInt8} {user : UserAccess}
    {count : UInt64} {fPos : Int64} {r : WriteResult} (nonneg : 0 ≤ fPos.toInt)
    (small : count.toNat < 2 ^ 63) (tight : maxSize.toInt = buffer.length)
    (done : writeBody maxSize buffer user buff count fPos = .done r) :
    Placed maxSize buffer fPos := by
  refine ⟨nonneg, ?_, by omega⟩
  apply inside_within nonneg small tight
  unfold writeBody at done
  simp only at done
  split at done
  · rename_i none_left
    rw [none_left]
    exact .inl rfl
  · obtain ⟨_, copied, _⟩ := Outcome.map_done.mp done
    unfold copyFromUser at copied
    split at copied
    · assumption
    · cases copied

theorem lseekBody_seeks (maxSize : Int32) (fPos offset : Int64) (whence : Int32) :
    lseekBody maxSize fPos offset whence = (-EINVAL, fPos) ∨
      ∃ target : Int64, lseekBody maxSize fPos offset whence = (target, target) ∧
        0 ≤ target.toInt ∧ target.toInt ≤ maxSize.toInt := by
  have accepted : ∀ target : Int64, ¬ (target > maxSize.toInt64 ∨ target < 0) →
      0 ≤ target.toInt ∧ target.toInt ≤ maxSize.toInt := by
    intro target ok
    rw [gt_iff_lt, Int64.lt_iff_toInt_lt, Int64.lt_iff_toInt_lt, Int32.toInt_toInt64] at ok
    have zero : (0 : Int64).toInt = 0 := rfl
    omega
  simp only [lseekBody]
  repeat' split
  all_goals first
    | exact .inl rfl
    | exact .inr ⟨_, rfl, accepted _ (by assumption)⟩

theorem checkPermission_answers (devPerm : Int32) (accMode : UInt32) :
    checkPermission devPerm accMode = 0 ∨ checkPermission devPerm accMode = -EPERM := by
  unfold checkPermission
  split
  · exact .inl rfl
  · split
    · exact .inl rfl
    · split
      · exact .inl rfl
      · exact .inr rfl

end MadDriver.Pcd

import MadDriver.Pcd.BodyFacts
import MadDriver.Pcd.Drivers

/-! Reads and writes at positions nobody has checked. The clamp is right up to the end
of the device; behind it the difference wraps to a length near 2^64. -/
namespace MadDriver.Pcd
open Kernel

def readLength (maxSize : Int32) (fPos : Int64) (count : UInt64) : UInt64 :=
  adjustCount maxSize fPos count

/-- The length pcd_write hands to `copy_from_user`, if it comes there. -/
def writeLength (maxSize : Int32) (fPos : Int64) (count : UInt64) : Option UInt64 :=
  if adjustCount maxSize fPos count = 0 then none else some (adjustCount maxSize fPos count)

/-- A call that makes this copy and tells everything else from its result. -/
def CopiesOut {R : Type} (call : UserAccess → Outcome R) (buffer : List UInt8) (fPos : Int64)
    (len : UInt64) : Prop :=
  ∃ finish, ∀ user, call user = (copyToUser user buffer fPos len).map finish

def CopiesIn {R : Type} (call : UserAccess → Outcome R) (buffer buff : List UInt8)
    (fPos : Int64) : Option UInt64 → Prop
  | some len => ∃ finish, ∀ user, call user = (copyFromUser user buffer fPos buff len).map finish
  | none => ∃ r, ∀ user, call user = .done r

section Bodies

variable {R R' : Type} {buffer buff : List UInt8} {fPos : Int64} {maxSize : Int32} {count : UInt64}

theorem copiesOut_map {call : UserAccess → Outcome R} {len : UInt64} (g : R → R')
    (copies : CopiesOut call buffer fPos len) :
    CopiesOut (fun user => (call user).map g) buffer fPos len := by
  obtain ⟨finish, same⟩ := copies
  refine ⟨fun copied => g (finish copied), fun user => ?_⟩
  change (call user).map g = _
  rw [same, Outcome.map_map]

theorem copiesIn_map {call : UserAccess → Outcome R} {len : Option UInt64} (g : R → R')
    (copies : CopiesIn call buffer buff fPos len) :
    CopiesIn (fun user => (call user).map g) buffer buff fPos len := by
  cases len with
  | some len =>
    obtain ⟨finish, same⟩ := copies
    refine ⟨fun copied => g (finish copied), fun user => ?_⟩
    change (call user).map g = _
    rw [same, Outcome.map_map]
  | none =>
    obtain ⟨r, same⟩ := copies
    refine ⟨g r, fun user => ?_⟩
    change (call user).map g = _
    rw [same]
    rfl

theorem readBody_copies : CopiesOut (readBody maxSize buffer · count fPos) buffer fPos
    (readLength maxSize fPos count) :=
  ⟨_, fun _ => rfl⟩

theorem writeBody_copies : CopiesIn (writeBody maxSize buffer · buff count fPos) buffer buff fPos
    (writeLength maxSize fPos count) := by
  unfold writeLength writeBody
  by_cases full : adjustCount maxSize fPos count = 0
  · simp only [if_pos full]
    exact ⟨_, fun _ => rfl⟩
  · simp only [if_neg full]
    exact ⟨_, fun _ => rfl⟩

end Bodies

inductive PcdDriver where
  | single
  | lock
  | sized (k : SizedDriver)

def PcdDriver.Data : PcdDriver → Type
  | .single => Single.PcdDevice
  | .lock => Lock.PcdDevice
  | .sized k => k.driver.Data

def PcdDriver.fops : (k : PcdDriver) → FileOperations k.Data
  | .single => Single.pcdFops
  | .lock => Lock.pcdFops
  | .sized k => k.driver.fops

def PcdDriver.maxSize : (k : PcdDriver) → k.Data → Int32
  | .single => fun _ => Single.DEV_MEM_SIZE
  | .lock => fun _ => Lock.DEV_MEM_SIZE
  | .sized k => k.driver.maxSize

def PcdDriver.buffer : (k : PcdDriver) → k.Data → List UInt8
  | .single => Single.PcdDevice.deviceBuffer
  | .lock => Lock.PcdDevice.deviceBuffer
  | .sized k => k.driver.buffer

def PcdDriver.Free : (k : PcdDriver) → k.Data → Prop
  | .lock => fun dev => dev.pcdMutexLock = false
  | .single | .sized _ => fun _ => True

theorem read_copies (k : PcdDriver) (dev : k.Data) (free : k.Free dev) (count : UInt64)
    (fPos : Int64) : CopiesOut (k.fops.read dev · count fPos) (k.buffer dev) fPos
      (readLength (k.maxSize dev) fPos count) := by
  cases k with
  | single => exact copiesOut_map _ readBody_copies
  | lock =>
    have unlocked : dev.pcdMutexLock = false := free
    simp only [PcdDriver.fops, Lock.pcdFops, Lock.pcdRead, unlocked, Bool.false_eq_true, if_false]
    exact ⟨_, fun _ => rfl⟩
  | sized k =>
    have body := funext fun user => k.conforms.reads dev user count fPos
    change CopiesOut (fun user => k.driver.fops.read dev user count fPos) _ _ _
    rw [body]
    exact copiesOut_map _ readBody_copies

theorem write_copies (k : PcdDriver) (dev : k.Data) (free : k.Free dev) (buff : List UInt8)
    (count : UInt64) (fPos : Int64) :
    CopiesIn (k.fops.write dev · buff count fPos) (k.buffer dev) buff fPos
      (writeLength (k.maxSize dev) fPos count) := by
  cases k with
  | single => exact copiesIn_map _ writeBody_copies
  | lock =>
    have unlocked : dev.pcdMutexLock = false := free
    change CopiesIn (fun user => Lock.pcdWrite dev user buff count fPos) _ _ _
      (writeLength Lock.DEV_MEM_SIZE fPos count)
    simp only [Lock.pcdWrite, unlocked, Bool.false_eq_true, if_false, writeLength]
    by_cases full : adjustCount Lock.DEV_MEM_SIZE fPos count = 0
    · simp only [if_pos full]
      exact ⟨_, fun _ => rfl⟩
    · simp only [if_neg full]
      exact ⟨_, fun _ => rfl⟩
  | sized k =>
    have body := funext fun user => k.conforms.writes dev user buff count fPos
    change CopiesIn (fun user => k.driver.fops.write dev user buff count fPos) _ _ _ _
    rw [body]
    exact copiesIn_map _ writeBody_copies

section Lengths

variable {fPos : Int64} {maxSize : Int32} {count : UInt64}

/-- Up to the end of the device, and nothing from behind it. -/
def Fits (n : Int) (fPos : Int64) (len : UInt64) : Prop :=
  (fPos.toInt ≤ n → (len.toNat : Int) ≤ n - fPos.toInt) ∧ (n < fPos.toInt → len = 0)

theorem adjustCount_fits_iff (size : 0 ≤ maxSize.toInt) (nonneg : 0 ≤ fPos.toInt)
    (small : count.toNat < 2 ^ 63) :
    Fits maxSize.toInt fPos (adjustCount maxSize fPos count) ↔ fPos.toInt ≤ maxSize.toInt := by
  constructor
  · intro fits
    refine Int.not_lt.mp fun behind => ?_
    have none_copied := fits.2 behind
    have wrapped := adjustCount_beyond size small behind
    have bound := fPos.toInt_lt
    rw [none_copied, UInt64.toNat_zero] at wrapped
    omega
  · intro within
    have len := adjustCount_span nonneg within small
    have stop := span_end count within
    exact ⟨fun _ => by omega, fun behind => by omega⟩

theorem writeLength_fits_iff (size : 0 ≤ maxSize.toInt) (nonneg : 0 ≤ fPos.toInt)
    (small : count.toNat < 2 ^ 63) :
    (∀ len, writeLength maxSize fPos count = some len → Fits maxSize.toInt fPos len) ↔
      fPos.toInt ≤ maxSize.toInt := by
  rw [← adjustCount_fits_iff size nonneg small]
  constructor
  · intro all
    by_cases full : adjustCount maxSize fPos count = 0
    · rw [full]
      exact ⟨fun within => by rw [UInt64.toNat_zero]; omega, fun _ => rfl⟩
    · exact all _ (if_neg full)
  · intro fits len copied
    unfold writeLength at copied
    split at copied
    · cases copied
    · cases copied
      exact fits

end Lengths

/-- Each driver's read and write hand these lengths to their copies, and the lengths
are right exactly up to the end of the device. -/
theorem positional_iff (k : PcdDriver) (dev : k.Data) (free : k.Free dev) (buff : List UInt8)
    (count : UInt64) (fPos : Int64) (size : 0 ≤ (k.maxSize dev).toInt)
    (nonneg : 0 ≤ fPos.toInt) (small : count.toNat < 2 ^ 63) :
    (CopiesOut (k.fops.read dev · count fPos) (k.buffer dev) fPos
        (readLength (k.maxSize dev) fPos count) ∧
      (Fits (k.maxSize dev).toInt fPos (readLength (k.maxSize dev) fPos count) ↔
        fPos.toInt ≤ (k.maxSize dev).toInt)) ∧
    CopiesIn (k.fops.write dev · buff count fPos) (k.buffer dev) buff fPos
        (writeLength (k.maxSize dev) fPos count) ∧
      ((∀ len, writeLength (k.maxSize dev) fPos count = some len →
          Fits (k.maxSize dev).toInt fPos len) ↔ fPos.toInt ≤ (k.maxSize dev).toInt) :=
  ⟨⟨read_copies k dev free count fPos, adjustCount_fits_iff size nonneg small⟩,
    write_copies k dev free buff count fPos, writeLength_fits_iff size nonneg small⟩

/-- The device of pcd.c, from its last byte on. -/
theorem positional_iff_last :
    (CopiesOut (Single.pcdFops.read ⟨List.replicate 512 0⟩ · 2 511) (List.replicate 512 0) 511
        (readLength 512 511 2) ∧ (Fits 512 511 (readLength 512 511 2) ↔ (511 : Int) ≤ 512)) ∧
    CopiesIn (Single.pcdFops.write ⟨List.replicate 512 0⟩ · [7, 8] 2 511) (List.replicate 512 0)
        [7, 8] 511 (writeLength 512 511 2) ∧
      ((∀ len, writeLength 512 511 2 = some len → Fits 512 511 len) ↔ (511 : Int) ≤ 512) :=
  positional_iff .single ⟨List.replicate 512 0⟩ trivial [7, 8] 2 511 (by decide) (by decide)
    (by decide)

/-- From one byte behind the end a read of one byte hands 2^64 - 1 to the copy. -/
theorem read_behind : CopiesOut (Single.pcdFops.read ⟨List.replicate 512 0⟩ · 1 513)
      (List.replicate 512 0) 513 (readLength 512 513 1) ∧
    (readLength 512 513 1).toNat = 2 ^ 64 - 1 ∧ ¬ Fits 512 513 (readLength 512 513 1) := by
  refine ⟨read_copies .single ⟨List.replicate 512 0⟩ trivial 1 513, rfl, fun fits => ?_⟩
  exact absurd (fits.2 (by decide)) (by decide)

end MadDriver.Pcd

import MadDriver.Core.CInt
import MadDriver.Pcd.Drivers

/-! pcd_lseek against the target in unbounded integers: the sums of the code wrap, and
where one does, the wrapped value is out of range too. -/
namespace MadDriver.Pcd
open Kernel

variable {maxSize : Int32} {fPos offset : Int64} {whence : Int32} {n : Int}

def seekTarget (n : Int) (fPos offset : Int64) (whence : Int32) : Option Int :=
  if whence = SEEK_SET then some offset.toInt
  else if whence = SEEK_CUR then some (fPos.toInt + offset.toInt)
  else if whence = SEEK_END then some (n + offset.toInt)
  else none

/-- A target in the device is returned and stored, anything else is refused. -/
structure SeeksExactly (n : Int) (fPos offset : Int64) (whence : Int32) (r : Int64 × Int64) :
    Prop where
  succeeds_iff : 0 ≤ r.1.toInt ↔
    ∃ target, seekTarget n fPos offset whence = some target ∧ 0 ≤ target ∧ target ≤ n
  moved : ∀ target, seekTarget n fPos offset whence = some target → 0 ≤ target → target ≤ n →
    r.1.toInt = target ∧ r.2.toInt = target
  refused : r.1.toInt < 0 → r = (-EINVAL, fPos)

theorem seeks_to {target : Int64} {t : Int} (known : seekTarget n fPos offset whence = some t)
    (exact : target.toInt = t) (inside : 0 ≤ t ∧ t ≤ n) :
    SeeksExactly n fPos offset whence (target, target) := by
  refine ⟨?_, ?_, ?_⟩
  · rw [exact]
    exact ⟨fun _ => ⟨t, known, inside⟩, fun _ => inside.1⟩
  · intro t' known' _ _
    cases known.symm.trans known'
    exact ⟨exact, exact⟩
  · intro negative
    rw [exact] at negative
    omega

theorem seeks_refused
    (outside : ∀ t, seekTarget n fPos offset whence = some t → ¬ (0 ≤ t ∧ t ≤ n)) :
    SeeksExactly n fPos offset whence (-EINVAL, fPos) := by
  have negative : (-EINVAL).toInt = -22 := rfl
  refine ⟨?_, ?_, fun _ => rfl⟩
  · rw [negative]
    constructor
    · intro impossible
      omega
    · rintro ⟨t, known, inside⟩
      exact absurd inside (outside t known)
  · intro t known low high
    exact absurd ⟨low, high⟩ (outside t known)

theorem checked_seek {target : Int64} {t : Int} (size : maxSize.toInt = n)
    (known : seekTarget n fPos offset whence = some t)
    (agree : (0 ≤ target.toInt ∧ target.toInt ≤ n) ∨ (0 ≤ t ∧ t ≤ n) → target.toInt = t) :
    SeeksExactly n fPos offset whence
      (if target > maxSize.toInt64 ∨ target < 0 then (-EINVAL, fPos) else (target, target)) := by
  have zero : (0 : Int64).toInt = 0 := rfl
  have checked : target > maxSize.toInt64 ∨ target < 0 ↔ n < target.toInt ∨ target.toInt < 0 := by
    rw [gt_iff_lt, Int64.lt_iff_toInt_lt, Int64.lt_iff_toInt_lt, Int32.toInt_toInt64, size, zero]
  split
  · rename_i out
    rw [checked] at out
    refine seeks_refused fun t' known' inside => ?_
    cases known.symm.trans known'
    have value := agree (.inr inside)
    omega
  · rename_i fits
    rw [checked] at fits
    have inside : 0 ≤ target.toInt ∧ target.toInt ≤ n := by omega
    have value := agree (.inl inside)
    exact seeks_to known value (value ▸ inside)

theorem lseekBody_exact (size : maxSize.toInt = n) (nonneg : 0 ≤ n)
    (within : 0 ≤ fPos.toInt ∧ fPos.toInt ≤ n) :
    SeeksExactly n fPos offset whence (lseekBody maxSize fPos offset whence) := by
  have bound := maxSize.toInt_lt
  have low := offset.le_toInt
  have high := offset.toInt_lt
  unfold lseekBody
  split
  · rename_i set
    exact checked_seek size (if_pos set) fun _ => rfl
  · rename_i not_set
    split
    · rename_i cur
      have known : seekTarget n fPos offset whence = some (fPos.toInt + offset.toInt) := by
        rw [seekTarget, if_neg not_set, if_pos cur]
      -- a sum that wraps comes out negative
      refine checked_seek size known fun inside => ?_
      rw [CInt.toInt_add] at inside ⊢
      omega
    · rename_i not_cur
      split
      · rename_i seek_end
        have known : seekTarget n fPos offset whence = some (n + offset.toInt) := by
          rw [seekTarget, if_neg not_set, if_neg not_cur, if_pos seek_end]
        refine checked_seek size known fun inside => ?_
        rw [CInt.toInt_add, Int32.toInt_toInt64] at inside ⊢
        omega
      · rename_i not_end
        refine seeks_refused fun t known => ?_
        rw [seekTarget, if_neg not_set, if_neg not_cur, if_neg not_end] at known
        cases known

/-- Drivers 003 to 006, every size up to INT_MAX, every position in the device, every
offset and every `whence`. -/
theorem seek_exact (k : SizedDriver) (dev : k.driver.Data) (fPos offset : Int64) (whence : Int32)
    (size : 0 ≤ k.size dev ∧ k.size dev < 2 ^ 31)
    (within : 0 ≤ fPos.toInt ∧ fPos.toInt ≤ k.size dev) :
    ∃ pcdLseek, k.driver.fops.llseek = some pcdLseek ∧
      SeeksExactly (k.size dev) fPos offset whence (pcdLseek dev fPos offset whence) :=
  ⟨_, k.conforms.seeks, lseekBody_exact (k.maxSize_size dev size.2) size.1 within⟩

/-- The largest offset from the end of a device of 512 bytes. -/
theorem seek_exact_wraps : ∃ pcdLseek, PcdN.driver.fops.llseek = some pcdLseek ∧
    SeeksExactly 512 512 Int64.maxValue SEEK_CUR
      (pcdLseek (PcdN.staticDevice 512 "PCDEV4XYZ123" RDWR) 512 Int64.maxValue SEEK_CUR) :=
  seek_exact .pcdN (PcdN.staticDevice 512 "PCDEV4XYZ123" RDWR) 512 Int64.maxValue SEEK_CUR
    ⟨by decide, by decide⟩ ⟨by decide, by decide⟩

end MadDriver.Pcd

import MadDriver.Pcd.BodyFacts
import MadDriver.Pcd.Drivers
import MadDriver.Pcd.System

/-! Failed calls. A write copies straight into the device, so one that faults on the way
leaves the bytes it has moved; apart from these a failed call changes nothing. -/
namespace MadDriver.Pcd
open Kernel Function

variable {maxSize : Int32} {buffer buff : List UInt8} {user : UserAccess} {count : UInt64}
  {fPos : Int64}

/-- A range of len bytes at p of which fewer have arrived; the kernel may have cleared
the others. -/
def Torn (old new : List UInt8) (p : Nat) (buff : List UInt8) (len : Nat) : Prop :=
  ∃ k < len, ∃ rest, (rest = [] ∨ rest = List.replicate (len - k) 0) ∧
    new = Bytes.patch old p (buff.take k ++ rest)

theorem torn_copied (short : user.moved count.toNat < count.toNat) (old : List UInt8) (p : Nat) :
    Torn old (Bytes.patch old p (user.copied buff count.toNat)) p buff count.toNat := by
  refine ⟨user.moved count.toNat, short, _, ?_, rfl⟩
  split
  · exact .inr rfl
  · exact .inl rfl

theorem count_nonneg (nonneg : 0 ≤ fPos.toInt) (within : fPos.toInt ≤ maxSize.toInt)
    (small : count.toNat < 2 ^ 63) : 0 ≤ (adjustCount maxSize fPos count).toInt64.toInt := by
  rw [(advance nonneg within (adjustCount_span nonneg within small)).1]
  exact Int.natCast_nonneg _

theorem lseekBody_failed {offset : Int64} {whence : Int32}
    (failed : (lseekBody maxSize fPos offset whence).1.toInt < 0) :
    (lseekBody maxSize fPos offset whence).2 = fPos := by
  rcases lseekBody_seeks maxSize fPos offset whence with refused | ⟨target, moved, low, _⟩
  · rw [refused]
  · rw [moved] at failed
    change target.toInt < 0 at failed
    omega

theorem readBody_failed {r : ReadResult} (nonneg : 0 ≤ fPos.toInt)
    (within : fPos.toInt ≤ maxSize.toInt) (small : count.toNat < 2 ^ 63)
    (done : readBody maxSize buffer user count fPos = .done r) (failed : r.ret.toInt < 0) :
    r.fPos = fPos := by
  obtain ⟨⟨left, out⟩, _, rfl⟩ := Outcome.map_done.mp done
  dsimp only at failed ⊢
  split at failed
  · rename_i short
    rw [if_pos short]
  · have moved := count_nonneg nonneg within small
    exact absurd failed (Int.not_lt.mpr moved)

theorem writeBody_failed {r : WriteResult} (nonneg : 0 ≤ fPos.toInt)
    (within : fPos.toInt ≤ maxSize.toInt) (small : count.toNat < 2 ^ 63)
    (done : writeBody maxSize buffer user buff count fPos = .done r) (failed : r.ret.toInt < 0) :
    r.fPos = fPos ∧ (r.buffer = buffer ∨
      r.ret = -EFAULT ∧ Torn buffer r.buffer fPos.toInt.toNat buff (span maxSize fPos count)) := by
  have len := adjustCount_span nonneg within small
  unfold writeBody at done
  dsimp only at done
  split at done
  · cases done
    exact ⟨rfl, .inl rfl⟩
  · obtain ⟨⟨left, stored⟩, copied, rfl⟩ := Outcome.map_done.mp done
    dsimp only at failed ⊢
    split at failed
    · rename_i short
      rw [if_pos short]
      refine ⟨rfl, .inr ⟨rfl, ?_⟩⟩
      unfold copyFromUser at copied
      split at copied
      · obtain ⟨rfl, rfl⟩ := Prod.mk.inj (Outcome.done.inj copied)
        rw [← len]
        exact torn_copied (by omega) buffer fPos.toInt.toNat
      · cases copied
    · have moved := count_nonneg nonneg within small
      exact absurd failed (Int.not_lt.mpr moved)

/-- What a call on device i that failed leaves of all the devices. -/
def KeepsDevices {D P : Type} [DecidableEq D] (devs : D → P) (i : D) (data : P) : Prop :=
  update devs i data = devs

/-- Drivers 003 to 006, any devices, and a file that stands in device i. -/
theorem failed_keeps (k : SizedDriver) {D : Type} [DecidableEq D] (devs : D → k.driver.Data)
    (i : D) (fPos : Int64) (nonneg : 0 ≤ fPos.toInt)
    (within : fPos.toInt ≤ (k.driver.maxSize (devs i)).toInt) :
    (∀ pcdLseek offset whence, k.driver.fops.llseek = some pcdLseek →
      (pcdLseek (devs i) fPos offset whence).1.toInt < 0 →
      (pcdLseek (devs i) fPos offset whence).2 = fPos) ∧
    (∀ user (count : Count) r, k.driver.fops.read (devs i) user count.val fPos = .done r →
      r.ret.toInt < 0 → r.fPos = fPos ∧ KeepsDevices devs i r.data) ∧
    ∀ user (buff : UserBytes) r,
      k.driver.fops.write (devs i) user buff.bytes buff.count fPos = .done r →
      r.ret.toInt < 0 → r.fPos = fPos ∧ (KeepsDevices devs i r.data ∨
        r.ret = -EFAULT ∧ ∃ stored, r.data = k.driver.setBuffer (devs i) stored ∧
          Torn (k.driver.buffer (devs i)) stored fPos.toInt.toNat buff.bytes
            (span (k.driver.maxSize (devs i)) fPos buff.count)) := by
  refine ⟨?_, ?_, ?_⟩
  · intro pcdLseek offset whence seeks failed
    cases seeks.symm.trans k.conforms.seeks
    exact lseekBody_failed failed
  · intro user count r done failed
    rw [k.conforms.reads] at done
    obtain ⟨r, body, rfl⟩ := Outcome.map_done.mp done
    exact ⟨readBody_failed nonneg within count.property body failed, update_eq_self i devs⟩
  · intro user buff r done failed
    rw [k.conforms.writes] at done
    obtain ⟨r, body, rfl⟩ := Outcome.map_done.mp done
    have small : buff.count.toNat < 2 ^ 63 := buff.toNat_count ▸ buff.small
    obtain ⟨kept, same | ⟨fault, torn⟩⟩ := writeBody_failed nonneg within small body failed
    · refine ⟨kept, .inl ?_⟩
      change update devs i (k.driver.setBuffer (devs i) r.buffer) = devs
      rw [same, k.conforms.set_buffer, update_eq_self]
    · exact ⟨kept, .inr ⟨fault, r.buffer, rfl, torn⟩⟩

theorem failed_keeps_four :
    (∀ pcdLseek offset whence, PcdN.driver.fops.llseek = some pcdLseek →
      (pcdLseek fourBytes 2 offset whence).1.toInt < 0 →
      (pcdLseek fourBytes 2 offset whence).2 = 2) ∧
    (∀ user (count : Count) r, PcdN.pcdRead fourBytes user count.val 2 = .done r →
      r.ret.toInt < 0 → r.fPos = 2 ∧ KeepsDevices (fun _ : Unit => fourBytes) () r.data) ∧
    ∀ user (buff : UserBytes) r, PcdN.pcdWrite fourBytes user buff.bytes buff.count 2 = .done r →
      r.ret.toInt < 0 → r.fPos = 2 ∧ (KeepsDevices (fun _ : Unit => fourBytes) () r.data ∨
        r.ret = -EFAULT ∧ ∃ stored, r.data = PcdN.driver.setBuffer fourBytes stored ∧
          Torn fourBytes.buffer stored 2 buff.bytes (span 4 2 buff.count)) :=
  failed_keeps .pcdN (fun _ : Unit => fourBytes) () 2 (by decide) (by decide)

/-- The second of two bytes faults, and the first one stays. -/
theorem torn_write : PcdN.pcdWrite fourBytes (.fault 1 false) [7, 8] 2 0 =
    .done ⟨{ fourBytes with buffer := [7, 0, 0, 0] }, -EFAULT, [], 0⟩ ∧
    ({ fourBytes with buffer := [7, 0, 0, 0] } : PcdN.PcdevPrivateData).buffer ≠
      fourBytes.buffer := by
  exact ⟨rfl, by decide⟩

end MadDriver.Pcd

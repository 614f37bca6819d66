import MadDriver.Pcd.Sysfs

/-! A write to `max_size` as a transaction: refused with nothing changed, or carried out
with the number it read. The size is set before the memory is there, and no range is
checked, so it is one only for sizes the driver can have and get. -/
namespace MadDriver.Pcd.Sysfs
open Kernel

variable {dev : PcdevPrivateData} {grant : HeapGrant} {buf : UserBytes}

structure Refused (dev : PcdevPrivateData) (r : PcdevPrivateData × Int64) : Prop where
  error : r.2.toInt < 0
  same : r.1 = dev

/-- Carried out: the whole string accepted, and the device resized to the number. -/
structure Resized (dev : PcdevPrivateData) (buf : UserBytes) (num : Int64)
    (r : PcdevPrivateData × Int64) : Prop where
  accepted : r.2.toInt = buf.bytes.length
  valid : 0 ≤ num.toInt ∧ num.toInt < 2 ^ 31
  size : r.1.pdata.size.toInt = num.toInt
  shown : showMaxSize r.1 = formatInt num.toInt ++ [ascii '\n'] ∧
    kstrtol (showMaxSize r.1) 10 = .ok num
  length : (r.1.buffer.length : Int) = num.toInt
  kept : ∀ i < dev.buffer.length, i < num.toInt → r.1.buffer[i]? = dev.buffer[i]?

def AllOrNothing (dev : PcdevPrivateData) (buf : UserBytes) (r : PcdevPrivateData × Int64) :
    Prop :=
  Refused dev r ∨ ∃ num, kstrtol (cString buf.bytes) 10 = .ok num ∧ Resized dev buf num r

/-- The outcomes of the two services with which a write is all or nothing. -/
def Acceptable (grant : HeapGrant) (parsed : Except Int64 Int64) : Prop :=
  (∃ e, parsed = .error e) ∨
    ∃ num, parsed = .ok num ∧ 0 ≤ num.toInt ∧ num.toInt < 2 ^ 31 ∧ (grant ≠ none ∨ num = 0)

theorem store_error {e : Int64} (failed : kstrtol (cString buf.bytes) 10 = .error e) :
    Refused dev (storeMaxSize dev grant buf.bytes) := by
  rw [storeMaxSize, failed]
  exact ⟨kstrtol_error failed, rfl⟩

theorem toInt_count : (Int64.ofNat buf.bytes.length).toInt = buf.bytes.length := by
  have small := buf.small
  exact Int64.toInt_ofNat_of_lt small

theorem store_number {num : Int64} (read : kstrtol (cString buf.bytes) 10 = .ok num) :
    storeMaxSize dev grant buf.bytes =
      ({ dev with
          pdata := { dev.pdata with size := num.toInt32 }
          buffer := krealloc grant dev.buffer num.toInt32.toInt64.toUInt64 },
        .ofNat buf.bytes.length) := by
  rw [storeMaxSize, read]

theorem krealloc_kept {heap : Nat → UInt8} {n : UInt64} (fits : Allocatable n)
    (buffer : List UInt8) {i : Nat} (there : i < buffer.length) (within : i < n.toNat) :
    (krealloc (some heap) buffer n)[i]? = buffer[i]? := by
  have front : i < (buffer.take n.toNat).length := by
    rw [List.length_take]
    omega
  rw [krealloc]
  simp only [if_pos fits]
  rw [List.getElem?_append_left front, List.getElem?_take_of_lt within]

theorem valid_size {num : Int64} (low : 0 ≤ num.toInt) (high : num.toInt < 2 ^ 31) :
    num.toInt32.toInt = num.toInt ∧
    (num.toInt32.toInt64.toUInt64.toNat : Int) = num.toInt := by
  have value : num.toInt32.toInt = num.toInt := CInt.toInt_int (by omega) high
  refine ⟨value, ?_⟩
  rw [CInt.toNat_size_of_nonneg (by omega), value]
  omega

theorem store_resized {num : Int64} (read : kstrtol (cString buf.bytes) 10 = .ok num)
    (low : 0 ≤ num.toInt) (high : num.toInt < 2 ^ 31) (granted : grant ≠ none ∨ num = 0) :
    Resized dev buf num (storeMaxSize dev grant buf.bytes) := by
  obtain ⟨value, bytes⟩ := valid_size low high
  have fits : Allocatable num.toInt32.toInt64.toUInt64 := size_allocatable (by omega)
  rw [store_number read]
  refine ⟨toInt_count, ⟨low, high⟩, value, ?_, ?_, ?_⟩
  · have shown : formatInt num.toInt32.toInt = formatInt num.toInt := by rw [value]
    refine ⟨congrArg (· ++ [ascii '\n']) shown, ?_⟩
    change kstrtol (formatInt num.toInt32.toInt ++ [0x0A]) 10 = .ok num
    rw [shown, kstrtol_formatInt num.le_toInt num.toInt_lt, Int64.ofInt_toInt]
  · cases grant with
    | none =>
      have zero := granted.resolve_left fun some_heap => some_heap rfl
      rw [zero]
      rfl
    | some heap =>
      change ((krealloc (some heap) dev.buffer _).length : Int) = _
      rw [length_krealloc fits]
      exact bytes
  · intro i there within
    cases grant with
    | none =>
      have zero := granted.resolve_left fun some_heap => some_heap rfl
      rw [zero] at within
      exact absurd within (Int.not_lt.mpr (Int.natCast_nonneg i))
    | some heap => exact krealloc_kept fits dev.buffer there (by omega)

theorem resized_acceptable {num : Int64} (read : kstrtol (cString buf.bytes) 10 = .ok num)
    (resized : Resized dev buf num (storeMaxSize dev grant buf.bytes)) :
    grant ≠ none ∨ num = 0 := by
  cases grant with
  | some heap => exact .inl (Option.some_ne_none heap)
  | none =>
    have length := resized.length
    rw [store_number read] at length
    exact .inr (Int64.toInt_inj.mp length.symm)

/-- Any device, any string and any answer of the allocator. -/
theorem store_all_or_nothing_iff (dev : PcdevPrivateData) (grant : HeapGrant) (buf : UserBytes) :
    AllOrNothing dev buf (storeMaxSize dev grant buf.bytes) ↔
      Acceptable grant (kstrtol (cString buf.bytes) 10) := by
  constructor
  · rintro (refused | ⟨num, read, resized⟩)
    · cases parsed : kstrtol (cString buf.bytes) 10 with
      | error e => exact .inl ⟨e, rfl⟩
      | ok num =>
        have negative := refused.error
        rw [store_number parsed, toInt_count] at negative
        omega
    · exact .inr ⟨num, read, resized.valid.1, resized.valid.2, resized_acceptable read resized⟩
  · rintro (⟨e, failed⟩ | ⟨num, read, low, high, granted⟩)
    · exact .inl (store_error failed)
    · exact .inr ⟨num, read, store_resized read low high granted⟩

/-- Without memory the size is set all the same, and the write is accepted. -/
theorem store_no_memory :
    storeMaxSize ⟨⟨2, RDWR, "PCDEVABCD1111"⟩, [7, 8], 0⟩ none [0x34, 0x0A] =
      (⟨⟨4, RDWR, "PCDEVABCD1111"⟩, [], 0⟩, 2) ∧
    ¬ AllOrNothing ⟨⟨2, RDWR, "PCDEVABCD1111"⟩, [7, 8], 0⟩ ⟨[0x34, 0x0A], by decide⟩
      (storeMaxSize ⟨⟨2, RDWR, "PCDEVABCD1111"⟩, [7, 8], 0⟩ none [0x34, 0x0A]) := by
  refine ⟨rfl, ?_⟩
  rintro (refused | ⟨num, _, resized⟩)
  · exact absurd refused.error (by decide)
  · have size : (4 : Int) = num.toInt := resized.size
    have length : (0 : Int) = num.toInt := resized.length
    omega

end MadDriver.Pcd.Sysfs

import MadDriver.Pcd.BodyFacts
import MadDriver.Pcd.System

/-! What a call of a conforming driver's table can do, as one inversion: the later
invariants look at the effects and never at the operations again. -/
namespace MadDriver.Pcd
open Kernel Function

variable (drv : Driver) {D F : Type} [DecidableEq D] [DecidableEq F]

/-- Every buffer covers its device, and every open file stands inside its device. -/
structure WellPlaced (σ : System drv.Data D F) : Prop where
  covered : ∀ d dev, σ.devs d = some dev →
    0 ≤ (drv.maxSize dev).toInt ∧ (drv.maxSize dev).toInt ≤ (drv.buffer dev).length
  opened : ∀ f file, σ.files f = some file → ∃ dev, σ.devs file.dev = some dev ∧
    0 ≤ file.fPos.toInt ∧ file.fPos.toInt ≤ (drv.maxSize dev).toInt

/-- All that a call can do to well placed files. -/
inductive Effect (σ : System drv.Data D F) : Op D F → System drv.Data D F → Reply → Prop where
  | refused {op : Op D F} {ret : Int64} : op.isRead = false → ret.toInt < 0 →
      Effect σ op σ ⟨ret, []⟩
  | unreadable {f : F} {user : UserAccess} {count : Count} :
      (∀ file, σ.files f = some file → file.fMode &&& FMODE_READ ≠ FMODE_READ) →
      Effect σ (.read f user count) σ ⟨-EBADF, []⟩
  | opened {f : F} {d : D} {fMode : UInt32} {dev : drv.Data} : σ.files f = none →
      σ.devs d = some dev → checkPermission (drv.perm dev) fMode = 0 →
      Effect σ (.openFile f d fMode)
        { σ with files := update σ.files f (some ⟨d, fMode, 0⟩) } ⟨0, []⟩
  | released {f : F} :
      Effect σ (.release f) { σ with files := update σ.files f none } ⟨0, []⟩
  | sought {f : F} {offset : Int64} {whence : Int32} {file : OpenFile D} {dev : drv.Data}
      {target : Int64} : σ.files f = some file → σ.devs file.dev = some dev →
      0 ≤ target.toInt → target.toInt ≤ (drv.maxSize dev).toInt →
      Effect σ (.lseek f offset whence) (σ.leave f file dev target) ⟨target, []⟩
  | fetched {f : F} {user : UserAccess} {count : Count} {file : OpenFile D} {dev : drv.Data}
      {n : Nat} {ret fPos : Int64} : σ.files f = some file →
      file.fMode &&& FMODE_READ = FMODE_READ → σ.devs file.dev = some dev →
      n = span (drv.maxSize dev) file.fPos count.val → user.moved n = n → ret.toInt = n →
      fPos.toInt = file.fPos.toInt + n →
      Effect σ (.read f user count) (σ.leave f file dev fPos)
        ⟨ret, Bytes.slice (drv.buffer dev) file.fPos.toInt.toNat n⟩
  | fetchFault {f : F} {user : UserAccess} {count : Count} {file : OpenFile D} {dev : drv.Data}
      {n : Nat} : σ.files f = some file → file.fMode &&& FMODE_READ = FMODE_READ →
      σ.devs file.dev = some dev → n = span (drv.maxSize dev) file.fPos count.val →
      user.moved n < n →
      Effect σ (.read f user count) σ
        ⟨-EFAULT, Bytes.slice (drv.buffer dev) file.fPos.toInt.toNat (user.moved n)⟩
  | stored {f : F} {user : UserAccess} {buff : UserBytes} {file : OpenFile D} {dev : drv.Data}
      {n : Nat} {ret fPos : Int64} : σ.files f = some file →
      file.fMode &&& FMODE_WRITE = FMODE_WRITE → σ.devs file.dev = some dev →
      n = span (drv.maxSize dev) file.fPos buff.count → user.moved n = n → ret.toInt = n →
      fPos.toInt = file.fPos.toInt + n →
      Effect σ (.write f user buff)
        (σ.leave f file (drv.setBuffer dev
          (Bytes.patch (drv.buffer dev) file.fPos.toInt.toNat (buff.bytes.take n))) fPos)
        ⟨ret, []⟩
  | storeFault {f : F} {user : UserAccess} {buff : UserBytes} {file : OpenFile D}
      {dev : drv.Data} {left : List UInt8} : σ.files f = some file →
      file.fMode &&& FMODE_WRITE = FMODE_WRITE → σ.devs file.dev = some dev →
      left.length ≤ span (drv.maxSize dev) file.fPos buff.count → user ≠ .full →
      Effect σ (.write f user buff)
        (σ.leave f file (drv.setBuffer dev
          (Bytes.patch (drv.buffer dev) file.fPos.toInt.toNat left)) file.fPos)
        ⟨-EFAULT, []⟩

variable {drv}

omit [DecidableEq D] [DecidableEq F] in
theorem WellPlaced.placed {σ : System drv.Data D F} (placed : WellPlaced drv σ) {f : F}
    {file : OpenFile D} {dev : drv.Data} (opened : σ.files f = some file)
    (device : σ.devs file.dev = some dev) :
    Placed (drv.maxSize dev) (drv.buffer dev) file.fPos := by
  obtain ⟨other, found, low, high⟩ := placed.opened f file opened
  cases Option.some.inj (device.symm.trans found)
  exact ⟨low, high, (placed.covered file.dev dev device).2⟩

omit [DecidableEq D] [DecidableEq F] in
theorem granted_or_refused {σ : System drv.Data D F} (placed : WellPlaced drv σ) (f : F)
    (need : UInt32) :
    (∀ file, σ.files f = some file → file.fMode &&& need ≠ need) ∨
    ∃ file dev, σ.files f = some file ∧ file.fMode &&& need = need ∧
      σ.devs file.dev = some dev ∧ Placed (drv.maxSize dev) (drv.buffer dev) file.fPos := by
  cases opened : σ.files f with
  | none => exact .inl fun file h => nomatch h
  | some file =>
    by_cases mode : file.fMode &&& need = need
    · obtain ⟨dev, device, _⟩ := placed.opened f file opened
      exact .inr ⟨file, dev, rfl, mode, device, placed.placed opened device⟩
    · exact .inl fun other h => Option.some.inj h ▸ mode

theorem leave_self {σ : System drv.Data D F} {f : F} {file : OpenFile D} {dev : drv.Data}
    (opened : σ.files f = some file) (device : σ.devs file.dev = some dev) :
    σ.leave f file dev file.fPos = σ := by
  rw [System.leave, ← device, ← opened, update_eq_self, update_eq_self]

theorem open_effect (conf : Conforms drv) (σ : System drv.Data D F) (f : F) (d : D)
    (fMode : UInt32) :
    Effect drv σ (.openFile f d fMode) (vfsOpen drv.fops σ f d fMode).1
      (vfsOpen drv.fops σ f d fMode).2 := by
  unfold vfsOpen
  split
  · exact .refused rfl (by decide)
  · exact .refused rfl (by decide)
  · rename_i dev closed device
    rw [conf.opens]
    split
    · rename_i permitted
      exact .opened closed device permitted
    · rename_i denied
      rw [(checkPermission_answers _ _).resolve_left denied]
      exact .refused rfl (by decide)

theorem lseek_effect (conf : Conforms drv) {σ : System drv.Data D F} (placed : WellPlaced drv σ)
    (f : F) (offset : Int64) (whence : Int32) :
    ∃ σ' reply, vfsStep drv.fops σ (.lseek f offset whence) = .done (σ', reply) ∧
      Effect drv σ (.lseek f offset whence) σ' reply := by
  simp only [vfsStep]
  rcases granted_or_refused placed f 0 with lacking | ⟨file, dev, opened, mode, device, _⟩
  · rw [call_refused lacking]
    exact ⟨_, _, rfl, .refused rfl (by decide)⟩
  · rw [call_granted opened mode device]
    refine ⟨_, _, rfl, ?_⟩
    simp only [vfsLlseek, conf.seeks]
    rcases lseekBody_seeks (drv.maxSize dev) file.fPos offset whence with
      failed | ⟨target, moved, low, high⟩
    · have negative : (-EINVAL).toInt < 0 := by decide
      rw [failed, leave_self opened device]
      exact .refused rfl negative
    · rw [moved]
      exact .sought opened device low high

theorem read_effect (conf : Conforms drv) {σ : System drv.Data D F} (placed : WellPlaced drv σ)
    (f : F) (user : UserAccess) (count : Count) :
    ∃ σ' reply, vfsStep drv.fops σ (.read f user count) = .done (σ', reply) ∧
      Effect drv σ (.read f user count) σ' reply := by
  simp only [vfsStep]
  rcases granted_or_refused placed f FMODE_READ with
    lacking | ⟨file, dev, opened, mode, device, position⟩
  · rw [call_refused lacking]
    exact ⟨_, _, rfl, .unreadable lacking⟩
  · obtain ⟨r, result, reads⟩ := readBody_reads user position count.property
    rw [call_granted opened mode device, conf.reads, result]
    refine ⟨_, _, rfl, ?_⟩
    rcases reads.ends with ⟨whole, ret, fPos⟩ | ⟨short, ret, fPos⟩
    · have success : 0 ≤ r.ret := by
        rw [Int64.le_iff_toInt_le, ret]
        exact Int.natCast_nonneg _
      simp only [storeBack, ReadResult.leaves, if_pos success, reads.out, whole]
      exact .fetched opened mode device rfl whole ret fPos
    · have failure : ¬ (0 : Int64) ≤ -EFAULT := by decide
      simp only [storeBack, ReadResult.leaves, ret, if_neg failure, reads.out]
      rw [leave_self opened device]
      exact .fetchFault opened mode device rfl short

theorem write_effect (conf : Conforms drv) {σ : System drv.Data D F} (placed : WellPlaced drv σ)
    (f : F) (user : UserAccess) (buff : UserBytes) :
    ∃ σ' reply, vfsStep drv.fops σ (.write f user buff) = .done (σ', reply) ∧
      Effect drv σ (.write f user buff) σ' reply := by
  simp only [vfsStep]
  rcases granted_or_refused placed f FMODE_WRITE with
    lacking | ⟨file, dev, opened, mode, device, position⟩
  · rw [call_refused lacking]
    exact ⟨_, _, rfl, .refused rfl (by decide)⟩
  · have small : buff.count.toNat < 2 ^ 63 := buff.toNat_count ▸ buff.small
    obtain ⟨r, result, writes⟩ := writeBody_writes buff.bytes user position small
    rw [call_granted opened mode device, conf.writes, result]
    refine ⟨_, _, rfl, ?_⟩
    cases writes with
    | noSpace _ full =>
      have failure : ¬ (0 : Int64) ≤ -ENOMEM := by decide
      simp only [storeBack, WriteResult.leaves, full, if_neg failure, conf.set_buffer]
      rw [leave_self opened device]
      exact .refused rfl (by decide)
    | stored some_left whole ret buffer fPos =>
      have success : 0 ≤ r.ret := by
        rw [Int64.le_iff_toInt_le, ret]
        exact Int.natCast_nonneg _
      simp only [storeBack, WriteResult.leaves, if_pos success, buffer]
      exact .stored opened mode device rfl whole ret fPos
    | faulted partly fault =>
      have failure : ¬ (0 : Int64) ≤ -EFAULT := by decide
      simp only [storeBack, WriteResult.leaves, fault, if_neg failure]
      refine .storeFault opened mode device (user.length_copied_le _ _) ?_
      rintro rfl
      exact Nat.lt_irrefl _ partly

/-- No call on well placed files blocks or leaves a buffer. -/
theorem step_effect (conf : Conforms drv) {σ : System drv.Data D F} (placed : WellPlaced drv σ)
    (op : Op D F) :
    ∃ σ' reply, vfsStep drv.fops σ op = .done (σ', reply) ∧ Effect drv σ op σ' reply := by
  cases op with
  | openFile f d fMode => exact ⟨_, _, rfl, open_effect conf σ f d fMode⟩
  | release f => exact ⟨_, _, rfl, .released⟩
  | lseek f offset whence => exact lseek_effect conf placed f offset whence
  | read f user count => exact read_effect conf placed f user count
  | write f user buff => exact write_effect conf placed f user buff

theorem done_effect (conf : Conforms drv) {σ σ' : System drv.Data D F} {op : Op D F}
    {reply : Reply} (placed : WellPlaced drv σ)
    (done : vfsStep drv.fops σ op = .done (σ', reply)) : Effect drv σ op σ' reply := by
  obtain ⟨τ, answer, result, effect⟩ := step_effect conf placed op
  cases Outcome.done.inj (result.symm.trans done)
  exact effect

end MadDriver.Pcd

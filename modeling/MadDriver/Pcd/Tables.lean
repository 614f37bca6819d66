import MadDriver.Pcd.BodyFacts
import MadDriver.Pcd.Drivers
import MadDriver.Pcd.System

/-! The tables of pcd.c, pcd_lock.c and pcd_n.c under one client: the same calls on
a device of 512 bytes each. They part at a seek, which two of the tables do not
have, and at the call after a write without room, for which the locked one waits. -/
namespace MadDriver.Pcd
open Kernel Function Table

variable {F : Type} [DecidableEq F]

def vfsRun {P : Type} (fops : FileOperations P) (σ : System P Unit F) :
    List (Op Unit F) → Outcome (System P Unit F × List Reply)
  | [] => .done (σ, [])
  | op :: ops => (vfsStep fops σ op).bind fun (σ', reply) =>
    (vfsRun fops σ' ops).map fun (τ, replies) => (τ, reply :: replies)

theorem vfsRun_cons {P : Type} {fops : FileOperations P} {σ τ : System P Unit F} {op : Op Unit F}
    {ops : List (Op Unit F)} {replies : List Reply} :
    vfsRun fops σ (op :: ops) = .done (τ, replies) ↔
      ∃ σ' reply rest, vfsStep fops σ op = .done (σ', reply) ∧
        vfsRun fops σ' ops = .done (τ, rest) ∧ replies = reply :: rest := by
  rw [vfsRun, Outcome.bind_done]
  constructor
  · rintro ⟨⟨σ', reply⟩, step, run⟩
    obtain ⟨⟨_, rest⟩, inner, result⟩ := Outcome.map_done.mp run
    cases result
    exact ⟨σ', reply, rest, step, inner, rfl⟩
  · rintro ⟨σ', reply, rest, step, run, rfl⟩
    exact ⟨(σ', reply), step, Outcome.map_done.mpr ⟨(τ, rest), run, rfl⟩⟩

def oneDevice {P : Type} (dev : P) : System P Unit F := ⟨fun _ => some dev, fun _ => none⟩

def freshSingle : System Single.PcdDevice Unit F := oneDevice ⟨List.replicate 512 0⟩
def freshLock : System Lock.PcdDevice Unit F := oneDevice ⟨List.replicate 512 0, false⟩
def freshPcdN (serialNumber : String) : System PcdN.PcdevPrivateData Unit F :=
  oneDevice (PcdN.staticDevice 512 serialNumber RDWR)

/-- The same answers call by call, no call waits, and the same bytes at the end. -/
def AgreeFrom (σ : System Single.PcdDevice Unit F) (τ : System Lock.PcdDevice Unit F)
    (υ : System PcdN.PcdevPrivateData Unit F) (ops : List (Op Unit F)) : Prop :=
  ∃ σ' τ' υ' replies b, vfsRun Single.pcdFops σ ops = .done (σ', replies) ∧
    vfsRun Lock.pcdFops τ ops = .done (τ', replies) ∧
    vfsRun PcdN.pcdFops υ ops = .done (υ', replies) ∧
    (σ'.devs ()).map Single.PcdDevice.deviceBuffer = some b ∧
    (τ'.devs ()).map Lock.PcdDevice.deviceBuffer = some b ∧
    (υ'.devs ()).map PcdN.PcdevPrivateData.buffer = some b

def Reaches {P : Type} (σ : System P Unit F) (f : F) (need : UInt32) : Prop :=
  ∃ file, σ.files f = some file ∧ file.fMode &&& need = need

/-- A seek on no open file, and no read or write of the driver once the mutex is kept. -/
def OpInStep {P : Type} (σ : System P Unit F) (kept : Bool) : Op Unit F → Prop
  | .lseek f _ _ => σ.files f = none
  | .read f _ _ => kept = true → ¬ Reaches σ f FMODE_READ
  | .write f _ _ => kept = true → ¬ Reaches σ f FMODE_WRITE
  | _ => True

/-- A write of no bytes, or at the end of the device, keeps the mutex. -/
def keptAfter {P : Type} (σ : System P Unit F) (kept : Bool) : Op Unit F → Bool
  | .write f _ buff =>
    match σ.files f with
    | none => kept
    | some file => kept ||
      (file.fMode &&& FMODE_WRITE = FMODE_WRITE && (buff.bytes = [] || file.fPos.toInt = 512))
  | _ => kept

def InStep (σ : System PcdN.PcdevPrivateData Unit F) (kept : Bool) : List (Op Unit F) → Prop
  | [] => True
  | op :: ops => OpInStep σ kept op ∧ ∀ σ' reply, vfsStep PcdN.pcdFops σ op = .done (σ', reply) →
    InStep σ' (keptAfter σ kept op) ops

structure Joint (kept : Bool) (σ : System Single.PcdDevice Unit F)
    (τ : System Lock.PcdDevice Unit F) (υ : System PcdN.PcdevPrivateData Unit F) : Prop where
  device : ∃ b dev, σ.devs () = some ⟨b⟩ ∧ τ.devs () = some ⟨b, kept⟩ ∧ υ.devs () = some dev ∧
    dev.buffer = b ∧ PcdN.maxSize dev = 512 ∧ dev.perm = RDWR ∧ b.length = 512
  filesLock : τ.files = σ.files
  filesN : υ.files = σ.files
  positions : ∀ f file, σ.files f = some file → 0 ≤ file.fPos.toInt ∧ file.fPos.toInt ≤ 512

theorem lockRead_free (b : List UInt8) (user : UserAccess) (count : UInt64) (fPos : Int64) :
    Lock.pcdRead ⟨b, false⟩ user count fPos =
      (readBody Lock.DEV_MEM_SIZE b user count fPos).map fun r => r.leaves ⟨b, false⟩ := by
  simp only [Lock.pcdRead, readBody, Bool.false_eq_true, if_false]
  cases copyToUser user b fPos (adjustCount Lock.DEV_MEM_SIZE fPos count) with
  | done moved =>
    simp only [Outcome.map, Outcome.bind, ReadResult.leaves, Lock.mutexUnlock]
    split <;> rfl
  | blocks | wild => rfl

theorem lockWrite_free (b : List UInt8) (user : UserAccess) (buff : List UInt8) (count : UInt64)
    (fPos : Int64) :
    Lock.pcdWrite ⟨b, false⟩ user buff count fPos =
      (writeBody Lock.DEV_MEM_SIZE b user buff count fPos).map
        fun r => r.leaves ⟨r.buffer, decide (adjustCount Lock.DEV_MEM_SIZE fPos count = 0)⟩ := by
  simp only [Lock.pcdWrite, writeBody, Bool.false_eq_true, if_false]
  generalize adjustCount Lock.DEV_MEM_SIZE fPos count = n
  by_cases full : n = 0
  · subst full
    rfl
  · simp only [if_neg full, decide_eq_false full]
    cases copyFromUser user b fPos buff n with
    | done moved =>
      simp only [Outcome.map, Outcome.bind, WriteResult.leaves, Lock.mutexUnlock]
      split <;> rfl
    | blocks | wild => rfl

section Steps

variable {kept : Bool} {σ : System Single.PcdDevice Unit F} {τ : System Lock.PcdDevice Unit F}
  {υ : System PcdN.PcdevPrivateData Unit F}

def StepsAgree (kept' : Bool) (σ : System Single.PcdDevice Unit F)
    (τ : System Lock.PcdDevice Unit F) (υ : System PcdN.PcdevPrivateData Unit F)
    (op : Op Unit F) : Prop :=
  ∃ σ' τ' υ' reply, vfsStep Single.pcdFops σ op = .done (σ', reply) ∧
    vfsStep Lock.pcdFops τ op = .done (τ', reply) ∧
    vfsStep PcdN.pcdFops υ op = .done (υ', reply) ∧ Joint kept' σ' τ' υ'

theorem leave_one {P : Type} (σ : System P Unit F) (f : F) (file : OpenFile Unit) (dev : P)
    (fPos : Int64) : (σ.leave f file dev fPos).devs () = some dev := by
  change update σ.devs file.dev (some dev) file.dev = some dev
  rw [update_self]

theorem joint_leave (joint : Joint kept σ τ υ) {f : F} {file : OpenFile Unit} {b : List UInt8}
    {dev : PcdN.PcdevPrivateData} {fPos : Int64} (kept' : Bool) (buffer : dev.buffer = b)
    (size : PcdN.maxSize dev = 512) (perm : dev.perm = RDWR) (length : b.length = 512)
    (low : 0 ≤ fPos.toInt) (high : fPos.toInt ≤ 512) :
    Joint kept' (σ.leave f file ⟨b⟩ fPos) (τ.leave f file ⟨b, kept'⟩ fPos)
      (υ.leave f file dev fPos) where
  device := ⟨b, dev, leave_one _ _ _ _ _, leave_one _ _ _ _ _, leave_one _ _ _ _ _, buffer,
    size, perm, length⟩
  filesLock := by rw [System.leave, System.leave, joint.filesLock]
  filesN := by rw [System.leave, System.leave, joint.filesN]
  positions := by
    apply update_forall joint.positions
    rintro _ ⟨rfl⟩
    exact ⟨low, high⟩

omit [DecidableEq F] in
theorem lacking_of_not_reaches {P : Type} {σ : System P Unit F} {f : F} {need : UInt32}
    (missed : ¬ Reaches σ f need) :
    ∀ file, σ.files f = some file → file.fMode &&& need ≠ need :=
  fun file opened mode => missed ⟨file, opened, mode⟩

omit [DecidableEq F] in
theorem reaches_lock (joint : Joint kept σ τ υ) (f : F) (need : UInt32) :
    Reaches τ f need ↔ Reaches σ f need := by
  unfold Reaches
  rw [joint.filesLock]

omit [DecidableEq F] in
theorem reaches_n (joint : Joint kept σ τ υ) (f : F) (need : UInt32) :
    Reaches υ f need ↔ Reaches σ f need := by
  unfold Reaches
  rw [joint.filesN]

theorem refused_agree (joint : Joint kept σ τ υ) {f : F} {need : UInt32}
    (missed : ¬ Reaches υ f need)
    (single : Single.PcdDevice → Int64 → Outcome (CallResult Single.PcdDevice))
    (lock : Lock.PcdDevice → Int64 → Outcome (CallResult Lock.PcdDevice))
    (multi : PcdN.PcdevPrivateData → Int64 → Outcome (CallResult PcdN.PcdevPrivateData)) :
    σ.call f need single = .done (σ, ⟨-EBADF, []⟩) ∧
    τ.call f need lock = .done (τ, ⟨-EBADF, []⟩) ∧
    υ.call f need multi = .done (υ, ⟨-EBADF, []⟩) := by
  have missed' := mt (reaches_n joint f need).mpr missed
  have missed'' := mt (reaches_lock joint f need).mp missed'
  exact ⟨call_refused (lacking_of_not_reaches missed'),
    call_refused (lacking_of_not_reaches missed''), call_refused (lacking_of_not_reaches missed)⟩

theorem open_agree (joint : Joint kept σ τ υ) (f : F) (d : Unit) (fMode : UInt32) :
    StepsAgree kept σ τ υ (.openFile f d fMode) := by
  obtain ⟨b, dev, single, lock, multi, buffer, size, perm, length⟩ := joint.device
  have permitted : PcdN.pcdFops.openFile dev fMode = 0 := by
    change checkPermission dev.perm fMode = 0
    rw [checkPermission, if_pos perm]
  simp only [StepsAgree, vfsStep, vfsOpen, joint.filesLock, joint.filesN]
  cases opened : σ.files f with
  | some file => exact ⟨σ, τ, υ, _, rfl, rfl, rfl, joint⟩
  | none =>
    simp only [single, lock, multi, permitted]
    refine ⟨_, _, _, _, rfl, rfl, rfl, joint.device, rfl, rfl, ?_⟩
    apply update_forall joint.positions
    rintro _ ⟨rfl⟩
    exact ⟨Int.le_refl 0, (by decide : (0 : Int64).toInt ≤ 512)⟩

theorem release_agree (joint : Joint kept σ τ υ) (f : F) :
    StepsAgree kept σ τ υ (.release f) := by
  refine ⟨_, _, _, _, rfl, rfl, rfl, joint.device, ?_, ?_, ?_⟩
  · rw [joint.filesLock]
  · rw [joint.filesN]
  · exact update_forall joint.positions nofun

theorem lseek_agree (joint : Joint kept σ τ υ) {f : F} (closed : υ.files f = none)
    (offset : Int64) (whence : Int32) : StepsAgree kept σ τ υ (.lseek f offset whence) := by
  have missed : ¬ Reaches υ f 0 := by
    rintro ⟨file, opened, _⟩
    cases closed.symm.trans opened
  obtain ⟨single, lock, multi⟩ := refused_agree joint missed
    (fun dev fPos => .done (vfsLlseek Single.pcdFops offset whence dev fPos))
    (fun dev fPos => .done (vfsLlseek Lock.pcdFops offset whence dev fPos))
    (fun dev fPos => .done (vfsLlseek PcdN.pcdFops offset whence dev fPos))
  exact ⟨σ, τ, υ, _, single, lock, multi, joint⟩

theorem called_agree (joint : Joint kept σ τ υ) {f : F} {file : OpenFile Unit} {need : UInt32}
    (opened : υ.files f = some file) (mode : file.fMode &&& need = need) {b : List UInt8}
    {dev dev' : PcdN.PcdevPrivateData} (single : σ.devs () = some ⟨b⟩)
    (lock : τ.devs () = some ⟨b, kept⟩) (multi : υ.devs () = some dev)
    {body₁ : Single.PcdDevice → Int64 → Outcome (CallResult Single.PcdDevice)}
    {body₂ : Lock.PcdDevice → Int64 → Outcome (CallResult Lock.PcdDevice)}
    {body₃ : PcdN.PcdevPrivateData → Int64 → Outcome (CallResult PcdN.PcdevPrivateData)}
    {kept' : Bool} {ret : Int64} {out : List UInt8} {moved : Int64}
    (one : body₁ ⟨b⟩ file.fPos = .done ⟨⟨dev'.buffer⟩, ret, out, moved⟩)
    (two : body₂ ⟨b, kept⟩ file.fPos = .done ⟨⟨dev'.buffer, kept'⟩, ret, out, moved⟩)
    (three : body₃ dev file.fPos = .done ⟨dev', ret, out, moved⟩)
    (size : PcdN.maxSize dev' = 512) (perm : dev'.perm = RDWR) (length : dev'.buffer.length = 512)
    (within : 0 ≤ moved.toInt ∧ moved.toInt ≤ 512) :
    ∃ σ' τ' υ' reply,
      σ.call f need (fun dev fPos => (body₁ dev fPos).map (storeBack fPos)) = .done (σ', reply) ∧
      τ.call f need (fun dev fPos => (body₂ dev fPos).map (storeBack fPos)) = .done (τ', reply) ∧
      υ.call f need (fun dev fPos => (body₃ dev fPos).map (storeBack fPos)) = .done (υ', reply) ∧
      Joint kept' σ' τ' υ' := by
  have opened₁ : σ.files f = some file := joint.filesN ▸ opened
  have opened₂ : τ.files f = some file := joint.filesLock ▸ opened₁
  have before := joint.positions f file opened₁
  refine ⟨_, _, _, _, call_done opened₁ mode single one, call_done opened₂ mode lock two,
    call_done opened mode multi three, ?_⟩
  apply joint_leave joint kept' rfl size perm length
  · split
    · exact within.1
    · exact before.1
  · split
    · exact within.2
    · exact before.2

theorem joint_placed {b : List UInt8} (length : b.length = 512) {fPos : Int64}
    (low : 0 ≤ fPos.toInt) (high : fPos.toInt ≤ 512) : Placed 512 b fPos := by
  have size : (512 : Int32).toInt = 512 := rfl
  exact ⟨low, by omega, by omega⟩

omit [DecidableEq F] in
/-- Where a call reaches its device, the three find one buffer and one position in it. -/
theorem joint_reached (joint : Joint kept σ τ υ) {f : F} {need : UInt32}
    (reaches : Reaches υ f need) : ∃ (dev : PcdN.PcdevPrivateData) (file : OpenFile Unit),
      σ.devs () = some ⟨dev.buffer⟩ ∧ τ.devs () = some ⟨dev.buffer, kept⟩ ∧
      υ.devs () = some dev ∧ PcdN.maxSize dev = 512 ∧ dev.perm = RDWR ∧
      dev.buffer.length = 512 ∧ υ.files f = some file ∧ file.fMode &&& need = need ∧
      Placed 512 dev.buffer file.fPos := by
  obtain ⟨b, dev, single, lock, multi, rfl, size, perm, length⟩ := joint.device
  obtain ⟨file, opened, mode⟩ := reaches
  obtain ⟨low, high⟩ := joint.positions f file (joint.filesN ▸ opened)
  exact ⟨dev, file, single, lock, multi, size, perm, length, opened, mode,
    joint_placed length low high⟩

theorem read_agree (joint : Joint kept σ τ υ) (f : F) (user : UserAccess) (count : Count)
    (ready : kept = true → ¬ Reaches υ f FMODE_READ) :
    StepsAgree kept σ τ υ (.read f user count) := by
  by_cases reaches : Reaches υ f FMODE_READ
  · cases kept with
    | true => exact absurd reaches (ready rfl)
    | false =>
      obtain ⟨dev, file, single, lock, multi, size, perm, length, opened, mode, placed⟩ :=
        joint_reached joint reaches
      obtain ⟨r, result, reads⟩ := readBody_reads user placed count.property
      have one : Single.pcdFops.read ⟨dev.buffer⟩ user count.val file.fPos =
          .done ⟨⟨dev.buffer⟩, r.ret, r.out, r.fPos⟩ := by
        change (readBody 512 dev.buffer user count.val file.fPos).map _ = _
        rw [result]
        rfl
      have two : Lock.pcdFops.read ⟨dev.buffer, false⟩ user count.val file.fPos =
          .done ⟨⟨dev.buffer, false⟩, r.ret, r.out, r.fPos⟩ := by
        apply (lockRead_free _ _ _ _).trans
        change (readBody 512 dev.buffer user count.val file.fPos).map _ = _
        rw [result]
        rfl
      have three : PcdN.pcdFops.read dev user count.val file.fPos =
          .done ⟨dev, r.ret, r.out, r.fPos⟩ := by
        change (readBody (PcdN.maxSize dev) dev.buffer user count.val file.fPos).map _ = _
        rw [size, result]
        rfl
      exact called_agree joint opened mode single lock multi one two three size perm length
        (reads_within placed reads)
  · obtain ⟨single, lock, multi⟩ := refused_agree joint reaches
      (fun dev fPos => (Single.pcdFops.read dev user count.val fPos).map (storeBack fPos))
      (fun dev fPos => (Lock.pcdFops.read dev user count.val fPos).map (storeBack fPos))
      (fun dev fPos => (PcdN.pcdFops.read dev user count.val fPos).map (storeBack fPos))
    exact ⟨σ, τ, υ, _, single, lock, multi, joint⟩

theorem full_iff {b : List UInt8} {fPos : Int64} (placed : Placed 512 b fPos) (buff : UserBytes) :
    adjustCount 512 fPos buff.count = 0 ↔ buff.bytes = [] ∨ fPos.toInt = 512 := by
  have small : buff.count.toNat < 2 ^ 63 := buff.toNat_count ▸ buff.small
  have len := adjustCount_span placed.nonneg placed.within small
  have size : (512 : Int32).toInt = 512 := rfl
  have zero : (0 : UInt64).toNat = 0 := rfl
  have within := placed.within
  rw [← UInt64.toNat_inj, len, zero, span, buff.toNat_count, size,
    ← List.length_eq_zero_iff]
  rw [size] at within
  omega

theorem write_agree (joint : Joint kept σ τ υ) (f : F) (user : UserAccess) (buff : UserBytes)
    (ready : kept = true → ¬ Reaches υ f FMODE_WRITE) :
    StepsAgree (keptAfter υ kept (.write f user buff)) σ τ υ (.write f user buff) := by
  by_cases reaches : Reaches υ f FMODE_WRITE
  · cases kept with
    | true => exact absurd reaches (ready rfl)
    | false =>
      obtain ⟨dev, file, single, lock, multi, size, perm, length, opened, mode, placed⟩ :=
        joint_reached joint reaches
      have small : buff.count.toNat < 2 ^ 63 := buff.toNat_count ▸ buff.small
      obtain ⟨r, result, writes⟩ := writeBody_writes buff.bytes user placed small
      have keeps : keptAfter υ false (.write f user buff) =
          decide (adjustCount 512 file.fPos buff.count = 0) := by
        simp [keptAfter, opened, mode, full_iff placed]
      have one : Single.pcdFops.write ⟨dev.buffer⟩ user buff.bytes buff.count file.fPos =
          .done ⟨⟨r.buffer⟩, r.ret, [], r.fPos⟩ := by
        change (writeBody 512 dev.buffer user buff.bytes buff.count file.fPos).map _ = _
        rw [result]
        rfl
      have two : Lock.pcdFops.write ⟨dev.buffer, false⟩ user buff.bytes buff.count file.fPos =
          .done ⟨⟨r.buffer, keptAfter υ false (.write f user buff)⟩, r.ret, [], r.fPos⟩ := by
        apply (lockWrite_free _ _ _ _ _).trans
        change (writeBody 512 dev.buffer user buff.bytes buff.count file.fPos).map _ = _
        rw [result, keeps]
        rfl
      have three : PcdN.pcdFops.write dev user buff.bytes buff.count file.fPos =
          .done ⟨{ dev with buffer := r.buffer }, r.ret, [], r.fPos⟩ := by
        change (writeBody (PcdN.maxSize dev) dev.buffer user buff.bytes buff.count
          file.fPos).map _ = _
        rw [size, result]
        rfl
      have same_length : r.buffer.length = 512 := (writes_length placed writes).trans length
      exact called_agree joint opened mode single lock multi one two three size perm same_length
        (writes_within placed writes)
  · obtain ⟨single, lock, multi⟩ := refused_agree joint reaches
      (fun dev fPos => (Single.pcdFops.write dev user buff.bytes buff.count fPos).map
        (storeBack fPos))
      (fun dev fPos => (Lock.pcdFops.write dev user buff.bytes buff.count fPos).map
        (storeBack fPos))
      (fun dev fPos => (PcdN.pcdFops.write dev user buff.bytes buff.count fPos).map
        (storeBack fPos))
    have keeps : keptAfter υ kept (.write f user buff) = kept := by
      cases opened : υ.files f with
      | none => simp [keptAfter, opened]
      | some file =>
        have lacking := lacking_of_not_reaches reaches file opened
        simp [keptAfter, opened, lacking]
    rw [keeps]
    exact ⟨σ, τ, υ, _, single, lock, multi, joint⟩

theorem step_agree (joint : Joint kept σ τ υ) {op : Op Unit F} (inStep : OpInStep υ kept op) :
    StepsAgree (keptAfter υ kept op) σ τ υ op := by
  cases op with
  | openFile f d fMode => exact open_agree joint f d fMode
  | release f => exact release_agree joint f
  | lseek f offset whence => exact lseek_agree joint inStep offset whence
  | read f user count => exact read_agree joint f user count inStep
  | write f user buff => exact write_agree joint f user buff inStep

omit [DecidableEq F] in
/-- A read or write out of step finds the mutex kept, and its file open in pcd_lock.c. -/
theorem kept_opened (joint : Joint kept σ τ υ) {f : F} {need : UInt32}
    (out : ¬ (kept = true → ¬ Reaches υ f need)) :
    kept = true ∧ ∃ file, τ.files f = some file ∧ file.fMode &&& need = need := by
  obtain ⟨locked, reaches⟩ := Classical.not_imp.mp out
  obtain ⟨file, opened, mode⟩ := not_not.mp reaches
  exact ⟨locked, file, joint.filesLock ▸ joint.filesN ▸ opened, mode⟩

/-- A call out of step: two of the tables answer it differently, or one waits. -/
theorem step_parts (joint : Joint kept σ τ υ) {op : Op Unit F} (out : ¬ OpInStep υ kept op) :
    (∃ σ' υ' reply reply', vfsStep Single.pcdFops σ op = .done (σ', reply) ∧
      vfsStep PcdN.pcdFops υ op = .done (υ', reply') ∧ reply ≠ reply') ∨
    vfsStep Lock.pcdFops τ op = .blocks := by
  obtain ⟨b, dev, single, lock, multi, rfl, size, perm, length⟩ := joint.device
  cases op with
  | openFile f d fMode => exact absurd trivial out
  | release f => exact absurd trivial out
  | lseek f offset whence =>
    cases openedN : υ.files f with
    | none => exact absurd openedN out
    | some file =>
      have opened : σ.files f = some file := joint.filesN ▸ openedN
      have mode : file.fMode &&& 0 = 0 := by simp
      left
      have one : vfsStep Single.pcdFops σ (.lseek f offset whence) =
          .done (σ.leave f file ⟨dev.buffer⟩ file.fPos, ⟨-ESPIPE, []⟩) := by
        simp only [vfsStep]
        rw [call_granted opened mode single]
        rfl
      have three : vfsStep PcdN.pcdFops υ (.lseek f offset whence) =
          .done (υ.leave f file dev (lseekBody (PcdN.maxSize dev) file.fPos offset whence).2,
            ⟨(lseekBody (PcdN.maxSize dev) file.fPos offset whence).1, []⟩) := by
        simp only [vfsStep]
        rw [call_granted openedN mode multi]
        rfl
      refine ⟨_, _, _, _, one, three, ?_⟩
      rcases lseekBody_seeks (PcdN.maxSize dev) file.fPos offset whence with
        failed | ⟨target, moved, low, _⟩
      · rw [failed]
        intro same
        have ret : -ESPIPE = -EINVAL := congrArg Reply.ret same
        exact absurd ret (by decide)
      · rw [moved]
        intro same
        cases same
        exact absurd low (by decide)
  | read f user count =>
    obtain ⟨rfl, file, opened, mode⟩ := kept_opened joint out
    right
    simp only [vfsStep]
    rw [call_granted opened mode lock]
    rfl
  | write f user buff =>
    obtain ⟨rfl, file, opened, mode⟩ := kept_opened joint out
    right
    simp only [vfsStep]
    rw [call_granted opened mode lock]
    rfl

end Steps

theorem joint_agree_iff {kept : Bool} {σ : System Single.PcdDevice Unit F}
    {τ : System Lock.PcdDevice Unit F} {υ : System PcdN.PcdevPrivateData Unit F}
    (joint : Joint kept σ τ υ) (ops : List (Op Unit F)) :
    AgreeFrom σ τ υ ops ↔ InStep υ kept ops := by
  induction ops generalizing kept σ τ υ with
  | nil =>
    obtain ⟨b, dev, single, lock, multi, buffer, _⟩ := joint.device
    refine ⟨fun _ => trivial, fun _ => ⟨σ, τ, υ, [], b, rfl, rfl, rfl, ?_, ?_, ?_⟩⟩
    · rw [single, Option.map_some]
    · rw [lock, Option.map_some]
    · rw [multi, Option.map_some, buffer]
  | cons op ops ih =>
    by_cases inStep : OpInStep υ kept op
    · obtain ⟨σ', τ', υ', reply, one, two, three, joint'⟩ := step_agree joint inStep
      have rest : InStep υ kept (op :: ops) ↔ InStep υ' (keptAfter υ kept op) ops := by
        constructor
        · exact fun whole => whole.2 υ' reply three
        · refine fun after => ⟨inStep, fun υ'' reply' done => ?_⟩
          cases Outcome.done.inj (three.symm.trans done)
          exact after
      rw [rest, ← ih joint']
      constructor
      · rintro ⟨_, _, _, replies, b, first, second, third, same⟩
        obtain ⟨_, _, _, step, restOne, rfl⟩ := vfsRun_cons.mp first
        cases Outcome.done.inj (one.symm.trans step)
        obtain ⟨_, _, _, step, restTwo, result⟩ := vfsRun_cons.mp second
        cases Outcome.done.inj (two.symm.trans step)
        cases result
        obtain ⟨_, _, _, step, restThree, result⟩ := vfsRun_cons.mp third
        cases Outcome.done.inj (three.symm.trans step)
        cases result
        exact ⟨_, _, _, _, b, restOne, restTwo, restThree, same⟩
      · rintro ⟨_, _, _, replies, b, first, second, third, same⟩
        exact ⟨_, _, _, reply :: replies, b, vfsRun_cons.mpr ⟨_, _, _, one, first, rfl⟩,
          vfsRun_cons.mpr ⟨_, _, _, two, second, rfl⟩,
          vfsRun_cons.mpr ⟨_, _, _, three, third, rfl⟩, same⟩
    · refine ⟨fun agree => ?_, fun whole => absurd whole.1 inStep⟩
      obtain ⟨_, _, _, replies, b, first, second, third, _⟩ := agree
      obtain ⟨_, _, _, stepOne, _, rfl⟩ := vfsRun_cons.mp first
      obtain ⟨_, _, _, stepTwo, _, _⟩ := vfsRun_cons.mp second
      obtain ⟨_, _, _, stepThree, _, result⟩ := vfsRun_cons.mp third
      rcases step_parts joint inStep with ⟨_, _, _, _, one, three, differ⟩ | waits
      · cases Outcome.done.inj (one.symm.trans stepOne)
        cases Outcome.done.inj (three.symm.trans stepThree)
        exact absurd (List.cons.inj result).1 differ
      · cases waits.symm.trans stepTwo

omit [DecidableEq F] in
theorem fresh_joint (serialNumber : String) :
    Joint false (freshSingle : System Single.PcdDevice Unit F) freshLock
      (freshPcdN serialNumber) where
  device := ⟨List.replicate 512 0, PcdN.staticDevice 512 serialNumber RDWR, rfl, rfl, rfl, rfl, rfl,
    rfl, List.length_replicate⟩
  filesLock := rfl
  filesN := rfl
  positions _ _ opened := nomatch opened

/-- The tables agree on exactly the sequences that stay in step: no seek on an open
file, and no read or write that reaches a driver after a write without room. -/
theorem tables_agree_iff (serialNumber : String) (ops : List (Op Unit F)) :
    AgreeFrom freshSingle freshLock (freshPcdN serialNumber) ops ↔
      InStep (freshPcdN serialNumber) false ops :=
  joint_agree_iff (fresh_joint serialNumber) ops

/-- A seek to the start, and a read after a write of no bytes. -/
theorem tables_part :
    ¬ AgreeFrom (freshSingle : System Single.PcdDevice Unit Unit) freshLock
      (freshPcdN "PCDEV4XYZ123") [.openFile () () 3, .lseek () 0 SEEK_SET] ∧
    vfsRun Lock.pcdFops (freshLock : System Lock.PcdDevice Unit Unit)
      [.openFile () () 3, .write () .full ⟨[], by decide⟩, .read () .full ⟨1, by decide⟩] =
        .blocks := by
  refine ⟨?_, rfl⟩
  rintro ⟨_, _, _, replies, b, first, _, third, _⟩
  have single : replies = [⟨0, []⟩, ⟨-ESPIPE, []⟩] :=
    congrArg Prod.snd (Outcome.done.inj first).symm
  have multi : replies = [⟨0, []⟩, ⟨0, []⟩] :=
    congrArg Prod.snd (Outcome.done.inj third).symm
  exact absurd (single.symm.trans multi) (by decide)

end MadDriver.Pcd

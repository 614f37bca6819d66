import MadDriver.Core.Table
import MadDriver.Core.Transition
import MadDriver.Pcd.Body

/-! Any number of devices of one driver, any number of open files on them, and the
calls the VFS makes through the driver's table. -/
namespace MadDriver.Pcd
open Kernel Transition Function

structure OpenFile (D : Type) where
  dev : D
  fMode : UInt32
  fPos : Int64
  deriving Repr, DecidableEq

structure System (P D F : Type) where
  devs : D → Option P
  files : F → Option (OpenFile D)

/-- The VFS refuses a count above SSIZE_MAX before it calls the driver. -/
abbrev Count := {count : UInt64 // count.toNat < 2 ^ 63}

structure UserBytes where
  bytes : List UInt8
  small : bytes.length < 2 ^ 63

def UserBytes.count (w : UserBytes) : UInt64 := .ofNat w.bytes.length

theorem UserBytes.toNat_count (w : UserBytes) : w.count.toNat = w.bytes.length := by
  have small := w.small
  simp only [UserBytes.count, UInt64.toNat_ofNat']
  omega

inductive Op (D F : Type) where
  | openFile (f : F) (d : D) (fMode : UInt32)
  | release (f : F)
  | lseek (f : F) (offset : Int64) (whence : Int32)
  | read (f : F) (user : UserAccess) (count : Count)
  | write (f : F) (user : UserAccess) (buff : UserBytes)

def Op.handle {D F : Type} : Op D F → F
  | .openFile f _ _ | .release f | .lseek f _ _ | .read f _ _ | .write f _ _ => f

def Op.isRead {D F : Type} : Op D F → Bool
  | .read _ _ _ => true
  | _ => false

structure Reply where
  ret : Int64
  out : List UInt8
  deriving Repr, DecidableEq

section Calls

variable {P D F : Type} [DecidableEq D] [DecidableEq F]

def System.leave (σ : System P D F) (f : F) (file : OpenFile D) (dev : P) (fPos : Int64) :
    System P D F where
  devs := update σ.devs file.dev (some dev)
  files := update σ.files f (some { file with fPos := fPos })

def System.call (σ : System P D F) (f : F) (need : UInt32)
    (body : P → Int64 → Outcome (CallResult P)) : Outcome (System P D F × Reply) :=
  match σ.files f with
  | none => .done (σ, ⟨-EBADF, []⟩)
  | some file =>
    if file.fMode &&& need ≠ need then .done (σ, ⟨-EBADF, []⟩)
    else
      match σ.devs file.dev with
      | none => .done (σ, ⟨- ENXIO, []⟩)
      | some dev => (body dev file.fPos).map fun r => (σ.leave f file r.data r.fPos, ⟨r.ret, r.out⟩)

/-- The VFS stores the position of a read or write back only on success. -/
def storeBack (fPos : Int64) (r : CallResult P) : CallResult P :=
  if 0 ≤ r.ret then r else { r with fPos := fPos }

def vfsLlseek (fops : FileOperations P) (offset : Int64) (whence : Int32) (dev : P)
    (fPos : Int64) : CallResult P :=
  match fops.llseek with
  | none => ⟨dev, -ESPIPE, [], fPos⟩
  | some llseek => ⟨dev, (llseek dev fPos offset whence).1, [], (llseek dev fPos offset whence).2⟩

def vfsOpen (fops : FileOperations P) (σ : System P D F) (f : F) (d : D) (fMode : UInt32) :
    System P D F × Reply :=
  match σ.files f, σ.devs d with
  | some _, _ => (σ, ⟨-EMFILE, []⟩)
  | none, none => (σ, ⟨- ENXIO, []⟩)
  | none, some dev =>
    if fops.openFile dev fMode = 0 then
      ({ σ with files := update σ.files f (some ⟨d, fMode, 0⟩) }, ⟨0, []⟩)
    else (σ, ⟨fops.openFile dev fMode, []⟩)

def vfsStep (fops : FileOperations P) (σ : System P D F) : Op D F → Outcome (System P D F × Reply)
  | .openFile f d fMode => .done (vfsOpen fops σ f d fMode)
  | .release f => .done ({ σ with files := update σ.files f none }, ⟨0, []⟩)
  | .lseek f offset whence =>
    σ.call f 0 fun dev fPos => .done (vfsLlseek fops offset whence dev fPos)
  | .read f user count =>
    σ.call f FMODE_READ fun dev fPos =>
      (fops.read dev user count.val fPos).map (storeBack fPos)
  | .write f user buff =>
    σ.call f FMODE_WRITE fun dev fPos =>
      (fops.write dev user buff.bytes buff.count fPos).map (storeBack fPos)

theorem call_refused {σ : System P D F} {f : F} {need : UInt32}
    {body : P → Int64 → Outcome (CallResult P)}
    (lacking : ∀ file, σ.files f = some file → file.fMode &&& need ≠ need) :
    σ.call f need body = .done (σ, ⟨-EBADF, []⟩) := by
  unfold System.call
  split
  · rfl
  · rename_i file opened
    rw [if_pos (lacking file opened)]

theorem call_granted {σ : System P D F} {f : F} {need : UInt32}
    {body : P → Int64 → Outcome (CallResult P)} {file : OpenFile D} {dev : P}
    (opened : σ.files f = some file) (mode : file.fMode &&& need = need)
    (device : σ.devs file.dev = some dev) :
    σ.call f need body = (body dev file.fPos).map
      fun r => (σ.leave f file r.data r.fPos, ⟨r.ret, r.out⟩) := by
  simp [System.call, opened, mode, device]

omit [DecidableEq D] [DecidableEq F] in
theorem storeBack_eq (dev : P) (ret : Int64) (out : List UInt8) (fPos moved : Int64) :
    storeBack fPos ⟨dev, ret, out, moved⟩ = ⟨dev, ret, out, if 0 ≤ ret then moved else fPos⟩ := by
  unfold storeBack
  split <;> rfl

theorem call_done {σ : System P D F} {f : F} {need : UInt32}
    {body : P → Int64 → Outcome (CallResult P)} {file : OpenFile D} {dev dev' : P} {ret : Int64}
    {out : List UInt8} {moved : Int64} (opened : σ.files f = some file)
    (mode : file.fMode &&& need = need) (device : σ.devs file.dev = some dev)
    (result : body dev file.fPos = .done ⟨dev', ret, out, moved⟩) :
    σ.call f need (fun dev fPos => (body dev fPos).map (storeBack fPos)) =
      .done (σ.leave f file dev' (if 0 ≤ ret then moved else file.fPos), ⟨ret, out⟩) := by
  rw [call_granted opened mode device, result]
  simp only [Outcome.map, Outcome.bind, storeBack_eq]

end Calls

/-- What an observer of a call sees: the file as it was, the call and the answer. -/
structure Event (D F : Type) where
  op : Op D F
  file : Option (OpenFile D)
  reply : Reply

def Step (drv : Driver) {D F : Type} [DecidableEq D] [DecidableEq F]
    (σ : System drv.Data D F) (e : Event D F) (σ' : System drv.Data D F) : Prop :=
  vfsStep drv.fops σ e.op = .done (σ', e.reply) ∧ e.file = σ.files e.op.handle

end MadDriver.Pcd

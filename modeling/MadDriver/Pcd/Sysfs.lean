import MadDriver.Core.CInt
import MadDriver.Core.Decimal
import MadDriver.Pcd.Drivers
import MadDriver.Pcd.System

/-! Driver 006: the file operations, and the attribute `max_size` through which a
second path reaches the same device. -/
namespace MadDriver.Pcd.Sysfs
open Kernel Function

def showMaxSize (dev : PcdevPrivateData) : List UInt8 :=
  formatInt dev.pdata.size.toInt ++ [ascii '\n']

/-- The result of `krealloc` is stored whatever it is. -/
def storeMaxSize (dev : PcdevPrivateData) (grant : HeapGrant) (buf : List UInt8) :
    PcdevPrivateData × Int64 :=
  match kstrtol (cString buf) 10 with
  | .error ret => (dev, ret)
  | .ok result =>
    let size := result.toInt32
    ({ dev with
        pdata := { dev.pdata with size := size }
        buffer := krealloc grant dev.buffer size.toInt64.toUInt64 }, .ofNat buf.length)

theorem size_allocatable {size : Int32} (nonneg : 0 ≤ size.toInt) :
    Allocatable size.toInt64.toUInt64 := by
  have bound := size.toInt_lt
  have value := CInt.toNat_size_of_nonneg nonneg
  change _ < 2 ^ 63
  omega

theorem newPrivateData_granted {pdata : PcdevPlatformData} (nonneg : 0 ≤ pdata.size.toInt)
    (devNum : Int) : newPrivateData true pdata devNum =
      some ⟨pdata, List.replicate pdata.size.toInt.toNat 0, devNum⟩ := by
  rw [newPrivateData, devmKzalloc, if_pos ⟨rfl, size_allocatable nonneg⟩,
    CInt.toNat_size_of_nonneg nonneg]
  rfl

inductive SysfsOp (D F : Type) where
  | file (op : Op D F)
  | probe (d : D) (granted : Bool) (pdata : PcdevPlatformData) (devNum : Int)
  | storeMaxSize (d : D) (grant : HeapGrant) (buf : List UInt8)

variable {D F : Type} [DecidableEq D] [DecidableEq F]

/-- A probe of a device that is not bound, as far as the file operations see it. -/
def probeDevice (σ : System PcdevPrivateData D F) (d : D) (granted : Bool)
    (pdata : PcdevPlatformData) (devNum : Int) : System PcdevPrivateData D F × Reply :=
  match σ.devs d, newPrivateData granted pdata devNum with
  | some _, _ => (σ, ⟨-EEXIST, []⟩)
  | none, none => (σ, ⟨-ENOMEM, []⟩)
  | none, some dev => ({ σ with devs := update σ.devs d (some dev) }, ⟨0, []⟩)

def storeAttribute (σ : System PcdevPrivateData D F) (d : D) (grant : HeapGrant)
    (buf : List UInt8) : System PcdevPrivateData D F × Reply :=
  match σ.devs d with
  | none => (σ, ⟨- ENXIO, []⟩)
  | some dev =>
    ({ σ with devs := update σ.devs d (some (storeMaxSize dev grant buf).1) },
      ⟨(storeMaxSize dev grant buf).2, []⟩)

def sysfsStep (σ : System PcdevPrivateData D F) :
    SysfsOp D F → Outcome (System PcdevPrivateData D F × Reply)
  | .file op => vfsStep pcdFops σ op
  | .probe d granted pdata devNum => .done (probeDevice σ d granted pdata devNum)
  | .storeMaxSize d grant buf => .done (storeAttribute σ d grant buf)

structure SysfsEvent (D F : Type) where
  op : SysfsOp D F
  file : Option (OpenFile D)
  reply : Reply

def SysfsOp.file? (σ : System PcdevPrivateData D F) : SysfsOp D F → Option (OpenFile D)
  | .file op => σ.files op.handle
  | _ => none

def SysfsStep (σ : System PcdevPrivateData D F) (e : SysfsEvent D F)
    (σ' : System PcdevPrivateData D F) : Prop :=
  sysfsStep σ e.op = .done (σ', e.reply) ∧ e.file = e.op.file? σ

def unprobed : System PcdevPrivateData D F := ⟨fun _ => none, fun _ => none⟩

end MadDriver.Pcd.Sysfs

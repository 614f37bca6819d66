import MadDriver.Pcd.Drivers

/-! What the platform drivers register with the kernel: character devices, each a
`struct cdev` inside the private data of a platform device, and the devices of
the class. The outcome of every kernel call is given by the caller. -/
namespace MadDriver.Bus
open Kernel Pcd

/-- `struct cdev`, known by the platform device whose private data it lies in. -/
structure Cdev (D : Type) where
  owner : D
  devNum : Int
  deriving Repr, DecidableEq

/-- A device of the class: the number in its name `pcdev-%d`, and its `dev_t`. -/
structure ClassDevice where
  number : Int
  devNum : Int
  deriving Repr, DecidableEq

/-- `pcdrv_data`, with what the kernel holds for the driver. -/
structure Registry (D : Type) where
  totalDevices : Int
  deviceNumBase : Int
  region : Int × Nat
  cdevs : List (Cdev D)
  classDevices : List ClassDevice
  deriving Repr, DecidableEq

abbrev ErrPtr := {code : Int64 // code < 0}

structure OfNode where
  serialNumber : Option String
  size : Option UInt32
  perm : Option UInt32
  deriving Repr, DecidableEq

structure ProbeEnv where
  ofMatch : Bool
  ofNode : Option OfNode
  platdata : Option PcdevPlatformData
  kzallocPdata : Bool
  kzallocData : Bool
  kzallocBuffer : Bool
  cdevAdd : Int64
  deviceCreate : Option ErrPtr
  sysfsCreateGroup : Int64
  deriving Repr, DecidableEq

section Calls

variable {D : Type}

def Registry.cdevAdd (r : Registry D) (cdev : Cdev D) : Registry D :=
  { r with cdevs := r.cdevs ++ [cdev] }

def Registry.cdevDel [DecidableEq D] (r : Registry D) (cdev : Cdev D) : Registry D :=
  { r with cdevs := r.cdevs.erase cdev }

/-- Sysfs refuses a second device of the same name. -/
def Registry.deviceCreate (r : Registry D) (device : ClassDevice) (failure : Option ErrPtr) :
    Except ErrPtr (Registry D) :=
  match failure with
  | some code => .error code
  | none =>
    if ∃ other ∈ r.classDevices, other.number = device.number then
      .error ⟨-EEXIST, by decide⟩
    else .ok { r with classDevices := r.classDevices ++ [device] }

def Registry.deviceDestroy (r : Registry D) (devNum : Int) : Registry D :=
  { r with classDevices := r.classDevices.eraseP (fun device => device.devNum = devNum) }

end Calls

/-- What a probe leaves, and the driver data of the device or the error it returns. -/
abbrev ProbeResult (D : Type) := Registry D × Except Int64 PcdevPrivateData

/-- From the allocation of the private data to `total_devices++`, for the number
that goes into the device number and the name. -/
def registerDevice {D : Type} [DecidableEq D] (r : Registry D) (d : D) (number : Int)
    (pdata : PcdevPlatformData) (env : ProbeEnv) : ProbeResult D :=
  if env.kzallocData = false then (r, .error (-ENOMEM))
  else
    match newPrivateData env.kzallocBuffer pdata (r.deviceNumBase + number) with
    | none => (r, .error (-ENOMEM))
    | some devData =>
      if env.cdevAdd < 0 then (r, .error env.cdevAdd)
      else
        let r := r.cdevAdd ⟨d, devData.devNum⟩
        match r.deviceCreate ⟨number, devData.devNum⟩ env.deviceCreate with
        | .error code => (r.cdevDel ⟨d, devData.devNum⟩, .error code)
        | .ok r => ({ r with totalDevices := r.totalDevices + 1 }, .ok devData)

def removeDevice {D : Type} [DecidableEq D] (r : Registry D) (d : D)
    (devData : PcdevPrivateData) : Registry D :=
  let r := (r.deviceDestroy devData.devNum).cdevDel ⟨d, devData.devNum⟩
  { r with totalDevices := r.totalDevices - 1 }

/-- `pcdev_get_platdata_from_dt`; the same function in 005 and 006. -/
def pcdevGetPlatdataFromDt (env : ProbeEnv) : Except Int64 (Option PcdevPlatformData) := do
  let some devNode := env.ofNode | return none
  if env.kzallocPdata = false then throw (-ENOMEM)
  let some serialNumber := devNode.serialNumber | throw (-EINVAL)
  let some size := devNode.size | throw (-EINVAL)
  let some perm := devNode.perm | throw (-EINVAL)
  return some ⟨size.toInt32, perm.toInt32, serialNumber⟩

structure PlatformDriver (D : Type) where
  probe : Registry D → D → Int32 → ProbeEnv → ProbeResult D
  remove : Registry D → D → PcdevPrivateData → Registry D

def MAX_DEVICES : Nat := 10

/-- `pcd_platform_driver_init`, from the answers of `alloc_chrdev_region` and
`class_create`; the same in all three drivers. -/
def pcdPlatformDriverInit {D : Type} (allocChrdevRegion : Except ErrPtr Int)
    (classCreate : Option ErrPtr) : Except Int64 (Registry D) :=
  match allocChrdevRegion, classCreate with
  | .error ret, _ => .error ret
  | .ok _, some code => .error code
  | .ok base, none => .ok ⟨0, base, (base, MAX_DEVICES), [], []⟩

variable {D : Type} [DecidableEq D]

/-! 004, pcd_platform_driver.c. -/
namespace Platform

def pcdPlatformDriverProbe (r : Registry D) (d : D) (id : Int32) (env : ProbeEnv) :
    ProbeResult D :=
  match env.platdata with
  | none => (r, .error (-EINVAL))
  | some pdata => registerDevice r d id.toInt pdata env

def pcdPlatformDriverRemove (r : Registry D) (d : D) (devData : PcdevPrivateData) : Registry D :=
  removeDevice r d devData

def pcdPlatformDriver : PlatformDriver D where
  probe := pcdPlatformDriverProbe
  remove := pcdPlatformDriverRemove

end Platform

/-- The count of the devices serves as the number of the next one. -/
def pickNumber (r : Registry D) : Int := r.totalDevices

def findPlatdata (env : ProbeEnv) : Except Int64 (Option PcdevPlatformData) :=
  if env.ofMatch then pcdevGetPlatdataFromDt env else .ok env.platdata

/-! 005, pcd_platform_driver_dt.c. -/
namespace PlatformDt

def pcdPlatformDriverProbe (r : Registry D) (d : D) (_id : Int32) (env : ProbeEnv) :
    ProbeResult D :=
  match findPlatdata env with
  | .error ret => (r, .error ret)
  | .ok none => (r, .error (-EINVAL))
  | .ok (some pdata) => registerDevice r d (pickNumber r) pdata env

def pcdPlatformDriverRemove (r : Registry D) (d : D) (devData : PcdevPrivateData) : Registry D :=
  removeDevice r d devData

def pcdPlatformDriver : PlatformDriver D where
  probe := pcdPlatformDriverProbe
  remove := pcdPlatformDriverRemove

end PlatformDt

/-! 006, pcd_platform_driver_dt_sysfs.c. -/
namespace Sysfs

def pcdPlatformDriverProbe (r : Registry D) (d : D) (_id : Int32) (env : ProbeEnv) :
    ProbeResult D :=
  match findPlatdata env with
  | .error ret => (r, .error ret)
  | .ok none => (r, .error (-EINVAL))
  | .ok (some pdata) =>
    match registerDevice r d (pickNumber r) pdata env with
    | (r, .error ret) => (r, .error ret)
    | (r, .ok devData) =>
      -- pcd_sysfs_create_files
      if env.sysfsCreateGroup ≠ 0 then
        (r.deviceDestroy devData.devNum, .error env.sysfsCreateGroup)
      else (r, .ok devData)

def pcdPlatformDriverRemove (r : Registry D) (d : D) (devData : PcdevPrivateData) : Registry D :=
  removeDevice r d devData

def pcdPlatformDriver : PlatformDriver D where
  probe := pcdPlatformDriverProbe
  remove := pcdPlatformDriverRemove

end Sysfs

/-! The driver core: it probes a device no driver is bound to, binds the device when
the probe returns 0, and removes bound devices only. -/

structure Binding (D : Type) where
  dev : D
  data : PcdevPrivateData

structure BusState (D : Type) where
  registry : Registry D
  bound : List (Binding D)

inductive BusOp (D : Type) where
  | probe (d : D) (id : Int32) (env : ProbeEnv)
  | remove (d : D)

structure BusEvent (D : Type) where
  op : BusOp D
  ret : Int64

def busStep (drv : PlatformDriver D) (s : BusState D) : BusOp D → Option (BusState D × Int64)
  | .probe d id env =>
    match s.bound.find? (fun b => b.dev = d), drv.probe s.registry d id env with
    | some _, _ => none
    | none, (r, .error ret) => some (⟨r, s.bound⟩, ret)
    | none, (r, .ok devData) => some (⟨r, s.bound ++ [⟨d, devData⟩]⟩, 0)
  | .remove d =>
    match s.bound.find? (fun b => b.dev = d) with
    | none => none
    | some b => some (⟨drv.remove s.registry d b.data, s.bound.eraseP (fun b => b.dev = d)⟩, 0)

def BusStep (drv : PlatformDriver D) (s : BusState D) (e : BusEvent D) (s' : BusState D) : Prop :=
  busStep drv s e.op = some (s', e.ret)

end MadDriver.Bus

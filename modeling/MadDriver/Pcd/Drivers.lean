import MadDriver.Pcd.Body

/-! The drivers' own operations and tables, from the single device of 002 to the
resizable one of 006. -/
namespace MadDriver.Pcd
open Kernel

/-! 002, pcd.c: one device of 512 bytes. -/
namespace Single

def DEV_MEM_SIZE : Int32 := 512

structure PcdDevice where
  deviceBuffer : List UInt8
  deriving Repr, DecidableEq

/-- Defined in the source, but no table names it. -/
def pcdLseek (_ : PcdDevice) (fPos offset : Int64) (whence : Int32) : Int64 × Int64 :=
  lseekBody DEV_MEM_SIZE fPos offset whence

def pcdRead (dev : PcdDevice) (user : UserAccess) (count : UInt64) (fPos : Int64) :
    Outcome (CallResult PcdDevice) :=
  (readBody DEV_MEM_SIZE dev.deviceBuffer user count fPos).map fun r => r.leaves dev

def pcdWrite (dev : PcdDevice) (user : UserAccess) (buff : List UInt8) (count : UInt64)
    (fPos : Int64) : Outcome (CallResult PcdDevice) :=
  (writeBody DEV_MEM_SIZE dev.deviceBuffer user buff count fPos).map
    fun r => r.leaves { dev with deviceBuffer := r.buffer }

def pcdOpen (_ : PcdDevice) (_ : UInt32) : Int64 := 0

def pcdFops : FileOperations PcdDevice where
  openFile := pcdOpen
  read := pcdRead
  write := pcdWrite
  llseek := none

end Single

/-! 002, pcd_lock.c: the same device under a mutex. One exit of the write keeps it. -/
namespace Lock

def DEV_MEM_SIZE : Int32 := 512

structure PcdDevice where
  deviceBuffer : List UInt8
  pcdMutexLock : Bool
  deriving Repr, DecidableEq

def mutexUnlock (dev : PcdDevice) : PcdDevice := { dev with pcdMutexLock := false }

/-- Defined in the source, but no table names it. -/
def pcdLseek (_ : PcdDevice) (fPos offset : Int64) (whence : Int32) : Int64 × Int64 :=
  lseekBody DEV_MEM_SIZE fPos offset whence

def pcdRead (dev : PcdDevice) (user : UserAccess) (count : UInt64) (fPos : Int64) :
    Outcome (CallResult PcdDevice) :=
  if dev.pcdMutexLock then .blocks
  else
    let dev := { dev with pcdMutexLock := true }
    let count := adjustCount DEV_MEM_SIZE fPos count
    (copyToUser user dev.deviceBuffer fPos count).map fun (left, out) =>
      if left ≠ 0 then ⟨mutexUnlock dev, -EFAULT, out, fPos⟩
      else ⟨mutexUnlock dev, count.toInt64, out, fPos + count.toInt64⟩

def pcdWrite (dev : PcdDevice) (user : UserAccess) (buff : List UInt8) (count : UInt64)
    (fPos : Int64) : Outcome (CallResult PcdDevice) :=
  if dev.pcdMutexLock then .blocks
  else
    let dev := { dev with pcdMutexLock := true }
    let count := adjustCount DEV_MEM_SIZE fPos count
    -- this return stands between the lock and the unlocks
    if count = 0 then .done ⟨dev, -ENOMEM, [], fPos⟩
    else
      (copyFromUser user dev.deviceBuffer fPos buff count).map fun (left, buffer) =>
        let dev := { dev with deviceBuffer := buffer }
        if left ≠ 0 then ⟨mutexUnlock dev, -EFAULT, [], fPos⟩
        else ⟨mutexUnlock dev, count.toInt64, [], fPos + count.toInt64⟩

def pcdOpen (_ : PcdDevice) (_ : UInt32) : Int64 := 0

def pcdFops : FileOperations PcdDevice where
  openFile := pcdOpen
  read := pcdRead
  write := pcdWrite
  llseek := none

end Lock

/-! 003, pcd_n.c: a table of devices, with an `unsigned` size each. -/
namespace PcdN

structure PcdevPrivateData where
  buffer : List UInt8
  size : UInt32
  serialNumber : String
  perm : Int32
  deriving Repr, DecidableEq

def maxSize (dev : PcdevPrivateData) : Int32 := dev.size.toInt32

def MEM_SIZE_MAX_PCDEV1 : Nat := 1024
def MEM_SIZE_MAX_PCDEV2 : Nat := 512
def MEM_SIZE_MAX_PCDEV3 : Nat := 1024
def MEM_SIZE_MAX_PCDEV4 : Nat := 512

/-- The entry of a static device with `char device_buffer[size]`. -/
def staticDevice (size : Nat) (serialNumber : String) (perm : Int32) : PcdevPrivateData :=
  ⟨List.replicate size 0, .ofNat size, serialNumber, perm⟩

def pcdrvData : List PcdevPrivateData :=
  [staticDevice MEM_SIZE_MAX_PCDEV1 "PCDEV1XYZ123" RDONLY,
   staticDevice MEM_SIZE_MAX_PCDEV2 "PCDEV2XYZ123" WRONLY,
   staticDevice MEM_SIZE_MAX_PCDEV3 "PCDEV3XYZ123" RDWR,
   staticDevice MEM_SIZE_MAX_PCDEV4 "PCDEV4XYZ123" RDWR]

def pcdLseek (dev : PcdevPrivateData) (fPos offset : Int64) (whence : Int32) : Int64 × Int64 :=
  lseekBody (maxSize dev) fPos offset whence

def pcdRead (dev : PcdevPrivateData) (user : UserAccess) (count : UInt64) (fPos : Int64) :
    Outcome (CallResult PcdevPrivateData) :=
  (readBody (maxSize dev) dev.buffer user count fPos).map fun r => r.leaves dev

def pcdWrite (dev : PcdevPrivateData) (user : UserAccess) (buff : List UInt8) (count : UInt64)
    (fPos : Int64) : Outcome (CallResult PcdevPrivateData) :=
  (writeBody (maxSize dev) dev.buffer user buff count fPos).map
    fun r => r.leaves { dev with buffer := r.buffer }

def pcdOpen (dev : PcdevPrivateData) (fMode : UInt32) : Int64 :=
  checkPermission dev.perm fMode

def pcdFops : FileOperations PcdevPrivateData where
  openFile := pcdOpen
  read := pcdRead
  write := pcdWrite
  llseek := some pcdLseek

def driver : Driver where
  Data := PcdevPrivateData
  buffer := PcdevPrivateData.buffer
  maxSize := maxSize
  perm := PcdevPrivateData.perm
  setBuffer dev b := { dev with buffer := b }
  fops := pcdFops

theorem conforms : Conforms driver := by
  constructor <;> intros <;> rfl

end PcdN

/-! Private data of the platform drivers 004, 005 and 006. -/

structure PcdevPlatformData where
  size : Int32
  perm : Int32
  serialNumber : String
  deriving Repr, DecidableEq

structure PcdevPrivateData where
  pdata : PcdevPlatformData
  buffer : List UInt8
  devNum : Int
  deriving Repr, DecidableEq

def newPrivateData (granted : Bool) (pdata : PcdevPlatformData) (devNum : Int) :
    Option PcdevPrivateData :=
  (devmKzalloc granted pdata.size.toInt64.toUInt64).map fun buffer => ⟨pdata, buffer, devNum⟩

/-! 004, pcd_platform_driver.c. -/
namespace Platform

def pcdLseek (dev : PcdevPrivateData) (fPos offset : Int64) (whence : Int32) : Int64 × Int64 :=
  lseekBody dev.pdata.size fPos offset whence

def pcdRead (dev : PcdevPrivateData) (user : UserAccess) (count : UInt64) (fPos : Int64) :
    Outcome (CallResult PcdevPrivateData) :=
  (readBody dev.pdata.size dev.buffer user count fPos).map fun r => r.leaves dev

def pcdWrite (dev : PcdevPrivateData) (user : UserAccess) (buff : List UInt8) (count : UInt64)
    (fPos : Int64) : Outcome (CallResult PcdevPrivateData) :=
  (writeBody dev.pdata.size dev.buffer user buff count fPos).map
    fun r => r.leaves { dev with buffer := r.buffer }

def pcdOpen (dev : PcdevPrivateData) (fMode : UInt32) : Int64 :=
  checkPermission dev.pdata.perm fMode

def pcdFops : FileOperations PcdevPrivateData where
  openFile := pcdOpen
  read := pcdRead
  write := pcdWrite
  llseek := some pcdLseek

def driver : Driver where
  Data := PcdevPrivateData
  buffer := PcdevPrivateData.buffer
  maxSize dev := dev.pdata.size
  perm dev := dev.pdata.perm
  setBuffer dev b := { dev with buffer := b }
  fops := pcdFops

theorem conforms : Conforms driver := by
  constructor <;> intros <;> rfl

end Platform

/-! 005, pcd_platform_driver_dt.c. -/
namespace PlatformDt

def pcdLseek (dev : PcdevPrivateData) (fPos offset : Int64) (whence : Int32) : Int64 × Int64 :=
  lseekBody dev.pdata.size fPos offset whence

def pcdRead (dev : PcdevPrivateData) (user : UserAccess) (count : UInt64) (fPos : Int64) :
    Outcome (CallResult PcdevPrivateData) :=
  (readBody dev.pdata.size dev.buffer user count fPos).map fun r => r.leaves dev

def pcdWrite (dev : PcdevPrivateData) (user : UserAccess) (buff : List UInt8) (count : UInt64)
    (fPos : Int64) : Outcome (CallResult PcdevPrivateData) :=
  (writeBody dev.pdata.size dev.buffer user buff count fPos).map
    fun r => r.leaves { dev with buffer := r.buffer }

def pcdOpen (dev : PcdevPrivateData) (fMode : UInt32) : Int64 :=
  checkPermission dev.pdata.perm fMode

def pcdFops : FileOperations PcdevPrivateData where
  openFile := pcdOpen
  read := pcdRead
  write := pcdWrite
  llseek := some pcdLseek

def driver : Driver where
  Data := PcdevPrivateData
  buffer := PcdevPrivateData.buffer
  maxSize dev := dev.pdata.size
  perm dev := dev.pdata.perm
  setBuffer dev b := { dev with buffer := b }
  fops := pcdFops

theorem conforms : Conforms driver := by
  constructor <;> intros <;> rfl

end PlatformDt

/-! 006, pcd_syscalls.c. -/
namespace Sysfs

def pcdLseek (dev : PcdevPrivateData) (fPos offset : Int64) (whence : Int32) : Int64 × Int64 :=
  lseekBody dev.pdata.size fPos offset whence

def pcdRead (dev : PcdevPrivateData) (user : UserAccess) (count : UInt64) (fPos : Int64) :
    Outcome (CallResult PcdevPrivateData) :=
  (readBody dev.pdata.size dev.buffer user count fPos).map fun r => r.leaves dev

def pcdWrite (dev : PcdevPrivateData) (user : UserAccess) (buff : List UInt8) (count : UInt64)
    (fPos : Int64) : Outcome (CallResult PcdevPrivateData) :=
  (writeBody dev.pdata.size dev.buffer user buff count fPos).map
    fun r => r.leaves { dev with buffer := r.buffer }

def pcdOpen (dev : PcdevPrivateData) (fMode : UInt32) : Int64 :=
  checkPermission dev.pdata.perm fMode

def pcdFops : FileOperations PcdevPrivateData where
  openFile := pcdOpen
  read := pcdRead
  write := pcdWrite
  llseek := some pcdLseek

def driver : Driver where
  Data := PcdevPrivateData
  buffer := PcdevPrivateData.buffer
  maxSize dev := dev.pdata.size
  perm dev := dev.pdata.perm
  setBuffer dev b := { dev with buffer := b }
  fops := pcdFops

theorem conforms : Conforms driver := by
  constructor <;> intros <;> rfl

end Sysfs

/-- The drivers whose devices have a size and a perm of their own. -/
inductive SizedDriver where
  | pcdN | platform | platformDt | sysfs

def SizedDriver.driver : SizedDriver → Driver
  | .pcdN => PcdN.driver
  | .platform => Platform.driver
  | .platformDt => PlatformDt.driver
  | .sysfs => Sysfs.driver

theorem SizedDriver.conforms (k : SizedDriver) : Conforms k.driver := by
  cases k with
  | pcdN => exact PcdN.conforms
  | platform => exact Platform.conforms
  | platformDt => exact PlatformDt.conforms
  | sysfs => exact Sysfs.conforms

/-- The size as the private data have it, unsigned in 003. -/
def SizedDriver.size (k : SizedDriver) : k.driver.Data → Int :=
  match k with
  | .pcdN => fun (dev : PcdN.PcdevPrivateData) => dev.size.toNat
  | .platform | .platformDt | .sysfs => fun (dev : PcdevPrivateData) => dev.pdata.size.toInt

theorem SizedDriver.maxSize_size (k : SizedDriver) (dev : k.driver.Data)
    (small : k.size dev < 2 ^ 31) : (k.driver.maxSize dev).toInt = k.size dev := by
  cases k with
  | pcdN =>
    have bits : (PcdN.maxSize dev).toInt = dev.size.toBitVec.toInt := rfl
    change (dev.size.toNat : Int) < 2 ^ 31 at small
    change (PcdN.maxSize dev).toInt = dev.size.toNat
    rw [bits, BitVec.toInt_eq_toNat_of_lt]
    · rfl
    · change 2 * dev.size.toNat < 2 ^ 32
      omega
  | platform | platformDt | sysfs => rfl

def fourBytes : PcdN.PcdevPrivateData := PcdN.staticDevice 4 "PCDEV4XYZ123" RDWR

end MadDriver.Pcd

import MadDriver.Core.Kernel

/-! The file operations of the pseudo character devices. The drivers repeat the
same bodies over different private data, so a body is written once, over the
value of `int max_size` and the device buffer, and every driver has its own
operations and its own table below. The log messages are left out. -/
namespace MadDriver.Pcd
open Kernel

/-- The new return value and the new `filp->f_pos`. -/
def lseekBody (maxSize : Int32) (fPos offset : Int64) (whence : Int32) : Int64 × Int64 :=
  if whence = SEEK_SET then
    if offset > maxSize.toInt64 ∨ offset < 0 then (-EINVAL, fPos) else (offset, offset)
  else if whence = SEEK_CUR then
    let temp := fPos + offset
    if temp > maxSize.toInt64 ∨ temp < 0 then (-EINVAL, fPos) else (temp, temp)
  else if whence = SEEK_END then
    let temp := maxSize.toInt64 + offset
    if temp > maxSize.toInt64 ∨ temp < 0 then (-EINVAL, fPos) else (temp, temp)
  else (-EINVAL, fPos)

/-- "Adjust the 'count'": the sum and the comparison are made in `size_t`, the
difference in `loff_t`. -/
def adjustCount (maxSize : Int32) (fPos : Int64) (count : UInt64) : UInt64 :=
  if fPos.toUInt64 + count > maxSize.toInt64.toUInt64 then (maxSize.toInt64 - fPos).toUInt64
  else count

structure ReadResult where
  ret : Int64
  out : List UInt8
  fPos : Int64
  deriving Repr, DecidableEq

def readBody (maxSize : Int32) (buffer : List UInt8) (user : UserAccess) (count : UInt64)
    (fPos : Int64) : Outcome ReadResult :=
  let count := adjustCount maxSize fPos count
  (copyToUser user buffer fPos count).map fun (left, out) =>
    if left ≠ 0 then ⟨-EFAULT, out, fPos⟩
    else ⟨count.toInt64, out, fPos + count.toInt64⟩

structure WriteResult where
  ret : Int64
  buffer : List UInt8
  fPos : Int64
  deriving Repr, DecidableEq

def writeBody (maxSize : Int32) (buffer : List UInt8) (user : UserAccess) (buff : List UInt8)
    (count : UInt64) (fPos : Int64) : Outcome WriteResult :=
  let count := adjustCount maxSize fPos count
  if count = 0 then .done ⟨-ENOMEM, buffer, fPos⟩
  else
    (copyFromUser user buffer fPos buff count).map fun (left, buffer) =>
      if left ≠ 0 then ⟨-EFAULT, buffer, fPos⟩
      else ⟨count.toInt64, buffer, fPos + count.toInt64⟩

def RDONLY : Int32 := 0x01
def WRONLY : Int32 := 0x10
def RDWR : Int32 := 0x11

def checkPermission (devPerm : Int32) (accMode : UInt32) : Int64 :=
  if devPerm = RDWR then 0
  else if devPerm = RDONLY ∧ accMode &&& FMODE_READ ≠ 0 ∧ accMode &&& FMODE_WRITE = 0 then 0
  else if devPerm = WRONLY ∧ accMode &&& FMODE_WRITE ≠ 0 ∧ accMode &&& FMODE_READ = 0 then 0
  else -EPERM

/-- What a call leaves: the private data, its return value, the bytes it stored
in the caller's buffer, and the position. -/
structure CallResult (P : Type) where
  data : P
  ret : Int64
  out : List UInt8
  fPos : Int64
  deriving Repr, DecidableEq

def ReadResult.leaves {P : Type} (r : ReadResult) (dev : P) : CallResult P :=
  ⟨dev, r.ret, r.out, r.fPos⟩

def WriteResult.leaves {P : Type} (r : WriteResult) (dev : P) : CallResult P :=
  ⟨dev, r.ret, [], r.fPos⟩

/-- `struct file_operations`, as far as the drivers fill it in. The private data
is the one `container_of(inode->i_cdev, ..)` finds; `pcd_release` does nothing. -/
structure FileOperations (P : Type) where
  openFile : P → UInt32 → Int64
  read : P → UserAccess → UInt64 → Int64 → Outcome (CallResult P)
  write : P → UserAccess → List UInt8 → UInt64 → Int64 → Outcome (CallResult P)
  llseek : Option (P → Int64 → Int64 → Int32 → Int64 × Int64)

structure Driver where
  Data : Type
  buffer : Data → List UInt8
  maxSize : Data → Int32
  perm : Data → Int32
  setBuffer : Data → List UInt8 → Data
  fops : FileOperations Data

/-- The driver's table runs the common bodies on its own fields. -/
structure Conforms (drv : Driver) : Prop where
  buffer_set : ∀ d b, drv.buffer (drv.setBuffer d b) = b
  maxSize_set : ∀ d b, drv.maxSize (drv.setBuffer d b) = drv.maxSize d
  perm_set : ∀ d b, drv.perm (drv.setBuffer d b) = drv.perm d
  set_set : ∀ d b c, drv.setBuffer (drv.setBuffer d b) c = drv.setBuffer d c
  set_buffer : ∀ d, drv.setBuffer d (drv.buffer d) = d
  opens : ∀ d mode, drv.fops.openFile d mode = checkPermission (drv.perm d) mode
  reads : ∀ d user count fPos, drv.fops.read d user count fPos =
    (readBody (drv.maxSize d) (drv.buffer d) user count fPos).map fun r => r.leaves d
  writes : ∀ d user buff count fPos, drv.fops.write d user buff count fPos =
    (writeBody (drv.maxSize d) (drv.buffer d) user buff count fPos).map
      fun r => r.leaves (drv.setBuffer d r.buffer)
  seeks : drv.fops.llseek = some fun d => lseekBody (drv.maxSize d)

end MadDriver.Pcd

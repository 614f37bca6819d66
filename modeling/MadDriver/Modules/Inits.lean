import MadDriver.Bus.Rollback
import MadDriver.Core.Ownership

/-! Init and exit of the modules, with the calls that acquire and release. What the kernel
gives out once is known by its name, so that one module can meet another's: the class
`pcd_class`, the driver `pseudo-char-device`, the lines 299 and 301. -/
namespace MadDriver.Modules
open Kernel Bus Resources Ownership

inductive Module where
  | pcd
  | pcdLock
  | pcdN
  | pcdPlatformDriver
  | pcdPlatformDriverDt
  | pcdPlatformDriverDtSysfs
  | pcdDeviceSetup
  | gpioSysfs
  | lcdPlatformDriver
  | blockingDrv
  | intrptDrv
  | charDrv
  | usbDrv
  | pciDrv
  | platformDrv
  deriving Repr, DecidableEq

inductive Resource where
  | region (m : Module)
  | cdev (m : Module) (i : Nat)
  | device (m : Module) (i : Nat)
  | classDir (name : String)
  | driver (bus name : String)
  | platformDevice (name : String) (id : Nat)
  | procEntry (name : String)
  | gpio (line : Nat)
  | irqOfGpio (line : Nat)
  /-- The negative number of a line without an interrupt. -/
  | noIrq
  | kobject (name : String)
  deriving Repr, DecidableEq

/-- What the kernel answers to the calls of one init: a refusal, or none. -/
structure Answers where
  request : Resource → Option ErrPtr
  gpioToIrq : Nat → Option ErrPtr

abbrev Calls := List (Call Resource)

def Answers.take (a : Answers) (r : Resource) : Call Resource :=
  match a.request r with
  | none => .acquired r
  | some _ => .failed r

/-- `class_destroy` does nothing with the error that `class_create` returned. -/
def classDestroy (a : Answers) (name : String) : Calls :=
  match a.request (.classDir name) with
  | none => [.released (.classDir name)]
  | some _ => []

/- 002, pcd.c and pcd_lock.c. -/
section Pcd

variable (m : Module) (a : Answers)

def unregChrdev : Calls := [.released (.region m)]

def cdevDel : Calls := .released (.cdev m 0) :: unregChrdev m

def classDel : Calls := .released (.classDir "pcd_class") :: cdevDel m

def pcdDriverInit : Calls × Int64 :=
  match a.request (.region m) with
  | some ret => ([.failed (.region m)], ret.val)
  | none =>
    match a.request (.cdev m 0) with
    | some ret => ([.acquired (.region m), .failed (.cdev m 0)] ++ unregChrdev m, ret.val)
    | none =>
      match a.request (.classDir "pcd_class") with
      | some ret =>
        ([.acquired (.region m), .acquired (.cdev m 0), .failed (.classDir "pcd_class")] ++
          cdevDel m, ret.val)
      | none =>
        match a.request (.device m 0) with
        | some ret =>
          ([.acquired (.region m), .acquired (.cdev m 0), .acquired (.classDir "pcd_class"),
            .failed (.device m 0)] ++ classDel m, ret.val)
        | none =>
          ([.acquired (.region m), .acquired (.cdev m 0), .acquired (.classDir "pcd_class"),
            .acquired (.device m 0)], 0)

def pcdDriverCleanup : Calls :=
  [.released (.device m 0), .released (.classDir "pcd_class"), .released (.cdev m 0),
    .released (.region m)]

end Pcd

/- 003, pcd_n.c. -/
def NO_OF_DEVICES : Nat := 4

def pcdNEnv (a : Answers) : PcdN.InitEnv where
  allocChrdevRegion := a.request (.region .pcdN)
  classCreate := a.request (.classDir "pcd_class")
  cdevAdd i := a.request (.cdev .pcdN i)
  deviceCreate i := a.request (.device .pcdN i)

def asked (r : Resource) : Option ErrPtr → Call Resource
  | none => .acquired r
  | some _ => .failed r

def pcdNCall : PcdN.Call → Call Resource
  | .allocChrdevRegion failure => asked (.region .pcdN) failure
  | .classCreate failure => asked (.classDir "pcd_class") failure
  | .cdevAdd i failure => asked (.cdev .pcdN i) failure
  | .deviceCreate i failure => asked (.device .pcdN i) failure
  | .deviceDestroy i => .released (.device .pcdN i)
  | .cdevDel i => .released (.cdev .pcdN i)
  | .classDestroy => .released (.classDir "pcd_class")
  | .unregisterChrdevRegion => .released (.region .pcdN)

def pcdNInit (a : Answers) : Calls × Int64 :=
  let r := PcdN.pcdDriverInit NO_OF_DEVICES (pcdNEnv a)
  (r.calls.map pcdNCall, r.ret)

def pcdNCleanup : Calls := (PcdN.pcdDriverCleanup NO_OF_DEVICES).map pcdNCall

/- 004 to 008, and usb_drv, pci_drv and platform_drv. -/
def pseudoCharDevice : Resource := .driver "platform" "pseudo-char-device"

/-- The same in 004, 005 and 006. What `platform_driver_register` returns is dropped. -/
def pcdPlatformDriverInit (m : Module) (a : Answers) : Calls × Int64 :=
  match a.request (.region m) with
  | some ret => ([.failed (.region m)], ret.val)
  | none =>
    match a.request (.classDir "pcd_class") with
    | some ret =>
      ([.acquired (.region m), .failed (.classDir "pcd_class"), .released (.region m)], ret.val)
    | none =>
      ([.acquired (.region m), .acquired (.classDir "pcd_class"), a.take pseudoCharDevice], 0)

def pcdPlatformDriverCleanup (m : Module) : Calls :=
  [.released pseudoCharDevice, .released (.classDir "pcd_class"), .released (.region m)]

def platformPcdevs : List Resource :=
  [.platformDevice "pcdev-A1x" 0, .platformDevice "pcdev-B1x" 1, .platformDevice "pcdev-C1x" 2,
    .platformDevice "pcdev-D1x" 3]

/-- `platform_add_devices` unregisters the devices before the one that failed; its
answer is dropped. -/
def pcdevPlatformInit (a : Answers) : Calls × Int64 := ((climb a.request [] platformPcdevs).1, 0)

def pcdevPlatformExit : Calls := platformPcdevs.map .released

def boneGpioSysfs : Resource := .driver "platform" "bone-gpio-syfs"

def gpioSysfsInit (a : Answers) : Calls × Int64 :=
  match a.request (.classDir "bone_gpios") with
  | some ret => ([.failed (.classDir "bone_gpios")], ret.val)
  | none => ([.acquired (.classDir "bone_gpios"), a.take boneGpioSysfs], 0)

def gpioSysfsExit : Calls := [.released boneGpioSysfs, .released (.classDir "bone_gpios")]

def lcdSysfs : Resource := .driver "platform" "lcd-sysfs"

/-- 008. Neither answer is looked at. -/
def lcdSysfsInit (a : Answers) : Calls × Int64 := ([a.take (.classDir "lcd"), a.take lcdSysfs], 0)

def lcdSysfsExit (a : Answers) : Calls := .released lcdSysfs :: classDestroy a "lcd"

/-- usb_drv, pci_drv and platform_drv: one registration, whose answer is returned. -/
def registerDriver (driver : Resource) (a : Answers) : Calls × Int64 :=
  match a.request driver with
  | some ret => ([.failed driver], ret.val)
  | none => ([.acquired driver], 0)

def penDriver : Resource := .driver "usb" "my_usb_driver"

def myDriver : Resource := .driver "pci" "my_pci_driver"

def devicemodelDriver : Resource := .driver "platform" "devicemodel_example"

/- blocking_drv, intrpt_drv and char_drv. -/
/-- `remove_proc_entry` also follows the `proc_create` that failed. -/
def sleepInit (a : Answers) : Calls × Int64 :=
  match a.request (.procEntry "sleep") with
  | some _ => ([.failed (.procEntry "sleep"), .released (.procEntry "sleep")], -ENOMEM)
  | none => ([.acquired (.procEntry "sleep")], 0)

def sleepExit : Calls := [.released (.procEntry "sleep")]

def irqNumber (a : Answers) (line : Nat) : Resource :=
  match a.gpioToIrq line with
  | none => .irqOfGpio line
  | some _ => .noIrq

/-- `request_irq`, which refuses a negative number. -/
def requestIrq (a : Answers) (line : Nat) : Call Resource :=
  match a.gpioToIrq line with
  | none => a.take (.irqOfGpio line)
  | some _ => .failed .noIrq

namespace IntrptDrv

/-- `gpio_request_array(changeEvents, ..)`, all or nothing; its answer is only printed. -/
def setGpioInterrupt (a : Answers) : Calls :=
  (climb a.request [] [.gpio 299, .gpio 301]).1 ++ [requestIrq a 299, requestIrq a 301]

def intrptInit (a : Answers) : Calls × Int64 :=
  match a.request (.procEntry "intr") with
  | some _ => ([.failed (.procEntry "intr"), .released (.procEntry "intr")], -ENOMEM)
  | none => (.acquired (.procEntry "intr") :: setGpioInterrupt a, 0)

def intrptExit (a : Answers) : Calls :=
  [.released (irqNumber a 299), .released (irqNumber a 301), .released (.gpio 299),
    .released (.gpio 301), .released (.procEntry "intr")]

end IntrptDrv

namespace CharDrv

def setGpioInterrupt (a : Answers) : Calls :=
  [a.take (.gpio 299), requestIrq a 299, a.take (.gpio 301), requestIrq a 301]

/-- `device_create` returns the error of a class that is one. -/
def deviceCreate (a : Answers) : Call Resource :=
  match a.request (.classDir "chardrv") with
  | none => a.take (.device .charDrv 0)
  | some _ => .failed (.device .charDrv 0)

def addAttribute (a : Answers) (calls : Calls) : Calls × Int64 :=
  match a.request (.kobject "share_data") with
  | some _ => (calls ++ setGpioInterrupt a ++ [.failed (.kobject "share_data")], -ENOMEM)
  | none => (calls ++ setGpioInterrupt a ++ [.acquired (.kobject "share_data")], 0)

/-- The pointers are compared with NULL, which they never are, and `cdev_add` with -1. -/
def paramInit (a : Answers) : Calls × Int64 :=
  match a.request (.region .charDrv) with
  | some _ => ([.failed (.region .charDrv)], -1)
  | none =>
    let made := [.acquired (.region .charDrv), a.take (.classDir "chardrv"), deviceCreate a]
    match a.request (.cdev .charDrv 0) with
    | none => addAttribute a (made ++ [.acquired (.cdev .charDrv 0)])
    | some ret =>
      if ret.val = -1 then
        (made ++ [.failed (.cdev .charDrv 0), .released (.device .charDrv 0)] ++
          classDestroy a "chardrv" ++ [.released (.region .charDrv)], -1)
      else addAttribute a (made ++ [.failed (.cdev .charDrv 0)])

/-- There is no `cdev_del`. -/
def paramExit (a : Answers) : Calls :=
  [.released (.kobject "share_data"), .released (irqNumber a 299), .released (irqNumber a 301),
    .released (.gpio 299), .released (.gpio 301), .released (.device .charDrv 0)] ++
  classDestroy a "chardrv" ++ [.released (.region .charDrv)]

end CharDrv

def Module.init (a : Answers) : Module → Calls × Int64
  | .pcd => pcdDriverInit .pcd a
  | .pcdLock => pcdDriverInit .pcdLock a
  | .pcdN => pcdNInit a
  | .pcdPlatformDriver => pcdPlatformDriverInit .pcdPlatformDriver a
  | .pcdPlatformDriverDt => pcdPlatformDriverInit .pcdPlatformDriverDt a
  | .pcdPlatformDriverDtSysfs => pcdPlatformDriverInit .pcdPlatformDriverDtSysfs a
  | .pcdDeviceSetup => pcdevPlatformInit a
  | .gpioSysfs => gpioSysfsInit a
  | .lcdPlatformDriver => lcdSysfsInit a
  | .blockingDrv => sleepInit a
  | .intrptDrv => IntrptDrv.intrptInit a
  | .charDrv => CharDrv.paramInit a
  | .usbDrv => registerDriver penDriver a
  | .pciDrv => registerDriver myDriver a
  | .platformDrv => registerDriver devicemodelDriver a

def Module.exit (a : Answers) : Module → Calls
  | .pcd => pcdDriverCleanup .pcd
  | .pcdLock => pcdDriverCleanup .pcdLock
  | .pcdN => pcdNCleanup
  | .pcdPlatformDriver => pcdPlatformDriverCleanup .pcdPlatformDriver
  | .pcdPlatformDriverDt => pcdPlatformDriverCleanup .pcdPlatformDriverDt
  | .pcdPlatformDriverDtSysfs => pcdPlatformDriverCleanup .pcdPlatformDriverDtSysfs
  | .pcdDeviceSetup => pcdevPlatformExit
  | .gpioSysfs => gpioSysfsExit
  | .lcdPlatformDriver => lcdSysfsExit a
  | .blockingDrv => sleepExit
  | .intrptDrv => IntrptDrv.intrptExit a
  | .charDrv => CharDrv.paramExit a
  | .usbDrv => [.released penDriver]
  | .pciDrv => [.released myDriver]
  | .platformDrv => [.released devicemodelDriver]

/-- The loader keeps a module unless its init returns an error. -/
def modules (m : Module) : Party Resource Answers where
  start a := (m.init a).1
  runs a := decide (0 ≤ (m.init a).2)
  stop a := m.exit a

end MadDriver.Modules

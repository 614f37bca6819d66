import MadDriver.Core.Kernel
import MadDriver.Core.Table
import MadDriver.Core.Transition

/-! gpio-sysfs: the class devices its probe makes of the children of a platform
device, and those its remove unregisters. One global record serves every platform
device; the array it points to is memory of the device probed last. -/
namespace MadDriver.GpioSysfs
open Kernel Transition Function

abbrev ErrPtr := { code : Int64 // code < 0 }

inductive Slot where
  | null
  | err (code : ErrPtr)
  | device (id : Nat)
  deriving Repr, DecidableEq

/-- The label as `strcpy` or `snprintf` put it there; the room for it is not checked. -/
structure GpiodevPrivateData (G : Type) where
  label : List UInt8
  desc : G

/-- A device of the class; the id tells it from every other device ever made. -/
structure ClassDevice (P G : Type) where
  id : Nat
  parent : P
  drvdata : GpiodevPrivateData G

structure Child (G : Type) where
  available : Bool
  label : Option (List UInt8)
  kzalloc : Bool
  desc : Except ErrPtr G
  directionOutput : Int64
  deviceCreate : Option ErrPtr

/-- `gpio_drv_data`, the devm arrays of the platform devices, and what the driver core
knows: the devices made for each bound platform device, and the class. -/
structure State (P G : Type) where
  totalDevices : Nat
  dev : Option P
  memory : P → Option (List Slot)
  bound : P → Option (List Nat)
  classDevices : List (ClassDevice P G)
  next : Nat

def loaded {P G : Type} : State P G where
  totalDevices := 0
  dev := none
  memory _ := none
  bound _ := none
  classDevices := []
  next := 0

/-- `snprintf` of "unkngpio%d" into a label of 20 bytes. -/
def unkngpio (i : Nat) : List UInt8 :=
  (("unkngpio" ++ toString i).toList.map fun ch => ch.toNat.toUInt8).take 19

section Driver

variable {P G : Type} [DecidableEq P]

def array (s : State P G) : Outcome (P × List Slot) :=
  match s.dev with
  | none => .wild
  | some p =>
    match s.memory p with
    | none => .wild
    | some slots => .done (p, slots)

def loadDev (s : State P G) (i : Nat) : Outcome Slot :=
  (array s).bind fun (_, slots) =>
    match slots[i]? with
    | none => .wild
    | some slot => .done slot

def storeDev (s : State P G) (i : Nat) (slot : Slot) : Outcome (State P G) :=
  (array s).bind fun (p, slots) =>
    if i < slots.length then
      .done { s with memory := update s.memory p (some (slots.set i slot)) }
    else .wild

/-- `for_each_available_child_of_node`. -/
def probeChildren (p : P) : State P G → Nat → List (Child G) → Outcome (Int64 × State P G)
  | s, _, [] => .done (0, s)
  | s, i, child :: rest =>
    if child.available = false then probeChildren p s i rest
    else if child.kzalloc = false then .done (-ENOMEM, s)
    else
      match child.desc with
      | .error ret => .done (ret, s)
      | .ok desc =>
        if child.directionOutput ≠ 0 then .done (child.directionOutput, s)
        else
          match child.deviceCreate with
          | some ret => (storeDev s i (.err ret)).map fun s => (ret, s)
          | none =>
            let devData := ⟨child.label.getD (unkngpio i), desc⟩
            (storeDev s i (.device s.next)).bind fun s' =>
              probeChildren p { s' with
                classDevices := s'.classDevices ++ [⟨s'.next, p, devData⟩]
                next := s'.next + 1 } (i + 1) rest

/-- The count is of all children; the result of the array's `devm_kzalloc` is not
checked. -/
def gpioSysfsProbe (s : State P G) (p : P) (kzalloc : Bool) (children : List (Child G)) :
    Outcome (Int64 × State P G) :=
  let s := { s with totalDevices := children.length }
  if children.length = 0 then .done (-EINVAL, s)
  else
    let slots := List.replicate children.length .null
    probeChildren p { s with
      dev := if kzalloc then some p else none
      memory := if kzalloc then update s.memory p (some slots) else s.memory } 0 children

def deviceUnregister (s : State P G) (slot : Slot) : Outcome (Nat × State P G) :=
  match slot with
  | .device id =>
    if id ∈ s.classDevices.map ClassDevice.id then
      .done (id, { s with classDevices := s.classDevices.filter (·.id ≠ id) })
    else .wild
  | _ => .wild

def removeLoop : Nat → Nat → State P G → Outcome (List Nat × State P G)
  | 0, _, s => .done ([], s)
  | left + 1, i, s =>
    (loadDev s i).bind fun slot => (deviceUnregister s slot).bind fun (id, s) =>
      (removeLoop left (i + 1) s).map fun (ids, s) => (id :: ids, s)

def gpioSysfsRemove (s : State P G) : Outcome (List Nat × State P G) :=
  removeLoop s.totalDevices 0 s

/-- A platform device is bound when its probe returns 0; otherwise its devm memory is
freed. -/
def probe (s : State P G) (p : P) (kzalloc : Bool) (children : List (Child G)) :
    Outcome (Int64 × State P G) :=
  (gpioSysfsProbe s p kzalloc children).map fun (ret, s') =>
    if ret = 0 then
      (ret, { s' with bound := update s'.bound p (some (List.range' s.next (s'.next - s.next))) })
    else (ret, { s' with memory := update s'.memory p none })

def remove (s : State P G) (p : P) : Outcome (List Nat × State P G) :=
  (gpioSysfsRemove s).map fun (ids, s) =>
    (ids, { s with memory := update s.memory p none, bound := update s.bound p none })

inductive Event (P G : Type) where
  | probe (p : P) (children : List (Child G))
  | remove (p : P) (ids : List Nat)

inductive Step (s : State P G) : Event P G → State P G → Prop where
  | probe {p : P} {kzalloc : Bool} {children : List (Child G)} {s' : State P G} :
      s.bound p = none → probe s p kzalloc children = .done (0, s') →
      Step s (.probe p children) s'
  | remove {p : P} {ids devices : List Nat} {s' : State P G} :
      s.bound p = some devices → remove s p = .done (ids, s') →
      Step s (.remove p ids) s'

end Driver

end MadDriver.GpioSysfs

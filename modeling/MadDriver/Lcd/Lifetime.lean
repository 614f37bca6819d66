import MadDriver.Core.Transition
import MadDriver.Lcd.Stores

/-! lcd_platform_driver.c over its whole life. The gpio lines are requested in `lcd_probe`
and given back nowhere, so the driver binds once; while it is bound the display is between
two bytes, unless `lcdcmd` was told otherwise. -/
namespace MadDriver.Lcd.Platform
open Kernel Wire Hd44780 Transition

def pins : List Pin := [.RS, .RW, .EN, .D4, .D5, .D6, .D7]

/-- What a probe finds: the lines `gpiod_get` would give if they are free, the pointers it
gives, and the answer of `device_create_with_groups`. -/
structure Surroundings where
  gets : Pin → Bool
  pointers : List UInt8
  room : POINTER_BYTES ≤ pointers.length
  create : Except ErrCode Unit

structure System where
  requested : Pin → Bool
  bound : Bool
  data : LcdPrivateData
  panel : Panel Pin

def demo : List UInt8 :=
  ['1', '6', 'x', '2', ' ', 'L', 'C', 'D', ' ', 'D', 'r', 'i', 'v', 'e', 'r', ' ', 'd', 'e',
    'm', 'o'].map ascii

def LcdPrivateData.pointTo (d : LcdPrivateData) (env : Surroundings) : LcdPrivateData where
  lcdScroll := d.lcdScroll
  bytes := d.lcdxy ++ env.pointers
  room := by
    have own : d.lcdxy.length = LCDXY_SIZE := by
      rw [LcdPrivateData.lcdxy, List.length_take]
      exact Nat.min_eq_left (Nat.le_trans (Nat.le_add_right _ _) d.room)
    rw [List.length_append, own]
    exact Nat.add_le_add_left env.room _

section Driver

variable (low : UInt8)

def lcdProbe (s : System) (env : Surroundings) : Outcome (System × Int64) :=
  let got := pins.filter fun pin => env.gets pin && !s.requested pin
  let requested := fun pin => s.requested pin || env.gets pin
  let data := s.data.pointTo env
  let panel := s.panel.after port low (got.flatMap gpiodGetOutLow)
  if pins.all fun pin => env.gets pin && !s.requested pin then
    let panel := panel.after port low lcdInit
    match env.create with
    | .error status => .done (⟨requested, false, data, panel⟩, status.val)
    | .ok _ =>
      (lcdPrintString (demo ++ [0])).map fun printed =>
        (⟨requested, true, data, panel.after port low printed.writes⟩, 0)
  else .done (⟨requested, false, data, panel⟩, -EINVAL)

def lcdRemove (s : System) : System :=
  { s with bound := false, panel := s.panel.after port low (lcdDeinit port) }

inductive Event
  | probe (env : Surroundings) (ret : Int64)
  | remove
  | store (op : Store) (ret : Int64)

inductive Step : System → Event → System → Prop
  | probe {s t : System} {env : Surroundings} {ret : Int64} (unbound : s.bound = false)
      (ran : lcdProbe low s env = .done (t, ret)) : Step s (.probe env ret) t
  | remove {s : System} (bound : s.bound = true) : Step s .remove (lcdRemove low s)
  | store {s : System} {op : Store} {r : StoreResult} (bound : s.bound = true)
      (ran : Platform.store s.data op = .done r) :
      Step s (.store op r.ret) { s with data := r.dev, panel := s.panel.after port low r.writes }

end Driver

def loaded (data : LcdPrivateData) (panel : Panel Pin) : System :=
  ⟨fun _ => false, false, data, panel⟩

def Event.Widens : Event → Prop
  | .store op _ => op.Widens
  | _ => False

section Runs

variable {low : UInt8} {s t : System} {env : Surroundings} {ret : Int64}

end Runs

def complete : Surroundings :=
  ⟨fun _ => true, List.replicate POINTER_BYTES 0, Nat.le_refl _, .ok ()⟩

end MadDriver.Lcd.Platform

import Mathlib.Data.List.Forall2
import MadDriver.Lcd.Message
import MadDriver.Lcd.Panel

/-! 007, lcd_app.c: the main loop, and what the glass shows each time it pauses. -/
namespace MadDriver.Lcd.GpioSysfs
open Kernel Wire Hd44780

/-- A pause is a `sleep` or `usleep` of lcd_app.c; the shorter ones of lcd.c are left out. -/
inductive Event
  | write (w : Write String)
  | pause

def writes (ws : List (Write String)) : List Event := ws.map .write

def lcdPrintfInts (fmt : List UInt8) (args : List Int32) : Outcome (List (Write String)) :=
  (vsprintfInts fmt args).bind fun text =>
    if text.length < TEXT_BUFFER_SIZE then .done ((letters text).flatMap lcdPrintChar) else .wild

/-- What `localtime` gives; the year counts from 1900 and the month from 0. -/
structure Tm where
  tmYear : Int32
  tmMon : Int32
  tmMday : Int32
  tmHour : Int32
  tmMin : Int32
  tmSec : Int32
  year : tmYear.toInt + 1900 < 2 ^ 31
  mon : 0 ≤ tmMon.toInt ∧ tmMon.toInt ≤ 11
  mday : 1 ≤ tmMday.toInt ∧ tmMday.toInt ≤ 31
  hour : 0 ≤ tmHour.toInt ∧ tmHour.toInt ≤ 23
  min : 0 ≤ tmMin.toInt ∧ tmMin.toInt ≤ 59
  sec : 0 ≤ tmSec.toInt ∧ tmSec.toInt ≤ 60

def threeInts (mark : Char) : List UInt8 :=
  [ascii '%', ascii 'd', ascii mark, ascii '%', ascii 'd', ascii mark, ascii '%', ascii 'd']

def printTimeAndDate (tm : Tm) : Outcome (List (Write String)) :=
  (lcdPrintfInts (threeInts '-') [1900 + tm.tmYear, tm.tmMon, tm.tmMday]).bind fun date =>
  (lcdPrintfInts (threeInts ':') [tm.tmHour, tm.tmMin, tm.tmSec]).map fun time =>
    lcdSendCommand DDRAM_FIRST_LINE_BASE_ADDR ++ date ++
    lcdSendCommand DDRAM_SECOND_LINE_BASE_ADDR ++ time

def iface : List UInt8 := [ascii 'u', ascii 's', ascii 'b', ascii '0']

/-- The four bytes of the address; those of the stack where `ioctl` fails. -/
structure InAddr where
  a : UInt8
  b : UInt8
  c : UInt8
  d : UInt8

def inetNtoa (addr : InAddr) : List UInt8 :=
  decimal addr.a.toNat ++ ascii '.' :: decimal addr.b.toNat ++
    ascii '.' :: decimal addr.c.toNat ++ ascii '.' :: decimal addr.d.toNat

/-- The memory behind the two strings may hold anything. -/
def printIpAddress (addr : InAddr) (behind behind' : List UInt8) :
    Outcome (List (Write String)) :=
  (lcdPrintString (iface ++ 0 :: behind)).bind fun name =>
  (lcdPrintString (inetNtoa addr ++ 0 :: behind')).map fun address =>
    lcdSendCommand DDRAM_FIRST_LINE_BASE_ADDR ++ name.writes ++
    lcdSendCommand DDRAM_SECOND_LINE_BASE_ADDR ++ address.writes

def starLine : List Event :=
  (List.range 16).flatMap (fun _ => writes (lcdPrintChar (ascii '*')) ++ [.pause]) ++
  writes (lcdSetCursor port 2 16) ++
  writes (lcdSendCommand 0x04)

def transitionGraphics : List Event :=
  [.pause] ++
  writes (lcdSetCursor port 1 1) ++
  writes (lcdDisplayClear port) ++
  (List.range 2).flatMap (fun _ => starLine) ++
  writes (lcdSetCursor port 1 1) ++
  writes (lcdSendCommand 0x06) ++
  [.pause] ++
  writes (lcdDisplayClear port)

structure Round where
  addr : InAddr
  tm : Tm
  behind : List UInt8
  behind' : List UInt8

def round (msgBuf : List UInt8) (r : Round) : Outcome (List Event) :=
  (lcdPrintf (cString msgBuf)).bind fun message =>
  (printIpAddress r.addr r.behind r.behind').bind fun address =>
  (printTimeAndDate r.tm).map fun time =>
    writes (lcdDisplayClear port) ++
    writes message ++
    [.pause] ++
    (if 16 < (cString msgBuf).length then
      (List.range ((cString msgBuf).length - 16)).flatMap fun _ =>
        writes (lcdSendCommand 0x18) ++ [.pause]
      else []) ++
    writes (lcdDisplayClear port) ++
    writes (lcdDisplayReturnHome port) ++
    transitionGraphics ++
    writes address ++
    [.pause] ++
    transitionGraphics ++
    writes time ++
    [.pause] ++
    transitionGraphics

def loop (msgBuf : List UInt8) : List Round → Outcome (List Event)
  | [] => .done []
  | r :: rounds =>
    (round msgBuf r).bind fun es => (loop msgBuf rounds).map (es ++ ·)

def main (msgBuf : List UInt8) (rounds : List Round) : Outcome (List Event) :=
  (loop msgBuf rounds).map fun es => writes initGpios ++ writes lcdInit ++ [.pause] ++ es

def watch (low : UInt8) : Panel String → List Event → List Controller
  | _, [] => []
  | d, .write w :: es => watch low (d.write port low w) es
  | d, .pause :: es => d.controller :: watch low d es

def finish (low : UInt8) : Panel String → List Event → Panel String
  | d, [] => d
  | d, .write w :: es => finish low (d.write port low w) es
  | d, .pause :: es => finish low d es

theorem watch_append (low : UInt8) (d : Panel String) (es fs : List Event) :
    watch low d (es ++ fs) = watch low d es ++ watch low (finish low d es) fs ∧
      finish low d (es ++ fs) = finish low (finish low d es) fs := by
  induction es generalizing d with
  | nil => exact ⟨rfl, rfl⟩
  | cons e es ih =>
    cases e with
    | write w => exact ih (d.write port low w)
    | pause => exact ⟨congrArg (d.controller :: ·) (ih d).1, (ih d).2⟩

theorem watch_writes (low : UInt8) (d : Panel String) (ws : List (Write String)) :
    watch low d (writes ws) = [] ∧ finish low d (writes ws) = d.after port low ws := by
  induction ws generalizing d with
  | nil => exact ⟨rfl, rfl⟩
  | cons w ws ih => exact ih (d.write port low w)

/-- From an idle panel that shows `s`, the pauses find the screens `shown`, and in the end
the panel is idle and shows `s'`. -/
def Plays (es : List Event) (s : Screen) (shown : List Screen) (s' : Screen) : Prop :=
  ∀ (low : UInt8) (d : Panel String), Idle port d.levels → d.controller.Shows s →
    List.Forall₂ Controller.Shows (watch low d es) shown ∧
      Idle port (finish low d es).levels ∧ (finish low d es).controller.Shows s'

section Plays

variable {es fs : List Event} {s s' s'' : Screen} {shown shown' : List Screen}
  {ws : List (Write String)}

theorem Plays.nil : Plays [] s [] s := fun _ _ idle shows => ⟨.nil, idle, shows⟩

theorem Plays.append (first : Plays es s shown s') (second : Plays fs s' shown' s'') :
    Plays (es ++ fs) s (shown ++ shown') s'' := by
  intro low d idle shows
  obtain ⟨seen, still, between⟩ := first low d idle shows
  obtain ⟨seen', done⟩ := second low (finish low d es) still between
  obtain ⟨watched, finished⟩ := watch_append low d es fs
  rw [watched, finished]
  exact ⟨List.rel_append seen seen', done⟩

theorem Plays.writes (turns : Turns port ws s s') : Plays (writes ws) s [] s' := by
  intro low d idle shows
  obtain ⟨watched, finished⟩ := watch_writes low d ws
  rw [watched, finished]
  exact ⟨.nil, turns low d idle shows⟩

theorem Plays.pause : Plays [.pause] s [s] s :=
  fun _ _ idle shows => ⟨.cons shows .nil, idle, shows⟩

theorem Plays.write_pause (turns : Turns port ws s s') :
    Plays (GpioSysfs.writes ws ++ [.pause]) s [s'] s' :=
  (Plays.writes turns).append .pause

theorem Plays.loop (after : Nat → Screen) (n : Nat)
    (each : ∀ k < n, Plays es (after k) [after (k + 1)] (after (k + 1))) :
    Plays ((List.range n).flatMap fun _ => es) (after 0)
      ((List.range n).map fun k => after (k + 1)) (after n) := by
  induction n with
  | zero => exact .nil
  | succ n ih =>
    have before := ih fun k small => each k (Nat.lt_succ_of_lt small)
    rw [List.range_succ, List.flatMap_append, List.map_append]
    simpa using before.append (each n (Nat.lt_succ_self n))

end Plays

end MadDriver.Lcd.GpioSysfs

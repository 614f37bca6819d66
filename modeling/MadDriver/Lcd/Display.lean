import MadDriver.Core.Screen
import MadDriver.Lcd.Print

/-! The display at the other end of the lines. `lcd_init` brings it up from any state, and
from there on it acts on the bytes the driver is called with. -/
namespace MadDriver.Lcd
open Wire Hd44780

def Latched (ls : List Latch) (ns : List Nibble) : Prop :=
  Carries ls (ns.map fun n => (n.rs, n.value))

theorem latched_append {ls : List Latch} {ns ns' : List Nibble}
    (latched : Latched ls (ns ++ ns')) :
    ∃ front back, ls = front ++ back ∧ Latched front ns ∧ Latched back ns' := by
  rw [Latched, List.map_append] at latched
  obtain ⟨front, back, rfl, first, second⟩ := List.map_eq_append_iff.mp latched
  exact ⟨front, back, rfl, first, second⟩

theorem nibbles_halves (ms : List (Bool × UInt8)) :
    (ms.flatMap nibbles).map (fun n => (n.rs, n.value)) = ms.flatMap asHalves := by
  rw [List.map_flatMap]
  rfl

/-- Nothing of an earlier state is left but the characters of the user. -/
structure Fresh (c : Controller) : Prop where
  shows : c.Shows Screen.blank
  cursor : c.cursor = true
  steady : c.blink = false

theorem init_narrow : ∀ m ∈ initMessages, ¬ Widens m := by
  decide +kernel

theorem init_commands {c : Controller} (aligned : c.interface = .four none) :
    Fresh (initMessages.foldl Controller.receive c) :=
  have interface : (initMessages.foldl Controller.receive c).interface = .four none :=
    (foldl_latch aligned init_narrow (carries_some _)).2
  ⟨⟨interface, rfl, rfl, rfl, rfl, rfl, rfl, rfl, fun _ => rfl⟩, rfl, rfl⟩

theorem init_latched {ls : List Latch}
    (latched : Latched ls (wakeUp ++ initMessages.flatMap nibbles)) (c : Controller) :
    Fresh (ls.foldl Controller.latch c) := by
  obtain ⟨front, back, rfl, first, second⟩ := latched_append latched
  have aligned := woken first c
  rw [Latched, nibbles_halves] at second
  rw [List.foldl_append, (foldl_latch aligned init_narrow second).1]
  exact init_commands aligned

section Drivers

variable {P : Type} [DecidableEq P]

def Driver.Wakes (d : Driver P) : Prop :=
  ∀ (before : Levels P) (c : Controller) (ls : List Latch),
    Latched ls (samples (d.port.line .EN) (readNibble d.port) (after before d.prepare)
      d.lcdInit) →
    Fresh (ls.foldl Controller.latch c)

/-- Behind `lcd_init`, the display acts on the bytes of the calls and on no others. -/
def Driver.Obeyed (d : Driver P) (calls : List Call) : Prop :=
  ∀ (before : Levels P) (c : Controller) (init ls : List Latch),
    Latched init (samples (d.port.line .EN) (readNibble d.port) (after before d.prepare)
      d.lcdInit) →
    Latched ls (samples (d.port.line .EN) (readNibble d.port)
      (after (after before d.prepare) d.lcdInit) (calls.flatMap d.call)) →
    (init.foldl Controller.latch c).executed ls = calls.map Call.message

theorem Driver.Sends.wakes {d : Driver P} (sends : d.Sends) : d.Wakes := by
  intro before c ls latched
  rw [(sends.format before []).init_nibbles] at latched
  exact init_latched latched c

theorem Driver.Sends.obeyed_iff {d : Driver P} (sends : d.Sends) (calls : List Call) :
    d.Obeyed calls ↔ ∀ call ∈ calls.dropLast, ¬ Widens call.message := by
  have sent (before : Levels P) (ls : List Latch) :
      Latched ls (samples (d.port.line .EN) (readNibble d.port)
        (after (after before d.prepare) d.lcdInit) (calls.flatMap d.call)) ↔
      Carries ls ((calls.map Call.message).flatMap asHalves) := by
    rw [(sends.format before calls).call_nibbles, ← nibbles_halves, List.flatMap_map]
    exact Iff.rfl
  have last : (∀ call ∈ calls.dropLast, ¬ Widens call.message) ↔
      ∀ m ∈ (calls.map Call.message).dropLast, ¬ Widens m := by
    rw [← List.map_dropLast]
    simp only [List.forall_mem_map]
  rw [last]
  constructor
  · intro obeyed
    have woken := sends.wakes (fun _ => false) poweredOn _ (carries_some _)
    refine (executed_iff woken.shows.aligned _).mp fun ls carries => ?_
    exact obeyed (fun _ => false) poweredOn _ ls (carries_some _) ((sent _ ls).mpr carries)
  · intro narrow before c init ls latched carries
    have woken := sends.wakes before c init latched
    exact (executed_iff woken.shows.aligned _).mpr narrow ls ((sent before ls).mp carries)

end Drivers

theorem init_wakes : GpioSysfs.driver.Wakes ∧ Platform.driver.Wakes :=
  ⟨gpioSysfs_sends.wakes, platform_sends.wakes⟩

theorem calls_obeyed_iff (calls : List Call) :
    (GpioSysfs.driver.Obeyed calls ↔ ∀ call ∈ calls.dropLast, ¬ Widens call.message) ∧
      (Platform.driver.Obeyed calls ↔ ∀ call ∈ calls.dropLast, ¬ Widens call.message) :=
  ⟨gpioSysfs_sends.obeyed_iff calls, platform_sends.obeyed_iff calls⟩

end MadDriver.Lcd

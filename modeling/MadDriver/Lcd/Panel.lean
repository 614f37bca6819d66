import MadDriver.Lcd.Display

/-! The lines and the display behind them as one thing, and what the functions of lcd.c
do to the screen. -/
namespace MadDriver.Lcd
open Kernel Wire Hd44780

def LCD_CMD_DIS_RETURN_HOME : UInt8 := 0x02

section Common

variable {P : Type} (io : Port P)

def lcdDisplayReturnHome : List (Write P) := lcdSendCommand io LCD_CMD_DIS_RETURN_HOME

def lcdDeinit : List (Write P) := lcdDisplayClear io ++ lcdDisplayReturnHome io

end Common

structure Panel (P : Type) where
  levels : Levels P
  controller : Controller

section Panel

variable {P : Type} [DecidableEq P] (io : Port P)

/-- The display latches the lines when the enable line falls, unless it is being read;
`low` is on the four lines that are not connected. -/
def Panel.write (low : UInt8) (d : Panel P) (w : Write P) : Panel P where
  levels := drive d.levels w
  controller :=
    if falls (io.line .EN) d.levels w && !d.levels (io.line .RW) then
      d.controller.latch ⟨(readNibble io d.levels).rs, (readNibble io d.levels).value, low⟩
    else d.controller

def Panel.after (low : UInt8) (d : Panel P) (ws : List (Write P)) : Panel P :=
  ws.foldl (Panel.write io low) d

theorem Panel.after_append (low : UInt8) (d : Panel P) (ws vs : List (Write P)) :
    d.after io low (ws ++ vs) = (d.after io low ws).after io low vs := List.foldl_append

theorem Panel.after_levels (low : UInt8) (d : Panel P) (ws : List (Write P)) :
    (d.after io low ws).levels = Wire.after d.levels ws := by
  induction ws generalizing d with
  | nil => rfl
  | cons w ws ih => exact ih (d.write io low w)

theorem panel_sees {l : Levels P} {ws : List (Write P)} {out : List Nibble}
    (sees : (display io).Sees l ws out) (low : UInt8) (c : Controller) :
    (⟨l, c⟩ : Panel P).after io low ws =
      ⟨Wire.after l ws, (out.map fun n => ⟨n.rs, n.value, low⟩).foldl Controller.latch c⟩ := by
  obtain ⟨rfl, stable, writing⟩ := sees
  clear stable
  induction ws generalizing l c with
  | nil => rfl
  | cons w ws ih =>
    obtain ⟨here, later⟩ := writing
    have chosen : l (io.line .RW) = false := here
    have step : (⟨l, c⟩ : Panel P).write io low w = ⟨drive l w,
        if falls (io.line .EN) l w then
          c.latch ⟨(readNibble io l).rs, (readNibble io l).value, low⟩ else c⟩ := by
      simp [Panel.write, chosen]
    rw [Panel.after, List.foldl_cons, step]
    refine (ih _ later).trans ?_
    rw [after_cons]
    congr 1
    by_cases fall : falls (io.line .EN) l w = true
    · simp [display, samples, fall]
    · simp [display, samples, fall]

theorem panel_woken {driver : Driver P} (sends : driver.Sends) (low : UInt8) (d : Panel P) :
    Idle driver.port (d.after driver.port low (driver.prepare ++ driver.lcdInit)).levels ∧
      Fresh (d.after driver.port low (driver.prepare ++ driver.lcdInit)).controller := by
  have ready := sends.prepared d.levels
  rw [← Panel.after_levels driver.port low] at ready
  obtain ⟨sees, idle⟩ := sends.init _ ready
  have woken := panel_sees driver.port sees low (d.after driver.port low driver.prepare).controller
  rw [Panel.after_append]
  refine ⟨?_, ?_⟩
  · rw [Panel.after_levels]
    exact idle
  · rw [woken]
    refine init_latched ?_ _
    rw [Latched, Carries, List.map_map]
    rfl

/-- The writes take a panel that is idle and shows `s` to one that is idle and shows `s'`. -/
def Turns (ws : List (Write P)) (s s' : Screen) : Prop :=
  ∀ (low : UInt8) (d : Panel P), Idle io d.levels → d.controller.Shows s →
    Idle io (d.after io low ws).levels ∧ (d.after io low ws).controller.Shows s'

variable {io} {ws vs : List (Write P)} {s s' s'' : Screen}

theorem Turns.nil : Turns io [] s s := fun _ _ idle shows => ⟨idle, shows⟩

theorem Turns.append (first : Turns io ws s s') (second : Turns io vs s' s'') :
    Turns io (ws ++ vs) s s'' := by
  intro low d idle shows
  obtain ⟨idle, shows⟩ := first low d idle shows
  rw [Panel.after_append]
  exact second low _ idle shows

theorem turns_requests (rs : List Request)
    (sent : (display io).Triple (Idle io) ws ((rs.map Request.message).flatMap nibbles)
      (Idle io)) (s : Screen) : Turns io ws s (rs.foldl Screen.apply s) := by
  intro low d idle shows
  obtain ⟨sees, still⟩ := sent d.levels idle
  have latched : Carries
      ((((rs.map Request.message).flatMap nibbles).map fun n => ⟨n.rs, n.value, low⟩))
      ((rs.map Request.message).flatMap asHalves) := by
    rw [Carries, List.map_map, ← nibbles_halves]
    rfl
  rw [panel_sees io sees low d.controller]
  exact ⟨still, requests_shown shows latched⟩

variable (io)

theorem command_turns (r : Request) {b : UInt8} (command : r.message = (false, b))
    (s : Screen) : Turns io (lcdSendCommand io b) s (s.apply r) := by
  refine turns_requests [r] ?_ s
  simpa [command] using lcdSendCommand_sent io b

theorem chars_turn (text : List UInt8) (s : Screen) :
    Turns io (text.flatMap (lcdPrintChar io)) s (s.type text) := by
  refine turns_requests (text.map Request.put) ?_ s
  have sent := chars_sent io text
  simpa [List.flatMap_map, Request.message] using sent

theorem clear_turns (s : Screen) : Turns io (lcdDisplayClear io) s .blank :=
  command_turns io .clear rfl s

theorem home_turns (s : Screen) : Turns io (lcdDisplayReturnHome io) s (s.apply .home) :=
  command_turns io .home rfl s

def cellAt (row column : Nat) : Fin 80 := .ofNat 80 (40 * (row - 1) + (column - 1))

theorem setCursor_turns (row column : Nat) (in_rows : 1 ≤ row ∧ row ≤ 2)
    (in_columns : 1 ≤ column ∧ column ≤ 40) (s : Screen) :
    Turns io (lcdSetCursor io (.ofNat row) (.ofNat column)) s
      (s.apply (.goTo (cellAt row column))) := by
  have first : ∀ c : Fin 40, (UInt8.ofNat (c + 1) - 1) ||| DDRAM_FIRST_LINE_BASE_ADDR =
      0x80 ||| addressOf (.ofNat 80 (40 * 0 + c)) := by decide +kernel
  have second : ∀ c : Fin 40, (UInt8.ofNat (c + 1) - 1) ||| DDRAM_SECOND_LINE_BASE_ADDR =
      0x80 ||| addressOf (.ofNat 80 (40 * 1 + c)) := by decide +kernel
  obtain ⟨c, rfl⟩ := Nat.exists_eq_add_of_le' in_columns.1
  have within : c < 40 := by omega
  obtain rfl | rfl : row = 1 ∨ row = 2 := by omega
  · have command : lcdSetCursor io (.ofNat 1) (.ofNat (c + 1)) =
        lcdSendCommand io (0x80 ||| addressOf (cellAt 1 (c + 1))) :=
      congrArg (lcdSendCommand io) (first ⟨c, within⟩)
    rw [command]
    exact command_turns io (.goTo _) rfl s
  · have command : lcdSetCursor io (.ofNat 2) (.ofNat (c + 1)) =
        lcdSendCommand io (0x80 ||| addressOf (cellAt 2 (c + 1))) :=
      congrArg (lcdSendCommand io) (second ⟨c, within⟩)
    rw [command]
    exact command_turns io (.goTo _) rfl s

end Panel

end MadDriver.Lcd

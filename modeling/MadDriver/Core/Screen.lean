import MadDriver.Core.Hd44780

/-! Text on the screen of the display: where a row of characters comes to stand, and what
the window shows of it. -/
namespace MadDriver.Hd44780.Screen

def type (s : Screen) (text : List UInt8) : Screen :=
  (text.map Request.put).foldl apply s

def ahead (s : Screen) (p : Fin 80) : Nat :=
  if s.forward then (p - s.cursor).val else (s.cursor - p).val

@[simp] theorem type_nil (s : Screen) : s.type [] = s := rfl

theorem type_cons (s : Screen) (ch : UInt8) (text : List UInt8) :
    s.type (ch :: text) = (s.apply (.put ch)).type text := rfl

theorem type_append (s : Screen) (text more : List UInt8) :
    s.type (text ++ more) = (s.type text).type more := by
  simp [type]

theorem type_frame (s : Screen) (text : List UInt8) :
    (s.type text).forward = s.forward ∧ (s.type text).shift = s.shift := by
  induction text generalizing s with
  | nil => exact ⟨rfl, rfl⟩
  | cons ch text ih => exact ih (s.apply (.put ch))

theorem ahead_put (s : Screen) (ch : UInt8) (p : Fin 80) :
    (s.ahead p = 0 ↔ p = s.cursor) ∧
    (p ≠ s.cursor → s.ahead p = (s.apply (.put ch)).ahead p + 1) ∧
    (p = s.cursor → (s.apply (.put ch)).ahead p = 79) := by
  have within := s.cursor.isLt
  have inside := p.isLt
  cases forward : s.forward with
  | true =>
    simp only [ahead, apply, forward, if_true, Fin.sub_def, Fin.val_add, Fin.ext_iff,
      Fin.val_one]
    omega
  | false =>
    simp only [ahead, apply, forward, Bool.false_eq_true, if_false, Fin.sub_def, Fin.ext_iff,
      Fin.val_one]
    omega

/-- A text of a screen's length at most is in the cells behind the cursor, and every other
cell is as it was. -/
theorem type_cells {text : List UInt8} (short : text.length ≤ 80) (s : Screen) (p : Fin 80) :
    (s.type text).cells p = (text[s.ahead p]?).getD (s.cells p) := by
  induction text generalizing s with
  | nil => simp
  | cons ch text ih =>
    rw [List.length_cons] at short
    obtain ⟨here, further, around⟩ := ahead_put s ch p
    rw [type_cons, ih (by omega)]
    by_cases same : p = s.cursor
    · have last : text[(s.apply (.put ch)).ahead p]? = none :=
        List.getElem?_eq_none (by rw [around same]; omega)
      rw [last, here.mpr same, same]
      simp [apply]
    · rw [further same, List.getElem?_cons_succ]
      simp [apply, same]

def page (first second : List UInt8) (p : Fin 80) : UInt8 :=
  if p.val < 40 then (first[p.val]?).getD 0x20 else (second[p.val - 40]?).getD 0x20

def columnsOf (columns shift : Nat) (row : List UInt8) : List UInt8 :=
  (List.range columns).map fun j => (row[(shift + j) % 40]?).getD 0x20

theorem page_window {s : Screen} {first second : List UInt8} (cells : s.cells = page first second)
    (columns : Nat) :
    s.window columns 0 = columnsOf columns s.shift first ∧
      s.window columns 1 = columnsOf columns s.shift second := by
  have place (line : Fin 2) (j : Nat) :
      (Fin.ofNat 80 (40 * line + (s.shift + j) % 40)).val = 40 * line + (s.shift + j) % 40 := by
    have two := line.isLt
    have column : (s.shift + j) % 40 < 40 := Nat.mod_lt _ (by decide)
    simp only [Fin.val_ofNat]
    omega
  refine ⟨?_, ?_⟩
  · refine List.map_congr_left fun j _ => ?_
    have column : (s.shift + j) % 40 < 40 := Nat.mod_lt _ (by decide)
    simp only [cells, page, place]
    simp [column]
  · refine List.map_congr_left fun j _ => ?_
    simp only [cells, page, place]
    simp

def picture (s : Screen) (columns : Nat) : List UInt8 × List UInt8 :=
  (s.window columns 0, s.window columns 1)

theorem page_picture {s : Screen} {first second : List UInt8} (cells : s.cells = page first second)
    (columns : Nat) :
    s.picture columns = (columnsOf columns s.shift first, columnsOf columns s.shift second) :=
  Prod.ext (page_window cells columns).1 (page_window cells columns).2

theorem blank_page : blank.cells = page [] [] := by
  funext p
  simp [blank, page]

theorem ahead_forward {s : Screen} (forward : s.forward = true) (p : Fin 80) :
    s.ahead p = (80 - s.cursor + p) % 80 := by
  simp [ahead, forward, Fin.sub_def]

theorem type_first {s : Screen} {text second : List UInt8} (forward : s.forward = true)
    (start : s.cursor = 0) (short : text.length ≤ 40) (cells : s.cells = page [] second) :
    (s.type text).cells = page text second := by
  funext p
  have inside := p.isLt
  have place : s.ahead p = p.val := by
    rw [ahead_forward forward, start]
    simp [Nat.mod_eq_of_lt]
  rw [type_cells (by omega), place, cells]
  simp only [page]
  split
  · simp
  · rw [List.getElem?_eq_none (by omega)]
    rfl

theorem type_second {s : Screen} {first text : List UInt8} (forward : s.forward = true)
    (start : s.cursor = 40) (short : text.length ≤ 40) (cells : s.cells = page first []) :
    (s.type text).cells = page first text := by
  funext p
  have inside := p.isLt
  have place : s.ahead p = (40 + p.val) % 80 := by
    rw [ahead_forward forward, start]
    rfl
  rw [type_cells (by omega), place, cells]
  simp only [page]
  split
  · rw [List.getElem?_eq_none (by omega)]
    rfl
  · have line : (40 + p.val) % 80 = p.val - 40 := by omega
    simp [line]

end MadDriver.Hd44780.Screen

namespace MadDriver.Hd44780

/-- What the controller drives onto a glass of two lines. -/
def Controller.glass (c : Controller) (columns : Nat) : List UInt8 × List UInt8 :=
  if c.on then
    ((List.range columns).map fun j => c.ddram (addressOf (.ofNat 80 ((c.shift + j) % 40))),
      (List.range columns).map fun j => c.ddram (addressOf (.ofNat 80 (40 + (c.shift + j) % 40))))
  else (List.replicate columns 0x20, List.replicate columns 0x20)

theorem Controller.Shows.glass {c : Controller} {s : Screen} (shows : c.Shows s)
    (columns : Nat) : c.glass columns = s.picture columns := by
  obtain ⟨_, _, _, _, lit, _, _, moved, cells⟩ := shows
  rw [Controller.glass, if_pos lit]
  refine Prod.ext ?_ ?_
  · refine List.map_congr_left fun j _ => ?_
    simp [cells, moved]
  · refine List.map_congr_left fun j _ => ?_
    simp [cells, moved]

end MadDriver.Hd44780

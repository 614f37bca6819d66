import Mathlib.Data.Fin.Basic
import Mathlib.Logic.Function.Basic

/-! A character display with an HD44780 controller.
The registers, the instructions and the two widths of the interface are those of the data
sheet. Over them is the screen: the eighty cells of a two-line display, a cursor, and a
window on each line. -/
namespace MadDriver.Hd44780

instance cells_neZero : @NeZero Nat Zero.ofOfNat0 80 := ⟨Nat.succ_ne_zero 79⟩

/-- In four-bit mode a byte comes in two halves; `half` is the first one, once latched. -/
inductive Interface
  | eight
  | four (half : Option UInt8)
  deriving DecidableEq

structure Controller where
  interface : Interface
  twoLines : Bool
  /-- By the seven-bit address. -/
  ddram : UInt8 → UInt8
  cgram : UInt8 → UInt8
  glyphs : Bool
  address : UInt8
  increment : Bool
  follow : Bool
  on : Bool
  cursor : Bool
  blink : Bool
  /-- How far the window is to the right; a line of a two-line display has 40 cells. -/
  shift : Fin 80

def poweredOn : Controller where
  interface := .eight
  twoLines := false
  ddram := fun _ => 0x20
  cgram := fun _ => 0
  glyphs := false
  address := 0
  increment := true
  follow := false
  on := false
  cursor := false
  blink := false
  shift := 0

/-- What the enable line latches: the register selected, the four lines that are always
connected, and the four that are not in four-bit mode. -/
structure Latch where
  rs : Bool
  high : UInt8
  low : UInt8

namespace Controller

variable (c : Controller)

def next (forward : Bool) : UInt8 :=
  if c.glyphs then (if forward then c.address + 1 else c.address - 1) &&& 0x3F
  else if c.twoLines then
    if forward then
      if c.address = 0x27 then 0x40
      else if c.address = 0x67 then 0 else (c.address + 1) &&& 0x7F
    else
      if c.address = 0x40 then 0x27
      else if c.address = 0 then 0x67 else (c.address - 1) &&& 0x7F
  else if forward then if c.address = 0x4F then 0 else (c.address + 1) &&& 0x7F
  else if c.address = 0 then 0x4F else (c.address - 1) &&& 0x7F

def shifted (left : Bool) : Fin 80 := if left then c.shift + 1 else c.shift - 1

/-- The highest bit that is set tells the instructions apart. -/
def execute (i : UInt8) : Controller :=
  if i &&& 0x80 ≠ 0 then { c with glyphs := false, address := i &&& 0x7F }
  else if i &&& 0x40 ≠ 0 then { c with glyphs := true, address := i &&& 0x3F }
  else if i &&& 0x20 ≠ 0 then
    { c with
      interface := if i &&& 0x10 ≠ 0 then .eight else .four none
      twoLines := i &&& 0x08 ≠ 0 }
  else if i &&& 0x10 ≠ 0 then
    if i &&& 0x08 ≠ 0 then { c with shift := c.shifted (i &&& 0x04 = 0) }
    else { c with address := c.next (i &&& 0x04 ≠ 0) }
  else if i &&& 0x08 ≠ 0 then
    { c with on := i &&& 0x04 ≠ 0, cursor := i &&& 0x02 ≠ 0, blink := i &&& 0x01 ≠ 0 }
  else if i &&& 0x04 ≠ 0 then { c with increment := i &&& 0x02 ≠ 0, follow := i &&& 0x01 ≠ 0 }
  else if i &&& 0x02 ≠ 0 then { c with glyphs := false, address := 0, shift := 0 }
  else if i &&& 0x01 ≠ 0 then
    { c with
      ddram := fun _ => 0x20
      glyphs := false
      address := 0
      shift := 0
      increment := true }
  else c

def write (d : UInt8) : Controller :=
  if c.glyphs then
    { c with
      cgram := Function.update c.cgram (c.address &&& 0x3F) d
      address := c.next c.increment }
  else
    { c with
      ddram := Function.update c.ddram c.address d
      address := c.next c.increment
      shift := if c.follow then c.shifted c.increment else c.shift }

def receive (m : Bool × UInt8) : Controller := if m.1 then c.write m.2 else c.execute m.2

/-- The register of a byte in halves is the one selected with the second half. -/
def latch (l : Latch) : Controller :=
  match c.interface with
  | .eight => c.receive (l.rs, l.high <<< 4 ||| l.low &&& 0xF)
  | .four none => { c with interface := .four (some l.high) }
  | .four (some half) =>
    { c with interface := .four none }.receive (l.rs, half <<< 4 ||| l.high &&& 0xF)

def message (l : Latch) : Option (Bool × UInt8) :=
  match c.interface with
  | .eight => some (l.rs, l.high <<< 4 ||| l.low &&& 0xF)
  | .four none => none
  | .four (some half) => some (l.rs, half <<< 4 ||| l.high &&& 0xF)

def executed : Controller → List Latch → List (Bool × UInt8)
  | _, [] => []
  | c, l :: ls => (c.message l).toList ++ executed (c.latch l) ls

end Controller

def addressOf (p : Fin 80) : UInt8 := if p.val < 40 then .ofNat p else .ofNat (p + 24)

structure Screen where
  cells : Fin 80 → UInt8
  cursor : Fin 80
  forward : Bool
  shift : Fin 80

inductive Request
  | put (ch : UInt8)
  | clear
  | home
  | goTo (p : Fin 80)
  | move (right : Bool)
  | scroll (left : Bool)
  | entry (forward : Bool)

namespace Screen

def blank : Screen := ⟨fun _ => 0x20, 0, true, 0⟩

def apply (s : Screen) : Request → Screen
  | .put ch =>
    { s with
      cells := Function.update s.cells s.cursor ch
      cursor := if s.forward then s.cursor + 1 else s.cursor - 1 }
  | .clear => blank
  | .home => { s with cursor := 0, shift := 0 }
  | .goTo p => { s with cursor := p }
  | .move right => { s with cursor := if right then s.cursor + 1 else s.cursor - 1 }
  | .scroll left => { s with shift := if left then s.shift + 1 else s.shift - 1 }
  | .entry forward => { s with forward := forward }

def window (s : Screen) (columns : Nat) (line : Fin 2) : List UInt8 :=
  (List.range columns).map fun j => s.cells (.ofNat 80 (40 * line + (s.shift + j) % 40))

end Screen

def Request.message : Request → Bool × UInt8
  | .put ch => (true, ch)
  | .clear => (false, 0x01)
  | .home => (false, 0x02)
  | .goTo p => (false, 0x80 ||| addressOf p)
  | .move right => (false, if right then 0x14 else 0x10)
  | .scroll left => (false, if left then 0x18 else 0x1C)
  | .entry forward => (false, if forward then 0x06 else 0x04)

/-- A two-line display in four-bit mode, between two bytes, shows the screen. -/
structure Controller.Shows (c : Controller) (s : Screen) : Prop where
  aligned : c.interface = .four none
  lines : c.twoLines = true
  text : c.glyphs = false
  still : c.follow = false
  lit : c.on = true
  place : c.address = addressOf s.cursor
  direction : c.increment = s.forward
  moved : c.shift = s.shift
  cells : ∀ p, c.ddram (addressOf p) = s.cells p

theorem addressOf_injective : Function.Injective addressOf := by
  intro p q same
  have both := congrArg UInt8.toNat same
  simp only [addressOf] at both
  split at both <;> split at both <;>
    simp only [UInt8.toNat_ofNat'] at both <;> omega

theorem addressOf_small (p : Fin 80) :
    (0x80 ||| addressOf p) &&& 0x80 ≠ 0 ∧ (0x80 ||| addressOf p) &&& 0x7F = addressOf p := by
  revert p
  decide +kernel

theorem next_addressOf {c : Controller} (lines : c.twoLines = true) (text : c.glyphs = false)
    {p : Fin 80} (place : c.address = addressOf p) (forward : Bool) :
    c.next forward = addressOf (if forward then p + 1 else p - 1) := by
  have counted : ∀ (p : Fin 80) (forward : Bool),
      (if forward then
        if addressOf p = 0x27 then 0x40
        else if addressOf p = 0x67 then 0 else (addressOf p + 1) &&& 0x7F
      else
        if addressOf p = 0x40 then 0x27
        else if addressOf p = 0 then 0x67 else (addressOf p - 1) &&& 0x7F) =
      addressOf (if forward then p + 1 else p - 1) := by
    decide +kernel
  simp only [Controller.next, lines, text, place]
  exact counted p forward

theorem shows_put {c : Controller} {s : Screen} (shows : c.Shows s) (ch : UInt8) :
    (c.write ch).Shows (s.apply (.put ch)) := by
  have place := next_addressOf shows.lines shows.text shows.place c.increment
  rw [shows.direction] at place
  obtain ⟨aligned, lines, text, still, lit, here, direction, moved, cells⟩ := shows
  have written : c.write ch = { c with
      ddram := Function.update c.ddram c.address ch
      address := c.next c.increment } := by
    simp [Controller.write, text, still]
  rw [written]
  refine ⟨aligned, lines, text, still, lit, ?_, direction, moved, ?_⟩
  · simpa only [Screen.apply, direction] using place
  · intro p
    rcases eq_or_ne p s.cursor with rfl | other
    · simp [Screen.apply, here]
    · have apart : addressOf p ≠ c.address := here ▸ addressOf_injective.ne other
      simp [Screen.apply, apart, other, cells]

theorem receive_shows {c : Controller} {s : Screen} (shows : c.Shows s) (r : Request) :
    (c.receive r.message).Shows (s.apply r) := by
  have ⟨aligned, lines, text, still, lit, here, direction, moved, cells⟩ := shows
  cases r with
  | put ch => exact shows_put shows ch
  | clear => exact ⟨aligned, lines, rfl, still, lit, rfl, rfl, rfl, fun _ => rfl⟩
  | home => exact ⟨aligned, lines, rfl, still, lit, rfl, direction, rfl, cells⟩
  | goTo p =>
    obtain ⟨high, low⟩ := addressOf_small p
    simp only [Request.message, Controller.receive, Bool.false_eq_true, if_false,
      Controller.execute, if_pos high, low]
    exact ⟨aligned, lines, rfl, still, lit, rfl, direction, moved, cells⟩
  | move right =>
    have place := next_addressOf lines text here right
    cases right with
    | true => exact ⟨aligned, lines, text, still, lit, place, direction, moved, cells⟩
    | false => exact ⟨aligned, lines, text, still, lit, place, direction, moved, cells⟩
  | scroll left =>
    cases left with
    | true =>
      exact ⟨aligned, lines, text, still, lit, here, direction, congrArg (· + 1) moved, cells⟩
    | false =>
      exact ⟨aligned, lines, text, still, lit, here, direction, congrArg (· - 1) moved, cells⟩
  | entry forward =>
    cases forward with
    | true => exact ⟨aligned, lines, text, rfl, lit, here, rfl, moved, cells⟩
    | false => exact ⟨aligned, lines, text, rfl, lit, here, rfl, moved, cells⟩

def asHalves (m : Bool × UInt8) : List (Bool × UInt8) := [(m.1, m.2 >>> 4), (m.1, m.2 &&& 0xF)]

def Carries (ls : List Latch) (hs : List (Bool × UInt8)) : Prop :=
  ls.map (fun l => (l.rs, l.high)) = hs

/-- The byte puts the interface in eight-bit mode. -/
def Widens (m : Bool × UInt8) : Prop := m.1 = false ∧ m.2 &&& 0xF0 = 0x30

instance (m : Bool × UInt8) : Decidable (Widens m) := inferInstanceAs (Decidable (_ ∧ _))

theorem join_halves (b : UInt8) : b >>> 4 <<< 4 ||| b &&& 0xF &&& 0xF = b := by
  obtain ⟨b⟩ := b
  revert b
  decide +kernel

theorem carries_cons {ls : List Latch} {h : Bool × UInt8} {hs : List (Bool × UInt8)}
    (carries : Carries ls (h :: hs)) :
    ∃ low rest, ls = ⟨h.1, h.2, low⟩ :: rest ∧ Carries rest hs := by
  cases ls with
  | nil => cases carries
  | cons l rest =>
    obtain ⟨same, later⟩ := List.cons.inj carries
    subst same
    exact ⟨l.low, rest, rfl, later⟩

theorem function_set (i : UInt8) :
    (i &&& 0xE0 = 0x20 ↔ ¬ i &&& 0x80 ≠ 0 ∧ ¬ i &&& 0x40 ≠ 0 ∧ i &&& 0x20 ≠ 0) ∧
    (i &&& 0xF0 = 0x30 ↔ i &&& 0xE0 = 0x20 ∧ i &&& 0x10 ≠ 0) ∧
    (i &&& 0xF0 = 0x20 ↔ i &&& 0xE0 = 0x20 ∧ ¬ i &&& 0x10 ≠ 0) := by
  obtain ⟨i⟩ := i
  revert i
  decide +kernel

theorem interface_write (c : Controller) (d : UInt8) : (c.write d).interface = c.interface := by
  unfold Controller.write
  split <;> rfl

theorem interface_execute (c : Controller) (i : UInt8) :
    (c.execute i).interface = if i &&& 0xE0 = 0x20 then
      if i &&& 0x10 ≠ 0 then .eight else .four none else c.interface := by
  obtain ⟨set, _, _⟩ := function_set i
  by_cases chosen : i &&& 0xE0 = 0x20
  · obtain ⟨seven, six, five⟩ := set.mp chosen
    rw [if_pos chosen, Controller.execute, if_neg seven, if_neg six, if_pos five]
  · rw [if_neg chosen]
    unfold Controller.execute
    split
    · rfl
    · split
      · rfl
      · split
        · rename_i seven six five
          exact absurd (set.mpr ⟨seven, six, five⟩) chosen
        · split_ifs <;> rfl

/-- A byte leaves the interface in the mode it was in, or in the one it asks for. -/
theorem interface_receive (c : Controller) (m : Bool × UInt8) :
    (c.receive m).interface =
      if Widens m then .eight
      else if m.1 = false ∧ m.2 &&& 0xF0 = 0x20 then .four none else c.interface := by
  obtain ⟨rs, i⟩ := m
  cases rs with
  | true =>
    have written : (c.receive (true, i)).interface = c.interface := interface_write c i
    simp [Widens, written]
  | false =>
    obtain ⟨_, wide, narrow⟩ := function_set i
    have executed : (c.receive (false, i)).interface = (c.execute i).interface := rfl
    rw [executed, interface_execute]
    simp only [Widens, true_and, wide, narrow]
    by_cases chosen : i &&& 0xE0 = 0x20
    · by_cases wide : i &&& 0x10 = 0
      · simp [chosen, wide]
      · simp [chosen, wide]
    · simp [chosen]

theorem receive_aligned {c : Controller} {m : Bool × UInt8} (aligned : c.interface = .four none)
    (narrow : ¬ Widens m) : (c.receive m).interface = .four none := by
  rw [interface_receive, if_neg narrow, aligned, ite_self]

theorem latch_halves {c : Controller} (aligned : c.interface = .four none) (m : Bool × UInt8)
    (low low' : UInt8) :
    (c.latch ⟨m.1, m.2 >>> 4, low⟩).latch ⟨m.1, m.2 &&& 0xF, low'⟩ = c.receive m ∧
      c.message ⟨m.1, m.2 >>> 4, low⟩ = none ∧
      (c.latch ⟨m.1, m.2 >>> 4, low⟩).message ⟨m.1, m.2 &&& 0xF, low'⟩ = some m := by
  have back : { c with interface := .four none } = c := by
    rw [← aligned]
  refine ⟨?_, ?_, ?_⟩
  · simp [Controller.latch, aligned, back, join_halves]
  · simp [Controller.message, aligned]
  · simp [Controller.message, Controller.latch, aligned, join_halves]

theorem foldl_latch {c : Controller} (aligned : c.interface = .four none)
    {ms : List (Bool × UInt8)} (narrow : ∀ m ∈ ms, ¬ Widens m) {ls : List Latch}
    (carries : Carries ls (ms.flatMap asHalves)) :
    ls.foldl Controller.latch c = ms.foldl Controller.receive c ∧
      (ms.foldl Controller.receive c).interface = .four none := by
  induction ms generalizing c ls with
  | nil =>
    cases List.map_eq_nil_iff.mp carries
    exact ⟨rfl, aligned⟩
  | cons m ms ih =>
    obtain ⟨low, after, rfl, second⟩ := carries_cons carries
    obtain ⟨low', rest, rfl, later⟩ := carries_cons second
    obtain ⟨received, _, _⟩ := latch_halves aligned m low low'
    have kept := receive_aligned aligned (narrow m List.mem_cons_self)
    rw [List.foldl_cons, List.foldl_cons, received]
    exact ih kept (fun m member => narrow m (List.mem_cons_of_mem _ member)) later

theorem requests_shown {c : Controller} {s : Screen} (shows : c.Shows s) {rs : List Request}
    {ls : List Latch} (carries : Carries ls ((rs.map Request.message).flatMap asHalves)) :
    (ls.foldl Controller.latch c).Shows (rs.foldl Screen.apply s) := by
  have never : ∀ r : Request, ¬ Widens r.message := by
    intro r
    cases r with
    | put ch => simp [Widens, Request.message]
    | clear => decide
    | home => decide
    | goTo p => revert p; decide +kernel
    | move right => revert right; decide
    | scroll left => revert left; decide
    | entry forward => revert forward; decide
  have narrow : ∀ m ∈ rs.map Request.message, ¬ Widens m := by
    intro m member
    obtain ⟨r, _, rfl⟩ := List.mem_map.mp member
    exact never r
  rw [(foldl_latch shows.aligned narrow carries).1, List.foldl_map]
  clear carries narrow
  induction rs generalizing c s with
  | nil => exact shows
  | cons r rs ih => exact ih (receive_shows shows r)

/-- The data sheet's initialising by instruction. -/
def byInstruction : List (Bool × UInt8) := [(false, 3), (false, 3), (false, 3), (false, 2)]

theorem latch_eight {c : Controller} (eight : c.interface = .eight) (l : Latch) :
    c.latch l = c.receive (l.rs, l.high <<< 4 ||| l.low &&& 0xF) := by
  rw [Controller.latch, eight]

theorem latch_first {c : Controller} (aligned : c.interface = .four none) (l : Latch) :
    c.latch l = { c with interface := .four (some l.high) } := by
  rw [Controller.latch, aligned]

theorem latch_second {c : Controller} {half : UInt8} (pending : c.interface = .four (some half))
    (l : Latch) :
    c.latch l = { c with interface := .four none }.receive
      (l.rs, half <<< 4 ||| l.high &&& 0xF) := by
  rw [Controller.latch, pending]

theorem open_lines (low : UInt8) :
    Widens (false, (3 : UInt8) <<< 4 ||| low &&& 0xF) ∧
    ¬ Widens (false, (2 : UInt8) <<< 4 ||| low &&& 0xF) ∧
    ((2 : UInt8) <<< 4 ||| low &&& 0xF) &&& 0xF0 = 0x20 := by
  obtain ⟨low⟩ := low
  revert low
  decide +kernel

theorem eight_widened {c : Controller} (eight : c.interface = .eight) (low : UInt8) :
    (c.latch ⟨false, 3, low⟩).interface = .eight := by
  rw [latch_eight eight, interface_receive, if_pos (open_lines low).1]

theorem aligned_widened {c : Controller} (aligned : c.interface = .four none)
    (low low' : UInt8) :
    ((c.latch ⟨false, 3, low⟩).latch ⟨false, 3, low'⟩).interface = .eight := by
  have pending : (c.latch ⟨false, 3, low⟩).interface = .four (some 3) := by
    rw [latch_first aligned]
  rw [latch_second pending, interface_receive, if_pos (open_lines 3).1]

theorem pending_finished {c : Controller} {half : UInt8}
    (pending : c.interface = .four (some half)) (l : Latch) :
    (c.latch l).interface = .eight ∨ (c.latch l).interface = .four none := by
  rw [latch_second pending, interface_receive, ite_self]
  split
  · exact .inl rfl
  · exact .inr rfl

/-- Three instructions for eight-bit mode: the first one may end a byte that was begun. -/
theorem thrice_widened (c : Controller) (low low' low'' : UInt8) :
    (((c.latch ⟨false, 3, low⟩).latch ⟨false, 3, low'⟩).latch ⟨false, 3, low''⟩).interface =
      .eight := by
  cases mode : c.interface with
  | eight => exact eight_widened (eight_widened (eight_widened mode low) low') low''
  | four half =>
    cases half with
    | none => exact eight_widened (aligned_widened mode low low') low''
    | some half =>
      rcases pending_finished mode ⟨false, 3, low⟩ with eight | aligned
      · exact eight_widened (eight_widened eight low') low''
      · exact aligned_widened aligned low' low''

theorem woken {ls : List Latch} (carries : Carries ls byInstruction) (c : Controller) :
    (ls.foldl Controller.latch c).interface = .four none := by
  obtain ⟨low₁, _, rfl, second⟩ := carries_cons carries
  obtain ⟨low₂, _, rfl, third⟩ := carries_cons second
  obtain ⟨low₃, _, rfl, fourth⟩ := carries_cons third
  obtain ⟨low₄, rest, rfl, done⟩ := carries_cons fourth
  cases List.map_eq_nil_iff.mp done
  obtain ⟨_, narrow, four⟩ := open_lines low₄
  have eight := thrice_widened c low₁ low₂ low₃
  have last := interface_receive
    (((c.latch ⟨false, 3, low₁⟩).latch ⟨false, 3, low₂⟩).latch ⟨false, 3, low₃⟩)
    (false, (2 : UInt8) <<< 4 ||| low₄ &&& 0xF)
  rw [if_neg narrow, if_pos ⟨rfl, four⟩] at last
  exact (congrArg Controller.interface (latch_eight eight ⟨false, 2, low₄⟩)).trans last

theorem executed_byte {c : Controller} (aligned : c.interface = .four none) (m : Bool × UInt8)
    (low low' : UInt8) (ls : List Latch) :
    c.executed (⟨m.1, m.2 >>> 4, low⟩ :: ⟨m.1, m.2 &&& 0xF, low'⟩ :: ls) =
      m :: (c.receive m).executed ls := by
  obtain ⟨received, first, second⟩ := latch_halves aligned m low low'
  simp [Controller.executed, received, first, second]

theorem carries_some (hs : List (Bool × UInt8)) :
    Carries (hs.map fun h => ⟨h.1, h.2, 0⟩) hs := by
  simp [Carries, Function.comp_def]

theorem eight_misread {c : Controller} (eight : c.interface = .eight) (m : Bool × UInt8)
    (ms : List (Bool × UInt8)) :
    ∃ ls, Carries ls ((m :: ms).flatMap asHalves) ∧ c.executed ls ≠ m :: ms := by
  have differs : ∀ b : UInt8, b >>> 4 <<< 4 ||| (b ^^^ 1) &&& 0xF ≠ b := by
    rintro ⟨b⟩
    revert b
    decide +kernel
  refine ⟨⟨m.1, m.2 >>> 4, m.2 ^^^ 1⟩ :: ⟨m.1, m.2 &&& 0xF, 0⟩ ::
    (ms.flatMap asHalves).map fun h => ⟨h.1, h.2, 0⟩, ?_, ?_⟩
  · exact congrArg (_ :: _ :: ·) (carries_some _)
  · intro same
    simp only [Controller.executed, Controller.message, eight, Option.toList_some,
      List.cons_append, List.cons.injEq] at same
    exact differs m.2 (congrArg Prod.snd same.1)

/-- The controller acts on the bytes as they were sent, whatever the four open lines do,
exactly if nothing is sent behind a byte that asks for eight-bit mode. -/
theorem executed_iff {c : Controller} (aligned : c.interface = .four none)
    (ms : List (Bool × UInt8)) :
    (∀ ls, Carries ls (ms.flatMap asHalves) → c.executed ls = ms) ↔
      ∀ m ∈ ms.dropLast, ¬ Widens m := by
  induction ms generalizing c with
  | nil =>
    refine ⟨fun _ m member => absurd member List.not_mem_nil, fun _ ls carries => ?_⟩
    cases List.map_eq_nil_iff.mp carries
    rfl
  | cons m ms ih =>
    have behind : (∀ ls, Carries ls ((m :: ms).flatMap asHalves) → c.executed ls = m :: ms) ↔
        ∀ ls, Carries ls (ms.flatMap asHalves) → (c.receive m).executed ls = ms := by
      constructor
      · intro all ls carries
        have whole := all (⟨m.1, m.2 >>> 4, 0⟩ :: ⟨m.1, m.2 &&& 0xF, 0⟩ :: ls)
          (congrArg (_ :: _ :: ·) carries)
        rw [executed_byte aligned] at whole
        exact (List.cons.inj whole).2
      · intro all ls carries
        obtain ⟨low, after, rfl, second⟩ := carries_cons carries
        obtain ⟨low', rest, rfl, later⟩ := carries_cons second
        exact (executed_byte aligned m low low' rest).trans (congrArg (m :: ·) (all rest later))
    rw [behind]
    cases ms with
    | nil =>
      refine ⟨fun _ m member => absurd member List.not_mem_nil, fun _ ls carries => ?_⟩
      cases List.map_eq_nil_iff.mp carries
      rfl
    | cons m' ms =>
      rw [List.dropLast_cons_cons, List.forall_mem_cons]
      by_cases widens : Widens m
      · have eight : (c.receive m).interface = .eight := by
          rw [interface_receive, if_pos widens]
        obtain ⟨ls, carries, misread⟩ := eight_misread eight m' ms
        exact ⟨fun all => absurd (all ls carries) misread, fun all => absurd widens all.1⟩
      · rw [ih (receive_aligned aligned widens)]
        exact (and_iff_right widens).symm

end MadDriver.Hd44780

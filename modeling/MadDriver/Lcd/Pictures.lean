import MadDriver.Core.CInt
import MadDriver.Lcd.App

/-! What the user of 007_gpio_sysfs_lcd sees at each pause of the program. -/
namespace MadDriver.Lcd.GpioSysfs
open Kernel Wire Hd44780

abbrev Picture := List UInt8 × List UInt8

def COLUMNS : Nat := 16

def pictureOf (shift : Nat) (first second : List UInt8) : Picture :=
  (Screen.columnsOf COLUMNS shift first, Screen.columnsOf COLUMNS shift second)

def stars (n : Nat) : List UInt8 := List.replicate n (ascii '*')

/-- The stars come from the left on the first line and from the right on the second. -/
def graphicsPictures (before : Picture) : List Picture :=
  [before] ++
  (List.range 16).map (fun k => pictureOf 0 (stars (k + 1)) []) ++
  (List.range 16).map (fun k =>
    pictureOf 0 (stars 16) (List.replicate (15 - k) 0x20 ++ stars (k + 1))) ++
  [pictureOf 0 (stars 16) (stars 16)]

def starred (s : Screen) (k : Nat) : Screen := s.type (stars k)

def Screen.turn (s : Screen) : Screen := (s.apply (.goTo (cellAt 2 16))).apply (.entry false)

def turned : Screen := Screen.turn (starred .blank 16)

theorem star_turns (s : Screen) (k : Nat) :
    Turns port (lcdPrintChar (ascii '*')) (starred s k) (starred s (k + 1)) := by
  have turns := chars_turn port [ascii '*'] (starred s k)
  have more : (starred s k).type [ascii '*'] = starred s (k + 1) := by
    rw [starred, starred, ← Screen.type_append, stars, stars, List.replicate_succ']
  rwa [more, List.flatMap_singleton] at turns

theorem starLine_plays (s : Screen) :
    Plays starLine s ((List.range 16).map fun k => starred s (k + 1))
      (Screen.turn (starred s 16)) := by
  have line := Plays.loop (starred s) 16 fun k _ => .write_pause (star_turns s k)
  have corner := setCursor_turns port 2 16 (by decide) (by decide)
    (starred s 16)
  have back := command_turns port (.entry false) rfl
    ((starred s 16).apply (.goTo (cellAt 2 16)))
  have whole := (line.append (.writes corner)).append (.writes back)
  rw [List.append_nil, List.append_nil] at whole
  exact whole

def homed : Screen :=
  ((Screen.turn (starred turned 16)).apply (.goTo (cellAt 1 1))).apply (.entry true)

def graphicsScreens (s : Screen) : List Screen :=
  [s] ++ (List.range 16).map (fun k => starred .blank (k + 1)) ++
    (List.range 16).map (fun k => starred turned (k + 1)) ++ [homed]

theorem graphics_play (s : Screen) :
    Plays transitionGraphics s (graphicsScreens s) .blank := by
  have start (s : Screen) := setCursor_turns port 1 1
    (by decide) (by decide) s
  have cleared := (Plays.pause.append (.writes (start s))).append (.writes (clear_turns port _))
  have lines : Plays ((List.range 2).flatMap fun _ => starLine) .blank
      ((List.range 16).map (fun k => starred .blank (k + 1)) ++
        (List.range 16).map (fun k => starred turned (k + 1)))
      (Screen.turn (starred turned 16)) := by
    have both := (starLine_plays .blank).append (starLine_plays turned)
    rwa [← List.append_nil (starLine ++ starLine), List.append_assoc] at both
  have home := ((cleared.append lines).append (.writes (start _))).append
    (.writes (command_turns port (.entry true) rfl _))
  have whole := (home.append .pause).append (.writes (clear_turns port _))
  simp only [List.append_nil] at whole
  rw [graphicsScreens, List.append_assoc [s]]
  exact whole

theorem starred_page {k : Nat} (line : k ≤ 16) :
    (starred .blank k).cells = Screen.page (stars k) [] :=
  Screen.type_first rfl rfl (by simp [stars]; omega) Screen.blank_page

theorem starred_back {k : Nat} (line : k ≤ 16) :
    (starred turned k).cells =
      Screen.page (stars 16) (List.replicate (16 - k) 0x20 ++ stars k) := by
  funext p
  have inside := p.isLt
  have place : turned.ahead p = (80 - p + 55) % 80 := rfl
  have before : turned.cells p = Screen.page (stars 16) [] p :=
    congrFun (starred_page (Nat.le_refl 16)) p
  rw [starred, Screen.type_cells (by simp [stars]; omega), place, before]
  simp only [Screen.page, stars, List.getElem?_replicate, List.getElem?_append,
    List.length_replicate, List.getElem?_nil]
  split_ifs <;> first | rfl | omega

theorem picture_unmoved {s : Screen} {first second : List UInt8}
    (cells : s.cells = Screen.page first second) (home : s.shift = 0) :
    s.picture COLUMNS = pictureOf 0 first second := by
  rw [Screen.page_picture cells, home]
  rfl

theorem blank_picture : Screen.blank.picture COLUMNS = pictureOf 0 [] [] :=
  picture_unmoved Screen.blank_page rfl

theorem starred_picture {k : Nat} (line : k ≤ 16) :
    (starred .blank k).picture COLUMNS = pictureOf 0 (stars k) [] ∧
      (starred turned k).picture COLUMNS =
        pictureOf 0 (stars 16) (List.replicate (16 - k) 0x20 ++ stars k) := by
  refine ⟨picture_unmoved (starred_page line) ?_, picture_unmoved (starred_back line) ?_⟩
  · exact (Screen.type_frame .blank _).2
  · exact (Screen.type_frame turned _).2

theorem graphics_pictures (s : Screen) :
    (graphicsScreens s).map (·.picture COLUMNS) = graphicsPictures (s.picture COLUMNS) := by
  have small {k : Nat} (member : k ∈ List.range 16) : k + 1 ≤ 16 := List.mem_range.mp member
  have first : (List.range 16).map (fun k => (starred .blank (k + 1)).picture COLUMNS) =
      (List.range 16).map fun k => pictureOf 0 (stars (k + 1)) [] :=
    List.map_congr_left fun k member => (starred_picture (small member)).1
  have second : (List.range 16).map (fun k => (starred turned (k + 1)).picture COLUMNS) =
      (List.range 16).map fun k =>
        pictureOf 0 (stars 16) (List.replicate (15 - k) 0x20 ++ stars (k + 1)) := by
    refine List.map_congr_left fun k member => ?_
    have rest : 16 - (k + 1) = 15 - k := by omega
    rw [(starred_picture (small member)).2, rest]
  have full : homed.picture COLUMNS = pictureOf 0 (stars 16) (stars 16) :=
    picture_unmoved (starred_back (Nat.le_refl 16)) rfl
  simp only [graphicsScreens, List.map_append, List.map_map, Function.comp_def,
    List.map_singleton, first, second, full, graphicsPictures]

theorem glasses {cs : List Controller} {shown : List Screen}
    (seen : List.Forall₂ Controller.Shows cs shown) :
    cs.map (·.glass COLUMNS) = shown.map (·.picture COLUMNS) := by
  induction seen with
  | nil => rfl
  | cons shows _ ih => rw [List.map_cons, List.map_cons, shows.glass, ih]

def scrolled (s : Screen) (k : Nat) : Screen := { s with shift := .ofNat 80 k }

theorem scroll_turns (s : Screen) (k : Nat) :
    Turns port (lcdSendCommand 0x18) (scrolled s k) (scrolled s (k + 1)) := by
  have turns := command_turns port (.scroll true) rfl (scrolled s k)
  have more : (scrolled s k).apply (.scroll true) = scrolled s (k + 1) := by
    simp only [Screen.apply, scrolled, if_true]
    congr 1
    simp [Fin.ext_iff, Fin.val_add]
  rwa [more] at turns

def twoLines (first second : List UInt8) : Screen :=
  ((((Screen.blank.apply (.goTo 0)).type first).apply (.goTo 40)).type second)

theorem twoLines_turns (first second : List UInt8) :
    Turns port (lcdSendCommand DDRAM_FIRST_LINE_BASE_ADDR ++ first.flatMap lcdPrintChar ++
      lcdSendCommand DDRAM_SECOND_LINE_BASE_ADDR ++ second.flatMap lcdPrintChar) .blank
      (twoLines first second) :=
  (((command_turns port (.goTo 0) rfl _).append (chars_turn port first _)).append
    (command_turns port (.goTo 40) rfl _)).append (chars_turn port second _)

theorem twoLines_picture {first second : List UInt8} (short : first.length ≤ 40)
    (short' : second.length ≤ 40) :
    (twoLines first second).picture COLUMNS = pictureOf 0 first second := by
  have above : ((Screen.blank.apply (.goTo 0)).type first).cells = Screen.page first [] :=
    Screen.type_first rfl rfl short Screen.blank_page
  have frame := Screen.type_frame (Screen.blank.apply (.goTo 0)) first
  have both : (twoLines first second).cells = Screen.page first second :=
    Screen.type_second frame.1 rfl short' above
  refine picture_unmoved both ?_
  exact (Screen.type_frame _ second).2.trans frame.2

def threeText (mark : Char) (x y z : Int) : List UInt8 :=
  formatInt x ++ ascii mark :: (formatInt y ++ ascii mark :: formatInt z)

/-- The year as it is, and the month as `localtime` counts it. -/
def dateText (tm : Tm) : List UInt8 :=
  threeText '-' (tm.tmYear.toInt + 1900) tm.tmMon.toInt tm.tmMday.toInt

def timeText (tm : Tm) : List UInt8 :=
  threeText ':' tm.tmHour.toInt tm.tmMin.toInt tm.tmSec.toInt

theorem letters_printable {text : List UInt8} (printable : ∀ ch ∈ text, Printable ch) :
    letters text = text := by
  have no_newline : 10 ∉ text := fun newline => absurd (printable 10 newline) (by decide)
  rw [letters_filter no_newline, List.filter_eq_self.mpr printable]

theorem printable_formatInt (x : Int) : ∀ ch ∈ formatInt x, Printable ch := by
  intro ch member
  rcases formatInt_chars member with rfl | digit
  · decide
  · simp only [Printable, Bool.and_eq_true, decide_eq_true_eq, UInt8.lt_iff_toNat_lt]
    exact ⟨Nat.lt_of_lt_of_le (by decide) digit.1, Nat.lt_of_le_of_lt digit.2 (by decide)⟩

theorem printable_threeText {mark : Char} (printable : Printable (ascii mark)) (x y z : Int) :
    ∀ ch ∈ threeText mark x y z, Printable ch := by
  intro ch member
  simp only [threeText, List.mem_append, List.mem_cons] at member
  rcases member with first | rfl | second | rfl | third
  · exact printable_formatInt x ch first
  · exact printable
  · exact printable_formatInt y ch second
  · exact printable
  · exact printable_formatInt z ch third

theorem short_formatInt {x : Int} (low : -10 < x) (high : x < 100) :
    (formatInt x).length ≤ 2 :=
  (length_formatInt_le (k := 1) (by decide)).mpr ⟨low, high⟩

theorem lcdPrintfInts_done (mark : Char) (other : ascii mark ≠ 0x25)
    (printable : Printable (ascii mark)) {x y z : Int32}
    (short : (threeText mark x.toInt y.toInt z.toInt).length < TEXT_BUFFER_SIZE) :
    lcdPrintfInts (threeInts mark) [x, y, z] =
      .done ((threeText mark x.toInt y.toInt z.toInt).flatMap lcdPrintChar) := by
  have text : vsprintfInts (threeInts mark) [x, y, z] =
      .done (threeText mark x.toInt y.toInt z.toInt) := by
    simp [threeInts, threeText, vsprintfInts, other, Outcome.map, Outcome.bind,
      show ascii '%' = 0x25 from rfl, show ascii 'd' ≠ 0x25 from by decide]
  rw [lcdPrintfInts, text]
  simp only [Outcome.bind, if_pos short]
  rw [letters_printable (printable_threeText printable _ _ _)]

theorem length_threeText (mark : Char) (x y z : Int) :
    (threeText mark x y z).length =
      (formatInt x).length + (formatInt y).length + (formatInt z).length + 2 := by
  simp only [threeText, List.length_append, List.length_cons]
  omega

theorem length_dateText (tm : Tm) : (dateText tm).length ≤ 17 := by
  have year := tm.year
  have low := tm.tmYear.le_toInt
  have digits : (formatInt (tm.tmYear.toInt + 1900)).length ≤ 11 :=
    (length_formatInt_le (k := 10) (by decide)).mpr ⟨by omega, by omega⟩
  have mon := tm.mon
  have mday := tm.mday
  have mon_short := short_formatInt (x := tm.tmMon.toInt) (by omega) (by omega)
  have mday_short := short_formatInt (x := tm.tmMday.toInt) (by omega) (by omega)
  rw [dateText, length_threeText]
  omega

theorem length_timeText (tm : Tm) : (timeText tm).length ≤ 8 := by
  have hour := tm.hour
  have min := tm.min
  have sec := tm.sec
  have hour_short := short_formatInt (x := tm.tmHour.toInt) (by omega) (by omega)
  have min_short := short_formatInt (x := tm.tmMin.toInt) (by omega) (by omega)
  have sec_short := short_formatInt (x := tm.tmSec.toInt) (by omega) (by omega)
  rw [timeText, length_threeText]
  omega

theorem printTimeAndDate_turns (tm : Tm) :
    ∃ ws, printTimeAndDate tm = .done ws ∧
      Turns port ws .blank (twoLines (dateText tm) (timeText tm)) := by
  have year : (1900 + tm.tmYear).toInt = tm.tmYear.toInt + 1900 := by
    have fits := tm.year
    have low := tm.tmYear.le_toInt
    have base : (1900 : Int32).toInt = 1900 := rfl
    rw [Int32.toInt_add, base]
    exact (CInt.bmod_int (by omega) (by omega)).trans (Int.add_comm _ _)
  have date := length_dateText tm
  have time := length_timeText tm
  rw [dateText, ← year] at date
  have printed := lcdPrintfInts_done '-' (by decide) (by decide)
    (Nat.lt_of_le_of_lt date (by decide))
  have printed' := lcdPrintfInts_done ':' (by decide) (by decide)
    (Nat.lt_of_le_of_lt time (by decide))
  rw [year] at printed
  rw [printTimeAndDate, printed, printed']
  exact ⟨_, rfl, twoLines_turns (dateText tm) (timeText tm)⟩

theorem inetNtoa_facts (addr : InAddr) :
    0 ∉ inetNtoa addr ∧ inetNtoa addr ≠ [] ∧ (inetNtoa addr).length ≤ 15 := by
  have digits (n : Nat) : 0 ∉ decimal n := fun member =>
    absurd (decimal_digits member).1 (by decide)
  have short (b : UInt8) : (decimal b.toNat).length ≤ 3 := by
    rw [length_decimal_le (by decide)]
    exact Nat.lt_trans b.toNat_lt (by decide)
  have dot : (0 : UInt8) ≠ ascii '.' := by decide
  refine ⟨by simp [inetNtoa, digits, dot], by simp [inetNtoa], ?_⟩
  have a := short addr.a
  have b := short addr.b
  have c := short addr.c
  have d := short addr.d
  simp only [inetNtoa, List.length_append, List.length_cons]
  omega

theorem printIpAddress_turns (addr : InAddr) (behind behind' : List UInt8) :
    ∃ ws, printIpAddress addr behind behind' = .done ws ∧
      Turns port ws .blank (twoLines iface (inetNtoa addr)) := by
  obtain ⟨nulFree, nonempty, _⟩ := inetNtoa_facts addr
  have name : lcdPrintString (iface ++ 0 :: behind) =
      .done ⟨iface.flatMap lcdPrintChar, iface.length + 1⟩ :=
    lcdPrintString_prints port (by decide) (by decide) behind
  have address : lcdPrintString (inetNtoa addr ++ 0 :: behind') =
      .done ⟨(inetNtoa addr).flatMap lcdPrintChar, (inetNtoa addr).length + 1⟩ :=
    lcdPrintString_prints port nulFree nonempty behind'
  rw [printIpAddress, name, address]
  exact ⟨_, rfl, twoLines_turns iface (inetNtoa addr)⟩

def Message.text (message : Message) : List UInt8 := message.bytes.filter Printable

/-- The window moves once for each byte of the message that has no column. -/
def roundPictures (message : Message) (r : Round) : List Picture :=
  [pictureOf 0 message.text []] ++
  (List.range ((cString message.bytes).length - 16)).map (fun k =>
    pictureOf (k + 1) message.text []) ++
  graphicsPictures (pictureOf 0 [] []) ++
  [pictureOf 0 iface (inetNtoa r.addr)] ++
  graphicsPictures (pictureOf 0 iface (inetNtoa r.addr)) ++
  [pictureOf 0 (dateText r.tm) (timeText r.tm)] ++
  graphicsPictures (pictureOf 0 (dateText r.tm) (timeText r.tm))

theorem unmoved_text (message : Message) :
    scrolled (Screen.blank.type message.text) 0 = Screen.blank.type message.text := by
  have still := (Screen.type_frame .blank message.text).2
  rw [scrolled]
  exact congrArg (fun shift => { Screen.blank.type message.text with shift }) still.symm

theorem message_plays (message : Message) (n : Nat) :
    Plays (writes (lcdDisplayClear port) ++ writes (message.text.flatMap lcdPrintChar) ++
      [.pause] ++ (List.range n).flatMap (fun _ => writes (lcdSendCommand 0x18) ++ [.pause]))
      .blank
      ([Screen.blank.type message.text] ++
        (List.range n).map fun k => scrolled (Screen.blank.type message.text) (k + 1))
      (scrolled (Screen.blank.type message.text) n) := by
  have shown := ((Plays.writes (clear_turns port .blank)).append
    (.writes (chars_turn port message.text .blank))).append .pause
  have moves := Plays.loop (scrolled (Screen.blank.type message.text)) n
    fun k _ => .write_pause (scroll_turns _ k)
  rw [unmoved_text] at moves
  exact shown.append moves

section Program

variable {message : Message} (plain : message.Plain)
include plain

theorem text_plain :
    message.text = letters (cString message.bytes) ∧ message.text.length < TEXT_BUFFER_SIZE := by
  obtain ⟨_, room, silent⟩ := plain
  have inside : ∀ ch ∈ cString message.bytes, ch ∈ message.bytes :=
    fun ch member => (List.takeWhile_sublist _).mem member
  have behind : (message.bytes.drop (cString message.bytes).length).filter Printable = [] := by
    simpa [List.filter_eq_nil_iff] using silent
  have whole : message.text = (cString message.bytes).filter Printable := by
    have parts := congrArg (List.filter Printable) (split_message message.bytes)
    rw [List.filter_append, behind, List.append_nil] at parts
    exact parts.symm
  rw [whole]
  refine ⟨(letters_filter fun newline => message.no_newline (inside 10 newline)).symm, ?_⟩
  exact Nat.lt_of_le_of_lt (List.length_filter_le _ _) room

theorem lcdPrintf_plain :
    lcdPrintf (cString message.msgBuf) = .done (message.text.flatMap lcdPrintChar) := by
  rw [(text_plain plain).1, msgBuf_string, lcdPrintf, vsprintf_plain plain.1]
  exact if_pos plain.2.1

theorem text_picture {k : Nat} (small : k < 80) :
    (scrolled (Screen.blank.type message.text) k).picture COLUMNS =
      pictureOf k message.text [] := by
  have short : message.text.length < 32 := (text_plain plain).2
  have cells : (scrolled (Screen.blank.type message.text) k).cells =
      Screen.page message.text [] :=
    Screen.type_first rfl rfl (by omega) Screen.blank_page
  have moved : (scrolled (Screen.blank.type message.text) k).shift.val = k :=
    Nat.mod_eq_of_lt small
  rw [Screen.page_picture cells, moved]
  rfl

theorem round_plays (r : Round) :
    ∃ es shown, round message.msgBuf r = .done es ∧ Plays es .blank shown .blank ∧
      shown.map (·.picture COLUMNS) = roundPictures message r := by
  obtain ⟨address, addressed, address_turns⟩ := printIpAddress_turns r.addr r.behind r.behind'
  obtain ⟨time, timed, time_turns⟩ := printTimeAndDate_turns r.tm
  have room : (cString message.bytes).length < 32 := plain.2.1
  have moves : (if 16 < (cString message.msgBuf).length then
      (List.range ((cString message.msgBuf).length - 16)).flatMap fun _ =>
        writes (lcdSendCommand 0x18) ++ [.pause]
      else []) = (List.range ((cString message.bytes).length - 16)).flatMap fun _ =>
        writes (lcdSendCommand 0x18) ++ [.pause] := by
    rw [msgBuf_string]
    split
    · rfl
    · rw [show (cString message.bytes).length - 16 = 0 by omega]
      rfl
  have first := ((message_plays message ((cString message.bytes).length - 16)).append
    (.writes (clear_turns port _))).append (.writes (home_turns port .blank))
  have second := (((first.append (graphics_play .blank)).append (.writes address_turns)).append
    .pause).append (graphics_play _)
  have third := ((second.append (.writes time_turns)).append .pause).append (graphics_play _)
  refine ⟨_, _, ?_, third, ?_⟩
  · rw [round, lcdPrintf_plain plain, addressed, timed, moves]
    rfl
  · have start :
        (Screen.blank.type message.text).picture COLUMNS = pictureOf 0 message.text [] := by
      rw [← unmoved_text]
      exact text_picture plain (by decide)
    have way : ((List.range ((cString message.bytes).length - 16)).map fun k =>
        (scrolled (Screen.blank.type message.text) (k + 1)).picture COLUMNS) =
        (List.range ((cString message.bytes).length - 16)).map fun k =>
          pictureOf (k + 1) message.text [] := by
      refine List.map_congr_left fun k member => text_picture plain ?_
      have small := List.mem_range.mp member
      omega
    have ip := twoLines_picture (show iface.length ≤ 40 by decide)
      (Nat.le_trans (inetNtoa_facts r.addr).2.2 (by decide))
    have clock := twoLines_picture (Nat.le_trans (length_dateText r.tm) (by decide))
      (Nat.le_trans (length_timeText r.tm) (by decide))
    simp only [List.map_append, graphics_pictures, List.map_singleton, List.map_map,
      Function.comp_def, start, way, blank_picture, ip, clock, List.append_nil, roundPictures]

theorem loop_plays (rounds : List Round) :
    ∃ es shown, loop message.msgBuf rounds = .done es ∧ Plays es .blank shown .blank ∧
      shown.map (·.picture COLUMNS) = rounds.flatMap (roundPictures message) := by
  induction rounds with
  | nil => exact ⟨_, _, rfl, .nil, rfl⟩
  | cons r rounds ih =>
    obtain ⟨es, shown, ran, plays, pictures⟩ := round_plays plain r
    obtain ⟨es', shown', ran', plays', pictures'⟩ := ih
    refine ⟨es ++ es', shown ++ shown', ?_, plays.append plays', ?_⟩
    · rw [loop, ran, ran']
      rfl
    · rw [List.map_append, pictures, pictures', List.flatMap_cons]

/-- Whatever the lines and the display were before, and for every number of rounds. -/
theorem main_pictures (rounds : List Round) :
    ∃ es, main message.msgBuf rounds = .done es ∧ ∀ (low : UInt8) (d : Panel String),
      (watch low d es).map (·.glass COLUMNS) =
        pictureOf 0 [] [] :: rounds.flatMap (roundPictures message) := by
  obtain ⟨es, shown, ran, plays, pictures⟩ := loop_plays plain rounds
  refine ⟨writes initGpios ++ writes lcdInit ++ [.pause] ++ es, ?_, fun low d => ?_⟩
  · rw [main, ran]
    rfl
  · obtain ⟨idle, fresh⟩ := panel_woken gpioSysfs_sends low d
    obtain ⟨seen, _⟩ := (Plays.pause.append plays) low _ idle fresh.shows
    obtain ⟨watched, finished⟩ := watch_writes low d (initGpios ++ lcdInit)
    have silent : watch low d (writes initGpios ++ writes lcdInit ++ [.pause] ++ es) =
        watch low (d.after port low (initGpios ++ lcdInit)) ([.pause] ++ es) := by
      rw [List.append_assoc, writes, writes, ← List.map_append]
      rw [(watch_append low d _ _).1, ← writes, watched, finished, List.nil_append]
    rw [silent]
    refine (glasses seen).trans ?_
    rw [List.map_append, List.map_singleton, blank_picture, pictures]
    rfl

end Program

/-- Seventeen letters: the window moves once. -/
theorem main_pictures_letters : ∃ es,
    main (List.replicate 17 0x41 ++ [0]) [⟨⟨192, 168, 7, 2⟩,
      ⟨126, 6, 1, 12, 0, 0, by decide, by decide, by decide, by decide, by decide, by decide⟩,
      [], []⟩] = .done es ∧
    ∀ (low : UInt8) (d : Panel String), ((watch low d es).map (·.glass COLUMNS)).take 3 =
      [pictureOf 0 [] [], pictureOf 0 (List.replicate 17 0x41) [],
        pictureOf 1 (List.replicate 17 0x41) []] := by
  have plain : Message.Plain ⟨List.replicate 17 0x41, by decide, by decide, by decide⟩ :=
    ⟨by decide, by decide, by decide +kernel⟩
  obtain ⟨es, ran, seen⟩ := main_pictures plain [⟨⟨192, 168, 7, 2⟩,
    ⟨126, 6, 1, 12, 0, 0, by decide, by decide, by decide, by decide, by decide, by decide⟩,
    [], []⟩]
  refine ⟨es, ran, fun low d => ?_⟩
  rw [seen low d]
  rfl

end MadDriver.Lcd.GpioSysfs

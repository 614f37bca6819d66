import MadDriver.Lcd.WireFormat

/-! lcd_print_string. The loop prints before it tests, so it is right for a string that
has a byte to print, and runs over the NUL of one that has none. -/
namespace MadDriver.Lcd
open Kernel Wire

abbrev CString := {s : List UInt8 // 0 ∉ s}

/-- The string goes out as characters and as nothing else, and no byte behind its NUL
is read; `memory` is what stands there. -/
def PrintsString {P : Type} [DecidableEq P] (io : Port P)
    (lcdPrintString : List UInt8 → Outcome (Printed P)) (s : CString) (memory : List UInt8) :
    Prop :=
  ∃ r, lcdPrintString (s.val ++ 0 :: memory) = .done r ∧ r.read ≤ s.val.length + 1 ∧
    ∀ l, Idle io l → (display io).Sees l r.writes (s.val.flatMap fun ch => nibbles (true, ch))

section Loop

variable {P : Type} (io : Port P)

theorem lcdPrintString_prints {s : List UInt8} (nulFree : 0 ∉ s) (nonempty : s ≠ [])
    (memory : List UInt8) :
    lcdPrintString io (s ++ 0 :: memory) =
      .done ⟨s.flatMap (lcdPrintChar io), s.length + 1⟩ := by
  induction s with
  | nil => exact absurd rfl nonempty
  | cons ch s ih =>
    cases s with
    | nil => simp [lcdPrintString]
    | cons next s =>
      have more : next ≠ 0 := by
        rintro rfl
        exact nulFree (List.mem_cons_of_mem ch List.mem_cons_self)
      have rest := ih (fun member => nulFree (List.mem_cons_of_mem ch member))
        (List.cons_ne_nil next s)
      rw [List.cons_append, List.cons_append, lcdPrintString, if_neg more, ← List.cons_append,
        rest]
      rfl

theorem lcdPrintString_chars {memory : List UInt8} {r : Printed P}
    (done : lcdPrintString io memory = .done r) :
    ∃ ch chars, r.writes = (ch :: chars).flatMap (lcdPrintChar io) := by
  induction memory generalizing r with
  | nil => cases done
  | cons ch memory ih =>
    cases memory with
    | nil => cases done
    | cons next memory =>
      rw [lcdPrintString] at done
      split at done
      · cases done
        exact ⟨ch, [], by simp⟩
      · obtain ⟨rest, printed, rfl⟩ := Outcome.map_done.mp done
        obtain ⟨ch', chars, writes⟩ := ih printed
        refine ⟨ch, ch' :: chars, ?_⟩
        simp [writes]

variable [DecidableEq P]

theorem chars_sent (chars : List UInt8) :
    (display io).Triple (Idle io) (chars.flatMap (lcdPrintChar io))
      (chars.flatMap fun ch => nibbles (true, ch)) (Idle io) :=
  .flatMap (fun _ idle => idle.2) (lcdPrintChar_sent io) chars

theorem prints_iff (s : CString) (memory : List UInt8) :
    PrintsString io (lcdPrintString io) s memory ↔ s.val ≠ [] := by
  constructor
  · rintro ⟨r, done, _, sees⟩ empty
    obtain ⟨ch, chars, writes⟩ := lcdPrintString_chars io done
    have idle : Idle io (fun _ => false) := ⟨rfl, rfl⟩
    have seen := (sees _ idle).samples
    have sent := ((chars_sent io (ch :: chars)) _ idle).1.samples
    rw [writes, sent, empty] at seen
    cases seen
  · intro nonempty
    refine ⟨_, lcdPrintString_prints io s.property nonempty memory, Nat.le_refl _, ?_⟩
    intro l idle
    exact (chars_sent io s.val l idle).1

end Loop

/-- Both drivers, any string, and anything in the memory behind it. -/
theorem print_string_iff (s : CString) (memory : List UInt8) :
    (PrintsString GpioSysfs.port GpioSysfs.lcdPrintString s memory ↔ s.val ≠ []) ∧
    (PrintsString Platform.port Platform.lcdPrintString s memory ↔ s.val ≠ []) :=
  ⟨prints_iff GpioSysfs.port s memory, prints_iff Platform.port s memory⟩

/-- The empty string, with the letter A behind its NUL: the NUL and the letter go out. -/
theorem print_empty :
    (∃ r, Platform.lcdPrintString [0, 0x41, 0] = .done r ∧ r.read = 3 ∧
      decode (samples Pin.EN (readNibble Platform.port) (fun _ => false) r.writes) =
        some [(true, 0), (true, 0x41)]) ∧
    ¬ PrintsString Platform.port Platform.lcdPrintString ⟨[], by decide⟩ [0x41, 0] := by
  refine ⟨⟨_, rfl, rfl, by decide⟩, ?_⟩
  rintro ⟨r, done, read, _⟩
  cases done
  exact absurd read (by decide)

end MadDriver.Lcd

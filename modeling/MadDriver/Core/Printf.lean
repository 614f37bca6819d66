import MadDriver.Core.Decimal

/-! A text of the user passed as a format, with no argument behind it, and formats that
take numbers. -/
namespace MadDriver.Kernel

/-- What `vsprintf` makes of the format. `%%` is the one conversion that asks for no
argument; what any other does then is not defined. -/
def vsprintf : List UInt8 → Outcome (List UInt8)
  | [] => .done []
  | [ch] => if ch ≠ 0x25 then .done [ch] else .wild
  | ch :: next :: rest =>
    if ch ≠ 0x25 then (vsprintf (next :: rest)).map (ch :: ·)
    else if next = 0x25 then (vsprintf rest).map (0x25 :: ·)
    else .wild

theorem vsprintf_plain {fmt : List UInt8} (plain : 0x25 ∉ fmt) : vsprintf fmt = .done fmt := by
  induction fmt using vsprintf.induct with
  | case1 => rfl
  | case2 ch other => rw [vsprintf, if_pos other]
  | case3 ch percent => simp_all
  | case4 ch next rest other ih =>
    rw [vsprintf, if_pos other, ih fun member => plain (List.mem_cons_of_mem ch member)]
    rfl
  | case5 ch rest percent ih => simp_all
  | case6 ch next rest percent _ => simp_all

/-- A text has no more characters of a kind than its format, and fewer if the format has
a `%` and that is of the kind. -/
theorem vsprintf_count {fmt text : List UInt8} (p : UInt8 → Bool) (percent : p 0x25)
    (done : vsprintf fmt = .done text) :
    text.countP p ≤ fmt.countP p ∧ (0x25 ∈ fmt → text.countP p < fmt.countP p) := by
  induction fmt using vsprintf.induct generalizing text with
  | case1 =>
    cases done
    simp
  | case2 ch other =>
    rw [vsprintf, if_pos other] at done
    cases done
    simp [Ne.symm other]
  | case3 ch here =>
    rw [vsprintf, if_neg here] at done
    cases done
  | case4 ch next rest other ih =>
    rw [vsprintf, if_pos other] at done
    obtain ⟨tail, printed, rfl⟩ := Outcome.map_done.mp done
    obtain ⟨le, lt⟩ := ih printed
    rw [List.countP_cons, List.countP_cons (a := ch), List.mem_cons]
    refine ⟨by omega, ?_⟩
    rintro (same | later)
    · exact absurd same.symm other
    · have less := lt later
      omega
  | case5 ch rest here ih =>
    rw [vsprintf, if_neg here, if_pos rfl] at done
    obtain ⟨tail, printed, rfl⟩ := Outcome.map_done.mp done
    obtain ⟨le, _⟩ := ih printed
    have same : ch = 0x25 := Decidable.not_not.mp here
    simp only [List.countP_cons, same, percent, if_true]
    omega
  | case6 ch next rest here other =>
    rw [vsprintf, if_neg here, if_neg other] at done
    cases done

def vsprintfInts : List UInt8 → List Int32 → Outcome (List UInt8)
  | [], _ => .done []
  | [ch], _ => if ch ≠ 0x25 then .done [ch] else .wild
  | ch :: next :: rest, args =>
    if ch ≠ 0x25 then (vsprintfInts (next :: rest) args).map (ch :: ·)
    else if next = 0x25 then (vsprintfInts rest args).map (0x25 :: ·)
    else if next = ascii 'd' then
      match args with
      | [] => .wild
      | x :: args => (vsprintfInts rest args).map (formatInt x.toInt ++ ·)
    else .wild

end MadDriver.Kernel

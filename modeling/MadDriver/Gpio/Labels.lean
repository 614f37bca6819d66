import Mathlib.Data.List.Forall2
import MadDriver.Core.Decimal
import MadDriver.Core.Printf
import MadDriver.Gpio.Leftover

/-! The labels of the children: the array they are stored in, what `label_show` prints
of them, and the name of the class device, for which the label is the format. -/
namespace MadDriver.GpioSysfs
open Kernel

variable {P G : Type}

def LABEL_SIZE : Nat := 20

/-- The children whose label is stored, with their indices from i on: a failed
allocation is before the label, the other failures are behind it. -/
def stored : Nat → List (Child G) → List (Nat × Child G)
  | _, [] => []
  | i, child :: rest =>
    if child.available = false then stored i rest
    else if child.kzalloc = false then []
    else if child.device = none then [(i, child)]
    else (i, child) :: stored (i + 1) rest

def text (x : Nat × Child G) : List UInt8 := cString (x.2.label.getD (unkngpio x.1))

def labelShow (dev : ClassDevice P G) : List UInt8 := cString dev.drvdata.label ++ [0x0A]

/-- The name `device_create_with_groups` gives it: `kobject_set_name` puts a `!` for
every `/` of what the format becomes. -/
def deviceName (dev : ClassDevice P G) : Outcome (List UInt8) :=
  (vsprintf (cString dev.drvdata.label)).map
    (List.map fun ch => if ch = 0x2F then 0x21 else ch)

/-- What the labels are for: each is stored inside its array, the device of a child
shows the text for it and has it as its name, and children without a label are told apart. -/
structure LabelsRight (p : P) (s s' : State P G) (children : List (Child G)) : Prop where
  inside : ∀ x ∈ stored 0 children, (text x).length + 1 ≤ LABEL_SIZE
  devices : ∃ new, s'.classDevices = s.classDevices ++ new ∧
    List.Forall₂ (fun x d => MadeFor p x d ∧ labelShow d = text x ++ [0x0A] ∧
      deviceName d = .done (text x)) (created 0 children) new
  distinct : (created 0 children).Pairwise fun x y =>
    x.2.label = none → y.2.label = none → text x ≠ text y

/-- The labels of the device tree leave room for a NUL, and those of the devices made
have no `%` and no `/`. -/
structure LabelsFit (children : List (Child G)) : Prop where
  short : ∀ x ∈ stored 0 children, ∀ label, x.2.label = some label →
    (cString label).length < LABEL_SIZE
  plain : ∀ x ∈ created 0 children, ∀ label, x.2.label = some label →
    0x25 ∉ cString label ∧ 0x2F ∉ cString label

theorem unkngpio_eq (i : Nat) :
    unkngpio i = ("unkngpio".toList.map ascii ++ decimal i).take 19 := by
  simp [unkngpio, decimal, String.toList_append, ascii]
  rfl

theorem length_unkngpio_le (i : Nat) : (unkngpio i).length ≤ 19 :=
  List.length_take_le 19 _

theorem unkngpio_untruncated {i : Nat} (small : i < 2 ^ 31) :
    unkngpio i = "unkngpio".toList.map ascii ++ decimal i := by
  have digits : (decimal i).length ≤ 11 := (length_decimal_le (by decide)).mpr (by omega)
  have letters : ("unkngpio".toList.map ascii).length = 8 := rfl
  rw [unkngpio_eq, List.take_of_length_le]
  rw [List.length_append, letters]
  omega

theorem unkngpio_plain {i : Nat} {ch : UInt8} (member : ch ∈ unkngpio i) :
    ch ≠ 0 ∧ ch ≠ 0x25 ∧ ch ≠ 0x2F := by
  rw [unkngpio_eq] at member
  rcases List.mem_append.mp (List.mem_of_mem_take member) with letter | digit
  · have letters : "unkngpio".toList.map ascii =
        [0x75, 0x6E, 0x6B, 0x6E, 0x67, 0x70, 0x69, 0x6F] := rfl
    rw [letters] at letter
    simp only [List.mem_cons, List.not_mem_nil, or_false] at letter
    rcases letter with rfl | rfl | rfl | rfl | rfl | rfl | rfl | rfl <;> decide
  · have bounds := decimal_digits digit
    refine ⟨?_, ?_, ?_⟩ <;>
    · rintro rfl
      exact absurd bounds (by decide)

theorem unkngpio_injective {i j : Nat} (i_small : i < 2 ^ 31) (j_small : j < 2 ^ 31)
    (same : unkngpio i = unkngpio j) : i = j := by
  have nonnegative : ∀ n : Nat, formatInt n = decimal n := fun n => if_neg (by omega)
  rw [unkngpio_untruncated i_small, unkngpio_untruncated j_small, List.append_cancel_left_eq,
    ← nonnegative, ← nonnegative] at same
  have value := formatInt_injective (by omega) (by omega) (by omega) (by omega) same
  omega

theorem text_unlabelled {x : Nat × Child G} (unlabelled : x.2.label = none) :
    text x = unkngpio x.1 := by
  rw [text, unlabelled, Option.getD_none]
  exact cString_of_nulFree fun member => (unkngpio_plain member).1 rfl

/-- The devices are those of the children whose label was stored, but for the one a
failure may stop at. -/
theorem created_prefix (i : Nat) (children : List (Child G)) :
    created i children <+: stored i children ∧
      (stored i children).length ≤ (created i children).length + 1 := by
  induction children generalizing i with
  | nil => simp [created, stored]
  | cons child rest ih =>
    cases usable : child.available with
    | false => simpa [created, stored, usable] using ih i
    | true =>
      by_cases failed : child.device = none
      · cases granted : child.kzalloc <;> simp [created, stored, usable, failed, granted]
      · have granted : child.kzalloc = true := by
          obtain ⟨desc, device⟩ := Option.ne_none_iff_exists'.mp failed
          exact (Child.device_eq_some.mp device).1
        simpa [created, stored, usable, failed, granted] using ih (i + 1)

theorem created_index {i : Nat} {children : List (Child G)} {x : Nat × Child G}
    (member : x ∈ created i children) : i ≤ x.1 ∧ x.1 < i + children.length := by
  induction children generalizing i with
  | nil => cases member
  | cons child rest ih =>
    rw [List.length_cons]
    rw [created] at member
    split at member
    · have bounds := ih member
      omega
    · split at member
      · cases member
      · rcases List.mem_cons.mp member with rfl | later
        · exact ⟨Nat.le_refl _, by omega⟩
        · have bounds := ih later
          omega

theorem created_increasing (i : Nat) (children : List (Child G)) :
    (created i children).Pairwise fun x y => x.1 < y.1 := by
  induction children generalizing i with
  | nil => exact .nil
  | cons child rest ih =>
    rw [created]
    split
    · exact ih i
    · split
      · exact .nil
      · exact .cons (fun y later => (created_index later).1) (ih (i + 1))

theorem unlabelled_distinct {children : List (Child G)} (counted : children.length < 2 ^ 31) :
    (created 0 children).Pairwise fun x y =>
      x.2.label = none → y.2.label = none → text x ≠ text y := by
  refine List.Pairwise.imp_of_mem ?_ (created_increasing 0 children)
  intro x y x_created y_created less x_unlabelled y_unlabelled same
  rw [text_unlabelled x_unlabelled, text_unlabelled y_unlabelled] at same
  have x_index := (created_index x_created).2
  have y_index := (created_index y_created).2
  exact absurd (unkngpio_injective (by omega) (by omega) same) (Nat.ne_of_lt less)

theorem deviceName_iff {d : ClassDevice P G} :
    deviceName d = .done (cString d.drvdata.label) ↔
      0x25 ∉ cString d.drvdata.label ∧ 0x2F ∉ cString d.drvdata.label := by
  unfold deviceName
  generalize cString d.drvdata.label = fmt
  constructor
  · intro named
    obtain ⟨printed, done, replaced⟩ := Outcome.map_done.mp named
    constructor
    · intro percent
      have shorter := (vsprintf_count (fun _ => true) rfl done).2 percent
      rw [← replaced] at shorter
      simp at shorter
    · intro slash
      rw [← replaced] at slash
      obtain ⟨ch, _, here⟩ := List.mem_map.mp slash
      split at here
      · cases here
      · contradiction
  · rintro ⟨percent, slash⟩
    rw [vsprintf_plain percent]
    have same : fmt.map (fun ch => if ch = 0x2F then 0x21 else ch) = fmt.map id := by
      apply List.map_congr_left
      rintro ch member
      apply if_neg
      rintro rfl
      exact slash member
    exact congrArg Outcome.done (same.trans (List.map_id fmt))

section Probe

variable [DecidableEq P]

theorem probeChildren_returns {p r : P} {s : State P G} {i : Nat} {children : List (Child G)}
    {slots : List Slot} (dev : s.dev = some r) (memory : s.memory r = some slots)
    (room : i + children.length ≤ slots.length) :
    ∃ ret s', probeChildren p s i children = .done (ret, s') := by
  induction children generalizing s i slots with
  | nil => exact ⟨0, s, rfl⟩
  | cons child rest ih =>
    rw [List.length_cons] at room
    have store (slot : Slot) : storeDev s i slot =
        .done { s with memory := Function.update s.memory r (some (slots.set i slot)) } := by
      simp only [storeDev, array_done_iff.mpr ⟨dev, memory⟩, Outcome.bind]
      exact if_pos (by omega)
    unfold probeChildren
    split
    · exact ih dev memory (by omega)
    · split
      · exact ⟨_, _, rfl⟩
      · split
        · exact ⟨_, _, rfl⟩
        · split
          · exact ⟨_, _, rfl⟩
          · split
            · rw [store]
              exact ⟨_, _, rfl⟩
            · rw [store]
              have inside : i + 1 + rest.length ≤ (slots.set i (.device s.next)).length := by
                rw [List.length_set]
                omega
              exact ih (s := { s with
                memory := Function.update s.memory r (some (slots.set i (.device s.next)))
                classDevices := s.classDevices ++
                  [⟨s.next, p, child.label.getD (unkngpio i), _⟩]
                next := s.next + 1 }) dev (Function.update_self r _ s.memory) inside

theorem gpioSysfsProbe_returns (s : State P G) (p : P) (children : List (Child G)) :
    ∃ ret s', gpioSysfsProbe s p true children = .done (ret, s') := by
  unfold gpioSysfsProbe
  split
  · exact ⟨_, _, rfl⟩
  · apply probeChildren_returns rfl (Function.update_self p _ s.memory)
    rw [List.length_replicate, Nat.zero_add]

omit [DecidableEq P] in
theorem inside_iff {children : List (Child G)} :
    (∀ x ∈ stored 0 children, (text x).length + 1 ≤ LABEL_SIZE) ↔
      ∀ x ∈ stored 0 children, ∀ label, x.2.label = some label →
        (cString label).length < LABEL_SIZE := by
  apply forall₂_congr
  intro x _
  cases given : x.2.label with
  | none =>
    rw [text_unlabelled given]
    exact ⟨fun _ => nofun, fun _ => Nat.succ_le_succ (length_unkngpio_le x.1)⟩
  | some label =>
    simp only [text, given, Option.getD_some, Option.some.injEq, forall_eq']
    exact Nat.succ_le_iff

omit [DecidableEq P] in
/-- What a device shows is always the text for its child; the name is the matter. -/
theorem shows_iff {p : P} {x : Nat × Child G} {d : ClassDevice P G} :
    (MadeFor p x d ∧ labelShow d = text x ++ [0x0A] ∧ deviceName d = .done (text x)) ↔
      (∀ label, x.2.label = some label → 0x25 ∉ cString label ∧ 0x2F ∉ cString label) ∧
        MadeFor p x d := by
  have iff_plain : MadeFor p x d → ((∀ label, x.2.label = some label →
      0x25 ∉ cString label ∧ 0x2F ∉ cString label) ↔ deviceName d = .done (text x)) := by
    intro made
    have same : text x = cString d.drvdata.label := by rw [text, made.label]
    rw [same, deviceName_iff, ← same]
    cases given : x.2.label with
    | none =>
      rw [text_unlabelled given]
      simp only [reduceCtorEq, false_implies, implies_true, true_iff]
      exact ⟨fun member => (unkngpio_plain member).2.1 rfl,
        fun member => (unkngpio_plain member).2.2 rfl⟩
    | some label => simp [text, given]
  constructor
  · rintro ⟨made, _, named⟩
    exact ⟨(iff_plain made).mpr named, made⟩
  · rintro ⟨plain, made⟩
    exact ⟨made, by rw [labelShow, made.label, text], (iff_plain made).mp plain⟩

/-- The labels are right exactly if those of the device tree fit. The number of children
is an `int`; and a probe whose array was allocated returns. -/
theorem labels_right_iff (s : State P G) (p : P) {children : List (Child G)}
    (counted : children.length < 2 ^ 31) :
    (∃ ret s', gpioSysfsProbe s p true children = .done (ret, s')) ∧
      ∀ kzalloc ret s', gpioSysfsProbe s p kzalloc children = .done (ret, s') →
        (LabelsRight p s s' children ↔ LabelsFit children) := by
  refine ⟨gpioSysfsProbe_returns s p children, ?_⟩
  intro kzalloc ret s' done
  obtain ⟨new, classDevices, made⟩ := gpioSysfsProbe_created done
  constructor
  · rintro ⟨inside, ⟨new', classDevices', right⟩, _⟩
    have plain := ((List.forall₂_and_left _ _).mp (right.imp fun _ _ => shows_iff.mp)).1
    exact ⟨inside_iff.mp inside, plain⟩
  · rintro ⟨short, plain⟩
    refine ⟨inside_iff.mpr short, ⟨new, classDevices, ?_⟩, unlabelled_distinct counted⟩
    exact ((List.forall₂_and_left _ _).mpr ⟨plain, made⟩).imp fun _ _ => shows_iff.mpr

end Probe

def labelledChild (label : List UInt8) : Child Unit := { child true with label := some label }

theorem labels_right_iff_pair : ∃ ret s',
    gpioSysfsProbe (loaded : State Unit Unit) () true [labelledChild [0x61, 0x2F], child true] =
        .done (ret, s') ∧
      (LabelsRight () loaded s' [labelledChild [0x61, 0x2F], child true] ↔
        LabelsFit [labelledChild [0x61, 0x2F], child true]) := by
  obtain ⟨⟨ret, s', returned⟩, right⟩ := labels_right_iff (loaded : State Unit Unit) ()
    (show [labelledChild [0x61, 0x2F], child true].length < 2 ^ 31 by decide)
  exact ⟨ret, s', returned, right true ret s' returned⟩

/-- The device with the label "5%%" gets the name "5%", and a label of twenty bytes has no
room for its NUL. -/
theorem labels_wrong :
    (∃ s' d, gpioSysfsProbe (loaded : State Unit Unit) () true
        [labelledChild [0x35, 0x25, 0x25]] = .done (0, s') ∧ s'.classDevices = [d] ∧
      labelShow d = [0x35, 0x25, 0x25, 0x0A] ∧ deviceName d = .done [0x35, 0x25]) ∧
    ∃ s' : State Unit Unit, gpioSysfsProbe loaded () true
        [labelledChild (List.replicate 20 0x61)] = .done (0, s') ∧
      ¬ LabelsRight () loaded s' [labelledChild (List.replicate 20 0x61)] := by
  refine ⟨⟨_, _, rfl, rfl, by decide, by decide⟩, _, rfl, ?_⟩
  intro right
  have outside := right.inside (0, labelledChild (List.replicate 20 0x61)) List.mem_cons_self
  exact absurd outside (by decide)

end MadDriver.GpioSysfs

import Mathlib.Data.List.Forall2
import MadDriver.Gpio.Remove

/-! The class devices a probe has made when it returns, whatever it returns. No exit of
it unregisters one, so a failed probe is clean only if it fails at its first child. -/
namespace MadDriver.GpioSysfs
open Kernel

variable {P G : Type}

def created : Nat → List (Child G) → List (Nat × Child G)
  | _, [] => []
  | i, child :: rest =>
    if child.available = false then created i rest
    else if child.device = none then []
    else (i, child) :: created (i + 1) rest

structure MadeFor (p : P) (x : Nat × Child G) (d : ClassDevice P G) : Prop where
  parent : d.parent = p
  label : d.drvdata.label = x.2.label.getD (unkngpio x.1)
  desc : x.2.device = some d.drvdata.desc

/-- The first available child is the one that fails. -/
def FailsFirst (children : List (Child G)) : Prop :=
  ∀ child, children.find? (·.available) = some child → child.device = none

theorem created_nil_iff (i : Nat) (children : List (Child G)) :
    created i children = [] ↔ FailsFirst children := by
  unfold FailsFirst
  induction children generalizing i with
  | nil => simp [created]
  | cons child rest ih =>
    cases usable : child.available with
    | false => simp [created, usable, ih]
    | true => by_cases failed : child.device = none <;> simp [created, usable, failed]

variable [DecidableEq P]

theorem probeChildren_created {p : P} {s s' : State P G} {i : Nat} {children : List (Child G)}
    {ret : Int64} (done : probeChildren p s i children = .done (ret, s')) :
    ∃ new, s'.classDevices = s.classDevices ++ new ∧
      List.Forall₂ (MadeFor p) (created i children) new := by
  induction children generalizing s i with
  | nil =>
    cases done
    exact ⟨[], (List.append_nil _).symm, .nil⟩
  | cons child rest ih =>
    cases probeChildren_cons done with
    | unavailable unavailable later =>
      rw [created, if_pos unavailable]
      exact ih later
    | failed usable missing _ same =>
      rw [created, if_neg (by simp [usable]), if_pos missing]
      exact ⟨[], by rw [same, List.append_nil], .nil⟩
    | made usable device _ _ _ later =>
      obtain ⟨new, classDevices, made⟩ := ih later
      have possible : child.device ≠ none := by
        rw [device]
        exact Option.some_ne_none _
      rw [created, if_neg (by simp [usable]), if_neg possible]
      refine ⟨⟨s.next, p, child.label.getD (unkngpio i), _⟩ :: new, ?_,
        .cons ⟨rfl, rfl, device⟩ made⟩
      rw [classDevices, List.append_assoc]
      rfl

theorem gpioSysfsProbe_created {p : P} {s s' : State P G} {kzalloc : Bool}
    {children : List (Child G)} {ret : Int64}
    (done : gpioSysfsProbe s p kzalloc children = .done (ret, s')) :
    ∃ new, s'.classDevices = s.classDevices ++ new ∧
      List.Forall₂ (MadeFor p) (created 0 children) new := by
  unfold gpioSysfsProbe at done
  split at done
  · rename_i childless
    cases done
    rw [List.eq_nil_of_length_eq_zero childless]
    exact ⟨[], (List.append_nil _).symm, .nil⟩
  · obtain ⟨new, classDevices, made⟩ := probeChildren_created done
    exact ⟨new, classDevices, made⟩

/-- Failed or not, a probe leaves the class as it was exactly if no device could be made
for its first available child. -/
theorem probe_clean_iff {p : P} {s s' : State P G} {kzalloc : Bool} {children : List (Child G)}
    {ret : Int64} (done : probe s p kzalloc children = .done (ret, s')) :
    s'.classDevices = s.classDevices ↔ FailsFirst children := by
  obtain ⟨⟨ret₁, s₁⟩, probed, result⟩ := Outcome.map_done.mp done
  have same : s'.classDevices = s₁.classDevices := by
    simp only at result
    split at result <;> cases result <;> rfl
  obtain ⟨new, classDevices, made⟩ := gpioSysfsProbe_created probed
  rw [same, classDevices, List.append_right_eq_self, ← created_nil_iff 0]
  constructor
  · rintro rfl
    exact List.forall₂_nil_right_iff.mp made
  · intro none_created
    rw [none_created] at made
    exact List.forall₂_nil_left_iff.mp made

def stuck : Child Unit := { child true with directionOutput := -EINVAL }

theorem probe_clean_iff_stuck : ∃ s' : State Unit Unit,
    probe loaded () true [child false, stuck, child true] = .done (-EINVAL, s') ∧
      (s'.classDevices = (loaded : State Unit Unit).classDevices ↔
        FailsFirst [child false, stuck, child true]) := by
  obtain ⟨s', probed⟩ : ∃ s' : State Unit Unit,
      probe loaded () true [child false, stuck, child true] = .done (-EINVAL, s') := ⟨_, rfl⟩
  exact ⟨s', probed, probe_clean_iff probed⟩

/-- The device of the first child is left registered, and points to freed memory. -/
theorem failed_probe_leaves : ∃ s' : State Unit Unit,
    probe loaded () true [child true, stuck] = .done (-EINVAL, s') ∧
      s'.classDevices.map ClassDevice.parent = [()] ∧ s'.memory () = none :=
  ⟨_, rfl, rfl, rfl⟩

end MadDriver.GpioSysfs

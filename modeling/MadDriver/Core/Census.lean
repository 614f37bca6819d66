import Mathlib.Data.Finset.Card
import MadDriver.Core.Table

/-! How many entries of a table have a property, for tables of any size of which
finitely many do; one rule for each way in which a change of one entry counts. -/
namespace MadDriver.Census
open Function Table

variable {I A B : Type*} {P Q : A → Prop} {f : I → A} {i : I} {a : A} {m n : Nat}

def Counts (P : A → Prop) (f : I → A) (n : Nat) : Prop :=
  ∃ s : Finset I, (∀ i, i ∈ s ↔ P (f i)) ∧ s.card = n

theorem counts_none (nobody : ∀ i, ¬ P (f i)) : Counts P f 0 :=
  ⟨∅, fun i => by simp [nobody i], rfl⟩

theorem counts_congr {P' : B → Prop} {g : I → B} (same : ∀ i, P' (g i) ↔ P (f i))
    (counts : Counts P f n) : Counts P' g n := by
  obtain ⟨s, members, card⟩ := counts
  exact ⟨s, fun i => (members i).trans (same i).symm, card⟩

theorem counts_unique (counts : Counts P f m) (counts' : Counts P f n) : m = n := by
  obtain ⟨s, members, rfl⟩ := counts
  obtain ⟨t, members', rfl⟩ := counts'
  have same : s = t := Finset.ext fun i => (members i).trans (members' i).symm
  rw [same]

theorem counts_zero_iff (counts : Counts P f n) : n = 0 ↔ ∀ i, ¬ P (f i) := by
  constructor
  · rintro rfl i has
    obtain ⟨s, members, card⟩ := counts
    rw [Finset.card_eq_zero.mp card] at members
    exact absurd ((members i).mpr has) (Finset.notMem_empty i)
  · intro nobody
    exact counts_unique counts (counts_none nobody)

theorem counts_pos (counts : Counts P f n) (has : P (f i)) : 0 < n := by
  rcases Nat.eq_zero_or_pos n with zero | pos
  · exact absurd has ((counts_zero_iff counts).mp zero i)
  · exact pos

theorem counts_le_one (counts : Counts P f n) (one : n ≤ 1) {j : I} (has : P (f i))
    (has' : P (f j)) : i = j := by
  obtain ⟨s, members, rfl⟩ := counts
  exact Finset.card_le_one.mp one i ((members i).mpr has) j ((members j).mpr has')

theorem counts_split [DecidablePred Q] (counts : Counts P f n) :
    ∃ k l, Counts (fun a => P a ∧ Q a) f k ∧ Counts (fun a => P a ∧ ¬ Q a) f l ∧ n = k + l := by
  obtain ⟨s, members, rfl⟩ := counts
  refine ⟨_, _, ⟨s.filter fun i => Q (f i), fun i => ?_, rfl⟩,
    ⟨s.filter fun i => ¬ Q (f i), fun i => ?_, rfl⟩, ?_⟩
  · rw [Finset.mem_filter, members]
  · rw [Finset.mem_filter, members]
  · exact (Finset.card_filter_add_card_filter_not _).symm

section Update

variable [DecidableEq I]

theorem counts_stay (counts : Counts P f n) (same : P a ↔ P (f i)) :
    Counts P (update f i a) n := by
  refine counts_congr (fun j => ?_) counts
  by_cases here : j = i
  · subst here
    rw [update_self, same]
  · rw [update_of_ne here]

theorem counts_enter (counts : Counts P f n) (without : ¬ P (f i)) (has : P a) :
    Counts P (update f i a) (n + 1) := by
  obtain ⟨s, members, rfl⟩ := counts
  have fresh : i ∉ s := fun member => without ((members i).mp member)
  refine ⟨insert i s, fun j => ?_, Finset.card_insert_of_notMem fresh⟩
  by_cases here : j = i
  · subst here
    simp [has]
  · simp [here, members]

theorem counts_leave (counts : Counts P f (n + 1)) (has : P (f i)) (without : ¬ P a) :
    Counts P (update f i a) n := by
  obtain ⟨s, members, card⟩ := counts
  have member : i ∈ s := (members i).mpr has
  refine ⟨s.erase i, fun j => ?_, ?_⟩
  · by_cases here : j = i
    · subst here
      simp [without]
    · simp [here, members]
  · rw [Finset.card_erase_of_mem member, card]
    rfl

end Update

end MadDriver.Census

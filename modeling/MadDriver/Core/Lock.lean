import Mathlib.Logic.Function.Basic

/-! Who holds a lock, told from where everybody is: those entries of a table have a
property that the lock names. -/
namespace MadDriver.Lock
open Function

variable {I J A : Type*} {P : A → Prop} {name : I → J} {f : I → A} {i : I} {a : A}
  {owner owner' : Option J} {other : J}

def Held (P : A → Prop) (name : I → J) (f : I → A) (owner : Option J) : Prop :=
  ∀ i, P (f i) ↔ owner = some (name i)

/-- What one step of somebody does to the lock, who is inside before and after it or not. -/
inductive Use (me : J) (before after : Prop) : Option J → Option J → Prop where
  | keeps {owner : Option J} : (after ↔ before) → Use me before after owner owner
  | takes : after → Use me before after none (some me)
  | releases {owner : Option J} : before → ¬ after → Use me before after owner none

theorem use_cases {before after : Prop} {me : J} (use : Use me before after owner owner') :
    owner' = owner ∧ (after ↔ before) ∨ owner = none ∧ owner' = some me ∧ after ∨
      owner' = none ∧ before ∧ ¬ after := by
  cases use with
  | keeps same => exact .inl ⟨rfl, same⟩
  | takes inside => exact .inr (.inl ⟨rfl, rfl, inside⟩)
  | releases inside outside => exact .inr (.inr ⟨rfl, inside, outside⟩)

theorem held_none (nobody : ∀ i, ¬ P (f i)) : Held P name f none :=
  fun i => ⟨fun has => absurd has (nobody i), nofun⟩

theorem held_one (held : Held P name f owner) (injective : Injective name) {j : I}
    (has : P (f i)) (has' : P (f j)) : i = j := by
  have mine := (held i).mp has
  have theirs := (held j).mp has'
  exact injective (Option.some.inj (mine.symm.trans theirs))

theorem held_use [DecidableEq I] (held : Held P name f owner) (injective : Injective name)
    (use : Use (name i) (P (f i)) (P a) owner owner') :
    Held P name (update f i a) owner' := by
  intro j
  rcases eq_or_ne j i with rfl | away
  · rw [update_self]
    cases use with
    | keeps same => exact same.trans (held j)
    | takes has => exact ⟨fun _ => rfl, fun _ => has⟩
    | releases _ without => exact ⟨fun has => absurd has without, nofun⟩
  · rw [update_of_ne away]
    cases use with
    | keeps _ => exact held j
    | takes _ =>
      constructor
      · intro has
        cases (held j).mp has
      · intro mine
        exact absurd (injective (Option.some.inj mine)).symm away
    | releases has _ =>
      constructor
      · intro has'
        exact absurd (held_one held injective has' has) away
      · nofun

theorem use_other (held : Held P name f owner) (use : Use (name i) (P (f i)) (P a) owner owner')
    (stranger : other ≠ name i) : owner' = some other ↔ owner = some other := by
  cases use with
  | keeps _ => exact Iff.rfl
  | takes _ => simp [Ne.symm stranger]
  | releases has _ => simp [(held i).mp has, Ne.symm stranger]

end MadDriver.Lock

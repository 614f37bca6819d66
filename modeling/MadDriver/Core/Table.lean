import Mathlib.Logic.Function.Basic

/-! Tables changed at one key. -/
namespace MadDriver.Table
open Function

variable {A B : Type*} [DecidableEq A]

theorem update_entry_iff {f : A → B} {a b : A} {x y : B} :
    update f a x b = y ↔ (b = a ∧ x = y) ∨ (b ≠ a ∧ f b = y) := by
  rcases eq_or_ne b a with rfl | other
  · simp
  · simp [other]

theorem update_some_iff {f : A → Option B} {a b : A} {x y : B} :
    update f a (some x) b = some y ↔ (b = a ∧ x = y) ∨ (b ≠ a ∧ f b = some y) := by
  rw [update_entry_iff, Option.some.injEq]

theorem update_forall {f : A → Option B} {a : A} {x : Option B} {P : A → B → Prop}
    (old : ∀ b y, f b = some y → P b y) (new : ∀ y, x = some y → P a y) :
    ∀ b y, update f a x b = some y → P b y := by
  intro b y entry
  rcases update_entry_iff.mp entry with ⟨rfl, here⟩ | ⟨_, there⟩
  · exact new y here
  · exact old b y there

end MadDriver.Table

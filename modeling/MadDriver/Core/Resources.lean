import Mathlib.Data.List.Count
import Mathlib.Logic.Function.Basic

/-! The books of calls that acquire and release resources: how often each one is held,
and whether every release is of something held. -/
namespace MadDriver.Resources

universe u

variable {R : Type u}

inductive Call (R : Type u) where
  | acquired (r : R)
  | failed (r : R)
  | released (r : R)
  deriving Repr, DecidableEq

variable [DecidableEq R]

def Call.book (held : R → Nat) : Call R → R → Nat
  | .acquired r => Function.update held r (held r + 1)
  | .failed _ => held
  | .released r => Function.update held r (held r - 1)

def Call.Allowed (held : R → Nat) : Call R → Prop
  | .released r => 0 < held r
  | .acquired _ | .failed _ => True

def holds (held : R → Nat) (calls : List (Call R)) : R → Nat := calls.foldl Call.book held

def nothing : R → Nat := fun _ => 0

/-- Every release is of something held when it is made. -/
def Legit (held : R → Nat) : List (Call R) → Prop
  | [] => True
  | call :: calls => call.Allowed held ∧ Legit (call.book held) calls

instance (held : R → Nat) (call : Call R) : Decidable (call.Allowed held) :=
  match call with
  | .released r => inferInstanceAs (Decidable (0 < held r))
  | .acquired _ | .failed _ => inferInstanceAs (Decidable True)

instance decidableLegit (held : R → Nat) : (calls : List (Call R)) → Decidable (Legit held calls)
  | [] => inferInstanceAs (Decidable True)
  | call :: calls =>
    have := decidableLegit (call.book held) calls
    inferInstanceAs (Decidable (_ ∧ _))

section Books

variable (held : R → Nat)

theorem holds_append (calls calls' : List (Call R)) :
    holds held (calls ++ calls') = holds (holds held calls) calls' := List.foldl_append

theorem book_balance {call : Call R} (allowed : call.Allowed held) (r : R) :
    call.book held r + [call].count (.released r) = held r + [call].count (.acquired r) := by
  cases call with
  | failed _ => simp [Call.book]
  | acquired r' =>
    by_cases here : r = r'
    · simp [Call.book, here]
    · simp [Call.book, here, Ne.symm here]
  | released r' =>
    have some_held : 0 < held r' := allowed
    by_cases here : r = r'
    · simp [Call.book, here]
      omega
    · simp [Call.book, here, Ne.symm here]

/-- What is held and what has been released add up to what was held and acquired. -/
theorem balance {calls : List (Call R)} (legit : Legit held calls) (r : R) :
    holds held calls r + calls.count (.released r) = held r + calls.count (.acquired r) := by
  induction calls generalizing held with
  | nil => rfl
  | cons call calls ih =>
    have first := book_balance held legit.1 r
    have rest : holds held (call :: calls) r + _ = _ := ih (call.book held) legit.2
    rw [← List.singleton_append, List.count_append, List.count_append]
    rw [List.singleton_append]
    omega

theorem legit_of_no_release {calls : List (Call R)} (keeps : ∀ r, .released r ∉ calls) :
    Legit held calls := by
  induction calls generalizing held with
  | nil => trivial
  | cons call calls ih =>
    refine ⟨?_, ih _ fun r member => keeps r (List.mem_cons_of_mem _ member)⟩
    cases call with
    | released r => exact absurd List.mem_cons_self (keeps r)
    | acquired _ => trivial
    | failed _ => trivial

theorem holds_of_no_release {calls : List (Call R)} (keeps : ∀ r, .released r ∉ calls) (r : R) :
    holds held calls r = held r + calls.count (.acquired r) := by
  have books := balance held (legit_of_no_release held keeps) r
  rwa [List.count_eq_zero_of_not_mem (keeps r), Nat.add_zero] at books

theorem count_released (l : List R) (r : R) :
    (l.map Call.released).count (.released r) = l.count r :=
  List.count_map_of_injective _ _ (fun _ _ same => Call.released.inj same) _

theorem count_acquired (l : List R) (r : R) :
    (l.map Call.acquired).count (.acquired r) = l.count r :=
  List.count_map_of_injective _ _ (fun _ _ same => Call.acquired.inj same) _

theorem legit_releases (l : List R) :
    Legit held (l.map .released) ↔ ∀ r, l.count r ≤ held r := by
  induction l generalizing held with
  | nil => simp [Legit]
  | cons r l ih =>
    have allowed : (Call.released r).Allowed held ↔ 0 < held r := Iff.rfl
    have booked : ∀ r', (Call.released r).book held r' = held r' - if r = r' then 1 else 0 := by
      intro r'
      by_cases here : r = r' <;> simp [Call.book, here, Ne.symm]
    simp only [List.map_cons, Legit, ih, allowed, booked, List.count_cons, beq_iff_eq]
    constructor
    · rintro ⟨some_held, rest⟩ r'
      have later := rest r'
      by_cases here : r = r'
      · rw [if_pos here] at later ⊢
        subst here
        omega
      · rwa [if_neg here] at later ⊢
    · intro bounded
      refine ⟨?_, fun r' => ?_⟩
      · have here := bounded r
        rw [if_pos rfl] at here
        omega
      · have later := bounded r'
        by_cases here : r = r'
        · rw [if_pos here] at later ⊢
          omega
        · rwa [if_neg here] at later ⊢

theorem releases_all {l : List R} (exact : ∀ r, held r = l.count r) :
    Legit held (l.map .released) ∧ holds held (l.map .released) = nothing := by
  have legit := (legit_releases held l).mpr fun r => Nat.le_of_eq (exact r).symm
  refine ⟨legit, ?_⟩
  ext r
  have books := balance held legit r
  have no_acquired : (l.map Call.released).count (.acquired r) = 0 := by
    simp [List.count_eq_zero]
  rw [count_released, no_acquired, exact r] at books
  change holds held (l.map .released) r = 0
  omega

end Books

end MadDriver.Resources

import Mathlib.Data.List.Forall2
import Mathlib.Data.List.Induction

/-! Finite runs of a labelled step relation, for any states and labels.
The labels of a run stand in the order of its steps. -/
namespace MadDriver.Transition

universe u v

variable {S S' : Type u} {L L' K : Type v}

inductive Run (step : S → L → S → Prop) (s : S) : List L → S → Prop where
  | start : Run step s [] s
  | snoc {ls : List L} {t u : S} {l : L} :
      Run step s ls t → step t l u → Run step s (ls ++ [l]) u

/-- The rule for a property of the state together with the labels seen so far. -/
theorem run_history {step : S → L → S → Prop} (P : List L → S → Prop) {s t : S} {ls : List L}
    (initial : P [] s)
    (preserved : ∀ ls t l u, Run step s ls t → P ls t → step t l u → P (ls ++ [l]) u)
    (run : Run step s ls t) : P ls t := by
  induction run with
  | start => exact initial
  | snoc run last ih => exact preserved _ _ _ _ run ih last

theorem run_invariant {step : S → L → S → Prop} (I : S → Prop) {s t : S} {ls : List L}
    (initial : I s) (preserved : ∀ t l u, I t → step t l u → I u)
    (run : Run step s ls t) : I t :=
  run_history (fun _ t => I t) initial (fun _ t l u _ h hs => preserved t l u h hs) run

theorem run_mono {step wider : S → L → S → Prop} (sub : ∀ s l t, step s l t → wider s l t)
    {s t : S} {ls : List L} (run : Run step s ls t) : Run wider s ls t := by
  induction run with
  | start => exact .start
  | snoc _ last ih => exact .snoc ih (sub _ _ _ last)

/-- Two runs from one state agree when their labels agree on the part that decides a step. -/
theorem run_deterministic {step : S → L → S → Prop} (key : L → K)
    (deterministic : ∀ s l t l' t', step s l t → step s l' t' → key l = key l' → l = l' ∧ t = t')
    {s t t' : S} {ls ls' : List L} (run : Run step s ls t) (run' : Run step s ls' t')
    (keys : ls.map key = ls'.map key) : ls = ls' ∧ t = t' := by
  induction run generalizing ls' t' with
  | start =>
    cases run' with
    | start => exact ⟨rfl, rfl⟩
    | snoc _ _ => simp at keys
  | snoc _ last ih =>
    cases run' with
    | start => simp at keys
    | snoc before last' =>
      simp only [List.map_append, List.map_cons, List.map_nil] at keys
      obtain ⟨front, same⟩ := List.append_inj' keys rfl
      obtain ⟨rfl, rfl⟩ := ih before front
      obtain ⟨rfl, rfl⟩ := deterministic _ _ _ _ _ last last' (List.cons.inj same).1
      exact ⟨rfl, rfl⟩

theorem forall₂_snoc_left {calls : L → K → Prop} {ls : List L} {l : L} {ks : List K}
    (all : List.Forall₂ calls (ls ++ [l]) ks) :
    ∃ front k, ks = front ++ [k] ∧ List.Forall₂ calls ls front ∧ calls l k := by
  rw [← List.forall₂_reverse_iff, List.reverse_append, List.reverse_singleton,
    List.singleton_append, List.forall₂_cons_left_iff] at all
  obtain ⟨k, back, related, rest, whole⟩ := all
  refine ⟨back.reverse, k, ?_, ?_, related⟩
  · rw [← List.reverse_reverse ks, whole, List.reverse_cons]
  · rwa [← List.forall₂_reverse_iff, List.reverse_reverse]

/-- A relation kept by every step and some answering step is kept by whole runs: one
run follows the other through any sequence of related keys. -/
theorem run_simulates {step : S → L → S → Prop} {step' : S' → L' → S' → Prop} (key : L' → K)
    (calls : L → K → Prop) (R : List L → List L' → S → S' → Prop) {s t : S} {s' : S'}
    {ls : List L} {ks : List K} (initial : R [] [] s s')
    (answered : ∀ ls ls' t t' l u k, R ls ls' t t' → step t l u → calls l k →
      ∃ l' u', step' t' l' u' ∧ key l' = k ∧ R (ls ++ [l]) (ls' ++ [l']) u u')
    (run : Run step s ls t) (related : List.Forall₂ calls ls ks) :
    ∃ ls' t', Run step' s' ls' t' ∧ ls'.map key = ks ∧ R ls ls' t t' := by
  induction run generalizing ks with
  | start =>
    cases related
    exact ⟨[], s', .start, rfl, initial⟩
  | snoc _ last ih =>
    obtain ⟨front, k, rfl, before, call⟩ := forall₂_snoc_left related
    obtain ⟨ls', t', run', rfl, holds⟩ := ih before
    obtain ⟨l', u', last', rfl, holds'⟩ := answered _ _ _ _ _ _ _ holds last call
    exact ⟨ls' ++ [l'], u', .snoc run' last', by simp, holds'⟩

def Guarded (step : S → L → S → Prop) (condition : S → L → Prop) (s : S) (l : L) (t : S) : Prop :=
  step s l t ∧ condition s l

theorem run_unguarded {step : S → L → S → Prop} {condition : S → L → Prop} {s t : S}
    {ls : List L} (run : Run (Guarded step condition) s ls t) : Run step s ls t :=
  run_mono (fun _ _ _ h => h.1) run

theorem run_guarded {step : S → L → S → Prop} {condition : S → L → Prop} {s t : S} {ls : List L}
    (run : Run step s ls t) (met : ∀ l ∈ ls, ∀ s, condition s l) :
    Run (Guarded step condition) s ls t := by
  induction run with
  | start => exact .start
  | snoc _ last ih =>
    have before := ih fun l member => met l (List.mem_append_left _ member)
    exact .snoc before ⟨last, met _ (List.mem_append_right _ (List.mem_singleton_self _)) _⟩

theorem run_labels {step : S → L → S → Prop} {condition : L → Prop} {s t : S} {ls : List L}
    (run : Run (Guarded step fun _ l => condition l) s ls t) : ∀ l ∈ ls, condition l := by
  induction run with
  | start => nofun
  | snoc _ last ih =>
    intro l member
    rcases List.mem_append.mp member with before | now
    · exact ih l before
    · cases List.mem_singleton.mp now
      exact last.2

/-- Where the invariant holds, a step is right exactly when its label meets the condition,
and only then is the invariant sure to hold again. -/
theorem run_right_iff {step : S → L → S → Prop} (I : S → Prop) (right condition : L → Prop)
    {s t : S} {ls : List L} (initial : I s)
    (exact : ∀ t l u, I t → step t l u → (right l ↔ condition l))
    (preserved : ∀ t l u, I t → step t l u → condition l → I u)
    (run : Run step s ls t) : (∀ l ∈ ls, right l) ↔ ∀ l ∈ ls, condition l := by
  have both : ((∀ l ∈ ls, right l) ↔ ∀ l ∈ ls, condition l) ∧ ((∀ l ∈ ls, condition l) → I t) := by
    refine run_history (fun ls t => ((∀ l ∈ ls, right l) ↔ ∀ l ∈ ls, condition l) ∧
      ((∀ l ∈ ls, condition l) → I t)) ⟨by simp, fun _ => initial⟩ ?_ run
    intro ls t l u _ ⟨same, holds⟩ last
    simp only [List.forall_mem_append, List.forall_mem_singleton, same]
    refine ⟨and_congr_right fun before => exact t l u (holds before) last, ?_⟩
    rintro ⟨before, now⟩
    exact preserved t l u (holds before) last now
  exact both.1

/-- A property of everything seen so far: it holds all along exactly when each label meets
the condition that keeps it. -/
theorem prefixes_iff {holds : List L → Prop} {condition : List L → L → Prop} (initial : holds [])
    (exact : ∀ before l, holds before → (holds (before ++ [l]) ↔ condition before l))
    (ls : List L) :
    (∀ before, before <+: ls → holds before) ↔
      ∀ before l, before ++ [l] <+: ls → condition before l := by
  constructor
  · intro all before l seen
    have here := all before ((List.prefix_append before [l]).trans seen)
    exact (exact before l here).mp (all _ seen)
  · intro met before
    induction before using List.reverseRecOn with
    | nil => exact fun _ => initial
    | append_singleton before l ih =>
      intro seen
      have here := ih ((List.prefix_append before [l]).trans seen)
      exact (exact before l here).mpr (met before l seen)

end MadDriver.Transition

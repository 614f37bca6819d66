import Mathlib.Logic.Relation
import MadDriver.Core.Table
import MadDriver.Core.Transition

/-! Clients whose calls run under one lock, each call in steps of its own and in any
interleaving. When every call gives the lock back, the answers and the shared data
are those of the calls run one at a time in the order in which they took the lock. -/
namespace MadDriver.Critical
open Transition Function Table

variable {I M L Q W R : Type*}

/-- The steps of a call between taking the lock and returning: how it starts from
the request and the client's own data, a step on the shared data, and the return
with its answer, the client's data, and whether it has given the lock back. -/
structure Section (M L Q W R : Type*) where
  enter : Q → L → W
  advance : M → W → Option (M × W)
  finish : W → Option (R × L × Bool)

inductive Phase (Q W : Type*) where
  | idle
  | waiting (q : Q)
  | inside (w : W)

structure State (I M L Q W : Type*) where
  locked : Bool
  mem : M
  own : I → L
  phase : I → Phase Q W

inductive Event (I Q R : Type*) where
  | call (i : I) (q : Q)
  | interrupted (i : I)
  | acquire (i : I) (q : Q)
  | advance (i : I)
  | leave (i : I) (r : R)

inductive Step [DecidableEq I] (p : Section M L Q W R) (s : State I M L Q W) :
    Event I Q R → State I M L Q W → Prop where
  | call {i : I} {q : Q} : s.phase i = .idle →
      Step p s (.call i q) { s with phase := update s.phase i (.waiting q) }
  | interrupted {i : I} {q : Q} : s.phase i = .waiting q →
      Step p s (.interrupted i) { s with phase := update s.phase i .idle }
  | acquire {i : I} {q : Q} : s.phase i = .waiting q → s.locked = false →
      Step p s (.acquire i q) { s with
        locked := true
        phase := update s.phase i (.inside (p.enter q (s.own i))) }
  | advance {i : I} {w w' : W} {m : M} : s.phase i = .inside w →
      p.advance s.mem w = some (m, w') →
      Step p s (.advance i) { s with mem := m, phase := update s.phase i (.inside w') }
  | leave {i : I} {w : W} {r : R} {l : L} {released : Bool} : s.phase i = .inside w →
      p.finish w = some (r, l, released) →
      Step p s (.leave i r) { s with
        locked := if released then false else s.locked
        own := update s.own i l
        phase := update s.phase i .idle }

def acquired (hist : List (Event I Q R)) : List (I × Q) :=
  hist.filterMap fun
    | .acquire i q => some (i, q)
    | _ => none

def answers (hist : List (Event I Q R)) : List (I × R) :=
  hist.filterMap fun
    | .leave i r => some (i, r)
    | _ => none

def Steps (p : Section M L Q W R) : M × W → M × W → Prop :=
  Relation.ReflTransGen fun x y => p.advance x.1 x.2 = some y

def Completes (p : Section M L Q W R) (m : M) (q : Q) (l : L) (m' : M) (r : R) (l' : L)
    (released : Bool) : Prop :=
  ∃ w, Steps p (m, p.enter q l) (m', w) ∧ p.finish w = some (r, l', released)

def Whole (p : Section M L Q W R) (m : M) (q : Q) (l : L) (m' : M) (r : R) (l' : L) : Prop :=
  Completes p m q l m' r l' true

theorem steps_next {p : Section M L Q W R} {x y : M × W} {e : R × L × Bool}
    (steps : Steps p x y) (finished : p.finish y.2 = some e) (running : p.finish x.2 = none) :
    ∃ z, p.advance x.1 x.2 = some z ∧ Steps p z y := by
  rcases Relation.ReflTransGen.cases_head steps with rfl | next
  · cases finished.symm.trans running
  · exact next

/-- Calls of the given meaning, one at a time. -/
inductive Serial [DecidableEq I] (A : M → Q → L → M → R → L → Prop) (m : M) (own : I → L) :
    List (I × Q) → List (I × R) → M → (I → L) → Prop where
  | nil : Serial A m own [] [] m own
  | snoc {calls : List (I × Q)} {rs : List (I × R)} {m' m'' : M} {own' : I → L} {i : I} {q : Q}
      {r : R} {l : L} : Serial A m own calls rs m' own' → A m' q (own' i) m'' r l →
      Serial A m own (calls ++ [(i, q)]) (rs ++ [(i, r)]) m'' (update own' i l)

theorem Serial.mono [DecidableEq I] {A B : M → Q → L → M → R → L → Prop}
    (sub : ∀ m q l m' r l', A m q l m' r l' → B m q l m' r l') {m m' : M} {own own' : I → L}
    {calls : List (I × Q)} {rs : List (I × R)} (serial : Serial A m own calls rs m' own') :
    Serial B m own calls rs m' own' := by
  induction serial with
  | nil => exact .nil
  | snoc _ last ih => exact .snoc ih (sub _ _ _ _ _ _ last)

/-- A condition on the calls that take the lock under which they all give it back,
with what holds of the shared data, of a client's data, and inside a call. -/
structure Disciplined (p : Section M L Q W R) (guard : Q → L → Prop) (sound : M → Prop)
    (fits : L → Prop) (good : M → W → Prop) : Prop where
  enter : ∀ m q l, sound m → fits l → guard q l → good m (p.enter q l)
  advance : ∀ m w m' w', good m w → p.advance m w = some (m', w') → good m' w'
  finish : ∀ m w r l released, good m w → p.finish w = some (r, l, released) →
    released = true ∧ fits l ∧ sound m

def Admitted (guard : Q → L → Prop) (s : State I M L Q W) : Event I Q R → Prop
  | .acquire i q => guard q (s.own i)
  | _ => True

section Serialisation

variable [DecidableEq I] {p : Section M L Q W R} {guard : Q → L → Prop} {sound : M → Prop}
  {fits : L → Prop} {good : M → W → Prop}

/-- Either the lock is free and nobody is inside, or one call is, on its own way
from where the calls before it left the data. -/
inductive Serialised (p : Section M L Q W R) (sound : M → Prop) (fits : L → Prop)
    (good : M → W → Prop) (m₀ : M) (own₀ : I → L) (hist : List (Event I Q R))
    (s : State I M L Q W) : Prop where
  | free : s.locked = false → (∀ i w, s.phase i ≠ .inside w) → sound s.mem →
      (∀ i, fits (s.own i)) →
      Serial (Whole p) m₀ own₀ (acquired hist) (answers hist) s.mem s.own →
      Serialised p sound fits good m₀ own₀ hist s
  | held {i : I} {q : Q} {w : W} {m : M} {calls : List (I × Q)} : s.locked = true →
      s.phase i = .inside w → (∀ j w', s.phase j = .inside w' → j = i) → good s.mem w →
      (∀ j, fits (s.own j)) → acquired hist = calls ++ [(i, q)] →
      Serial (Whole p) m₀ own₀ calls (answers hist) m s.own →
      Steps p (m, p.enter q (s.own i)) (s.mem, w) →
      Serialised p sound fits good m₀ own₀ hist s

theorem outside_serialised {m₀ : M} {own₀ : I → L} {hist hist' : List (Event I Q R)}
    {s : State I M L Q W} {i : I} {x : Phase Q W}
    (serialised : Serialised p sound fits good m₀ own₀ hist s)
    (before : ∀ w, s.phase i ≠ .inside w) (after : ∀ w, x ≠ .inside w)
    (calls : acquired hist' = acquired hist) (returns : answers hist' = answers hist) :
    Serialised p sound fits good m₀ own₀ hist' { s with phase := update s.phase i x } := by
  cases serialised with
  | free unlocked nobody mem own serial =>
    refine .free unlocked ?_ mem own (by rwa [calls, returns])
    intro j w inside
    rcases update_entry_iff.mp inside with ⟨_, entered⟩ | ⟨_, stayed⟩
    · exact after w entered
    · exact nobody j w stayed
  | held locked within alone inv own order serial steps =>
    rename_i k q w m front
    have other : k ≠ i := by
      rintro rfl
      exact before w within
    refine .held locked (by simpa only [update_of_ne other] using within) ?_ inv own
      (calls.trans order) (by rwa [returns]) steps
    intro j w' inside
    rcases update_entry_iff.mp inside with ⟨_, entered⟩ | ⟨_, stayed⟩
    · exact absurd entered (after w')
    · exact alone j w' stayed

theorem step_serialised (disciplined : Disciplined p guard sound fits good) {m₀ : M}
    {own₀ : I → L} {hist : List (Event I Q R)} {s s' : State I M L Q W} {e : Event I Q R}
    (serialised : Serialised p sound fits good m₀ own₀ hist s) (admitted : Admitted guard s e)
    (step : Step p s e s') : Serialised p sound fits good m₀ own₀ (hist ++ [e]) s' := by
  cases step with
  | call idle =>
    refine outside_serialised serialised ?_ nofun (by simp [acquired]) (by simp [answers])
    intro w inside
    cases idle.symm.trans inside
  | interrupted waiting =>
    refine outside_serialised serialised ?_ nofun (by simp [acquired]) (by simp [answers])
    intro w inside
    cases waiting.symm.trans inside
  | acquire waiting unlocked =>
    rename_i i q
    cases serialised with
    | held locked _ _ _ _ _ _ _ => cases unlocked.symm.trans locked
    | free _ nobody mem own serial =>
      have order : acquired (hist ++ [Event.acquire i q]) = acquired hist ++ [(i, q)] := by
        simp [acquired]
      refine .held rfl (update_self _ _ _) ?_ (disciplined.enter _ _ _ mem (own i) admitted) own
        order (by simpa [answers] using serial) .refl
      intro j w inside
      rcases update_entry_iff.mp inside with ⟨same, _⟩ | ⟨_, stayed⟩
      · exact same
      · exact absurd stayed (nobody j w)
  | advance within moved =>
    rename_i i w w' m
    cases serialised with
    | free _ nobody _ _ _ => exact absurd within (nobody i w)
    | held locked inside alone inv own order serial steps =>
      cases alone i w within
      cases inside.symm.trans within
      refine .held locked (update_self _ _ _) ?_ (disciplined.advance _ _ _ _ inv moved) own
        (by simpa [acquired] using order) (by simpa [answers] using serial) (steps.tail moved)
      intro j v entered
      rcases update_entry_iff.mp entered with ⟨same, _⟩ | ⟨_, stayed⟩
      · exact same
      · exact alone j v stayed
  | leave within finished =>
    rename_i i w r l released
    cases serialised with
    | free _ nobody _ _ _ => exact absurd within (nobody i w)
    | held locked inside alone inv own order serial steps =>
      cases alone i w within
      cases inside.symm.trans within
      obtain ⟨rfl, fit, mem⟩ := disciplined.finish _ _ _ _ _ inv finished
      refine .free rfl ?_ mem ?_ ?_
      · intro j v entered
        rcases update_entry_iff.mp entered with ⟨_, impossible⟩ | ⟨other, stayed⟩
        · cases impossible
        · exact other (alone j v stayed)
      · intro j
        by_cases same : j = i
        · subst same
          simpa only [update_self] using fit
        · simpa only [update_of_ne same] using own j
      · have calls : acquired (hist ++ [Event.leave i r]) = acquired hist := by simp [acquired]
        have returns : answers (hist ++ [Event.leave i r]) = answers hist ++ [(i, r)] := by
          simp [answers]
        rw [calls, returns, order]
        exact .snoc serial ⟨w, steps, finished⟩

/-- In a run whose calls all meet the condition as they take the lock, the calls are
serialised in every state. -/
theorem run_serialised (disciplined : Disciplined p guard sound fits good)
    {s₀ s : State I M L Q W} {hist : List (Event I Q R)} (unlocked : s₀.locked = false)
    (nobody : ∀ i w, s₀.phase i ≠ .inside w) (mem : sound s₀.mem) (own : ∀ i, fits (s₀.own i))
    (run : Run (Guarded (Step p) (Admitted guard)) s₀ hist s) :
    Serialised p sound fits good s₀.mem s₀.own hist s :=
  run_history (Serialised p sound fits good s₀.mem s₀.own)
    (.free unlocked nobody mem own .nil)
    (fun _ _ _ _ _ serialised step => step_serialised disciplined serialised step.2 step.1) run

end Serialisation

end MadDriver.Critical

import MadDriver.Core.Resources
import MadDriver.Core.Transition

/-! Parties that acquire resources as they start and release them as they stop. A resource
goes to one party at a time, but nothing keeps a party from releasing what another holds:
whether it ever does is told from each start and each stop alone. -/
namespace MadDriver.Ownership
open Function Resources Transition

variable {M R A : Type}

section Ladder

variable {E : Type}

/-- Acquires one resource after the other; at the first that is refused it releases those
taken, the newest first. -/
def climb (refusal : R → Option E) (taken : List R) : List R → List (Call R) × Option E
  | [] => ([], none)
  | r :: rungs =>
    match refusal r with
    | some e => (.failed r :: taken.map .released, some e)
    | none =>
      let (calls, ret) := climb refusal (r :: taken) rungs
      (.acquired r :: calls, ret)

theorem climb_iff (refusal : R → Option E) (taken rungs : List R) :
    (climb refusal taken rungs).2 = none ↔ ∀ r ∈ rungs, refusal r = none := by
  induction rungs generalizing taken with
  | nil => simp [climb]
  | cons r rungs ih =>
    cases answer : refusal r with
    | some e => simp [climb, answer]
    | none => simp [climb, answer, ih]

theorem climb_done {refusal : R → Option E} {rungs : List R} (taken : List R)
    (granted : ∀ r ∈ rungs, refusal r = none) :
    climb refusal taken rungs = (rungs.map .acquired, none) := by
  induction rungs generalizing taken with
  | nil => rfl
  | cons r rungs ih =>
    have here := granted r List.mem_cons_self
    have rest := ih (r :: taken) fun r' member => granted r' (List.mem_cons_of_mem _ member)
    rw [climb, here, rest]
    rfl

theorem acquired_of_climb {refusal : R → Option E} {rungs l : List R} {r : R}
    (got : .acquired r ∈ (climb refusal l rungs).1) : r ∈ rungs ∧ refusal r = none := by
  induction rungs generalizing l with
  | nil => simp [climb] at got
  | cons r' rungs ih =>
    cases answer : refusal r' with
    | some e => simp [climb, answer] at got
    | none =>
      simp only [climb, answer, List.mem_cons, Call.acquired.injEq] at got
      rcases got with rfl | later
      · exact ⟨List.mem_cons_self, answer⟩
      · exact ⟨List.mem_cons_of_mem _ (ih later).1, (ih later).2⟩

variable [DecidableEq R]

/-- What was taken on the way up is given back, and nothing else. -/
theorem climb_failed {refusal : R → Option E} {held : R → Nat} {taken rungs : List R}
    (have_taken : ∀ r, held r = taken.count r)
    (failed : (climb refusal taken rungs).2 ≠ none) :
    Legit held (climb refusal taken rungs).1 ∧
      holds held (climb refusal taken rungs).1 = nothing := by
  induction rungs generalizing taken held with
  | nil => exact absurd rfl failed
  | cons r rungs ih =>
    cases answer : refusal r with
    | some e =>
      obtain ⟨legit, empty⟩ := releases_all held have_taken
      simp only [climb, answer]
      exact ⟨⟨trivial, legit⟩, empty⟩
    | none =>
      simp only [climb, answer] at failed ⊢
      have more : ∀ r', (Call.acquired r).book held r' = (r :: taken).count r' := by
        intro r'
        rw [Call.book, List.count_cons, ← have_taken]
        by_cases same : r' = r
        · simp [same]
        · simp [same, Ne.symm same]
      obtain ⟨legit, empty⟩ := ih more failed
      exact ⟨⟨trivial, legit⟩, empty⟩

theorem climb_failed_nothing {refusal : R → Option E} {rungs : List R}
    (failed : (climb refusal [] rungs).2 ≠ none) :
    Legit nothing (climb refusal [] rungs).1 ∧
      holds nothing (climb refusal [] rungs).1 = nothing :=
  climb_failed (fun _ => rfl) failed

end Ladder

section Lives

variable {E : Type} [DecidableEq R] {calls : List (Call R)} {l : List R}

def taken (calls : List (Call R)) : List R :=
  calls.filterMap fun
    | .acquired r => some r
    | .failed _ | .released _ => none

omit [DecidableEq R] in
theorem mem_taken {r : R} : r ∈ taken calls ↔ .acquired r ∈ calls := by
  induction calls with
  | nil => simp [taken]
  | cons call calls ih => cases call <;> simp_all [taken]

theorem count_taken (r : R) : (taken calls).count r = calls.count (.acquired r) := by
  induction calls with
  | nil => rfl
  | cons call calls ih => cases call <;> simp_all [taken, List.count_cons]

theorem acquired_of_holds (held : R → Nat) {r : R} (more : held r < holds held calls r) :
    .acquired r ∈ calls := by
  induction calls generalizing held with
  | nil => exact absurd more (Nat.lt_irrefl _)
  | cons call calls ih =>
    by_cases later : call.book held r < holds held (call :: calls) r
    · exact List.mem_cons_of_mem _ (ih _ later)
    · have now : held r < call.book held r := by omega
      cases call with
      | failed _ => exact absurd now (Nat.lt_irrefl _)
      | acquired r' =>
        by_cases same : r = r'
        · exact same ▸ List.mem_cons_self
        · simp [Call.book, same] at now
      | released r' =>
        by_cases same : r = r'
        · simp [Call.book, same] at now
          omega
        · simp [Call.book, same] at now

theorem legit_append (held : R → Nat) (calls calls' : List (Call R)) :
    Legit held (calls ++ calls') ↔ Legit held calls ∧ Legit (holds held calls) calls' := by
  induction calls generalizing held with
  | nil => exact ⟨fun legit => ⟨trivial, legit⟩, And.right⟩
  | cons call calls ih =>
    rw [List.cons_append, Legit, ih, Legit, and_assoc]
    exact Iff.rfl

theorem legit_mono {held held' : R → Nat} (more : ∀ r, held r ≤ held' r)
    (legit : Legit held calls) : Legit held' calls := by
  induction calls generalizing held held' with
  | nil => trivial
  | cons call calls ih =>
    obtain ⟨now, later⟩ := legit
    refine ⟨?_, ih (fun r => ?_) later⟩
    · cases call with
      | released r => exact Nat.lt_of_lt_of_le now (more r)
      | acquired _ => trivial
      | failed _ => trivial
    · have here := more r
      cases call with
      | failed _ => exact here
      | acquired r' =>
        by_cases same : r = r'
        · subst same
          simpa [Call.book] using here
        · simpa [Call.book, same] using here
      | released r' =>
        by_cases same : r = r'
        · subst same
          simp only [Call.book, Function.update_self]
          omega
        · simpa [Call.book, same] using here

theorem acquired_of_released {r : R} (legit : Legit nothing calls)
    (released : .released r ∈ calls) : .acquired r ∈ calls := by
  have books := balance nothing legit r
  have some_released := List.count_pos_iff.mpr released
  rw [← List.count_pos_iff]
  simp only [nothing] at books
  omega

theorem taken_of_released {r : R} (legit : Legit nothing calls)
    (later : Legit (holds nothing calls) (l.map .released)) (released : r ∈ l) :
    r ∈ taken calls := by
  have got := acquired_of_released ((legit_append _ _ _).mpr ⟨legit, later⟩) (r := r)
    (List.mem_append_right _ (List.mem_map_of_mem released))
  rw [mem_taken]
  simpa using got

/-- A stop that only releases leaves nothing exactly when it releases, in any order, what
was taken. -/
theorem stop_sound_iff (keeps : ∀ r, .released r ∉ calls) :
    Legit (holds nothing calls) (l.map .released) ∧
      holds nothing (calls ++ l.map .released) = nothing ↔ (taken calls).Perm l := by
  have before : ∀ r, holds nothing calls r = (taken calls).count r := fun r => by
    rw [holds_of_no_release nothing keeps, count_taken]
    exact Nat.zero_add _
  rw [holds_append]
  constructor
  · rintro ⟨legit, empty⟩
    rw [List.perm_iff_count]
    intro r
    have books := balance _ legit r
    have no_acquired : (l.map Call.released).count (.acquired r) = 0 := by
      simp [List.count_eq_zero]
    rw [empty, count_released, no_acquired, before] at books
    simp only [nothing] at books
    omega
  · intro same
    exact releases_all _ fun r => (before r).trans (same.count_eq r)

theorem ladder_sound (refusal : R → Option E) {rungs : List R} (same : rungs.Perm l) :
    (Legit nothing (climb refusal [] rungs).1 ∧
      ((climb refusal [] rungs).2 ≠ none → holds nothing (climb refusal [] rungs).1 = nothing)) ∧
    ((climb refusal [] rungs).2 = none →
      Legit (holds nothing (climb refusal [] rungs).1) (l.map .released) ∧
        holds nothing ((climb refusal [] rungs).1 ++ l.map .released) = nothing) := by
  by_cases reached : (climb refusal [] rungs).2 = none
  · have all := climb_done [] ((climb_iff refusal [] rungs).mp reached)
    have quiet : ∀ r, .released r ∉ rungs.map Call.acquired := by simp
    have got : taken (rungs.map Call.acquired) = rungs := by
      simp [taken, List.filterMap_map]
    rw [all]
    refine ⟨⟨legit_of_no_release _ quiet, fun stuck => absurd rfl stuck⟩, fun _ => ?_⟩
    rw [stop_sound_iff quiet, got]
    exact same
  · obtain ⟨legit, empty⟩ := climb_failed_nothing reached
    exact ⟨⟨legit, fun _ => empty⟩, fun up => absurd up reached⟩

end Lives

/-- What a start calls and whether the party then runs, from the answers it gets; what a stop
calls after that start. -/
structure Party (R A : Type) where
  start : A → List (Call R)
  runs : A → Bool
  stop : A → List (Call R)

structure State (M R A : Type) where
  running : M → Option A
  holder : R → Option M

def idle : State M R A := ⟨fun _ => none, fun _ => none⟩

inductive Op (M A : Type) where
  | start (m : M) (answers : A)
  | stop (m : M) (answers : A)
  deriving Repr, DecidableEq

structure Event (M R A : Type) where
  op : Op M A
  holder : R → Option M

section Parties

variable (P : M → Party R A)

def Op.party : Op M A → M
  | .start m _ | .stop m _ => m

def Op.calls : Op M A → List (Call R)
  | .start m a => (P m).start a
  | .stop m a => (P m).stop a

def Op.ends : Op M A → Bool
  | .start m a => !(P m).runs a
  | .stop _ _ => true

variable [DecidableEq R]

def book (m : M) (holder : R → Option M) : Call R → R → Option M
  | .acquired r => update holder r (some m)
  | .failed _ => holder
  | .released r => update holder r none

def bookAll (m : M) (holder : R → Option M) (calls : List (Call R)) : R → Option M :=
  calls.foldl (book m) holder

def Granted (m : M) (holder : R → Option M) : List (Call R) → Prop
  | [] => True
  | call :: calls =>
    (∀ r, call = .acquired r → holder r = none) ∧ Granted m (book m holder call) calls

def Rightful (m : M) (holder : R → Option M) : List (Call R) → Prop
  | [] => True
  | call :: calls =>
    (∀ r, call = .released r → holder r = some m) ∧ Rightful m (book m holder call) calls

def Event.Right (e : Event M R A) : Prop :=
  Rightful e.op.party e.holder (e.op.calls P) ∧
    (e.op.ends P = true → ∀ r, bookAll e.op.party e.holder (e.op.calls P) r ≠ some e.op.party)

variable [DecidableEq M]

inductive Step (s : State M R A) : Event M R A → State M R A → Prop where
  | start {m : M} {a : A} : s.running m = none → Granted m s.holder ((P m).start a) →
      Step s ⟨.start m a, s.holder⟩
        ⟨update s.running m (if (P m).runs a then some a else none),
          bookAll m s.holder ((P m).start a)⟩
  | stop {m : M} {a : A} : s.running m = some a → Granted m s.holder ((P m).stop a) →
      Step s ⟨.stop m a, s.holder⟩
        ⟨update s.running m none, bookAll m s.holder ((P m).stop a)⟩

def Op.Sound : Op M A → Prop
  | .start m a => Legit nothing ((P m).start a) ∧
      ((P m).runs a = false → holds nothing ((P m).start a) = nothing)
  | .stop m a => Legit (holds nothing ((P m).start a)) ((P m).stop a) ∧
      holds nothing ((P m).start a ++ (P m).stop a) = nothing

def Op.Occurs : Op M A → Prop
  | .start _ _ => True
  | .stop m a => (P m).runs a = true

end Parties

section Locality

variable [DecidableEq M]

def Own (m : M) (holder : R → Option M) (mine : R → Nat) : Prop :=
  ∀ r, mine r = if holder r = some m then 1 else 0

variable [DecidableEq R] {m : M} {holder : R → Option M} {mine : R → Nat}

theorem own_book {call : Call R} (own : Own m holder mine)
    (granted : ∀ r, call = .acquired r → holder r = none) (allowed : call.Allowed mine) :
    Own m (book m holder call) (call.book mine) := by
  intro r
  cases call with
  | failed _ => exact own r
  | acquired r' =>
    have free := granted r' rfl
    rcases eq_or_ne r r' with rfl | other
    · simp [book, Call.book, own r, free]
    · simpa [book, Call.book, other] using own r
  | released r' =>
    have some_held : 0 < mine r' := allowed
    rcases eq_or_ne r r' with rfl | other
    · have here := own r
      split at here
      · simp [book, Call.book, here]
      · omega
    · simpa [book, Call.book, other] using own r

omit [DecidableEq M] in
theorem others_book {call : Call R} {m' : M} (other : m' ≠ m)
    (granted : ∀ r, call = .acquired r → holder r = none)
    (rightful : ∀ r, call = .released r → holder r = some m) (r : R) :
    book m holder call r = some m' ↔ holder r = some m' := by
  cases call with
  | failed _ => exact Iff.rfl
  | acquired r' =>
    have free := granted r' rfl
    rcases eq_or_ne r r' with rfl | apart
    · simp [book, free, Ne.symm other]
    · simp [book, apart]
  | released r' =>
    have mine := rightful r' rfl
    rcases eq_or_ne r r' with rfl | apart
    · simp [book, mine, Ne.symm other]
    · simp [book, apart]

omit [DecidableEq R] in
theorem allowed_iff (own : Own m holder mine) (call : Call R) :
    (∀ r, call = .released r → holder r = some m) ↔ call.Allowed mine := by
  cases call with
  | failed _ => simp [Call.Allowed]
  | acquired _ => simp [Call.Allowed]
  | released r =>
    have here := own r
    simp only [Call.released.injEq, forall_eq', Call.Allowed, here]
    split <;> simp_all

/-- Whether the calls of a party are rightful is told from its own books. -/
theorem rightful_iff {calls : List (Call R)} (own : Own m holder mine)
    (granted : Granted m holder calls) : Rightful m holder calls ↔ Legit mine calls := by
  induction calls generalizing holder mine with
  | nil => exact Iff.rfl
  | cons call calls ih =>
    obtain ⟨now, later⟩ := granted
    rw [Rightful, Legit, allowed_iff own]
    exact and_congr_right fun allowed => ih (own_book own now allowed) later

theorem own_bookAll {calls : List (Call R)} (own : Own m holder mine)
    (granted : Granted m holder calls) (legit : Legit mine calls) :
    Own m (bookAll m holder calls) (holds mine calls) := by
  induction calls generalizing holder mine with
  | nil => exact own
  | cons call calls ih =>
    exact ih (own_book own granted.1 legit.1) granted.2 legit.2

omit [DecidableEq M] in
theorem others_bookAll {calls : List (Call R)} {m' : M} (other : m' ≠ m)
    (granted : Granted m holder calls) (rightful : Rightful m holder calls) (r : R) :
    bookAll m holder calls r = some m' ↔ holder r = some m' := by
  induction calls generalizing holder with
  | nil => exact Iff.rfl
  | cons call calls ih =>
    have rest := ih granted.2 rightful.2
    exact rest.trans (others_book other granted.1 rightful.1 r)

omit [DecidableEq R] in
theorem own_nothing_iff (own : Own m holder mine) : mine = nothing ↔ ∀ r, holder r ≠ some m := by
  rw [funext_iff]
  refine forall_congr' fun r => ?_
  rw [own r, nothing]
  simp

end Locality

section Runs

variable [DecidableEq M] [DecidableEq R] {P : M → Party R A} {s t : State M R A}

def share (P : M → Party R A) (m : M) : Option A → R → Nat
  | none => nothing
  | some a => holds nothing ((P m).start a)

/-- Every party holds what its last start took, and those that do not run hold nothing. -/
structure Kept (P : M → Party R A) (s : State M R A) : Prop where
  own : ∀ m, Own m s.holder (share P m (s.running m))
  runs : ∀ m a, s.running m = some a → (P m).runs a = true

theorem idle_kept : Kept P (idle : State M R A) := ⟨fun _ _ => rfl, fun _ _ none => by cases none⟩

theorem step_right_iff {e : Event M R A} (kept : Kept P s) (step : Step P s e t) :
    e.Right P ↔ e.op.Sound P := by
  cases step with
  | @start m a stopped granted =>
    have own := kept.own m
    rw [stopped] at own
    refine (and_congr_left' (rightful_iff own granted)).trans (and_congr_right fun legit => ?_)
    have after := own_nothing_iff (own_bookAll own granted legit)
    simp only [Op.ends, Op.party, Op.calls, Bool.not_eq_true', share] at after ⊢
    exact imp_congr_right fun _ => after.symm
  | @stop m a running granted =>
    have own := kept.own m
    rw [running] at own
    refine (and_congr_left' (rightful_iff own granted)).trans (and_congr_right fun legit => ?_)
    rw [holds_append]
    have after := own_nothing_iff (own_bookAll own granted legit)
    simp only [Op.ends, Op.party, Op.calls, share, forall_const] at after ⊢
    exact after.symm

theorem step_kept {e : Event M R A} (kept : Kept P s) (step : Step P s e t)
    (sound : e.op.Sound P) : Kept P t := by
  have rightful := ((step_right_iff kept step).mpr sound).1
  cases step with
  | @start m a stopped granted =>
    have own := kept.own m
    rw [stopped] at own
    constructor
    · intro k
      rcases eq_or_ne k m with rfl | other
      · have after := own_bookAll own granted sound.1
        simp only [update_self]
        cases runs : (P k).runs a with
        | true => exact after
        | false =>
          have empty : holds nothing ((P k).start a) = nothing := sound.2 runs
          intro r
          have here := after r
          rwa [share, empty] at here
      · intro r
        simp only [update_of_ne other, others_bookAll other granted rightful]
        exact kept.own k r
    · intro k a' running
      rcases eq_or_ne k m with rfl | other
      · cases runs : (P k).runs a with
        | true =>
          simp only [update_self, runs, if_true, Option.some.injEq] at running
          exact running ▸ runs
        | false => simp [runs] at running
      · simp only [update_of_ne other] at running
        exact kept.runs k a' running
  | @stop m a running granted =>
    have own := kept.own m
    rw [running] at own
    obtain ⟨legit, empty⟩ := sound
    rw [holds_append] at empty
    constructor
    · intro k
      rcases eq_or_ne k m with rfl | other
      · have after := own_bookAll own granted legit
        simp only [update_self]
        intro r
        have here := after r
        rwa [share, empty] at here
      · intro r
        simp only [update_of_ne other, others_bookAll other granted rightful]
        exact kept.own k r
    · intro k a' still
      rcases eq_or_ne k m with rfl | other
      · simp at still
      · simp only [update_of_ne other] at still
        exact kept.runs k a' still

theorem step_occurs {e : Event M R A} (kept : Kept P s) (step : Step P s e t) :
    e.op.Occurs P := by
  cases step with
  | start _ _ => trivial
  | @stop m a running _ => exact kept.runs m a running

theorem Kept.holds {r : R} {m : M} (kept : Kept P s) (held : s.holder r = some m) :
    ∃ a, s.running m = some a ∧ Resources.holds nothing ((P m).start a) r = 1 := by
  have own := kept.own m r
  rw [if_pos held] at own
  cases running : s.running m with
  | none =>
    rw [running] at own
    exact absurd own (by simp [share, nothing])
  | some a =>
    rw [running] at own
    exact ⟨a, rfl, own⟩

theorem Kept.held {r : R} {m : M} {a : A} (kept : Kept P s) (running : s.running m = some a)
    (share : Resources.holds nothing ((P m).start a) r ≠ 0) : s.holder r = some m := by
  have own := kept.own m r
  rw [running] at own
  refine Classical.byContradiction fun other => share ?_
  rwa [if_neg other] at own

/-- Over whole runs of any parties in any order, no release is of another's and nothing is
left behind exactly when each start and each stop is sound by itself. -/
theorem starts_right_iff {clean : Op M A → Prop} {es : List (Event M R A)}
    (exact : ∀ op : Op M A, op.Occurs P → (op.Sound P ↔ clean op))
    (run : Run (Step P) idle es t) : (∀ e ∈ es, e.Right P) ↔ ∀ e ∈ es, clean e.op := by
  apply run_right_iff (Kept P) (Event.Right P) (fun e => clean e.op) idle_kept ?_ ?_ run
  · intro s e t kept step
    exact (step_right_iff kept step).trans (exact e.op (step_occurs kept step))
  · intro s e t kept step sound
    exact step_kept kept step ((exact e.op (step_occurs kept step)).mpr sound)

end Runs

end MadDriver.Ownership

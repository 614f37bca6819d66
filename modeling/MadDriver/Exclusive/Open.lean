import MadDriver.Core.Census
import MadDriver.Core.Kernel
import MadDriver.Core.Transition

/-! Exclusive open, one atomic step at a time, for any number of processes:
blocking_drv and intrpt_drv, whose opens wait for the file, and char_drv, whose
opens do not. The module is not being unloaded, so `try_module_get` takes its
reference. -/
namespace MadDriver.Exclusive
open Kernel Census Transition Function

variable {I : Type} {A : Type}

def O_NONBLOCK : UInt32 := 0o4000

structure State (I A : Type) where
  alreadyOpen : Int
  refs : Int
  phase : I → A

def idle (start : Int) (outside : A) : State I A where
  alreadyOpen := 0
  refs := start
  phase _ := outside

inductive Event (I : Type) where
  | opens (i : I) (flags : UInt32)
  | advances (i : I)
  | waits (i : I) (flags : UInt32)
  | opened (i : I) (flags : UInt32) (ret : Int64)
  | closes (i : I)
  | closed (i : I) (ret : Int64)
  deriving DecidableEq

/- module_open and module_close, intrpt_open and intrpt_close. -/
namespace Waiting

/-- Where a process is: at a statement of open or close, asleep, or outside. -/
inductive Phase where
  | outside
  | check (flags : UInt32)
  | tryModuleGet (flags : UInt32)
  | cmpxchg (flags : UInt32)
  | waitEvent (flags : UInt32)
  | asleep (flags : UInt32)
  | scanSignals (flags : UInt32)
  | interrupted (flags : UInt32)
  | opened
  | atomicSet
  | wakeUp
  | modulePut
  deriving DecidableEq

/-- The loop over the signal words, each pending and blocked; the word is cut to an
`int`. -/
def isSig : List (UInt64 × UInt64) → Int32
  | [] => 0
  | (pending, blocked) :: words =>
    let is_sig := (pending &&& ~~~blocked).toUInt32.toInt32
    if is_sig = 0 then isSig words else is_sig

/-- `wake_up` sends every sleeper back to the condition of its wait. -/
def wake : Phase → Phase
  | .asleep flags => .waitEvent flags
  | phase => phase

variable [DecidableEq I]

inductive Step (s : State I Phase) : Event I → State I Phase → Prop where
  | call {i : I} (flags : UInt32) : s.phase i = .outside →
      Step s (.opens i flags) { s with phase := update s.phase i (.check flags) }
  | wouldBlock {i : I} {flags : UInt32} : s.phase i = .check flags →
      flags &&& O_NONBLOCK ≠ 0 → s.alreadyOpen ≠ 0 →
      Step s (.opened i flags (-EAGAIN)) { s with phase := update s.phase i .outside }
  | passes {i : I} {flags : UInt32} : s.phase i = .check flags →
      ¬ (flags &&& O_NONBLOCK ≠ 0 ∧ s.alreadyOpen ≠ 0) →
      Step s (.advances i) { s with phase := update s.phase i (.tryModuleGet flags) }
  | tryModuleGet {i : I} {flags : UInt32} : s.phase i = .tryModuleGet flags →
      Step s (.advances i) { s with
        refs := s.refs + 1
        phase := update s.phase i (.cmpxchg flags) }
  | takes {i : I} {flags : UInt32} : s.phase i = .cmpxchg flags → s.alreadyOpen = 0 →
      Step s (.opened i flags 0) { s with
        alreadyOpen := 1
        phase := update s.phase i .opened }
  | misses {i : I} {flags : UInt32} : s.phase i = .cmpxchg flags → s.alreadyOpen ≠ 0 →
      Step s (.waits i flags) { s with phase := update s.phase i (.waitEvent flags) }
  | conditionHolds {i : I} {flags : UInt32} : s.phase i = .waitEvent flags →
      s.alreadyOpen = 0 →
      Step s (.advances i) { s with phase := update s.phase i (.scanSignals flags) }
  | sleeps {i : I} {flags : UInt32} : s.phase i = .waitEvent flags → s.alreadyOpen ≠ 0 →
      Step s (.advances i) { s with phase := update s.phase i (.asleep flags) }
  | signalled {i : I} {flags : UInt32} :
      s.phase i = .waitEvent flags ∨ s.phase i = .asleep flags →
      Step s (.advances i) { s with phase := update s.phase i (.scanSignals flags) }
  | retries {i : I} {flags : UInt32} (words : List (UInt64 × UInt64)) :
      s.phase i = .scanSignals flags → isSig words = 0 →
      Step s (.advances i) { s with phase := update s.phase i (.cmpxchg flags) }
  | givesUp {i : I} {flags : UInt32} (words : List (UInt64 × UInt64)) :
      s.phase i = .scanSignals flags → isSig words ≠ 0 →
      Step s (.advances i) { s with phase := update s.phase i (.interrupted flags) }
  | interrupted {i : I} {flags : UInt32} : s.phase i = .interrupted flags →
      Step s (.opened i flags (-EINTR)) { s with
        refs := s.refs - 1
        phase := update s.phase i .outside }
  | close {i : I} : s.phase i = .opened →
      Step s (.closes i) { s with phase := update s.phase i .atomicSet }
  | atomicSet {i : I} : s.phase i = .atomicSet →
      Step s (.advances i) { s with
        alreadyOpen := 0
        phase := update s.phase i .wakeUp }
  | wakeUp {i : I} : s.phase i = .wakeUp →
      Step s (.advances i) { s with phase := update (wake ∘ s.phase) i .modulePut }
  | modulePut {i : I} : s.phase i = .modulePut →
      Step s (.closed i 0) { s with
        refs := s.refs - 1
        phase := update s.phase i .outside }

end Waiting

/- test_open and test_release. -/
namespace Plain

inductive Phase where
  | outside
  | cmpxchg (flags : UInt32)
  | tryModuleGet (flags : UInt32)
  | opened
  | atomicSet
  | modulePut
  deriving DecidableEq

variable [DecidableEq I]

inductive Step (s : State I Phase) : Event I → State I Phase → Prop where
  | call {i : I} (flags : UInt32) : s.phase i = .outside →
      Step s (.opens i flags) { s with phase := update s.phase i (.cmpxchg flags) }
  | busy {i : I} {flags : UInt32} : s.phase i = .cmpxchg flags → s.alreadyOpen ≠ 0 →
      Step s (.opened i flags (-EBUSY)) { s with phase := update s.phase i .outside }
  | takes {i : I} {flags : UInt32} : s.phase i = .cmpxchg flags → s.alreadyOpen = 0 →
      Step s (.advances i) { s with
        alreadyOpen := 1
        phase := update s.phase i (.tryModuleGet flags) }
  | tryModuleGet {i : I} {flags : UInt32} : s.phase i = .tryModuleGet flags →
      Step s (.opened i flags 0) { s with
        refs := s.refs + 1
        phase := update s.phase i .opened }
  | close {i : I} : s.phase i = .opened →
      Step s (.closes i) { s with phase := update s.phase i .atomicSet }
  | atomicSet {i : I} : s.phase i = .atomicSet →
      Step s (.advances i) { s with
        alreadyOpen := 0
        phase := update s.phase i .modulePut }
  | modulePut {i : I} : s.phase i = .modulePut →
      Step s (.closed i 0) { s with
        refs := s.refs - 1
        phase := update s.phase i .outside }

end Plain

/-- Whether a process has the flag, a reference, both or neither; an open that has
its reference is told from a close that still has it. -/
inductive Role where
  | outside
  | opening
  | entering
  | holding
  | closing
  deriving DecidableEq

def Role.flag : Role → Bool
  | .entering | .holding => true
  | _ => false

def Role.counted : Role → Bool
  | .opening | .holding | .closing => true
  | _ => false

def Waiting.role : Waiting.Phase → Role
  | .outside | .check _ | .tryModuleGet _ => .outside
  | .cmpxchg _ | .waitEvent _ | .asleep _ | .scanSignals _ | .interrupted _ => .opening
  | .opened | .atomicSet => .holding
  | .wakeUp | .modulePut => .closing

def Plain.role : Plain.Phase → Role
  | .outside | .cmpxchg _ => .outside
  | .tryModuleGet _ => .entering
  | .opened | .atomicSet => .holding
  | .modulePut => .closing

structure Kept (role : A → Role) (start : Int) (s : State I A) : Prop where
  alone : ∀ i j, (role (s.phase i)).flag → (role (s.phase j)).flag → i = j
  taken : s.alreadyOpen = 1 ↔ ∃ i, (role (s.phase i)).flag
  free : s.alreadyOpen = 0 ↔ ∀ i, (role (s.phase i)).flag = false
  refs : ∃ holding opening closing, Counts (fun a => role a = .holding) s.phase holding ∧
    Counts (fun a => role a = .opening) s.phase opening ∧
    Counts (fun a => role a = .closing) s.phase closing ∧
    s.refs = start + holding + opening + closing
  settled : (∀ i, (role (s.phase i)).counted = false) → s.refs = start

structure Balanced (role : A → Role) (start : Int) (s : State I A) : Prop where
  flag : ∃ n : Nat, n ≤ 1 ∧ Counts (fun a => (role a).flag) s.phase n ∧ s.alreadyOpen = n
  count : ∃ n : Nat, Counts (fun a => (role a).counted) s.phase n ∧ s.refs = start + n

section Rules

variable {role : A → Role} {start : Int} {s : State I A} {i : I} {a : A}

theorem idle_balanced {outside : A} (nothing : role outside = .outside) :
    Balanced role start (idle start outside : State I A) where
  flag := ⟨0, Nat.zero_le 1, counts_none fun _ => by simp [idle, nothing, Role.flag], rfl⟩
  count := ⟨0, counts_none fun _ => by simp [idle, nothing, Role.counted],
    (Int.add_zero start).symm⟩

theorem balanced_kept (balanced : Balanced role start s) : Kept role start s := by
  obtain ⟨⟨n, one, taken, value⟩, ⟨m, counted, refs⟩⟩ := balanced
  have nobody := counts_zero_iff taken
  constructor
  · intro i j has has'
    exact counts_le_one taken one has has'
  · constructor
    · intro one_open
      by_contra unheld
      have zero : n = 0 := nobody.mpr fun i has => unheld ⟨i, has⟩
      omega
    · rintro ⟨i, has⟩
      have pos := counts_pos taken has
      omega
  · constructor
    · intro none_open i
      have zero : n = 0 := by omega
      simpa using nobody.mp zero i
    · intro unheld
      have zero : n = 0 := nobody.mpr fun i => by simp [unheld i]
      omega
  · obtain ⟨h, others, holding, rest, rfl⟩ :=
      counts_split (Q := fun a => role a = .holding) counted
    obtain ⟨o, k, opening, closing, rfl⟩ := counts_split (Q := fun a => role a = .opening) rest
    refine ⟨h, o, k, counts_congr (fun j => ?_) holding, counts_congr (fun j => ?_) opening,
      counts_congr (fun j => ?_) closing, by omega⟩
    all_goals cases role (s.phase j) <;> decide
  · intro settled
    have zero : m = 0 := (counts_zero_iff counted).mpr fun i => by simp [settled i]
    omega

variable [DecidableEq I]

theorem balanced_move (balanced : Balanced role start s) (same : role a = role (s.phase i)) :
    Balanced role start { s with phase := update s.phase i a } := by
  obtain ⟨⟨n, one, taken, value⟩, ⟨m, counted, refs⟩⟩ := balanced
  exact ⟨⟨n, one, counts_stay taken (by rw [same]), value⟩,
    ⟨m, counts_stay counted (by rw [same]), refs⟩⟩

theorem balanced_take (balanced : Balanced role start s) (free : s.alreadyOpen = 0)
    (has : (role a).flag) (same : (role a).counted = (role (s.phase i)).counted) :
    Balanced role start { s with alreadyOpen := 1, phase := update s.phase i a } := by
  obtain ⟨⟨n, one, taken, value⟩, ⟨m, counted, refs⟩⟩ := balanced
  have zero : n = 0 := by omega
  subst zero
  exact ⟨⟨1, Nat.le_refl 1, counts_enter taken ((counts_zero_iff taken).mp rfl i) has, rfl⟩,
    ⟨m, counts_stay counted (by rw [same]), refs⟩⟩

theorem balanced_clear (balanced : Balanced role start s) (had : (role (s.phase i)).flag)
    (without : (role a).flag = false)
    (same : (role a).counted = (role (s.phase i)).counted) :
    Balanced role start { s with alreadyOpen := 0, phase := update s.phase i a } := by
  obtain ⟨⟨n, one, taken, value⟩, ⟨m, counted, refs⟩⟩ := balanced
  have only : n = 0 + 1 := by
    have pos := counts_pos taken had
    omega
  subst only
  exact ⟨⟨0, Nat.zero_le 1, counts_leave taken had (by simp [without]), rfl⟩,
    ⟨m, counts_stay counted (by rw [same]), refs⟩⟩

theorem balanced_get (balanced : Balanced role start s)
    (without : (role (s.phase i)).counted = false) (has : (role a).counted)
    (same : (role a).flag = (role (s.phase i)).flag) :
    Balanced role start { s with refs := s.refs + 1, phase := update s.phase i a } := by
  obtain ⟨⟨n, one, taken, value⟩, ⟨m, counted, refs⟩⟩ := balanced
  refine ⟨⟨n, one, counts_stay taken (by rw [same]), value⟩,
    ⟨m + 1, counts_enter counted (by simp [without]) has, ?_⟩⟩
  change s.refs + 1 = _
  omega

theorem balanced_put (balanced : Balanced role start s) (had : (role (s.phase i)).counted)
    (without : (role a).counted = false) (same : (role a).flag = (role (s.phase i)).flag) :
    Balanced role start { s with refs := s.refs - 1, phase := update s.phase i a } := by
  obtain ⟨⟨n, one, taken, value⟩, ⟨m, counted, refs⟩⟩ := balanced
  obtain ⟨k, rfl⟩ : ∃ k, m = k + 1 :=
    ⟨m - 1, (Nat.sub_add_cancel (counts_pos counted had)).symm⟩
  refine ⟨⟨n, one, counts_stay taken (by rw [same]), value⟩,
    ⟨k, counts_leave counted had (by simp [without]), ?_⟩⟩
  change s.refs - 1 = _
  omega

end Rules

section Runs

variable [DecidableEq I] {start : Int}

omit [DecidableEq I] in
theorem Waiting.wake_balanced {s : State I Waiting.Phase} (balanced : Balanced role start s) :
    Balanced role start { s with phase := wake ∘ s.phase } := by
  have same : ∀ p, role (wake p) = role p := fun p => by cases p <;> rfl
  obtain ⟨⟨n, one, taken, value⟩, ⟨m, counted, refs⟩⟩ := balanced
  exact ⟨⟨n, one, counts_congr (fun j => by simp [same]) taken, value⟩,
    ⟨m, counts_congr (fun j => by simp [same]) counted, refs⟩⟩

theorem Waiting.step_balanced {s s' : State I Waiting.Phase} {e : Event I}
    (balanced : Balanced role start s) (step : Step s e s') : Balanced role start s' := by
  cases step with
  | call _ here | wouldBlock here _ _ | passes here _ | misses here _ | conditionHolds here _
  | sleeps here _ | retries _ here _ | givesUp _ here _ | close here =>
    exact balanced_move balanced (by rw [here]; rfl)
  | signalled here =>
    rcases here with here | here <;> exact balanced_move balanced (by rw [here]; rfl)
  | wakeUp here => exact balanced_move (wake_balanced balanced) (by simp [here, wake, role])
  | takes here free => exact balanced_take balanced free rfl (by rw [here]; rfl)
  | atomicSet here => exact balanced_clear balanced (by rw [here]; rfl) rfl (by rw [here]; rfl)
  | tryModuleGet here => exact balanced_get balanced (by rw [here]; rfl) rfl (by rw [here]; rfl)
  | interrupted here | modulePut here =>
    exact balanced_put balanced (by rw [here]; rfl) rfl (by rw [here]; rfl)

theorem Plain.step_balanced {s s' : State I Plain.Phase} {e : Event I}
    (balanced : Balanced role start s) (step : Step s e s') : Balanced role start s' := by
  cases step with
  | call _ here | busy here _ | close here => exact balanced_move balanced (by rw [here]; rfl)
  | takes here free => exact balanced_take balanced free rfl (by rw [here]; rfl)
  | atomicSet here => exact balanced_clear balanced (by rw [here]; rfl) rfl (by rw [here]; rfl)
  | tryModuleGet here => exact balanced_get balanced (by rw [here]; rfl) rfl (by rw [here]; rfl)
  | modulePut here => exact balanced_put balanced (by rw [here]; rfl) rfl (by rw [here]; rfl)

/-- In every interleaving at most one process has the flag, `already_open` tells
whether one does, and the references are those of the open files, the opens past
`try_module_get` and the closes before `module_put`. -/
theorem exclusive_open (I : Type) [DecidableEq I] (start : Int) (hist : List (Event I)) :
    (∀ s, Run Waiting.Step (idle start .outside) hist s → Kept Waiting.role start s) ∧
      ∀ s, Run Plain.Step (idle start .outside) hist s → Kept Plain.role start s := by
  constructor
  · intro s run
    exact balanced_kept (run_invariant (Balanced Waiting.role start) (idle_balanced rfl)
      (fun _ _ _ balanced step => Waiting.step_balanced balanced step) run)
  · intro s run
    exact balanced_kept (run_invariant (Balanced Plain.role start) (idle_balanced rfl)
      (fun _ _ _ balanced step => Plain.step_balanced balanced step) run)

end Runs

/-- One process sleeps until another has woken it and is about to drop its reference; of
two others one is turned away, and comes back while the first one is on its way out. -/
theorem exclusive_open_contested :
    (∃ hist s, Run Waiting.Step (idle 0 .outside : State Bool _) hist s ∧
      s.phase false = .modulePut ∧ s.phase true = .waitEvent 0 ∧ s.alreadyOpen = 0 ∧
      s.refs = 2 ∧ .waits true 0 ∈ hist ∧ Kept Waiting.role 0 s) ∧
    ∃ hist s, Run Plain.Step (idle 0 .outside : State Bool _) hist s ∧
      s.phase false = .modulePut ∧ s.phase true = .tryModuleGet 0 ∧ s.alreadyOpen = 1 ∧
      s.refs = 1 ∧ .opened true 0 (-EBUSY) ∈ hist ∧ Kept Plain.role 0 s := by
  constructor
  · have run : ∃ s, Run Waiting.Step (idle 0 .outside : State Bool _)
        [.opens false 0, .advances false, .advances false, .opened false 0 0, .opens true 0,
          .advances true, .advances true, .waits true 0, .advances true, .closes false,
          .advances false, .advances false] s ∧
        s.phase false = .modulePut ∧ s.phase true = .waitEvent 0 ∧ s.alreadyOpen = 0 ∧
        s.refs = 2 := by
      refine ⟨_, .snoc (.snoc (.snoc (.snoc (.snoc (.snoc (.snoc (.snoc (.snoc (.snoc (.snoc
        (.snoc .start (.call _ rfl)) (.passes rfl (by decide))) (.tryModuleGet rfl))
        (.takes rfl rfl)) (.call _ rfl)) (.passes rfl (by decide))) (.tryModuleGet rfl))
        (.misses rfl (by decide))) (.sleeps rfl (by decide))) (.close rfl)) (.atomicSet rfl))
        (.wakeUp rfl), rfl, rfl, rfl, rfl⟩
    obtain ⟨s, run, closing, woken, free, refs⟩ := run
    exact ⟨_, s, run, closing, woken, free, refs, by decide, (exclusive_open Bool 0 _).1 s run⟩
  · have run : ∃ s, Run Plain.Step (idle 0 .outside : State Bool _)
        [.opens false 0, .advances false, .opens true 0, .opened true 0 (-EBUSY),
          .opened false 0 0, .closes false, .advances false, .opens true 0, .advances true] s ∧
        s.phase false = .modulePut ∧ s.phase true = .tryModuleGet 0 ∧ s.alreadyOpen = 1 ∧
        s.refs = 1 := by
      refine ⟨_, .snoc (.snoc (.snoc (.snoc (.snoc (.snoc (.snoc (.snoc (.snoc .start
        (.call _ rfl)) (.takes rfl rfl)) (.call _ rfl)) (.busy rfl (by decide)))
        (.tryModuleGet rfl)) (.close rfl)) (.atomicSet rfl)) (.call _ rfl)) (.takes rfl rfl),
        rfl, rfl, rfl, rfl⟩
    obtain ⟨s, run, closing, entering, taken, refs⟩ := run
    exact ⟨_, s, run, closing, entering, taken, refs, by decide, (exclusive_open Bool 0 _).2 s run⟩

def opened : State Unit Waiting.Phase := ⟨1, 1, fun _ => .opened⟩

theorem opened_run : Run Waiting.Step (idle 0 .outside)
    [.opens () 0, .advances (), .advances (), .opened () 0 0] opened :=
  .snoc (.snoc (.snoc (.snoc .start (.call 0 rfl)) (.passes rfl (by decide))) (.tryModuleGet rfl))
    (.takes rfl rfl)

/-- Between the `atomic_set` and the `module_put` of a close there is a reference
without an open file; between the exchange and the `try_module_get` of char_drv the
flag is set without one. -/
theorem open_in_between :
    (∃ hist s, Run Waiting.Step (idle 0 .outside : State Unit _) hist s ∧ s.refs = 1 ∧
      ∀ i, Waiting.role (s.phase i) ≠ .holding ∧ Waiting.role (s.phase i) ≠ .opening) ∧
    ∃ hist s, Run Plain.Step (idle 0 .outside : State Unit _) hist s ∧ s.alreadyOpen = 1 ∧
      ∀ i, Plain.role (s.phase i) ≠ .holding := by
  constructor
  · refine ⟨_, ⟨0, 1, fun _ => .wakeUp⟩,
      .snoc (.snoc opened_run (.close (i := ()) rfl)) (.atomicSet (i := ()) rfl), rfl, ?_⟩
    rintro ⟨⟩
    decide
  · refine ⟨_, ⟨1, 0, fun _ => .tryModuleGet 0⟩,
      .snoc (.snoc .start (.call (i := ()) 0 rfl)) (.takes (i := ()) rfl rfl), rfl, ?_⟩
    rintro ⟨⟩
    decide

end MadDriver.Exclusive

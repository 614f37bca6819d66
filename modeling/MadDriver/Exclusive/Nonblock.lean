import MadDriver.Exclusive.Open

/-! Opens with O_NONBLOCK between their look at `already_open` and their exchange:
they wait exactly when another process has the file by then. -/
namespace MadDriver.Exclusive.Waiting
open Kernel Census Transition Function

variable {I : Type}

def Nonblocking (flags : UInt32) : Prop := flags &&& O_NONBLOCK ≠ 0

/-- No open with O_NONBLOCK reaches `wait_event_interruptible`; those that return have
taken the file or return -EAGAIN. -/
def NeverWaits (hist : List (Event I)) : Prop :=
  ∀ i flags, Nonblocking flags → .waits i flags ∉ hist ∧
    ∀ ret, .opened i flags ret ∈ hist → ret = 0 ∨ ret = -EAGAIN

def Event.process : Event I → I
  | .opens i _ | .advances i | .waits i _ | .opened i _ _ | .closes i | .closed i _ => i

/-- An open with O_NONBLOCK comes to its exchange only while nobody has the file open. -/
def Undisturbed (s : State I Phase) (e : Event I) : Prop :=
  ∀ flags, Nonblocking flags → s.phase (Event.process e) = .cmpxchg flags →
    ∀ j, role (s.phase j) ≠ .holding

def Phase.waiter : Phase → Option UInt32
  | .waitEvent flags | .asleep flags | .scanSignals flags | .interrupted flags => some flags
  | _ => none

def Patient (s : State I Phase) : Prop :=
  ∀ i flags, (s.phase i).waiter = some flags → ¬ Nonblocking flags

theorem free_iff_unheld {start : Int} {s : State I Phase} (balanced : Balanced role start s) :
    s.alreadyOpen = 0 ↔ ∀ j, role (s.phase j) ≠ .holding := by
  have unflagged : ∀ p : Phase, (role p).flag = false ↔ role p ≠ .holding := by
    intro p
    cases p <;> simp [role, Role.flag]
  rw [(balanced_kept balanced).free]
  exact forall_congr' fun j => unflagged (s.phase j)

variable [DecidableEq I]

theorem patient_update {s : State I Phase} {i : I} {p : Phase} (patient : Patient s)
    (calm : ∀ flags, p.waiter = some flags → ¬ Nonblocking flags) :
    Patient { s with phase := update s.phase i p } := by
  intro j flags waits
  by_cases here : j = i
  · subst here
    exact calm flags (by simpa using waits)
  · exact patient j flags (by simpa [here] using waits)

omit [DecidableEq I] in
theorem patient_wake {s : State I Phase} (patient : Patient s) :
    Patient { s with phase := wake ∘ s.phase } := by
  have same : ∀ p : Phase, (wake p).waiter = p.waiter := fun p => by cases p <;> rfl
  intro j flags waits
  exact patient j flags (by simpa [same] using waits)

theorem step_patient {s s' : State I Phase} {e : Event I} (patient : Patient s)
    (calm : ∀ i flags, e = .waits i flags → ¬ Nonblocking flags) (step : Step s e s') :
    Patient s' := by
  have keep : ∀ {i flags} {p : Phase}, (s.phase i).waiter = some flags →
      p.waiter = some flags → ∀ g, p.waiter = some g → ¬ Nonblocking g := by
    intro i flags p before after g waits
    cases after.symm.trans waits
    exact patient i flags before
  cases step with
  | misses here _ =>
    apply patient_update patient
    rintro _ ⟨⟩
    exact calm _ _ rfl
  | conditionHolds here _ | sleeps here _ | givesUp _ here _ =>
    exact patient_update patient (keep (by rw [here]; rfl) rfl)
  | signalled here =>
    rcases here with here | here <;>
      exact patient_update patient (keep (by rw [here]; rfl) rfl)
  | wakeUp _ => exact patient_update (patient_wake patient) nofun
  | call _ _ | wouldBlock _ _ _ | passes _ _ | tryModuleGet _ | takes _ _ | retries _ _ _
  | interrupted _ | close _ | atomicSet _ | modulePut _ => exact patient_update patient nofun

theorem exchange_cases {s s' : State I Phase} {e : Event I} {flags : UInt32} (step : Step s e s')
    (exchange : s.phase (Event.process e) = .cmpxchg flags) :
    s.alreadyOpen = 0 ∨ e = .waits (Event.process e) flags := by
  cases step with
  | takes _ free => exact .inl free
  | misses here _ =>
    cases here.symm.trans exchange
    exact .inr rfl
  | signalled here => rcases here with here | here <;> cases here.symm.trans exchange
  | call _ here | wouldBlock here _ _ | passes here _ | tryModuleGet here | conditionHolds here _
  | sleeps here _ | retries _ here _ | givesUp _ here _ | interrupted here | close here
  | atomicSet here | wakeUp here | modulePut here => cases here.symm.trans exchange

theorem waits_cases {s s' : State I Phase} {i : I} {flags : UInt32}
    (step : Step s (.waits i flags) s') : s.phase i = .cmpxchg flags ∧ s.alreadyOpen ≠ 0 := by
  cases step with
  | misses here held => exact ⟨here, held⟩

theorem opened_cases {s s' : State I Phase} {i : I} {flags : UInt32} {ret : Int64}
    (step : Step s (.opened i flags ret) s') :
    ret = 0 ∨ ret = -EAGAIN ∨ s.phase i = .interrupted flags := by
  cases step with
  | wouldBlock _ _ _ => exact .inr (.inl rfl)
  | takes _ _ => exact .inl rfl
  | interrupted here => exact .inr (.inr here)

theorem step_calm {start : Int} {s s' : State I Phase} {e : Event I}
    (balanced : Balanced role start s) (patient : Patient s) (step : Step s e s') :
    NeverWaits [e] ↔ Undisturbed s e := by
  have free := free_iff_unheld balanced
  constructor
  · intro calm flags nonblocking here
    rcases exchange_cases step here with unheld | waits
    · exact free.mp unheld
    · exact absurd (List.mem_singleton.mpr waits.symm) (calm _ _ nonblocking).1
  · intro undisturbed i flags nonblocking
    constructor
    · intro waits
      cases List.mem_singleton.mp waits
      obtain ⟨here, held⟩ := waits_cases step
      exact held (free.mpr (undisturbed flags nonblocking here))
    · intro ret returned
      cases List.mem_singleton.mp returned
      rcases opened_cases step with taken | wouldBlock | here
      · exact .inl taken
      · exact .inr wouldBlock
      · exact absurd nonblocking (patient i flags (by rw [here]; rfl))

omit [DecidableEq I] in
theorem neverWaits_append {hist more : List (Event I)} :
    NeverWaits (hist ++ more) ↔ NeverWaits hist ∧ NeverWaits more := by
  simp only [NeverWaits, List.mem_append, not_or]
  constructor
  · intro calm
    exact ⟨fun i flags nonblocking => ⟨(calm i flags nonblocking).1.1,
        fun ret before => (calm i flags nonblocking).2 ret (.inl before)⟩,
      fun i flags nonblocking => ⟨(calm i flags nonblocking).1.2,
        fun ret after => (calm i flags nonblocking).2 ret (.inr after)⟩⟩
  · rintro ⟨calm, calm'⟩ i flags nonblocking
    refine ⟨⟨(calm i flags nonblocking).1, (calm' i flags nonblocking).1⟩, fun ret returned => ?_⟩
    rcases returned with before | after
    · exact (calm i flags nonblocking).2 ret before
    · exact (calm' i flags nonblocking).2 ret after

structure Calm (start : Int) (hist : List (Event I)) (s : State I Phase) : Prop where
  balanced : Balanced role start s
  patient : Patient s
  calm : NeverWaits hist

theorem step_keeps_calm {start : Int} {hist : List (Event I)} {s s' : State I Phase} {e : Event I}
    (before : Calm start hist s) (step : Guarded Step Undisturbed s e s') :
    Calm start (hist ++ [e]) s' := by
  obtain ⟨balanced, patient, calm⟩ := before
  have now := (step_calm balanced patient step.1).mpr step.2
  refine ⟨step_balanced balanced step.1, ?_, neverWaits_append.mpr ⟨calm, now⟩⟩
  refine step_patient patient ?_ step.1
  rintro i flags rfl nonblocking
  exact (now i flags nonblocking).1 (List.mem_singleton.mpr rfl)

theorem run_calm {start : Int} {hist : List (Event I)} {s : State I Phase}
    (run : Run (Guarded Step Undisturbed) (idle start .outside) hist s) : Calm start hist s := by
  apply run_history (Calm start) ⟨idle_balanced rfl, nofun, by simp [NeverWaits]⟩ ?_ run
  intro _ _ _ _ _ before step
  exact step_keeps_calm before step

/-- Opens with O_NONBLOCK never wait in exactly the runs in which each of them comes
to its exchange while nobody has the file open. -/
theorem nonblock_never_waits_iff {start : Int} {hist : List (Event I)} {s : State I Phase}
    (run : Run Step (idle start .outside) hist s) :
    NeverWaits hist ↔ Run (Guarded Step Undisturbed) (idle start .outside) hist s := by
  refine ⟨fun calm => ?_, fun guarded => (run_calm guarded).calm⟩
  induction run with
  | start => exact .start
  | snoc _ step ih =>
    obtain ⟨before, now⟩ := neverWaits_append.mp calm
    have guarded := ih before
    have kept := run_calm guarded
    exact .snoc guarded ⟨step, (step_calm kept.balanced kept.patient step).mp now⟩

def turns : List (Event Bool) :=
  [.opens false O_NONBLOCK, .advances false, .advances false, .opened false O_NONBLOCK 0,
    .opens true O_NONBLOCK, .opened true O_NONBLOCK (-EAGAIN), .closes false, .advances false,
    .advances false, .closed false 0, .opens true O_NONBLOCK, .advances true, .advances true,
    .opened true O_NONBLOCK 0]

/-- An open with O_NONBLOCK takes the file, a second one is refused while the file is open, and
takes it after the close. -/
theorem nonblock_never_waits_turns : ∃ s : State Bool Phase,
    Nonblocking O_NONBLOCK ∧ NeverWaits turns ∧ Run Step (idle 0 .outside) turns s ∧
      Run (Guarded Step Undisturbed) (idle 0 .outside) turns s := by
  have run : ∃ s : State Bool Phase, Run Step (idle 0 .outside) turns s :=
    ⟨_, .snoc (.snoc (.snoc (.snoc (.snoc (.snoc (.snoc (.snoc (.snoc (.snoc (.snoc (.snoc (.snoc
      (.snoc .start (.call _ rfl)) (.passes rfl (by decide))) (.tryModuleGet rfl))
      (.takes rfl rfl)) (.call _ rfl)) (.wouldBlock rfl (by decide) (by decide))) (.close rfl))
      (.atomicSet rfl)) (.wakeUp rfl)) (.modulePut rfl)) (.call _ rfl))
      (.passes rfl (by decide))) (.tryModuleGet rfl)) (.takes rfl rfl)⟩
  obtain ⟨s, run⟩ := run
  have calm : NeverWaits turns := by
    intro i flags _
    simp only [turns, List.mem_cons, reduceCtorEq, Event.opened.injEq, List.not_mem_nil, or_false,
      false_or, not_false_eq_true, true_and]
    rintro ret (⟨_, _, rfl⟩ | ⟨_, _, rfl⟩ | ⟨_, _, rfl⟩)
    exacts [.inl rfl, .inr rfl, .inl rfl]
  exact ⟨s, by unfold Nonblocking; decide, calm, run, (nonblock_never_waits_iff run).mp calm⟩

/-- Another process takes the file between the look at `already_open` and the exchange. -/
theorem nonblock_waits : ∃ hist s, Run Step (idle 0 .outside : State Bool _) hist s ∧
    .waits false O_NONBLOCK ∈ hist ∧ Nonblocking O_NONBLOCK := by
  have run : ∃ s, Run Step (idle 0 .outside : State Bool _)
      [.opens false O_NONBLOCK, .advances false, .opens true 0, .advances true, .advances true,
        .opened true 0 0, .advances false, .waits false O_NONBLOCK] s :=
    ⟨_, .snoc (.snoc (.snoc (.snoc (.snoc (.snoc (.snoc (.snoc .start
      (.call _ rfl)) (.passes rfl (by decide))) (.call _ rfl)) (.passes rfl (by decide)))
      (.tryModuleGet rfl)) (.takes rfl rfl)) (.tryModuleGet rfl)) (.misses rfl (by decide))⟩
  obtain ⟨s, run⟩ := run
  exact ⟨_, s, run, by decide, by unfold Nonblocking; decide⟩

end MadDriver.Exclusive.Waiting

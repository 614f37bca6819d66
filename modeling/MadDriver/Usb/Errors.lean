import MadDriver.Usb.Life

/-! The errors that completions store for the calls to report, through one cell that
skel_read reads and clears without the lock that everybody else takes. -/
namespace MadDriver.Skel
open Kernel Transition Lock Function

variable {I F : Type} {s m t : State I F} {i : I} {f : F} {e : Event I} {q : Phase F}
  {hist : List (Event I)}

def Phase.loaded : Phase F → Option Err
  | .reading _ (.clear e) | .writing _ (.clear e) => some e
  | .flushing _ (.clear e) => e
  | _ => none

def Phase.carries : Phase F → Option Err
  | .reading _ (.clear e) | .reading _ (.unlock (.failed (.stored e))) => some e
  | .writing _ (.clear e) | .writing _ (.freeCoherent _ (.stored e))
  | .writing _ (.up (.stored e)) => some e
  | .flushing _ (.clear e) | .flushing _ (.unlock e) => e
  | _ => none

def Event.stored : Event I → Option Err
  | .stores e _ => some e
  | _ => none

def Event.overwritten : Event I → Option Err
  | .stores _ old => old
  | _ => none

def Event.reported : Event I → Option Err
  | .returns _ (.failed (.stored e)) => some e
  | _ => none

def stored (hist : List (Event I)) : List Err := hist.filterMap Event.stored

def overwritten (hist : List (Event I)) : List Err := hist.filterMap Event.overwritten

def reported (hist : List (Event I)) : List Err := hist.filterMap Event.reported

/-- Each stored error is reported at most once, on its way in at most one call, and is
gone only where that call cleared it or a later one overwrote it. -/
structure ErrorsOnce (hist : List (Event I)) (s : State I F) : Prop where
  once : (reported hist).Nodup
  notAgain : ∀ i e, (s.thread i).carries = some e → e ∉ reported hist
  one : ∀ i j e, (s.thread i).carries = some e → (s.thread j).carries = some e → i = j
  kept : ∀ e ∈ stored hist, s.errors = some e ∨ (∃ i, (s.thread i).carries = some e) ∨
    e ∈ reported hist ∨ e ∈ overwritten hist
  cleared : ∀ i loaded held, .clears i loaded held ∈ hist → held = none ∨ held = loaded

/-- A call that loads finds no error another call has loaded and not yet cleared, and a
read that clears finds nothing or what it loaded. -/
def Undisturbed (s : State I F) : Event I → Prop
  | .loads i => ∀ j e, j ≠ i → s.errors = some e → (s.thread j).loaded ≠ some e
  | .clears i _ _ =>
    ∀ r e, s.thread i = .reading r (.clear e) → s.errors = none ∨ s.errors = some e
  | _ => True

structure Ledger (hist : List (Event I)) (s : State I F) : Prop where
  once : ErrorsOnce hist s
  fresh : ∀ e ∈ stored hist, e.id < s.nextErr
  cell : ∀ e, s.errors = some e → e ∈ stored hist ∧ e ∉ reported hist ∧
    ∀ i, (s.thread i).carries = some e → (s.thread i).loaded = some e
  carried : ∀ i e, (s.thread i).carries = some e → e ∈ stored hist
  reported : ∀ e ∈ reported hist, e ∈ stored hist
  locked : ∀ i loaded, (s.thread i).errLocked = some loaded →
    s.errors = none ∨ s.errors = loaded

inductive Handles (i : I) (p q : Phase F) (cell : Option Err) : Event I → Option Err → Prop where
  | silent {e : Event I} : q.loaded = p.loaded → q.carries = p.carries →
      e.stored = none ∧ e.overwritten = none ∧ e.reported = none →
      (∀ i loaded held, e ≠ .clears i loaded held) → Handles i p q cell e cell
  | loads : p.carries = none → q.loaded = cell → q.carries = cell →
      Handles i p q cell (.loads i) cell
  | clears : p.carries = p.loaded → q.loaded = none → q.carries = p.loaded →
      Handles i p q cell (.clears i p.loaded cell) none
  | returns {ret : Return} : p.loaded = none → p.carries = (Event.returns i ret).reported →
      q.loaded = none → q.carries = none → Handles i p q cell (.returns i ret) cell

theorem loaded_carries {p : Phase F} {e : Err} (loaded : p.loaded = some e) :
    p.carries = some e := by
  cases p with
  | reading r p | writing w p | flushing f p => cases p <;> first | exact loaded | cases loaded
  | _ => cases loaded

theorem read_handles {r : ReadCall F} {p : ReadPhase} (step : ReadStep s i r p e q m) :
    Handles i (.reading r p) q s.errors e m.errors := by
  cases step with
  | noError none => exact .loads rfl none.symm none.symm
  | error some => exact .loads rfl some.symm some.symm
  | clears => exact .clears rfl rfl rfl
  | startsIo _ _ done | ioFails _ _ done =>
    rw [doReadIo_frame done]
    exact .silent rfl rfl ⟨rfl, rfl, rfl⟩ nofun
  | @copies fault _ _ _ _ _ _ done =>
    have ret := (Prod.mk.inj done).1
    subst ret
    rw [copyOut_frame done]
    cases fault <;> exact .silent rfl rfl ⟨rfl, rfl, rfl⟩ nofun
  | interrupted => exact .returns rfl rfl rfl rfl
  | @unlocks ret =>
    refine .returns rfl ?_ rfl rfl
    rcases ret with _ | _ | (_ | _) <;> rfl
  | _ => exact .silent rfl rfl ⟨rfl, rfl, rfl⟩ nofun

theorem write_handles {w : WriteCall F} {p : WritePhase} (step : WriteStep s i w p e q m) :
    Handles i (.writing w p) q s.errors e m.errors := by
  cases step with
  | noError _ none => exact .loads rfl none.symm none.symm
  | error _ some => exact .loads rfl some.symm some.symm
  | clears => exact .clears rfl rfl rfl
  | interrupted _ | again _ _ | unlocks => exact .returns rfl rfl rfl rfl
  | @up why => exact .returns rfl (by cases why <;> rfl) rfl rfl
  | @frees _ why => exact .silent rfl (by cases why <;> rfl) ⟨rfl, rfl, rfl⟩ nofun
  | @freesNull why => exact .silent rfl (by cases why <;> rfl) ⟨rfl, rfl, rfl⟩ nofun
  | _ => exact .silent rfl rfl ⟨rfl, rfl, rfl⟩ nofun

theorem flush_handles {p : FlushPhase} (step : FlushStep s i f p e q m) :
    Handles i (.flushing f p) q s.errors e m.errors := by
  cases step with
  | loads _ => exact .loads rfl rfl rfl
  | clears => exact .clears rfl rfl rfl
  | @unlocks e => exact .returns rfl (by cases e <;> rfl) rfl rfl
  | _ => exact .silent rfl rfl ⟨rfl, rfl, rfl⟩ nofun

theorem apart_errors {p : Phase F} (apart : p.Apart) : p.loaded = none ∧ p.carries = none := by
  cases p with
  | reading r p | writing w p | flushing f p => cases p <;> first | exact ⟨rfl, rfl⟩ | cases apart
  | _ => exact ⟨rfl, rfl⟩

theorem aside_handles (step : Aside s i e q m) :
    Handles i (s.thread i) q s.errors e m.errors := by
  obtain ⟨frame, before, after, event⟩ := step
  obtain ⟨loaded, carries⟩ := apart_errors before
  obtain ⟨loaded', carries'⟩ := apart_errors after
  rw [frame]
  refine .silent (by rw [loaded, loaded']) (by rw [carries, carries']) ?_ ?_
  · cases e with
    | internal => exact ⟨rfl, rfl, rfl⟩
    | returns i ret =>
      rcases ret with _ | _ | (_ | _) <;> first | exact ⟨rfl, rfl, rfl⟩ | cases event
    | _ => cases event
  · rintro _ _ _ rfl
    cases event

structure Moves (i : I) (q : Phase F) (s t : State I F) : Prop where
  self : t.thread i = q
  other : ∀ j, j ≠ i → t.thread j = s.thread j
  nextErr : t.nextErr = s.nextErr
  locked : ∀ loaded, q.errLocked = some loaded → t.errors = loaded

/-- What the step of a call may do with the errors: it takes one up from the cell when
nobody else has it, drops none but by returning it, and empties the cell only of its own. -/
structure Conserves (i : I) (q : Phase F) (s : State I F) (e : Event I) (t : State I F) :
    Prop where
  silent : e.stored = none ∧ e.overwritten = none
  takes : ∀ err, q.carries = some err → (s.thread i).carries = some err ∨
    s.errors = some err ∧ ∀ j, (s.thread j).carries ≠ some err
  passes : ∀ err, (s.thread i).carries = some err → q.carries = some err ∨ e.reported = some err
  reports : ∀ err, e.reported = some err →
    (s.thread i).carries = some err ∧ (s.thread i).loaded = none ∧ q.carries = none
  cell : t.errors = s.errors ∧
      (∀ err, s.errors = some err → q.carries = some err → q.loaded = some err) ∨
    t.errors = none ∧ ∀ err, s.errors = some err → q.carries = some err
  cleared : ∀ j loaded held, e = .clears j loaded held → held = none ∨ held = loaded

theorem mem_reported_snoc {err : Err} :
    err ∈ reported (hist ++ [e]) ↔ err ∈ reported hist ∨ e.reported = some err := by
  simp [reported, List.filterMap_append, List.mem_filterMap]

theorem stored_snoc (silent : e.stored = none) : stored (hist ++ [e]) = stored hist := by
  simp [stored, List.filterMap_append, silent]

theorem overwritten_snoc (silent : e.overwritten = none) :
    overwritten (hist ++ [e]) = overwritten hist := by
  simp [overwritten, List.filterMap_append, silent]

theorem reported_snoc_nodup (once : (reported hist).Nodup)
    (new : ∀ err, e.reported = some err → err ∉ reported hist) :
    (reported (hist ++ [e])).Nodup := by
  cases now : e.reported with
  | none => simpa [reported, List.filterMap_append, now] using once
  | some err =>
    have fresh := new err now
    simp only [reported] at once fresh
    simp only [reported, List.filterMap_append, List.filterMap_cons, now, List.filterMap_nil]
    exact List.nodup_append_comm.mpr (List.nodup_cons.mpr ⟨fresh, once⟩)

theorem carries_before (moves : Moves i q s t) (conserves : Conserves i q s e t) {j : I}
    {err : Err} (carries : (s.thread j).carries = some err) :
    (t.thread j).carries = some err ∨ e.reported = some err := by
  rcases eq_or_ne j i with rfl | away
  · rw [moves.self]
    exact conserves.passes err carries
  · rw [moves.other j away]
    exact .inl carries

theorem carries_after (moves : Moves i q s t) (conserves : Conserves i q s e t) {j : I}
    {err : Err} (carries : (t.thread j).carries = some err) :
    (s.thread j).carries = some err ∨
      j = i ∧ s.errors = some err ∧ ∀ k, (s.thread k).carries ≠ some err := by
  rcases eq_or_ne j i with rfl | away
  · rw [moves.self] at carries
    exact (conserves.takes err carries).imp_right fun new => ⟨rfl, new⟩
  · rw [moves.other j away] at carries
    exact .inl carries

theorem reports_away (once : ErrorsOnce hist s) (moves : Moves i q s t)
    (conserves : Conserves i q s e t) {j : I} {err : Err}
    (carries : (t.thread j).carries = some err) : e.reported ≠ some err := by
  intro now
  obtain ⟨mine, _, gone⟩ := conserves.reports err now
  rcases carries_after moves conserves carries with before | ⟨_, _, nobody⟩
  · cases once.one j i err before mine
    rw [moves.self, gone] at carries
    cases carries
  · exact nobody i mine

theorem once_conserved (ledger : Ledger hist s) (moves : Moves i q s t)
    (conserves : Conserves i q s e t) : ErrorsOnce (hist ++ [e]) t := by
  obtain ⟨storeless, kept_old⟩ := conserves.silent
  refine ⟨?_, ?_, ?_, ?_, ?_⟩
  · refine reported_snoc_nodup ledger.once.once fun err now => ?_
    exact ledger.once.notAgain i err (conserves.reports err now).1
  · intro j err carries
    rw [mem_reported_snoc, not_or]
    refine ⟨?_, reports_away ledger.once moves conserves carries⟩
    rcases carries_after moves conserves carries with before | ⟨_, cell, _⟩
    · exact ledger.once.notAgain j err before
    · exact (ledger.cell err cell).2.1
  · intro j k err carries carries'
    rcases carries_after moves conserves carries with before | ⟨rfl, _, nobody⟩
    · rcases carries_after moves conserves carries' with before' | ⟨_, _, nobody⟩
      · exact ledger.once.one j k err before before'
      · exact absurd before (nobody j)
    · rcases carries_after moves conserves carries' with before' | ⟨rfl, _⟩
      · exact absurd before' (nobody k)
      · rfl
  · intro err member
    rw [stored_snoc storeless] at member
    rw [overwritten_snoc kept_old, mem_reported_snoc]
    rcases ledger.once.kept err member with cell | ⟨j, carries⟩ | done | lost
    · rcases conserves.cell with ⟨same, _⟩ | ⟨_, taken⟩
      · exact .inl (same.trans cell)
      · exact .inr (.inl ⟨i, by rw [moves.self]; exact taken err cell⟩)
    · rcases carries_before moves conserves carries with still | now
      · exact .inr (.inl ⟨j, still⟩)
      · exact .inr (.inr (.inl (.inr now)))
    · exact .inr (.inr (.inl (.inl done)))
    · exact .inr (.inr (.inr lost))
  · intro j loaded held member
    rcases List.mem_append.mp member with before | now
    · exact ledger.once.cleared j loaded held before
    · exact conserves.cleared j loaded held (List.mem_singleton.mp now).symm

theorem ledger_conserved (ledger : Ledger hist s) (moves : Moves i q s t)
    (conserves : Conserves i q s e t) : Ledger (hist ++ [e]) t := by
  have silent : stored (hist ++ [e]) = stored hist := stored_snoc conserves.silent.1
  refine ⟨once_conserved ledger moves conserves, ?_, ?_, ?_, ?_, ?_⟩
  · rw [silent, moves.nextErr]
    exact ledger.fresh
  · intro err here
    rcases conserves.cell with ⟨same, loads⟩ | ⟨none, _⟩
    · have cell := same.symm.trans here
      obtain ⟨member, unreported, inside⟩ := ledger.cell err cell
      refine ⟨by rwa [silent], ?_, ?_⟩
      · rw [mem_reported_snoc, not_or]
        refine ⟨unreported, fun now => ?_⟩
        obtain ⟨mine, unloaded, _⟩ := conserves.reports err now
        cases (inside i mine).symm.trans unloaded
      · intro j carries
        rcases eq_or_ne j i with rfl | away
        · rw [moves.self] at carries ⊢
          exact loads err cell carries
        · rw [moves.other j away] at carries ⊢
          exact inside j carries
    · cases none.symm.trans here
  · intro j err carries
    rw [silent]
    rcases carries_after moves conserves carries with before | ⟨_, cell, _⟩
    · exact ledger.carried j err before
    · exact (ledger.cell err cell).1
  · intro err member
    rw [silent]
    rcases mem_reported_snoc.mp member with before | now
    · exact ledger.reported err before
    · exact ledger.carried i err (conserves.reports err now).1
  · intro j loaded inside
    rcases eq_or_ne j i with rfl | away
    · rw [moves.self] at inside
      exact .inr (moves.locked loaded inside)
    · rw [moves.other j away] at inside
      rcases conserves.cell with ⟨same, _⟩ | ⟨none, _⟩
      · rw [same]
        exact ledger.locked j loaded inside
      · exact .inl none

theorem call_conserves {p : Phase F} (ledger : Ledger hist s) (here : s.thread i = p)
    (handles : Handles i p q s.errors e t.errors) (undisturbed : Undisturbed s e)
    (own : ∀ loaded held, e = .clears i loaded held →
      s.errors = none ∨ s.errors = p.loaded) : Conserves i q s e t := by
  subst here
  generalize before : s.errors = cell at handles
  generalize after : t.errors = cell' at handles
  cases handles with
  | silent loaded carries silent unclear =>
    refine ⟨⟨silent.1, silent.2.1⟩, ?_, ?_, ?_, .inl ⟨after.trans before.symm, ?_⟩, ?_⟩
    · intro err has
      exact .inl (carries.symm.trans has)
    · intro err has
      exact .inl (carries.trans has)
    · intro err now
      cases silent.2.2.symm.trans now
    · intro err here has
      exact loaded.trans ((ledger.cell err here).2.2 i (carries.symm.trans has))
    · intro j loaded held same
      exact absurd same (unclear j loaded held)
  | loads without loaded carries =>
    refine ⟨⟨rfl, rfl⟩, ?_, ?_, nofun, .inl ⟨after.trans before.symm, ?_⟩, nofun⟩
    · intro err has
      have cell := before.trans (carries.symm.trans has)
      refine .inr ⟨cell, fun j theirs => ?_⟩
      rcases eq_or_ne j i with rfl | away
      · cases without.symm.trans theirs
      · exact undisturbed j err away cell ((ledger.cell err cell).2.2 j theirs)
    · intro err has
      cases without.symm.trans has
    · intro err here _
      exact loaded.trans (before.symm.trans here)
  | clears loaded unloaded carries =>
    have mine := own _ _ rfl
    refine ⟨⟨rfl, rfl⟩, ?_, ?_, nofun, .inr ⟨after, ?_⟩, ?_⟩
    · intro err has
      exact .inl (loaded.trans (carries.symm.trans has))
    · intro err has
      exact .inl (carries.trans (loaded.symm.trans has))
    · intro err here
      rcases mine with none | same
      · cases none.symm.trans here
      · exact carries.trans (same.symm.trans here)
    · rintro j loaded' held ⟨⟩
      rwa [before] at mine
  | returns unloaded carries without none =>
    refine ⟨⟨rfl, rfl⟩, ?_, ?_, ?_, .inl ⟨after.trans before.symm, ?_⟩, nofun⟩
    · intro err has
      cases none.symm.trans has
    · intro err has
      exact .inr (carries.symm.trans has)
    · intro err now
      exact ⟨carries.trans now, unloaded, none⟩
    · intro err _ has
      cases none.symm.trans has

theorem ledger_same (ledger : Ledger hist s)
    (silent : e.stored = none ∧ e.overwritten = none ∧ e.reported = none)
    (unclear : ∀ i loaded held, e ≠ .clears i loaded held) (errors : t.errors = s.errors)
    (thread : t.thread = s.thread) (nextErr : t.nextErr = s.nextErr) :
    Ledger (hist ++ [e]) t := by
  have stores : stored (hist ++ [e]) = stored hist := stored_snoc silent.1
  have loses : overwritten (hist ++ [e]) = overwritten hist := overwritten_snoc silent.2.1
  have reports : reported (hist ++ [e]) = reported hist := by
    simp [reported, List.filterMap_append, silent.2.2]
  obtain ⟨once, fresh, cell, carried, known, locked⟩ := ledger
  refine ⟨⟨?_, ?_, ?_, ?_, ?_⟩, ?_, ?_, ?_, ?_, ?_⟩
  · rw [reports]
    exact once.once
  · rw [reports, thread]
    exact once.notAgain
  · rw [thread]
    exact once.one
  · rw [stores, loses, reports, errors, thread]
    exact once.kept
  · intro i loaded held member
    rcases List.mem_append.mp member with before | now
    · exact once.cleared i loaded held before
    · exact absurd (List.mem_singleton.mp now).symm (unclear i loaded held)
  · rwa [stores, nextErr]
  · rwa [errors, stores, reports, thread]
  · rwa [thread, stores]
  · rwa [reports, stores]
  · rwa [thread, errors]

theorem ledger_stores {status : Errno} (ledger : Ledger hist s)
    (free : ∀ i, (s.thread i).errLocked = none) (errors : t.errors = some ⟨s.nextErr, status⟩)
    (thread : t.thread = s.thread) (nextErr : t.nextErr = s.nextErr + 1) :
    Ledger (hist ++ [.stores ⟨s.nextErr, status⟩ s.errors]) t := by
  have stores : stored (hist ++ [.stores ⟨s.nextErr, status⟩ s.errors]) =
      stored hist ++ [⟨s.nextErr, status⟩] := by
    simp [stored, List.filterMap_append, Event.stored]
  have reports : reported (hist ++ [.stores ⟨s.nextErr, status⟩ s.errors]) = reported hist := by
    simp [reported, List.filterMap_append, Event.reported]
  have new : (⟨s.nextErr, status⟩ : Err) ∉ stored hist := fun member =>
    Nat.lt_irrefl _ (ledger.fresh _ member)
  obtain ⟨once, fresh, cell, carried, known, _⟩ := ledger
  refine ⟨⟨?_, ?_, ?_, ?_, ?_⟩, ?_, ?_, ?_, ?_, ?_⟩
  · rw [reports]
    exact once.once
  · rw [reports, thread]
    exact once.notAgain
  · rw [thread]
    exact once.one
  · intro err member
    rw [stores] at member
    rw [reports, thread]
    rcases List.mem_append.mp member with old | now
    · rcases once.kept err old with here | carries | done | lost
      · exact .inr (.inr (.inr (by
          simp [overwritten, List.filterMap_append, Event.overwritten, here])))
      · exact .inr (.inl carries)
      · exact .inr (.inr (.inl done))
      · exact .inr (.inr (.inr (by
          simp only [overwritten, List.filterMap_append] at lost ⊢
          exact List.mem_append_left _ lost)))
    · rw [List.mem_singleton.mp now]
      exact .inl errors
  · intro i loaded held member
    rcases List.mem_append.mp member with before | now
    · exact once.cleared i loaded held before
    · cases List.mem_singleton.mp now
  · intro err member
    rw [stores] at member
    rw [nextErr]
    rcases List.mem_append.mp member with old | now
    · exact Nat.lt_succ_of_lt (fresh err old)
    · rw [List.mem_singleton.mp now]
      exact Nat.lt_succ_self _
  · intro err here
    cases errors.symm.trans here
    refine ⟨?_, ?_, ?_⟩
    · rw [stores]
      exact List.mem_append_right _ (List.mem_singleton_self _)
    · rw [reports]
      exact fun done => new (known _ done)
    · rw [thread]
      exact fun i carries => absurd (carried i _ carries) new
  · intro i err carries
    rw [thread] at carries
    rw [stores]
    exact List.mem_append_left _ (carried i err carries)
  · intro err done
    rw [reports] at done
    rw [stores]
    exact List.mem_append_left _ (known err done)
  · intro i loaded inside
    rw [thread, free i] at inside
    cases inside

theorem device_ledger (locks : Locks s) (ledger : Ledger hist s) (step : DeviceStep s e t) :
    Ledger (hist ++ [e]) t := by
  have free (unlocked : s.errLock = none) (i : I) : (s.thread i).errLocked = none := by
    by_contra inside
    cases unlocked.symm.trans ((locks.err i).mp inside)
  cases step with
  | readFails status _ unlocked _ | writeFails status _ unlocked =>
    exact ledger_stores ledger (free unlocked) rfl rfl rfl
  | readCompletes _ _ _ | writeCompletes _ | frees _ | up _ =>
    exact ledger_same ledger ⟨rfl, rfl, rfl⟩ nofun rfl rfl rfl

theorem core_ledger (ledger : Ledger hist s) (step : CoreStep s e t) :
    Ledger (hist ++ [e]) t := by
  cases step <;> exact ledger_same ledger ⟨rfl, rfl, rfl⟩ nofun rfl rfl rfl

section Steps

variable [DecidableEq I] [DecidableEq F]

omit [DecidableEq F] in
theorem call_ledger {p : Phase F} (ledger : Ledger hist s) (here : s.thread i = p)
    (handles : Handles i p q s.errors e m.errors) (undisturbed : Undisturbed s e)
    (own : ∀ loaded held, e = .clears i loaded held → s.errors = none ∨ s.errors = p.loaded)
    (locked : ∀ loaded, q.errLocked = some loaded → m.errors = loaded)
    (nextErr : m.nextErr = s.nextErr) :
    Ledger (hist ++ [e]) { m with thread := update s.thread i q } := by
  have conserves : Conserves i q s e { m with thread := update s.thread i q } :=
    call_conserves ledger here handles undisturbed own
  have moves : Moves i q s { m with thread := update s.thread i q } :=
    ⟨update_self _ _ _, fun _ away => update_of_ne away _ _, nextErr, locked⟩
  exact ledger_conserved ledger moves conserves

/-- Under the condition a step loses no error and reports none twice. -/
theorem step_ledger (locks : Locks s) (ledger : Ledger hist s) (move : Step s e t)
    (undisturbed : Undisturbed s e) : Ledger (hist ++ [e]) t := by
  cases step_kind move with
  | empty => exact ledger_same ledger ⟨rfl, rfl, rfl⟩ nofun rfl rfl rfl
  | device step => exact device_ledger locks ledger step
  | core step => exact core_ledger ledger step
  | aside step =>
    refine call_ledger ledger rfl (aside_handles step) undisturbed ?_ ?_ (by rw [step.frame])
    · rintro loaded held rfl
      cases step.event
    · intro loaded inside
      cases (apart_locks step.after).2.symm.trans inside
  | reading here step =>
    obtain ⟨frame, after⟩ := read_frame step
    refine call_ledger ledger here (read_handles step) undisturbed ?_ ?_ (by rw [frame])
    · rintro loaded held rfl
      cases step
      exact undisturbed _ _ here
    · rcases after with rfl | ⟨_, rfl⟩ <;> nofun
  | writing here step =>
    refine call_ledger ledger here (write_handles step) undisturbed ?_ ?_
      (by rw [(write_frame step).1])
    · rintro loaded held rfl
      cases step
      exact ledger.locked _ _ (by rw [here]; rfl)
    · cases step with
      | error _ some =>
        rintro _ ⟨⟩
        exact some
      | _ => nofun
  | flushing here step =>
    refine call_ledger ledger here (flush_handles step) undisturbed ?_ ?_
      (by rw [(flush_frame step).1])
    · rintro loaded held rfl
      cases step
      exact ledger.locked _ _ (by rw [here]; rfl)
    · cases step with
      | loads _ =>
        rintro _ ⟨⟩
        rfl
      | _ => nofun

theorem step_loads (move : Step s (.loads i) t) :
    (t.thread i).carries = s.errors ∧ ∀ j, j ≠ i → t.thread j = s.thread j := by
  have moved {q : Phase F} {m : State I F} (carries : q.carries = s.errors) :
      (update s.thread i q i).carries = s.errors ∧
        ∀ j, j ≠ i → update s.thread i q j = s.thread j :=
    ⟨by rw [update_self, carries], fun j away => update_of_ne away _ _⟩
  cases step_kind move with
  | aside step => cases step.event
  | device step | core step => cases step
  | reading _ step =>
    cases step with
    | noError none => exact moved (m := s) none.symm
    | error some => exact moved (m := s) some.symm
  | writing _ step =>
    cases step with
    | noError _ none => exact moved (m := s) none.symm
    | error _ some => exact moved (m := s) some.symm
  | flushing _ step =>
    cases step
    exact moved (m := s) rfl

theorem step_clears {loaded held : Option Err} (move : Step s (.clears i loaded held) t) :
    (s.thread i).loaded = loaded ∧ held = s.errors := by
  cases step_kind move with
  | aside step => cases step.event
  | device step | core step => cases step
  | reading here step | writing here step | flushing here step =>
    cases step
    exact ⟨by rw [here]; rfl, rfl⟩

theorem undisturbed_of_once (move : Step s e t) (once : ErrorsOnce (hist ++ [e]) t) :
    Undisturbed s e := by
  cases e with
  | loads i =>
    obtain ⟨carries, same⟩ := step_loads move
    intro j err away here loaded
    refine away (once.one j i err ?_ (carries.trans here))
    rw [same j away]
    exact loaded_carries loaded
  | clears i loaded held =>
    obtain ⟨mine, rfl⟩ := step_clears move
    intro r err here
    rw [here] at mine
    rcases once.cleared i loaded s.errors (List.mem_append_right _ (List.mem_singleton_self _)) with
      none | same
    · exact .inl none
    · exact .inr (same.trans mine.symm)
  | _ => trivial

theorem report_code (err : Err) :
    err.report.val = -EPIPE ∨ err.report.val = - Kernel.EIO := by
  unfold Err.report
  split
  · rename_i pipe
    exact .inl pipe
  · exact .inr rfl

structure Errors (hist : List (Event I)) (s : State I F) : Prop where
  locks : Locks s
  ledger : Ledger hist s

omit [DecidableEq I] [DecidableEq F] in
theorem plugged_errors : Errors [] (plugged : State I F) :=
  ⟨plugged_locks, ⟨⟨.nil, nofun, nofun, nofun, nofun⟩, nofun, nofun, nofun, nofun, nofun⟩⟩

theorem run_errors (run : Run (Guarded Step Undisturbed) plugged hist s) : Errors hist s := by
  refine run_history Errors plugged_errors ?_ run
  rintro hist s e t _ ⟨locks, ledger⟩ ⟨step, undisturbed⟩
  exact ⟨step_locks locks step, step_ledger locks ledger step undisturbed⟩

/-- In every run in which no call loads an error that another has loaded and not yet
cleared, and no read clears another error than it has loaded, each error is reported
once, as -EPIPE or -EIO, and none is lost; and the next step keeps that exactly when it
meets the condition. -/
theorem errors_once (run : Run (Guarded Step Undisturbed) plugged hist s) :
    ErrorsOnce hist s ∧
    (∀ err ∈ reported hist, err.report.val = -EPIPE ∨ err.report.val = - Kernel.EIO) ∧
    ∀ e t, Step s e t → (ErrorsOnce (hist ++ [e]) t ↔ Undisturbed s e) := by
  obtain ⟨locks, ledger⟩ := run_errors run
  refine ⟨ledger.once, fun err _ => report_code err, fun e t step => ⟨?_, ?_⟩⟩
  · exact undisturbed_of_once step
  · intro undisturbed
    exact (step_ledger locks ledger step undisturbed).once

end Steps

def both (p q : Phase Unit) (s : State Bool Unit) : State Bool Unit :=
  { s with thread := fun i => if i then q else p }

theorem both_false (p p' q : Phase Unit) :
    update (fun i : Bool => if i then q else p) false p' = fun i => if i then q else p' := by
  funext i
  cases i <;> rfl

theorem both_true (p q q' : Phase Unit) :
    update (fun i : Bool => if i then q else p) true q' = fun i => if i then q' else p := by
  funext i
  cases i <;> rfl

theorem both_outside {s : State Bool Unit} (outside : s.thread = fun _ => .outside) :
    both .outside .outside s = s := by
  have same : (fun i : Bool => if i then (Phase.outside : Phase Unit) else .outside) =
      s.thread := by
    rw [outside]
    funext i
    exact ite_self _
  rw [both, same]

def oneRead : ReadCall Unit := ⟨(), 1, false, by decide⟩

theorem reader_step {s m : State Bool Unit} {e : Event Bool} {p : ReadPhase} {p' q : Phase Unit}
    (step : ReadStep (both (.reading oneRead p) q s) false oneRead p e p'
      (both (.reading oneRead p) q m)) :
    Step (both (.reading oneRead p) q s) e (both p' q m) := by
  have moved := Step.reading (s := both (.reading oneRead p) q s) rfl step
  simpa only [both, both_false] using moved

theorem writer_step {s m : State Bool Unit} {e : Event Bool} {p : WritePhase} {p' q : Phase Unit}
    (step : WriteStep (both q (.writing oneByte p) s) true oneByte p e p'
      (both q (.writing oneByte p) m)) :
    Step (both q (.writing oneByte p) s) e (both q p' m) := by
  have moved := Step.writing (s := both q (.writing oneByte p) s) rfl step
  simpa only [both, both_true] using moved

theorem reader_enters {s : State Bool Unit} {q : Phase Unit} (opened : s.file () = .opened) :
    Step (both .outside q s) .internal (both (.reading oneRead .mutexLock) q s) := by
  have enters := Enters.reads (s := both .outside q s) (i := false) (r := oneRead) opened
  have moved := Step.enters (s := both .outside q s) rfl enters
  simpa only [both, both_false] using moved

theorem writer_enters {s : State Bool Unit} {p : Phase Unit} (opened : s.file () = .opened) :
    Step (both p .outside s) .internal (both p (.writing oneByte .down) s) := by
  have enters := Enters.writes (s := both p .outside s) (i := true) (w := oneByte) opened
  have moved := Step.enters (s := both p .outside s) rfl enters
  simpa only [both, both_true] using moved

def pipe : Errno := ⟨-EPIPE, by decide⟩

def firstErr : Err := ⟨0, pipe⟩

def locked (s : State Bool Unit) : State Bool Unit := { s with ioMutex := some (.call false) }

def asked (s : State Bool Unit) : State Bool Unit :=
  { locked s with
    ongoingRead := true
    bulkInFilled := 0
    bulkInCopied := 0
    readUrb := some (min s.bulkInSize 1) }

def broken (s : State Bool Unit) : State Bool Unit :=
  { locked s with
    ongoingRead := false
    bulkInFilled := 0
    bulkInCopied := 0
    errors := some ⟨s.nextErr, pipe⟩
    nextErr := s.nextErr + 1
    readUrb := none }

theorem alone_undisturbed {s : State Bool Unit} {p : Phase Unit} :
    Undisturbed (both p .outside s) (.loads false) := by
  intro j e other _ loaded
  cases j with
  | false => exact other rfl
  | true => cases loaded

theorem loaded_run {hist : List (Event Bool)} {s : State Bool Unit}
    (run : Run (Guarded Step Undisturbed) plugged hist (both .outside .outside s))
    (opened : s.file () = .opened) (mutex : s.ioMutex = none) (lock : s.errLock = none)
    (connected : s.disconnected = false) (quiet : s.ongoingRead = false)
    (clear : s.errors = none) (empty : s.bulkInFilled = 0) :
    Run (Guarded Step Undisturbed) plugged
      (hist ++ [.internal, .internal, .internal, .internal, .loads false, .startsRead, .internal,
        .stores ⟨s.nextErr, pipe⟩ s.errors, .internal, .loads false])
      (both (.reading oneRead (.clear ⟨s.nextErr, pipe⟩)) .outside (broken s)) := by
  have locks : Step (both (.reading oneRead .mutexLock) .outside s) .internal
      (both (.reading oneRead .disconnected) .outside (locked s)) := reader_step (.locks mutex)
  have present : Step (both (.reading oneRead .disconnected) .outside (locked s)) .internal
      (both (.reading oneRead .ongoingRead) .outside (locked s)) :=
    reader_step (.present connected)
  have idle : Step (both (.reading oneRead .ongoingRead) .outside (locked s)) .internal
      (both (.reading oneRead .errors) .outside (locked s)) := reader_step (.quiet lock quiet)
  have nothing : Step (both (.reading oneRead .errors) .outside (locked s)) (.loads false)
      (both (.reading oneRead .data) .outside (locked s)) := reader_step (.noError clear)
  have asks : Step (both (.reading oneRead .data) .outside (locked s)) .startsRead
      (both (.reading oneRead .ongoingRead) .outside (asked s)) :=
    reader_step (.startsIo lock (.inl empty) (rfl : skelDoReadIo none _ _ = _))
  have waits : Step (both (.reading oneRead .ongoingRead) .outside (asked s)) .internal
      (both (.reading oneRead .waitEvent) .outside (asked s)) :=
    reader_step (.waits lock rfl rfl)
  have fails : Step (both (.reading oneRead .waitEvent) .outside (asked s))
      (.stores ⟨s.nextErr, pipe⟩ s.errors)
      (both (.reading oneRead .waitEvent) .outside (broken s)) :=
    .device (.readFails pipe rfl lock rfl)
  have woken : Step (both (.reading oneRead .waitEvent) .outside (broken s)) .internal
      (both (.reading oneRead .errors) .outside (broken s)) := reader_step (.woken rfl)
  have loads : Step (both (.reading oneRead .errors) .outside (broken s)) (.loads false)
      (both (.reading oneRead (.clear ⟨s.nextErr, pipe⟩)) .outside (broken s)) :=
    reader_step (.error rfl)
  have before := Run.snoc (.snoc (.snoc (.snoc (.snoc run ⟨reader_enters opened, trivial⟩)
    ⟨locks, trivial⟩) ⟨present, trivial⟩) ⟨idle, trivial⟩) ⟨nothing, alone_undisturbed⟩
  have done := Run.snoc (.snoc (.snoc (.snoc (.snoc before ⟨asks, trivial⟩) ⟨waits, trivial⟩)
    ⟨fails, trivial⟩) ⟨woken, trivial⟩) ⟨loads, alone_undisturbed⟩
  simpa only [List.append_assoc, List.cons_append, List.nil_append] using done

theorem opened_run : Run (Guarded Step Undisturbed) plugged
    (List.replicate 10 .internal ++ [.returns false (.done 0)])
    (both .outside .outside (inUse [0])) := by
  rw [both_outside rfl]
  refine run_guarded (inUse_run false [0]) fun e member s => ?_
  rcases List.mem_append.mp member with before | last
  · cases List.eq_of_mem_replicate before
    trivial
  · cases List.mem_singleton.mp last
    trivial

/-- The read reports the error of its own URB. -/
theorem errors_once_reported : ∃ (hist : List (Event Bool)) (s : State Bool Unit),
    Run (Guarded Step Undisturbed) plugged hist s ∧ reported hist = [firstErr] ∧
    ErrorsOnce hist s ∧
    (∀ err ∈ reported hist, err.report.val = -EPIPE ∨ err.report.val = - Kernel.EIO) ∧
    ∀ e t, Step s e t → (ErrorsOnce (hist ++ [e]) t ↔ Undisturbed s e) := by
  have clears : Step (both (.reading oneRead (.clear firstErr)) .outside (broken (inUse [0])))
      (.clears false (some firstErr) (some firstErr))
      (both (.reading oneRead (.unlock (.failed (.stored firstErr)))) .outside
        { broken (inUse [0]) with errors := none }) := reader_step .clears
  have own : Undisturbed (both (.reading oneRead (.clear firstErr)) .outside (broken (inUse [0])))
      (.clears false (some firstErr) (some firstErr)) := by
    intro r e phase
    cases phase
    exact .inr rfl
  have returns : Step (both (.reading oneRead (.unlock (.failed (.stored firstErr)))) .outside
        { broken (inUse [0]) with errors := none }) (.returns false (.failed (.stored firstErr)))
      (both .outside .outside { broken (inUse [0]) with errors := none, ioMutex := none }) :=
    reader_step .unlocks
  have loaded := loaded_run opened_run rfl rfl rfl rfl rfl rfl rfl
  have run := Run.snoc (.snoc loaded ⟨clears, own⟩) ⟨returns, trivial⟩
  exact ⟨_, _, run, rfl, errors_once run⟩

def slotTaken (s : State Bool Unit) : State Bool Unit := { s with limitSem := 7 }

def submitting (s : State Bool Unit) : State Bool Unit :=
  { slotTaken s with nextBuf := 1, ioMutex := some (.call true) }

def submitted (s : State Bool Unit) : State Bool Unit :=
  { submitting s with transfer := update s.transfer 0 (.inFlight [1]) }

def written (s : State Bool Unit) : State Bool Unit := { submitted s with ioMutex := none }

theorem written_run {hist : List (Event Bool)}
    (run : Run (Guarded Step Undisturbed) plugged hist (both .outside .outside (inUse [0]))) :
    Run (Guarded Step Undisturbed) plugged
      (hist ++ [.internal, .internal, .loads true, .internal, .internal, .internal, .internal,
        .internal, .startsWrite 0, .returns true (.done 1)])
      (both .outside .outside (written (inUse [0]))) := by
  have down : Step (both .outside (.writing oneByte .down) (inUse [0])) .internal
      (both .outside (.writing oneByte .errors) (slotTaken (inUse [0]))) :=
    writer_step (.down rfl)
  have nothing : Step (both .outside (.writing oneByte .errors) (slotTaken (inUse [0])))
      (.loads true) (both .outside (.writing oneByte .allocUrb) (slotTaken (inUse [0]))) :=
    writer_step (.noError rfl rfl)
  have urb : Step (both .outside (.writing oneByte .allocUrb) (slotTaken (inUse [0]))) .internal
      (both .outside (.writing oneByte .allocCoherent) (slotTaken (inUse [0]))) :=
    writer_step .urb
  have buffer : Step (both .outside (.writing oneByte .allocCoherent) (slotTaken (inUse [0])))
      .internal (both .outside (.writing oneByte (.copyFromUser 0))
        { slotTaken (inUse [0]) with nextBuf := 1 }) := writer_step .buffer
  have copied : Step (both .outside (.writing oneByte (.copyFromUser 0))
        { slotTaken (inUse [0]) with nextBuf := 1 }) .internal
      (both .outside (.writing oneByte (.mutexLock 0))
        { slotTaken (inUse [0]) with nextBuf := 1 }) := writer_step .copied
  have locks : Step (both .outside (.writing oneByte (.mutexLock 0))
        { slotTaken (inUse [0]) with nextBuf := 1 }) .internal
      (both .outside (.writing oneByte (.disconnected 0)) (submitting (inUse [0]))) :=
    writer_step (.locks rfl)
  have present : Step (both .outside (.writing oneByte (.disconnected 0))
        (submitting (inUse [0]))) .internal
      (both .outside (.writing oneByte (.submit 0)) (submitting (inUse [0]))) :=
    writer_step (.present rfl)
  have submits : Step (both .outside (.writing oneByte (.submit 0)) (submitting (inUse [0])))
      (.startsWrite 0) (both .outside (.writing oneByte .unlock) (submitted (inUse [0]))) :=
    writer_step .submits
  have returns : Step (both .outside (.writing oneByte .unlock) (submitted (inUse [0])))
      (.returns true (.done 1)) (both .outside .outside (written (inUse [0]))) :=
    writer_step .unlocks
  have begun := Run.snoc (.snoc (.snoc (.snoc run ⟨writer_enters rfl, trivial⟩) ⟨down, trivial⟩)
    ⟨nothing, nofun⟩) ⟨urb, trivial⟩
  have ready := Run.snoc (.snoc (.snoc (.snoc begun ⟨buffer, trivial⟩) ⟨copied, trivial⟩)
    ⟨locks, trivial⟩) ⟨present, trivial⟩
  have done := Run.snoc (.snoc ready ⟨submits, trivial⟩) ⟨returns, trivial⟩
  simpa only [List.append_assoc, List.cons_append, List.nil_append] using done

def secondErr : Err := ⟨1, pipe⟩

def twice : State Bool Unit := { slotTaken (broken (inUse [0])) with errors := none }

def replaced : State Bool Unit :=
  { broken (written (inUse [0])) with
    errors := some secondErr
    nextErr := 2
    transfer := update (written (inUse [0])).transfer 0 .completed }

/-- The writer reports the error the reader has loaded and is going to report; and the
error of a write that comes between the load and the clear of the reader is lost. -/
theorem errors_disturbed :
    (∃ (hist : List (Event Bool)) (s : State Bool Unit), Run Step plugged hist s ∧
      reported hist = [firstErr, firstErr]) ∧
    ∃ (hist : List (Event Bool)) (s : State Bool Unit), Run Step plugged hist s ∧
      stored hist = [firstErr, secondErr] ∧ s.errors = none ∧
      (∀ i, (s.thread i).carries ≠ some secondErr) ∧ reported hist = [] ∧
      overwritten hist = [firstErr] := by
  constructor
  · have loaded := run_unguarded <| loaded_run opened_run rfl rfl rfl rfl rfl rfl rfl
    have down : Step (both (.reading oneRead (.clear firstErr)) (.writing oneByte .down)
          (broken (inUse [0]))) .internal
        (both (.reading oneRead (.clear firstErr)) (.writing oneByte .errors)
          (slotTaken (broken (inUse [0])))) := writer_step (.down rfl)
    have loads : Step (both (.reading oneRead (.clear firstErr)) (.writing oneByte .errors)
          (slotTaken (broken (inUse [0])))) (.loads true)
        (both (.reading oneRead (.clear firstErr)) (.writing oneByte (.clear firstErr))
          { slotTaken (broken (inUse [0])) with errLock := some true }) :=
      writer_step (.error rfl rfl)
    have clears : Step (both (.reading oneRead (.clear firstErr))
          (.writing oneByte (.clear firstErr))
          { slotTaken (broken (inUse [0])) with errLock := some true })
        (.clears true (some firstErr) (some firstErr))
        (both (.reading oneRead (.clear firstErr)) (.writing oneByte (.up (.stored firstErr)))
          twice) := writer_step .clears
    have again : Step (both (.reading oneRead (.clear firstErr))
          (.writing oneByte (.up (.stored firstErr))) twice)
        (.clears false (some firstErr) none)
        (both (.reading oneRead (.unlock (.failed (.stored firstErr))))
          (.writing oneByte (.up (.stored firstErr))) twice) := reader_step .clears
    have first : Step (both (.reading oneRead (.unlock (.failed (.stored firstErr))))
          (.writing oneByte (.up (.stored firstErr))) twice)
        (.returns false (.failed (.stored firstErr)))
        (both .outside (.writing oneByte (.up (.stored firstErr)))
          { twice with ioMutex := none }) := reader_step .unlocks
    have second : Step (both .outside (.writing oneByte (.up (.stored firstErr)))
          { twice with ioMutex := none }) (.returns true (.failed (.stored firstErr)))
        (both .outside .outside { twice with ioMutex := none, limitSem := 8 }) :=
      writer_step .up
    have both_loaded := Run.snoc (.snoc (.snoc loaded (writer_enters rfl)) down) loads
    exact ⟨_, _, .snoc (.snoc (.snoc (.snoc both_loaded clears) again) first) second, rfl⟩
  · have loaded := run_unguarded <| loaded_run (written_run opened_run) rfl rfl rfl rfl rfl rfl rfl
    have fails : Step (both (.reading oneRead (.clear firstErr)) .outside
          (broken (written (inUse [0])))) (.stores secondErr (some firstErr))
        (both (.reading oneRead (.clear firstErr)) .outside replaced) :=
      .device (.writeFails (b := 0) pipe rfl rfl)
    have clears : Step (both (.reading oneRead (.clear firstErr)) .outside replaced)
        (.clears false (some firstErr) (some secondErr))
        (both (.reading oneRead (.unlock (.failed (.stored firstErr)))) .outside
          { replaced with errors := none }) := reader_step .clears
    refine ⟨_, _, .snoc (.snoc loaded fails) clears, rfl, rfl, ?_, rfl, rfl⟩
    intro i
    cases i <;> nofun

end MadDriver.Skel

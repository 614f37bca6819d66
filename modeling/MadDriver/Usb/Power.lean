import MadDriver.Usb.Errors
import MadDriver.Usb.Lifetime

/-! skel_suspend, skel_resume, skel_pre_reset and skel_post_reset beside the calls and the
completions. The USB core runs none of them together with skel_probe or skel_disconnect. -/
namespace MadDriver.Skel
open Kernel Census Transition Lock Function

variable {I F : Type} {s t : State I F} {i : I} {f : F} {e : Event I} {q : Phase F}

/-- Where skel_draw_down is: both ways past the anchor wait for its completion handlers. -/
inductive DrawDown where
  | waitAnchor
  | killUrb

inductive SkelDrawDown (s : State I F) : DrawDown → Option DrawDown → Prop where
  | anchorEmpty : (∀ b, s.transfer b = .idle) → SkelDrawDown s .waitAnchor (some .killUrb)
  | killed : s.readUrb = none → SkelDrawDown s .killUrb none

/-- The device is reset between skel_pre_reset and skel_post_reset; at `postReset` the
latter has stored its error. -/
inductive Power where
  | running
  | suspending (p : DrawDown)
  | suspended
  | preReset
  | drawing (p : DrawDown)
  | reset
  | postReset

structure Machine (I F : Type) where
  device : State I F
  power : Power

def attached : Machine I F := ⟨plugged, .running⟩

/-- A reset puts -EPIPE into `errors` without err_lock. -/
inductive MachineStep [DecidableEq I] [DecidableEq F] (m : Machine I F) :
    Event I → Machine I F → Prop where
  | core {e : Event I} {t : State I F} : m.power = .running → CoreStep m.device e t →
      MachineStep m e { m with device := t }
  | other {e : Event I} {t : State I F} : Step m.device e t → t.core = m.device.core →
      MachineStep m e { m with device := t }
  | suspend : m.power = .running → m.device.core = .bound →
      MachineStep m .internal { m with power := .suspending .waitAnchor }
  | suspending {p p' : DrawDown} : m.power = .suspending p → SkelDrawDown m.device p (some p') →
      MachineStep m .internal { m with power := .suspending p' }
  | suspended {p : DrawDown} : m.power = .suspending p → SkelDrawDown m.device p none →
      MachineStep m .internal { m with power := .suspended }
  | resume : m.power = .suspended → MachineStep m .internal { m with power := .running }
  | preReset : m.power = .running → m.device.core = .bound →
      MachineStep m .internal { m with power := .preReset }
  | mutexLock : m.power = .preReset → m.device.ioMutex = none →
      MachineStep m .internal
        ⟨{ m.device with ioMutex := some .core }, .drawing .waitAnchor⟩
  | drawing {p p' : DrawDown} : m.power = .drawing p → SkelDrawDown m.device p (some p') →
      MachineStep m .internal { m with power := .drawing p' }
  | reset {p : DrawDown} : m.power = .drawing p → SkelDrawDown m.device p none →
      MachineStep m .internal { m with power := .reset }
  | postReset : m.power = .reset →
      MachineStep m (.stores ⟨m.device.nextErr, pipe⟩ m.device.errors)
        ⟨{ m.device with
            errors := some ⟨m.device.nextErr, pipe⟩
            nextErr := m.device.nextErr + 1 }, .postReset⟩
  | mutexUnlock : m.power = .postReset →
      MachineStep m .internal ⟨{ m.device with ioMutex := none }, .running⟩

def Power.holds : Power → Bool
  | .drawing _ | .reset | .postReset => true
  | _ => false

def Power.drained : Power → Bool
  | .drawing .killUrb | .reset | .postReset => true
  | _ => false

def Power.down : Power → Bool
  | .reset | .postReset => true
  | _ => false

/-- What the calls do is the same wherever skel_probe or skel_disconnect is. -/
def State.withCore (s : State I F) (core : Core) : State I F := { s with core := core }

section Core

variable (core : Core) {m : State I F}

theorem doReadIo_withCore (submit : Option Errno) (count : Nat) (s : State I F) :
    skelDoReadIo submit count (s.withCore core) =
      ((skelDoReadIo submit count s).1, (skelDoReadIo submit count s).2.withCore core) := by
  cases submit <;> rfl

theorem copyOut_withCore (fault : Bool) (submit : Option Errno) (count : Nat) (s : State I F) :
    copyOut fault submit count (s.withCore core) =
      ((copyOut fault submit count s).1, (copyOut fault submit count s).2.withCore core) := by
  by_cases ahead : s.bulkInFilled - s.bulkInCopied < count
  · cases submit <;> simp [copyOut, skelDoReadIo, State.withCore, ahead]
  · simp [copyOut, State.withCore, ahead]

theorem read_withCore {r : ReadCall F} {p : ReadPhase} (step : ReadStep s i r p e q m) :
    ReadStep (s.withCore core) i r p e q (m.withCore core) := by
  cases step with
  | startsIo free empty done =>
    exact .startsIo free empty ((doReadIo_withCore core _ _ s).trans (by rw [done]))
  | ioFails free empty done =>
    exact .ioFails free empty ((doReadIo_withCore core _ _ s).trans (by rw [done]))
  | copies full left free done =>
    exact .copies full left free ((copyOut_withCore core _ _ _ s).trans (by rw [done]))
  | _ => constructor <;> assumption

theorem write_withCore {w : WriteCall F} {p : WritePhase} (step : WriteStep s i w p e q m) :
    WriteStep (s.withCore core) i w p e q (m.withCore core) := by
  cases step <;> constructor <;> assumption

theorem flush_withCore {p : FlushPhase} (step : FlushStep s i f p e q m) :
    FlushStep (s.withCore core) i f p e q (m.withCore core) := by
  cases step <;> constructor <;> assumption

theorem device_withCore (step : DeviceStep s e t) :
    DeviceStep (s.withCore core) e (t.withCore core) := by
  cases step with
  | writeCompletes flying => exact .writeCompletes flying
  | _ => constructor <;> assumption

variable [DecidableEq I] [DecidableEq F]

omit [DecidableEq I] in
theorem open_withCore {p : OpenPhase} (step : OpenStep s i f p e q m) :
    OpenStep (s.withCore core) i f p e q (m.withCore core) := by
  cases step <;> constructor <;> assumption

omit [DecidableEq I] in
theorem close_withCore {p : ReleasePhase} (step : ReleaseStep s i f p e q m) :
    ReleaseStep (s.withCore core) i f p e q (m.withCore core) := by
  cases step <;> constructor

omit [DecidableEq I] in
theorem enters_withCore (step : Enters s i q m) :
    Enters (s.withCore core) i q (m.withCore core) := by
  cases step <;> constructor <;> assumption

theorem step_withCore (move : Step s e t) (same : t.core = s.core) :
    Step (s.withCore core) e (t.withCore core) := by
  cases move with
  | enters here step => exact Step.enters (s := s.withCore core) here (enters_withCore core step)
  | empty here opened => exact Step.empty (s := s.withCore core) here opened
  | opening here step => exact Step.opening (s := s.withCore core) here (open_withCore core step)
  | closing here step => exact Step.closing (s := s.withCore core) here (close_withCore core step)
  | reading here step => exact Step.reading (s := s.withCore core) here (read_withCore core step)
  | writing here step => exact Step.writing (s := s.withCore core) here (write_withCore core step)
  | flushing here step => exact Step.flushing (s := s.withCore core) here (flush_withCore core step)
  | device step => exact .device (device_withCore core step)
  | core step => cases step <;> simp_all [krefPut]

end Core

/-- Where the holder of io_mutex that is no call would be if it were skel_disconnect. -/
def Power.view (p : Power) (s : State I F) : State I F :=
  s.withCore (if p.holds then .setDisconnected else s.core)

structure Powered (m : Machine I F) : Prop where
  young : Young m.device
  flags : Flags m.device
  files : Files m.device
  submissions : Submissions m.device
  locks : Locks (m.power.view m.device)
  bound : m.power ≠ .running → m.device.core = .bound
  drained : m.power.drained = true → ∀ b, m.device.transfer b = .idle
  killed : m.power.down = true → m.device.readUrb = none

variable {m n : Machine I F} {hist : List (Event I)}

theorem view_holds {p : Power} (holds : p.holds = true) (s : State I F) :
    p.view s = s.withCore .setDisconnected := by
  rw [Power.view, if_pos holds]

theorem view_free {p : Power} (free : p.holds = false) (s : State I F) : p.view s = s := by
  rw [Power.view, free]
  rfl

theorem attached_powered : Powered (attached : Machine I F) where
  young := plugged_alive.young
  flags := plugged_flags
  files := plugged_alive.files
  submissions := plugged_alive.submissions
  locks := plugged_locks
  bound moved := absurd rfl moved
  drained := nofun
  killed := nofun

theorem powered_alive (powered : Powered m) (free : m.power.holds = false) : Alive m.device where
  young := powered.young
  flags := powered.flags
  locks := view_free free m.device ▸ powered.locks
  files := powered.files
  submissions := powered.submissions

theorem drained_holds {p : Power} (drained : p.drained = true) : p.holds = true := by
  cases p with
  | drawing p => rfl
  | reset | postReset => rfl
  | running | suspending _ | suspended | preReset => cases drained

theorem down_drained {p : Power} (down : p.down = true) : p.drained = true := by
  cases p with
  | reset | postReset => rfl
  | running | suspending _ | suspended | preReset | drawing _ => cases down

theorem holds_bound (powered : Powered m) (holds : m.power.holds = true) :
    m.device.core = .bound := by
  refine powered.bound fun running => ?_
  rw [running] at holds
  cases holds

theorem bound_submissions (flags : Flags s) (bound : s.core = .bound) : Submissions s where
  passed _ _ := flags.disconnected.trans (by rw [bound]; rfl)
  killed cut := absurd cut (by rw [bound]; exact nofun)
  drained cut := absurd cut (by rw [bound]; exact nofun)

theorem holds_mutex (powered : Powered m) (holds : m.power.holds = true) :
    m.device.ioMutex = some .core := by
  have locks := powered.locks
  rw [view_holds holds] at locks
  exact locks.core.mp (.inl rfl)

theorem holds_unlocked (powered : Powered m) (holds : m.power.holds = true) (i : I) :
    ¬ (m.device.thread i).Locked := by
  intro inside
  have locks := powered.locks
  rw [view_holds holds] at locks
  cases (holds_mutex powered holds).symm.trans ((locks.calls i).mp inside)

section Steps

variable [DecidableEq I] [DecidableEq F]

theorem holds_quiet (powered : Powered m) (holds : m.power.holds = true)
    (step : Step m.device e t) : ¬ e.Submits ∧ (m.device.readUrb = none → t.readUrb = none) ∧
      ∀ b, m.device.transfer b = .idle → t.transfer b = .idle := by
  rcases step_quiet step with ⟨i, passed⟩ | quiet
  · exact absurd (passed_locked passed) (holds_unlocked powered holds i)
  · exact quiet

theorem other_powered (powered : Powered m) (step : Step m.device e t)
    (same : t.core = m.device.core) : Powered { m with device := t } := by
  have flags := step_flags powered.flags step
  have bound (moved : m.power ≠ .running) : t.core = .bound := same.trans (powered.bound moved)
  cases holds : m.power.holds with
  | false =>
    have alive := step_alive (powered_alive powered holds) step
    have undrained (drained : m.power.drained = true) : False := by
      cases (drained_holds drained).symm.trans holds
    refine ⟨alive.young, flags, alive.files, alive.submissions, ?_, bound,
      fun drained => (undrained drained).elim, fun down => (undrained (down_drained down)).elim⟩
    rw [view_free holds]
    exact alive.locks
  | true =>
    have before := holds_bound powered holds
    obtain ⟨_, urb, transfers⟩ := holds_quiet powered holds step
    refine ⟨step_young powered.young step, flags,
      step_files powered.young powered.flags powered.files step,
      bound_submissions flags (same.trans before), ?_, bound,
      fun drained b => transfers b (powered.drained drained b),
      fun down => urb (powered.killed down)⟩
    have locks := powered.locks
    rw [view_holds holds] at locks ⊢
    exact step_locks locks (step_withCore .setDisconnected step same)

omit [DecidableEq I] [DecidableEq F] in
theorem bound_powered {p : Power} (powered : Powered m) (bound : m.device.core = .bound)
    (frame : t = { m.device with
      errors := t.errors, nextErr := t.nextErr, ioMutex := t.ioMutex })
    (locks : Locks (p.view t)) (drained : p.drained = true → ∀ b, m.device.transfer b = .idle)
    (killed : p.down = true → m.device.readUrb = none) : Powered (⟨t, p⟩ : Machine I F) := by
  have flags : Flags t := by
    rw [frame]
    exact ⟨powered.flags.minor, powered.flags.disconnected⟩
  have there : t.core = .bound := by rw [frame]; exact bound
  have files : Files t := by
    rw [frame]
    exact ⟨powered.files.onFile, powered.files.opening, powered.files.refs, powered.files.deletes⟩
  refine ⟨fun early => ?_, flags, files, bound_submissions flags there, locks, fun _ => there,
    ?_, ?_⟩
  · cases (congrArg Core.early there).symm.trans early
  · rw [frame]
    exact drained
  · rw [frame]
    exact killed

omit [DecidableEq I] [DecidableEq F] in
theorem move_powered {p : Power} (powered : Powered m) (bound : m.device.core = .bound)
    (same : p.holds = m.power.holds) (drained : p.drained = true → ∀ b, m.device.transfer b = .idle)
    (killed : p.down = true → m.device.readUrb = none) : Powered { m with power := p } := by
  refine bound_powered powered bound rfl ?_ drained killed
  have locks := powered.locks
  rw [Power.view] at locks ⊢
  rwa [same]

omit [DecidableEq I] [DecidableEq F] in
theorem mutexLock_powered (powered : Powered m) (waits : m.power = .preReset)
    (free : m.device.ioMutex = none) :
    Powered (⟨{ m.device with ioMutex := some .core }, .drawing .waitAnchor⟩ : Machine I F) := by
  have bound := powered.bound (by rw [waits]; exact nofun)
  have locks := powered.locks
  rw [view_free (by rw [waits]; rfl)] at locks
  have behind : Locks (m.device.withCore .mutexLock) :=
    locks_core locks bound (by simp [Core.Locked]) (by simp [Core.Locked, State.withCore]) rfl rfl
      rfl
  exact bound_powered powered bound rfl (core_locks behind (.mutexLock rfl free))
    (fun drained => Bool.noConfusion drained) (fun down => Bool.noConfusion down)

omit [DecidableEq I] [DecidableEq F] in
theorem postReset_powered (powered : Powered m) (reset : m.power = .reset) :
    Powered (⟨{ m.device with
      errors := some ⟨m.device.nextErr, pipe⟩
      nextErr := m.device.nextErr + 1 }, .postReset⟩ : Machine I F) := by
  have bound := powered.bound (by rw [reset]; exact nofun)
  have locks := powered.locks
  rw [view_holds (by rw [reset]; rfl)] at locks
  exact bound_powered powered bound rfl ⟨locks.calls, locks.core, locks.err⟩
    (fun _ => powered.drained (by rw [reset]; rfl)) (fun _ => powered.killed (by rw [reset]; rfl))

omit [DecidableEq I] [DecidableEq F] in
theorem mutexUnlock_powered (powered : Powered m) (stored : m.power = .postReset) :
    Powered (⟨{ m.device with ioMutex := none }, .running⟩ : Machine I F) := by
  have bound := powered.bound (by rw [stored]; exact nofun)
  have holds : m.power.holds = true := by rw [stored]; rfl
  have locks := powered.locks
  rw [view_holds holds] at locks
  refine bound_powered powered bound rfl ⟨held_none (holds_unlocked powered holds), ?_, locks.err⟩
    nofun nofun
  exact ⟨fun inside => absurd inside (by simp [Core.Locked, Power.view, Power.holds,
    State.withCore, bound]), nofun⟩

theorem machine_powered (powered : Powered m) (step : MachineStep m e n) : Powered n := by
  cases step with
  | core running step =>
    have free : m.power.holds = false := by rw [running]; rfl
    have alive := step_alive (powered_alive powered free) (.core step)
    refine ⟨alive.young, alive.flags, alive.files, alive.submissions, ?_,
      fun moved => absurd running moved, fun drained => ?_, fun down => ?_⟩
    · rw [view_free free]
      exact alive.locks
    · cases (drained_holds drained).symm.trans free
    · cases (drained_holds (down_drained down)).symm.trans free
  | other step same => exact other_powered powered step same
  | suspend running bound | preReset running bound =>
    exact move_powered powered bound (by rw [running]; rfl) nofun nofun
  | suspending here draw | suspended here draw =>
    exact move_powered powered (powered.bound (by rw [here]; exact nofun)) (by rw [here]; rfl)
      nofun nofun
  | resume here =>
    exact move_powered powered (powered.bound (by rw [here]; exact nofun)) (by rw [here]; rfl)
      nofun nofun
  | mutexLock waits free => exact mutexLock_powered powered waits free
  | drawing here draw =>
    have bound := powered.bound (by rw [here]; exact nofun)
    cases draw with
    | anchorEmpty idle => exact move_powered powered bound (by rw [here]; rfl) (fun _ => idle) nofun
  | reset here draw =>
    have bound := powered.bound (by rw [here]; exact nofun)
    cases draw with
    | killed none =>
      exact move_powered powered bound (by rw [here]; rfl)
        (fun _ => powered.drained (by rw [here]; rfl)) (fun _ => none)
  | postReset reset => exact postReset_powered powered reset
  | mutexUnlock stored => exact mutexUnlock_powered powered stored

theorem run_powered (run : Run MachineStep attached hist m) : Powered m :=
  run_invariant Powered attached_powered (fun _ _ _ => machine_powered) run

/-- From the return of skel_pre_reset to the mutex_unlock of skel_post_reset no URB is
in flight, no call is inside io_mutex, and the next step submits none. -/
theorem reset_quiet (run : Run MachineStep attached hist m) (down : m.power.down = true) :
    Quiet m.device ∧ (∀ i, ¬ (m.device.thread i).Locked) ∧
    ∀ e n, MachineStep m e n → ¬ e.Submits ∧ Quiet n.device := by
  have powered := run_powered run
  have drained := down_drained down
  have holds := drained_holds drained
  have quiet : Quiet m.device := ⟨powered.killed down, powered.drained drained⟩
  refine ⟨quiet, holds_unlocked powered holds, fun e n step => ?_⟩
  cases step with
  | core running _ =>
    rw [running] at holds
    cases holds
  | other step _ =>
    obtain ⟨silent, urb, transfers⟩ := holds_quiet powered holds step
    exact ⟨silent, urb quiet.1, fun b => transfers b (quiet.2 b)⟩
  | _ => exact ⟨id, quiet⟩

/-- skel_post_reset stores while no call is between its load and its clear. -/
def MachineUndisturbed (m : Machine I F) (e : Event I) : Prop :=
  Undisturbed m.device e ∧ ∀ err old, e = .stores err old → m.device.errLock = none

theorem view_step {p : Power} (step : Step s e t) (same : t.core = s.core) :
    Step (p.view s) e (p.view t) := by
  rw [Power.view, Power.view, same]
  exact step_withCore _ step same

theorem machine_ledger (powered : Powered m) (ledger : Ledger hist (m.power.view m.device))
    (step : MachineStep m e n) (undisturbed : MachineUndisturbed m e) :
    Ledger (hist ++ [e]) (n.power.view n.device) := by
  have locks := powered.locks
  cases step with
  | core running step =>
    rw [view_free (by rw [running]; rfl)] at ledger ⊢
    exact core_ledger ledger step
  | other step same =>
    exact step_ledger locks ledger (view_step step same) undisturbed.1
  | postReset reset =>
    refine ledger_stores (s := m.power.view m.device) ledger (fun i => ?_) rfl rfl rfl
    by_contra inside
    cases (undisturbed.2 _ _ rfl).symm.trans ((locks.err i).mp inside)
  | _ => exact ledger_same ledger ⟨rfl, rfl, rfl⟩ nofun rfl rfl rfl

/-- With any resets and suspends among the calls: under the condition on the calls, and if
no call is between its load and its clear when skel_post_reset stores, every error is
reported once and none is lost, the -EPIPE of each reset among them. -/
theorem reset_errors (run : Run (Guarded MachineStep MachineUndisturbed) attached hist m) :
    ErrorsOnce hist m.device ∧
    (∀ err ∈ reported hist, err.report.val = -EPIPE ∨ err.report.val = - Kernel.EIO) ∧
    ∀ e n, MachineStep m e n → m.power = .reset → n.power = .postReset →
      ∃ err, e = .stores err m.device.errors ∧ err ∉ stored hist ∧ err.report.val = -EPIPE ∧
        n.device.errors = some err := by
  have both : Powered m ∧ Ledger hist (m.power.view m.device) := by
    refine run_history (fun hist m => Powered m ∧ Ledger hist (m.power.view m.device))
      ⟨attached_powered, plugged_errors.ledger⟩ ?_ run
    rintro hist m e n _ ⟨powered, ledger⟩ ⟨step, undisturbed⟩
    exact ⟨machine_powered powered step, machine_ledger powered ledger step undisturbed⟩
  obtain ⟨_, ledger⟩ := both
  have once := ledger.once
  refine ⟨⟨once.once, once.notAgain, once.one, once.kept, once.cleared⟩,
    fun err _ => report_code err, fun e n step reset stored => ?_⟩
  cases step with
  | postReset _ => exact ⟨_, rfl, fun old => Nat.lt_irrefl _ (ledger.fresh _ old), rfl, rfl⟩
  | core _ _ | other _ _ | mutexLock _ _ | mutexUnlock _ => simp_all
  | _ => cases stored

/-- While the device runs, the system is the one without resets. -/
theorem run_running (run : Run Step plugged hist s) :
    Run MachineStep attached hist ⟨s, .running⟩ := by
  induction run with
  | start => exact .start
  | snoc _ step ih =>
    rcases step_core step with core | ⟨same, _, _⟩
    · exact ih.snoc (.core rfl core)
    · exact ih.snoc (.other step same)

end Steps

def drawnDown (s : State Unit Unit) : Machine Unit Unit :=
  ⟨answered 0 { s with ioMutex := some .core }, .reset⟩

theorem drawnDown_run {hist : List (Event Unit)} {s : State Unit Unit} {data : List UInt8}
    (run : Run Step plugged hist s) (bound : s.core = .bound) (free : s.ioMutex = none)
    (unread : s.readUrb = none) (flying : s.transfer 0 = .inFlight data)
    (rest : ∀ b, update s.transfer 0 .idle b = .idle) :
    Run MachineStep attached (hist ++ List.replicate 7 .internal) (drawnDown s) := by
  have taken := ((run_running run).snoc (.preReset rfl bound)).snoc (.mutexLock rfl free)
  obtain ⟨completes, frees, up⟩ :=
    answered_steps (s := { s with ioMutex := some .core }) (b := 0) flying
  have back := ((taken.snoc (.other (.device completes) rfl)).snoc
    (.other (.device frees) rfl)).snoc (.other (.device up) rfl)
  have done := (back.snoc (.drawing rfl (.anchorEmpty rest))).snoc (.reset rfl (.killed unread))
  simpa only [drawnDown, List.append_assoc, List.cons_append, List.nil_append, List.replicate]
    using done

/-- A reset with the file open: a URB that was with the device has been drawn down, and a
write waits for io_mutex. -/
theorem reset_quiet_drawn : ∃ (hist : List (Event Unit)) (m : Machine Unit Unit),
    Run MachineStep attached hist m ∧ .startsWrite 0 ∈ hist ∧ m.power = .reset ∧
    m.device.file () = .opened ∧ m.device.thread () = .writing oneByte (.mutexLock 1) ∧
    Quiet m.device ∧ (∀ i, ¬ (m.device.thread i).Locked) ∧
    ∀ e n, MachineStep m e n → ¬ e.Submits ∧ Quiet n.device := by
  have flying := sent_run (inUse_run () [0]) ⟨rfl, rfl, by decide, rfl, rfl, rfl, rfl⟩
  have waits := inWrite_run flying ⟨rfl, rfl, by decide, rfl, rfl, rfl, rfl⟩
  have reset := drawnDown_run waits rfl rfl rfl (rfl : _ = Transfer.inFlight [1])
    (answered_sent (s := inUse [0]) fun _ => rfl)
  refine ⟨_, _, reset, ?_, rfl, rfl, rfl, reset_quiet reset rfl⟩
  change Event.startsWrite (inUse [0] : State Unit Unit).nextBuf ∈ _
  simp

def Event.tame : Event Unit → Bool
  | .stores _ _ | .clears _ _ _ => false
  | _ => true

theorem tame_undisturbed {e : Event Unit} (tame : e.tame = true) (m : Machine Unit Unit) :
    MachineUndisturbed m e := by
  cases e with
  | loads i => exact ⟨fun _ _ other => absurd rfl other, nofun⟩
  | stores _ _ | clears _ _ _ => cases tame
  | _ => exact ⟨trivial, nofun⟩

theorem reporting_run {hist : List (Event Unit)} {s : State Unit Unit} {err : Err} {n : Nat}
    (run : Run (Guarded MachineStep MachineUndisturbed) attached hist ⟨s, .running⟩)
    (outside : s.thread () = .outside) (opened : s.file () = .opened) (slot : s.limitSem = n + 1)
    (lock : s.errLock = none) (found : s.errors = some err) :
    ∃ m : Machine Unit Unit, Run (Guarded MachineStep MachineUndisturbed) attached
      (hist ++ [.internal, .internal, .loads (), .clears () (some err) s.errors,
        .returns () (.failed (.stored err))]) m := by
  have down : Step (inWrite .down s) .internal (inWrite .errors { s with limitSem := n }) :=
    inWrite_step (.down slot)
  have loads : Step (inWrite .errors { s with limitSem := n }) (.loads ())
      (inWrite (.clear err) { s with limitSem := n, errLock := some () }) :=
    inWrite_step (.error lock found)
  have clears : Step (inWrite (.clear err) { s with limitSem := n, errLock := some () })
      (.clears () (some err) s.errors)
      (inWrite (.up (.stored err)) { s with limitSem := n, errLock := none, errors := none }) :=
    inWrite_step .clears
  have up := Step.writing (i := ())
    (s := inWrite (.up (.stored err)) { s with limitSem := n, errLock := none, errors := none })
    rfl .up
  have own : MachineUndisturbed ⟨inWrite (.clear err) { s with limitSem := n, errLock := some () },
      .running⟩ (.clears () (some err) s.errors) := ⟨nofun, nofun⟩
  have entered := run.snoc
    ⟨.other (inWrite_enters outside opened) rfl, tame_undisturbed rfl _⟩
  have loaded := (entered.snoc ⟨.other down rfl, tame_undisturbed rfl _⟩).snoc
    ⟨.other loads rfl, tame_undisturbed rfl _⟩
  have done := (loaded.snoc ⟨.other clears rfl, own⟩).snoc
    ⟨.other up rfl, tame_undisturbed rfl _⟩
  simp only [List.append_assoc, List.cons_append, List.nil_append] at done
  exact ⟨_, done⟩

/-- The error of a reset is returned by the next write. -/
theorem reset_errors_reported : ∃ (hist : List (Event Unit)) (m : Machine Unit Unit),
    Run (Guarded MachineStep MachineUndisturbed) attached hist m ∧
    stored hist = [⟨0, pipe⟩] ∧ reported hist = [⟨0, pipe⟩] ∧ ErrorsOnce hist m.device ∧
    ∀ err ∈ reported hist, err.report.val = -EPIPE ∨ err.report.val = - Kernel.EIO := by
  have flying := sent_run (inUse_run () [0]) ⟨rfl, rfl, by decide, rfl, rfl, rfl, rfl⟩
  have drawn := drawnDown_run flying rfl rfl rfl (rfl : _ = Transfer.inFlight [1])
    (answered_sent (s := inUse [0]) fun _ => rfl)
  have quiet : Run (Guarded MachineStep MachineUndisturbed) attached _ _ :=
    run_guarded drawn fun e member =>
      tame_undisturbed (List.all_eq_true.mp (rfl : List.all _ Event.tame = true) e member)
  have back := (quiet.snoc ⟨.postReset rfl, trivial, fun _ _ _ => rfl⟩).snoc
    ⟨.mutexUnlock rfl, trivial, nofun⟩
  obtain ⟨m, run⟩ := reporting_run back rfl rfl rfl rfl rfl
  obtain ⟨once, codes, _⟩ := reset_errors run
  exact ⟨_, m, run, rfl, rfl, once, codes⟩

end MadDriver.Skel

import MadDriver.Core.Census
import MadDriver.Core.Transition
import MadDriver.Usb.Frame

/-! The life of the device: what holds at each place of skel_probe and skel_disconnect,
who is on which file, and how many references there are. -/
namespace MadDriver.Skel
open Census Transition Lock Table Function

variable {I F : Type} {s m t : State I F} {i : I} {f : F} {e : Event I} {q : Phase F}

def Core.early : Core → Bool
  | .bound | .deregisterDev | .mutexLock | .setDisconnected | .mutexUnlock | .killUrb
  | .killAnchored | .krefPut | .gone => false
  | _ => true

def Core.allocated : Core → Bool
  | .kzalloc | .noMemory => false
  | _ => true

def Core.registered : Core → Bool
  | .bound | .deregisterDev => true
  | _ => false

def Core.cut : Core → Bool
  | .mutexUnlock | .killUrb | .killAnchored | .krefPut | .gone => true
  | _ => false

def Core.killed : Core → Bool
  | .killAnchored | .krefPut | .gone => true
  | _ => false

def Core.drained : Core → Bool
  | .krefPut | .gone => true
  | _ => false

/-- The reference of the interface, from kref_init to the kref_put of skel_disconnect
or of the failed skel_probe. -/
def Core.refs : Core → Nat
  | .kzalloc | .noMemory | .failed | .gone => 0
  | _ => 1

def young (size : Nat) (buffer : List UInt8) (intfdata : Bool) (core : Core) : State I F :=
  { plugged with
    bulkInSize := size
    bulkInBuffer := buffer
    intfdata := intfdata
    limitSem := if core.allocated then WRITES_IN_FLIGHT else 0
    kref := core.refs
    deletes := if core = .failed then 1 else 0
    core := core }

def Young (s : State I F) : Prop :=
  s.core.early = true → ∃ size buffer intfdata, s = young size buffer intfdata s.core

theorem core_early (step : CoreStep s e t) (early : t.core.early = true) :
    s.core.early = true := by
  cases step with
  | noMemory here | kzalloc here | noEndpoints here | endpoints _ here | noBuffer here
  | buffer here _ | noUrb here | urb here | setIntfdata here | registerFails here
  | clearIntfdata here | error here =>
    rw [here]
    rfl
  | registerDev _ | disconnect _ | deregisterDev _ _ | mutexLock _ _ | setDisconnected _
  | mutexUnlock _ | killUrb _ _ | killAnchored _ _ | krefPut _ => cases early

theorem core_young {size : Nat} {buffer : List UInt8} {intfdata : Bool} {core : Core}
    (step : CoreStep (young size buffer intfdata core : State I F) e t) : Young t := by
  intro early
  cases step with
  | noMemory here | kzalloc here | noEndpoints here | noBuffer here | noUrb here | urb here
  | registerFails here | error here =>
    cases here
    exact ⟨size, buffer, intfdata, rfl⟩
  | endpoints size here =>
    cases here
    exact ⟨size, buffer, intfdata, rfl⟩
  | buffer here _ =>
    cases here
    exact ⟨size, _, intfdata, rfl⟩
  | setIntfdata here =>
    cases here
    exact ⟨size, buffer, true, rfl⟩
  | clearIntfdata here =>
    cases here
    exact ⟨size, buffer, false, rfl⟩
  | registerDev _ | disconnect _ | deregisterDev _ _ | mutexLock _ _ | setDisconnected _
  | mutexUnlock _ | killUrb _ _ | killAnchored _ _ | krefPut _ => cases early

structure Flags (s : State I F) : Prop where
  minor : s.minor = s.core.registered
  disconnected : s.disconnected = s.core.cut

theorem plugged_flags : Flags (plugged : State I F) := ⟨rfl, rfl⟩

theorem core_flags (flags : Flags s) (step : CoreStep s e t) : Flags t := by
  obtain ⟨minor, disconnected⟩ := flags
  cases step with
  | noMemory here | kzalloc here | noEndpoints here | endpoints _ here | noBuffer here
  | buffer here _ | noUrb here | urb here | setIntfdata here | registerFails here
  | clearIntfdata here | error here | registerDev here | disconnect here
  | deregisterDev here _ | mutexLock here _ | setDisconnected here | mutexUnlock here
  | killUrb here _ | killAnchored here _ | krefPut here =>
    rw [here] at minor disconnected
    first
    | exact ⟨minor, disconnected⟩
    | exact ⟨rfl, disconnected⟩
    | exact ⟨minor, rfl⟩

section Steps

variable [DecidableEq I] [DecidableEq F]

theorem step_core (move : Step s e t) :
    CoreStep s e t ∨ t.core = s.core ∧ t.minor = s.minor ∧ t.disconnected = s.disconnected := by
  cases step_kind move with
  | core step => exact .inl step
  | empty => exact .inr ⟨rfl, rfl, rfl⟩
  | aside step =>
    rw [step.frame]
    exact .inr ⟨rfl, rfl, rfl⟩
  | reading _ step =>
    rw [(read_frame step).1]
    exact .inr ⟨rfl, rfl, rfl⟩
  | writing _ step =>
    rw [(write_frame step).1]
    exact .inr ⟨rfl, rfl, rfl⟩
  | flushing _ step =>
    rw [(flush_frame step).1]
    exact .inr ⟨rfl, rfl, rfl⟩
  | device step =>
    rw [device_frame step]
    exact .inr ⟨rfl, rfl, rfl⟩

theorem step_flags (flags : Flags s) (step : Step s e t) : Flags t := by
  rcases step_core step with core | ⟨core, minor, disconnected⟩
  · exact core_flags flags core
  · refine ⟨?_, ?_⟩
    · rw [minor, core, flags.minor]
    · rw [disconnected, core, flags.disconnected]

theorem young_step {size : Nat} {buffer : List UInt8} {intfdata : Bool} {core : Core}
    (step : Step (young size buffer intfdata core) e t) :
    CoreStep (young size buffer intfdata core) e t := by
  cases step with
  | core step => exact step
  | empty _ opened => cases opened
  | enters _ step =>
    cases step with
    | opens minor _ => cases minor
    | reads opened | writes opened | flushes opened | closes opened _ => cases opened
  | opening here _ | closing here _ | reading here _ | writing here _ | flushing here _ =>
    cases here
  | device step =>
    cases step with
    | readCompletes urb _ _ | readFails _ urb _ _ => cases urb
    | writeCompletes urb | writeFails _ urb _ | frees urb | up urb => cases urb

theorem step_young (young : Young s) (step : Step s e t) : Young t := by
  intro early
  have before : s.core.early = true := by
    rcases step_core step with core | ⟨core, _, _⟩
    · exact core_early core early
    · rwa [core] at early
  obtain ⟨size, buffer, intfdata, same⟩ := young before
  rw [same] at step
  exact core_young (young_step step) early

end Steps

def probed (buffer : List UInt8) : State I F :=
  { (young buffer.length buffer true .bound : State I F) with minor := true }

def inOpen (buffer : List UInt8) (i : I) (p : OpenPhase) [DecidableEq I] : State I Unit :=
  { (probed buffer : State I Unit) with
    file := fun _ => .opening i
    thread := update (fun _ => .outside) i (.opening () p) }

def inUse (buffer : List UInt8) : State I Unit :=
  { (probed buffer : State I Unit) with kref := 2, file := fun _ => .opened }

section InUse

variable [DecidableEq I]

theorem probed_run [DecidableEq F] (buffer : List UInt8) :
    Run Step (plugged : State I F) (List.replicate 6 .internal) (probed buffer) := by
  have allocated : Run Step (plugged : State I F) (List.replicate 3 .internal)
      (young buffer.length buffer false .allocUrb) :=
    .snoc (.snoc (.snoc .start (.core (.kzalloc rfl))) (.core (.endpoints buffer.length rfl)))
      (.core (.buffer rfl rfl))
  exact .snoc (.snoc (.snoc allocated (.core (.urb rfl))) (.core (.setIntfdata rfl)))
    (.core (.registerDev rfl))

theorem inOpen_step {buffer : List UInt8} {p p' : OpenPhase}
    (step : OpenStep (inOpen buffer i p) i () p e (.opening () p') (inOpen buffer i p)) :
    Step (inOpen buffer i p) e (inOpen buffer i p') := by
  have here : (inOpen buffer i p).thread i = .opening () p := by simp [inOpen]
  have moved := Step.opening here step
  simpa only [inOpen, update_idem] using moved

theorem inUse_run (i : I) (buffer : List UInt8) : Run Step (plugged : State I Unit)
    (List.replicate 10 .internal ++ [.returns i (.done 0)]) (inUse buffer) := by
  have enters := Enters.opens (s := (probed buffer : State I Unit)) (i := i) (f := ()) rfl rfl
  have looked : Run Step (plugged : State I Unit) (List.replicate 7 .internal)
      (inOpen buffer i .findInterface) := .snoc (probed_run buffer) (.enters rfl enters)
  have found := Run.snoc looked (inOpen_step .found)
  have device := Run.snoc found (inOpen_step (.device rfl))
  have awake := Run.snoc device (inOpen_step .autopmGet)
  have here : (inOpen buffer i .krefGet).thread i = .opening () .krefGet := by simp [inOpen]
  have opened := Run.snoc awake (.opening here .krefGet)
  have outside : update (update (fun _ => Phase.outside) i (.opening () .krefGet)) i .outside =
      fun _ : I => (Phase.outside : Phase Unit) := by
    rw [update_idem, update_eq_self]
  simp only [inOpen, outside] at opened
  exact opened

end InUse

def oneByte : WriteCall Unit := ⟨(), [1], false, by decide⟩

def inWrite (p : WritePhase) (s : State Unit Unit) : State Unit Unit :=
  { s with thread := fun _ => .writing oneByte p }

def withSlot (s : State Unit Unit) : State Unit Unit := { s with limitSem := s.limitSem - 1 }

def withBuffer (s : State Unit Unit) : State Unit Unit :=
  { withSlot s with nextBuf := s.nextBuf + 1 }

def withMutex (s : State Unit Unit) : State Unit Unit :=
  { withBuffer s with ioMutex := some (.call ()) }

def withUrb (s : State Unit Unit) : State Unit Unit :=
  { withMutex s with transfer := update s.transfer s.nextBuf (.inFlight [1]) }

def sent (s : State Unit Unit) : State Unit Unit :=
  { withUrb s with ioMutex := none, thread := fun _ => .outside }

/-- The completion handler of a write URB, from its start to its `up`. -/
def completed (b : Nat) (s : State Unit Unit) : State Unit Unit :=
  { s with transfer := update s.transfer b .completed }

def freed (b : Nat) (s : State Unit Unit) : State Unit Unit :=
  { s with transfer := update s.transfer b .freed, frees := update s.frees b (s.frees b + 1) }

def answered (b : Nat) (s : State Unit Unit) : State Unit Unit :=
  { s with
    limitSem := s.limitSem + 1
    transfer := update s.transfer b .idle
    frees := update s.frees b (s.frees b + 1) }

structure Ready (s : State Unit Unit) : Prop where
  outside : s.thread () = .outside
  opened : s.file () = .opened
  slot : 0 < s.limitSem
  mutex : s.ioMutex = none
  lock : s.errLock = none
  clear : s.errors = none
  connected : s.disconnected = false

section OneByte

variable {hist : List (Event Unit)} {s m : State Unit Unit} {e : Event Unit}

theorem inWrite_step {p p' : WritePhase}
    (step : WriteStep (inWrite p s) () oneByte p e (.writing oneByte p') (inWrite p m)) :
    Step (inWrite p s) e (inWrite p' m) := .writing rfl step

theorem inWrite_enters (outside : s.thread () = .outside) (opened : s.file () = .opened) :
    Step s .internal (inWrite .down s) := by
  have enters := Enters.writes (s := s) (i := ()) (w := oneByte) opened
  exact .enters outside enters

theorem inWrite_run (run : Run Step plugged hist s) (ready : Ready s) :
    Run Step plugged (hist ++ [.internal, .internal, .loads (), .internal, .internal, .internal])
      (inWrite (.mutexLock s.nextBuf) (withBuffer s)) := by
  obtain ⟨n, slots⟩ : ∃ n, s.limitSem = n + 1 := Nat.exists_eq_succ_of_ne_zero ready.slot.ne'
  have down : Step (inWrite .down s) .internal (inWrite .errors (withSlot s)) := by
    have taken : n = s.limitSem - 1 := by omega
    have step := WriteStep.down (s := inWrite .down s) (i := ()) (w := oneByte) slots
    rw [taken] at step
    exact inWrite_step step
  have nothing : Step (inWrite .errors (withSlot s)) (.loads ())
      (inWrite .allocUrb (withSlot s)) := inWrite_step (.noError ready.lock ready.clear)
  have urb : Step (inWrite .allocUrb (withSlot s)) .internal
      (inWrite .allocCoherent (withSlot s)) := inWrite_step .urb
  have buffer : Step (inWrite .allocCoherent (withSlot s)) .internal
      (inWrite (.copyFromUser s.nextBuf) (withBuffer s)) := inWrite_step .buffer
  have copied : Step (inWrite (.copyFromUser s.nextBuf) (withBuffer s)) .internal
      (inWrite (.mutexLock s.nextBuf) (withBuffer s)) := inWrite_step .copied
  have entered := Run.snoc run (inWrite_enters ready.outside ready.opened)
  have begun := Run.snoc (.snoc entered down) nothing
  have done := Run.snoc (.snoc (.snoc begun urb) buffer) copied
  simpa only [List.append_assoc, List.cons_append, List.nil_append] using done

theorem sent_run (run : Run Step plugged hist s) (ready : Ready s) :
    Run Step plugged (hist ++ [.internal, .internal, .loads (), .internal, .internal, .internal,
      .internal, .internal, .startsWrite s.nextBuf, .returns () (.done 1)]) (sent s) := by
  have locks : Step (inWrite (.mutexLock s.nextBuf) (withBuffer s)) .internal
      (inWrite (.disconnected s.nextBuf) (withMutex s)) := inWrite_step (.locks ready.mutex)
  have present : Step (inWrite (.disconnected s.nextBuf) (withMutex s)) .internal
      (inWrite (.submit s.nextBuf) (withMutex s)) := inWrite_step (.present ready.connected)
  have submits : Step (inWrite (.submit s.nextBuf) (withMutex s)) (.startsWrite s.nextBuf)
      (inWrite .unlock (withUrb s)) := inWrite_step .submits
  have returns : Step (inWrite .unlock (withUrb s)) (.returns () (.done 1)) (sent s) :=
    Step.writing (s := inWrite .unlock (withUrb s)) rfl .unlocks
  have locked := Run.snoc (.snoc (inWrite_run run ready) locks) present
  have done := Run.snoc (.snoc locked submits) returns
  simpa only [List.append_assoc, List.cons_append, List.nil_append] using done

theorem answered_sent {s : State Unit Unit} (idle : ∀ b, s.transfer b = .idle) (b : Nat) :
    update (update s.transfer s.nextBuf (.inFlight [1])) s.nextBuf .idle b = .idle := by
  have nothing : s.transfer = fun _ => .idle := funext idle
  rw [nothing, update_idem, update_eq_self]

theorem answered_steps {b : Nat} {data : List UInt8} (flying : s.transfer b = .inFlight data) :
    DeviceStep s .internal (completed b s) ∧ DeviceStep (completed b s) .internal (freed b s) ∧
      DeviceStep (freed b s) .internal (answered b s) := by
  have frees := DeviceStep.frees (s := completed b s) (update_self b _ _)
  have up := DeviceStep.up (s := freed b s) (update_self b _ _)
  simp only [completed, freed, update_idem] at frees up
  exact ⟨.writeCompletes flying, frees, up⟩

theorem answered_run {b : Nat} {data : List UInt8} (run : Run Step plugged hist s)
    (flying : s.transfer b = .inFlight data) :
    Run Step plugged (hist ++ [.internal, .internal, .internal]) (answered b s) := by
  obtain ⟨completes, frees, up⟩ := answered_steps flying
  have done := Run.snoc (.snoc (.snoc run (.device completes)) (.device frees)) (.device up)
  simpa only [List.append_assoc, List.cons_append, List.nil_append] using done

end OneByte

end MadDriver.Skel

import MadDriver.Core.Lock
import MadDriver.Usb.Skel

/-! What the steps of each function can change, and who holds the two locks of
`struct usb_skel`. -/
namespace MadDriver.Skel
open Lock Function

variable {I F : Type} {s m t : State I F} {i : I} {f : F} {e : Event I} {q : Phase F}

section Frames

theorem doReadIo_frame {submit rv : Option Errno} {count : Nat}
    (done : skelDoReadIo submit count s = (rv, m)) :
    m = { s with ongoingRead := m.ongoingRead, readUrb := m.readUrb,
                 bulkInFilled := 0, bulkInCopied := 0 } := by
  cases submit with
  | none | some _ =>
    cases done
    rfl

theorem copyOut_frame {fault : Bool} {submit : Option Errno} {count : Nat} {ret : Return}
    (done : copyOut fault submit count s = (ret, m)) :
    m = { s with ongoingRead := m.ongoingRead, readUrb := m.readUrb,
                 bulkInFilled := m.bulkInFilled, bulkInCopied := m.bulkInCopied } := by
  obtain ⟨rfl, rfl⟩ := Prod.mk.inj done
  split
  · obtain ⟨rv, m, io⟩ : ∃ rv m, skelDoReadIo submit
        (count - min (s.bulkInFilled - s.bulkInCopied) count)
        { s with bulkInCopied := s.bulkInCopied + min (s.bulkInFilled - s.bulkInCopied) count } =
        (rv, m) := ⟨_, _, rfl⟩
    rw [io, doReadIo_frame io]
  · rfl

theorem open_frame [DecidableEq F] {p : OpenPhase} (step : OpenStep s i f p e q m) :
    m = { s with file := m.file, kref := m.kref } ∧
      (q = .outside ∨ ∃ p', q = .opening f p') := by
  cases step <;> exact ⟨rfl, by simp⟩

theorem close_frame [DecidableEq F] {p : ReleasePhase} (step : ReleaseStep s i f p e q m) :
    m = { s with file := m.file, kref := m.kref, deletes := m.deletes } ∧
      (q = .outside ∨ ∃ p', q = .closing f p') := by
  cases step <;> exact ⟨rfl, by simp⟩

theorem read_frame {r : ReadCall F} {p : ReadPhase} (step : ReadStep s i r p e q m) :
    m = { s with
      bulkInFilled := m.bulkInFilled, bulkInCopied := m.bulkInCopied,
      ongoingRead := m.ongoingRead, readUrb := m.readUrb,
      errors := m.errors, ioMutex := m.ioMutex } ∧
    (q = .outside ∨ ∃ p', q = .reading r p') := by
  cases step with
  | startsIo _ _ done | ioFails _ _ done =>
    rw [doReadIo_frame done]
    exact ⟨rfl, by simp⟩
  | copies _ _ _ done =>
    rw [copyOut_frame done]
    exact ⟨rfl, by simp⟩
  | _ => exact ⟨rfl, by simp⟩

theorem write_frame {w : WriteCall F} {p : WritePhase} (step : WriteStep s i w p e q m) :
    m = { s with
      errors := m.errors, errLock := m.errLock, limitSem := m.limitSem, ioMutex := m.ioMutex,
      transfer := m.transfer, frees := m.frees, nextBuf := m.nextBuf } ∧
    (q = .outside ∨ ∃ p', q = .writing w p') := by
  cases step <;> exact ⟨rfl, by simp⟩

theorem flush_frame {p : FlushPhase} (step : FlushStep s i f p e q m) :
    m = { s with errors := m.errors, errLock := m.errLock, ioMutex := m.ioMutex } ∧
      (q = .outside ∨ ∃ p', q = .flushing f p') := by
  cases step <;> exact ⟨rfl, by simp⟩

theorem enters_frame [DecidableEq F] (step : Enters s i q m) : m = { s with file := m.file } := by
  cases step <;> rfl

theorem device_frame (step : DeviceStep s e t) :
    t = { s with
      bulkInBuffer := t.bulkInBuffer, bulkInFilled := t.bulkInFilled,
      ongoingRead := t.ongoingRead, readUrb := t.readUrb, errors := t.errors,
      nextErr := t.nextErr, transfer := t.transfer, frees := t.frees, limitSem := t.limitSem } := by
  cases step <;> rfl

theorem core_frame (step : CoreStep s e t) :
    t = { s with
      bulkInSize := t.bulkInSize, bulkInBuffer := t.bulkInBuffer, limitSem := t.limitSem,
      kref := t.kref, deletes := t.deletes, ioMutex := t.ioMutex, intfdata := t.intfdata,
      minor := t.minor, disconnected := t.disconnected, core := t.core } := by
  cases step <;> rfl

end Frames

def Phase.Apart : Phase F → Prop
  | .outside | .opening _ _ | .closing _ _ => True
  | .reading _ .mutexLock | .writing _ .down | .flushing _ .mutexLock => True
  | _ => False

def Event.Plain : Event I → Prop
  | .internal | .returns _ (.done _) | .returns _ (.failed (.code _)) => True
  | _ => False

structure Aside (s : State I F) (i : I) (e : Event I) (q : Phase F) (m : State I F) : Prop where
  frame : m = { s with file := m.file, kref := m.kref, deletes := m.deletes }
  before : (s.thread i).Apart
  after : q.Apart
  event : e.Plain

inductive Kind [DecidableEq I] (s : State I F) : Event I → State I F → Prop where
  | empty {i : I} : Kind s (.returns i (.done 0)) s
  | aside {i : I} {e : Event I} {q : Phase F} {m : State I F} : Aside s i e q m →
      Kind s e { m with thread := update s.thread i q }
  | reading {i : I} {r : ReadCall F} {p : ReadPhase} {e : Event I} {q : Phase F}
      {m : State I F} : s.thread i = .reading r p → ReadStep s i r p e q m →
      Kind s e { m with thread := update s.thread i q }
  | writing {i : I} {w : WriteCall F} {p : WritePhase} {e : Event I} {q : Phase F}
      {m : State I F} : s.thread i = .writing w p → WriteStep s i w p e q m →
      Kind s e { m with thread := update s.thread i q }
  | flushing {i : I} {f : F} {p : FlushPhase} {e : Event I} {q : Phase F} {m : State I F} :
      s.thread i = .flushing f p → FlushStep s i f p e q m →
      Kind s e { m with thread := update s.thread i q }
  | device {e : Event I} {t : State I F} : DeviceStep s e t → Kind s e t
  | core {e : Event I} {t : State I F} : CoreStep s e t → Kind s e t

theorem step_kind [DecidableEq I] [DecidableEq F] (step : Step s e t) : Kind s e t := by
  cases step with
  | empty _ _ => exact .empty
  | reading here step => exact .reading here step
  | writing here step => exact .writing here step
  | flushing here step => exact .flushing here step
  | device step => exact .device step
  | core step => exact .core step
  | enters here step =>
    refine .aside ⟨?_, by rw [here]; trivial, ?_, trivial⟩
    · rw [enters_frame step]
    · cases step <;> trivial
  | opening here step =>
    obtain ⟨frame, after⟩ := open_frame step
    refine .aside ⟨?_, by rw [here]; trivial, ?_, ?_⟩
    · rw [frame]
    · rcases after with rfl | ⟨_, rfl⟩ <;> trivial
    · cases step <;> trivial
  | closing here step =>
    obtain ⟨frame, after⟩ := close_frame step
    refine .aside ⟨?_, by rw [here]; trivial, ?_, ?_⟩
    · rw [frame]
    · rcases after with rfl | ⟨_, rfl⟩ <;> trivial
    · cases step <;> trivial

def ReadPhase.Locked : ReadPhase → Prop
  | .mutexLock => False
  | _ => True

def WritePhase.Locked : WritePhase → Prop
  | .disconnected _ | .submit _ | .unlock | .unlockError _ _ => True
  | _ => False

def FlushPhase.Locked : FlushPhase → Prop
  | .mutexLock => False
  | _ => True

def Phase.Locked : Phase F → Prop
  | .reading _ p => p.Locked
  | .writing _ p => p.Locked
  | .flushing _ p => p.Locked
  | _ => False

def Core.Locked (core : Core) : Prop := core = .setDisconnected ∨ core = .mutexUnlock

def Phase.errLocked : Phase F → Option (Option Err)
  | .writing _ (.clear e) => some (some e)
  | .flushing _ (.clear e) => some e
  | _ => none

structure Locks (s : State I F) : Prop where
  calls : Held Phase.Locked Owner.call s.thread s.ioMutex
  core : s.core.Locked ↔ s.ioMutex = some .core
  err : Held (fun p : Phase F => p.errLocked ≠ none) id s.thread s.errLock

theorem call_injective : Injective (Owner.call : I → Owner I) := fun _ _ => Owner.call.inj

theorem plugged_locks : Locks (plugged : State I F) := by
  refine ⟨held_none fun _ => id, ?_, held_none fun _ none => none rfl⟩
  simp [plugged, Core.Locked]

structure Uses (s : State I F) (i : I) (p q : Phase F) (m : State I F) : Prop where
  mutex : Use (.call i) p.Locked q.Locked s.ioMutex m.ioMutex
  err : Use i (p.errLocked ≠ none) (q.errLocked ≠ none) s.errLock m.errLock

theorem read_uses {r : ReadCall F} {p : ReadPhase} (step : ReadStep s i r p e q m) :
    Uses s i (.reading r p) q m := by
  cases step with
  | locks free => exact ⟨free ▸ .takes trivial, .keeps Iff.rfl⟩
  | unlocks => exact ⟨.releases trivial id, .keeps Iff.rfl⟩
  | startsIo _ _ done | ioFails _ _ done =>
    rw [doReadIo_frame done]
    exact ⟨.keeps Iff.rfl, .keeps Iff.rfl⟩
  | copies _ _ _ done =>
    rw [copyOut_frame done]
    exact ⟨.keeps Iff.rfl, .keeps Iff.rfl⟩
  | _ => exact ⟨.keeps Iff.rfl, .keeps Iff.rfl⟩

theorem write_uses {w : WriteCall F} {p : WritePhase} (step : WriteStep s i w p e q m) :
    Uses s i (.writing w p) q m := by
  cases step with
  | locks free => exact ⟨free ▸ .takes trivial, .keeps Iff.rfl⟩
  | unlocks | unlocksError => exact ⟨.releases trivial id, .keeps Iff.rfl⟩
  | error free _ => exact ⟨.keeps Iff.rfl, free ▸ .takes nofun⟩
  | clears => exact ⟨.keeps Iff.rfl, .releases nofun (· rfl)⟩
  | _ => exact ⟨.keeps Iff.rfl, .keeps Iff.rfl⟩

theorem flush_uses {p : FlushPhase} (step : FlushStep s i f p e q m) :
    Uses s i (.flushing f p) q m := by
  cases step with
  | locks free => exact ⟨free ▸ .takes trivial, .keeps Iff.rfl⟩
  | unlocks => exact ⟨.releases trivial id, .keeps Iff.rfl⟩
  | loads free => exact ⟨.keeps Iff.rfl, free ▸ .takes nofun⟩
  | clears => exact ⟨.keeps Iff.rfl, .releases nofun (· rfl)⟩
  | _ => exact ⟨.keeps Iff.rfl, .keeps Iff.rfl⟩

theorem apart_locks {p : Phase F} (apart : p.Apart) : ¬ p.Locked ∧ p.errLocked = none := by
  cases p with
  | reading r p | writing w p | flushing f p => cases p <;> first | exact ⟨id, rfl⟩ | cases apart
  | _ => exact ⟨id, rfl⟩

theorem aside_uses (step : Aside s i e q m) : Uses s i (s.thread i) q m := by
  obtain ⟨frame, before, after, _⟩ := step
  obtain ⟨out, clear⟩ := apart_locks before
  obtain ⟨out', clear'⟩ := apart_locks after
  rw [frame]
  exact ⟨.keeps (by simp [out, out']), .keeps (by simp [clear, clear'])⟩

section Runs

variable [DecidableEq I] [DecidableEq F]

omit [DecidableEq F] in
theorem locks_call {p : Phase F} (locks : Locks s) (here : s.thread i = p)
    (uses : Uses s i p q m) (core : m.core = s.core) :
    Locks { m with thread := update s.thread i q } := by
  subst here
  refine ⟨held_use locks.calls call_injective uses.mutex, ?_,
    held_use locks.err injective_id uses.err⟩
  change m.core.Locked ↔ m.ioMutex = some .core
  rw [core, locks.core]
  have stranger : (Owner.core : Owner I) ≠ .call i := nofun
  exact (use_other locks.calls uses.mutex stranger).symm

omit [DecidableEq I] [DecidableEq F] in
theorem locks_core {core : Core} (locks : Locks s) (here : s.core = core)
    (before : ¬ core.Locked) (after : ¬ t.core.Locked) (mutex : t.ioMutex = s.ioMutex)
    (err : t.errLock = s.errLock) (thread : t.thread = s.thread) : Locks t := by
  subst here
  refine ⟨?_, ?_, ?_⟩
  · rw [mutex, thread]
    exact locks.calls
  · rw [mutex, ← locks.core]
    exact ⟨fun has => absurd has after, fun has => absurd has before⟩
  · rw [err, thread]
    exact locks.err

omit [DecidableEq I] [DecidableEq F] in
theorem core_locks (locks : Locks s) (step : CoreStep s e t) : Locks t := by
  cases step with
  | mutexLock _ free =>
    refine ⟨fun i => (locks.calls i).trans ?_, ?_, locks.err⟩
    · simp [free]
    · simp [Core.Locked]
  | setDisconnected here =>
    refine ⟨locks.calls, ?_, locks.err⟩
    rw [← locks.core, here]
    simp [Core.Locked]
  | mutexUnlock here =>
    have mine : s.ioMutex = some .core := locks.core.mp (.inr here)
    refine ⟨fun i => (locks.calls i).trans ?_, ?_, locks.err⟩
    · simp [mine]
    · simp [Core.Locked]
  | noMemory here | kzalloc here | noEndpoints here | endpoints _ here | noBuffer here
  | buffer here _ | noUrb here | urb here | setIntfdata here | registerFails here
  | clearIntfdata here | error here | registerDev here | disconnect here
  | deregisterDev here _ | killUrb here _ | killAnchored here _ | krefPut here =>
    exact locks_core locks here (by simp [Core.Locked]) (by simp [Core.Locked, krefPut]) rfl rfl rfl

theorem step_locks (locks : Locks s) (move : Step s e t) : Locks t := by
  cases step_kind move with
  | empty => exact locks
  | aside step => exact locks_call locks rfl (aside_uses step) (by rw [step.frame])
  | reading here step => exact locks_call locks here (read_uses step) (by rw [(read_frame step).1])
  | writing here step =>
    exact locks_call locks here (write_uses step) (by rw [(write_frame step).1])
  | flushing here step =>
    exact locks_call locks here (flush_uses step) (by rw [(flush_frame step).1])
  | device step =>
    rw [device_frame step]
    exact ⟨locks.calls, locks.core, locks.err⟩
  | core step => exact core_locks locks step

end Runs

end MadDriver.Skel

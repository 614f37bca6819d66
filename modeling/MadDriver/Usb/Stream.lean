import Mathlib.Data.List.Basic
import MadDriver.Usb.Life

/-! The stream of bytes from the completions of the read URB to the reads, through the
receive buffer and its two cursors. -/
namespace MadDriver.Skel
open Kernel Transition Lock Function

variable {I F : Type} {s m t : State I F} {i : I} {f : F} {e : Event I} {q : Phase F}
  {hist : List (Event I)}

def Event.bytesIn : Event I → List UInt8
  | .delivers data => data
  | _ => []

def Event.bytesOut : Event I → List UInt8
  | .returns _ (.given bytes) => bytes
  | _ => []

def delivered (hist : List (Event I)) : List UInt8 := hist.flatMap Event.bytesIn

def handedOut (hist : List (Event I)) : List UInt8 := hist.flatMap Event.bytesOut

def Event.Faults : Event I → Prop
  | .copies true _ => True
  | _ => False

instance : (e : Event I) → Decidable e.Faults
  | .copies true _ => .isTrue trivial
  | .copies false _ | .internal | .startsRead | .startsWrite _ | .delivers _ | .stores .. | .loads _
  | .clears .. | .returns .. | .disconnects => .isFalse id

def Phase.hand : Phase F → List UInt8
  | .reading _ (.unlock (.given bytes)) => bytes
  | _ => []

/-- What the call inside io_mutex has copied to the user and will return. -/
def hand (s : State I F) : List UInt8 :=
  match s.ioMutex with
  | some (.call i) => (s.thread i).hand
  | _ => []

def pending (s : State I F) : List UInt8 :=
  Bytes.slice s.bulkInBuffer s.bulkInCopied (s.bulkInFilled - s.bulkInCopied)

/-- In order, without loss and without duplication: what was delivered and not handed out
is still in hand or in the buffer, so no read that failed has consumed any of it. -/
def Sound (hist : List (Event I)) (s : State I F) : Prop :=
  handedOut hist ++ hand s ++ pending s = delivered hist

theorem prefix_of_sound (sound : Sound hist s) : handedOut hist <+: delivered hist :=
  ⟨hand s ++ pending s, (List.append_assoc _ _ _).symm.trans sound⟩

def Core.buffered : Core → Bool
  | .kzalloc | .noMemory | .findEndpoints | .allocBuffer | .error | .failed => false
  | _ => true

structure Cursors (s : State I F) : Prop where
  copied : s.bulkInCopied ≤ s.bulkInFilled
  filled : s.bulkInFilled ≤ s.bulkInBuffer.length
  flying : ∀ n, s.readUrb = some n → s.bulkInFilled = 0 ∧ n ≤ s.bulkInBuffer.length
  size : s.core.buffered = true → s.bulkInBuffer.length = s.bulkInSize

def Passes (s : State I F) (e : Event I) (t : State I F) : Prop :=
  e.bytesOut ++ hand t ++ pending t = hand s ++ pending s ++ e.bytesIn

theorem sound_snoc_iff (sound : Sound hist s) : Sound (hist ++ [e]) t ↔ Passes s e t := by
  have out : handedOut (hist ++ [e]) = handedOut hist ++ e.bytesOut := by
    simp [handedOut, List.flatMap_append]
  have into : delivered (hist ++ [e]) = handedOut hist ++ (hand s ++ pending s ++ e.bytesIn) := by
    have before : delivered hist = handedOut hist ++ hand s ++ pending s := sound.symm
    simp only [delivered, List.flatMap_append, List.flatMap_cons, List.flatMap_nil,
      List.append_nil] at before ⊢
    rw [before]
    simp only [List.append_assoc]
  unfold Sound Passes
  simp only [out, into, List.append_assoc, List.append_right_inj]

theorem pending_nil (empty : s.bulkInFilled - s.bulkInCopied = 0) : pending s = [] := by
  rw [pending, empty]
  exact List.take_zero

theorem doReadIo_urb {submit rv : Option Errno} {count : Nat}
    (done : skelDoReadIo submit count s = (rv, m)) :
    m.readUrb = some (min s.bulkInSize count) ∨ m.readUrb = s.readUrb := by
  cases submit with
  | none =>
    cases done
    exact .inl rfl
  | some _ =>
    cases done
    exact .inr rfl

theorem copyOut_cases {fault : Bool} {submit : Option Errno} {count : Nat} {ret : Return}
    (done : copyOut fault submit count s = (ret, m)) :
    (s.bulkInFilled - s.bulkInCopied < count ∧ ∃ rv left, skelDoReadIo submit left
        { s with bulkInCopied := s.bulkInCopied + (s.bulkInFilled - s.bulkInCopied) } = (rv, m)) ∨
    (count ≤ s.bulkInFilled - s.bulkInCopied ∧
      m = { s with bulkInCopied := s.bulkInCopied + count }) := by
  obtain ⟨_, after⟩ := Prod.mk.inj done
  by_cases ahead : s.bulkInFilled - s.bulkInCopied < count
  · rw [if_pos ahead, Nat.min_eq_left (Nat.le_of_lt ahead)] at after
    exact .inl ⟨ahead, _, _, Prod.ext rfl after⟩
  · have enough := Nat.le_of_not_lt ahead
    rw [if_neg ahead, Nat.min_eq_right enough] at after
    exact .inr ⟨enough, after.symm⟩

theorem cursors_io {submit rv : Option Errno} {count : Nat} (cursors : Cursors s)
    (buffered : s.core.buffered = true) (done : skelDoReadIo submit count s = (rv, m)) :
    Cursors m := by
  have urb := doReadIo_urb done
  have frame := doReadIo_frame done
  have buffer : m.bulkInBuffer = s.bulkInBuffer := by rw [frame]
  have filled : m.bulkInFilled = 0 := by rw [frame]
  have copied : m.bulkInCopied = 0 := by rw [frame]
  refine ⟨?_, ?_, ?_, ?_⟩
  · rw [copied]
    exact Nat.zero_le _
  · rw [filled]
    exact Nat.zero_le _
  · intro n flying
    refine ⟨filled, ?_⟩
    rw [buffer]
    rcases urb with asked | same
    · cases asked.symm.trans flying
      rw [cursors.size buffered]
      exact Nat.min_le_left _ _
    · exact (cursors.flying n (same.symm.trans flying)).2
  · rw [frame]
    exact cursors.size

theorem pending_io {submit rv : Option Errno} {count : Nat}
    (done : skelDoReadIo submit count s = (rv, m)) : pending m = [] := by
  rw [doReadIo_frame done]
  exact pending_nil rfl

theorem pending_copyOut {fault : Bool} {submit : Option Errno} {count : Nat} {ret : Return}
    (done : copyOut fault submit count s = (ret, m)) :
    Bytes.slice s.bulkInBuffer s.bulkInCopied (min (s.bulkInFilled - s.bulkInCopied) count) ++
      pending m = pending s := by
  rcases copyOut_cases done with ⟨ahead, rv, left, io⟩ | ⟨enough, rfl⟩
  · rw [pending_io io, Nat.min_eq_left (Nat.le_of_lt ahead), List.append_nil, pending]
  · have rest : s.bulkInFilled - (s.bulkInCopied + count) =
        s.bulkInFilled - s.bulkInCopied - count := Nat.sub_add_eq _ _ _
    simp only [pending, rest]
    rw [Nat.min_eq_right enough, Bytes.slice_append, Nat.add_sub_cancel' enough]

theorem buffered_of_thread (young : Young s) (busy : s.thread i ≠ .outside) :
    s.core.buffered = true := by
  by_contra missing
  obtain ⟨size, buffer, intfdata, same⟩ := young (by
    cases core : s.core <;> simp_all [Core.buffered, Core.early])
  rw [same] at busy
  exact busy rfl

theorem read_cursors {r : ReadCall F} {p : ReadPhase} (cursors : Cursors s)
    (buffered : s.core.buffered = true) (step : ReadStep s i r p e q m) : Cursors m := by
  cases step with
  | startsIo _ _ done | ioFails _ _ done => exact cursors_io cursors buffered done
  | copies _ _ _ done =>
    rcases copyOut_cases done with ⟨_, rv, left, io⟩ | ⟨enough, rfl⟩
    · have used : Cursors { s with
          bulkInCopied := s.bulkInCopied + (s.bulkInFilled - s.bulkInCopied) } := by
        refine ⟨?_, cursors.filled, cursors.flying, cursors.size⟩
        exact Nat.le_of_eq (Nat.add_sub_cancel' cursors.copied)
      exact cursors_io used buffered io
    · refine ⟨?_, cursors.filled, cursors.flying, cursors.size⟩
      exact Nat.add_le_of_le_sub' cursors.copied enough
  | _ => exact ⟨cursors.copied, cursors.filled, cursors.flying, cursors.size⟩

theorem device_cursors (cursors : Cursors s) (step : DeviceStep s e t) : Cursors t := by
  cases step with
  | @readCompletes n data urb _ short =>
    obtain ⟨empty, room⟩ := cursors.flying n urb
    have start : s.bulkInCopied = 0 := Nat.le_zero.mp (empty ▸ cursors.copied)
    have fits : data.length ≤ s.bulkInBuffer.length := Nat.le_trans short room
    have length : (Bytes.patch s.bulkInBuffer 0 data).length = s.bulkInBuffer.length :=
      Bytes.length_patch (by rwa [Nat.zero_add])
    refine ⟨?_, ?_, nofun, ?_⟩
    · change s.bulkInCopied ≤ data.length
      rw [start]
      exact Nat.zero_le _
    · rw [length]
      exact fits
    · intro buffered
      rw [length]
      exact cursors.size buffered
  | readFails _ urb _ length =>
    refine ⟨cursors.copied, ?_, nofun, ?_⟩
    · rw [length]
      exact cursors.filled
    · intro buffered
      rw [length]
      exact cursors.size buffered
  | writeCompletes _ | writeFails _ _ _ | frees _ | up _ =>
    exact ⟨cursors.copied, cursors.filled, cursors.flying, cursors.size⟩

theorem core_cursors (young : Young s) (cursors : Cursors s) (step : CoreStep s e t) :
    Cursors t := by
  cases step with
  | buffer here length =>
    obtain ⟨size, buffer, intfdata, same⟩ := young (by rw [here]; rfl)
    rw [same] at length ⊢
    exact ⟨Nat.zero_le _, Nat.zero_le _, nofun, fun _ => length⟩
  | noMemory _ | kzalloc _ | noEndpoints _ | endpoints _ _ | noBuffer _ | noUrb _ | error _ =>
    exact ⟨cursors.copied, cursors.filled, cursors.flying, nofun⟩
  | urb here | setIntfdata here | registerFails here | registerDev here | disconnect here
  | deregisterDev here _ | mutexLock here _ | setDisconnected here | mutexUnlock here
  | killUrb here _ | killAnchored here _ | krefPut here =>
    exact ⟨cursors.copied, cursors.filled, cursors.flying,
      fun _ => cursors.size (by rw [here]; rfl)⟩
  | clearIntfdata _ => exact ⟨cursors.copied, cursors.filled, cursors.flying, nofun⟩

theorem hand_locked (locks : Locks s) (locked : (s.thread i).Locked) :
    hand s = (s.thread i).hand := by
  rw [hand, (locks.calls i).mp locked]

theorem hand_core (locks : Locks s) (locked : s.core.Locked) : hand s = [] := by
  rw [hand, locks.core.mp locked]

section Steps

variable [DecidableEq I] [DecidableEq F]

omit [DecidableEq F] in
theorem hand_call {p : Phase F} (locks : Locks s) (here : s.thread i = p)
    (uses : Uses s i p q m) (before : p.hand = []) (after : q.hand = []) :
    hand { m with thread := update s.thread i q } = hand s := by
  subst here
  rcases use_cases uses.mutex with ⟨same, _⟩ | ⟨free, taken, _⟩ | ⟨given, locked, _⟩
  · simp only [hand, same]
    split
    · rename_i j _
      rcases eq_or_ne j i with rfl | away
      · rw [update_self, before, after]
      · rw [update_of_ne away]
    · rfl
  · simp only [hand, free, taken, update_self, after]
  · rw [hand_locked locks locked, before]
    simp only [hand, given]

omit [DecidableEq F] in
theorem passes_call {p : Phase F} (locks : Locks s) (here : s.thread i = p)
    (uses : Uses s i p q m) (before : p.hand = []) (after : q.hand = [])
    (silent : e.bytesIn = [] ∧ e.bytesOut = []) (kept : m.bulkInBuffer = s.bulkInBuffer ∧
      m.bulkInFilled = s.bulkInFilled ∧ m.bulkInCopied = s.bulkInCopied) :
    Passes s e { m with thread := update s.thread i q } := by
  obtain ⟨buffer, filled, copied⟩ := kept
  rw [Passes, hand_call locks here uses before after, silent.1, silent.2, List.append_nil]
  simp only [pending, buffer, filled, copied, List.nil_append]

omit [DecidableEq F] in
theorem passes_inside_iff {p : Phase F} (locks : Locks s) (here : s.thread i = p)
    (inside : p.Locked ∧ q.Locked) (mutex : m.ioMutex = s.ioMutex)
    (silent : e.bytesIn = [] ∧ e.bytesOut = []) :
    Passes s e { m with thread := update s.thread i q } ↔
      q.hand ++ pending m = p.hand ++ pending s := by
  subst here
  have owner := (locks.calls i).mp inside.1
  have now : hand { m with thread := update s.thread i q } = q.hand := by
    simp only [hand, mutex, owner, update_self]
  rw [Passes, now, hand_locked locks inside.1, silent.1, silent.2, List.append_nil]
  exact Iff.rfl

omit [DecidableEq F] in
/-- In the steps of a read everything goes on but for the bytes of a failed copy. -/
theorem read_passes_iff {r : ReadCall F} {p : ReadPhase} (locks : Locks s) (cursors : Cursors s)
    (here : s.thread i = .reading r p) (step : ReadStep s i r p e q m) :
    Passes s e { m with thread := update s.thread i q } ↔ ¬ e.Faults := by
  have uses := read_uses step
  cases step with
  | startsIo _ empty done | ioFails _ empty done =>
    have mutex : m.ioMutex = s.ioMutex := by rw [doReadIo_frame done]
    have used : s.bulkInFilled - s.bulkInCopied = 0 := by omega
    have kept : pending m = pending s := by rw [pending_io done, pending_nil used]
    refine Iff.trans (passes_inside_iff locks here ⟨trivial, trivial⟩ mutex ⟨rfl, rfl⟩) ?_
    exact iff_of_true (congrArg _ kept) id
  | @copies fault submit ret m filled available _ done =>
    have mutex : m.ioMutex = s.ioMutex := by rw [copyOut_frame done]
    have moved := pending_copyOut done
    have result := (Prod.mk.inj done).1
    refine Iff.trans (passes_inside_iff locks here ⟨trivial, trivial⟩ mutex ⟨rfl, rfl⟩) ?_
    cases fault with
    | false =>
      subst result
      exact iff_of_true moved id
    | true =>
      subst result
      refine iff_of_false (fun kept => ?_) (fun sound => sound trivial)
      -- the cursor has passed at least one byte
      have same : pending m = pending s := kept
      have length := congrArg List.length (moved.trans same.symm)
      have asked := r.some_asked
      have inside := cursors.filled
      simp only [List.length_append, Bytes.length_slice] at length
      omega
  | @unlocks ret =>
    refine iff_of_true ?_ id
    have before : hand s = (Phase.reading r (.unlock ret)).hand := by
      rw [hand_locked locks (i := i) (by rw [here]; trivial), here]
    change _ ++ [] ++ pending s = hand s ++ pending s ++ []
    rw [before, List.append_nil, List.append_nil]
    cases ret <;> rfl
  | _ => exact iff_of_true (passes_call locks here uses rfl rfl ⟨rfl, rfl⟩ ⟨rfl, rfl, rfl⟩) id

omit [DecidableEq I] [DecidableEq F] in
theorem device_passes (cursors : Cursors s) (step : DeviceStep s e t) : Passes s e t := by
  cases step with
  | @readCompletes n data urb _ _ =>
    have empty := (cursors.flying n urb).1
    have start : s.bulkInCopied = 0 := Nat.le_zero.mp (empty ▸ cursors.copied)
    have before : pending s = [] := pending_nil (by rw [empty, Nat.zero_sub])
    have after : Bytes.slice (Bytes.patch s.bulkInBuffer 0 data) 0 data.length = data := by
      simp [Bytes.slice, Bytes.patch]
    change [] ++ hand s ++ Bytes.slice _ s.bulkInCopied (data.length - s.bulkInCopied) =
      hand s ++ pending s ++ data
    rw [start, Nat.sub_zero, after, before, List.append_nil]
    rfl
  | @readFails n buffer _ urb _ _ =>
    have empty := (cursors.flying n urb).1
    have before : pending s = [] := pending_nil (by rw [empty, Nat.zero_sub])
    change [] ++ hand s ++ Bytes.slice buffer s.bulkInCopied (s.bulkInFilled - s.bulkInCopied) =
      hand s ++ pending s ++ []
    rw [before, empty, Nat.zero_sub]
    exact (List.append_nil _).symm
  | writeCompletes _ | writeFails _ _ _ | frees _ | up _ =>
    exact (List.append_nil _).symm

omit [DecidableEq I] [DecidableEq F] in
theorem core_passes (young : Young s) (locks : Locks s) (step : CoreStep s e t) :
    Passes s e t := by
  cases step with
  | mutexLock _ free =>
    have before : hand s = [] := by rw [hand, free]
    change pending s = hand s ++ pending s ++ []
    rw [before, List.append_nil]
    rfl
  | mutexUnlock here =>
    have before : hand s = [] := hand_core locks (.inr here)
    change pending s = hand s ++ pending s ++ []
    rw [before, List.append_nil]
    rfl
  | buffer here _ =>
    obtain ⟨size, buffer, intfdata, same⟩ := young (by rw [here]; rfl)
    rw [same]
    rfl
  | _ => exact (List.append_nil _).symm

omit [DecidableEq I] [DecidableEq F] in
theorem apart_hand {p : Phase F} (apart : p.Apart) : p.hand = [] := by
  cases p with
  | reading r p => cases p <;> first | rfl | cases apart
  | _ => rfl

omit [DecidableEq I] [DecidableEq F] in
theorem plain_silent (plain : e.Plain) : (e.bytesIn = [] ∧ e.bytesOut = []) ∧ ¬ e.Faults := by
  cases e with
  | internal => exact ⟨⟨rfl, rfl⟩, id⟩
  | returns i ret =>
    cases ret with
    | given bytes => cases plain
    | done _ | failed _ => exact ⟨⟨rfl, rfl⟩, id⟩
  | _ => cases plain

omit [DecidableEq I] [DecidableEq F] in
theorem write_silent {w : WriteCall F} {p : WritePhase} (step : WriteStep s i w p e q m) :
    (e.bytesIn = [] ∧ e.bytesOut = []) ∧ ¬ e.Faults := by
  cases step <;> exact ⟨⟨rfl, rfl⟩, id⟩

omit [DecidableEq I] [DecidableEq F] in
theorem flush_silent {p : FlushPhase} (step : FlushStep s i f p e q m) :
    (e.bytesIn = [] ∧ e.bytesOut = []) ∧ ¬ e.Faults := by
  cases step with
  | @unlocks e => cases e <;> exact ⟨⟨rfl, rfl⟩, id⟩
  | _ => exact ⟨⟨rfl, rfl⟩, id⟩

theorem step_passes_iff (young : Young s) (locks : Locks s) (cursors : Cursors s)
    (move : Step s e t) : Passes s e t ↔ ¬ e.Faults := by
  cases step_kind move with
  | reading here step => exact read_passes_iff locks cursors here step
  | device step =>
    exact iff_of_true (device_passes cursors step) (by cases step <;> exact id)
  | core step => exact iff_of_true (core_passes young locks step) (by cases step <;> exact id)
  | empty => exact iff_of_true (List.append_nil _).symm id
  | aside step =>
    obtain ⟨silent, sound⟩ := plain_silent step.event
    refine iff_of_true (passes_call locks rfl (aside_uses step) (apart_hand step.before)
      (apart_hand step.after) silent ?_) sound
    rw [step.frame]
    exact ⟨rfl, rfl, rfl⟩
  | writing here step =>
    obtain ⟨frame, after⟩ := write_frame step
    obtain ⟨silent, sound⟩ := write_silent step
    refine iff_of_true (passes_call locks here (write_uses step) rfl ?_ silent ?_) sound
    · rcases after with rfl | ⟨_, rfl⟩ <;> rfl
    · rw [frame]
      exact ⟨rfl, rfl, rfl⟩
  | flushing here step =>
    obtain ⟨frame, after⟩ := flush_frame step
    obtain ⟨silent, sound⟩ := flush_silent step
    refine iff_of_true (passes_call locks here (flush_uses step) rfl ?_ silent ?_) sound
    · rcases after with rfl | ⟨_, rfl⟩ <;> rfl
    · rw [frame]
      exact ⟨rfl, rfl, rfl⟩

theorem step_cursors (young : Young s) (cursors : Cursors s) (move : Step s e t) : Cursors t := by
  cases step_kind move with
  | empty => exact cursors
  | device step => exact device_cursors cursors step
  | core step => exact core_cursors young cursors step
  | @reading i _ _ _ _ _ here step =>
    have buffered := buffered_of_thread young (i := i) (by simp [here])
    obtain ⟨copied, filled, flying, size⟩ := read_cursors cursors buffered step
    exact ⟨copied, filled, flying, size⟩
  | aside step =>
    rw [step.frame]
    exact ⟨cursors.copied, cursors.filled, cursors.flying, cursors.size⟩
  | writing _ step =>
    rw [(write_frame step).1]
    exact ⟨cursors.copied, cursors.filled, cursors.flying, cursors.size⟩
  | flushing _ step =>
    rw [(flush_frame step).1]
    exact ⟨cursors.copied, cursors.filled, cursors.flying, cursors.size⟩

def Phase.SeenIdle : Phase F → Prop
  | .reading _ .errors | .reading _ (.clear _) | .reading _ .data => True
  | _ => False

structure ReadUrb (s : State I F) : Prop where
  ongoing : s.ongoingRead = s.readUrb.isSome
  seen : ∀ i, (s.thread i).SeenIdle → s.readUrb = none

omit [DecidableEq I] [DecidableEq F] in
theorem locked_of_seen {p : Phase F} (seen : p.SeenIdle) : p.Locked := by
  cases p with
  | reading r p => cases p <;> trivial
  | _ => cases seen

omit [DecidableEq I] [DecidableEq F] in
theorem urb_of_quiet (urb : ReadUrb s) (quiet : s.ongoingRead = false) : s.readUrb = none := by
  have idle := urb.ongoing.symm.trans quiet
  rwa [Option.isSome_eq_false_iff, Option.isNone_iff_eq_none] at idle

omit [DecidableEq I] [DecidableEq F] in
theorem doReadIo_ongoing {submit rv : Option Errno} {count : Nat} (idle : s.readUrb = none)
    (done : skelDoReadIo submit count s = (rv, m)) : m.ongoingRead = m.readUrb.isSome := by
  cases submit with
  | none =>
    cases done
    rfl
  | some _ =>
    cases done
    simp [idle]

omit [DecidableEq F] in
theorem urb_stays (urb : ReadUrb s) (ongoing : m.ongoingRead = s.ongoingRead)
    (same : m.readUrb = s.readUrb) (seen : q.SeenIdle → s.readUrb = none) :
    ReadUrb { m with thread := update s.thread i q } := by
  refine ⟨?_, fun j here => ?_⟩
  · change m.ongoingRead = m.readUrb.isSome
    rw [ongoing, same, urb.ongoing]
  · change m.readUrb = none
    rw [same]
    change (update s.thread i q j).SeenIdle at here
    rcases eq_or_ne j i with rfl | away
    · rw [update_self] at here
      exact seen here
    · rw [update_of_ne away] at here
      exact urb.seen j here

omit [DecidableEq F] in
theorem urb_moves (locks : Locks s) (inside : (s.thread i).Locked) (unseen : ¬ q.SeenIdle)
    (ongoing : m.ongoingRead = m.readUrb.isSome) :
    ReadUrb { m with thread := update s.thread i q } := by
  refine ⟨ongoing, fun j here => ?_⟩
  change (update s.thread i q j).SeenIdle at here
  rcases eq_or_ne j i with rfl | away
  · rw [update_self] at here
    exact absurd here unseen
  · rw [update_of_ne away] at here
    exact absurd (held_one locks.calls call_injective (locked_of_seen here) inside) away

omit [DecidableEq F] in
theorem read_urb {r : ReadCall F} {p : ReadPhase} (locks : Locks s) (urb : ReadUrb s)
    (here : s.thread i = .reading r p) (step : ReadStep s i r p e q m) :
    ReadUrb { m with thread := update s.thread i q } := by
  have before (seen : (Phase.reading r p).SeenIdle) : s.readUrb = none :=
    urb.seen i (by rwa [here])
  cases step with
  | quiet _ quiet => exact urb_stays urb rfl rfl fun _ => urb_of_quiet urb quiet
  | woken quiet => exact urb_stays urb rfl rfl fun _ => urb_of_quiet urb quiet
  | noError _ | error _ => exact urb_stays urb rfl rfl fun _ => before trivial
  | startsIo _ _ done | ioFails _ _ done =>
    refine urb_moves locks (by rw [here]; trivial) id ?_
    exact doReadIo_ongoing (before trivial) done
  | copies _ _ _ done =>
    refine urb_moves locks (by rw [here]; trivial) id ?_
    rcases copyOut_cases done with ⟨_, rv, left, io⟩ | ⟨_, rfl⟩
    · exact doReadIo_ongoing (by exact before trivial) io
    · exact urb.ongoing
  | _ => exact urb_stays urb rfl rfl nofun

theorem step_urb (locks : Locks s) (urb : ReadUrb s) (move : Step s e t) : ReadUrb t := by
  cases step_kind move with
  | empty => exact urb
  | reading here step => exact read_urb locks urb here step
  | device step =>
    cases step with
    | readCompletes _ _ _ | readFails _ _ _ _ => exact ⟨rfl, fun _ _ => rfl⟩
    | writeCompletes _ | writeFails _ _ _ | frees _ | up _ => exact ⟨urb.ongoing, urb.seen⟩
  | core step =>
    rw [core_frame step]
    exact ⟨urb.ongoing, urb.seen⟩
  | aside step =>
    refine urb_stays urb ?_ ?_ fun seen => ?_
    · rw [step.frame]
    · rw [step.frame]
    · exact absurd (locked_of_seen seen) (apart_locks step.after).1
  | writing _ step =>
    obtain ⟨frame, after⟩ := write_frame step
    refine urb_stays urb ?_ ?_ fun seen => ?_
    · rw [frame]
    · rw [frame]
    · rcases after with rfl | ⟨_, rfl⟩ <;> cases seen
  | flushing _ step =>
    obtain ⟨frame, after⟩ := flush_frame step
    refine urb_stays urb ?_ ?_ fun seen => ?_
    · rw [frame]
    · rw [frame]
    · rcases after with rfl | ⟨_, rfl⟩ <;> cases seen

structure Reads (s : State I F) : Prop where
  young : Young s
  locks : Locks s
  cursors : Cursors s

omit [DecidableEq I] [DecidableEq F] in
theorem plugged_reads : Reads (plugged : State I F) :=
  ⟨fun _ => ⟨0, [], false, rfl⟩, plugged_locks,
    ⟨Nat.le_refl 0, Nat.le_refl 0, nofun, nofun⟩⟩

theorem run_reads (run : Run Step plugged hist s) : Reads s := by
  refine run_invariant Reads plugged_reads ?_ run
  rintro s e t ⟨young, locks, cursors⟩ step
  exact ⟨step_young young step, step_locks locks step, step_cursors young cursors step⟩

/-- The flag ongoing_read says whether the URB of the reads is in flight, and
skel_do_read_io is called only while it is not. -/
theorem submits_idle (run : Run Step plugged hist s) :
    s.ongoingRead = s.readUrb.isSome ∧
      ∀ i r, s.thread i = .reading r .data → s.readUrb = none := by
  have both : Locks s ∧ ReadUrb s := by
    refine run_invariant (fun s => Locks s ∧ ReadUrb s) ⟨plugged_locks, rfl, nofun⟩ ?_ run
    rintro s e t ⟨locks, urb⟩ step
    exact ⟨step_locks locks step, step_urb locks urb step⟩
  exact ⟨both.2.ongoing, fun i r here => both.2.seen i (by rw [here]; trivial)⟩

/-- In every run without a failed copy_to_user the reads have handed out what was
delivered, in order and each byte once, but for what is about to be returned and what is
left in the buffer; and the next step keeps that exactly when it is no failed copy. -/
theorem reads_sound (run : Run (Guarded Step fun _ e => ¬ e.Faults) plugged hist s) :
    handedOut hist <+: delivered hist ∧ Sound hist s ∧
      ∀ e t, Step s e t → (Sound (hist ++ [e]) t ↔ ¬ e.Faults) := by
  have next {hist : List (Event I)} {s : State I F} (run : Run Step plugged hist s)
      (sound : Sound hist s) (e : Event I) (t : State I F) (step : Step s e t) :
      Sound (hist ++ [e]) t ↔ ¬ e.Faults := by
    obtain ⟨young, locks, cursors⟩ := run_reads run
    exact (sound_snoc_iff sound).trans (step_passes_iff young locks cursors step)
  have initial : Sound [] (plugged : State I F) := rfl
  have sound : Sound hist s := by
    refine run_history Sound initial ?_ run
    intro hist s e t before sound step
    exact (next (run_unguarded before) sound e t step.1).mpr step.2
  exact ⟨prefix_of_sound sound, sound, next (run_unguarded run) sound⟩

end Steps

def twoBytes : ReadCall Unit := ⟨(), 2, false, by decide⟩

def inRead (p : ReadPhase) (s : State Unit Unit) : State Unit Unit :=
  { s with ioMutex := some (.call ()), thread := fun _ => .reading twoBytes p }

theorem inRead_step {s m : State Unit Unit} {e : Event Unit} {p p' : ReadPhase}
    (step : ReadStep (inRead p s) () twoBytes p e (.reading twoBytes p') (inRead p m)) :
    Step (inRead p s) e (inRead p' m) := .reading rfl step

theorem inRead_run {hist : List (Event Unit)} {s : State Unit Unit}
    (run : Run Step plugged hist s) (outside : s.thread () = .outside)
    (opened : s.file () = .opened) (free : s.ioMutex = none ∧ s.errLock = none)
    (connected : s.disconnected = false) (quiet : s.ongoingRead = false)
    (clear : s.errors = none) :
    Run Step plugged (hist ++ [.internal, .internal, .internal, .internal, .loads ()])
      (inRead .data s) := by
  have enters := Enters.reads (s := s) (i := ()) (r := twoBytes) opened
  have entered : Step s .internal { s with thread := fun _ => .reading twoBytes .mutexLock } :=
    .enters outside enters
  have locks : Step { s with thread := fun _ => .reading twoBytes .mutexLock } .internal
      (inRead .disconnected s) := .reading rfl (.locks (by exact free.1))
  have present : Step (inRead .disconnected s) .internal (inRead .ongoingRead s) :=
    inRead_step (.present (by exact connected))
  have quiet : Step (inRead .ongoingRead s) .internal (inRead .errors s) :=
    inRead_step (.quiet (by exact free.2) (by exact quiet))
  have looked : Step (inRead .errors s) (.loads ()) (inRead .data s) :=
    inRead_step (.noError (by exact clear))
  have done := Run.snoc (.snoc (.snoc (.snoc (.snoc run entered) locks) present) quiet) looked
  simpa only [List.append_assoc, List.cons_append, List.nil_append] using done

def filled (bytes : List UInt8) (copied : Nat) : State Unit Unit :=
  { (inUse [0, 0] : State Unit Unit) with
    bulkInBuffer := Bytes.patch [0, 0] 0 bytes
    bulkInFilled := bytes.length
    bulkInCopied := copied }

def flying (bytes : List UInt8) (n : Nat) : State Unit Unit :=
  { (inUse [0, 0] : State Unit Unit) with
    bulkInBuffer := Bytes.patch [0, 0] 0 bytes
    ongoingRead := true
    readUrb := some n }

def firstDelivered : List (Event Unit) :=
  List.replicate 10 .internal ++ [.returns () (.done 0), .internal, .internal, .internal,
    .internal, .loads (), .startsRead, .internal, .delivers [1], .internal, .loads ()]

theorem firstDelivered_run : Run Step plugged firstDelivered (inRead .data (filled [1] 0)) := by
  have first := inRead_run (inUse_run () [0, 0]) rfl rfl ⟨rfl, rfl⟩ rfl rfl rfl
  have asks : Step (inRead .data (inUse [0, 0])) .startsRead (inRead .ongoingRead (flying [] 2)) :=
    inRead_step (.startsIo rfl (.inl rfl) (rfl : skelDoReadIo none _ _ = _))
  have waits : Step (inRead .ongoingRead (flying [] 2)) .internal
      (inRead .waitEvent (flying [] 2)) := inRead_step (.waits rfl rfl rfl)
  have one : Step (inRead .waitEvent (flying [] 2)) (.delivers [1])
      (inRead .waitEvent (filled [1] 0)) := .device (.readCompletes rfl rfl (by decide))
  have woken : Step (inRead .waitEvent (filled [1] 0)) .internal
      (inRead .errors (filled [1] 0)) := inRead_step (.woken rfl)
  have looked : Step (inRead .errors (filled [1] 0)) (.loads ())
      (inRead .data (filled [1] 0)) := inRead_step (.noError rfl)
  have done := Run.snoc (.snoc (.snoc (.snoc (.snoc first asks) waits) one) woken) looked
  simpa only [firstDelivered, List.append_assoc, List.cons_append, List.nil_append] using done

/-- After a completed read URB the next one may be submitted. -/
theorem submits_idle_again : ∃ (hist : List (Event Unit)) (s : State Unit Unit),
    Run Step plugged hist s ∧ delivered hist = [1] ∧ s.thread () = .reading twoBytes .data ∧
      s.ongoingRead = s.readUrb.isSome ∧
      ∀ i r, s.thread i = .reading r .data → s.readUrb = none :=
  ⟨_, _, firstDelivered_run, rfl, rfl, submits_idle firstDelivered_run⟩

theorem copied_run {hist : List (Event Unit)} {byte : UInt8}
    (run : Run Step plugged hist (inRead .data (filled [byte] 0))) :
    Run Step plugged (hist ++ [.copies false true] ++ [.returns () (.given [byte])])
      (flying [byte] 1) := by
  have copies : Step (inRead .data (filled [byte] 0)) (.copies false true)
      (inRead (.unlock (.given [byte])) (flying [byte] 1)) :=
    inRead_step (.copies nofun nofun (fun _ => rfl) (rfl : copyOut false none _ _ = _))
  have returned : Step (inRead (.unlock (.given [byte])) (flying [byte] 1))
      (.returns () (.given [byte])) (flying [byte] 1) := .reading rfl .unlocks
  exact .snoc (.snoc run copies) returned

theorem reads_sound_delivered : ∃ (hist : List (Event Unit)) (s : State Unit Unit),
    Run (Guarded Step fun _ e => ¬ e.Faults) plugged hist s ∧ handedOut hist = [1] ∧
      handedOut hist <+: delivered hist ∧ Sound hist s ∧
      ∀ e t, Step s e t → (Sound (hist ++ [e]) t ↔ ¬ e.Faults) := by
  have copied := copied_run firstDelivered_run
  have no_fault : ∀ e ∈ firstDelivered ++ [.copies false true] ++ [.returns () (.given [1])],
      ¬ e.Faults := by decide
  have run := run_guarded copied fun e member _ => no_fault e member
  exact ⟨_, _, run, rfl, reads_sound run⟩

/-- The device delivers one byte, the copy of it fails, and the next read hands out the
byte delivered after it. -/
theorem failed_copy_loses : ∃ (hist : List (Event Unit)) (s : State Unit Unit),
    Run Step plugged hist s ∧ delivered hist = [1, 2] ∧ handedOut hist = [2] ∧
      ¬ handedOut hist <+: delivered hist := by
  have faults : Step (inRead .data (filled [1] 0)) (.copies true true)
      (inRead (.unlock (.failed (.code ⟨-EFAULT, by decide⟩))) (flying [1] 1)) :=
    inRead_step (.copies nofun nofun (fun _ => rfl) (rfl : copyOut true none _ _ = _))
  have failed : Step (inRead (.unlock (.failed (.code ⟨-EFAULT, by decide⟩))) (flying [1] 1))
      (.returns () (.failed (.code ⟨-EFAULT, by decide⟩))) (flying [1] 1) := .reading rfl .unlocks
  have two : Step (flying [1] 1) (.delivers [2]) (filled [2] 0) :=
    .device (.readCompletes rfl rfl (by decide))
  have lost := Run.snoc (.snoc (.snoc firstDelivered_run faults) failed) two
  have second := inRead_run lost rfl rfl ⟨rfl, rfl⟩ rfl rfl rfl
  exact ⟨_, _, copied_run second, rfl, rfl, by decide⟩

end MadDriver.Skel

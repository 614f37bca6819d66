import MadDriver.Core.Critical
import MadDriver.Pcd.BodyFacts
import MadDriver.Pcd.Drivers
import MadDriver.Pcd.System

/-! The locked device of pcd_lock.c step by step. A write that finds no room returns
without giving the mutex back; without such a write the calls are serialised. -/
namespace MadDriver.Pcd.Lock
open Kernel Critical Transition

inductive Request where
  | read (user : UserAccess) (count : Count)
  | write (user : UserAccess) (buff : UserBytes)

def Request.count : Request → UInt64
  | .read _ count => count.val
  | .write _ buff => buff.count

inductive Stage where
  | clamp
  | space
  | copy
  | update
  | ret (value : Int64) (unlocks : Bool)

/-- The local variables of a call, and the position the VFS passed to it. -/
structure Work where
  request : Request
  entry : Int64
  fPos : Int64
  count : UInt64
  out : List UInt8
  stage : Stage

def enterCall (request : Request) (fPos : Int64) : Work :=
  ⟨request, fPos, fPos, request.count, [], .clamp⟩

def advanceCall (buffer : List UInt8) (w : Work) : Option (List UInt8 × Work) :=
  match w.stage, w.request with
  | .clamp, .read _ _ =>
    some (buffer, { w with count := adjustCount DEV_MEM_SIZE w.fPos w.count, stage := .copy })
  | .clamp, .write _ _ =>
    some (buffer, { w with count := adjustCount DEV_MEM_SIZE w.fPos w.count, stage := .space })
  | .space, _ =>
    some (buffer, { w with stage := if w.count = 0 then .ret (-ENOMEM) false else .copy })
  | .copy, .read user _ =>
    match copyToUser user buffer w.fPos w.count with
    | .done (left, out) =>
      some (buffer, { w with
        out := out
        stage := if left ≠ 0 then .ret (-EFAULT) true else .update })
    | _ => none
  | .copy, .write user buff =>
    match copyFromUser user buffer w.fPos buff.bytes w.count with
    | .done (left, buffer) =>
      some (buffer, { w with stage := if left ≠ 0 then .ret (-EFAULT) true else .update })
    | _ => none
  | .update, _ =>
    some (buffer, { w with
      fPos := w.fPos + w.count.toInt64
      stage := .ret w.count.toInt64 true })
  | .ret _ _, _ => none

def finishCall (w : Work) : Option (Reply × Int64 × Bool) :=
  match w.stage with
  | .ret value unlocks => some (⟨value, w.out⟩, if 0 ≤ value then w.fPos else w.entry, unlocks)
  | _ => none

def callSection : Section (List UInt8) Int64 Request Work Reply :=
  ⟨enterCall, advanceCall, finishCall⟩

def lockCall (dev : PcdDevice) (fPos : Int64) : Request → Outcome (CallResult PcdDevice)
  | .read user count => (pcdFops.read dev user count.val fPos).map (storeBack fPos)
  | .write user buff => (pcdFops.write dev user buff.bytes buff.count fPos).map (storeBack fPos)

theorem ret_completes {buffer buffer' : List UInt8} {w w' : Work} {value : Int64} {unlocks : Bool}
    {e : Reply × Int64 × Bool} (stage : w.stage = .ret value unlocks)
    (steps : Steps callSection (buffer, w) (buffer', w')) (finished : finishCall w' = some e) :
    buffer' = buffer ∧ e = (⟨value, w.out⟩, if 0 ≤ value then w.fPos else w.entry, unlocks) := by
  rcases Relation.ReflTransGen.cases_head steps with same | ⟨z, moved, _⟩
  · cases same
    rw [finishCall, stage] at finished
    exact ⟨rfl, (Option.some.inj finished).symm⟩
  · simp [callSection, advanceCall, stage] at moved

theorem update_completes {buffer buffer' : List UInt8} {w w' : Work} {e : Reply × Int64 × Bool}
    (stage : w.stage = .update) (steps : Steps callSection (buffer, w) (buffer', w'))
    (finished : finishCall w' = some e) :
    buffer' = buffer ∧ e = (⟨w.count.toInt64, w.out⟩,
      if 0 ≤ w.count.toInt64 then w.fPos + w.count.toInt64 else w.entry, true) := by
  have running : finishCall w = none := by rw [finishCall, stage]
  obtain ⟨_, moved, steps⟩ := steps_next steps finished running
  simp only [callSection, advanceCall, stage, Option.some.injEq] at moved
  subst moved
  exact ret_completes rfl steps finished

theorem copied_completes {buffer buffer' : List UInt8} {w w' : Work} {left : Nat}
    {e : Reply × Int64 × Bool}
    (stage : w.stage = if left ≠ 0 then .ret (-EFAULT) true else .update)
    (steps : Steps callSection (buffer, w) (buffer', w')) (finished : finishCall w' = some e) :
    buffer' = buffer ∧ e =
      if left ≠ 0 then (⟨-EFAULT, w.out⟩, w.entry, true)
      else (⟨w.count.toInt64, w.out⟩,
        if 0 ≤ w.count.toInt64 then w.fPos + w.count.toInt64 else w.entry, true) := by
  by_cases fault : left ≠ 0
  · rw [if_pos fault] at stage ⊢
    obtain ⟨same, result⟩ := ret_completes stage steps finished
    exact ⟨same, result⟩
  · rw [if_neg fault] at stage ⊢
    exact update_completes stage steps finished

theorem read_completes {buffer buffer' : List UInt8} {user : UserAccess} {count : Count}
    {fPos fPos' : Int64} {reply : Reply} {released : Bool}
    (completes :
      Completes callSection buffer (.read user count) fPos buffer' reply fPos' released) :
    lockCall ⟨buffer, false⟩ fPos (.read user count) =
      .done ⟨⟨buffer', !released⟩, reply.ret, reply.out, fPos'⟩ := by
  obtain ⟨w, steps, finished⟩ := completes
  obtain ⟨_, moved, steps⟩ := steps_next steps finished rfl
  cases moved
  obtain ⟨_, moved, steps⟩ := steps_next steps finished rfl
  simp only [callSection, advanceCall, enterCall, Request.count] at moved
  split at moved
  · rename_i left out copied
    cases moved
    obtain ⟨rfl, result⟩ := copied_completes rfl steps finished
    simp only [lockCall, pcdFops, pcdRead, Bool.false_eq_true, if_false, copied, Outcome.map,
      Outcome.bind, mutexUnlock]
    by_cases fault : left ≠ 0
    · rw [if_pos fault] at result ⊢
      cases result
      rw [storeBack_eq]
      rfl
    · rw [if_neg fault] at result ⊢
      cases result
      rw [storeBack_eq]
      rfl
  · cases moved

theorem write_completes {buffer buffer' : List UInt8} {user : UserAccess} {buff : UserBytes}
    {fPos fPos' : Int64} {reply : Reply} {released : Bool}
    (completes :
      Completes callSection buffer (.write user buff) fPos buffer' reply fPos' released) :
    lockCall ⟨buffer, false⟩ fPos (.write user buff) =
      .done ⟨⟨buffer', !released⟩, reply.ret, reply.out, fPos'⟩ := by
  obtain ⟨w, steps, finished⟩ := completes
  obtain ⟨_, moved, steps⟩ := steps_next steps finished rfl
  cases moved
  obtain ⟨_, moved, steps⟩ := steps_next steps finished rfl
  simp only [callSection, advanceCall, enterCall, Request.count, Option.some.injEq] at moved
  subst moved
  simp only [lockCall, pcdFops, pcdWrite, Bool.false_eq_true, if_false]
  by_cases full : adjustCount DEV_MEM_SIZE fPos buff.count = 0
  · rw [if_pos full] at steps ⊢
    obtain ⟨rfl, result⟩ := ret_completes rfl steps finished
    cases result
    rfl
  · rw [if_neg full] at steps ⊢
    obtain ⟨_, moved, steps⟩ := steps_next steps finished rfl
    simp only [callSection, advanceCall] at moved
    split at moved
    · rename_i left buffer copied
      cases moved
      obtain ⟨rfl, result⟩ := copied_completes rfl steps finished
      simp only [copied, Outcome.map, Outcome.bind, mutexUnlock]
      by_cases fault : left ≠ 0
      · rw [if_pos fault] at result ⊢
        cases result
        rw [storeBack_eq]
        rfl
      · rw [if_neg fault] at result ⊢
        cases result
        rw [storeBack_eq]
        rfl
    · cases moved

/-- The steps of a whole call do what the call does in one piece. -/
theorem completes_lockCall {buffer buffer' : List UInt8} {request : Request} {fPos fPos' : Int64}
    {reply : Reply} {released : Bool}
    (completes : Completes callSection buffer request fPos buffer' reply fPos' released) :
    lockCall ⟨buffer, false⟩ fPos request =
      .done ⟨⟨buffer', !released⟩, reply.ret, reply.out, fPos'⟩ := by
  cases request with
  | read user count => exact read_completes completes
  | write user buff => exact write_completes completes

def Sound (buffer : List UInt8) : Prop := buffer.length = DEV_MEM_SIZE.toInt

def Fits (fPos : Int64) : Prop := 0 ≤ fPos.toInt ∧ fPos.toInt ≤ DEV_MEM_SIZE.toInt

def HasRoom (request : Request) (fPos : Int64) : Prop :=
  match request with
  | .read _ _ => True
  | .write _ buff => buff.bytes ≠ [] ∧ fPos.toInt ≠ DEV_MEM_SIZE.toInt

structure Clamped (w : Work) : Prop where
  fPos : w.fPos = w.entry
  count : w.count.toNat = span DEV_MEM_SIZE w.entry w.request.count

def StageGood (w : Work) : Prop :=
  match w.stage with
  | .clamp => w.fPos = w.entry ∧ w.count = w.request.count ∧ HasRoom w.request w.entry
  | .space => Clamped w ∧ w.count ≠ 0
  | .copy | .update => Clamped w
  | .ret _ unlocks => unlocks = true ∧ Fits w.fPos

structure WorkGood (buffer : List UInt8) (w : Work) : Prop where
  sound : Sound buffer
  entry : Fits w.entry
  stage : StageGood w

theorem Request.small (request : Request) : request.count.toNat < 2 ^ 63 := by
  cases request with
  | read _ count => exact count.property
  | write _ buff => exact buff.toNat_count ▸ buff.small

theorem fits_placed {buffer : List UInt8} {fPos : Int64} (sound : Sound buffer) (fits : Fits fPos) :
    Placed DEV_MEM_SIZE buffer fPos :=
  ⟨fits.1, fits.2, Int.le_of_eq sound.symm⟩

theorem clamp_clamped {request : Request} {entry : Int64} (fits : Fits entry) (out : List UInt8)
    (stage : Stage) :
    Clamped ⟨request, entry, entry, adjustCount DEV_MEM_SIZE entry request.count, out, stage⟩ :=
  ⟨rfl, adjustCount_span fits.1 fits.2 request.small⟩

theorem room_some {fPos : Int64} {user : UserAccess} {buff : UserBytes} (fits : Fits fPos)
    (room : HasRoom (.write user buff) fPos) : adjustCount DEV_MEM_SIZE fPos buff.count ≠ 0 := by
  intro none_left
  have len := adjustCount_span fits.1 fits.2 (Request.small (.write .full buff))
  have count := buff.toNat_count
  have some_bytes := List.length_pos_of_ne_nil room.1
  have inside := room.2
  have bound := fits.2
  have zero : (0 : UInt64).toNat = 0 := rfl
  simp only [Request.count, none_left, span, zero, count] at len
  omega

theorem copied_sound {buffer buffer' buff : List UInt8} {user : UserAccess} {fPos : Int64}
    {count : UInt64} {left : Nat} (sound : Sound buffer) (fits : Fits fPos)
    (copied : copyFromUser user buffer fPos buff count = .done (left, buffer')) :
    Sound buffer' := by
  unfold copyFromUser at copied
  split at copied
  · rename_i inside
    cases copied
    have short := user.length_copied_le buff count.toNat
    have bound := fits.2
    unfold Sound at *
    rw [Bytes.length_patch, sound]
    rcases inside with none_moved | ⟨_, stop⟩ <;> omega
  · cases copied

theorem fault_good {w : Work} {left : Nat} (entry : Fits w.entry) (clamped : Clamped w)
    (out : List UInt8) :
    StageGood { w with
      out := out
      stage := if left ≠ 0 then .ret (-EFAULT) true else .update } := by
  by_cases fault : left ≠ 0
  · simp only [StageGood, if_pos fault]
    exact ⟨trivial, clamped.fPos ▸ entry⟩
  · simp only [StageGood, if_neg fault]
    exact ⟨clamped.fPos, clamped.count⟩

theorem advance_good (buffer : List UInt8) (w : Work) (buffer' : List UInt8) (w' : Work)
    (good : WorkGood buffer w) (moved : callSection.advance buffer w = some (buffer', w')) :
    WorkGood buffer' w' := by
  obtain ⟨request, start, fPos, count, out, stage⟩ := w
  obtain ⟨sound, entry, holds⟩ := good
  cases stage with
  | clamp =>
    obtain ⟨same, all, room⟩ := holds
    change fPos = start at same
    change count = request.count at all
    subst same all
    cases request with
    | read user count =>
      cases moved
      exact ⟨sound, entry, clamp_clamped entry out .copy⟩
    | write user buff =>
      cases moved
      exact ⟨sound, entry, clamp_clamped entry out .space, room_some entry room⟩
  | space =>
    obtain ⟨clamped, some_left⟩ := holds
    cases moved
    refine ⟨sound, entry, ?_⟩
    simp only [StageGood, if_neg some_left]
    exact ⟨clamped.fPos, clamped.count⟩
  | copy =>
    have clamped : Clamped _ := holds
    cases request with
    | read user count =>
      simp only [callSection, advanceCall] at moved
      split at moved
      · cases moved
        exact ⟨sound, entry, fault_good entry clamped _⟩
      · cases moved
    | write user buff =>
      simp only [callSection, advanceCall] at moved
      split at moved
      · rename_i copied
        cases moved
        have same : fPos = start := clamped.fPos
        have fits : Fits fPos := same ▸ entry
        exact ⟨copied_sound sound fits copied, entry, fault_good entry clamped out⟩
      · cases moved
  | update =>
    obtain ⟨same, len⟩ : Clamped _ := holds
    change fPos = start at same
    subst same
    cases moved
    have moved := advance entry.1 entry.2 len
    exact ⟨sound, entry, rfl, span_position (fits_placed sound entry) len moved.2⟩
  | ret value unlocks => cases moved

theorem finish_good (buffer : List UInt8) (w : Work) (reply : Reply) (fPos : Int64)
    (released : Bool) (good : WorkGood buffer w)
    (finished : callSection.finish w = some (reply, fPos, released)) :
    released = true ∧ Fits fPos ∧ Sound buffer := by
  obtain ⟨request, start, pos, count, out, stage⟩ := w
  obtain ⟨sound, entry, holds⟩ := good
  cases stage with
  | ret value unlocks =>
    obtain ⟨rfl, fits⟩ := holds
    cases finished
    refine ⟨rfl, ?_, sound⟩
    split
    · exact fits
    · exact entry
  | clamp | space | copy | update => cases finished

theorem calls_disciplined : Disciplined callSection HasRoom Sound Fits WorkGood where
  enter _ _ _ sound fits room := ⟨sound, fits, rfl, rfl, room⟩
  advance := advance_good
  finish := finish_good

/-- Inside the mutex a call always has a next step: its copies stay in the buffer. -/
theorem good_moves {buffer : List UInt8} {w : Work} (good : WorkGood buffer w) :
    (∃ z, callSection.advance buffer w = some z) ∨ ∃ e, callSection.finish w = some e := by
  obtain ⟨request, start, fPos, count, out, stage⟩ := w
  obtain ⟨sound, entry, holds⟩ := good
  cases stage with
  | clamp => cases request <;> exact .inl ⟨_, rfl⟩
  | space | update => exact .inl ⟨_, rfl⟩
  | ret value unlocks => exact .inr ⟨_, rfl⟩
  | copy =>
    obtain ⟨same, len⟩ : Clamped _ := holds
    change fPos = start at same
    subst same
    have inside := span_inside (fits_placed sound entry) len
    left
    cases request with
    | read user count =>
      simp only [callSection, advanceCall, copyToUser, if_pos inside]
      exact ⟨_, rfl⟩
    | write user buff =>
      simp only [callSection, advanceCall, copyFromUser, if_pos inside]
      exact ⟨_, rfl⟩

section Clients

variable {I : Type} [DecidableEq I]

abbrev Clients (I : Type) := State I (List UInt8) Int64 Request Work

def Alone (buffer : List UInt8) (request : Request) (fPos : Int64) (buffer' : List UInt8)
    (reply : Reply) (fPos' : Int64) : Prop :=
  lockCall ⟨buffer, false⟩ fPos request = .done ⟨⟨buffer', false⟩, reply.ret, reply.out, fPos'⟩

structure Loaded (s : Clients I) : Prop where
  unlocked : s.locked = false
  idle : ∀ i, s.phase i = .idle
  buffer : Sound s.mem
  positions : ∀ i, Fits (s.own i)

/-- The mutex is held exactly while one call is inside, such a call can go on, and
the answers, the buffer and the positions are those of the calls one at a time. -/
structure LockHolds (s₀ : Clients I) (hist : List (Critical.Event I Request Reply))
    (s : Clients I) : Prop where
  held : s.locked = true ↔ ∃ i w, s.phase i = .inside w
  one : ∀ i j v w, s.phase i = .inside v → s.phase j = .inside w → i = j
  moves : ∀ i w, s.phase i = .inside w →
    (∃ z, callSection.advance s.mem w = some z) ∨ ∃ e, callSection.finish w = some e
  serial : ∃ calls buffer own, Serial Alone s₀.mem s₀.own calls (answers hist) buffer own ∧
    (s.locked = false → calls = acquired hist ∧ buffer = s.mem ∧ own = s.own) ∧
    (s.locked = true → ∃ last, acquired hist = calls ++ [last])

theorem serialised_holds {s₀ s : Clients I} {hist : List (Critical.Event I Request Reply)}
    (serialised : Serialised callSection Sound Fits WorkGood s₀.mem s₀.own hist s) :
    LockHolds s₀ hist s := by
  have alone : ∀ m q l m' r l', Whole callSection m q l m' r l' → Alone m q l m' r l' :=
    fun _ _ _ _ _ _ whole => completes_lockCall whole
  cases serialised with
  | free unlocked nobody _ _ serial =>
    constructor
    · rw [unlocked]
      exact ⟨nofun, fun ⟨i, w, inside⟩ => absurd inside (nobody i w)⟩
    · exact fun i _ v _ inside _ => absurd inside (nobody i v)
    · exact fun i w inside => absurd inside (nobody i w)
    · refine ⟨_, _, _, serial.mono alone, fun _ => ⟨rfl, rfl, rfl⟩, fun locked => ?_⟩
      cases unlocked.symm.trans locked
  | held locked within only good _ order serial _ =>
    constructor
    · exact ⟨fun _ => ⟨_, _, within⟩, fun _ => locked⟩
    · exact fun i j v w first second => (only i v first).trans (only j w second).symm
    · intro i w inside
      cases only i w inside
      cases within.symm.trans inside
      exact good_moves good
    · refine ⟨_, _, _, serial.mono alone, fun unlocked => ?_, fun _ => ⟨_, order⟩⟩
      cases locked.symm.trans unlocked

/-- In every interleaving in which no write without room takes the mutex. -/
theorem lock_serialises {s₀ s : Clients I} {hist : List (Critical.Event I Request Reply)}
    (start : Loaded s₀)
    (run : Run (Guarded (Critical.Step callSection) (Admitted HasRoom)) s₀ hist s) :
    LockHolds s₀ hist s := by
  have nobody : ∀ i w, s₀.phase i ≠ .inside w := by
    intro i w inside
    cases (start.idle i).symm.trans inside
  exact serialised_holds (run_serialised calls_disciplined start.unlocked nobody start.buffer
    start.positions run)

end Clients

def freshClients : Clients Bool where
  locked := false
  mem := List.replicate 512 0
  own _ := 0
  phase _ := .idle

theorem freshClients_loaded : Loaded freshClients where
  unlocked := rfl
  idle _ := rfl
  buffer := by
    change ((List.replicate 512 (0 : UInt8)).length : Int) = DEV_MEM_SIZE.toInt
    rw [List.length_replicate]
    rfl
  positions _ := ⟨Int.le_refl 0, by change (0 : Int64).toInt ≤ DEV_MEM_SIZE.toInt; decide⟩

/-- A write of two bytes takes the mutex while another client waits. -/
theorem lock_serialises_contended : ∃ s, LockHolds freshClients
    [.call true (.write .full ⟨[7, 8], by decide⟩), .call false (.read .full ⟨4, by decide⟩),
     .acquire true (.write .full ⟨[7, 8], by decide⟩), .advance true] s := by
  refine ⟨_, lock_serialises freshClients_loaded
    (.snoc (.snoc (.snoc (.snoc .start ⟨.call rfl, trivial⟩) ⟨.call rfl, trivial⟩)
      ⟨.acquire rfl rfl, ?_⟩) ⟨.advance rfl rfl, trivial⟩)⟩
  exact ⟨by simp, by decide⟩

def emptyWrite : List (Critical.Event Bool Request Reply) :=
  [.call true (.write .full ⟨[], by decide⟩), .acquire true (.write .full ⟨[], by decide⟩),
   .advance true, .advance true, .leave true ⟨-ENOMEM, []⟩]

/-- A write of no bytes has returned and nobody is inside, but the mutex is held. -/
theorem empty_write_keeps_lock : ∃ s, Run (Critical.Step callSection) freshClients emptyWrite s ∧
    s.locked = true ∧ (∀ i, s.phase i = .idle) ∧ ¬ LockHolds freshClients emptyWrite s := by
  refine ⟨_, .snoc (.snoc (.snoc (.snoc (.snoc .start (.call rfl)) (.acquire rfl rfl))
    (.advance rfl rfl)) (.advance rfl rfl)) (.leave rfl rfl), rfl, ?_, ?_⟩
  · intro i
    cases i <;> rfl
  · intro holds
    obtain ⟨i, w, inside⟩ := holds.held.mp rfl
    cases i <;> cases inside

end MadDriver.Pcd.Lock

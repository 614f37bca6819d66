import MadDriver.Core.Transition
import MadDriver.Pcd.BodyFacts
import MadDriver.Pcd.System

/-! The drivers that take no lock, with any number of calls on the same devices and files
at once. A copy goes byte by byte, so any two calls can be mixed anywhere. -/
namespace MadDriver.Pcd.Unlocked
open Kernel Transition Function

inductive Request where
  | read (count : Count)
  | write (buff : UserBytes)

def Request.count : Request → UInt64
  | .read count => count.val
  | .write buff => buff.count

inductive Stage where
  | clamp
  | space
  | copy
  | clear
  | update
  | ret (value : Int64)

/-- A call in progress: the position it was entered with, and its own variables. -/
structure Work (F : Type) where
  file : F
  request : Request
  entry : Int64
  fPos : Int64
  count : UInt64
  moved : Nat
  out : List UInt8
  stage : Stage

/-- What the caller's memory does to the next byte of a copy. After a fault in
`copy_from_user` the kernel may clear the rest of the destination. -/
inductive User where
  | ok
  | fault
  | cleared

section Calls

variable {F : Type}

def enterCall (f : F) (request : Request) (fPos : Int64) : Work F :=
  ⟨f, request, fPos, fPos, request.count, 0, [], .clamp⟩

def Work.cell (w : Work F) (buffer : List UInt8) : Option Nat :=
  if 0 ≤ w.fPos.toInt ∧ w.fPos.toInt + w.moved < buffer.length then
    some (w.fPos.toInt.toNat + w.moved)
  else none

def Work.give (w : Work F) (buffer : List UInt8) : Outcome (List UInt8 × Work F) :=
  match w.cell buffer with
  | none => .wild
  | some i => .done (buffer, { w with out := w.out ++ [buffer.getD i 0], moved := w.moved + 1 })

def Work.take (w : Work F) (buffer : List UInt8) (b : UInt8) : Outcome (List UInt8 × Work F) :=
  match w.cell buffer with
  | none => .wild
  | some i => .done (buffer.set i b, { w with moved := w.moved + 1 })

def advance (maxSize : Int32) (buffer : List UInt8) (user : User) (w : Work F) :
    Outcome (List UInt8 × Work F) :=
  match w.stage, w.request with
  | .clamp, .read _ =>
    .done (buffer, { w with count := adjustCount maxSize w.fPos w.count, stage := .copy })
  | .clamp, .write _ =>
    .done (buffer, { w with count := adjustCount maxSize w.fPos w.count, stage := .space })
  | .space, _ => .done (buffer, { w with stage := if w.count = 0 then .ret (-ENOMEM) else .copy })
  | .copy, .read _ =>
    if w.moved = w.count.toNat then .done (buffer, { w with stage := .update })
    else
      match user with
      | .ok => w.give buffer
      | .fault | .cleared => .done (buffer, { w with stage := .ret (-EFAULT) })
  | .copy, .write buff =>
    if w.moved = w.count.toNat then .done (buffer, { w with stage := .update })
    else
      match user with
      | .ok => w.take buffer (buff.bytes.getD w.moved 0)
      | .fault => .done (buffer, { w with stage := .ret (-EFAULT) })
      | .cleared => .done (buffer, { w with stage := .clear })
  | .clear, _ =>
    if w.moved = w.count.toNat then .done (buffer, { w with stage := .ret (-EFAULT) })
    else w.take buffer 0
  | .update, _ =>
    .done (buffer, { w with fPos := w.fPos + w.count.toInt64, stage := .ret w.count.toInt64 })
  | .ret _, _ => .blocks

end Calls

/-- The open files and the calls of the system; a seek has loaded the position of its file
and has its answer and the position to store. -/
structure State (D F C : Type) where
  buffer : D → List UInt8
  fPos : F → Int64
  calls : C → Option (Work F)
  seeks : C → Option (F × Int64 × Int64)

inductive Event (F C : Type) where
  | enter (c : C) (f : F) (request : Request) (fPos : Int64)
  | advance (c : C) (user : User)
  | leave (c : C) (value : Int64) (out : List UInt8)
  | seek (c : C) (f : F) (offset : Int64) (whence : Int32)
  | seeked (c : C)

section System

variable {D F C : Type} [DecidableEq D] [DecidableEq F] [DecidableEq C]
variable (maxSize : D → Int32) (dev : F → D)

inductive Step (s : State D F C) : Event F C → State D F C → Prop where
  | enter {c : C} {f : F} {request : Request} (idle : s.calls c = none) :
      Step s (.enter c f request (s.fPos f))
        { s with calls := update s.calls c (some (enterCall f request (s.fPos f))) }
  | advance {c : C} {user : User} {w w' : Work F} {buffer : List UInt8}
      (running : s.calls c = some w)
      (moves : advance (maxSize (dev w.file)) (s.buffer (dev w.file)) user w =
        .done (buffer, w')) :
      Step s (.advance c user)
        { s with
          buffer := update s.buffer (dev w.file) buffer
          calls := update s.calls c (some w') }
  | leave {c : C} {w : Work F} {value : Int64} (running : s.calls c = some w)
      (returns : w.stage = .ret value) :
      Step s (.leave c value w.out)
        { s with
          fPos := if 0 ≤ value then update s.fPos w.file w.fPos else s.fPos
          calls := update s.calls c none }
  | seek {c : C} {f : F} {offset : Int64} {whence : Int32} (idle : s.seeks c = none) :
      Step s (.seek c f offset whence)
        { s with
          seeks := update s.seeks c
            (some (f, lseekBody (maxSize (dev f)) (s.fPos f) offset whence)) }
  | seeked {c : C} {f : F} {ret fPos : Int64} (seeking : s.seeks c = some (f, ret, fPos)) :
      Step s (.seeked c)
        { s with
          fPos := if 0 ≤ ret then update s.fPos f fPos else s.fPos
          seeks := update s.seeks c none }

def start : State D F C where
  buffer d := List.replicate (maxSize d).toInt.toNat 0
  fPos _ := 0
  calls _ := none
  seeks _ := none

/-- A byte of a device is zero, or a write to this very place of this device carries it. -/
def Origin (ls : List (Event F C)) (d : D) (i : Nat) (b : UInt8) : Prop :=
  b = 0 ∨ ∃ (c : C) (f : F) (buff : UserBytes) (fPos : Int64) (j : Nat),
    .enter c f (.write buff) fPos ∈ ls ∧ dev f = d ∧ fPos.toInt + j = (i : Int) ∧
      buff.bytes[j]? = some b

end System

section Call

variable {F : Type}

def Copying (maxSize : Int32) (w : Work F) : Prop :=
  w.fPos = w.entry ∧ w.count.toNat = span maxSize w.entry w.request.count ∧
    w.moved ≤ w.count.toNat

def Work.Writing (w : Work F) : Prop := ∃ buff, w.request = .write buff

def Reached (maxSize : Int32) (w : Work F) : Stage → Prop
  | .clamp => w.fPos = w.entry ∧ w.count = w.request.count ∧ w.moved = 0
  | .space => Copying maxSize w ∧ w.Writing ∧ w.moved = 0
  | .copy => Copying maxSize w ∧ (w.Writing → 0 < w.count.toNat)
  | .clear => Copying maxSize w ∧ 0 < w.count.toNat ∧ w.Writing
  | .update => Copying maxSize w ∧ (w.Writing → 0 < w.count.toNat) ∧ w.moved = w.count.toNat
  | .ret value =>
    value = -ENOMEM ∧ w.Writing ∧ span maxSize w.entry w.request.count = 0 ∧ w.moved = 0 ∨
    value = -EFAULT ∧ 0 < span maxSize w.entry w.request.count ∨
    (w.Writing → 0 < span maxSize w.entry w.request.count) ∧
      w.moved = span maxSize w.entry w.request.count ∧ value.toInt = w.moved ∧
      w.fPos.toInt = w.entry.toInt + w.moved

structure Fits (maxSize : Int32) (w : Work F) : Prop where
  nonneg : 0 ≤ w.entry.toInt
  within : w.entry.toInt ≤ maxSize.toInt
  reached : Reached maxSize w w.stage
  out : ∀ count, w.request = .read count → w.out.length = w.moved

theorem request_small (request : Request) : request.count.toNat < 2 ^ 63 := by
  cases request with
  | read count => exact count.property
  | write buff =>
    rw [Request.count, buff.toNat_count]
    exact buff.small

theorem enter_fits {maxSize : Int32} {fPos : Int64} (nonneg : 0 ≤ fPos.toInt)
    (within : fPos.toInt ≤ maxSize.toInt) (f : F) (request : Request) :
    Fits maxSize (enterCall f request fPos) :=
  ⟨nonneg, within, ⟨rfl, rfl, rfl⟩, fun _ _ => rfl⟩

structure Advances (maxSize : Int32) (buffer buffer' : List UInt8) (w w' : Work F) : Prop where
  fits : Fits maxSize w'
  same : w'.file = w.file ∧ w'.request = w.request ∧ w'.entry = w.entry
  length : buffer'.length = buffer.length
  stored : ∀ (i : Nat) (b : UInt8), buffer'[i]? = some b →
    buffer[i]? = some b ∨ b = 0 ∨ ∃ (buff : UserBytes) (j : Nat), w.request = .write buff ∧
      w.entry.toInt + j = (i : Int) ∧ buff.bytes[j]? = some b
  given : ∀ (k : Nat) (b : UInt8), w'.out[k]? = some b →
    w.out[k]? = some b ∨ buffer[w.entry.toInt.toNat + k]? = some b

variable {maxSize : Int32} {buffer : List UInt8} {w : Work F}

theorem advances_still {w' : Work F} (fits : Fits maxSize w')
    (same : w'.file = w.file ∧ w'.request = w.request ∧ w'.entry = w.entry)
    (out : w'.out = w.out) : Advances maxSize buffer buffer w w' :=
  ⟨fits, same, rfl, fun _ _ here => .inl here, fun _ _ here => .inl (out ▸ here)⟩

theorem cell_inside (room : (buffer.length : Int) = maxSize.toInt) (nonneg : 0 ≤ w.entry.toInt)
    (within : w.entry.toInt ≤ maxSize.toInt) (copying : Copying maxSize w)
    (more : w.moved ≠ w.count.toNat) :
    w.cell buffer = some (w.entry.toInt.toNat + w.moved) ∧
      w.entry.toInt.toNat + w.moved < buffer.length := by
  obtain ⟨place, count, le⟩ := copying
  have stop := span_end w.request.count within
  have inside : 0 ≤ w.fPos.toInt ∧ w.fPos.toInt + w.moved < buffer.length := by
    rw [place]
    omega
  rw [Work.cell, if_pos inside, place]
  exact ⟨rfl, by omega⟩

theorem give_advances (room : (buffer.length : Int) = maxSize.toInt) (fits : Fits maxSize w)
    (copying : Copying maxSize w) (stage : w.stage = .copy) {count : Count}
    (reads : w.request = .read count) (more : w.moved ≠ w.count.toNat) :
    ∃ buffer' w', w.give buffer = .done (buffer', w') ∧
      Advances maxSize buffer buffer' w w' := by
  obtain ⟨cell, inside⟩ := cell_inside room fits.nonneg fits.within copying more
  obtain ⟨place, total, le⟩ := copying
  have length := fits.out count reads
  rw [Work.give, cell]
  refine ⟨_, _, rfl, ⟨fits.nonneg, fits.within, ?_, ?_⟩, ⟨rfl, rfl, rfl⟩, rfl,
    fun _ _ here => .inl here, fun k b here => ?_⟩
  · rw [stage]
    exact ⟨⟨place, total, Nat.lt_of_le_of_ne le more⟩,
      fun _ => Nat.lt_of_le_of_lt (Nat.zero_le _) (Nat.lt_of_le_of_ne le more)⟩
  · simp [length]
  · rw [List.getElem?_append] at here
    split at here
    · exact .inl here
    · rename_i past
      obtain ⟨zero, rfl⟩ : k - w.out.length = 0 ∧
          buffer.getD (w.entry.toInt.toNat + w.moved) 0 = b := by
        cases at_end : k - w.out.length with
        | zero => simpa [at_end] using here
        | succ n => simp [at_end] at here
      have last : k = w.moved := by omega
      refine .inr ?_
      rw [last, List.getD_eq_getElem?_getD, List.getElem?_eq_getElem inside]
      rfl

theorem take_advances (room : (buffer.length : Int) = maxSize.toInt) (fits : Fits maxSize w)
    (copying : Copying maxSize w) (stage : w.stage = .copy ∨ w.stage = .clear)
    {buff : UserBytes} (writes : w.request = .write buff) (more : w.moved ≠ w.count.toNat)
    {b : UInt8} (carried : b = 0 ∨ buff.bytes[w.moved]? = some b) :
    ∃ buffer' w', w.take buffer b = .done (buffer', w') ∧
      Advances maxSize buffer buffer' w w' := by
  obtain ⟨cell, inside⟩ := cell_inside room fits.nonneg fits.within copying more
  obtain ⟨place, total, le⟩ := copying
  have later : Copying maxSize { w with moved := w.moved + 1 } :=
    ⟨place, total, Nat.lt_of_le_of_ne le more⟩
  have some_left : 0 < w.count.toNat :=
    Nat.lt_of_le_of_lt (Nat.zero_le _) (Nat.lt_of_le_of_ne le more)
  rw [Work.take, cell]
  refine ⟨_, _, rfl, ⟨fits.nonneg, fits.within, ?_, ?_⟩, ⟨rfl, rfl, rfl⟩, List.length_set ..,
    fun i b' here => ?_, fun _ _ here => .inl here⟩
  · rcases stage with copy | clear
    · rw [copy]
      exact ⟨later, fun _ => some_left⟩
    · rw [clear]
      exact ⟨later, some_left, buff, writes⟩
  · intro count reads
    cases reads.symm.trans writes
  · rw [List.getElem?_set] at here
    split at here
    · rename_i at_cell
      cases here
      rcases carried with zero | carried
      · exact .inr (.inl zero)
      · have start := fits.nonneg
        exact .inr (.inr ⟨buff, w.moved, writes, by omega, carried⟩)
    · exact .inl here

/-- A step of a call that fits finds its byte inside the buffer, and the call fits again. -/
theorem advance_advances (room : (buffer.length : Int) = maxSize.toInt) (fits : Fits maxSize w)
    (user : User) :
    advance maxSize buffer user w = .blocks ∨
      ∃ buffer' w', advance maxSize buffer user w = .done (buffer', w') ∧
        Advances maxSize buffer buffer' w w' := by
  have small := request_small w.request
  obtain ⟨file, request, entry, fPos, count, moved, out, stage⟩ := w
  have ⟨nonneg, within, reached, given⟩ := fits
  have fault (w' : Work F) (same : w' = ⟨file, request, entry, fPos, count, moved, out,
      .ret (-EFAULT)⟩) (some_left : 0 < span maxSize entry request.count) :
      Advances maxSize buffer buffer ⟨file, request, entry, fPos, count, moved, out, stage⟩
        w' := by
    subst same
    exact advances_still ⟨nonneg, within, .inr (.inl ⟨rfl, some_left⟩), given⟩ ⟨rfl, rfl, rfl⟩ rfl
  cases stage with
  | ret value => exact .inl rfl
  | update =>
    obtain ⟨⟨place, total, _⟩, room_left, whole⟩ := reached
    obtain ⟨value, position⟩ := Pcd.advance nonneg within total
    refine .inr ⟨_, _, rfl, advances_still ⟨nonneg, within, .inr (.inr ⟨?_, ?_, ?_, ?_⟩), given⟩
      ⟨rfl, rfl, rfl⟩ rfl⟩
    · exact fun writing => Nat.lt_of_lt_of_eq (room_left writing) total
    · exact whole.trans total
    · exact value.trans (congrArg Nat.cast whole.symm)
    · change (fPos + count.toInt64).toInt = entry.toInt + moved
      change fPos = entry at place
      change moved = count.toNat at whole
      rw [place, position, whole]
  | clamp =>
    obtain ⟨place, asked, none⟩ := reached
    have clamped : (adjustCount maxSize fPos count).toNat = span maxSize entry request.count := by
      change fPos = entry at place
      change count = request.count at asked
      rw [place, asked]
      exact adjustCount_span nonneg within small
    change moved = 0 at none
    cases request with
    | read _ =>
      refine .inr ⟨_, _, rfl, advances_still ⟨nonneg, within,
        ⟨⟨place, clamped, none ▸ Nat.zero_le _⟩, ?_⟩, given⟩ ⟨rfl, rfl, rfl⟩ rfl⟩
      rintro ⟨_, writes⟩
      cases writes
    | write buff =>
      exact .inr ⟨_, _, rfl, advances_still ⟨nonneg, within,
        ⟨⟨place, clamped, none ▸ Nat.zero_le _⟩, ⟨buff, rfl⟩, none⟩, given⟩ ⟨rfl, rfl, rfl⟩ rfl⟩
  | space =>
    refine .inr ⟨_, _, rfl, advances_still ⟨nonneg, within, ?_, given⟩ ⟨rfl, rfl, rfl⟩ rfl⟩
    obtain ⟨copying, writing, none⟩ := reached
    by_cases full : count = 0
    · simp only [if_pos full]
      exact .inl ⟨rfl, writing, copying.2.1.symm.trans (congrArg UInt64.toNat full), none⟩
    · simp only [if_neg full]
      refine ⟨copying, fun _ => Nat.pos_of_ne_zero fun zero => full ?_⟩
      exact UInt64.toNat_inj.mp zero
  | clear =>
    obtain ⟨copying, some_left, buff, writes⟩ := reached
    by_cases done : moved = count.toNat
    · exact .inr ⟨_, _, if_pos done, fault _ rfl (Nat.lt_of_lt_of_eq some_left copying.2.1)⟩
    · obtain ⟨buffer', w', took, advances⟩ := take_advances room fits copying (.inr rfl) writes
        done (.inl rfl)
      exact .inr ⟨buffer', w', (if_neg done).trans took, advances⟩
  | copy =>
    obtain ⟨copying, room_left⟩ := reached
    by_cases done : moved = count.toNat
    · cases request with
      | read _ =>
        exact .inr ⟨_, _, if_pos done,
          advances_still ⟨nonneg, within, ⟨copying, room_left, done⟩, given⟩
          ⟨rfl, rfl, rfl⟩ rfl⟩
      | write _ =>
        exact .inr ⟨_, _, if_pos done,
          advances_still ⟨nonneg, within, ⟨copying, room_left, done⟩, given⟩
          ⟨rfl, rfl, rfl⟩ rfl⟩
    · have some_left : 0 < count.toNat :=
        Nat.lt_of_le_of_lt (Nat.zero_le _) (Nat.lt_of_le_of_ne copying.2.2 done)
      have faulted := Nat.lt_of_lt_of_eq some_left copying.2.1
      cases request with
      | read asked =>
        cases user with
        | ok =>
          obtain ⟨buffer', w', gave, advances⟩ := give_advances room fits copying rfl rfl done
          exact .inr ⟨buffer', w', (if_neg done).trans gave, advances⟩
        | fault => exact .inr ⟨_, _, if_neg done, fault _ rfl faulted⟩
        | cleared => exact .inr ⟨_, _, if_neg done, fault _ rfl faulted⟩
      | write buff =>
        cases user with
        | ok =>
          have carried : buff.bytes.getD moved 0 = 0 ∨
              buff.bytes[moved]? = some (buff.bytes.getD moved 0) := by
            rw [List.getD_eq_getElem?_getD]
            cases buff.bytes[moved]? with
            | none => exact .inl rfl
            | some b => exact .inr rfl
          obtain ⟨buffer', w', took, advances⟩ := take_advances room fits copying (.inl rfl) rfl
            done carried
          exact .inr ⟨buffer', w', (if_neg done).trans took, advances⟩
        | fault => exact .inr ⟨_, _, if_neg done, fault _ rfl faulted⟩
        | cleared =>
          exact .inr ⟨_, _, if_neg done, advances_still ⟨nonneg, within, ⟨copying, some_left, buff,
            rfl⟩, given⟩ ⟨rfl, rfl, rfl⟩ rfl⟩

end Call

section Runs

variable {D F C : Type} [DecidableEq D] [DecidableEq F] [DecidableEq C]
variable {maxSize : D → Int32} {dev : F → D} {ls : List (Event F C)} {s t : State D F C}

omit [DecidableEq D] [DecidableEq F] [DecidableEq C] in
theorem origin_mono {d : D} {i : Nat} {b : UInt8} (origin : Origin dev ls d i b)
    (e : Event F C) : Origin dev (ls ++ [e]) d i b := by
  rcases origin with zero | ⟨c, f, buff, fPos, j, entered, carried⟩
  · exact .inl zero
  · exact .inr ⟨c, f, buff, fPos, j, List.mem_append_left _ entered, carried⟩

/-- The state after a run: every device keeps its size, every file is inside its device,
and every byte has an origin. -/
structure Safe (maxSize : D → Int32) (dev : F → D) (ls : List (Event F C))
    (s : State D F C) : Prop where
  sizes : ∀ d, ((s.buffer d).length : Int) = (maxSize d).toInt
  places : ∀ f, 0 ≤ (s.fPos f).toInt ∧ (s.fPos f).toInt ≤ (maxSize (dev f)).toInt
  fits : ∀ c w, s.calls c = some w → Fits (maxSize (dev w.file)) w
  entered : ∀ c w, s.calls c = some w → .enter c w.file w.request w.entry ∈ ls
  seeking : ∀ c f ret fPos, s.seeks c = some (f, ret, fPos) → 0 ≤ ret →
    0 ≤ fPos.toInt ∧ fPos.toInt ≤ (maxSize (dev f)).toInt
  stored : ∀ (d : D) (i : Nat) (b : UInt8), (s.buffer d)[i]? = some b → Origin dev ls d i b
  given : ∀ (c : C) (w : Work F) (k : Nat) (b : UInt8), s.calls c = some w →
    w.out[k]? = some b → Origin dev ls (dev w.file) (w.entry.toInt.toNat + k) b

omit [DecidableEq D] [DecidableEq F] [DecidableEq C] in
theorem start_safe (sized : ∀ d, 0 ≤ (maxSize d).toInt) :
    Safe maxSize dev [] (start maxSize : State D F C) where
  sizes d := by
    have size := sized d
    rw [start, List.length_replicate]
    omega
  places f := ⟨Int.le_refl 0, sized (dev f)⟩
  fits := nofun
  entered := nofun
  seeking := nofun
  stored d i b here := by
    refine .inl ?_
    rw [start, List.getElem?_replicate] at here
    split at here
    · exact (Option.some.inj here).symm
    · cases here
  given := nofun

omit [DecidableEq D] [DecidableEq F] in
theorem enter_safe (safe : Safe maxSize dev ls s) (c : C) (f : F) (request : Request) :
    Safe maxSize dev (ls ++ [.enter c f request (s.fPos f)])
      { s with calls := update s.calls c (some (enterCall f request (s.fPos f))) } where
  sizes := safe.sizes
  places := safe.places
  fits c' w running := by
    rcases eq_or_ne c' c with rfl | other
    · cases (update_self (f := s.calls) ..).symm.trans running
      exact enter_fits (safe.places f).1 (safe.places f).2 f request
    · exact safe.fits c' w ((update_of_ne other ..).symm.trans running)
  entered c' w running := by
    rcases eq_or_ne c' c with rfl | other
    · cases (update_self (f := s.calls) ..).symm.trans running
      exact List.mem_append_right _ (List.mem_singleton_self _)
    · exact List.mem_append_left _ (safe.entered c' w ((update_of_ne other ..).symm.trans running))
  seeking := safe.seeking
  stored d i b here := origin_mono (safe.stored d i b here) _
  given c' w k b running here := by
    rcases eq_or_ne c' c with rfl | other
    · cases (update_self (f := s.calls) ..).symm.trans running
      cases here
    · exact origin_mono (safe.given c' w k b ((update_of_ne other ..).symm.trans running) here) _

omit [DecidableEq F] in
/-- The stored bytes are those there were, zeros, and bytes the call carries to their place. -/
theorem advance_safe (safe : Safe maxSize dev ls s) {c : C} {w w' : Work F}
    {buffer : List UInt8} (e : Event F C) (running : s.calls c = some w)
    (advances : Advances (maxSize (dev w.file)) (s.buffer (dev w.file)) buffer w w') :
    Safe maxSize dev (ls ++ [e])
      { s with
        buffer := update s.buffer (dev w.file) buffer
        calls := update s.calls c (some w') } := by
  obtain ⟨fits, ⟨file, request, entry⟩, length, stored, given⟩ := advances
  have entered := safe.entered c w running
  refine ⟨fun d => ?_, safe.places, fun c' v running' => ?_, fun c' v running' => ?_,
    safe.seeking, fun d i b here => ?_, fun c' v k b running' here => ?_⟩
  · rcases eq_or_ne d (dev w.file) with rfl | other
    · simpa [length] using safe.sizes (dev w.file)
    · simpa [other] using safe.sizes d
  · rcases eq_or_ne c' c with rfl | other
    · cases (update_self (f := s.calls) ..).symm.trans running'
      rwa [file]
    · exact safe.fits c' v ((update_of_ne other ..).symm.trans running')
  · rcases eq_or_ne c' c with rfl | other
    · cases (update_self (f := s.calls) ..).symm.trans running'
      rw [file, request, entry]
      exact List.mem_append_left _ entered
    · exact List.mem_append_left _ (safe.entered c' v ((update_of_ne other ..).symm.trans running'))
  · rcases eq_or_ne d (dev w.file) with rfl | other
    · rcases stored i b (by simpa using here) with old | zero | ⟨buff, j, writes, place, carried⟩
      · exact origin_mono (safe.stored _ i b old) _
      · exact .inl zero
      · refine .inr ⟨c, w.file, buff, w.entry, j, ?_, rfl, place, carried⟩
        exact List.mem_append_left _ (writes ▸ entered)
    · exact origin_mono (safe.stored d i b (by simpa [other] using here)) _
  · rcases eq_or_ne c' c with rfl | other
    · cases (update_self (f := s.calls) ..).symm.trans running'
      rw [file, entry]
      rcases given k b here with old | read
      · exact origin_mono (safe.given c' w k b running old) _
      · exact origin_mono (safe.stored _ _ b read) _
    · exact origin_mono (safe.given c' v k b ((update_of_ne other ..).symm.trans running') here) _

omit [DecidableEq D] [DecidableEq C] in
theorem places_update (safe : Safe maxSize dev ls s) {f : F} {fPos ret : Int64}
    (inside : 0 ≤ ret → 0 ≤ fPos.toInt ∧ fPos.toInt ≤ (maxSize (dev f)).toInt) (f' : F) :
    0 ≤ ((if 0 ≤ ret then update s.fPos f fPos else s.fPos) f').toInt ∧
      ((if 0 ≤ ret then update s.fPos f fPos else s.fPos) f').toInt ≤
        (maxSize (dev f')).toInt := by
  split
  · rename_i stores
    rcases eq_or_ne f' f with rfl | other
    · simpa using inside stores
    · simpa [other] using safe.places f'
  · exact safe.places f'

theorem forgets {X : Type} {m : C → Option X} {c c' : C} {x : X}
    (here : update m c none c' = some x) : m c' = some x := by
  rcases eq_or_ne c' c with rfl | other
  · rw [update_self] at here
    cases here
  · rwa [update_of_ne other] at here

omit [DecidableEq F] in
theorem returned_position {w : Work F} {size : Int32} (fits : Fits size w) {value : Int64}
    (returns : w.stage = .ret value) (succeeds : 0 ≤ value) :
    w.moved = span size w.entry w.request.count ∧ value.toInt = w.moved ∧
      w.fPos.toInt = w.entry.toInt + w.moved := by
  have reached := fits.reached
  rw [returns] at reached
  rcases reached with failed | failed | done
  · exact absurd succeeds (failed.1 ▸ by decide)
  · exact absurd succeeds (failed.1 ▸ by decide)
  · exact done.2

theorem step_safe {e : Event F C} (safe : Safe maxSize dev ls s) (step : Step maxSize dev s e t) :
    Safe maxSize dev (ls ++ [e]) t := by
  cases step with
  | enter idle => exact enter_safe safe _ _ _
  | advance running moves =>
    rcases advance_advances (safe.sizes _) (safe.fits _ _ running) _ with
      blocked | ⟨buffer', w'', done, advances⟩
    · cases blocked.symm.trans moves
    · cases done.symm.trans moves
      exact advance_safe safe _ running advances
  | @leave c w value running returns =>
    refine ⟨safe.sizes, places_update safe fun succeeds => ?_,
      fun c' v here => safe.fits c' v (forgets here),
      fun c' v here => List.mem_append_left _ (safe.entered c' v (forgets here)), safe.seeking,
      fun d i b here => origin_mono (safe.stored d i b here) _,
      fun c' v k b here got => origin_mono (safe.given c' v k b (forgets here) got) _⟩
    have fits := safe.fits c w running
    obtain ⟨whole, _, position⟩ := returned_position fits returns succeeds
    have stop := span_end w.request.count fits.within
    have start := fits.nonneg
    omega
  | @seek c f offset whence idle =>
    refine ⟨safe.sizes, safe.places, safe.fits,
      fun c' w here => List.mem_append_left _ (safe.entered c' w here), ?_,
      fun d i b here => origin_mono (safe.stored d i b here) _,
      fun c' v k b here got => origin_mono (safe.given c' v k b here got) _⟩
    intro c' f' ret fPos here succeeds
    rcases eq_or_ne c' c with rfl | other
    · have found := Option.some.inj ((update_self (f := s.seeks) ..).symm.trans here)
      rcases lseekBody_seeks (maxSize (dev f)) (s.fPos f) offset whence with
        failed | ⟨target, moved, inside⟩
      · rw [failed] at found
        cases found
        exact safe.places f
      · rw [moved] at found
        cases found
        exact inside
    · exact safe.seeking c' f' ret fPos ((update_of_ne other ..).symm.trans here) succeeds
  | @seeked c f ret fPos seeking =>
    exact ⟨safe.sizes, places_update safe (safe.seeking c f ret fPos seeking), safe.fits,
      fun c' w here => List.mem_append_left _ (safe.entered c' w here),
      fun c' f' ret' fPos' here => safe.seeking c' f' ret' fPos' (forgets here),
      fun d i b here => origin_mono (safe.stored d i b here) _,
      fun c' v k b here got => origin_mono (safe.given c' v k b here got) _⟩

theorem run_safe (sized : ∀ d, 0 ≤ (maxSize d).toInt)
    (run : Run (Step maxSize dev) (start maxSize) ls s) : Safe maxSize dev ls s :=
  run_history (Safe maxSize dev) (start_safe sized)
    (fun _ _ _ _ _ safe step => step_safe safe step) run

/-- Any interleaving of any calls, on devices of any sizes up to INT_MAX. -/
theorem unlocked_run (sized : ∀ d, 0 ≤ (maxSize d).toInt)
    (run : Run (Step maxSize dev) (start maxSize) ls s) :
    (∀ d, ((s.buffer d).length : Int) = (maxSize d).toInt) ∧
    (∀ f, 0 ≤ (s.fPos f).toInt ∧ (s.fPos f).toInt ≤ (maxSize (dev f)).toInt) ∧
    (∀ c w user, s.calls c = some w →
      advance (maxSize (dev w.file)) (s.buffer (dev w.file)) user w ≠ .wild) ∧
    (∀ c w value, s.calls c = some w → w.stage = .ret value →
      value = -ENOMEM ∧ w.Writing ∧ span (maxSize (dev w.file)) w.entry w.request.count = 0 ∨
      value = -EFAULT ∧ 0 < span (maxSize (dev w.file)) w.entry w.request.count ∨
      value.toInt = span (maxSize (dev w.file)) w.entry w.request.count ∧
        (w.Writing → 0 < value.toInt) ∧
        ∀ count, w.request = .read count → (w.out.length : Int) = value.toInt) ∧
    (∀ (c : C) (w : Work F) (k : Nat) (b : UInt8), s.calls c = some w → w.out[k]? = some b →
      Origin dev ls (dev w.file) (w.entry.toInt.toNat + k) b) := by
  have safe := run_safe sized run
  refine ⟨safe.sizes, safe.places, fun c w user running wild => ?_,
    fun c w value running returns => ?_, safe.given⟩
  · rcases advance_advances (safe.sizes (dev w.file)) (safe.fits c w running) user with
      blocked | ⟨_, _, done, _⟩
    · cases blocked.symm.trans wild
    · cases done.symm.trans wild
  · have fits := safe.fits c w running
    have reached := fits.reached
    rw [returns] at reached
    rcases reached with ⟨failed, writing, full, _⟩ | failed | ⟨room_left, whole, answer, _⟩
    · exact .inl ⟨failed, writing, full⟩
    · exact .inr (.inl failed)
    · refine .inr (.inr ⟨by rw [answer, whole], fun writing => ?_, fun count reads => ?_⟩)
      · have some_left := room_left writing
        omega
      · rw [answer, fits.out count reads]

end Runs

section Pair

def pair (w r : Work Bool) (buffer : List UInt8) : State Unit Bool Bool where
  buffer _ := buffer
  fPos _ := 0
  calls c := if c then some r else some w
  seeks _ := none

def PairStep : State Unit Bool Bool → Event Bool Bool → State Unit Bool Bool → Prop :=
  Step (fun _ => 2) fun _ => ()

variable {w w' r r' : Work Bool} {buffer buffer' : List UInt8}

theorem first_moves (moves : advance 2 buffer .ok w = .done (buffer', w')) :
    PairStep (pair w r buffer) (.advance false .ok) (pair w' r buffer') := by
  have moved : PairStep (pair w r buffer) (.advance false .ok) _ := Step.advance rfl moves
  have calls : update (pair w r buffer).calls false (some w') = (pair w' r buffer').calls := by
    funext c
    cases c <;> rfl
  rw [calls] at moved
  exact moved

theorem second_moves (moves : advance 2 buffer .ok r = .done (buffer', r')) :
    PairStep (pair w r buffer) (.advance true .ok) (pair w r' buffer') := by
  have moved : PairStep (pair w r buffer) (.advance true .ok) _ := Step.advance rfl moves
  have calls : update (pair w r buffer).calls true (some r') = (pair w r' buffer').calls := by
    funext c
    cases c <;> rfl
  rw [calls] at moved
  exact moved

def writeTwo : Request := .write ⟨[7, 8], by decide⟩

def readTwo : Request := .read ⟨2, by decide⟩

theorem pair_run : Run PairStep (start fun _ => 2)
    [.enter false false writeTwo 0, .enter true true readTwo 0]
    (pair (enterCall false writeTwo 0) (enterCall true readTwo 0) [0, 0]) := by
  have writes : PairStep (start fun _ => 2) (.enter false false writeTwo 0) _ := .enter rfl
  have both : Run PairStep (start fun _ => 2)
    [.enter false false writeTwo 0, .enter true true readTwo 0] _ :=
    (Run.start.snoc writes).snoc (.enter rfl)
  have calls : update (update (fun _ => none) false (some (enterCall false writeTwo 0))) true
      (some (enterCall true readTwo 0)) =
      (pair (enterCall false writeTwo 0) (enterCall true readTwo 0) [0, 0]).calls := by
    funext c
    cases c <;> rfl
  simp only [start] at both
  rw [calls] at both
  exact both

def wrote : Work Bool := ⟨false, writeTwo, 0, 2, 2, 2, [], .ret 2⟩

def got : Work Bool := ⟨true, readTwo, 0, 2, 2, 2, [7, 0], .ret 2⟩

/-- A write of two bytes and a read of two bytes, the read between the bytes of the write:
it returns the first byte of the write and the byte that was there before. -/
theorem unlocked_run_torn : ∃ (ls : List (Event Bool Bool)) (t : State Unit Bool Bool),
    Run PairStep (start fun _ => 2) ls (pair wrote got [7, 8]) ∧
      (∀ user, advance 2 [7, 8] user got ≠ .wild) ∧
      (∀ value, got.stage = .ret value →
        value = -ENOMEM ∧ got.Writing ∧ span 2 got.entry got.request.count = 0 ∨
        value = -EFAULT ∧ 0 < span 2 got.entry got.request.count ∨
        value.toInt = span 2 got.entry got.request.count ∧ (got.Writing → 0 < value.toInt) ∧
          ∀ count, got.request = .read count → (got.out.length : Int) = value.toInt) ∧
      (∀ k b, got.out[k]? = some b →
        Origin (fun _ => ()) ls () (got.entry.toInt.toNat + k) b) ∧
      PairStep (pair wrote got [7, 8]) (.leave true 2 got.out) t ∧
      ∀ f, 0 ≤ (t.fPos f).toInt ∧ (t.fPos f).toInt ≤ 2 := by
  have clamped := (pair_run.snoc (first_moves rfl)).snoc (second_moves rfl)
  have stored := (clamped.snoc (first_moves rfl)).snoc (first_moves rfl)
  have read := (stored.snoc (second_moves rfl)).snoc (second_moves rfl)
  have copied := (read.snoc (first_moves rfl)).snoc (first_moves rfl)
  have written := copied.snoc (first_moves rfl)
  have updated := written.snoc (second_moves rfl)
  have run := updated.snoc
    (second_moves (rfl : advance 2 [7, 8] .ok _ = .done ([7, 8], got)))
  have leaves : PairStep (pair wrote got [7, 8]) (.leave true 2 got.out) _ :=
    Step.leave (c := true) (w := got) rfl rfl
  obtain ⟨_, _, inside, answers, given⟩ := unlocked_run (fun _ => by decide) run
  obtain ⟨_, places, _⟩ := unlocked_run (fun _ => by decide) (run.snoc leaves)
  exact ⟨_, _, run, fun user => inside true got user rfl, fun value => answers true got value rfl,
    fun k b => given true got k b rfl, leaves, places⟩

end Pair

section Alone

variable {F : Type}

def Alone (maxSize : Int32) (x : List UInt8 × Work F) (user : User) (y : List UInt8 × Work F) :
    Prop :=
  advance maxSize x.1 user x.2 = .done y

/-- The bytes of the device while a write is at work: its own bytes in their place, and
zeros behind them once the kernel clears. -/
def Put (maxSize : Int32) (buffer now : List UInt8) (buff : UserBytes) (w : Work F) : Prop :=
  match w.stage with
  | .clear => ∃ k, k ≤ w.moved ∧ k < span maxSize w.entry buff.count ∧
    now = Bytes.patch buffer w.entry.toInt.toNat
      (buff.bytes.take k ++ List.replicate (w.moved - k) 0)
  | .ret value =>
    value ≠ -EFAULT ∧
        now = Bytes.patch buffer w.entry.toInt.toNat (buff.bytes.take w.moved) ∨
      value = -EFAULT ∧ ∃ user : UserAccess,
        user.moved (span maxSize w.entry buff.count) < span maxSize w.entry buff.count ∧
        now = Bytes.patch buffer w.entry.toInt.toNat
          (user.copied buff.bytes (span maxSize w.entry buff.count))
  | _ => now = Bytes.patch buffer w.entry.toInt.toNat (buff.bytes.take w.moved)

def Got (maxSize : Int32) (buffer now : List UInt8) (count : Count) (w : Work F) : Prop :=
  now = buffer ∧ w.out = Bytes.slice buffer w.entry.toInt.toNat w.moved ∧
    (w.stage = .ret (-EFAULT) → w.moved < span maxSize w.entry count.val)

variable {maxSize : Int32} {buffer now now' : List UInt8} {w w' : Work F} {user : User}

theorem patch_next (buffer : List UInt8) (off : Nat) (new : List UInt8)
    (inside : off + new.length < buffer.length) (b : UInt8) :
    (Bytes.patch buffer off new).set (off + new.length) b =
      Bytes.patch buffer off (new ++ [b]) := by
  have length : (Bytes.patch buffer off new).length = buffer.length :=
    Bytes.length_patch (Nat.le_of_lt inside)
  have one := Bytes.patch_cons (by omega : off + new.length < (Bytes.patch buffer off new).length)
    b []
  rw [Bytes.patch_nil] at one
  rw [← one, Bytes.patch_append (by omega)]

theorem slice_next {off n : Nat} (inside : off + n < buffer.length) :
    Bytes.slice buffer off n ++ [buffer.getD (off + n) 0] = Bytes.slice buffer off (n + 1) := by
  have one : Bytes.slice buffer (off + n) 1 = [buffer.getD (off + n) 0] := by
    rw [Bytes.slice, List.drop_eq_getElem_cons inside, List.getD_eq_getElem?_getD,
      List.getElem?_eq_getElem inside]
    rfl
  rw [← one, Bytes.slice_append]

theorem count_not_fault (fits : Fits maxSize w)
    (total : w.count.toNat = span maxSize w.entry w.request.count) :
    w.count.toInt64 ≠ -EFAULT := by
  have value := (Pcd.advance fits.nonneg fits.within total).1
  intro fault
  have negative : (-EFAULT : Int64).toInt < 0 := by decide
  rw [← fault, value] at negative
  omega

theorem read_got (room : (now.length : Int) = maxSize.toInt) (fits : Fits maxSize w)
    {count : Count} (reads : w.request = .read count) (got : Got maxSize buffer now count w)
    (step : advance maxSize now user w = .done (now', w')) :
    Got maxSize buffer now' count w' := by
  obtain ⟨rfl, out, _⟩ := got
  have reader : ¬ w.Writing := by
    rintro ⟨_, writes⟩
    cases reads.symm.trans writes
  have reached := fits.reached
  cases stage : w.stage with
  | ret value => simp [advance, stage] at step
  | clear =>
    rw [stage] at reached
    exact absurd reached.2.2 reader
  | space =>
    rw [stage] at reached
    exact absurd reached.2.1 reader
  | clamp =>
    simp only [advance, stage, reads, Outcome.done.injEq, Prod.mk.injEq] at step
    obtain ⟨rfl, rfl⟩ := step
    exact ⟨rfl, out, nofun⟩
  | update =>
    rw [stage] at reached
    simp only [advance, stage, Outcome.done.injEq, Prod.mk.injEq] at step
    obtain ⟨rfl, rfl⟩ := step
    refine ⟨rfl, out, fun fault => ?_⟩
    exact absurd (Stage.ret.inj fault) (count_not_fault fits reached.1.2.1)
  | copy =>
    rw [stage] at reached
    obtain ⟨copying, _⟩ := reached
    simp only [advance, stage, reads] at step
    by_cases done : w.moved = w.count.toNat
    · simp only [if_pos done, Outcome.done.injEq, Prod.mk.injEq] at step
      obtain ⟨rfl, rfl⟩ := step
      exact ⟨rfl, out, nofun⟩
    · obtain ⟨cell, inside⟩ := cell_inside room fits.nonneg fits.within copying done
      have less : w.moved < span maxSize w.entry count.val := by
        have whole := copying.2.1
        rw [reads] at whole
        exact Nat.lt_of_lt_of_eq (Nat.lt_of_le_of_ne copying.2.2 done) whole
      rw [if_neg done] at step
      cases user with
      | ok =>
        simp only [Work.give, cell, Outcome.done.injEq, Prod.mk.injEq] at step
        obtain ⟨rfl, rfl⟩ := step
        refine ⟨rfl, ?_, fun fault => nomatch stage.symm.trans fault⟩
        change w.out ++ _ = _
        rw [out]
        exact slice_next inside
      | fault | cleared =>
        simp only [Outcome.done.injEq, Prod.mk.injEq] at step
        obtain ⟨rfl, rfl⟩ := step
        exact ⟨rfl, out, fun _ => less⟩

theorem write_put (start : (buffer.length : Int) = maxSize.toInt)
    (room : (now.length : Int) = maxSize.toInt) (fits : Fits maxSize w)
    {buff : UserBytes} (writes : w.request = .write buff) (put : Put maxSize buffer now buff w)
    (step : advance maxSize now user w = .done (now', w')) :
    Put maxSize buffer now' buff w' := by
  have reached := fits.reached
  have total : span maxSize w.entry buff.count ≤ buff.bytes.length :=
    Nat.le_trans (Nat.min_le_left _ _) (Nat.le_of_eq buff.toNat_count)
  have request : w.request.count = buff.count := by rw [writes, Request.count]
  unfold Put at put
  cases stage : w.stage with
  | ret value => simp [advance, stage] at step
  | clamp =>
    simp only [stage] at put
    simp only [advance, stage, writes, Outcome.done.injEq, Prod.mk.injEq] at step
    obtain ⟨rfl, rfl⟩ := step
    exact put
  | space =>
    simp only [stage] at put
    simp only [advance, stage, Outcome.done.injEq, Prod.mk.injEq] at step
    obtain ⟨rfl, rfl⟩ := step
    by_cases full : w.count = 0
    · simp only [Put, if_pos full]
      exact .inl ⟨by decide, put⟩
    · simp only [Put, if_neg full]
      exact put
  | update =>
    rw [stage] at reached
    simp only [stage] at put
    simp only [advance, stage, Outcome.done.injEq, Prod.mk.injEq] at step
    obtain ⟨rfl, rfl⟩ := step
    exact .inl ⟨count_not_fault fits reached.1.2.1, put⟩
  | clear =>
    rw [stage] at reached
    obtain ⟨copying, _⟩ := reached
    have whole := copying.2.1
    rw [request] at whole
    simp only [stage] at put
    obtain ⟨k, le, less, here⟩ := put
    simp only [advance, stage] at step
    have length : (buff.bytes.take k ++ List.replicate (w.moved - k) 0).length = w.moved := by
      simp
      omega
    by_cases done : w.moved = w.count.toNat
    · simp only [if_pos done, Outcome.done.injEq, Prod.mk.injEq] at step
      obtain ⟨rfl, rfl⟩ := step
      refine .inr ⟨rfl, .fault k true, ?_, ?_⟩
      · exact Nat.lt_of_le_of_lt (Nat.min_le_left _ _) less
      · have kept : (UserAccess.fault k true).moved (span maxSize w.entry buff.count) = k :=
          Nat.min_eq_left (Nat.le_of_lt less)
        rw [here, done, whole, UserAccess.copied, kept]
        rfl
    · obtain ⟨cell, inside⟩ := cell_inside room fits.nonneg fits.within copying done
      simp only [if_neg done, Work.take, cell, Outcome.done.injEq, Prod.mk.injEq] at step
      obtain ⟨rfl, rfl⟩ := step
      simp only [Put, stage]
      refine ⟨k, Nat.le_succ_of_le le, less, ?_⟩
      have next := patch_next buffer w.entry.toInt.toNat
        (buff.bytes.take k ++ List.replicate (w.moved - k) 0) (by omega) 0
      rw [length] at next
      rw [here, next, List.append_assoc, ← List.replicate_succ', Nat.succ_sub le]
  | copy =>
    rw [stage] at reached
    obtain ⟨copying, _⟩ := reached
    have whole := copying.2.1
    rw [request] at whole
    simp only [stage] at put
    simp only [advance, stage, writes] at step
    by_cases done : w.moved = w.count.toNat
    · simp only [if_pos done, Outcome.done.injEq, Prod.mk.injEq] at step
      obtain ⟨rfl, rfl⟩ := step
      exact put
    · obtain ⟨cell, inside⟩ := cell_inside room fits.nonneg fits.within copying done
      have le := copying.2.2
      have short : w.moved < span maxSize w.entry buff.count := by omega
      have less : w.moved < buff.bytes.length := by omega
      rw [if_neg done] at step
      cases user with
      | ok =>
        simp only [Work.take, cell, Outcome.done.injEq, Prod.mk.injEq] at step
        obtain ⟨rfl, rfl⟩ := step
        simp only [Put, stage]
        have length : (buff.bytes.take w.moved).length = w.moved := by
          simp
          omega
        have next := patch_next buffer w.entry.toInt.toNat (buff.bytes.take w.moved) (by omega)
          (buff.bytes.getD w.moved 0)
        rw [length] at next
        rw [put, next, List.take_succ_eq_append_getElem less, List.getD_eq_getElem?_getD,
          List.getElem?_eq_getElem less]
        rfl
      | fault =>
        simp only [Outcome.done.injEq, Prod.mk.injEq] at step
        obtain ⟨rfl, rfl⟩ := step
        refine .inr ⟨rfl, .fault w.moved false, ?_, ?_⟩
        · exact Nat.lt_of_le_of_lt (Nat.min_le_left _ _) short
        · have kept : (UserAccess.fault w.moved false).moved (span maxSize w.entry buff.count) =
              w.moved := Nat.min_eq_left (Nat.le_of_lt short)
          rw [put, UserAccess.copied, kept]
          exact congrArg _ (List.append_nil _).symm
      | cleared =>
        simp only [Outcome.done.injEq, Prod.mk.injEq] at step
        obtain ⟨rfl, rfl⟩ := step
        refine ⟨w.moved, Nat.le_refl _, short, ?_⟩
        rw [put]
        simp

structure Lone (maxSize : Int32) (buffer : List UInt8) (x : List UInt8 × Work F) : Prop where
  room : (x.1.length : Int) = maxSize.toInt
  fits : Fits maxSize x.2
  read : ∀ count, x.2.request = .read count → Got maxSize buffer x.1 count x.2
  write : ∀ buff, x.2.request = .write buff → Put maxSize buffer x.1 buff x.2

theorem enter_lone (room : (buffer.length : Int) = maxSize.toInt) {fPos : Int64}
    (nonneg : 0 ≤ fPos.toInt) (within : fPos.toInt ≤ maxSize.toInt) (f : F)
    (request : Request) : Lone maxSize buffer (buffer, enterCall f request fPos) where
  room := room
  fits := enter_fits nonneg within f request
  read count _ := ⟨rfl, (List.take_zero ..).symm, nofun⟩
  write buff _ := by simp [Put, enterCall]

theorem lone_step {x y : List UInt8 × Work F} (start : (buffer.length : Int) = maxSize.toInt)
    (lone : Lone maxSize buffer x) (step : Alone maxSize x user y) : Lone maxSize buffer y := by
  obtain ⟨room, fits, read, write⟩ := lone
  rcases advance_advances room fits user with blocked | ⟨_, _, done, advances⟩
  · cases blocked.symm.trans step
  · cases done.symm.trans step
    obtain ⟨fits', ⟨_, request, _⟩, length, _⟩ := advances
    refine ⟨by simpa [length] using room, fits', fun count reads => ?_, fun buff writes => ?_⟩
    · rw [request] at reads
      exact read_got room fits reads (read count reads) step
    · rw [request] at writes
      exact write_put start room fits writes (write buff writes) step

theorem lone_run {f : F} {request : Request} {fPos : Int64} {users : List User}
    (room : (buffer.length : Int) = maxSize.toInt) (nonneg : 0 ≤ fPos.toInt)
    (within : fPos.toInt ≤ maxSize.toInt)
    (run : Run (Alone maxSize) (buffer, enterCall f request fPos) users (now, w)) :
    Lone maxSize buffer (now, w) ∧ w.request = request ∧ w.entry = fPos := by
  refine run_invariant (fun x => Lone maxSize buffer x ∧ x.2.request = request ∧ x.2.entry = fPos)
    ⟨enter_lone room nonneg within f request, rfl, rfl⟩ ?_ run
  intro x user y ⟨lone, asked, place⟩ step
  refine ⟨lone_step room lone step, ?_⟩
  rcases advance_advances lone.room lone.fits user with blocked | ⟨_, _, done, advances⟩
  · cases blocked.symm.trans step
  · cases done.symm.trans step
    obtain ⟨_, same, entry⟩ := advances.same
    exact ⟨same.trans asked, entry.trans place⟩

def Work.leaves (w : Work F) (value : Int64) : Int64 := if 0 ≤ value then w.fPos else w.entry

theorem leaves_failed {value : Int64} (failed : value = -ENOMEM ∨ value = -EFAULT) :
    w.leaves value = w.entry := by
  rcases failed with rfl | rfl <;> exact if_neg (by decide)

theorem leaves_done {value : Int64} {n : Nat} (answer : value.toInt = n) :
    w.leaves value = w.fPos := by
  have nonneg : 0 ≤ value := by
    rw [Int64.le_iff_toInt_le, answer]
    exact Int.natCast_nonneg n
  exact if_pos nonneg

theorem lone_read {count : Count} {value : Int64} (room : (buffer.length : Int) = maxSize.toInt)
    (lone : Lone maxSize buffer (now, w)) (reads : w.request = .read count)
    (returns : w.stage = .ret value) :
    now = buffer ∧ ∃ user, readBody maxSize buffer user count.val w.entry =
      .done ⟨value, w.out, w.leaves value⟩ := by
  obtain ⟨same, out, partly⟩ := lone.read count reads
  have fits : Fits maxSize w := lone.fits
  have placed : Placed maxSize buffer w.entry := ⟨fits.nonneg, fits.within, Int.le_of_eq room.symm⟩
  have reached : Reached maxSize w (.ret value) := returns ▸ fits.reached
  have request : w.request.count = count.val := by rw [reads, Request.count]
  refine ⟨same, ?_⟩
  rcases reached with ⟨_, ⟨_, writes⟩, _⟩ | ⟨rfl, _⟩ | ⟨_, whole, answer, position⟩
  · cases reads.symm.trans writes
  · have less : w.moved < span maxSize w.entry count.val := partly returns
    have moved : (UserAccess.fault w.moved false).moved (span maxSize w.entry count.val) =
        w.moved := Nat.min_eq_left (Nat.le_of_lt less)
    obtain ⟨⟨ret, sent, fPos⟩, done, sent_eq, ends⟩ :=
      readBody_reads (.fault w.moved false) placed count.property
    rw [moved] at sent_eq ends
    refine ⟨_, done.trans ?_⟩
    rcases ends with ⟨all, _⟩ | ⟨_, failed, kept⟩
    · exact absurd all (Nat.ne_of_lt less)
    · rw [show sent = w.out from sent_eq.trans out.symm, show ret = -EFAULT from failed,
        show fPos = w.entry from kept, leaves_failed (.inr rfl)]
  · rw [request] at whole
    obtain ⟨⟨ret, sent, fPos⟩, done, sent_eq, ends⟩ :=
      readBody_reads .full placed count.property
    refine ⟨_, done.trans ?_⟩
    rcases ends with ⟨_, given, moved⟩ | ⟨short, _⟩
    · have answers : ret = value :=
        Int64.toInt_inj.mp (given.trans (answer.trans (congrArg Nat.cast whole)).symm)
      have moves : fPos = w.fPos :=
        Int64.toInt_inj.mp (moved.trans (position.trans (whole ▸ rfl)).symm)
      have carried : sent = w.out := sent_eq.trans (out.trans (whole ▸ rfl)).symm
      rw [answers, moves, carried, leaves_done answer]
    · exact absurd short (Nat.lt_irrefl _)

theorem lone_write {buff : UserBytes} {value : Int64}
    (room : (buffer.length : Int) = maxSize.toInt) (lone : Lone maxSize buffer (now, w))
    (writes : w.request = .write buff) (returns : w.stage = .ret value) :
    ∃ user, writeBody maxSize buffer user buff.bytes buff.count w.entry =
      .done ⟨value, now, w.leaves value⟩ := by
  have put := lone.write buff writes
  have fits : Fits maxSize w := lone.fits
  have placed : Placed maxSize buffer w.entry := ⟨fits.nonneg, fits.within, Int.le_of_eq room.symm⟩
  have small : buff.count.toNat < 2 ^ 63 := buff.toNat_count ▸ buff.small
  have reached : Reached maxSize w (.ret value) := returns ▸ fits.reached
  have request : w.request.count = buff.count := by rw [writes, Request.count]
  simp only [Put, returns] at put
  simp only [Reached, request] at reached
  rcases reached with ⟨rfl, _, full, none⟩ | ⟨rfl, _⟩ | ⟨room_left, whole, answer, position⟩
  · obtain ⟨_, same⟩ : _ ∧ now = Bytes.patch buffer w.entry.toInt.toNat (buff.bytes.take w.moved) :=
      put.resolve_right fun ⟨wrong, _⟩ => absurd wrong (by decide)
    rw [none, List.take_zero, Bytes.patch_nil] at same
    obtain ⟨r, done, result⟩ := writeBody_writes buff.bytes .full placed small
    refine ⟨_, done.trans ?_⟩
    cases result with
    | noSpace _ result => rw [result, same, leaves_failed (.inl rfl)]
    | stored some_left _ _ _ _ => omega
    | faulted short _ => omega
  · obtain ⟨_, user, short, same⟩ := put.resolve_left fun ⟨wrong, _⟩ => wrong rfl
    obtain ⟨r, done, result⟩ := writeBody_writes buff.bytes user placed small
    refine ⟨_, done.trans ?_⟩
    cases result with
    | noSpace full _ => omega
    | stored _ all _ _ _ => omega
    | faulted _ result => rw [result, same, leaves_failed (.inr rfl)]
  · obtain ⟨_, same⟩ : _ ∧ now =
        Bytes.patch buffer w.entry.toInt.toNat (buff.bytes.take w.moved) := by
      refine put.resolve_right fun ⟨wrong, _⟩ => ?_
      have negative : (-EFAULT : Int64).toInt < 0 := by decide
      rw [← wrong, answer] at negative
      omega
    have some_left := room_left ⟨buff, writes⟩
    obtain ⟨⟨ret, stored, fPos⟩, done, result⟩ := writeBody_writes buff.bytes .full placed small
    refine ⟨_, done.trans ?_⟩
    cases result with
    | noSpace full _ => omega
    | stored _ _ given store moved =>
      have answers : ret = value :=
        Int64.toInt_inj.mp (given.trans (answer.trans (congrArg Nat.cast whole)).symm)
      have moves : fPos = w.fPos :=
        Int64.toInt_inj.mp (moved.trans (position.trans (whole ▸ rfl)).symm)
      have stores : stored = now := store.trans (same.trans (whole ▸ rfl)).symm
      rw [answers, moves, stores, leaves_done answer]
    | faulted short _ => exact absurd short (Nat.lt_irrefl _)

/-- A call that overlaps no other is a call of the bodies. -/
theorem alone_call {f : F} {request : Request} {fPos value : Int64} {users : List User}
    (room : (buffer.length : Int) = maxSize.toInt) (nonneg : 0 ≤ fPos.toInt)
    (within : fPos.toInt ≤ maxSize.toInt)
    (run : Run (Alone maxSize) (buffer, enterCall f request fPos) users (now, w))
    (returns : w.stage = .ret value) :
    match request with
    | .read count => now = buffer ∧ ∃ user, readBody maxSize buffer user count.val fPos =
        .done ⟨value, w.out, w.leaves value⟩
    | .write buff => ∃ user, writeBody maxSize buffer user buff.bytes buff.count fPos =
        .done ⟨value, now, w.leaves value⟩ := by
  obtain ⟨lone, asked, rfl⟩ := lone_run room nonneg within run
  cases request with
  | read count => exact lone_read room lone asked returns
  | write buff => exact lone_write room lone asked returns

theorem alone_call_read :
    ∃ user, readBody 2 [5, 6] user 1 1 = .done ⟨1, [6], 2⟩ := by
  let work : Work Unit := enterCall () (.read ⟨1, by decide⟩) 1
  have clamped : Run (Alone 2) ([5, 6], work) [.ok] ([5, 6], { work with stage := .copy }) :=
    .snoc .start rfl
  have copied : Run (Alone 2) ([5, 6], work) [.ok, .ok]
      ([5, 6], { work with moved := 1, out := [6], stage := .copy }) := .snoc clamped rfl
  have whole : Run (Alone 2) ([5, 6], work) [.ok, .ok, .ok]
      ([5, 6], { work with moved := 1, out := [6], stage := .update }) := .snoc copied rfl
  have returned : Run (Alone 2) ([5, 6], work) [.ok, .ok, .ok, .ok]
      ([5, 6], { work with fPos := 2, moved := 1, out := [6], stage := .ret 1 }) :=
    .snoc whole rfl
  exact (alone_call (by decide) (by decide) (by decide) returned rfl).2

end Alone

end MadDriver.Pcd.Unlocked

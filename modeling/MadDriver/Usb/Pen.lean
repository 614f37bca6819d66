import MadDriver.Core.Transition
import MadDriver.Usb.Skel

/-! usb_drv.c: pen_read and pen_write over the one `bulk_buf`. The user copy and the bulk
transfer of a call are steps of their own, between which any client may run. -/
namespace MadDriver.Pen
open Kernel Transition Function

def MAX_PKT_SIZE : Nat := 512

/-- How `usb_bulk_msg` ends. One that fails may do so before it sets the actual length. -/
inductive BulkMsg (α : Type) where
  | done (actual : α)
  | failed (retval : Skel.Errno) (actual : Option α)

def BulkMsg.actual {α : Type} : BulkMsg α → Option α
  | .done actual => some actual
  | .failed _ actual => actual

/-- Where a client stands: a write that has its bytes in `bulk_buf`, or a read that has
received some. -/
inductive Place where
  | outside
  | copied (buf : List UInt8)
  | received (cnt : Nat) (data : List UInt8)

structure PenState (C : Type) where
  bulkBuf : List UInt8
  place : C → Place

/-- The steps of a client, with what the user and the USB core do in them: the first two
are a pen_write of `buf`, the others a pen_read of `cnt` bytes. -/
inductive Act (C : Type) where
  | copyFromUser (c : C) (buf : List UInt8) (user : UserAccess)
  | bulkOut (c : C) (msg : BulkMsg Nat)
  | bulkIn (c : C) (cnt : Nat) (msg : BulkMsg (List UInt8))
  | copyToUser (c : C) (user : UserAccess)

def Act.client {C : Type} : Act C → C
  | .copyFromUser c _ _ | .bulkOut c _ | .bulkIn c _ _ | .copyToUser c _ => c

def Act.fill {C : Type} : Act C → List UInt8
  | .copyFromUser _ buf user => user.copied buf (min buf.length MAX_PKT_SIZE)
  | .bulkIn _ _ msg => msg.actual.getD []
  | .bulkOut _ _ | .copyToUser _ _ => []

/-- What a step puts on the endpoint, gives to the user, and, if it is the last of its
call, returns. -/
structure Reply where
  sent : List UInt8
  given : List UInt8
  ret : Option Int64

section Steps

variable {C : Type} [DecidableEq C]

def PenState.move (σ : PenState C) (act : Act C) (place : Place) : PenState C where
  bulkBuf := Bytes.patch σ.bulkBuf 0 act.fill
  place := update σ.place act.client place

/-- None where the client is not at the step, or the core reports more bytes than it was
asked for. -/
def penStep (σ : PenState C) (act : Act C) : Option (PenState C × Reply) :=
  match act, σ.place act.client with
  | .copyFromUser _ buf user, .outside =>
    if user.moved (min buf.length MAX_PKT_SIZE) ≠ min buf.length MAX_PKT_SIZE then
      some (σ.move act .outside, ⟨[], [], some (-EFAULT)⟩)
    else some (σ.move act (.copied buf), ⟨[], [], none⟩)
  | .bulkOut _ msg, .copied buf =>
    let wroteCnt := min buf.length MAX_PKT_SIZE
    if msg.actual.getD 0 ≤ wroteCnt then
      -- the result of the transfer is only logged
      some (σ.move act .outside, ⟨σ.bulkBuf.take (msg.actual.getD 0), [],
        some (.ofNat (msg.actual.getD wroteCnt))⟩)
    else none
  | .bulkIn _ cnt msg, .outside =>
    if act.fill.length ≤ MAX_PKT_SIZE then
      match msg with
      | .failed retval _ => some (σ.move act .outside, ⟨[], [], some retval.val⟩)
      | .done data => some (σ.move act (.received cnt data), ⟨[], [], none⟩)
    else none
  | .copyToUser _ user, .received cnt data =>
    let n := min cnt data.length
    let ret := if user.moved n ≠ n then -EFAULT else .ofNat n
    some (σ.move act .outside, ⟨[], σ.bulkBuf.take (user.moved n), some ret⟩)
  | _, _ => none

structure Event (C : Type) where
  act : Act C
  place : Place
  reply : Reply

def PenStep (σ : PenState C) (e : Event C) (σ' : PenState C) : Prop :=
  penStep σ e.act = some (σ', e.reply) ∧ e.place = σ.place e.act.client

def fresh (C : Type) : PenState C := ⟨List.replicate MAX_PKT_SIZE 0, fun _ => .outside⟩

/-- A write puts its own bytes on the endpoint, and returns their number or an error. -/
structure WriteRight (buf : List UInt8) (msg : BulkMsg Nat) (reply : Reply) : Prop where
  own : reply.sent = (buf.take MAX_PKT_SIZE).take (msg.actual.getD 0)
  succeeds : ∀ n, msg = .done n → reply.ret = some (.ofNat reply.sent.length)
  fails : ∀ retval n, msg = .failed retval n → ∃ r, reply.ret = some r ∧ r.toInt < 0

structure ReadRight (cnt : Nat) (data : List UInt8) (reply : Reply) : Prop where
  own : reply.given <+: data.take cnt
  succeeds : ∀ r, reply.ret = some r → 0 ≤ r.toInt →
    reply.given = data.take cnt ∧ r = .ofNat reply.given.length

def Event.Right (e : Event C) : Prop :=
  match e.act, e.place with
  | .bulkOut _ msg, .copied buf => WriteRight buf msg e.reply
  | .copyToUser _ _, .received cnt data => ReadRight cnt data e.reply
  | _, _ => True

def Act.OutFails : Act C → Prop
  | .bulkOut _ (.failed _ _) => True
  | _ => False

def Place.wants : Place → List UInt8
  | .outside => []
  | .copied buf => buf.take MAX_PKT_SIZE
  | .received cnt data => data.take cnt

/-- Where a step fills in over bytes that another call has still to use, it puts down
the bytes that stand there. -/
def Undisturbed (σ : PenState C) (e : Event C) : Prop :=
  ∀ c ≠ e.act.client, e.act.fill.take (σ.place c).wants.length <+: σ.bulkBuf

def Intact (σ : PenState C) : Prop := ∀ c, (σ.place c).wants <+: σ.bulkBuf

end Steps

theorem prefix_patch {w buf fill : List UInt8} (kept : w <+: buf)
    (same : fill.take w.length <+: buf) : w <+: Bytes.patch buf 0 fill := by
  rw [Bytes.patch, List.take_zero, List.nil_append, Nat.zero_add]
  by_cases short : fill.length ≤ w.length
  · rw [List.take_of_length_le short] at same
    obtain ⟨rest, rfl⟩ := same
    rwa [List.drop_left]
  · have front : fill.take w.length = w := by
      apply (List.prefix_of_prefix_length_le same kept ?_).eq_of_length
      · rw [List.length_take]
        omega
      · exact List.length_take_le _ _
    rw [← front]
    exact (List.take_prefix _ _).trans (List.prefix_append _ _)

theorem take_of_prefix {w buf : List UInt8} {k : Nat} (kept : w <+: buf) (within : k ≤ w.length) :
    buf.take k = w.take k := by
  obtain ⟨rest, rfl⟩ := kept
  exact List.take_append_of_le_length within

section Runs

variable {C : Type} [DecidableEq C] {σ σ' : PenState C} {e : Event C}

theorem step_moves (step : PenStep σ e σ') :
    ∃ place, σ' = σ.move e.act place ∧ place.wants <+: e.act.fill := by
  obtain ⟨act, place, reply⟩ := e
  obtain ⟨taken, _⟩ := step
  cases act with
  | copyFromUser c buf user =>
    cases here : σ.place c with
    | outside =>
      simp only [penStep, Act.client, here] at taken
      split at taken
      · cases taken
        exact ⟨.outside, rfl, List.nil_prefix⟩
      · rename_i whole
        cases taken
        have own : user.copied buf (min buf.length MAX_PKT_SIZE) = buf.take MAX_PKT_SIZE := by
          rw [UserAccess.copied_whole (Decidable.not_not.mp whole), Nat.min_comm,
            ← List.take_eq_take_min]
        exact ⟨.copied buf, rfl, ⟨[], (List.append_nil _).trans own.symm⟩⟩
    | copied _ | received _ _ => simp [penStep, Act.client, here] at taken
  | bulkOut c msg =>
    cases here : σ.place c with
    | copied buf =>
      simp only [penStep, Act.client, here] at taken
      split at taken
      · cases taken
        exact ⟨.outside, rfl, List.nil_prefix⟩
      · cases taken
    | outside | received _ _ => simp [penStep, Act.client, here] at taken
  | bulkIn c cnt msg =>
    cases here : σ.place c with
    | outside =>
      simp only [penStep, Act.client, here] at taken
      split at taken
      · cases msg with
        | failed retval actual =>
          cases taken
          exact ⟨.outside, rfl, List.nil_prefix⟩
        | done data =>
          cases taken
          exact ⟨.received cnt data, rfl, List.take_prefix _ _⟩
      · cases taken
    | copied _ | received _ _ => simp [penStep, Act.client, here] at taken
  | copyToUser c user =>
    cases here : σ.place c with
    | received cnt data =>
      simp only [penStep, Act.client, here] at taken
      cases taken
      exact ⟨.outside, rfl, List.nil_prefix⟩
    | outside | copied _ => simp [penStep, Act.client, here] at taken

theorem step_intact (intact : Intact σ) (quiet : Undisturbed σ e) (step : PenStep σ e σ') :
    Intact σ' := by
  obtain ⟨place, rfl, own⟩ := step_moves step
  intro c
  by_cases mine : c = e.act.client
  · subst mine
    simp only [PenState.move, update_self, Bytes.patch, List.take_zero, List.nil_append]
    exact own.trans (List.prefix_append _ _)
  · simp only [PenState.move, update_of_ne mine]
    exact prefix_patch (intact c) (quiet c mine)

theorem write_right {c : C} {msg : BulkMsg Nat} {buf : List UInt8} {reply : Reply}
    (intact : Intact σ) (here : σ.place c = .copied buf)
    (taken : penStep σ (.bulkOut c msg) = some (σ', reply)) :
    WriteRight buf msg reply ↔ ¬ (Act.bulkOut c msg).OutFails := by
  have own := intact c
  simp only [penStep, Act.client, here] at taken
  split at taken
  · rename_i asked
    cases taken
    rw [here, Place.wants] at own
    have within : msg.actual.getD 0 ≤ (buf.take MAX_PKT_SIZE).length := by
      rw [List.length_take]
      omega
    have sent := take_of_prefix own within
    cases msg with
    | done n =>
      refine ⟨fun _ => id, fun _ => ⟨sent, ?_, nofun⟩⟩
      intro k same
      cases same
      have length : (σ.bulkBuf.take n).length = n := by
        have longer := own.length_le
        change n ≤ _ at within
        rw [List.length_take]
        omega
      simp only [BulkMsg.actual, Option.getD_some, length]
    | failed retval n =>
      refine ⟨fun right => ?_, fun never => absurd trivial never⟩
      obtain ⟨r, value, negative⟩ := right.fails retval n rfl
      cases value
      have small : (n.getD (min buf.length MAX_PKT_SIZE)) ≤ MAX_PKT_SIZE := by
        cases n with
        | none => exact Nat.min_le_right _ _
        | some n =>
          change n ≤ _ at within
          exact Nat.le_trans within (List.length_take_le _ _)
      unfold MAX_PKT_SIZE at small
      change (Int64.ofNat (n.getD (min buf.length 512))).toInt < 0 at negative
      rw [Int64.toInt_ofNat_of_lt (by omega)] at negative
      omega
  · cases taken

theorem read_right {c : C} {user : UserAccess} {cnt : Nat} {data : List UInt8} {reply : Reply}
    (intact : Intact σ) (here : σ.place c = .received cnt data)
    (taken : penStep σ (.copyToUser c user) = some (σ', reply)) : ReadRight cnt data reply := by
  have own := intact c
  simp only [penStep, Act.client, here] at taken
  cases taken
  rw [here, Place.wants] at own
  have length : (data.take cnt).length = min cnt data.length := List.length_take
  have within : user.moved (min cnt data.length) ≤ (data.take cnt).length := by
    rw [length]
    exact user.moved_le _
  have given := take_of_prefix own within
  constructor
  · change σ.bulkBuf.take (user.moved (min cnt data.length)) <+: data.take cnt
    rw [given]
    exact List.take_prefix _ _
  · intro r returned success
    cases returned
    by_cases whole : user.moved (min cnt data.length) = min cnt data.length
    · have all : (data.take cnt).take (min cnt data.length) = data.take cnt :=
        List.take_of_length_le (Nat.le_of_eq length)
      rw [whole, all] at given
      simp only [whole, ne_eq, not_true, if_false, given, length, true_and]
    · simp only [ne_eq, whole, not_false_eq_true, if_true] at success
      exact absurd success (by decide)

theorem step_right (intact : Intact σ) (step : PenStep σ e σ') : e.Right ↔ ¬ e.act.OutFails := by
  obtain ⟨act, place, reply⟩ := e
  obtain ⟨taken, known⟩ := step
  cases act with
  | bulkOut c msg =>
    cases here : σ.place c with
    | copied buf =>
      obtain rfl := known.trans here
      exact write_right intact here taken
    | outside | received _ _ => simp [penStep, Act.client, here] at taken
  | copyToUser c user =>
    cases here : σ.place c with
    | received cnt data =>
      obtain rfl := known.trans here
      exact ⟨fun _ => id, fun _ => read_right intact here taken⟩
    | outside | copied _ => simp [penStep, Act.client, here] at taken
  | copyFromUser c buf user => simp [Event.Right, Act.OutFails]
  | bulkIn c cnt msg => simp [Event.Right, Act.OutFails]

omit [DecidableEq C] in
theorem fresh_intact : Intact (fresh C) := fun _ => List.nil_prefix

/-- Any number of clients, any transfers, and any interleaving in which no step disturbs
another call. -/
theorem pen_right_iff {hist : List (Event C)}
    (run : Run (Guarded PenStep Undisturbed) (fresh C) hist σ) :
    (∀ e ∈ hist, e.Right) ↔ ∀ e ∈ hist, ¬ e.act.OutFails := by
  have both : Intact σ ∧ ((∀ e ∈ hist, e.Right) ↔ ∀ e ∈ hist, ¬ e.act.OutFails) := by
    refine run_history (fun hist σ => Intact σ ∧
      ((∀ e ∈ hist, e.Right) ↔ ∀ e ∈ hist, ¬ e.act.OutFails)) ?_ ?_ run
    · exact ⟨fresh_intact, by simp⟩
    · rintro hist σ e σ' _ ⟨intact, before⟩ ⟨step, quiet⟩
      refine ⟨step_intact intact quiet step, ?_⟩
      simp only [List.forall_mem_append, List.forall_mem_singleton]
      rw [before, step_right intact step]
  exact both.2

end Runs

def wrote {C : Type} (c : C) (buf : List UInt8) : Event C :=
  ⟨.copyFromUser c buf .full, .outside, ⟨[], [], none⟩⟩

def transferred {C : Type} (c : C) (buf : List UInt8) (msg : BulkMsg Nat) (sent : List UInt8)
    (ret : Int64) : Event C :=
  ⟨.bulkOut c msg, .copied buf, ⟨sent, [], some ret⟩⟩

/-- One client writes after the other. -/
theorem pen_right_two :
    (∀ e ∈ [wrote false [7], transferred false [7] (.done 1) [7] 1, wrote true [8]], e.Right) ↔
      ∀ e ∈ [wrote false [7], transferred false [7] (.done 1) [7] 1, wrote true [8]],
        ¬ e.act.OutFails := by
  have quiet : ∀ (σ : PenState Bool) (e : Event Bool), (∀ c, σ.place c = .outside) →
      Undisturbed σ e := by
    intro σ e outside c _
    rw [outside c]
    exact List.nil_prefix
  have first : Undisturbed (fresh Bool) (wrote false [7]) := quiet _ _ fun _ => rfl
  refine pen_right_iff (.snoc (.snoc (.snoc .start ⟨⟨rfl, rfl⟩, first⟩) ⟨⟨rfl, rfl⟩, ?second⟩)
    ⟨⟨rfl, rfl⟩, ?third⟩)
  case second =>
    intro c other
    cases c
    · exact absurd rfl other
    · exact List.nil_prefix
  case third => exact quiet _ _ fun c => by cases c <;> rfl

/-- A second client's user copy between the two steps of the first one's write: the
second one's byte goes out. And a transfer that fails at once: the write returns 1. -/
theorem cross_talk :
    (∃ σ, Run PenStep (fresh Bool)
      [wrote false [7], wrote true [8], transferred false [7] (.done 1) [8] 1] σ) ∧
    ¬ (transferred false [7] (.done 1) [8] 1).Right ∧
    (∃ σ, Run PenStep (fresh Bool)
      [wrote false [7], transferred false [7] (.failed ⟨-ENOMEM, by decide⟩ none) [] 1] σ) ∧
    ¬ (transferred false [7] (.failed ⟨-ENOMEM, by decide⟩ none) [] 1).Right := by
  refine ⟨⟨_, .snoc (.snoc (.snoc .start ⟨rfl, rfl⟩) ⟨rfl, rfl⟩) ⟨rfl, rfl⟩⟩, ?_,
    ⟨_, .snoc (.snoc .start ⟨rfl, rfl⟩) ⟨rfl, rfl⟩⟩, ?_⟩
  · intro right
    exact absurd right.own (by decide)
  · intro right
    obtain ⟨r, returned, negative⟩ := right.fails _ _ rfl
    cases returned
    exact absurd negative (by decide)

end MadDriver.Pen

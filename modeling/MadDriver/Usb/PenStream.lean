import Mathlib.Data.List.Forall2
import MadDriver.Usb.Pen

/-! pen_read as the end of a stream. What a read has no room for stays in `bulk_buf` and
the transfer of the next read goes over it, so a byte that is not returned at once never is. -/
namespace MadDriver.Pen
open Kernel

/-- A pen_read of `cnt` bytes and the packet its transfer receives. -/
structure Call where
  cnt : Nat
  packet : List UInt8

structure Call.Ok (call : Call) : Prop where
  positive : 0 < call.cnt
  size : call.packet.length ≤ MAX_PKT_SIZE

def Call.reply (call : Call) : Reply :=
  ⟨[], call.packet.take call.cnt, some (.ofNat (min call.cnt call.packet.length))⟩

def packets (calls : List Call) : List UInt8 := calls.flatMap Call.packet

def asked (calls : List Call) : Nat := calls.foldr (fun call n => call.cnt + n) 0

theorem asked_replicate (n cnt : Nat) (packet : List UInt8) :
    asked (List.replicate n ⟨cnt, packet⟩) = n * cnt := by
  induction n with
  | zero => simp [asked]
  | succ n ih =>
    rw [asked] at ih ⊢
    rw [List.replicate_succ, List.foldr_cons, ih, Nat.succ_mul, Nat.add_comm]

def returned (replies : List Reply) : List UInt8 := replies.flatMap Reply.given

section Reads

variable {C : Type} [DecidableEq C]

/-- A read whose transfer and copy succeed, none where its client is in another call. -/
def penRead (c : C) (σ : PenState C) (call : Call) : Option (PenState C × Reply) :=
  (penStep σ (.bulkIn c call.cnt (.done call.packet))).bind fun (σ, _) =>
    penStep σ (.copyToUser c .full)

def penReads (c : C) : PenState C → List Call → Option (PenState C × List Reply)
  | σ, [] => some (σ, [])
  | σ, call :: calls =>
    (penRead c σ call).bind fun (σ, reply) =>
      (penReads c σ calls).map fun (σ, replies) => (σ, reply :: replies)

def Delivers (c : C) (σ : PenState C) (pending : List UInt8) : Prop :=
  ∀ calls : List Call, (∀ call ∈ calls, call.Ok) →
    pending.length ≤ asked calls →
    ∀ σ' replies, penReads c σ calls = some (σ', replies) → pending <+: returned replies

structure StreamRight (c : C) (calls : List Call) (σ : PenState C) (replies : List Reply) :
    Prop where
  sizes : List.Forall₂ (fun call reply => ∃ r, reply.ret = some r ∧
    r.toInt = reply.given.length ∧ r.toInt ≤ call.cnt) calls replies
  stream : ∃ pending, returned replies ++ pending = packets calls ∧ Delivers c σ pending

variable {c : C} {σ : PenState C}

theorem penRead_eq (outside : σ.place c = .outside) {call : Call} (ok : call.Ok) :
    ∃ σ', penRead c σ call = some (σ', call.reply) ∧ σ'.place c = .outside := by
  have received : penStep σ (.bulkIn c call.cnt (.done call.packet)) =
      some (σ.move (.bulkIn c call.cnt (.done call.packet)) (.received call.cnt call.packet),
        ⟨[], [], none⟩) := by
    simp only [penStep, Act.client, outside]
    exact if_pos ok.size
  rw [penRead, received, Option.bind_some]
  generalize after : σ.move (.bulkIn c call.cnt (.done call.packet))
    (.received call.cnt call.packet) = σ₁
  have place : σ₁.place c = .received call.cnt call.packet := by
    rw [← after]
    exact Function.update_self _ _ _
  have kept : call.packet <+: σ₁.bulkBuf := by
    rw [← after]
    exact List.prefix_append _ _
  have front := take_of_prefix kept (Nat.min_le_right call.cnt _)
  rw [← List.take_eq_take_min] at front
  refine ⟨σ₁.move (.copyToUser c .full) .outside, ?_, Function.update_self _ _ _⟩
  simp only [penStep, Act.client, place, UserAccess.moved, front, ne_eq, not_true, if_false]
  rfl

theorem penReads_eq (outside : σ.place c = .outside) {calls : List Call}
    (ok : ∀ call ∈ calls, call.Ok) :
    ∃ σ', penReads c σ calls = some (σ', calls.map Call.reply) ∧ σ'.place c = .outside := by
  induction calls generalizing σ with
  | nil => exact ⟨σ, rfl, outside⟩
  | cons call calls ih =>
    obtain ⟨σ₁, first, outside₁⟩ := penRead_eq outside (ok call List.mem_cons_self)
    obtain ⟨σ₂, rest, outside₂⟩ := ih outside₁ fun later member =>
      ok later (List.mem_cons_of_mem _ member)
    refine ⟨σ₂, ?_, outside₂⟩
    simp only [penReads, first, Option.bind_some, rest, Option.map_some, List.map_cons]

theorem delivers_iff (outside : σ.place c = .outside) {pending : List UInt8} :
    Delivers c σ pending ↔ pending = [] := by
  constructor
  · intro delivers
    have ok : ∀ call ∈ List.replicate pending.length (⟨1, []⟩ : Call), call.Ok := by
      intro call member
      rw [List.eq_of_mem_replicate member]
      exact ⟨by decide, by decide⟩
    obtain ⟨σ', done, _⟩ := penReads_eq outside ok
    have nothing : returned ((List.replicate pending.length ⟨1, []⟩).map Call.reply) = [] := by
      simp [returned, Call.reply, List.flatMap_eq_nil_iff]
    have number : asked (List.replicate pending.length ⟨1, []⟩) = pending.length := by
      rw [asked_replicate, Nat.mul_one]
    have first := delivers _ ok (Nat.le_of_eq number.symm) σ' _ done
    rw [nothing] at first
    exact List.prefix_nil.mp first
  · rintro rfl calls _ _ σ' replies _
    exact List.nil_prefix

end Reads

theorem length_fronts_le (calls : List Call) :
    (returned (calls.map Call.reply)).length ≤ (packets calls).length := by
  induction calls with
  | nil => exact Nat.le_refl _
  | cons call calls ih =>
    simp only [returned, packets, List.map_cons, List.flatMap_cons, List.length_append,
      Call.reply, List.length_take] at ih ⊢
    omega

/-- The fronts are the packets exactly if every packet fits its read. -/
theorem fronts_eq_iff {calls : List Call} :
    returned (calls.map Call.reply) = packets calls ↔
      ∀ call ∈ calls, call.packet.length ≤ call.cnt := by
  induction calls with
  | nil => simp [returned, packets]
  | cons call calls ih =>
    have fewer := length_fronts_le calls
    have split : returned ((call :: calls).map Call.reply) =
        call.packet.take call.cnt ++ returned (calls.map Call.reply) := rfl
    have whole : packets (call :: calls) = call.packet ++ packets calls := rfl
    rw [split, whole, List.forall_mem_cons, ← ih]
    constructor
    · intro same
      have lengths := congrArg List.length same
      simp only [List.length_append, List.length_take] at lengths
      have fits : call.packet.length ≤ call.cnt := by omega
      rw [List.take_of_length_le fits] at same
      exact ⟨fits, List.append_cancel_left same⟩
    · rintro ⟨fits, rest⟩
      rw [List.take_of_length_le fits, rest]

section Reads

variable {C : Type} [DecidableEq C] {c : C} {σ : PenState C}

/-- Any number of reads of one client from where it is in no call: the stream goes
through exactly if no packet is longer than its read asks for. -/
theorem stream_right_iff (outside : σ.place c = .outside) {calls : List Call}
    (ok : ∀ call ∈ calls, call.Ok) :
    ∃ σ' replies, penReads c σ calls = some (σ', replies) ∧
      (StreamRight c calls σ' replies ↔ ∀ call ∈ calls, call.packet.length ≤ call.cnt) := by
  obtain ⟨σ', done, outside'⟩ := penReads_eq outside ok
  refine ⟨σ', _, done, ?_⟩
  rw [← fronts_eq_iff]
  constructor
  · rintro ⟨_, pending, stream, delivers⟩
    rw [(delivers_iff outside').mp delivers, List.append_nil] at stream
    exact stream
  · intro same
    refine ⟨?_, [], ?_, (delivers_iff outside').mpr rfl⟩
    · rw [List.forall₂_map_right_iff, List.forall₂_same]
      intro call member
      have size := (ok call member).size
      have bound : MAX_PKT_SIZE = 512 := rfl
      have value : (Int64.ofNat (min call.cnt call.packet.length)).toInt =
          min call.cnt call.packet.length := Int64.toInt_ofNat_of_lt (by omega)
      refine ⟨_, rfl, ?_, ?_⟩
      · rw [value]
        simp [Call.reply]
      · rw [value]
        omega
    · rw [List.append_nil, same]

end Reads

theorem stream_right_iff_two : ∃ σ' replies,
    penReads () (fresh Unit) [⟨2, [7, 8]⟩, ⟨1, []⟩] = some (σ', replies) ∧
      (StreamRight () [⟨2, [7, 8]⟩, ⟨1, []⟩] σ' replies ↔
        ∀ call ∈ [(⟨2, [7, 8]⟩ : Call), ⟨1, []⟩], call.packet.length ≤ call.cnt) := by
  apply stream_right_iff rfl
  simp only [List.forall_mem_cons, List.not_mem_nil, false_implies, implies_true, and_true]
  exact ⟨⟨by decide, by decide⟩, by decide, by decide⟩

/-- The 8 of the first packet is gone: the second read gives the 9 of the second. -/
theorem byte_dropped : ∃ σ' replies,
    penReads () (fresh Unit) [⟨1, [7, 8]⟩, ⟨1, [9]⟩] = some (σ', replies) ∧
      returned replies = [7, 9] ∧ ¬ StreamRight () [⟨1, [7, 8]⟩, ⟨1, [9]⟩] σ' replies := by
  refine ⟨_, _, rfl, rfl, ?_⟩
  rintro ⟨_, pending, stream, _⟩
  cases stream

end MadDriver.Pen

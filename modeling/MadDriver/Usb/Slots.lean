import MadDriver.Usb.Life

/-! The slots and the transfer buffers of skel_write: both go from the call to the URB
when it is submitted, and each is given back by whoever has it then. -/
namespace MadDriver.Skel
open Census Transition Lock Table Function

variable {I F : Type} {s m t : State I F} {i : I} {f : F} {e : Event I} {q : Phase F}

def WritePhase.HoldsSlot : WritePhase → Prop
  | .down | .unlock => False
  | _ => True

def Phase.HoldsSlot : Phase F → Prop
  | .writing _ p => p.HoldsSlot
  | _ => False

def WritePhase.buffer : WritePhase → Option Nat
  | .copyFromUser b | .mutexLock b | .disconnected b | .submit b | .unlockError b _ => some b
  | .freeCoherent b _ => b
  | _ => none

def Phase.buffer : Phase F → Option Nat
  | .writing _ p => p.buffer
  | _ => none

/-- Submitted, and its completion handler has not come to its end. -/
def Transfer.Pending (transfer : Transfer) : Prop := transfer ≠ .idle

def Transfer.HasBuffer : Transfer → Prop
  | .inFlight _ | .completed => True
  | _ => False

/-- Where a transfer buffer is: not yet allocated, with one call, with its URB, or freed. -/
inductive Place (s : State I F) (b : Nat) : Prop where
  | fresh : ¬ b < s.nextBuf → s.frees b = 0 → s.transfer b = .idle →
      (∀ j, (s.thread j).buffer ≠ some b) → Place s b
  | call (i : I) : b < s.nextBuf → s.frees b = 0 → s.transfer b = .idle →
      (∀ j, (s.thread j).buffer = some b ↔ j = i) → Place s b
  | urb : b < s.nextBuf → s.frees b = 0 → (s.transfer b).HasBuffer →
      (∀ j, (s.thread j).buffer ≠ some b) → Place s b
  | freed : b < s.nextBuf → s.frees b = 1 → ¬ (s.transfer b).HasBuffer →
      (∀ j, (s.thread j).buffer ≠ some b) → Place s b

structure Slots (s : State I F) (held pending : Nat) : Prop where
  calls : Counts Phase.HoldsSlot s.thread held
  urbs : Counts Transfer.Pending s.transfer pending
  sum : s.limitSem + held + pending = if s.core.allocated then WRITES_IN_FLIGHT else 0

structure Elsewhere (s t : State I F) : Prop where
  holdsSlot : ∀ i, (t.thread i).HoldsSlot ↔ (s.thread i).HoldsSlot
  buffer : ∀ i, (t.thread i).buffer = (s.thread i).buffer
  limitSem : t.limitSem = s.limitSem
  transfer : t.transfer = s.transfer
  frees : t.frees = s.frees
  nextBuf : t.nextBuf = s.nextBuf
  core : t.core = s.core

theorem plugged_slots : Slots (plugged : State I F) 0 0 :=
  ⟨counts_none fun _ => id, counts_none fun _ pending => pending rfl, rfl⟩

theorem plugged_place (b : Nat) : Place (plugged : State I F) b :=
  .fresh (Nat.not_lt_zero b) rfl rfl nofun

theorem place_call {b : Nat} (place : Place s b) (has : (s.thread i).buffer = some b) :
    b < s.nextBuf ∧ s.frees b = 0 ∧ s.transfer b = .idle ∧
      ∀ j, (s.thread j).buffer = some b ↔ j = i := by
  cases place with
  | call j allocated unfreed idle mine =>
    rw [(mine i).mp has]
    exact ⟨allocated, unfreed, idle, mine⟩
  | fresh _ _ _ none | urb _ _ _ none | freed _ _ _ none => exact absurd has (none i)

theorem place_urb {b : Nat} (place : Place s b) (has : (s.transfer b).HasBuffer) :
    b < s.nextBuf ∧ s.frees b = 0 ∧ ∀ j, (s.thread j).buffer ≠ some b := by
  cases place with
  | urb allocated unfreed _ none => exact ⟨allocated, unfreed, none⟩
  | fresh _ _ idle _ | call _ _ _ idle _ =>
    rw [idle] at has
    exact has.elim
  | freed _ _ without _ => exact absurd has without

theorem place_fresh {b : Nat} (place : Place s b) (beyond : ¬ b < s.nextBuf) :
    s.frees b = 0 ∧ s.transfer b = .idle ∧ ∀ j, (s.thread j).buffer ≠ some b := by
  cases place with
  | fresh _ unfreed idle none => exact ⟨unfreed, idle, none⟩
  | call _ allocated _ _ _ | urb allocated _ _ _ | freed allocated _ _ _ =>
    exact absurd allocated beyond

theorem place_congr {b : Nat} (place : Place s b)
    (calls : ∀ j, (t.thread j).buffer = some b ↔ (s.thread j).buffer = some b)
    (transfer : t.transfer b = s.transfer b) (frees : t.frees b = s.frees b)
    (allocated : b < t.nextBuf ↔ b < s.nextBuf) : Place t b := by
  have nobody (none : ∀ j, (s.thread j).buffer ≠ some b) (j : I) :
      (t.thread j).buffer ≠ some b := fun has => none j ((calls j).mp has)
  cases place with
  | fresh beyond unfreed idle none =>
    exact .fresh (mt allocated.mp beyond) (frees.trans unfreed) (transfer.trans idle) (nobody none)
  | call i below unfreed idle mine =>
    exact .call i (allocated.mpr below) (frees.trans unfreed) (transfer.trans idle)
      fun j => (calls j).trans (mine j)
  | urb below unfreed has none =>
    exact .urb (allocated.mpr below) (frees.trans unfreed) (transfer ▸ has) (nobody none)
  | freed below once without none =>
    exact .freed (allocated.mpr below) (frees.trans once) (transfer ▸ without) (nobody none)

section Steps

variable [DecidableEq I] [DecidableEq F]

omit [DecidableEq F] in
theorem elsewhere_call {p : Phase F} (here : s.thread i = p)
    (before : ¬ p.HoldsSlot ∧ p.buffer = none) (after : ¬ q.HoldsSlot ∧ q.buffer = none)
    (kept : m.limitSem = s.limitSem ∧ m.transfer = s.transfer ∧ m.frees = s.frees ∧
      m.nextBuf = s.nextBuf ∧ m.core = s.core) :
    Elsewhere s { m with thread := update s.thread i q } := by
  subst here
  obtain ⟨limitSem, transfer, frees, nextBuf, core⟩ := kept
  refine ⟨?_, ?_, limitSem, transfer, frees, nextBuf, core⟩
  · intro j
    rcases eq_or_ne j i with rfl | away
    · simp only [update_self, before.1, after.1]
    · simp only [update_of_ne away]
  · intro j
    rcases eq_or_ne j i with rfl | away
    · simp only [update_self, before.2, after.2]
    · simp only [update_of_ne away]

omit [DecidableEq I] [DecidableEq F] in
theorem apart_slots {p : Phase F} (apart : p.Apart) : ¬ p.HoldsSlot ∧ p.buffer = none := by
  cases p with
  | writing w p => cases p <;> first | exact ⟨id, rfl⟩ | cases apart
  | _ => exact ⟨id, rfl⟩

theorem step_writes (move : Step s e t) :
    (∃ i w p q m, s.thread i = .writing w p ∧ WriteStep s i w p e q m ∧
      t = { m with thread := update s.thread i q }) ∨
    DeviceStep s e t ∨ CoreStep s e t ∨ Elsewhere s t := by
  cases step_kind move with
  | empty =>
    exact .inr (.inr (.inr ⟨fun _ => Iff.rfl, fun _ => rfl, rfl, rfl, rfl, rfl, rfl⟩))
  | writing here step => exact .inl ⟨_, _, _, _, _, here, step, rfl⟩
  | device step => exact .inr (.inl step)
  | core step => exact .inr (.inr (.inl step))
  | aside step =>
    refine .inr (.inr (.inr (elsewhere_call rfl (apart_slots step.before)
      (apart_slots step.after) ?_)))
    rw [step.frame]
    exact ⟨rfl, rfl, rfl, rfl, rfl⟩
  | reading here step =>
    obtain ⟨frame, after⟩ := read_frame step
    refine .inr (.inr (.inr (elsewhere_call here ⟨id, rfl⟩ ?_ ?_)))
    · rcases after with rfl | ⟨_, rfl⟩ <;> exact ⟨id, rfl⟩
    · rw [frame]
      exact ⟨rfl, rfl, rfl, rfl, rfl⟩
  | flushing here step =>
    obtain ⟨frame, after⟩ := flush_frame step
    refine .inr (.inr (.inr (elsewhere_call here ⟨id, rfl⟩ ?_ ?_)))
    · rcases after with rfl | ⟨_, rfl⟩ <;> exact ⟨id, rfl⟩
    · rw [frame]
      exact ⟨rfl, rfl, rfl, rfl, rfl⟩

omit [DecidableEq I] [DecidableEq F] in
theorem slots_move {k n k' n' : Nat} (slots : Slots s k n)
    (calls : Counts Phase.HoldsSlot t.thread k') (urbs : Counts Transfer.Pending t.transfer n')
    (core : t.core = s.core) (sum : t.limitSem + k' + n' = s.limitSem + k + n) :
    Slots t k' n' := by
  refine ⟨calls, urbs, ?_⟩
  rw [core, sum]
  exact slots.sum

omit [DecidableEq F] in
theorem slots_stay {k n : Nat} (slots : Slots s k n)
    (same : q.HoldsSlot ↔ (s.thread i).HoldsSlot) (transfer : m.transfer = s.transfer)
    (core : m.core = s.core) (limitSem : m.limitSem = s.limitSem) :
    Slots { m with thread := update s.thread i q } k n := by
  refine slots_move slots (counts_stay slots.calls same) ?_ core ?_
  · change Counts _ m.transfer n
    rw [transfer]
    exact slots.urbs
  · change m.limitSem + k + n = s.limitSem + k + n
    rw [limitSem]

omit [DecidableEq F] in
theorem slots_leave {k n n' : Nat} (slots : Slots s k n) (holds : (s.thread i).HoldsSlot)
    (without : ¬ q.HoldsSlot) (urbs : Counts Transfer.Pending m.transfer n')
    (core : m.core = s.core) (sum : m.limitSem + n' = s.limitSem + n + 1) :
    ∃ k n, Slots { m with thread := update s.thread i q } k n := by
  obtain ⟨k, rfl⟩ : ∃ k', k = k' + 1 :=
    ⟨k - 1, (Nat.sub_add_cancel (counts_pos slots.calls holds)).symm⟩
  refine ⟨k, n', slots_move slots (counts_leave slots.calls holds without) urbs core ?_⟩
  change m.limitSem + k + n' = s.limitSem + (k + 1) + n
  omega

omit [DecidableEq F] in
theorem write_slots {k n : Nat} {w : WriteCall F} {p : WritePhase} (slots : Slots s k n)
    (places : ∀ b, Place s b) (here : s.thread i = .writing w p) (step : WriteStep s i w p e q m) :
    ∃ k n, Slots { m with thread := update s.thread i q } k n := by
  cases step with
  | @down left free =>
    have away : ¬ (s.thread i).HoldsSlot := by
      rw [here]
      exact id
    refine ⟨k + 1, n, slots_move slots (counts_enter slots.calls away trivial) slots.urbs rfl ?_⟩
    change left + (k + 1) + n = s.limitSem + k + n
    omega
  | @submits b =>
    obtain ⟨_, _, idle, _⟩ := place_call (places b) (by rw [here]; rfl)
    refine slots_leave slots (by rw [here]; trivial) id
      (counts_enter slots.urbs (fun pending => pending idle) nofun) rfl ?_
    exact (Nat.add_assoc _ _ _).symm
  | up =>
    refine slots_leave slots (by rw [here]; trivial) id slots.urbs rfl ?_
    exact Nat.add_right_comm _ _ _
  | _ => exact ⟨k, n, slots_stay slots (by rw [here]; exact Iff.rfl) rfl rfl rfl⟩

omit [DecidableEq I] [DecidableEq F] in
theorem device_slots {k n : Nat} (slots : Slots s k n) (step : DeviceStep s e t) :
    ∃ k n, Slots t k n := by
  cases step with
  | readCompletes _ _ _ | readFails _ _ _ _ => exact ⟨k, n, slots.calls, slots.urbs, slots.sum⟩
  | writeCompletes flying | writeFails _ flying _ | frees flying =>
    refine ⟨k, n, slots.calls, counts_stay slots.urbs ?_, slots.sum⟩
    simp [Transfer.Pending, flying]
  | @up b flying =>
    have pending : (s.transfer b).Pending := by
      rw [flying]
      nofun
    obtain ⟨n, rfl⟩ : ∃ n', n = n' + 1 :=
      ⟨n - 1, (Nat.sub_add_cancel (counts_pos slots.urbs pending)).symm⟩
    refine ⟨k, n, slots_move slots slots.calls
      (counts_leave slots.urbs pending fun idle => idle rfl) rfl ?_⟩
    change s.limitSem + 1 + k + n = s.limitSem + k + (n + 1)
    omega

omit [DecidableEq I] [DecidableEq F] in
theorem core_slots {k n : Nat} (young : Young s) (slots : Slots s k n) (step : CoreStep s e t) :
    ∃ k n, Slots t k n := by
  cases step with
  | kzalloc here =>
    obtain ⟨size, buffer, intfdata, same⟩ := young (by rw [here]; rfl)
    rw [same]
    have none : Slots (plugged : State I F) 0 0 := plugged_slots
    exact ⟨0, 0, none.calls, none.urbs, rfl⟩
  | noMemory here | noEndpoints here | endpoints _ here | noBuffer here
  | buffer here _ | noUrb here | urb here | setIntfdata here | registerFails here
  | clearIntfdata here | error here | registerDev here | disconnect here
  | deregisterDev here _ | mutexLock here _ | setDisconnected here | mutexUnlock here
  | killUrb here _ | killAnchored here _ | krefPut here =>
    have sum := slots.sum
    rw [here] at sum
    exact ⟨k, n, slots.calls, slots.urbs, sum⟩

theorem step_slots {k n : Nat} (young : Young s) (slots : Slots s k n) (places : ∀ b, Place s b)
    (step : Step s e t) : ∃ k n, Slots t k n := by
  rcases step_writes step with ⟨i, w, p, q, m, here, write, rfl⟩ | device | core | elsewhere
  · exact write_slots slots places here write
  · exact device_slots slots device
  · exact core_slots young slots core
  · refine ⟨k, n, slots_move slots (counts_congr elsewhere.holdsSlot slots.calls) ?_
      elsewhere.core ?_⟩
    · rw [elsewhere.transfer]
      exact slots.urbs
    · rw [elsewhere.limitSem]

omit [DecidableEq F] in
theorem buffer_update {b : Nat} (same : q.buffer = some b ↔ (s.thread i).buffer = some b) (j : I) :
    (update s.thread i q j).buffer = some b ↔ (s.thread j).buffer = some b := by
  rcases eq_or_ne j i with rfl | away
  · rw [update_self, same]
  · rw [update_of_ne away]

omit [DecidableEq F] in
theorem buffer_gone {b : Nat} (mine : ∀ j, (s.thread j).buffer = some b ↔ j = i)
    (without : q.buffer ≠ some b) (j : I) : (update s.thread i q j).buffer ≠ some b := by
  rcases eq_or_ne j i with rfl | away
  · rwa [update_self]
  · rw [update_of_ne away]
    exact fun has => away ((mine j).mp has)

omit [DecidableEq F] in
theorem write_places {w : WriteCall F} {p : WritePhase} (places : ∀ b, Place s b)
    (here : s.thread i = .writing w p) (step : WriteStep s i w p e q m) (b : Nat) :
    Place { m with thread := update s.thread i q } b := by
  have before : (s.thread i).buffer = p.buffer := by
    rw [here]
    rfl
  cases step with
  | buffer =>
    rcases eq_or_ne b s.nextBuf with rfl | away
    · obtain ⟨unfreed, idle, none⟩ := place_fresh (places s.nextBuf) (Nat.lt_irrefl _)
      refine .call i (Nat.lt_succ_self _) unfreed idle fun j => ?_
      change (update s.thread i _ j).buffer = some s.nextBuf ↔ j = i
      rcases eq_or_ne j i with rfl | other
      · rw [update_self]
        exact ⟨fun _ => rfl, fun _ => rfl⟩
      · rw [update_of_ne other]
        exact ⟨fun has => absurd has (none j), fun same => absurd same other⟩
    · refine place_congr (places b) (buffer_update ?_) rfl rfl ?_
      · rw [before]
        exact ⟨fun has => absurd (Option.some.inj has).symm away, nofun⟩
      · change b < s.nextBuf + 1 ↔ b < s.nextBuf
        omega
  | @submits b' =>
    obtain ⟨allocated, unfreed, _, mine⟩ := place_call (places b') before
    rcases eq_or_ne b b' with rfl | away
    · refine .urb allocated unfreed ?_ (buffer_gone mine nofun)
      change (update s.transfer b _ b).HasBuffer
      rw [update_self]
      trivial
    · refine place_congr (places b) (buffer_update ?_) (update_of_ne away _ _) rfl Iff.rfl
      rw [before]
      exact ⟨nofun, fun has => absurd (Option.some.inj has).symm away⟩
  | @frees b' ret =>
    obtain ⟨allocated, unfreed, idle, mine⟩ := place_call (places b') before
    rcases eq_or_ne b b' with rfl | away
    · refine .freed allocated ?_ ?_ (buffer_gone mine nofun)
      · change update s.frees b (s.frees b + 1) b = 1
        rw [update_self, unfreed]
      · change ¬ (s.transfer b).HasBuffer
        rw [idle]
        exact id
    · refine place_congr (places b) (buffer_update ?_) rfl (update_of_ne away _ _) Iff.rfl
      rw [before]
      exact ⟨nofun, fun has => absurd (Option.some.inj has).symm away⟩
  | _ =>
    refine place_congr (places b) (buffer_update ?_) rfl rfl Iff.rfl
    rw [before]
    exact Iff.rfl

omit [DecidableEq I] [DecidableEq F] in
theorem device_places (places : ∀ b, Place s b) (step : DeviceStep s e t) (b : Nat) :
    Place t b := by
  cases step with
  | readCompletes _ _ _ | readFails _ _ _ _ =>
    exact place_congr (places b) (fun _ => Iff.rfl) rfl rfl Iff.rfl
  | @writeCompletes b' _ flying | @writeFails b' _ _ flying _ =>
    obtain ⟨allocated, unfreed, none⟩ := place_urb (places b') (by rw [flying]; trivial)
    rcases eq_or_ne b b' with rfl | away
    · refine .urb allocated unfreed ?_ none
      change (update s.transfer b .completed b).HasBuffer
      rw [update_self]
      trivial
    · exact place_congr (places b) (fun _ => Iff.rfl) (update_of_ne away _ _) rfl Iff.rfl
  | @frees b' flying =>
    obtain ⟨allocated, unfreed, none⟩ := place_urb (places b') (by rw [flying]; trivial)
    rcases eq_or_ne b b' with rfl | away
    · refine .freed allocated ?_ ?_ none
      · change update s.frees b (s.frees b + 1) b = 1
        rw [update_self, unfreed]
      · change ¬ (update s.transfer b .freed b).HasBuffer
        rw [update_self]
        exact id
    · exact place_congr (places b) (fun _ => Iff.rfl) (update_of_ne away _ _)
        (update_of_ne away _ _) Iff.rfl
  | @up b' flying =>
    rcases eq_or_ne b b' with rfl | away
    · cases places b with
      | fresh _ _ idle _ | call _ _ _ idle _ => cases idle.symm.trans flying
      | urb _ _ has _ =>
        rw [flying] at has
        exact has.elim
      | freed allocated once _ none =>
        refine .freed allocated once ?_ none
        change ¬ (update s.transfer b .idle b).HasBuffer
        rw [update_self]
        exact id
    · exact place_congr (places b) (fun _ => Iff.rfl) (update_of_ne away _ _) rfl Iff.rfl

theorem step_places (places : ∀ b, Place s b) (step : Step s e t) (b : Nat) : Place t b := by
  rcases step_writes step with ⟨i, w, p, q, m, here, write, rfl⟩ | device | core | elsewhere
  · exact write_places places here write b
  · exact device_places places device b
  · rw [core_frame core]
    exact place_congr (places b) (fun _ => Iff.rfl) rfl rfl Iff.rfl
  · refine place_congr (places b) (fun j => by rw [elsewhere.buffer]) ?_ ?_ ?_
    · rw [elsewhere.transfer]
    · rw [elsewhere.frees]
    · rw [elsewhere.nextBuf]

structure Writes (s : State I F) : Prop where
  young : Young s
  slots : ∃ k n, Slots s k n
  places : ∀ b, Place s b

theorem run_writes {hist : List (Event I)} (run : Run Step plugged hist s) : Writes s := by
  refine run_invariant Writes ⟨fun _ => ⟨0, [], false, rfl⟩, ⟨0, 0, plugged_slots⟩, plugged_place⟩
    ?_ run
  rintro s e t ⟨young, ⟨k, n, slots⟩, places⟩ step
  exact ⟨step_young young step, step_slots young slots places step, step_places places step⟩

/-- In every run: the free slots, the writes that hold one and the pending URBs make
WRITES_IN_FLIGHT once the device is allocated; each buffer has one owner until it is
freed, once; and without a write and a URB everything is back. -/
theorem slots_and_buffers {hist : List (Event I)} (run : Run Step plugged hist s) :
    (∃ held pending, Counts Phase.HoldsSlot s.thread held ∧
      Counts Transfer.Pending s.transfer pending ∧ pending ≤ WRITES_IN_FLIGHT ∧
      (s.core.allocated = true → s.limitSem + held + pending = WRITES_IN_FLIGHT)) ∧
    (∀ b, Place s b) ∧
    ((∀ i w p, s.thread i ≠ .writing w p) → (∀ b, s.transfer b = .idle) →
      (s.core.allocated = true → s.limitSem = WRITES_IN_FLIGHT) ∧
      ∀ b, b < s.nextBuf → s.frees b = 1) := by
  obtain ⟨_, ⟨held, pending, slots⟩, places⟩ := run_writes run
  have sum : s.core.allocated = true → s.limitSem + held + pending = WRITES_IN_FLIGHT :=
    fun allocated => slots.sum.trans (if_pos allocated)
  have most : pending ≤ WRITES_IN_FLIGHT := by
    have total := slots.sum
    split at total <;> omega
  refine ⟨⟨held, pending, slots.calls, slots.urbs, most, sum⟩, places, ?_⟩
  intro no_write no_urb
  have nobody (i : I) : ¬ (s.thread i).HoldsSlot := by
    cases phase : s.thread i with
    | writing w p => exact absurd phase (no_write i w p)
    | _ => exact id
  constructor
  · intro allocated
    have none_held := counts_unique slots.calls (counts_none nobody)
    have none_pending := counts_unique slots.urbs (counts_none fun b pending => pending (no_urb b))
    rw [← sum allocated, none_held, none_pending]
    rfl
  · intro b allocated
    cases places b with
    | freed _ once _ _ => exact once
    | fresh beyond _ _ _ => exact absurd allocated beyond
    | urb _ _ has _ =>
      rw [no_urb b] at has
      exact has.elim
    | call i _ _ _ mine =>
      have has := (mine i).mpr rfl
      cases phase : s.thread i with
      | writing w p => exact absurd phase (no_write i w p)
      | _ =>
        rw [phase] at has
        cases has

end Steps

/-- A write has come and gone, another one is with the device, and a third has a slot and
a buffer; and the first one alone. -/
theorem slots_and_buffers_writes :
    (∃ (hist : List (Event Unit)) (s : State Unit Unit), Run Step plugged hist s ∧
      s.frees 0 = 1 ∧ s.transfer 1 = .inFlight [1] ∧ s.thread () = .writing oneByte (.mutexLock 2) ∧
      s.limitSem = 6 ∧
      (∃ held pending, Counts Phase.HoldsSlot s.thread held ∧
        Counts Transfer.Pending s.transfer pending ∧ pending ≤ WRITES_IN_FLIGHT ∧
        (s.core.allocated = true → s.limitSem + held + pending = WRITES_IN_FLIGHT)) ∧
      ∀ b, Place s b) ∧
    ∃ (hist : List (Event Unit)) (s : State Unit Unit), Run Step plugged hist s ∧
      .startsWrite 0 ∈ hist ∧ s.nextBuf = 1 ∧ s.limitSem = WRITES_IN_FLIGHT ∧
      ∀ b, b < s.nextBuf → s.frees b = 1 := by
  have ready : Ready (inUse [0]) := ⟨rfl, rfl, by decide, rfl, rfl, rfl, rfl⟩
  have flying : (sent (inUse [0])).transfer 0 = .inFlight [1] := rfl
  have first := answered_run (sent_run (inUse_run () [0]) ready) flying
  constructor
  · have again : Ready (answered 0 (sent (inUse [0]))) := ⟨rfl, rfl, by decide, rfl, rfl, rfl, rfl⟩
    have second := sent_run first again
    have third := inWrite_run second ⟨rfl, rfl, by decide, rfl, rfl, rfl, rfl⟩
    obtain ⟨sum, places, _⟩ := slots_and_buffers third
    exact ⟨_, _, third, rfl, rfl, rfl, rfl, sum, places⟩
  · obtain ⟨all, freed⟩ := (slots_and_buffers first).2.2 nofun
      (answered_sent (s := inUse [0]) fun _ => rfl)
    refine ⟨_, _, first, ?_, rfl, all rfl, freed⟩
    change Event.startsWrite (inUse [0] : State Unit Unit).nextBuf ∈ _
    simp

end MadDriver.Skel

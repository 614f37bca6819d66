import MadDriver.Exclusive.Nonblock

/-! The scan for signals after a wait. The word of deliverable signals is cut to an
`int`, so only its low half is seen. -/
namespace MadDriver.Exclusive.Waiting
open Kernel Transition Function

variable {I : Type}

/-- Some word has a bit set in pending and not in blocked. -/
def Deliverable (words : List (UInt64 × UInt64)) : Prop :=
  ∃ word ∈ words, word.1 &&& ~~~word.2 ≠ 0

def LowDeliverable (words : List (UInt64 × UInt64)) : Prop :=
  ∃ word ∈ words, (word.1 &&& ~~~word.2).toNat % 2 ^ 32 ≠ 0

def scanned (words : List (UInt64 × UInt64)) (flags : UInt32) : Phase :=
  if isSig words ≠ 0 then .interrupted flags else .cmpxchg flags

theorem low_half_zero_iff (x : UInt64) : x.toUInt32.toInt32 = 0 ↔ x.toNat % 2 ^ 32 = 0 := by
  have bits : x.toUInt32.toInt32 = 0 ↔ x.toUInt32 = 0 :=
    ⟨fun zero => congrArg Int32.toUInt32 zero, fun zero => congrArg UInt32.toInt32 zero⟩
  rw [bits, ← UInt32.toNat_inj, UInt64.toNat_toUInt32]
  rfl

theorem isSig_iff (words : List (UInt64 × UInt64)) : isSig words ≠ 0 ↔ LowDeliverable words := by
  induction words with
  | nil => simp [isSig, LowDeliverable]
  | cons word words ih =>
    have head := low_half_zero_iff (word.1 &&& ~~~word.2)
    unfold LowDeliverable at ih ⊢
    rw [isSig, List.exists_mem_cons_iff]
    by_cases low : (word.1 &&& ~~~word.2).toNat % 2 ^ 32 = 0
    · rw [if_pos (head.mpr low), ih]
      exact (or_iff_right fun bits => bits low).symm
    · rw [if_neg fun zero => low (head.mp zero)]
      exact iff_of_true (fun zero => low (head.mp zero)) (.inl low)

theorem lowDeliverable_deliverable {words : List (UInt64 × UInt64)} (low : LowDeliverable words) :
    Deliverable words := by
  obtain ⟨word, member, bits⟩ := low
  refine ⟨word, member, fun zero => bits ?_⟩
  rw [zero]
  rfl

variable [DecidableEq I]

/-- What comes of the words an open finds: if a signal is deliverable the scan finds it,
and the open's next step returns -EINTR and puts its reference back. -/
structure Notices (I : Type) [DecidableEq I] (words : List (UInt64 × UInt64)) : Prop where
  found : isSig words ≠ 0 ↔ Deliverable words
  scans : ∀ (s : State I Phase) i flags, s.phase i = .scanSignals flags →
    Step s (.advances i) { s with phase := update s.phase i (scanned words flags) }
  returns : Deliverable words → ∀ (s s' : State I Phase) e flags,
    s.phase (Event.process e) = scanned words flags → Step s e s' →
      e = .opened (Event.process e) flags (-EINTR) ∧ s'.refs = s.refs - 1 ∧
        s'.phase (Event.process e) = .outside

theorem scan_step {s : State I Phase} {i : I} {flags : UInt32}
    (here : s.phase i = .scanSignals flags) (words : List (UInt64 × UInt64)) :
    Step s (.advances i) { s with phase := update s.phase i (scanned words flags) } := by
  by_cases found : isSig words = 0
  · simpa [scanned, found] using Step.retries words here found
  · simpa [scanned, found] using Step.givesUp words here found

theorem interrupted_step {s s' : State I Phase} {e : Event I} {flags : UInt32}
    (here : s.phase (Event.process e) = .interrupted flags) (step : Step s e s') :
    e = .opened (Event.process e) flags (-EINTR) ∧ s'.refs = s.refs - 1 ∧
      s'.phase (Event.process e) = .outside := by
  cases step with
  | interrupted at_put =>
    cases at_put.symm.trans here
    exact ⟨rfl, rfl, update_self _ _ _⟩
  | signalled there => rcases there with there | there <;> cases there.symm.trans here
  | call _ there | wouldBlock there _ _ | passes there _ | tryModuleGet there | takes there _
  | misses there _ | conditionHolds there _ | sleeps there _ | retries _ there _
  | givesUp _ there _ | close there | atomicSet there | wakeUp there | modulePut there =>
    cases there.symm.trans here

theorem signals_noticed_iff (I : Type) [DecidableEq I] (words : List (UInt64 × UInt64)) :
    Notices I words ↔ (Deliverable words → LowDeliverable words) := by
  constructor
  · intro notices deliverable
    exact (isSig_iff words).mp (notices.found.mpr deliverable)
  · intro low
    have found : isSig words ≠ 0 ↔ Deliverable words :=
      (isSig_iff words).trans ⟨lowDeliverable_deliverable, low⟩
    refine ⟨found, fun s i flags here => scan_step here words, ?_⟩
    intro deliverable s s' e flags here step
    rw [scanned, if_pos (found.mpr deliverable)] at here
    exact interrupted_step here step

/-- Signal 35 is pending and not blocked, and the scan does not see it. -/
theorem signal_missed : Deliverable [(0x400000000, 0)] ∧ isSig [(0x400000000, 0)] = 0 ∧
    ¬ Notices Unit [(0x400000000, 0)] := by
  have pending : Deliverable [(0x400000000, 0)] := ⟨_, List.mem_singleton_self _, by decide⟩
  have unseen : isSig [(0x400000000, 0)] = 0 := rfl
  exact ⟨pending, unseen, fun notices => notices.found.mpr pending unseen⟩

end MadDriver.Exclusive.Waiting

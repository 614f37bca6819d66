import MadDriver.Pcd.BodyFacts
import MadDriver.Pcd.Memory

/-! A string written in chunks and written at once. After any chunks the device holds the
part of what was sent that fits, and so it does after a single write of all of it; the
only trace of the cuts is a call the driver refuses. -/
namespace MadDriver.Pcd
open Kernel

/-- A caller who issues its chunks in order: the device, the file position, the bytes
accepted so far, and where the position stood at each call that failed. -/
structure Client (P : Type) where
  data : P
  fPos : Int64
  total : Nat
  failedAt : List Int64

def Client.opened {P : Type} (dev : P) (fPos : Int64) : Client P := ⟨dev, fPos, 0, []⟩

def CallResult.accepted {P : Type} (r : CallResult P) : Nat := r.ret.toInt.toNat

def Client.after {P : Type} (c : Client P) (r : CallResult P) : Client P where
  data := r.data
  fPos := r.fPos
  total := c.total + r.accepted
  failedAt := if r.ret.toInt < 0 then c.failedAt ++ [c.fPos] else c.failedAt

/-- The rest of a chunk that was cut short; a chunk that was refused is dropped. -/
def CallResult.unsent {P : Type} (r : CallResult P) (chunk : List UInt8) : List (List UInt8) :=
  if 0 ≤ r.ret.toInt ∧ r.accepted < chunk.length then [chunk.drop r.accepted] else []

/-- Calls until no chunk is left. None when a call does not return, or after `fuel` calls. -/
def issue {P : Type} (fops : FileOperations P) : Nat → Client P → List (List UInt8) →
    Option (Client P)
  | _, c, [] => some c
  | 0, _, _ :: _ => none
  | fuel + 1, c, chunk :: chunks =>
    match fops.write c.data .full chunk (.ofNat chunk.length) c.fPos with
    | .done r => issue fops fuel (c.after r) (r.unsent chunk ++ chunks)
    | .blocks | .wild => none

/-- An empty chunk stands only behind chunks that fill the device from p on. -/
def EmptyOnlyWhenFull (size : Int) : Int → List (List UInt8) → Prop
  | _, [] => True
  | p, chunk :: chunks =>
    (chunk = [] → size ≤ p) ∧ EmptyOnlyWhenFull size (p + chunk.length) chunks

section Chunks

variable {drv : Driver} {dev : drv.Data} {fPos : Int64} {sent chunk : List UInt8}
  {c : Client drv.Data}

def roomBehind (drv : Driver) (dev : drv.Data) (fPos : Int64) : Nat :=
  ((drv.maxSize dev).toInt - fPos.toInt).toNat

structure Stored (drv : Driver) (dev : drv.Data) (fPos : Int64) (sent : List UInt8)
    (c : Client drv.Data) : Prop where
  data : c.data = drv.setBuffer dev
    (Bytes.patch (drv.buffer dev) fPos.toInt.toNat (sent.take (roomBehind drv dev fPos)))
  moved : c.fPos.toInt = fPos.toInt + min sent.length (roomBehind drv dev fPos)
  total : c.total = min sent.length (roomBehind drv dev fPos)

theorem stored_nothing (conf : Conforms drv) (dev : drv.Data) (fPos : Int64) :
    Stored drv dev fPos [] (Client.opened dev fPos) where
  data := by simp [Client.opened, conf.set_buffer]
  moved := by simp [Client.opened]
  total := by simp [Client.opened]

theorem stored_full {more : List UInt8} (full : roomBehind drv dev fPos ≤ sent.length) :
    Stored drv dev fPos (sent ++ more) c ↔ Stored drv dev fPos sent c := by
  have taken : (sent ++ more).take (roomBehind drv dev fPos) =
      sent.take (roomBehind drv dev fPos) := List.take_append_of_le_length full
  have length : min (sent ++ more).length (roomBehind drv dev fPos) =
      min sent.length (roomBehind drv dev fPos) := by
    rw [List.length_append]
    omega
  constructor
  · rintro ⟨data, moved, total⟩
    exact ⟨taken ▸ data, length ▸ moved, length ▸ total⟩
  · rintro ⟨data, moved, total⟩
    exact ⟨taken.symm ▸ data, length.symm ▸ moved, length.symm ▸ total⟩

theorem stored_placed (conf : Conforms drv)
    (placed : Placed (drv.maxSize dev) (drv.buffer dev) fPos)
    (stored : Stored drv dev fPos sent c) :
    Placed (drv.maxSize c.data) (drv.buffer c.data) c.fPos := by
  have start := placed.nonneg
  have room := placed.room
  have within := placed.within
  have moved := stored.moved
  have inside : fPos.toInt.toNat + (sent.take (roomBehind drv dev fPos)).length ≤
      (drv.buffer dev).length := by
    rw [List.length_take]
    unfold roomBehind
    omega
  unfold roomBehind at moved
  refine ⟨by omega, ?_, ?_⟩
  · rw [stored.data, conf.maxSize_set]
    omega
  · rw [stored.data, conf.maxSize_set, conf.buffer_set, Bytes.length_patch inside]
    exact room

theorem stored_span (conf : Conforms drv)
    (placed : Placed (drv.maxSize dev) (drv.buffer dev) fPos)
    (stored : Stored drv dev fPos sent c) {count : UInt64} (len : count.toNat = chunk.length) :
    span (drv.maxSize c.data) c.fPos count =
      min chunk.length (roomBehind drv dev fPos - sent.length) := by
  have within := placed.within
  have moved := stored.moved
  unfold roomBehind at moved ⊢
  rw [span, stored.data, conf.maxSize_set, len]
  omega

theorem stored_more (conf : Conforms drv)
    (placed : Placed (drv.maxSize dev) (drv.buffer dev) fPos)
    (stored : Stored drv dev fPos sent c) {c' : Client drv.Data} {n : Nat}
    (fits : n = min chunk.length (roomBehind drv dev fPos - sent.length)) (some_left : 0 < n)
    (data : c'.data = drv.setBuffer c.data
      (Bytes.patch (drv.buffer c.data) c.fPos.toInt.toNat (chunk.take n)))
    (moved : c'.fPos.toInt = c.fPos.toInt + n) (total : c'.total = c.total + n) :
    Stored drv dev fPos (sent ++ chunk) c' := by
  have start := placed.nonneg
  have room := placed.room
  have within := placed.within
  have length : min (sent ++ chunk).length (roomBehind drv dev fPos) = sent.length + n := by
    rw [List.length_append]
    omega
  have whole : sent.take (roomBehind drv dev fPos) = sent := List.take_of_length_le (by omega)
  have taken : (sent ++ chunk).take (roomBehind drv dev fPos) = sent ++ chunk.take n := by
    rw [List.take_append, whole, List.append_cancel_left_eq, List.take_eq_take_iff]
    omega
  have before := stored.moved
  have already := stored.total
  refine ⟨?_, by omega, by omega⟩
  have offset : c.fPos.toInt.toNat = fPos.toInt.toNat + sent.length := by omega
  have inside : fPos.toInt.toNat ≤ (drv.buffer dev).length := by omega
  rw [data, taken, offset, stored.data, conf.buffer_set, conf.set_set, whole,
    Bytes.patch_append inside]

/-- One call: it sends its chunk, and it fails if it finds no byte to store. -/
theorem call_stores (conf : Conforms drv)
    (placed : Placed (drv.maxSize dev) (drv.buffer dev) fPos)
    (stored : Stored drv dev fPos sent c) {count : UInt64} (len : count.toNat = chunk.length)
    (small : chunk.length < 2 ^ 63) :
    ∃ r, drv.fops.write c.data .full chunk count c.fPos = .done r ∧
      Stored drv dev fPos (sent ++ chunk) (c.after r) ∧
      ((chunk = [] ∨ roomBehind drv dev fPos ≤ sent.length) ∧ r.ret.toInt < 0 ∨
        (chunk ≠ [] ∧ sent.length < roomBehind drv dev fPos) ∧ 0 ≤ r.ret.toInt ∧
        r.accepted = min chunk.length (roomBehind drv dev fPos - sent.length)) := by
  have here := stored_placed conf placed stored
  have spans := stored_span conf placed stored len
  obtain ⟨r, body, writes⟩ := writeBody_writes chunk .full here (len ▸ small)
  refine ⟨_, by rw [conf.writes, body]; rfl, ?_⟩
  cases writes with
  | noSpace none_left result =>
    rw [spans] at none_left
    have refused : chunk = [] ∨ roomBehind drv dev fPos ≤ sent.length := by
      by_cases empty : chunk = []
      · exact .inl empty
      · have some_sent := List.length_pos_iff.mpr empty
        exact .inr (by omega)
    have nothing : c.after (r.leaves (drv.setBuffer c.data r.buffer)) =
        { c with failedAt := c.failedAt ++ [c.fPos] } := by
      rw [result]
      simp only [conf.set_buffer]
      rfl
    refine ⟨?_, .inl ⟨refused, ?_⟩⟩
    · rw [nothing]
      rcases refused with rfl | full
      · rw [List.append_nil]
        exact ⟨stored.data, stored.moved, stored.total⟩
      · rw [stored_full full]
        exact ⟨stored.data, stored.moved, stored.total⟩
    · rw [result]
      change (-ENOMEM).toInt < 0
      decide
  | stored some_left _ ret buffer moved =>
    rw [spans] at some_left ret buffer moved
    refine ⟨?_, .inr ⟨⟨?_, by omega⟩, ?_, ?_⟩⟩
    · apply stored_more conf placed stored rfl some_left
      · rw [← buffer]
        rfl
      · exact moved
      · exact congrArg (c.total + Int.toNat ·) ret
    · rintro rfl
      simp at some_left
    · change 0 ≤ r.ret.toInt
      omega
    · change r.ret.toInt.toNat = _
      omega
  | faulted partly _ => exact absurd partly (Nat.lt_irrefl _)

def OnlyFullFailed {P : Type} (size : Int) (c : Client P) : Prop :=
  ∀ q ∈ c.failedAt, size ≤ q.toInt

theorem onlyFull_refused {P : Type} (size : Int) (c : Client P) {r : CallResult P}
    (refused : r.ret.toInt < 0) :
    (OnlyFullFailed size (c.after r) ↔ OnlyFullFailed size c ∧ size ≤ c.fPos.toInt) ∧
    ∀ chunk, r.unsent chunk = [] := by
  constructor
  · simp [OnlyFullFailed, Client.after, refused, or_imp, forall_and]
  · intro chunk
    exact if_neg fun both => Int.not_lt.mpr both.1 refused

theorem onlyFull_accepted {P : Type} (size : Int) (c : Client P) {r : CallResult P}
    (success : 0 ≤ r.ret.toInt) : OnlyFullFailed size (c.after r) ↔ OnlyFullFailed size c := by
  simp [OnlyFullFailed, Client.after, Int.not_lt.mpr success]

theorem stored_end (placed : Placed (drv.maxSize dev) (drv.buffer dev) fPos)
    (stored : Stored drv dev fPos sent c) :
    (drv.maxSize dev).toInt ≤ c.fPos.toInt ↔ roomBehind drv dev fPos ≤ sent.length := by
  have within := placed.within
  have moved := stored.moved
  unfold roomBehind at moved ⊢
  omega

theorem toNat_length (small : chunk.length < 2 ^ 63) :
    (UInt64.ofNat chunk.length).toNat = chunk.length := by
  rw [UInt64.toNat_ofNat']
  omega

/-- A chunk and, if it was cut short, its rest take at most two calls. -/
theorem chunk_stores (conf : Conforms drv)
    (placed : Placed (drv.maxSize dev) (drv.buffer dev) fPos)
    (stored : Stored drv dev fPos sent c) (small : chunk.length < 2 ^ 63)
    (chunks : List (List UInt8)) (fuel : Nat) :
    ∃ c' fuel', fuel ≤ fuel' ∧
      issue drv.fops (fuel + 2) c (chunk :: chunks) = issue drv.fops fuel' c' chunks ∧
      Stored drv dev fPos (sent ++ chunk) c' ∧
      (OnlyFullFailed (drv.maxSize dev).toInt c' ↔ OnlyFullFailed (drv.maxSize dev).toInt c ∧
        (chunk = [] → (drv.maxSize dev).toInt ≤ fPos.toInt + sent.length)) := by
  have within := placed.within
  have before := stored_end placed stored
  have size : (drv.maxSize dev).toInt ≤ fPos.toInt + sent.length ↔
      roomBehind drv dev fPos ≤ sent.length := by
    unfold roomBehind
    omega
  rw [size]
  obtain ⟨r, done, more, ⟨refused, negative⟩ | ⟨⟨nonempty, room⟩, success, accepted⟩⟩ :=
    call_stores conf placed stored (toNat_length small) small
  · have failed := onlyFull_refused (drv.maxSize dev).toInt c negative
    refine ⟨c.after r, fuel + 1, by omega, ?_, more, ?_⟩
    · simp only [issue, done, failed.2, List.nil_append]
    · rw [failed.1, before]
      grind
  · have kept := onlyFull_accepted (drv.maxSize dev).toInt c success
    by_cases whole : r.accepted = chunk.length
    · have unsent : r.unsent chunk = [] := if_neg (by omega)
      refine ⟨c.after r, fuel + 1, by omega, ?_, more, ?_⟩
      · simp only [issue, done, unsent, List.nil_append]
      · simp [kept, nonempty]
    · -- the chunk has reached the end, and the call for its rest is refused there
      have unsent : r.unsent chunk = [chunk.drop r.accepted] := if_pos ⟨success, by omega⟩
      have full : roomBehind drv dev fPos ≤ (sent ++ chunk).length := by
        rw [List.length_append]
        omega
      have rest : (chunk.drop r.accepted).length < 2 ^ 63 := by
        rw [List.length_drop]
        omega
      obtain ⟨r', done', again, ⟨_, negative⟩ | ⟨⟨_, room'⟩, _⟩⟩ :=
        call_stores conf placed more (toNat_length rest) rest
      · have failed := onlyFull_refused (drv.maxSize dev).toInt (c.after r) negative
        have reached := (stored_end placed more).mpr full
        refine ⟨(c.after r).after r', fuel, Nat.le_refl _, ?_, (stored_full full).mp again, ?_⟩
        · simp only [issue, done, unsent, List.singleton_append, done', failed.2, List.nil_append]
        · simp [failed.1, kept, nonempty, reached]
      · exact absurd full (Nat.not_le.mpr room')

theorem issue_stores (conf : Conforms drv)
    (placed : Placed (drv.maxSize dev) (drv.buffer dev) fPos) {chunks : List (List UInt8)}
    {fuel : Nat} (stored : Stored drv dev fPos sent c) (enough : 2 * chunks.length ≤ fuel)
    (small : ∀ chunk ∈ chunks, chunk.length < 2 ^ 63) :
    ∃ c', issue drv.fops fuel c chunks = some c' ∧
      Stored drv dev fPos (sent ++ chunks.flatten) c' ∧
      (OnlyFullFailed (drv.maxSize dev).toInt c' ↔ OnlyFullFailed (drv.maxSize dev).toInt c ∧
        EmptyOnlyWhenFull (drv.maxSize dev).toInt (fPos.toInt + sent.length) chunks) := by
  induction chunks generalizing sent c fuel with
  | nil =>
    rw [List.flatten_nil, List.append_nil]
    exact ⟨c, by simp [issue], stored, by simp [EmptyOnlyWhenFull]⟩
  | cons chunk chunks ih =>
    rw [List.length_cons] at enough
    obtain ⟨fuel, rfl⟩ := Nat.exists_eq_add_of_le' (show 2 ≤ fuel by omega)
    obtain ⟨c', fuel', left, same, more, fails⟩ :=
      chunk_stores conf placed stored (small chunk List.mem_cons_self) chunks fuel
    have remaining : 2 * chunks.length ≤ fuel' := by omega
    obtain ⟨c'', done, all, fails'⟩ :=
      ih more remaining fun other member => small other (List.mem_cons_of_mem _ member)
    rw [List.append_assoc, ← List.flatten_cons] at all
    refine ⟨c'', same.trans done, all, ?_⟩
    rw [fails', fails, EmptyOnlyWhenFull, List.length_append, Int.natCast_add, ← Int.add_assoc,
      and_assoc]

/-- The caller of the chunks has seen what the caller of the single write saw, and no
call failed before the position reached the end. -/
structure AsOnce {P : Type} (size : Int) (accepted : Nat) (once : CallResult P) (c : Client P) :
    Prop where
  data : c.data = once.data
  fPos : c.fPos = once.fPos
  total : c.total = accepted ∧ once.accepted = accepted
  failures : OnlyFullFailed size c

theorem stored_once {once : CallResult drv.Data}
    (single : Stored drv dev fPos sent ((Client.opened dev fPos).after once))
    (stored : Stored drv dev fPos sent c) :
    AsOnce (drv.maxSize dev).toInt (min sent.length (roomBehind drv dev fPos)) once c ↔
      OnlyFullFailed (drv.maxSize dev).toInt c := by
  constructor
  · intro same
    exact same.failures
  · intro failures
    have accepted : once.accepted = min sent.length (roomBehind drv dev fPos) := by
      rw [← single.total]
      exact (Nat.zero_add _).symm
    refine ⟨stored.data.trans single.data.symm, ?_, ⟨stored.total, accepted⟩, failures⟩
    apply Int64.toInt_inj.mp
    exact stored.moved.trans single.moved.symm

end Chunks

/-- Drivers 003, 004 and 005: chunks against one write of all of them. -/
theorem pieces_iff (k : FixedDriver) (dev : k.driver.Data) (fPos : Int64)
    (placed : Placed (k.driver.maxSize dev) (k.driver.buffer dev) fPos) (w : UserBytes)
    (chunks : List (List UInt8)) (cut : chunks.flatten = w.bytes) (fuel : Nat)
    (enough : 2 * chunks.length ≤ fuel) :
    ∃ c once, issue k.driver.fops fuel (Client.opened dev fPos) chunks = some c ∧
      k.driver.fops.write dev .full w.bytes w.count fPos = .done once ∧
      (AsOnce (k.driver.maxSize dev).toInt
          (min w.bytes.length ((k.driver.maxSize dev).toInt - fPos.toInt).toNat) once c ↔
        EmptyOnlyWhenFull (k.driver.maxSize dev).toInt fPos.toInt chunks) := by
  have start := stored_nothing k.conforms dev fPos
  have small : ∀ chunk ∈ chunks, chunk.length < 2 ^ 63 := by
    intro chunk member
    have part := (List.sublist_flatten_of_mem member).length_le
    rw [cut] at part
    exact Nat.lt_of_le_of_lt part w.small
  obtain ⟨c, done, stored, fails⟩ := issue_stores k.conforms placed start enough small
  obtain ⟨once, single, whole, _⟩ := call_stores k.conforms placed start w.toNat_count w.small
  refine ⟨c, once, done, single, ?_⟩
  rw [List.nil_append] at stored whole
  rw [cut] at stored
  refine (stored_once whole stored).trans (fails.trans ?_)
  simp [OnlyFullFailed, Client.opened]

theorem pieces_iff_four :
    ∃ c once, issue PcdN.driver.fops 6 (Client.opened fourBytes 1) [[7], [8, 9, 10], []] = some c ∧
      PcdN.pcdWrite fourBytes .full [7, 8, 9, 10] 4 1 = .done once ∧
      (AsOnce 4 3 once c ↔ EmptyOnlyWhenFull 4 1 [[7], [8, 9, 10], []]) :=
  pieces_iff .pcdN fourBytes 1 ⟨by decide, by decide, by decide⟩ ⟨[7, 8, 9, 10], by decide⟩
    [[7], [8, 9, 10], []] rfl 6 (by decide)

/-- Two of the four bytes are free when the empty chunk is refused. -/
theorem empty_chunk :
    ∃ c once, issue PcdN.driver.fops 4 (Client.opened fourBytes 1) [[7], []] = some c ∧
      PcdN.pcdWrite fourBytes .full [7] 1 1 = .done once ∧
      c.data = once.data ∧ c.failedAt = [2] ∧ ¬ AsOnce 4 1 once c := by
  refine ⟨⟨{ fourBytes with buffer := [0, 7, 0, 0] }, 2, 1, [2]⟩,
    ⟨{ fourBytes with buffer := [0, 7, 0, 0] }, 1, [], 2⟩, rfl, rfl, rfl, rfl, ?_⟩
  intro same
  exact absurd (same.failures 2 List.mem_cons_self) (by decide)

end MadDriver.Pcd

import MadDriver.Core.CInt

/-! The read loop of dev_read.c. A read that fails returns -1, which is at most `remaining`,
so it is counted as data: `total_read` goes down and `remaining` up. -/
namespace MadDriver.DevRead
open CInt

def BUFFER_SIZE : Nat := 2048

/-- The variables of the loop; `results` is what `read` has returned so far, which the
program does not keep. -/
structure Loop where
  results : List Int64
  totalRead : Int32
  remaining : Int32

def Loop.asked (s : Loop) : Nat := s.remaining.toInt64.toUInt64.toNat

def body (s : Loop) (result : Int64) : Loop × Bool :=
  let ret := result.toInt32
  let results := s.results ++ [result]
  if ret = 0 then ({ s with results }, false)
  else if ret ≤ s.remaining then (⟨results, s.totalRead + ret, s.remaining - ret⟩, true)
  else if ret < 0 then ({ s with results }, false)
  else ({ s with results }, false)

structure Pass where
  before : Loop
  result : Int64
  after : Loop
  goesOn : Bool

def pass (s : Loop) (result : Int64) : Pass :=
  ⟨s, result, (body s result).1, (body s result).2⟩

def readLoop : Nat → (Nat → Int64) → Loop → List Pass × Loop
  | 0, _, s => ([], s)
  | left + 1, read, s =>
    if s.remaining = 0 then ([], s)
    else
      let p := pass s (read 0)
      if p.goesOn then
        let (passes, last) := readLoop left (fun k => read (k + 1)) p.after
        (p :: passes, last)
      else ([p], p.after)

/-- The number of the command line and what the calls of `read` return. -/
def devRead (count : Int32) (read : Nat → Int64) : List Pass × Loop :=
  readLoop 2 read ⟨[], 0, count⟩

/-- `read` returns -1, or up to as many bytes as it was asked for. -/
def Pass.Possible (p : Pass) : Prop :=
  p.result.toInt = -1 ∨ 0 ≤ p.result.toInt ∧ p.result.toInt ≤ p.before.asked

instance (p : Pass) : Decidable p.Possible := inferInstanceAs (Decidable (_ ∨ _))

def received (results : List Int64) : Int :=
  results.foldl (fun sum result => if 0 ≤ result.toInt then sum + result.toInt else sum) 0

structure Books (count : Int32) (s : Loop) : Prop where
  total : s.totalRead.toInt = received s.results
  rest : s.totalRead.toInt + s.remaining.toInt = count.toInt

structure Pass.Inside (p : Pass) : Prop where
  start : 0 ≤ p.before.totalRead.toInt
  length : p.before.totalRead.toInt + p.before.asked ≤ BUFFER_SIZE

def Pass.Stops (p : Pass) : Prop :=
  p.result.toInt < 0 → p.goesOn = false ∧ p.after.totalRead = p.before.totalRead ∧
    p.after.remaining = p.before.remaining

structure Right (count : Int32) (run : List Pass × Loop) : Prop where
  passes : ∀ p ∈ run.1, Books count p.before ∧ Books count p.after ∧ p.Stops ∧ p.Inside
  last : Books count run.2
  dump : ∀ i : Nat, i < run.2.totalRead.toInt → i < BUFFER_SIZE

theorem received_snoc (results : List Int64) (result : Int64) :
    received (results ++ [result]) =
      if 0 ≤ result.toInt then received results + result.toInt else received results := by
  simp [received, List.foldl_append]

theorem asked_of_nonneg {s : Loop} (nonneg : 0 ≤ s.remaining.toInt) :
    (s.asked : Int) = s.remaining.toInt := by
  rw [Loop.asked, toNat_size_of_nonneg nonneg]
  omega

theorem remaining_of_asked {s : Loop} (inside : s.asked ≤ BUFFER_SIZE) :
    0 ≤ s.remaining.toInt ∧ s.remaining.toInt ≤ BUFFER_SIZE := by
  have value := toNat_size s.remaining
  have low := s.remaining.le_toInt
  have high := s.remaining.toInt_lt
  change ((s.asked : Nat) : Int) = _ at value
  have bound : BUFFER_SIZE = 2048 := rfl
  omega

theorem ret_of_data {s : Loop} {result : Int64} (rest : 0 ≤ s.remaining.toInt)
    (data : 0 ≤ result.toInt) (within : result.toInt ≤ s.asked) :
    result.toInt32.toInt = result.toInt ∧ result.toInt ≤ s.remaining.toInt := by
  rw [asked_of_nonneg rest] at within
  have high := s.remaining.toInt_lt
  exact ⟨toInt_int (by omega) (by omega), within⟩

structure Sound (count : Int32) (s : Loop) : Prop where
  books : Books count s
  start : 0 ≤ s.totalRead.toInt
  rest : 0 ≤ s.remaining.toInt
  small : count.toInt ≤ BUFFER_SIZE

theorem body_data {s : Loop} {result : Int64} (rest : 0 ≤ s.remaining.toInt)
    (data : 0 ≤ result.toInt) (within : result.toInt ≤ s.asked) :
    body s result = (⟨s.results ++ [result], s.totalRead + result.toInt32,
      s.remaining - result.toInt32⟩, decide (result.toInt ≠ 0)) := by
  obtain ⟨value, fits⟩ := ret_of_data rest data within
  unfold body
  by_cases zero : result.toInt32 = 0
  · have nothing : result.toInt = 0 := by rw [← value, zero]; rfl
    simp [zero, nothing]
  · have nonzero : result.toInt ≠ 0 := by
      intro nothing
      exact zero (Int32.toInt_inj.mp (value.trans nothing))
    have counted : result.toInt32 ≤ s.remaining := by
      rw [Int32.le_iff_toInt_le, value]
      exact fits
    simp [zero, counted, nonzero]

theorem pass_sound {count : Int32} {s : Loop} (sound : Sound count s) {result : Int64}
    (data : 0 ≤ result.toInt) (within : result.toInt ≤ s.asked) :
    Sound count (pass s result).after ∧ (pass s result).Stops ∧ (pass s result).Inside := by
  obtain ⟨⟨total, sum⟩, start, rest, small⟩ := sound
  have asked := asked_of_nonneg rest
  have bound : BUFFER_SIZE = 2048 := rfl
  have value := (ret_of_data rest data within).1
  have more : (s.totalRead + result.toInt32).toInt = s.totalRead.toInt + result.toInt := by
    rw [Int32.toInt_add, value]
    exact bmod_int (by omega) (by omega)
  have less : (s.remaining - result.toInt32).toInt = s.remaining.toInt - result.toInt := by
    rw [Int32.toInt_sub, value]
    exact bmod_int (by omega) (by omega)
  refine ⟨?_, fun failed => absurd failed (by exact Int.not_lt.mpr data), start, ?_⟩
  · simp only [pass, body_data rest data within]
    refine ⟨⟨?_, ?_⟩, ?_, ?_, small⟩
    · simp only [more, received_snoc, if_pos data, total]
    · simp only [more, less]
      omega
    · simp only [more]
      omega
    · simp only [less]
      omega
  · change s.totalRead.toInt + (s.asked : Int) ≤ BUFFER_SIZE
    omega

theorem pass_failed {s : Loop} (rest : 0 ≤ s.remaining.toInt) {result : Int64}
    (failed : result.toInt = -1) : ¬ (pass s result).Stops := by
  intro stops
  have same := (stops (by change result.toInt < 0; omega)).1
  have value : result.toInt32.toInt = -1 := (toInt_int (by omega) (by omega)).trans failed
  have nonzero : result.toInt32 ≠ 0 := by
    intro zero
    rw [zero] at value
    cases value
  have counted : result.toInt32 ≤ s.remaining := by
    rw [Int32.le_iff_toInt_le, value]
    omega
  simp [pass, body, nonzero, counted] at same

theorem mem_readLoop {left : Nat} {read : Nat → Int64} {s : Loop} {p : Pass}
    (member : p ∈ (readLoop left read s).1) : p = pass p.before p.result := by
  induction left generalizing read s with
  | zero => cases member
  | succ left ih =>
    rw [readLoop] at member
    split at member
    · cases member
    · simp only at member
      split at member
      · rcases List.mem_cons.mp member with rfl | later
        · rfl
        · exact ih later
      · rw [List.mem_singleton.mp member]
        rfl

theorem readLoop_stops {left : Nat} {read : Nat → Int64} {s : Loop}
    (more : s.remaining ≠ 0) (ends : (pass s (read 0)).goesOn = false) :
    readLoop (left + 1) read s = ([pass s (read 0)], (pass s (read 0)).after) := by
  simp [readLoop, more, ends]

theorem readLoop_goesOn {left : Nat} {read : Nat → Int64} {s : Loop}
    (more : s.remaining ≠ 0) (goesOn : (pass s (read 0)).goesOn = true) :
    readLoop (left + 1) read s =
      (pass s (read 0) :: (readLoop left (fun k => read (k + 1)) (pass s (read 0)).after).1,
        (readLoop left (fun k => read (k + 1)) (pass s (read 0)).after).2) := by
  simp [readLoop, more, goesOn]

theorem first_mem {left : Nat} {read : Nat → Int64} {s : Loop} (more : s.remaining ≠ 0) :
    pass s (read 0) ∈ (readLoop (left + 1) read s).1 := by
  cases goesOn : (pass s (read 0)).goesOn with
  | false =>
    rw [readLoop_stops more goesOn]
    exact List.mem_cons_self
  | true =>
    rw [readLoop_goesOn more goesOn]
    exact List.mem_cons_self

theorem readLoop_sound {count : Int32} {left : Nat} {read : Nat → Int64} {s : Loop}
    (sound : Sound count s)
    (data : ∀ p ∈ (readLoop left read s).1, p.Possible ∧ p.result.toInt ≠ -1) :
    (∀ p ∈ (readLoop left read s).1,
      Books count p.before ∧ Books count p.after ∧ p.Stops ∧ p.Inside) ∧
      Sound count (readLoop left read s).2 := by
  induction left generalizing read s with
  | zero => exact ⟨nofun, sound⟩
  | succ left ih =>
    by_cases finished : s.remaining = 0
    · simp only [readLoop, if_pos finished]
      exact ⟨nofun, sound⟩
    · have first : (pass s (read 0)).Possible → (pass s (read 0)).result.toInt ≠ -1 →
          Sound count (pass s (read 0)).after ∧ (Books count (pass s (read 0)).before ∧
            Books count (pass s (read 0)).after ∧ (pass s (read 0)).Stops ∧
              (pass s (read 0)).Inside) := by
        intro possible nonneg
        obtain ⟨nonneg', within⟩ := possible.resolve_left nonneg
        obtain ⟨after, stops, inside⟩ := pass_sound sound nonneg' within
        exact ⟨after, sound.books, after.books, stops, inside⟩
      cases goesOn : (pass s (read 0)).goesOn with
      | false =>
        rw [readLoop_stops finished goesOn] at data ⊢
        obtain ⟨possible, nonneg⟩ := data _ List.mem_cons_self
        obtain ⟨after, right⟩ := first possible nonneg
        exact ⟨by simpa using right, after⟩
      | true =>
        rw [readLoop_goesOn finished goesOn] at data ⊢
        obtain ⟨possible, nonneg⟩ := data _ List.mem_cons_self
        obtain ⟨after, right⟩ := first possible nonneg
        obtain ⟨later, last⟩ := ih after fun p member => data p (List.mem_cons_of_mem _ member)
        exact ⟨List.forall_mem_cons.mpr ⟨right, later⟩, last⟩

/-- Any number of passes: right exactly if the first read fits into the buffer, if there
is one, and none fails. -/
theorem readLoop_right_iff {count : Int32} {left : Nat} {read : Nat → Int64}
    (possible : ∀ p ∈ (readLoop (left + 1) read ⟨[], 0, count⟩).1, p.Possible) :
    Right count (readLoop (left + 1) read ⟨[], 0, count⟩) ↔
      0 ≤ count.toInt ∧ count.toInt ≤ BUFFER_SIZE ∧
        ∀ p ∈ (readLoop (left + 1) read ⟨[], 0, count⟩).1, p.result.toInt ≠ -1 := by
  constructor
  · rintro ⟨passes, -, -⟩
    have fits : 0 ≤ count.toInt ∧ count.toInt ≤ BUFFER_SIZE := by
      by_cases none : count = 0
      · subst none
        exact ⟨by decide, by decide⟩
      · have length := (passes _ (first_mem none)).2.2.2.length
        change (0 : Int) + ((Loop.asked ⟨[], 0, count⟩ : Nat) : Int) ≤ BUFFER_SIZE at length
        exact remaining_of_asked (s := ⟨[], 0, count⟩) (by omega)
    refine ⟨fits.1, fits.2, ?_⟩
    intro p member failed
    obtain ⟨_, _, stops, start, length⟩ := passes p member
    rw [mem_readLoop member] at stops
    exact pass_failed (remaining_of_asked (by omega)).1 failed stops
  · rintro ⟨nonneg, small, data⟩
    have sound : Sound count ⟨[], 0, count⟩ :=
      ⟨⟨rfl, Int.zero_add _⟩, Int.le_refl 0, nonneg, small⟩
    obtain ⟨passes, last⟩ := readLoop_sound sound fun p member =>
      ⟨possible p member, data p member⟩
    refine ⟨passes, last.books, ?_⟩
    intro i below
    have sum := last.books.rest
    have rest := last.rest
    have bound := last.small
    omega

theorem readLoop_one (read : Nat → Int64) (s : Loop) :
    (readLoop 1 read s).1 = if s.remaining = 0 then [] else [pass s (read 0)] := by
  by_cases finished : s.remaining = 0
  · simp [readLoop, finished]
  · cases goesOn : (pass s (read 0)).goesOn <;> simp [readLoop, finished, goesOn]

theorem devRead_data_iff {count : Int32} {read : Nat → Int64} (positive : 0 < count.toInt)
    (possible : ∀ p ∈ (devRead count read).1, p.Possible) :
    (∀ p ∈ (devRead count read).1, p.result.toInt ≠ -1) ↔ (read 0).toInt ≠ -1 ∧
      ((read 0).toInt ≠ 0 → (read 0).toInt ≠ count.toInt → (read 1).toInt ≠ -1) := by
  have more : (⟨[], 0, count⟩ : Loop).remaining ≠ 0 := by
    rintro rfl
    exact absurd positive (by decide)
  have first : pass ⟨[], 0, count⟩ (read 0) ∈ (devRead count read).1 := first_mem more
  rcases possible _ first with failed | ⟨data, within⟩
  · constructor
    · exact fun all => absurd failed (all _ first)
    · exact fun explicit => absurd failed explicit.1
  · change 0 ≤ (read 0).toInt at data
    change (read 0).toInt ≤ (Loop.asked ⟨[], 0, count⟩ : Int) at within
    have after := body_data (s := ⟨[], 0, count⟩) (Int.le_of_lt positive) data within
    obtain ⟨value, fits⟩ := ret_of_data (s := ⟨[], 0, count⟩) (Int.le_of_lt positive) data within
    change (read 0).toInt ≤ count.toInt at fits
    have high := count.toInt_lt
    by_cases nothing : (read 0).toInt = 0
    · have ends : (pass ⟨[], 0, count⟩ (read 0)).goesOn = false := by
        simp [pass, after, nothing]
      rw [devRead, readLoop_stops more ends]
      simp [pass, nothing]
    · have goesOn : (pass ⟨[], 0, count⟩ (read 0)).goesOn = true := by
        simp [pass, after, nothing]
      have all : count - (read 0).toInt32 = 0 ↔ (read 0).toInt = count.toInt := by
        rw [← Int32.toInt_inj, Int32.toInt_sub, value, bmod_int (by omega) (by omega)]
        change _ = (0 : Int) ↔ _
        omega
      have not_failed : (read 0).toInt ≠ -1 := by omega
      rw [devRead, readLoop_goesOn more goesOn, List.forall_mem_cons, readLoop_one]
      simp only [pass, after, all]
      by_cases whole : (read 0).toInt = count.toInt
      · simp [whole]
      · simp [whole, nothing, not_failed]

theorem devRead_right_iff {count : Int32} {read : Nat → Int64}
    (possible : ∀ p ∈ (devRead count read).1, p.Possible) :
    Right count (devRead count read) ↔ count = 0 ∨
      0 < count.toInt ∧ count.toInt ≤ BUFFER_SIZE ∧ (read 0).toInt ≠ -1 ∧
        ((read 0).toInt ≠ 0 → (read 0).toInt ≠ count.toInt → (read 1).toInt ≠ -1) := by
  by_cases none : count = 0
  · subst none
    have nothing : devRead 0 read = ([], ⟨[], 0, 0⟩) := rfl
    rw [devRead, readLoop_right_iff possible]
    change _ ∧ _ ∧ (∀ p ∈ (devRead 0 read).1, _) ↔ _
    rw [nothing]
    simp
  · have nonzero : count.toInt ≠ 0 := fun zero => none (Int32.toInt_inj.mp zero)
    rw [devRead, readLoop_right_iff possible]
    change _ ∧ _ ∧ (∀ p ∈ (devRead count read).1, _) ↔ _
    constructor
    · rintro ⟨nonneg, small, data⟩
      have positive : 0 < count.toInt := by omega
      exact .inr ⟨positive, small, (devRead_data_iff positive possible).mp data⟩
    · rintro (zero | ⟨positive, small, explicit⟩)
      · exact absurd zero none
      · exact ⟨Int.le_of_lt positive, small, (devRead_data_iff positive possible).mpr explicit⟩

theorem devRead_right_iff_ten :
    Right 10 (devRead 10 fun n => if n = 0 then 4 else 6) ↔ (10 : Int32) = 0 ∨
      0 < (10 : Int32).toInt ∧ (10 : Int32).toInt ≤ BUFFER_SIZE ∧ (4 : Int64).toInt ≠ -1 ∧
        ((4 : Int64).toInt ≠ 0 → (4 : Int64).toInt ≠ (10 : Int32).toInt →
          (6 : Int64).toInt ≠ -1) :=
  devRead_right_iff
    (show ∀ p ∈ (devRead 10 fun n => if n = 0 then 4 else 6).1, p.Possible by decide)

/-- A first read that fails: the second goes to `&buffer[-1]` and asks for 11 bytes of 10. -/
theorem error_counted : (devRead 10 fun n => if n = 0 then -1 else 0).1.map
      (fun p => (p.before.totalRead, p.before.asked)) = [(0, 10), (-1, 11)] ∧
    ¬ Right 10 (devRead 10 fun n => if n = 0 then -1 else 0) := by
  refine ⟨by decide, ?_⟩
  intro right
  exact absurd right.last.total (by decide)

end MadDriver.DevRead

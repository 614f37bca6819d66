import Mathlib.Logic.Function.Basic

/-! Digital lines under a clock.
A trace is the sequence of level changes a sender makes on named lines. A receiver
reads the lines each time the clock line falls. What a trace shows to the receiver is
stated as a triple over the levels before and after it. -/
namespace MadDriver.Wire

variable {P α β : Type}

abbrev Levels (P : Type) := P → Bool
abbrev Write (P : Type) := P × Bool

variable [DecidableEq P]

def drive (l : Levels P) (w : Write P) : Levels P := Function.update l w.1 w.2

def after (l : Levels P) (t : List (Write P)) : Levels P := t.foldl drive l

def falls (clock : P) (l : Levels P) (w : Write P) : Bool :=
  l clock && !drive l w clock

/-- What `read` gives at each change of the clock from high to low. -/
def samples (clock : P) (read : Levels P → α) : Levels P → List (Write P) → List α
  | _, [] => []
  | l, w :: t =>
    (if falls clock l w then [read l] else []) ++ samples clock read (drive l w) t

def Stable (clock : P) : Levels P → List (Write P) → Prop
  | _, [] => True
  | l, w :: t =>
    (l clock = true → ∀ p, p ≠ clock → drive l w p = l p) ∧ Stable clock (drive l w) t

def Throughout (Q : Levels P → Prop) : Levels P → List (Write P) → Prop
  | l, [] => Q l
  | l, w :: t => Q l ∧ Throughout Q (drive l w) t

@[simp] theorem after_nil (l : Levels P) : after l [] = l := rfl

@[simp] theorem after_cons (l : Levels P) (w : Write P) (t : List (Write P)) :
    after l (w :: t) = after (drive l w) t := rfl

@[simp] theorem after_append (l : Levels P) (t u : List (Write P)) :
    after l (t ++ u) = after (after l t) u := List.foldl_append

@[simp] theorem drive_self (l : Levels P) (p : P) (b : Bool) : drive l (p, b) p = b :=
  Function.update_self ..

theorem drive_other (l : Levels P) {p q : P} (b : Bool) (other : q ≠ p) :
    drive l (p, b) q = l q := Function.update_of_ne other ..

theorem samples_append (clock : P) (read : Levels P → α) (l : Levels P) (t u : List (Write P)) :
    samples clock read l (t ++ u) =
      samples clock read l t ++ samples clock read (after l t) u := by
  induction t generalizing l with
  | nil => rfl
  | cons w t ih => simp [samples, ih]

theorem stable_append (clock : P) (l : Levels P) (t u : List (Write P)) :
    Stable clock l (t ++ u) ↔ Stable clock l t ∧ Stable clock (after l t) u := by
  induction t generalizing l with
  | nil => simp [Stable]
  | cons w t ih => simp [Stable, ih, and_assoc]

theorem throughout_append (Q : Levels P → Prop) (l : Levels P) (t u : List (Write P)) :
    Throughout Q l (t ++ u) ↔ Throughout Q l t ∧ Throughout Q (after l t) u := by
  induction t generalizing l with
  | nil =>
    refine ⟨fun kept => ⟨?_, kept⟩, And.right⟩
    cases u with
    | nil => exact kept
    | cons w u => exact kept.1
  | cons w t ih => simp [Throughout, ih, and_assoc]

/-- A clock line, what the receiver reads, and what must hold of the levels all along. -/
structure Receiver (P α : Type) where
  clock : P
  read : Levels P → α
  keeps : Levels P → Prop

/-- The receiver sees `out` in the trace, on lines that hold still under a high clock. -/
structure Receiver.Sees (r : Receiver P α) (l : Levels P) (t : List (Write P))
    (out : List α) : Prop where
  samples : samples r.clock r.read l t = out
  stable : Stable r.clock l t
  throughout : Throughout r.keeps l t

def Receiver.Triple (r : Receiver P α) (pre : Levels P → Prop) (t : List (Write P))
    (out : List α) (post : Levels P → Prop) : Prop :=
  ∀ l, pre l → r.Sees l t out ∧ post (after l t)

variable {r : Receiver P α} {pre mid post : Levels P → Prop} {t u : List (Write P)}
  {out out' : List α}

theorem Receiver.Triple.append (first : r.Triple pre t out mid)
    (second : r.Triple mid u out' post) : r.Triple pre (t ++ u) (out ++ out') post := by
  intro l before
  obtain ⟨seen, between⟩ := first l before
  obtain ⟨seen', done⟩ := second (after l t) between
  refine ⟨⟨?_, ?_, ?_⟩, by rwa [after_append]⟩
  · rw [samples_append, seen.samples, seen'.samples]
  · exact (stable_append ..).2 ⟨seen.stable, seen'.stable⟩
  · exact (throughout_append ..).2 ⟨seen.throughout, seen'.throughout⟩

theorem Receiver.Triple.nil (kept : ∀ l, pre l → r.keeps l) : r.Triple pre [] [] pre :=
  fun l before => ⟨⟨rfl, trivial, kept l before⟩, before⟩

theorem Receiver.Triple.weaken {pre' post' : Levels P → Prop}
    (sent : r.Triple pre t out post) (stronger : ∀ l, pre' l → pre l)
    (weaker : ∀ l, post l → post' l) : r.Triple pre' t out post' :=
  fun l before => (sent l (stronger l before)).imp id (weaker _)

theorem Receiver.Triple.flatMap {send : β → List (Write P)} {seen : β → List α}
    (kept : ∀ l, pre l → r.keeps l) (each : ∀ b, r.Triple pre (send b) (seen b) pre) :
    ∀ bs : List β, r.Triple pre (bs.flatMap send) (bs.flatMap seen) pre
  | [] => .nil kept
  | b :: bs => (each b).append (Receiver.Triple.flatMap kept each bs)

theorem drive_low {l : Levels P} {p : P} {w : Write P} (low : l p = false)
    (quiet : w.1 = p → w.2 = false) : drive l w p = false := by
  obtain ⟨q, b⟩ := w
  rcases eq_or_ne p q with rfl | other
  · exact (drive_self l p b).trans (quiet rfl)
  · rw [drive_other l b other, low]

theorem Receiver.Sees.settle {ws : List (Write P)} {l : Levels P}
    (quiet : ∀ w ∈ ws, w.1 = r.clock → w.2 = false)
    (keeping : ∀ w ∈ ws, ∀ l, r.keeps l → r.keeps (drive l w))
    (low : l r.clock = false) (kept : r.keeps l) : r.Sees l ws [] := by
  induction ws generalizing l with
  | nil => exact ⟨rfl, trivial, kept⟩
  | cons w ws ih =>
    have still : drive l w r.clock = false := drive_low low (quiet w List.mem_cons_self)
    have rest : r.Sees (drive l w) ws [] :=
      ih (fun v mem => quiet v (List.mem_cons_of_mem w mem))
        (fun v mem => keeping v (List.mem_cons_of_mem w mem)) still
        (keeping w List.mem_cons_self l kept)
    refine ⟨?_, ⟨?_, rest.stable⟩, kept, rest.throughout⟩
    · simp [Wire.samples, falls, low, rest.samples]
    · intro high
      rw [low] at high
      contradiction

/-- Lines may be set while the clock is low, and the receiver sees nothing of it. -/
theorem Receiver.Triple.settle {ws : List (Write P)}
    (low : ∀ l, pre l → l r.clock = false ∧ r.keeps l)
    (quiet : ∀ w ∈ ws, w.1 = r.clock → w.2 = false)
    (keeping : ∀ w ∈ ws, ∀ l, r.keeps l → r.keeps (drive l w))
    (done : ∀ l, pre l → post (after l ws)) : r.Triple pre ws [] post :=
  fun l before => ⟨.settle quiet keeping (low l before).1 (low l before).2, done l before⟩

def pulse (clock : P) : List (Write P) := [(clock, false), (clock, true), (clock, false)]

theorem drive_eq_self {l : Levels P} {p : P} {b : Bool} (already : l p = b) :
    drive l (p, b) = l := by
  subst already
  exact Function.update_eq_self ..

theorem after_pulse {clock : P} {l : Levels P} (low : l clock = false) :
    after l (pulse clock) = l := by
  simp only [pulse, after_cons, after_nil, drive_eq_self low]
  simp only [drive, Function.update_idem]
  exact drive_eq_self low

/-- A pulse shows the receiver the lines as they stand. -/
theorem Receiver.Triple.pulse {v : α} (low : ∀ l, pre l → l r.clock = false)
    (shown : ∀ l, pre l → r.read (drive l (r.clock, true)) = v)
    (kept : ∀ l, pre l → r.keeps l ∧ r.keeps (drive l (r.clock, true))) :
    r.Triple pre (pulse r.clock) [v] pre := by
  intro l before
  have same : drive l (r.clock, false) = l := drive_eq_self (low l before)
  have back : drive (drive l (r.clock, true)) (r.clock, false) = l := by
    simpa [Wire.pulse, same] using after_pulse (low l before)
  refine ⟨⟨?_, ?_, ?_⟩, by rwa [after_pulse (low l before)]⟩
  · simp [samples, Wire.pulse, falls, same, low l before, shown l before]
  · refine ⟨fun _ p other => drive_other l _ other, ?_, ?_, trivial⟩
    · exact fun _ p other => drive_other _ _ other
    · exact fun _ p other => drive_other _ _ other
  · simp [Throughout, Wire.pulse, same, back, kept l before]

end MadDriver.Wire

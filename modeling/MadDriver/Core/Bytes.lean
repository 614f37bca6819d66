import Mathlib.Algebra.Group.Int.Defs
import Mathlib.Algebra.Group.Nat.Defs
import Mathlib.Data.List.Induction

/-! A buffer as a list: reading a range, overwriting a range, and what a sequence
of overwrites leaves at an index (the latest one that covers it, if any), or in a whole
range of it. -/
namespace MadDriver.Bytes

universe u

variable {α : Type u}

def slice (buf : List α) (off len : Nat) : List α :=
  (buf.drop off).take len

def patch (buf : List α) (off : Nat) (new : List α) : List α :=
  buf.take off ++ new ++ buf.drop (off + new.length)

@[simp] theorem length_slice (buf : List α) (off len : Nat) :
    (slice buf off len).length = min len (buf.length - off) := by
  simp [slice]

theorem slice_append (buf : List α) (off len len' : Nat) :
    slice buf off len ++ slice buf (off + len) len' = slice buf off (len + len') := by
  rw [slice, slice, slice, List.take_add, List.drop_drop]

theorem getElem?_slice (buf : List α) {off len k : Nat} (within : k < len) :
    (slice buf off len)[k]? = buf[off + k]? := by
  simp [slice, within]

theorem length_patch {buf new : List α} {off : Nat} (inside : off + new.length ≤ buf.length) :
    (patch buf off new).length = buf.length := by
  simp [patch]
  omega

@[simp] theorem patch_nil (buf : List α) (off : Nat) : patch buf off [] = buf := by
  simp [patch]

theorem patch_cons {buf : List α} {off : Nat} (inside : off < buf.length) (x : α) (new : List α) :
    patch buf off (x :: new) = patch (buf.set off x) (off + 1) new := by
  have short : (buf.take off).length = off := by simp [Nat.le_of_lt inside]
  have front : (buf.set off x).take (off + 1) = buf.take off ++ [x] := by
    rw [List.take_set, List.take_succ_eq_append_getElem inside,
      List.set_append_right _ _ (Nat.le_of_eq short), short]
    simp
  have back : off + (x :: new).length = off + 1 + new.length := by
    rw [List.length_cons]
    omega
  rw [patch, patch, front, List.drop_set_of_lt (by omega), back]
  simp

theorem patch_append {buf : List α} {off : Nat} (inside : off ≤ buf.length) (new new' : List α) :
    patch (patch buf off new) (off + new.length) new' = patch buf off (new ++ new') := by
  have front : (buf.take off ++ new).length = off + new.length := by
    simp [Nat.min_eq_left inside]
  have gap : off + new.length + new'.length - (off + new.length) = new'.length := by omega
  rw [patch, patch, ← front, List.take_left, front, List.drop_append, front, gap,
    List.drop_of_length_le (by omega), List.drop_drop, patch, List.length_append]
  simp [Nat.add_assoc]

def hit (w : Nat × List α) (i : Nat) : Option α :=
  if w.1 ≤ i then w.2[i - w.1]? else none

theorem hit_none {w : Nat × List α} {i : Nat} (outside : i < w.1 ∨ w.1 + w.2.length ≤ i) :
    hit w i = none := by
  unfold hit
  split
  · exact List.getElem?_eq_none (by omega)
  · rfl

theorem getElem?_patch {buf new : List α} {off : Nat} (inside : off + new.length ≤ buf.length)
    (i : Nat) : (patch buf off new)[i]? = (hit (off, new) i).or buf[i]? := by
  have head : (buf.take off).length = off := by simp; omega
  by_cases before : i < off
  · have miss : hit (off, new) i = none := hit_none (.inl before)
    rw [miss, patch, List.append_assoc, List.getElem?_append_left (by omega),
      List.getElem?_take_of_lt before, Option.none_or]
  · by_cases covered : i < off + new.length
    · have found : hit (off, new) i = new[i - off]? := if_pos (by omega)
      obtain ⟨b, value⟩ : ∃ b, new[i - off]? = some b :=
        ⟨_, List.getElem?_eq_getElem (by omega)⟩
      rw [found, patch, List.append_assoc, List.getElem?_append_right (by omega), head,
        List.getElem?_append_left (by omega), value, Option.some_or]
    · have miss : hit (off, new) i = none := hit_none (.inr (by simpa using covered))
      have front : (buf.take off ++ new).length = off + new.length := by simp [head]
      rw [miss, patch, List.getElem?_append_right (by omega), front, List.getElem?_drop,
        Option.none_or]
      congr 1
      omega

/-- The latest of a sequence of overwrites that covers index i; later ones stand later. -/
def lastHit (ws : List (Nat × List α)) (i : Nat) : Option α :=
  ws.foldl (fun found w => (hit w i).or found) none

@[simp] theorem lastHit_snoc (ws : List (Nat × List α)) (w : Nat × List α) (i : Nat) :
    lastHit (ws ++ [w]) i = (hit w i).or (lastHit ws i) := by
  simp [lastHit, List.foldl_append]

theorem lastHit_zipIdx (xs : List α) (k : Nat) :
    lastHit (xs.zipIdx.map fun (x, i) => (i, [x])) k = xs[k]? := by
  induction xs using List.reverseRecOn with
  | nil => rfl
  | append_singleton xs x ih =>
    rw [List.zipIdx_append, List.map_append, Nat.zero_add]
    change lastHit (_ ++ [(xs.length, [x])]) k = _
    rw [lastHit_snoc, ih]
    rcases Nat.lt_trichotomy k xs.length with before | rfl | after
    · rw [hit_none (.inl before), Option.none_or, List.getElem?_append_left before]
    · simp [hit]
    · have miss : hit (xs.length, [x]) k = none := hit_none (.inr after)
      have outside : (xs ++ [x]).length ≤ k := by rwa [List.length_append]
      rw [miss, Option.none_or, List.getElem?_eq_none (Nat.le_of_lt after),
        List.getElem?_eq_none outside]

/-- The first n values of a buffer after a sequence of overwrites, where all of them were
overwritten. -/
def overwritten (ws : List (Nat × List α)) : Nat → Option (List α)
  | 0 => some []
  | n + 1 => do
    let front ← overwritten ws n
    let last ← lastHit ws n
    some (front ++ [last])

theorem overwritten_eq {ws : List (Nat × List α)} {xs : List α}
    (latest : ∀ k, lastHit ws k = xs[k]?) {n : Nat} (within : n ≤ xs.length) :
    overwritten ws n = some (xs.take n) := by
  induction n with
  | zero => rfl
  | succ n ih =>
    rw [overwritten, ih (Nat.le_of_succ_le within), latest, List.getElem?_eq_getElem within,
      List.take_succ_eq_append_getElem within]
    rfl

end MadDriver.Bytes

import MadDriver.Core.Bytes

/-! Shadow memory: a mark for each index of a buffer says whether its contents are
known. Two buffers are compared through the marks of both: they agree where an
index is marked and, where the comparison asks for it, differ everywhere else. -/
namespace MadDriver.Bytes

universe u

variable {α : Type u}

structure Agree (apart : Bool) (marks : List Bool) (b b' : List α) : Prop where
  left : b.length = marks.length
  right : b'.length = marks.length
  known : ∀ i : Nat, marks[i]? = some true → b[i]? = b'[i]?
  unknown : apart = true → ∀ i : Nat, marks[i]? = some false → b[i]? ≠ b'[i]?

/-- The marks after the first `n` bytes are kept and the rest is new memory. -/
def markResize (marks : List Bool) (n : Nat) : List Bool :=
  marks.take n ++ List.replicate (n - marks.length) false

def markPatch (marks : List Bool) (off len : Nat) : List Bool :=
  patch marks off (List.replicate len true)

theorem length_markResize (marks : List Bool) (n : Nat) : (markResize marks n).length = n := by
  simp [markResize]
  omega

theorem length_markPatch {marks : List Bool} {off len : Nat} (inside : off + len ≤ marks.length) :
    (markPatch marks off len).length = marks.length := by
  rw [markPatch, length_patch]
  rwa [List.length_replicate]

theorem agree_self (apart : Bool) (b : List α) :
    Agree apart (List.replicate b.length true) b b where
  left := List.length_replicate.symm
  right := List.length_replicate.symm
  known _ _ := rfl
  unknown _ i mark := by
    rw [List.getElem?_replicate] at mark
    split at mark <;> cases mark

theorem agree_patch {apart : Bool} {marks : List Bool} {b b' : List α}
    (agree : Agree apart marks b b') {off : Nat} {new : List α}
    (inside : off + new.length ≤ marks.length) :
    Agree apart (markPatch marks off new.length) (patch b off new) (patch b' off new) := by
  have insideB : off + new.length ≤ b.length := agree.left ▸ inside
  have insideC : off + new.length ≤ b'.length := agree.right ▸ inside
  have insideM : off + (List.replicate new.length true).length ≤ marks.length := by
    rwa [List.length_replicate]
  have covered : ∀ i, off ≤ i → i < off + new.length →
      (markPatch marks off new.length)[i]? = some true := by
    intro i above below
    have hits : hit (off, List.replicate new.length true) i = some true := by
      rw [hit, if_pos above, List.getElem?_replicate, if_pos (by omega)]
    rw [markPatch, getElem?_patch insideM, hits, Option.some_or]
  have outside : ∀ i, i < off ∨ off + new.length ≤ i →
      (markPatch marks off new.length)[i]? = marks[i]? ∧
      (patch b off new)[i]? = b[i]? ∧ (patch b' off new)[i]? = b'[i]? := by
    intro i out
    have missM : hit (off, List.replicate new.length true) i = none :=
      hit_none (by simpa using out)
    have miss : hit (off, new) i = none := hit_none (by simpa using out)
    rw [markPatch, getElem?_patch insideM, getElem?_patch insideB, getElem?_patch insideC,
      missM, miss, Option.none_or, Option.none_or, Option.none_or]
    exact ⟨rfl, rfl, rfl⟩
  constructor
  · rw [length_patch insideB, length_markPatch inside, agree.left]
  · rw [length_patch insideC, length_markPatch inside, agree.right]
  · intro i mark
    by_cases out : i < off ∨ off + new.length ≤ i
    · obtain ⟨marked, left, right⟩ := outside i out
      rw [left, right]
      exact agree.known i (marked ▸ mark)
    · have found : ∃ x, new[i - off]? = some x := ⟨_, List.getElem?_eq_getElem (by omega)⟩
      obtain ⟨x, value⟩ := found
      have hits : hit (off, new) i = some x := by rw [hit, if_pos (by omega), value]
      rw [getElem?_patch insideB, getElem?_patch insideC, hits, Option.some_or, Option.some_or]
  · intro asked i mark
    by_cases out : i < off ∨ off + new.length ≤ i
    · obtain ⟨marked, left, right⟩ := outside i out
      rw [left, right]
      exact agree.unknown asked i (marked ▸ mark)
    · rw [covered i (by omega) (by omega)] at mark
      cases mark

theorem agree_resize {apart : Bool} {marks : List Bool} {b b' fresh other : List α} {n : Nat}
    (agree : Agree apart marks b b') (gained : fresh.length = n - marks.length)
    (gained' : other.length = n - marks.length)
    (different : apart = true → ∀ i < fresh.length, fresh[i]? ≠ other[i]?) :
    Agree apart (markResize marks n) (b.take n ++ fresh) (b'.take n ++ other) := by
  have left := agree.left
  have right := agree.right
  have old : ∀ i < min n marks.length, (markResize marks n)[i]? = marks[i]? ∧
      (b.take n ++ fresh)[i]? = b[i]? ∧ (b'.take n ++ other)[i]? = b'[i]? := by
    intro i kept
    refine ⟨?_, ?_, ?_⟩
    · rw [markResize, List.getElem?_append_left (by simp; omega),
        List.getElem?_take_of_lt (by omega)]
    · rw [List.getElem?_append_left (by simp; omega), List.getElem?_take_of_lt (by omega)]
    · rw [List.getElem?_append_left (by simp; omega), List.getElem?_take_of_lt (by omega)]
  have new : ∀ i, min n marks.length ≤ i → (markResize marks n)[i]? ≠ some true ∧
      (b.take n ++ fresh)[i]? = fresh[i - min n marks.length]? ∧
      (b'.take n ++ other)[i]? = other[i - min n marks.length]? := by
    intro i beyond
    refine ⟨?_, ?_, ?_⟩
    · rw [markResize, List.getElem?_append_right (by simp; omega), List.getElem?_replicate]
      split <;> simp
    · rw [List.getElem?_append_right (by simp; omega), List.length_take, left]
    · rw [List.getElem?_append_right (by simp; omega), List.length_take, right]
  constructor
  · rw [length_markResize, List.length_append, List.length_take]
    omega
  · rw [length_markResize, List.length_append, List.length_take]
    omega
  · intro i mark
    by_cases kept : i < min n marks.length
    · obtain ⟨marked, first, second⟩ := old i kept
      rw [first, second]
      exact agree.known i (marked ▸ mark)
    · exact absurd mark (new i (by omega)).1
  · intro asked i mark
    by_cases kept : i < min n marks.length
    · obtain ⟨marked, first, second⟩ := old i kept
      rw [first, second]
      exact agree.unknown asked i (marked ▸ mark)
    · obtain ⟨_, first, second⟩ := new i (by omega)
      have within : i < (markResize marks n).length := (List.getElem?_eq_some_iff.mp mark).1
      rw [length_markResize] at within
      rw [first, second]
      exact different asked _ (by omega)

theorem agree_slice {apart : Bool} {marks : List Bool} {b b' : List α}
    (agree : Agree apart marks b b') {off len : Nat}
    (marked : ∀ k < len, marks[off + k]? = some true) : slice b off len = slice b' off len := by
  apply List.ext_getElem?
  intro k
  by_cases within : k < len
  · rw [getElem?_slice b within, getElem?_slice b' within]
    exact agree.known _ (marked k within)
  · rw [List.getElem?_eq_none (by rw [length_slice]; omega),
      List.getElem?_eq_none (by rw [length_slice]; omega)]

theorem marked_of_slice {marks : List Bool} {b b' : List α} (agree : Agree true marks b b')
    {off len : Nat} (inside : len = 0 ∨ off + len ≤ marks.length)
    (same : slice b off len = slice b' off len) : ∀ k < len, marks[off + k]? = some true := by
  intro k within
  have equal : b[off + k]? = b'[off + k]? := by
    rw [← getElem?_slice b within, ← getElem?_slice b' within, same]
  obtain ⟨mark, found⟩ : ∃ mark, marks[off + k]? = some mark :=
    ⟨_, List.getElem?_eq_getElem (by omega)⟩
  cases mark with
  | true => exact found
  | false => exact absurd equal (agree.unknown rfl _ found)

end MadDriver.Bytes

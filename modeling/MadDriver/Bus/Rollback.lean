import Mathlib.Data.List.Count
import MadDriver.Bus.Registry

/-! 003, pcd_n.c: init and cleanup of the module, for any number of devices in place of
NO_OF_DEVICES. The kernel calls are recorded with their answers, so that what was
obtained can be counted against what is given back. -/
namespace MadDriver.Bus.PcdN
open Kernel

inductive Call where
  | allocChrdevRegion (failure : Option ErrPtr)
  | classCreate (failure : Option ErrPtr)
  | cdevAdd (i : Nat) (failure : Option ErrPtr)
  | deviceCreate (i : Nat) (failure : Option ErrPtr)
  | deviceDestroy (i : Nat)
  | cdevDel (i : Nat)
  | classDestroy
  | unregisterChrdevRegion
  deriving DecidableEq

structure InitEnv where
  allocChrdevRegion : Option ErrPtr
  classCreate : Option ErrPtr
  cdevAdd : Nat → Option ErrPtr
  deviceCreate : Nat → Option ErrPtr

structure InitResult where
  ret : Int64
  calls : List Call

/-- `for(i=0;i<NO_OF_DEVICES;i++)`, with `left` devices to go; where it is left by a
`goto`, the index and the error. -/
def addLoop (env : InitEnv) : Nat → Nat → List Call × Option (Nat × ErrPtr)
  | 0, _ => ([], none)
  | left + 1, i =>
    match env.cdevAdd i with
    | some ret => ([.cdevAdd i (some ret)], some (i, ret))
    | none =>
      match env.deviceCreate i with
      | some ret => ([.cdevAdd i none, .deviceCreate i (some ret)], some (i, ret))
      | none =>
        let (calls, stop) := addLoop env left (i + 1)
        (.cdevAdd i none :: .deviceCreate i none :: calls, stop)

def delLoop : Nat → List Call
  | 0 => [.deviceDestroy 0, .cdevDel 0]
  | i + 1 => .deviceDestroy (i + 1) :: .cdevDel (i + 1) :: delLoop i

def pcdDriverInit (noOfDevices : Nat) (env : InitEnv) : InitResult :=
  match env.allocChrdevRegion with
  | some ret => ⟨ret.val, [.allocChrdevRegion (some ret)]⟩
  | none =>
    match env.classCreate with
    | some ret =>
      ⟨ret.val, [.allocChrdevRegion none, .classCreate (some ret), .unregisterChrdevRegion]⟩
    | none =>
      match addLoop env noOfDevices 0 with
      | (calls, none) => ⟨0, .allocChrdevRegion none :: .classCreate none :: calls⟩
      | (calls, some (i, ret)) =>
        ⟨ret.val, .allocChrdevRegion none :: .classCreate none :: calls ++ delLoop i ++
          [.classDestroy, .unregisterChrdevRegion]⟩

def cleanupLoop : Nat → Nat → List Call
  | 0, _ => []
  | left + 1, i => .deviceDestroy i :: .cdevDel i :: cleanupLoop left (i + 1)

def pcdDriverCleanup (noOfDevices : Nat) : List Call :=
  cleanupLoop noOfDevices 0 ++ [.classDestroy, .unregisterChrdevRegion]

@[ext] structure Held where
  region : Bool
  classPcd : Bool
  cdevs : Nat → Bool
  devices : Nat → Bool

def nothingHeld : Held := ⟨false, false, fun _ => false, fun _ => false⟩

def Held.after (h : Held) : Call → Held
  | .allocChrdevRegion none => { h with region := true }
  | .classCreate none => { h with classPcd := true }
  | .cdevAdd i none => { h with cdevs := Function.update h.cdevs i true }
  | .deviceCreate i none => { h with devices := Function.update h.devices i true }
  | .deviceDestroy i => { h with devices := Function.update h.devices i false }
  | .cdevDel i => { h with cdevs := Function.update h.cdevs i false }
  | .classDestroy => { h with classPcd := false }
  | .unregisterChrdevRegion => { h with region := false }
  | .allocChrdevRegion (some _) | .classCreate (some _) | .cdevAdd _ (some _)
  | .deviceCreate _ (some _) => h

def heldAfter (h : Held) (calls : List Call) : Held := calls.foldl Held.after h

def Call.failure : Call → Option ErrPtr
  | .allocChrdevRegion f | .classCreate f | .cdevAdd _ f | .deviceCreate _ f => f
  | .deviceDestroy _ | .cdevDel _ | .classDestroy | .unregisterChrdevRegion => none

def once (p : Prop) [Decidable p] : Nat := if p then 1 else 0

structure GivenBack (calls : List Call) : Prop where
  cdevs : ∀ i, calls.count (.cdevDel i) = once (Call.cdevAdd i none ∈ calls)
  devices : ∀ i, calls.count (.deviceDestroy i) = once (Call.deviceCreate i none ∈ calls)
  classes : calls.count .classDestroy = once (Call.classCreate none ∈ calls)
  regions : calls.count .unregisterChrdevRegion = once (Call.allocChrdevRegion none ∈ calls)
  nothing : heldAfter nothingHeld calls = nothingHeld

structure Loaded (n : Nat) (r : InitResult) : Prop where
  ret : r.ret = 0
  held : heldAfter nothingHeld r.calls = ⟨true, true, fun i => i < n, fun i => i < n⟩
  unloads : GivenBack (r.calls ++ pcdDriverCleanup n)

structure RolledBack (r : InitResult) : Prop where
  error : ∃ code, r.calls.filterMap Call.failure = [code] ∧ r.ret = code.val
  back : GivenBack r.calls

def LoadSound (n : Nat) (r : InitResult) : Prop := Loaded n r ∨ RolledBack r

/-- No call of the loop fails, if the loop is reached. -/
def LoopSucceeds (n : Nat) (env : InitEnv) : Prop :=
  env.allocChrdevRegion = none → env.classCreate = none →
    ∀ i < n, env.cdevAdd i = none ∧ env.deviceCreate i = none

def added (i : Nat) : List Call := [.cdevAdd i none, .deviceCreate i none]

def removed (i : Nat) : List Call := [.deviceDestroy i, .cdevDel i]

theorem cleanupLoop_removed (left i : Nat) :
    cleanupLoop left i = (List.range' i left).flatMap removed := by
  induction left generalizing i with
  | zero => rfl
  | succ left ih =>
    rw [cleanupLoop, ih, List.range'_succ]
    rfl

theorem delLoop_removed (i : Nat) : delLoop i = (List.range (i + 1)).reverse.flatMap removed := by
  induction i with
  | zero => rfl
  | succ i ih =>
    have last : List.range (i + 1 + 1) = List.range (i + 1) ++ [i + 1] := List.range_succ
    rw [delLoop, ih, last, List.reverse_append]
    rfl

theorem addLoop_all {env : InitEnv} {left i : Nat}
    (all : ∀ j, i ≤ j → j < i + left → env.cdevAdd j = none ∧ env.deviceCreate j = none) :
    addLoop env left i = ((List.range' i left).flatMap added, none) := by
  induction left generalizing i with
  | zero => rfl
  | succ left ih =>
    obtain ⟨cdev, device⟩ := all i (Nat.le_refl i) (by omega)
    have rest := ih (i := i + 1) fun j low high => all j (by omega) (by omega)
    simp only [addLoop, cdev, device, rest]
    rfl

theorem addLoop_stops {env : InitEnv} {left i : Nat}
    (some_fails : ∃ j, i ≤ j ∧ j < i + left ∧
      ¬ (env.cdevAdd j = none ∧ env.deviceCreate j = none)) :
    ∃ k code last, addLoop env left i =
        ((List.range' i k).flatMap added ++ last, some (i + k, code)) ∧
      (last = [.cdevAdd (i + k) (some code)] ∨
        last = [.cdevAdd (i + k) none, .deviceCreate (i + k) (some code)]) := by
  induction left generalizing i with
  | zero =>
    obtain ⟨j, low, high, _⟩ := some_fails
    omega
  | succ left ih =>
    cases cdev : env.cdevAdd i with
    | some code =>
      refine ⟨0, code, _, ?_, .inl rfl⟩
      simp only [addLoop, cdev]
      rfl
    | none =>
      cases device : env.deviceCreate i with
      | some code =>
        refine ⟨0, code, _, ?_, .inr rfl⟩
        simp only [addLoop, cdev, device]
        rfl
      | none =>
        obtain ⟨j, low, high, fails⟩ := some_fails
        have later : j ≠ i := by
          rintro rfl
          exact fails ⟨cdev, device⟩
        obtain ⟨k, code, last, stops, ends⟩ := ih (i := i + 1) ⟨j, by omega, by omega, fails⟩
        have index : i + 1 + k = i + (k + 1) := by omega
        rw [index] at stops ends
        refine ⟨k + 1, code, last, ?_, ends⟩
        simp only [addLoop, cdev, device, stops]
        rfl

section Holding

variable (h : Held)

theorem heldAfter_append (calls calls' : List Call) :
    heldAfter h (calls ++ calls') = heldAfter (heldAfter h calls) calls' := List.foldl_append

theorem held_added (l : List Nat) : heldAfter h (l.flatMap added) =
    { h with
      cdevs := fun j => h.cdevs j || decide (j ∈ l)
      devices := fun j => h.devices j || decide (j ∈ l) } := by
  induction l generalizing h with
  | nil => simp [heldAfter]
  | cons i l ih =>
    rw [List.flatMap_cons, heldAfter_append, ih]
    ext j
    · rfl
    · rfl
    all_goals
      by_cases here : j = i <;> simp [heldAfter, added, Held.after, Function.update, here]

theorem held_removed (l : List Nat) : heldAfter h (l.flatMap removed) =
    { h with
      cdevs := fun j => h.cdevs j && decide (j ∉ l)
      devices := fun j => h.devices j && decide (j ∉ l) } := by
  induction l generalizing h with
  | nil => simp [heldAfter]
  | cons i l ih =>
    rw [List.flatMap_cons, heldAfter_append, ih]
    ext j
    · rfl
    · rfl
    all_goals
      by_cases here : j = i <;> simp [heldAfter, removed, Held.after, Function.update, here]

end Holding

/-- The calls of a run that adds the devices of `l`, tries `last`, and removes those
of `l'`. -/
def bracket (l : List Nat) (last : List Call) (l' : List Nat) : List Call :=
  [.allocChrdevRegion none, .classCreate none] ++ l.flatMap added ++ last ++
    l'.flatMap removed ++ [.classDestroy, .unregisterChrdevRegion]

theorem count_removed (l : List Nat) (i : Nat) :
    (l.flatMap removed).count (.cdevDel i) = l.count i ∧
    (l.flatMap removed).count (.deviceDestroy i) = l.count i := by
  induction l with
  | nil => simp
  | cons j l ih => simp [removed, List.count_cons, ih]

theorem bracket_calls (l l' : List Nat) (i : Nat) {last : List Call}
    (other : ∀ j, Call.cdevDel j ∉ last ∧ Call.deviceDestroy j ∉ last) :
    (bracket l last l').count (.cdevDel i) = l'.count i ∧
    (bracket l last l').count (.deviceDestroy i) = l'.count i ∧
    (Call.cdevAdd i none ∈ bracket l last l' ↔ i ∈ l ∨ Call.cdevAdd i none ∈ last) ∧
    (Call.deviceCreate i none ∈ bracket l last l' ↔ i ∈ l ∨ Call.deviceCreate i none ∈ last) := by
  have counts := count_removed l' i
  have none_del : last.count (.cdevDel i) = 0 := List.count_eq_zero.mpr (other i).1
  have none_destroyed : last.count (.deviceDestroy i) = 0 := List.count_eq_zero.mpr (other i).2
  have before : (l.flatMap added).count (.cdevDel i) = 0 ∧
      (l.flatMap added).count (.deviceDestroy i) = 0 := by
    simp [List.count_eq_zero, added]
  refine ⟨?_, ?_, ?_, ?_⟩
  · simp [bracket, List.count_append, counts, before, none_del]
  · simp [bracket, List.count_append, counts, before, none_destroyed]
  · simp [bracket, added, removed]
  · simp [bracket, added, removed]

theorem held_bracket {l l' : List Nat} {last : List Call} {held : Held}
    (before : heldAfter nothingHeld ([.allocChrdevRegion none, .classCreate none] ++
      l.flatMap added ++ last) = held)
    (covered : ∀ i ∉ l', held.cdevs i = false ∧ held.devices i = false) :
    heldAfter nothingHeld (bracket l last l') = nothingHeld := by
  rw [bracket, heldAfter_append, heldAfter_append, before, held_removed]
  ext i
  · rfl
  · rfl
  all_goals
    by_cases removed_too : i ∈ l'
    · simp [heldAfter, Held.after, nothingHeld, removed_too]
    · simp [heldAfter, Held.after, nothingHeld, removed_too, covered i removed_too]

theorem held_two_added (l : List Nat) :
    heldAfter nothingHeld ([.allocChrdevRegion none, .classCreate none] ++ l.flatMap added) =
      ⟨true, true, fun i => decide (i ∈ l), fun i => decide (i ∈ l)⟩ := by
  rw [heldAfter_append, held_added]
  simp [heldAfter, Held.after, nothingHeld]

theorem count_outside (call : Call) (foreign : ∀ i, call ∉ added i ∧ call ∉ removed i)
    (l : List Nat) : (l.flatMap added).count call = 0 ∧ (l.flatMap removed).count call = 0 := by
  rw [List.count_eq_zero, List.count_eq_zero, List.mem_flatMap, List.mem_flatMap]
  constructor
  · rintro ⟨i, _, member⟩
    exact (foreign i).1 member
  · rintro ⟨i, _, member⟩
    exact (foreign i).2 member

theorem no_calls (j : Nat) :
    Call.cdevDel j ∉ ([] : List Call) ∧ Call.deviceDestroy j ∉ ([] : List Call) :=
  ⟨List.not_mem_nil, List.not_mem_nil⟩

theorem givenBack_bracket {l : List Nat} (distinct : l.Nodup) : GivenBack (bracket l [] l) where
  cdevs i := by
    have calls := bracket_calls l l i no_calls
    rw [calls.1, distinct.count]
    simp [once, calls.2.2.1]
  devices i := by
    have calls := bracket_calls l l i no_calls
    rw [calls.2.1, distinct.count]
    simp [once, calls.2.2.2]
  classes := by
    have neither := count_outside .classDestroy (by simp [added, removed]) l
    simp [bracket, once, neither]
  regions := by
    have neither := count_outside .unregisterChrdevRegion (by simp [added, removed]) l
    simp [bracket, once, neither]
  nothing := by
    apply held_bracket
    · rw [List.append_nil, held_two_added]
    · intro i outside
      simp [outside]

section Init

variable {n : Nat} {env : InitEnv}

theorem init_succeeds (region : env.allocChrdevRegion = none) (made : env.classCreate = none)
    (all : ∀ i < n, env.cdevAdd i = none ∧ env.deviceCreate i = none) :
    pcdDriverInit n env = ⟨0, [.allocChrdevRegion none, .classCreate none] ++
      (List.range' 0 n).flatMap added⟩ := by
  have loop : addLoop env n 0 = ((List.range' 0 n).flatMap added, none) :=
    addLoop_all fun j _ high => all j (by omega)
  simp only [pcdDriverInit, region, made, loop]
  rfl

/-- The loop stops at device k: the devices before it have been added, and the
rollback starts at k whatever was added of it. -/
theorem init_stops (region : env.allocChrdevRegion = none) (made : env.classCreate = none)
    (some_fails : ∃ i < n, ¬ (env.cdevAdd i = none ∧ env.deviceCreate i = none)) :
    ∃ k code last, pcdDriverInit n env =
        ⟨code.val, bracket (List.range' 0 k) last (List.range (k + 1)).reverse⟩ ∧
      (last = [.cdevAdd k (some code)] ∨
        last = [.cdevAdd k none, .deviceCreate k (some code)]) := by
  obtain ⟨j, below, fails⟩ := some_fails
  obtain ⟨k, code, last, stops, ends⟩ :=
    addLoop_stops ⟨j, Nat.zero_le j, (Nat.zero_add n).symm ▸ below, fails⟩
  rw [Nat.zero_add] at stops ends
  refine ⟨k, code, last, ?_, ends⟩
  simp only [pcdDriverInit, region, made, stops, delLoop_removed]
  simp [bracket]

theorem init_loaded (region : env.allocChrdevRegion = none) (made : env.classCreate = none)
    (all : ∀ i < n, env.cdevAdd i = none ∧ env.deviceCreate i = none) :
    Loaded n (pcdDriverInit n env) := by
  rw [init_succeeds region made all]
  refine ⟨rfl, ?_, ?_⟩
  · rw [held_two_added]
    simp
  · have whole : [.allocChrdevRegion none, .classCreate none] ++
        (List.range' 0 n).flatMap added ++ pcdDriverCleanup n =
        bracket (List.range' 0 n) [] (List.range' 0 n) := by
      simp [pcdDriverCleanup, cleanupLoop_removed, bracket]
    rw [whole]
    exact givenBack_bracket List.nodup_range'

theorem stops_unbalanced {k : Nat} {code : ErrPtr} {last : List Call}
    (ends : last = [.cdevAdd k (some code)] ∨
      last = [.cdevAdd k none, .deviceCreate k (some code)]) :
    ¬ GivenBack (bracket (List.range' 0 k) last (List.range (k + 1)).reverse) := by
  intro back
  have other : ∀ j, Call.cdevDel j ∉ last ∧ Call.deviceDestroy j ∉ last := by
    rcases ends with rfl | rfl <;> simp
  have calls := bracket_calls (List.range' 0 k) (List.range (k + 1)).reverse k other
  have never : Call.deviceCreate k none ∉
      bracket (List.range' 0 k) last (List.range (k + 1)).reverse := by
    rw [calls.2.2.2]
    rcases ends with rfl | rfl <;> simp
  have destroyed := back.devices k
  rw [calls.2.1, once, if_neg never, List.count_eq_zero] at destroyed
  simp at destroyed

theorem init_no_region {code : ErrPtr} (region : env.allocChrdevRegion = some code) :
    RolledBack (pcdDriverInit n env) := by
  have run : pcdDriverInit n env = ⟨code.val, [.allocChrdevRegion (some code)]⟩ := by
    simp only [pcdDriverInit, region]
  rw [run]
  refine ⟨⟨code, rfl, rfl⟩, ?_⟩
  constructor <;> simp [once, heldAfter, Held.after]

theorem init_no_class {code : ErrPtr} (region : env.allocChrdevRegion = none)
    (failed : env.classCreate = some code) : RolledBack (pcdDriverInit n env) := by
  have run : pcdDriverInit n env = ⟨code.val,
      [.allocChrdevRegion none, .classCreate (some code), .unregisterChrdevRegion]⟩ := by
    simp only [pcdDriverInit, region, failed]
  rw [run]
  refine ⟨⟨code, rfl, rfl⟩, ?_⟩
  constructor <;> simp [once, heldAfter, Held.after, nothingHeld]

theorem init_sound_iff (n : Nat) (env : InitEnv) :
    LoadSound n (pcdDriverInit n env) ↔ LoopSucceeds n env := by
  constructor
  · intro sound region made
    refine Classical.byContradiction fun fails => ?_
    have some_fails : ∃ i < n, ¬ (env.cdevAdd i = none ∧ env.deviceCreate i = none) := by
      simpa using fails
    obtain ⟨k, code, last, stops, ends⟩ := init_stops region made some_fails
    rw [stops] at sound
    rcases sound with loaded | rolled
    · exact absurd loaded.ret (negative_ne_zero code.property)
    · exact stops_unbalanced ends rolled.back
  · intro succeeds
    cases region : env.allocChrdevRegion with
    | some code => exact .inr (init_no_region region)
    | none =>
      cases made : env.classCreate with
      | some code => exact .inr (init_no_class region made)
      | none => exact .inl (init_loaded region made (succeeds region made))

/-- Two devices, of which the `cdev_add` of the second fails: its device is destroyed and
its cdev deleted, though it had neither. -/
theorem init_second_fails :
    (pcdDriverInit 2 ⟨none, none, fun i => if i = 1 then some ⟨-ENOMEM, by decide⟩ else none,
      fun _ => none⟩).calls =
      [.allocChrdevRegion none, .classCreate none, .cdevAdd 0 none, .deviceCreate 0 none,
        .cdevAdd 1 (some ⟨-ENOMEM, by decide⟩), .deviceDestroy 1, .cdevDel 1,
        .deviceDestroy 0, .cdevDel 0, .classDestroy, .unregisterChrdevRegion] ∧
    ¬ LoadSound 2 (pcdDriverInit 2
      ⟨none, none, fun i => if i = 1 then some ⟨-ENOMEM, by decide⟩ else none, fun _ => none⟩) := by
  refine ⟨rfl, ?_⟩
  rintro (loaded | rolled)
  · exact absurd loaded.ret (by decide)
  · exact absurd (rolled.back.cdevs 1) (by decide)

end Init

end MadDriver.Bus.PcdN

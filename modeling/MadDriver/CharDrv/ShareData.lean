import MadDriver.Core.Sscanf
import MadDriver.Core.Transition

/-! The attribute `share_data` of char_drv, which the two interrupts set too. -/
namespace MadDriver.CharDrv
open Kernel Transition

def testShareDataShow (shareData : Int32) : List UInt8 := formatInt shareData.toInt ++ [ascii '\n']

/-- `share_data` behind the scan, which may take nothing, and the count. -/
def testShareDataStore (shareData : Int32) (buf : List UInt8) : Int32 × Int64 :=
  ((sscanfD (cString buf)).getD shareData, .ofNat buf.length)

def ledBlueInterrupt : Int32 := 100

def ledRedInterrupt : Int32 := 200

inductive Shared where
  | blue
  | red
  | stores (buf : List UInt8)
  | shows (text : List UInt8)

inductive ShareStep (shareData : Int32) : Shared → Int32 → Prop where
  | blue : ShareStep shareData .blue ledBlueInterrupt
  | red : ShareStep shareData .red ledRedInterrupt
  | stores {buf : List UInt8} :
      ShareStep shareData (.stores buf) (testShareDataStore shareData buf).1
  | shows : ShareStep shareData (.shows (testShareDataShow shareData)) shareData

def Shared.Sets : Shared → Int32 → Prop
  | .blue, x => x = 100
  | .red, x => x = 200
  | .stores buf, x => ∃ n, Numeral (cString buf) n ∧ x = Int32.ofInt n
  | .shows _, _ => False

def LastSet (hist : List Shared) (x : Int32) : Prop :=
  (∃ before e after, hist = before ++ e :: after ∧ e.Sets x ∧ ∀ e' ∈ after, ∀ y, ¬ e'.Sets y) ∨
    (x = 0 ∧ ∀ e ∈ hist, ∀ y, ¬ e.Sets y)

theorem lastSet_sets {hist : List Shared} {e : Shared} {x : Int32} (sets : e.Sets x) :
    LastSet (hist ++ [e]) x :=
  .inl ⟨hist, e, [], rfl, sets, nofun⟩

theorem lastSet_keeps {hist : List Shared} {e : Shared} {x : Int32} (last : LastSet hist x)
    (keeps : ∀ y, ¬ e.Sets y) : LastSet (hist ++ [e]) x := by
  have snoc : ∀ {l : List Shared}, (∀ e' ∈ l, ∀ y, ¬ e'.Sets y) →
      ∀ e' ∈ l ++ [e], ∀ y, ¬ e'.Sets y := by
    intro l before e' member
    rcases List.mem_append.mp member with earlier | now
    · exact before e' earlier
    · cases List.mem_singleton.mp now
      exact keeps
  rcases last with ⟨before, e', after, rfl, sets, quiet⟩ | ⟨rfl, quiet⟩
  · exact .inl ⟨before, e', after ++ [e], by simp, sets, snoc quiet⟩
  · exact .inr ⟨rfl, snoc quiet⟩

theorem shareStep_last {hist : List Shared} {e : Shared} {x y : Int32} (last : LastSet hist x)
    (step : ShareStep x e y) : LastSet (hist ++ [e]) y := by
  cases step with
  | blue => exact lastSet_sets rfl
  | red => exact lastSet_sets rfl
  | shows => exact lastSet_keeps last fun _ => id
  | @stores buf =>
    cases taken : sscanfD (cString buf) with
    | some y =>
      rw [testShareDataStore, taken]
      exact lastSet_sets (sscanfD_iff.mp taken)
    | none =>
      rw [testShareDataStore, taken]
      refine lastSet_keeps last fun y numeral => ?_
      rw [sscanfD_iff.mpr numeral] at taken
      cases taken

theorem show_store (x y : Int32) : (testShareDataStore y (testShareDataShow x)).1 = x := by
  have nulFree : 0 ∉ testShareDataShow x := by
    intro member
    rcases List.mem_append.mp member with digit | newline
    · rcases formatInt_chars digit with minus | ⟨low, _⟩
      · cases minus
      · exact absurd low (by decide)
    · cases List.mem_singleton.mp newline
  rw [testShareDataStore, cString_of_nulFree nulFree, testShareDataShow,
    sscanfD_formatInt x fun c head => by cases head; rfl]
  rfl

/-- Any stores, reads and interrupts: what is shown is the number set last, and a text that
was shown, stored at any later time, sets the number it was shown for. -/
theorem share_data_run {hist : List Shared} {x : Int32} (run : Run ShareStep 0 hist x) :
    LastSet hist x ∧
    (∀ before text, before ++ [.shows text] <+: hist → ∃ y, LastSet before y ∧
      text = formatInt y.toInt ++ [ascii '\n'] ∧
      ∀ z, ShareStep x (.stores text) z → z = y) := by
  have seen : LastSet hist x ∧ ∀ before text, before ++ [.shows text] <+: hist →
      ∃ y, LastSet before y ∧ text = testShareDataShow y := by
    refine run_history (fun hist x => LastSet hist x ∧ ∀ before text,
      before ++ [.shows text] <+: hist → ∃ y, LastSet before y ∧ text = testShareDataShow y)
      ⟨.inr ⟨rfl, nofun⟩, fun before text short => ?_⟩ ?_ run
    · have sizes := short.length_le
      simp at sizes
    · intro hist x e y _ ⟨last, shown⟩ step
      refine ⟨shareStep_last last step, fun before text seen => ?_⟩
      rcases List.prefix_concat_iff.mp seen with now | earlier
      · obtain ⟨rfl, same⟩ := List.append_inj' now rfl
        cases (List.cons.inj same).1
        cases step
        exact ⟨x, last, rfl⟩
      · exact shown before text earlier
  refine ⟨seen.1, fun before text here => ?_⟩
  obtain ⟨y, last, rfl⟩ := seen.2 before text here
  refine ⟨y, last, rfl, fun z step => ?_⟩
  cases step
  exact show_store y x

/-- The blue interrupt, a read, a -7 from the user, and the text of the read again. -/
theorem share_data_run_blue : ∃ y, LastSet [.blue] y ∧
    testShareDataShow 100 = formatInt y.toInt ++ [ascii '\n'] ∧
    ∀ z, ShareStep (testShareDataStore 100 [0x2D, 0x37]).1 (.stores (testShareDataShow 100)) z →
      z = y := by
  have interrupted : Run ShareStep 0 [.blue] 100 := Run.start.snoc .blue
  have shown : Run ShareStep 0 [.blue, .shows (testShareDataShow 100)] 100 :=
    interrupted.snoc .shows
  have stored : Run ShareStep 0
      [.blue, .shows (testShareDataShow 100), .stores [0x2D, 0x37]] _ := shown.snoc .stores
  exact (share_data_run stored).2 [.blue] _ ⟨[.stores [0x2D, 0x37]], rfl⟩

end MadDriver.CharDrv

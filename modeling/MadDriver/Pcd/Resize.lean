import MadDriver.Pcd.Frame
import MadDriver.Pcd.Sysfs

/-! Bounds of the resizable device: they hold as long as every stored size is one
the device can take at that moment, and they break with the first that is not. -/
namespace MadDriver.Pcd.Sysfs
open Kernel Transition Function Table

section Bounds

variable {D F : Type} [DecidableEq D] [DecidableEq F]

structure ResizeHolds (σ : System PcdevPrivateData D F) : Prop where
  sizes : ∀ d dev, σ.devs d = some dev →
    0 ≤ dev.pdata.size.toInt ∧ dev.pdata.size.toInt ≤ dev.buffer.length
  positions : ∀ f file, σ.files f = some file → ∃ dev, σ.devs file.dev = some dev ∧
    0 ≤ file.fPos.toInt ∧ file.fPos.toInt ≤ dev.pdata.size.toInt
  copies : ∀ f file dev (count : Count), σ.files f = some file → σ.devs file.dev = some dev →
    Inside dev.buffer.length file.fPos (adjustCount dev.pdata.size file.fPos count.val)

/-- Devices as their probe left them, and no open file. -/
structure Probed (σ : System PcdevPrivateData D F) : Prop where
  devices : ∀ d dev, σ.devs d = some dev →
    ∃ pdata devNum, newPrivateData true pdata devNum = some dev
  files : ∀ f, σ.files f = none

omit [DecidableEq D] [DecidableEq F] in
theorem unprobed_probed : Probed (unprobed : System PcdevPrivateData D F) where
  devices _ _ device := nomatch device
  files _ := rfl

/-- A string that does not parse, or a number whose value as an `int` is not
negative, gets its memory, and is not below the position of an open file. -/
def StoreSafe (σ : System PcdevPrivateData D F) (d : D) (grant : HeapGrant)
    (buf : List UInt8) : Prop :=
  ∀ dev, σ.devs d = some dev → ∀ result, kstrtol (cString buf) 10 = .ok result →
    0 ≤ result.toInt32.toInt ∧ (grant = none → result.toInt32.toInt = 0) ∧
    ∀ f file, σ.files f = some file → file.dev = d →
      file.fPos.toInt ≤ result.toInt32.toInt

def SysfsOp.Safe (σ : System PcdevPrivateData D F) : SysfsOp D F → Prop
  | .storeMaxSize d grant buf => StoreSafe σ d grant buf
  | _ => True

omit [DecidableEq D] [DecidableEq F] in
theorem newPrivateData_covered {granted : Bool} {pdata : PcdevPlatformData} {devNum : Int}
    {dev : PcdevPrivateData} (made : newPrivateData granted pdata devNum = some dev) :
    0 ≤ dev.pdata.size.toInt ∧ dev.buffer = List.replicate dev.pdata.size.toInt.toNat 0 := by
  unfold newPrivateData devmKzalloc at made
  split at made
  · rename_i allocated
    cases made
    have fits : pdata.size.toInt64.toUInt64.toNat < 2 ^ 63 := allocated.2
    have low := pdata.size.le_toInt
    have high := pdata.size.toInt_lt
    have value := CInt.toNat_size pdata.size
    have nonneg : 0 ≤ pdata.size.toInt := by omega
    exact ⟨nonneg, by rw [CInt.toNat_size_of_nonneg nonneg]⟩
  · cases made

omit [DecidableEq D] [DecidableEq F] in
theorem probed_placed {σ : System PcdevPrivateData D F} (start : Probed σ) :
    WellPlaced driver σ where
  covered d dev device := by
    obtain ⟨pdata, devNum, made⟩ := start.devices d dev device
    obtain ⟨nonneg, buffer⟩ := newPrivateData_covered made
    have length : dev.buffer.length = dev.pdata.size.toInt.toNat := by
      rw [buffer, List.length_replicate]
    exact ⟨nonneg, by change dev.pdata.size.toInt ≤ dev.buffer.length; omega⟩
  opened f _ opened := nomatch (start.files f).symm.trans opened

omit [DecidableEq D] [DecidableEq F] in
theorem placed_holds {σ : System PcdevPrivateData D F} (placed : WellPlaced driver σ) :
    ResizeHolds σ where
  sizes := placed.covered
  positions := placed.opened
  copies f file dev count opened device := by
    have position := placed.placed opened device
    exact span_inside position (adjustCount_span position.nonneg position.within count.property)

omit [DecidableEq F] in
theorem probe_placed {σ : System PcdevPrivateData D F} (placed : WellPlaced driver σ) (d : D)
    (granted : Bool) (pdata : PcdevPlatformData) (devNum : Int) :
    WellPlaced driver (probeDevice σ d granted pdata devNum).1 := by
  unfold probeDevice
  split
  · exact placed
  · exact placed
  · rename_i dev unbound made
    obtain ⟨nonneg, buffer⟩ := newPrivateData_covered made
    have length : dev.buffer.length = dev.pdata.size.toInt.toNat := by
      rw [buffer, List.length_replicate]
    constructor
    · intro g other device
      obtain ⟨_, rfl⟩ | ⟨_, found⟩ := update_some_iff.mp device
      · exact ⟨nonneg, by change dev.pdata.size.toInt ≤ dev.buffer.length; omega⟩
      · exact placed.covered g other found
    · intro f file opened
      obtain ⟨other, device, bounds⟩ := placed.opened f file opened
      have own : file.dev ≠ d := by
        intro same
        rw [same, unbound] at device
        cases device
      exact ⟨other, update_some_iff.mpr (.inr ⟨own, device⟩), bounds⟩

omit [DecidableEq F] in
theorem placed_update_iff {σ : System PcdevPrivateData D F} (placed : WellPlaced driver σ) (d : D)
    (dev : PcdevPrivateData) :
    WellPlaced driver { σ with devs := update σ.devs d (some dev) } ↔
      0 ≤ dev.pdata.size.toInt ∧ dev.pdata.size.toInt ≤ dev.buffer.length ∧
      ∀ f file, σ.files f = some file → file.dev = d →
        file.fPos.toInt ≤ dev.pdata.size.toInt := by
  constructor
  · intro after
    obtain ⟨low, high⟩ := after.covered d dev (update_some_iff.mpr (.inl ⟨rfl, rfl⟩))
    refine ⟨low, high, ?_⟩
    intro f file opened own
    obtain ⟨other, device, _, within⟩ := after.opened f file opened
    obtain ⟨_, rfl⟩ | ⟨apart, _⟩ := update_some_iff.mp device
    · exact within
    · exact absurd own apart
  · rintro ⟨low, high, above⟩
    constructor
    · intro g other device
      obtain ⟨_, rfl⟩ | ⟨_, found⟩ := update_some_iff.mp device
      · exact ⟨low, high⟩
      · exact placed.covered g other found
    · intro f file opened
      obtain ⟨other, device, start, stop⟩ := placed.opened f file opened
      by_cases own : file.dev = d
      · exact ⟨dev, update_some_iff.mpr (.inl ⟨own, rfl⟩), start, above f file opened own⟩
      · exact ⟨other, update_some_iff.mpr (.inr ⟨own, device⟩), start, stop⟩

omit [DecidableEq D] [DecidableEq F] in
theorem resized_covered_iff {size : Int32} (nonneg : 0 ≤ size.toInt) (grant : HeapGrant)
    (buffer : List UInt8) :
    size.toInt ≤ (krealloc grant buffer size.toInt64.toUInt64).length ↔
      (grant = none → size.toInt = 0) := by
  cases grant with
  | none =>
    have empty : (krealloc none buffer size.toInt64.toUInt64).length = 0 := rfl
    rw [empty]
    constructor
    · intro room _
      omega
    · intro zero
      have value := zero rfl
      omega
  | some heap =>
    have value := CInt.toNat_size_of_nonneg nonneg
    rw [length_krealloc (size_allocatable nonneg)]
    constructor
    · intro _ missing
      cases missing
    · intro _
      omega

omit [DecidableEq F] in
/-- Exactly the safe stores keep the files well placed. -/
theorem store_placed_iff {σ : System PcdevPrivateData D F} (placed : WellPlaced driver σ) (d : D)
    (grant : HeapGrant) (buf : List UInt8) :
    WellPlaced driver (storeAttribute σ d grant buf).1 ↔ StoreSafe σ d grant buf := by
  cases device : σ.devs d with
  | none =>
    have unchanged : (storeAttribute σ d grant buf).1 = σ := by simp [storeAttribute, device]
    rw [unchanged]
    refine ⟨fun _ dev found => ?_, fun _ => placed⟩
    rw [device] at found
    cases found
  | some dev =>
    cases parsed : kstrtol (cString buf) 10 with
    | error ret =>
      have same : update σ.devs d (some dev) = σ.devs := by rw [← device, update_eq_self]
      have unchanged : (storeAttribute σ d grant buf).1 = σ := by
        simp [storeAttribute, device, storeMaxSize, parsed, same]
      rw [unchanged]
      refine ⟨fun _ _ _ result number => ?_, fun _ => placed⟩
      rw [parsed] at number
      cases number
    | ok result =>
      have stored : (storeAttribute σ d grant buf).1 =
          { σ with devs := update σ.devs d (some { dev with
              pdata := { dev.pdata with size := result.toInt32 }
              buffer := krealloc grant dev.buffer result.toInt32.toInt64.toUInt64 }) } := by
        simp only [storeAttribute, device, storeMaxSize, parsed]
      rw [stored]
      refine (placed_update_iff placed d _).trans ?_
      constructor
      · rintro ⟨low, high, above⟩ _ _ other number
        cases parsed.symm.trans number
        exact ⟨low, (resized_covered_iff low grant _).mp high, above⟩
      · intro safe
        obtain ⟨low, memory, above⟩ := safe dev device result parsed
        exact ⟨low, (resized_covered_iff low grant _).mpr memory, above⟩

theorem step_placed {σ σ' : System PcdevPrivateData D F} {e : SysfsEvent D F}
    (placed : WellPlaced driver σ) (safe : e.op.Safe σ) (step : SysfsStep σ e σ') :
    WellPlaced driver σ' := by
  obtain ⟨op, seen, reply⟩ := e
  obtain ⟨done, _⟩ := step
  cases op with
  | file op => exact effect_placed conforms placed (done_effect conforms placed done)
  | probe d granted pdata devNum =>
    have result : (probeDevice σ d granted pdata devNum).1 = σ' :=
      congrArg Prod.fst (Outcome.done.inj done)
    exact result ▸ probe_placed placed d granted pdata devNum
  | storeMaxSize d grant buf =>
    have result : (storeAttribute σ d grant buf).1 = σ' :=
      congrArg Prod.fst (Outcome.done.inj done)
    exact result ▸ (store_placed_iff placed d grant buf).mpr safe

/-- In a run whose stores are all safe the bounds hold in every state. -/
theorem resize_bounds {σ₀ σ : System PcdevPrivateData D F} {hist : List (SysfsEvent D F)}
    (start : Probed σ₀) (run : Run (Guarded SysfsStep fun σ e => e.op.Safe σ) σ₀ hist σ) :
    ResizeHolds σ :=
  placed_holds (run_invariant (WellPlaced driver) (probed_placed start)
    (fun _ _ _ placed step => step_placed placed step.2 step.1) run)

end Bounds

def seekThree : List (SysfsEvent Unit Unit) :=
  [⟨.probe () true ⟨4, RDWR, "PCDEV1"⟩ 0, none, ⟨0, []⟩⟩,
   ⟨.file (.openFile () () 3), none, ⟨0, []⟩⟩,
   ⟨.file (.lseek () 3 SEEK_SET), some ⟨(), 3, 0⟩, ⟨3, []⟩⟩]

def sought (size : Int32) (buffer : List UInt8) : System PcdevPrivateData Unit Unit where
  devs _ := some ⟨⟨size, RDWR, "PCDEV1"⟩, buffer, 0⟩
  files _ := some ⟨(), 3, 3⟩

/-- Growing the device to eight bytes is safe. -/
theorem resize_bounds_grow : ResizeHolds (sought 8 [0, 0, 0, 0, 170, 170, 170, 170]) := by
  have safe : (SysfsOp.storeMaxSize () (some fun _ => 170) [56, 10] :
      SysfsOp Unit Unit).Safe (sought 4 [0, 0, 0, 0]) := by
    intro dev _ result number
    cases (show Except.ok 8 = .ok result from number)
    refine ⟨by decide, nofun, ?_⟩
    intro f file opened _
    cases opened
    decide
  have run : Run (Guarded SysfsStep fun σ e => e.op.Safe σ) unprobed (seekThree ++
      [⟨.storeMaxSize () (some fun _ => 170) [56, 10], none, ⟨2, []⟩⟩])
      (sought 8 [0, 0, 0, 0, 170, 170, 170, 170]) :=
    .snoc (.snoc (.snoc (.snoc .start ⟨⟨rfl, rfl⟩, trivial⟩) ⟨⟨rfl, rfl⟩, trivial⟩)
      ⟨⟨rfl, rfl⟩, trivial⟩) ⟨⟨rfl, rfl⟩, safe⟩
  exact resize_bounds unprobed_probed run

/-- Shrinking it to two bytes leaves the file outside, and the next read copies
from there on. -/
theorem shrink_outside : ∃ σ,
    Run SysfsStep unprobed (seekThree ++
      [⟨.storeMaxSize () (some fun _ => 170) [50, 10], none, ⟨2, []⟩⟩]) σ ∧
    ¬ ResizeHolds σ ∧ sysfsStep σ (.file (.read () .full ⟨8, by decide⟩)) = .wild := by
  refine ⟨sought 2 [0, 0], ?_, ?_, rfl⟩
  · exact .snoc (.snoc (.snoc (.snoc .start ⟨rfl, rfl⟩) ⟨rfl, rfl⟩) ⟨rfl, rfl⟩) ⟨rfl, rfl⟩
  · intro holds
    obtain ⟨dev, device, _, within⟩ := holds.positions () _ rfl
    cases device
    exact absurd within (by decide)

end MadDriver.Pcd.Sysfs

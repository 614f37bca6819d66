import Mathlib.Data.List.Nodup
import MadDriver.Bus.Registry
import MadDriver.Core.Transition

/-! The books of the platform drivers: the counter and the two registries list
exactly the bound devices, as long as every probe either registers a device in
full or leaves the registry as it was. -/
namespace MadDriver.Bus
open Kernel Pcd Transition

variable {D : Type}

def Binding.cdev (b : Binding D) : Cdev D := ⟨b.dev, b.data.devNum⟩

def Binding.classDevice (base : Int) (b : Binding D) : ClassDevice :=
  ⟨b.data.devNum - base, b.data.devNum⟩

/-- One count, one cdev and one class device for each bound device, in the order
of their probes, and nothing else. -/
structure BooksKept (s : BusState D) : Prop where
  total : s.registry.totalDevices = s.bound.length
  cdevs : s.registry.cdevs = s.bound.map Binding.cdev
  classDevices : s.registry.classDevices =
    s.bound.map (Binding.classDevice s.registry.deviceNumBase)
  devices : (s.bound.map Binding.dev).Nodup
  numbers : (s.bound.map fun b => b.data.devNum).Nodup

theorem init_books {allocChrdevRegion : Except ErrPtr Int} {classCreate : Option ErrPtr}
    {r : Registry D} (loaded : pcdPlatformDriverInit allocChrdevRegion classCreate = .ok r) :
    BooksKept ⟨r, []⟩ := by
  unfold pcdPlatformDriverInit at loaded
  split at loaded <;> cases loaded
  exact ⟨rfl, rfl, rfl, List.nodup_nil, List.nodup_nil⟩

theorem newPrivateData_devNum {granted : Bool} {pdata : PcdevPlatformData} {devNum : Int}
    {dev : PcdevPrivateData} (made : newPrivateData granted pdata devNum = some dev) :
    dev.devNum = devNum := by
  obtain ⟨buffer, _, rfl⟩ := Option.map_eq_some_iff.mp made
  rfl

theorem eraseP_congr {α : Type} {p q : α → Bool} {l : List α} (same : ∀ x ∈ l, p x = q x) :
    l.eraseP p = l.eraseP q := by
  induction l with
  | nil => rfl
  | cons x l ih =>
    have here := same x List.mem_cons_self
    have rest := ih fun y member => same y (List.mem_cons_of_mem x member)
    rw [List.eraseP_cons, List.eraseP_cons, here, rest]

variable [DecidableEq D]

omit [DecidableEq D] in
theorem deviceCreate_ok {r r' : Registry D} {device : ClassDevice} {failure : Option ErrPtr} :
    r.deviceCreate device failure = .ok r' ↔
      failure = none ∧ (∀ other ∈ r.classDevices, other.number ≠ device.number) ∧
      r' = { r with classDevices := r.classDevices ++ [device] } := by
  unfold Registry.deviceCreate
  cases failure with
  | some code => simp
  | none =>
    by_cases taken : ∃ other ∈ r.classDevices, other.number = device.number
    · simp only [if_pos taken, reduceCtorEq, true_and, false_iff, not_and]
      obtain ⟨other, member, same⟩ := taken
      exact fun free _ => free other member same
    · simp only [if_neg taken, Except.ok.injEq, true_and]
      constructor
      · rintro rfl
        exact ⟨fun other member same => taken ⟨other, member, same⟩, rfl⟩
      · exact fun complete => complete.2.symm

theorem registerDevice_ok {r r' : Registry D} {d : D} {number : Int} {pdata : PcdevPlatformData}
    {env : ProbeEnv} {devData : PcdevPrivateData} :
    registerDevice r d number pdata env = (r', .ok devData) ↔
      env.kzallocData = true ∧
      newPrivateData env.kzallocBuffer pdata (r.deviceNumBase + number) = some devData ∧
      ¬ env.cdevAdd < 0 ∧ env.deviceCreate = none ∧
      (∀ device ∈ r.classDevices, device.number ≠ number) ∧
      r' = { r with
        totalDevices := r.totalDevices + 1
        cdevs := r.cdevs ++ [⟨d, devData.devNum⟩]
        classDevices := r.classDevices ++ [⟨number, devData.devNum⟩] } := by
  unfold registerDevice
  cases env.kzallocData with
  | false => simp
  | true =>
    cases newPrivateData env.kzallocBuffer pdata (r.deviceNumBase + number) with
    | none => simp
    | some made =>
      by_cases failed : env.cdevAdd < 0
      · simp [failed]
      · simp only [Bool.true_eq_false, if_false, if_neg failed]
        cases created : (r.cdevAdd ⟨d, made.devNum⟩).deviceCreate ⟨number, made.devNum⟩
            env.deviceCreate with
        | error code =>
          simp only [Prod.mk.injEq, reduceCtorEq, and_false, Option.some.injEq, true_and, false_iff]
          rintro ⟨rfl, _, success, free, _⟩
          cases created.symm.trans (deviceCreate_ok.mpr ⟨success, free, rfl⟩)
        | ok registered =>
          obtain ⟨success, free, rfl⟩ := deviceCreate_ok.mp created
          simp only [Prod.mk.injEq, Except.ok.injEq, Option.some.injEq, success, true_and]
          constructor
          · rintro ⟨rfl, rfl⟩
            exact ⟨rfl, failed, free, rfl⟩
          · rintro ⟨rfl, _, _, rfl⟩
            exact ⟨rfl, rfl⟩

theorem registerDevice_error {r r' : Registry D} {d : D} {number : Int}
    {pdata : PcdevPlatformData} {env : ProbeEnv} {ret : Int64}
    (fresh : ∀ cdev ∈ r.cdevs, cdev.owner ≠ d)
    (failed : registerDevice r d number pdata env = (r', .error ret)) : r' = r := by
  unfold registerDevice at failed
  split at failed
  · cases failed
    rfl
  · split at failed
    · cases failed
      rfl
    · rename_i devData _
      split at failed
      · cases failed
        rfl
      · simp only at failed
        split at failed
        · cases failed
          have absent : (⟨d, devData.devNum⟩ : Cdev D) ∉ r.cdevs :=
            fun member => fresh _ member rfl
          simp [Registry.cdevDel, Registry.cdevAdd, List.erase_append_right _ absent]
        · cases failed

theorem unbound_iff {s : BusState D} {d : D} :
    s.bound.find? (fun b => b.dev = d) = none ↔ ∀ b ∈ s.bound, b.dev ≠ d := by
  simp

theorem books_fresh {s : BusState D} (books : BooksKept s) {d : D}
    (unbound : s.bound.find? (fun b => b.dev = d) = none) :
    ∀ cdev ∈ s.registry.cdevs, cdev.owner ≠ d := by
  rw [books.cdevs]
  intro cdev member
  obtain ⟨b, bound, rfl⟩ := List.mem_map.mp member
  exact unbound_iff.mp unbound b bound

theorem books_registered {s : BusState D} (books : BooksKept s) {d : D} {number : Int}
    {devData : PcdevPrivateData}
    (unbound : s.bound.find? (fun b => b.dev = d) = none)
    (devNum : devData.devNum = s.registry.deviceNumBase + number)
    (free : ∀ device ∈ s.registry.classDevices, device.number ≠ number) :
    BooksKept ⟨{ s.registry with
      totalDevices := s.registry.totalDevices + 1
      cdevs := s.registry.cdevs ++ [⟨d, devData.devNum⟩]
      classDevices := s.registry.classDevices ++ [⟨number, devData.devNum⟩] },
      s.bound ++ [⟨d, devData⟩]⟩ where
  total := by simp [books.total]
  cdevs := by simp [books.cdevs, Binding.cdev]
  classDevices := by
    have back : s.registry.deviceNumBase + number - s.registry.deviceNumBase = number := by omega
    simp [books.classDevices, Binding.classDevice, devNum, back]
  devices := by
    rw [List.map_append, List.nodup_append]
    refine ⟨books.devices, by simp, ?_⟩
    intro dev member other same
    obtain ⟨b, bound, rfl⟩ := List.mem_map.mp member
    cases List.mem_singleton.mp same
    exact unbound_iff.mp unbound b bound
  numbers := by
    rw [List.map_append, List.nodup_append]
    refine ⟨books.numbers, by simp, ?_⟩
    intro n member other same equal
    obtain ⟨b, bound, rfl⟩ := List.mem_map.mp member
    cases List.mem_singleton.mp same
    have listed : b.classDevice s.registry.deviceNumBase ∈ s.registry.classDevices := by
      rw [books.classDevices]
      exact List.mem_map_of_mem bound
    have distinct : b.data.devNum - s.registry.deviceNumBase ≠ number := free _ listed
    simp only at equal
    omega

theorem books_removed {s : BusState D} (books : BooksKept s) {d : D} {b : Binding D}
    (found : s.bound.find? (fun b => b.dev = d) = some b) :
    BooksKept ⟨removeDevice s.registry d b.data, s.bound.eraseP (fun b => b.dev = d)⟩ := by
  have bound : b ∈ s.bound := List.mem_of_find?_eq_some found
  have own : b.dev = d := by simpa using List.find?_some found
  have byDevice : ∀ x ∈ s.bound, x.dev = d ↔ x = b := by
    intro x member
    constructor
    · intro same
      exact List.inj_on_of_nodup_map books.devices member bound (same.trans own.symm)
    · rintro rfl
      exact own
  have byNumber : ∀ x ∈ s.bound, x.data.devNum = b.data.devNum ↔ x = b := by
    intro x member
    constructor
    · exact List.inj_on_of_nodup_map books.numbers member bound
    · rintro rfl
      rfl
  have kept : List.Sublist (s.bound.eraseP fun b => b.dev = d) s.bound := List.eraseP_sublist
  constructor
  · have shorter : (s.bound.eraseP fun b => b.dev = d).length = s.bound.length - 1 :=
      List.length_eraseP_of_mem bound (by simpa using own)
    have total := books.total
    have positive : 0 < s.bound.length := List.length_pos_of_mem bound
    simp only [removeDevice, Registry.cdevDel, Registry.deviceDestroy, shorter]
    omega
  · simp only [removeDevice, Registry.cdevDel, Registry.deviceDestroy, books.cdevs]
    rw [List.erase_eq_eraseP, List.eraseP_map]
    congr 1
    apply eraseP_congr
    intro x member
    have device := byDevice x member
    rw [Bool.eq_iff_iff]
    simp only [Function.comp_apply, beq_iff_eq, decide_eq_true_eq, Binding.cdev, Cdev.mk.injEq]
    constructor
    · exact fun same => same.1.symm
    · intro same
      rw [device.mp same]
      exact ⟨own.symm, rfl⟩
  · simp only [removeDevice, Registry.cdevDel, Registry.deviceDestroy, books.classDevices]
    rw [List.eraseP_map]
    congr 1
    apply eraseP_congr
    intro x member
    have device := byDevice x member
    have number := byNumber x member
    rw [Bool.eq_iff_iff]
    simp only [Function.comp_apply, decide_eq_true_eq, Binding.classDevice]
    exact decide_eq_true_iff.trans (number.trans device.symm)
  · exact (kept.map Binding.dev).nodup books.devices
  · exact (kept.map fun b => b.data.devNum).nodup books.numbers

/-- A probe that fails and leaves the registry, or does one registration. -/
def Atomic (r : Registry D) (d : D) (result : ProbeResult D) : Prop :=
  (∃ ret, result = (r, .error ret)) ∨
  ∃ number pdata env, result = registerDevice r d number pdata env

theorem atomic_cases {r : Registry D} {d : D} {result : ProbeResult D}
    (atomic : Atomic r d result) (fresh : ∀ cdev ∈ r.cdevs, cdev.owner ≠ d) :
    (∃ ret, result = (r, .error ret)) ∨
    ∃ number devData, devData.devNum = r.deviceNumBase + number ∧
      (∀ device ∈ r.classDevices, device.number ≠ number) ∧
      result = ({ r with
        totalDevices := r.totalDevices + 1
        cdevs := r.cdevs ++ [⟨d, devData.devNum⟩]
        classDevices := r.classDevices ++ [⟨number, devData.devNum⟩] }, .ok devData) := by
  rcases atomic with failed | ⟨number, pdata, env, rfl⟩
  · exact .inl failed
  · cases registered : registerDevice r d number pdata env with
    | mk r' answer =>
      cases answer with
      | error ret =>
        cases registerDevice_error fresh registered
        exact .inl ⟨ret, rfl⟩
      | ok devData =>
        obtain ⟨_, made, _, _, free, rfl⟩ := registerDevice_ok.mp registered
        exact .inr ⟨number, devData, newPrivateData_devNum made, free, rfl⟩

theorem atomic_step {drv : PlatformDriver D} {s s' : BusState D} {e : BusEvent D}
    (removes : ∀ r d devData, drv.remove r d devData = removeDevice r d devData)
    (atomic : ∀ d id env, e.op = .probe d id env →
      Atomic s.registry d (drv.probe s.registry d id env))
    (books : BooksKept s) (step : BusStep drv s e s') :
    BooksKept s' ∧ (e.ret ≠ 0 → s' = s) := by
  obtain ⟨op, ret⟩ := e
  cases op with
  | remove d =>
    simp only [BusStep, busStep] at step
    split at step
    · cases step
    · rename_i b found
      cases step
      rw [removes]
      exact ⟨books_removed books found, fun failed => absurd rfl failed⟩
  | probe d id env =>
    simp only [BusStep, busStep] at step
    cases unbound : s.bound.find? (fun b => b.dev = d) with
    | some b => simp [unbound] at step
    | none =>
      rcases atomic_cases (atomic d id env rfl) (books_fresh books unbound) with
        ⟨code, result⟩ | ⟨number, devData, devNum, free, result⟩
      · simp only [unbound, result] at step
        cases step
        exact ⟨books, fun _ => rfl⟩
      · simp only [unbound, result] at step
        cases step
        exact ⟨books_registered books unbound devNum free, fun failed => absurd rfl failed⟩

/- Drivers 004 and 005. -/
inductive TwoStepDriver where
  | platform | platformDt

def TwoStepDriver.driver (D : Type) [DecidableEq D] : TwoStepDriver → PlatformDriver D
  | .platform => Platform.pcdPlatformDriver
  | .platformDt => PlatformDt.pcdPlatformDriver

theorem TwoStepDriver.atomic (k : TwoStepDriver) (r : Registry D) (d : D) (id : Int32)
    (env : ProbeEnv) : Atomic r d ((k.driver D).probe r d id env) := by
  cases k with
  | platform =>
    change Atomic r d (Platform.pcdPlatformDriverProbe r d id env)
    unfold Platform.pcdPlatformDriverProbe
    split
    · exact .inl ⟨_, rfl⟩
    · exact .inr ⟨_, _, _, rfl⟩
  | platformDt =>
    change Atomic r d (PlatformDt.pcdPlatformDriverProbe r d id env)
    unfold PlatformDt.pcdPlatformDriverProbe
    split
    · exact .inl ⟨_, rfl⟩
    · exact .inl ⟨_, rfl⟩
    · exact .inr ⟨_, _, _, rfl⟩

theorem TwoStepDriver.step (k : TwoStepDriver) {s s' : BusState D} {e : BusEvent D}
    (books : BooksKept s) (step : BusStep (k.driver D) s e s') :
    BooksKept s' ∧ (e.ret ≠ 0 → s' = s) := by
  refine atomic_step ?_ (fun d id env _ => k.atomic s.registry d id env) books step
  cases k <;> exact fun _ _ _ => rfl

/-- Whatever fails and whenever, in every state between calls the books are kept,
and a probe that fails leaves them as they are. -/
theorem books_always_kept (k : TwoStepDriver) {allocChrdevRegion : Except ErrPtr Int}
    {classCreate : Option ErrPtr} {r : Registry D}
    (loaded : pcdPlatformDriverInit allocChrdevRegion classCreate = .ok r) {s : BusState D}
    {hist : List (BusEvent D)} (run : Run (BusStep (k.driver D)) ⟨r, []⟩ hist s) :
    BooksKept s ∧ ∀ e s', BusStep (k.driver D) s e s' → e.ret ≠ 0 → s' = s := by
  have books := run_invariant BooksKept (init_books loaded)
    (fun _ _ _ books step => (k.step books step).1) run
  exact ⟨books, fun _ _ step => (k.step books step).2⟩

def loadedRegistry : Registry Bool := ⟨0, 100, (100, MAX_DEVICES), [], []⟩

theorem loadedRegistry_init :
    pcdPlatformDriverInit (.ok 100) none = .ok loadedRegistry := rfl

def allGranted : ProbeEnv := ⟨false, none, some ⟨4, RDWR, "PCDEV1"⟩, true, true, true, 0, none, 0⟩

def oneBound : BusState Bool :=
  ⟨⟨1, 100, (100, MAX_DEVICES), [⟨true, 100⟩], [⟨0, 100⟩]⟩,
    [⟨true, ⟨⟨4, RDWR, "PCDEV1"⟩, [0, 0, 0, 0], 100⟩⟩]⟩

def boundAgain : List (BusEvent Bool) :=
  [⟨.probe true 0 allGranted, 0⟩, ⟨.remove true, 0⟩, ⟨.probe true 0 allGranted, 0⟩,
    ⟨.probe false 0 { allGranted with kzallocBuffer := false }, -ENOMEM⟩]

theorem boundAgain_run (k : TwoStepDriver) :
    Run (BusStep (k.driver Bool)) ⟨loadedRegistry, []⟩ boundAgain oneBound := by
  have probes : BusStep (k.driver Bool) ⟨loadedRegistry, []⟩ ⟨.probe true 0 allGranted, 0⟩
      oneBound := by cases k <;> rfl
  have removes : BusStep (k.driver Bool) oneBound ⟨.remove true, 0⟩ ⟨loadedRegistry, []⟩ := by
    cases k <;> rfl
  have fails : BusStep (k.driver Bool) oneBound
      ⟨.probe false 0 { allGranted with kzallocBuffer := false }, -ENOMEM⟩ oneBound := by
    cases k <;> rfl
  exact .snoc (.snoc (.snoc (.snoc .start probes) removes) probes) fails

theorem books_always_kept_each :
    (Run (BusStep (TwoStepDriver.platform.driver Bool)) ⟨loadedRegistry, []⟩ boundAgain
        oneBound ∧ BooksKept oneBound) ∧
      Run (BusStep (TwoStepDriver.platformDt.driver Bool)) ⟨loadedRegistry, []⟩ boundAgain
        oneBound ∧ BooksKept oneBound :=
  ⟨⟨boundAgain_run .platform,
      (books_always_kept .platform loadedRegistry_init (boundAgain_run .platform)).1⟩,
    boundAgain_run .platformDt,
    (books_always_kept .platformDt loadedRegistry_init (boundAgain_run .platformDt)).1⟩

end MadDriver.Bus

import MadDriver.Bus.Books

/-! Driver 006 creates its attributes after it has counted the device. A failure
there is the one that the probe does not undo in full. -/
namespace MadDriver.Bus
open Kernel Pcd Transition

variable {D : Type}

structure GroupReached (r : Registry D) (env : ProbeEnv) : Prop where
  platdata : ∃ pdata, findPlatdata env = .ok (some pdata) ∧
    (newPrivateData env.kzallocBuffer pdata (r.deviceNumBase + pickNumber r)).isSome
  kzallocData : env.kzallocData = true
  cdevAdd : ¬ env.cdevAdd < 0
  deviceCreate : env.deviceCreate = none
  name : ∀ device ∈ r.classDevices, device.number ≠ pickNumber r

def GroupCreated (s : BusState D) : BusOp D → Prop
  | .probe _ _ env => GroupReached s.registry env → env.sysfsCreateGroup = 0
  | .remove _ => True

variable [DecidableEq D]

theorem reached_iff {r : Registry D} (d : D) {env : ProbeEnv} :
    GroupReached r env ↔ ∃ pdata r' devData, findPlatdata env = .ok (some pdata) ∧
      registerDevice r d (pickNumber r) pdata env = (r', .ok devData) := by
  constructor
  · rintro ⟨⟨pdata, found, allocated⟩, kzallocData, cdevAdd, deviceCreate, name⟩
    obtain ⟨devData, made⟩ := Option.isSome_iff_exists.mp allocated
    exact ⟨pdata, _, devData, found,
      registerDevice_ok.mpr ⟨kzallocData, made, cdevAdd, deviceCreate, name, rfl⟩⟩
  · rintro ⟨pdata, r', devData, found, registered⟩
    obtain ⟨kzallocData, made, cdevAdd, deviceCreate, name, _⟩ := registerDevice_ok.mp registered
    exact ⟨⟨pdata, found, by rw [made]; rfl⟩, kzallocData, cdevAdd, deviceCreate, name⟩

theorem sysfs_atomic {r : Registry D} (d : D) (id : Int32) {env : ProbeEnv}
    (created : GroupReached r env → env.sysfsCreateGroup = 0) :
    Atomic r d (Sysfs.pcdPlatformDriverProbe r d id env) := by
  unfold Sysfs.pcdPlatformDriverProbe
  split
  · exact .inl ⟨_, rfl⟩
  · exact .inl ⟨_, rfl⟩
  · rename_i pdata found
    split
    · rename_i r' ret failed
      exact .inr ⟨_, _, _, failed.symm⟩
    · rename_i r' devData registered
      have reached := (reached_iff d).mpr ⟨pdata, r', devData, found, registered⟩
      rw [if_neg (not_not.mpr (created reached))]
      exact .inr ⟨_, _, _, registered.symm⟩

theorem created_step {s s' : BusState D} {e : BusEvent D} (books : BooksKept s)
    (created : GroupCreated s e.op) (step : BusStep Sysfs.pcdPlatformDriver s e s') :
    BooksKept s' ∧ (e.ret ≠ 0 → s' = s) := by
  refine atomic_step (fun _ _ _ => rfl) ?_ books step
  intro d id env call
  exact sysfs_atomic d id fun reached => by
    rw [call] at created
    exact created reached

/-- The condition is exact: a group that is not created leaves the device counted. -/
theorem sysfs_step_iff {s s' : BusState D} {e : BusEvent D} (books : BooksKept s)
    (step : BusStep Sysfs.pcdPlatformDriver s e s') :
    (BooksKept s' ∧ (e.ret ≠ 0 → s' = s)) ↔ GroupCreated s e.op := by
  refine ⟨fun kept => ?_, fun created => created_step books created step⟩
  obtain ⟨op, ret⟩ := e
  cases op with
  | remove d => trivial
  | probe d id env =>
    intro reached
    by_contra failed
    obtain ⟨pdata, r', devData, found, registered⟩ := (reached_iff d).mp reached
    simp only [BusStep, busStep, Sysfs.pcdPlatformDriver, Sysfs.pcdPlatformDriverProbe, found,
      registered, if_pos failed] at step
    cases unbound : s.bound.find? (fun b => b.dev = d) with
    | some b => simp [unbound] at step
    | none =>
      simp only [unbound] at step
      cases step
      obtain ⟨_, _, _, _, _, rfl⟩ := registerDevice_ok.mp registered
      have counted := kept.1.total
      have before := books.total
      simp only [Registry.deviceDestroy] at counted
      omega

/-- In every run in which no call of `sysfs_create_group` fails the books are kept. -/
theorem books_kept_with_groups {allocChrdevRegion : Except ErrPtr Int}
    {classCreate : Option ErrPtr} {r : Registry D}
    (loaded : pcdPlatformDriverInit allocChrdevRegion classCreate = .ok r) {s : BusState D}
    {hist : List (BusEvent D)}
    (run : Run (Guarded (BusStep Sysfs.pcdPlatformDriver) fun s e => GroupCreated s e.op)
      ⟨r, []⟩ hist s) :
    BooksKept s ∧ ∀ e s', BusStep Sysfs.pcdPlatformDriver s e s' → GroupCreated s e.op →
      e.ret ≠ 0 → s' = s := by
  have books := run_invariant BooksKept (init_books loaded)
    (fun _ _ _ books step => (created_step books step.2 step.1).1) run
  exact ⟨books, fun _ _ step created => (created_step books created step).2⟩

theorem books_kept_with_groups_once : BooksKept oneBound := by
  have run : Run (Guarded (BusStep Sysfs.pcdPlatformDriver) fun s e => GroupCreated s e.op)
      ⟨loadedRegistry, []⟩ [⟨.probe true 0 allGranted, 0⟩] oneBound :=
    .snoc .start ⟨rfl, fun _ => rfl⟩
  exact (books_kept_with_groups loadedRegistry_init run).1

/-- A failed probe leaves the count and the cdev of a device that is not bound. -/
theorem failed_group_counts : ∃ s : BusState Bool,
    Run (BusStep Sysfs.pcdPlatformDriver) ⟨loadedRegistry, []⟩
      [⟨.probe true 0 { allGranted with sysfsCreateGroup := -ENOMEM }, -ENOMEM⟩] s ∧
    s.bound.length = 0 ∧ s.registry.totalDevices = 1 ∧ s.registry.cdevs = [⟨true, 100⟩] ∧
    ¬ BooksKept s := by
  refine ⟨_, .snoc .start rfl, rfl, rfl, rfl, fun books => ?_⟩
  exact absurd books.total (by decide)

end MadDriver.Bus

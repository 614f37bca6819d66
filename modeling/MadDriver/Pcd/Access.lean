import MadDriver.Pcd.Drivers
import MadDriver.Pcd.Frame

/-! The permission checked at open time, over whole runs: a read-only device keeps
its contents, and no answer carries bytes of a write-only device. -/
namespace MadDriver.Pcd
open Kernel Transition Function

theorem permitted_cases {devPerm : Int32} {accMode : UInt32}
    (permitted : checkPermission devPerm accMode = 0) :
    devPerm = RDWR ∨
    (devPerm = RDONLY ∧ accMode &&& FMODE_READ ≠ 0 ∧ accMode &&& FMODE_WRITE = 0) ∨
    (devPerm = WRONLY ∧ accMode &&& FMODE_WRITE ≠ 0 ∧ accMode &&& FMODE_READ = 0) := by
  unfold checkPermission at permitted
  split at permitted
  · rename_i rdwr
    exact .inl rdwr
  · split at permitted
    · rename_i rdonly
      exact .inr (.inl rdonly)
    · split at permitted
      · rename_i wronly
        exact .inr (.inr wronly)
      · exact absurd permitted (by decide)

theorem readonly_unwritable {accMode : UInt32} (permitted : checkPermission RDONLY accMode = 0) :
    accMode &&& FMODE_WRITE ≠ FMODE_WRITE := by
  rcases permitted_cases permitted with wrong | ⟨_, _, unset⟩ | ⟨wrong, _⟩
  · exact absurd wrong (by decide)
  · rw [unset]
    decide
  · exact absurd wrong (by decide)

theorem writeonly_unreadable {accMode : UInt32} (permitted : checkPermission WRONLY accMode = 0) :
    accMode &&& FMODE_READ ≠ FMODE_READ := by
  rcases permitted_cases permitted with wrong | ⟨wrong, _⟩ | ⟨_, _, unset⟩
  · exact absurd wrong (by decide)
  · exact absurd wrong (by decide)
  · rw [unset]
    decide

section Runs

variable (drv : Driver) {D F : Type} [DecidableEq D] [DecidableEq F]

/-- Devices of any perm and any contents, covered by their buffers; no file is open. -/
structure Closed (σ : System drv.Data D F) : Prop where
  covered : ∀ d dev, σ.devs d = some dev →
    0 ≤ (drv.maxSize dev).toInt ∧ (drv.maxSize dev).toInt ≤ (drv.buffer dev).length
  files : ∀ f, σ.files f = none

structure Checked (σ₀ σ : System drv.Data D F) : Prop where
  placed : WellPlaced drv σ
  permitted : ∀ f file dev, σ.files f = some file → σ.devs file.dev = some dev →
    checkPermission (drv.perm dev) file.fMode = 0
  kept : ∀ d dev₀, σ₀.devs d = some dev₀ → ∃ dev, σ.devs d = some dev ∧
    drv.perm dev = drv.perm dev₀ ∧ (drv.perm dev₀ = RDONLY → drv.buffer dev = drv.buffer dev₀)

variable {drv}

omit [DecidableEq D] [DecidableEq F] in
theorem closed_checked {σ : System drv.Data D F} (start : Closed drv σ) : Checked drv σ σ where
  placed := ⟨start.covered, fun f _ opened => nomatch (start.files f).symm.trans opened⟩
  permitted f _ _ opened _ := nomatch (start.files f).symm.trans opened
  kept _ dev device := ⟨dev, device, rfl, fun _ => rfl⟩

theorem step_checked (conf : Conforms drv) {σ₀ σ σ' : System drv.Data D F} {e : Event D F}
    (checked : Checked drv σ₀ σ) (step : Step drv σ e σ') : Checked drv σ₀ σ' := by
  obtain ⟨op, seen, reply⟩ := e
  have effect := done_effect conf checked.placed step.1
  refine ⟨effect_placed conf checked.placed effect, ?_, ?_⟩
  · intro g file' dev' opened' device'
    obtain ⟨dev, device, change⟩ := effect_device effect device'
    rw [(device_step_fields conf change).2]
    rcases effect_file effect opened' with ⟨file, opened, same, mode⟩ | ⟨other, _, found, permitted⟩
    · rw [same] at device
      rw [mode]
      exact checked.permitted g file dev opened device
    · cases Option.some.inj (device.symm.trans found)
      exact permitted
  · intro d dev₀ device₀
    obtain ⟨dev, device, perm, contents⟩ := checked.kept d dev₀ device₀
    obtain ⟨dev', device', _⟩ := effect_device_kept conf effect device
    obtain ⟨other, found, change⟩ := effect_device effect device'
    cases Option.some.inj (device.symm.trans found)
    refine ⟨dev', device', (device_step_fields conf change).2.trans perm, ?_⟩
    intro rdonly
    cases change with
    | same => exact contents rdonly
    | patched opened own writable _ =>
      subst own
      have permitted := checked.permitted _ _ _ opened device
      rw [perm, rdonly] at permitted
      exact absurd writable (readonly_unwritable permitted)

theorem run_checked (conf : Conforms drv) {σ₀ σ : System drv.Data D F} {hist : List (Event D F)}
    (start : Closed drv σ₀) (run : Run (Step drv) σ₀ hist σ) : Checked drv σ₀ σ :=
  run_invariant (Checked drv σ₀) (closed_checked start)
    (fun _ _ _ checked step => step_checked conf checked step) run

/-- Every byte an answer carries comes from the file's own device, and not from a
write-only one. -/
theorem checked_answer (conf : Conforms drv) {σ₀ σ σ' : System drv.Data D F} {op : Op D F}
    {reply : Reply} (checked : Checked drv σ₀ σ)
    (done : vfsStep drv.fops σ op = .done (σ', reply)) (carries : reply.out ≠ []) :
    ∃ file dev n, σ.files op.handle = some file ∧ σ.devs file.dev = some dev ∧
      drv.perm dev ≠ WRONLY ∧
      reply.out = Bytes.slice (drv.buffer dev) file.fPos.toInt.toNat n := by
  cases done_effect conf checked.placed done with
  | refused _ _ | unreadable _ | opened _ _ _ | released | sought _ _ _ _
  | stored _ _ _ _ _ _ _ | storeFault _ _ _ _ _ => exact absurd rfl carries
  | fetched opened mode device _ _ _ _ | fetchFault opened mode device _ _ =>
    refine ⟨_, _, _, opened, device, ?_, rfl⟩
    intro wronly
    have permitted := checked.permitted _ _ _ opened device
    rw [wronly] at permitted
    exact writeonly_unreadable permitted mode

end Runs

end MadDriver.Pcd

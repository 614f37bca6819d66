import MadDriver.Core.Kernel
import MadDriver.Core.Resources
import MadDriver.Core.Transition

/-! pci_drv: what probe and remove acquire and release for each device, and what is left
of it in runs over any number of devices. Line 18 is one for all of them. -/
namespace MadDriver.Pci
open Kernel Resources Transition Function

inductive Resource where
  | enable | region | priv | mapping | vectors | handler
  deriving Repr, DecidableEq

abbrev Calls := List (Call Resource)

structure ProbeEnv where
  pciEnableDeviceMem : Option ErrCode
  pciRequestRegion : Option ErrCode
  kzalloc : Bool
  ioremap : Bool
  pciAllocIrqVectors : Option ErrCode
  requestThreadedIrq : Option ErrCode

structure MyDriverPriv where
  hwmem : Bool
  deriving Repr, DecidableEq

structure ProbeResult where
  ret : Int64
  calls : Calls
  drvdata : Option MyDriverPriv

/-- `free_irq`, `pci_release_region` and `pci_disable_device`, whatever there is. -/
def releaseDevice : Calls := [.released .handler, .released .region, .released .enable]

def setInterrupts (env : ProbeEnv) : Int64 × Calls :=
  match env.pciAllocIrqVectors with
  | some ret => (ret.val, [.failed .vectors])
  | none =>
    match env.requestThreadedIrq with
    | some ret => (ret.val, [.acquired .vectors, .failed .handler])
    | none => (0, [.acquired .vectors, .acquired .handler])

def myDriverProbe (env : ProbeEnv) : ProbeResult :=
  match env.pciEnableDeviceMem with
  | some err => ⟨err.val, [.failed .enable], none⟩
  | none =>
    match env.pciRequestRegion with
    | some err => ⟨err.val, [.acquired .enable, .failed .region, .released .enable], none⟩
    | none =>
      if env.kzalloc = false then
        ⟨-ENOMEM, [.acquired .enable, .acquired .region, .failed .priv] ++ releaseDevice, none⟩
      else if env.ioremap = false then
        ⟨- Kernel.EIO, [.acquired .enable, .acquired .region, .acquired .priv, .failed .mapping] ++
          releaseDevice, none⟩
      else
        let calls := [.acquired .enable, .acquired .region, .acquired .priv, .acquired .mapping]
        -- pci_set_drvdata, and what pci_get_drvdata gives back
        let drvdata : Option MyDriverPriv := some ⟨true⟩
        match drvdata with
        | none => ⟨-1, calls, drvdata⟩
        | some _ =>
          let (ret, more) := setInterrupts env
          ⟨ret, calls ++ more, drvdata⟩

def myDriverRemove (drvdata : Option MyDriverPriv) : Calls :=
  let own : Calls := match drvdata with
    | none => []
    | some drvPriv =>
      (if drvPriv.hwmem then [.released .mapping] else []) ++
        [.released .vectors, .released .priv]
  own ++ releaseDevice

structure Device where
  held : Resource → Nat
  drvdata : Option MyDriverPriv
  bound : Option Calls

def idle : Device := ⟨nothing, none, none⟩

abbrev State (D : Type) := D → Device

section Core

variable {D : Type}

def loaded : State D := fun _ => idle

inductive Event (D : Type) where
  | probe (d : D) (before : Device) (env : ProbeEnv)
  | remove (d : D) (before : Device)

def Device.probed (device : Device) (env : ProbeEnv) : Device :=
  let r := myDriverProbe env
  { held := holds device.held r.calls
    drvdata := if r.ret = 0 then r.drvdata else none
    bound := if r.ret = 0 then some r.calls else none }

def Device.removed (device : Device) : Device :=
  ⟨holds device.held (myDriverRemove device.drvdata), none, none⟩

/-- Line 18 is refused while a device has its handler on it. -/
def IrqFree (s : State D) : Prop := ∀ d, (s d).held .handler = 0

variable [DecidableEq D]

inductive Step (s : State D) : Event D → State D → Prop where
  | probe {d : D} {env : ProbeEnv} :
      (s d).bound = none → (env.requestThreadedIrq = none → IrqFree s) →
      Step s (.probe d (s d) env) (update s d ((s d).probed env))
  | remove {d : D} {calls : Calls} :
      (s d).bound = some calls → Step s (.remove d (s d)) (update s d (s d).removed)

end Core

structure ProbeRight (before : Device) (env : ProbeEnv) : Prop where
  legit : Legit before.held (myDriverProbe env).calls
  failed : (myDriverProbe env).ret ≠ 0 → (before.probed env).held = nothing

structure RemoveRight (before : Device) : Prop where
  legit : Legit before.held (myDriverRemove before.drvdata)
  once : ∀ calls, before.bound = some calls → ∀ r, .acquired r ∈ calls →
    (myDriverRemove before.drvdata).count (.released r) = 1
  rest : before.removed.held = nothing

def Event.Right {D : Type} : Event D → Prop
  | .probe _ before env => ProbeRight before env
  | .remove _ before => RemoveRight before

/-- Once the device is enabled and its region taken, no other call fails. -/
def ProbeEnv.Granted (env : ProbeEnv) : Prop :=
  env.pciEnableDeviceMem = none → env.pciRequestRegion = none →
    env.kzalloc = true ∧ env.ioremap = true ∧
      env.pciAllocIrqVectors = none ∧ env.requestThreadedIrq = none

def Event.Granted {D : Type} : Event D → Prop
  | .probe _ _ env => env.Granted
  | .remove _ _ => True

def everything : List Resource := [.enable, .region, .priv, .mapping, .vectors, .handler]

def whole : Device := ⟨fun _ => 1, some ⟨true⟩, some (everything.map .acquired)⟩

theorem everything_once (r : Resource) : everything.count r = 1 := by
  cases r <;> rfl

theorem holds_everything : holds nothing (everything.map Call.acquired) = fun _ => 1 := by
  ext r
  rw [holds_of_no_release nothing (by simp) r, count_acquired, everything_once]
  rfl

section Probe

variable {env : ProbeEnv}

theorem probe_whole (enabled : env.pciEnableDeviceMem = none)
    (region : env.pciRequestRegion = none) (granted : env.Granted) :
    ProbeRight idle env ∧ idle.probed env = whole := by
  obtain ⟨priv, mapping, vectors, handler⟩ := granted enabled region
  have probe : myDriverProbe env = ⟨0, everything.map .acquired, some ⟨true⟩⟩ := by
    simp [myDriverProbe, setInterrupts, enabled, region, priv, mapping, vectors, handler,
      everything]
  refine ⟨⟨?_, ?_⟩, ?_⟩
  · rw [probe]
    exact legit_of_no_release _ (by simp)
  · rw [probe]
    exact absurd rfl
  · simp only [Device.probed, probe, idle, if_true, holds_everything]
    rfl

theorem probe_refused (refused : env.pciEnableDeviceMem = none → env.pciRequestRegion ≠ none) :
    ProbeRight idle env ∧ idle.probed env = idle := by
  have undone : ∃ code : ErrCode, (myDriverProbe env).ret = code.val ∧
      ((myDriverProbe env).calls = [.failed .enable] ∨
        (myDriverProbe env).calls = [.acquired .enable, .failed .region, .released .enable]) := by
    cases enabled : env.pciEnableDeviceMem with
    | some err =>
      refine ⟨err, ?_⟩
      simp [myDriverProbe, enabled]
    | none =>
      cases region : env.pciRequestRegion with
      | some err =>
        refine ⟨err, ?_⟩
        simp [myDriverProbe, enabled, region]
      | none => exact absurd region (refused enabled)
  obtain ⟨code, ret, calls⟩ := undone
  have legit : Legit nothing (myDriverProbe env).calls := by
    rcases calls with failed | unwound
    · rw [failed]
      decide
    · rw [unwound]
      decide
  have held : holds nothing (myDriverProbe env).calls = nothing := by
    ext r
    rcases calls with failed | unwound
    · rw [failed]
      rfl
    · rw [unwound]
      cases r <;> rfl
  have error : (myDriverProbe env).ret ≠ 0 := by
    rw [ret]
    exact negative_ne_zero code.property
  refine ⟨⟨legit, fun _ => held⟩, ?_⟩
  simp only [Device.probed, idle, held, if_neg error]

/-- The exits behind the region: the first two release a handler that was never
requested, the other two release nothing. -/
theorem probe_leaks (failed : ¬ env.Granted) : ¬ ProbeRight idle env := by
  obtain ⟨enabled, behind⟩ := Classical.not_imp.mp failed
  obtain ⟨region, _⟩ := Classical.not_imp.mp behind
  intro right
  have legit : Legit nothing (myDriverProbe env).calls := right.legit
  have left : (myDriverProbe env).ret ≠ 0 → holds nothing (myDriverProbe env).calls = nothing :=
    right.failed
  cases priv : env.kzalloc with
  | false =>
    simp only [myDriverProbe, enabled, region, priv, if_true] at legit
    exact absurd legit (by decide)
  | true =>
    cases mapping : env.ioremap with
    | false =>
      simp only [myDriverProbe, enabled, region, priv, mapping, Bool.true_eq_false, if_false,
        if_true] at legit
      exact absurd legit (by decide)
    | true =>
      cases vectors : env.pciAllocIrqVectors with
      | some err =>
        simp only [myDriverProbe, setInterrupts, enabled, region, priv, mapping, vectors,
          Bool.true_eq_false, if_false] at left
        exact absurd (congrFun (left (negative_ne_zero err.property)) .region) (by decide)
      | none =>
        cases handler : env.requestThreadedIrq with
        | some err =>
          simp only [myDriverProbe, setInterrupts, enabled, region, priv, mapping, vectors,
            handler, Bool.true_eq_false, if_false] at left
          exact absurd (congrFun (left (negative_ne_zero err.property)) .region) (by decide)
        | none => exact failed fun _ _ => ⟨priv, mapping, vectors, handler⟩

theorem probe_granted (granted : env.Granted) :
    ProbeRight idle env ∧ (idle.probed env = idle ∨ idle.probed env = whole) := by
  by_cases refused : env.pciEnableDeviceMem = none → env.pciRequestRegion ≠ none
  · obtain ⟨right, same⟩ := probe_refused refused
    exact ⟨right, .inl same⟩
  · obtain ⟨enabled, taken⟩ := Classical.not_imp.mp refused
    obtain ⟨right, bound⟩ := probe_whole enabled (Classical.not_not.mp taken) granted
    exact ⟨right, .inr bound⟩

end Probe

theorem remove_whole : RemoveRight whole ∧ whole.removed = idle := by
  let back : List Resource := [.mapping, .vectors, .priv, .handler, .region, .enable]
  have calls : myDriverRemove whole.drvdata = back.map .released := rfl
  have once : ∀ r, back.count r = 1 := by
    intro r
    cases r <;> rfl
  obtain ⟨legit, held⟩ := releases_all whole.held (l := back) fun r => (once r).symm
  have removed : whole.removed = idle := by
    rw [Device.removed, calls, held]
    rfl
  refine ⟨⟨?_, ?_, ?_⟩, removed⟩
  · rw [calls]
    exact legit
  · intro _ _ r _
    rw [calls, count_released, once]
  · rw [removed]
    rfl

section Runs

variable {D : Type} [DecidableEq D]

def Settled (s : State D) : Prop := ∀ d, s d = idle ∨ s d = whole

theorem settled_update {s : State D} (settled : Settled s) {d : D} {device : Device}
    (after : device = idle ∨ device = whole) : Settled (update s d device) := by
  intro other
  by_cases here : other = d
  · subst here
    rwa [update_self]
  · rw [update_of_ne here]
    exact settled other

omit [DecidableEq D] in
theorem unbound_idle {s : State D} (settled : Settled s) {d : D} (unbound : (s d).bound = none) :
    s d = idle := by
  rcases settled d with idle | bound
  · exact idle
  · rw [bound] at unbound
    cases unbound

omit [DecidableEq D] in
theorem bound_whole {s : State D} (settled : Settled s) {d : D} {calls : Calls}
    (bound : (s d).bound = some calls) : s d = whole := by
  rcases settled d with idle | whole
  · rw [idle] at bound
    cases bound
  · exact whole

theorem step_right {s t : State D} {e : Event D} (settled : Settled s) (step : Step s e t) :
    e.Right ↔ e.Granted := by
  cases step with
  | probe unbound _ =>
    rw [unbound_idle settled unbound]
    refine ⟨fun right => ?_, fun granted => (probe_granted granted).1⟩
    exact Classical.byContradiction fun failed => probe_leaks failed right
  | remove bound =>
    rw [bound_whole settled bound]
    exact iff_of_true remove_whole.1 trivial

theorem step_settled {s t : State D} {e : Event D} (settled : Settled s) (step : Step s e t)
    (granted : e.Granted) : Settled t := by
  cases step with
  | probe unbound _ =>
    refine settled_update settled ?_
    rw [unbound_idle settled unbound]
    exact (probe_granted granted).2
  | remove bound =>
    refine settled_update settled ?_
    rw [bound_whole settled bound]
    exact .inl remove_whole.2

/-- Every run over any devices, with any calls that fail. -/
theorem books_kept_iff {events : List (Event D)} {s : State D} (run : Run Step loaded events s) :
    (∀ e ∈ events, e.Right) ↔ ∀ e ∈ events, e.Granted :=
  run_right_iff Settled Event.Right Event.Granted (fun _ => .inl rfl)
    (fun _ _ _ settled step => step_right settled step)
    (fun _ _ _ settled step granted => step_settled settled step granted) run

end Runs

def granted : ProbeEnv := ⟨none, none, true, true, none, none⟩

theorem one_probed : Run Step (loaded : State Bool) [.probe false idle granted]
    (update loaded false (idle.probed granted)) :=
  .snoc .start (.probe rfl fun _ _ => rfl)

theorem books_kept_two_devices : ∃ s, Run Step (loaded : State Bool)
      [.probe false idle granted, .remove false (idle.probed granted), .probe true idle granted] s ∧
    ∀ e ∈ [Event.probe false idle granted, .remove false (idle.probed granted),
      .probe true idle granted], e.Right := by
  have second := Run.snoc one_probed (.remove (d := false) rfl)
  have third : Run Step _ _ _ :=
    .snoc second (.probe (d := true) rfl fun (_ : granted.requestThreadedIrq = none) d => by
      cases d <;> rfl)
  refine ⟨_, third, (books_kept_iff third).mpr ?_⟩
  simp [Event.Granted, ProbeEnv.Granted, granted]

def irqTaken : ProbeEnv := { granted with requestThreadedIrq := some ⟨-EBUSY, by decide⟩ }

/-- The second device is refused line 18, which the first one has: its probe fails, and its enable,
region, private data, mapping and vectors stay. -/
theorem second_device_leaks : ∃ s, Run Step (loaded : State Bool)
      [.probe false idle granted, .probe true idle irqTaken] s ∧
    ¬ ∀ e ∈ [Event.probe false idle granted, .probe true idle irqTaken], e.Right := by
  refine ⟨_, .snoc one_probed (.probe rfl fun free => by cases free), ?_⟩
  intro right
  have second : ProbeRight idle irqTaken := right (.probe true idle irqTaken) (by simp)
  have left := second.failed (by decide)
  exact absurd (congrFun left .region) (by decide)

end MadDriver.Pci

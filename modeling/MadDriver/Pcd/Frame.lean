import MadDriver.Pcd.Effect

/-! What a call leaves alone, what it keeps, and that well placed files stay so. -/
namespace MadDriver.Pcd
open Kernel Function Table

variable {drv : Driver} {D F : Type} [DecidableEq D] [DecidableEq F]

/-- What a call does to the device under a name: nothing, or an overwrite inside
it through a file open for writing. -/
inductive DeviceStep (σ : System drv.Data D F) (d : D) (dev : drv.Data) :
    Op D F → drv.Data → Prop where
  | same {op : Op D F} : DeviceStep σ d dev op dev
  | patched {f : F} {user : UserAccess} {buff : UserBytes} {file : OpenFile D}
      {left : List UInt8} : σ.files f = some file → file.dev = d →
      file.fMode &&& FMODE_WRITE = FMODE_WRITE →
      left.length ≤ span (drv.maxSize dev) file.fPos buff.count →
      DeviceStep σ d dev (.write f user buff)
        (drv.setBuffer dev (Bytes.patch (drv.buffer dev) file.fPos.toInt.toNat left))

theorem leave_devs_same {σ : System drv.Data D F} {f : F} {file : OpenFile D}
    {dev : drv.Data} (device : σ.devs file.dev = some dev) (fPos : Int64) :
    (σ.leave f file dev fPos).devs = σ.devs := by
  rw [System.leave, ← device, update_eq_self]

theorem effect_device {σ σ' : System drv.Data D F} {op : Op D F} {reply : Reply}
    (effect : Effect drv σ op σ' reply) {d : D} {dev' : drv.Data}
    (device : σ'.devs d = some dev') :
    ∃ dev, σ.devs d = some dev ∧ DeviceStep σ d dev op dev' := by
  cases effect with
  | refused _ _ => exact ⟨dev', device, .same⟩
  | unreadable _ => exact ⟨dev', device, .same⟩
  | opened _ _ _ => exact ⟨dev', device, .same⟩
  | released => exact ⟨dev', device, .same⟩
  | fetchFault _ _ _ _ _ => exact ⟨dev', device, .same⟩
  | sought _ found _ _ =>
    rw [leave_devs_same found] at device
    exact ⟨dev', device, .same⟩
  | fetched _ _ found _ _ _ _ =>
    rw [leave_devs_same found] at device
    exact ⟨dev', device, .same⟩
  | @stored f user buff file dev n ret fPos opened mode found len whole value moved =>
    rcases update_some_iff.mp device with ⟨rfl, rfl⟩ | ⟨_, there⟩
    · refine ⟨dev, found, .patched opened rfl mode ?_⟩
      rw [List.length_take, len]
      exact Nat.min_le_left _ _
    · exact ⟨dev', there, .same⟩
  | @storeFault f user buff file dev left opened mode found short faulty =>
    rcases update_some_iff.mp device with ⟨rfl, rfl⟩ | ⟨_, there⟩
    · exact ⟨dev, found, .patched opened rfl mode short⟩
    · exact ⟨dev', there, .same⟩

theorem effect_keeps_device {σ σ' : System drv.Data D F} {op : Op D F} {reply : Reply}
    (effect : Effect drv σ op σ' reply) {d : D} (other : ∀ file,
      σ.files op.handle = some file → file.dev ≠ d) : σ'.devs d = σ.devs d := by
  cases effect with
  | refused _ _ | unreadable _ | opened _ _ _ | released | fetchFault _ _ _ _ _ => rfl
  | sought _ found _ _ => rw [leave_devs_same found]
  | fetched _ _ found _ _ _ _ => rw [leave_devs_same found]
  | stored opened _ _ _ _ _ _ | storeFault opened _ _ _ _ =>
    simp only [System.leave, update_of_ne (other _ opened).symm]

theorem effect_keeps_file {σ σ' : System drv.Data D F} {op : Op D F} {reply : Reply}
    (effect : Effect drv σ op σ' reply) {g : F} (other : g ≠ op.handle) :
    σ'.files g = σ.files g := by
  cases effect with
  | refused _ _ | unreadable _ | fetchFault _ _ _ _ _ => rfl
  | opened _ _ _ | released | sought _ _ _ _ | fetched _ _ _ _ _ _ _ | stored _ _ _ _ _ _ _
  | storeFault _ _ _ _ _ =>
    simp only [System.leave]
    exact update_of_ne other _ _

/-- A file open after a call was open before on the same device with the same mode,
or the call opened it. -/
theorem effect_file {σ σ' : System drv.Data D F} {op : Op D F} {reply : Reply}
    (effect : Effect drv σ op σ' reply) {g : F} {file' : OpenFile D}
    (opened' : σ'.files g = some file') :
    (∃ file, σ.files g = some file ∧ file'.dev = file.dev ∧ file'.fMode = file.fMode) ∨
    ∃ dev, op = .openFile g file'.dev file'.fMode ∧ σ.devs file'.dev = some dev ∧
      checkPermission (drv.perm dev) file'.fMode = 0 := by
  cases effect with
  | refused _ _ | unreadable _ | fetchFault _ _ _ _ _ => exact .inl ⟨file', opened', rfl, rfl⟩
  | opened closed device permitted =>
    rcases update_some_iff.mp opened' with ⟨rfl, rfl⟩ | ⟨_, before⟩
    · exact .inr ⟨_, rfl, device, permitted⟩
    · exact .inl ⟨file', before, rfl, rfl⟩
  | released =>
    rcases update_entry_iff.mp opened' with ⟨_, gone⟩ | ⟨_, before⟩
    · cases gone
    · exact .inl ⟨file', before, rfl, rfl⟩
  | sought opened _ _ _ | fetched opened _ _ _ _ _ _ | stored opened _ _ _ _ _ _
  | storeFault opened _ _ _ _ =>
    rcases update_some_iff.mp opened' with ⟨rfl, rfl⟩ | ⟨_, before⟩
    · exact .inl ⟨_, opened, rfl, rfl⟩
    · exact .inl ⟨file', before, rfl, rfl⟩

omit [DecidableEq D] [DecidableEq F] in
theorem device_step_fields (conf : Conforms drv) {σ : System drv.Data D F} {d : D}
    {dev dev' : drv.Data} {op : Op D F} (step : DeviceStep σ d dev op dev') :
    drv.maxSize dev' = drv.maxSize dev ∧ drv.perm dev' = drv.perm dev := by
  cases step with
  | same => exact ⟨rfl, rfl⟩
  | patched _ _ _ _ => exact ⟨conf.maxSize_set _ _, conf.perm_set _ _⟩

omit [DecidableEq D] [DecidableEq F] in
theorem patch_room {σ : System drv.Data D F} (placed : WellPlaced drv σ) {f : F}
    {file : OpenFile D} {dev : drv.Data} (opened : σ.files f = some file)
    (device : σ.devs file.dev = some dev) {count : UInt64} {n : Nat}
    (short : n ≤ span (drv.maxSize dev) file.fPos count) :
    file.fPos.toInt.toNat + n ≤ (drv.buffer dev).length := by
  have position := placed.placed opened device
  have stop := span_end count position.within
  have start := position.nonneg
  have room := position.room
  omega

omit [DecidableEq D] [DecidableEq F] in
theorem device_step_length (conf : Conforms drv) {σ : System drv.Data D F}
    (placed : WellPlaced drv σ) {d : D} {dev dev' : drv.Data} {op : Op D F}
    (device : σ.devs d = some dev) (step : DeviceStep σ d dev op dev') :
    (drv.buffer dev').length = (drv.buffer dev).length := by
  cases step with
  | same => rfl
  | patched opened own _ short =>
    subst own
    rw [conf.buffer_set, Bytes.length_patch (patch_room placed opened device short)]

theorem effect_covered (conf : Conforms drv) {σ σ' : System drv.Data D F} {op : Op D F}
    {reply : Reply} (placed : WellPlaced drv σ) (effect : Effect drv σ op σ' reply) (d : D)
    (dev' : drv.Data) (device' : σ'.devs d = some dev') :
    0 ≤ (drv.maxSize dev').toInt ∧ (drv.maxSize dev').toInt ≤ (drv.buffer dev').length := by
  obtain ⟨dev, device, step⟩ := effect_device effect device'
  rw [(device_step_fields conf step).1, device_step_length conf placed device step]
  exact placed.covered d dev device

theorem effect_position {σ σ' : System drv.Data D F} {op : Op D F}
    {reply : Reply} (placed : WellPlaced drv σ) (effect : Effect drv σ op σ' reply) :
    ∀ g file', σ'.files g = some file' → ∃ dev, σ.devs file'.dev = some dev ∧
      0 ≤ file'.fPos.toInt ∧ file'.fPos.toInt ≤ (drv.maxSize dev).toInt := by
  cases effect with
  | refused _ _ | unreadable _ | fetchFault _ _ _ _ _ => exact placed.opened
  | opened closed device permitted =>
    apply update_forall placed.opened
    rintro _ ⟨rfl⟩
    exact ⟨_, device, Int.le_refl 0, (placed.covered _ _ device).1⟩
  | released => exact update_forall placed.opened nofun
  | sought opened device low high =>
    apply update_forall placed.opened
    rintro _ ⟨rfl⟩
    exact ⟨_, device, low, high⟩
  | fetched opened _ device len _ _ moved | stored opened _ device len _ _ moved =>
    apply update_forall placed.opened
    rintro _ ⟨rfl⟩
    exact ⟨_, device, span_position (placed.placed opened device) len moved⟩
  | storeFault opened _ device _ _ =>
    apply update_forall placed.opened
    rintro _ ⟨rfl⟩
    have position := placed.placed opened device
    exact ⟨_, device, position.nonneg, position.within⟩

theorem effect_device_kept (conf : Conforms drv) {σ σ' : System drv.Data D F} {op : Op D F}
    {reply : Reply} (effect : Effect drv σ op σ' reply) {d : D} {dev : drv.Data}
    (device : σ.devs d = some dev) :
    ∃ dev', σ'.devs d = some dev' ∧ drv.maxSize dev' = drv.maxSize dev := by
  by_cases own : ∃ file, σ.files op.handle = some file ∧ file.dev = d
  · cases effect with
    | refused _ _ | unreadable _ | opened _ _ _ | released | fetchFault _ _ _ _ _ =>
      exact ⟨dev, device, rfl⟩
    | sought _ found _ _ => exact ⟨dev, by rw [leave_devs_same found, device], rfl⟩
    | fetched _ _ found _ _ _ _ => exact ⟨dev, by rw [leave_devs_same found, device], rfl⟩
    | stored opened _ found _ _ _ _ | storeFault opened _ found _ _ =>
      obtain ⟨file, opened', same⟩ := own
      cases Option.some.inj (opened.symm.trans opened')
      subst same
      cases Option.some.inj (device.symm.trans found)
      exact ⟨_, update_self _ _ _, conf.maxSize_set _ _⟩
  · rw [effect_keeps_device effect fun file opened same => own ⟨file, opened, same⟩]
    exact ⟨dev, device, rfl⟩

theorem effect_placed (conf : Conforms drv) {σ σ' : System drv.Data D F} {op : Op D F}
    {reply : Reply} (placed : WellPlaced drv σ) (effect : Effect drv σ op σ' reply) :
    WellPlaced drv σ' where
  covered := effect_covered conf placed effect
  opened g file' opened' := by
    obtain ⟨dev, device, low, high⟩ := effect_position placed effect g file' opened'
    obtain ⟨dev', device', size⟩ := effect_device_kept conf effect device
    exact ⟨dev', device', low, size ▸ high⟩

end MadDriver.Pcd

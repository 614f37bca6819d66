import MadDriver.Bus.Books

/-! Device numbers of the drivers that count: the number of the next device is the
number of bound ones, and nothing is taken back when a device goes. -/
namespace MadDriver.Bus
open Kernel Pcd Transition

variable {D : Type} [DecidableEq D]

inductive CountingDriver where
  | platformDt | sysfs

def CountingDriver.driver (D : Type) [DecidableEq D] : CountingDriver → PlatformDriver D
  | .platformDt => PlatformDt.pcdPlatformDriver
  | .sysfs => Sysfs.pcdPlatformDriver

/-- The bound devices, each with the number of devices that were bound when it was
probed, told by the calls alone. -/
def slotStep (slots : List (D × Nat)) (e : BusEvent D) : List (D × Nat) :=
  match e.op with
  | .probe d _ _ => slots ++ [(d, slots.length)]
  | .remove d => slots.eraseP (fun slot => slot.1 = d)

def slots (hist : List (BusEvent D)) : List (D × Nat) := hist.foldl slotStep []

/-- Fewer than MAX_DEVICES devices are bound, and none of them was probed when
exactly as many were bound as now. -/
def SlotFree (hist : List (BusEvent D)) : Prop :=
  (slots hist).length < MAX_DEVICES ∧ ∀ slot ∈ slots hist, slot.2 ≠ (slots hist).length

instance (hist : List (BusEvent D)) : Decidable (SlotFree hist) :=
  inferInstanceAs (Decidable (_ ∧ _))

@[simp] theorem slots_snoc (hist : List (BusEvent D)) (e : BusEvent D) :
    slots (hist ++ [e]) = slotStep (slots hist) e := by
  simp [slots, List.foldl_append]

structure NextNumberFree (s : BusState D) : Prop where
  fresh : ∀ b ∈ s.bound,
    b.data.devNum ≠ s.registry.deviceNumBase + pickNumber s.registry
  reserved : s.registry.region.1 ≤ s.registry.deviceNumBase + pickNumber s.registry ∧
    s.registry.deviceNumBase + pickNumber s.registry <
      s.registry.region.1 + s.registry.region.2

theorem pcdevGetPlatdataFromDt_error {env : ProbeEnv} {ret : Int64}
    (failed : pcdevGetPlatdataFromDt env = .error ret) : ret ≠ 0 := by
  unfold pcdevGetPlatdataFromDt at failed
  repeat' split at failed
  all_goals cases failed
  all_goals decide

theorem registerDevice_error_ne {r r' : Registry D} {d : D} {number : Int}
    {pdata : PcdevPlatformData} {env : ProbeEnv} {ret : Int64}
    (failed : registerDevice r d number pdata env = (r', .error ret)) : ret ≠ 0 := by
  unfold registerDevice at failed
  split at failed
  · cases failed
    decide
  · split at failed
    · cases failed
      decide
    · split at failed
      · rename_i negative
        cases failed
        exact negative_ne_zero negative
      · simp only at failed
        split at failed
        · rename_i code _
          cases failed
          exact negative_ne_zero code.property
        · cases failed

theorem findPlatdata_error {env : ProbeEnv} {ret : Int64}
    (failed : findPlatdata env = .error ret) : ret ≠ 0 := by
  unfold findPlatdata at failed
  split at failed
  · exact pcdevGetPlatdataFromDt_error failed
  · cases failed

inductive Picks (r : Registry D) : ProbeResult D → Prop where
  | failed {r' : Registry D} {ret : Int64} : ret ≠ 0 → Picks r (r', .error ret)
  | picked {r' : Registry D} {devData : PcdevPrivateData} :
      devData.devNum = r.deviceNumBase + pickNumber r →
      r'.totalDevices = r.totalDevices + 1 → r'.deviceNumBase = r.deviceNumBase →
      r'.region = r.region → Picks r (r', .ok devData)

theorem registerDevice_picks (r : Registry D) (d : D) (pdata : PcdevPlatformData)
    (env : ProbeEnv) : Picks r (registerDevice r d (pickNumber r) pdata env) := by
  cases registered : registerDevice r d (pickNumber r) pdata env with
  | mk r' answer =>
    cases answer with
    | error ret => exact .failed (registerDevice_error_ne registered)
    | ok devData =>
      obtain ⟨_, made, _, _, _, rfl⟩ := registerDevice_ok.mp registered
      exact .picked (newPrivateData_devNum made) rfl rfl rfl

theorem CountingDriver.picks (k : CountingDriver) (r : Registry D) (d : D) (id : Int32)
    (env : ProbeEnv) : Picks r ((k.driver D).probe r d id env) := by
  cases k with
  | platformDt =>
    change Picks r (PlatformDt.pcdPlatformDriverProbe r d id env)
    unfold PlatformDt.pcdPlatformDriverProbe
    split
    · rename_i failed
      exact .failed (findPlatdata_error failed)
    · exact .failed (by decide)
    · exact registerDevice_picks r d _ env
  | sysfs =>
    change Picks r (Sysfs.pcdPlatformDriverProbe r d id env)
    unfold Sysfs.pcdPlatformDriverProbe
    split
    · rename_i failed
      exact .failed (findPlatdata_error failed)
    · exact .failed (by decide)
    · rename_i pdata _
      have picks := registerDevice_picks r d pdata env
      split
      · rename_i registered
        rwa [registered] at picks
      · rename_i registered
        rw [registered] at picks
        split
        · rename_i failed
          exact .failed failed
        · exact picks

structure Slotted (hist : List (BusEvent D)) (s : BusState D) : Prop where
  total : s.registry.totalDevices = s.bound.length
  region : s.registry.region = (s.registry.deviceNumBase, MAX_DEVICES)
  numbers : s.bound.map (fun b => (b.dev, b.data.devNum)) =
    (slots hist).map (fun slot => (slot.1, s.registry.deviceNumBase + slot.2))

theorem init_slotted {allocChrdevRegion : Except ErrPtr Int} {classCreate : Option ErrPtr}
    {r : Registry D} (loaded : pcdPlatformDriverInit allocChrdevRegion classCreate = .ok r) :
    Slotted [] ⟨r, []⟩ := by
  unfold pcdPlatformDriverInit at loaded
  split at loaded <;> cases loaded
  exact ⟨rfl, rfl, rfl⟩

theorem slotted_length {hist : List (BusEvent D)} {s : BusState D} (slotted : Slotted hist s) :
    s.bound.length = (slots hist).length := by
  have lengths := congrArg List.length slotted.numbers
  rwa [List.length_map, List.length_map] at lengths

theorem slotted_step (k : CountingDriver) {hist : List (BusEvent D)} {s s' : BusState D}
    {e : BusEvent D} (slotted : Slotted hist s) (step : BusStep (k.driver D) s e s')
    (success : e.ret = 0) : Slotted (hist ++ [e]) s' := by
  have length := slotted_length slotted
  have total := slotted.total
  obtain ⟨op, ret⟩ := e
  cases success
  cases op with
  | remove d =>
    have removes : ∀ r d devData, (k.driver D).remove r d devData = removeDevice r d devData := by
      cases k <;> exact fun _ _ _ => rfl
    simp only [BusStep, busStep, removes] at step
    split at step
    · cases step
    · rename_i b found
      cases step
      have bound : b ∈ s.bound := List.mem_of_find?_eq_some found
      have own : b.dev = d := by simpa using List.find?_some found
      refine ⟨?_, slotted.region, ?_⟩
      · have shorter : (s.bound.eraseP fun b => b.dev = d).length = s.bound.length - 1 :=
          List.length_eraseP_of_mem bound (by simpa using own)
        have positive : 0 < s.bound.length := List.length_pos_of_mem bound
        simp only [removeDevice, Registry.cdevDel, Registry.deviceDestroy, shorter]
        omega
      · have erased := congrArg (List.eraseP fun p => decide (p.1 = d)) slotted.numbers
        rw [List.eraseP_map, List.eraseP_map] at erased
        rw [slots_snoc]
        exact erased
  | probe d id env =>
    simp only [BusStep, busStep] at step
    cases unbound : s.bound.find? (fun b => b.dev = d) with
    | some b => simp [unbound] at step
    | none =>
      have picks := k.picks s.registry d id env
      generalize (k.driver D).probe s.registry d id env = result at picks step
      cases picks with
      | failed nonzero =>
        simp only [unbound] at step
        cases step
        exact absurd rfl nonzero
      | picked devNum counted base region =>
        simp only [unbound] at step
        cases step
        refine ⟨?_, ?_, ?_⟩
        · simp only [counted, total, List.length_append, List.length_singleton]
          rfl
        · simp only [region, base, slotted.region]
        · simp only [slots_snoc, slotStep, List.map_append, List.map_cons, List.map_nil, base,
            slotted.numbers, devNum, pickNumber, total, length]

/-- After any calls that succeeded, the next number is free exactly when no bound
device took the same place and a place is left. -/
theorem next_number_free_iff (k : CountingDriver) {allocChrdevRegion : Except ErrPtr Int}
    {classCreate : Option ErrPtr} {r : Registry D}
    (loaded : pcdPlatformDriverInit allocChrdevRegion classCreate = .ok r) {s : BusState D}
    {hist : List (BusEvent D)}
    (run : Run (Guarded (BusStep (k.driver D)) fun _ e => e.ret = 0) ⟨r, []⟩ hist s) :
    NextNumberFree s ↔ SlotFree hist := by
  have slotted := run_history Slotted (init_slotted loaded)
    (fun _ _ _ _ _ slotted step => slotted_step k slotted step.1 step.2) run
  have length := slotted_length slotted
  have total := slotted.total
  have region := slotted.region
  constructor
  · intro free
    obtain ⟨low, high⟩ := free.reserved
    rw [region] at low high
    refine ⟨by simp only [pickNumber] at high; omega, ?_⟩
    intro slot member same
    have listed : (slot.1, s.registry.deviceNumBase + slot.2) ∈
        s.bound.map (fun b => (b.dev, b.data.devNum)) := by
      rw [slotted.numbers]
      exact List.mem_map_of_mem member
    obtain ⟨b, bound, equal⟩ := List.mem_map.mp listed
    have number : b.data.devNum = s.registry.deviceNumBase + slot.2 := congrArg Prod.snd equal
    apply free.fresh b bound
    simp only [pickNumber]
    omega
  · rintro ⟨room, apart⟩
    constructor
    · intro b bound taken
      have listed : (b.dev, b.data.devNum) ∈
          (slots hist).map (fun slot => (slot.1, s.registry.deviceNumBase + slot.2)) := by
        rw [← slotted.numbers]
        exact List.mem_map_of_mem bound
      obtain ⟨slot, member, equal⟩ := List.mem_map.mp listed
      have number : s.registry.deviceNumBase + slot.2 = b.data.devNum := congrArg Prod.snd equal
      apply apart slot member
      simp only [pickNumber] at taken
      omega
    · rw [region]
      simp only [pickNumber]
      omega

theorem next_number_free_iff_one : NextNumberFree oneBound := by
  have run : Run (Guarded (BusStep (CountingDriver.sysfs.driver Bool)) fun _ e => e.ret = 0)
      ⟨loadedRegistry, []⟩ [⟨.probe true 0 allGranted, 0⟩] oneBound :=
    .snoc .start ⟨rfl, rfl⟩
  exact (next_number_free_iff .sysfs loadedRegistry_init run).mpr (by decide)

def twoBound : BusState Bool :=
  ⟨⟨2, 100, (100, MAX_DEVICES), [⟨true, 100⟩, ⟨false, 101⟩], [⟨0, 100⟩, ⟨1, 101⟩]⟩,
    [⟨true, ⟨⟨4, RDWR, "PCDEV1"⟩, [0, 0, 0, 0], 100⟩⟩,
     ⟨false, ⟨⟨4, RDWR, "PCDEV1"⟩, [0, 0, 0, 0], 101⟩⟩]⟩

def secondLeft : BusState Bool :=
  ⟨⟨1, 100, (100, MAX_DEVICES), [⟨false, 101⟩], [⟨1, 101⟩]⟩,
    [⟨false, ⟨⟨4, RDWR, "PCDEV1"⟩, [0, 0, 0, 0], 101⟩⟩]⟩

/-- Two probes and the removal of the first device: the next number is the second's. -/
theorem remove_first_reuses_number :
    Run (Guarded (BusStep (CountingDriver.platformDt.driver Bool)) fun _ e => e.ret = 0)
      ⟨loadedRegistry, []⟩
      [⟨.probe true 0 allGranted, 0⟩, ⟨.probe false 0 allGranted, 0⟩, ⟨.remove true, 0⟩]
      secondLeft ∧ ¬ NextNumberFree secondLeft := by
  have first : BusStep (CountingDriver.platformDt.driver Bool) ⟨loadedRegistry, []⟩
      ⟨.probe true 0 allGranted, 0⟩ oneBound := rfl
  have second : BusStep (CountingDriver.platformDt.driver Bool) oneBound
      ⟨.probe false 0 allGranted, 0⟩ twoBound := rfl
  have third : BusStep (CountingDriver.platformDt.driver Bool) twoBound
      ⟨.remove true, 0⟩ secondLeft := rfl
  refine ⟨.snoc (.snoc (.snoc .start ⟨first, rfl⟩) ⟨second, rfl⟩) ⟨third, rfl⟩, fun free => ?_⟩
  exact free.fresh _ (List.mem_singleton.mpr rfl) rfl

end MadDriver.Bus

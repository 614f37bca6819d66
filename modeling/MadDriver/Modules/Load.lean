import MadDriver.Modules.Inits

/-! Which inits and exits leave the books of the kernel in order: each alone, and from them
any loads and unloads of the modules in any order. -/
namespace MadDriver.Modules
open Kernel Bus Resources Ownership Transition

def LinesGranted (a : Answers) : Prop :=
  ∀ line ∈ [299, 301],
    a.request (.gpio line) = none ∧ a.gpioToIrq line = none ∧ a.request (.irqOfGpio line) = none

/-- What init must meet to leave the books in order, whether it fails or not. -/
def Module.InitClean (a : Answers) : Module → Prop
  | .blockingDrv => a.request (.procEntry "sleep") = none
  | .intrptDrv => a.request (.procEntry "intr") = none
  | .pcdN => PcdN.LoopSucceeds NO_OF_DEVICES (pcdNEnv a)
  | .charDrv =>
    a.request (.region .charDrv) ≠ none ∨
      (∃ ret : ErrPtr, a.request (.cdev .charDrv 0) = some ret ∧ ret.val = -1 ∧
        a.request (.classDir "chardrv") = none ∧ a.request (.device .charDrv 0) = none) ∨
      ((∀ ret : ErrPtr, a.request (.cdev .charDrv 0) = some ret → ret.val ≠ -1) ∧
        a.request (.kobject "share_data") = none)
  | _ => True

def Module.ExitClean (a : Answers) : Module → Prop
  | .pcdPlatformDriver | .pcdPlatformDriverDt | .pcdPlatformDriverDtSysfs =>
    a.request pseudoCharDevice = none
  | .pcdDeviceSetup => ∀ r ∈ platformPcdevs, a.request r = none
  | .gpioSysfs => a.request boneGpioSysfs = none
  | .lcdPlatformDriver => a.request lcdSysfs = none
  | .intrptDrv => LinesGranted a
  | .charDrv => LinesGranted a ∧ a.request (.classDir "chardrv") = none ∧
      a.request (.device .charDrv 0) = none ∧ a.request (.cdev .charDrv 0) ≠ none
  | _ => True

def Clean : Op Module Answers → Prop
  | .start m a => m.InitClean a
  | .stop m a => m.ExitClean a

structure Sound (m : Module) (a : Answers) : Prop where
  init : (Op.start m a).Sound modules ↔ m.InitClean a
  exit : 0 ≤ (m.init a).2 → ((Op.stop m a).Sound modules ↔ m.ExitClean a)

theorem failed_ret (ret : ErrPtr) : ¬ 0 ≤ ret.val := Int64.not_le.mpr ret.property

section Calls

variable (a : Answers) (r r' : Resource) (line : Nat)

@[simp] theorem take_acquired : .acquired r' = a.take r ↔ r' = r ∧ a.request r = none := by
  unfold Answers.take
  cases a.request r <;> simp

@[simp] theorem take_released : .released r' ≠ a.take r := by
  unfold Answers.take
  cases a.request r <;> simp

@[simp] theorem requestIrq_acquired : .acquired r' = requestIrq a line ↔
    r' = .irqOfGpio line ∧ a.gpioToIrq line = none ∧ a.request (.irqOfGpio line) = none := by
  unfold requestIrq
  cases a.gpioToIrq line <;> simp

@[simp] theorem requestIrq_released : .released r' ≠ requestIrq a line := by
  unfold requestIrq
  cases a.gpioToIrq line <;> simp

@[simp] theorem deviceCreate_acquired : .acquired r' = CharDrv.deviceCreate a ↔
    r' = .device .charDrv 0 ∧ a.request (.classDir "chardrv") = none ∧
      a.request (.device .charDrv 0) = none := by
  unfold CharDrv.deviceCreate
  cases a.request (.classDir "chardrv") <;> simp

@[simp] theorem deviceCreate_released : .released r' ≠ CharDrv.deviceCreate a := by
  unfold CharDrv.deviceCreate
  cases a.request (.classDir "chardrv") <;> simp

@[simp] theorem cdev_irqNumber (m : Module) (i : Nat) : .cdev m i ≠ irqNumber a line := by
  unfold irqNumber
  cases a.gpioToIrq line <;> simp

end Calls

variable {m : Module} {a : Answers}

theorem climbs_sound {rungs l : List Resource} (same : rungs.Perm l)
    (start : (m.init a).1 = (climb a.request [] rungs).1)
    (ret : 0 ≤ (m.init a).2 ↔ (climb a.request [] rungs).2 = none)
    (stop : m.exit a = l.map .released) (initClean : m.InitClean a) (exitClean : m.ExitClean a) :
    Sound m a := by
  obtain ⟨⟨legit, empty⟩, exits⟩ := ladder_sound a.request same
  constructor
  · refine iff_of_true ⟨?_, fun failed => ?_⟩ initClean
    · change Legit nothing (m.init a).1
      rwa [start]
    · change holds nothing (m.init a).1 = nothing
      rw [start]
      exact empty fun reached => of_decide_eq_false failed (ret.mpr reached)
  · intro loaded
    refine iff_of_true ?_ exitClean
    change Legit (holds nothing (m.init a).1) (m.exit a) ∧
      holds nothing ((m.init a).1 ++ m.exit a) = nothing
    rw [start, stop]
    exact exits (ret.mp loaded)

def pcdRungs (m : Module) : List Resource :=
  [.region m, .cdev m 0, .classDir "pcd_class", .device m 0]

theorem pcdDriverInit_climbs (m : Module) (a : Answers) :
    (pcdDriverInit m a).1 = (climb a.request [] (pcdRungs m)).1 ∧
      (0 ≤ (pcdDriverInit m a).2 ↔ (climb a.request [] (pcdRungs m)).2 = none) := by
  unfold pcdDriverInit pcdRungs
  cases region : a.request (.region m) with
  | some ret => simp [climb, region, failed_ret]
  | none =>
    cases cdev : a.request (.cdev m 0) with
    | some ret => simp [climb, region, cdev, failed_ret, unregChrdev]
    | none =>
      cases made : a.request (.classDir "pcd_class") with
      | some ret => simp [climb, region, cdev, made, failed_ret, cdevDel, unregChrdev]
      | none =>
        cases device : a.request (.device m 0) with
        | some ret =>
          simp [climb, region, cdev, made, device, failed_ret, classDel, cdevDel, unregChrdev]
        | none => simp [climb, region, cdev, made, device]

theorem pcd_sound (a : Answers) : Sound .pcd a ∧ Sound .pcdLock a := by
  have both : ∀ m, (m = .pcd ∨ m = .pcdLock) → Sound m a := by
    rintro m (rfl | rfl)
    · obtain ⟨start, ret⟩ := pcdDriverInit_climbs .pcd a
      exact climbs_sound (List.reverse_perm _).symm start ret rfl trivial trivial
    · obtain ⟨start, ret⟩ := pcdDriverInit_climbs .pcdLock a
      exact climbs_sound (List.reverse_perm _).symm start ret rfl trivial trivial
  exact ⟨both _ (.inl rfl), both _ (.inr rfl)⟩

theorem registerDriver_climbs (driver : Resource) (a : Answers) :
    (registerDriver driver a).1 = (climb a.request [] [driver]).1 ∧
      (0 ≤ (registerDriver driver a).2 ↔ (climb a.request [] [driver]).2 = none) := by
  unfold registerDriver
  cases answer : a.request driver with
  | some ret => simp [climb, answer, failed_ret]
  | none => simp [climb, answer]

theorem registered_sound (a : Answers) :
    Sound .usbDrv a ∧ Sound .pciDrv a ∧ Sound .platformDrv a := by
  refine ⟨?_, ?_, ?_⟩
  · obtain ⟨start, ret⟩ := registerDriver_climbs penDriver a
    exact climbs_sound (.refl _) start ret rfl trivial trivial
  · obtain ⟨start, ret⟩ := registerDriver_climbs myDriver a
    exact climbs_sound (.refl _) start ret rfl trivial trivial
  · obtain ⟨start, ret⟩ := registerDriver_climbs devicemodelDriver a
    exact climbs_sound (.refl _) start ret rfl trivial trivial

theorem quiet_sound {l : List Resource} (keeps : ∀ r, .released r ∉ (m.init a).1)
    (ret : 0 ≤ (m.init a).2) (stop : m.exit a = l.map .released) (initClean : m.InitClean a)
    (exact : (taken (m.init a).1).Perm l ↔ m.ExitClean a) : Sound m a := by
  constructor
  · refine iff_of_true ⟨legit_of_no_release _ keeps, fun failed => ?_⟩ initClean
    exact absurd ret (of_decide_eq_false failed)
  · intro _
    rw [← exact, ← stop_sound_iff keeps, ← stop]
    exact Iff.rfl

theorem failed_sound (legit : Legit nothing (m.init a).1)
    (empty : holds nothing (m.init a).1 = nothing) (ret : ¬ 0 ≤ (m.init a).2)
    (initClean : m.InitClean a) : Sound m a :=
  ⟨iff_of_true ⟨legit, fun _ => empty⟩ initClean, fun loaded => absurd loaded ret⟩

theorem last_registered (a : Answers) (driver : Resource) {got l : List Resource}
    (same : got.Perm l) :
    (taken (got.map .acquired ++ [a.take driver])).Perm (driver :: l) ↔
      a.request driver = none := by
  have before : taken (got.map Call.acquired) = got := by simp [taken, List.filterMap_map]
  have whole : taken (got.map .acquired ++ [a.take driver]) = got ++ taken [a.take driver] := by
    rw [taken, List.filterMap_append]
    exact congrArg (· ++ _) before
  rw [whole]
  cases answer : a.request driver with
  | none =>
    refine iff_of_true ?_ rfl
    simp only [taken, Answers.take, answer]
    exact List.perm_append_comm.trans (same.cons driver)
  | some ret =>
    refine iff_of_false (fun registered => ?_) (Option.some_ne_none ret)
    have sizes := registered.length_eq
    simp [taken, Answers.take, answer, same.length_eq] at sizes

theorem platform_sound {m : Module} (a : Answers)
    (init : m.init a = pcdPlatformDriverInit m a) (exit : m.exit a = pcdPlatformDriverCleanup m)
    (initClean : m.InitClean a) (exitClean : m.ExitClean a ↔ a.request pseudoCharDevice = none) :
    Sound m a := by
  unfold pcdPlatformDriverInit at init
  cases region : a.request (.region m) with
  | some ret =>
    rw [region] at init
    apply failed_sound
    · simp [init, Legit, Call.Allowed]
    · rw [init]; rfl
    · simpa [init] using failed_ret ret
    · exact initClean
  | none =>
    cases made : a.request (.classDir "pcd_class") with
    | some ret =>
      rw [region, made] at init
      apply failed_sound
      · simp [init, Legit, Call.Allowed, Call.book]
      · rw [init]
        ext r
        simp [holds, Call.book, nothing, Function.update_apply]
      · simpa [init] using failed_ret ret
      · exact initClean
    | none =>
      rw [region, made] at init
      apply quiet_sound (l := [pseudoCharDevice, .classDir "pcd_class", .region m])
      · simp [init]
      · simp [init]
      · exact exit
      · exact initClean
      · rw [exitClean, init]
        exact last_registered a pseudoCharDevice
          (List.reverse_perm [.classDir "pcd_class", .region m])

theorem gpioSysfs_sound (a : Answers) : Sound .gpioSysfs a := by
  cases made : a.request (.classDir "bone_gpios") with
  | some ret =>
    have init : Module.gpioSysfs.init a = ([.failed (.classDir "bone_gpios")], ret.val) := by
      simp [Module.init, gpioSysfsInit, made]
    apply failed_sound
    · simp [init, Legit, Call.Allowed]
    · rw [init]; rfl
    · simpa [init] using failed_ret ret
    · trivial
  | none =>
    have init : Module.gpioSysfs.init a =
        ([.acquired (.classDir "bone_gpios"), a.take boneGpioSysfs], 0) := by
      simp [Module.init, gpioSysfsInit, made]
    apply quiet_sound (l := [boneGpioSysfs, .classDir "bone_gpios"])
    · simp [init]
    · simp [init]
    · rfl
    · trivial
    · rw [init]
      exact last_registered a boneGpioSysfs (.refl [.classDir "bone_gpios"])

theorem lcdPlatformDriver_sound (a : Answers) : Sound .lcdPlatformDriver a := by
  cases made : a.request (.classDir "lcd") with
  | none =>
    apply quiet_sound (l := [lcdSysfs, .classDir "lcd"])
    · simp [Module.init, lcdSysfsInit]
    · simp [Module.init, lcdSysfsInit]
    · simp [Module.exit, lcdSysfsExit, classDestroy, made]
    · trivial
    · have created : a.take (.classDir "lcd") = .acquired (.classDir "lcd") := by
        simp [Answers.take, made]
      rw [Module.init, lcdSysfsInit, created]
      exact last_registered a lcdSysfs (.refl [.classDir "lcd"])
  | some ret =>
    apply quiet_sound (l := [lcdSysfs])
    · simp [Module.init, lcdSysfsInit]
    · simp [Module.init, lcdSysfsInit]
    · simp [Module.exit, lcdSysfsExit, classDestroy, made]
    · trivial
    · have refused : a.take (.classDir "lcd") = .failed (.classDir "lcd") := by
        simp [Answers.take, made]
      rw [Module.init, lcdSysfsInit, refused]
      exact last_registered a lcdSysfs (.refl [])

theorem deviceSetup_sound (a : Answers) : Sound .pcdDeviceSetup a := by
  obtain ⟨⟨legit, empty⟩, exits⟩ :=
    ladder_sound a.request (.refl platformPcdevs)
  constructor
  · refine iff_of_true ⟨legit, fun failed => ?_⟩ trivial
    exact absurd failed (by simp [modules, Module.init, pcdevPlatformInit])
  · intro _
    constructor
    · rintro ⟨later, _⟩
      rw [Module.ExitClean, ← climb_iff a.request []]
      refine Classical.byContradiction fun stuck => ?_
      change Legit (holds nothing (climb a.request [] platformPcdevs).1) _ at later
      rw [empty stuck] at later
      exact absurd later.1 (Nat.lt_irrefl 0)
    · intro all
      exact exits ((climb_iff a.request [] platformPcdevs).mpr all)

theorem blockingDrv_sound (a : Answers) : Sound .blockingDrv a := by
  cases made : a.request (.procEntry "sleep") with
  | some ret =>
    have init : Module.blockingDrv.init a =
        ([.failed (.procEntry "sleep"), .released (.procEntry "sleep")], -ENOMEM) := by
      simp [Module.init, sleepInit, made]
    constructor
    · refine iff_of_false (fun sound => ?_) (by simp [Module.InitClean, made])
      have legit : Legit nothing (Module.blockingDrv.init a).1 := sound.1
      rw [init] at legit
      exact absurd legit.2.1 (Nat.lt_irrefl 0)
    · intro loaded
      rw [init] at loaded
      exact absurd loaded (by decide)
  | none =>
    have init : Module.blockingDrv.init a = ([.acquired (.procEntry "sleep")], 0) := by
      simp [Module.init, sleepInit, made]
    apply quiet_sound (l := [.procEntry "sleep"])
    · simp [init]
    · simp [init]
    · rfl
    · exact made
    · rw [init]
      exact iff_of_true (.refl _) trivial

theorem lines_of_taken {calls : Calls}
    (gpios : ∀ line, .acquired (.gpio line) ∈ calls → a.request (.gpio line) = none)
    (irqs : ∀ r, (r = .noIrq ∨ ∃ line, r = .irqOfGpio line) → .acquired r ∈ calls →
      ∃ line, .acquired r = requestIrq a line)
    (got : ∀ line ∈ [299, 301], irqNumber a line ∈ taken calls ∧ .gpio line ∈ taken calls) :
    LinesGranted a := by
  intro line member
  obtain ⟨irq, gpio⟩ := got line member
  rw [mem_taken] at irq gpio
  refine ⟨gpios line gpio, ?_⟩
  unfold irqNumber at irq
  cases number : a.gpioToIrq line with
  | some ret =>
    rw [number] at irq
    obtain ⟨line', same⟩ := irqs _ (.inl rfl) irq
    simp at same
  | none =>
    rw [number] at irq
    obtain ⟨line', same⟩ := irqs _ (.inr ⟨line, rfl⟩) irq
    obtain ⟨here, _, granted⟩ := (requestIrq_acquired ..).mp same
    cases here
    exact ⟨rfl, granted⟩

theorem intrptDrv_sound (a : Answers) : Sound .intrptDrv a := by
  cases made : a.request (.procEntry "intr") with
  | some ret =>
    have init : Module.intrptDrv.init a =
        ([.failed (.procEntry "intr"), .released (.procEntry "intr")], -ENOMEM) := by
      simp [Module.init, IntrptDrv.intrptInit, made]
    constructor
    · refine iff_of_false (fun sound => ?_) (by simp [Module.InitClean, made])
      have legit : Legit nothing (Module.intrptDrv.init a).1 := sound.1
      rw [init] at legit
      exact absurd legit.2.1 (Nat.lt_irrefl 0)
    · intro loaded
      rw [init] at loaded
      exact absurd loaded (by decide)
  | none =>
    have init : Module.intrptDrv.init a =
        (.acquired (.procEntry "intr") :: IntrptDrv.setGpioInterrupt a, 0) := by
      simp [Module.init, IntrptDrv.intrptInit, made]
    have legit : Legit nothing (Module.intrptDrv.init a).1 := by
      obtain ⟨⟨climbs, _⟩, _⟩ :=
        ladder_sound a.request (.refl [Resource.gpio 299, .gpio 301])
      rw [init]
      refine ⟨trivial, (legit_append _ _ _).mpr ⟨?_, legit_of_no_release _ (by simp)⟩⟩
      exact legit_mono (fun _ => Nat.zero_le _) climbs
    constructor
    · refine iff_of_true ⟨legit, fun failed => absurd failed ?_⟩ made
      simp [modules, init]
    · intro _
      constructor
      · rintro ⟨later, _⟩
        have released := fun r => taken_of_released (r := r) (l := [irqNumber a 299,
          irqNumber a 301, .gpio 299, .gpio 301, .procEntry "intr"]) legit later
        have calls : ∀ r, .acquired r ∈ (Module.intrptDrv.init a).1 → r = .procEntry "intr" ∨
            (r ∈ [.gpio 299, .gpio 301] ∧ a.request r = none) ∨
            ∃ line, .acquired r = requestIrq a line := by
          intro r got
          rw [init] at got
          simp only [IntrptDrv.setGpioInterrupt, List.mem_cons, List.mem_append, List.not_mem_nil,
            or_false] at got
          rcases got with proc | climbs | blue | red
          · exact .inl (Call.acquired.inj proc)
          · exact .inr (.inl (by simpa using acquired_of_climb climbs))
          · exact .inr (.inr ⟨299, blue⟩)
          · exact .inr (.inr ⟨301, red⟩)
        apply lines_of_taken
        · intro line got
          rcases calls _ got with proc | ⟨_, granted⟩ | ⟨_, irq⟩
          · cases proc
          · exact granted
          · simp at irq
        · intro r kind got
          rcases calls _ got with rfl | ⟨gpio, _⟩ | irq
          · simp at kind
          · rcases kind with rfl | ⟨_, rfl⟩ <;> simp at gpio
          · exact irq
        · intro line member
          rcases List.mem_pair.mp member with rfl | rfl
          · exact ⟨released _ (by simp), released _ (by simp)⟩
          · exact ⟨released _ (by simp), released _ (by simp)⟩
      · intro granted
        obtain ⟨blue, blueNumber, blueIrq⟩ := granted 299 (by simp)
        obtain ⟨red, redNumber, redIrq⟩ := granted 301 (by simp)
        have start : (Module.intrptDrv.init a).1 = [.acquired (.procEntry "intr"),
            .acquired (.gpio 299), .acquired (.gpio 301), .acquired (.irqOfGpio 299),
            .acquired (.irqOfGpio 301)] := by
          rw [init]
          simp [IntrptDrv.setGpioInterrupt, climb, blue, red, requestIrq, blueNumber, redNumber,
            Answers.take, blueIrq, redIrq]
        have stop : Module.intrptDrv.exit a = [Resource.irqOfGpio 299, .irqOfGpio 301, .gpio 299,
            .gpio 301, .procEntry "intr"].map .released := by
          simp [Module.exit, IntrptDrv.intrptExit, irqNumber, blueNumber, redNumber]
        change Legit (holds nothing (Module.intrptDrv.init a).1) (Module.intrptDrv.exit a) ∧
          holds nothing ((Module.intrptDrv.init a).1 ++ Module.intrptDrv.exit a) = nothing
        rw [start, stop, stop_sound_iff (by simp)]
        decide

namespace CharDrv

theorem init_unwinds {ret : ErrPtr} (region : a.request (.region .charDrv) = none)
    (cdev : a.request (.cdev .charDrv 0) = some ret) (minusOne : ret.val = -1) :
    Module.charDrv.init a = ([.acquired (.region .charDrv), a.take (.classDir "chardrv"),
      deviceCreate a, .failed (.cdev .charDrv 0), .released (.device .charDrv 0)] ++
      classDestroy a "chardrv" ++ [.released (.region .charDrv)], -1) := by
  simp [Module.init, paramInit, region, cdev, minusOne]

theorem unwinds_sound {ret : ErrPtr} (region : a.request (.region .charDrv) = none)
    (cdev : a.request (.cdev .charDrv 0) = some ret) (minusOne : ret.val = -1) :
    Sound .charDrv a := by
  have init := init_unwinds region cdev minusOne
  have clean : Module.charDrv.InitClean a ↔
      a.request (.classDir "chardrv") = none ∧ a.request (.device .charDrv 0) = none := by
    simp [Module.InitClean, region, cdev, minusOne]
  constructor
  · rw [clean, Op.Sound]
    change Legit nothing (Module.charDrv.init a).1 ∧
      (_ → holds nothing (Module.charDrv.init a).1 = nothing) ↔ _
    rw [init]
    cases made : a.request (.classDir "chardrv") with
    | some code =>
      refine iff_of_false (fun sound => ?_) fun both => Option.some_ne_none _ both.1
      have device := sound.1.2.2.2.2.1
      simp [Answers.take, made, deviceCreate, Call.book, Call.Allowed, nothing] at device
    | none =>
      cases created : a.request (.device .charDrv 0) with
      | some code =>
        refine iff_of_false (fun sound => ?_) fun both => Option.some_ne_none _ both.2
        have device := sound.1.2.2.2.2.1
        simp [Answers.take, made, deviceCreate, created, Call.book, Call.Allowed, nothing] at device
      | none =>
        refine iff_of_true ⟨?_, fun _ => ?_⟩ ⟨rfl, rfl⟩
        · simp [Answers.take, made, deviceCreate, created, classDestroy, Legit, Call.book,
            Call.Allowed]
        · ext r
          simp [Answers.take, made, deviceCreate, created, classDestroy, holds, Call.book, nothing,
            Function.update_apply]
          intro region classDir _
          simp [region, classDir]
  · intro loaded
    rw [init] at loaded
    exact absurd (show (0 : Int64) ≤ -1 from loaded) (by decide)

def whole (a : Answers) : Calls :=
  [.acquired (.region .charDrv), a.take (.classDir "chardrv"), deviceCreate a,
    a.take (.cdev .charDrv 0)] ++ setGpioInterrupt a ++ [a.take (.kobject "share_data")]

theorem init_whole (region : a.request (.region .charDrv) = none)
    (passes : ∀ ret : ErrPtr, a.request (.cdev .charDrv 0) = some ret → ret.val ≠ -1) :
    Module.charDrv.init a =
      (whole a, if a.request (.kobject "share_data") = none then 0 else -ENOMEM) := by
  have tail : ∀ calls, addAttribute a calls =
      (calls ++ setGpioInterrupt a ++ [a.take (.kobject "share_data")],
        if a.request (.kobject "share_data") = none then 0 else -ENOMEM) := by
    intro calls
    unfold addAttribute Answers.take
    cases a.request (.kobject "share_data") <;> rfl
  simp only [Module.init, paramInit, region, tail, whole]
  cases added : a.request (.cdev .charDrv 0) with
  | none => simp [Answers.take, added]
  | some ret => simp [Answers.take, added, passes ret added]

theorem whole_quiet (a : Answers) (r : Resource) : .released r ∉ whole a := by
  simp [whole, setGpioInterrupt]

theorem whole_acquired {r : Resource} (got : .acquired r ∈ whole a) :
    (∃ line, .acquired r = requestIrq a line) ∨
      (r = .device .charDrv 0 ∧ a.request (.classDir "chardrv") = none ∧ a.request r = none) ∨
      (r ∈ [.region .charDrv, .classDir "chardrv", .cdev .charDrv 0, .gpio 299, .gpio 301,
        .kobject "share_data"] ∧ (r = .region .charDrv ∨ a.request r = none)) := by
  simp only [whole, setGpioInterrupt, List.mem_cons, List.mem_append, List.not_mem_nil, or_false,
    Call.acquired.injEq, take_acquired, deviceCreate_acquired] at got
  rcases got with (((rfl | ⟨rfl, granted⟩ | ⟨rfl, device⟩ | ⟨rfl, granted⟩) |
    (⟨rfl, granted⟩ | blue | ⟨rfl, granted⟩ | red)) | ⟨rfl, granted⟩)
  · exact .inr (.inr ⟨by simp, .inl rfl⟩)
  · exact .inr (.inr ⟨by simp, .inr granted⟩)
  · exact .inr (.inl ⟨rfl, device⟩)
  · exact .inr (.inr ⟨by simp, .inr granted⟩)
  · exact .inr (.inr ⟨by simp, .inr granted⟩)
  · exact .inl ⟨299, blue⟩
  · exact .inr (.inr ⟨by simp, .inr granted⟩)
  · exact .inl ⟨301, red⟩
  · exact .inr (.inr ⟨by simp, .inr granted⟩)

def exits (a : Answers) : List Resource :=
  [.kobject "share_data", irqNumber a 299, irqNumber a 301, .gpio 299, .gpio 301,
    .device .charDrv 0] ++
  (if a.request (.classDir "chardrv") = none then [.classDir "chardrv"] else []) ++
  [.region .charDrv]

theorem exit_eq (a : Answers) : Module.charDrv.exit a = (exits a).map .released := by
  unfold Module.exit paramExit exits classDestroy
  cases a.request (.classDir "chardrv") <;> rfl

theorem exits_iff (a : Answers) (kobject : a.request (.kobject "share_data") = none) :
    (taken (whole a)).Perm (exits a) ↔ Module.charDrv.ExitClean a := by
  constructor
  · intro same
    have got : ∀ r ∈ exits a, .acquired r ∈ whole a := fun r member =>
      mem_taken.mp (same.mem_iff.mpr member)
    have device := whole_acquired (got (.device .charDrv 0) (by simp [exits]))
    simp at device
    refine ⟨?_, device.1, device.2, fun added => ?_⟩
    · refine lines_of_taken (fun line (here : .acquired (.gpio line) ∈ whole a) => ?_) ?_ ?_
      · have gpio := whole_acquired here
        simp at gpio
        exact gpio.2
      · intro r kind here
        rcases whole_acquired here with irq | ⟨rfl, _⟩ | ⟨other, _⟩
        · exact irq
        · simp at kind
        · rcases kind with rfl | ⟨_, rfl⟩ <;> simp at other
      · intro line member
        rw [mem_taken, mem_taken]
        rcases List.mem_pair.mp member with rfl | rfl
        · exact ⟨got _ (by simp [exits]), got _ (by simp [exits])⟩
        · exact ⟨got _ (by simp [exits]), got _ (by simp [exits])⟩
    · have left : Resource.cdev .charDrv 0 ∈ taken (whole a) := by
        simp [mem_taken, whole, added]
      have freed := same.mem_iff.mp left
      simp [exits] at freed
  · rintro ⟨lines, made, created, refused⟩
    obtain ⟨blue, blueNumber, blueIrq⟩ := lines 299 (by simp)
    obtain ⟨red, redNumber, redIrq⟩ := lines 301 (by simp)
    obtain ⟨ret, cdev⟩ := Option.ne_none_iff_exists'.mp refused
    simp only [whole, exits, setGpioInterrupt, Answers.take, deviceCreate, requestIrq, irqNumber,
      made, created, cdev, blue, blueNumber, blueIrq, red, redNumber, redIrq, kobject]
    decide

end CharDrv

theorem charDrv_sound (a : Answers) : Sound .charDrv a := by
  cases region : a.request (.region .charDrv) with
  | some code =>
    have init : Module.charDrv.init a = ([.failed (.region .charDrv)], -1) := by
      simp [Module.init, CharDrv.paramInit, region]
    apply failed_sound
    · simp [init, Legit, Call.Allowed]
    · rw [init]; rfl
    · rw [init]; decide
    · exact .inl (by simp [region])
  | none =>
    by_cases unwinds : ∃ ret : ErrPtr, a.request (.cdev .charDrv 0) = some ret ∧ ret.val = -1
    · obtain ⟨ret, cdev, minusOne⟩ := unwinds
      exact CharDrv.unwinds_sound region cdev minusOne
    · have passes : ∀ ret : ErrPtr, a.request (.cdev .charDrv 0) = some ret → ret.val ≠ -1 :=
        fun ret cdev minusOne => unwinds ⟨ret, cdev, minusOne⟩
      have init := CharDrv.init_whole region passes
      cases kobject : a.request (.kobject "share_data") with
      | none =>
        rw [kobject] at init
        apply quiet_sound (l := CharDrv.exits a)
        · simpa [init] using CharDrv.whole_quiet a
        · simp [init]
        · exact CharDrv.exit_eq a
        · exact .inr (.inr ⟨passes, kobject⟩)
        · rw [init]
          exact CharDrv.exits_iff a kobject
      | some code =>
        rw [kobject] at init
        constructor
        · refine iff_of_false (fun sound => ?_) ?_
          · have empty : holds nothing (Module.charDrv.init a).1 = nothing :=
              sound.2 (by simp [modules, init]; decide)
            have left := congrFun empty (.region .charDrv)
            rw [init, holds_of_no_release _ (CharDrv.whole_quiet a), ← count_taken] at left
            simp [CharDrv.whole, taken, nothing] at left
          · rintro (taken | ⟨ret, cdev, minusOne, _⟩ | ⟨_, granted⟩)
            · exact taken region
            · exact passes ret cdev minusOne
            · cases kobject.symm.trans granted
        · intro loaded
          rw [init] at loaded
          exact absurd (show (0 : Int64) ≤ - ENOMEM from loaded) (by decide)

section PcdN
open PcdN

theorem pcdNCall_created {c : PcdN.Call} {k : Nat}
    (created : pcdNCall c = .acquired (.device .pcdN k)) : c = .deviceCreate k none := by
  cases c with
  | deviceCreate i failure => cases failure <;> simp_all [pcdNCall, asked]
  | cdevAdd i failure => cases failure <;> simp [pcdNCall, asked] at created
  | allocChrdevRegion failure => cases failure <;> simp [pcdNCall, asked] at created
  | classCreate failure => cases failure <;> simp [pcdNCall, asked] at created
  | deviceDestroy i => simp [pcdNCall] at created
  | cdevDel i => simp [pcdNCall] at created
  | classDestroy => simp [pcdNCall] at created
  | unregisterChrdevRegion => simp [pcdNCall] at created

theorem pcdN_stops {k : Nat} {code : ErrPtr} {last : List PcdN.Call}
    (ends : last = [.cdevAdd k (some code)] ∨
      last = [.cdevAdd k none, .deviceCreate k (some code)]) :
    ¬ Legit nothing
      ((bracket (List.range' 0 k) last (List.range (k + 1)).reverse).map pcdNCall) := by
  intro legit
  have other : ∀ j, PcdN.Call.cdevDel j ∉ last ∧ PcdN.Call.deviceDestroy j ∉ last := by
    rcases ends with rfl | rfl <;> simp
  have calls := bracket_calls (List.range' 0 k) (List.range (k + 1)).reverse k other
  have destroyed : PcdN.Call.deviceDestroy k ∈
      bracket (List.range' 0 k) last (List.range (k + 1)).reverse := by
    rw [← List.count_pos_iff, calls.2.1]
    simp
  have created := acquired_of_released legit (List.mem_map_of_mem (f := pcdNCall) destroyed)
  obtain ⟨c, member, made⟩ := List.mem_map.mp created
  rw [pcdNCall_created made, calls.2.2.2] at member
  rcases ends with rfl | rfl <;> simp at member

theorem pcdN_sound (a : Answers) : Sound .pcdN a := by
  cases region : a.request (.region .pcdN) with
  | some ret =>
    have init : Module.pcdN.init a = ([.failed (.region .pcdN)], ret.val) := by
      simp [Module.init, pcdNInit, PcdN.pcdDriverInit, pcdNEnv, region, pcdNCall, asked]
    apply failed_sound
    · simp [init, Legit, Call.Allowed]
    · rw [init]; rfl
    · simpa [init] using failed_ret ret
    · intro granted
      cases region.symm.trans granted
  | none =>
    cases made : a.request (.classDir "pcd_class") with
    | some ret =>
      have init : Module.pcdN.init a = ([.acquired (.region .pcdN), .failed (.classDir "pcd_class"),
          .released (.region .pcdN)], ret.val) := by
        simp [Module.init, pcdNInit, PcdN.pcdDriverInit, pcdNEnv, region, made, pcdNCall, asked]
      apply failed_sound
      · simp [init, Legit, Call.Allowed, Call.book]
      · rw [init]
        ext r
        simp [holds, Call.book, nothing, Function.update_apply]
      · simpa [init] using failed_ret ret
      · intro _ granted
        cases made.symm.trans granted
    | none =>
      by_cases all : ∀ i < NO_OF_DEVICES,
          (pcdNEnv a).cdevAdd i = none ∧ (pcdNEnv a).deviceCreate i = none
      · have run : PcdN.pcdDriverInit NO_OF_DEVICES (pcdNEnv a) = _ :=
          init_succeeds region made all
        have init : Module.pcdN.init a = (([PcdN.Call.allocChrdevRegion none, .classCreate none] ++
            (List.range' 0 NO_OF_DEVICES).flatMap added).map pcdNCall, 0) := by
          rw [Module.init, pcdNInit, run]
        apply quiet_sound (l := [.device .pcdN 0, .cdev .pcdN 0, .device .pcdN 1, .cdev .pcdN 1,
          .device .pcdN 2, .cdev .pcdN 2, .device .pcdN 3, .cdev .pcdN 3, .classDir "pcd_class",
          .region .pcdN])
        · intro r
          rw [init]
          simp only [List.mem_map, List.mem_append, List.mem_flatMap, List.mem_pair, added]
          rintro ⟨call, (rfl | rfl) | ⟨i, _, rfl | rfl⟩, released⟩ <;> cases released
        · rw [init]
          decide
        · rfl
        · exact fun _ _ => all
        · rw [init]
          exact iff_of_true (by decide) trivial
      · have some_fails : ∃ i < NO_OF_DEVICES,
            ¬ ((pcdNEnv a).cdevAdd i = none ∧ (pcdNEnv a).deviceCreate i = none) := by
          simpa using all
        obtain ⟨k, code, last, run, ends⟩ := init_stops region made some_fails
        have init : Module.pcdN.init a =
            ((bracket (List.range' 0 k) last (List.range (k + 1)).reverse).map pcdNCall,
              code.val) := by
          rw [Module.init, pcdNInit, run]
        constructor
        · refine iff_of_false (fun sound => ?_) (fun clean => all (clean region made))
          have legit : Legit nothing (Module.pcdN.init a).1 := sound.1
          rw [init] at legit
          exact pcdN_stops ends legit
        · intro loaded
          rw [init] at loaded
          exact absurd loaded (failed_ret code)

end PcdN

theorem sound (m : Module) (a : Answers) : Sound m a := by
  cases m with
  | pcd => exact (pcd_sound a).1
  | pcdLock => exact (pcd_sound a).2
  | pcdN => exact pcdN_sound a
  | pcdPlatformDriver => exact platform_sound a rfl rfl trivial Iff.rfl
  | pcdPlatformDriverDt => exact platform_sound a rfl rfl trivial Iff.rfl
  | pcdPlatformDriverDtSysfs => exact platform_sound a rfl rfl trivial Iff.rfl
  | pcdDeviceSetup => exact deviceSetup_sound a
  | gpioSysfs => exact gpioSysfs_sound a
  | lcdPlatformDriver => exact lcdPlatformDriver_sound a
  | blockingDrv => exact blockingDrv_sound a
  | intrptDrv => exact intrptDrv_sound a
  | charDrv => exact charDrv_sound a
  | usbDrv => exact (registered_sound a).1
  | pciDrv => exact (registered_sound a).2.1
  | platformDrv => exact (registered_sound a).2.2

theorem clean_iff {op : Op Module Answers} (occurs : op.Occurs modules) :
    op.Sound modules ↔ Clean op := by
  cases op with
  | start m a => exact (sound m a).init
  | stop m a => exact (sound m a).exit (of_decide_eq_true occurs)

/-- Any loads and unloads of the modules, in any order and with any refusals: no module
releases what it does not hold, and none leaves anything behind, exactly when each init and
each exit is clean. -/
theorem loads_right_iff {es : List (Event Module Resource Answers)}
    {t : State Module Resource Answers} (run : Run (Step modules) idle es t) :
    (∀ e ∈ es, e.Right modules) ↔ ∀ e ∈ es, Clean e.op :=
  starts_right_iff (fun _ occurs => clean_iff occurs) run

/-- The entry that could not be created is removed. -/
theorem loads_right_refused : ¬ ∀ e ∈ ([⟨.start .blockingDrv
    ⟨fun _ => some ⟨-ENOMEM, by decide⟩, fun _ => none⟩, fun _ => none⟩] :
      List (Event Module Resource Answers)), e.Right modules := by
  intro right
  have granted : Granted Module.blockingDrv (fun _ => none)
      ((modules .blockingDrv).start ⟨fun _ => some ⟨-ENOMEM, by decide⟩, fun _ => none⟩) :=
    ⟨fun _ => nofun, fun _ => nofun, trivial⟩
  have load : Run (Step modules) idle [_] _ := Run.start.snoc (.start rfl granted)
  have clean := (loads_right_iff load).mp right _ List.mem_cons_self
  exact Option.some_ne_none _ clean

end MadDriver.Modules

import MadDriver.Modules.Load

/-! The modules in a kernel that is short of nothing: a name is refused only while another
module holds it. -/
namespace MadDriver.Modules
open Function Kernel Bus Resources Ownership Transition

def pseudoCharDrivers : List Module :=
  [.pcdPlatformDriver, .pcdPlatformDriverDt, .pcdPlatformDriverDtSysfs]

def Resource.askers : Resource → Option (List Module)
  | .region m | .cdev m _ | .device m _ => some [m]
  | .platformDevice _ _ => some [.pcdDeviceSetup]
  | .kobject _ => some [.charDrv]
  | .procEntry name => if name = "sleep" then some [.blockingDrv] else some [.intrptDrv]
  | .driver bus name =>
    if .driver bus name = pseudoCharDevice then some pseudoCharDrivers
    else if .driver bus name = boneGpioSysfs then some [.gpioSysfs]
    else if .driver bus name = lcdSysfs then some [.lcdPlatformDriver]
    else none
  | .classDir _ | .gpio _ | .irqOfGpio _ | .noIrq => none

variable {m : Module} {a : Answers} {r : Resource}

theorem pcdDriverInit_acquired (got : .acquired r ∈ (pcdDriverInit m a).1) : r ∈ pcdRungs m := by
  rw [(pcdDriverInit_climbs m a).1] at got
  exact (acquired_of_climb got).1

theorem registerDriver_acquired {driver : Resource}
    (got : .acquired r ∈ (registerDriver driver a).1) : r = driver := by
  rw [(registerDriver_climbs driver a).1] at got
  exact List.mem_singleton.mp (acquired_of_climb got).1

theorem pcdPlatformDriverInit_acquired (got : .acquired r ∈ (pcdPlatformDriverInit m a).1) :
    r ∈ [.region m, .classDir "pcd_class", pseudoCharDevice] := by
  unfold pcdPlatformDriverInit at got
  cases region : a.request (.region m) with
  | some ret => simp [region] at got
  | none =>
    cases made : a.request (.classDir "pcd_class") with
    | some ret =>
      simp [region, made] at got
      simp [got]
    | none =>
      simp [region, made] at got
      rcases got with rfl | rfl | ⟨rfl, _⟩ <;> simp

theorem pcdNInit_acquired (got : .acquired r ∈ (pcdNInit a).1) :
    r = .classDir "pcd_class" ∨ r.askers = some [.pcdN] := by
  obtain ⟨call, _, made⟩ := List.mem_map.mp got
  cases call with
  | allocChrdevRegion failure =>
    cases failure <;> simp [pcdNCall, asked] at made
    exact .inr (by rw [← made]; rfl)
  | classCreate failure =>
    cases failure <;> simp [pcdNCall, asked] at made
    exact .inl made.symm
  | cdevAdd i failure =>
    cases failure <;> simp [pcdNCall, asked] at made
    exact .inr (by rw [← made]; rfl)
  | deviceCreate i failure =>
    cases failure <;> simp [pcdNCall, asked] at made
    exact .inr (by rw [← made]; rfl)
  | deviceDestroy i => cases made
  | cdevDel i => cases made
  | classDestroy => cases made
  | unregisterChrdevRegion => cases made

theorem requestIrq_askers {line : Nat} (got : .acquired r = requestIrq a line) :
    r.askers = none := by
  rw [((requestIrq_acquired ..).mp got).1]
  rfl

theorem classDestroy_releases (name : String) : .acquired r ∉ classDestroy a name := by
  unfold classDestroy
  cases a.request (.classDir name) <;> simp

theorem paramInit_acquired (got : .acquired r ∈ (Module.charDrv.init a).1) :
    r.askers = none ∨ r.askers = some [.charDrv] := by
  cases region : a.request (.region .charDrv) with
  | some code => simp [Module.init, CharDrv.paramInit, region] at got
  | none =>
    by_cases unwinds : ∃ ret : ErrPtr, a.request (.cdev .charDrv 0) = some ret ∧ ret.val = -1
    · obtain ⟨ret, cdev, minusOne⟩ := unwinds
      rw [CharDrv.init_unwinds region cdev minusOne] at got
      simp [classDestroy_releases] at got
      rcases got with rfl | ⟨rfl, _⟩ | ⟨rfl, _⟩
      · exact .inr rfl
      · exact .inl rfl
      · exact .inr rfl
    · rw [CharDrv.init_whole region fun ret cdev minusOne => unwinds ⟨ret, cdev, minusOne⟩] at got
      rcases CharDrv.whole_acquired got with ⟨_, irq⟩ | ⟨rfl, _⟩ | ⟨listed, _⟩
      · exact .inl (requestIrq_askers irq)
      · exact .inr rfl
      · simp only [List.mem_cons, List.not_mem_nil, or_false] at listed
        rcases listed with rfl | rfl | rfl | rfl | rfl | rfl
        · exact .inr rfl
        · exact .inl rfl
        · exact .inr rfl
        · exact .inl rfl
        · exact .inl rfl
        · exact .inr rfl

theorem intrptInit_acquired (got : .acquired r ∈ (IntrptDrv.intrptInit a).1) :
    r = .procEntry "intr" ∨ r.askers = none := by
  unfold IntrptDrv.intrptInit at got
  cases made : a.request (.procEntry "intr") with
  | some ret => simp [made] at got
  | none =>
    simp only [made, IntrptDrv.setGpioInterrupt, List.mem_cons, List.mem_append,
      List.not_mem_nil, or_false] at got
    rcases got with proc | climbs | blue | red
    · exact .inl (Call.acquired.inj proc)
    · rcases List.mem_pair.mp (acquired_of_climb climbs).1 with rfl | rfl <;> exact .inr rfl
    · exact .inr (requestIrq_askers blue)
    · exact .inr (requestIrq_askers red)

theorem acquired_askers (got : .acquired r ∈ (m.init a).1) {ms : List Module}
    (askers : r.askers = some ms) : m ∈ ms := by
  have pcd : ∀ m, .acquired r ∈ (pcdDriverInit m a).1 → m ∈ ms := fun m got => by
    have rung := pcdDriverInit_acquired got
    simp only [pcdRungs, List.mem_cons, List.not_mem_nil, or_false] at rung
    rcases rung with rfl | rfl | rfl | rfl <;> cases askers <;> exact List.mem_cons_self
  have platform : ∀ m ∈ pseudoCharDrivers, .acquired r ∈ (pcdPlatformDriverInit m a).1 →
      m ∈ ms := fun m member got => by
    have asked := pcdPlatformDriverInit_acquired got
    simp only [List.mem_cons, List.not_mem_nil, or_false] at asked
    rcases asked with rfl | rfl | rfl <;> cases askers
    · exact List.mem_cons_self
    · exact member
  have register : ∀ driver : Resource, driver.askers = none →
      .acquired r ∉ (registerDriver driver a).1 := fun driver shared got => by
    rw [registerDriver_acquired got, shared] at askers
    cases askers
  cases m with
  | pcd => exact pcd _ got
  | pcdLock => exact pcd _ got
  | pcdN =>
    rcases pcdNInit_acquired got with rfl | own
    · cases askers
    · cases own.symm.trans askers
      exact List.mem_cons_self
  | pcdPlatformDriver => exact platform _ (by decide) got
  | pcdPlatformDriverDt => exact platform _ (by decide) got
  | pcdPlatformDriverDtSysfs => exact platform _ (by decide) got
  | pcdDeviceSetup =>
    have device := (acquired_of_climb got).1
    simp only [platformPcdevs, List.mem_cons, List.not_mem_nil, or_false] at device
    rcases device with rfl | rfl | rfl | rfl <;> cases askers <;> exact List.mem_cons_self
  | gpioSysfs =>
    unfold Module.init gpioSysfsInit at got
    cases made : a.request (.classDir "bone_gpios") <;> simp [made] at got
    rcases got with rfl | ⟨rfl, _⟩ <;> cases askers
    exact List.mem_cons_self
  | lcdPlatformDriver =>
    simp [Module.init, lcdSysfsInit] at got
    rcases got with ⟨rfl, _⟩ | ⟨rfl, _⟩ <;> cases askers
    exact List.mem_cons_self
  | blockingDrv =>
    unfold Module.init sleepInit at got
    cases made : a.request (.procEntry "sleep") <;> simp [made] at got
    subst got
    cases askers
    exact List.mem_cons_self
  | intrptDrv =>
    rcases intrptInit_acquired got with rfl | shared
    · cases askers
      exact List.mem_cons_self
    · cases shared.symm.trans askers
  | charDrv =>
    rcases paramInit_acquired got with shared | own
    · cases shared.symm.trans askers
    · cases own.symm.trans askers
      exact List.mem_cons_self
  | usbDrv => exact absurd got (register penDriver rfl)
  | pciDrv => exact absurd got (register myDriver rfl)
  | platformDrv => exact absurd got (register devicemodelDriver rfl)

theorem driver_with_class (got : .acquired pseudoCharDevice ∈ (m.init a).1) :
    holds nothing (m.init a).1 (.classDir "pcd_class") = 1 := by
  have platform : ∀ m, .acquired pseudoCharDevice ∈ (pcdPlatformDriverInit m a).1 →
      holds nothing (pcdPlatformDriverInit m a).1 (.classDir "pcd_class") = 1 := fun m got => by
    unfold pcdPlatformDriverInit at got ⊢
    cases region : a.request (.region m) with
    | some ret => simp [region] at got
    | none =>
      cases made : a.request (.classDir "pcd_class") with
      | some ret => simp [region, made, pseudoCharDevice] at got
      | none =>
        simp [region, made, pseudoCharDevice] at got
        simp [Answers.take, got, pseudoCharDevice, holds, Call.book, nothing]
  have member : m ∈ pseudoCharDrivers := acquired_askers got rfl
  simp only [pseudoCharDrivers, List.mem_cons, List.not_mem_nil, or_false] at member
  rcases member with rfl | rfl | rfl
  · exact platform _ got
  · exact platform _ got
  · exact platform _ got

/-- A name is refused only while it is held, and each line has an interrupt. -/
def Plenty (e : Event Module Resource Answers) : Prop :=
  match e.op with
  | .start _ a => (∀ r, a.request r ≠ none → e.holder r ≠ none) ∧ ∀ line, a.gpioToIrq line = none
  | .stop _ _ => True

/-- char_drv stays loaded, and intrpt_drv is unloaded only if it was given its lines. -/
def Spared : Op Module Answers → Prop
  | .stop .charDrv _ => False
  | .stop .intrptDrv a => LinesGranted a
  | _ => True

structure Settled (s : State Module Resource Answers) : Prop where
  kept : Kept modules s
  exits : ∀ m a, s.running m = some a → m ≠ .charDrv → m ≠ .intrptDrv → m.ExitClean a
  charDrv : ∀ a, s.running .charDrv = some a → ¬ Module.charDrv.ExitClean a

variable {s t : State Module Resource Answers}

theorem own_free (kept : Kept modules s) (stopped : s.running m = none)
    (own : r.askers = some [m]) : s.holder r = none := by
  cases held : s.holder r with
  | none => rfl
  | some m' =>
    obtain ⟨a, running, one⟩ := kept.holds held
    have got : .acquired r ∈ (m'.init a).1 :=
      acquired_of_holds nothing (by rw [nothing]; exact one ▸ Nat.one_pos)
    have same := List.mem_singleton.mp (acquired_askers got own)
    rw [same, stopped] at running
    cases running

theorem own_granted (kept : Kept modules s) (stopped : s.running m = none)
    (plenty : ∀ r, a.request r ≠ none → s.holder r ≠ none) (own : r.askers = some [m]) :
    a.request r = none :=
  Classical.byContradiction fun refused => plenty r refused (own_free kept stopped own)

theorem plenty_initClean (kept : Kept modules s) (stopped : s.running m = none)
    (plenty : ∀ r, a.request r ≠ none → s.holder r ≠ none) : m.InitClean a := by
  have given := fun r own => own_granted (r := r) kept stopped plenty own
  cases m with
  | pcdN => exact fun _ _ i _ => ⟨given _ rfl, given _ rfl⟩
  | blockingDrv => exact given _ rfl
  | intrptDrv => exact given _ rfl
  | charDrv =>
    refine .inr (.inr ⟨fun ret refused => ?_, given _ rfl⟩)
    cases (given (.cdev .charDrv 0) rfl).symm.trans refused
  | _ => trivial

/-- The class keeps a second of the three drivers from getting as far as its registration. -/
theorem pseudo_granted (kept : Kept modules s)
    (plenty : ∀ r, a.request r ≠ none → s.holder r ≠ none)
    (granted : Granted m s.holder (pcdPlatformDriverInit m a).1)
    (loaded : 0 ≤ (pcdPlatformDriverInit m a).2) : a.request pseudoCharDevice = none := by
  refine Classical.byContradiction fun refused => ?_
  obtain ⟨m', held⟩ := Option.ne_none_iff_exists'.mp (plenty _ refused)
  obtain ⟨a', running, one⟩ := kept.holds held
  have got : .acquired pseudoCharDevice ∈ (m'.init a').1 :=
    acquired_of_holds nothing (by rw [nothing]; exact one ▸ Nat.one_pos)
  have theirs : s.holder (.classDir "pcd_class") = some m' := by
    refine kept.held running ?_
    change holds nothing (m'.init a').1 _ ≠ 0
    rw [driver_with_class got]
    exact Nat.one_ne_zero
  unfold pcdPlatformDriverInit at granted loaded
  cases region : a.request (.region m) with
  | some ret =>
    rw [region] at loaded
    exact failed_ret ret loaded
  | none =>
    cases made : a.request (.classDir "pcd_class") with
    | some ret =>
      rw [region, made] at loaded
      exact failed_ret ret loaded
    | none =>
      rw [region, made] at granted
      have free := granted.2.1 _ rfl
      simp [book, theirs] at free

theorem plenty_exitClean (kept : Kept modules s) (stopped : s.running m = none)
    (plenty : ∀ r, a.request r ≠ none → s.holder r ≠ none)
    (granted : Granted m s.holder (m.init a).1) (loaded : 0 ≤ (m.init a).2)
    (notChar : m ≠ .charDrv) (notIntrpt : m ≠ .intrptDrv) : m.ExitClean a := by
  have given := fun r own => own_granted (r := r) kept stopped plenty own
  cases m with
  | pcdPlatformDriver => exact pseudo_granted kept plenty granted loaded
  | pcdPlatformDriverDt => exact pseudo_granted kept plenty granted loaded
  | pcdPlatformDriverDtSysfs => exact pseudo_granted kept plenty granted loaded
  | pcdDeviceSetup =>
    intro r device
    simp only [platformPcdevs, List.mem_cons, List.not_mem_nil, or_false] at device
    rcases device with rfl | rfl | rfl | rfl <;> exact given _ rfl
  | gpioSysfs => exact given _ rfl
  | lcdPlatformDriver => exact given _ rfl
  | charDrv => exact absurd rfl notChar
  | intrptDrv => exact absurd rfl notIntrpt
  | _ => trivial

theorem spared_iff {e : Event Module Resource Answers} (settled : Settled s)
    (step : Step modules s e t) (plenty : Plenty e) : Clean e.op ↔ Spared e.op := by
  cases step with
  | @start m a stopped granted =>
    exact iff_of_true (plenty_initClean settled.kept stopped plenty.1) trivial
  | @stop m a running granted =>
    by_cases isChar : m = .charDrv
    · subst isChar
      exact iff_of_false (settled.charDrv a running) id
    · by_cases isIntrpt : m = .intrptDrv
      · subst isIntrpt
        exact Iff.rfl
      · refine iff_of_true (settled.exits m a running isChar isIntrpt) ?_
        cases m <;> trivial

theorem step_settled {e : Event Module Resource Answers} (settled : Settled s)
    (step : Step modules s e t) (plenty : Plenty e) (clean : Clean e.op) : Settled t := by
  have sound := (clean_iff (step_occurs settled.kept step)).mpr clean
  have kept := step_kept settled.kept step sound
  cases step with
  | @start m a stopped granted =>
    have loads : ∀ k a', update s.running m (if (modules m).runs a then some a else none) k =
        some a' → (k = m ∧ a' = a ∧ 0 ≤ (m.init a).2) ∨ s.running k = some a' := by
      intro k a' running
      rcases eq_or_ne k m with rfl | other
      · rw [update_self] at running
        split at running
        · rename_i runs
          exact .inl ⟨rfl, (Option.some.inj running).symm, of_decide_eq_true runs⟩
        · cases running
      · rw [update_of_ne other] at running
        exact .inr running
    refine ⟨kept, fun k a' running notChar notIntrpt => ?_, fun a' running => ?_⟩
    · rcases loads k a' running with ⟨rfl, rfl, loaded⟩ | before
      · exact plenty_exitClean settled.kept stopped plenty.1 granted loaded notChar notIntrpt
      · exact settled.exits k a' before notChar notIntrpt
    · rcases loads _ a' running with ⟨rfl, rfl, _⟩ | before
      · rintro ⟨_, _, _, refused⟩
        exact refused (own_granted settled.kept stopped plenty.1 rfl)
      · exact settled.charDrv a' before
  | @stop m a running granted =>
    have stays : ∀ k a', update s.running m none k = some a' → s.running k = some a' := by
      intro k a' still
      rcases eq_or_ne k m with rfl | other
      · simp at still
      · rwa [update_of_ne other] at still
    exact ⟨kept, fun k a' still => settled.exits k a' (stays k a' still),
      fun a' still => settled.charDrv a' (stays _ a' still)⟩

/-- In a kernel short of nothing the modules can be loaded and unloaded in any order, names
in common or not, except that char_drv leaves its cdev behind and intrpt_drv takes from
char_drv the lines it was not given itself. -/
theorem spared_right_iff {es : List (Event Module Resource Answers)}
    (run : Run (Guarded (Step modules) fun _ e => Plenty e) idle es t) :
    (∀ e ∈ es, e.Right modules) ↔ ∀ e ∈ es, Spared e.op := by
  apply run_right_iff Settled (Event.Right modules) (fun e => Spared e.op) ?_ ?_ ?_ run
  · refine ⟨idle_kept, fun _ _ running => ?_, fun _ running => ?_⟩ <;> cases running
  · rintro s e t settled ⟨step, plenty⟩
    have occurs := step_occurs settled.kept step
    rw [step_right_iff settled.kept step, clean_iff occurs]
    exact spared_iff settled step plenty
  · rintro s e t settled ⟨step, plenty⟩ spared
    exact step_settled settled step plenty ((spared_iff settled step plenty).mpr spared)

/-- The one entry of /proc is created and removed. -/
theorem spared_right_sleep :
    Event.Right modules ⟨.start .blockingDrv ⟨fun _ => none, fun _ => none⟩, fun _ => none⟩ ∧
    Event.Right modules ⟨.stop .blockingDrv ⟨fun _ => none, fun _ => none⟩,
      update (fun _ => none) (.procEntry "sleep") (some .blockingDrv)⟩ := by
  have created : Granted Module.blockingDrv (fun _ => none)
      ((modules .blockingDrv).start ⟨fun _ => none, fun _ => none⟩) :=
    ⟨fun _ _ => rfl, trivial⟩
  have removed : Granted Module.blockingDrv
      (update (fun _ => none) (.procEntry "sleep") (some .blockingDrv))
      ((modules .blockingDrv).stop ⟨fun _ => none, fun _ => none⟩) :=
    ⟨fun _ => nofun, trivial⟩
  have load : Run (Guarded (Step modules) fun _ e => Plenty e) idle [_] _ :=
    Run.start.snoc ⟨.start rfl created, fun _ refused => absurd rfl refused, fun _ => rfl⟩
  have unload : Run (Guarded (Step modules) fun _ e => Plenty e) idle [_, _] _ :=
    load.snoc ⟨.stop rfl removed, trivial⟩
  have right := (spared_right_iff unload).mpr (by simp [Spared])
  exact ⟨right _ List.mem_cons_self, right _ (List.mem_cons_of_mem _ List.mem_cons_self)⟩

end MadDriver.Modules

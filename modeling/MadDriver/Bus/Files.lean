import MadDriver.Bus.Books
import MadDriver.Pcd.Memory
import MadDriver.Pcd.Resize

/-! Open files of 004 and 005 while their devices come and go. The private data of a device
belong to its binding: devres frees them behind the remove, whoever has them open. -/
namespace MadDriver.Bus
open Kernel Pcd Transition Function Table

variable {D F : Type}

inductive NodeDriver where
  | platform | platformDt

def NodeDriver.bus (D : Type) [DecidableEq D] : NodeDriver → PlatformDriver D
  | .platform => Platform.pcdPlatformDriver
  | .platformDt => PlatformDt.pcdPlatformDriver

def NodeDriver.files : NodeDriver → FileOperations PcdevPrivateData
  | .platform => Pcd.Platform.pcdFops
  | .platformDt => Pcd.PlatformDt.pcdFops

abbrev NodeDriver.driver (k : NodeDriver) : Driver where
  Data := PcdevPrivateData
  buffer := PcdevPrivateData.buffer
  maxSize dev := dev.pdata.size
  perm dev := dev.pdata.perm
  setBuffer dev b := { dev with buffer := b }
  fops := k.files

/-- The private data of a binding have a number, in the order of the probes. `node` is where
the node of a device leads, and a freed number has no data in `system`. -/
structure Machine (D F : Type) where
  bus : BusState D
  node : D → Option Nat
  made : Nat
  system : System PcdevPrivateData Nat F

def booted (r : Registry D) : Machine D F where
  bus := ⟨r, []⟩
  node _ := none
  made := 0
  system := ⟨fun _ => none, fun _ => none⟩

/-- The bits of the mode without which the VFS refuses the call. -/
def need : Op Nat F → UInt32
  | .read _ _ _ => FMODE_READ
  | .write _ _ _ => FMODE_WRITE
  | _ => 0

def opens : Op Nat F → Prop
  | .openFile _ _ _ => True
  | _ => False

/-- The call comes to the driver, or at its last close to the `struct cdev`, with private
data that are freed. -/
def Dangling (σ : System PcdevPrivateData Nat F) (op : Op Nat F) : Prop :=
  ¬ opens op ∧ ∃ file, σ.files op.handle = some file ∧ file.fMode &&& need op = need op ∧
    σ.devs file.dev = none

inductive MachineEvent (D F : Type) where
  | bus (e : BusEvent D)
  | noDevice (f : F) (d : D) (fMode : UInt32)
  | opened (d : D) (e : Pcd.Event Nat F)
  | called (e : Pcd.Event Nat F)

variable [DecidableEq D] [DecidableEq F]

inductive MachineStep (k : NodeDriver) (m : Machine D F) :
    MachineEvent D F → Machine D F → Prop where
  | bound {d : D} {id : Int32} {env : ProbeEnv} {bus : BusState D} {devData : PcdevPrivateData} :
      BusStep (k.bus D) m.bus ⟨.probe d id env, 0⟩ bus →
      ((k.bus D).probe m.bus.registry d id env).2 = .ok devData →
      MachineStep k m (.bus ⟨.probe d id env, 0⟩) {
        bus := bus
        node := update m.node d (some m.made)
        made := m.made + 1
        system := { m.system with devs := update m.system.devs m.made (some devData) } }
  | failed {d : D} {id : Int32} {env : ProbeEnv} {ret : Int64} {bus : BusState D} :
      BusStep (k.bus D) m.bus ⟨.probe d id env, ret⟩ bus →
      ((k.bus D).probe m.bus.registry d id env).2 = .error ret →
      MachineStep k m (.bus ⟨.probe d id env, ret⟩) { m with bus := bus }
  | removed {d : D} {n : Nat} {ret : Int64} {bus : BusState D} :
      BusStep (k.bus D) m.bus ⟨.remove d, ret⟩ bus → m.node d = some n →
      MachineStep k m (.bus ⟨.remove d, ret⟩) { m with
        bus := bus
        node := update m.node d none
        system := { m.system with devs := update m.system.devs n none } }
  | noDevice {d : D} (f : F) (fMode : UInt32) : m.node d = none →
      MachineStep k m (.noDevice f d fMode) m
  | opened {d : D} {n : Nat} {f : F} {fMode : UInt32} {reply : Pcd.Reply}
      {σ : System PcdevPrivateData Nat F} : m.node d = some n →
      vfsStep k.files m.system (.openFile f n fMode) = .done (σ, reply) →
      MachineStep k m (.opened d ⟨.openFile f n fMode, m.system.files f, reply⟩)
        { m with system := σ }
  | called {op : Op Nat F} {reply : Pcd.Reply} {σ : System PcdevPrivateData Nat F} :
      ¬ opens op → ¬ Dangling m.system op → vfsStep k.files m.system op = .done (σ, reply) →
      MachineStep k m (.called ⟨op, m.system.files op.handle, reply⟩) { m with system := σ }

structure Holder (D : Type) where
  dev : D
  fMode : UInt32
  removed : Bool

def Holder.after (d : D) (h : Holder D) : Holder D :=
  if h.dev = d then { h with removed := true } else h

def follow (holders : F → Option (Holder D)) : MachineEvent D F → F → Option (Holder D)
  | .bus ⟨.remove d, _⟩ => fun f => (holders f).map (Holder.after d)
  | .opened d ⟨.openFile f _ fMode, _, reply⟩ =>
    if reply.ret = 0 then update holders f (some ⟨d, fMode, false⟩) else holders
  | .called ⟨.release f, _, _⟩ => update holders f none
  | _ => holders

def holders (hist : List (MachineEvent D F)) : F → Option (Holder D) :=
  hist.foldl follow fun _ => none

/-- The file of the call is one whose device has been removed since its open. -/
def Orphaned (hist : List (MachineEvent D F)) (op : Op Nat F) : Prop :=
  ¬ opens op ∧ ∃ h, holders hist op.handle = some h ∧ h.fMode &&& need op = need op ∧
    h.removed = true

def calls (hist : List (MachineEvent D F)) : List (Pcd.Event Nat F) :=
  hist.filterMap fun e => match e with
    | .opened _ e | .called e => some e
    | _ => none

section Agreement

variable {P N : Type} [DecidableEq N] {τ σ σ' : System P N F} {reply : Pcd.Reply}

structure Agrees (τ σ : System P N F) : Prop where
  files : τ.files = σ.files
  live : ∀ n dev, τ.devs n = some dev → σ.devs n = some dev

def who (σ : System P N F) (f : F) : Option (N × UInt32) :=
  (σ.files f).map fun file => (file.dev, file.fMode)

theorem call_agrees {f : F} {bits : UInt32} {body : P → Int64 → Outcome (CallResult P)}
    (agrees : Agrees τ σ)
    (safe : ∀ file, τ.files f = some file → file.fMode &&& bits = bits → τ.devs file.dev ≠ none)
    (done : σ.call f bits body = .done (σ', reply)) :
    ∃ τ', τ.call f bits body = .done (τ', reply) ∧ Agrees τ' σ' ∧ who τ' = who τ ∧
      ∀ n, τ'.devs n = none ↔ τ.devs n = none := by
  by_cases granted : ∃ file, τ.files f = some file ∧ file.fMode &&& bits = bits
  · obtain ⟨file, opened, mode⟩ := granted
    obtain ⟨dev, device⟩ := Option.ne_none_iff_exists'.mp (safe file opened mode)
    have opened' : σ.files f = some file := agrees.files ▸ opened
    rw [call_granted opened' mode (agrees.live _ _ device)] at done
    rw [call_granted opened mode device]
    obtain ⟨r, ran, same⟩ := Outcome.map_done.mp done
    cases same
    refine ⟨_, Outcome.map_done.mpr ⟨r, ran, rfl⟩, ⟨?_, ?_⟩, ?_, ?_⟩
    · simp only [System.leave, agrees.files]
    · intro n dev' there
      rcases update_some_iff.mp there with ⟨rfl, rfl⟩ | ⟨other, before⟩
      · exact update_self ..
      · exact (update_of_ne other ..).trans (agrees.live n dev' before)
    · funext g
      rcases eq_or_ne g f with rfl | other
      · simp [who, System.leave, opened]
      · simp [who, System.leave, other]
    · intro n
      rcases eq_or_ne n file.dev with rfl | other
      · simp [System.leave, device]
      · simp [System.leave, other]
  · have lacking : ∀ file, τ.files f = some file → file.fMode &&& bits ≠ bits :=
      fun file opened mode => granted ⟨file, opened, mode⟩
    have lacking' : ∀ file, σ.files f = some file → file.fMode &&& bits ≠ bits :=
      agrees.files ▸ lacking
    rw [call_refused lacking'] at done
    cases done
    exact ⟨τ, call_refused lacking, agrees, rfl, fun _ => Iff.rfl⟩

def whoAfter (op : Op N F) (ret : Int64) (files : F → Option (N × UInt32)) :
    F → Option (N × UInt32) :=
  match op with
  | .openFile f n fMode => if ret = 0 then update files f (some (n, fMode)) else files
  | .release f => update files f none
  | _ => files

omit [DecidableEq N] in
theorem open_agrees {fops : FileOperations P} {f : F} {n : N} {fMode : UInt32}
    (agrees : Agrees τ σ) (there : τ.devs n ≠ none)
    (done : vfsOpen fops σ f n fMode = (σ', reply)) :
    ∃ τ', vfsOpen fops τ f n fMode = (τ', reply) ∧ Agrees τ' σ' ∧ τ'.devs = τ.devs ∧
      who τ' = whoAfter (.openFile f n fMode) reply.ret (who τ) := by
  obtain ⟨dev, device⟩ := Option.ne_none_iff_exists'.mp there
  have device' := agrees.live n dev device
  unfold vfsOpen at done ⊢
  rw [device'] at done
  rw [device]
  cases opened : τ.files f with
  | some file =>
    rw [← agrees.files, opened] at done
    cases done
    refine ⟨τ, rfl, agrees, rfl, ?_⟩
    rw [whoAfter, if_neg (by decide)]
  | none =>
    rw [← agrees.files, opened] at done
    by_cases permitted : fops.openFile dev fMode = 0
    · simp only [if_pos permitted] at done ⊢
      cases done
      refine ⟨_, rfl, ⟨rfl, agrees.live⟩, rfl, ?_⟩
      funext g
      rcases eq_or_ne g f with rfl | other
      · simp [who, whoAfter]
      · simp [who, whoAfter, other]
    · simp only [if_neg permitted] at done ⊢
      cases done
      exact ⟨τ, rfl, agrees, rfl, (if_neg permitted).symm⟩

end Agreement

theorem file_agrees {fops : FileOperations PcdevPrivateData}
    {τ σ σ' : System PcdevPrivateData Nat F} {op : Op Nat F} {reply : Pcd.Reply}
    (agrees : Agrees τ σ) (safe : ¬ Dangling τ op)
    (there : ∀ f n fMode, op = .openFile f n fMode → τ.devs n ≠ none)
    (done : vfsStep fops σ op = .done (σ', reply)) :
    ∃ τ', vfsStep fops τ op = .done (τ', reply) ∧ Agrees τ' σ' ∧
      (∀ n, τ'.devs n = none ↔ τ.devs n = none) ∧ who τ' = whoAfter op reply.ret (who τ) := by
  have called : ¬ opens op → ∀ file, τ.files op.handle = some file →
      file.fMode &&& need op = need op → τ.devs file.dev ≠ none :=
    fun call file opened mode freed => safe ⟨call, file, opened, mode, freed⟩
  cases op with
  | openFile f n fMode =>
    obtain ⟨τ', same, agrees', devs, files⟩ :=
      open_agrees agrees (there f n fMode rfl) (Outcome.done.inj done)
    exact ⟨τ', congrArg Outcome.done same, agrees', fun n => by rw [devs], files⟩
  | release f =>
    cases done
    refine ⟨_, rfl, ⟨congrArg (update · f none) agrees.files, agrees.live⟩, fun _ => Iff.rfl, ?_⟩
    funext g
    rcases eq_or_ne g f with rfl | other
    · simp [who, whoAfter]
    · simp [who, whoAfter, other]
  | lseek f offset whence =>
    simp only [vfsStep] at done
    obtain ⟨τ', same, agrees', files, devs⟩ := call_agrees agrees (called id) done
    exact ⟨τ', same, agrees', devs, files⟩
  | read f user count =>
    simp only [vfsStep] at done
    obtain ⟨τ', same, agrees', files, devs⟩ := call_agrees agrees (called id) done
    exact ⟨τ', same, agrees', devs, files⟩
  | write f user buff =>
    simp only [vfsStep] at done
    obtain ⟨τ', same, agrees', files, devs⟩ := call_agrees agrees (called id) done
    exact ⟨τ', same, agrees', devs, files⟩

structure Owned (m : Machine D F) : Prop where
  bound : ∀ d, m.node d ≠ none ↔ ∃ b ∈ m.bus.bound, b.dev = d
  devices : (m.bus.bound.map Binding.dev).Nodup
  made : ∀ n, m.made ≤ n → m.system.devs n = none
  nodes : ∀ d n, m.node d = some n → n < m.made ∧ m.system.devs n ≠ none
  apart : ∀ d d' n, m.node d = some n → m.node d' = some n → d = d'

inductive Told (m : Machine D F) : Option (Nat × UInt32) → Option (Holder D) → Prop where
  | closed : Told m none none
  | held {d : D} {n : Nat} {fMode : UInt32} : m.node d = some n →
      Told m (some (n, fMode)) (some ⟨d, fMode, false⟩)
  | orphaned {d : D} {n : Nat} {fMode : UInt32} : n < m.made → m.system.devs n = none →
      Told m (some (n, fMode)) (some ⟨d, fMode, true⟩)

theorem busStep_probe {k : NodeDriver} {b b' : BusState D} {d : D} {id : Int32} {env : ProbeEnv}
    {ret : Int64} (step : BusStep (k.bus D) b ⟨.probe d id env, ret⟩ b') :
    (∀ x ∈ b.bound, x.dev ≠ d) ∧
      (∀ devData, ((k.bus D).probe b.registry d id env).2 = .ok devData →
        b'.bound = b.bound ++ [⟨d, devData⟩]) ∧
      (∀ code, ((k.bus D).probe b.registry d id env).2 = .error code → b'.bound = b.bound) := by
  unfold BusStep busStep at step
  cases found : b.bound.find? (fun x => x.dev = d) with
  | some x => simp [found] at step
  | none =>
    refine ⟨fun x member same => ?_, ?_⟩
    · have none := List.find?_eq_none.mp found x member
      exact none (by simpa using same)
    · simp only [found] at step
      cases ran : (k.bus D).probe b.registry d id env with
      | mk r answer =>
        rw [ran] at step
        cases answer with
        | error code =>
          cases step
          exact ⟨nofun, fun _ _ => rfl⟩
        | ok devData =>
          cases step
          refine ⟨fun other same => ?_, nofun⟩
          cases same
          rfl

theorem busStep_remove {k : NodeDriver} {b b' : BusState D} {d : D} {ret : Int64}
    (step : BusStep (k.bus D) b ⟨.remove d, ret⟩ b') :
    b'.bound = b.bound.eraseP (fun x => x.dev = d) := by
  unfold BusStep busStep at step
  cases found : b.bound.find? (fun x => x.dev = d) with
  | none => simp [found] at step
  | some x =>
    simp only [found] at step
    cases step
    rfl

omit [DecidableEq F] in
theorem bound_owned {m : Machine D F} {d : D} {bus : BusState D} {devData : PcdevPrivateData}
    (owned : Owned m) (free : ∀ x ∈ m.bus.bound, x.dev ≠ d)
    (bound : bus.bound = m.bus.bound ++ [⟨d, devData⟩]) :
    Owned (⟨bus, update m.node d (some m.made), m.made + 1,
      { m.system with devs := update m.system.devs m.made (some devData) }⟩ : Machine D F) := by
  have below : ∀ d' n, m.node d' = some n → n ≠ m.made := by
    intro d' n node
    exact Nat.ne_of_lt (owned.nodes d' n node).1
  constructor
  · intro d'
    rcases eq_or_ne d' d with rfl | other
    · simp [bound]
    · have same := owned.bound d'
      simpa [bound, other, other.symm] using same
  · rw [bound, List.map_append, List.map_singleton]
    refine List.nodup_append.mpr ⟨owned.devices, List.nodup_singleton _, ?_⟩
    intro x member y single
    obtain ⟨b, inside, rfl⟩ := List.mem_map.mp member
    cases List.mem_singleton.mp single
    exact free b inside
  · intro n above
    have other : n ≠ m.made := Nat.ne_of_gt above
    exact (update_of_ne other ..).trans (owned.made n (Nat.le_of_lt above))
  · intro d' n node
    rcases update_some_iff.mp node with ⟨rfl, rfl⟩ | ⟨_, before⟩
    · exact ⟨Nat.lt_succ_self _, by simp⟩
    · obtain ⟨small, live⟩ := owned.nodes d' n before
      refine ⟨Nat.lt_succ_of_lt small, ?_⟩
      simpa [below d' n before] using live
  · intro x y n first second
    rcases update_some_iff.mp first with ⟨rfl, rfl⟩ | ⟨_, before⟩
    · rcases update_some_iff.mp second with ⟨rfl, _⟩ | ⟨_, before⟩
      · rfl
      · exact absurd rfl (below y _ before)
    · rcases update_some_iff.mp second with ⟨rfl, rfl⟩ | ⟨_, before'⟩
      · exact absurd rfl (below x _ before)
      · exact owned.apart x y n before before'

theorem erased_bound {l : List (Binding D)} (once : (l.map Binding.dev).Nodup) (d d' : D) :
    (∃ b ∈ l.eraseP (fun x => x.dev = d), b.dev = d') ↔ d' ≠ d ∧ ∃ b ∈ l, b.dev = d' := by
  induction l with
  | nil => simp
  | cons b l ih =>
    rw [List.map_cons, List.nodup_cons] at once
    obtain ⟨fresh, once⟩ := once
    by_cases here : b.dev = d
    · have gone : ∀ x ∈ l, x.dev ≠ d := fun x member same =>
        fresh (List.mem_map.mpr ⟨x, member, same.trans here.symm⟩)
      rw [List.eraseP_cons_of_pos (by simpa using here), List.exists_mem_cons_iff]
      constructor
      · rintro ⟨x, member, rfl⟩
        exact ⟨gone x member, .inr ⟨x, member, rfl⟩⟩
      · rintro ⟨other, rfl | rest⟩
        · exact absurd here other
        · exact rest
    · rw [List.eraseP_cons_of_neg (by simpa using here), List.exists_mem_cons_iff,
        List.exists_mem_cons_iff, ih once]
      constructor
      · rintro (rfl | ⟨other, rest⟩)
        · exact ⟨here, .inl rfl⟩
        · exact ⟨other, .inr rest⟩
      · rintro ⟨other, first | rest⟩
        · exact .inl first
        · exact .inr ⟨other, rest⟩

omit [DecidableEq F] in
theorem removed_owned {m : Machine D F} {d : D} {n : Nat} {bus : BusState D} (owned : Owned m)
    (node : m.node d = some n) (erased : bus.bound = m.bus.bound.eraseP (fun x => x.dev = d)) :
    Owned (⟨bus, update m.node d none, m.made,
      { m.system with devs := update m.system.devs n none }⟩ : Machine D F) := by
  constructor
  · intro d'
    rw [erased, erased_bound owned.devices, ← owned.bound d']
    rcases eq_or_ne d' d with rfl | other
    · simp
    · simp [other]
  · rw [erased]
    exact owned.devices.sublist ((List.eraseP_sublist).map _)
  · intro j above
    rcases eq_or_ne j n with rfl | other
    · exact update_self ..
    · exact (update_of_ne other ..).trans (owned.made j above)
  · intro d' j there
    rcases update_entry_iff.mp there with ⟨_, gone⟩ | ⟨other, before⟩
    · cases gone
    · obtain ⟨small, live⟩ := owned.nodes d' j before
      have apart : j ≠ n := by
        rintro rfl
        exact other (owned.apart d' d j before node)
      exact ⟨small, by simpa [apart] using live⟩
  · intro x y j first second
    rcases update_entry_iff.mp first with ⟨_, gone⟩ | ⟨_, before⟩
    · cases gone
    · rcases update_entry_iff.mp second with ⟨_, gone⟩ | ⟨_, before'⟩
      · cases gone
      · exact owned.apart x y j before before'

section Telling

variable {k : NodeDriver} {m : Machine D F} {hist : List (MachineEvent D F)}

theorem holders_snoc (hist : List (MachineEvent D F)) (e : MachineEvent D F) :
    holders (hist ++ [e]) = follow (holders hist) e := by
  rw [holders, List.foldl_append]
  rfl

omit [DecidableEq D] [DecidableEq F] in
theorem calls_snoc (hist : List (MachineEvent D F)) (e : MachineEvent D F) :
    calls (hist ++ [e]) = calls hist ++ calls [e] := List.filterMap_append

omit [DecidableEq F] in
theorem told_bound {d : D} {bus : BusState D} {devData : PcdevPrivateData}
    {file : Option (Nat × UInt32)} {h : Option (Holder D)} (unbound : m.node d = none)
    (told : Told m file h) :
    Told (⟨bus, update m.node d (some m.made), m.made + 1,
      { m.system with devs := update m.system.devs m.made (some devData) }⟩ : Machine D F)
      file h := by
  cases told with
  | closed => exact .closed
  | @held d' n fMode node =>
    have other : d' ≠ d := by
      rintro rfl
      exact absurd (unbound.symm.trans node) nofun
    exact .held ((update_of_ne other ..).trans node)
  | orphaned small freed =>
    exact .orphaned (Nat.lt_succ_of_lt small) ((update_of_ne (Nat.ne_of_lt small) ..).trans freed)

omit [DecidableEq F] in
theorem told_removed {d : D} {n : Nat} {bus : BusState D} {file : Option (Nat × UInt32)}
    {h : Option (Holder D)} (owned : Owned m) (node : m.node d = some n) (told : Told m file h) :
    Told (⟨bus, update m.node d none, m.made,
      { m.system with devs := update m.system.devs n none }⟩ : Machine D F) file
      (h.map (Holder.after d)) := by
  cases told with
  | closed => exact .closed
  | @held d' j fMode there =>
    rcases eq_or_ne d' d with rfl | other
    · cases Option.some.inj (node.symm.trans there)
      have after : Holder.after d' ⟨d', fMode, false⟩ = ⟨d', fMode, true⟩ := if_pos rfl
      rw [Option.map_some, after]
      exact .orphaned (owned.nodes d' n node).1 (update_self ..)
    · have after : Holder.after d ⟨d', fMode, false⟩ = ⟨d', fMode, false⟩ := if_neg other
      rw [Option.map_some, after]
      exact .held ((update_of_ne other ..).trans there)
  | @orphaned d' j fMode small freed =>
    have after : Holder.after d ⟨d', fMode, true⟩ = ⟨d', fMode, true⟩ := by
      unfold Holder.after
      split <;> rfl
    rw [Option.map_some, after]
    refine .orphaned small ?_
    rcases eq_or_ne j n with rfl | other
    · exact update_self ..
    · exact (update_of_ne other ..).trans freed

omit [DecidableEq D] [DecidableEq F] in
theorem told_kept {m' : Machine D F} {file : Option (Nat × UInt32)} {h : Option (Holder D)}
    (told : Told m file h) (node : m'.node = m.node) (made : m'.made = m.made)
    (devs : ∀ n, m'.system.devs n = none ↔ m.system.devs n = none) : Told m' file h := by
  cases told with
  | closed => exact .closed
  | held there => exact .held (node ▸ there)
  | orphaned small freed => exact .orphaned (made ▸ small) ((devs _).mpr freed)

omit [DecidableEq D] in
theorem told_update {files : F → Option (Nat × UInt32)} {hs : F → Option (Holder D)}
    (told : ∀ f, Told m (files f) (hs f)) {f : F} {file : Option (Nat × UInt32)}
    {h : Option (Holder D)} (now : Told m file h) (g : F) :
    Told m (update files f file g) (update hs f h g) := by
  rcases eq_or_ne g f with rfl | other
  · rw [update_self, update_self]
    exact now
  · rw [update_of_ne other, update_of_ne other]
    exact told g

def Fresh (devData : PcdevPrivateData) : Prop :=
  0 ≤ devData.pdata.size.toInt ∧ devData.buffer = List.replicate devData.pdata.size.toInt.toNat 0

theorem NodeDriver.probe_fresh {r : Registry D} {d : D} {id : Int32} {env : ProbeEnv}
    {devData : PcdevPrivateData} (made : ((k.bus D).probe r d id env).2 = .ok devData) :
    Fresh devData := by
  have registered {number : Int} {pdata : PcdevPlatformData}
      (made : (registerDevice r d number pdata env).2 = .ok devData) : Fresh devData :=
    Pcd.Sysfs.newPrivateData_covered (registerDevice_ok.mp (Prod.ext rfl made)).2.1
  cases k with
  | platform =>
    change (Platform.pcdPlatformDriverProbe r d id env).2 = _ at made
    unfold Platform.pcdPlatformDriverProbe at made
    split at made
    · cases made
    · exact registered made
  | platformDt =>
    change (PlatformDt.pcdPlatformDriverProbe r d id env).2 = _ at made
    unfold PlatformDt.pcdPlatformDriverProbe at made
    split at made
    · cases made
    · cases made
    · exact registered made

theorem NodeDriver.conforms (k : NodeDriver) : Conforms k.driver := by
  cases k with
  | platform => constructor <;> intros <;> rfl
  | platformDt => constructor <;> intros <;> rfl

/-- The files and the calls on them, whatever the devices to come: every answer is that of
a system in which each binding is a device that was there from the start. -/
def Simulated (k : NodeDriver) (hist : List (MachineEvent D F)) (m : Machine D F) : Prop :=
  ∃ created : List PcdevPrivateData, created.length = m.made ∧ (∀ dev ∈ created, Fresh dev) ∧
    ∀ devs : Nat → Option PcdevPrivateData, (∀ n < m.made, devs n = created[n]?) →
      Zeroed k.driver (⟨devs, fun _ => none⟩ : System PcdevPrivateData Nat F) →
      ∃ σ, Run (Pcd.Step k.driver) ⟨devs, fun _ => none⟩ (calls hist) σ ∧
        Agrees m.system σ ∧ ∀ n, m.made ≤ n → σ.devs n = devs n

structure Composed (k : NodeDriver) (hist : List (MachineEvent D F)) (m : Machine D F) :
    Prop where
  owned : Owned m
  told : ∀ f, Told m (who m.system f) (holders hist f)
  simulated : Simulated k hist m

omit [DecidableEq D] in
theorem simulated_quiet {m' : Machine D F} {e : MachineEvent D F} (simulated : Simulated k hist m)
    (quiet : calls [e] = []) (made : m'.made = m.made)
    (files : m'.system.files = m.system.files)
    (live : ∀ n dev, m'.system.devs n = some dev → m.system.devs n = some dev) :
    Simulated k (hist ++ [e]) m' := by
  obtain ⟨created, length, fresh, runs⟩ := simulated
  refine ⟨created, length.trans made.symm, fresh, fun devs agree zeroed => ?_⟩
  rw [made] at agree ⊢
  obtain ⟨σ, run, agrees, later⟩ := runs devs agree zeroed
  rw [calls_snoc, quiet, List.append_nil]
  refine ⟨σ, run, ⟨files.trans agrees.files, fun n dev there => ?_⟩, later⟩
  exact agrees.live n dev (live n dev there)

omit [DecidableEq D] in
theorem bound_simulated {d : D} {id : Int32} {env : ProbeEnv} {bus : BusState D}
    {node : D → Option Nat} {devData : PcdevPrivateData} (simulated : Simulated k hist m)
    (fresh : Fresh devData) :
    Simulated k (hist ++ [.bus ⟨.probe d id env, 0⟩]) ⟨bus, node, m.made + 1,
      { m.system with devs := update m.system.devs m.made (some devData) }⟩ := by
  obtain ⟨created, length, all_fresh, runs⟩ := simulated
  refine ⟨created ++ [devData], ?_, ?_, fun devs agree zeroed => ?_⟩
  · rw [List.length_append, length]
    rfl
  · intro dev member
    rcases List.mem_append.mp member with before | now
    · exact all_fresh dev before
    · cases List.mem_singleton.mp now
      exact fresh
  · have before : ∀ n < m.made, devs n = created[n]? := fun n small => by
      rw [agree n (Nat.lt_succ_of_lt small), List.getElem?_append_left (by omega)]
    have now : devs m.made = some devData := by
      rw [agree m.made (Nat.lt_succ_self _), ← length, List.getElem?_concat_length]
    obtain ⟨σ, run, agrees, later⟩ := runs devs before zeroed
    have quiet : calls [MachineEvent.bus ⟨.probe d id env, 0⟩] = ([] : List (Pcd.Event Nat F)) :=
      rfl
    rw [calls_snoc, quiet, List.append_nil]
    refine ⟨σ, run, ⟨agrees.files, fun n dev there => ?_⟩,
      fun n above => later n (Nat.le_of_succ_le above)⟩
    rcases update_some_iff.mp there with ⟨rfl, rfl⟩ | ⟨_, old⟩
    · exact (later _ (Nat.le_refl _)).trans now
    · exact agrees.live n dev old

omit [DecidableEq D] [DecidableEq F] in
theorem told_small {n : Nat} {fMode : UInt32} {h : Option (Holder D)}
    (nodes : ∀ d n, m.node d = some n → n < m.made) (told : Told m (some (n, fMode)) h) :
    n < m.made := by
  cases told with
  | held node => exact nodes _ n node
  | orphaned small _ => exact small

theorem call_answered {σ : System PcdevPrivateData Nat F} {devs : Nat → Option PcdevPrivateData}
    {op : Op Nat F} (composed : Composed k hist m) (safe : ¬ Dangling m.system op)
    (there : ∀ f n fMode, op = .openFile f n fMode → m.system.devs n ≠ none)
    (zeroed : Zeroed k.driver (⟨devs, fun _ => none⟩ : System PcdevPrivateData Nat F))
    (run : Run (Pcd.Step k.driver) ⟨devs, fun _ => none⟩ (calls hist) σ)
    (agrees : Agrees m.system σ) :
    ∃ τ σ' reply, vfsStep k.files m.system op = .done (τ, reply) ∧
      vfsStep k.files σ op = .done (σ', reply) ∧ Agrees τ σ' ∧
      (∀ n, τ.devs n = none ↔ m.system.devs n = none) ∧
      who τ = whoAfter op reply.ret (who m.system) ∧
      ∀ n, m.made ≤ n → σ'.devs n = σ.devs n := by
  have placed := (run_sizes k.conforms (zeroed_recorded zeroed).placed run).1
  obtain ⟨σ', reply, done, effect⟩ := step_effect k.conforms placed op
  obtain ⟨τ, answered, agrees', devs', files⟩ := file_agrees agrees safe there done
  refine ⟨τ, σ', reply, answered, done, agrees', devs', files, fun n above => ?_⟩
  refine effect_keeps_device effect fun file opened same => ?_
  have seen : who m.system op.handle = some (file.dev, file.fMode) := by
    rw [who, agrees.files, opened, Option.map_some]
  have told := composed.told op.handle
  rw [seen] at told
  have small := told_small (fun d n node => (composed.owned.nodes d n node).1) told
  omega

omit [DecidableEq D] [DecidableEq F] in
theorem created_zeroed {created : List PcdevPrivateData} (fresh : ∀ dev ∈ created, Fresh dev) :
    Zeroed k.driver (⟨fun n => created[n]?, fun _ => none⟩ : System PcdevPrivateData Nat F) :=
  ⟨fun _ dev found => fresh dev (List.mem_of_getElem? found), nofun⟩

theorem call_simulated {op : Op Nat F} {e : MachineEvent D F} {reply : Pcd.Reply}
    {σ : System PcdevPrivateData Nat F} (composed : Composed k hist m)
    (safe : ¬ Dangling m.system op)
    (there : ∀ f n fMode, op = .openFile f n fMode → m.system.devs n ≠ none)
    (call : calls [e] = [⟨op, m.system.files op.handle, reply⟩])
    (done : vfsStep k.files m.system op = .done (σ, reply)) :
    Simulated k (hist ++ [e]) { m with system := σ } := by
  obtain ⟨created, length, fresh, runs⟩ := composed.simulated
  refine ⟨created, length, fresh, fun devs agree zeroed => ?_⟩
  obtain ⟨ς, run, agrees, later⟩ := runs devs agree zeroed
  obtain ⟨τ, ς', reply', answered, done', agrees', _, _, kept⟩ :=
    call_answered composed safe there zeroed run agrees
  cases Outcome.done.inj (done.symm.trans answered)
  rw [calls_snoc, call]
  refine ⟨ς', run.snoc ⟨done', ?_⟩, agrees', fun n above => (kept n above).trans (later n above)⟩
  exact congrFun agrees.files op.handle

theorem call_done {op : Op Nat F} (composed : Composed k hist m) (safe : ¬ Dangling m.system op)
    (there : ∀ f n fMode, op = .openFile f n fMode → m.system.devs n ≠ none) :
    ∃ σ reply, vfsStep k.files m.system op = .done (σ, reply) ∧
      (∀ n, σ.devs n = none ↔ m.system.devs n = none) ∧
      who σ = whoAfter op reply.ret (who m.system) := by
  obtain ⟨created, length, fresh, runs⟩ := composed.simulated
  obtain ⟨ς, run, agrees, _⟩ := runs (fun n => created[n]?) (fun _ _ => rfl) (created_zeroed fresh)
  obtain ⟨τ, _, reply, answered, _, _, devs, files, _⟩ :=
    call_answered composed safe there (created_zeroed fresh) run agrees
  exact ⟨τ, reply, answered, devs, files⟩

theorem call_leaves {op : Op Nat F} {reply : Pcd.Reply} {σ : System PcdevPrivateData Nat F}
    (composed : Composed k hist m) (safe : ¬ Dangling m.system op)
    (there : ∀ f n fMode, op = .openFile f n fMode → m.system.devs n ≠ none)
    (done : vfsStep k.files m.system op = .done (σ, reply)) :
    (∀ n, σ.devs n = none ↔ m.system.devs n = none) ∧
      who σ = whoAfter op reply.ret (who m.system) := by
  obtain ⟨τ, reply', answered, devs, files⟩ := call_done composed safe there
  cases Outcome.done.inj (done.symm.trans answered)
  exact ⟨devs, files⟩

omit [DecidableEq D] [DecidableEq F] in
theorem call_owned {σ : System PcdevPrivateData Nat F} (owned : Owned m)
    (devs : ∀ n, σ.devs n = none ↔ m.system.devs n = none) : Owned { m with system := σ } where
  bound := owned.bound
  devices := owned.devices
  made n above := (devs n).mpr (owned.made n above)
  nodes d n node :=
    ⟨(owned.nodes d n node).1, fun freed => (owned.nodes d n node).2 ((devs n).mp freed)⟩
  apart := owned.apart

theorem opened_composed {d : D} {n : Nat} {f : F} {fMode : UInt32} {reply : Pcd.Reply}
    {σ : System PcdevPrivateData Nat F} (composed : Composed k hist m) (node : m.node d = some n)
    (done : vfsStep k.files m.system (.openFile f n fMode) = .done (σ, reply)) :
    Composed k (hist ++ [.opened d ⟨.openFile f n fMode, m.system.files f, reply⟩])
      { m with system := σ } := by
  have safe : ¬ Dangling m.system (.openFile f n fMode) := fun dangling => dangling.1 trivial
  have there : ∀ f' n' fMode', Op.openFile f n fMode = .openFile f' n' fMode' →
      m.system.devs n' ≠ none := by
    rintro _ _ _ ⟨⟩
    exact (composed.owned.nodes d n node).2
  obtain ⟨devs, files⟩ := call_leaves composed safe there done
  refine ⟨call_owned composed.owned devs, fun g => ?_,
    call_simulated composed safe there rfl done⟩
  refine told_kept (m := m) ?_ rfl rfl devs
  rw [files, holders_snoc]
  by_cases succeeded : reply.ret = 0
  · simp only [whoAfter, follow, if_pos succeeded]
    exact told_update composed.told (.held node) g
  · simp only [whoAfter, follow, if_neg succeeded]
    exact composed.told g

theorem called_composed {op : Op Nat F} {reply : Pcd.Reply} {σ : System PcdevPrivateData Nat F}
    (composed : Composed k hist m) (call : ¬ opens op) (safe : ¬ Dangling m.system op)
    (done : vfsStep k.files m.system op = .done (σ, reply)) :
    Composed k (hist ++ [.called ⟨op, m.system.files op.handle, reply⟩])
      { m with system := σ } := by
  have there : ∀ f n fMode, op = .openFile f n fMode → m.system.devs n ≠ none := by
    rintro f n fMode rfl
    exact absurd trivial call
  obtain ⟨devs, files⟩ := call_leaves composed safe there done
  refine ⟨call_owned composed.owned devs, fun g => ?_,
    call_simulated composed safe there rfl done⟩
  refine told_kept (m := m) ?_ rfl rfl devs
  rw [files, holders_snoc]
  cases op with
  | openFile f n fMode => exact absurd trivial call
  | release f => exact told_update composed.told .closed g
  | lseek f offset whence => exact composed.told g
  | read f user count => exact composed.told g
  | write f user buff => exact composed.told g

theorem bound_composed {d : D} {id : Int32} {env : ProbeEnv} {bus : BusState D}
    {devData : PcdevPrivateData} (composed : Composed k hist m)
    (step : BusStep (k.bus D) m.bus ⟨.probe d id env, 0⟩ bus)
    (made : ((k.bus D).probe m.bus.registry d id env).2 = .ok devData) :
    Composed k (hist ++ [.bus ⟨.probe d id env, 0⟩]) ⟨bus, update m.node d (some m.made),
      m.made + 1, { m.system with devs := update m.system.devs m.made (some devData) }⟩ := by
  obtain ⟨free, grown, _⟩ := busStep_probe step
  have unbound : m.node d = none := by
    by_contra has
    obtain ⟨b, member, same⟩ := (composed.owned.bound d).mp has
    exact free b member same
  refine ⟨bound_owned composed.owned free (grown devData made), fun g => ?_,
    bound_simulated composed.simulated (NodeDriver.probe_fresh made)⟩
  rw [holders_snoc]
  exact told_bound unbound (composed.told g)

theorem failed_composed {d : D} {id : Int32} {env : ProbeEnv} {ret : Int64} {bus : BusState D}
    (composed : Composed k hist m) (step : BusStep (k.bus D) m.bus ⟨.probe d id env, ret⟩ bus)
    (failed : ((k.bus D).probe m.bus.registry d id env).2 = .error ret) :
    Composed k (hist ++ [.bus ⟨.probe d id env, ret⟩]) { m with bus := bus } := by
  have same := (busStep_probe step).2.2 ret failed
  obtain ⟨owned, told, simulated⟩ := composed
  refine ⟨⟨?_, ?_, owned.made, owned.nodes, owned.apart⟩, fun g => ?_,
    simulated_quiet simulated rfl rfl rfl fun _ _ there => there⟩
  · exact fun d' => by rw [same]; exact owned.bound d'
  · rw [same]
    exact owned.devices
  · rw [holders_snoc]
    exact told_kept (told g) rfl rfl fun _ => Iff.rfl

theorem removed_composed {d : D} {n : Nat} {ret : Int64} {bus : BusState D}
    (composed : Composed k hist m) (step : BusStep (k.bus D) m.bus ⟨.remove d, ret⟩ bus)
    (node : m.node d = some n) :
    Composed k (hist ++ [.bus ⟨.remove d, ret⟩]) ⟨bus, update m.node d none, m.made,
      { m.system with devs := update m.system.devs n none }⟩ := by
  refine ⟨removed_owned composed.owned node (busStep_remove step), fun g => ?_, ?_⟩
  · rw [holders_snoc]
    exact told_removed composed.owned node (composed.told g)
  · refine simulated_quiet composed.simulated rfl rfl rfl fun j dev there => ?_
    rcases update_entry_iff.mp there with ⟨_, gone⟩ | ⟨_, before⟩
    · cases gone
    · exact before

theorem step_composed {m' : Machine D F} {e : MachineEvent D F} (composed : Composed k hist m)
    (step : MachineStep k m e m') : Composed k (hist ++ [e]) m' := by
  cases step with
  | bound step made => exact bound_composed composed step made
  | failed step failed => exact failed_composed composed step failed
  | removed step node => exact removed_composed composed step node
  | noDevice f fMode free =>
    refine ⟨composed.owned, fun g => ?_,
      simulated_quiet composed.simulated rfl rfl rfl fun _ _ there => there⟩
    rw [holders_snoc]
    exact composed.told g
  | opened node done => exact opened_composed composed node done
  | called call safe done => exact called_composed composed call safe done

theorem run_composed {r : Registry D} (run : Run (MachineStep k) (booted r) hist m) :
    Composed k hist m := by
  refine run_history (Composed k) ⟨⟨?_, ?_, ?_, ?_, ?_⟩, fun _ => .closed, ?_⟩
    (fun _ _ _ _ _ composed step => step_composed composed step) run
  · exact fun d => by simp [booted]
  · exact List.nodup_nil
  · exact fun _ _ => rfl
  · exact nofun
  · exact nofun
  · exact ⟨[], rfl, nofun, fun devs _ _ => ⟨_, .start, ⟨rfl, nofun⟩, fun _ _ => rfl⟩⟩

theorem dangling_iff (composed : Composed k hist m) (op : Op Nat F) :
    Dangling m.system op ↔ Orphaned hist op := by
  have told := composed.told op.handle
  refine and_congr_right fun _ => ⟨?_, ?_⟩
  · rintro ⟨file, opened, mode, freed⟩
    rw [who, opened, Option.map_some] at told
    cases seen : holders hist op.handle with
    | none =>
      rw [seen] at told
      cases told
    | some h =>
      rw [seen] at told
      cases told with
      | held node => exact absurd freed (composed.owned.nodes _ _ node).2
      | orphaned _ _ => exact ⟨_, rfl, mode, rfl⟩
  · rintro ⟨h, seen, mode, removed⟩
    rw [seen] at told
    cases opened : m.system.files op.handle with
    | none =>
      rw [who, opened, Option.map_none] at told
      cases told
    | some file =>
      rw [who, opened, Option.map_some] at told
      cases told with
      | held _ => cases removed
      | orphaned _ freed => exact ⟨file, rfl, mode, freed⟩

end Telling

structure FilesRight (k : NodeDriver) (hist : List (MachineEvent D F)) (m : Machine D F) :
    Prop where
  dangling : ∀ op, Dangling m.system op ↔ Orphaned hist op
  answered : ∀ op, ¬ opens op → ¬ Orphaned hist op →
    ∃ σ reply, vfsStep k.files m.system op = .done (σ, reply)
  simulated : ∃ σ₀ σ, Zeroed k.driver σ₀ ∧ Run (Pcd.Step k.driver) σ₀ (calls hist) σ ∧
    Agrees m.system σ

/-- In whatever order devices come and go and files are used, a call comes to freed private
data exactly if the device of its file has been removed since the open. All other calls are
answered as in a system whose devices stay, one for each binding, zeroed at first. -/
theorem files_of_bindings {k : NodeDriver} {r : Registry D} {hist : List (MachineEvent D F)}
    {m : Machine D F} (run : Run (MachineStep k) (booted r) hist m) : FilesRight k hist m := by
  have composed := run_composed run
  refine ⟨dangling_iff composed, fun op call settled => ?_, ?_⟩
  · have safe : ¬ Dangling m.system op := fun dangling =>
      settled ((dangling_iff composed op).mp dangling)
    obtain ⟨σ, reply, done, _⟩ := call_done composed safe fun f n fMode same => by
      subst same
      exact absurd trivial call
    exact ⟨σ, reply, done⟩
  · obtain ⟨created, _, fresh, runs⟩ := composed.simulated
    have zeroed := created_zeroed (k := k) (F := F) fresh
    obtain ⟨σ, run, agrees, _⟩ := runs _ (fun _ _ => rfl) zeroed
    exact ⟨_, σ, zeroed, run, agrees⟩

/-- A device of four bytes is removed while a file is open on it. -/
theorem files_of_bindings_removed : ∃ (hist : List (MachineEvent Unit Unit))
    (m : Machine Unit Unit), Run (MachineStep .platform) (booted ⟨0, 0, (0, MAX_DEVICES), [], []⟩)
      hist m ∧ Orphaned hist (.read () .full ⟨1, by decide⟩) ∧
      Dangling m.system (.read () .full ⟨1, by decide⟩) := by
  let loaded : Machine Unit Unit := booted ⟨0, 0, (0, MAX_DEVICES), [], []⟩
  let env : ProbeEnv := ⟨false, none, some ⟨4, RDWR, "PCDEVABC1111"⟩, true, true, true, 0, none, 0⟩
  let probe : MachineEvent Unit Unit := .bus ⟨.probe () 0 env, 0⟩
  let openFile : MachineEvent Unit Unit := .opened () ⟨.openFile () 0 3, none, ⟨0, []⟩⟩
  have bound : Run (MachineStep .platform) loaded [probe] _ := Run.start.snoc (.bound rfl rfl)
  have held : Run (MachineStep .platform) loaded [probe, openFile] _ :=
    bound.snoc (.opened rfl rfl)
  have gone : Run (MachineStep .platform) loaded [probe, openFile, .bus ⟨.remove (), 0⟩] _ :=
    held.snoc (.removed rfl rfl)
  have orphaned : Orphaned [probe, openFile, .bus ⟨.remove (), 0⟩]
      (.read () .full ⟨1, by decide⟩) :=
    ⟨id, ⟨(), 3, true⟩, rfl, rfl, rfl⟩
  exact ⟨_, _, gone, orphaned, ((files_of_bindings gone).dangling _).mpr orphaned⟩

end MadDriver.Bus

import MadDriver.Core.Kernel
import MadDriver.Core.Resources
import MadDriver.Core.Transition

/-! i2c_eeprom_drv: the device nodes its probe makes and its remove deletes, for any
number of minors in place of MINOR_NUM. -/
namespace MadDriver.I2c
open Kernel Resources Transition Function

inductive Resource where
  | region | cdev | mydeviceClass
  | node (minor : Nat)
  deriving Repr, DecidableEq

abbrev Calls := List (Call Resource)

def MINOR_BASE : Nat := 0

structure CreateEnv where
  allocChrdevRegion : Option ErrCode
  cdevAdd : Option ErrCode
  classCreate : Option ErrCode
  deviceCreate : Nat → Option ErrCode

structure CreateResult where
  ret : Int64
  calls : Calls

def deviceCreate (env : CreateEnv) (minor : Nat) : Call Resource :=
  match env.deviceCreate minor with
  | some _ => .failed (.node minor)
  | none => .acquired (.node minor)

/-- `for (; minor < MINOR_BASE + MINOR_NUM; minor++)`, with `left` minors to go. The
result of `device_create` is not looked at. -/
def createLoop (env : CreateEnv) : Nat → Nat → Calls
  | 0, _ => []
  | left + 1, minor => deviceCreate env minor :: createLoop env left (minor + 1)

def mydeviceI2cCreateCdev (minorNum : Nat) (env : CreateEnv) : CreateResult :=
  match env.allocChrdevRegion with
  | some _ => ⟨-1, [.failed .region]⟩
  | none =>
    match env.cdevAdd with
    | some _ => ⟨-1, [.acquired .region, .failed .cdev, .released .region]⟩
    | none =>
      match env.classCreate with
      | some _ =>
        ⟨-1, [.acquired .region, .acquired .cdev, .failed .mydeviceClass, .released .cdev,
          .released .region]⟩
      | none =>
        ⟨0, [.acquired .region, .acquired .cdev, .acquired .mydeviceClass] ++
          createLoop env minorNum MINOR_BASE⟩

def destroyLoop : Nat → Nat → Calls
  | 0, _ => []
  | left + 1, minor => .released (.node minor) :: destroyLoop left (minor + 1)

def mydeviceI2cDeleteCdev (minorNum : Nat) : Calls :=
  destroyLoop minorNum MINOR_BASE ++
    [.released .mydeviceClass, .released .cdev, .released .region]

/-- The result of `devm_kzalloc` is written through unchecked. -/
def mydeviceI2cProbe (devmKzalloc : Bool) (minorNum : Nat) (env : CreateEnv) :
    Outcome CreateResult :=
  if devmKzalloc = false then .wild
  else
    let r := mydeviceI2cCreateCdev minorNum env
    if r.ret ≠ 0 then .done ⟨-ENOMEM, r.calls⟩ else .done ⟨0, r.calls⟩

def mydeviceI2cRemove (minorNum : Nat) : Calls := mydeviceI2cDeleteCdev minorNum

def present (minorNum : Nat) : Resource → Nat
  | .node minor => if minor < minorNum then 1 else 0
  | .region | .cdev | .mydeviceClass => 1

def created (minorNum : Nat) (env : CreateEnv) : Resource → Nat :=
  holds nothing (mydeviceI2cCreateCdev minorNum env).calls

structure Deleted (minorNum : Nat) (env : CreateEnv) : Prop where
  legit : Legit (created minorNum env) (mydeviceI2cDeleteCdev minorNum)
  once : ∀ r, (mydeviceI2cDeleteCdev minorNum).count (.released r) = present minorNum r
  rest : holds (created minorNum env) (mydeviceI2cDeleteCdev minorNum) = nothing

structure AllOrNothing (minorNum : Nat) (env : CreateEnv) : Prop where
  legit : Legit nothing (mydeviceI2cCreateCdev minorNum env).calls
  whole : (mydeviceI2cCreateCdev minorNum env).ret = 0 →
    created minorNum env = present minorNum ∧ Deleted minorNum env
  undone : (mydeviceI2cCreateCdev minorNum env).ret ≠ 0 → created minorNum env = nothing

/-- No `device_create` fails, if the loop is reached. -/
def NodesMade (minorNum : Nat) (env : CreateEnv) : Prop :=
  env.allocChrdevRegion = none → env.cdevAdd = none → env.classCreate = none →
    ∀ minor < minorNum, env.deviceCreate minor = none

theorem createLoop_map (env : CreateEnv) (left minor : Nat) :
    createLoop env left minor = (List.range' minor left).map (deviceCreate env) := by
  induction left generalizing minor with
  | zero => rfl
  | succ left ih => rw [createLoop, ih, List.range'_succ, List.map_cons]

theorem destroyLoop_map (left minor : Nat) :
    destroyLoop left minor = ((List.range' minor left).map Resource.node).map .released := by
  induction left generalizing minor with
  | zero => rfl
  | succ left ih => rw [destroyLoop, ih, List.range'_succ, List.map_cons, List.map_cons]

def nodes (minorNum : Nat) : List Resource := (List.range' MINOR_BASE minorNum).map .node

theorem count_nodes (minorNum minor : Nat) :
    (nodes minorNum).count (.node minor) = if minor < minorNum then 1 else 0 := by
  have injective : Function.Injective Resource.node := fun _ _ same => Resource.node.inj same
  have member : minor ∈ List.range' MINOR_BASE minorNum ↔ minor < minorNum := by
    simp [List.mem_range'_1, MINOR_BASE]
  have distinct : (List.range' MINOR_BASE minorNum).Nodup := List.nodup_range'
  rw [nodes, List.count_map_of_injective _ _ injective, distinct.count]
  simp only [member]

theorem count_nodes_of_other {r : Resource} (other : ∀ minor, r ≠ .node minor) (minorNum : Nat) :
    (nodes minorNum).count r = 0 := by
  rw [List.count_eq_zero, nodes, List.mem_map]
  rintro ⟨minor, _, same⟩
  exact other minor same.symm

theorem count_present {three : List Resource} (no_node : ∀ minor, .node minor ∉ three)
    (region : three.count .region = 1) (cdev : three.count .cdev = 1)
    (mydeviceClass : three.count .mydeviceClass = 1) (minorNum : Nat) (r : Resource) :
    three.count r + (nodes minorNum).count r = present minorNum r := by
  cases r with
  | node minor =>
    rw [List.count_eq_zero_of_not_mem (no_node minor), count_nodes, Nat.zero_add]
    rfl
  | region =>
    rw [region, count_nodes_of_other (by simp)]
    rfl
  | cdev =>
    rw [cdev, count_nodes_of_other (by simp)]
    rfl
  | mydeviceClass =>
    rw [mydeviceClass, count_nodes_of_other (by simp)]
    rfl

def createOrder (minorNum : Nat) : List Resource :=
  [.region, .cdev, .mydeviceClass] ++ nodes minorNum

def deleteOrder (minorNum : Nat) : List Resource :=
  nodes minorNum ++ [.mydeviceClass, .cdev, .region]

theorem count_createOrder (minorNum : Nat) (r : Resource) :
    (createOrder minorNum).count r = present minorNum r := by
  rw [createOrder, List.count_append]
  exact count_present (by simp) rfl rfl rfl minorNum r

theorem count_deleteOrder (minorNum : Nat) (r : Resource) :
    (deleteOrder minorNum).count r = present minorNum r := by
  rw [deleteOrder, List.count_append, Nat.add_comm]
  exact count_present (by simp) rfl rfl rfl minorNum r

theorem delete_calls (minorNum : Nat) :
    mydeviceI2cDeleteCdev minorNum = (deleteOrder minorNum).map .released := by
  rw [mydeviceI2cDeleteCdev, destroyLoop_map, deleteOrder, List.map_append]
  rfl

section Create

variable {minorNum : Nat} {env : CreateEnv}

theorem deleted_of_present (whole : created minorNum env = present minorNum) :
    Deleted minorNum env := by
  have held : ∀ r, created minorNum env r = (deleteOrder minorNum).count r := by
    intro r
    rw [whole, count_deleteOrder]
  have released := releases_all (created minorNum env) held
  rw [← delete_calls] at released
  refine ⟨released.1, ?_, released.2⟩
  intro r
  rw [delete_calls, count_released, count_deleteOrder]

theorem create_refused (refused : env.allocChrdevRegion = none → env.cdevAdd = none →
    env.classCreate ≠ none) : AllOrNothing minorNum env := by
  have exits : (mydeviceI2cCreateCdev minorNum env).ret = -1 ∧
      ((mydeviceI2cCreateCdev minorNum env).calls = [.failed .region] ∨
        (mydeviceI2cCreateCdev minorNum env).calls =
          [.acquired .region, .failed .cdev, .released .region] ∨
        (mydeviceI2cCreateCdev minorNum env).calls =
          [.acquired .region, .acquired .cdev, .failed .mydeviceClass, .released .cdev,
            .released .region]) := by
    cases region : env.allocChrdevRegion with
    | some code => simp [mydeviceI2cCreateCdev, region]
    | none =>
      cases cdev : env.cdevAdd with
      | some code => simp [mydeviceI2cCreateCdev, region, cdev]
      | none =>
        cases made : env.classCreate with
        | some code => simp [mydeviceI2cCreateCdev, region, cdev, made]
        | none => exact absurd made (refused region cdev)
  obtain ⟨ret, calls⟩ := exits
  refine ⟨?_, ?_, ?_⟩
  · rcases calls with calls | calls | calls
    all_goals
      rw [calls]
      simp [Legit, Call.Allowed, Call.book, nothing]
  · rw [ret]
    intro success
    exact absurd success (by decide)
  · intro _
    ext r
    rw [created]
    rcases calls with calls | calls | calls
    all_goals
      rw [calls]
      cases r <;> rfl

theorem create_calls (region : env.allocChrdevRegion = none) (cdev : env.cdevAdd = none)
    (made : env.classCreate = none) : mydeviceI2cCreateCdev minorNum env =
      ⟨0, [.acquired .region, .acquired .cdev, .acquired .mydeviceClass] ++
        (List.range' MINOR_BASE minorNum).map (deviceCreate env)⟩ := by
  simp only [mydeviceI2cCreateCdev, region, cdev, made, createLoop_map]

theorem deviceCreate_keeps (env : CreateEnv) (minor : Nat) (r : Resource) :
    deviceCreate env minor ≠ .released r := by
  unfold deviceCreate
  split <;> simp

theorem deviceCreate_node {minor : Nat} {r : Resource}
    (made : deviceCreate env minor = .acquired r) :
    r = .node minor ∧ env.deviceCreate minor = none := by
  unfold deviceCreate at made
  split at made
  · cases made
  · rename_i success
    cases made
    exact ⟨rfl, success⟩

theorem created_count (region : env.allocChrdevRegion = none) (cdev : env.cdevAdd = none)
    (made : env.classCreate = none) : Legit nothing (mydeviceI2cCreateCdev minorNum env).calls ∧
      ∀ r, created minorNum env r =
        (mydeviceI2cCreateCdev minorNum env).calls.count (.acquired r) := by
  have keeps : ∀ r, .released r ∉ (mydeviceI2cCreateCdev minorNum env).calls := by
    intro r
    simp [create_calls region cdev made, deviceCreate_keeps]
  refine ⟨legit_of_no_release _ keeps, fun r => ?_⟩
  rw [created, holds_of_no_release _ keeps, nothing, Nat.zero_add]

theorem created_of_made (region : env.allocChrdevRegion = none) (cdev : env.cdevAdd = none)
    (made : env.classCreate = none) (all : ∀ minor < minorNum, env.deviceCreate minor = none) :
    created minorNum env = present minorNum := by
  have loop : (List.range' MINOR_BASE minorNum).map (deviceCreate env) =
      (nodes minorNum).map .acquired := by
    rw [nodes, List.map_map]
    apply List.map_congr_left
    intro minor member
    have below : minor < minorNum := by simpa [List.mem_range'_1, MINOR_BASE] using member
    simp only [deviceCreate, all minor below, Function.comp_apply]
  have calls : (mydeviceI2cCreateCdev minorNum env).calls =
      (createOrder minorNum).map .acquired := by
    rw [create_calls region cdev made, loop, createOrder, List.map_append]
    rfl
  ext r
  rw [(created_count region cdev made).2, calls, count_acquired, count_createOrder]

/-- A node whose creation failed is missing, though the creation returns 0. -/
theorem created_missing (region : env.allocChrdevRegion = none) (cdev : env.cdevAdd = none)
    (made : env.classCreate = none) {minor : Nat} (failed : env.deviceCreate minor ≠ none) :
    created minorNum env (.node minor) = 0 := by
  rw [(created_count region cdev made).2, create_calls region cdev made, List.count_eq_zero]
  simp only [List.mem_append, List.mem_map, not_or]
  refine ⟨by simp, ?_⟩
  rintro ⟨other, _, same⟩
  obtain ⟨here, success⟩ := deviceCreate_node same
  cases here
  exact failed success

theorem sound_of_made (made : NodesMade minorNum env) : AllOrNothing minorNum env := by
  by_cases refused : env.allocChrdevRegion = none → env.cdevAdd = none → env.classCreate ≠ none
  · exact create_refused refused
  · obtain ⟨region, later⟩ := Classical.not_imp.mp refused
    obtain ⟨cdev, classed⟩ := Classical.not_imp.mp later
    have registered := Classical.not_not.mp classed
    have whole := created_of_made region cdev registered (made region cdev registered)
    refine ⟨?_, fun _ => ⟨whole, deleted_of_present whole⟩, ?_⟩
    · exact (created_count region cdev registered).1
    · rw [create_calls region cdev registered]
      exact absurd rfl

theorem made_of_whole (whole : (mydeviceI2cCreateCdev minorNum env).ret = 0 →
    created minorNum env = present minorNum) : NodesMade minorNum env := by
  intro region cdev registered minor below
  refine Classical.byContradiction fun failed => ?_
  have ret : (mydeviceI2cCreateCdev minorNum env).ret = 0 := by
    rw [create_calls region cdev registered]
  have there := congrFun (whole ret) (.node minor)
  rw [created_missing region cdev registered failed, present, if_pos below] at there
  exact absurd there (by decide)

end Create

theorem all_or_nothing_iff (minorNum : Nat) (env : CreateEnv) :
    AllOrNothing minorNum env ↔ NodesMade minorNum env :=
  ⟨fun sound => made_of_whole fun ret => (sound.whole ret).1, sound_of_made⟩

def noDevice : CreateEnv := ⟨none, none, none, fun _ => some ⟨-ENOMEM, by decide⟩⟩

/-- The creation returns 0 without the node, and the deletion destroys it all the same. -/
theorem one_node_missing :
    (mydeviceI2cCreateCdev 1 noDevice).ret = 0 ∧ created 1 noDevice (.node 0) = 0 ∧
    ¬ Legit (created 1 noDevice) (mydeviceI2cDeleteCdev 1) ∧ ¬ AllOrNothing 1 noDevice := by
  have ret : (mydeviceI2cCreateCdev 1 noDevice).ret = 0 := rfl
  have missing : ¬ Legit (created 1 noDevice) (mydeviceI2cDeleteCdev 1) := by decide
  exact ⟨ret, rfl, missing, fun sound => missing (sound.whole ret).2.legit⟩

structure Clients (I : Type) where
  bound : I → Bool
  held : I → Resource → Nat

def noClient {I : Type} : Clients I where
  bound _ := false
  held _ := nothing

inductive Event (I : Type) where
  | probe (i : I) (env : CreateEnv) (r : CreateResult)
  | remove (i : I)

section Clients

variable {I : Type} (minorNum : Nat)

def Event.client : Event I → I
  | .probe i _ _ | .remove i => i

def Event.calls : Event I → Calls
  | .probe _ _ r => r.calls
  | .remove _ => mydeviceI2cRemove minorNum

def Event.Made : Event I → Prop
  | .probe _ env _ => NodesMade minorNum env
  | .remove _ => True

/-- The memory of a device is there, and a device is removed if its probe has bound it. -/
inductive Step [DecidableEq I] (s : Clients I) : Event I → Clients I → Prop where
  | probe {i : I} {env : CreateEnv} {r : CreateResult} : s.bound i = false →
      mydeviceI2cProbe true minorNum env = .done r →
      Step s (.probe i env r)
        ⟨update s.bound i (r.ret = 0), update s.held i (holds (s.held i) r.calls)⟩
  | remove {i : I} : s.bound i = true →
      Step s (.remove i)
        ⟨update s.bound i false,
          update s.held i (holds (s.held i) (mydeviceI2cRemove minorNum))⟩

def Whole (bound : Bool) (held : Resource → Nat) : Prop :=
  held = if bound = true then present minorNum else nothing

def Right (s : Clients I) : Prop := ∀ i, Whole minorNum (s.bound i) (s.held i)

variable {minorNum} {env : CreateEnv} {r : CreateResult}

theorem probe_result (done : mydeviceI2cProbe true minorNum env = .done r) :
    r.calls = (mydeviceI2cCreateCdev minorNum env).calls ∧
      (r.ret = 0 ↔ (mydeviceI2cCreateCdev minorNum env).ret = 0) := by
  have error : (-ENOMEM : Int64) ≠ 0 := by decide
  rw [mydeviceI2cProbe, if_neg (by decide)] at done
  dsimp only at done
  split at done
  · rename_i failed
    cases done
    exact ⟨rfl, iff_of_false error failed⟩
  · rename_i success
    cases done
    exact ⟨rfl, iff_of_true rfl (Decidable.not_not.mp success)⟩

theorem probe_whole_iff (done : mydeviceI2cProbe true minorNum env = .done r) :
    Legit nothing r.calls ∧ Whole minorNum (r.ret = 0) (holds nothing r.calls) ↔
      NodesMade minorNum env := by
  obtain ⟨calls, ret⟩ := probe_result done
  have held : holds nothing r.calls = created minorNum env := by rw [calls, created]
  rw [Whole, held, calls]
  constructor
  · rintro ⟨_, whole⟩
    refine made_of_whole fun success => ?_
    rwa [if_pos (by simpa using ret.mpr success)] at whole
  · intro made
    have sound := sound_of_made made
    refine ⟨sound.legit, ?_⟩
    by_cases success : r.ret = 0
    · rw [if_pos (by simpa using success)]
      exact (sound.whole (ret.mp success)).1
    · rw [if_neg (by simpa using success)]
      exact sound.undone fun created => success (ret.mpr created)

variable [DecidableEq I] {s t : Clients I} {e : Event I}

theorem right_update_iff (right : Right minorNum s) (i : I) (bound : Bool)
    (held : Resource → Nat) :
    Right minorNum ⟨update s.bound i bound, update s.held i held⟩ ↔ Whole minorNum bound held := by
  constructor
  · intro after
    have here := after i
    dsimp only at here
    rwa [update_self, update_self] at here
  · intro whole j
    dsimp only
    rcases eq_or_ne j i with rfl | other
    · rwa [update_self, update_self]
    · rw [update_of_ne other, update_of_ne other]
      exact right j

theorem step_right_iff (right : Right minorNum s) (step : Step minorNum s e t) :
    Legit (s.held e.client) (e.calls minorNum) ∧ Right minorNum t ↔ e.Made minorNum := by
  cases step with
  | @probe i env r unbound done =>
    have before : s.held i = nothing := by
      have here := right i
      rwa [unbound, Whole, if_neg (by decide)] at here
    rw [right_update_iff right, Event.client, Event.calls, before]
    exact probe_whole_iff done
  | @remove i bound =>
    have before : ∀ r, s.held i r = (deleteOrder minorNum).count r := by
      intro r
      have here := right i
      rw [bound, Whole, if_pos rfl] at here
      rw [here, count_deleteOrder]
    have released := releases_all (s.held i) before
    rw [← delete_calls] at released
    rw [right_update_iff right, Whole, if_neg (by decide)]
    exact iff_of_true released trivial

/-- Any clients, probed and removed any number of times. -/
theorem clients_run {hist : List (Event I)}
    (run : Run (Guarded (Step minorNum) fun _ e => e.Made minorNum) noClient hist s) :
    Right minorNum s ∧ ∀ e t, Step minorNum s e t →
      (Legit (s.held e.client) (e.calls minorNum) ∧ Right minorNum t ↔ e.Made minorNum) := by
  have right : Right minorNum s := by
    have none_bound : Right minorNum (noClient : Clients I) := by
      intro i
      rw [Whole, noClient, if_neg Bool.false_ne_true]
    refine run_invariant (Right minorNum) none_bound ?_ run
    intro s e t right step
    exact ((step_right_iff right step.1).mpr step.2).2
  exact ⟨right, fun e t step => step_right_iff right step⟩

end Clients

def allMade : CreateEnv := ⟨none, none, none, fun _ => none⟩

def noClass : CreateEnv := ⟨none, none, some ⟨-ENOMEM, by decide⟩, fun _ => none⟩

/-- A second client is refused the class, and is bound when the first has gone. -/
theorem clients_run_second : ∃ (hist : List (Event Bool)) (s : Clients Bool),
    Run (Guarded (Step 2) fun _ e => e.Made 2) noClient hist s ∧ s.bound false = false ∧
      s.bound true = true ∧ hist.flatMap (Event.calls 2) =
        (mydeviceI2cCreateCdev 2 allMade).calls ++ (mydeviceI2cCreateCdev 2 noClass).calls ++
          mydeviceI2cDeleteCdev 2 ++ (mydeviceI2cCreateCdev 2 allMade).calls ∧
      Right 2 s ∧ ∀ e t, Step 2 s e t →
        (Legit (s.held e.client) (e.calls 2) ∧ Right 2 t ↔ e.Made 2) := by
  have made : NodesMade 2 allMade := fun _ _ _ _ _ => rfl
  have refused : NodesMade 2 noClass := fun _ _ registered => by cases registered
  have run : ∃ s, Run (Guarded (Step 2) fun _ e => e.Made 2) noClient
      [.probe false allMade ⟨0, (mydeviceI2cCreateCdev 2 allMade).calls⟩,
        .probe true noClass ⟨-ENOMEM, (mydeviceI2cCreateCdev 2 noClass).calls⟩,
        .remove false, .probe true allMade ⟨0, (mydeviceI2cCreateCdev 2 allMade).calls⟩] s ∧
      s.bound false = false ∧ s.bound true = true := by
    refine ⟨_, .snoc (.snoc (.snoc (.snoc .start
      ⟨.probe rfl rfl, made⟩)
      ⟨.probe rfl rfl, refused⟩)
      ⟨.remove rfl, trivial⟩)
      ⟨.probe rfl rfl, made⟩, rfl, rfl⟩
  obtain ⟨s, run, free, bound⟩ := run
  exact ⟨_, s, run, free, bound, rfl, clients_run run⟩

end MadDriver.I2c

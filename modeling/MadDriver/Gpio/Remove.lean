import MadDriver.Gpio.Devices

/-! When a remove unregisters the devices of its platform device: exactly when that
was probed last and no child of it is unavailable. -/
namespace MadDriver.GpioSysfs
open Kernel Transition Function Table

variable {P G : Type}

def Child.device (child : Child G) : Option G :=
  match child.desc with
  | .error _ => none
  | .ok desc =>
    if child.kzalloc = true ∧ child.directionOutput = 0 ∧ child.deviceCreate = none then some desc
    else none

theorem Child.device_eq_some {child : Child G} {desc : G} :
    child.device = some desc ↔ child.kzalloc = true ∧ child.desc = .ok desc ∧
      child.directionOutput = 0 ∧ child.deviceCreate = none := by
  unfold Child.device
  cases child.desc with
  | error code => simp
  | ok found =>
    simp only [Option.ite_none_right_eq_some, Option.some.injEq, Except.ok.injEq]
    tauto

def available (children : List (Child G)) : Nat := children.countP (·.available)

def ids (s : State P G) : List Nat := s.classDevices.map ClassDevice.id

/-- What a probe does that comes to the end of its children: the next k ids go into
the class and into the slots from i on. -/
structure Made (k i : Nat) (s s' : State P G) : Prop where
  totalDevices : s'.totalDevices = s.totalDevices
  dev : s'.dev = s.dev
  bound : s'.bound = s.bound
  next : s'.next = s.next + k
  classDevices : ids s' = ids s ++ List.range' s.next k
  others : ∀ r, s.dev ≠ some r → s'.memory r = s.memory r
  slots : ∀ r slots, s.dev = some r → s.memory r = some slots →
    (k = 0 ∨ i + k ≤ slots.length) ∧
      s'.memory r = some (Bytes.patch slots i ((List.range' s.next k).map .device))
  array : 0 < k → ∃ r slots, s.dev = some r ∧ s.memory r = some slots

section Calls

variable [DecidableEq P]

omit [DecidableEq P] in
theorem array_done_iff {s : State P G} {r : P} {slots : List Slot} :
    array s = .done (r, slots) ↔ s.dev = some r ∧ s.memory r = some slots := by
  unfold array
  cases s.dev with
  | none => simp
  | some q =>
    cases found : s.memory q with
    | none =>
      simp only [found, reduceCtorEq, false_iff, Option.some.injEq]
      rintro ⟨rfl, here⟩
      cases found.symm.trans here
    | some slots' =>
      simp only [found, Outcome.done.injEq, Prod.mk.injEq, Option.some.injEq]
      constructor
      · rintro ⟨rfl, rfl⟩
        exact ⟨rfl, found⟩
      · rintro ⟨rfl, here⟩
        exact ⟨rfl, Option.some.inj (found.symm.trans here)⟩

theorem storeDev_done {s s' : State P G} {i : Nat} {slot : Slot}
    (done : storeDev s i slot = .done s') :
    ∃ r slots, s.dev = some r ∧ s.memory r = some slots ∧ i < slots.length ∧
      s' = { s with memory := update s.memory r (some (slots.set i slot)) } := by
  obtain ⟨⟨r, slots⟩, found, stored⟩ := Outcome.bind_done.mp done
  obtain ⟨dev, memory⟩ := array_done_iff.mp found
  simp only at stored
  split at stored
  · rename_i inside
    exact ⟨r, slots, dev, memory, inside, (Outcome.done.inj stored).symm⟩
  · cases stored

inductive Probed (p : P) (s : State P G) (i : Nat) (child : Child G) (rest : List (Child G))
    (ret : Int64) (s' : State P G) : Prop where
  | unavailable (unavailable : child.available = false)
      (later : probeChildren p s i rest = .done (ret, s'))
  | failed (usable : child.available = true) (missing : child.device = none) (nonzero : ret ≠ 0)
      (same : s'.classDevices = s.classDevices)
  | made {desc : G} {r : P} {slots : List Slot} (usable : child.available = true)
      (device : child.device = some desc) (dev : s.dev = some r) (memory : s.memory r = some slots)
      (inside : i < slots.length)
      (later : probeChildren p { s with
        memory := update s.memory r (some (slots.set i (.device s.next)))
        classDevices := s.classDevices ++ [⟨s.next, p, child.label.getD (unkngpio i), desc⟩]
        next := s.next + 1 } (i + 1) rest = .done (ret, s'))

theorem probeChildren_cons {p : P} {s s' : State P G} {i : Nat} {child : Child G}
    {rest : List (Child G)} {ret : Int64}
    (done : probeChildren p s i (child :: rest) = .done (ret, s')) :
    Probed p s i child rest ret s' := by
  have negative : ∀ code : ErrPtr, code.val ≠ 0 := fun code => negative_ne_zero code.property
  unfold probeChildren at done
  split at done
  · rename_i unavailable
    exact .unavailable unavailable done
  · rename_i enabled
    have usable : child.available = true := by simpa using enabled
    have stopped : (∀ desc, child.device ≠ some desc) → ret ≠ 0 →
        s'.classDevices = s.classDevices → Probed p s i child rest ret s' :=
      fun none => .failed usable (Option.eq_none_iff_forall_ne_some.mpr none)
    split at done
    · rename_i refused
      cases done
      exact stopped (fun _ made => by simp [Child.device_eq_some, refused] at made) (by decide) rfl
    · rename_i granted
      split at done
      · rename_i code missing
        cases done
        exact stopped (fun _ made => by simp [Child.device_eq_some, missing] at made)
          (negative code) rfl
      · rename_i desc found
        split at done
        · rename_i nonzero
          cases done
          exact stopped (fun _ made => by simp [Child.device_eq_some, nonzero] at made) nonzero rfl
        · rename_i output
          split at done
          · rename_i code failed
            obtain ⟨_, stored, result⟩ := Outcome.map_done.mp done
            obtain ⟨_, _, _, _, _, rfl⟩ := storeDev_done stored
            cases result
            exact stopped (fun _ made => by simp [Child.device_eq_some, failed] at made)
              (negative code) rfl
          · rename_i succeeded
            obtain ⟨_, stored, later⟩ := Outcome.bind_done.mp done
            obtain ⟨r, slots, dev, memory, inside, rfl⟩ := storeDev_done stored
            have device : child.device = some desc := Child.device_eq_some.mpr
              ⟨by simpa using granted, found, Decidable.not_not.mp output, succeeded⟩
            exact .made usable device dev memory inside later

theorem made_store {p r : P} {s s' : State P G} {i k : Nat} {slots : List Slot}
    {devData : GpiodevPrivateData G} (dev : s.dev = some r) (memory : s.memory r = some slots)
    (inside : i < slots.length)
    (made : Made k (i + 1) { s with
      memory := update s.memory r (some (slots.set i (.device s.next)))
      classDevices := s.classDevices ++ [⟨s.next, p, devData⟩]
      next := s.next + 1 } s') : Made (k + 1) i s s' := by
  refine ⟨made.totalDevices, made.dev, made.bound, ?_, ?_, ?_, ?_, fun _ => ⟨r, slots, dev, memory⟩⟩
  · rw [made.next]
    exact Nat.add_right_comm _ _ _
  · rw [made.classDevices, List.range'_succ]
    simp [ids]
  · intro q other
    rw [made.others q other]
    refine update_of_ne ?_ _ _
    rintro rfl
    exact other dev
  · intro q slots' dev' memory'
    cases dev.symm.trans dev'
    cases memory.symm.trans memory'
    obtain ⟨room, result⟩ := made.slots r _ dev (update_self r _ s.memory)
    rw [List.length_set] at room
    refine ⟨.inr (by omega), ?_⟩
    rw [result, List.range'_succ, List.map_cons, Bytes.patch_cons inside]

theorem probeChildren_made {p : P} {s s' : State P G} {i : Nat} {children : List (Child G)}
    (done : probeChildren p s i children = .done (0, s')) :
    Made (available children) i s s' := by
  induction children generalizing s i with
  | nil =>
    cases done
    refine ⟨rfl, rfl, rfl, rfl, by simp [available], fun _ _ => rfl, ?_, nofun⟩
    intro r slots _ memory
    exact ⟨.inl rfl, by simpa [available] using memory⟩
  | cons child rest ih =>
    cases probeChildren_cons done with
    | unavailable unavailable later =>
      have same : available (child :: rest) = available rest := by
        simp [available, unavailable]
      rw [same]
      exact ih later
    | failed _ _ nonzero => exact absurd rfl nonzero
    | made usable _ dev memory inside later =>
      have more : available (child :: rest) = available rest + 1 := List.countP_cons_of_pos usable
      rw [more]
      exact made_store dev memory inside (ih later)

omit [DecidableEq P] in
theorem deviceUnregister_done {s s' : State P G} {slot : Slot} {id : Nat}
    (done : deviceUnregister s slot = .done (id, s')) :
    slot = .device id ∧
      s' = { s with classDevices := s.classDevices.filter (·.id ≠ id) } := by
  unfold deviceUnregister at done
  split at done
  · split at done
    · cases done
      exact ⟨rfl, rfl⟩
    · cases done
  · cases done

omit [DecidableEq P] in
/-- Nothing but devices is unregistered, those in the first slots. -/
theorem removeLoop_slots {r : P} {slots : List Slot} {left i : Nat} {s s' : State P G}
    {unregistered : List Nat} (here : array s = .done (r, slots))
    (done : removeLoop left i s = .done (unregistered, s')) :
    (slots.drop i).take left = unregistered.map .device ∧ unregistered.length = left := by
  induction left generalizing i s unregistered with
  | zero =>
    cases done
    exact ⟨by simp, rfl⟩
  | succ left ih =>
    obtain ⟨slot, loaded, later⟩ := Outcome.bind_done.mp done
    obtain ⟨⟨id, s₁⟩, unregister, rest⟩ := Outcome.bind_done.mp later
    obtain ⟨⟨behind, s₂⟩, looped, result⟩ := Outcome.map_done.mp rest
    cases result
    have value : slots[i]? = some slot := by
      simp only [loadDev, here, Outcome.bind] at loaded
      split at loaded
      · cases loaded
      · rename_i found
        exact found.trans (congrArg some (Outcome.done.inj loaded))
    obtain ⟨rfl, rfl⟩ := deviceUnregister_done unregister
    have here' : array { s with classDevices := s.classDevices.filter (·.id ≠ id) } =
        .done (r, slots) := here
    obtain ⟨front, length⟩ := ih here' looped
    obtain ⟨inside, first⟩ := List.getElem?_eq_some_iff.mp value
    refine ⟨?_, by rw [List.length_cons, length]⟩
    rw [List.drop_eq_getElem_cons inside, List.take_succ_cons, first, front, List.map_cons]

omit [DecidableEq P] in
theorem removeLoop_devices {r : P} {slots : List Slot} {i : Nat} {s : State P G}
    {devices : List Nat} (here : array s = .done (r, slots))
    (held : slots.drop i = devices.map .device) (nodup : devices.Nodup)
    (registered : ∀ id ∈ devices, id ∈ ids s) :
    removeLoop devices.length i s =
      .done (devices, { s with classDevices := s.classDevices.filter (·.id ∉ devices) }) := by
  induction devices generalizing i s with
  | nil =>
    rw [List.length_nil, removeLoop]
    simp
  | cons id devices ih =>
    obtain ⟨fresh, rest⟩ := List.nodup_cons.mp nodup
    have inside : i < slots.length := by
      have length := congrArg List.length held
      simp at length
      omega
    rw [List.drop_eq_getElem_cons inside, List.map_cons, List.cons.injEq] at held
    have slot : loadDev s i = .done (.device id) := by
      simp [loadDev, here, Outcome.bind, inside, held.1]
    have unregister : deviceUnregister s (.device id) =
        .done (id, { s with classDevices := s.classDevices.filter (·.id ≠ id) }) := by
      have member : id ∈ s.classDevices.map ClassDevice.id := registered id List.mem_cons_self
      simp only [deviceUnregister, if_pos member]
    have looped := ih (i := i + 1) (s := { s with
      classDevices := s.classDevices.filter (·.id ≠ id) }) here held.2 rest ?_
    · have both : (s.classDevices.filter (·.id ≠ id)).filter (·.id ∉ devices) =
          s.classDevices.filter (·.id ∉ id :: devices) := by
        rw [List.filter_filter]
        refine List.filter_congr fun device _ => ?_
        simp [Bool.and_comm]
      simp only [List.length_cons, removeLoop, slot, Outcome.bind, unregister, looped, Outcome.map,
        both]
    · intro id' member
      have old := registered id' (List.mem_cons_of_mem _ member)
      have other : id' ≠ id := by
        rintro rfl
        exact fresh member
      obtain ⟨device, registered', rfl⟩ := List.mem_map.mp old
      exact List.mem_map.mpr ⟨device, List.mem_filter.mpr ⟨registered', by simpa using other⟩, rfl⟩

end Calls

def lastProbe (hist : List (Event P G)) : Option (P × List (Child G)) :=
  hist.foldl (fun last e =>
    match e with
    | .probe p children => some (p, children)
    | .remove _ _ => last) none

/-- The platform device was probed last, and all its children are available. -/
def LatestWhole (hist : List (Event P G)) (p : P) : Prop :=
  ∃ children, lastProbe hist = some (p, children) ∧ ∀ child ∈ children, child.available = true

/-- Every remove so far was of such a platform device. -/
def InOrder (hist : List (Event P G)) : Prop :=
  ∀ before p unregistered after, hist = before ++ .remove p unregistered :: after →
    LatestWhole before p

/-- A remove now would unregister exactly these devices, each once. -/
def Matches (s : State P G) (devices : List Nat) : Prop :=
  ∃ unregistered s', gpioSysfsRemove s = .done (unregistered, s') ∧ unregistered.Perm devices

structure Latest (s : State P G) (q : P) (children : List (Child G)) : Prop where
  totalDevices : s.totalDevices = children.length
  someChild : 0 < children.length
  dev : s.dev = none ∨ s.dev = some q
  made : ∀ devices, s.bound q = some devices → devices.length = available children ∧
    (s.dev = none → devices = []) ∧
    (s.dev = some q → s.memory q =
      some (devices.map .device ++ List.replicate (children.length - devices.length) .null))

structure Books (hist : List (Event P G)) (s : State P G) : Prop where
  registered : ∀ p devices, s.bound p = some devices → ∀ id ∈ devices, id ∈ ids s
  nodup : ∀ p devices, s.bound p = some devices → devices.Nodup
  own : ∀ p q devices devices' id, s.bound p = some devices → s.bound q = some devices' →
    id ∈ devices → id ∈ devices' → p = q
  fresh : ∀ id ∈ ids s, id < s.next
  unbound : ∀ p, s.bound p = none → s.memory p = none
  probed : ∀ p devices, s.bound p = some devices → lastProbe hist ≠ none
  latest : ∀ q children, lastProbe hist = some (q, children) → Latest s q children

theorem loaded_books : Books [] (loaded : State P G) :=
  ⟨nofun, nofun, nofun, nofun, fun _ _ => rfl, nofun, nofun⟩

@[simp] theorem lastProbe_probe (hist : List (Event P G)) (p : P) (children : List (Child G)) :
    lastProbe (hist ++ [.probe p children]) = some (p, children) := by
  simp [lastProbe, List.foldl_append]

@[simp] theorem lastProbe_remove (hist : List (Event P G)) (p : P) (unregistered : List Nat) :
    lastProbe (hist ++ [.remove p unregistered]) = lastProbe hist := by
  simp [lastProbe, List.foldl_append]

theorem available_eq_iff {children : List (Child G)} :
    available children = children.length ↔ ∀ child ∈ children, child.available = true :=
  List.countP_eq_length

theorem remove_whole {hist : List (Event P G)} {s : State P G} {p : P} {devices : List Nat}
    (books : Books hist s) (bound : s.bound p = some devices) (whole : LatestWhole hist p) :
    gpioSysfsRemove s =
      .done (devices, { s with classDevices := s.classDevices.filter (·.id ∉ devices) }) := by
  obtain ⟨children, last, usable⟩ := whole
  have latest := books.latest p children last
  obtain ⟨length, missing, filled⟩ := latest.made devices bound
  rw [available_eq_iff.mpr usable] at length
  have dev : s.dev = some p := by
    rcases latest.dev with null | here
    · have some_child := latest.someChild
      rw [missing null] at length
      exact absurd length (Nat.ne_of_lt some_child)
    · exact here
  have memory : s.memory p = some (devices.map .device) := by
    rw [filled dev, length, Nat.sub_self, List.replicate_zero, List.append_nil]
  have looped := removeLoop_devices (array_done_iff.mpr ⟨dev, memory⟩) List.drop_zero
    (books.nodup p devices bound) (books.registered p devices bound)
  rwa [length, ← latest.totalDevices] at looped

theorem matches_iff {hist : List (Event P G)} {s : State P G} {p : P} {devices : List Nat}
    (books : Books hist s) (bound : s.bound p = some devices) :
    Matches s devices ↔ LatestWhole hist p := by
  constructor
  · rintro ⟨unregistered, s', done, same⟩
    obtain ⟨⟨q, children⟩, last⟩ := Option.ne_none_iff_exists'.mp (books.probed p devices bound)
    have latest := books.latest q children last
    rw [gpioSysfsRemove, latest.totalDevices] at done
    obtain ⟨n, count⟩ : ∃ n, children.length = n + 1 :=
      ⟨_, (Nat.sub_add_cancel latest.someChild).symm⟩
    obtain ⟨⟨r, slots⟩, here⟩ : ∃ found, array s = .done found := by
      rw [count, removeLoop] at done
      obtain ⟨_, loaded, _⟩ := Outcome.bind_done.mp done
      obtain ⟨found, here, _⟩ := Outcome.bind_done.mp loaded
      exact ⟨found, here⟩
    obtain ⟨dev, memory⟩ := array_done_iff.mp here
    have own : q = r := by
      rcases latest.dev with null | points
      · cases null.symm.trans dev
      · exact Option.some.inj (points.symm.trans dev)
    subst own
    obtain ⟨devices', bound'⟩ : ∃ devices', s.bound q = some devices' := by
      cases binding : s.bound q with
      | none => cases memory.symm.trans (books.unbound q binding)
      | some devices' => exact ⟨devices', rfl⟩
    obtain ⟨length, _, filled⟩ := latest.made devices' bound'
    obtain ⟨front, counted⟩ := removeLoop_slots here done
    cases memory.symm.trans (filled dev)
    have at_most : available children ≤ children.length := List.countP_le_length
    rw [List.drop_zero, List.take_of_length_le (by simp; omega)] at front
    have full : children.length - devices'.length = 0 := by
      by_contra short
      have null : Slot.null ∈ unregistered.map Slot.device := by
        rw [← front]
        exact List.mem_append_right _ (List.mem_replicate.mpr ⟨short, rfl⟩)
      obtain ⟨_, _, device⟩ := List.mem_map.mp null
      cases device
    rw [full, List.replicate_zero, List.append_nil] at front
    have equal : devices' = unregistered :=
      List.map_injective_iff.mpr (fun _ _ => Slot.device.inj) front
    subst equal
    obtain ⟨id, member⟩ := List.exists_mem_of_length_pos (counted.symm ▸ latest.someChild)
    cases books.own q p devices' devices id bound' bound member (same.mem_iff.mp member)
    exact ⟨children, last, available_eq_iff.mp (by omega)⟩
  · intro whole
    exact ⟨devices, _, remove_whole books bound whole, List.Perm.refl _⟩

section Steps

variable [DecidableEq P]

theorem probe_made {s s' : State P G} {p : P} {kzalloc : Bool} {children : List (Child G)}
    (done : probe s p kzalloc children = .done (0, s')) :
    0 < children.length ∧ ∃ s₁, Made (available children) 0 { s with
      totalDevices := children.length
      dev := if kzalloc then some p else none
      memory := if kzalloc then
        update s.memory p (some (List.replicate children.length .null)) else s.memory } s₁ ∧
      s' = { s₁ with
        bound := update s₁.bound p (some (List.range' s.next (available children))) } := by
  obtain ⟨⟨ret, s₁⟩, probed, result⟩ := Outcome.map_done.mp done
  have success : ret = 0 := by
    simp only at result
    split at result
    · assumption
    · exact (Prod.mk.inj result).1
  subst success
  unfold gpioSysfsProbe at probed
  split at probed
  · cases probed
  · rename_i some_child
    have made := probeChildren_made probed
    have count : s₁.next - s.next = available children := by
      rw [made.next]
      exact Nat.add_sub_cancel_left _ _
    refine ⟨Nat.pos_of_ne_zero some_child, s₁, made, ?_⟩
    rw [← count]
    exact (Prod.mk.inj result).2.symm

theorem probe_books {hist : List (Event P G)} {s s' : State P G} {p : P} {kzalloc : Bool}
    {children : List (Child G)} (books : Books hist s) (unbound : s.bound p = none)
    (done : probe s p kzalloc children = .done (0, s')) :
    Books (hist ++ [.probe p children]) s' := by
  obtain ⟨some_child, s₁, made, rfl⟩ := probe_made done
  have next : s₁.next = s.next + available children := made.next
  have classDevices : ids s₁ = ids s ++ List.range' s.next (available children) :=
    made.classDevices
  have binding : s₁.bound = s.bound := made.bound
  have old : ∀ {q devices}, s.bound q = some devices → ∀ id ∈ devices, id < s.next :=
    fun bound id member => books.fresh id (books.registered _ _ bound id member)
  constructor
  · intro q devices bound id member
    change id ∈ ids s₁
    rw [classDevices, List.mem_append]
    rcases update_some_iff.mp bound with ⟨_, rfl⟩ | ⟨_, kept⟩
    · exact .inr member
    · rw [binding] at kept
      exact .inl (books.registered q devices kept id member)
  · intro q devices bound
    rcases update_some_iff.mp bound with ⟨_, rfl⟩ | ⟨_, kept⟩
    · exact List.nodup_range'
    · rw [binding] at kept
      exact books.nodup q devices kept
  · intro q r devices devices' id bound bound' member member'
    rcases update_some_iff.mp bound with ⟨rfl, rfl⟩ | ⟨_, kept⟩ <;>
      rcases update_some_iff.mp bound' with ⟨rfl, rfl⟩ | ⟨_, kept'⟩
    · rfl
    · rw [binding] at kept'
      have below := old kept' id member'
      have above := (List.mem_range'_1.mp member).1
      omega
    · rw [binding] at kept
      have below := old kept id member
      have above := (List.mem_range'_1.mp member').1
      omega
    · rw [binding] at kept kept'
      exact books.own q r devices devices' id kept kept' member member'
  · intro id member
    change id ∈ ids s₁ at member
    change id < s₁.next
    rw [classDevices, List.mem_append] at member
    rw [next]
    rcases member with before | now
    · have below := books.fresh id before
      omega
    · have below := (List.mem_range'_1.mp now).2
      omega
  · intro q free
    have other : q ≠ p := by
      rintro rfl
      cases (update_self q _ s₁.bound).symm.trans free
    have elsewhere : (if kzalloc then some p else none) ≠ some q := by
      split
      · exact fun same => other (Option.some.inj same).symm
      · nofun
    simp only [update_of_ne other, binding] at free
    have kept := made.others q elsewhere
    refine kept.trans ?_
    split
    · exact (update_of_ne other _ s.memory).trans (books.unbound q free)
    · exact books.unbound q free
  · intro q devices _
    rw [lastProbe_probe]
    nofun
  · intro q children' last
    rw [lastProbe_probe] at last
    cases last
    have dev : s₁.dev = if kzalloc then some p else none := made.dev
    refine ⟨made.totalDevices, some_child, ?_, ?_⟩
    · rw [dev]
      split
      · exact .inr rfl
      · exact .inl rfl
    · intro devices bound
      cases (update_self p _ s₁.bound).symm.trans bound
      refine ⟨List.length_range', ?_, ?_⟩
      · intro null
        have nothing : available children = 0 := by
          by_contra some_made
          obtain ⟨r, _, here, _⟩ := made.array (Nat.pos_of_ne_zero some_made)
          cases null.symm.trans (made.dev.trans here)
        rw [nothing]
        rfl
      · intro here
        have granted : kzalloc = true := by
          by_contra refused
          rw [dev, if_neg refused] at here
          cases here
        subst granted
        have filled := (made.slots p _ rfl (update_self p _ s.memory)).2
        refine filled.trans ?_
        simp [Bytes.patch, List.drop_replicate]

theorem remove_books {hist : List (Event P G)} {s s' : State P G} {p : P}
    {unregistered devices : List Nat} (books : Books hist s) (bound : s.bound p = some devices)
    (whole : LatestWhole hist p) (done : remove s p = .done (unregistered, s')) :
    Books (hist ++ [.remove p unregistered]) s' := by
  obtain ⟨_, removed, result⟩ := Outcome.map_done.mp done
  rw [remove_whole books bound whole] at removed
  cases removed
  cases result
  have old : ∀ {q devices'}, update s.bound p none q = some devices' →
      q ≠ p ∧ s.bound q = some devices' := by
    intro q devices' entry
    rcases update_entry_iff.mp entry with ⟨_, impossible⟩ | kept
    · cases impossible
    · exact kept
  constructor
  · intro q devices' bound' id member
    obtain ⟨other, kept⟩ := old bound'
    obtain ⟨device, registered, rfl⟩ := List.mem_map.mp (books.registered q devices' kept id member)
    refine List.mem_map.mpr ⟨device, List.mem_filter.mpr ⟨registered, ?_⟩, rfl⟩
    exact decide_eq_true fun mine =>
        other (books.own q p devices' unregistered _ kept bound member mine)
  · intro q devices' bound'
    exact books.nodup q devices' (old bound').2
  · intro q r devices₁ devices₂ id bound₁ bound₂
    exact books.own q r devices₁ devices₂ id (old bound₁).2 (old bound₂).2
  · intro id member
    obtain ⟨device, registered, rfl⟩ := List.mem_map.mp member
    exact books.fresh _ (List.mem_map.mpr ⟨device, (List.mem_filter.mp registered).1, rfl⟩)
  · intro q free
    by_cases own : q = p
    · subst own
      exact update_self _ _ _
    · simp only [update_of_ne own] at free ⊢
      exact books.unbound q free
  · intro q devices' bound'
    rw [lastProbe_remove]
    exact books.probed q devices' (old bound').2
  · intro q children last
    rw [lastProbe_remove] at last
    have latest := books.latest q children last
    refine ⟨latest.totalDevices, latest.someChild, latest.dev, ?_⟩
    intro devices' bound'
    obtain ⟨other, _⟩ := old bound'
    obtain ⟨_, now, _⟩ := whole
    cases last.symm.trans now
    exact absurd rfl other

omit [DecidableEq P] in
theorem inOrder_snoc {hist : List (Event P G)} {e : Event P G} (order : InOrder (hist ++ [e])) :
    InOrder hist ∧ ∀ p unregistered, e = .remove p unregistered → LatestWhole hist p := by
  constructor
  · rintro before p unregistered after rfl
    exact order before p unregistered (after ++ [e]) (by simp)
  · rintro p unregistered rfl
    exact order hist p unregistered [] rfl

theorem run_books {hist : List (Event P G)} {s : State P G} (run : Run Step loaded hist s)
    (order : InOrder hist) : Books hist s := by
  induction run with
  | start => exact loaded_books
  | snoc _ step ih =>
    obtain ⟨before, now⟩ := inOrder_snoc order
    have books := ih before
    cases step with
    | probe unbound done => exact probe_books books unbound done
    | remove bound done => exact remove_books books bound (now _ _ rfl) done

/-- After every sequence of successful probes and removes in which each remove was of
the platform device probed last, all of whose children are available: a remove does
what it should exactly when it is of such a platform device again. -/
theorem remove_matches_iff {hist : List (Event P G)} {s : State P G} {p : P} {devices : List Nat}
    (run : Run Step loaded hist s) (order : InOrder hist) (bound : s.bound p = some devices) :
    Matches s devices ↔ LatestWhole hist p :=
  matches_iff (run_books run order) bound

end Steps

def child (available : Bool) : Child Unit := ⟨available, none, true, .ok (), 0, none⟩

theorem remove_matches_iff_pair : ∃ s : State Unit Unit, s.bound () = some [0, 1] ∧
    (Matches s [0, 1] ↔ LatestWhole [.probe () [child true, child true]] ()) := by
  obtain ⟨s, probed, bound⟩ : ∃ s : State Unit Unit,
      probe loaded () true [child true, child true] = .done (0, s) ∧ s.bound () = some [0, 1] :=
    ⟨_, rfl, rfl⟩
  have order : InOrder [(.probe () [child true, child true] : Event Unit Unit)] := by
    intro before p unregistered after split
    rcases List.append_eq_cons_iff.mp split.symm with ⟨_, first⟩ | ⟨_, _, rest⟩
    · cases first
    · simp at rest
  exact ⟨s, bound, remove_matches_iff (.snoc .start (.probe rfl probed)) order bound⟩

/-- An unavailable child leaves a NULL slot that the remove runs into; and after a
second probe the remove of the first platform device takes the device of the second. -/
theorem remove_misses :
    (∃ s : State Unit Unit, Run Step loaded [.probe () [child true, child false]] s ∧
      s.bound () = some [0] ∧ gpioSysfsRemove s = .wild) ∧
    ∃ s : State Bool Unit,
      Run Step loaded [.probe false [child true], .probe true [child true]] s ∧
      s.bound false = some [0] ∧ ∃ s', gpioSysfsRemove s = .done ([1], s') := by
  constructor
  · obtain ⟨s, probed, bound, wild⟩ : ∃ s : State Unit Unit,
        probe loaded () true [child true, child false] = .done (0, s) ∧ s.bound () = some [0] ∧
          gpioSysfsRemove s = .wild := ⟨_, rfl, rfl, rfl⟩
    exact ⟨s, .snoc .start (.probe rfl probed), bound, wild⟩
  · obtain ⟨s, probed, free⟩ : ∃ s : State Bool Unit,
        probe loaded false true [child true] = .done (0, s) ∧ s.bound true = none ∧
          ∃ s₂, probe s true true [child true] = .done (0, s₂) ∧ s₂.bound false = some [0] ∧
            ∃ s', gpioSysfsRemove s₂ = .done ([1], s') :=
      ⟨_, rfl, rfl, _, rfl, rfl, _, rfl⟩
    obtain ⟨unbound, s₂, probed₂, bound, removed⟩ := free
    exact ⟨s₂, .snoc (.snoc .start (.probe rfl probed)) (.probe unbound probed₂), bound, removed⟩

end MadDriver.GpioSysfs

import MadDriver.Pcd.Drivers
import MadDriver.Pcd.Frame

/-! Devices of fixed size as memories: what a read returns is what the history of
the calls wrote last. The history is the observed one, calls and answers; the
buffers of the drivers are not consulted to say what was written. -/
namespace MadDriver.Pcd
open Kernel Transition Function Table

/-- The bytes a call put on device d, with their offset, as its caller sees it: a
write that answers r ≥ 0 has stored the first r bytes at the file's position. -/
def Event.written {D F : Type} [DecidableEq D] (d : D) (e : Event D F) :
    Option (Nat × List UInt8) :=
  match e.op, e.file with
  | .write _ _ buff, some file =>
    if file.dev = d ∧ 0 ≤ e.reply.ret then
      some (file.fPos.toInt.toNat, buff.bytes.take e.reply.ret.toInt.toNat)
    else none
  | _, _ => none

/-- The byte written last at an offset of device d, 0 if none was. -/
def lastWritten {D F : Type} [DecidableEq D] (d : D) (hist : List (Event D F)) (i : Nat) : UInt8 :=
  (Bytes.lastHit (hist.filterMap (Event.written d)) i).getD 0

def Op.Unfaulted {D F : Type} : Op D F → Prop
  | .read _ user _ | .write _ user _ => user = .full
  | _ => True

inductive FixedDriver where
  | pcdN | platform | platformDt

def FixedDriver.driver : FixedDriver → Driver
  | .pcdN => PcdN.driver
  | .platform => Platform.driver
  | .platformDt => PlatformDt.driver

theorem FixedDriver.conforms (k : FixedDriver) : Conforms k.driver := by
  cases k with
  | pcdN => exact PcdN.conforms
  | platform => exact Platform.conforms
  | platformDt => exact PlatformDt.conforms

section History

variable (drv : Driver) {D F : Type} [DecidableEq D] [DecidableEq F]

/-- Devices of size n ≥ 0 with n zero bytes, and files opened at position 0. The size is the
`int max_size` of the functions: where it is not negative, the unsigned size of a device of
003 is the same number, at most INT_MAX. -/
structure Zeroed (σ : System drv.Data D F) : Prop where
  devices : ∀ d dev, σ.devs d = some dev → 0 ≤ (drv.maxSize dev).toInt ∧
    drv.buffer dev = List.replicate (drv.maxSize dev).toInt.toNat 0
  files : ∀ f file, σ.files f = some file → file.fPos = 0 ∧ ∃ dev, σ.devs file.dev = some dev

structure Recorded (hist : List (Event D F)) (σ : System drv.Data D F) : Prop where
  placed : WellPlaced drv σ
  length : ∀ d dev, σ.devs d = some dev →
    (drv.buffer dev).length = (drv.maxSize dev).toInt.toNat
  bytes : ∀ d dev, σ.devs d = some dev → ∀ i < (drv.buffer dev).length,
    (drv.buffer dev)[i]? = some (lastWritten d hist i)

variable {drv}

omit [DecidableEq F] in
theorem zeroed_recorded {σ : System drv.Data D F} (start : Zeroed drv σ) :
    Recorded drv [] σ where
  placed := by
    constructor
    · intro d dev device
      obtain ⟨size, buffer⟩ := start.devices d dev device
      rw [buffer, List.length_replicate]
      omega
    · intro f file opened
      obtain ⟨origin, dev, device⟩ := start.files f file opened
      rw [origin]
      exact ⟨dev, device, Int.le_refl 0, (start.devices _ dev device).1⟩
  length d dev device := by
    rw [(start.devices d dev device).2, List.length_replicate]
  bytes d dev device i within := by
    rw [(start.devices d dev device).2] at within ⊢
    rw [List.length_replicate] at within
    rw [List.getElem?_replicate, if_pos within]
    rfl

omit [DecidableEq F] in
theorem written_none {d : D} {e : Event D F}
    (quiet : ∀ f user buff file, e.op = .write f user buff → e.file = some file → file.dev = d →
      e.reply.ret.toInt < 0) : e.written d = none := by
  unfold Event.written
  split
  · rename_i f user buff file op opened
    rw [if_neg]
    rintro ⟨own, success⟩
    rw [Int64.le_iff_toInt_le] at success
    have negative := quiet _ _ _ _ op opened own
    have zero : (0 : Int64).toInt = 0 := rfl
    omega
  · rfl

omit [DecidableEq F] in
theorem lastWritten_quiet {d : D} {hist : List (Event D F)} {e : Event D F}
    (quiet : e.written d = none) (i : Nat) :
    lastWritten d (hist ++ [e]) i = lastWritten d hist i := by
  simp [lastWritten, List.filterMap_append, quiet]

omit [DecidableEq F] in
theorem lastWritten_stored {d : D} {hist : List (Event D F)} {e : Event D F}
    {w : Nat × List UInt8} (stored : e.written d = some w) (i : Nat) :
    lastWritten d (hist ++ [e]) i = (Bytes.hit w i).getD (lastWritten d hist i) := by
  simp only [lastWritten, List.filterMap_append, List.filterMap_cons, stored,
    List.filterMap_nil, Bytes.lastHit_snoc]
  cases Bytes.hit w i <;> rfl

/-- A call either leaves a device as it is and shows no write on it, or overwrites
it with what the call shows. -/
theorem effect_written {σ σ' : System drv.Data D F} {e : Event D F}
    (seen : e.file = σ.files e.op.handle) (unfaulted : e.op.Unfaulted)
    (effect : Effect drv σ e.op σ' e.reply) {d : D} {dev' : drv.Data}
    (device' : σ'.devs d = some dev') :
    ∃ dev, σ.devs d = some dev ∧
      ((dev' = dev ∧ e.written d = none) ∨
      ∃ f file buff, ∃ n ≤ span (drv.maxSize dev) file.fPos buff.count,
        σ.files f = some file ∧ σ.devs file.dev = some dev ∧
        e.written d = some (file.fPos.toInt.toNat, (UserBytes.bytes buff).take n) ∧
        dev' = drv.setBuffer dev (Bytes.patch (drv.buffer dev) file.fPos.toInt.toNat
          (buff.bytes.take n))) := by
  obtain ⟨op, opened, reply⟩ := e
  cases effect with
  | refused other negative =>
    refine ⟨dev', device', .inl ⟨rfl, written_none ?_⟩⟩
    intro _ _ _ _ _ _ _
    exact negative
  | unreadable _ | fetchFault _ _ _ _ _ | opened _ _ _ | released =>
    refine ⟨dev', device', .inl ⟨rfl, written_none ?_⟩⟩
    intro _ _ _ _ op
    cases op
  | sought _ found _ _ | fetched _ _ found _ _ _ _ =>
    rw [leave_devs_same found] at device'
    refine ⟨dev', device', .inl ⟨rfl, written_none ?_⟩⟩
    intro _ _ _ _ op
    cases op
  | @stored f user buff file dev n ret fPos located mode found len whole value moved =>
    have file_seen : opened = some file := seen.trans located
    rcases update_some_iff.mp device' with ⟨rfl, here⟩ | ⟨own, there⟩
    · have success : (0 : Int64) ≤ ret := by
        rw [Int64.le_iff_toInt_le, value]
        exact Int.natCast_nonneg _
      refine ⟨dev, found, .inr ⟨f, file, buff, n, Nat.le_of_eq len, located, found, ?_,
        here.symm⟩⟩
      simp only [Event.written, file_seen, success, value, true_and, if_true, Int.toNat_natCast]
    · refine ⟨dev', there, .inl ⟨rfl, ?_⟩⟩
      simp only [Event.written, file_seen]
      rw [if_neg fun both => own both.1.symm]
  | storeFault _ _ _ _ faulty => exact absurd unfaulted faulty

theorem step_recorded (conf : Conforms drv) {σ σ' : System drv.Data D F}
    {hist : List (Event D F)} {e : Event D F} (recorded : Recorded drv hist σ)
    (unfaulted : e.op.Unfaulted) (step : Step drv σ e σ') :
    Recorded drv (hist ++ [e]) σ' := by
  have effect := done_effect conf recorded.placed step.1
  refine ⟨effect_placed conf recorded.placed effect, ?_, ?_⟩
  · intro d dev' device'
    obtain ⟨dev, device, change⟩ := effect_device effect device'
    rw [(device_step_fields conf change).1,
      device_step_length conf recorded.placed device change]
    exact recorded.length d dev device
  · intro d dev' device' i within
    obtain ⟨dev, device, ⟨rfl, quiet⟩ | ⟨f, file, buff, n, short, opened, found, written, rfl⟩⟩ :=
      effect_written step.2 unfaulted effect device'
    · rw [lastWritten_quiet quiet]
      exact recorded.bytes d dev' device i within
    · have room : file.fPos.toInt.toNat + (buff.bytes.take n).length ≤ (drv.buffer dev).length :=
        patch_room recorded.placed opened found
          (Nat.le_trans (List.length_take_le n _) short)
      rw [conf.buffer_set, Bytes.length_patch room] at within
      rw [conf.buffer_set, Bytes.getElem?_patch room, lastWritten_stored written,
        recorded.bytes d dev device i within]
      cases Bytes.hit (file.fPos.toInt.toNat, buff.bytes.take n) i <;> rfl

theorem run_recorded (conf : Conforms drv) {σ₀ σ : System drv.Data D F}
    {hist : List (Event D F)} (start : Zeroed drv σ₀)
    (run : Run (Guarded (Step drv) fun _ e => e.op.Unfaulted) σ₀ hist σ) :
    Recorded drv hist σ :=
  run_history (Recorded drv) (zeroed_recorded start)
    (fun _ _ _ _ _ recorded step => step_recorded conf recorded step.2 step.1) run

theorem run_sizes (conf : Conforms drv) {σ₀ σ : System drv.Data D F} {hist : List (Event D F)}
    (placed : WellPlaced drv σ₀) (run : Run (Step drv) σ₀ hist σ) :
    WellPlaced drv σ ∧ ∀ d dev, σ.devs d = some dev → ∃ dev₀, σ₀.devs d = some dev₀ ∧
      drv.maxSize dev = drv.maxSize dev₀ ∧ drv.perm dev = drv.perm dev₀ ∧
      (drv.buffer dev).length = (drv.buffer dev₀).length := by
  refine run_invariant (fun σ => WellPlaced drv σ ∧ ∀ d dev, σ.devs d = some dev →
    ∃ dev₀, σ₀.devs d = some dev₀ ∧ drv.maxSize dev = drv.maxSize dev₀ ∧
      drv.perm dev = drv.perm dev₀ ∧ (drv.buffer dev).length = (drv.buffer dev₀).length)
    ⟨placed, fun d dev device => ⟨dev, device, rfl, rfl, rfl⟩⟩ ?_ run
  rintro σ e σ' ⟨placed, same⟩ step
  have effect := done_effect conf placed step.1
  refine ⟨effect_placed conf placed effect, ?_⟩
  intro d dev' device'
  obtain ⟨dev, device, change⟩ := effect_device effect device'
  obtain ⟨dev₀, device₀, size, perm, length⟩ := same d dev device
  have fields := device_step_fields conf change
  exact ⟨dev₀, device₀, fields.1.trans size, fields.2.trans perm,
    (device_step_length conf placed device change).trans length⟩

variable (drv)

structure MemoryHolds (σ₀ : System drv.Data D F) (hist : List (Event D F))
    (σ : System drv.Data D F) : Prop where
  sizes : ∀ d dev, σ.devs d = some dev → ∃ dev₀, σ₀.devs d = some dev₀ ∧
    drv.maxSize dev = drv.maxSize dev₀ ∧
    (drv.buffer dev).length = (drv.maxSize dev₀).toInt.toNat
  positions : ∀ f file, σ.files f = some file → ∃ dev, σ.devs file.dev = some dev ∧
    0 ≤ file.fPos.toInt ∧ file.fPos.toInt ≤ (drv.maxSize dev).toInt
  copies : ∀ f file dev (count : Count), σ.files f = some file → σ.devs file.dev = some dev →
    Inside (drv.buffer dev).length file.fPos
      (adjustCount (drv.maxSize dev) file.fPos count.val)
  answers : ∀ op : Op D F, ∃ σ' reply, vfsStep drv.fops σ op = .done (σ', reply)
  reads : ∀ f file dev (count : Count) σ' reply, σ.files f = some file →
    file.fMode &&& FMODE_READ = FMODE_READ → σ.devs file.dev = some dev →
    vfsStep drv.fops σ (.read f .full count) = .done (σ', reply) →
    let n := min count.val.toNat ((drv.maxSize dev).toInt - file.fPos.toInt).toNat
    reply.ret.toInt = n ∧ reply.out.length = n ∧ ∀ k < n,
      reply.out[k]? = some (lastWritten file.dev hist (file.fPos.toInt.toNat + k))
  frame : ∀ op σ' reply, vfsStep drv.fops σ op = .done (σ', reply) →
    (∀ d, (∀ file, σ.files op.handle = some file → file.dev ≠ d) → σ'.devs d = σ.devs d) ∧
    ∀ g, g ≠ op.handle → σ'.files g = σ.files g

variable {drv}

theorem recorded_read (conf : Conforms drv) {σ σ' : System drv.Data D F}
    {hist : List (Event D F)} (recorded : Recorded drv hist σ) {f : F} {file : OpenFile D}
    {dev : drv.Data} {count : Count} {reply : Reply} (opened : σ.files f = some file)
    (mode : file.fMode &&& FMODE_READ = FMODE_READ) (device : σ.devs file.dev = some dev)
    (done : vfsStep drv.fops σ (.read f .full count) = .done (σ', reply)) :
    reply.ret.toInt = span (drv.maxSize dev) file.fPos count.val ∧
    reply.out.length = span (drv.maxSize dev) file.fPos count.val ∧
    ∀ k < span (drv.maxSize dev) file.fPos count.val,
      reply.out[k]? = some (lastWritten file.dev hist (file.fPos.toInt.toNat + k)) := by
  have position := recorded.placed.placed opened device
  have start := position.nonneg
  have stop := span_end count.val position.within
  have room := position.room
  cases done_effect conf recorded.placed done with
  | refused other _ => cases other
  | unreadable lacking => exact absurd mode (lacking file opened)
  | fetchFault _ _ _ _ short => exact absurd short (Nat.lt_irrefl _)
  | fetched opened' _ device' len _ value _ =>
    cases Option.some.inj (opened.symm.trans opened')
    cases Option.some.inj (device.symm.trans device')
    rw [len] at value ⊢
    refine ⟨value, ?_, ?_⟩
    · rw [Bytes.length_slice]
      omega
    · intro k within
      rw [Bytes.getElem?_slice _ within]
      exact recorded.bytes _ _ device _ (by omega)

theorem recorded_holds (conf : Conforms drv) {σ₀ σ : System drv.Data D F}
    {hist : List (Event D F)} (start : Zeroed drv σ₀) (recorded : Recorded drv hist σ)
    (run : Run (Step drv) σ₀ hist σ) : MemoryHolds drv σ₀ hist σ where
  sizes d dev device := by
    obtain ⟨dev₀, device₀, size, _, length⟩ :=
      (run_sizes conf (zeroed_recorded start).placed run).2 d dev device
    refine ⟨dev₀, device₀, size, ?_⟩
    rw [length, (start.devices d dev₀ device₀).2, List.length_replicate]
  positions := recorded.placed.opened
  copies f file dev count opened device := by
    have position := recorded.placed.placed opened device
    exact span_inside position (adjustCount_span position.nonneg position.within count.property)
  answers op := by
    obtain ⟨σ', reply, done, _⟩ := step_effect conf recorded.placed op
    exact ⟨σ', reply, done⟩
  reads f file dev count σ' reply opened mode device done :=
    recorded_read conf recorded opened mode device done
  frame op σ' reply done := by
    have effect := done_effect conf recorded.placed done
    exact ⟨fun d other => effect_keeps_device effect other,
      fun g other => effect_keeps_file effect other⟩

/-- Drivers 003, 004 and 005, with any devices, any open files and any calls. -/
theorem fixed_memory (k : FixedDriver) {σ₀ σ : System k.driver.Data D F}
    {hist : List (Event D F)} (start : Zeroed k.driver σ₀)
    (run : Run (Guarded (Step k.driver) fun _ e => e.op.Unfaulted) σ₀ hist σ) :
    MemoryHolds k.driver σ₀ hist σ :=
  recorded_holds k.conforms start (run_recorded k.conforms start run) (run_unguarded run)

end History

theorem staticDevice_zeroed {size : Nat} (small : size < 2 ^ 31) (serialNumber : String)
    (perm : Int32) :
    0 ≤ (PcdN.maxSize (PcdN.staticDevice size serialNumber perm)).toInt ∧
    (PcdN.staticDevice size serialNumber perm).buffer = List.replicate
      (PcdN.maxSize (PcdN.staticDevice size serialNumber perm)).toInt.toNat 0 := by
  have bits : (PcdN.maxSize (PcdN.staticDevice size serialNumber perm)).toInt =
      (BitVec.ofNat 32 size).toInt := rfl
  have value : (BitVec.ofNat 32 size).toInt = size := by
    rw [BitVec.toInt_eq_toNat_cond, BitVec.toNat_ofNat]
    split <;> omega
  rw [bits, value]
  exact ⟨Int.natCast_nonneg _, rfl⟩

theorem pcdrvData_zeroed : ∀ dev ∈ PcdN.pcdrvData, 0 ≤ (PcdN.maxSize dev).toInt ∧
    dev.buffer = List.replicate (PcdN.maxSize dev).toInt.toNat 0 := by
  intro dev member
  simp only [PcdN.pcdrvData, List.mem_cons, List.not_mem_nil, or_false] at member
  rcases member with rfl | rfl | rfl | rfl <;> exact staticDevice_zeroed (by decide) _ _

def loaded : System PcdN.PcdevPrivateData (Fin 4) Bool where
  devs d := PcdN.pcdrvData[d.val]?
  files _ := some ⟨3, 3, 0⟩

theorem loaded_zeroed : Zeroed PcdN.driver loaded where
  devices _ dev device := pcdrvData_zeroed dev (List.mem_of_getElem? device)
  files f file opened := by
    cases opened
    exact ⟨rfl, _, rfl⟩

set_option maxRecDepth 4000 in
theorem fixed_memory_loaded : ∃ σ, MemoryHolds PcdN.driver loaded
    [⟨.write true .full ⟨[7, 8], by decide⟩, some ⟨3, 3, 0⟩, ⟨2, []⟩⟩] σ :=
  ⟨_, fixed_memory .pcdN loaded_zeroed (.snoc .start ⟨⟨rfl, rfl⟩, rfl⟩)⟩

end MadDriver.Pcd

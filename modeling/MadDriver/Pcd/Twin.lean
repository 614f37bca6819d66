import MadDriver.Core.Shadow
import MadDriver.Pcd.Effect
import MadDriver.Pcd.Sysfs

/-! Two systems of driver 006 that differ only in buffer bytes. A shadow memory,
kept from the calls alone, tells which bytes are the same in both. -/
namespace MadDriver.Pcd.Sysfs
open Kernel Transition Function Bytes Table

variable {D F : Type} [DecidableEq D] [DecidableEq F]

/-- The marks of every bound device: an index is marked when its byte is zero
from the probe or was put down by a write, and not since given back to the heap. -/
abbrev Shadow (D : Type) := D → Option (List Bool)

def markWrite (fPos : Int64) (user : UserAccess) (buff : UserBytes) (marks : List Bool) :
    List Bool :=
  let n := min buff.bytes.length (marks.length - fPos.toInt.toNat)
  markPatch marks fPos.toInt.toNat (user.copied buff.bytes n).length

def markStore (buf : List UInt8) (marks : List Bool) : List Bool :=
  match kstrtol (cString buf) 10 with
  | .error _ => marks
  | .ok result => markResize marks result.toInt32.toInt.toNat

def shadowStep (s : Shadow D) (e : SysfsEvent D F) : Shadow D :=
  match e.op, e.file with
  | .probe d _ pdata _, _ =>
    update s d (some ((s d).getD (List.replicate pdata.size.toInt.toNat true)))
  | .storeMaxSize d _ buf, _ => update s d ((s d).map (markStore buf))
  | .file (.write _ user buff), some file =>
    if file.fMode &&& FMODE_WRITE = FMODE_WRITE then
      update s file.dev ((s file.dev).map (markWrite file.fPos user buff))
    else s
  | _, _ => s

def shadow (hist : List (SysfsEvent D F)) : Shadow D := hist.foldl shadowStep fun _ => none

/-- The bytes a read moves, of those between the position and the end, are marked. -/
def KnownRead (user : UserAccess) (count : Count) (fPos : Int64) (marks : List Bool) : Prop :=
  ∀ k < user.moved (min count.val.toNat (marks.length - fPos.toInt.toNat)),
    marks[fPos.toInt.toNat + k]? = some true

def SysfsEvent.Known (s : Shadow D) (e : SysfsEvent D F) : Prop :=
  match e.op, e.file with
  | .file (.read _ user count), some file => file.fMode &&& FMODE_READ = FMODE_READ →
    ∀ marks, s file.dev = some marks → KnownRead user count file.fPos marks
  | _, _ => True

def ReadsKnown (hist : List (SysfsEvent D F)) : Prop :=
  ∀ front e, front ++ [e] <+: hist → e.Known (shadow front)

omit [DecidableEq F] in
@[simp] theorem shadow_snoc (hist : List (SysfsEvent D F)) (e : SysfsEvent D F) :
    shadow (hist ++ [e]) = shadowStep (shadow hist) e := by
  simp [shadow, List.foldl_append]

omit [DecidableEq F] in
theorem readsKnown_nil : ReadsKnown ([] : List (SysfsEvent D F)) := by
  intro front e inner
  simp at inner

omit [DecidableEq F] in
theorem readsKnown_snoc (hist : List (SysfsEvent D F)) (e : SysfsEvent D F) :
    ReadsKnown (hist ++ [e]) ↔ ReadsKnown hist ∧ e.Known (shadow hist) := by
  constructor
  · intro known
    refine ⟨fun front last inner => ?_, known hist e (List.prefix_refl _)⟩
    exact known front last (inner.trans (List.prefix_append hist [e]))
  · rintro ⟨known, last⟩ front e' inner
    rcases List.prefix_concat_iff.mp inner with whole | before
    · obtain ⟨rfl, same⟩ := List.append_inj' whole rfl
      cases same
      exact last
    · exact known front e' before

/-- Calls that differ at most in what the heap holds for a grown object. -/
inductive SameCall (heaps : (Nat → UInt8) → (Nat → UInt8) → Prop) :
    SysfsOp D F → SysfsOp D F → Prop where
  | file (op : Op D F) : SameCall heaps (.file op) (.file op)
  | probe (d : D) (granted : Bool) (pdata : PcdevPlatformData) (devNum : Int) :
      SameCall heaps (.probe d granted pdata devNum) (.probe d granted pdata devNum)
  | storeMaxSize (d : D) (heap heap' : Nat → UInt8) (buf : List UInt8) : heaps heap heap' →
      SameCall heaps (.storeMaxSize d (some heap) buf) (.storeMaxSize d (some heap') buf)

/-- Sizes positive and within `int`, and every allocation granted. -/
def SysfsOp.Regular : SysfsOp D F → Prop
  | .file _ => True
  | .probe _ granted pdata _ => granted = true ∧ 0 < pdata.size.toInt
  | .storeMaxSize _ grant buf => grant ≠ none ∧
    ∀ result, kstrtol (cString buf) 10 = .ok result → 0 < result.toInt ∧ result.toInt < 2 ^ 31

inductive DeviceTwin (apart : Bool) :
    Option (List Bool) → Option PcdevPrivateData → Option PcdevPrivateData → Prop where
  | unbound : DeviceTwin apart none none none
  | bound {marks : List Bool} {dev : PcdevPrivateData} {b : List UInt8} :
      dev.pdata.size.toInt = marks.length → Agree apart marks dev.buffer b →
      DeviceTwin apart (some marks) (some dev) (some { dev with buffer := b })

structure Twin (apart : Bool) (s : Shadow D) (σ τ : System PcdevPrivateData D F) : Prop where
  devices : ∀ d, DeviceTwin apart (s d) (σ.devs d) (τ.devs d)
  files : τ.files = σ.files
  positions : ∀ f file, σ.files f = some file → 0 ≤ file.fPos.toInt

structure ResultTwin (apart : Bool) (marks : List Bool) (r r' : CallResult PcdevPrivateData) :
    Prop where
  data : DeviceTwin apart (some marks) (some r.data) (some r'.data)
  ret : r'.ret = r.ret
  fPos : r'.fPos = r.fPos
  nonneg : 0 ≤ r.fPos.toInt

omit [DecidableEq F] in
theorem twin_device {apart : Bool} {s : Shadow D} {σ τ : System PcdevPrivateData D F}
    (twin : Twin apart s σ τ) {d : D} {marks : Option (List Bool)}
    {x y : Option PcdevPrivateData} (own : DeviceTwin apart marks x y) :
    Twin apart (update s d marks) { σ with devs := update σ.devs d x }
      { τ with devs := update τ.devs d y } where
  devices g := by
    by_cases same : g = d
    · subst same
      simpa only [update_self] using own
    · simpa only [update_of_ne same] using twin.devices g
  files := twin.files
  positions := twin.positions

theorem twin_leave {apart : Bool} {s : Shadow D} {σ τ : System PcdevPrivateData D F}
    (twin : Twin apart s σ τ) {marks : List Bool} {r r' : CallResult PcdevPrivateData}
    (result : ResultTwin apart marks r r') (f : F) (file : OpenFile D) :
    Twin apart (update s file.dev (some marks)) (σ.leave f file r.data r.fPos)
      (τ.leave f file r'.data r'.fPos) where
  devices := (twin_device twin result.data).devices
  files := by rw [System.leave, System.leave, twin.files, result.fPos]
  positions := by
    apply update_forall twin.positions
    rintro _ ⟨rfl⟩
    exact result.nonneg

theorem storeBack_twin {apart : Bool} {marks : List Bool}
    {r r' : CallResult PcdevPrivateData} (result : ResultTwin apart marks r r') {fPos : Int64}
    (nonneg : 0 ≤ fPos.toInt) :
    ResultTwin apart marks (storeBack fPos r) (storeBack fPos r') := by
  unfold storeBack
  rw [result.ret]
  split
  · exact result
  · exact ⟨result.data, rfl, rfl, nonneg⟩

theorem storeBack_out (fPos : Int64) (r : CallResult PcdevPrivateData) :
    (storeBack fPos r).out = r.out := by
  unfold storeBack
  split <;> rfl

theorem call_twin {apart : Bool} {s : Shadow D} {σ τ σ' : System PcdevPrivateData D F}
    {reply : Reply} (twin : Twin apart s σ τ) {f : F} {need : UInt32}
    {body : PcdevPrivateData → Int64 → Outcome (CallResult PcdevPrivateData)}
    (mark : OpenFile D → List Bool → List Bool)
    (outs : OpenFile D → List Bool → List UInt8 → List UInt8 → Prop)
    (bodies : ∀ file marks dev b r, σ.files f = some file →
      dev.pdata.size.toInt = (List.length marks : Int) → Agree apart marks dev.buffer b →
      0 ≤ file.fPos.toInt → body dev file.fPos = .done r →
      ∃ r', body { dev with buffer := b } file.fPos = .done r' ∧
        ResultTwin apart (mark file marks) r r' ∧ outs file marks r.out r'.out)
    (done : σ.call f need body = .done (σ', reply)) :
    ∃ τ' out, τ.call f need body = .done (τ', ⟨reply.ret, out⟩) ∧
      ((Twin apart s σ' τ' ∧ out = reply.out ∧
        ∀ file, σ.files f = some file → file.fMode &&& need = need → s file.dev = none) ∨
      ∃ file marks, σ.files f = some file ∧ file.fMode &&& need = need ∧
        s file.dev = some marks ∧ outs file marks reply.out out ∧
        Twin apart (update s file.dev (some (mark file marks))) σ' τ') := by
  unfold System.call at done ⊢
  rw [twin.files]
  cases opened : σ.files f with
  | none =>
    simp only [opened] at done ⊢
    cases done
    exact ⟨τ, [], rfl, .inl ⟨twin, rfl, fun _ absent => nomatch absent⟩⟩
  | some file =>
    simp only [opened] at done ⊢
    split
    · rename_i lacking
      rw [if_pos lacking] at done
      cases done
      refine ⟨τ, [], rfl, .inl ⟨twin, rfl, ?_⟩⟩
      rintro _ ⟨⟩ mode
      exact absurd mode lacking
    · rename_i granted
      rw [if_neg granted] at done
      have mode : file.fMode &&& need = need := by simpa using granted
      have devices := twin.devices file.dev
      generalize markEq : s file.dev = marks? at devices
      generalize devEq : σ.devs file.dev = dev? at devices done
      generalize devEq' : τ.devs file.dev = dev?' at devices
      cases devices with
      | unbound =>
        cases done
        refine ⟨τ, [], rfl, .inl ⟨twin, rfl, ?_⟩⟩
        rintro _ ⟨⟩ _
        exact markEq
      | bound size agree =>
        rename_i marks dev b
        obtain ⟨r, result, leaves⟩ := Outcome.map_done.mp done
        cases leaves
        obtain ⟨r', result', alike, out⟩ := bodies file marks dev b r opened size agree
          (twin.positions f file opened) result
        refine ⟨τ.leave f file r'.data r'.fPos, r'.out, ?_, .inr ⟨file, marks, rfl, mode, markEq,
          out, twin_leave twin alike f file⟩⟩
        simp only [result', Outcome.map, Outcome.bind, alike.ret]

theorem span_marks {dev : PcdevPrivateData} {marks : List Bool} {fPos : Int64}
    (size : dev.pdata.size.toInt = marks.length) (nonneg : 0 ≤ fPos.toInt) (count : UInt64) :
    span dev.pdata.size fPos count = min count.toNat (marks.length - fPos.toInt.toNat) := by
  unfold span
  omega

theorem lseek_twin {apart : Bool} {marks : List Bool} {dev : PcdevPrivateData} {b : List UInt8}
    {fPos : Int64} (size : dev.pdata.size.toInt = marks.length)
    (agree : Agree apart marks dev.buffer b) (nonneg : 0 ≤ fPos.toInt) (offset : Int64)
    (whence : Int32) :
    ResultTwin apart marks (vfsLlseek pcdFops offset whence dev fPos)
      (vfsLlseek pcdFops offset whence { dev with buffer := b } fPos) where
  data := .bound size agree
  ret := rfl
  fPos := rfl
  nonneg := by
    change 0 ≤ (lseekBody dev.pdata.size fPos offset whence).2.toInt
    rcases lseekBody_seeks dev.pdata.size fPos offset whence with
      failed | ⟨target, moved, low, _⟩
    · rwa [failed]
    · rwa [moved]

theorem read_twin {apart : Bool} {marks : List Bool} {dev : PcdevPrivateData} {b : List UInt8}
    {fPos : Int64} (size : dev.pdata.size.toInt = marks.length)
    (agree : Agree apart marks dev.buffer b) (nonneg : 0 ≤ fPos.toInt) {user : UserAccess}
    {count : Count} {r : CallResult PcdevPrivateData}
    (done : (pcdRead dev user count.val fPos).map (storeBack fPos) = .done r) :
    ∃ r', (pcdRead { dev with buffer := b } user count.val fPos).map (storeBack fPos) = .done r' ∧
      ResultTwin apart marks r r' ∧ (KnownRead user count fPos marks → r'.out = r.out) ∧
      (apart = true → r'.out = r.out → KnownRead user count fPos marks) := by
  obtain ⟨_, called, rfl⟩ := Outcome.map_done.mp done
  obtain ⟨q, result, rfl⟩ := Outcome.map_done.mp called
  have length := agree.left
  have length' := agree.right
  have placed : Placed dev.pdata.size dev.buffer fPos :=
    readBody_placed nonneg count.property (by omega) result
  have placed' : Placed dev.pdata.size b fPos := ⟨nonneg, placed.within, by omega⟩
  obtain ⟨_, again, reads⟩ := readBody_reads user placed count.property
  cases Outcome.done.inj (result.symm.trans again)
  obtain ⟨q', result', reads'⟩ := readBody_reads user placed' count.property
  obtain ⟨ret, pos⟩ := reads_answer reads reads'
  have alike : ResultTwin apart marks (q.leaves dev) (q'.leaves { dev with buffer := b }) :=
    ⟨.bound size agree, ret, pos, (reads_within placed reads).1⟩
  refine ⟨storeBack fPos (q'.leaves { dev with buffer := b }), ?_, storeBack_twin alike nonneg, ?_⟩
  · simp only [pcdRead, result', Outcome.map, Outcome.bind]
  have stop := span_end count.val placed.within
  have moved := user.moved_le (span dev.pdata.size fPos count.val)
  have known : KnownRead user count fPos marks ↔
      ∀ k < user.moved (span dev.pdata.size fPos count.val),
        marks[fPos.toInt.toNat + k]? = some true := by
    rw [span_marks size nonneg, KnownRead]
  have out : (storeBack fPos (q.leaves dev)).out = Bytes.slice dev.buffer fPos.toInt.toNat
      (user.moved (span dev.pdata.size fPos count.val)) := (storeBack_out _ _).trans reads.out
  have out' : (storeBack fPos (q'.leaves { dev with buffer := b })).out =
      Bytes.slice b fPos.toInt.toNat (user.moved (span dev.pdata.size fPos count.val)) :=
    (storeBack_out _ _).trans reads'.out
  rw [known, out, out']
  constructor
  · intro marked
    exact (agree_slice agree marked).symm
  · rintro rfl same
    exact marked_of_slice agree (.inr (by omega)) same.symm

theorem write_twin {apart : Bool} {marks : List Bool} {dev : PcdevPrivateData} {b : List UInt8}
    {fPos : Int64} (size : dev.pdata.size.toInt = marks.length)
    (agree : Agree apart marks dev.buffer b) (nonneg : 0 ≤ fPos.toInt) {user : UserAccess}
    {buff : UserBytes} {r : CallResult PcdevPrivateData}
    (done : (pcdWrite dev user buff.bytes buff.count fPos).map (storeBack fPos) = .done r) :
    ∃ r', (pcdWrite { dev with buffer := b } user buff.bytes buff.count fPos).map
        (storeBack fPos) = .done r' ∧
      ResultTwin apart (markWrite fPos user buff marks) r r' ∧ r'.out = r.out := by
  obtain ⟨_, called, rfl⟩ := Outcome.map_done.mp done
  obtain ⟨q, result, rfl⟩ := Outcome.map_done.mp called
  have length := agree.left
  have length' := agree.right
  have small : buff.count.toNat < 2 ^ 63 := buff.toNat_count ▸ buff.small
  have placed : Placed dev.pdata.size dev.buffer fPos :=
    writeBody_placed nonneg small (by omega) result
  have placed' : Placed dev.pdata.size b fPos := ⟨nonneg, placed.within, by omega⟩
  obtain ⟨_, again, writes⟩ := writeBody_writes buff.bytes user placed small
  cases Outcome.done.inj (result.symm.trans again)
  obtain ⟨q', result', writes'⟩ := writeBody_writes buff.bytes user placed' small
  obtain ⟨ret, pos⟩ := writes_answer writes writes'
  have stop := span_end buff.count placed.within
  have short := user.length_copied_le buff.bytes (span dev.pdata.size fPos buff.count)
  have room : fPos.toInt.toNat +
      (user.copied buff.bytes (span dev.pdata.size fPos buff.count)).length ≤ marks.length := by
    omega
  have patched := agree_patch agree room
  have marked : markPatch marks fPos.toInt.toNat
      (user.copied buff.bytes (span dev.pdata.size fPos buff.count)).length =
      markWrite fPos user buff marks := by
    rw [span_marks size nonneg, buff.toNat_count, markWrite]
  rw [marked] at patched
  have alike : ResultTwin apart (markWrite fPos user buff marks)
      (q.leaves { dev with buffer := q.buffer })
      (q'.leaves { { dev with buffer := b } with buffer := q'.buffer }) := by
    refine ⟨.bound ?_ ?_, ret, pos, (writes_within placed writes).1⟩
    · change dev.pdata.size.toInt = _
      rw [size, ← patched.left, Bytes.length_patch (by omega), length]
    · rw [writes_buffer writes, writes_buffer writes']
      exact patched
  refine ⟨_, ?_, storeBack_twin alike nonneg, ?_⟩
  · simp only [pcdWrite, result', Outcome.map, Outcome.bind]
  · rw [storeBack_out, storeBack_out]
    rfl

omit [DecidableEq D] in
theorem open_twin {apart : Bool} {s : Shadow D} {σ τ : System PcdevPrivateData D F}
    (twin : Twin apart s σ τ) (f : F) (d : D) (fMode : UInt32) :
    Twin apart s (vfsOpen pcdFops σ f d fMode).1 (vfsOpen pcdFops τ f d fMode).1 ∧
      (vfsOpen pcdFops τ f d fMode).2 = (vfsOpen pcdFops σ f d fMode).2 := by
  unfold vfsOpen
  rw [twin.files]
  cases σ.files f with
  | some file => exact ⟨twin, rfl⟩
  | none =>
    have device := twin.devices d
    generalize s d = marks at device
    generalize σ.devs d = dev at device
    generalize τ.devs d = dev' at device
    cases device with
    | unbound => exact ⟨twin, rfl⟩
    | bound size agree =>
      rename_i marks dev b
      have same : pcdFops.openFile { dev with buffer := b } fMode =
          pcdFops.openFile dev fMode := rfl
      simp only [same]
      split
      · refine ⟨⟨twin.devices, rfl, ?_⟩, rfl⟩
        apply update_forall twin.positions
        rintro _ ⟨rfl⟩
        exact Int.le_refl 0
      · exact ⟨twin, rfl⟩

theorem store_twin {apart : Bool} {marks : List Bool} {dev : PcdevPrivateData} {b buf : List UInt8}
    {heap heap' : Nat → UInt8} (size : dev.pdata.size.toInt = marks.length)
    (agree : Agree apart marks dev.buffer b)
    (regular : ∀ result, kstrtol (cString buf) 10 = .ok result →
      0 < result.toInt ∧ result.toInt < 2 ^ 31)
    (different : apart = true → ∀ i, heap i ≠ heap' i) :
    DeviceTwin apart (some (markStore buf marks)) (some (storeMaxSize dev (some heap) buf).1)
        (some (storeMaxSize { dev with buffer := b } (some heap') buf).1) ∧
      (storeMaxSize { dev with buffer := b } (some heap') buf).2 =
        (storeMaxSize dev (some heap) buf).2 := by
  unfold storeMaxSize markStore
  cases parsed : kstrtol (cString buf) 10 with
  | error ret => exact ⟨.bound size agree, rfl⟩
  | ok result =>
    refine ⟨?_, rfl⟩
    obtain ⟨positive, small⟩ := regular result parsed
    have value : result.toInt32.toInt = result.toInt := CInt.toInt_int (by omega) small
    have nonneg : 0 ≤ result.toInt32.toInt := by omega
    have fits := size_allocatable nonneg
    have count := CInt.toNat_size_of_nonneg nonneg
    have length := agree.left
    have length' := agree.right
    have grown : Agree apart (markResize marks result.toInt32.toInt.toNat)
        (krealloc (some heap) dev.buffer result.toInt32.toInt64.toUInt64)
        (krealloc (some heap') b result.toInt32.toInt64.toUInt64) := by
      simp only [krealloc, if_pos fits, count]
      apply agree_resize agree
      · simp [length]
      · simp [length']
      · intro asked i within
        simp only [List.length_map, List.length_range] at within
        simp only [List.getElem?_map, length, length']
        rw [List.getElem?_range (by omega)]
        simpa using different asked (marks.length + i)
    refine .bound ?_ grown
    change result.toInt32.toInt = _
    rw [length_markResize]
    omega

end MadDriver.Pcd.Sysfs

import MadDriver.Core.Hex

/-! i2c_eeprom_drv: reading the device node. `sprintf` writes into the buffer of the
reader itself, whatever its count and the file position. -/
namespace MadDriver.I2c
open Kernel

structure MydeviceDeviceInfo (C : Type) where
  client : Option C

structure File (C : Type) where
  privateData : Option (MydeviceDeviceInfo C)
  fPos : Int64

/-- The bytes put into the buffer from its start on, the result, and the file. -/
structure ReadResult (C : Type) where
  stored : List UInt8
  ret : Int64
  file : File C

def idText (version : Int32) : List UInt8 :=
  ['i', 'd', ' ', '=', ' ', '0', 'x'].map ascii ++ formatHexUpper 2 version.toUInt32.toNat ++
    [ascii '\n']

section Node

variable {C : Type}

def mydeviceOpen (devInfo : MydeviceDeviceInfo C) : Except Int64 (File C) :=
  match devInfo.client with
  | none => .error (-EFAULT)
  | some _ => .ok ⟨some devInfo, 0⟩

/-- `i2c_smbus_read_byte_data` of a client and a command is a parameter. -/
def mydeviceRead (i2cSmbusReadByteData : C → UInt8 → Int32) (filp : File C) (_count : UInt64) :
    Outcome (ReadResult C) :=
  match filp.privateData.bind MydeviceDeviceInfo.client with
  | none => .wild
  | some client =>
    let version := i2cSmbusReadByteData client 0x0F
    let text := idText version
    .done ⟨text ++ [0], .ofNat text.length, filp⟩

structure Request where
  count : UInt64
  some_bytes : 0 < count.toNat
  failure : Option { code : Int32 // code < 0 }

def Request.version (value : UInt8) (request : Request) : Int32 :=
  match request.failure with
  | none => value.toUInt32.toInt32
  | some code => code.val

def session (value : UInt8) : File C → List Request → Outcome (List (ReadResult C))
  | _, [] => .done []
  | filp, request :: requests =>
    (mydeviceRead (fun _ _ => request.version value) filp request.count).bind fun r =>
      (session value r.file requests).map (r :: ·)

def ReadResult.received (r : ReadResult C) : List UInt8 := r.stored.take r.ret.toInt.toNat

def idLine (value : UInt8) : List UInt8 :=
  ['i', 'd', ' ', '=', ' ', '0', 'x'].map ascii ++
    [hexDigitUpper (value.toNat / 16), hexDigitUpper (value.toNat % 16), ascii '\n']

/-- What is claimed of a read after `got` has been received. -/
structure ReadRight (line got : List UInt8) (request : Request) (r : ReadResult C) : Prop where
  stored : r.stored.length ≤ request.count.toNat
  returned : r.ret.toInt ≤ request.count.toNat
  error : request.failure ≠ none → r.ret.toInt < 0 ∧ r.stored = []
  next : request.failure = none →
    r.ret.toInt = r.received.length ∧ got ++ r.received <+: line
  stop : request.failure = none → (r.ret = 0 ↔ got = line)

def SessionRight (line : List UInt8) : List UInt8 → List Request → List (ReadResult C) → Prop
  | _, [], [] => True
  | got, request :: requests, r :: results =>
    ReadRight line got request r ∧ SessionRight line (got ++ r.received) requests results
  | _, [], _ :: _ | _, _ :: _, [] => False

theorem idText_register (value : UInt8) : idText value.toUInt32.toInt32 = idLine value := by
  have unsigned : value.toUInt32.toInt32.toUInt32.toNat = value.toNat := by
    rw [UInt32.toUInt32_toInt32]
    exact UInt8.toNat_toUInt32 value
  rw [idText, unsigned, formatHexUpper_byte, List.append_assoc]
  rfl

theorem length_idText_le (version : Int32) : (idText version).length ≤ 16 := by
  have small : version.toUInt32.toNat < 16 ^ 8 := version.toUInt32.toNat_lt
  have digits := length_formatHexUpper_le (by decide) small 2
  simp only [idText, List.length_append, List.length_map, List.length_cons, List.length_nil]
  omega

theorem toInt_length_idText (version : Int32) :
    (Int64.ofNat (idText version).length).toInt = (idText version).length := by
  have short := length_idText_le version
  exact Int64.toInt_ofNat_of_lt (by omega)

theorem length_idLine (value : UInt8) : (idLine value).length = 10 := rfl

def answer (value : UInt8) (filp : File C) (request : Request) : ReadResult C :=
  let text := idText (request.version value)
  ⟨text ++ [0], .ofNat text.length, filp⟩

section Open

variable {devInfo : MydeviceDeviceInfo C} {filp : File C} (value : UInt8)

theorem session_answers (opened : mydeviceOpen devInfo = .ok filp) (requests : List Request) :
    session value filp requests = .done (requests.map (answer value filp)) := by
  have has_client : ∃ client, filp.privateData.bind MydeviceDeviceInfo.client = some client := by
    unfold mydeviceOpen at opened
    split at opened
    · cases opened
    · rename_i client known
      cases opened
      exact ⟨client, known⟩
  obtain ⟨client, known⟩ := has_client
  induction requests with
  | nil => rfl
  | cons request requests ih =>
    have read : mydeviceRead (fun _ _ => request.version value) filp request.count =
        .done (answer value filp request) := by
      simp only [mydeviceRead, known, answer]
    have rest : session value (answer value filp request).file requests = _ := ih
    rw [session, read, Outcome.bind, rest]
    rfl

theorem answer_positive (filp : File C) (request : Request) :
    0 < (answer value filp request).ret.toInt := by
  have ret : (answer value filp request).ret.toInt = _ := toInt_length_idText _
  rw [ret]
  simp only [idText, List.length_append, List.length_map, List.length_cons, List.length_nil]
  omega

theorem received_answer (filp : File C) (request : Request) :
    (answer value filp request).received = idText (request.version value) := by
  have ret : (answer value filp request).ret.toInt = _ := toInt_length_idText _
  rw [ReadResult.received, ret, Int.toNat_natCast]
  exact List.take_left

theorem answered {line got : List UInt8} {request : Request}
    (right : ReadRight line got request (answer value filp request)) : request.failure = none := by
  refine Classical.byContradiction fun failed => ?_
  have negative := (right.error failed).1
  have positive := answer_positive value filp request
  omega

theorem version_answered {request : Request} (answered : request.failure = none) :
    idText (request.version value) = idLine value := by
  rw [← idText_register, Request.version, answered]

theorem first_right {request : Request} (answered : request.failure = none) :
    ReadRight (idLine value) [] request (answer value filp request) ↔
      11 ≤ request.count.toNat := by
  have text := version_answered value answered
  have stored : (answer value filp request).stored.length = 11 := by
    rw [answer, text]
    rfl
  have ret : (answer value filp request).ret = 10 := by
    rw [answer, text]
    rfl
  have received : (answer value filp request).received = idLine value := by
    rw [received_answer, text]
  constructor
  · intro right
    have bounded := right.stored
    omega
  · intro room
    refine ⟨?_, ?_, fun failed => absurd answered failed, fun _ => ⟨?_, ?_⟩, fun _ => ?_⟩
    · omega
    · rw [ret]
      change (10 : Int) ≤ _
      omega
    · rw [ret, received]
      rfl
    · rw [received]
      exact List.prefix_rfl
    · rw [ret]
      refine iff_of_false (by decide) fun same => ?_
      have length := congrArg List.length same
      rw [length_idLine] at length
      exact absurd length (by decide)

theorem second_wrong (filp : File C) (request : Request) :
    ¬ ReadRight (idLine value) (idLine value) request (answer value filp request) := by
  intro right
  have positive := answer_positive value filp request
  rw [(right.stop (answered value right)).mpr rfl] at positive
  exact absurd positive (by decide)

/-- Any register value and any reads of an open file. -/
theorem session_right_iff (opened : mydeviceOpen devInfo = .ok filp) (requests : List Request) :
    (∃ results, session value filp requests = .done results ∧
      SessionRight (idLine value) [] requests results) ↔
    requests = [] ∨
      ∃ request, requests = [request] ∧ request.failure = none ∧ 11 ≤ request.count.toNat := by
  rw [session_answers value opened]
  constructor
  · rintro ⟨results, run, right⟩
    cases run
    cases requests with
    | nil => exact .inl rfl
    | cons request requests =>
      obtain ⟨first, later⟩ := right
      have success := answered value first
      have room := (first_right value success).mp first
      cases requests with
      | nil => exact .inr ⟨request, rfl, success, room⟩
      | cons second requests =>
        obtain ⟨again, _⟩ := later
        rw [received_answer, version_answered value success, List.nil_append] at again
        exact absurd again (second_wrong value filp second)
  · rintro (rfl | ⟨request, rfl, success, room⟩)
    · exact ⟨_, rfl, trivial⟩
    · exact ⟨_, rfl, (first_right value success).mpr room, trivial⟩

end Open

end Node

def plain (count : UInt64) (some_bytes : 0 < count.toNat) : Request := ⟨count, some_bytes, none⟩

def device : MydeviceDeviceInfo Unit := ⟨some ()⟩

theorem device_opened : mydeviceOpen device = .ok ⟨some device, 0⟩ := rfl

theorem one_read_right : ∃ results,
    session 0x7F ⟨some device, 0⟩ [plain 4096 (by decide)] = .done results ∧
      SessionRight (idLine 0x7F) [] [plain 4096 (by decide)] results :=
  (session_right_iff 0x7F device_opened [plain 4096 (by decide)]).mpr
    (.inr ⟨_, rfl, rfl, by decide⟩)

/-- The second read of a program that reads to the end returns the line again. -/
theorem two_reads_wrong :
    ¬ ∃ results,
      session 0x7F ⟨some device, 0⟩ [plain 4096 (by decide), plain 4096 (by decide)] =
        .done results ∧
      SessionRight (idLine 0x7F) [] [plain 4096 (by decide), plain 4096 (by decide)] results := by
  rintro ⟨results, run, right⟩
  rw [session_answers 0x7F device_opened] at run
  cases run
  obtain ⟨_, again, _⟩ := right
  rw [received_answer, version_answered 0x7F rfl, List.nil_append] at again
  exact second_wrong 0x7F _ _ again

end MadDriver.I2c

import Mathlib.Data.List.Induction
import Mathlib.Data.List.Nodup
import MadDriver.Gpio.Attributes
import MadDriver.Gpio.Labels

/-! gpio.c of 007_gpio_sysfs_lcd over the attribute files of gpio-sysfs: after a probe, the
calls with one label are the writes to one line. -/
namespace MadDriver.GpioSysfs
open Kernel Function

variable {P G L : Type}

inductive Attribute where
  | direction
  | value
  deriving DecidableEq

def Attribute.text : Attribute → List UInt8
  | .direction => ['d', 'i', 'r', 'e', 'c', 't', 'i', 'o', 'n'].map ascii
  | .value => ['v', 'a', 'l', 'u', 'e'].map ascii

def SYS_GPIO_PATH : List UInt8 :=
  ['/', 's', 'y', 's', '/', 'c', 'l', 'a', 's', 's', '/', 'b', 'o', 'n', 'e', '_', 'g', 'p', 'i',
    'o', 's'].map ascii

def SOME_BYTES : Nat := 100

/-- An argument that is a file name. -/
structure Label where
  bytes : List UInt8
  nulFree : 0 ∉ bytes
  slashFree : 0x2F ∉ bytes

def attributePath (name : List UInt8) (a : Attribute) : List UInt8 :=
  SYS_GPIO_PATH ++ (0x2F :: name ++ (0x2F :: a.text))

def pathFor (label : Label) (a : Attribute) : List UInt8 :=
  (attributePath label.bytes a).take (SOME_BYTES - 1)

def openFile (devices : List (ClassDevice P G)) (path : List UInt8) :
    Option (ClassDevice P G × Attribute) :=
  devices.findSome? fun d => [Attribute.direction, .value].findSome? fun a =>
    match deviceName d with
    | .done name => if attributePath name a = path then some (d, a) else none
    | _ => none

inductive LibraryCall where
  | configureDir (label : Label) (dirValue : UInt8)
  | writeValue (label : Label) (outValue : UInt8)

def LibraryCall.label : LibraryCall → Label
  | .configureDir label _ | .writeValue label _ => label

def LibraryCall.attribute : LibraryCall → Attribute
  | .configureDir _ _ => .direction
  | .writeValue _ _ => .value

def LibraryCall.text : LibraryCall → List UInt8
  | .configureDir _ dirValue => (if dirValue ≠ 0 then textOut else textIn) ++ [0]
  | .writeValue _ outValue => [if outValue ≠ 0 then ascii '1' else ascii '0', 0]

def Attribute.store : Attribute → List UInt8 → Store
  | .direction, buf => .direction buf
  | .value, buf => .value buf

/-- The display program's two functions, as the writes of the library's calls to a pin. -/
theorem display_writes (label : Label) (pin : Lcd.Pin) (value : UInt8) :
    (Store.direction (LibraryCall.configureDir label value).text).writes (Lcd.GpioSysfs.line pin) =
      Lcd.GpioSysfs.gpioConfigureDir pin value ∧
    (Store.value (LibraryCall.writeValue label value).text).writes (Lcd.GpioSysfs.line pin) =
      Lcd.GpioSysfs.gpioWriteValue pin value := by
  rcases eq_or_ne value 0 with low | high
  · rw [low]
    exact ⟨rfl, rfl⟩
  · rw [LibraryCall.text, LibraryCall.text, Lcd.GpioSysfs.gpioConfigureDir,
      Lcd.GpioSysfs.gpioWriteValue, if_pos high, if_pos high, if_pos high, if_pos high]
    exact ⟨rfl, rfl⟩

section Calls

variable [DecidableEq G] (g : Gpiolib L) (devices : List (ClassDevice P G))

/-- `gpio_configure_dir` and `gpio_write_value`: a failed `open` is returned, the result of
the write is not looked at. -/
def LibraryCall.run (call : LibraryCall) (lines : G → L) : Int × (G → L) :=
  match openFile devices (pathFor call.label call.attribute) with
  | none => (-1, lines)
  | some (d, a) =>
    let stored := (a.store call.text).run g (lines d.drvdata.desc)
    (0, update lines d.drvdata.desc stored.line)

def runCalls (calls : List LibraryCall) (lines : G → L) : G → L :=
  calls.foldl (fun lines call => (call.run g devices lines).2) lines

omit [DecidableEq G] in
/-- `atoi` of the memory from some byte on; `strtol` stops at the bounds of `long`. -/
def atoi (memory : List UInt8) : Int :=
  let text := memory.dropWhile fun ch => ch = 0x20 || (0x09 ≤ ch && ch ≤ 0x0D)
  let magnitude (text : List UInt8) : Int :=
    (text.takeWhile fun ch => 0x30 ≤ ch && ch ≤ 0x39).foldl
      (fun n ch => 10 * n + (ch - 0x30).toNat) 0
  match text with
  | 0x2D :: text => max (-magnitude text) (-2 ^ 63)
  | 0x2B :: text => min (magnitude text) (2 ^ 63 - 1)
  | text => min (magnitude text) (2 ^ 63 - 1)

omit [DecidableEq G] in
/-- `gpio_read_value`: one byte is read into a `uint8_t`, and `atoi` goes on behind it. -/
def gpioReadValue (label : Label) (lines : G → L) (behind : List UInt8) : Int :=
  match openFile devices (pathFor label .value) with
  | none => -1
  | some (d, _) =>
    match valueShow g (lines d.drvdata.desc) with
    | [] => atoi (0 :: behind) % 256
    | ch :: _ => atoi (ch :: behind) % 256

end Calls

theorem text_ends (front : List UInt8) (a : Attribute) :
    (front ++ a.text).getLast? = some (if a = .direction then ascii 'n' else ascii 'e') := by
  cases a with
  | direction => simp [Attribute.text]
  | value => simp [Attribute.text]

theorem attributePath_inj {name name' : List UInt8} {a a' : Attribute} :
    attributePath name a = attributePath name' a' ↔ name = name' ∧ a = a' := by
  constructor
  · intro same
    have behind := List.append_cancel_left same
    rw [← List.singleton_append (l := a.text), ← List.singleton_append (l := a'.text),
      ← List.append_assoc, ← List.append_assoc] at behind
    have last := (text_ends _ a).symm.trans ((congrArg List.getLast? behind).trans (text_ends _ a'))
    have kind : a = a' := by
      cases a <;> cases a' <;> first | rfl | exact absurd last (by decide)
    subst kind
    have names := List.append_cancel_right (List.append_cancel_right behind)
    exact ⟨(List.cons.inj names).2, rfl⟩
  · rintro ⟨rfl, rfl⟩
    rfl

theorem length_attributePath (name : List UInt8) (a : Attribute) :
    name.length + 28 ≤ (attributePath name a).length ∧
      (attributePath name a).length ≤ name.length + 32 := by
  have path : SYS_GPIO_PATH.length = 21 := rfl
  have direction : Attribute.direction.text.length = 9 := rfl
  have value : Attribute.value.text.length = 5 := rfl
  cases a <;> simp [attributePath, path, direction, value] <;> omega

theorem pathFor_iff {name : List UInt8} (short : name.length < LABEL_SIZE) {label : Label}
    {a a' : Attribute} :
    attributePath name a' = pathFor label a ↔ name = label.bytes ∧ a' = a := by
  have bounds := (length_attributePath name a').2
  have size : LABEL_SIZE = 20 := rfl
  rw [pathFor]
  by_cases whole : (attributePath label.bytes a).length ≤ SOME_BYTES - 1
  · rw [List.take_of_length_le whole, attributePath_inj]
  · have cut : ((attributePath label.bytes a).take (SOME_BYTES - 1)).length = SOME_BYTES - 1 := by
      rw [List.length_take]
      omega
    have bytes : SOME_BYTES = 100 := rfl
    refine iff_of_false (fun same => ?_) ?_
    · rw [← same] at cut
      omega
    · rintro ⟨rfl, rfl⟩
      omega

def probedLines [DecidableEq G] (g : Gpiolib L) (children : List (Child G)) (lines : G → L) :
    G → L :=
  (created 0 children).foldl (fun lines x =>
    match x.2.device with
    | none => lines
    | some desc => update lines desc (probed g (lines desc))) lines

structure Apart (children : List (Child G)) : Prop where
  texts : ((created 0 children).map text).Nodup
  lines : ((created 0 children).map fun x => x.2.device).Nodup

/-- A class device for each child made, of its line and under its text, and no others. -/
structure Bank (children : List (Child G)) (devices : List (ClassDevice P G)) : Prop where
  child : ∀ d ∈ devices, ∃ x ∈ created 0 children,
    deviceName d = .done (text x) ∧ x.2.device = some d.drvdata.desc
  device : ∀ x ∈ created 0 children, ∃ d ∈ devices, deviceName d = .done (text x)
  short : ∀ x ∈ created 0 children, (text x).length < LABEL_SIZE

variable {children : List (Child G)} {devices : List (ClassDevice P G)}

theorem created_stored {x : Nat × Child G} (member : x ∈ created 0 children) :
    x ∈ stored 0 children :=
  And.left ( created_prefix 0 children) |>.subset member

theorem forall₂_partner {A B : Type} {R : A → B → Prop} {xs : List A} {ys : List B}
    (all : List.Forall₂ R xs ys) {x : A} (member : x ∈ xs) : ∃ y ∈ ys, R x y := by
  induction all with
  | nil => cases member
  | cons related _ ih =>
    rcases List.mem_cons.mp member with rfl | later
    · exact ⟨_, List.mem_cons_self, related⟩
    · obtain ⟨y, there, right⟩ := ih later
      exact ⟨y, List.mem_cons_of_mem _ there, right⟩

theorem probe_bank [DecidableEq P] {p : P} {s' : State P G} {kzalloc : Bool}
    (fits : LabelsFit children)
    (done : gpioSysfsProbe loaded p kzalloc children = .done (0, s')) :
    Bank children s'.classDevices := by
  obtain ⟨new, classDevices, made⟩ := gpioSysfsProbe_created done
  have named : List.Forall₂ (fun x d => deviceName d = .done (text x) ∧
      x.2.device = some d.drvdata.desc) (created 0 children) new := by
    refine ((List.forall₂_and_left _ _).mpr ⟨fits.plain, made⟩).imp fun x d right => ?_
    have shows := shows_iff.mpr right
    exact ⟨shows.2.2, shows.1.desc⟩
  have same : s'.classDevices = new := classDevices
  rw [same]
  refine ⟨?_, ?_, fun x member => inside_iff.mpr fits.short x (created_stored member)⟩
  · intro d member
    obtain ⟨x, x_member, related⟩ := forall₂_partner named.flip member
    exact ⟨x, x_member, related⟩
  · intro x member
    obtain ⟨d, d_member, related⟩ := forall₂_partner named member
    exact ⟨d, d_member, related.1⟩

theorem openFile_bank (bank : Bank children devices) (label : Label) (a : Attribute) :
    (∃ x ∈ created 0 children, ∃ d ∈ devices, text x = label.bytes ∧
        x.2.device = some d.drvdata.desc ∧ openFile devices (pathFor label a) = some (d, a)) ∨
      (∀ x ∈ created 0 children, text x ≠ label.bytes) ∧
        openFile devices (pathFor label a) = none := by
  cases found : openFile devices (pathFor label a) with
  | none =>
    refine .inr ⟨fun x member same => ?_, rfl⟩
    obtain ⟨d, there, name⟩ := bank.device x member
    have missed := List.findSome?_eq_none_iff.mp (List.findSome?_eq_none_iff.mp found d there) a
      (by cases a <;> simp)
    rw [name, same] at missed
    simp only [ite_eq_right_iff, reduceCtorEq, imp_false] at missed
    exact missed ((pathFor_iff (same ▸ bank.short x member)).mpr ⟨rfl, rfl⟩)
  | some file =>
    obtain ⟨d, there, inside⟩ := List.exists_of_findSome?_eq_some found
    obtain ⟨a', _, here⟩ := List.exists_of_findSome?_eq_some inside
    obtain ⟨x, member, name, desc⟩ := bank.child d there
    rw [name] at here
    simp only [Option.ite_none_right_eq_some, Option.some.injEq] at here
    obtain ⟨path, rfl⟩ := here
    obtain ⟨same, rfl⟩ := (pathFor_iff (bank.short x member)).mp path
    exact .inl ⟨x, member, d, there, same, desc, rfl⟩

def LibraryCall.store (call : LibraryCall) : Store := call.attribute.store call.text

def storesFor (name : List UInt8) (calls : List LibraryCall) : List Store :=
  (calls.filter fun call => call.label.bytes = name).map LibraryCall.store

def LibraryCall.asks : LibraryCall → Accepted
  | .configureDir _ dirValue => if dirValue ≠ 0 then .output else .input
  | .writeValue _ outValue => .integer (if outValue ≠ 0 then 1 else 0)

theorem store_accepted (call : LibraryCall) : call.store.accepted = some call.asks := by
  cases call with
  | configureDir _ dirValue =>
    rcases eq_or_ne dirValue 0 with rfl | high
    · rfl
    · simp only [LibraryCall.store, LibraryCall.attribute, LibraryCall.text, LibraryCall.asks,
        if_pos high]
      rfl
  | writeValue _ outValue =>
    rcases eq_or_ne outValue 0 with rfl | high
    · rfl
    · simp only [LibraryCall.store, LibraryCall.attribute, LibraryCall.text, LibraryCall.asks,
        if_pos high]
      rfl

theorem store_keeps (w : Written) (call : LibraryCall) : w.Keeps .accepted call.store := by
  unfold Written.Keeps
  rw [store_accepted]
  cases call with
  | configureDir _ dirValue =>
    rcases eq_or_ne dirValue 0 with rfl | high
    · trivial
    · simp only [LibraryCall.asks, if_pos high]
      nofun
  | writeValue _ outValue =>
    rcases eq_or_ne outValue 0 with rfl | high
    · exact fun _ _ => rfl
    · simp only [LibraryCall.asks, if_pos high]
      exact fun _ divides => absurd divides (by decide)

section Run

variable [DecidableEq G] {g : Gpiolib L} {lines : G → L} {calls : List LibraryCall}

def Mirrors (g : Gpiolib L) (children : List (Child G)) (calls : List LibraryCall)
    (lines : G → L) : Prop :=
  ∀ x ∈ created 0 children, ∀ desc, x.2.device = some desc →
    Agrees g (written .accepted (storesFor (text x) calls)) (lines desc)

omit [DecidableEq G] in
theorem storesFor_snoc (name : List UInt8) (calls : List LibraryCall) (call : LibraryCall) :
    storesFor name (calls ++ [call]) =
      if call.label.bytes = name then storesFor name calls ++ [call.store]
      else storesFor name calls := by
  by_cases same : call.label.bytes = name <;> simp [storesFor, List.filter_append, same]

theorem call_mirrors (bank : Bank children devices) (apart : Apart children)
    (mirrors : Mirrors g children calls lines) (call : LibraryCall) :
    Mirrors g children (calls ++ [call]) (call.run g devices lines).2 := by
  intro x member desc device
  have before := mirrors x member desc device
  rw [storesFor_snoc]
  unfold LibraryCall.run
  rcases openFile_bank bank call.label call.attribute with
    ⟨y, y_member, d, _, name, line, file⟩ | ⟨unknown, file⟩
  · rw [file]
    by_cases own : x = y
    · subst own
      cases Option.some.inj (device.symm.trans line)
      rw [if_pos name.symm, written_snoc]
      simp only [update_self]
      exact (agrees_after before call.store).mpr (store_keeps _ call)
    · have other : desc ≠ d.drvdata.desc := by
        rintro rfl
        exact own (List.inj_on_of_nodup_map apart.lines member y_member (device.trans line.symm))
      have others : call.label.bytes ≠ text x := fun same =>
        own (List.inj_on_of_nodup_map apart.texts member y_member (same.symm.trans name.symm))
      simpa only [if_neg others, update_of_ne other] using before
  · rw [file, if_neg fun same => unknown x member same.symm]
    exact before

theorem runCalls_snoc (calls : List LibraryCall) (call : LibraryCall) (lines : G → L) :
    runCalls g devices (calls ++ [call]) lines =
      (call.run g devices (runCalls g devices calls lines)).2 :=
  List.foldl_concat ..

theorem runCalls_mirrors (bank : Bank children devices) (apart : Apart children)
    (initial : Mirrors g children [] lines) (calls : List LibraryCall) :
    Mirrors g children calls (runCalls g devices calls lines) := by
  induction calls using List.reverseRecOn with
  | nil => exact initial
  | append_singleton calls call ih =>
    rw [runCalls_snoc]
    exact call_mirrors bank apart ih call

theorem foldl_probed (xs : List (Nat × Child G)) (lines : G → L) {x : Nat × Child G} {desc : G}
    (member : x ∈ xs) (device : x.2.device = some desc) :
    ∃ l, xs.foldl (fun lines x =>
      match x.2.device with
      | none => lines
      | some desc => update lines desc (probed g (lines desc))) lines desc = probed g l := by
  induction xs using List.reverseRecOn with
  | nil => cases member
  | append_singleton xs last ih =>
    rw [List.foldl_concat]
    rcases List.mem_append.mp member with before | now
    · obtain ⟨l, here⟩ := ih before
      cases line : last.2.device with
      | none => exact ⟨l, here⟩
      | some desc' =>
        rcases eq_or_ne desc desc' with rfl | other
        · exact ⟨_, update_self ..⟩
        · exact ⟨l, (update_of_ne other ..).trans here⟩
    · cases List.mem_singleton.mp now
      rw [device]
      exact ⟨_, update_self ..⟩

theorem probed_mirrors (lines : G → L) : Mirrors g children [] (probedLines g children lines) := by
  intro x member desc device
  obtain ⟨l, here⟩ := foldl_probed (g := g) (created 0 children) lines member device
  rw [probedLines, here]
  exact agrees_probed

theorem call_returns (bank : Bank children devices) (call : LibraryCall) (lines : G → L) :
    ((∃ x ∈ created 0 children, text x = call.label.bytes) ∧
        (call.run g devices lines).1 = 0) ∨
      (∀ x ∈ created 0 children, text x ≠ call.label.bytes) ∧
        call.run g devices lines = (-1, lines) := by
  unfold LibraryCall.run
  rcases openFile_bank bank call.label call.attribute with
    ⟨x, member, d, _, name, _, file⟩ | ⟨unknown, file⟩
  · rw [file]
    exact .inl ⟨⟨x, member, name⟩, rfl⟩
  · rw [file]
    exact .inr ⟨unknown, rfl⟩

omit [DecidableEq G] in
theorem atoi_digit {ch : UInt8} (digit : ch = ascii '0' ∨ ch = ascii '1') {behind : List UInt8}
    (ends : ∀ next ∈ behind.head?, ¬ (0x30 ≤ next ∧ next ≤ 0x39)) :
    atoi (ch :: behind) = if ch = ascii '0' then 0 else 1 := by
  have stop : behind.takeWhile (fun ch => 0x30 ≤ ch && ch ≤ 0x39) = [] := by
    cases behind with
    | nil => rfl
    | cons next rest =>
      have outside := ends next rfl
      rw [List.takeWhile_cons_of_neg (by simpa using outside)]
  have only : (ch :: behind).takeWhile (fun ch => 0x30 ≤ ch && ch ≤ 0x39) = [ch] := by
    rw [List.takeWhile_cons_of_pos (by rcases digit with rfl | rfl <;> decide), stop]
  have plain : atoi (ch :: behind) =
      min (((ch :: behind).takeWhile (fun ch => 0x30 ≤ ch && ch ≤ 0x39)).foldl
        (fun n ch => 10 * n + ((ch - 0x30).toNat : Int)) 0) (2 ^ 63 - 1) := by
    rcases digit with rfl | rfl <;> rfl
  rw [plain, only]
  rcases digit with rfl | rfl <;> rfl

omit [DecidableEq G] in
theorem gpioReadValue_mirrors (bank : Bank children devices)
    (mirrors : Mirrors g children calls lines) {x : Nat × Child G} (member : x ∈ created 0 children)
    {label : Label} (name : text x = label.bytes)
    (out : (written .accepted (storesFor label.bytes calls)).out = true) {behind : List UInt8}
    (ends : ∀ next ∈ behind.head?, ¬ (0x30 ≤ next ∧ next ≤ 0x39)) :
    gpioReadValue g devices label lines behind =
      if (written .accepted (storesFor label.bytes calls)).value = 0 then 0 else 1 := by
  unfold gpioReadValue
  rcases openFile_bank bank label .value with ⟨y, y_member, d, _, name', line, file⟩ | ⟨unknown, _⟩
  · have agrees := mirrors y y_member _ line
    rw [name'] at agrees
    rw [file]
    simp only [agrees.value out]
    rw [atoi_digit (by split <;> simp) ends]
    split <;> rfl
  · exact absurd name (unknown x member)

end Run

/-- After a probe whose children have labels and lines of their own, and any calls of the
program: every line is as the calls with its label have left it, a call is refused exactly
if no device has its label, and a line that is an output is read back. -/
theorem library_right [DecidableEq P] [DecidableEq G] {p : P} {s' : State P G} {kzalloc : Bool}
    (fits : LabelsFit children) (apart : Apart children)
    (done : gpioSysfsProbe loaded p kzalloc children = .done (0, s')) (g : Gpiolib L)
    (lines : G → L) (calls : List LibraryCall) :
    Mirrors g children calls
        (runCalls g s'.classDevices calls (probedLines g children lines)) ∧
    (∀ (call : LibraryCall) (now : G → L),
      (∃ x ∈ created 0 children, text x = call.label.bytes) ∧
          (call.run g s'.classDevices now).1 = 0 ∨
        (∀ x ∈ created 0 children, text x ≠ call.label.bytes) ∧
          call.run g s'.classDevices now = (-1, now)) ∧
    ∀ x ∈ created 0 children, ∀ (label : Label) (behind : List UInt8), text x = label.bytes →
      (written .accepted (storesFor label.bytes calls)).out = true →
      (∀ next ∈ behind.head?, ¬ (0x30 ≤ next ∧ next ≤ 0x39)) →
      gpioReadValue g s'.classDevices label
          (runCalls g s'.classDevices calls (probedLines g children lines)) behind =
        if (written .accepted (storesFor label.bytes calls)).value = 0 then 0 else 1 := by
  have bank := probe_bank fits done
  have mirrors := runCalls_mirrors bank apart (probed_mirrors (g := g) lines) calls
  exact ⟨mirrors, fun call now => call_returns bank call now,
    fun x member label behind name out ends =>
      gpioReadValue_mirrors bank mirrors member name out ends⟩

def namedChild (letter : UInt8) (desc : Bool) : Child Bool :=
  ⟨true, some [letter], true, .ok desc, 0, none⟩

def lettered : List (Child Bool) := [namedChild 0x61 false, namedChild 0x62 true]

def labelA : Label := ⟨[0x61], by decide, by decide⟩

def labelB : Label := ⟨[0x62], by decide, by decide⟩

def labelC : Label := ⟨[0x63], by decide, by decide⟩

def letterCalls : List LibraryCall :=
  [.writeValue labelA 1, .configureDir labelB 0, .writeValue labelC 1]

theorem library_right_letters : ∃ (s' : State Unit Bool) (lines : Bool → Line),
    gpioSysfsProbe loaded () true lettered = .done (0, s') ∧
      lines = runCalls Line.library s'.classDevices letterCalls
        (probedLines Line.library lettered fun _ => ⟨false, false⟩) ∧
      Mirrors Line.library lettered letterCalls lines ∧
      (LibraryCall.writeValue labelC 1).run Line.library s'.classDevices lines = (-1, lines) ∧
      gpioReadValue Line.library s'.classDevices labelA lines [] = 1 := by
  have members : ∀ x ∈ stored 0 lettered, x = (0, namedChild 0x61 false) ∨
      x = (1, namedChild 0x62 true) := by
    intro x member
    simpa [stored, lettered, namedChild, Child.device] using member
  have fits : LabelsFit lettered := by
    constructor
    · intro x member label given
      rcases members x member with rfl | rfl <;> cases given <;> decide
    · intro x member label given
      rcases members x (created_stored member) with rfl | rfl <;> cases given <;> decide
  have apart : Apart lettered := ⟨by decide, by decide⟩
  obtain ⟨s', probed⟩ : ∃ s' : State Unit Bool,
      gpioSysfsProbe loaded () true lettered = .done (0, s') := ⟨_, rfl⟩
  obtain ⟨mirrors, answers, reads⟩ := library_right fits apart probed Line.library
    (fun _ => ⟨false, false⟩) letterCalls
  refine ⟨s', _, probed, rfl, mirrors, ?_, ?_⟩
  · rcases answers (.writeValue labelC 1) _ with ⟨⟨x, member, name⟩, _⟩ | ⟨_, refused⟩
    · rcases members x (created_stored member) with rfl | rfl <;> exact absurd name (by decide)
    · exact refused
  · exact reads (0, namedChild 0x61 false) List.mem_cons_self labelA [] rfl rfl (by simp)

end MadDriver.GpioSysfs

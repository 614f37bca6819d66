import MadDriver.Core.Decimal
import MadDriver.Exclusive.Input
import MadDriver.Exclusive.Open

/-! blocking_drv_app.cpp and intrpt_drv_app.cpp over their drivers, any number of processes
at once. A process has the file to itself from its open to its close, so a call on the open
file is one step. -/
namespace MadDriver.Exclusive.App
open Kernel Transition Function Waiting

variable {I : Type}

def MAX_BYTES : UInt64 := 1024 * 4

def O_RDWR : UInt32 := 2

abbrev Argument := { text : List UInt8 // 0 ∉ text ∧ text.length < 2 ^ 63 }

inductive Call where
  | open
  | write (text : Argument)
  | read
  | exit

def printed (text : String) : List UInt8 := text.toList.map ascii

def puts (text : String) : List UInt8 := printed text ++ [0x0A]

/- The lines of main between two calls: what they print, and the next call. -/
def afterOpen (report : Int64 → List UInt8) (argv1 : Option Argument) (ret : Int64) :
    List UInt8 × Call :=
  if ret < 0 then
    (report (-ret) ++ puts (if -ret = EAGAIN then "Open would block" else "Open failed"), .exit)
  else
    match argv1 with
    | some text => ([], .write text)
    | none => ([], .read)

def afterWrite (ret : Int64) : List UInt8 × Call :=
  (if ret < 0 then puts "write error" else [], .read)

def afterRead (ret : Int64) (buffer : List UInt8) : List UInt8 × Call :=
  if ret < 0 then
    (puts (if -ret = EAGAIN then
        "Normally    I'd    block,    but    you    told    me    not    to"
      else "Another    read    error"), .exit)
  else if 0 < ret then (buffer.take ret.toInt.toNat, .read)
  else ([], .exit)

def blockingReport : Int64 → List UInt8 := fun _ => []

def intrptReport : Int64 → List UInt8 := fun errno =>
  printed "open error[" ++ formatInt errno.toInt ++ printed "]\n"

inductive Place where
  | about (call : Call)
  | opening
  | closing
  | gone

structure System (I : Type) where
  driver : State I Phase
  message : Message
  finished : Int32
  place : I → Place
  out : I → List UInt8

def loaded : System I where
  driver := idle 0 .outside
  message := emptyMessage
  finished := 0
  place _ := .about .open
  out _ := []

inductive Event (I : Type) where
  | opens (i : I)
  | inside (i : I)
  | opened (i : I) (ret : Int64)
  | writes (i : I) (w : UserWrite) (ret : Int64)
  | reads (i : I) (reply : Reply)
  | exits (i : I)
  | closed (i : I)
  | killed (i : I)

def Event.process : Event I → I
  | .opens i | .inside i | .opened i _ | .writes i _ _ | .reads i _ | .exits i | .closed i
  | .killed i => i

def Argument.userWrite (text : Argument) : UserWrite := ⟨text.val ++ [0], .ofNat text.val.length⟩

section Steps

variable [DecidableEq I] (read : Message → Int32 → UInt64 → Int32 × Reply)
  (report : Int64 → List UInt8) (argv1 : I → Option Argument)

def System.goOn (s : System I) (i : I) (lines : List UInt8 × Call) : System I :=
  { s with
    place := update s.place i (.about lines.2)
    out := update s.out i (s.out i ++ lines.1) }

theorem goOn_self (s : System I) (i : I) (lines : List UInt8 × Call) :
    (s.goOn i lines).place i = .about lines.2 ∧ (s.goOn i lines).out i = s.out i ++ lines.1 :=
  ⟨update_self .., update_self ..⟩

theorem goOn_other (s : System I) {i k : I} (other : k ≠ i) (lines : List UInt8 × Call) :
    (s.goOn i lines).place k = s.place k ∧ (s.goOn i lines).out k = s.out k :=
  ⟨update_of_ne other .., update_of_ne other ..⟩

/-- module_input and intrpt_input return no value, so `ret` is any. A process is killed
between two calls, which ends it as `exit` does. -/
inductive Step (s : System I) : Event I → System I → Prop where
  | opens {i : I} {d : State I Phase} : s.place i = .about .open →
      Waiting.Step s.driver (.opens i (O_RDWR ||| O_NONBLOCK)) d →
      Step s (.opens i) { s with driver := d, place := update s.place i .opening }
  | advances {i : I} {d : State I Phase} : Waiting.Step s.driver (.advances i) d →
      Step s (.inside i) { s with driver := d }
  | waits {i : I} {flags : UInt32} {d : State I Phase} :
      Waiting.Step s.driver (.waits i flags) d → Step s (.inside i) { s with driver := d }
  | opened {i : I} {flags : UInt32} {ret : Int64} {d : State I Phase} :
      s.place i = .opening → Waiting.Step s.driver (.opened i flags ret) d →
      Step s (.opened i ret) (System.goOn { s with driver := d } i (afterOpen report (argv1 i) ret))
  | writes {i : I} {text : Argument} {m : Message} (ret : Int64) :
      s.place i = .about (.write text) →
      input s.message.bytes text.userWrite.buf text.userWrite.length = .done m.bytes →
      Step s (.writes i text.userWrite ret)
        (System.goOn { s with message := m } i (afterWrite ret))
  | reads {i : I} : s.place i = .about .read →
      Step s (.reads i (read s.message s.finished MAX_BYTES).2)
        (System.goOn { s with finished := (read s.message s.finished MAX_BYTES).1 } i
          (afterRead (read s.message s.finished MAX_BYTES).2.ret
            (read s.message s.finished MAX_BYTES).2.puts))
  | exitCloses {i : I} {d : State I Phase} : s.place i = .about .exit →
      Waiting.Step s.driver (.closes i) d →
      Step s (.exits i) { s with driver := d, place := update s.place i .closing }
  | exitClosed {i : I} : s.place i = .about .exit → s.driver.phase i = .outside →
      Step s (.exits i) { s with place := update s.place i .gone }
  | closed {i : I} {ret : Int64} {d : State I Phase} : s.place i = .closing →
      Waiting.Step s.driver (.closed i ret) d →
      Step s (.closed i) { s with driver := d, place := update s.place i .gone }
  | killed {i : I} {call : Call} : s.place i = .about call →
      Step s (.killed i) { s with place := update s.place i (.about .exit) }

end Steps

def lastText (hist : List (Event I)) : List UInt8 :=
  hist.foldl (fun text e => match e with
    | .writes _ w _ => w.text
    | _ => text) []

/-- What the process is to show: what it was started with, or else what was written last
before it had the file. -/
def wanted (argv1 : Option Argument) (before : List (Event I)) : List UInt8 :=
  match argv1 with
  | some text => text.val.take (MESSAGE_LENGTH - 1)
  | none => lastText before

def complaints [DecidableEq I] (hist : List (Event I)) (i : I) : List UInt8 :=
  hist.flatMap fun e => match e with
    | .writes j _ ret => if j = i ∧ ret < 0 then puts "write error" else []
    | _ => []

def Shows [DecidableEq I] (argv1 : Option Argument) (hist : List (Event I)) (i : I)
    (out : List UInt8) : Prop :=
  ∃ before, before ++ [.opened i 0] <+: hist ∧
    out = complaints hist i ++ (lastInput ++ wanted argv1 before ++ [0x0A])

inductive Zone where
  | outside
  | opening
  | opened
  | closing

def zone : Phase → Zone
  | .outside => .outside
  | .check _ | .tryModuleGet _ | .cmpxchg _ | .waitEvent _ | .asleep _ | .scanSignals _
  | .interrupted _ => .opening
  | .opened => .opened
  | .atomicSet | .wakeUp | .modulePut => .closing

theorem zone_wake (p : Phase) : zone (wake p) = zone p := by
  cases p <;> rfl

theorem opened_flag {p : Phase} (opened : zone p = .opened) : (role p).flag = true := by
  cases p <;> first | rfl | cases opened

section Driver

variable {d d' : State I Phase} {i : I}

theorem opened_alone (balanced : Balanced role 0 d) {j : I} (here : zone (d.phase i) = .opened)
    (there : zone (d.phase j) = .opened) : i = j :=
  (balanced_kept balanced).alone i j (opened_flag here) (opened_flag there)

theorem free_unopened (balanced : Balanced role 0 d) (free : d.alreadyOpen = 0) (j : I) :
    zone (d.phase j) ≠ .opened := by
  intro opened
  have unflagged := (balanced_kept balanced).free.mp free j
  exact absurd ((opened_flag opened).symm.trans unflagged) (by decide)

variable [DecidableEq I]

theorem zone_update {k : I} {p : Phase} (same : zone p = zone (d.phase i)) :
    zone (update d.phase i p k) = zone (d.phase k) := by
  rcases eq_or_ne k i with rfl | other
  · rw [update_self, same]
  · rw [update_of_ne other]

/-- Inside an open or a close a process comes into no other zone, and puts nobody else there. -/
theorem advances_zone (step : Waiting.Step d (.advances i) d') (k : I) :
    zone (d'.phase k) = zone (d.phase k) := by
  cases step with
  | passes here _ | tryModuleGet here | conditionHolds here _ | sleeps here _ | retries _ here _
  | givesUp _ here _ | atomicSet here => exact zone_update (by rw [here]; rfl)
  | signalled here => rcases here with here | here <;> exact zone_update (by rw [here]; rfl)
  | wakeUp here =>
    have woken : zone (Phase.modulePut) = zone ((wake ∘ d.phase) i) := by
      rw [comp_apply, zone_wake, here]
      rfl
    change zone (update (wake ∘ d.phase) i .modulePut k) = _
    rcases eq_or_ne k i with rfl | other
    · rw [update_self, woken, comp_apply, zone_wake]
    · rw [update_of_ne other, comp_apply, zone_wake]

theorem waits_zone {flags : UInt32} (step : Waiting.Step d (.waits i flags) d') (k : I) :
    zone (d'.phase k) = zone (d.phase k) := by
  cases step with
  | misses here _ => exact zone_update (by rw [here]; rfl)

def Enters (i : I) (z : Zone) (phase phase' : I → Phase) : Prop :=
  zone (phase' i) = z ∧ ∀ k ≠ i, phase' k = phase k

theorem update_enters {phase : I → Phase} (p : Phase) :
    Enters i (zone p) phase (update phase i p) :=
  ⟨by rw [update_self], fun _ other => update_of_ne other ..⟩

theorem opens_zone {flags : UInt32} (step : Waiting.Step d (.opens i flags) d') :
    Enters i .opening d.phase d'.phase := by
  cases step with
  | call _ _ => exact update_enters (.check flags)

theorem opened_zone {flags : UInt32} {ret : Int64}
    (step : Waiting.Step d (.opened i flags ret) d') :
    ret = 0 ∧ d.alreadyOpen = 0 ∧ Enters i .opened d.phase d'.phase ∨
      ret < 0 ∧ Enters i .outside d.phase d'.phase := by
  cases step with
  | wouldBlock _ _ _ | interrupted _ => exact .inr ⟨by decide, update_enters .outside⟩
  | takes _ free => exact .inl ⟨rfl, free, update_enters .opened⟩

theorem closes_zone (step : Waiting.Step d (.closes i) d') :
    zone (d.phase i) = .opened ∧ Enters i .closing d.phase d'.phase := by
  cases step with
  | close here => exact ⟨by rw [here]; rfl, update_enters .atomicSet⟩

theorem closed_zone {ret : Int64} (step : Waiting.Step d (.closed i ret) d') :
    Enters i .outside d.phase d'.phase := by
  cases step with
  | modulePut _ => exact update_enters .outside

end Driver

section Invariant

variable [DecidableEq I] (argv1 : I → Option Argument)

def Ready (hist : List (Event I)) (i : I) (out : List UInt8) : Prop :=
  ∃ before, before ++ [.opened i 0] <+: hist ∧ out = complaints hist i ∧
    lastText hist = wanted (argv1 i) before

def Done (hist : List (Event I)) (i : I) (out : List UInt8) : Prop :=
  .opened i 0 ∈ hist → .killed i ∉ hist → Shows (argv1 i) hist i out

def Silent (hist : List (Event I)) (i : I) (out : List UInt8) : Prop :=
  out = [] ∧ complaints hist i = []

def Unopened (hist : List (Event I)) (i : I) (out : List UInt8) : Prop :=
  Silent hist i out ∧ ∀ ret, .opened i ret ∉ hist

def Stands (hist : List (Event I)) (finished : Int32) (at_zone : Zone) (out : List UInt8) (i : I) :
    Place → Prop
  | .about .open => at_zone = .outside ∧ Unopened hist i out
  | .opening => at_zone = .opening ∧ Unopened hist i out
  | .about (.write text) => at_zone = .opened ∧ Silent hist i out ∧ argv1 i = some text ∧
      finished = 0 ∧
      ∃ before, before ++ [.opened i 0] <+: hist
  | .about .read => at_zone = .opened ∧
      (finished = 0 ∧ Ready argv1 hist i out ∨ finished = 1 ∧ Shows (argv1 i) hist i out)
  | .about .exit => (at_zone = .opened ∧ finished = 0 ∨ at_zone = .outside) ∧ Done argv1 hist i out
  | .closing => at_zone = .closing ∧ Done argv1 hist i out
  | .gone => at_zone = .outside ∧ Done argv1 hist i out

structure Right (hist : List (Event I)) (s : System I) : Prop where
  balanced : Balanced role 0 s.driver
  text : cString s.message.bytes = lastText hist
  flag : s.finished = 0 ∨ ∃ i, s.place i = .about .read
  stands : ∀ i, Stands argv1 hist s.finished (zone (s.driver.phase i)) (s.out i) i (s.place i)

variable {argv1} {hist : List (Event I)} {e : Event I} {s : System I} {i : I}

/-- Neither the return of this process from its open nor a write of it. -/
def Event.Aside (i : I) : Event I → Prop
  | .opened j _ | .writes j _ _ => j ≠ i
  | _ => True

theorem complaints_snoc (hist : List (Event I)) (unwritten : ∀ w ret, e ≠ .writes i w ret) :
    complaints (hist ++ [e]) i = complaints hist i := by
  rw [complaints, List.flatMap_append]
  cases e with
  | writes j w ret =>
    have other : ¬ (j = i ∧ ret < 0) := by
      rintro ⟨rfl, _⟩
      exact unwritten w ret rfl
    simp [complaints, other]
  | _ => simp [complaints]

theorem complaints_writes (hist : List (Event I)) (i : I) (w : UserWrite) (ret : Int64) :
    complaints (hist ++ [.writes i w ret]) i =
      complaints hist i ++ if ret < 0 then puts "write error" else [] := by
  simp [complaints]

omit [DecidableEq I] in
theorem Event.Aside.unwritten (aside : e.Aside i) (w : UserWrite) (ret : Int64) :
    e ≠ .writes i w ret := by
  rintro rfl
  exact aside rfl

theorem shows_snoc {out : List UInt8} (shows : Shows (argv1 i) hist i out) (aside : e.Aside i) :
    Shows (argv1 i) (hist ++ [e]) i out := by
  obtain ⟨before, opened, texts⟩ := shows
  refine ⟨before, opened.trans (List.prefix_append ..), ?_⟩
  rw [complaints_snoc hist aside.unwritten, texts]

theorem silent_snoc {out : List UInt8} (silent : Silent hist i out) (aside : e.Aside i) :
    Silent (hist ++ [e]) i out :=
  ⟨silent.1, (complaints_snoc hist aside.unwritten).trans silent.2⟩

theorem done_snoc {out : List UInt8} (done : Done argv1 hist i out) (aside : e.Aside i) :
    Done argv1 (hist ++ [e]) i out := by
  intro opened alive
  have before : .opened i 0 ∈ hist := by
    rcases List.mem_append.mp opened with before | now
    · exact before
    · cases List.mem_singleton.mp now
      exact absurd rfl aside
  exact shows_snoc (done before fun killed => alive (List.mem_append_left _ killed)) aside

theorem unopened_snoc {out : List UInt8} (unopened : Unopened hist i out) (aside : e.Aside i) :
    Unopened (hist ++ [e]) i out := by
  refine ⟨silent_snoc unopened.1 aside, fun ret opened => ?_⟩
  rcases List.mem_append.mp opened with before | now
  · exact unopened.2 ret before
  · cases List.mem_singleton.mp now
    exact absurd rfl aside

theorem stands_snoc {finished finished' : Int32} {at_zone : Zone} {out : List UInt8}
    {place : Place} (stands : Stands argv1 hist finished at_zone out i place)
    (aside : e.Aside i)
    (quiet : at_zone = .opened → finished' = finished ∧ lastText (hist ++ [e]) = lastText hist) :
    Stands argv1 (hist ++ [e]) finished' at_zone out i place := by
  cases place with
  | opening => exact ⟨stands.1, unopened_snoc stands.2 aside⟩
  | closing => exact ⟨stands.1, done_snoc stands.2 aside⟩
  | gone => exact ⟨stands.1, done_snoc stands.2 aside⟩
  | about call =>
    cases call with
    | «open» => exact ⟨stands.1, unopened_snoc stands.2 aside⟩
    | write text =>
      obtain ⟨opened, silent, given, fresh, before, whole⟩ := stands
      exact ⟨opened, silent_snoc silent aside, given, (quiet opened).1.trans fresh, before,
        whole.trans (List.prefix_append ..)⟩
    | read =>
      obtain ⟨opened, now⟩ := stands
      obtain ⟨flag, last⟩ := quiet opened
      refine ⟨opened, ?_⟩
      rcases now with ⟨fresh, before, whole, silent, text⟩ | ⟨set, shows⟩
      · exact .inl ⟨flag.trans fresh, before, whole.trans (List.prefix_append ..),
          silent.trans (complaints_snoc hist aside.unwritten).symm, last.trans text⟩
      · exact .inr ⟨flag.trans set, shows_snoc shows aside⟩
    | exit =>
      refine ⟨?_, done_snoc stands.2 aside⟩
      rcases stands.1 with ⟨opened, fresh⟩ | outside
      · exact .inl ⟨opened, (quiet opened).1.trans fresh⟩
      · exact .inr outside

theorem right_step {t : System I} (right : Right argv1 hist s)
    (balanced : Balanced role 0 t.driver) (text : cString t.message.bytes = lastText (hist ++ [e]))
    (flag : t.finished = 0 ∨ t.place e.process = .about .read ∨
      t.finished = s.finished ∧ s.place e.process ≠ .about .read)
    (here : Stands argv1 (hist ++ [e]) t.finished (zone (t.driver.phase e.process))
      (t.out e.process) e.process (t.place e.process))
    (there : ∀ k ≠ e.process, t.place k = s.place k ∧ t.out k = s.out k ∧
      zone (t.driver.phase k) = zone (s.driver.phase k))
    (quiet : ∀ k ≠ e.process, zone (s.driver.phase k) = .opened →
      t.finished = s.finished ∧ lastText (hist ++ [e]) = lastText hist) :
    Right argv1 (hist ++ [e]) t := by
  refine ⟨balanced, text, ?_, fun k => ?_⟩
  · rcases flag with fresh | reads | ⟨same, moved⟩
    · exact .inl fresh
    · exact .inr ⟨_, reads⟩
    · rcases right.flag with fresh | ⟨j, reads⟩
      · exact .inl (same.trans fresh)
      · have other : j ≠ e.process := by
          rintro rfl
          exact moved reads
        exact .inr ⟨j, (there j other).1.trans reads⟩
  · rcases eq_or_ne k e.process with rfl | other
    · exact here
    · obtain ⟨place, out, zones⟩ := there k other
      rw [place, out, zones]
      refine stands_snoc (right.stands k) ?_ (quiet k other)
      cases e with
      | opened j _ | writes j _ _ => exact Ne.symm other
      | _ => trivial

omit [DecidableEq I] in
theorem lastText_snoc (e : Event I) (calm : ∀ i w ret, e ≠ .writes i w ret) :
    lastText (hist ++ [e]) = lastText hist := by
  rw [lastText, List.foldl_append]
  cases e with
  | writes i w ret => exact absurd rfl (calm i w ret)
  | _ => rfl

omit [DecidableEq I] in
theorem lastText_writes (w : UserWrite) (ret : Int64) :
    lastText (hist ++ [.writes i w ret]) = w.text := by
  rw [lastText, List.foldl_append]
  rfl

theorem right_calm {t : System I} (right : Right argv1 hist s)
    (calm : ∀ i w ret, e ≠ .writes i w ret) (balanced : Balanced role 0 t.driver)
    (message : t.message = s.message) (finished : t.finished = s.finished)
    (moved : s.place e.process ≠ .about .read ∨ t.finished = 0)
    (here : Stands argv1 (hist ++ [e]) t.finished (zone (t.driver.phase e.process))
      (t.out e.process) e.process (t.place e.process))
    (there : ∀ k ≠ e.process, t.place k = s.place k ∧ t.out k = s.out k ∧
      zone (t.driver.phase k) = zone (s.driver.phase k)) :
    Right argv1 (hist ++ [e]) t := by
  have last : lastText (hist ++ [e]) = lastText hist := lastText_snoc e calm
  refine right_step right balanced ?_ ?_ here there fun _ _ _ => ⟨finished, last⟩
  · rw [message, last]
    exact right.text
  · rcases moved with moved | fresh
    · exact .inr (.inr ⟨finished, moved⟩)
    · exact .inl fresh

theorem opens_right {d : State I Phase} (right : Right argv1 hist s)
    (place : s.place i = .about .open)
    (step : Waiting.Step s.driver (.opens i (O_RDWR ||| O_NONBLOCK)) d) :
    Right argv1 (hist ++ [.opens i])
      { s with driver := d, place := update s.place i .opening } := by
  have stands := right.stands i
  rw [place] at stands
  obtain ⟨enters, others⟩ := opens_zone step
  refine right_calm right nofun (step_balanced right.balanced step) rfl rfl
    (.inl (by rw [Event.process, place]; nofun)) ?_ fun k other => ?_
  · simp only [Event.process, update_self]
    exact ⟨enters, unopened_snoc stands.2 trivial⟩
  · exact ⟨update_of_ne other .., rfl, congrArg zone (others k other)⟩

theorem inside_right {d : State I Phase} (right : Right argv1 hist s)
    (balanced : Balanced role 0 d) (zones : ∀ k, zone (d.phase k) = zone (s.driver.phase k)) :
    Right argv1 (hist ++ [.inside i]) { s with driver := d } := by
  have last : lastText (hist ++ [.inside i]) = lastText hist := lastText_snoc _ nofun
  refine ⟨balanced, right.text.trans last.symm, right.flag, fun k => ?_⟩
  change Stands argv1 _ s.finished (zone (d.phase k)) (s.out k) k (s.place k)
  rw [zones k]
  exact stands_snoc (right.stands k) trivial fun _ => ⟨rfl, last⟩

theorem opened_right {report : Int64 → List UInt8} {flags : UInt32} {ret : Int64}
    {d : State I Phase} (right : Right argv1 hist s) (place : s.place i = .opening)
    (step : Waiting.Step s.driver (.opened i flags ret) d) :
    Right argv1 (hist ++ [.opened i ret])
      (System.goOn { s with driver := d } i (afterOpen report (argv1 i) ret)) := by
  have stands := right.stands i
  rw [place] at stands
  obtain ⟨_, silent, unopened⟩ := stands
  have moved : s.place (Event.opened i ret).process ≠ .about .read ∨ s.finished = 0 :=
    .inl (by rw [Event.process, place]; nofun)
  have balanced := step_balanced right.balanced step
  rcases opened_zone step with ⟨rfl, free, enters, others⟩ | ⟨failed, enters, others⟩
  · have fresh : s.finished = 0 := by
      rcases right.flag with fresh | ⟨j, reads⟩
      · exact fresh
      · have reader := right.stands j
        rw [reads] at reader
        exact absurd reader.1 (free_unopened right.balanced free j)
    refine right_calm right nofun balanced rfl rfl moved ?_ fun k other => ?_
    · have succeeded : ¬ (0 : Int64) < 0 := by decide
      have silent : Silent (hist ++ [.opened i 0]) i (s.out i) :=
        ⟨silent.1, (complaints_snoc hist (by simp)).trans silent.2⟩
      simp only [Event.process, System.goOn, update_self, afterOpen, if_neg succeeded]
      cases given : argv1 i with
      | some text =>
        simp only [List.append_nil]
        exact ⟨enters, silent, given, fresh, hist, List.prefix_rfl⟩
      | none =>
        simp only [List.append_nil]
        refine ⟨enters, .inl ⟨fresh, hist, List.prefix_rfl, silent.1.trans silent.2.symm, ?_⟩⟩
        rw [given]
        exact lastText_snoc _ nofun
    · exact ⟨update_of_ne other .., update_of_ne other .., congrArg zone (others k other)⟩
  · refine right_calm right nofun balanced rfl rfl moved ?_ fun k other => ?_
    · simp only [Event.process, System.goOn, update_self, afterOpen, if_pos failed]
      refine ⟨.inr enters, fun opened => ?_⟩
      rcases List.mem_append.mp opened with before | now
      · exact absurd before (unopened 0)
      · cases List.mem_singleton.mp now
        exact absurd failed (by decide)
    · exact ⟨update_of_ne other .., update_of_ne other .., congrArg zone (others k other)⟩

theorem argument_text (text : Argument) :
    text.userWrite.text = text.val.take (MESSAGE_LENGTH - 1) := by
  obtain ⟨text, nulFree, short⟩ := text
  have length : (UInt64.ofNat text.length).toNat = text.length := by
    exact UInt64.toNat_ofNat_of_lt' (short.trans (by decide))
  rw [UserWrite.text, Argument.userWrite, length, List.take_left]
  exact cString_of_nulFree fun member => nulFree (List.mem_of_mem_take member)

theorem writes_right {text : Argument} {m : Message} (ret : Int64) (right : Right argv1 hist s)
    (place : s.place i = .about (.write text))
    (written : input s.message.bytes text.userWrite.buf text.userWrite.length = .done m.bytes) :
    Right argv1 (hist ++ [.writes i text.userWrite ret])
      (System.goOn { s with message := m } i (afterWrite ret)) := by
  have stands := right.stands i
  rw [place] at stands
  obtain ⟨opened, silent, given, fresh, before, whole⟩ := stands
  obtain ⟨m', stored, shown⟩ := input_message s.message.length text.userWrite
  have same : m.bytes = m'.bytes := Outcome.done.inj (written.symm.trans stored)
  have last : lastText (hist ++ [.writes i text.userWrite ret]) = text.userWrite.text :=
    lastText_writes ..
  refine right_step right right.balanced ?_ (.inl fresh) ?_ (fun k other => ?_)
    fun k other there => ?_
  · change cString m.bytes = _
    rw [same, shown, last]
  · simp only [Event.process, System.goOn, update_self]
    refine ⟨opened, .inl ⟨fresh, before, whole.trans (List.prefix_append ..), ?_, ?_⟩⟩
    · rw [complaints_writes, silent.1, silent.2, afterWrite]
    · rw [last, given, argument_text]
      rfl
  · exact ⟨update_of_ne other .., update_of_ne other .., rfl⟩
  · exact absurd (opened_alone right.balanced there opened) other

omit [DecidableEq I] in
theorem first_read (shown : Nat → List LedWrite) (message : Message) :
    (output shown message 0 MAX_BYTES).1 = 1 ∧
      afterRead (output shown message 0 MAX_BYTES).2.ret (output shown message 0 MAX_BYTES).2.puts =
        (outputMsg message, .read) := by
  obtain ⟨some_text, short⟩ := length_outputMsg message
  have size : MESSAGE_LENGTH = 80 := rfl
  have room : MAX_BYTES.toNat = 4096 := rfl
  obtain ⟨set, puts, ret⟩ := output_fresh shown message MAX_BYTES
  rw [List.take_of_length_le (by omega)] at puts ret
  have value : (output shown message 0 MAX_BYTES).2.ret.toInt = (outputMsg message).length := by
    rw [ret, Int64.toInt_ofNat_of_lt (by omega)]
  have zero : (0 : Int64).toInt = 0 := rfl
  have positive : 0 < (output shown message 0 MAX_BYTES).2.ret := by
    rw [Int64.lt_iff_toInt_lt, value, zero]
    omega
  have succeeded : ¬ (output shown message 0 MAX_BYTES).2.ret < 0 := by
    rw [Int64.lt_iff_toInt_lt, value, zero]
    omega
  refine ⟨set, ?_⟩
  rw [afterRead, if_neg succeeded, if_pos positive, value, puts, Int.toNat_natCast,
    List.take_length]

theorem reads_right (shown : Nat → List LedWrite) (right : Right argv1 hist s)
    (place : s.place i = .about .read) :
    Right argv1 (hist ++ [.reads i (output shown s.message s.finished MAX_BYTES).2])
      (System.goOn { s with finished := (output shown s.message s.finished MAX_BYTES).1 } i
        (afterRead (output shown s.message s.finished MAX_BYTES).2.ret
          (output shown s.message s.finished MAX_BYTES).2.puts)) := by
  have stands := right.stands i
  rw [place] at stands
  obtain ⟨opened, now⟩ := stands
  have text : ∀ back, cString s.message.bytes = lastText (hist ++ [.reads i back]) := fun back =>
    right.text.trans (lastText_snoc (.reads i back) (by simp)).symm
  have alone : ∀ k ≠ i, zone (s.driver.phase k) ≠ .opened := fun k other there =>
    other (opened_alone right.balanced there opened)
  rcases now with ⟨fresh, before, whole, silent, last⟩ | ⟨set, shows⟩
  · obtain ⟨flag, after⟩ := first_read shown s.message
    rw [fresh, flag, after]
    refine right_step right right.balanced (text _)
      (.inr (.inl (goOn_self ..).1)) ?_ (fun k other => ?_) fun k other there => ?_
    · simp only [Event.process, goOn_self]
      refine ⟨opened, .inr ⟨rfl, before, whole.trans (List.prefix_append ..), ?_⟩⟩
      rw [complaints_snoc hist (by simp), silent, outputMsg, right.text, last]
    · exact ⟨(goOn_other _ other _).1, (goOn_other _ other _).2, rfl⟩
    · exact absurd there (alone k other)
  · have after := output_finished shown s.message (by rw [set]; decide : s.finished ≠ 0) MAX_BYTES
    rw [after]
    refine right_step right right.balanced (text _)
      (.inl rfl) ?_ (fun k other => ?_) fun k other there => ?_
    · have ends : afterRead 0 [] = ([], .exit) := rfl
      simp only [Event.process, goOn_self, ends, List.append_nil]
      exact ⟨.inl ⟨opened, rfl⟩, fun _ _ => shows_snoc shows trivial⟩
    · exact ⟨(goOn_other _ other _).1, (goOn_other _ other _).2, rfl⟩
    · exact absurd there (alone k other)

theorem exitCloses_right {d : State I Phase} (right : Right argv1 hist s)
    (place : s.place i = .about .exit) (step : Waiting.Step s.driver (.closes i) d) :
    Right argv1 (hist ++ [.exits i])
      { s with driver := d, place := update s.place i .closing } := by
  have stands := right.stands i
  rw [place] at stands
  obtain ⟨_, enters, others⟩ := closes_zone step
  refine right_calm right nofun (step_balanced right.balanced step) rfl rfl
    (.inl (by rw [Event.process, place]; nofun)) ?_ fun k other => ?_
  · simp only [Event.process, update_self]
    exact ⟨enters, done_snoc stands.2 trivial⟩
  · exact ⟨update_of_ne other .., rfl, congrArg zone (others k other)⟩

theorem exitClosed_right (right : Right argv1 hist s) (place : s.place i = .about .exit)
    (outside : s.driver.phase i = .outside) :
    Right argv1 (hist ++ [.exits i]) { s with place := update s.place i .gone } := by
  have stands := right.stands i
  rw [place] at stands
  refine right_calm right nofun right.balanced rfl rfl
    (.inl (by rw [Event.process, place]; nofun)) ?_ fun k other => ?_
  · simp only [Event.process, update_self]
    exact ⟨congrArg zone outside, done_snoc stands.2 trivial⟩
  · exact ⟨update_of_ne other .., rfl, rfl⟩

theorem closed_right {d : State I Phase} {ret : Int64} (right : Right argv1 hist s)
    (place : s.place i = .closing) (step : Waiting.Step s.driver (.closed i ret) d) :
    Right argv1 (hist ++ [.closed i]) { s with driver := d, place := update s.place i .gone } := by
  have stands := right.stands i
  rw [place] at stands
  obtain ⟨enters, others⟩ := closed_zone step
  refine right_calm right nofun (step_balanced right.balanced step) rfl rfl
    (.inl (by rw [Event.process, place]; nofun)) ?_ fun k other => ?_
  · simp only [Event.process, update_self]
    exact ⟨enters, done_snoc stands.2 trivial⟩
  · exact ⟨update_of_ne other .., rfl, congrArg zone (others k other)⟩

/-- A process that has the file and has not just read may end at any call. -/
theorem killed_right {call : Call} (right : Right argv1 hist s) (place : s.place i = .about call)
    (settled : call = .read → s.finished = 0) :
    Right argv1 (hist ++ [.killed i]) { s with place := update s.place i (.about .exit) } := by
  have stands := right.stands i
  rw [place] at stands
  refine right_calm right nofun right.balanced rfl rfl ?_ ?_ fun k other => ?_
  · by_cases reads : call = .read
    · exact .inr (settled reads)
    · refine .inl ?_
      rw [Event.process, place]
      exact fun same => reads (Place.about.inj same)
  · have noted : .killed i ∈ hist ++ [Event.killed i] :=
      List.mem_append_right _ (List.mem_singleton_self _)
    simp only [Event.process, update_self]
    refine ⟨?_, fun _ alive => absurd noted alive⟩
    cases call with
    | «open» => exact .inr stands.1
    | write text => exact .inl ⟨stands.1, stands.2.2.2.1⟩
    | read => exact .inl ⟨stands.1, settled rfl⟩
    | exit => exact stands.1
  · exact ⟨update_of_ne other .., rfl, rfl⟩

/-- Nobody is killed between the two reads of a session. -/
def Settled (s : System I) (e : Event I) : Prop :=
  ∀ i, e = .killed i → s.place i = .about .read → s.finished = 0

theorem step_right {shown : Nat → List LedWrite} {report : Int64 → List UInt8} {t : System I}
    (right : Right argv1 hist s)
    (step : Guarded (Step (output shown) report argv1) Settled s e t) :
    Right argv1 (hist ++ [e]) t := by
  obtain ⟨step, settled⟩ := step
  cases step with
  | opens place step => exact opens_right right place step
  | advances step =>
    exact inside_right right (step_balanced right.balanced step) (advances_zone step)
  | waits step => exact inside_right right (step_balanced right.balanced step) (waits_zone step)
  | opened place step => exact opened_right right place step
  | writes ret place written => exact writes_right ret right place written
  | reads place => exact reads_right shown right place
  | exitCloses place step => exact exitCloses_right right place step
  | exitClosed place outside => exact exitClosed_right right place outside
  | closed place step => exact closed_right right place step
  | killed place =>
    refine killed_right right place fun reads => settled _ rfl ?_
    rw [place, reads]

theorem run_right {shown : Nat → List LedWrite} {report : Int64 → List UInt8}
    (run : Run (Guarded (Step (output shown) report argv1) Settled) loaded hist s) :
    Right argv1 hist s := by
  refine run_history (Right argv1) ?_ (fun _ _ _ _ _ right step => step_right right step) run
  exact ⟨idle_balanced rfl, rfl, .inl rfl, fun i => ⟨rfl, ⟨rfl, rfl⟩, nofun⟩⟩

end Invariant

section Runs

variable [DecidableEq I]

structure Served (read : Message → Int32 → UInt64 → Int32 × Reply) (report : Int64 → List UInt8)
    (argv1 : I → Option Argument) (hist : List (Event I)) (s : System I) : Prop where
  shows : ∀ i, s.place i = .gone → .opened i 0 ∈ hist → .killed i ∉ hist →
    Shows (argv1 i) hist i (s.out i)
  goesOn : ∀ i, zone (s.driver.phase i) = .opened → ∃ e t, e.process = i ∧
    Guarded (Step read report argv1) Settled s e t

variable {shown : Nat → List LedWrite} {report : Int64 → List UInt8}
  {argv1 : I → Option Argument} {hist : List (Event I)} {s : System I}

theorem opened_phase {p : Phase} (opened : zone p = .opened) : p = .opened := by
  cases p <;> first | rfl | cases opened

theorem right_goesOn (right : Right argv1 hist s) {i : I}
    (opened : zone (s.driver.phase i) = .opened) :
    ∃ e t, Event.process e = i ∧ Guarded (Step (output shown) report argv1) Settled s e t := by
  have stands := right.stands i
  rw [opened] at stands
  cases place : s.place i with
  | opening | closing | gone =>
    rw [place] at stands
    cases stands.1
  | about call =>
    cases call with
    | «open» =>
      rw [place] at stands
      cases stands.1
    | write text =>
      obtain ⟨m, written, _⟩ := input_message s.message.length text.userWrite
      exact ⟨_, _, rfl, .writes 0 place written, nofun⟩
    | read => exact ⟨_, _, rfl, .reads place, nofun⟩
    | exit => exact ⟨_, _, rfl, .exitCloses place (.close (opened_phase opened)), nofun⟩

theorem run_served (run : Run (Guarded (Step (output shown) report argv1) Settled) loaded hist s) :
    Served (output shown) report argv1 hist s := by
  have right := run_right run
  refine ⟨fun i gone => ?_, fun i opened => right_goesOn right opened⟩
  have stands := right.stands i
  rw [gone] at stands
  exact stands.2

/-- Whoever gets the file prints what it was started with, whatever the others do, or what
was written last before it if it was started with nothing. -/
theorem apps_show (argv1 : I → Option Argument) (hist : List (Event I)) (s : System I) :
    (Run (Guarded (Step moduleOutput blockingReport argv1) Settled) loaded hist s →
      Served moduleOutput blockingReport argv1 hist s) ∧
    (Run (Guarded (Step intrptOutput intrptReport argv1) Settled) loaded hist s →
      Served intrptOutput intrptReport argv1 hist s) :=
  ⟨run_served, run_served⟩

end Runs

def argumentA : Argument := ⟨[0x41], by decide, by decide⟩

def arguments : Bool → Option Argument
  | false => some argumentA
  | true => none

theorem writer_comes : ∃ s : System Bool,
    Run (Guarded (Step moduleOutput blockingReport arguments) Settled) loaded
      [.opens false, .inside false, .inside false, .opened false 0,
        .writes false argumentA.userWrite (-1), .reads false ⟨13, outputMsg letter, []⟩,
        .reads false ⟨0, [], []⟩, .exits false, .inside false, .inside false, .closed false] s ∧
      s.driver.alreadyOpen = 0 ∧ s.driver.phase true = .outside ∧ s.message = letter ∧
      s.finished = 0 ∧ s.place true = .about .open ∧ s.place false = .gone := by
  refine ⟨_, .snoc (.snoc (.snoc (.snoc (.snoc (.snoc (.snoc (.snoc (.snoc (.snoc (.snoc .start
    ⟨.opens rfl (.call _ rfl), nofun⟩)
    ⟨.advances (.passes rfl (by decide)), nofun⟩)
    ⟨.advances (.tryModuleGet rfl), nofun⟩)
    ⟨.opened rfl (.takes rfl rfl), nofun⟩)
    ⟨.writes (m := letter) (-1) rfl rfl, nofun⟩)
    ⟨.reads rfl, nofun⟩)
    ⟨.reads rfl, nofun⟩)
    ⟨.exitCloses rfl (.close rfl), nofun⟩)
    ⟨.advances (.atomicSet rfl), nofun⟩)
    ⟨.advances (.wakeUp rfl), nofun⟩)
    ⟨.closed rfl (.modulePut rfl), nofun⟩, rfl, rfl, rfl, rfl, rfl, rfl⟩

theorem reader_follows : ∃ s : System Bool,
    Run (Guarded (Step moduleOutput blockingReport arguments) Settled) loaded
      [.opens false, .inside false, .inside false, .opened false 0,
        .writes false argumentA.userWrite (-1), .reads false ⟨13, outputMsg letter, []⟩,
        .reads false ⟨0, [], []⟩, .exits false, .inside false, .inside false, .closed false,
        .opens true, .inside true, .inside true, .opened true 0,
        .reads true ⟨13, outputMsg letter, []⟩, .reads true ⟨0, [], []⟩, .exits true,
        .inside true, .inside true, .closed true] s ∧ ∀ i, s.place i = .gone := by
  obtain ⟨⟨⟨taken, _, phase⟩, message, finished, place, _⟩, run, free, outside, stored, fresh,
    waits, gone⟩ := writer_comes
  dsimp only at free outside stored fresh waits gone
  subst free stored fresh
  exact ⟨_, .snoc (.snoc (.snoc (.snoc (.snoc (.snoc (.snoc (.snoc (.snoc (.snoc run
    ⟨.opens waits (.call _ outside), nofun⟩)
    ⟨.advances (.passes rfl fun busy => busy.2 rfl), nofun⟩)
    ⟨.advances (.tryModuleGet rfl), nofun⟩)
    ⟨.opened rfl (.takes rfl rfl), nofun⟩)
    ⟨.reads rfl, nofun⟩)
    ⟨.reads rfl, nofun⟩)
    ⟨.exitCloses rfl (.close rfl), nofun⟩)
    ⟨.advances (.atomicSet rfl), nofun⟩)
    ⟨.advances (.wakeUp rfl), nofun⟩)
    ⟨.closed rfl (.modulePut rfl), nofun⟩, Bool.forall_bool.mpr ⟨gone, rfl⟩⟩

/-- The first process is told that its write failed, the second reads what it wrote. -/
theorem apps_show_letter : ∃ (hist : List (Event Bool)) (s : System Bool),
    Run (Guarded (Step moduleOutput blockingReport arguments) Settled) loaded hist s ∧
      (∀ i, s.place i = .gone) ∧ complaints hist false = puts "write error" ∧
      complaints hist true = [] ∧ ∀ i, Shows (arguments i) hist i (s.out i) := by
  obtain ⟨s, run, gone⟩ := reader_follows
  have served := ((apps_show _ _ s).1 run).shows
  refine ⟨_, s, run, gone, by simp [complaints], by simp [complaints],
    Bool.forall_bool.mpr ⟨?_, ?_⟩⟩
  · exact served false (gone false) (by simp) (by simp)
  · exact served true (gone true) (by simp) (by simp)

end MadDriver.Exclusive.App

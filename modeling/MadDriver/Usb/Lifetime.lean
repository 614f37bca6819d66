import MadDriver.Usb.Life

/-! The references to the device and the URBs in flight across skel_disconnect. -/
namespace MadDriver.Skel
open Census Transition Lock Table Function

variable {I F : Type} {s m t : State I F} {i : I} {f : F} {e : Event I} {q : Phase F}

def HoldsRef : FileState I → Prop
  | .opened | .closing _ => True
  | _ => False

def Phase.onFile (i : I) : Phase F → Option (F × FileState I)
  | .outside => none
  | .opening f _ => some (f, .opening i)
  | .reading r _ => some (r.file, .opened)
  | .writing w _ => some (w.file, .opened)
  | .flushing f _ => some (f, .opened)
  | .closing f _ => some (f, .closing i)

/-- Behind the check of `disconnected`, at statements that may come to submit a URB. -/
def Phase.Passed : Phase F → Prop
  | .reading _ .mutexLock | .reading _ .disconnected | .reading _ (.unlock _) => False
  | .reading _ _ => True
  | .writing _ (.submit _) => True
  | _ => False

def Event.Submits : Event I → Prop
  | .startsRead | .startsWrite _ | .copies _ true => True
  | _ => False

/-- No URB is submitted after skel_disconnect has set `disconnected`. -/
def NoLateSubmission (hist : List (Event I)) : Prop :=
  hist.Pairwise fun before after => before = .disconnects → ¬ after.Submits

def Quiet (s : State I F) : Prop := s.readUrb = none ∧ ∀ b, s.transfer b = .idle

structure Files (s : State I F) : Prop where
  onFile : ∀ i f state, (s.thread i).onFile i = some (f, state) → s.file f = state
  opening : ∀ i f p, s.thread i = .opening f p → s.minor = true
  refs : ∃ n, Counts HoldsRef s.file n ∧ s.kref = s.core.refs + n
  deletes : s.deletes = if s.core.allocated = true ∧ s.kref = 0 then 1 else 0

structure Submissions (s : State I F) : Prop where
  passed : ∀ i, (s.thread i).Passed → s.disconnected = false
  killed : s.core.killed = true → s.readUrb = none
  drained : s.core.drained = true → ∀ b, s.transfer b = .idle

theorem onFile_uses {p : Phase F} (here : p.onFile i = some (f, .opened)) : p.uses = some f := by
  cases p <;> simp_all [Phase.onFile, Phase.uses]

theorem onFile_own {p : Phase F} {i j : I} (here : p.onFile j = some (f, .opening i) ∨
    p.onFile j = some (f, .closing i)) : j = i := by
  cases p <;> simp_all [Phase.onFile]

section Steps

variable [DecidableEq I] [DecidableEq F]

omit [DecidableEq F] in
theorem files_call (files : Files s)
    (others : ∀ j f state, j ≠ i → (s.thread j).onFile j = some (f, state) → m.file f = state)
    (mine : ∀ f state, q.onFile i = some (f, state) → m.file f = state)
    (opening : ∀ f p, q = .opening f p → s.minor = true) (minor : m.minor = s.minor)
    (refs : ∃ n, Counts HoldsRef m.file n ∧ m.kref = m.core.refs + n)
    (deletes : m.deletes = if m.core.allocated = true ∧ m.kref = 0 then 1 else 0) :
    Files { m with thread := update s.thread i q } := by
  refine ⟨?_, ?_, refs, deletes⟩
  · intro j f state there
    rcases eq_or_ne j i with rfl | away
    · simp only [update_self] at there
      exact mine f state there
    · simp only [update_of_ne away] at there
      exact others j f state away there
  · intro j f p there
    change m.minor = true
    rw [minor]
    rcases eq_or_ne j i with rfl | away
    · simp only [update_self] at there
      exact opening f p there
    · simp only [update_of_ne away] at there
      exact files.opening j f p there

omit [DecidableEq F] in
theorem files_stay (files : Files s)
    (mine : ∀ f state, q.onFile i = some (f, state) → s.file f = state)
    (opening : ∀ f p, q = .opening f p → s.minor = true)
    (same : m.file = s.file ∧ m.minor = s.minor ∧ m.kref = s.kref ∧ m.deletes = s.deletes ∧
      m.core = s.core) : Files { m with thread := update s.thread i q } := by
  obtain ⟨file, minor, kref, deletes, core⟩ := same
  refine files_call files ?_ ?_ opening minor ?_ ?_
  · intro j f state _ there
    rw [file]
    exact files.onFile j f state there
  · rwa [file]
  · rw [file, kref, core]
    exact files.refs
  · rw [deletes, kref, core]
    exact files.deletes

theorem files_change {n : Nat} {state : FileState I} (files : Files s)
    (alone : ∀ j state', j ≠ i → (s.thread j).onFile j ≠ some (f, state'))
    (mine : q.onFile i = none ∨ q.onFile i = some (f, state))
    (opening : ∀ f p, q = .opening f p → s.minor = true)
    (file : m.file = update s.file f state) (minor : m.minor = s.minor)
    (counts : Counts HoldsRef m.file n) (kref : m.kref = m.core.refs + n)
    (deletes : m.deletes = if m.core.allocated = true ∧ m.kref = 0 then 1 else 0) :
    Files { m with thread := update s.thread i q } := by
  refine files_call files ?_ ?_ opening minor ⟨n, counts, kref⟩ deletes
  · intro j f' state' away there
    rw [file, update_of_ne]
    · exact files.onFile j f' state' there
    · rintro rfl
      exact alone j state' away there
  · intro f' state' here
    rcases mine with none | some
    · cases none.symm.trans here
    · cases some.symm.trans here
      rw [file, update_self]

omit [DecidableEq I] [DecidableEq F] in
theorem alone_absent (files : Files s) (here : s.file f = .absent) (j : I)
    (state : FileState I) : (s.thread j).onFile j ≠ some (f, state) := by
  intro there
  have absent := (files.onFile j f state there).symm.trans here
  subst absent
  cases phase : s.thread j <;> simp [phase, Phase.onFile] at there

omit [DecidableEq I] [DecidableEq F] in
theorem alone_own (files : Files s)
    (here : s.file f = .opening i ∨ s.file f = .closing i) (j : I) (state : FileState I)
    (away : j ≠ i) : (s.thread j).onFile j ≠ some (f, state) := by
  intro there
  have same := files.onFile j f state there
  rcases here with opening | closing
  · cases same.symm.trans opening
    exact away (onFile_own (.inl there))
  · cases same.symm.trans closing
    exact away (onFile_own (.inr there))

omit [DecidableEq I] [DecidableEq F] in
theorem alone_unused (files : Files s) (here : s.file f = .opened)
    (unused : ∀ j, (s.thread j).uses ≠ some f) (j : I) (state : FileState I) :
    (s.thread j).onFile j ≠ some (f, state) := by
  intro there
  cases (files.onFile j f state there).symm.trans here
  exact unused j (onFile_uses there)

theorem enters_files (files : Files s) (step : Enters s i q m) :
    Files { m with thread := update s.thread i q } := by
  obtain ⟨n, counts, kref⟩ := files.refs
  cases step with
  | opens minor absent =>
    refine files_change files (fun j state _ => alone_absent files absent j state) (.inr rfl)
      (fun _ _ _ => minor) rfl rfl (counts_stay counts ?_) kref files.deletes
    simp [absent, HoldsRef]
  | reads opened | writes opened | flushes opened =>
    refine files_stay files ?_ nofun ⟨rfl, rfl, rfl, rfl, rfl⟩
    rintro _ _ ⟨⟩
    exact opened
  | closes opened unused =>
    refine files_change files (fun j state _ => alone_unused files opened unused j state)
      (.inr rfl) nofun rfl rfl (counts_stay counts ?_) kref files.deletes
    simp [opened, HoldsRef]

theorem open_files {p : OpenPhase} (flags : Flags s) (files : Files s)
    (here : s.thread i = .opening f p) (step : OpenStep s i f p e q m) :
    Files { m with thread := update s.thread i q } := by
  obtain ⟨n, counts, kref⟩ := files.refs
  have minor := files.opening i f p here
  have file : s.file f = .opening i := files.onFile i f _ (by rw [here]; rfl)
  have alone := alone_own files (.inl file)
  cases step with
  | found | device _ | autopmGet =>
    refine files_stay files ?_ (fun _ _ _ => minor) ⟨rfl, rfl, rfl, rfl, rfl⟩
    rintro _ _ ⟨⟩
    exact file
  | notFound | noDevice _ | autopmFails _ =>
    refine files_change files (fun j state => alone j state) (.inl rfl) nofun rfl rfl
      (counts_stay counts ?_) kref files.deletes
    simp [file, HoldsRef]
  | krefGet =>
    have registered := flags.minor.symm.trans minor
    refine files_change files (fun j state => alone j state) (.inl rfl) nofun rfl rfl
      (counts_enter counts ?_ ?_) ?_ ?_
    · simp [file, HoldsRef]
    · trivial
    · exact congrArg (· + 1) kref
    · have one : s.core.refs = 1 := by
        cases core : s.core <;> simp_all [Core.registered, Core.refs]
      change s.deletes = if s.core.allocated = true ∧ s.kref + 1 = 0 then 1 else 0
      rw [files.deletes, if_neg (by omega), if_neg (by omega)]

omit [DecidableEq I] [DecidableEq F] in
theorem krefPut_deletes (alive : 0 < s.kref)
    (deletes : s.deletes = if s.core.allocated = true ∧ s.kref = 0 then 1 else 0) :
    (krefPut s).deletes = if (krefPut s).kref = 0 then 1 else 0 := by
  rw [if_neg (by omega)] at deletes
  change (if s.kref = 1 then s.deletes + 1 else s.deletes) = if s.kref - 1 = 0 then 1 else 0
  rw [deletes]
  by_cases last : s.kref = 1
  · rw [if_pos last, if_pos (by omega)]
  · rw [if_neg last, if_neg (by omega)]

omit [DecidableEq I] [DecidableEq F] in
theorem allocated_of_file (young : Young s) (here : s.file f ≠ .absent) :
    s.core.allocated = true := by
  by_contra missing
  obtain ⟨size, buffer, intfdata, same⟩ := young (by
    cases core : s.core <;> simp_all [Core.allocated, Core.early])
  rw [same] at here
  exact here rfl

theorem close_files {p : ReleasePhase} (young : Young s) (files : Files s)
    (here : s.thread i = .closing f p) (step : ReleaseStep s i f p e q m) :
    Files { m with thread := update s.thread i q } := by
  obtain ⟨n, counts, kref⟩ := files.refs
  have file : s.file f = .closing i := files.onFile i f _ (by rw [here]; rfl)
  have alone := alone_own files (.inr file)
  cases step with
  | autopmPut =>
    refine files_stay files ?_ nofun ⟨rfl, rfl, rfl, rfl, rfl⟩
    rintro _ _ ⟨⟩
    exact file
  | krefPut =>
    have held : HoldsRef (s.file f) := by
      rw [file]
      trivial
    obtain ⟨k, rfl⟩ : ∃ k, n = k + 1 := ⟨n - 1, by have := counts_pos counts held; omega⟩
    have allocated := allocated_of_file young (f := f) (by simp [file])
    refine files_change files (fun j state => alone j state) (.inl rfl) nofun rfl rfl
      (counts_leave counts held id) ?_ ?_
    · change s.kref - 1 = s.core.refs + k
      omega
    · refine (krefPut_deletes (s := { s with file := update s.file f .absent })
        (by change 0 < s.kref; omega) files.deletes).trans ?_
      simp [krefPut, allocated]

omit [DecidableEq I] [DecidableEq F] in
theorem files_core {core : Core} (files : Files s) (here : s.core = core)
    (opening : ∀ i f p, s.thread i = .opening f p → t.minor = true)
    (refs : t.core.refs = core.refs) (allocated : t.core.allocated = core.allocated)
    (same : t.file = s.file ∧ t.thread = s.thread ∧ t.kref = s.kref ∧ t.deletes = s.deletes) :
    Files t := by
  subst here
  obtain ⟨file, thread, kref, deletes⟩ := same
  refine ⟨?_, ?_, ?_, ?_⟩
  · rw [file, thread]
    exact files.onFile
  · rwa [thread]
  · rw [file, kref, refs]
    exact files.refs
  · rw [deletes, kref, allocated]
    exact files.deletes

omit [DecidableEq I] [DecidableEq F] in
theorem files_put {core : Core} (files : Files s) (allocated : s.core.allocated = true)
    (one : s.core.refs = 1) (none : core.refs = 0 ∧ core.allocated = true) :
    Files (krefPut { s with core := core }) := by
  obtain ⟨n, counts, kref⟩ := files.refs
  refine ⟨files.onFile, files.opening, ⟨n, counts, ?_⟩, ?_⟩
  · change s.kref - 1 = core.refs + n
    omega
  · have deletes := files.deletes
    rw [allocated] at deletes
    have alive : 0 < s.kref := by omega
    refine (krefPut_deletes (s := { s with core := core }) alive ?_).trans ?_
    · change s.deletes = if core.allocated = true ∧ s.kref = 0 then 1 else 0
      rw [none.2, deletes]
    · simp [krefPut, none.2]

omit [DecidableEq I] [DecidableEq F] in
theorem core_files (young : Young s) (files : Files s) (step : CoreStep s e t) : Files t := by
  cases step with
  | kzalloc here =>
    obtain ⟨size, buffer, intfdata, same⟩ := young (by rw [here]; rfl)
    rw [same, here]
    refine ⟨nofun, nofun, ⟨0, counts_none fun _ => id, rfl⟩, rfl⟩
  | error here | krefPut here =>
    exact files_put files (by rw [here]; rfl) (by rw [here]; rfl) ⟨rfl, rfl⟩
  | registerDev here =>
    exact files_core files here (fun _ _ _ _ => rfl) rfl rfl ⟨rfl, rfl, rfl, rfl⟩
  | deregisterDev here none =>
    exact files_core files here (fun i f p opening => absurd opening (none i f p)) rfl rfl
      ⟨rfl, rfl, rfl, rfl⟩
  | noMemory here | noEndpoints here | endpoints _ here | noBuffer here | buffer here _
  | noUrb here | urb here | setIntfdata here | registerFails here | clearIntfdata here
  | disconnect here | mutexLock here _ | setDisconnected here | mutexUnlock here
  | killUrb here _ | killAnchored here _ =>
    exact files_core files here files.opening rfl rfl ⟨rfl, rfl, rfl, rfl⟩

omit [DecidableEq F] in
theorem files_uses {p : Phase F} (files : Files s) (here : s.thread i = p)
    (uses : p.uses = some f) (after : q = .outside ∨ q.uses = some f)
    (same : m.file = s.file ∧ m.minor = s.minor ∧ m.kref = s.kref ∧ m.deletes = s.deletes ∧
      m.core = s.core) : Files { m with thread := update s.thread i q } := by
  have opened : s.file f = .opened := by
    refine files.onFile i f _ ?_
    rw [here]
    cases p <;> simp_all [Phase.uses, Phase.onFile]
  refine files_stay files ?_ ?_ same
  · intro f' state there
    rcases after with rfl | uses'
    · cases there
    · cases q <;> simp_all [Phase.uses, Phase.onFile]
  · rintro f' p' rfl
    simp [Phase.uses] at after

theorem step_files (young : Young s) (flags : Flags s) (files : Files s) (step : Step s e t) :
    Files t := by
  cases step with
  | enters _ step => exact enters_files files step
  | empty _ _ => exact files
  | opening here step => exact open_files flags files here step
  | closing here step => exact close_files young files here step
  | reading here step =>
    obtain ⟨frame, after⟩ := read_frame step
    refine files_uses files here rfl ?_ (by rw [frame]; exact ⟨rfl, rfl, rfl, rfl, rfl⟩)
    exact after.imp_right fun ⟨_, same⟩ => by rw [same]; rfl
  | writing here step =>
    obtain ⟨frame, after⟩ := write_frame step
    refine files_uses files here rfl ?_ (by rw [frame]; exact ⟨rfl, rfl, rfl, rfl, rfl⟩)
    exact after.imp_right fun ⟨_, same⟩ => by rw [same]; rfl
  | flushing here step =>
    obtain ⟨frame, after⟩ := flush_frame step
    refine files_uses files here rfl ?_ (by rw [frame]; exact ⟨rfl, rfl, rfl, rfl, rfl⟩)
    exact after.imp_right fun ⟨_, same⟩ => by rw [same]; rfl
  | device step =>
    rw [device_frame step]
    exact ⟨files.onFile, files.opening, files.refs, files.deletes⟩
  | core step => exact core_files young files step

omit [DecidableEq I] [DecidableEq F] in
theorem passed_locked {p : Phase F} (passed : p.Passed) : p.Locked := by
  cases p with
  | reading r p => cases p <;> trivial
  | writing w p => cases p <;> trivial
  | outside | opening _ _ | flushing _ _ | closing _ _ => exact passed.elim

omit [DecidableEq I] [DecidableEq F] in
theorem plain_submits (plain : e.Plain) : ¬ e.Submits := by
  cases e with
  | internal | returns _ _ => exact id
  | _ => cases plain

omit [DecidableEq I] [DecidableEq F] in
theorem read_passed {r : ReadCall F} {p : ReadPhase} (step : ReadStep s i r p e q m)
    (passed : q.Passed) : (Phase.reading r p).Passed ∨ s.disconnected = false := by
  cases step with
  | present here => exact .inr here
  | interrupted | locks _ | gone _ | again _ _ _ | signalled | clears | ioFails _ _ _
  | copies _ _ _ _ | unlocks => exact passed.elim
  | _ => exact .inl trivial

omit [DecidableEq I] [DecidableEq F] in
theorem write_passed {w : WriteCall F} {p : WritePhase} (step : WriteStep s i w p e q m)
    (passed : q.Passed) : s.disconnected = false := by
  cases step with
  | present here => exact here
  | _ => exact passed.elim

/-- Only a call that has seen the device connected submits a URB. -/
theorem step_quiet (move : Step s e t) : (∃ i, (s.thread i).Passed) ∨
    ¬ e.Submits ∧ (s.readUrb = none → t.readUrb = none) ∧
      ∀ b, s.transfer b = .idle → t.transfer b = .idle := by
  cases step_kind move with
  | empty => exact .inr ⟨id, id, fun _ => id⟩
  | aside step =>
    have silent := plain_submits step.event
    rw [step.frame]
    exact .inr ⟨silent, id, fun _ => id⟩
  | flushing _ step =>
    rw [(flush_frame step).1]
    exact .inr ⟨by cases step <;> exact id, id, fun _ => id⟩
  | core step =>
    rw [core_frame step]
    exact .inr ⟨by cases step <;> exact id, id, fun _ => id⟩
  | @reading i r _ _ _ _ here step =>
    cases step with
    | startsIo _ _ _ | ioFails _ _ _ | copies _ _ _ _ =>
      exact .inl ⟨i, by rw [here]; trivial⟩
    | _ => exact .inr ⟨id, id, fun _ => id⟩
  | @writing i w _ _ _ _ here step =>
    cases step with
    | submits | submitFails _ => exact .inl ⟨i, by rw [here]; trivial⟩
    | _ => exact .inr ⟨id, id, fun _ => id⟩
  | device step =>
    cases step with
    | readCompletes _ _ _ | readFails _ _ _ _ => exact .inr ⟨id, fun _ => rfl, fun _ => id⟩
    | writeCompletes flying | writeFails _ flying _ | frees flying | up flying =>
      refine .inr ⟨id, id, fun b idle => ?_⟩
      refine (update_of_ne ?_ _ _).trans idle
      rintro rfl
      cases idle.symm.trans flying

omit [DecidableEq F] in
theorem passed_update (submissions : Submissions s)
    (mine : q.Passed → (s.thread i).Passed ∨ s.disconnected = false) (j : I)
    (passed : (update s.thread i q j).Passed) : s.disconnected = false := by
  rcases eq_or_ne j i with rfl | away
  · rw [update_self] at passed
    exact (mine passed).elim (submissions.passed j) id
  · rw [update_of_ne away] at passed
    exact submissions.passed j passed

theorem step_passed (locks : Locks s) (submissions : Submissions s) (move : Step s e t) :
    ∀ i, (t.thread i).Passed → t.disconnected = false := by
  cases step_kind move with
  | empty => exact submissions.passed
  | aside step =>
    have away := mt passed_locked (apart_locks step.after).1
    rw [step.frame]
    exact passed_update submissions fun passed => absurd passed away
  | flushing _ step =>
    obtain ⟨frame, after⟩ := flush_frame step
    rw [frame]
    refine passed_update submissions fun passed => ?_
    rcases after with rfl | ⟨_, rfl⟩ <;> exact passed.elim
  | reading here step =>
    rw [(read_frame step).1]
    refine passed_update submissions fun passed => ?_
    rw [here]
    exact read_passed step passed
  | writing _ step =>
    rw [(write_frame step).1]
    exact passed_update submissions fun passed => .inr (write_passed step passed)
  | device step =>
    rw [device_frame step]
    exact submissions.passed
  | core step =>
    cases step with
    | setDisconnected here =>
      intro j passed
      have mine : s.ioMutex = some .core := locks.core.mp (.inl here)
      have theirs := (locks.calls j).mp (passed_locked passed)
      cases mine.symm.trans theirs
    | _ => exact submissions.passed

omit [DecidableEq I] [DecidableEq F] in
theorem core_killed (step : CoreStep s e t) (killed : t.core.killed = true) :
    t.readUrb = s.readUrb ∧ (s.core.killed = true ∨ s.readUrb = none) := by
  cases step with
  | killUrb _ none => exact ⟨rfl, .inr none⟩
  | killAnchored here _ | krefPut here => exact ⟨rfl, .inl (by rw [here]; rfl)⟩
  | _ => cases killed

omit [DecidableEq I] [DecidableEq F] in
theorem core_drained (step : CoreStep s e t) (drained : t.core.drained = true) :
    t.transfer = s.transfer ∧ (s.core.drained = true ∨ ∀ b, s.transfer b = .idle) := by
  cases step with
  | killAnchored _ idle => exact ⟨rfl, .inr idle⟩
  | krefPut here => exact ⟨rfl, .inl (by rw [here]; rfl)⟩
  | _ => cases drained

theorem step_submissions (flags : Flags s) (locks : Locks s) (submissions : Submissions s)
    (step : Step s e t) : Submissions t := by
  have passed := step_passed locks submissions step
  rcases step_core step with core | ⟨core, _, _⟩
  · refine ⟨passed, ?_, ?_⟩
    · intro killed
      obtain ⟨same, before | none⟩ := core_killed core killed
      · exact same.trans (submissions.killed before)
      · exact same.trans none
    · intro drained
      obtain ⟨same, before | idle⟩ := core_drained core drained
      · rw [same]
        exact submissions.drained before
      · rwa [same]
  · have connected (i : I) (flying : (s.thread i).Passed) : s.core.cut = false := by
      rw [← flags.disconnected]
      exact submissions.passed i flying
    rcases step_quiet step with ⟨i, flying⟩ | ⟨_, urb, transfers⟩
    · have uncut := connected i flying
      refine ⟨passed, ?_, ?_⟩
      · rw [core]
        intro killed
        cases here : s.core <;> simp_all [Core.cut, Core.killed]
      · rw [core]
        intro drained
        cases here : s.core <;> simp_all [Core.cut, Core.drained]
    · refine ⟨passed, ?_, ?_⟩
      · rw [core]
        exact fun killed => urb (submissions.killed killed)
      · rw [core]
        exact fun drained b => transfers b (submissions.drained drained b)

structure Alive (s : State I F) : Prop where
  young : Young s
  flags : Flags s
  locks : Locks s
  files : Files s
  submissions : Submissions s

omit [DecidableEq I] [DecidableEq F] in
theorem plugged_alive : Alive (plugged : State I F) where
  young _ := ⟨0, [], false, rfl⟩
  flags := plugged_flags
  locks := plugged_locks
  files := ⟨nofun, nofun, ⟨0, counts_none fun _ => id, rfl⟩, rfl⟩
  submissions := ⟨nofun, nofun, nofun⟩

theorem step_alive (alive : Alive s) (step : Step s e t) : Alive t where
  young := step_young alive.young step
  flags := step_flags alive.flags step
  locks := step_locks alive.locks step
  files := step_files alive.young alive.flags alive.files step
  submissions := step_submissions alive.flags alive.locks alive.submissions step

theorem run_alive {hist : List (Event I)} (run : Run Step plugged hist s) : Alive s :=
  run_invariant Alive plugged_alive (fun _ _ _ => step_alive) run

theorem disconnected_stays (step : Step s e t) (set : s.disconnected = true) :
    t.disconnected = true := by
  rcases step_core step with core | ⟨_, _, same⟩
  · cases core with
    | setDisconnected _ => rfl
    | _ => exact set
  · exact same.trans set

theorem disconnects_sets (step : Step s .disconnects t) : t.disconnected = true := by
  cases step with
  | core step =>
    cases step
    rfl
  | opening _ step | closing _ step | reading _ step | writing _ step | flushing _ step
  | device step => cases step

theorem submits_connected (alive : Alive s) (step : Step s e t) (submits : e.Submits) :
    s.disconnected = false := by
  rcases step_quiet step with ⟨i, flying⟩ | ⟨none, _, _⟩
  · exact alive.submissions.passed i flying
  · exact absurd submits none

theorem run_submissions {hist : List (Event I)} (run : Run Step plugged hist s) :
    (.disconnects ∈ hist → s.disconnected = true) ∧ NoLateSubmission hist := by
  refine run_history (fun hist s => (.disconnects ∈ hist → s.disconnected = true) ∧
    NoLateSubmission hist) ⟨nofun, .nil⟩ ?_ run
  rintro hist s e t run ⟨set, none⟩ step
  refine ⟨?_, ?_⟩
  · intro member
    rcases List.mem_append.mp member with before | now
    · exact disconnected_stays step (set before)
    · cases List.mem_singleton.mp now
      exact disconnects_sets step
  · refine List.pairwise_append.mpr ⟨none, List.pairwise_singleton _ _, ?_⟩
    rintro before member after now rfl submits
    cases List.mem_singleton.mp now
    cases (set member).symm.trans (submits_connected (run_alive run) step submits)

omit [DecidableEq I] [DecidableEq F] in
theorem quiet_of_deletes (alive : Alive s) (deleted : 0 < s.deletes) : Quiet s := by
  have ran : s.core.allocated = true ∧ s.kref = 0 := by
    by_contra none
    rw [alive.files.deletes, if_neg none] at deleted
    cases deleted
  obtain ⟨n, _, kref⟩ := alive.files.refs
  have none : s.core.refs = 0 := by omega
  cases core : s.core with
  | failed =>
    obtain ⟨size, buffer, intfdata, same⟩ := alive.young (by rw [core]; rfl)
    rw [same]
    exact ⟨rfl, fun _ => rfl⟩
  | gone =>
    exact ⟨alive.submissions.killed (by rw [core]; rfl),
      alive.submissions.drained (by rw [core]; rfl)⟩
  | _ => simp [core, Core.allocated, Core.refs] at ran none

/-- In every run: the references are that of the interface and one for each open file,
skel_delete runs once when none remain and not before, no URB is submitted after
`disconnected` is set, and none is in flight from skel_delete on. -/
theorem lifetime {hist : List (Event I)} (run : Run Step plugged hist s) :
    (∃ n, Counts HoldsRef s.file n ∧ s.kref = s.core.refs + n ∧
      s.deletes = if s.core.allocated = true ∧ s.core.refs = 0 ∧ n = 0 then 1 else 0) ∧
    NoLateSubmission hist ∧ (0 < s.deletes → Quiet s) := by
  have alive := run_alive run
  obtain ⟨n, counts, kref⟩ := alive.files.refs
  refine ⟨⟨n, counts, kref, ?_⟩, (run_submissions run).2, quiet_of_deletes alive⟩
  simp only [alive.files.deletes, kref, Nat.add_eq_zero_iff]

end Steps

def cutOff (s : State Unit Unit) : State Unit Unit :=
  { s with
    core := .killUrb
    ioMutex := none
    intfdata := false
    minor := false
    disconnected := true }

theorem cutOff_run {hist : List (Event Unit)} {s : State Unit Unit} (run : Run Step plugged hist s)
    (bound : s.core = .bound) (free : s.ioMutex = none)
    (no_open : ∀ i f p, s.thread i ≠ .opening f p) :
    Run Step plugged (hist ++ [.internal, .internal, .internal, .disconnects, .internal])
      (cutOff s) := by
  have deregistered := Run.snoc (.snoc run (.core (.disconnect bound)))
    (.core (.deregisterDev rfl no_open))
  have disconnected := Run.snoc (.snoc (.snoc deregistered (.core (.mutexLock rfl free)))
    (.core (.setDisconnected rfl))) (.core (.mutexUnlock rfl))
  simpa only [cutOff, List.append_assoc, List.cons_append, List.nil_append] using disconnected

def noDevice : Errno := ⟨- Kernel.ENODEV, by decide⟩

def turnedAway (b : Nat) (s : State Unit Unit) : State Unit Unit :=
  { s with
    limitSem := s.limitSem + 1
    frees := update s.frees b (s.frees b + 1)
    thread := fun _ => .outside }

theorem turnedAway_run {hist : List (Event Unit)} {s : State Unit Unit} {b : Nat}
    (run : Run Step plugged hist (inWrite (.mutexLock b) s)) (free : s.ioMutex = none)
    (gone : s.disconnected = true) :
    Run Step plugged (hist ++ [.internal, .internal, .internal, .internal,
      .returns () (.failed (.code noDevice))]) (turnedAway b s) := by
  have locks : Step (inWrite (.mutexLock b) s) .internal
      (inWrite (.disconnected b) { s with ioMutex := some (.call ()) }) :=
    inWrite_step (.locks free)
  have late : Step (inWrite (.disconnected b) { s with ioMutex := some (.call ()) }) .internal
      (inWrite (.unlockError b noDevice) { s with ioMutex := some (.call ()) }) :=
    inWrite_step (.gone gone)
  have unlocks : Step (inWrite (.unlockError b noDevice) { s with ioMutex := some (.call ()) })
      .internal (inWrite (.freeCoherent (some b) (.code noDevice)) { s with ioMutex := none }) :=
    inWrite_step .unlocksError
  have frees : Step (inWrite (.freeCoherent (some b) (.code noDevice)) { s with ioMutex := none })
      .internal (inWrite (.up (.code noDevice))
        { s with ioMutex := none, frees := update s.frees b (s.frees b + 1) }) :=
    inWrite_step .frees
  have up : Step (inWrite (.up (.code noDevice))
        { s with ioMutex := none, frees := update s.frees b (s.frees b + 1) })
      (.returns () (.failed (.code noDevice))) { turnedAway b s with ioMutex := none } :=
    Step.writing (s := inWrite (.up (.code noDevice))
        { s with ioMutex := none, frees := update s.frees b (s.frees b + 1) }) rfl .up
  have unlocked : { turnedAway b s with ioMutex := none } = turnedAway b s := by
    rw [turnedAway, free]
  rw [unlocked] at up
  have done := Run.snoc (.snoc (.snoc (.snoc (.snoc run locks) late) unlocks) frees) up
  simpa only [List.append_assoc, List.cons_append, List.nil_append] using done

def detached (b : Nat) (s : State Unit Unit) : State Unit Unit :=
  krefPut { answered b s with core := .gone }

theorem detached_run {hist : List (Event Unit)} {s : State Unit Unit} {b : Nat} {data : List UInt8}
    (run : Run Step plugged hist s) (core : s.core = .killUrb) (unread : s.readUrb = none)
    (flying : s.transfer b = .inFlight data) (rest : ∀ c, update s.transfer b .idle c = .idle) :
    Run Step plugged (hist ++ [.internal, .internal, .internal, .internal, .internal, .internal])
      (detached b s) := by
  have killed := Run.snoc run (.core (.killUrb core unread))
  have back := answered_run killed flying
  have done := Run.snoc (.snoc back (.core (.killAnchored rfl rest))) (.core (.krefPut rfl))
  simpa only [detached, answered, List.append_assoc, List.cons_append, List.nil_append] using done

def inClose (p : ReleasePhase) (s : State Unit Unit) : State Unit Unit :=
  { s with file := fun _ => .closing (), thread := fun _ => .closing () p }

def closed (s : State Unit Unit) : State Unit Unit :=
  krefPut { s with file := fun _ => .absent, thread := fun _ => .outside }

theorem closed_run {hist : List (Event Unit)} {s : State Unit Unit} (run : Run Step plugged hist s)
    (outside : s.thread = fun _ => .outside) (opened : s.file () = .opened) :
    Run Step plugged (hist ++ [.internal, .internal, .returns () (.done 0)]) (closed s) := by
  have unused : ∀ j, (s.thread j).uses ≠ some () := by
    rw [outside]
    exact fun _ => Option.some_ne_none _ |>.symm
  have enters := Enters.closes (s := s) (i := ()) opened unused
  have entered : Step s .internal (inClose .autopmPut s) :=
    .enters (congrFun outside ()) enters
  have put : Step (inClose .autopmPut s) .internal (inClose .krefPut s) :=
    Step.closing (s := inClose .autopmPut s) (i := ()) rfl .autopmPut
  have last : Step (inClose .krefPut s) (.returns () (.done 0)) (closed s) :=
    Step.closing (s := inClose .krefPut s) rfl .krefPut
  have done := Run.snoc (.snoc (.snoc run entered) put) last
  simpa only [List.append_assoc, List.cons_append, List.nil_append] using done

/-- A device pulled out while a write is with it, another one waits for io_mutex, and the
file is open; then the file is closed. -/
theorem lifetime_pulled :
    (∃ (hist : List (Event Unit)) (s : State Unit Unit), Run Step plugged hist s ∧
      s.core = .gone ∧ s.file () = .opened ∧ s.kref = 1 ∧ s.deletes = 0 ∧
      ∃ n, Counts HoldsRef s.file n ∧ s.kref = s.core.refs + n ∧
        s.deletes = if s.core.allocated = true ∧ s.core.refs = 0 ∧ n = 0 then 1 else 0) ∧
    ∃ (hist : List (Event Unit)) (s : State Unit Unit), Run Step plugged hist s ∧
      .startsWrite 0 ∈ hist ∧ .disconnects ∈ hist ∧
      .returns () (.failed (.code noDevice)) ∈ hist ∧ s.kref = 0 ∧ s.deletes = 1 ∧
      NoLateSubmission hist ∧ Quiet s := by
  have flying := sent_run (inUse_run () [0]) ⟨rfl, rfl, by decide, rfl, rfl, rfl, rfl⟩
  have waits := inWrite_run flying ⟨rfl, rfl, by decide, rfl, rfl, rfl, rfl⟩
  have cut := cutOff_run waits rfl rfl nofun
  have away := turnedAway_run (s := cutOff (withBuffer (sent (inUse [0])))) cut rfl rfl
  have gone := detached_run (b := 0) away rfl rfl (rfl : _ = Transfer.inFlight [1])
    (answered_sent (s := inUse [0]) fun _ => rfl)
  have closed := closed_run gone rfl rfl
  obtain ⟨counts, _, _⟩ := lifetime gone
  obtain ⟨_, none_late, quiet⟩ := lifetime closed
  refine ⟨⟨_, _, gone, rfl, rfl, rfl, rfl, counts⟩, _, _, closed, ?_, by simp, by simp, rfl, rfl,
    none_late, quiet (by decide)⟩
  change Event.startsWrite (inUse [0] : State Unit Unit).nextBuf ∈ _
  simp

end MadDriver.Skel

import MadDriver.Pcd.Twin

/-! Two runs of driver 006 with the same calls over heaps with other contents: what
they return is the same exactly as long as no read reaches grown memory. -/
namespace MadDriver.Pcd.Sysfs
open Kernel Transition Function Bytes Table

variable {D F : Type} [DecidableEq D] [DecidableEq F]

structure Matches (apart : Bool) (s : Shadow D) (e e' : SysfsEvent D F) : Prop where
  known : e.Known s → e'.reply = e.reply
  apart : apart = true → e'.reply = e.reply → e.Known s

omit [DecidableEq D] [DecidableEq F] in
theorem matches_of_eq {apart : Bool} {s : Shadow D} {e e' : SysfsEvent D F}
    (quiet : e.Known s) (same : e'.reply = e.reply) : Matches apart s e e' :=
  ⟨fun _ => same, fun _ _ => quiet⟩

theorem file_twin {apart : Bool} {s : Shadow D} {σ τ σ' : System PcdevPrivateData D F}
    {op : Op D F} {reply : Reply} (twin : Twin apart s σ τ)
    (done : vfsStep pcdFops σ op = .done (σ', reply)) :
    ∃ τ' reply', vfsStep pcdFops τ op = .done (τ', reply') ∧
      Twin apart (shadowStep s ⟨.file op, σ.files op.handle, reply⟩) σ' τ' ∧
      Matches apart s (⟨.file op, σ.files op.handle, reply⟩ : SysfsEvent D F)
        ⟨.file op, τ.files op.handle, reply'⟩ := by
  cases op with
  | openFile f d fMode =>
    obtain ⟨after, answer⟩ := open_twin twin f d fMode
    have result : vfsOpen pcdFops σ f d fMode = (σ', reply) := Outcome.done.inj done
    rw [result] at after answer
    exact ⟨_, _, rfl, after, matches_of_eq trivial answer⟩
  | release f =>
    cases Outcome.done.inj done
    refine ⟨_, _, rfl, ⟨twin.devices, by rw [twin.files], ?_⟩, matches_of_eq trivial rfl⟩
    exact update_forall twin.positions nofun
  | lseek f offset whence =>
    simp only [vfsStep] at done
    obtain ⟨τ', out, done', after⟩ := call_twin twin (fun _ marks => marks)
      (fun _ _ o o' => o' = o) (by
        intro file marks dev b r _ size agree nonneg result
        cases Outcome.done.inj result
        exact ⟨_, rfl, lseek_twin size agree nonneg offset whence, rfl⟩) done
    refine ⟨τ', _, done', ?_⟩
    rcases after with ⟨after, same, _⟩ | ⟨file, marks, _, _, marked, same, after⟩
    · exact ⟨after, matches_of_eq trivial (by rw [same])⟩
    · rw [← marked, update_eq_self] at after
      exact ⟨after, matches_of_eq trivial (by rw [same])⟩
  | read f user count =>
    simp only [vfsStep] at done
    obtain ⟨τ', out, done', after⟩ := call_twin twin (fun _ marks => marks)
      (fun file marks o o' => (KnownRead user count file.fPos marks → o' = o) ∧
        (apart = true → o' = o → KnownRead user count file.fPos marks)) (by
        intro file marks dev b r _ size agree nonneg result
        exact read_twin size agree nonneg result) done
    refine ⟨τ', _, done', ?_⟩
    rcases after with ⟨after, same, unread⟩ | ⟨file, marks, opened, mode, marked, outs, after⟩
    · refine ⟨after, matches_of_eq ?_ (by rw [same])⟩
      unfold SysfsEvent.Known
      split
      · rename_i call opened
        cases call
        intro mode marks marked
        cases marked.symm.trans (unread _ opened mode)
      · trivial
    · rw [← marked, update_eq_self] at after
      have known : SysfsEvent.Known s (⟨.file (.read f user count), σ.files f, reply⟩ :
          SysfsEvent D F) ↔ KnownRead user count file.fPos marks := by
        simp [SysfsEvent.Known, opened, mode, marked]
      refine ⟨after, ⟨fun quiet => ?_, fun asked same => ?_⟩⟩
      · rw [outs.1 (known.mp quiet)]
      · exact known.mpr (outs.2 asked (congrArg Reply.out same))
  | write f user buff =>
    simp only [vfsStep] at done
    obtain ⟨τ', out, done', after⟩ := call_twin twin
      (fun file marks => markWrite file.fPos user buff marks) (fun _ _ o o' => o' = o) (by
        intro file marks dev b r _ size agree nonneg result
        exact write_twin size agree nonneg result) done
    refine ⟨τ', _, done', ?_⟩
    rcases after with ⟨after, same, unmarked⟩ | ⟨file, marks, opened, mode, marked, same, after⟩
    · refine ⟨?_, matches_of_eq trivial (by rw [same])⟩
      cases opened : σ.files f with
      | none => simpa [shadowStep, Op.handle, opened] using after
      | some file =>
        by_cases mode : file.fMode &&& FMODE_WRITE = FMODE_WRITE
        · have absent := unmarked file opened mode
          have still : update s file.dev none = s := by rw [← absent, update_eq_self]
          simpa [shadowStep, Op.handle, opened, mode, absent, still] using after
        · simpa [shadowStep, Op.handle, opened, mode] using after
    · refine ⟨?_, matches_of_eq trivial (by rw [same])⟩
      simpa [shadowStep, Op.handle, opened, mode, marked] using after

omit [DecidableEq F] in
theorem probe_twin {apart : Bool} {s : Shadow D} {σ τ : System PcdevPrivateData D F}
    (twin : Twin apart s σ τ) (d : D) {pdata : PcdevPlatformData}
    (positive : 0 < pdata.size.toInt) (devNum : Int) :
    Twin apart (update s d (some ((s d).getD (List.replicate pdata.size.toInt.toNat true))))
        (probeDevice σ d true pdata devNum).1 (probeDevice τ d true pdata devNum).1 ∧
      (probeDevice τ d true pdata devNum).2 = (probeDevice σ d true pdata devNum).2 := by
  have made := newPrivateData_granted (Int.le_of_lt positive) devNum
  unfold probeDevice
  rw [made]
  have device := twin.devices d
  generalize markEq : s d = marks at device
  generalize devEq : σ.devs d = dev at device
  generalize devEq' : τ.devs d = dev' at device
  cases device with
  | unbound =>
    refine ⟨twin_device twin ?_, rfl⟩
    have zeroed := agree_self apart (List.replicate pdata.size.toInt.toNat (0 : UInt8))
    rw [List.length_replicate] at zeroed
    refine .bound ?_ zeroed
    simp only [Option.getD_none, List.length_replicate]
    omega
  | bound size agree =>
    rw [Option.getD_some, ← markEq, update_eq_self]
    exact ⟨twin, rfl⟩

theorem twin_step {apart : Bool} {s : Shadow D} {σ τ σ' : System PcdevPrivateData D F}
    {e : SysfsEvent D F} {op' : SysfsOp D F} (twin : Twin apart s σ τ)
    (regular : e.op.Regular) (step : SysfsStep σ e σ')
    (same : SameCall (fun heap heap' => apart = true → ∀ i, heap i ≠ heap' i) e.op op') :
    ∃ e' τ', SysfsStep τ e' τ' ∧ e'.op = op' ∧ Twin apart (shadowStep s e) σ' τ' ∧
      Matches apart s e e' := by
  obtain ⟨op, seen, reply⟩ := e
  obtain ⟨done, seenEq⟩ := step
  change seen = op.file? σ at seenEq
  subst seenEq
  cases same with
  | file op =>
    obtain ⟨τ', reply', done', after, answer⟩ := file_twin twin done
    exact ⟨⟨.file op, τ.files op.handle, reply'⟩, τ', ⟨done', rfl⟩, rfl, after, answer⟩
  | probe d granted pdata devNum =>
    obtain ⟨rfl, positive⟩ := regular
    obtain ⟨after, answer⟩ := probe_twin twin d positive devNum
    have result : probeDevice σ d true pdata devNum = (σ', reply) := Outcome.done.inj done
    rw [result] at after answer
    exact ⟨⟨.probe d true pdata devNum, none, _⟩, _, ⟨rfl, rfl⟩, rfl, after,
      matches_of_eq trivial answer⟩
  | storeMaxSize d heap heap' buf different =>
    have result : storeAttribute σ d (some heap) buf = (σ', reply) := Outcome.done.inj done
    refine ⟨⟨.storeMaxSize d (some heap') buf, none, (storeAttribute τ d (some heap') buf).2⟩,
      (storeAttribute τ d (some heap') buf).1, ⟨rfl, rfl⟩, rfl, ?_⟩
    have device := twin.devices d
    unfold storeAttribute at result ⊢
    generalize markEq : s d = marks at device
    generalize devEq : σ.devs d = dev at device result
    generalize devEq' : τ.devs d = dev' at device
    cases device with
    | unbound =>
      cases result
      have still : update s d (Option.map (markStore buf) (s d)) = s := by
        rw [markEq, Option.map_none, ← markEq, update_eq_self]
      exact ⟨by simpa only [shadowStep, still] using twin, matches_of_eq trivial rfl⟩
    | bound size agree =>
      cases result
      obtain ⟨alike, answer⟩ := store_twin size agree regular.2 different
      refine ⟨?_, matches_of_eq trivial (congrArg (fun ret => (⟨ret, []⟩ : Reply)) answer)⟩
      simpa only [shadowStep, markEq, Option.map_some] using twin_device twin alike

structure Followed (apart : Bool) (hist hist' : List (SysfsEvent D F))
    (σ τ : System PcdevPrivateData D F) : Prop where
  twin : Twin apart (shadow hist) σ τ
  known : ReadsKnown hist → hist'.map (·.reply) = hist.map (·.reply)
  apart : apart = true → hist'.map (·.reply) = hist.map (·.reply) → ReadsKnown hist

omit [DecidableEq F] in
theorem unprobed_followed (apart : Bool) :
    Followed apart [] [] (unprobed : System PcdevPrivateData D F) unprobed where
  twin := ⟨fun _ => .unbound, rfl, fun _ _ opened => nomatch opened⟩
  known _ := rfl
  apart _ _ := readsKnown_nil

theorem followed_step {apart : Bool} {hist hist' : List (SysfsEvent D F)}
    {σ τ σ' : System PcdevPrivateData D F} {e : SysfsEvent D F} {op' : SysfsOp D F}
    (followed : Followed apart hist hist' σ τ) (regular : e.op.Regular) (step : SysfsStep σ e σ')
    (same : SameCall (fun heap heap' => apart = true → ∀ i, heap i ≠ heap' i) e.op op') :
    ∃ e' τ', SysfsStep τ e' τ' ∧ e'.op = op' ∧
      Followed apart (hist ++ [e]) (hist' ++ [e']) σ' τ' := by
  obtain ⟨e', τ', step', call, twin, answer⟩ := twin_step followed.twin regular step same
  refine ⟨e', τ', step', call, by rwa [shadow_snoc], ?_, ?_⟩
  · intro reads
    obtain ⟨before, last⟩ := (readsKnown_snoc hist e).mp reads
    rw [List.map_append, List.map_append, followed.known before]
    simp only [List.map_cons, List.map_nil, answer.known last]
  · intro asked replies
    simp only [List.map_append, List.map_cons, List.map_nil] at replies
    obtain ⟨front, last⟩ := List.append_inj' replies rfl
    exact (readsKnown_snoc hist e).mpr
      ⟨followed.apart asked front, answer.apart asked (List.cons.inj last).1⟩

theorem sysfsStep_deterministic (σ : System PcdevPrivateData D F) (e : SysfsEvent D F)
    (τ : System PcdevPrivateData D F) (e' : SysfsEvent D F) (τ' : System PcdevPrivateData D F)
    (step : SysfsStep σ e τ) (step' : SysfsStep σ e' τ') (same : e.op = e'.op) :
    e = e' ∧ τ = τ' := by
  obtain ⟨op, seen, reply⟩ := e
  obtain ⟨op', seen', reply'⟩ := e'
  obtain ⟨done, file⟩ := step
  obtain ⟨done', file'⟩ := step'
  cases same
  cases Outcome.done.inj (done.symm.trans done')
  exact ⟨by rw [SysfsEvent.mk.injEq]; exact ⟨rfl, file.trans file'.symm, rfl⟩, rfl⟩

theorem run_followed (apart : Bool) {σ : System PcdevPrivateData D F}
    {hist : List (SysfsEvent D F)} {ops : List (SysfsOp D F)}
    (run : Run (Guarded SysfsStep fun _ e => e.op.Regular) unprobed hist σ)
    (same : List.Forall₂ (fun e op => SameCall
      (fun heap heap' => apart = true → ∀ i, heap i ≠ heap' i) e.op op) hist ops) :
    ∃ hist' τ, Run SysfsStep unprobed hist' τ ∧ hist'.map (·.op) = ops ∧
      Followed apart hist hist' σ τ :=
  run_simulates (·.op) _ (Followed apart) (unprobed_followed apart)
    (fun _ _ _ _ _ _ _ followed step call => followed_step followed step.2 step.1 call) run same

omit [DecidableEq D] [DecidableEq F] in
theorem SameCall.mono {heaps wider : (Nat → UInt8) → (Nat → UInt8) → Prop} {op op' : SysfsOp D F}
    (same : SameCall heaps op op') (sub : ∀ heap heap', heaps heap heap' → wider heap heap') :
    SameCall wider op op' := by
  cases same with
  | file op => exact .file op
  | probe d granted pdata devNum => exact .probe d granted pdata devNum
  | storeMaxSize d heap heap' buf related => exact .storeMaxSize d heap heap' buf (sub _ _ related)

/-- The same calls over other heaps return the same. -/
def SameReplies (hist : List (SysfsEvent D F)) : Prop :=
  ∀ hist' (τ : System PcdevPrivateData D F), Run SysfsStep unprobed hist' τ →
    List.Forall₂ (fun e e' => SameCall (fun _ _ => True) e.op e'.op) hist hist' →
    hist'.map (·.reply) = hist.map (·.reply)

def SysfsOp.otherHeap : SysfsOp D F → SysfsOp D F
  | .storeMaxSize d (some heap) buf => .storeMaxSize d (some fun i => heap i + 1) buf
  | op => op

omit [DecidableEq D] [DecidableEq F] in
theorem otherHeap_same {heaps : (Nat → UInt8) → (Nat → UInt8) → Prop}
    (changed : ∀ heap, heaps heap fun i => heap i + 1) {op : SysfsOp D F}
    (regular : op.Regular) : SameCall heaps op op.otherHeap := by
  cases op with
  | file op => exact .file op
  | probe d granted pdata devNum => exact .probe d granted pdata devNum
  | storeMaxSize d grant buf =>
    cases grant with
    | none => exact absurd rfl regular.1
    | some heap => exact .storeMaxSize d heap _ buf (changed heap)

theorem otherHeap_all {heaps : (Nat → UInt8) → (Nat → UInt8) → Prop}
    (changed : ∀ heap, heaps heap fun i => heap i + 1) {σ : System PcdevPrivateData D F}
    {hist : List (SysfsEvent D F)}
    (run : Run (Guarded SysfsStep fun _ e => e.op.Regular) unprobed hist σ) :
    List.Forall₂ (fun e op => SameCall heaps e.op op) hist
      (hist.map fun e => e.op.otherHeap) := by
  rw [List.forall₂_map_right_iff, List.forall₂_same]
  exact fun e member => otherHeap_same changed (run_labels run e member)

/-- Two runs that differ only in the heap return the same bytes exactly when every
read of the first reaches only bytes that are zero from the probe or written. -/
theorem same_replies_iff {σ : System PcdevPrivateData D F} {hist : List (SysfsEvent D F)}
    (run : Run (Guarded SysfsStep fun _ e => e.op.Regular) unprobed hist σ) :
    SameReplies hist ↔ ReadsKnown hist := by
  constructor
  · intro same
    obtain ⟨hist', τ, run', calls, followed⟩ :=
      run_followed true run (otherHeap_all (fun heap _ i => by simp) run)
    refine followed.apart rfl (same hist' τ run' ?_)
    rw [← List.forall₂_map_right_iff, calls]
    exact otherHeap_all (fun _ => trivial) run
  · intro known hist' τ run' same
    have calls : List.Forall₂ (fun e op => SameCall
        (fun heap heap' => false = true → ∀ i, heap i ≠ heap' i) e.op op) hist
        (hist'.map (·.op)) := by
      rw [List.forall₂_map_right_iff]
      exact same.imp fun e e' call => call.mono fun _ _ _ impossible => nomatch impossible
    obtain ⟨hist'', τ', run'', keys, followed⟩ := run_followed false run calls
    obtain ⟨rfl, _⟩ := run_deterministic (·.op) sysfsStep_deterministic run'' run' keys
    exact followed.known known

def openedFour : List (SysfsEvent Unit Unit) :=
  [⟨.probe () true ⟨4, RDWR, "PCDEV1"⟩ 0, none, ⟨0, []⟩⟩,
   ⟨.file (.openFile () () 3), none, ⟨0, []⟩⟩]

def readEight : SysfsOp Unit Unit := .file (.read () .full ⟨8, by decide⟩)

def holding (size : Int32) (buffer : List UInt8) (fPos : Int64) :
    System PcdevPrivateData Unit Unit :=
  ⟨fun _ => some ⟨⟨size, RDWR, "PCDEV1"⟩, buffer, 0⟩, fun _ => some ⟨(), 3, fPos⟩⟩

def grown (b : UInt8) : List (SysfsEvent Unit Unit) := openedFour ++
  [⟨.storeMaxSize () (some fun _ => b) [56, 10], none, ⟨2, []⟩⟩]

theorem grown_run (b : UInt8) :
    Run (Guarded SysfsStep fun _ e => e.op.Regular) unprobed (grown b)
      (holding 8 [0, 0, 0, 0, b, b, b, b] 0) := by
  have opened : Run (Guarded SysfsStep fun _ e => e.op.Regular) unprobed openedFour
      (holding 4 [0, 0, 0, 0] 0) :=
    .snoc (.snoc .start ⟨⟨rfl, rfl⟩, rfl, by decide⟩) ⟨⟨rfl, rfl⟩, trivial⟩
  have regular : (SysfsOp.storeMaxSize () (some fun _ => b) [56, 10] :
      SysfsOp Unit Unit).Regular := by
    refine ⟨nofun, fun result number => ?_⟩
    cases (show Except.ok 8 = .ok result from number)
    decide
  exact opened.snoc ⟨⟨rfl, rfl⟩, regular⟩

def overwritten (b : UInt8) : List (SysfsEvent Unit Unit) := grown b ++
  [⟨.file (.lseek () 4 SEEK_SET), some ⟨(), 3, 0⟩, ⟨4, []⟩⟩,
   ⟨.file (.write () .full ⟨[1, 2, 3, 4], by decide⟩), some ⟨(), 3, 4⟩, ⟨4, []⟩⟩,
   ⟨.file (.lseek () 0 SEEK_SET), some ⟨(), 3, 8⟩, ⟨0, []⟩⟩]

def overwrittenRead (b : UInt8) : List (SysfsEvent Unit Unit) := overwritten b ++
  [⟨readEight, some ⟨(), 3, 0⟩, ⟨8, [0, 0, 0, 0, 1, 2, 3, 4]⟩⟩]

theorem overwrittenRead_run (b : UInt8) :
    Run (Guarded SysfsStep fun _ e => e.op.Regular) unprobed (overwrittenRead b)
      (holding 8 [0, 0, 0, 0, 1, 2, 3, 4] 8) := by
  have file : ∀ op : Op Unit Unit, (SysfsOp.file op).Regular := fun _ => trivial
  have behind := (grown_run b).snoc (u := holding 8 [0, 0, 0, 0, b, b, b, b] 4)
    (l := ⟨.file (.lseek () 4 SEEK_SET), some ⟨(), 3, 0⟩, ⟨4, []⟩⟩) ⟨⟨rfl, rfl⟩, file _⟩
  have written := behind.snoc (u := holding 8 [0, 0, 0, 0, 1, 2, 3, 4] 8)
    (l := ⟨.file (.write () .full ⟨[1, 2, 3, 4], by decide⟩), some ⟨(), 3, 4⟩, ⟨4, []⟩⟩)
    ⟨⟨rfl, rfl⟩, file _⟩
  have back := written.snoc (u := holding 8 [0, 0, 0, 0, 1, 2, 3, 4] 0)
    (l := ⟨.file (.lseek () 0 SEEK_SET), some ⟨(), 3, 8⟩, ⟨0, []⟩⟩) ⟨⟨rfl, rfl⟩, file _⟩
  exact back.snoc ⟨⟨rfl, rfl⟩, file _⟩

/-- The device grows over a heap of bytes 170, and is written where it grew before it is read. -/
theorem same_replies_overwritten :
    (∃ σ, Run (Guarded SysfsStep fun _ e => e.op.Regular) unprobed (overwrittenRead 170) σ) ∧
      SameReplies (overwrittenRead 170) := by
  refine ⟨⟨_, overwrittenRead_run 170⟩, (same_replies_iff (overwrittenRead_run 170)).mpr ?_⟩
  have quiet : ReadsKnown (overwritten 170) := by
    intro front e inner
    have unread : ∀ e ∈ overwritten 170, ∀ s, e.Known s := by
      simp [overwritten, grown, openedFour, SysfsEvent.Known]
    exact unread e (inner.subset (List.mem_append_right _ List.mem_cons_self)) _
  refine (readsKnown_snoc _ _).mpr ⟨quiet, ?_⟩
  intro _ marks marked
  cases (show some (List.replicate 8 true) = some marks from marked)
  change ∀ k < 8, (List.replicate 8 true)[0 + k]? = some true
  decide

def grownRead (b : UInt8) : List (SysfsEvent Unit Unit) := grown b ++
  [⟨readEight, some ⟨(), 3, 0⟩, ⟨8, [0, 0, 0, 0, b, b, b, b]⟩⟩]

theorem grownRead_run (b : UInt8) :
    Run (Guarded SysfsStep fun _ e => e.op.Regular) unprobed (grownRead b)
      (holding 8 [0, 0, 0, 0, b, b, b, b] 8) :=
  (grown_run b).snoc ⟨⟨rfl, rfl⟩, trivial⟩

/-- The last four bytes of the read are the heap's. -/
theorem grown_read_discloses :
    (∃ σ, Run (Guarded SysfsStep fun _ e => e.op.Regular) unprobed (grownRead 170) σ) ∧
      ¬ SameReplies (grownRead 170) := by
  refine ⟨⟨_, grownRead_run 170⟩, fun same => ?_⟩
  have other := same (grownRead 171) _ (run_unguarded (grownRead_run 171))
    (.cons (.probe _ _ _ _) (.cons (.file _) (.cons (.storeMaxSize _ _ _ _ trivial)
      (.cons (.file _) .nil))))
  exact absurd other (by decide)

end MadDriver.Pcd.Sysfs

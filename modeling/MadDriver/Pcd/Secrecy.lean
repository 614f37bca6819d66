import MadDriver.Pcd.Access

/-! Two runs of the same calls on systems that differ only in what the write-only
devices hold: all answers are the same. -/
namespace MadDriver.Pcd
open Kernel Transition Function

section TwoRuns

variable {drv : Driver} {D F : Type} [DecidableEq D] [DecidableEq F]

variable (drv) in
structure AlikeDevice (dev dev' : drv.Data) : Prop where
  size : drv.maxSize dev' = drv.maxSize dev
  perm : drv.perm dev' = drv.perm dev
  length : (drv.buffer dev').length = (drv.buffer dev).length
  contents : drv.perm dev ≠ WRONLY → dev' = dev

variable (drv) in
structure Alike (σ τ : System drv.Data D F) : Prop where
  files : τ.files = σ.files
  devs : ∀ d, Option.Rel (AlikeDevice drv) (σ.devs d) (τ.devs d)

omit [DecidableEq D] [DecidableEq F] in
theorem alike_device {σ τ : System drv.Data D F} (alike : Alike drv σ τ) {d : D}
    {dev : drv.Data} (device : σ.devs d = some dev) :
    ∃ dev', τ.devs d = some dev' ∧ AlikeDevice drv dev dev' := by
  have related := alike.devs d
  rw [device] at related
  cases other : τ.devs d with
  | none => rw [other] at related; cases related
  | some dev' => rw [other] at related; cases related with | some h => exact ⟨dev', rfl, h⟩

theorem alike_leave {σ τ : System drv.Data D F} (alike : Alike drv σ τ) (f : F)
    (file : OpenFile D) {dev dev' : drv.Data} (related : AlikeDevice drv dev dev')
    (fPos : Int64) : Alike drv (σ.leave f file dev fPos) (τ.leave f file dev' fPos) where
  files := by simp only [System.leave, alike.files]
  devs d := by
    by_cases own : d = file.dev
    · subst own
      simp only [System.leave, update_self]
      exact .some related
    · simp only [System.leave, update_of_ne own]
      exact alike.devs d

/-- A call answers alike where its body does, on every device it can reach. -/
theorem alike_call {σ σ' τ : System drv.Data D F} (alike : Alike drv σ τ) {f : F} {need : UInt32}
    {body : drv.Data → Int64 → Outcome (CallResult drv.Data)} {reply : Reply}
    (bodies : ∀ file dev dev' r, σ.files f = some file → file.fMode &&& need = need →
      σ.devs file.dev = some dev → AlikeDevice drv dev dev' → body dev file.fPos = .done r →
      ∃ data, body dev' file.fPos = .done ⟨data, r.ret, r.out, r.fPos⟩ ∧
        AlikeDevice drv r.data data)
    (done : σ.call f need body = .done (σ', reply)) :
    ∃ τ', τ.call f need body = .done (τ', reply) ∧ Alike drv σ' τ' := by
  unfold System.call at done ⊢
  rw [alike.files]
  split at done
  · cases done
    exact ⟨τ, rfl, alike⟩
  · rename_i file opened
    split at done
    · cases done
      rename_i lacking
      rw [if_pos lacking]
      exact ⟨τ, rfl, alike⟩
    · rename_i mode
      have needed : file.fMode &&& need = need := by simpa using mode
      rw [if_neg mode]
      split at done
      · rename_i missing
        cases done
        have related := alike.devs file.dev
        rw [missing] at related
        cases other : τ.devs file.dev with
        | none => exact ⟨τ, rfl, alike⟩
        | some _ => rw [other] at related; cases related
      · rename_i dev device
        obtain ⟨dev', device', related⟩ := alike_device alike device
        obtain ⟨r, result, answer⟩ := Outcome.map_done.mp done
        cases answer
        obtain ⟨data, result', close⟩ := bodies file dev dev' r opened needed device related result
        simp only [device', result']
        exact ⟨_, rfl, alike_leave alike f file close r.fPos⟩

theorem alike_refl (dev : drv.Data) : AlikeDevice drv dev dev := ⟨rfl, rfl, rfl, fun _ => rfl⟩

theorem alike_write (conf : Conforms drv) {dev dev' : drv.Data} {buff : List UInt8}
    {count : UInt64} {fPos : Int64} {user : UserAccess} (related : AlikeDevice drv dev dev')
    (placed : Placed (drv.maxSize dev) (drv.buffer dev) fPos) (small : count.toNat < 2 ^ 63)
    {r : CallResult drv.Data}
    (done : (drv.fops.write dev user buff count fPos).map (storeBack fPos) = .done r) :
    ∃ data, (drv.fops.write dev' user buff count fPos).map (storeBack fPos) =
        .done ⟨data, r.ret, r.out, r.fPos⟩ ∧ AlikeDevice drv r.data data := by
  by_cases wronly : drv.perm dev = WRONLY
  · have placed' : Placed (drv.maxSize dev') (drv.buffer dev') fPos := by
      rw [related.size]
      exact ⟨placed.nonneg, placed.within, related.length ▸ placed.room⟩
    obtain ⟨a, result, writes⟩ := writeBody_writes buff user placed small
    obtain ⟨b, result', writes'⟩ := writeBody_writes buff user placed' small
    have length := writes_length placed writes
    have length' := writes_length placed' writes'
    rw [related.size] at writes'
    obtain ⟨ret, moved⟩ := writes_answer writes writes'
    have close : AlikeDevice drv (drv.setBuffer dev a.buffer) (drv.setBuffer dev' b.buffer) := by
      constructor
      · rw [conf.maxSize_set, conf.maxSize_set, related.size]
      · rw [conf.perm_set, conf.perm_set, related.perm]
      · rw [conf.buffer_set, conf.buffer_set, length, length', related.length]
      · intro readable
        rw [conf.perm_set] at readable
        exact absurd wronly readable
    rw [conf.writes, result] at done
    rw [conf.writes, result']
    simp only [Outcome.map, Outcome.bind, storeBack, WriteResult.leaves, ret, moved] at done ⊢
    by_cases success : 0 ≤ a.ret
    · simp only [if_pos success] at done ⊢
      cases done
      exact ⟨_, rfl, close⟩
    · simp only [if_neg success] at done ⊢
      cases done
      exact ⟨_, rfl, close⟩
  · cases related.contents wronly
    exact ⟨r.data, done, alike_refl _⟩

omit [DecidableEq D] in
theorem alike_open (conf : Conforms drv) {σ τ : System drv.Data D F} (alike : Alike drv σ τ)
    (f : F) (d : D) (fMode : UInt32) :
    (vfsOpen drv.fops τ f d fMode).2 = (vfsOpen drv.fops σ f d fMode).2 ∧
    Alike drv (vfsOpen drv.fops σ f d fMode).1 (vfsOpen drv.fops τ f d fMode).1 := by
  have related := alike.devs d
  simp only [vfsOpen, alike.files, conf.opens]
  cases opened : σ.files f with
  | some _ => exact ⟨rfl, alike⟩
  | none =>
    cases device : σ.devs d with
    | none =>
      rw [device] at related
      cases device' : τ.devs d with
      | none => exact ⟨rfl, alike⟩
      | some _ => rw [device'] at related; cases related
    | some dev =>
      obtain ⟨dev', device', close⟩ := alike_device alike device
      simp only [device', close.perm]
      split
      · exact ⟨rfl, rfl, alike.devs⟩
      · exact ⟨rfl, alike⟩

theorem alike_step (conf : Conforms drv) {σ₀ σ σ' τ : System drv.Data D F} {op : Op D F}
    {reply : Reply} (checked : Checked drv σ₀ σ) (alike : Alike drv σ τ)
    (done : vfsStep drv.fops σ op = .done (σ', reply)) :
    ∃ τ', vfsStep drv.fops τ op = .done (τ', reply) ∧ Alike drv σ' τ' := by
  cases op with
  | openFile f d fMode =>
    have result : vfsOpen drv.fops σ f d fMode = (σ', reply) := Outcome.done.inj done
    have opened := alike_open conf alike f d fMode
    rw [result] at opened
    exact ⟨_, congrArg Outcome.done (Prod.ext rfl opened.1), opened.2⟩
  | release f =>
    cases done
    exact ⟨_, rfl, by simp only [alike.files], alike.devs⟩
  | lseek f offset whence =>
    simp only [vfsStep] at done ⊢
    refine alike_call alike ?_ done
    intro file dev dev' r _ _ _ related result
    cases result
    simp only [vfsLlseek, conf.seeks, related.size]
    exact ⟨dev', rfl, related⟩
  | read f user count =>
    simp only [vfsStep] at done ⊢
    refine alike_call alike ?_ done
    intro file dev dev' r opened mode device related result
    have readable : drv.perm dev ≠ WRONLY := by
      intro wronly
      have permitted := checked.permitted f file dev opened device
      rw [wronly] at permitted
      exact writeonly_unreadable permitted mode
    cases related.contents readable
    exact ⟨r.data, result, alike_refl _⟩
  | write f user buff =>
    simp only [vfsStep] at done ⊢
    refine alike_call alike ?_ done
    intro file dev dev' r opened _ device related result
    exact alike_write conf related (checked.placed.placed opened device)
      (buff.toNat_count ▸ buff.small) result

/-- The same calls get the same answers, whatever the write-only devices hold. -/
theorem alike_run (conf : Conforms drv) {σ₀ σ τ₀ : System drv.Data D F} {hist : List (Event D F)}
    (start : Closed drv σ₀) (alike : Alike drv σ₀ τ₀) (run : Run (Step drv) σ₀ hist σ) :
    ∃ τ, Run (Step drv) τ₀ hist τ ∧ Alike drv σ τ := by
  refine run_history (fun hist σ => ∃ τ, Run (Step drv) τ₀ hist τ ∧ Alike drv σ τ)
    ⟨τ₀, .start, alike⟩ ?_ run
  rintro hist σ e σ' before ⟨τ, run', close⟩ ⟨done, seen⟩
  obtain ⟨τ', done', close'⟩ := alike_step conf (run_checked conf start before) close done
  exact ⟨τ', .snoc run' ⟨done', seen.trans (congrFun close.files _).symm⟩, close'⟩

variable (drv)

structure AccessHolds (σ₀ : System drv.Data D F) (hist : List (Event D F))
    (σ : System drv.Data D F) : Prop where
  readOnly : ∀ d dev₀, σ₀.devs d = some dev₀ → drv.perm dev₀ = RDONLY →
    ∃ dev, σ.devs d = some dev ∧ drv.buffer dev = drv.buffer dev₀
  writeOnly : ∀ op σ' reply, vfsStep drv.fops σ op = .done (σ', reply) → reply.out ≠ [] →
    ∃ file dev n, σ.files op.handle = some file ∧ σ.devs file.dev = some dev ∧
      drv.perm dev ≠ WRONLY ∧
      reply.out = Bytes.slice (drv.buffer dev) file.fPos.toInt.toNat n
  secret : ∀ τ₀, Alike drv σ₀ τ₀ → ∃ τ, Run (Step drv) τ₀ hist τ
  answers : ∀ op : Op D F, ∃ σ' reply, vfsStep drv.fops σ op = .done (σ', reply)
  knownPerm : ∀ f file, σ.files f = some file → ∃ dev, σ.devs file.dev = some dev ∧
    (drv.perm dev = RDONLY ∨ drv.perm dev = WRONLY ∨ drv.perm dev = RDWR)

end TwoRuns

/-- Drivers 003 to 006, with any perm values, any modes and any calls. -/
theorem access_control (k : SizedDriver) {D F : Type} [DecidableEq D] [DecidableEq F]
    {σ₀ σ : System k.driver.Data D F} {hist : List (Event D F)} (start : Closed k.driver σ₀)
    (run : Run (Step k.driver) σ₀ hist σ) : AccessHolds k.driver σ₀ hist σ := by
  have checked := run_checked k.conforms start run
  constructor
  · intro d dev₀ device₀ rdonly
    obtain ⟨dev, device, _, contents⟩ := checked.kept d dev₀ device₀
    exact ⟨dev, device, contents rdonly⟩
  · intro op σ' reply done carries
    exact checked_answer k.conforms checked done carries
  · intro τ₀ alike
    obtain ⟨τ, run', _⟩ := alike_run k.conforms start alike run
    exact ⟨τ, run'⟩
  · intro op
    obtain ⟨σ', reply, done, _⟩ := step_effect k.conforms checked.placed op
    exact ⟨σ', reply, done⟩
  · intro f file opened
    obtain ⟨dev, device, _⟩ := checked.placed.opened f file opened
    refine ⟨dev, device, ?_⟩
    rcases permitted_cases (checked.permitted f file dev opened device) with
      rdwr | ⟨rdonly, _⟩ | ⟨wronly, _⟩
    · exact .inr (.inr rdwr)
    · exact .inl rdonly
    · exact .inr (.inl wronly)

def vault : System PcdevPrivateData Bool Unit where
  devs d := some ⟨⟨2, if d then RDONLY else WRONLY, ""⟩, [4, 5], 0⟩
  files _ := none

theorem vault_closed : Closed Platform.driver vault where
  covered d dev device := by
    cases device
    exact ⟨(by decide : (0 : Int) ≤ (2 : Int32).toInt), (by decide : (2 : Int32).toInt ≤ 2)⟩
  files _ := rfl

theorem access_control_vault : ∃ σ, AccessHolds Platform.driver vault
    [⟨.openFile () false 2, none, ⟨0, []⟩⟩,
     ⟨.write () .full ⟨[9], by decide⟩, some ⟨false, 2, 0⟩, ⟨1, []⟩⟩,
     ⟨.read () .full ⟨1, by decide⟩, some ⟨false, 2, 1⟩, ⟨-EBADF, []⟩⟩] σ :=
  ⟨_, access_control .platform vault_closed
    (.snoc (.snoc (.snoc .start ⟨rfl, rfl⟩) ⟨rfl, rfl⟩) ⟨rfl, rfl⟩)⟩

end MadDriver.Pcd

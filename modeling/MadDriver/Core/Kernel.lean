import MadDriver.Core.Bytes

/-! The kernel services the drivers call, as far as they rely on them: error
numbers, user copies, and allocation. A copy whose range leaves the kernel
buffer has no defined effect; it is an outcome of its own. -/
namespace MadDriver.Kernel

def EPERM : Int64 := 1
def EINTR : Int64 := 4
def EIO : Int64 := 5
def ENXIO : Int64 := 6
def EBADF : Int64 := 9
def EAGAIN : Int64 := 11
def ENOMEM : Int64 := 12
def EFAULT : Int64 := 14
def EBUSY : Int64 := 16
def EEXIST : Int64 := 17
def ENODEV : Int64 := 19
def EINVAL : Int64 := 22
def EMFILE : Int64 := 24
def ESPIPE : Int64 := 29
def EPIPE : Int64 := 32
def ERANGE : Int64 := 34
def ERESTARTSYS : Int64 := 512

/-- What a kernel call returns when it fails, or the code in the pointer it returns. -/
abbrev ErrCode := { code : Int64 // code < 0 }

theorem negative_ne_zero {code : Int64} (negative : code < 0) : code ≠ 0 := by
  rintro rfl
  exact absurd negative (by decide)

def SEEK_SET : Int32 := 0
def SEEK_CUR : Int32 := 1
def SEEK_END : Int32 := 2

def FMODE_READ : UInt32 := 1
def FMODE_WRITE : UInt32 := 2

/-- How a call ends: with a value, or never because it waits for a lock nobody
will release to it, or in an access outside the kernel buffer. -/
inductive Outcome (α : Type) where
  | done (value : α)
  | blocks
  | wild
  deriving Repr, DecidableEq

def Outcome.bind {α β : Type} (x : Outcome α) (f : α → Outcome β) : Outcome β :=
  match x with
  | .done a => f a
  | .blocks => .blocks
  | .wild => .wild

def Outcome.map {α β : Type} (f : α → β) (x : Outcome α) : Outcome β :=
  x.bind (fun a => .done (f a))

theorem Outcome.bind_done {α β : Type} {x : Outcome α} {f : α → Outcome β} {b : β} :
    x.bind f = .done b ↔ ∃ a, x = .done a ∧ f a = .done b := by
  cases x <;> simp [Outcome.bind]

theorem Outcome.map_done {α β : Type} {x : Outcome α} {f : α → β} {b : β} :
    x.map f = .done b ↔ ∃ a, x = .done a ∧ f a = b := by
  cases x <;> simp [Outcome.map, Outcome.bind]

theorem Outcome.map_map {α β γ : Type} (f : α → β) (g : β → γ) (x : Outcome α) :
    (x.map f).map g = x.map fun a => g (f a) := by
  cases x <;> rfl

/-- A user copy goes through, or faults after some bytes; after a fault in
`copy_from_user` the kernel may clear the rest of the destination. -/
inductive UserAccess where
  | full
  | fault (copied : Nat) (zeroed : Bool)
  deriving Repr, DecidableEq

def UserAccess.moved : UserAccess → Nat → Nat
  | .full, n => n
  | .fault copied _, n => min copied n

def UserAccess.cleared : UserAccess → Bool
  | .full => false
  | .fault _ zeroed => zeroed

theorem UserAccess.moved_le (user : UserAccess) (n : Nat) : user.moved n ≤ n := by
  cases user with
  | full => exact Nat.le_refl n
  | fault copied zeroed => exact Nat.min_le_right copied n

/-- The kernel range of a copy lies in a buffer of the given length. A copy of
no bytes touches nothing. -/
def Inside (length : Nat) (off : Int64) (n : UInt64) : Prop :=
  n.toNat = 0 ∨ (0 ≤ off.toInt ∧ off.toInt + n.toNat ≤ length)

instance (length : Nat) (off : Int64) (n : UInt64) : Decidable (Inside length off n) :=
  inferInstanceAs (Decidable (_ ∨ _))

def copyToUser (user : UserAccess) (buf : List UInt8) (off : Int64) (n : UInt64) :
    Outcome (Nat × List UInt8) :=
  if Inside buf.length off n then
    let k := user.moved n.toNat
    .done (n.toNat - k, Bytes.slice buf off.toInt.toNat k)
  else .wild

def UserAccess.copied (user : UserAccess) (src : List UInt8) (n : Nat) : List UInt8 :=
  src.take (user.moved n) ++ if user.cleared then List.replicate (n - user.moved n) 0 else []

def copyFromUser (user : UserAccess) (buf : List UInt8) (off : Int64) (src : List UInt8)
    (n : UInt64) : Outcome (Nat × List UInt8) :=
  if Inside buf.length off n then
    .done (n.toNat - user.moved n.toNat,
      Bytes.patch buf off.toInt.toNat (user.copied src n.toNat))
  else .wild

theorem UserAccess.copied_whole {user : UserAccess} {n : Nat} (whole : user.moved n = n)
    (src : List UInt8) : user.copied src n = src.take n := by
  simp [UserAccess.copied, whole]

theorem UserAccess.length_copied_le (user : UserAccess) (src : List UInt8) (n : Nat) :
    (user.copied src n).length ≤ n := by
  have le := user.moved_le n
  unfold UserAccess.copied
  split <;> simp <;> omega

/-- `get_user` of a byte; behind the readable bytes it faults and leaves 0. -/
def getUser (src : List UInt8) (k : Nat) : UInt8 := src[k]?.getD 0

/-- What a read gives its caller: as many bytes of the caller's buffer as it returned.
None after an error, or if it returned more than it had put there. -/
def returned (ret : Int64) (puts : List (UInt8 × Nat)) : Option (List UInt8) :=
  if ret < 0 then none
  else Bytes.overwritten (puts.map fun (ch, i) => (i, [ch])) ret.toInt.toNat

theorem returned_zipIdx {bytes : List UInt8} (short : bytes.length < 2 ^ 63) :
    returned (.ofNat bytes.length) bytes.zipIdx = some bytes := by
  have value : (Int64.ofNat bytes.length).toInt = bytes.length :=
    Int64.toInt_ofNat_of_lt short
  have succeeded : ¬ Int64.ofNat bytes.length < 0 := by
    rw [Int64.lt_iff_toInt_lt, value]
    exact Int.not_lt.mpr (Int.natCast_nonneg _)
  rw [returned, if_neg succeeded, value, Int.toNat_natCast,
    Bytes.overwritten_eq (Bytes.lastHit_zipIdx bytes) (Nat.le_refl _), List.take_length]

/-- No object is larger than the address space, whatever the allocator has. -/
def Allocatable (n : UInt64) : Prop := n.toNat < 2 ^ 63

instance (n : UInt64) : Decidable (Allocatable n) := inferInstanceAs (Decidable (_ < _))

def devmKzalloc (granted : Bool) (n : UInt64) : Option (List UInt8) :=
  if granted ∧ Allocatable n then some (List.replicate n.toNat 0) else none

abbrev HeapGrant := Option (Nat → UInt8)

/-- NULL is the region without bytes. Size zero frees the object. A resized
object keeps its first bytes; bytes it gains hold what the heap held there. -/
def krealloc (grant : HeapGrant) (buf : List UInt8) (n : UInt64) : List UInt8 :=
  match grant with
  | none => []
  | some heap =>
    if Allocatable n then
      buf.take n.toNat ++ (List.range (n.toNat - buf.length)).map (fun i => heap (buf.length + i))
    else []

theorem length_krealloc {heap : Nat → UInt8} {n : UInt64} (fits : Allocatable n)
    (buf : List UInt8) : (krealloc (some heap) buf n).length = n.toNat := by
  simp [krealloc, fits]
  omega

end MadDriver.Kernel

import Mathlib.Logic.Function.Basic
import MadDriver.Core.Kernel

/-! The USB skeleton driver usb_skel_drv: one interface and its device, any number of
processes and of open files. A step is one access to what the calls, the completion
handlers and the USB core share. Accesses that nobody can come between are one step. -/
namespace MadDriver.Skel
open Kernel Function

def PAGE_SIZE : Nat := 4096

def MAX_TRANSFER : Nat := PAGE_SIZE - 512

def WRITES_IN_FLIGHT : Nat := 8

abbrev Errno := { code : Int64 // code < 0 }

/-- A status that a completion stored in `errors`; the id tells it from other ones. -/
structure Err where
  id : Nat
  status : Errno
  deriving DecidableEq

/-- "to preserve notifications about reset" -/
def Err.report (e : Err) : Errno :=
  if e.status.val = -EPIPE then e.status else ⟨- Kernel.EIO, by decide⟩

/-- Why a call fails: an error of its own, or one a completion has stored. -/
inductive Failure where
  | code (code : Errno)
  | stored (e : Err)
  deriving DecidableEq

/-- How a call ends; a read that copied has given its bytes to the user. -/
inductive Return where
  | done (n : Nat)
  | given (bytes : List UInt8)
  | failed (why : Failure)
  deriving DecidableEq

def Return.value : Return → Except Errno Nat
  | .done n => .ok n
  | .given bytes => .ok bytes.length
  | .failed (.code code) => .error code
  | .failed (.stored e) => .error e.report

structure ReadCall (F : Type) where
  file : F
  count : Nat
  nonblock : Bool
  some_asked : 0 < count

/-- A write behind its check for `count == 0`; the data are the count bytes of the user. -/
structure WriteCall (F : Type) where
  file : F
  data : List UInt8
  nonblock : Bool
  some_data : 0 < data.length

def WriteCall.writesize {F : Type} (w : WriteCall F) : Nat := min w.data.length MAX_TRANSFER

/-! Where a call is: at a statement of its function. A number is a transfer buffer of
the call, an error one that it has loaded. -/

inductive OpenPhase where
  | findInterface
  | getIntfdata
  | autopmGet
  | krefGet

inductive ReadPhase where
  | mutexLock
  | disconnected
  | ongoingRead
  | waitEvent
  | errors
  | clear (e : Err)
  | data
  | unlock (ret : Return)

inductive WritePhase where
  | down
  | errors
  | clear (e : Err)
  | allocUrb
  | allocCoherent
  | copyFromUser (b : Nat)
  | mutexLock (b : Nat)
  | disconnected (b : Nat)
  | submit (b : Nat)
  | unlock
  | unlockError (b : Nat) (code : Errno)
  | freeCoherent (b : Option Nat) (why : Failure)
  | up (why : Failure)

inductive FlushPhase where
  | mutexLock
  | waitAnchor
  | killUrb
  | errors
  | clear (e : Option Err)
  | unlock (e : Option Err)

inductive ReleasePhase where
  | autopmPut
  | krefPut

inductive Phase (F : Type) where
  | outside
  | opening (f : F) (p : OpenPhase)
  | reading (r : ReadCall F) (p : ReadPhase)
  | writing (w : WriteCall F) (p : WritePhase)
  | flushing (f : F) (p : FlushPhase)
  | closing (f : F) (p : ReleasePhase)

/-- Where skel_probe and skel_disconnect are, `bound` in between; `failed` and `gone`
are behind their ends. -/
inductive Core where
  | kzalloc
  | noMemory
  | findEndpoints
  | allocBuffer
  | allocUrb
  | setIntfdata
  | registerDev
  | clearIntfdata
  | error
  | failed
  | bound
  | deregisterDev
  | mutexLock
  | setDisconnected
  | mutexUnlock
  | killUrb
  | killAnchored
  | krefPut
  | gone
  deriving DecidableEq

inductive Owner (I : Type) where
  | call (i : I)
  | core

inductive FileState (I : Type) where
  | absent
  | opening (i : I)
  | opened
  | closing (i : I)

/-- A write URB: with the USB core, or in its completion handler before
`usb_free_coherent`, or before `up`. -/
inductive Transfer where
  | idle
  | inFlight (data : List UInt8)
  | completed
  | freed

/-- `struct usb_skel`, and around it what the USB core and the file system keep: the
length the read URB in flight asks for, the write URBs by the number of their buffer,
how often each buffer was freed, and how often skel_delete ran. -/
structure State (I F : Type) where
  bulkInSize : Nat
  bulkInBuffer : List UInt8
  bulkInFilled : Nat
  bulkInCopied : Nat
  ongoingRead : Bool
  errors : Option Err
  errLock : Option I
  limitSem : Nat
  kref : Nat
  ioMutex : Option (Owner I)
  disconnected : Bool
  readUrb : Option Nat
  transfer : Nat → Transfer
  frees : Nat → Nat
  nextBuf : Nat
  nextErr : Nat
  intfdata : Bool
  minor : Bool
  deletes : Nat
  core : Core
  file : F → FileState I
  thread : I → Phase F

def plugged {I F : Type} : State I F where
  bulkInSize := 0
  bulkInBuffer := []
  bulkInFilled := 0
  bulkInCopied := 0
  ongoingRead := false
  errors := none
  errLock := none
  limitSem := 0
  kref := 0
  ioMutex := none
  disconnected := false
  readUrb := none
  transfer _ := .idle
  frees _ := 0
  nextBuf := 0
  nextErr := 0
  intfdata := false
  minor := false
  deletes := 0
  core := .kzalloc
  file _ := .absent
  thread _ := .outside

/-- What a step does that somebody may ask for; `held` is what `errors` held before a
call cleared it, `old` what it held before a completion stored into it. -/
inductive Event (I : Type) where
  | internal
  | startsRead
  | copies (fault ahead : Bool)
  | startsWrite (b : Nat)
  | delivers (data : List UInt8)
  | stores (e : Err) (old : Option Err)
  | loads (i : I)
  | clears (i : I) (loaded held : Option Err)
  | returns (i : I) (ret : Return)
  | disconnects

variable {I F : Type}

def skelDoReadIo (submit : Option Errno) (count : Nat) (s : State I F) :
    Option Errno × State I F :=
  let s := { s with ongoingRead := true, bulkInFilled := 0, bulkInCopied := 0 }
  match submit with
  | none => (none, { s with readUrb := some (min s.bulkInSize count) })
  | some rv =>
    let rv := if rv.val = -ENOMEM then rv else ⟨- Kernel.EIO, by decide⟩
    (some rv, { s with ongoingRead := false })

/-- skel_read with data in the buffer: the copy, and the read-ahead it does not wait for. -/
def copyOut (fault : Bool) (submit : Option Errno) (count : Nat) (s : State I F) :
    Return × State I F :=
  let available := s.bulkInFilled - s.bulkInCopied
  let chunk := min available count
  let rv := if fault then .failed (.code ⟨-EFAULT, by decide⟩)
    else .given (Bytes.slice s.bulkInBuffer s.bulkInCopied chunk)
  let s := { s with bulkInCopied := s.bulkInCopied + chunk }
  (rv, if available < count then (skelDoReadIo submit (count - chunk) s).2 else s)

def krefPut (s : State I F) : State I F :=
  { s with kref := s.kref - 1, deletes := if s.kref = 1 then s.deletes + 1 else s.deletes }

def flushResult : Option Err → Return
  | none => .done 0
  | some e => .failed (.stored e)

/- A relation for each function: where the call is, what it does, where it comes to, and the
device afterwards. -/
section Calls

variable [DecidableEq F]

inductive OpenStep (s : State I F) (i : I) (f : F) :
    OpenPhase → Event I → Phase F → State I F → Prop where
  | notFound :
      OpenStep s i f .findInterface (.returns i (.failed (.code ⟨-ENODEV, by decide⟩))) .outside
        { s with file := update s.file f .absent }
  | found : OpenStep s i f .findInterface .internal (.opening f .getIntfdata) s
  | noDevice : s.intfdata = false →
      OpenStep s i f .getIntfdata (.returns i (.failed (.code ⟨-ENODEV, by decide⟩))) .outside
        { s with file := update s.file f .absent }
  | device : s.intfdata = true →
      OpenStep s i f .getIntfdata .internal (.opening f .autopmGet) s
  | autopmFails (code : Errno) :
      OpenStep s i f .autopmGet (.returns i (.failed (.code code))) .outside
        { s with file := update s.file f .absent }
  | autopmGet : OpenStep s i f .autopmGet .internal (.opening f .krefGet) s
  | krefGet : OpenStep s i f .krefGet (.returns i (.done 0)) .outside
      { s with kref := s.kref + 1, file := update s.file f .opened }

inductive ReleaseStep (s : State I F) (i : I) (f : F) :
    ReleasePhase → Event I → Phase F → State I F → Prop where
  | autopmPut : ReleaseStep s i f .autopmPut .internal (.closing f .krefPut) s
  | krefPut : ReleaseStep s i f .krefPut (.returns i (.done 0)) .outside
      (krefPut { s with file := update s.file f .absent })

end Calls

inductive ReadStep (s : State I F) (i : I) (r : ReadCall F) :
    ReadPhase → Event I → Phase F → State I F → Prop where
  | interrupted :
      ReadStep s i r .mutexLock (.returns i (.failed (.code ⟨-EINTR, by decide⟩))) .outside s
  | locks : s.ioMutex = none → ReadStep s i r .mutexLock .internal (.reading r .disconnected)
      { s with ioMutex := some (.call i) }
  | gone : s.disconnected = true → ReadStep s i r .disconnected .internal
      (.reading r (.unlock (.failed (.code ⟨-ENODEV, by decide⟩)))) s
  | present : s.disconnected = false →
      ReadStep s i r .disconnected .internal (.reading r .ongoingRead) s
  | quiet : s.errLock = none → s.ongoingRead = false →
      ReadStep s i r .ongoingRead .internal (.reading r .errors) s
  | again : s.errLock = none → s.ongoingRead = true → r.nonblock = true →
      ReadStep s i r .ongoingRead .internal
        (.reading r (.unlock (.failed (.code ⟨-EAGAIN, by decide⟩)))) s
  | waits : s.errLock = none → s.ongoingRead = true → r.nonblock = false →
      ReadStep s i r .ongoingRead .internal (.reading r .waitEvent) s
  | woken : s.ongoingRead = false → ReadStep s i r .waitEvent .internal (.reading r .errors) s
  | signalled : ReadStep s i r .waitEvent .internal
      (.reading r (.unlock (.failed (.code ⟨-ERESTARTSYS, by decide⟩)))) s
  | noError : s.errors = none → ReadStep s i r .errors (.loads i) (.reading r .data) s
  | error {e : Err} : s.errors = some e →
      ReadStep s i r .errors (.loads i) (.reading r (.clear e)) s
  | clears {e : Err} : ReadStep s i r (.clear e) (.clears i (some e) s.errors)
      (.reading r (.unlock (.failed (.stored e)))) { s with errors := none }
  | startsIo {submit : Option Errno} {m : State I F} : s.errLock = none →
      s.bulkInFilled = 0 ∨ s.bulkInFilled - s.bulkInCopied = 0 →
      skelDoReadIo submit r.count s = (none, m) →
      ReadStep s i r .data .startsRead (.reading r .ongoingRead) m
  | ioFails {submit : Option Errno} {rv : Errno} {m : State I F} : s.errLock = none →
      s.bulkInFilled = 0 ∨ s.bulkInFilled - s.bulkInCopied = 0 →
      skelDoReadIo submit r.count s = (some rv, m) →
      ReadStep s i r .data .startsRead (.reading r (.unlock (.failed (.code rv)))) m
  | copies {fault : Bool} {submit : Option Errno} {ret : Return} {m : State I F} :
      s.bulkInFilled ≠ 0 → s.bulkInFilled - s.bulkInCopied ≠ 0 →
      (s.bulkInFilled - s.bulkInCopied < r.count → s.errLock = none) →
      copyOut fault submit r.count s = (ret, m) →
      ReadStep s i r .data (.copies fault (s.bulkInFilled - s.bulkInCopied < r.count))
        (.reading r (.unlock ret)) m
  | unlocks {ret : Return} : ReadStep s i r (.unlock ret) (.returns i ret) .outside
      { s with ioMutex := none }

inductive WriteStep (s : State I F) (i : I) (w : WriteCall F) :
    WritePhase → Event I → Phase F → State I F → Prop where
  | interrupted : w.nonblock = false →
      WriteStep s i w .down (.returns i (.failed (.code ⟨-ERESTARTSYS, by decide⟩))) .outside s
  | again : w.nonblock = true → s.limitSem = 0 →
      WriteStep s i w .down (.returns i (.failed (.code ⟨-EAGAIN, by decide⟩))) .outside s
  | down {n : Nat} : s.limitSem = n + 1 →
      WriteStep s i w .down .internal (.writing w .errors) { s with limitSem := n }
  | noError : s.errLock = none → s.errors = none →
      WriteStep s i w .errors (.loads i) (.writing w .allocUrb) s
  | error {e : Err} : s.errLock = none → s.errors = some e →
      WriteStep s i w .errors (.loads i) (.writing w (.clear e)) { s with errLock := some i }
  | clears {e : Err} : WriteStep s i w (.clear e) (.clears i (some e) s.errors)
      (.writing w (.up (.stored e))) { s with errors := none, errLock := none }
  | noUrb : WriteStep s i w .allocUrb .internal
      (.writing w (.up (.code ⟨-ENOMEM, by decide⟩))) s
  | urb : WriteStep s i w .allocUrb .internal (.writing w .allocCoherent) s
  | noBuffer : WriteStep s i w .allocCoherent .internal
      (.writing w (.freeCoherent none (.code ⟨-ENOMEM, by decide⟩))) s
  | buffer : WriteStep s i w .allocCoherent .internal (.writing w (.copyFromUser s.nextBuf))
      { s with nextBuf := s.nextBuf + 1 }
  | faults {b : Nat} : WriteStep s i w (.copyFromUser b) .internal
      (.writing w (.freeCoherent (some b) (.code ⟨-EFAULT, by decide⟩))) s
  | copied {b : Nat} : WriteStep s i w (.copyFromUser b) .internal (.writing w (.mutexLock b)) s
  | locks {b : Nat} : s.ioMutex = none →
      WriteStep s i w (.mutexLock b) .internal (.writing w (.disconnected b))
        { s with ioMutex := some (.call i) }
  | gone {b : Nat} : s.disconnected = true → WriteStep s i w (.disconnected b) .internal
      (.writing w (.unlockError b ⟨-ENODEV, by decide⟩)) s
  | present {b : Nat} : s.disconnected = false →
      WriteStep s i w (.disconnected b) .internal (.writing w (.submit b)) s
  | submits {b : Nat} : WriteStep s i w (.submit b) (.startsWrite b) (.writing w .unlock)
      { s with transfer := update s.transfer b (.inFlight (w.data.take w.writesize)) }
  | submitFails {b : Nat} (code : Errno) :
      WriteStep s i w (.submit b) (.startsWrite b) (.writing w (.unlockError b code)) s
  | unlocks : WriteStep s i w .unlock (.returns i (.done w.writesize)) .outside
      { s with ioMutex := none }
  | unlocksError {b : Nat} {code : Errno} : WriteStep s i w (.unlockError b code) .internal
      (.writing w (.freeCoherent (some b) (.code code))) { s with ioMutex := none }
  | frees {b : Nat} {why : Failure} : WriteStep s i w (.freeCoherent (some b) why) .internal
      (.writing w (.up why)) { s with frees := update s.frees b (s.frees b + 1) }
  | freesNull {why : Failure} :
      WriteStep s i w (.freeCoherent none why) .internal (.writing w (.up why)) s
  | up {why : Failure} : WriteStep s i w (.up why) (.returns i (.failed why)) .outside
      { s with limitSem := s.limitSem + 1 }

inductive FlushStep (s : State I F) (i : I) (f : F) :
    FlushPhase → Event I → Phase F → State I F → Prop where
  | locks : s.ioMutex = none → FlushStep s i f .mutexLock .internal (.flushing f .waitAnchor)
      { s with ioMutex := some (.call i) }
  | anchorEmpty : (∀ b, s.transfer b = .idle) →
      FlushStep s i f .waitAnchor .internal (.flushing f .killUrb) s
  | killed : s.readUrb = none → FlushStep s i f .killUrb .internal (.flushing f .errors) s
  | loads : s.errLock = none → FlushStep s i f .errors (.loads i) (.flushing f (.clear s.errors))
      { s with errLock := some i }
  | clears {e : Option Err} : FlushStep s i f (.clear e) (.clears i e s.errors)
      (.flushing f (.unlock e)) { s with errors := none, errLock := none }
  | unlocks {e : Option Err} : FlushStep s i f (.unlock e) (.returns i (flushResult e)) .outside
      { s with ioMutex := none }

def Phase.uses : Phase F → Option F
  | .reading r _ => some r.file
  | .writing w _ => some w.file
  | .flushing f _ => some f
  | _ => none

/-- A call begins. `usb_open` looks up the minor; reads, writes and flushes need an
open file, and the last reference to one is dropped when no call uses it any more. -/
inductive Enters [DecidableEq F] (s : State I F) (i : I) : Phase F → State I F → Prop where
  | opens {f : F} : s.minor = true → s.file f = .absent →
      Enters s i (.opening f .findInterface) { s with file := update s.file f (.opening i) }
  | reads {r : ReadCall F} : s.file r.file = .opened → Enters s i (.reading r .mutexLock) s
  | writes {w : WriteCall F} : s.file w.file = .opened → Enters s i (.writing w .down) s
  | flushes {f : F} : s.file f = .opened → Enters s i (.flushing f .mutexLock) s
  | closes {f : F} : s.file f = .opened → (∀ j, (s.thread j).uses ≠ some f) →
      Enters s i (.closing f .autopmPut) { s with file := update s.file f (.closing i) }

/-- The completion handlers. `stored` is the error a status other than 0 puts into
`errors`; after it the receive buffer may hold anything. -/
inductive DeviceStep (s : State I F) : Event I → State I F → Prop where
  | readCompletes {n : Nat} {data : List UInt8} : s.readUrb = some n → s.errLock = none →
      data.length ≤ n →
      DeviceStep s (.delivers data) { s with
        bulkInBuffer := Bytes.patch s.bulkInBuffer 0 data
        bulkInFilled := data.length
        ongoingRead := false
        readUrb := none }
  | readFails {n : Nat} {buffer : List UInt8} (status : Errno) : s.readUrb = some n →
      s.errLock = none → buffer.length = s.bulkInBuffer.length →
      DeviceStep s (.stores ⟨s.nextErr, status⟩ s.errors) { s with
        bulkInBuffer := buffer
        errors := some ⟨s.nextErr, status⟩
        nextErr := s.nextErr + 1
        ongoingRead := false
        readUrb := none }
  | writeCompletes {b : Nat} {data : List UInt8} : s.transfer b = .inFlight data →
      DeviceStep s .internal { s with transfer := update s.transfer b .completed }
  | writeFails {b : Nat} {data : List UInt8} (status : Errno) : s.transfer b = .inFlight data →
      s.errLock = none →
      DeviceStep s (.stores ⟨s.nextErr, status⟩ s.errors) { s with
        errors := some ⟨s.nextErr, status⟩
        nextErr := s.nextErr + 1
        transfer := update s.transfer b .completed }
  | frees {b : Nat} : s.transfer b = .completed →
      DeviceStep s .internal { s with
        transfer := update s.transfer b .freed
        frees := update s.frees b (s.frees b + 1) }
  | up {b : Nat} : s.transfer b = .freed →
      DeviceStep s .internal { s with
        transfer := update s.transfer b .idle
        limitSem := s.limitSem + 1 }

/-- skel_probe and skel_disconnect. A failed `usb_register_dev` has registered no minor;
`usb_deregister_dev` waits for the opens under way; `usb_kill_urb`, and
`usb_kill_anchored_urbs` for each write URB, return when the completion handler has. -/
inductive CoreStep (s : State I F) : Event I → State I F → Prop where
  | noMemory : s.core = .kzalloc → CoreStep s .internal { s with core := .noMemory }
  | kzalloc : s.core = .kzalloc →
      CoreStep s .internal
        { s with core := .findEndpoints, kref := 1, limitSem := WRITES_IN_FLIGHT }
  | noEndpoints : s.core = .findEndpoints → CoreStep s .internal { s with core := .error }
  | endpoints (size : Nat) : s.core = .findEndpoints →
      CoreStep s .internal { s with core := .allocBuffer, bulkInSize := size }
  | noBuffer : s.core = .allocBuffer → CoreStep s .internal { s with core := .error }
  | buffer {bytes : List UInt8} : s.core = .allocBuffer → bytes.length = s.bulkInSize →
      CoreStep s .internal { s with core := .allocUrb, bulkInBuffer := bytes }
  | noUrb : s.core = .allocUrb → CoreStep s .internal { s with core := .error }
  | urb : s.core = .allocUrb → CoreStep s .internal { s with core := .setIntfdata }
  | setIntfdata : s.core = .setIntfdata →
      CoreStep s .internal { s with core := .registerDev, intfdata := true }
  | registerFails : s.core = .registerDev →
      CoreStep s .internal { s with core := .clearIntfdata }
  | clearIntfdata : s.core = .clearIntfdata →
      CoreStep s .internal { s with core := .error, intfdata := false }
  | error : s.core = .error → CoreStep s .internal (krefPut { s with core := .failed })
  | registerDev : s.core = .registerDev →
      CoreStep s .internal { s with core := .bound, minor := true }
  | disconnect : s.core = .bound →
      CoreStep s .internal { s with core := .deregisterDev, intfdata := false }
  | deregisterDev : s.core = .deregisterDev → (∀ i f p, s.thread i ≠ .opening f p) →
      CoreStep s .internal { s with core := .mutexLock, minor := false }
  | mutexLock : s.core = .mutexLock → s.ioMutex = none →
      CoreStep s .internal { s with core := .setDisconnected, ioMutex := some .core }
  | setDisconnected : s.core = .setDisconnected →
      CoreStep s .disconnects { s with core := .mutexUnlock, disconnected := true }
  | mutexUnlock : s.core = .mutexUnlock →
      CoreStep s .internal { s with core := .killUrb, ioMutex := none }
  | killUrb : s.core = .killUrb → s.readUrb = none →
      CoreStep s .internal { s with core := .killAnchored }
  | killAnchored : s.core = .killAnchored → (∀ b, s.transfer b = .idle) →
      CoreStep s .internal { s with core := .krefPut }
  | krefPut : s.core = .krefPut → CoreStep s .internal (krefPut { s with core := .gone })

inductive Step [DecidableEq I] [DecidableEq F] (s : State I F) : Event I → State I F → Prop where
  | enters {i : I} {q : Phase F} {m : State I F} : s.thread i = .outside → Enters s i q m →
      Step s .internal { m with thread := update s.thread i q }
  | empty {i : I} {f : F} : s.thread i = .outside → s.file f = .opened →
      Step s (.returns i (.done 0)) s
  | opening {i : I} {f : F} {p : OpenPhase} {e : Event I} {q : Phase F} {m : State I F} :
      s.thread i = .opening f p → OpenStep s i f p e q m →
      Step s e { m with thread := update s.thread i q }
  | reading {i : I} {r : ReadCall F} {p : ReadPhase} {e : Event I} {q : Phase F}
      {m : State I F} : s.thread i = .reading r p → ReadStep s i r p e q m →
      Step s e { m with thread := update s.thread i q }
  | writing {i : I} {w : WriteCall F} {p : WritePhase} {e : Event I} {q : Phase F}
      {m : State I F} : s.thread i = .writing w p → WriteStep s i w p e q m →
      Step s e { m with thread := update s.thread i q }
  | flushing {i : I} {f : F} {p : FlushPhase} {e : Event I} {q : Phase F} {m : State I F} :
      s.thread i = .flushing f p → FlushStep s i f p e q m →
      Step s e { m with thread := update s.thread i q }
  | closing {i : I} {f : F} {p : ReleasePhase} {e : Event I} {q : Phase F} {m : State I F} :
      s.thread i = .closing f p → ReleaseStep s i f p e q m →
      Step s e { m with thread := update s.thread i q }
  | device {e : Event I} {t : State I F} : DeviceStep s e t → Step s e t
  | core {e : Event I} {t : State I F} : CoreStep s e t → Step s e t

end MadDriver.Skel

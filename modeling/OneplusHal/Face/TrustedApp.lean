import OneplusHal.Face.SharedBuffer
import OneplusHal.Lib.Ledger

/-!
The sessions with the faceapp trusted app, and the ION memory that is shared with it.

A session is started with five attempts on each of the two paths of the app; a handle that comes
without a buffer or with an error is shut down at once. `AuthTee` holds one session for the SDK
and relays its requests through two buffers of ION memory; `FaceTee` holds two, one for the
feature and one for the frames. Whatever the system hands out is numbered, and the log keeps what
became of it.
-/

namespace OneplusHal.Face.TrustedApp

open Raster Raster.Buffer Bytes

/-- What the app finds when it is asked: the command in the buffer of the session, the descriptors
that the driver patches into it, each with its offset, and the memory behind the first one. -/
structure Exchange where
  cmd : List UInt8
  ifd : List (ℕ × ℕ)
  request : Buffer UInt8

/-- The sessions: the one of `AuthTee`, and the two of `FaceTee`. -/
inductive Role
  | sdk
  | feature
  | frame
  deriving DecidableEq

/-- Which session is started or shut down is a ghost. -/
inductive TeeEvent
  | startApp (role : Role) (path : String) (handle : Option ℕ)
  | shutdownApp (role : Role) (handle : ℕ)
  | usleep
  | sendCmd (handle : ℕ) (cmd : SharedBuffer.Command)
  | sendModifiedCmd (handle : ℕ) (requestFd responseFd : ℕ) (x : Exchange)
  | ionOpen (ion : Option ℕ)
  | ionAlloc (ion : ℕ) (size : UInt64) (heapMask : UInt32) (fd : Option ℕ)
  | mmap (fd : ℕ) (data : Option ℕ)
  | syncStart (fd : ℕ)
  | syncEnd (fd : ℕ)
  | memcpy (data : ℕ)
  | munmap (data : ℕ)
  | close (fd : ℕ)
  | ionClose (ion : ℕ)

/-- What the processes of the system see. -/
structure Tee where
  /-- the number of the next handle, client, descriptor or mapping -/
  next : ℕ := 0
  log : List TeeEvent := []
  /-- `mask` of `qseecomHeapMask`, once it has been looked up -/
  heapMask : Option UInt32 := none

namespace Tee

def emit (e : TeeEvent) (s : Tee) : Tee := { s with log := s.log ++ [e] }

/-- The system hands something out, or not. -/
def handOut (event : Option ℕ → TeeEvent) (ok : Bool) (s : Tee) : Option ℕ × Tee :=
  if ok then (some s.next, { s with next := s.next + 1 }.emit (event (some s.next)))
  else (none, s.emit (event none))

end Tee

/-! ### Starting the app -/

def kAppPaths : List String := ["/vendor/etc/faceunlock", "/vendor/firmware_mnt/image"]

/-- What `QSEECom_start_app` answers: its result, and whether there is a handle, with a buffer or
without one. -/
structure StartAnswer where
  ret : Int32
  handle : Option Bool

def StartAnswer.usable (answer : StartAnswer) : Bool :=
  answer.ret = 0 && answer.handle = some true

/-- The answers to the attempts on the paths. -/
abbrev StartIO : Type := ℕ → String → StartAnswer

/-- One attempt on one path. -/
def startAt (role : Role) (path : String) (answer : StartAnswer) (s : Tee) : Option ℕ × Tee :=
  let started := s.handOut (.startApp role path) answer.handle.isSome
  match started.1 with
  | none => (none, started.2)
  | some handle =>
      if answer.usable then (some handle, started.2)
      else (none, started.2.emit (.shutdownApp role handle))

/-- The inner loop, over the paths. -/
def startPaths (role : Role) (answer : String → StartAnswer) : List String → Tee → Option ℕ × Tee
  | [], s => (none, s)
  | path :: rest, s =>
      let started := startAt role path (answer path) s
      match started.1 with
      | some handle => (some handle, started.2)
      | none => startPaths role answer rest started.2

/-- The outer loop, over the attempts; `sleeps` says after which of them the thread sleeps. -/
def startAttempts (role : Role) (sleeps : ℕ → Bool) (io : StartIO) :
    List ℕ → Tee → Option ℕ × Tee
  | [], s => (none, s)
  | attempt :: rest, s =>
      let started := startPaths role (io attempt) kAppPaths s
      match started.1 with
      | some handle => (some handle, started.2)
      | none =>
          startAttempts role sleeps io rest
            (if sleeps attempt then started.2.emit .usleep else started.2)

def kMaxAttempts : ℕ := 5

/-! ### The two clients -/

/-- The statics of `AuthTee`. -/
structure AuthSession where
  sStartApp : Bool := false
  sHandle : Option ℕ := none

namespace AuthSession

/-- `open` is a keyword, hence the name; `load` says that the library is there with its symbols. -/
def openTee (load : Bool) (io : StartIO) (a : AuthSession) (s : Tee) : Bool × AuthSession × Tee :=
  if a.sHandle.isSome then (true, a, s)
  else
    let a := { a with sStartApp := a.sStartApp || load }
    if !a.sStartApp then (false, a, s)
    else
      let started := startAttempts .sdk (fun _ => true) io (List.range' 1 5) s
      (started.1.isSome, { a with sHandle := started.1 }, started.2)

def close (a : AuthSession) (s : Tee) : AuthSession × Tee :=
  match a.sHandle with
  | none => (a, s)
  | some handle => ({ a with sHandle := none }, s.emit (.shutdownApp .sdk handle))

end AuthSession

/-- A `FaceTee`. -/
structure FaceSessions where
  mLib : Bool := false
  mFeatureHandle : Option ℕ := none
  mFrameHandle : Option ℕ := none

namespace FaceSessions

def start (role : Role) (io : StartIO) (handle : Option ℕ) (s : Tee) : Option ℕ × Tee :=
  match handle with
  | some handle => (some handle, s)
  | none =>
      startAttempts role (fun attempt => attempt < kMaxAttempts) io
        (List.range' 1 kMaxAttempts) s

/-- `open` is a keyword, hence the name. -/
def openTee (load : Bool) (feature frame : StartIO) (f : FaceSessions) (s : Tee) :
    Bool × FaceSessions × Tee :=
  let f := { f with mLib := f.mLib || load }
  if !f.mLib then (false, f, s)
  else
    let started := start .feature feature f.mFeatureHandle s
    let f := { f with mFeatureHandle := started.1 }
    if started.1.isNone then (false, f, started.2)
    else
      let started := start .frame frame f.mFrameHandle started.2
      (started.1.isSome, { f with mFrameHandle := started.1 }, started.2)

def handle (cmd : SharedBuffer.Command) (f : FaceSessions) : Option ℕ :=
  match cmd with
  | .saveFeature | .compareFeature | .removeFeature => f.mFeatureHandle
  | .saveFrame | .removeFrame => f.mFrameHandle

/-- A command opens the sessions first, and gives up if that fails. -/
def command (cmd : SharedBuffer.Command) (load : Bool) (feature frame : StartIO)
    (f : FaceSessions) (s : Tee) : FaceSessions × Tee :=
  let opened := f.openTee load feature frame s
  match opened.1, opened.2.1.handle cmd with
  | true, some handle => (opened.2.1, opened.2.2.emit (.sendCmd handle cmd))
  | _, _ => opened.2

def shutdown (role : Role) (handle : Option ℕ) (s : Tee) : Tee :=
  match handle with
  | none => s
  | some handle => s.emit (.shutdownApp role handle)

/-- `~FaceTee` -/
def destroy (f : FaceSessions) (s : Tee) : Tee :=
  shutdown .frame f.mFrameHandle (shutdown .feature f.mFeatureHandle s)

end FaceSessions

/-! ### ION memory -/

/-- What ION says of the heaps: whether it can be opened, and their names and ids, if it can be
asked for them. The ids are below 32. -/
structure HeapIO where
  ionOpen : Bool
  heaps : Option (List (String × UInt32))

def kLegacyMask : UInt32 := (1 : UInt32) <<< 27

/-- The bit of the first heap of the first name that there is. -/
def findHeap (heaps : List (String × UInt32)) : Option UInt32 :=
  ["qsecom_ta", "qsecom"].findSome? fun name =>
    (heaps.find? fun heap => heap.1 = name).map fun heap => (1 : UInt32) <<< heap.2

def qseecomHeapMask (io : HeapIO) (s : Tee) : UInt32 × Tee :=
  match s.heapMask with
  | some mask => (mask, s)
  | none =>
      let opened := s.handOut .ionOpen io.ionOpen
      match opened.1 with
      | none => (kLegacyMask, { opened.2 with heapMask := some kLegacyMask })
      | some ion =>
          let mask := (io.heaps.bind findHeap).getD kLegacyMask
          (mask, { opened.2.emit (.ionClose ion) with heapMask := some mask })

/-- How the steps of an allocation turn out; `memory` is what the pages hold. -/
structure AllocIO where
  ionOpen : Bool
  heap : HeapIO
  ionAlloc : Bool
  mmap : Bool
  sync : Bool
  memory : ℕ → UInt8

structure IonBuffer where
  mIon : Option ℕ := none
  mFd : Option ℕ := none
  mData : Option ℕ := none
  mSize : UInt64 := 0
  mLen : UInt32 := 0
  /-- the memory behind `mData` -/
  memory : Buffer UInt8 := { cells := [] }

/-- `(len + 0xfff) & ~size_t(0xfff)` -/
def pageAlign (len : UInt64) : UInt64 := (len + 0xfff) &&& ~~~0xfff

def pages (memory : ℕ → UInt8) (size : ℕ) : Buffer UInt8 :=
  { cells := (List.range size).map memory }

namespace IonBuffer

/-- `alloc`, on a buffer that nothing was allocated for yet. -/
def alloc (io : AllocIO) (len : UInt64) (s : Tee) : Bool × IonBuffer × Tee :=
  let size := pageAlign len
  let b : IonBuffer := { mSize := size, mLen := len.toUInt32 }
  let opened := s.handOut .ionOpen io.ionOpen
  match opened.1 with
  | none => (false, b, opened.2)
  | some ion =>
      let b := { b with mIon := some ion }
      let mask := qseecomHeapMask io.heap opened.2
      let allocated := mask.2.handOut (.ionAlloc ion size mask.1) io.ionAlloc
      match allocated.1 with
      | none => (false, b, allocated.2)
      | some fd =>
          let b := { b with mFd := some fd }
          let mapped := allocated.2.handOut (.mmap fd) io.mmap
          match mapped.1 with
          | none => (false, b, mapped.2)
          | some data =>
              (io.sync, { b with mData := some data, memory := pages io.memory size.toNat },
                mapped.2.emit (.syncStart fd))

/-- `~IonBuffer`; a buffer that is mapped has its descriptor. -/
def destroy (b : IonBuffer) (s : Tee) : Tee :=
  let s :=
    match b.mData, b.mFd with
    | some data, some fd => (s.emit (.syncEnd fd)).emit (.munmap data)
    | _, _ => s
  let s :=
    match b.mFd with
    | some fd => s.emit (.close fd)
    | none => s
  match b.mIon with
  | some ion => s.emit (.ionClose ion)
  | none => s

end IonBuffer

/-! ### Relaying a request -/

/-- The bytes of a `Command`; the addresses are for the driver to patch in. -/
def command (requestLen responseLen : UInt32) : List UInt8 :=
  List.replicate 8 0 ++ wordBytes requestLen ++ List.replicate 4 0 ++
    (List.replicate 8 0 ++ wordBytes responseLen ++ List.replicate 4 0)

/-- How relaying a request turns out: the two allocations, the result of the transport, and what
the app writes to its status and to the response buffer. -/
structure CommunicateIO where
  request : AllocIO
  response : AllocIO
  ret : Int32
  status : Option Int32
  answer : ℕ → UInt8

/-- What the caller gets: the result, and its buffer. -/
structure Reply where
  result : Int32
  rsp : Buffer UInt8

/-- An `int` that is not negative, as a `size_t`. -/
def sizeOfInt (len : Int32) : UInt64 := UInt64.ofNat len.toInt.toNat

/-- `AuthTee::communicate` once both buffers are allocated, up to their destruction. -/
def relay (io : CommunicateIO) (handle : ℕ) (send : List UInt8) (sendLen rspLen : Int32)
    (rsp : Buffer UInt8) (request response : IonBuffer) (s : Tee) : Option (Reply × Tee) :=
  match request.mFd, request.mData, response.mFd, response.mData with
  | some requestFd, some requestData, some responseFd, some responseData => do
      let memory ← request.memory.memcpy 0 send 0 sendLen.toInt.toNat
      let x : Exchange :=
        { cmd := command request.mLen response.mLen
          ifd := [(requestFd, 0), (responseFd, 16)]
          request := memory }
      let s := (s.emit (.memcpy requestData)).emit (.sendModifiedCmd handle requestFd responseFd x)
      if io.ret ≠ 0 then return ({ result := -1, rsp := rsp }, s)
      else
        let answer := pages io.answer response.mSize.toNat
        let status := io.status.getD 0
        if rspLen ≠ 0 then
          let rsp ← rsp.memcpy 0 answer.cells 0 rspLen.toInt.toNat
          return ({ result := status, rsp := rsp }, s.emit (.memcpy responseData))
        else return ({ result := status, rsp := rsp }, s)
  | _, _, _, _ => none

/-- `AuthTee::communicate`. A buffer that was allocated is destroyed on every way out, the response
first. An access outside of the memory of a buffer is undefined. -/
def communicate (io : CommunicateIO) (send : List UInt8) (sendLen : Int32) (rspLen : Int32)
    (rsp : Buffer UInt8) (a : AuthSession) (s : Tee) : Option (Reply × Tee) :=
  match a.sHandle with
  | none => some ({ result := -1, rsp := rsp }, s)
  | some handle =>
      if sendLen ≤ 0 ∨ rspLen < 0 then some ({ result := -1, rsp := rsp }, s)
      else
        let request := IonBuffer.alloc io.request (sizeOfInt sendLen) s
        if !request.1 then
          some ({ result := -1, rsp := rsp }, request.2.1.destroy request.2.2)
        else
          let response := IonBuffer.alloc io.response
            (if rspLen ≠ 0 then sizeOfInt rspLen else 4) request.2.2
          if !response.1 then
            some ({ result := -1, rsp := rsp },
              request.2.1.destroy (response.2.1.destroy response.2.2))
          else do
            let relayed ← relay io handle send sendLen rspLen rsp request.2.1 response.2.1
              response.2.2
            return (relayed.1, request.2.1.destroy (response.2.1.destroy relayed.2))

end OneplusHal.Face.TrustedApp

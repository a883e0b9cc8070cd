import OneplusHal.Fingerprint.Messages
import OneplusHal.Lib.Machine
import OneplusHal.Lib.Threads

/-!
The fingerprint HAL. It serves the calls of the framework on one binder thread, and hears the
messages of the vendor's module on the threads of that module, one at a time for the mutex of the
client callback.

Every effect of a call is an action of its own, so that the two threads interleave at each write
to the panel, each status for the vendor's service and each call of the fingerprint device. What a
node, a status or a member holds is what was written to it last.
-/

namespace OneplusHal.Fingerprint

inductive Thread
  | binder
  | vendor
  deriving DecidableEq

/-- The nodes under `/sys/class/drm/card0-DSI-1`. -/
inductive Node
  | authStatus
  | notifyDim
  | notifyPress
  | powerStatus
  deriving DecidableEq

@[simp] def OP_ENABLE_FP_LONGPRESS : ℕ := 3
@[simp] def OP_DISABLE_FP_LONGPRESS : ℕ := 4
@[simp] def OP_RESUME_FP_ENROLL : ℕ := 8
@[simp] def OP_FINISH_FP_ENROLL : ℕ := 10

def PATH_MAX : ℕ := 4096

/-- The HIDL `RequestStatus` enumeration. -/
inductive RequestStatus
  | sysUnknown
  | sysOk
  | sysEnoent
  | sysEintr
  | sysEio
  | sysEagain
  | sysEnomem
  | sysEacces
  | sysEfault
  | sysEbusy
  | sysEinval
  | sysEnospc
  | sysEtimedout
  deriving DecidableEq

def errorFilter : ℤ → RequestStatus
  | 0 => .sysOk
  | -2 => .sysEnoent
  | -4 => .sysEintr
  | -5 => .sysEio
  | -11 => .sysEagain
  | -12 => .sysEnomem
  | -13 => .sysEacces
  | -14 => .sysEfault
  | -16 => .sysEbusy
  | -22 => .sysEinval
  | -28 => .sysEnospc
  | -110 => .sysEtimedout
  | _ => .sysUnknown

/-- The functions of the `fingerprint_device_t`. -/
inductive DeviceCall
  | preEnroll
  | enroll (hat : List UInt8) (gid timeoutSec : ℕ)
  | postEnroll
  | getAuthenticatorId
  | cancel
  | enumerate
  | remove (gid fid : ℕ)
  | setActiveGroup (gid : ℕ) (storePath : String)
  | authenticate (operationId gid : ℕ)

inductive Reply
  | void
  | bool (b : Bool)
  | value (v : ℤ)
  | status (s : RequestStatus)

inductive Action (Client : Type*)
  | set (node : Node) (value : ℕ)
  | setCancelled (isCancelled : Bool)
  | updateStatus (status : ℕ)
  | device (call : DeviceCall)
  | callback (client : Client) (message : ClientCallback)
  | reply (r : Reply)

/-- The methods of `IBiometricsFingerprint`. -/
inductive Call (Client : Type*)
  | setNotify (clientCallback : Option Client)
  | preEnroll
  | enroll (hat : List UInt8) (gid timeoutSec : ℕ)
  | postEnroll
  | getAuthenticatorId
  | cancel
  | enumerate
  | remove (gid fid : ℕ)
  /-- `writable` is what `access` says of the path -/
  | setActiveGroup (gid : ℕ) (storePath : String) (writable : Bool)
  | authenticate (operationId gid : ℕ)
  | isUdfps
  | onFingerDown
  | onFingerUp

variable {Client : Type*}

/-- What a call does, one action after the other. `answer` is what the fingerprint device answers,
and `isCancelled` is read by the thread that alone writes it. -/
def Call.actions (mDevice : ℕ) (isCancelled : Bool) (answer : ℤ) :
    Call Client → List (Action Client)
  | .setNotify _ => [.reply (.value mDevice)]
  | .preEnroll => [.set .powerStatus 1, .device .preEnroll, .reply (.value answer)]
  | .enroll hat gid timeoutSec =>
      [.set .notifyDim 1, .updateStatus OP_DISABLE_FP_LONGPRESS,
        .updateStatus OP_RESUME_FP_ENROLL, .device (.enroll hat gid timeoutSec),
        .reply (.status (errorFilter answer))]
  | .postEnroll =>
      [.set .notifyDim 0, .updateStatus OP_FINISH_FP_ENROLL,
        .updateStatus OP_ENABLE_FP_LONGPRESS, .device .postEnroll,
        .reply (.status (errorFilter answer))]
  | .getAuthenticatorId => [.device .getAuthenticatorId, .reply (.value answer)]
  | .cancel =>
      [.setCancelled true, .set .notifyDim 0, .updateStatus OP_FINISH_FP_ENROLL,
        .updateStatus OP_ENABLE_FP_LONGPRESS, .set .authStatus 2, .device .cancel,
        .reply (.status (errorFilter answer))]
  | .enumerate => [.device .enumerate, .reply (.status (errorFilter answer))]
  | .remove gid fid => [.device (.remove gid fid), .reply (.status (errorFilter answer))]
  | .setActiveGroup gid storePath writable =>
      if PATH_MAX ≤ storePath.utf8ByteSize ∨ storePath.utf8ByteSize ≤ 0 then
        [.reply (.status .sysEinval)]
      else if !writable then [.reply (.status .sysEinval)]
      else [.device (.setActiveGroup gid storePath), .reply (.status (errorFilter answer))]
  | .authenticate operationId gid =>
      .set .powerStatus 1 ::
        (if isCancelled then [.set .notifyDim 1, .set .authStatus 0] else [.set .authStatus 1]) ++
          [.updateStatus OP_ENABLE_FP_LONGPRESS, .device (.authenticate operationId gid),
            .reply (.status (errorFilter answer))]
  | .isUdfps => [.reply (.bool true)]
  | .onFingerDown =>
      [.setCancelled false, .set .notifyDim 1, .set .notifyPress 1, .reply .void]
  | .onFingerUp => [.set .notifyPress 0, .reply .void]

/-- `notify`, once it holds the mutex and has found a client. -/
def notifyActions (mDevice : ℕ) (client : Client) : FingerprintMsg → List (Action Client)
  | .error code =>
      let result := vendorErrorFilter code
      [.callback client (.onError mDevice result.1 result.2), .set .notifyPress 0]
  | .acquired info =>
      let result := vendorAcquiredFilter info
      -- We don't want to inform frameworks about a finger down or up.
      if result.1 = .vendor ∧ result.2 = 0 then []
      else if result.1 = .vendor ∧ result.2 = 1 then []
      else [.callback client (.onAcquired mDevice result.1 result.2)]
  | .templateEnrolling fid gid remaining =>
      [.callback client (.onEnrollResult mDevice fid gid remaining)]
  | .templateRemoved fid gid remaining =>
      [.callback client (.onRemoved mDevice fid gid remaining)]
  | .authenticated fid gid hat =>
      if fid ≠ 0 then
        [.callback client (.onAuthenticated mDevice fid gid hat), .set .notifyPress 0]
      else [.callback client (.onAuthenticated mDevice fid gid [])]
  | .templateEnumerating fid gid remaining =>
      [.callback client (.onEnumerate mDevice fid gid remaining)]
  | .other _ => []

/-- The client that is registered after the call. -/
def Call.clientCallback (registered : Option Client) : Call Client → Option Client
  | .setNotify clientCallback => clientCallback
  | _ => registered

/-! ### What an action writes -/

namespace Action

@[simp] def node (n : Node) : Action Client → Option ℕ
  | .set m value => if m = n then some value else none
  | _ => none

@[simp] def cancelled? : Action Client → Option Bool
  | .setCancelled isCancelled => some isCancelled
  | _ => none

/-- Whether a long press is enabled. -/
@[simp] def longPress? : Action Client → Option Bool
  | .updateStatus status =>
      if status = OP_ENABLE_FP_LONGPRESS then some true
      else if status = OP_DISABLE_FP_LONGPRESS then some false
      else none
  | _ => none

/-- Whether an enrollment is going on. -/
@[simp] def enrolling? : Action Client → Option Bool
  | .updateStatus status =>
      if status = OP_RESUME_FP_ENROLL then some true
      else if status = OP_FINISH_FP_ENROLL then some false
      else none
  | _ => none

@[simp] def callback? : Action Client → Option (Client × ClientCallback)
  | .callback client message => some (client, message)
  | _ => none

end Action

/-! ### The machine -/

structure BiometricsFingerprint (Client : Type*) where
  /-- the address of the fingerprint device, which the HAL has opened -/
  mDevice : ℕ
  mClientCallback : Option Client := none
  threads : Threads Thread (Action Client) := ⟨fun _ => [], []⟩

inductive Input (Client : Type*)
  /-- the framework calls, and the fingerprint device would answer -/
  | call (c : Call Client) (answer : ℤ)
  | notify (msg : FingerprintMsg)
  | advance (t : Thread)

namespace BiometricsFingerprint

def idle (t : Thread) (b : BiometricsFingerprint Client) : Bool := (b.threads.pending t).isEmpty

def isCancelled (b : BiometricsFingerprint Client) : Bool :=
  (b.threads.written Action.cancelled?).getD false

/-- A call waits until the binder thread has replied to the one before it, and a message until the
one before it is dealt with. `setNotify` waits for the mutex that the vendor's thread holds. -/
def accepts (b : BiometricsFingerprint Client) : Input Client → Bool
  | .call (.setNotify _) _ => b.idle .binder && b.idle .vendor
  | .call _ _ => b.idle .binder
  | .notify _ => b.idle .vendor
  | .advance _ => true

def notify (b : BiometricsFingerprint Client) (msg : FingerprintMsg) : List (Action Client) :=
  match b.mClientCallback with
  -- Receiving callbacks before the client callback is registered.
  | none => []
  | some client => notifyActions b.mDevice client msg

/-- What an input that is accepted does. -/
def take (b : BiometricsFingerprint Client) : Input Client → BiometricsFingerprint Client
  | .call c answer =>
      { b with
        mClientCallback := c.clientCallback b.mClientCallback
        threads := b.threads.start .binder (c.actions b.mDevice b.isCancelled answer) }
  | .notify msg => { b with threads := b.threads.start .vendor (b.notify msg) }
  | .advance t => { b with threads := b.threads.advance t }

def step (b : BiometricsFingerprint Client) (i : Input Client) : BiometricsFingerprint Client :=
  if b.accepts i then b.take i else b

/-- The calls of the clients that were made, in order. -/
def delivered (b : BiometricsFingerprint Client) : List (Client × ClientCallback) :=
  b.threads.log.filterMap fun e => e.2.callback?

/-- The calls of clients that are still to be made. -/
def inFlight (b : BiometricsFingerprint Client) : List (Client × ClientCallback) :=
  (b.threads.pending .vendor).filterMap Action.callback?

end BiometricsFingerprint

end OneplusHal.Fingerprint

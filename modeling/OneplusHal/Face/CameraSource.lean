import Mathlib.Logic.Function.Basic
import OneplusHal.Face.Callback

/-!
The camera source. Image callbacks leave the latest frame in a one-place mailbox from
which `nextFrame` takes it; `start` and `stop` acquire and release the NDK objects.

`acquired` and `released` are ghosts that count, for every kind of NDK object, how many
were obtained and given back.
-/

namespace OneplusHal.Face

def kWidth : ℕ := 640
def kHeight : ℕ := 480

/-- Time on the steady clock, in nanoseconds. -/
abbrev Time := ℕ

/-- The NDK objects the camera source owns, one pointer for each. -/
inductive CameraResource
  | preview
  | device
  | reader
  | outputs
  | sessionOutput
  | target
  | request
  | session
  deriving DecidableEq

structure CameraSource where
  mCameraId : Bytes := []
  mSensorOrientation : Int := 270
  /-- the pointers that are not null -/
  held : CameraResource → Bool := fun _ => false
  mFrame : Nv21 := []
  mFrameAvailable : Bool := false
  mFailed : Bool := false
  acquired : CameraResource → ℕ := fun _ => 0
  released : CameraResource → ℕ := fun _ => 0

/-- A camera of `ACameraManager_getCameraIdList`. `front` says that its characteristics
could be read and name a front camera. -/
structure CameraInfo where
  id : Bytes
  front : Bool
  orientation : Option Int

/-- How the NDK calls made by `start` turn out; `cameras` is `none` when the cameras
cannot be listed. -/
structure StartIO where
  cameras : Option (List CameraInfo)
  openCamera : Bool
  reader : Bool
  outputs : Bool
  sessionOutput : Bool
  request : Bool
  target : Bool
  session : Bool
  repeating : Bool

/-- A callback of the camera service. -/
inductive CameraEvent
  /-- `onImageAvailable`; `none` when no image could be acquired or copied. -/
  | imageAvailable (nv21 : Option Nv21)
  | disconnected
  | error (code : Int)
  deriving DecidableEq

namespace CameraSource

/-! ### The mailbox -/

def onImageAvailable (nv21 : Option Nv21) (c : CameraSource) : CameraSource :=
  match nv21 with
  | none => c
  | some frame => { c with mFrame := frame, mFrameAvailable := true }

def onDisconnected (c : CameraSource) : CameraSource := { c with mFailed := true }

def onError (_code : Int) (c : CameraSource) : CameraSource := { c with mFailed := true }

def deliver (c : CameraSource) : CameraEvent → CameraSource
  | .imageAvailable nv21 => c.onImageAvailable nv21
  | .disconnected => c.onDisconnected
  | .error code => c.onError code

/-- The mailbox holds a frame that `nextFrame` hands out without waiting. -/
def frameWaiting (c : CameraSource) : Bool := c.mFrameAvailable && !c.mFailed

/-- Take the waiting frame; the moved-from buffer is empty. -/
def takeFrame (c : CameraSource) : CameraSource :=
  { c with mFrame := [], mFrameAvailable := false }

/-! ### Start and stop -/

/-- Obtain an NDK object, or leave its pointer as it was. -/
def acquire (c : CameraSource) (r : CameraResource) (ok : Bool) : CameraSource :=
  if ok then
    { c with
      held := Function.update c.held r true
      acquired := Function.update c.acquired r (c.acquired r + 1) }
  else c

/-- Free an NDK object and clear its pointer; freeing null does nothing. -/
def release (c : CameraSource) (r : CameraResource) : CameraSource :=
  if c.held r then
    { c with
      held := Function.update c.held r false
      released := Function.update c.released r (c.released r + 1) }
  else c

def scanCameras : List CameraInfo → CameraSource → CameraSource
  | [], c => c
  | i :: rest, c =>
      if c.mCameraId ≠ [] then c
      else if i.front then
        scanCameras rest
          { c with
            mCameraId := i.id
            mSensorOrientation := i.orientation.getD c.mSensorOrientation }
      else scanCameras rest c

def findFrontCamera (cameras : Option (List CameraInfo)) (c : CameraSource) :
    Bool × CameraSource :=
  if c.mCameraId ≠ [] then (true, c)
  else
    match cameras with
    | none => (false, c)
    | some ids =>
        let c := scanCameras ids c
        (c.mCameraId ≠ [], c)

/-- The target and the session output are freed only where the request and the output
container exist. -/
def stop (c : CameraSource) : CameraSource :=
  let c := c.release .session
  let c := c.release .device
  let c := if c.held .request then (c.release .target).release .request else c
  let c := if c.held .outputs then (c.release .sessionOutput).release .outputs else c
  let c := c.release .reader
  c.release .preview

def start (preview : Bool) (io : StartIO) (c : CameraSource) : Bool × CameraSource :=
  let found := findFrontCamera io.cameras c
  if !found.1 then (false, found.2)
  else
    let c := found.2.acquire .preview preview
    let c := { c with mFrameAvailable := false, mFailed := false }
    if !io.openCamera then (false, c.stop)
    else
      let c := c.acquire .device true
      if !io.reader then (false, c.stop)
      else
        -- The results of these creations are not looked at.
        let c := ((((c.acquire .reader true).acquire .outputs io.outputs).acquire
          .sessionOutput io.sessionOutput).acquire .request io.request).acquire .target io.target
        if !io.session then (false, c.stop)
        else
          let c := c.acquire .session true
          if !io.repeating then (false, c.stop) else (true, c)

/-! ### What the pointers and the counters become -/

/-- Looking for a front camera sets the camera's id and orientation only. -/
theorem scanCameras_eq (ids : List CameraInfo) (c : CameraSource) :
    ∃ id o, scanCameras ids c = { c with mCameraId := id, mSensorOrientation := o } := by
  induction ids generalizing c with
  | nil => exact ⟨c.mCameraId, c.mSensorOrientation, rfl⟩
  | cons i rest ih =>
      rw [scanCameras]
      split
      · exact ⟨c.mCameraId, c.mSensorOrientation, rfl⟩
      · split
        · exact ih _
        · exact ih c

theorem findFrontCamera_eq (cameras : Option (List CameraInfo)) (c : CameraSource) :
    ∃ id o,
      (findFrontCamera cameras c).2 = { c with mCameraId := id, mSensorOrientation := o } := by
  unfold findFrontCamera
  split
  · exact ⟨c.mCameraId, c.mSensorOrientation, rfl⟩
  · cases cameras with
    | none => exact ⟨c.mCameraId, c.mSensorOrientation, rfl⟩
    | some ids => exact scanCameras_eq ids c

@[simp] theorem held_release (c : CameraSource) (r r' : CameraResource) :
    (c.release r).held r' = if r' = r then false else c.held r' := by
  unfold release
  cases hr : c.held r with
  | true =>
      rw [if_pos rfl]
      exact Function.update_apply _ _ _ _
  | false =>
      rw [if_neg Bool.false_ne_true]
      split
      case isTrue heq => rw [heq, hr]
      case isFalse => rfl

@[simp] theorem acquired_release (c : CameraSource) (r : CameraResource) :
    (c.release r).acquired = c.acquired := by
  unfold release
  split <;> rfl

@[simp] theorem released_release (c : CameraSource) (r r' : CameraResource) :
    (c.release r).released r' =
      if r' = r then c.released r' + (c.held r').toNat else c.released r' := by
  unfold release
  cases hr : c.held r with
  | true =>
      rw [if_pos rfl]
      refine (Function.update_apply _ _ _ _).trans ?_
      split
      case isTrue heq => rw [heq, hr, Bool.toNat_true]
      case isFalse => rfl
  | false =>
      rw [if_neg Bool.false_ne_true]
      split
      case isTrue heq => rw [heq, hr, Bool.toNat_false, Nat.add_zero]
      case isFalse => rfl

/-- Whether `stop` comes to the pointer of this kind. -/
def frees (c : CameraSource) : CameraResource → Bool
  | .target => c.held .request
  | .sessionOutput => c.held .outputs
  | _ => true

theorem held_stop (c : CameraSource) (r : CameraResource) :
    c.stop.held r = (c.held r && !c.frees r) := by
  cases hq : c.held .request <;> cases ho : c.held .outputs <;> cases r <;>
    simp [stop, frees, hq, ho]

@[simp] theorem acquired_stop (c : CameraSource) : c.stop.acquired = c.acquired := by
  simp only [stop, acquired_release, apply_ite CameraSource.acquired, ite_self]

theorem released_stop (c : CameraSource) (r : CameraResource) :
    c.stop.released r = c.released r + (c.held r && c.frees r).toNat := by
  cases hq : c.held .request <;> cases ho : c.held .outputs <;> cases r <;>
    simp [stop, frees, hq, ho]

end CameraSource

end OneplusHal.Face

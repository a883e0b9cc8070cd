import OneplusHal.Face.CameraRounds
import OneplusHal.Lib.Ledger

/-!
The camera source and the objects of the NDK that its pointers refer to.

Every call of the NDK is logged, with the objects that it is given, makes and frees. Objects are
numbered as they are made, and so are the references to a window. A null pointer is no object.

Images come in on a thread of the reader, before any call of `stop` until the reader is deleted.
-/

namespace OneplusHal.Face

open OneplusHal

inductive NdkObject
  | manager (n : ℕ)
  | idList (n : ℕ)
  | metadata (n : ℕ)
  | image (n : ℕ)
  /-- what one of the pointers of the camera source is for -/
  | part (r : CameraResource) (n : ℕ)
  deriving DecidableEq

def NdkObject.number : NdkObject → ℕ
  | .manager n => n
  | .idList n => n
  | .metadata n => n
  | .image n => n
  | .part _ n => n

/-- The calls that only read an image are one, and the window of a reader is the reader's. -/
inductive NdkFunction
  | createManager
  | deleteManager
  | getCameraIdList
  | deleteCameraIdList
  | getCameraCharacteristics
  | getConstEntry
  | freeMetadata
  | acquireLatestImage
  | getPlanes
  | deleteImage
  | setBuffersGeometry
  | lock
  | unlockAndPost
  | setImageListener
  | getWindow
  | addOutput
  | removeOutput
  | addTarget
  | removeTarget
  | setRepeatingRequest
  | stopRepeating
  /-- opens, creates or acquires what the pointer is for -/
  | create (r : CameraResource)
  /-- closes, frees, deletes or releases it -/
  | free (r : CameraResource)
  deriving DecidableEq

structure NdkCall where
  function : NdkFunction
  given : List NdkObject
  made : Option NdkObject := none
  freed : Option NdkObject := none

/-- `lost` is a ghost: what a pointer referred to when it was overwritten. -/
structure CameraHandles where
  mManager : Option ℕ := none
  mCameraId : Bytes := []
  mSensorOrientation : Int := 270
  held : CameraResource → Option ℕ := fun _ => none
  lost : List NdkObject := []
  next : ℕ := 0
  log : List NdkCall := []

/-- A camera of the list: whether its characteristics can be read, whether they say where its lens
faces and that it is the front, and its orientation if they have one. -/
structure CameraAnswer where
  id : Bytes
  readable : Bool
  front : Option Bool
  orientation : Option Int

/-- How the NDK calls made by `start` turn out. -/
structure HandlesIO where
  cameras : Option (List CameraAnswer)
  openCamera : Bool
  reader : Bool
  outputs : Bool
  sessionOutput : Bool
  request : Bool
  target : Bool
  session : Bool
  repeating : Bool

/-- How an image callback goes: whether there is an image, whether it can be copied, and whether
the window can be locked. -/
structure ImageAnswer where
  acquired : Bool
  copied : Bool
  locked : Bool

def CameraAnswer.toInfo (a : CameraAnswer) : CameraInfo where
  id := a.id
  front := a.readable && a.front = some true
  orientation := a.orientation

def HandlesIO.toStartIO (io : HandlesIO) : StartIO where
  cameras := io.cameras.map (List.map CameraAnswer.toInfo)
  openCamera := io.openCamera
  reader := io.reader
  outputs := io.outputs
  sessionOutput := io.sessionOutput
  request := io.request
  target := io.target
  session := io.session
  repeating := io.repeating

namespace CameraHandles

/-! ### Calls -/

def call (f : NdkFunction) (given : List NdkObject) (s : CameraHandles) : CameraHandles :=
  { s with log := s.log ++ [{ function := f, given }] }

def make (f : NdkFunction) (given : List NdkObject) (object : ℕ → NdkObject) (s : CameraHandles) :
    CameraHandles :=
  { s with
    next := s.next + 1
    log := s.log ++ [{ function := f, given, made := some (object s.next) }] }

def free (f : NdkFunction) (o : NdkObject) (s : CameraHandles) : CameraHandles :=
  { s with log := s.log ++ [{ function := f, given := [], freed := some o }] }

/-- The pointer as an argument. -/
def arg (s : CameraHandles) (r : CameraResource) : List NdkObject :=
  (s.held r).toList.map (.part r)

/-- Write to the pointer. -/
def assign (r : CameraResource) (p : Option ℕ) (s : CameraHandles) : CameraHandles :=
  { s with held := Function.update s.held r p, lost := s.lost ++ s.arg r }

/-- A call that is given the address of the pointer, and leaves it alone if it fails. -/
def create (r : CameraResource) (given : List NdkObject) (ok : Bool) (s : CameraHandles) :
    CameraHandles :=
  if ok then (s.make (.create r) given (.part r)).assign r (some s.next)
  else s.call (.create r) given

/-! ### The front camera -/

/-- The turn of the loop for one camera. -/
def look (manager ids : ℕ) (a : CameraAnswer) (s : CameraHandles) : CameraHandles :=
  if !a.readable then s.call .getCameraCharacteristics [.manager manager, .idList ids]
  else
    let chars := s.next
    let s := s.make .getCameraCharacteristics [.manager manager, .idList ids] .metadata
    let s := s.call .getConstEntry [.metadata chars]
    let s :=
      if a.front = some true then
        let s := { s with mCameraId := a.id }.call .getConstEntry [.metadata chars]
        { s with mSensorOrientation := a.orientation.getD s.mSensorOrientation }
      else s
    s.free .freeMetadata (.metadata chars)

def lookAll (manager ids : ℕ) : List CameraAnswer → CameraHandles → CameraHandles
  | [], s => s
  | a :: rest, s => if s.mCameraId ≠ [] then s else lookAll manager ids rest (s.look manager ids a)

/-- `ACameraManager_create` always gives a manager. -/
def createManager (s : CameraHandles) : CameraHandles :=
  match s.mManager with
  | some _ => s
  | none => { s.make .createManager [] .manager with mManager := some s.next }

def findFrontCamera (cameras : Option (List CameraAnswer)) (s : CameraHandles) :
    Bool × CameraHandles :=
  if s.mCameraId ≠ [] then (true, s)
  else
    let s := s.createManager
    let manager := s.mManager.getD 0
    match cameras with
    | none => (false, s.call .getCameraIdList [.manager manager])
    | some answers =>
        let ids := s.next
        let s := s.make .getCameraIdList [.manager manager] .idList
        let s := (lookAll manager ids answers s).free .deleteCameraIdList (.idList ids)
        (s.mCameraId ≠ [], s)

/-! ### Images -/

/-- `onImageAvailable`, and what `renderPreview` does to the window. -/
def onImageAvailable (s : CameraHandles) (a : ImageAnswer) : CameraHandles :=
  if !a.acquired then s.call .acquireLatestImage (s.arg .reader)
  else
    let image := s.next
    let s := s.make .acquireLatestImage (s.arg .reader) .image
    let s := (s.call .getPlanes [.image image]).free .deleteImage (.image image)
    if !a.copied || (s.held .preview).isNone then s
    else
      let s := s.call .lock (s.arg .preview)
      if !a.locked then s else s.call .unlockAndPost (s.arg .preview)

/-- Images come from a reader. -/
def images (as : List ImageAnswer) (s : CameraHandles) : CameraHandles :=
  if (s.held .reader).isSome then as.foldl onImageAvailable s else s

/-! ### Stop

`late` gives the images that come in before a call of a function of the NDK. -/

def callLate (late : NdkFunction → List ImageAnswer) (f : NdkFunction) (given : List NdkObject)
    (s : CameraHandles) : CameraHandles :=
  (s.images (late f)).call f given

/-- Free what the pointer refers to and clear it; freeing null does nothing. -/
def release (late : NdkFunction → List ImageAnswer) (r : CameraResource) (s : CameraHandles) :
    CameraHandles :=
  match s.held r with
  | none => s
  | some n =>
      let s := (s.images (late (.free r))).free (.free r) (.part r n)
      { s with held := Function.update s.held r none }

def stopSession (late : NdkFunction → List ImageAnswer) (s : CameraHandles) : CameraHandles :=
  if (s.held .session).isSome then
    (s.callLate late .stopRepeating (s.arg .session)).release late .session
  else s

def stopRequest (late : NdkFunction → List ImageAnswer) (s : CameraHandles) : CameraHandles :=
  if (s.held .request).isSome then
    ((s.callLate late .removeTarget (s.arg .request ++ s.arg .target)).release late
      .target).release late .request
  else s

def stopOutputs (late : NdkFunction → List ImageAnswer) (s : CameraHandles) : CameraHandles :=
  if (s.held .outputs).isSome then
    ((s.callLate late .removeOutput (s.arg .outputs ++ s.arg .sessionOutput)).release late
      .sessionOutput).release late .outputs
  else s

def stop (late : NdkFunction → List ImageAnswer) (s : CameraHandles) : CameraHandles :=
  let s := s.stopSession late
  let s := s.release late .device
  let s := s.stopRequest late
  let s := s.stopOutputs late
  let s := s.release late .reader
  s.release late .preview

/-- No image comes in before the repeating request is running. -/
def stopEarly (s : CameraHandles) : CameraHandles := s.stop fun _ => []

/-! ### Start -/

def acquirePreview (preview : Bool) (s : CameraHandles) : CameraHandles :=
  if preview then
    let s := s.create .preview [] true
    s.call .setBuffersGeometry (s.arg .preview)
  else s

/-- From the reader to the request. The results of the creations are not looked at. -/
def connect (io : HandlesIO) (s : CameraHandles) : CameraHandles :=
  let s := s.call .setImageListener (s.arg .reader)
  let s := s.call .getWindow (s.arg .reader)
  let s := s.create .outputs [] io.outputs
  let s := s.create .sessionOutput (s.arg .reader) io.sessionOutput
  let s := s.call .addOutput (s.arg .outputs ++ s.arg .sessionOutput)
  let s := s.create .request (s.arg .device) io.request
  let s := s.create .target (s.arg .reader) io.target
  s.call .addTarget (s.arg .request ++ s.arg .target)

/-- `start` once the window is acquired. -/
def openPipeline (io : HandlesIO) (s : CameraHandles) : Bool × CameraHandles :=
  let s := s.create .device (s.mManager.toList.map .manager) io.openCamera
  if !io.openCamera then (false, (s.assign .device none).stopEarly)
  else
    let s := s.create .reader [] io.reader
    if !io.reader then (false, s.stopEarly)
    else
      let s := s.connect io
      let s := s.create .session (s.arg .device ++ s.arg .outputs) io.session
      if !io.session then (false, (s.assign .session none).stopEarly)
      else
        let s := s.call .setRepeatingRequest (s.arg .session ++ s.arg .request)
        if !io.repeating then (false, s.stopEarly) else (true, s)

def start (preview : Bool) (io : HandlesIO) (s : CameraHandles) : Bool × CameraHandles :=
  let found := findFrontCamera io.cameras s
  if !found.1 then (false, found.2) else (found.2.acquirePreview preview).openPipeline io

/-! ### The life of a camera source -/

/-- One `start`, and if it succeeds the images and the `stop`. -/
structure Round where
  preview : Bool
  start : HandlesIO
  images : List ImageAnswer
  late : NdkFunction → List ImageAnswer

def round (s : CameraHandles) (r : Round) : CameraHandles :=
  let started := s.start r.preview r.start
  if started.1 then (started.2.images r.images).stop r.late else started.2

/-- `~CameraSource` -/
def destroy (s : CameraHandles) : CameraHandles :=
  let s := s.stopEarly
  match s.mManager with
  | none => s
  | some n => { s.free .deleteManager (.manager n) with mManager := none }

/-- From the constructor to the destructor. -/
def life (rounds : List Round) : CameraHandles := (Machine.run round {} rounds).destroy

/-! ### What the steps leave alone -/

@[simp] theorem held_call (f : NdkFunction) (given : List NdkObject) (s : CameraHandles) :
    (s.call f given).held = s.held := rfl

@[simp] theorem held_make (f : NdkFunction) (given : List NdkObject) (object : ℕ → NdkObject)
    (s : CameraHandles) : (s.make f given object).held = s.held := rfl

@[simp] theorem held_create (r : CameraResource) (given : List NdkObject) (ok : Bool)
    (s : CameraHandles) (r' : CameraResource) :
    (s.create r given ok).held r' = if r' = r ∧ ok = true then some s.next else s.held r' := by
  unfold create
  cases ok with
  | false => simp
  | true => simp [assign, Function.update_apply]

@[simp] theorem held_acquirePreview (preview : Bool) (s : CameraHandles) (r : CameraResource) :
    (s.acquirePreview preview).held r =
      if r = .preview ∧ preview = true then some s.next else s.held r := by
  cases preview <;> simp [acquirePreview]

@[simp] theorem held_connect_session (io : HandlesIO) (s : CameraHandles) :
    (s.connect io).held .session = s.held .session := by
  simp [connect]

@[simp] theorem mManager_create (r : CameraResource) (given : List NdkObject) (ok : Bool)
    (s : CameraHandles) : (s.create r given ok).mManager = s.mManager := by
  cases ok <;> rfl

/-- Writing null to a pointer that is null. -/
theorem assign_none {r : CameraResource} {s : CameraHandles} (h : s.held r = none) :
    s.assign r none = s := by
  have hself : Function.update s.held r none = s.held := Function.update_eq_self_iff.mpr h.symm
  rw [assign, arg, h, hself]
  simp

/-- A front camera is remembered. -/
theorem look_eq (manager ids : ℕ) (a : CameraAnswer) (s : CameraHandles) :
    ∃ next log, s.look manager ids a =
      { s with
        mCameraId := if a.toInfo.front then a.id else s.mCameraId
        mSensorOrientation :=
          if a.toInfo.front then a.orientation.getD s.mSensorOrientation
          else s.mSensorOrientation
        next
        log } := by
  unfold look CameraAnswer.toInfo
  dsimp only
  cases a.readable with
  | false => exact ⟨_, _, rfl⟩
  | true =>
      by_cases hfront : a.front = some true
      · simp only [hfront]
        exact ⟨_, _, rfl⟩
      · simp only [hfront]
        exact ⟨_, _, rfl⟩

theorem lookAll_eq (manager ids : ℕ) (answers : List CameraAnswer) (s : CameraHandles) :
    ∃ id o next log, lookAll manager ids answers s =
      { s with mCameraId := id, mSensorOrientation := o, next, log } := by
  induction answers generalizing s with
  | nil => exact ⟨s.mCameraId, s.mSensorOrientation, s.next, s.log, rfl⟩
  | cons a rest ih =>
      rw [lookAll]
      split
      · exact ⟨s.mCameraId, s.mSensorOrientation, s.next, s.log, rfl⟩
      · obtain ⟨next, log, heq⟩ := look_eq manager ids a s
        rw [heq]
        exact ih _

theorem findFrontCamera_eq (cameras : Option (List CameraAnswer)) (s : CameraHandles) :
    ∃ m id o next log, (findFrontCamera cameras s).2 =
      { s with mManager := m, mCameraId := id, mSensorOrientation := o, next, log } := by
  have hcreated : ∃ m next log, s.createManager = { s with mManager := m, next, log } := by
    unfold createManager
    split
    · exact ⟨_, _, _, rfl⟩
    · exact ⟨_, _, _, rfl⟩
  obtain ⟨m, next, log, hcreated⟩ := hcreated
  unfold findFrontCamera
  dsimp only
  split
  · exact ⟨_, _, _, _, _, rfl⟩
  · rw [hcreated]
    cases cameras with
    | none => exact ⟨_, _, _, _, _, rfl⟩
    | some answers =>
        dsimp only
        obtain ⟨id, o, next', log', heq⟩ := lookAll_eq (m.getD 0) next answers
          (make .getCameraIdList [.manager (m.getD 0)] .idList
            { s with mManager := m, next, log })
        rw [heq]
        exact ⟨_, _, _, _, _, rfl⟩

@[simp] theorem held_findFrontCamera (cameras : Option (List CameraAnswer))
    (s : CameraHandles) : (findFrontCamera cameras s).2.held = s.held := by
  obtain ⟨m, id, o, next, log, heq⟩ := findFrontCamera_eq cameras s
  rw [heq]

theorem onImageAvailable_eq (s : CameraHandles) (a : ImageAnswer) :
    ∃ next log, s.onImageAvailable a = { s with next, log } := by
  unfold onImageAvailable
  dsimp only
  split
  · exact ⟨_, _, rfl⟩
  · split
    · exact ⟨_, _, rfl⟩
    · split <;> exact ⟨_, _, rfl⟩

theorem images_eq (as : List ImageAnswer) (s : CameraHandles) :
    ∃ next log, s.images as = { s with next, log } := by
  unfold images
  split
  · induction as generalizing s with
    | nil => exact ⟨s.next, s.log, rfl⟩
    | cons a as ih =>
        obtain ⟨next, log, heq⟩ := s.onImageAvailable_eq a
        rw [List.foldl_cons, heq]
        exact ih _ ‹_›
  · exact ⟨s.next, s.log, rfl⟩

@[simp] theorem held_images (as : List ImageAnswer) (s : CameraHandles) :
    (s.images as).held = s.held := by
  obtain ⟨next, log, heq⟩ := s.images_eq as
  rw [heq]

@[simp] theorem mManager_images (as : List ImageAnswer) (s : CameraHandles) :
    (s.images as).mManager = s.mManager := by
  obtain ⟨next, log, heq⟩ := s.images_eq as
  rw [heq]

section Stop

variable (late : NdkFunction → List ImageAnswer) (s : CameraHandles) (r : CameraResource)

@[simp] theorem held_callLate (f : NdkFunction) (given : List NdkObject) :
    (s.callLate late f given).held = s.held :=
  s.held_images (late f)

@[simp] theorem held_release (r' : CameraResource) :
    (s.release late r).held r' = if r' = r then none else s.held r' := by
  unfold release
  split
  case h_1 hr =>
    split
    case isTrue heq => rw [heq, hr]
    case isFalse => rfl
  case h_2 n hr =>
    refine (Function.update_apply _ _ _ _).trans ?_
    simp [free]

@[simp] theorem held_stopSession :
    (s.stopSession late).held r = if r = .session then none else s.held r := by
  unfold stopSession
  split
  · simp
  case isFalse h =>
      split
      case isTrue heq => simpa [heq] using h
      case isFalse => rfl

@[simp] theorem held_stopRequest :
    (s.stopRequest late).held r =
      if r = .request ∨ (r = .target ∧ (s.held .request).isSome = true) then none
      else s.held r := by
  unfold stopRequest
  split
  case isTrue h => cases r <;> simp [h]
  case isFalse h => cases r <;> simp_all

@[simp] theorem held_stopOutputs :
    (s.stopOutputs late).held r =
      if r = .outputs ∨ (r = .sessionOutput ∧ (s.held .outputs).isSome = true) then none
      else s.held r := by
  unfold stopOutputs
  split
  case isTrue h => cases r <;> simp [h]
  case isFalse h => cases r <;> simp_all

end Stop

end CameraHandles

end OneplusHal.Face

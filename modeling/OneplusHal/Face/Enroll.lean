import OneplusHal.Face.Authenticate

/-!
Enrollment, on the cv engine and on st_auth.
-/

namespace OneplusHal.Face

open OneplusHal

structure EnrollIO where
  prepare : PrepareIO
  start : StartIO
  startElapsed : ℕ
  enrollmentId : RandomId
  cv : List (Call CvFrame)
  beginEnroll : BeginEnrollIO
  stAuth : List (Call EnrollAnswer)
  stop : Gap
  store : StoreFeatureIO
  authenticatorId : RandomId
  save : SaveIO
  undo : RemoveFeatureIO

/-- When the loop of an enrollment gives up whose camera starts at `start`. -/
def EnrollIO.deadline (io : EnrollIO) (start : Time) : Time :=
  start + io.startElapsed + kEnrollTimeout

/-- The local variables of the cv loop. `nv21` is the frame fetched last. -/
structure EnrollLocals where
  nv21 : Nv21 := []
  feature : List UInt8 := []
  lastFaceId : Int := -1
  goodFrames : ℕ := 0
  lastInfo : AcquiredInfo := .unknown
  first : Bool := true

def World.reportFirstFrame (w : World) (first : Bool) : World :=
  if first then w.emit (.onEnrollmentFrame .firstFrameReceived .firstFrameReceived) else w

def World.reportEnrollFrame (w : World) (info lastInfo : AcquiredInfo) : World :=
  if info ≠ lastInfo then w.emit (.onEnrollmentFrame info .holdStillInCenter) else w

/-- The acquisition code of one frame. -/
def enrollInfo (a : CvFrame) (nv21 : Nv21) (face : Option DetectedFace) : AcquiredInfo :=
  match face with
  | none => .notDetected
  | some face =>
      let quality := checkQuality a nv21 face
      if quality ≠ .good then quality.toAcquiredInfo
      else if !eyesOpen a then .poorGaze
      else if kSpoofThreshold < spoofScore a then .insufficient
      else .good

/-- The body of the loop of `doEnroll`. -/
def enrollFrame (orientation : FaceOrientation) (enrollmentId : Int32) (f : Fetch) (nv21 : Nv21)
    (a : CvFrame) (p : World × EnrollLocals) : Bool × World × EnrollLocals :=
  let w := p.1.reportFirstFrame p.2.first
  let face := detect a orientation false false
  let w := w.log (.detected f)
  let info := enrollInfo a nv21 face
  let w := w.reportEnrollFrame info p.2.lastInfo
  let x := { p.2 with nv21, lastInfo := info, first := false }
  match if info = .good then face else none with
  | none => (false, w, { x with goodFrames := 0 })
  | some face =>
      -- A different face starts a new run of good frames.
      let x :=
        if face.face.id ≠ x.lastFaceId then { x with lastFaceId := face.face.id, goodFrames := 0 }
        else x
      let x := { x with goodFrames := x.goodFrames + 1 }
      let w := w.log (.counted f a)
      if x.goodFrames < kEnrollFrames then
        (false,
          w.emit (.onEnrollmentProgress enrollmentId ((kEnrollFrames : Int) - x.goodFrames)), x)
      else
        let feature := extractFeature a
        if feature ≠ [] then (true, w.log (.captured f (some a)), { x with feature })
        else (false, w, { x with goodFrames := 0 })

/-- The record that a finished enrollment writes. -/
def newEnrollment (user : Int32) (e : Enrollment) (io : EnrollIO) (engine : Bytes) : Enrollment :=
  { e with
    userId := user
    enrollmentId := io.enrollmentId.toEnrollmentId
    authenticatorId := io.authenticatorId.value
    engine }

/-- The end of a successful enrollment. -/
def finishEnroll (io : EnrollIO) (s : State) : State :=
  let s := { s with enrolled := some ⟨s.enrolls, s.currentStore⟩ }
  (s.emit (.onEnrollmentFrame .good .enrollmentFinished)).emit
    (.onEnrollmentProgress io.enrollmentId.toEnrollmentId 0)

/-- `doEnroll` from the start of the camera on. -/
def doEnrollCv (user : Int32) (preview : Bool) (e : Enrollment) (io : EnrollIO) (s : State) :
    State :=
  let r := s.world.startCamera preview io.start
  let s := { s with world := r.2 }
  if !r.1 then s.emit (.onError .hwUnavailable)
  else
    let w := s.world.tick io.startElapsed
    let orientation := faceOrientation w.camera.mSensorOrientation
    let l := whileFrames (w.now + kEnrollTimeout)
      (enrollFrame orientation io.enrollmentId.toEnrollmentId) io.cv (w, {})
    let s := { s with world := l.1.stopCamera.pass io.stop }
    if l.2.feature = [] then
      s.emit (.onError (if s.world.cancelled then .canceled else .timeout))
    else
      let stored := storeFeature io.store ⟨l.2.feature, s.enrolls⟩ l.2.nv21 s
      let s := stored.2
      -- Nothing is undone here: `storeFeature` has removed the old template already.
      if !stored.1 then s.emit (.onError .unableToProcess)
      else
        let saved := (newEnrollment user e io kCvEngine).save io.save s.storage.enrollmentFile
        let s := { s with storage := { s.storage with enrollmentFile := saved.2 } }
        if !saved.1 then (removeFeature io.undo s).2.emit (.onError .unableToProcess)
        else finishEnroll io s

/-- The local variables of the st_auth loop, with the engine and the storage it writes. -/
structure StEnrollLocals where
  auth : AuthEngine
  storage : Storage
  error : Option Error := none
  done : Bool := false
  lastRemaining : Int := AuthEngine.kEnrollFrames
  lastInfo : AcquiredInfo := .unknown
  first : Bool := true

def World.logCaptured (w : World) (f : Fetch) (stores : Bool) : World :=
  if stores then w.log (.captured f none) else w

/-- The body of the loop of `doEnrollAuth`. -/
def stEnrollFrame (origin : ℕ) (enrollmentId : Int32) (f : Fetch) (_nv21 : Nv21)
    (a : EnrollAnswer) (p : World × StEnrollLocals) : Bool × World × StEnrollLocals :=
  let w := p.1.reportFirstFrame p.2.first
  let r := p.2.auth.enroll origin a p.2.storage
  let w := (w.log (.detected f)).logCaptured f (AuthEngine.EnrollAnswer.stores a)
  let x := { p.2 with first := false, auth := r.2.1, storage := r.2.2 }
  match r.1.error with
  | some error => (true, w.log (.sdkError error), { x with error := some error })
  | none =>
      let w := w.reportEnrollFrame r.1.info x.lastInfo
      let x := { x with lastInfo := r.1.info }
      if r.1.done then (true, w, { x with done := true })
      else if 0 < r.1.remaining ∧ r.1.remaining ≠ x.lastRemaining then
        (false, w.emit (.onEnrollmentProgress enrollmentId r.1.remaining),
          { x with lastRemaining := r.1.remaining })
      else (false, w, x)

/-- `auth.removeTemplate()`, whose result `doEnrollAuth` does not look at. -/
def undoTemplate (io : RemoveTemplateIO) (s : State) : State :=
  let r := s.auth.removeTemplate io s.storage
  { s with auth := r.2.1, storage := r.2.2 }

def doEnrollAuth (user : Int32) (preview : Bool) (e : Enrollment) (io : EnrollIO) (s : State) :
    State :=
  let r := s.world.startCamera preview io.start
  let s := { s with world := r.2 }
  if !r.1 then s.emit (.onError .hwUnavailable)
  else
    let b := s.auth.beginEnroll io.beginEnroll s.storage
    let s := { s with auth := b.2.1, storage := b.2.2 }
    match b.1 with
    | some error => { s with world := s.world.stopCamera }.emit (.onError error)
    | none =>
        let w := s.world.tick io.startElapsed
        let l := whileFrames (w.now + kEnrollTimeout)
          (stEnrollFrame s.enrolls io.enrollmentId.toEnrollmentId) io.stAuth
          (w, { auth := s.auth, storage := s.storage })
        let s :=
          { s with
            world := l.1.stopCamera.pass io.stop
            auth := l.2.auth
            storage := l.2.storage }
        if !l.2.done then
          (undoTemplate io.undo.auth s).emit
            (.onError (l.2.error.getD (if s.world.cancelled then .canceled else .timeout)))
        else
          let saved := (newEnrollment user e io s.auth.name).save io.save s.storage.enrollmentFile
          let s := { s with storage := { s.storage with enrollmentFile := saved.2 } }
          if !saved.1 then (undoTemplate io.undo.auth s).emit (.onError .unableToProcess)
          else finishEnroll io s

/-- `doEnroll` once the record has been read. -/
def enrollWith (user : Int32) (preview : Bool) (io : EnrollIO) (e : Enrollment) (s : State) :
    State :=
  if 0 ≤ e.userId then s.emit (.onError .noSpace)
  else
    let p := prepare io.prepare s
    if !p.1 then p.2
    else if p.2.auth.mAvailable then doEnrollAuth user preview e io p.2
    else doEnrollCv user preview e io p.2

def doEnroll (session : Session) (challenge : Int64) (preview : Bool) (io : EnrollIO)
    (s : State) : State :=
  if challenge ∉ session.mChallenges then s.emit (.onError .unableToProcess)
  else s.withEnrollment (enrollWith session.mUserId preview io)

end OneplusHal.Face

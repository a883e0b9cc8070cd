import OneplusHal.Face.Session

/-!
Authentication, on the cv engine and on st_auth.
-/

namespace OneplusHal.Face

open OneplusHal

/-- The cv engine's answers for one frame of an authentication. `elapsed` passes until the
clock is read after the detection. -/
structure ProbeAnswers where
  frame : CvFrame
  elapsed : ℕ
  probe : MatchIO

structure AuthenticateIO where
  checkElapsed : ℕ
  prepare : PrepareIO
  start : StartIO
  startElapsed : ℕ
  cv : List (Call ProbeAnswers)
  setFaceOrientation : Bool
  stAuth : List (Call AuthStatus)
  stop : Gap
  failElapsed : ℕ

/-- When the loop of an authentication gives up whose camera starts at `start`. -/
def AuthenticateIO.deadline (io : AuthenticateIO) (start : Time) : Time :=
  start + io.startElapsed + kAuthTimeout

/-- The local variables of the cv loop, with the TEE client it may reopen. -/
structure AuthLocals where
  tee : FaceTee
  lastFace : Time
  large : Bool := false
  compared : Bool := false
  matched : Bool := false
  lastInfo : AcquiredInfo := .unknown

/-- Report an acquisition code unless it is the last one reported. -/
def World.reportAuthFrame (w : World) (info lastInfo : AcquiredInfo) : World :=
  if info ≠ lastInfo then w.emit (.onAuthenticationFrame info) else w

/-- The acquisition code of one frame, with the locals that the detection updates. -/
def acquireProbe (requireAttention : Bool) (a : CvFrame) (face : Option DetectedFace)
    (now : Time) (x : AuthLocals) : AcquiredInfo × AuthLocals :=
  match face with
  | none =>
      (.notDetected, { x with large := x.large || kLargeDetectorDelay < now - x.lastFace })
  | some _ =>
      (if requireAttention && !eyesOpen a then .poorGaze else .good, { x with lastFace := now })

/-- The body of the loop of `doAuthenticate`. -/
def authenticateFrame (requireAttention useTee : Bool) (orientation : FaceOrientation)
    (st : Storage) (f : Fetch) (_nv21 : Nv21) (a : ProbeAnswers) (p : World × AuthLocals) :
    Bool × World × AuthLocals :=
  let face := detect a.frame orientation p.2.large true
  let w := (p.1.log (.detected f)).tick a.elapsed
  let r := acquireProbe requireAttention a.frame face w.now p.2
  let w := w.reportAuthFrame r.1 p.2.lastInfo
  let x := { r.2 with lastInfo := r.1 }
  if r.1 ≠ .good then (false, w, x)
  else
    let feature := extractFeature a.frame
    if feature = [] then (false, w, x)
    else
      let m := matchFeature a.probe useTee feature x.tee st
      let x := { x with tee := m.2 }
      match m.1 with
      -- No score, so the probe does not count as compared.
      | none => (false, w, x)
      | some (score, t) =>
          let w := w.log (.compared f t)
          let x := { x with compared := true }
          if kMatchThreshold ≤ score ∧ spoofScore a.frame ≤ kSpoofThreshold then
            (true, (w.log (.judged ⟨a.frame, useTee, a.probe, score, true⟩)).log (.accepted f t),
              { x with matched := true })
          else (false, w.log (.judged ⟨a.frame, useTee, a.probe, score, false⟩), x)

/-- `doAuthenticate` from the start of the camera on. -/
def doAuthenticateCv (user : Int32) (e : Enrollment) (io : AuthenticateIO) (s : State) : State :=
  let r := s.world.startCamera false io.start
  let s := { s with world := r.2 }
  if !r.1 then s.emit (.onError .hwUnavailable)
  else
    let w := s.world.tick io.startElapsed
    let orientation := faceOrientation w.camera.mSensorOrientation
    let l := whileFrames (w.now + kAuthTimeout)
      (authenticateFrame e.requireAttention s.useTee orientation s.storage) io.cv
      (w, { tee := s.tee, lastFace := w.now })
    let s := { s with world := l.1.stopCamera.pass io.stop, tee := l.2.tee }
    if l.2.matched then
      (s.eraseLockout user).emit (.onAuthenticationSucceeded e.enrollmentId)
    -- From here on nothing matched. A cancellation goes before a failed comparison.
    else if s.world.cancelled then s.emit (.onError .canceled)
    else if l.2.compared then onAuthenticationFailedLocked user io.failElapsed s
    else s.emit (.onError .timeout)

/-- The local variables of the st_auth loop, with the engine it drives. -/
structure StAuthLocals where
  auth : AuthEngine
  error : Option Error := none
  compared : Bool := false
  matched : Bool := false
  lastInfo : AcquiredInfo := .unknown

def World.logCompared (w : World) (f : Fetch) (t : Option Template) : World :=
  match t with
  | none => w
  | some t => w.log (.compared f t)

def World.logAccepted (w : World) (f : Fetch) (t : Option Template) : World :=
  match t with
  | none => w
  | some t => w.log (.accepted f t)

/-- The body of the loop of `doAuthenticateAuth`. -/
def stAuthenticateFrame (st : Storage) (f : Fetch) (_nv21 : Nv21) (status : AuthStatus)
    (p : World × StAuthLocals) : Bool × World × StAuthLocals :=
  let r := p.2.auth.authenticate status st
  let w := p.1.log (.detected f)
  let x := { p.2 with auth := r.2.2 }
  match r.1.error with
  | some error => (true, w.log (.sdkError error), { x with error := some error })
  | none =>
      let w := w.reportAuthFrame r.1.info x.lastInfo
      let w := w.logCompared f r.2.1
      let x := { x with lastInfo := r.1.info, compared := x.compared || r.1.compared }
      if r.1.done then (true, w.logAccepted f r.2.1, { x with matched := true })
      else (false, w, x)

def doAuthenticateAuth (user : Int32) (e : Enrollment) (io : AuthenticateIO) (s : State) :
    State :=
  let r := s.world.startCamera false io.start
  let s := { s with world := r.2 }
  if !r.1 then s.emit (.onError .hwUnavailable)
  else
    let b := s.auth.beginAuthenticate io.setFaceOrientation e.requireAttention s.storage
    let s := { s with auth := b.2 }
    match b.1 with
    | some error => { s with world := s.world.stopCamera }.emit (.onError error)
    | none =>
        let w := s.world.tick io.startElapsed
        let l := whileFrames (w.now + kAuthTimeout) (stAuthenticateFrame s.storage) io.stAuth
          (w, { auth := s.auth })
        let s := { s with world := l.1.stopCamera.pass io.stop, auth := l.2.auth }
        if l.2.matched then
          (s.eraseLockout user).emit (.onAuthenticationSucceeded e.enrollmentId)
        else
          match l.2.error with
          -- An error of the SDK goes before both.
          | some error => s.emit (.onError error)
          | none =>
              if s.world.cancelled then s.emit (.onError .canceled)
              else if l.2.compared then onAuthenticationFailedLocked user io.failElapsed s
              else s.emit (.onError .timeout)

/-- `doAuthenticate` once the record has been read. -/
def authenticateWith (user : Int32) (io : AuthenticateIO) (e : Enrollment) (s : State) : State :=
  if e.userId ≠ user then s.emit (.onError .unableToProcess)
  else
    let c := checkLockoutLocked user io.checkElapsed s
    if c.1 then c.2
    else
      let p := prepare io.prepare c.2
      if !p.1 then p.2
      else if e.engine ≠ engineName p.2 then p.2.emit (.onError .reenrollRequired)
      else if p.2.auth.mAvailable then doAuthenticateAuth user e io p.2
      else doAuthenticateCv user e io p.2

/-- An operation that begins by loading the record. -/
def State.withEnrollment (s : State) (op : Enrollment → State → State) : State :=
  match Enrollment.load s.storage.enrollmentFile with
  | .error ex => s.terminate ex
  | .ok e => op e s

def doAuthenticate (user : Int32) (io : AuthenticateIO) (s : State) : State :=
  s.withEnrollment (authenticateWith user io)

end OneplusHal.Face

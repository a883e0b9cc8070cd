import OneplusHal.Face.Enroll
import OneplusHal.Lib.Machine

/-!
The remaining operations, and the service as a machine: any number of sessions of any
users, whose operations run one at a time in any order, between changes of the tee
property, restarts of the process and the passing of time.

Generating or revoking a challenge and closing a session do not wait for `Hardware::lock`.
They are steps of their own all the same, since a running operation looks at nothing that
they touch once it has checked its challenge.
-/

namespace OneplusHal.Face

open OneplusHal

structure RemoveIO where
  feature : RemoveFeatureIO
  save : SaveIO

/-- `removeEnrollments` once the record has been read. The result of deleting the record
is not looked at. -/
def removeWith (user : Int32) (ids : List Int32) (io : RemoveIO) (e : Enrollment) (s : State) :
    State :=
  if e.userId ≠ user ∨ e.enrollmentId ∉ ids then s.emit (.onEnrollmentsRemoved ids)
  else
    let r := removeFeature io.feature s
    if !r.1 then r.2.emit (.onError .unableToRemove)
    else
      -- Saving a record without a user deletes the file.
      let saved := ({} : Enrollment).save io.save r.2.storage.enrollmentFile
      let s := { r.2 with storage := { r.2.storage with enrollmentFile := saved.2 } }
      s.emit (.onEnrollmentsRemoved ids)

def enumerateWith (user : Int32) (e : Enrollment) (s : State) : State :=
  s.emit (.onEnrollmentsEnumerated (if e.userId = user then [e.enrollmentId] else []))

def getFeaturesWith (user : Int32) (e : Enrollment) (s : State) : State :=
  if e.userId ≠ user then s.emit (.onError .unableToProcess)
  else s.emit (.onFeaturesRetrieved (if e.requireAttention then [.requireAttention] else []))

def setFeatureWith (user : Int32) (feature : Feature) (enabled : Bool) (io : SaveIO)
    (e : Enrollment) (s : State) : State :=
  if e.userId ≠ user ∨ feature ≠ .requireAttention then s.emit (.onError .unableToProcess)
  else
    let saved := { e with requireAttention := enabled }.save io s.storage.enrollmentFile
    let s := { s with storage := { s.storage with enrollmentFile := saved.2 } }
    if !saved.1 then s.emit (.onError .unableToProcess) else s.emit (.onFeatureSet feature)

def getAuthenticatorIdWith (user : Int32) (e : Enrollment) (s : State) : State :=
  s.emit (.onAuthenticatorIdRetrieved (if e.userId = user then e.authenticatorId else 0))

/-- The result of saving the record is not looked at. -/
def invalidateWith (user : Int32) (r : RandomId) (io : SaveIO) (e : Enrollment) (s : State) :
    State :=
  if e.userId ≠ user then s.emit (.onAuthenticatorIdInvalidated 0)
  else
    let saved := { e with authenticatorId := r.value }.save io s.storage.enrollmentFile
    let s := { s with storage := { s.storage with enrollmentFile := saved.2 } }
    s.emit (.onAuthenticatorIdInvalidated r.value)

/-- An operation of a session, with its arguments and what the environment does. -/
inductive Op
  | generateChallenge (r : RandomId)
  | revokeChallenge (challenge : Int64)
  | enroll (challenge : Int64) (preview : Bool) (io : EnrollIO)
  | authenticate (io : AuthenticateIO)
  | detectInteraction
  | enumerateEnrollments
  | removeEnrollments (ids : List Int32) (io : RemoveIO)
  | getFeatures
  | setFeature (feature : Feature) (enabled : Bool) (io : SaveIO)
  | getAuthenticatorId
  | invalidateAuthenticatorId (r : RandomId) (io : SaveIO)
  | resetLockout
  | close

/-- `mChallenges` with one challenge generated or revoked. -/
def Session.generate (session : Session) (challenge : Int64) : Session :=
  { session with mChallenges := challenge :: session.mChallenges.filter (· ≠ challenge) }

def Session.revoke (session : Session) (challenge : Int64) : Session :=
  { session with mChallenges := session.mChallenges.filter (· ≠ challenge) }

def State.setSession (s : State) (i : ℕ) (session : Session) : State :=
  { s with sessions := s.sessions.set i session }

/-- The operation `op` of session number `i`. -/
def runOp (i : ℕ) (session : Session) (op : Op) (s : State) : State :=
  match op with
  | .generateChallenge r =>
      (s.setSession i (session.generate r.value)).emit (.onChallengeGenerated r.value)
  | .revokeChallenge challenge =>
      (s.setSession i (session.revoke challenge)).emit (.onChallengeRevoked challenge)
  | .enroll challenge preview io =>
      let s := doEnroll session challenge preview io s
      { s with enrolls := s.enrolls + 1 }
  | .authenticate io => doAuthenticate session.mUserId io s
  | .detectInteraction => s.emit (.onError .unableToProcess)
  | .enumerateEnrollments => s.withEnrollment (enumerateWith session.mUserId)
  | .removeEnrollments ids io => s.withEnrollment (removeWith session.mUserId ids io)
  | .getFeatures => s.withEnrollment (getFeaturesWith session.mUserId)
  | .setFeature feature enabled io =>
      s.withEnrollment (setFeatureWith session.mUserId feature enabled io)
  | .getAuthenticatorId => s.withEnrollment (getAuthenticatorIdWith session.mUserId)
  | .invalidateAuthenticatorId r io => s.withEnrollment (invalidateWith session.mUserId r io)
  | .resetLockout => (s.eraseLockout session.mUserId).emit .onLockoutCleared
  | .close => s.emit .onSessionClosed

/-- What can happen next. -/
inductive Step
  | createSession (user : Int32)
  | op (i : ℕ) (op : Op)
  | setTeeProperty (tee : Bool)
  /-- the process starts anew, and finds the st_auth library or not -/
  | restart (available : Bool)
  | wait (elapsed : ℕ)

/-- The state in which a step begins: nothing logged yet and nothing cancelled. -/
def State.begin (s : State) : State :=
  { s with world := { s.world with cancelled := false, trace := [] } }

/-- A fresh process on the same device. -/
def State.restarted (s : State) (available : Bool) : State where
  world := { now := s.world.now }
  auth := { mUseTee := s.useTee, mAvailable := available }
  storage := s.storage
  useTee := s.useTee
  enrolls := s.enrolls
  enrolled := s.enrolled

def step (s : State) : Step → State
  | .createSession user => { s.begin with sessions := s.sessions ++ [{ mUserId := user }] }
  | .op i op =>
      match s.sessions[i]? with
      | none => s.begin
      | some session => runOp i session op s.begin
  | .setTeeProperty tee => { s.begin with useTee := tee }
  | .restart available => s.restarted available
  | .wait elapsed => { s.begin with world := s.begin.world.tick elapsed }

/-- A device on which nobody has enrolled yet, whatever the property says and whichever
engine there is. -/
def State.Initial (s : State) : Prop :=
  ∃ (available tee : Bool) (now : Time),
    s = State.restarted { world := { now }, useTee := tee } available

/-- The states that some run of the service reaches. -/
def Reachable (s : State) : Prop := Machine.Reachable step State.Initial s

/-! ### An environment in which everything succeeds -/

def AuthInitIO.quiet : AuthInitIO where
  path := true
  dlopen := true
  dlsym := fun _ => true
  cmdline := true
  licenses := [some true]
  teeLoad := true
  teeStart := [true]
  setTeeCommunicationFunc := true
  authInit := true

def EngineInitIO.quiet : EngineInitIO := ⟨true, true, true, true, true, true, true, true, true⟩

def TeeOpenIO.quiet : TeeOpenIO := ⟨true, [true], [true]⟩

def PrepareIO.quiet : PrepareIO := ⟨.quiet, .quiet, .quiet⟩

def SendAnswer.quiet : SendAnswer := ⟨0, some 0⟩

def StartIO.quiet : StartIO where
  cameras := some [⟨['1'], true, some 270⟩]
  openCamera := true
  reader := true
  outputs := true
  sessionOutput := true
  request := true
  target := true
  session := true
  repeating := true

def RemoveTemplateIO.quiet : RemoveTemplateIO := ⟨false, .quiet, .deleted .templateNotExist⟩

def RemoveFeatureIO.quiet : RemoveFeatureIO := ⟨.quiet, false, .quiet, .quiet, fun _ => .quiet⟩

def StoreFeatureIO.quiet : StoreFeatureIO := ⟨.quiet, .written, .quiet, .quiet, .quiet⟩

def SaveIO.quiet : SaveIO := ⟨false, .written⟩

/-- A frame of one face, on which every call of the SDK succeeds. -/
def CvFrame.clear : CvFrame where
  detectFaces := fun _ _ => ⟨0, some [⟨⟨0, 0, 1, 1⟩, 0, 0, 1, ⟨[], none⟩⟩]⟩
  qualityDetect := 0
  detectOcular := ⟨0, some (10, 10)⟩
  detectHackness := ⟨0, some 0⟩
  getFeature := ⟨0, some ⟨1, ⟨0, some [1]⟩⟩⟩

def MatchIO.alike : MatchIO := ⟨.quiet, .quiet, 1, false, ⟨true, true, ⟨0, some 1⟩⟩⟩

/-- A call of `nextFrame` that finds a grey frame waiting. -/
def Call.waiting {α : Type} (answers : α) : Call α :=
  ⟨{ events := [.imageAvailable (some [128])] }, [], answers⟩

def RandomId.one : RandomId := ⟨1, by decide⟩

/-- The answer that ends an st_auth enrollment, with a template under face id 3. -/
def EnrollAnswer.finished : EnrollAnswer := ⟨.ok, some 3, false, [7], .written⟩

def EnrollIO.quiet : EnrollIO where
  prepare := .quiet
  start := .quiet
  startElapsed := 0
  enrollmentId := .one
  cv := List.replicate kEnrollFrames (.waiting .clear)
  beginEnroll := ⟨.deleted .ok, false, true, true⟩
  stAuth := [.waiting .finished]
  stop := {}
  store := .quiet
  authenticatorId := .one
  save := .quiet
  undo := .quiet

def RemoveIO.quiet : RemoveIO := ⟨.quiet, .quiet⟩

def AuthenticateIO.quiet : AuthenticateIO where
  checkElapsed := 0
  prepare := .quiet
  start := .quiet
  startElapsed := 0
  cv := [.waiting ⟨.clear, 0, .alike⟩]
  setFaceOrientation := true
  stAuth := [.waiting .unlockOk]
  stop := {}
  failElapsed := 0

/-- A new device, with the st_auth library or not and with the tee property as given. -/
def State.new (available tee : Bool) : State := State.restarted { useTee := tee } available

/-- The steps by which session `i` enrolls its user. -/
def enrollSteps (i : ℕ) : List Step :=
  [.op i (.generateChallenge .one), .op i (.enroll 1 true .quiet)]

/-- A device on which user 0 has enrolled, through session 0. -/
def State.withUser (available tee : Bool) : State :=
  Machine.run step (State.new available tee) (.createSession 0 :: enrollSteps 0)

theorem State.new_initial (available tee : Bool) : (State.new available tee).Initial :=
  ⟨available, tee, 0, rfl⟩

theorem State.withUser_reachable (available tee : Bool) :
    Reachable (State.withUser available tee) :=
  ⟨_, _, State.new_initial available tee, rfl⟩

end OneplusHal.Face

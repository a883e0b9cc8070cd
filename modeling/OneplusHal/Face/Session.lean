import OneplusHal.Face.World

/-!
The operations of a session, over the state that all sessions share. An operation runs to
its end under `Hardware::lock`, so each is a function of the state before it, of its
arguments and of what the environment does meanwhile.

`enrolls` and `enrolled` are ghosts: the number of enroll operations begun so far, which
is the `origin` of the templates the next one captures, and for the last enrollment that
was reported as finished, its number and the store its template went to.
-/

namespace OneplusHal.Face

open OneplusHal

def kAuthTimeout : ℕ := 5 * 10 ^ 9
def kEnrollTimeout : ℕ := 60 * 10 ^ 9
def kLargeDetectorDelay : ℕ := 500 * 10 ^ 6
-- The exact values of the single-precision constants 0.8f and 0.95f.
def kMatchThreshold : ℚ := 13421773 / 16777216
def kSpoofThreshold : ℚ := 15938355 / 16777216
def kEnrollFrames : ℕ := 5
def kLockoutTimedFailures : ℕ := 5
def kLockoutPermanentFailures : ℕ := 20
def kLockoutDuration : ℕ := 30 * 10 ^ 9

/-- A value of `randomId`, uniform over the positive numbers of 64 bits. -/
structure RandomId where
  value : Int64
  pos : 1 ≤ value

/-- `static_cast<int32_t>(randomId() & INT32_MAX)` -/
def RandomId.toEnrollmentId (r : RandomId) : Int32 := (r.value &&& 0x7fffffff).toInt32

def faceOrientation (sensorOrientation : Int) : FaceOrientation :=
  if sensorOrientation = 0 then .up
  else if sensorOrientation = 90 then .left
  else if sensorOrientation = 180 then .down
  else .right

def Quality.toAcquiredInfo : Quality → AcquiredInfo
  | .good => .good
  | .tooDark => .tooDark
  | .tooBright => .tooBright
  | .poorGaze => .poorGaze
  | .insufficient => .insufficient

/-! ### The shared state -/

structure LockoutTracker where
  failures : ℕ := 0
  lockedUntil : Time := 0
  deriving DecidableEq

structure Session where
  mUserId : Int32
  /-- the challenges generated and not revoked -/
  mChallenges : List Int64 := []
  deriving DecidableEq

structure Enrolled where
  origin : ℕ
  store : StoreId
  deriving DecidableEq

structure State where
  world : World := {}
  engine : FaceEngine := {}
  tee : FaceTee := {}
  auth : AuthEngine := {}
  storage : Storage := {}
  sLockouts : Int32 → LockoutTracker := fun _ => {}
  sessions : List Session := []
  /-- the property `persist.vendor.faceunlock.tee` -/
  useTee : Bool := true
  enrolls : ℕ := 0
  enrolled : Option Enrolled := none

namespace State

def emit (s : State) (c : Callback) : State := { s with world := s.world.emit c }

/-- An exception in an operation reaches the top of the worker thread. -/
def terminate (s : State) (ex : StdException) : State :=
  { s with world := s.world.log (.terminate ex) }

def setLockout (s : State) (user : Int32) (t : LockoutTracker) : State :=
  { s with sLockouts := Function.update s.sLockouts user t }

/-- `sLockouts.erase(user)`; a missing entry reads as a fresh tracker. -/
def eraseLockout (s : State) (user : Int32) : State := s.setLockout user {}

/-- The store that template operations of the engine in use go to now. -/
def currentStore (s : State) : StoreId :=
  if s.auth.mAvailable then .stAuth s.auth.mUseTee
  else if s.useTee then .teeSlot
  else .featureFile

/-- The callbacks of the present operation, in order. -/
def callbacks (s : State) : List Callback :=
  s.world.trace.filterMap Event.callback?

end State

def engineName (s : State) : Bytes :=
  if s.auth.mAvailable then s.auth.name else kCvEngine

/-! ### Preparing the engine, and the template stores -/

structure PrepareIO where
  auth : AuthInitIO
  engine : EngineInitIO
  tee : TeeOpenIO

def prepare (io : PrepareIO) (s : State) : Bool × State :=
  if s.auth.mAvailable then
    let r := s.auth.init io.auth
    let s := { s with auth := r.2 }
    if !r.1 then (false, s.emit (.onError .hwUnavailable)) else (true, s)
  else
    let r := s.engine.init io.engine
    let s := { s with engine := r.2 }
    if !r.1 then (false, s.emit (.onError .hwUnavailable))
    else if s.useTee then
      let t := s.tee.openTee io.tee
      let s := { s with tee := t.2 }
      if !t.1 then (false, s.emit (.onError .hwUnavailable)) else (true, s)
    else (true, s)

structure RemoveFeatureIO where
  auth : RemoveTemplateIO
  unlinkFails : Bool
  tee : TeeOpenIO
  remove : SendAnswer
  removeFrame : ℕ → SendAnswer

def removeFeature (io : RemoveFeatureIO) (s : State) : Bool × State :=
  if s.auth.mAvailable then
    let r := s.auth.removeTemplate io.auth s.storage
    (r.1, { s with auth := r.2.1, storage := r.2.2 })
  else if !s.useTee then
    let r := unlink io.unlinkFails s.storage.featureFile
    (r.1, { s with storage := { s.storage with featureFile := r.2 } })
  else
    let t := s.tee.openTee io.tee
    let s := { s with tee := t.2 }
    if !t.1 then (false, s)
    else
      let r := FaceTee.removeFeature io.remove s.storage
      (r.1, { s with storage := FaceTee.removeFrames io.removeFrame r.2 })

structure StoreFeatureIO where
  remove : RemoveFeatureIO
  write : WriteOutcome
  tee : TeeOpenIO
  save : SendAnswer
  saveFrame : SendAnswer

def storeFeature (io : StoreFeatureIO) (feature : Template) (nv21 : Nv21) (s : State) :
    Bool × State :=
  -- The result of the removal is not looked at.
  let s := (removeFeature io.remove s).2
  if !s.useTee then
    let r := writeStringToFile io.write feature s.storage.featureFile
    (r.1, { s with storage := { s.storage with featureFile := r.2 } })
  else
    let t := s.tee.openTee io.tee
    let s := { s with tee := t.2 }
    if !t.1 then (false, s)
    else
      let r := FaceTee.saveFeature io.save feature s.storage
      if !r.1 then (false, { s with storage := r.2 })
      else (true, { s with storage := (FaceTee.saveFrame io.saveFrame 0 nv21 r.2).2 })

/-- `Session::matchFeature`, with the template the score is about. -/
def matchFeature (io : MatchIO) (useTee : Bool) (probe : List UInt8) (tee : FaceTee)
    (st : Storage) : Option (ℚ × Template) × FaceTee :=
  if useTee then
    let t := tee.openTee io.tee
    if !t.1 then (none, t.2) else (FaceTee.compare io.compare io.score st, t.2)
  else
    match if io.readFails then none else st.featureFile with
    | none => (none, tee)
    | some stored =>
        let score := compareFeatures io.compareFeatures probe stored.feature
        -- A negative score is an error of the SDK.
        if score < 0 then (none, tee) else (some (score, stored), tee)

/-! ### Lockout -/

def checkLockoutLocked (user : Int32) (elapsed : ℕ) (s : State) : Bool × State :=
  let lockout := s.sLockouts user
  if kLockoutPermanentFailures ≤ lockout.failures then (true, s.emit .onLockoutPermanent)
  else
    let s := { s with world := s.world.tick elapsed }
    if s.world.now < lockout.lockedUntil then
      (true, s.emit (.onLockoutTimed ((lockout.lockedUntil - s.world.now) / 10 ^ 6)))
    else (false, s)

def onAuthenticationFailedLocked (user : Int32) (elapsed : ℕ) (s : State) : State :=
  let s := s.emit .onAuthenticationFailed
  let failures := (s.sLockouts user).failures + 1
  let s := s.setLockout user { s.sLockouts user with failures }
  if kLockoutPermanentFailures ≤ failures then s.emit .onLockoutPermanent
  else if failures % kLockoutTimedFailures = 0 then
    let s := { s with world := s.world.tick elapsed }
    let s := s.setLockout user ⟨failures, s.world.now + kLockoutDuration⟩
    s.emit (.onLockoutTimed (kLockoutDuration / 10 ^ 6))
  else s

end OneplusHal.Face

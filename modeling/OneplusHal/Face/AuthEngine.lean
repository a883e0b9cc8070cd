import OneplusHal.Face.Enrollment
import OneplusHal.Face.FaceEngine

/-!
The st_auth engine of newer stock apps, which runs the whole pipeline in the SDK and
keeps the templates itself, one directory without the TEE and one with it.

`calls` is a ghost: every call into the SDK, with whether it succeeded, whether its
function pointer was loaded and whether the TEE session was open at that moment.
-/

namespace OneplusHal.Face

open OneplusHal

/-- `st_auth_status`; `other` is any code the header does not name. -/
inductive AuthStatus
  | ok
  | noFace
  | hacknessFailed
  | eyeClose
  | enrollKeep
  | overExpose
  | enrollOk
  | eyeBlocked
  | mouthBlocked
  | faceUp
  | faceDown
  | faceLeft
  | faceRight
  | qualitySharp
  | qualityMouth
  | qualityDistance
  | qualityFaceSmall
  | qualityFaceBig
  | qualityOcclusion
  | qualityBrightLow
  | qualityBrightHigh
  | qualityFaceMiss
  | unlockOk
  | unlockFailed
  | templateNotExist
  | templateNoFace
  | handle
  | templateDamaged
  | templateUpperLimit
  | other (code : Int)
  deriving DecidableEq

def AuthStatus.toAcquiredInfo : AuthStatus → AcquiredInfo
  | .ok | .enrollKeep | .enrollOk | .unlockOk | .unlockFailed => .good
  | .noFace | .qualityFaceMiss => .notDetected
  | .eyeClose => .poorGaze
  | .overExpose | .qualityBrightHigh => .tooBright
  | .qualityBrightLow => .tooDark
  | .eyeBlocked | .mouthBlocked | .qualityMouth | .qualityOcclusion => .faceObscured
  | .faceUp | .faceDown => .tiltTooExtreme
  | .faceLeft | .faceRight => .panTooExtreme
  | .qualitySharp => .tooMuchMotion
  | .qualityDistance | .qualityFaceSmall => .tooFar
  | .qualityFaceBig => .tooClose
  | _ => .insufficient

/-- The functions looked up in the engine library. -/
inductive StFunction
  | initLicense
  | setTeeCommunicationFunc
  | authInit
  | authDeinit
  | authReset
  | setFaceOrientation
  | setImageNumber
  | authEnroll
  | authUnlock
  | deleteAllFaces
  deriving DecidableEq

def StFunction.all : List StFunction :=
  [.initLicense, .setTeeCommunicationFunc, .authInit, .authDeinit, .authReset,
    .setFaceOrientation, .setImageNumber, .authEnroll, .authUnlock, .deleteAllFaces]

structure StCall where
  fn : StFunction
  succeeded : Bool
  loaded : Bool
  teeOpen : Bool
  deriving DecidableEq

structure AuthEngine where
  mUseTee : Bool := true
  /-- whether the engine library was found, once for the whole life of the process -/
  mAvailable : Bool := false
  mInitialized : Bool := false
  mLib : Bool := false
  mConfig : ℕ := 0
  mAccepted : ℕ := 0
  mFaceId : Int := -1
  loaded : StFunction → Bool := fun _ => false
  /-- `AuthTee`: the QSEECom library, and the session -/
  sStartApp : Bool := false
  sHandle : Bool := false
  calls : List StCall := []

/-- How the steps of one `AuthEngine::init` turn out. A license is `none` when its entry
cannot be read. -/
structure AuthInitIO where
  path : Bool
  dlopen : Bool
  dlsym : StFunction → Bool
  cmdline : Bool
  licenses : List (Option Bool)
  teeLoad : Bool
  teeStart : List Bool
  setTeeCommunicationFunc : Bool
  authInit : Bool

/-- Which code the SDK answers with when it is asked to delete and has no face. -/
inductive EmptyStoreCode
  | ok
  | templateNotExist
  | templateNoFace
  deriving DecidableEq

inductive DeleteAnswer
  | deleted (whenEmpty : EmptyStoreCode)
  | failed (code : Int)
  deriving DecidableEq

structure BeginEnrollIO where
  delete : DeleteAnswer
  unlinkFails : Bool
  setImageNumber : Bool
  setFaceOrientation : Bool

/-- What `st_auth_enroll` answers about a frame. `captures` lets it store a template with
a status that does not end the enrollment. -/
structure EnrollAnswer where
  status : AuthStatus
  faceId : Option Int
  captures : Bool
  feature : List UInt8
  writeFaceId : WriteOutcome

structure RemoveTemplateIO where
  unlinkFails : Bool
  init : AuthInitIO
  delete : DeleteAnswer

structure AuthResult where
  info : AcquiredInfo
  remaining : Int := -1
  done : Bool := false
  compared : Bool := false
  error : Option Error := none
  deriving DecidableEq

def kStAuth : Bytes := ['s', 't', '_', 'a', 'u', 't', 'h']
def kStAuthTee : Bytes := ['s', 't', '_', 'a', 'u', 't', 'h', '_', 't', 'e', 'e']

/-- libbase's `ParseInt(s, out, min)` on decimal text: the whole text must be one number
of type `int` that is not below `min`. -/
def parseInt (s : Bytes) (min : Int) : Option Int :=
  match Text.scan s with
  | some (n, []) => if min ≤ n ∧ n < 2 ^ 31 then some n else none
  | _ => none

/-- `st_auth_delete_all_face`: the store is empty afterwards, or the call failed and the
store is as it was. -/
def deleteAllFaces (answer : DeleteAnswer) (store : StAuthStore) : AuthStatus × StAuthStore :=
  match answer with
  | .failed code => (.other code, store)
  | .deleted whenEmpty =>
      if store = [] then
        match whenEmpty with
        | .ok => (.ok, [])
        | .templateNotExist => (.templateNotExist, [])
        | .templateNoFace => (.templateNoFace, [])
      else (.ok, [])

def Storage.setStAuth (s : Storage) (tee : Bool) (store : StAuthStore) : Storage :=
  { s with stAuth := Function.update s.stAuth tee store }

namespace AuthEngine

/-- The name recorded with an enrollment tells the two template directories apart. -/
def name (a : AuthEngine) : Bytes := if a.mUseTee then kStAuthTee else kStAuth

def call (a : AuthEngine) (fn : StFunction) (succeeded : Bool) : AuthEngine :=
  { a with calls := a.calls ++ [⟨fn, succeeded, a.loaded fn, a.sHandle⟩] }

/-! ### Initialisation -/

def loadSymbols (io : AuthInitIO) (a : AuthEngine) : Bool × AuthEngine :=
  if a.mLib then (true, a)
  else if !io.path || !io.dlopen then (false, a)
  else
    let ok := StFunction.all.all io.dlsym
    (ok, { a with loaded := io.dlsym, mLib := ok })

/-- The licenses are tried in order until one is accepted. -/
def tryLicenses : List (Option Bool) → AuthEngine → Bool × AuthEngine
  | [], a => (false, a)
  | none :: rest, a => tryLicenses rest a
  | some accepted :: rest, a =>
      if accepted then (true, a.call .initLicense true)
      else tryLicenses rest (a.call .initLicense false)

/-- `AuthTee::open`, with five attempts on each of the two paths of the app. -/
def openTee (io : AuthInitIO) (a : AuthEngine) : Bool × AuthEngine :=
  if a.sHandle then (true, a)
  else
    let a := { a with sStartApp := a.sStartApp || io.teeLoad }
    if !a.sStartApp then (false, a)
    else
      let a := { a with sHandle := (io.teeStart.take (5 * 2)).any id }
      (a.sHandle, a)

def initLocked (io : AuthInitIO) (a : AuthEngine) : Bool × AuthEngine :=
  let license := tryLicenses (io.licenses.take 2) a
  if !license.1 then (false, license.2)
  else
    let tee :=
      if license.2.mUseTee then
        let opened := openTee io license.2
        if !opened.1 then opened
        else
          (io.setTeeCommunicationFunc,
            opened.2.call .setTeeCommunicationFunc io.setTeeCommunicationFunc)
      else (true, license.2)
    if !tee.1 then (false, tee.2) else (io.authInit, tee.2.call .authInit io.authInit)

def deinit (a : AuthEngine) : AuthEngine :=
  let a := if a.mLib then a.call .authDeinit true else a
  let a := if a.mUseTee then { a with sHandle := false } else a
  { a with mInitialized := false }

def init (io : AuthInitIO) (a : AuthEngine) : Bool × AuthEngine :=
  if a.mInitialized then (true, a)
  else
    let symbols := loadSymbols io a
    if !symbols.1 then (false, symbols.2)
    else
      let locked := if io.cmdline then initLocked io symbols.2 else (false, symbols.2)
      let a := { locked.2 with mInitialized := locked.1 }
      -- A half-finished initialisation is taken back.
      let a := if !a.mInitialized then a.deinit else a
      (a.mInitialized, a)

/-! ### Enrollment and authentication -/

def kEnrollFrames : ℕ := 5

def beginEnroll (io : BeginEnrollIO) (a : AuthEngine) (s : Storage) :
    Option Error × AuthEngine × Storage :=
  let a := { a with mAccepted := 0 }
  let a := a.call .authReset true
  let deleted := deleteAllFaces io.delete (s.stAuth a.mUseTee)
  let a := a.call .deleteAllFaces (deleted.1 = .ok)
  let s := s.setStAuth a.mUseTee deleted.2
  let s := { s with faceIdFile := (unlink io.unlinkFails s.faceIdFile).2 }
  let a := a.call .setImageNumber io.setImageNumber
  if !io.setImageNumber then (some .unableToProcess, a, s)
  else
    let a := a.call .setFaceOrientation io.setFaceOrientation
    if !io.setFaceOrientation then (some .unableToProcess, a, s) else (none, a, s)

/-- The SDK stores a template with the statuses that end an enrollment. -/
def EnrollAnswer.stores (answer : EnrollAnswer) : Bool :=
  answer.status = .ok || answer.status = .enrollOk || answer.captures

/-- `AuthEngine::enroll` of one frame; `origin` numbers the enroll operation. -/
def enroll (origin : ℕ) (answer : EnrollAnswer) (a : AuthEngine) (s : Storage) :
    AuthResult × AuthEngine × Storage :=
  let faceId := answer.faceId.getD (-1)
  let a := a.call .authEnroll true
  let s :=
    if EnrollAnswer.stores answer then
      s.setStAuth a.mUseTee ((s.stAuth a.mUseTee).insert faceId ⟨answer.feature, origin⟩)
    else s
  let result : AuthResult := { info := answer.status.toAcquiredInfo }
  match answer.status with
  | .ok | .enrollOk =>
      let saved := writeStringToFile answer.writeFaceId (Text.print faceId) s.faceIdFile
      let s := { s with faceIdFile := saved.2 }
      if !saved.1 then ({ result with error := some .unableToProcess }, a, s)
      else ({ result with remaining := 0, done := true }, a, s)
  | .enrollKeep =>
      let a := { a with mAccepted := a.mAccepted + 1 }
      ({ result with remaining := max ((kEnrollFrames : Int) - a.mAccepted) 1 }, a, s)
  | .templateUpperLimit => ({ result with error := some .noSpace }, a, s)
  | .handle | .templateDamaged => ({ result with error := some .unableToProcess }, a, s)
  | _ => (result, a, s)

def beginAuthenticate (setFaceOrientation requireAttention : Bool) (a : AuthEngine)
    (s : Storage) : Option Error × AuthEngine :=
  match s.faceIdFile.bind fun text => parseInt text 0 with
  | none => (some .reenrollRequired, a)
  | some faceId =>
      let a := { a with mFaceId := faceId, mConfig := 20 + if requireAttention then 0 else 1 }
      let a := (a.call .authReset true).call .setFaceOrientation setFaceOrientation
      if !setFaceOrientation then (some .unableToProcess, a) else (none, a)

/-- The statuses of `st_auth_unlock` that mean the probe was compared. -/
def AuthStatus.isCompared : AuthStatus → Bool
  | .unlockOk | .unlockFailed | .hacknessFailed => true
  | _ => false

/-- `st_auth_unlock`: nothing is compared when the face id has no template. -/
def authUnlock (status : AuthStatus) (stored : Option Template) : AuthStatus :=
  if AuthStatus.isCompared status && stored.isNone then .templateNotExist else status

/-- `AuthEngine::authenticate` of one frame, with the template the SDK compared it to. -/
def authenticate (status : AuthStatus) (a : AuthEngine) (s : Storage) :
    AuthResult × Option Template × AuthEngine :=
  let stored := (s.stAuth a.mUseTee).find a.mFaceId
  let status := authUnlock status stored
  let a := a.call .authUnlock true
  let result : AuthResult := { info := status.toAcquiredInfo }
  match status with
  | .unlockOk => ({ result with done := true, compared := true }, stored, a)
  | .unlockFailed | .hacknessFailed => ({ result with compared := true }, stored, a)
  | .handle => ({ result with error := some .hwUnavailable }, none, a)
  | .templateDamaged | .templateNotExist | .templateNoFace =>
      ({ result with error := some .reenrollRequired }, none, a)
  | _ => (result, none, a)

/-- `AuthEngine::removeTemplate`. The face id goes first, whatever comes after it. -/
def removeTemplate (io : RemoveTemplateIO) (a : AuthEngine) (s : Storage) :
    Bool × AuthEngine × Storage :=
  let s := { s with faceIdFile := (unlink io.unlinkFails s.faceIdFile).2 }
  let initialised := a.init io.init
  if !initialised.1 then (false, initialised.2, s)
  else
    let a := initialised.2.call .authReset true
    let deleted := deleteAllFaces io.delete (s.stAuth a.mUseTee)
    let a := a.call .deleteAllFaces (deleted.1 = .ok)
    let s := s.setStAuth a.mUseTee deleted.2
    match deleted.1 with
    | .ok | .templateNotExist | .templateNoFace => (true, a, s)
    | _ => (false, a, s)

end AuthEngine

end OneplusHal.Face

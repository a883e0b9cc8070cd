import Mathlib.Tactic.Common
import OneplusHal.Face.Storage

/-!
What a session reports to the framework: the `ISessionCallback` calls, with the error
and acquisition codes the service uses.
-/

namespace OneplusHal.Face

inductive Error
  | hwUnavailable
  | unableToProcess
  | timeout
  | noSpace
  | canceled
  | unableToRemove
  | reenrollRequired
  deriving DecidableEq

inductive AcquiredInfo
  | unknown
  | good
  | insufficient
  | tooBright
  | tooDark
  | tooMuchMotion
  | poorGaze
  | notDetected
  | faceObscured
  | tiltTooExtreme
  | panTooExtreme
  | tooFar
  | tooClose
  | firstFrameReceived
  deriving DecidableEq

inductive EnrollmentStage
  | firstFrameReceived
  | holdStillInCenter
  | enrollmentFinished
  deriving DecidableEq

/-- The AIDL `Feature` enumeration. -/
inductive Feature
  | requireAttention
  | debug
  deriving DecidableEq

/-- A call on the session's callback. The vendor code of `onError` is always 0 and the
auth token of `onAuthenticationSucceeded` always the default one, so neither appears. -/
inductive Callback
  | onChallengeGenerated (challenge : Int64)
  | onChallengeRevoked (challenge : Int64)
  | onError (error : Error)
  | onEnrollmentFrame (info : AcquiredInfo) (stage : EnrollmentStage)
  | onEnrollmentProgress (enrollmentId : Int32) (remaining : Int)
  | onAuthenticationFrame (info : AcquiredInfo)
  | onAuthenticationSucceeded (enrollmentId : Int32)
  | onAuthenticationFailed
  | onLockoutTimed (milliseconds : ℕ)
  | onLockoutPermanent
  | onLockoutCleared
  | onEnrollmentsEnumerated (enrollmentIds : List Int32)
  | onEnrollmentsRemoved (enrollmentIds : List Int32)
  | onFeaturesRetrieved (features : List Feature)
  | onFeatureSet (feature : Feature)
  | onAuthenticatorIdRetrieved (authenticatorId : Int64)
  | onAuthenticatorIdInvalidated (authenticatorId : Int64)
  | onSessionClosed
  deriving DecidableEq

end OneplusHal.Face

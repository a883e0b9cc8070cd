import Mathlib.Algebra.Order.Field.Rat
import OneplusHal.Face.CameraSource

/-!
The cv engine: the ST SDK's detector, eye, liveness and verify handles, and what the
engine makes of their answers for one frame.

Every SDK call is answered by the environment, with a return code and with what the call
left in its output. Scores are rationals, which contain every finite float exactly; only
their order is used.
-/

namespace OneplusHal.Face

/-- An SDK call with one output. `out` is `none` when the call left the output as it
was. -/
structure SdkCall (α : Type) where
  ret : Int
  out : Option α

inductive FaceOrientation
  | up
  | left
  | down
  | right
  deriving DecidableEq

structure Rect where
  left : Int
  top : Int
  right : Int
  bottom : Int
  deriving DecidableEq

structure Landmarks where
  points : List (ℚ × ℚ × ℚ)
  occlusion : Option (List UInt8)
  deriving DecidableEq

structure CvFace where
  rect : Rect
  yaw : ℚ
  pitch : ℚ
  id : Int
  landmarks : Landmarks
  deriving DecidableEq

def CvFace.width (f : CvFace) : Int := f.rect.right - f.rect.left

structure DetectedFace where
  face : CvFace
  points : List (ℚ × ℚ × ℚ)
  occlusion : List UInt8
  orientation : FaceOrientation
  deriving DecidableEq

/-- One run of the detector: its return code and the array it left, if any. -/
structure DetectAnswer where
  ret : Int
  faces : Option (List CvFace)

/-- A feature the SDK extracted, and how its serializer answers for it. -/
structure SdkFeature where
  length : ℕ
  serializeFeature : SdkCall (List UInt8)

inductive Quality
  | good
  | insufficient
  | tooDark
  | tooBright
  | poorGaze
  deriving DecidableEq

/-- What the SDK answers about one frame. -/
structure CvFrame where
  /-- the detector, small or large, run at an orientation -/
  detectFaces : Bool → FaceOrientation → DetectAnswer
  qualityDetect : Int
  detectOcular : SdkCall (ℚ × ℚ)
  detectHackness : SdkCall ℚ
  getFeature : SdkCall SdkFeature

-- The exact values of the single-precision constants 0.17f and 0.83f.
def kMinBrightness : ℚ := 11408507 / 67108864
def kMaxBrightness : ℚ := 13925089 / 16777216
def kMaxPitch : ℚ := 20
def kMaxYaw : ℚ := 25
def kEyeOpenThreshold : ℚ := 19 / 2

def kOrientations : List FaceOrientation := [.right, .left, .up, .down]

/-! ### Handles -/

/-- The five SDK handles. A handle is the number of the creation that made it; `created`
and `destroyed` are ghosts that list every handle made and every handle destroyed. -/
structure FaceEngine where
  mLib : Bool := false
  mDetector : Option ℕ := none
  mDetector640 : Option ℕ := none
  mOcular : Option ℕ := none
  mVerify : Option ℕ := none
  mHackness : Option ℕ := none
  created : List ℕ := []
  destroyed : List ℕ := []
  deriving DecidableEq

/-- How the steps of one `FaceEngine::init` turn out. The libraries export every symbol
that is looked up, so loading them fails only in `dlopen`. -/
structure EngineInitIO where
  dlopen : Bool
  cmdline : Bool
  license : Bool
  models : Bool
  createDetector : Bool
  createDetector640 : Bool
  createOcular : Bool
  createVerify : Bool
  createHackness : Bool

namespace FaceEngine

/-- A fresh handle for a creation that succeeds. -/
def create (e : FaceEngine) : FaceEngine := { e with created := e.created.length :: e.created }

/-- The five creations, each of which stops the sequence when it fails. -/
def initLocked (io : EngineInitIO) (e : FaceEngine) : Bool × FaceEngine :=
  if !io.license || !io.models then (false, e)
  else if !io.createDetector then (false, e)
  else
    let e := { e.create with mDetector := some e.created.length }
    if !io.createDetector640 then (false, e)
    else
      let e := { e.create with mDetector640 := some e.created.length }
      if !io.createOcular then (false, e)
      else
        let e := { e.create with mOcular := some e.created.length }
        if !io.createVerify then (false, e)
        else
          let e := { e.create with mVerify := some e.created.length }
          if !io.createHackness then (false, e)
          else (true, { e.create with mHackness := some e.created.length })

def init (io : EngineInitIO) (e : FaceEngine) : Bool × FaceEngine :=
  -- `mVerify` is the last handle but one, and the only one that is tested.
  if e.mVerify.isSome then (true, e)
  else if !e.mLib && !io.dlopen then (false, e)
  else
    let e := { e with mLib := true }
    if !io.cmdline then (false, e) else initLocked io e

/-- The handles that are not null. -/
def handles (e : FaceEngine) : List ℕ :=
  [e.mDetector, e.mDetector640, e.mOcular, e.mVerify, e.mHackness].filterMap id

/-- `FaceEngine::~FaceEngine`. -/
def destroy (e : FaceEngine) : FaceEngine := { e with destroyed := e.handles ++ e.destroyed }

end FaceEngine

/-! ### One frame -/

/-- The faces one run of the detector yields; a failing run yields none. -/
def DetectAnswer.found (a : DetectAnswer) : List CvFace :=
  if a.ret ≠ 0 then [] else a.faces.getD []

/-- The first of the widest faces. -/
def widest (f : CvFace) (fs : List CvFace) : CvFace :=
  fs.foldl (fun best f => if best.width < f.width then f else best) f

def toDetectedFace (f : CvFace) (o : FaceOrientation) : DetectedFace where
  face := f
  points := f.landmarks.points
  occlusion := f.landmarks.occlusion.getD (List.replicate f.landmarks.points.length 0)
  orientation := o

/-- The orientations `detect` tries, in order. -/
def detectOrder (orientation : FaceOrientation) (tryOtherOrientations : Bool) :
    List FaceOrientation :=
  orientation :: if tryOtherOrientations then kOrientations.filter (· ≠ orientation) else []

/-- `FaceEngine::detect`: the widest face of the first run that finds any. -/
def detect (a : CvFrame) (orientation : FaceOrientation) (large tryOtherOrientations : Bool) :
    Option DetectedFace :=
  (detectOrder orientation tryOtherOrientations).findSome? fun o =>
    match (a.detectFaces large o).found with
    | [] => none
    | f :: fs => some (toDetectedFace (widest f fs) o)

def clampInt (v lo hi : Int) : Int := max lo (min v hi)

/-- Mean luma of the part of the rectangle inside the frame, in [0, 1]. -/
def averageBrightness (nv21 : Nv21) (rect : Rect) : ℚ :=
  let left := (clampInt rect.left 0 kWidth).toNat
  let right := (clampInt rect.right 0 kWidth).toNat
  let top := (clampInt rect.top 0 kHeight).toNat
  let bottom := (clampInt rect.bottom 0 kHeight).toNat
  if right ≤ left ∨ bottom ≤ top then 0
  else
    let sum := ((List.range (bottom - top)).map fun dy =>
      ((List.range (right - left)).map fun dx =>
        (nv21.getD ((top + dy) * kWidth + (left + dx)) 0).toNat).sum).sum
    (sum : ℚ) / (255 * ((right - left : ℕ) : ℚ) * ((bottom - top : ℕ) : ℚ))

def checkQuality (a : CvFrame) (nv21 : Nv21) (face : DetectedFace) : Quality :=
  if a.qualityDetect ≠ 0 then .insufficient
  else
    let brightness := averageBrightness nv21 face.face.rect
    if brightness ≤ kMinBrightness then .tooDark
    else if kMaxBrightness ≤ brightness then .tooBright
    else if kMaxPitch ≤ |face.face.pitch| ∨ kMaxYaw ≤ |face.face.yaw| then .poorGaze
    else .good

/-- `FaceEngine::eyesOpen`. The return code of the SDK is not looked at, so a failing call
is judged by what it left in the scores, 0 at first. -/
def eyesOpen (a : CvFrame) : Bool :=
  let scores := a.detectOcular.out.getD (0, 0)
  decide (kEyeOpenThreshold < scores.1) || decide (kEyeOpenThreshold < scores.2)

/-- `FaceEngine::spoofScore`, which does not look at the return code either. -/
def spoofScore (a : CvFrame) : ℚ := a.detectHackness.out.getD 0

/-- The size of the buffer for a serialized feature: base64 with a terminating NUL. -/
def serializedSize (length : ℕ) : ℕ := (length + 2) / 3 * 4 + 1

/-- The bytes of a serialized feature: what the serializer wrote over a buffer of zeros. Its
return code is not looked at. -/
def serialized (f : SdkFeature) : List UInt8 :=
  (List.range (serializedSize f.length)).map fun i =>
    (f.serializeFeature.out.getD []).getD i 0

def extractFeature (a : CvFrame) : List UInt8 :=
  if a.getFeature.ret ≠ 0 then []
  else
    match a.getFeature.out with
    | none => []
    | some f => serialized f

/-- What the SDK answers when two serialized features are compared. -/
structure CompareIO where
  deserializeFirst : Bool
  deserializeSecond : Bool
  compareFeature : SdkCall ℚ

/-- `FaceEngine::compareFeatures`: a similarity, or -1 on error. -/
def compareFeatures (io : CompareIO) (first second : List UInt8) : ℚ :=
  if first = [] ∨ second = [] then -1
  else if !io.deserializeFirst || !io.deserializeSecond then -1
  else if io.compareFeature.ret ≠ 0 then -1
  else io.compareFeature.out.getD (-1)

end OneplusHal.Face

import Mathlib.Data.Rat.Defs
import OneplusHal.Face.Storage

/-!
The client of the faceapp trusted app, which keeps one feature and a few frames. The app
answers a removal or a comparison on an empty slot with a non-zero result, whatever the
environment asks it to answer.
-/

namespace OneplusHal.Face

def kMaxFrames : ℕ := 5

/-- How opening the two sessions turns out: whether the QSEECom library loads, and for
each session the outcomes of the attempts to start the app. -/
structure TeeOpenIO where
  load : Bool
  startFeature : List Bool
  startFrame : List Bool

/-- An answer to a command: the return code of the transport, and the result the app
wrote, if it wrote one over the sentinel. -/
structure SendAnswer where
  ret : UInt32
  result : Option UInt32
  deriving DecidableEq

structure FaceTee where
  mLib : Bool := false
  mFeatureHandle : Bool := false
  mFrameHandle : Bool := false
  deriving DecidableEq

namespace FaceTee

/-- Five attempts on each of the two paths of the app. -/
def kStartAttempts : ℕ := 5 * 2

def start (attempts : List Bool) (handle : Bool) : Bool :=
  handle || (attempts.take kStartAttempts).any id

/-- `open` is a keyword, hence the name; `FaceTee::open` stops at the first step that
fails. -/
def openTee (io : TeeOpenIO) (t : FaceTee) : Bool × FaceTee :=
  let t := { t with mLib := t.mLib || io.load }
  if !t.mLib then (false, t)
  else
    let t := { t with mFeatureHandle := start io.startFeature t.mFeatureHandle }
    if !t.mFeatureHandle then (false, t)
    else
      let t := { t with mFrameHandle := start io.startFrame t.mFrameHandle }
      (t.mFrameHandle, t)

/-- `FaceTee::send`: the transport's error, or else the app's result, which stays at the
sentinel 9 when the app writes none. -/
def send (a : SendAnswer) : UInt32 :=
  if a.ret ≠ 0 then a.ret else a.result.getD 9

/-- The answer to a command that needs the slot to hold something. -/
def sendOn {α : Type} (slot : Option α) (a : SendAnswer) : UInt32 :=
  if slot.isNone && send a = 0 then 1 else send a

@[simp] theorem sendOn_none {α : Type} (a : SendAnswer) : sendOn (none : Option α) a ≠ 0 := by
  by_cases h : send a = 0 <;> simp [sendOn, h]

@[simp] theorem sendOn_some {α : Type} (x : α) (a : SendAnswer) : sendOn (some x) a = send a := by
  simp [sendOn]

/-- SAVE_FEATURE; an answer other than 0 leaves the slot as it was. -/
def saveFeature (a : SendAnswer) (t : Template) (s : Storage) : Bool × Storage :=
  if send a = 0 then (true, { s with teeFeature := some t }) else (false, s)

/-- REMOVE_FEATURE. -/
def removeFeature (a : SendAnswer) (s : Storage) : Bool × Storage :=
  if sendOn s.teeFeature a = 0 then (true, { s with teeFeature := none }) else (false, s)

/-- COMPARE_FEATURE: the score, with the template the probe was compared against. -/
def compare (a : SendAnswer) (score : ℚ) (s : Storage) : Option (ℚ × Template) :=
  match s.teeFeature with
  | none => none
  | some t => if send a = 0 then some (score, t) else none

def saveFrame (a : SendAnswer) (index : ℕ) (nv21 : Nv21) (s : Storage) : Bool × Storage :=
  if send a = 0 then
    (true, { s with teeFrames := Function.update s.teeFrames index (some nv21) })
  else (false, s)

def removeFrame (a : SendAnswer) (index : ℕ) (s : Storage) : Bool × Storage :=
  if sendOn (s.teeFrames index) a = 0 then
    (true, { s with teeFrames := Function.update s.teeFrames index none })
  else (false, s)

/-- The loop that removes every frame and does not look at the answers. -/
def removeFrames (a : ℕ → SendAnswer) (s : Storage) : Storage :=
  (List.range kMaxFrames).foldl (fun s i => (removeFrame (a i) i s).2) s

end FaceTee

end OneplusHal.Face

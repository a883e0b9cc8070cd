import OneplusHal.Face.AuthEngine
import OneplusHal.Face.FaceTee
import OneplusHal.Lib.Loop

/-!
What runs beside an operation: the camera callbacks, the clock and the client's
cancellation, and the loop that every capture runs over the camera's frames.

The environment decides what happens in every gap in which the operation does not hold
the camera's mutex. The clock only moves forward and a cancellation stays signalled,
which is how `std::chrono::steady_clock` and a fulfilled promise behave.
-/

namespace OneplusHal.Face

open OneplusHal

/-- What happens while an operation computes or waits. -/
structure Gap where
  events : List CameraEvent := []
  elapsed : ℕ := 0
  cancel : Bool := false

/-- A call of `nextFrame`, as the state was when it was made. -/
structure Fetch where
  time : Time
  deadline : Time
  cancelled : Bool
  waiting : Bool
  deriving DecidableEq

/-- The deadline has been reached or `shouldStop()` is true. -/
def Fetch.Stale (f : Fetch) : Prop := f.deadline ≤ f.time ∨ f.cancelled = true

instance (f : Fetch) : Decidable f.Stale := inferInstanceAs (Decidable (_ ∨ _))

/-- The answers when a probe is compared to the enrolled template, by the TEE or by the
engine with the template of the file. -/
structure MatchIO where
  tee : TeeOpenIO
  compare : SendAnswer
  score : ℚ
  readFails : Bool
  compareFeatures : CompareIO

/-- What the cv engine makes of a probe that was compared: the answers it got about the frame
and for the comparison, and the match score. -/
structure Decision where
  frame : CvFrame
  useTee : Bool
  answers : MatchIO
  score : ℚ
  accepted : Bool

/-- What an operation does, in order. The events that handle a frame name the `nextFrame`
call it was fetched by. -/
inductive Event
  | callback (c : Callback)
  /-- an exception leaves the operation and ends the process -/
  | terminate (ex : StdException)
  | cameraStarted (time : Time) (ok : Bool)
  | cameraStopped
  | nextFrame (f : Fetch) (returned : Bool)
  /-- the engine looks at the frame -/
  | detected (f : Fetch)
  | compared (f : Fetch) (t : Template)
  | judged (d : Decision)
  /-- authentication takes the frame for a match -/
  | accepted (f : Fetch) (t : Template)
  /-- the cv engine counts a frame as good for enrollment -/
  | counted (f : Fetch) (a : CvFrame)
  /-- enrollment takes its template from the frame, which the cv engine answered about so -/
  | captured (f : Fetch) (a : Option CvFrame)
  | sdkError (e : Error)

def Event.callback? : Event → Option Callback
  | .callback c => some c
  | _ => none

structure World where
  camera : CameraSource := {}
  now : Time := 0
  cancelled : Bool := false
  trace : List Event := []

namespace World

def log (w : World) (e : Event) : World := { w with trace := w.trace ++ [e] }

def emit (w : World) (c : Callback) : World := w.log (.callback c)

def tick (w : World) (elapsed : ℕ) : World := { w with now := w.now + elapsed }

def pass (w : World) (g : Gap) : World :=
  { w with
    camera := g.events.foldl CameraSource.deliver w.camera
    now := w.now + g.elapsed
    cancelled := w.cancelled || g.cancel }

def fetch (w : World) (deadline : Time) : Fetch :=
  ⟨w.now, deadline, w.cancelled, w.camera.frameWaiting⟩

/-- The body of `CameraSource::nextFrame`. Each gap is one wait on the condition variable,
woken by a callback, by the 50 ms limit or for no reason. When no more of them are given,
nothing arrives any more and the waits go on until the deadline. -/
def awaitFrame (deadline : Time) : List Gap → World → Option Nv21 × World
  | waits, w =>
      if !w.camera.mFrameAvailable && !w.camera.mFailed then
        match waits with
        -- The deadline and the cancellation are looked at after a wait, and nowhere else.
        | [] => (none, { w with now := max w.now deadline })
        | g :: rest =>
            let w := w.pass g
            if w.cancelled || deadline ≤ w.now then (none, w) else awaitFrame deadline rest w
      else if w.camera.mFailed then (none, w)
      else (some w.camera.mFrame, { w with camera := w.camera.takeFrame })

def nextFrame (deadline : Time) (waits : List Gap) (w : World) : Option Nv21 × World :=
  let r := awaitFrame deadline waits w
  (r.1, r.2.log (.nextFrame (w.fetch deadline) r.1.isSome))

def startCamera (w : World) (preview : Bool) (io : StartIO) : Bool × World :=
  let r := w.camera.start preview io
  (r.1, { w with camera := r.2 }.log (.cameraStarted w.now r.1))

def stopCamera (w : World) : World :=
  { w with camera := w.camera.stop }.log .cameraStopped

end World

/-! ### The capture loop -/

/-- One turn of a capture loop: what happens since the last turn, the waits of its
`nextFrame`, and the engine's answers should that yield a frame. -/
structure Call (α : Type) where
  before : Gap
  waits : List Gap
  answers : α

section

variable {α σ : Type}

/-- One turn of `while (camera.nextFrame(&nv21, deadline, cancelled))`. -/
def frameStep (deadline : Time) (body : Fetch → Nv21 → α → World × σ → Bool × World × σ)
    (c : Call α) (p : World × σ) : Bool × World × σ :=
  let w := p.1.pass c.before
  let r := w.nextFrame deadline c.waits
  match r.1 with
  | none => (true, r.2, p.2)
  | some nv21 => body (w.fetch deadline) nv21 c.answers (r.2, p.2)

/-- After the turns that are given, the camera is lost. -/
def cameraLost (deadline : Time) (p : World × σ) : World × σ :=
  (((p.1.pass { events := [.disconnected] }).nextFrame deadline []).2, p.2)

def whileFrames (deadline : Time) (body : Fetch → Nv21 → α → World × σ → Bool × World × σ)
    (calls : List (Call α)) (p : World × σ) : World × σ :=
  Loop.foldUntil (frameStep deadline body) (cameraLost deadline) calls p

end

end OneplusHal.Face

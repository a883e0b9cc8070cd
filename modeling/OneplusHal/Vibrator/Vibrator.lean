import OneplusHal.Vibrator.InputFFDevice

/-!
The vibrator service, over the LED vibrator where there is one and over the force-feedback
device otherwise.

A request answers with a status, and may leave a thread that calls `onComplete` after a
while. `completions` is the list of these threads, by the argument of their `usleep`, the
latest first; the argument is a 32-bit number of microseconds, and none where the product
that gives it overflows.
-/

-- The class has the name of its interface.
set_option linter.dupNamespace false

namespace OneplusHal.Vibrator

/-! ### The LED vibrator -/

/-- How the write of a value to a file of the LED device turns out. -/
inductive WriteValue
  | written
  | openFailed (errno : ℕ) (pos : 0 < errno)
  | writeFailed (errno : ℕ) (pos : 0 < errno)
  /-- the value is written in part -/
  | short

def EAGAIN : ℕ := 11

structure LedVibratorDevice where
  mDetected : Bool := false
  /-- the values written in full, by their files, the latest first -/
  values : List (String × String) := []

namespace LedVibratorDevice

def write_value (file value : String) (io : WriteValue) (l : LedVibratorDevice) :
    Int × LedVibratorDevice :=
  match io with
  | .written => (0, { l with values := (file, value) :: l.values })
  | .openFailed errno _ => (-errno, l)
  | .writeFailed errno _ => (-errno, l)
  | .short => (-EAGAIN, l)

def on (timeoutMs : Int32) (state duration activate : WriteValue) (l : LedVibratorDevice) :
    Int × LedVibratorDevice :=
  let r := l.write_value "/sys/class/leds/vibrator/state" "1" state
  if r.1 < 0 then r
  else
    let value := toString timeoutMs.toUInt32.toNat ++ "\n"
    let r := r.2.write_value "/sys/class/leds/vibrator/duration" value duration
    if r.1 < 0 then r
    else
      let r := r.2.write_value "/sys/class/leds/vibrator/activate" "1" activate
      if r.1 < 0 then r else (0, r.2)

def off (activate : WriteValue) (l : LedVibratorDevice) : Int × LedVibratorDevice :=
  l.write_value "/sys/class/leds/vibrator/activate" "0" activate

end LedVibratorDevice

/-- The values of the AIDL `Effect` enumeration that the service knows. -/
def CLICK : Int32 := 0
def DOUBLE_CLICK : Int32 := 1
def TICK : Int32 := 2
def HEAVY_CLICK : Int32 := 5

/-- The files of one stroke of the LED vibrator, with their values. -/
def ledStroke (duration : String) : List (String × String) :=
  [("/sys/class/leds/vibrator/ignore_store", "0"),
    ("/sys/class/leds/vibrator/duration", duration),
    ("/sys/class/leds/vibrator/vmax", "0x1f"),
    ("/sys/class/leds/vibrator/gain", "0x80"),
    ("/sys/class/leds/vibrator/seq", "0x00 0x03"),
    ("/sys/class/leds/vibrator/loop", "0x00 0x00"),
    ("/sys/class/leds/vibrator/brightness", "1")]

/-- `LED_EFFECTS` -/
def ledEffects (effect : Int32) : Option (List (String × String)) :=
  if effect = CLICK then some (ledStroke "10")
  else if effect = DOUBLE_CLICK then
    some (ledStroke "30" ++ [("SLEEP", "150")] ++ ledStroke "30")
  else if effect = TICK then some (ledStroke "30")
  else if effect = HEAVY_CLICK then some (ledStroke "10")
  else none

/-! ### The service -/

inductive Status
  | ok
  | serviceSpecific
  | unsupportedOperation
  deriving DecidableEq

structure Vibrator where
  ff : InputFFDevice
  ledVib : LedVibratorDevice := {}
  completions : List (Option UInt32) := []

namespace Vibrator

/-- The outcomes of the system calls of one request. -/
structure RequestIO where
  play : InputFFDevice.PlayIO
  /-- the writes to the LED device, in order -/
  values : ℕ → WriteValue
  /-- the property `persist.vendor.vib.gain` -/
  gain : Option String

/-- `timeoutMs * 1000`, a product of two ints, as a `useconds_t`. An overflow of the product is
undefined. -/
def timeoutUs (timeoutMs : Int32) : Option UInt32 :=
  if Int32.minValue.toInt ≤ timeoutMs.toInt * 1000 ∧
      timeoutMs.toInt * 1000 ≤ Int32.maxValue.toInt then
    some (timeoutMs * 1000).toUInt32
  else none

/-- `playLengthMs * 1000`, a product of longs, as a `useconds_t`. -/
def playLengthUs (playLengthMs : Int) : UInt32 := .ofInt (playLengthMs * 1000)

/-- The thread that calls `onComplete` after `usleep`, if there is a callback. -/
def complete (callback : Bool) (us : Option UInt32) (v : Vibrator) : Vibrator :=
  if callback then { v with completions := us :: v.completions } else v

def off (io : RequestIO) (v : Vibrator) : Status × Vibrator :=
  if v.ledVib.mDetected then
    let r := v.ledVib.off (io.values 0)
    (if r.1 ≠ 0 then .serviceSpecific else .ok, { v with ledVib := r.2 })
  else
    let r := v.ff.off io.play
    (if r.1.ret ≠ 0 then .serviceSpecific else .ok, { v with ff := r.2 })

def on (timeoutMs : Int32) (callback : Bool) (io : RequestIO) (v : Vibrator) :
    Status × Vibrator :=
  if v.ledVib.mDetected then
    let r := v.ledVib.on timeoutMs (io.values 0) (io.values 1) (io.values 2)
    let v := { v with ledVib := r.2 }
    if r.1 ≠ 0 then (.serviceSpecific, v) else (.ok, v.complete callback (timeoutUs timeoutMs))
  else
    let r := v.ff.on timeoutMs io.play
    let v := { v with ff := r.2 }
    if r.1.ret ≠ 0 then (.serviceSpecific, v)
    else (.ok, v.complete callback (timeoutUs timeoutMs))

/-- The values of an effect, written one after the other. The results are not looked at. -/
def writeValues (io : ℕ → WriteValue) : ℕ → List (String × String) → LedVibratorDevice →
    LedVibratorDevice
  | _, [], l => l
  | n, (path, value) :: rest, l =>
      if path = "SLEEP" then writeValues io n rest l
      else writeValues io (n + 1) rest (l.write_value path value (io n)).2

def perform (effect : Int32) (es : InputFFDevice.EffectStrength) (callback : Bool)
    (io : RequestIO) (v : Vibrator) : Status × Option Int × Vibrator :=
  if v.ledVib.mDetected then
    match ledEffects effect with
    | none => (.unsupportedOperation, none, v)
    | some values =>
        let l := writeValues io.values 0 values v.ledVib
        let l := (l.write_value "/sys/class/leds/vibrator/gain" (io.gain.getD "0x55")
          (io.values values.length)).2
        (.ok, some 150, { v with ledVib := l }.complete callback (playLengthUs 150))
  else if effect < CLICK ∨ HEAVY_CLICK < effect then (.unsupportedOperation, none, v)
  else if InputFFDevice.magnitude es = none then (.unsupportedOperation, none, v)
  else
    let r := v.ff.playEffect effect es io.play
    let v := { v with ff := r.2 }
    if r.1.ret ≠ 0 then (.serviceSpecific, none, v)
    else
      -- A playing that succeeds has set the length.
      let playLengthMs := r.1.playLengthMs.getD 0
      (.ok, some playLengthMs, v.complete callback (playLengthUs playLengthMs))

end Vibrator

end OneplusHal.Vibrator

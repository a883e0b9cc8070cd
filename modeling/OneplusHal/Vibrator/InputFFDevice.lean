import Mathlib.Data.List.Basic

/-!
The force-feedback vibrator. `play` removes the effect it uploaded before, uploads a new
one and starts it, by three ioctls and a write that may each fail.

The state holds the device's fields and, beside them, what the kernel keeps for its file
descriptor: the uploaded effects, and every effect and input event that it was given. The outcomes
of the system calls are an argument of every function that makes them; they are those after
`TEMP_FAILURE_RETRY`, so that only -1 means failure.
-/

namespace OneplusHal.Vibrator

abbrev INVALID_VALUE {α : Type} [Neg α] [OfNat α 1] : α := -1

def STRONG_MAGNITUDE : Int16 := 0x7fff
def MEDIUM_MAGNITUDE : Int16 := 0x5fff
def LIGHT_MAGNITUDE : Int16 := 0x3fff

/-- The SoCs with external control. -/
def externalControlSocs : List Int32 := [415, 439, 450, 501, 502, 475]

/-- The part of `ff_effect` that depends on its type: `FF_PERIODIC` with the waveform
`FF_CUSTOM` and three words of custom data, or `FF_CONSTANT`. -/
inductive FfBody
  | periodic (magnitude : Int16) (customData : Int16 × Int16 × Int16)
  | constant (level : Int16)
  deriving DecidableEq

structure FfEffect where
  id : Int16
  replayLength : UInt16
  replayDelay : UInt16
  u : FfBody
  deriving DecidableEq

/-- An input event of type `EV_FF`. -/
structure InputEvent where
  code : UInt16
  value : Int32
  deriving DecidableEq

/-- The event code that sets the gain. -/
def FF_GAIN : UInt16 := 0x60

structure InputFFDevice where
  mSupportGain : Bool := false
  mSupportEffects : Bool := false
  mSupportExternalControl : Bool := false
  mInExternalControl : Bool := false
  mVibraFd : Int32 := INVALID_VALUE
  mCurrAppId : Int16 := INVALID_VALUE
  mCurrMagnitude : Int16 := 0x7fff
  /-- kernel: the effects of this file descriptor, the latest first -/
  uploaded : List FfEffect := []
  /-- kernel: every effect that was uploaded, the latest first -/
  given : List FfEffect := []
  /-- kernel: the events written, the latest first -/
  written : List InputEvent := []

namespace InputFFDevice

/-! ### Detection -/

/-- The force-feedback bits of a device that the constructor tests. -/
structure FfBits where
  constant : Bool
  periodic : Bool
  custom : Bool
  gain : Bool

/-- An entry of `/dev/input` other than the two dot entries: what opening it gives, its
name and its bits where they can be read. -/
structure InputNode where
  fd : Int32
  name : Option String
  ffBits : Option FfBits

/-- What the constructor finds: `nodes` is `none` when the directory cannot be opened,
`socFile` is the content of `soc_id` when it can be read. -/
structure Probe where
  soc : Int32
  socFile : Option Int32
  nodes : Option (List InputNode)

/-- The first haptics device that plays constant or periodic effects is taken. -/
def detect (p : Probe) (d : InputFFDevice) : List InputNode → InputFFDevice
  | [] => d
  | node :: rest =>
      if node.fd < 0 then detect p d rest
      else if node.name ≠ some "qcom-hv-haptics" ∧ node.name ≠ some "qti-haptics" then
        detect p d rest
      else
        match node.ffBits with
        | none => detect p d rest
        | some bits =>
            if bits.constant || bits.periodic then
              let soc := if p.soc ≤ 0 then p.socFile.getD p.soc else p.soc
              { d with
                mVibraFd := node.fd
                mSupportEffects := d.mSupportEffects || bits.custom
                mSupportGain := d.mSupportGain || bits.gain
                mSupportExternalControl := externalControlSocs.contains soc }
            else detect p d rest

/-- The constructor. -/
def create (p : Probe) : InputFFDevice :=
  match p.nodes with
  | none => {}
  | some nodes => detect p {} nodes

/-! ### System calls -/

/-- What `EVIOCSFF` fills in: the id of a new effect, and the playing length in seconds
and milliseconds that it returns in the custom data of a predefined effect. -/
structure Upload where
  id : Int16
  seconds : Int16
  milliseconds : Int16
  /-- the kernel counts effects from zero -/
  id_nonneg : 0 ≤ id

/-- The outcomes of the system calls of one `play`. -/
structure PlayIO where
  /-- `EVIOCRMFF` of the effect played before -/
  remove : Bool
  /-- `EVIOCSFF` -/
  upload : Option Upload
  /-- the write of the start event -/
  start : Bool
  /-- `EVIOCRMFF` after a start that failed -/
  removeUnstarted : Bool

/-- A successful `EVIOCRMFF` of `mCurrAppId`. -/
def eviocrmff (d : InputFFDevice) : InputFFDevice :=
  { d with uploaded := d.uploaded.filter fun e => e.id ≠ d.mCurrAppId }

/-- A successful `EVIOCSFF`: an effect with the id -1 is new, one with another id replaces
the effect of that id. Returns the effect as the kernel left it. -/
def eviocsff (effect : FfEffect) (u : Upload) (d : InputFFDevice) : FfEffect × InputFFDevice :=
  if effect.id = INVALID_VALUE then
    let effect := { effect with id := u.id }
    (effect, { d with uploaded := effect :: d.uploaded, given := effect :: d.given })
  else
    (effect,
      { d with
        uploaded := d.uploaded.map fun e => if e.id = effect.id then effect else e
        given := effect :: d.given })

/-- A successful write of an event. -/
def write (ie : InputEvent) (d : InputFFDevice) : InputFFDevice :=
  { d with written := ie :: d.written }

/-! ### Playing -/

/-- The effect that `play` uploads. A predefined effect leaves the replay length zero. -/
def effectOf (d : InputFFDevice) (effectId : Int32) (timeoutMs : UInt32) : FfEffect :=
  if effectId ≠ INVALID_VALUE then
    { id := d.mCurrAppId
      replayLength := 0
      replayDelay := 0
      u := .periodic d.mCurrMagnitude (effectId.toInt16, 0, 0) }
  else
    { id := d.mCurrAppId
      replayLength := timeoutMs.toUInt16
      replayDelay := 0
      u := .constant d.mCurrMagnitude }

/-- What `play` returns: its result, and what it stores through `playLengthMs` where the
pointer is not null. -/
structure PlayResult where
  ret : Int32
  playLengthMs : Option Int := none
  deriving DecidableEq

/-- The label `errout`. -/
def errout (d : InputFFDevice) (r : PlayResult) : PlayResult × InputFFDevice :=
  (r, { d with mCurrAppId := INVALID_VALUE })

/-- `play` after the upload. -/
def startEffect (d : InputFFDevice) (playLengthMs : Option Int) (io : PlayIO) :
    PlayResult × InputFFDevice :=
  if io.start then
    (⟨0, playLengthMs⟩, d.write { code := d.mCurrAppId.toUInt16, value := 1 })
  -- The result is now that of the removal.
  else if io.removeUnstarted then d.eviocrmff.errout ⟨0, playLengthMs⟩
  else d.errout ⟨-1, playLengthMs⟩

/-- The device once `play` has removed the effect of the call before, if there was one. -/
def removePrevious (d : InputFFDevice) : InputFFDevice :=
  if d.mCurrAppId ≠ INVALID_VALUE then { d.eviocrmff with mCurrAppId := INVALID_VALUE } else d

def play (effectId : Int32) (timeoutMs : UInt32) (io : PlayIO) (d : InputFFDevice) :
    PlayResult × InputFFDevice :=
  if d.mVibraFd = INVALID_VALUE then (⟨0, some 0⟩, d)
  else if timeoutMs ≠ 0 then
    if d.mCurrAppId ≠ INVALID_VALUE ∧ io.remove = false then d.errout ⟨-1, none⟩
    else
      let d := d.removePrevious
      match io.upload with
      | none => d.errout ⟨-1, none⟩
      | some u =>
          let uploaded := d.eviocsff (d.effectOf effectId timeoutMs) u
          let d := { uploaded.2 with mCurrAppId := uploaded.1.id }
          let playLengthMs : Option Int :=
            if effectId ≠ INVALID_VALUE then
              some (u.seconds.toInt * 1000 + u.milliseconds.toInt)
            else none
          d.startEffect playLengthMs io
  else if d.mCurrAppId ≠ INVALID_VALUE then
    if io.remove then (⟨0, none⟩, { d.eviocrmff with mCurrAppId := INVALID_VALUE })
    else d.errout ⟨-1, none⟩
  else (⟨0, none⟩, d)

def on (timeoutMs : Int32) (io : PlayIO) (d : InputFFDevice) : PlayResult × InputFFDevice :=
  d.play INVALID_VALUE timeoutMs.toUInt32 io

def off (io : PlayIO) (d : InputFFDevice) : PlayResult × InputFFDevice :=
  d.play INVALID_VALUE 0 io

/-- `success` is the outcome of writing the gain. -/
def setAmplitude (amplitude : UInt8) (success : Bool) (d : InputFFDevice) :
    PlayResult × InputFFDevice :=
  if d.mVibraFd = INVALID_VALUE then (⟨0, none⟩, d)
  else
    let tmp := amplitude.toNat * (0x7fff - 0x3fff) / 255 + 0x3fff
    if success then
      (⟨0, none⟩,
        { d.write { code := FF_GAIN, value := Int32.ofNat tmp } with
          mCurrMagnitude := Int16.ofNat tmp })
    else (⟨-1, none⟩, d)

/-- The strengths of the interface; a caller may send a value that is none of them. -/
inductive EffectStrength
  | light
  | medium
  | strong
  | other (value : Int8)

def magnitude : EffectStrength → Option Int16
  | .light => some LIGHT_MAGNITUDE
  | .medium => some MEDIUM_MAGNITUDE
  | .strong => some STRONG_MAGNITUDE
  | .other _ => none

def playEffect (effectId : Int32) (es : EffectStrength) (io : PlayIO) (d : InputFFDevice) :
    PlayResult × InputFFDevice :=
  match magnitude es with
  | none => (⟨-1, none⟩, d)
  | some m =>
      { d with mCurrMagnitude := m }.play effectId (INVALID_VALUE : Int32).toUInt32 io

end InputFFDevice

end OneplusHal.Vibrator

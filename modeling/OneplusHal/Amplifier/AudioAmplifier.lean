import Mathlib.Data.List.Basic

/-!
The feedback stream of the audio amplifier. `amp_set_feedback` starts and stops a capture
stream for the speaker protection, and enters a usecase of its own into the list of the
audio HAL.

Every call out of the module, every access to a usecase and every access to a PCM is an
event of `log`. Usecases and PCMs are numbered in the order in which they are allocated
and opened, so that a pointer that is left dangling still has its number. There is one
audio device, the `adev` of every call.
-/

namespace OneplusHal.Amplifier

def ENODEV : Int32 := 19
def EIO : Int32 := 5
def ENOMEM : Int32 := 12
def EINVAL : Int32 := 22

/-- The sound devices that the module names; the others are numbered. -/
inductive SndDevice
  | outSpeaker
  | outSpeakerReverse
  | outSpeakerAndHeadphones
  | outVoiceSpeaker
  | outVoiceSpeaker2
  | outSpeakerAndHdmi
  | outSpeakerAndUsbHeadset
  | outSpeakerAndAncHeadset
  | inCaptureViFeedback
  | other (n : ℕ)
  deriving DecidableEq

def isSpeaker : SndDevice → Bool
  | .outSpeaker
  | .outSpeakerReverse
  | .outSpeakerAndHeadphones
  | .outVoiceSpeaker
  | .outVoiceSpeaker2
  | .outSpeakerAndHdmi
  | .outSpeakerAndUsbHeadset
  | .outSpeakerAndAncHeadset => true
  | .inCaptureViFeedback
  | .other _ => false

inductive UsecaseId
  | spkrCalibTx
  | other (n : ℕ)
  deriving DecidableEq

inductive UsecaseType
  | pcmPlayback
  | pcmCapture
  deriving DecidableEq

/-- An `audio_usecase`, with the number of its allocation. -/
structure Usecase where
  ptr : ℕ
  id : UsecaseId
  type : UsecaseType
  inSndDevice : SndDevice
  deriving DecidableEq

structure PcmConfig where
  channels : ℕ
  rate : ℕ
  periodSize : ℕ
  periodCount : ℕ
  startThreshold : ℕ
  stopThreshold : ℕ
  silenceThreshold : ℕ
  deriving DecidableEq

/-- The format is `PCM_FORMAT_S16_LE`. -/
def pcmConfigTfa98xx : PcmConfig where
  channels := 2
  rate := 48000
  periodSize := 256
  periodCount := 4
  startThreshold := 0
  stopThreshold := 0x7fffffff
  silenceThreshold := 0

/-- A list operation carries the nodes that are linked when it begins. -/
inductive Event
  | calloc (uc : ℕ)
  | read (uc : ℕ)
  | write (uc : ℕ)
  | free (uc : ℕ)
  | listAddTail (uc : ℕ) (nodes : List ℕ)
  | listRemove (uc : ℕ) (nodes : List ℕ)
  | getUsecaseFromList (nodes : List ℕ)
  | enableSndDevice (device : SndDevice)
  | disableSndDevice (device : SndDevice)
  | enableAudioRoute (uc : ℕ)
  | disableAudioRoute (uc : ℕ)
  | pcmOpen (pcmDevice : Int32) (config : PcmConfig) (pcm : Option ℕ)
  | pcmIsReady (pcm : Option ℕ)
  | pcmGetError (pcm : Option ℕ)
  | pcmStart (pcm : Option ℕ)
  | pcmClose (pcm : ℕ)
  deriving DecidableEq

/-- The amplifier device, and the list of usecases of the audio HAL. -/
structure Amp where
  usecaseTx : Option Usecase := none
  tfa98xxOut : Option ℕ := none
  usecaseList : List Usecase := []
  /-- the number of the next allocation, of the HAL or of this module -/
  nextUsecase : ℕ := 0
  nextPcm : ℕ := 0
  log : List Event := []

/-- How the calls made by a start turn out. -/
structure StartIO where
  calloc : Bool
  pcmDeviceId : Int32
  /-- `pcm_open` does not return null -/
  pcmOpen : Bool
  pcmIsReady : Bool
  pcmStart : Int32

namespace Amp

/-! ### Calls out of the module -/

def emit (e : Event) (a : Amp) : Amp := { a with log := a.log ++ [e] }

def nodes (a : Amp) : List ℕ := a.usecaseList.map Usecase.ptr

/-- A successful `calloc`, whose fields are then filled in. -/
def alloc (uc : Usecase) (a : Amp) : Amp :=
  ({ a with nextUsecase := a.nextUsecase + 1 }.emit (.calloc uc.ptr)).emit (.write uc.ptr)

def listAddTail (uc : Usecase) (a : Amp) : Amp :=
  { a.emit (.listAddTail uc.ptr a.nodes) with usecaseList := a.usecaseList ++ [uc] }

def listRemove (uc : Usecase) (a : Amp) : Amp :=
  { a.emit (.listRemove uc.ptr a.nodes) with
    usecaseList := a.usecaseList.filter fun u => u.ptr ≠ uc.ptr }

/-- The first usecase of the list with the id. -/
def getUsecaseFromList (id : UsecaseId) (a : Amp) : Option Usecase × Amp :=
  (a.usecaseList.find? fun u => u.id = id, a.emit (.getUsecaseFromList a.nodes))

/-- `pcm_open`, into `tfa98xx_out`. -/
def pcmOpen (pcmDevice : Int32) (opened : Bool) (a : Amp) : Amp :=
  let pcm := if opened then some a.nextPcm else none
  { a.emit (.pcmOpen pcmDevice pcmConfigTfa98xx pcm) with
    tfa98xxOut := pcm
    nextPcm := if opened then a.nextPcm + 1 else a.nextPcm }

/-- Close the stream that is open and clear its pointer. -/
def closeOut (a : Amp) : Amp :=
  match a.tfa98xxOut with
  | none => a
  | some pcm => { a.emit (.pcmClose pcm) with tfa98xxOut := none }

/-! ### Feedback -/

/-- The label `error` of a start. -/
def startError (uc : Usecase) (rc : Int32) (a : Amp) : Int32 × Amp :=
  let a := a.closeOut
  let a := a.listRemove uc
  let a := (a.emit (.read uc.ptr)).emit (.disableSndDevice uc.inSndDevice)
  let a := a.emit (.disableAudioRoute uc.ptr)
  (rc, a.emit (.free uc.ptr))

/-- `usecase_tx` as a start fills it in. -/
def feedbackUsecase (a : Amp) : Usecase where
  ptr := a.nextUsecase
  id := .spkrCalibTx
  type := .pcmCapture
  inSndDevice := .inCaptureViFeedback

/-- A start from the entry into the list to the enabled audio route. -/
def route (uc : Usecase) (a : Amp) : Amp :=
  let a := a.listAddTail uc
  let a := (a.emit (.read uc.ptr)).emit (.enableSndDevice uc.inSndDevice)
  (a.emit (.enableAudioRoute uc.ptr)).emit (.read uc.ptr)

def startFeedback (sndDevice : SndDevice) (io : StartIO) (a : Amp) : Int32 × Amp :=
  if a.tfa98xxOut.isSome || !isSpeaker sndDevice then (0, a)
  else if !io.calloc then (-ENOMEM, { a with usecaseTx := none })
  else
    let uc := a.feedbackUsecase
    let a := { a.alloc uc with usecaseTx := some uc }.route uc
    -- The message about an invalid PCM device names the usecase.
    if io.pcmDeviceId < 0 then (a.emit (.read uc.ptr)).startError uc (-ENODEV)
    else
      let a := a.pcmOpen io.pcmDeviceId io.pcmOpen
      let a := a.emit (.pcmIsReady a.tfa98xxOut)
      -- A null PCM is not ready.
      if !(io.pcmOpen && io.pcmIsReady) then
        (a.emit (.pcmGetError a.tfa98xxOut)).startError uc (- EIO)
      else
        let a := a.emit (.pcmStart a.tfa98xxOut)
        if io.pcmStart < 0 then a.startError uc (-EINVAL) else (0, a)

def stopFeedback (sndDevice : SndDevice) (a : Amp) : Amp :=
  if !isSpeaker sndDevice then a
  else
    let a := a.closeOut
    let a := a.emit (.disableSndDevice .inCaptureViFeedback)
    let found := a.getUsecaseFromList .spkrCalibTx
    let a := { found.2 with usecaseTx := found.1 }
    match found.1 with
    | none => a
    | some uc => ((a.listRemove uc).emit (.disableAudioRoute uc.ptr)).emit (.free uc.ptr)

/-- The result of the start is dropped. -/
def setFeedback (devices : SndDevice) (enable : Bool) (io : StartIO) (a : Amp) : Int32 × Amp :=
  if enable then (0, (a.startFeedback devices io).2) else (0, a.stopFeedback devices)

/-! ### The audio HAL -/

/-- The audio HAL enters a usecase of its own, which is not a calibration usecase. -/
def halAdd (id : ℕ) (type : UsecaseType) (inSndDevice : SndDevice) (a : Amp) : Amp :=
  let uc : Usecase := ⟨a.nextUsecase, .other id, type, inSndDevice⟩
  (a.alloc uc).listAddTail uc

/-- The audio HAL removes and frees a usecase of its own. -/
def halRemove (id : ℕ) (a : Amp) : Amp :=
  match a.usecaseList.find? fun u => u.id = .other id with
  | none => a
  | some uc => (a.listRemove uc).emit (.free uc.ptr)

end Amp

/-- How the calls made by `amp_module_open` turn out. -/
structure OpenIO where
  nameMatches : Bool
  calloc : Bool
  audioPrimary : Bool
  /-- the lookups of the six symbols of the audio HAL -/
  symbols : List Bool

def ampModuleOpen (io : OpenIO) : Except Int32 Amp :=
  if !io.nameMatches then .error (-ENODEV)
  else if !io.calloc then .error (-ENOMEM)
  else if !io.audioPrimary then .error (-ENODEV)
  else if io.symbols.contains false then .error (-ENODEV)
  else .ok {}

end OneplusHal.Amplifier

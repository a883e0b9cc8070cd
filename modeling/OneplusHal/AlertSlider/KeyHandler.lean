import Mathlib.Data.List.Basic
import OneplusHal.AlertSlider.AlertSliderPlugin

/-!
The service that turns slider events into ringer modes. A slider event submits a task to
an executor of one thread; broadcasts about muted streams are received on the main thread.

A task is run in steps, one for each access to what it shares with the others: the media
stream and the flag `wasMuted`. What it does besides is part of its first or its last
step. The media stream is that on which `adjustVolume` acts. `mute` is the mute in force,
with the ghost of who has put it there: a mute of a stream that is muted changes nothing,
and only a change sends a broadcast.
-/

namespace OneplusHal.AlertSlider

def RINGER_MODE_SILENT : Int := 0
def RINGER_MODE_VIBRATE : Int := 1
def RINGER_MODE_NORMAL : Int := 2

def ZEN_OFFSET : Int := 2
def ZEN_PRIORITY_ONLY : Int := 3
def ZEN_TOTAL_SILENCE : Int := 4
def ZEN_ALARMS_ONLY : Int := 5
def ZEN_MODE_OFF : Int := 0

def STREAM_MUSIC : Int := 3

/-- Who has put a mute in force. -/
inductive Owner
  | slider
  | user
  deriving DecidableEq

/-- The shared preferences; the modes of the positions are parsed already. -/
structure Preferences where
  muteMedia : Bool
  showDialog : Bool
  top : Int
  middle : Int
  bottom : Int

/-- What `handleMode` submits to the executor. -/
structure Task where
  position : Int
  mode : Int
  muteMedia : Bool
  showDialog : Bool
  deriving DecidableEq

/-- The vibration effects. -/
inductive Vibration
  | modeVibration
  | modeNormal
  deriving DecidableEq

/-- Where the executor stands in a task: it has muted media and is about to set the flag,
or it has read that the flag is set and is about to unmute media. -/
inductive Running
  | muting (t : Task)
  | unmuting (t : Task)
  deriving DecidableEq

structure KeyHandler where
  mute : Option Owner := none
  wasMuted : Bool := false
  /-- the broadcasts about the media stream that have not been received: is it muted? -/
  broadcasts : List Bool := []
  tasks : List Task := []
  running : Option Running := none
  zenMode : Int := ZEN_MODE_OFF
  ringerMode : Int := RINGER_MODE_NORMAL
  /-- `CHANGED_ACTION` as it was sent: position and mode -/
  notifications : List (Int × Int) := []
  vibrations : List Vibration := []

namespace KeyHandler

/-! ### The media stream -/

/-- `ADJUST_MUTE`, by the slider or by the user. -/
def adjustMute (owner : Owner) (k : KeyHandler) : KeyHandler :=
  if k.mute = none then
    { k with mute := some owner, broadcasts := k.broadcasts ++ [true] }
  else k

/-- `ADJUST_UNMUTE`. -/
def adjustUnmute (k : KeyHandler) : KeyHandler :=
  if k.mute ≠ none then
    { k with mute := none, broadcasts := k.broadcasts ++ [false] }
  else k

/-- The receiver; an extra is `none` when the intent does not have it. -/
def onReceive (streamType : Option Int) (muted : Option Bool) (k : KeyHandler) : KeyHandler :=
  if streamType.getD (-1) = STREAM_MUSIC ∧ muted.getD false = false then
    { k with wasMuted := false }
  else k

/-! ### The executor -/

def modeOf (prefs : Preferences) (position : Int) : Option Int :=
  if position = POSITION_TOP then some prefs.top
  else if position = POSITION_MIDDLE then some prefs.middle
  else if position = POSITION_BOTTOM then some prefs.bottom
  else none

def handleMode (prefs : Preferences) (position : Int) (k : KeyHandler) : KeyHandler :=
  match modeOf prefs position with
  | none => k
  | some mode =>
      { k with tasks := k.tasks ++ [⟨position, mode, prefs.muteMedia, prefs.showDialog⟩] }

def setZenMode (zenMode : Int) (k : KeyHandler) : KeyHandler := { k with zenMode := zenMode }

def setRingerMode (mode : Int) (k : KeyHandler) : KeyHandler := { k with ringerMode := mode }

def vibrateIfNeeded (mode : Int) (k : KeyHandler) : KeyHandler :=
  if mode = RINGER_MODE_VIBRATE then { k with vibrations := .modeVibration :: k.vibrations }
  else if mode = RINGER_MODE_NORMAL then { k with vibrations := .modeNormal :: k.vibrations }
  else k

/-- The end of every task. -/
def finish (t : Task) (k : KeyHandler) : KeyHandler :=
  let k := { k with running := none }
  let k := if t.showDialog then
      { k with notifications := (t.position, t.mode) :: k.notifications }
    else k
  k.vibrateIfNeeded t.mode

/-- The read of the flag with which a move to a mode that is not silent begins. -/
def unmuteIfMuted (t : Task) (k : KeyHandler) : KeyHandler :=
  if t.muteMedia && k.wasMuted then { k with running := some (.unmuting t) } else k.finish t

/-- A task up to its first access to the media stream or to the flag. -/
def start (t : Task) (k : KeyHandler) : KeyHandler :=
  if t.mode = RINGER_MODE_SILENT then
    let k := (k.setZenMode ZEN_MODE_OFF).setRingerMode t.mode
    if t.muteMedia then { k.adjustMute .slider with running := some (.muting t) }
    else k.finish t
  else if t.mode = RINGER_MODE_VIBRATE ∨ t.mode = RINGER_MODE_NORMAL then
    ((k.setZenMode ZEN_MODE_OFF).setRingerMode t.mode).unmuteIfMuted t
  else if t.mode = ZEN_PRIORITY_ONLY ∨ t.mode = ZEN_TOTAL_SILENCE ∨ t.mode = ZEN_ALARMS_ONLY then
    ((k.setRingerMode RINGER_MODE_NORMAL).setZenMode (t.mode - ZEN_OFFSET)).unmuteIfMuted t
  else k.finish t

/-- One step of the executor. -/
def execute (k : KeyHandler) : KeyHandler :=
  match k.running with
  | some (.muting t) => { k with wasMuted := true }.finish t
  | some (.unmuting t) => k.adjustUnmute.finish t
  | none =>
      match k.tasks with
      | [] => k
      | t :: rest => { k with tasks := rest }.start t

/-! ### The steps -/

/-- The service as it is created, while the user may have muted media. -/
def onCreate (userMuted : Bool) : KeyHandler :=
  { mute := if userMuted then some .user else none }

inductive Input
  | sliderMoved (prefs : Preferences) (position : Int)
  | execute
  | userMute
  | userUnmute
  /-- the oldest broadcast about the media stream is received -/
  | deliver
  /-- a broadcast about another stream is received -/
  | deliverOther (streamType : Int) (muted : Bool) (h : streamType ≠ STREAM_MUSIC)

def step (k : KeyHandler) : Input → KeyHandler
  | .sliderMoved prefs position => k.handleMode prefs position
  | .execute => k.execute
  | .userMute => k.adjustMute .user
  | .userUnmute => k.adjustUnmute
  | .deliver =>
      match k.broadcasts with
      | [] => k
      | muted :: rest => { k with broadcasts := rest }.onReceive (some STREAM_MUSIC) (some muted)
  | .deliverOther streamType muted _ => k.onReceive (some streamType) (some muted)

end KeyHandler

end OneplusHal.AlertSlider

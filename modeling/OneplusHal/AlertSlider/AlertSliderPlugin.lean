import OneplusHal.Lib.Looper

/-!
The overlay that shows the position of the alert slider. The broadcast receiver and the
`NotificationHandler` both run on the main looper: a broadcast posts messages, and the
handler takes them one by one.

`sent` and `updated` are ghosts: the slider broadcasts in their order, and the time at
which the update of each was handled. The number `event` of a slider broadcast, which its
two messages carry, is one as well.
-/

namespace OneplusHal.AlertSlider

open OneplusHal

def POSITION_TOP : Int := 1
def POSITION_MIDDLE : Int := 2
def POSITION_BOTTOM : Int := 3

/-- No ringer mode. -/
def NONE : Int := -1

/-- In milliseconds. -/
def DIALOG_TIMEOUT : ℕ := 3000

structure NotificationInfo where
  position : Int
  mode : Int
  event : ℕ
  deriving DecidableEq

inductive Message
  | dialogShow (event : ℕ)
  | dialogDismiss
  | dialogReset
  | dialogUpdate (info : NotificationInfo)
  | dialogRecreate
  deriving DecidableEq

namespace Message

def isShow : Message → Bool
  | .dialogShow _ => true
  | _ => false

def isDismiss : Message → Bool
  | .dialogDismiss => true
  | _ => false

def isReset : Message → Bool
  | .dialogReset => true
  | _ => false

end Message

/-- What a recreate compares: the resources' configuration and the display's rotation. -/
structure Configuration where
  densityDpi : Int
  rotation : Int
  smallestScreenWidthDp : Int
  uiMode : Int
  deriving DecidableEq

/-- What a handler reads from its context. -/
structure Context where
  configuration : Configuration
  pulseOnNotification : Bool

structure AlertSliderDialog where
  isShowing : Bool := false
  /-- what `setState` has set -/
  state : Option NotificationInfo := none
  deriving DecidableEq

/-- The handler with the messages that are pending for it, and the clock. -/
structure Plugin where
  now : ℕ
  queue : MessageQueue Message := []
  dialog : AlertSliderDialog := {}
  /-- the dialogs that a recreate has replaced -/
  replaced : List AlertSliderDialog := []
  /-- `currDensity`, `currRotation`, `currSmallestWidth` and `currUIMode` -/
  curr : Configuration
  lastInfo : Option NotificationInfo := none
  showing : Bool := false
  /-- the number of doze pulses asked for -/
  dozePulses : ℕ := 0
  sent : List NotificationInfo := []
  updated : List (ℕ × ℕ) := []

namespace Plugin

/-! ### The handler -/

def post (m : Message) (delay : ℕ) (p : Plugin) : Plugin :=
  { p with queue := p.queue.enqueue ⟨p.now + delay, m⟩ }

def removeMessages (what : Message → Bool) (p : Plugin) : Plugin :=
  { p with queue := p.queue.removeMessages what }

def launchDozePulse (c : Context) (p : Plugin) : Plugin :=
  if c.pulseOnNotification then { p with dozePulses := p.dozePulses + 1 } else p

def handleResetTimeout (p : Plugin) : Plugin :=
  (p.removeMessages Message.isDismiss).post .dialogDismiss DIALOG_TIMEOUT

/-- The setter of `showing`. -/
def setShowing (value : Bool) (c : Context) (p : Plugin) : Plugin :=
  if p.showing ≠ value then
    let p := p.removeMessages Message.isShow
    let p := p.removeMessages Message.isDismiss
    let p := p.removeMessages Message.isReset
    if value then
      let p := p.handleResetTimeout.launchDozePulse c
      { p with dialog := { p.dialog with isShowing := true }, showing := true }
    else { p with dialog := { p.dialog with isShowing := false }, showing := false }
  else p

def handleShow (c : Context) (p : Plugin) : Plugin := p.setShowing true c

def handleDismiss (c : Context) (p : Plugin) : Plugin := p.setShowing false c

def setState (info : NotificationInfo) (d : AlertSliderDialog) : AlertSliderDialog :=
  { d with state := some info }

def handleUpdate (info : NotificationInfo) (c : Context) (p : Plugin) : Plugin :=
  let p := { p with lastInfo := some info, updated := (info.event, p.now) :: p.updated }
  let p := p.handleResetTimeout.launchDozePulse c
  { p with dialog := setState info p.dialog }

/-- A new dialog, with the state of the last update if there was one. -/
def createDialog (lastInfo : Option NotificationInfo) : AlertSliderDialog :=
  match lastInfo with
  | none => {}
  | some info => setState info {}

def handleRecreate (c : Context) (p : Plugin) : Plugin :=
  if c.configuration ≠ p.curr then
    let wasShowing := p.showing
    let p := p.setShowing false c
    let p := { p with dialog := createDialog p.lastInfo, replaced := p.dialog :: p.replaced }
    let p := if wasShowing then p.setShowing true c else p
    { p with curr := c.configuration }
  else p

def handleMessage (m : Message) (c : Context) (p : Plugin) : Plugin :=
  match m with
  | .dialogShow _ => p.handleShow c
  | .dialogDismiss => p.handleDismiss c
  | .dialogReset => p.handleResetTimeout
  | .dialogUpdate info => p.handleUpdate info c
  | .dialogRecreate => p.handleRecreate c

/-! ### The receiver -/

/-- A slider broadcast; an extra is `none` when the intent does not have it. The two
messages are posted `gap` milliseconds apart. -/
def onSliderChanged (position mode : Option Int) (gap : ℕ) (p : Plugin) : Plugin :=
  if mode.getD NONE = NONE then p
  else
    let info : NotificationInfo :=
      ⟨position.getD POSITION_BOTTOM, mode.getD NONE, p.sent.length⟩
    let p := { p.post (.dialogUpdate info) 0 with sent := p.sent ++ [info] }
    { p with now := p.now + gap }.post (.dialogShow info.event) 0

def onConfigurationChanged (p : Plugin) : Plugin := p.post .dialogRecreate 0

/-! ### The main looper -/

/-- The plugin as it is created, at any time and in any configuration. -/
def onCreate (now : ℕ) (configuration : Configuration) : Plugin :=
  { now := now, curr := configuration }

/-- The looper handles the head of the queue if it is due. -/
def dispatch (c : Context) (p : Plugin) : Plugin :=
  match p.queue.next? p.now with
  | none => p
  | some (e, rest) => { p with queue := rest }.handleMessage e.msg c

inductive Input
  | sliderChanged (position mode : Option Int) (gap : ℕ)
  | configurationChanged
  | elapse (ms : ℕ)
  | dispatch (c : Context)

def step (p : Plugin) : Input → Plugin
  | .sliderChanged position mode gap => p.onSliderChanged position mode gap
  | .configurationChanged => p.onConfigurationChanged
  | .elapse ms => { p with now := p.now + ms }
  | .dispatch c => p.dispatch c

end Plugin

end OneplusHal.AlertSlider

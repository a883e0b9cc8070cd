import OneplusHal.Lib.Machine

/-!
The doze service. It lives while the display may doze, and keeps the listeners of the
pickup and of the pocket sensor registered while the screen is off.

Broadcasts and changes of the preferences come on the main thread. A sensor registers and
unregisters its listener in tasks of an executor of its own, which has one thread and runs
them in the order in which they were submitted. `screen` is a ghost: the screen broadcast
handled last, with the preferences as they were then.
-/

namespace OneplusHal.Doze

open OneplusHal

/-! ### The preferences -/

/-- The stored values of `gesture_pick_up_type` and `gesture_pocket`. -/
structure Preferences where
  gesturePickUpType : Option String := none
  gesturePocket : Option Bool := none

namespace Preferences

def isPickUpEnabled (p : Preferences) : Bool := p.gesturePickUpType.getD "0" != "0"

def isPocketEnabled (p : Preferences) : Bool := p.gesturePocket.getD false

end Preferences

/-! ### The sensors -/

/-- What `enable` and `disable` submit. -/
inductive ListenerTask
  | register
  | unregister
  deriving DecidableEq

structure Listener where
  entryTimestamp : ℕ := 0
  /-- the sensor manager has the listener -/
  registered : Bool := false

/-- A task, run at the time `elapsedRealtime`. -/
def Listener.run (elapsedRealtime : ℕ) (l : Listener) : ListenerTask → Listener
  | .register => { entryTimestamp := elapsedRealtime, registered := true }
  | .unregister => { l with registered := false }

/-- What `PickupSensor` and `PocketSensor` have in common. -/
structure GestureSensor where
  /-- the device has a sensor of the type -/
  sensor : Bool
  /-- the tasks that have not run, the oldest first -/
  executorService : List ListenerTask := []
  listener : Listener := {}

namespace GestureSensor

def submit (t : ListenerTask) (s : GestureSensor) : GestureSensor :=
  { s with executorService := s.executorService ++ [t] }

def enable (s : GestureSensor) : GestureSensor := if s.sensor then s.submit .register else s

def disable (s : GestureSensor) : GestureSensor := if s.sensor then s.submit .unregister else s

/-- The executor runs its next task. -/
def execute (elapsedRealtime : ℕ) (s : GestureSensor) : GestureSensor :=
  match s.executorService with
  | [] => s
  | t :: rest => { s with executorService := rest, listener := s.listener.run elapsedRealtime t }

/-- The sensor once the executor has run what is queued. -/
def settle (elapsedRealtime : ℕ) (s : GestureSensor) : GestureSensor :=
  { s with
    executorService := []
    listener := Machine.run (Listener.run elapsedRealtime) s.listener s.executorService }

end GestureSensor

abbrev PickupSensor := GestureSensor

def PickupSensor.enable (s : PickupSensor) : PickupSensor := GestureSensor.enable s

def PickupSensor.disable (s : PickupSensor) : PickupSensor := GestureSensor.disable s

abbrev PocketSensor := GestureSensor

def PocketSensor.enable (s : PocketSensor) : PocketSensor := GestureSensor.enable s

def PocketSensor.disable (s : PocketSensor) : PocketSensor := GestureSensor.disable s

/-! ### The service -/

/-- A screen broadcast as it was handled. -/
structure Screen where
  off : Bool
  preferences : Preferences

structure DozeService where
  preferences : Preferences
  pickupSensor : PickupSensor
  pocketSensor : PocketSensor
  screen : Option Screen := none

namespace DozeService

/-- The arguments say which of the sensors the device has. -/
def onCreate (preferences : Preferences) (pickup pocket : Bool) : DozeService where
  preferences := preferences
  pickupSensor := { sensor := pickup }
  pocketSensor := { sensor := pocket }

def onDisplayOn (d : DozeService) : DozeService :=
  let d :=
    if d.preferences.isPickUpEnabled then
      { d with pickupSensor := PickupSensor.disable d.pickupSensor }
    else d
  let d :=
    if d.preferences.isPocketEnabled then
      { d with pocketSensor := PocketSensor.disable d.pocketSensor }
    else d
  { d with screen := some ⟨false, d.preferences⟩ }

def onDisplayOff (d : DozeService) : DozeService :=
  let d :=
    if d.preferences.isPickUpEnabled then
      { d with pickupSensor := PickupSensor.enable d.pickupSensor }
    else d
  let d :=
    if d.preferences.isPocketEnabled then
      { d with pocketSensor := PocketSensor.enable d.pocketSensor }
    else d
  { d with screen := some ⟨true, d.preferences⟩ }

/-- The sensors are disabled here whatever the preferences say. -/
def onDestroy (d : DozeService) : DozeService :=
  { d with
    pickupSensor := PickupSensor.disable d.pickupSensor
    pocketSensor := PocketSensor.disable d.pocketSensor }

/-- What can happen while the service is alive. -/
inductive Input
  | screenOn
  | screenOff
  | setPickUp (value : Option String)
  | setPocket (value : Option Bool)
  | executePickup (elapsedRealtime : ℕ)
  | executePocket (elapsedRealtime : ℕ)

def step (d : DozeService) : Input → DozeService
  | .screenOn => d.onDisplayOn
  | .screenOff => d.onDisplayOff
  | .setPickUp value => { d with preferences.gesturePickUpType := value }
  | .setPocket value => { d with preferences.gesturePocket := value }
  | .executePickup time => { d with pickupSensor := d.pickupSensor.execute time }
  | .executePocket time => { d with pocketSensor := d.pocketSensor.execute time }

end DozeService

end OneplusHal.Doze

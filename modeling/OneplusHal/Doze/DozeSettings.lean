import Mathlib.Tactic.Common
import OneplusHal.Doze.DozeService

/-!
The ambient display settings, and whether the doze service runs.

A change of a preference is written at once, and a check of the service is posted to the main
looper, to run after the preference is stored. Other writers of the secure settings post nothing:
the service follows them at the next check.

On a device with an always-on display the categories of the gestures depend on its switch: they are
disabled while it is on, and while it is disabled itself.
-/

namespace OneplusHal.Doze

open OneplusHal

/-- The stored values of `doze_enabled` and `doze_always_on`. -/
structure SecureSettings where
  dozeEnabled : Option Int := none
  dozeAlwaysOn : Option Int := none

namespace SecureSettings

def isDozeEnabled (s : SecureSettings) : Bool := s.dozeEnabled.getD 1 != 0

def enableDoze (enable : Bool) (s : SecureSettings) : SecureSettings :=
  { s with dozeEnabled := some (if enable then 1 else 0) }

def isAlwaysOnEnabled (s : SecureSettings) : Bool := s.dozeAlwaysOn.getD 0 != 0

def enableAlwaysOn (enable : Bool) (s : SecureSettings) : SecureSettings :=
  { s with dozeAlwaysOn := some (if enable then 1 else 0) }

@[simp] theorem isDozeEnabled_enableDoze (enable : Bool) (s : SecureSettings) :
    (s.enableDoze enable).isDozeEnabled = enable := by
  cases enable <;> rfl

@[simp] theorem isAlwaysOnEnabled_enableDoze (enable : Bool) (s : SecureSettings) :
    (s.enableDoze enable).isAlwaysOnEnabled = s.isAlwaysOnEnabled := rfl

@[simp] theorem isAlwaysOnEnabled_enableAlwaysOn (enable : Bool) (s : SecureSettings) :
    (s.enableAlwaysOn enable).isAlwaysOnEnabled = enable := by
  cases enable <;> rfl

@[simp] theorem isDozeEnabled_enableAlwaysOn (enable : Bool) (s : SecureSettings) :
    (s.enableAlwaysOn enable).isDozeEnabled = s.isDozeEnabled := rfl

end SecureSettings

def Preferences.areGesturesEnabled (p : Preferences) : Bool :=
  p.isPickUpEnabled || p.isPocketEnabled

/-- What the device has. -/
structure DozeConfig where
  alwaysOnDisplayAvailable : Bool
  pickup : Bool
  pocket : Bool

/-- The preferences of the open screen, each with the `isEnabled` that was set on it. -/
structure DozeSettingsFragment where
  alwaysOnEnabled : Bool
  alwaysOnChecked : Bool
  pickUpEnabled : Bool
  pocketEnabled : Bool
  /-- `ALWAYS_ON_DISPLAY` is the `dependency` of the two categories -/
  dependency : Bool

namespace DozeSettingsFragment

/-- The switch has `disableDependentsState`, and whatever is disabled disables its dependents. -/
def shouldDisableDependents (f : DozeSettingsFragment) : Bool :=
  f.alwaysOnChecked || !f.alwaysOnEnabled

def dependencyMet (f : DozeSettingsFragment) : Bool := !(f.dependency && f.shouldDisableDependents)

/-- A category hands its dependency down to the preference in it. -/
def isPickUpEnabled (f : DozeSettingsFragment) : Bool := f.pickUpEnabled && f.dependencyMet

def isPocketEnabled (f : DozeSettingsFragment) : Bool := f.pocketEnabled && f.dependencyMet

end DozeSettingsFragment

structure DozeDevice where
  config : DozeConfig
  secure : SecureSettings := {}
  preferences : Preferences := {}
  /-- the doze service runs -/
  running : Bool := false
  fragment : Option DozeSettingsFragment := none
  /-- the checks that the handler has still to run -/
  posted : ℕ := 0

/-- A change that the user makes. -/
inductive Change
  | alwaysOnDisplay (isChecked : Bool)
  | dozeEnable (isChecked : Bool)
  | gesturePickUp (value : String)
  | gesturePocket (isChecked : Bool)

namespace DozeDevice

/-- What `checkDozeService` decides by. -/
def wanted (d : DozeDevice) : Bool :=
  d.secure.isDozeEnabled && !d.secure.isAlwaysOnEnabled && d.preferences.areGesturesEnabled

def checkDozeService (d : DozeDevice) : DozeDevice :=
  if d.wanted then { d with running := true } else { d with running := false }

@[simp] theorem secure_checkDozeService (d : DozeDevice) :
    d.checkDozeService.secure = d.secure := by
  rw [checkDozeService]
  split <;> rfl

@[simp] theorem config_checkDozeService (d : DozeDevice) :
    d.checkDozeService.config = d.config := by
  rw [checkDozeService]
  split <;> rfl

@[simp] theorem fragment_checkDozeService (d : DozeDevice) :
    d.checkDozeService.fragment = d.fragment := by
  rw [checkDozeService]
  split <;> rfl

def onCreatePreferences (d : DozeDevice) : DozeDevice :=
  let dozeEnabled := d.secure.isDozeEnabled
  { d with
    fragment := some
      { alwaysOnEnabled := dozeEnabled
        alwaysOnChecked := d.secure.isAlwaysOnEnabled
        pickUpEnabled := d.config.pickup && dozeEnabled
        pocketEnabled := d.config.pocket && dozeEnabled
        dependency := d.config.alwaysOnDisplayAvailable } }

/-- The branch of `onPreferenceChange` for the preference. -/
def change (f : DozeSettingsFragment) (d : DozeDevice) : Change → DozeDevice
  | .alwaysOnDisplay isChecked => { d with secure := d.secure.enableAlwaysOn isChecked }
  | .dozeEnable isChecked =>
      let d := { d with secure := d.secure.enableDoze isChecked }
      let d := d.checkDozeService
      let f := if !isChecked then { f with alwaysOnChecked := false } else f
      let d := if !isChecked then { d with secure := d.secure.enableAlwaysOn false } else d
      { d with
        fragment := some
          { f with
            alwaysOnEnabled := isChecked
            pickUpEnabled := d.config.pickup && isChecked
            pocketEnabled := d.config.pocket && isChecked } }
  | .gesturePickUp _ => d
  | .gesturePocket _ => d

/-- What the framework stores once `onPreferenceChange` has returned true. -/
def store (d : DozeDevice) : Change → DozeDevice
  | .alwaysOnDisplay isChecked =>
      { d with fragment := d.fragment.map fun f => { f with alwaysOnChecked := isChecked } }
  | .dozeEnable _ => d
  | .gesturePickUp value => { d with preferences.gesturePickUpType := some value }
  | .gesturePocket isChecked => { d with preferences.gesturePocket := some isChecked }

def onPreferenceChange (f : DozeSettingsFragment) (c : Change) (d : DozeDevice) : DozeDevice :=
  let d := d.change f c
  { d with posted := d.posted + 1 }

/-- The preference is there and enabled. -/
def offers (config : DozeConfig) (f : DozeSettingsFragment) : Change → Bool
  | .alwaysOnDisplay _ => config.alwaysOnDisplayAvailable && f.alwaysOnEnabled
  | .dozeEnable _ => true
  | .gesturePickUp _ => config.pickup && f.isPickUpEnabled
  | .gesturePocket _ => config.pocket && f.isPocketEnabled

inductive Input
  | openSettings
  /-- the screen goes once the posted checks have run -/
  | closeSettings
  | userChange (c : Change)
  | runPosted
  | bootCompleted
  /-- the secure settings are written by somebody else -/
  | written (s : SecureSettings)

def step (d : DozeDevice) : Input → DozeDevice
  | .openSettings => d.onCreatePreferences
  | .closeSettings => if d.posted = 0 then { d with fragment := none } else d
  | .userChange c =>
      match d.fragment with
      | none => d
      | some f => if offers d.config f c then (d.onPreferenceChange f c).store c else d
  | .runPosted =>
      if d.posted = 0 then d else { d with posted := d.posted - 1 }.checkDozeService
  | .bootCompleted => d.checkDozeService
  | .written s => { d with secure := s }

end DozeDevice

end OneplusHal.Doze

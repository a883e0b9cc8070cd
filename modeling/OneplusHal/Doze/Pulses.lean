import Mathlib.Order.Nat
import Mathlib.Tactic.Common
import OneplusHal.Doze.DozeService

/-!
The events of a gesture sensor. The executor notes the time at which it registers the listener, and
an event that is taken notes its own; an event that comes too soon after the last time noted is
dropped. A taken event with the value of the gesture pulses the display or wakes the device.
-/

namespace OneplusHal.Doze

open OneplusHal

def MIN_PULSE_INTERVAL_MS : ℕ := 2500

inductive Reaction
  | launchDozePulse
  | wakeUpWithProximityCheck
  deriving DecidableEq

def Preferences.isPickUpSetToWake (p : Preferences) : Bool := p.gesturePickUpType.getD "0" == "2"

def PickupSensor.react (p : Preferences) : Reaction :=
  if p.isPickUpSetToWake then .wakeUpWithProximityCheck else .launchDozePulse

def PocketSensor.react (_ : Preferences) : Reaction := .launchDozePulse

/-- What happened at a time that the sensor has noted. -/
inductive Happening
  | registered
  | taken (reaction : Option Reaction)

/-- A sensor, the clock, and what happened when. -/
structure Watched where
  sensor : GestureSensor
  preferences : Preferences := {}
  elapsedRealtime : ℕ
  history : List (ℕ × Happening) := []

namespace Watched

/-- `onSensorChanged`; the clock is read twice, the second time after a delay. -/
def onSensorChanged (react : Preferences → Reaction) (isGesture : Bool) (delay : ℕ)
    (w : Watched) : Watched :=
  let delta := w.elapsedRealtime - w.sensor.listener.entryTimestamp
  if delta < MIN_PULSE_INTERVAL_MS then w
  else
    let now := w.elapsedRealtime + delay
    { w with
      sensor.listener.entryTimestamp := now
      elapsedRealtime := now
      history :=
        w.history ++ [(now, .taken (if isGesture then some (react w.preferences) else none))] }

/-- The executor runs its next task. -/
def execute (w : Watched) : Watched :=
  { w with
    sensor := w.sensor.execute w.elapsedRealtime
    history :=
      match w.sensor.executorService with
      | .register :: _ => w.history ++ [(w.elapsedRealtime, .registered)]
      | _ => w.history }

inductive Input
  | wait (ms : ℕ)
  | enable
  | disable
  | execute
  | sensorChanged (isGesture : Bool) (delay : ℕ)
  | setPickUp (value : Option String)

def step (react : Preferences → Reaction) (w : Watched) : Input → Watched
  | .wait ms => { w with elapsedRealtime := w.elapsedRealtime + ms }
  | .enable => { w with sensor := w.sensor.enable }
  | .disable => { w with sensor := w.sensor.disable }
  | .execute => w.execute
  | .sensorChanged isGesture delay => w.onSensorChanged react isGesture delay
  | .setPickUp value => { w with preferences.gesturePickUpType := value }

/-- A taken event comes the interval after everything before it. -/
def Spaced (a b : ℕ × Happening) : Prop :=
  a.1 ≤ b.1 ∧ (b.2 ≠ .registered → a.1 + MIN_PULSE_INTERVAL_MS ≤ b.1)

/-- The sensor has noted the last time of its history, if there is one. -/
structure Paced (w : Watched) : Prop where
  spaced : w.history.Pairwise Spaced
  noted : ∀ e ∈ w.history, e.1 ≤ w.sensor.listener.entryTimestamp
  past : w.sensor.listener.entryTimestamp ≤ w.elapsedRealtime

variable {w : Watched}

/-- One more entry, at a time that the sensor notes. -/
theorem Paced.note (h : w.Paced) {s : GestureSensor} {now : ℕ} {happening : Happening}
    (hs : s.listener.entryTimestamp = now) (hnow : w.sensor.listener.entryTimestamp ≤ now)
    (hspace : happening ≠ .registered →
      w.sensor.listener.entryTimestamp + MIN_PULSE_INTERVAL_MS ≤ now) :
    Paced { w with
      sensor := s
      elapsedRealtime := now
      history := w.history ++ [(now, happening)] } where
  spaced := by
    refine List.pairwise_append.mpr ⟨h.spaced, List.pairwise_singleton _ _, fun a ha b hb => ?_⟩
    rw [List.mem_singleton.mp hb]
    have hnoted := h.noted a ha
    exact ⟨hnoted.trans hnow, fun htaken => by have hspace := hspace htaken; dsimp only; omega⟩
  noted := by
    intro e he
    obtain he | he := List.mem_append.mp he
    · exact (h.noted e he).trans (hnow.trans_eq hs.symm)
    · rw [List.mem_singleton.mp he]
      exact hs.ge
  past := hs.le

theorem entryTimestamp_enable (s : GestureSensor) : s.enable.listener = s.listener := by
  rw [GestureSensor.enable]
  split <;> rfl

theorem entryTimestamp_disable (s : GestureSensor) : s.disable.listener = s.listener := by
  rw [GestureSensor.disable]
  split <;> rfl

theorem Paced.execute (h : w.Paced) : w.execute.Paced := by
  rw [Watched.execute, GestureSensor.execute]
  cases htasks : w.sensor.executorService with
  | nil => exact h
  | cons task rest =>
      cases task with
      | register => exact h.note rfl h.past (fun hne => absurd rfl hne)
      | unregister => exact ⟨h.spaced, h.noted, h.past⟩

theorem Paced.step (h : w.Paced) (react : Preferences → Reaction) (i : Input) :
    (w.step react i).Paced := by
  cases i with
  | wait ms => exact ⟨h.spaced, h.noted, h.past.trans (Nat.le_add_right _ _)⟩
  | enable =>
      refine ⟨h.spaced, ?_, ?_⟩
      · show ∀ e ∈ w.history, e.1 ≤ w.sensor.enable.listener.entryTimestamp
        rw [entryTimestamp_enable]
        exact h.noted
      · show w.sensor.enable.listener.entryTimestamp ≤ w.elapsedRealtime
        rw [entryTimestamp_enable]
        exact h.past
  | disable =>
      refine ⟨h.spaced, ?_, ?_⟩
      · show ∀ e ∈ w.history, e.1 ≤ w.sensor.disable.listener.entryTimestamp
        rw [entryTimestamp_disable]
        exact h.noted
      · show w.sensor.disable.listener.entryTimestamp ≤ w.elapsedRealtime
        rw [entryTimestamp_disable]
        exact h.past
  | execute => exact h.execute
  | sensorChanged isGesture delay =>
      have hpast := h.past
      rw [Watched.step, onSensorChanged]
      dsimp only
      split
      case isTrue => exact h
      case isFalse hdelta => exact h.note rfl (by omega) fun _ => by omega
  | setPickUp value => exact ⟨h.spaced, h.noted, h.past⟩

/-- However the events of the sensor, the tasks of the executor and the changes of the preference
interleave, an event that is taken comes at least the interval after the listener was registered
and after every other event that was taken. -/
theorem spaced_run (react : Preferences → Reaction) (sensor : Bool) (elapsedRealtime : ℕ)
    (is : List Input) :
    (Machine.run (step react)
      { sensor := { sensor := sensor }, elapsedRealtime := elapsedRealtime } is).history.Pairwise
        Spaced := by
  refine (Machine.run_invariant (I := Paced) (fun w i h => h.step react i) ?_ is).spaced
  exact ⟨.nil, nofun, Nat.zero_le _⟩

end Watched

end OneplusHal.Doze

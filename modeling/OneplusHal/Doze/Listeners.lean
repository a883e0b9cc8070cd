import Mathlib.Tactic.Common
import OneplusHal.Doze.DozeService

/-!
The registered listeners of the doze service, over histories of screen broadcasts and
changes of the preferences.

What the executors will have done is decided as soon as a task is submitted, so the
invariant speaks of `left`, the registration that the queued tasks lead to. It follows the
screen as long as no preference is switched off between a broadcast that registers the
listener and the next one, which would have to unregister it and looks at the preference
again instead.
-/

namespace OneplusHal.Doze

open OneplusHal

namespace GestureSensor

variable {s : GestureSensor}

/-- The queued tasks leave the listener registered. -/
def left (s : GestureSensor) : Bool :=
  s.executorService.foldl (fun _ t => t = .register) s.listener.registered

@[simp] theorem registered_settle (elapsedRealtime : ℕ) (s : GestureSensor) :
    (s.settle elapsedRealtime).listener.registered = s.left := by
  obtain ⟨sensor, tasks, listener⟩ := s
  simp only [settle, left]
  induction tasks generalizing listener with
  | nil => rfl
  | cons t tasks ih =>
      rw [Machine.run_cons, ih]
      cases t <;> rfl

@[simp] theorem left_submit (t : ListenerTask) (s : GestureSensor) :
    (s.submit t).left = (t = .register : Bool) := by
  simp [left, submit]

theorem left_enable (s : GestureSensor) : s.enable.left = (s.sensor || s.left) := by
  unfold enable
  cases hsensor : s.sensor <;> simp

theorem left_disable (s : GestureSensor) : s.disable.left = (!s.sensor && s.left) := by
  unfold disable
  cases hsensor : s.sensor <;> simp

/-- Running a task changes nothing about what all of them lead to. -/
@[simp] theorem left_execute (elapsedRealtime : ℕ) (s : GestureSensor) :
    (s.execute elapsedRealtime).left = s.left := by
  obtain ⟨sensor, tasks, listener⟩ := s
  cases tasks with
  | nil => rfl
  | cons t tasks => cases t <;> rfl

@[simp] theorem sensor_enable (s : GestureSensor) : s.enable.sensor = s.sensor := by
  unfold enable
  split <;> rfl

@[simp] theorem sensor_disable (s : GestureSensor) : s.disable.sensor = s.sensor := by
  unfold disable
  split <;> rfl

@[simp] theorem sensor_execute (elapsedRealtime : ℕ) (s : GestureSensor) :
    (s.execute elapsedRealtime).sensor = s.sensor := by
  unfold execute
  split <;> rfl

/-- No listener is left registered that the device has no sensor for. -/
def Sensed (s : GestureSensor) : Prop := s.left = true → s.sensor = true

theorem Sensed.enable (h : s.Sensed) : s.enable.Sensed := by
  rw [Sensed, left_enable, sensor_enable]
  intro hleft
  exact (Bool.or_eq_true_iff.mp hleft).elim id h

theorem Sensed.disable (h : s.Sensed) : s.disable.Sensed := by
  rw [Sensed, left_disable, sensor_disable]
  exact fun hleft => h (Bool.and_eq_true_iff.mp hleft).2

theorem Sensed.execute (h : s.Sensed) (elapsedRealtime : ℕ) :
    (s.execute elapsedRealtime).Sensed := by
  rwa [Sensed, left_execute, sensor_execute]

theorem Sensed.left_disable (h : s.Sensed) : s.disable.left = false := by
  rw [GestureSensor.left_disable]
  cases hleft : s.left with
  | false => exact Bool.and_false _
  | true => rw [h hleft, Bool.not_true, Bool.false_and]

/-- The listener is left registered exactly if it is wanted, and never without a sensor. -/
structure Kept (s : GestureSensor) (wanted : Bool) : Prop where
  left : s.left = wanted
  sensor : s.left = true → s.sensor = true

theorem Kept.execute {wanted : Bool} (h : s.Kept wanted) (elapsedRealtime : ℕ) :
    (s.execute elapsedRealtime).Kept wanted :=
  ⟨by rw [left_execute, h.left], by simpa using h.sensor⟩

/-- A screen that goes on leaves no listener, unless one is wanted that nothing disables. -/
theorem Kept.displayOn {wanted : Bool} (h : s.Kept wanted) (enabled : Bool) :
    (if enabled then s.disable else s).left = false ↔ (enabled = false → wanted = false) := by
  cases enabled with
  | false => simp [h.left]
  | true =>
      have hsensor := h.sensor
      simp only [if_true, left_disable]
      cases hs : s.sensor <;> simp_all

/-- A screen that goes off leaves the listener that the preference says, unless the sensor
is missing or an old listener is still wanted. -/
theorem Kept.displayOff {wanted : Bool} (h : s.Kept wanted) (enabled : Bool) :
    (if enabled then s.enable else s).left = enabled ↔
      (enabled = true → s.sensor = true) ∧ (enabled = false → wanted = false) := by
  cases enabled with
  | false => simp [h.left]
  | true =>
      have hsensor := h.sensor
      simp only [if_true, left_enable]
      cases hs : s.sensor <;> simp_all

theorem Kept.of_left_eq_false (h : s.left = false) : s.Kept false :=
  ⟨h, fun htrue => absurd (h.symm.trans htrue) Bool.false_ne_true⟩

theorem Kept.of_displayOff {wanted enabled : Bool} (h : s.Kept wanted)
    (hleft : (if enabled then s.enable else s).left = enabled) :
    (if enabled then s.enable else s).Kept enabled := by
  refine ⟨hleft, fun htrue => ?_⟩
  obtain rfl := hleft.symm.trans htrue
  simpa using ((h.displayOff true).mp hleft).1 rfl

end GestureSensor

namespace DozeService

variable {d : DozeService}

/-- Once the executors have run what is queued, the listeners are registered that the last
screen broadcast calls for: none if the screen is on, and those of the gestures that were
enabled if it is off. -/
def ListenersRight (d : DozeService) : Prop :=
  ∀ screen, d.screen = some screen → ∀ elapsedRealtime,
    (d.pickupSensor.settle elapsedRealtime).listener.registered =
        (screen.off && screen.preferences.isPickUpEnabled) ∧
      (d.pocketSensor.settle elapsedRealtime).listener.registered =
        (screen.off && screen.preferences.isPocketEnabled)

/-- The last screen broadcast was one of a screen that goes off, handled while the gesture
was enabled. -/
def wants (isEnabled : Preferences → Bool) (d : DozeService) : Bool :=
  d.screen.any fun screen => screen.off && isEnabled screen.preferences

/-- A screen broadcast handled while a gesture is disabled does not come after a
`SCREEN_OFF` handled while it was enabled, and a `SCREEN_OFF` handled while a gesture is
enabled finds its sensor. -/
def BroadcastSafe (d : DozeService) : Input → Prop
  | .screenOn =>
      (d.preferences.isPickUpEnabled = false → d.wants Preferences.isPickUpEnabled = false) ∧
        (d.preferences.isPocketEnabled = false → d.wants Preferences.isPocketEnabled = false)
  | .screenOff =>
      ((d.preferences.isPickUpEnabled = true → d.pickupSensor.sensor = true) ∧
          (d.preferences.isPickUpEnabled = false →
            d.wants Preferences.isPickUpEnabled = false)) ∧
        (d.preferences.isPocketEnabled = true → d.pocketSensor.sensor = true) ∧
          (d.preferences.isPocketEnabled = false → d.wants Preferences.isPocketEnabled = false)
  | _ => True

/-- Both listeners are left as the last screen broadcast wants them. -/
structure Followed (d : DozeService) : Prop where
  pickup : d.pickupSensor.Kept (d.wants Preferences.isPickUpEnabled)
  pocket : d.pocketSensor.Kept (d.wants Preferences.isPocketEnabled)

theorem Followed.listenersRight (h : d.Followed) : d.ListenersRight := by
  intro screen hscreen elapsedRealtime
  rw [GestureSensor.registered_settle, GestureSensor.registered_settle, h.pickup.left,
    h.pocket.left, wants, wants, hscreen]
  exact ⟨rfl, rfl⟩

/-! ### Broadcasts -/

theorem onDisplayOn_eq (d : DozeService) :
    d.onDisplayOn =
      { d with
        pickupSensor :=
          if d.preferences.isPickUpEnabled then d.pickupSensor.disable else d.pickupSensor
        pocketSensor :=
          if d.preferences.isPocketEnabled then d.pocketSensor.disable else d.pocketSensor
        screen := some ⟨false, d.preferences⟩ } := by
  unfold onDisplayOn
  cases hpickup : d.preferences.isPickUpEnabled <;>
    cases hpocket : d.preferences.isPocketEnabled <;>
      simp [hpocket, PickupSensor.disable, PocketSensor.disable]

theorem onDisplayOff_eq (d : DozeService) :
    d.onDisplayOff =
      { d with
        pickupSensor :=
          if d.preferences.isPickUpEnabled then d.pickupSensor.enable else d.pickupSensor
        pocketSensor :=
          if d.preferences.isPocketEnabled then d.pocketSensor.enable else d.pocketSensor
        screen := some ⟨true, d.preferences⟩ } := by
  unfold onDisplayOff
  cases hpickup : d.preferences.isPickUpEnabled <;>
    cases hpocket : d.preferences.isPocketEnabled <;>
      simp [hpocket, PickupSensor.enable, PocketSensor.enable]

/-- After a screen broadcast the listeners are right exactly if both are left so. -/
theorem listenersRight_of_screen {screen : Screen} (hscreen : d.screen = some screen) :
    d.ListenersRight ↔
      d.pickupSensor.left = (screen.off && screen.preferences.isPickUpEnabled) ∧
        d.pocketSensor.left = (screen.off && screen.preferences.isPocketEnabled) := by
  constructor
  · intro h
    simpa using h screen hscreen 0
  · intro h screen' hscreen' elapsedRealtime
    cases hscreen.symm.trans hscreen'
    simpa using h

theorem Followed.displayOn_iff (h : d.Followed) :
    d.onDisplayOn.ListenersRight ↔ d.BroadcastSafe .screenOn := by
  rw [onDisplayOn_eq, listenersRight_of_screen rfl]
  exact and_congr (h.pickup.displayOn _) (h.pocket.displayOn _)

theorem Followed.displayOff_iff (h : d.Followed) :
    d.onDisplayOff.ListenersRight ↔ d.BroadcastSafe .screenOff := by
  rw [onDisplayOff_eq, listenersRight_of_screen rfl]
  exact and_congr (h.pickup.displayOff _) (h.pocket.displayOff _)

theorem Followed.displayOn (h : d.Followed) (hs : d.BroadcastSafe .screenOn) :
    d.onDisplayOn.Followed := by
  rw [onDisplayOn_eq]
  exact ⟨.of_left_eq_false ((h.pickup.displayOn _).mpr hs.1),
    .of_left_eq_false ((h.pocket.displayOn _).mpr hs.2)⟩

theorem Followed.displayOff (h : d.Followed) (hs : d.BroadcastSafe .screenOff) :
    d.onDisplayOff.Followed := by
  rw [onDisplayOff_eq]
  exact ⟨h.pickup.of_displayOff ((h.pickup.displayOff _).mpr hs.1),
    h.pocket.of_displayOff ((h.pocket.displayOff _).mpr hs.2)⟩

/-! ### Histories -/

theorem Followed.step (h : d.Followed) (i : Input) (hs : d.BroadcastSafe i) :
    (d.step i).Followed := by
  cases i with
  | screenOn => exact h.displayOn hs
  | screenOff => exact h.displayOff hs
  | setPickUp value => exact ⟨h.pickup, h.pocket⟩
  | setPocket value => exact ⟨h.pickup, h.pocket⟩
  | executePickup time => exact ⟨h.pickup.execute time, h.pocket⟩
  | executePocket time => exact ⟨h.pickup, h.pocket.execute time⟩

theorem Followed.right_iff (h : d.Followed) (i : Input) :
    (d.step i).ListenersRight ↔ d.BroadcastSafe i := by
  cases i with
  | screenOn => exact h.displayOn_iff
  | screenOff => exact h.displayOff_iff
  | setPickUp value => exact iff_of_true (h.step (.setPickUp value) trivial).listenersRight trivial
  | setPocket value => exact iff_of_true (h.step (.setPocket value) trivial).listenersRight trivial
  | executePickup time =>
      exact iff_of_true (h.step (.executePickup time) trivial).listenersRight trivial
  | executePocket time =>
      exact iff_of_true (h.step (.executePocket time) trivial).listenersRight trivial

theorem followed_onCreate (preferences : Preferences) (pickup pocket : Bool) :
    (onCreate preferences pickup pocket).Followed :=
  ⟨⟨rfl, fun h => nomatch h⟩, ⟨rfl, fun h => nomatch h⟩⟩

/-- No listener of the service is left without its sensor. -/
def Sensed (d : DozeService) : Prop := d.pickupSensor.Sensed ∧ d.pocketSensor.Sensed

theorem Sensed.step (h : d.Sensed) (i : Input) : (d.step i).Sensed := by
  obtain ⟨hpickup, hpocket⟩ := h
  cases i with
  | screenOn =>
      simp only [DozeService.step, onDisplayOn]
      split <;> split
      · exact ⟨hpickup.disable, hpocket.disable⟩
      · exact ⟨hpickup.disable, hpocket⟩
      · exact ⟨hpickup, hpocket.disable⟩
      · exact ⟨hpickup, hpocket⟩
  | screenOff =>
      simp only [DozeService.step, onDisplayOff]
      split <;> split
      · exact ⟨hpickup.enable, hpocket.enable⟩
      · exact ⟨hpickup.enable, hpocket⟩
      · exact ⟨hpickup, hpocket.enable⟩
      · exact ⟨hpickup, hpocket⟩
  | setPickUp value => exact ⟨hpickup, hpocket⟩
  | setPocket value => exact ⟨hpickup, hpocket⟩
  | executePickup time => exact ⟨hpickup.execute time, hpocket⟩
  | executePocket time => exact ⟨hpickup, hpocket.execute time⟩

/-- Over the life of a service, the listeners are right after every step if and only if
every screen broadcast is handled safely. None is left when the service is destroyed. -/
theorem listeners_right_iff (preferences : Preferences) (pickup pocket : Bool)
    (is : List Input) :
    (Machine.Along step (fun d i => (d.step i).ListenersRight)
        (onCreate preferences pickup pocket) is ↔
      Machine.Along step BroadcastSafe (onCreate preferences pickup pocket) is) ∧
      (Machine.run step (onCreate preferences pickup pocket) is).onDestroy.pickupSensor.left =
        false ∧
      (Machine.run step (onCreate preferences pickup pocket) is).onDestroy.pocketSensor.left =
        false := by
  have hnew : (onCreate preferences pickup pocket).Sensed :=
    ⟨fun h => absurd h Bool.false_ne_true, fun h => absurd h Bool.false_ne_true⟩
  have hsensed : (Machine.run step (onCreate preferences pickup pocket) is).Sensed :=
    Machine.run_invariant (I := Sensed) (fun _ i h => h.step i) hnew is
  refine ⟨?_, hsensed.1.left_disable, hsensed.2.left_disable⟩
  exact Machine.along_iff (I := Followed) (fun _ i h => h.right_iff i)
    (fun _ i h hs => h.step i hs) (followed_onCreate preferences pickup pocket) is

/-- The pickup gesture is disabled while the screen is off: the screen goes on, and the
listener stays registered. -/
theorem listener_left_registered :
    let d := Machine.run step (onCreate ⟨some "2", none⟩ true true)
      [.screenOff, .executePickup 0, .setPickUp (some "0"), .screenOn]
    d.pickupSensor.executorService = [] ∧ d.pocketSensor.executorService = [] ∧
      d.screen.any Screen.off = false ∧ d.pickupSensor.listener.registered = true ∧
      ¬d.ListenersRight := by
  refine ⟨rfl, rfl, rfl, rfl, fun h => ?_⟩
  exact absurd (h _ rfl 0).1 (by decide)

end DozeService

end OneplusHal.Doze

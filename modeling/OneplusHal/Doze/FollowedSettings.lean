import OneplusHal.Doze.DozeSettings

/-!
The doze service follows the settings. A change that the user makes leaves a check behind, so that
the service is out of step only while one is pending, or after somebody else has written the
settings and before the next check.
-/

namespace OneplusHal.Doze.DozeDevice

open OneplusHal

variable {d : DozeDevice}

/-- The service is checked against the settings. -/
def Checks (d : DozeDevice) : Input → Prop
  | .runPosted => d.posted ≠ 0
  | .bootCompleted => True
  | _ => False

def IsWritten : Input → Prop
  | .written _ => True
  | _ => False

/-- With no check pending, the service runs exactly if it is wanted. -/
def Settled (d : DozeDevice) : Prop := d.posted = 0 → d.running = d.wanted

theorem running_checkDozeService (d : DozeDevice) :
    d.checkDozeService.running = d.checkDozeService.wanted := by
  rw [checkDozeService]
  split
  case isTrue hwanted => exact hwanted.symm
  case isFalse hwanted => exact (Bool.eq_false_iff.mpr hwanted).symm

theorem settled_of_checks {i : Input} (h : d.Checks i) : (d.step i).Settled := by
  cases i with
  | runPosted =>
      intro _
      rw [step, if_neg h]
      exact running_checkDozeService _
  | bootCompleted => exact fun _ => running_checkDozeService d
  | openSettings => exact h.elim
  | closeSettings => exact h.elim
  | userChange c => exact h.elim
  | written s => exact h.elim

theorem posted_store (d : DozeDevice) (c : Change) : (d.store c).posted = d.posted := by
  cases c <;> rfl

theorem Settled.step (h : d.Settled) {i : Input} (hi : ¬IsWritten i) : (d.step i).Settled := by
  cases i with
  | openSettings => exact h
  | closeSettings =>
      rw [DozeDevice.step]
      split <;> exact h
  | userChange c =>
      rw [DozeDevice.step]
      split
      · exact h
      · split
        -- The change leaves a check behind.
        · intro hposted
          rw [posted_store] at hposted
          exact absurd hposted (Nat.succ_ne_zero _)
        · exact h
  | runPosted =>
      by_cases hposted : d.posted = 0
      · rw [DozeDevice.step, if_pos hposted]
        exact h
      · exact settled_of_checks hposted
  | bootCompleted => exact settled_of_checks trivial
  | written s => exact absurd trivial hi

/-- Whatever the user does on the screen, when the device boots and when the posted checks run: if
the service was checked since somebody else has written the settings, and no check is pending, then
the service runs exactly if doze is enabled, the display is not always on and some gesture is
enabled. -/
theorem running_eq_wanted (is : List Input)
    (hchecked : Machine.SetSince step Checks (fun _ i => IsWritten i) d is)
    (hposted : (Machine.run step d is).posted = 0) :
    (Machine.run step d is).running = (Machine.run step d is).wanted :=
  hchecked.holds (P := Settled) (fun _ _ => settled_of_checks) (fun _ _ h hi => h.step hi) hposted

theorem running_eq_wanted_pickUp :
    let is : List Input :=
      [.openSettings, .userChange (.gesturePickUp "1"), .written { dozeEnabled := some 1 },
        .runPosted]
    let d : DozeDevice := { config := ⟨true, true, true⟩ }
    (Machine.run step d is).running = (Machine.run step d is).wanted :=
  running_eq_wanted _
    ⟨[.openSettings, .userChange (.gesturePickUp "1"), .written { dozeEnabled := some 1 }],
      .runPosted, [], rfl, Nat.succ_ne_zero 0, trivial⟩ rfl

/-! ### The screen -/

/-- The preferences are as the settings have it, and the display is always on only if doze is
enabled and there is such a display. -/
structure Mirrored (d : DozeDevice) : Prop where
  alwaysOn : d.secure.isAlwaysOnEnabled = true →
    d.secure.isDozeEnabled = true ∧ d.config.alwaysOnDisplayAvailable = true
  fragment : ∀ f, d.fragment = some f →
    f.alwaysOnChecked = d.secure.isAlwaysOnEnabled ∧
      f.alwaysOnEnabled = d.secure.isDozeEnabled ∧
      f.pickUpEnabled = (d.config.pickup && d.secure.isDozeEnabled) ∧
      f.pocketEnabled = (d.config.pocket && d.secure.isDozeEnabled) ∧
      f.dependency = d.config.alwaysOnDisplayAvailable

theorem Mirrored.checkDozeService (h : d.Mirrored) : d.checkDozeService.Mirrored := by
  refine ⟨?_, ?_⟩
  · rw [secure_checkDozeService, config_checkDozeService]
    exact h.alwaysOn
  · rw [secure_checkDozeService, config_checkDozeService, fragment_checkDozeService]
    exact h.fragment

theorem Mirrored.userChange (h : d.Mirrored) {f : DozeSettingsFragment}
    (hf : d.fragment = some f) {c : Change} (hoffers : offers d.config f c = true) :
    ((d.onPreferenceChange f c).store c).Mirrored := by
  obtain ⟨hchecked, henabled, hpickUp, hpocket, hdependency⟩ := h.fragment f hf
  cases c with
  | alwaysOnDisplay isChecked =>
      rw [offers, henabled] at hoffers
      obtain ⟨havailable, hdoze⟩ := Bool.and_eq_true_iff.mp hoffers
      refine ⟨fun _ => ⟨hdoze, havailable⟩, fun g hg => ?_⟩
      simp only [onPreferenceChange, change, store, hf, Option.map_some] at hg
      cases hg
      exact ⟨(SecureSettings.isAlwaysOnEnabled_enableAlwaysOn _ _).symm, henabled, hpickUp,
        hpocket, hdependency⟩
  | dozeEnable isChecked =>
      refine ⟨fun hon => ?_, fun g hg => ?_⟩
      · cases isChecked with
        | true =>
            refine ⟨by simp [onPreferenceChange, change, store], ?_⟩
            have hbefore : d.secure.isAlwaysOnEnabled = true := by
              simpa [onPreferenceChange, change, store] using hon
            simpa [onPreferenceChange, change, store] using (h.alwaysOn hbefore).2
        | false => simp [onPreferenceChange, change, store] at hon
      · cases hg
        cases isChecked <;> simp [onPreferenceChange, change, store, hchecked, hdependency]
  | gesturePickUp value => exact ⟨h.alwaysOn, h.fragment⟩
  | gesturePocket isChecked => exact ⟨h.alwaysOn, h.fragment⟩

theorem Mirrored.step (h : d.Mirrored) {i : Input} (hi : ¬IsWritten i) : (d.step i).Mirrored := by
  cases i with
  | openSettings =>
      refine ⟨h.alwaysOn, fun f hf => ?_⟩
      cases hf
      exact ⟨rfl, rfl, rfl, rfl, rfl⟩
  | closeSettings =>
      rw [DozeDevice.step]
      split
      · exact ⟨h.alwaysOn, nofun⟩
      · exact h
  | userChange c =>
      rw [DozeDevice.step]
      split
      · exact h
      · rename_i f hf
        split
        case isTrue hoffers => exact h.userChange hf hoffers
        case isFalse => exact h
  | runPosted =>
      rw [DozeDevice.step]
      split
      · exact h
      · exact Mirrored.checkDozeService ⟨h.alwaysOn, h.fragment⟩
  | bootCompleted => exact h.checkDozeService
  | written s => exact absurd trivial hi

/-- The open screen shows the settings: the always-on switch its own, and enabled with doze; the
gestures that the device has are enabled while doze is on and the display not always on. An
always-on display goes with doze. -/
structure Shown (d : DozeDevice) : Prop where
  alwaysOn : d.secure.isAlwaysOnEnabled = true → d.secure.isDozeEnabled = true
  fragment : ∀ f, d.fragment = some f →
    f.alwaysOnChecked = d.secure.isAlwaysOnEnabled ∧
      f.alwaysOnEnabled = d.secure.isDozeEnabled ∧
      (f.isPickUpEnabled = true ↔ d.config.pickup = true ∧ d.secure.isDozeEnabled = true ∧
        d.secure.isAlwaysOnEnabled = false) ∧
      (f.isPocketEnabled = true ↔ d.config.pocket = true ∧ d.secure.isDozeEnabled = true ∧
        d.secure.isAlwaysOnEnabled = false)

/-- With doze on, the dependency of the categories is met unless the display is always on. -/
theorem Mirrored.dependencyMet (h : d.Mirrored) {f : DozeSettingsFragment}
    (hf : d.fragment = some f) (hdoze : d.secure.isDozeEnabled = true) :
    f.dependencyMet = !d.secure.isAlwaysOnEnabled := by
  obtain ⟨hchecked, henabled, -, -, hdependency⟩ := h.fragment f hf
  rw [DozeSettingsFragment.dependencyMet, DozeSettingsFragment.shouldDisableDependents, hchecked,
    henabled, hdependency, hdoze, Bool.not_true, Bool.or_false]
  cases hon : d.secure.isAlwaysOnEnabled with
  | false => rw [Bool.and_false]
  | true => rw [(h.alwaysOn hon).2, Bool.true_and]

/-- When a gesture is enabled that the device has or has not. -/
theorem Mirrored.gesture_iff (h : d.Mirrored) {f : DozeSettingsFragment}
    (hf : d.fragment = some f) (sensor : Bool) :
    (sensor && d.secure.isDozeEnabled && f.dependencyMet) = true ↔
      sensor = true ∧ d.secure.isDozeEnabled = true ∧ d.secure.isAlwaysOnEnabled = false := by
  cases hdoze : d.secure.isDozeEnabled with
  | false => simp
  | true => simp [h.dependencyMet hf hdoze]

theorem Mirrored.shown (h : d.Mirrored) : d.Shown := by
  refine ⟨fun hon => (h.alwaysOn hon).1, fun f hf => ?_⟩
  obtain ⟨hchecked, henabled, hpickUp, hpocket, -⟩ := h.fragment f hf
  refine ⟨hchecked, henabled, ?_, ?_⟩
  · rw [DozeSettingsFragment.isPickUpEnabled, hpickUp]
    exact h.gesture_iff hf d.config.pickup
  · rw [DozeSettingsFragment.isPocketEnabled, hpocket]
    exact h.gesture_iff hf d.config.pocket

/-- As long as nobody else writes the settings, the screen shows them, and an always-on display goes
with doze, whatever the user does. -/
theorem shown_run (config : DozeConfig) {is : List Input} (h : ∀ i ∈ is, ¬IsWritten i) :
    (Machine.run step { config := config } is).Shown := by
  have hmirrored : (Machine.run step { config := config } is).Mirrored :=
    Machine.Along.invariant (fun _ _ h hi => h.step hi) ⟨nofun, nofun⟩
      (Machine.along_of_forall_mem h _)
  exact hmirrored.shown

theorem shown_run_alwaysOn :
    (Machine.run step { config := ⟨true, true, true⟩ }
      [.openSettings, .userChange (.alwaysOnDisplay true), .userChange (.gesturePocket true),
        .runPosted]).Shown :=
  shown_run _ (by simp [IsWritten])

end OneplusHal.Doze.DozeDevice

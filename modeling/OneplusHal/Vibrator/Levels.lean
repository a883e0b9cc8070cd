import OneplusHal.Vibrator.Interface
import OneplusHal.Vibrator.Starts

/-!
What the kernel is given over a run of calls: no effect is weaker than the light strength or
stronger than the strong one, and the same goes for the gain.

The code of an event is the id of the effect that it starts, or the code of the gain. The two cannot
be mistaken for each other, as the kernel numbers effects below the code of the gain.
-/

-- The class has the name of its interface.
set_option linter.dupNamespace false

namespace OneplusHal.Vibrator

/-- A magnitude between the light and the strong one. -/
def IsLevel (m : Int16) : Prop := LIGHT_MAGNITUDE ≤ m ∧ m ≤ STRONG_MAGNITUDE

instance (m : Int16) : Decidable (IsLevel m) := inferInstanceAs (Decidable (_ ∧ _))

def FfBody.level : FfBody → Int16
  | .periodic magnitude _ => magnitude
  | .constant level => level

/-- The event sets the gain. -/
def InputEvent.IsGain (ie : InputEvent) : Prop :=
  ie.code = FF_GAIN ∧ 0x3fff ≤ ie.value ∧ ie.value ≤ 0x7fff

/-- The event starts an effect. -/
def InputEvent.IsStart (ie : InputEvent) : Prop := ie.code < FF_GAIN ∧ ie.value = 1

namespace InputFFDevice

variable {d : InputFFDevice}

/-- Everything that the kernel has been given is in the range. -/
structure Leveled (d : InputFFDevice) : Prop where
  magnitude : IsLevel d.mCurrMagnitude
  given : ∀ e ∈ d.given, IsLevel e.u.level
  written : ∀ ie ∈ d.written, ie.IsGain ∨ ie.IsStart

/-- The kernel gives new effects ids below the code of the gain. -/
def PlayIO.Numbered (io : PlayIO) : Prop := ∀ u ∈ io.upload, u.id < 0x60

theorem toUInt16_lt {id : Int16} (hpos : 0 ≤ id) (hlt : id < 0x60) : id.toUInt16 < FF_GAIN := by
  have hlt' : id.toInt < 96 := Int16.lt_iff_toInt_lt.mp hlt
  have hnat : id.toUInt16.toNat = id.toInt.toNat := Int16.toNat_toUInt16_of_le hpos
  rw [UInt16.lt_iff_toNat_lt, hnat]
  show id.toInt.toNat < 96
  omega

theorem Leveled.kept (h : d.Leveled) (effects : List FfEffect) (id : Int16) :
    Leveled { d with uploaded := effects, mCurrAppId := id } :=
  ⟨h.magnitude, h.given, h.written⟩

theorem Leveled.removePrevious (h : d.Leveled) : d.removePrevious.Leveled := by
  rw [InputFFDevice.removePrevious]
  split
  · exact h.kept _ _
  · exact h

theorem Leveled.errout (h : d.Leveled) (r : PlayResult) : (d.errout r).2.Leveled :=
  h.kept _ _

theorem level_effectOf (effectId : Int32) (timeoutMs : UInt32) :
    (d.effectOf effectId timeoutMs).u.level = d.mCurrMagnitude := by
  rw [effectOf]
  split <;> rfl

theorem Leveled.startEffect (h : d.Leveled) (hid : d.mCurrAppId.toUInt16 < FF_GAIN)
    (playLengthMs : Option Int) (io : PlayIO) : (d.startEffect playLengthMs io).2.Leveled := by
  rw [InputFFDevice.startEffect]
  split
  · refine ⟨h.magnitude, h.given, fun ie hie => ?_⟩
    obtain rfl | hie := List.mem_cons.mp hie
    · exact .inr ⟨hid, rfl⟩
    · exact h.written ie hie
  · split
    · exact h.kept _ _
    · exact h.errout _

/-- A new effect has the magnitude of the device. -/
theorem Leveled.withEffect (h : d.Leveled) (effectId : Int32) (timeoutMs : UInt32) (id : Int16) :
    (d.withEffect { d.effectOf effectId timeoutMs with id }).Leveled := by
  refine ⟨h.magnitude, fun e he => ?_, h.written⟩
  obtain rfl | he := List.mem_cons.mp he
  · show IsLevel (d.effectOf effectId timeoutMs).u.level
    rw [level_effectOf]
    exact h.magnitude
  · exact h.given e he

theorem Leveled.play (h : d.Leveled) (effectId : Int32) (timeoutMs : UInt32) {io : PlayIO}
    (hio : io.Numbered) : (d.play effectId timeoutMs io).2.Leveled := by
  rw [InputFFDevice.play]
  split
  · exact h
  rename_i hfd
  split
  · rename_i htimeout
    split
    · exact h.errout _
    rename_i hgo
    have hremove : d.mCurrAppId ≠ INVALID_VALUE → io.remove = true :=
      fun hid => Bool.of_not_eq_false fun hfail => hgo ⟨hid, hfail⟩
    cases hupload : io.upload with
    | none => exact h.removePrevious.errout _
    | some u =>
        obtain ⟨len, hplay⟩ := play_of_upload hfd effectId htimeout hremove hupload
        rw [InputFFDevice.play, if_neg hfd, if_pos htimeout, if_neg hgo, hupload] at hplay
        dsimp only at hplay ⊢
        rw [hplay]
        exact (h.removePrevious.withEffect effectId timeoutMs u.id).startEffect
          (toUInt16_lt u.id_nonneg (hio u hupload)) len io
  · split
    · split
      · exact h.kept _ _
      · exact h.errout _
    · exact h

theorem isLevel_of_magnitude {es : EffectStrength} {m : Int16} (h : magnitude es = some m) :
    IsLevel m := by
  cases es with
  | light => exact Option.some.inj h ▸ (by decide)
  | medium => exact Option.some.inj h ▸ (by decide)
  | strong => exact Option.some.inj h ▸ (by decide)
  | other value => cases h

theorem Leveled.playEffect (h : d.Leveled) (effectId : Int32) (es : EffectStrength) {io : PlayIO}
    (hio : io.Numbered) : (d.playEffect effectId es io).2.Leveled := by
  rw [InputFFDevice.playEffect]
  split
  · exact h
  · rename_i m hm
    have hm : Leveled { d with mCurrMagnitude := m } :=
      ⟨isLevel_of_magnitude hm, h.given, h.written⟩
    exact hm.play effectId _ hio

/-- The scaled amplitude, between the magnitudes of the light and the strong effects. -/
theorem scaled_le (amplitude : UInt8) :
    0x3fff ≤ amplitude.toNat * (0x7fff - 0x3fff) / 255 + 0x3fff ∧
      amplitude.toNat * (0x7fff - 0x3fff) / 255 + 0x3fff ≤ 0x7fff := by
  have hlt := amplitude.toNat_lt
  omega

theorem Leveled.setAmplitude (h : d.Leveled) (amplitude : UInt8) (success : Bool) :
    (d.setAmplitude amplitude success).2.Leveled := by
  obtain ⟨hle, hge⟩ := scaled_le amplitude
  rw [InputFFDevice.setAmplitude]
  split
  · exact h
  dsimp only
  generalize amplitude.toNat * (0x7fff - 0x3fff) / 255 + 0x3fff = tmp at hle hge ⊢
  split
  · refine ⟨⟨?_, ?_⟩, h.given, fun ie hie => ?_⟩
    · rw [Int16.le_iff_toInt_le, Int16.toInt_ofNat_of_lt (by omega)]
      exact Int.ofNat_le.mpr hle
    · rw [Int16.le_iff_toInt_le, Int16.toInt_ofNat_of_lt (by omega)]
      exact Int.ofNat_le.mpr hge
    · obtain rfl | hie := List.mem_cons.mp hie
      · refine .inl ⟨rfl, ?_, ?_⟩
        · rw [Int32.le_iff_toInt_le, Int32.toInt_ofNat_of_lt (by omega)]
          exact Int.ofNat_le.mpr hle
        · rw [Int32.le_iff_toInt_le, Int32.toInt_ofNat_of_lt (by omega)]
          exact Int.ofNat_le.mpr hge
      · exact h.written ie hie
  · exact h

theorem leveled_detect (p : Probe) (h : d.Leveled) (nodes : List InputNode) :
    (detect p d nodes).Leveled := by
  induction nodes with
  | nil => exact h
  | cons node nodes ih =>
      rw [detect]
      split
      · exact ih
      split
      · exact ih
      split
      · exact ih
      · split
        · exact ⟨h.magnitude, h.given, h.written⟩
        · exact ih

theorem leveled_create (p : Probe) : (create p).Leveled := by
  have hnew : Leveled {} := ⟨by decide, nofun, nofun⟩
  rw [create]
  split
  · exact hnew
  · exact leveled_detect p hnew _

end InputFFDevice

namespace Vibrator

/-- The kernel numbers the effects of the call as it says. -/
def KernelIds (_ : Vibrator) : Call → Prop
  | .on _ _ io => io.play.Numbered
  | .off io => io.play.Numbered
  | .perform _ _ _ io => io.play.Numbered
  | _ => True

variable {v : Vibrator}

theorem leveled_on (h : v.ff.Leveled) (timeoutMs : Int32) (callback : Bool) {io : RequestIO}
    (hio : io.play.Numbered) : (v.on timeoutMs callback io).2.ff.Leveled := by
  have hplay := h.play INVALID_VALUE timeoutMs.toUInt32 hio
  rw [on]
  split
  · dsimp only
    split
    · exact h
    · rw [complete_ff]
      exact h
  · dsimp only
    split
    · exact hplay
    · rw [complete_ff]
      exact hplay

theorem leveled_perform (h : v.ff.Leveled) (effect : Int32) (es : InputFFDevice.EffectStrength)
    (callback : Bool) {io : RequestIO} (hio : io.play.Numbered) :
    (v.perform effect es callback io).2.2.ff.Leveled := by
  have hplay := h.playEffect effect es hio
  rw [perform]
  split
  · split
    · exact h
    · rw [complete_ff]
      exact h
  · split
    · exact h
    split
    · exact h
    dsimp only
    split
    · exact hplay
    · rw [complete_ff]
      exact hplay

theorem leveled_step (h : v.ff.Leveled) {c : Call} (hc : v.KernelIds c) :
    (v.step c).ff.Leveled := by
  cases c with
  | on timeoutMs callback io => exact leveled_on h timeoutMs callback hc
  | off io =>
      simp only [step, off]
      split
      · exact h
      · exact h.play INVALID_VALUE 0 hc
  | perform effect es callback io => exact leveled_perform h effect es callback hc
  | setAmplitude amplitude success =>
      simp only [step, setAmplitude]
      split
      · exact h
      cases amplitude with
      | illegal => exact h
      | scaled tmp =>
          dsimp only
          split
          · exact h
          · exact h.setAmplitude tmp success
  | setExternalControl enabled =>
      simp only [step, setExternalControl]
      split
      · exact h
      · split
        · exact h
        · exact ⟨h.magnitude, h.given, h.written⟩

/-- Whatever the service is asked, the kernel is given effects and gains between the light and the
strong magnitude, and nothing else but starts of effects. -/
theorem leveled_run (p : InputFFDevice.Probe) (led : Bool) {cs : List Call}
    (hcs : Machine.Along step KernelIds (create p led) cs) :
    (Machine.run step (create p led) cs).ff.Leveled :=
  Machine.Along.invariant (I := fun v : Vibrator => v.ff.Leveled)
    (fun _ _ h hc => leveled_step h hc) (InputFFDevice.leveled_create p) hcs

/-- An amplitude is set, and then an effect played at its own strength. -/
theorem leveled_run_click :
    (Machine.run step
      (create ⟨415, none, some [⟨7, some "qti-haptics", some ⟨true, true, true, true⟩⟩]⟩ false)
      [.setAmplitude (.scaled 128) true,
        .perform CLICK .light true
          ⟨⟨true, some ⟨3, 0, 20, by decide⟩, true, true⟩, fun _ => .written,
            none⟩]).ff.Leveled := by
  apply leveled_run
  refine ⟨trivial, ?_, trivial⟩
  rintro u ⟨⟩
  decide

end Vibrator

end OneplusHal.Vibrator

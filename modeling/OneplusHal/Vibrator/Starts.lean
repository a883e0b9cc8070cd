import OneplusHal.Vibrator.Uploads
import OneplusHal.Vibrator.Vibrator

/-!
Whether a vibration that is reported as started has been started.

What `play` returns is the result of its last system call. Where the write of the start
event fails, that is the removal of the effect, and a removal that succeeds makes the call
report success. This is the only way to a false report, from any state of the device.
-/

set_option linter.dupNamespace false

namespace OneplusHal.Vibrator

open OneplusHal

namespace InputFFDevice

variable {d : InputFFDevice}

/-- The effect was uploaded and its start event written, and it is uploaded still. -/
def Started (d : InputFFDevice) (effectId : Int32) (timeoutMs : UInt32) (io : PlayIO)
    (d' : InputFFDevice) : Prop :=
  ∃ u, io.upload = some u ∧ io.start = true ∧
    { d.removePrevious.effectOf effectId timeoutMs with id := u.id } ∈ d'.uploaded ∧
    d'.written = { code := u.id.toUInt16, value := 1 } :: d.written

/-- The effect is uploaded, its start event cannot be written, and it is removed again. -/
def StartLost (d : InputFFDevice) (io : PlayIO) : Prop :=
  (d.mCurrAppId ≠ INVALID_VALUE → io.remove = true) ∧ io.upload.isSome ∧ io.start = false ∧
    io.removeUnstarted = true

/-- A call is truthful: it reports success only of an effect that is started. -/
def PlayTruthful (d : InputFFDevice) (effectId : Int32) (timeoutMs : UInt32) (io : PlayIO) :
    Prop :=
  (d.play effectId timeoutMs io).1.ret = 0 →
    d.Started effectId timeoutMs io (d.play effectId timeoutMs io).2

theorem removePrevious_mCurrAppId : d.removePrevious.mCurrAppId = INVALID_VALUE := by
  unfold removePrevious
  split
  case isTrue => rfl
  case isFalse hid => exact not_not.mp hid

theorem removePrevious_written : d.removePrevious.written = d.written := by
  unfold removePrevious
  split <;> rfl

theorem effectOf_id (effectId : Int32) (timeoutMs : UInt32) :
    (d.effectOf effectId timeoutMs).id = d.mCurrAppId := by
  unfold effectOf
  split <;> rfl

/-- The device once the kernel has taken a new effect. -/
def withEffect (d : InputFFDevice) (e : FfEffect) : InputFFDevice :=
  { d with mCurrAppId := e.id, uploaded := e :: d.uploaded, given := e :: d.given }

/-- `play` from the upload on. -/
theorem play_of_upload (hfd : d.mVibraFd ≠ INVALID_VALUE) (effectId : Int32)
    {timeoutMs : UInt32} (htimeout : timeoutMs ≠ 0) {io : PlayIO} {u : Upload}
    (hremove : d.mCurrAppId ≠ INVALID_VALUE → io.remove = true) (hupload : io.upload = some u) :
    ∃ len,
      d.play effectId timeoutMs io =
        (d.removePrevious.withEffect
          { d.removePrevious.effectOf effectId timeoutMs with id := u.id }).startEffect len io := by
  have hgo : ¬(d.mCurrAppId ≠ INVALID_VALUE ∧ io.remove = false) := by
    rintro ⟨hid, hfail⟩
    exact Bool.false_ne_true (hfail.symm.trans (hremove hid))
  have hnew : (d.removePrevious.effectOf effectId timeoutMs).id = INVALID_VALUE :=
    (effectOf_id effectId timeoutMs).trans removePrevious_mCurrAppId
  rw [play, if_neg hfd, if_pos htimeout, if_neg hgo, hupload]
  dsimp only
  simp only [eviocsff, if_pos hnew]
  exact ⟨_, rfl⟩

/-- A call that does not get as far as starting an effect fails. -/
theorem play_of_not_upload (hfd : d.mVibraFd ≠ INVALID_VALUE) (effectId : Int32)
    {timeoutMs : UInt32} (htimeout : timeoutMs ≠ 0) {io : PlayIO}
    (h : ¬((d.mCurrAppId ≠ INVALID_VALUE → io.remove = true) ∧ io.upload.isSome)) :
    (d.play effectId timeoutMs io).1.ret = -1 := by
  rw [play, if_neg hfd, if_pos htimeout]
  split
  case isTrue => rfl
  case isFalse hgo =>
    have hremove : d.mCurrAppId ≠ INVALID_VALUE → io.remove = true :=
      fun hid => Bool.of_not_eq_false fun hfail => hgo ⟨hid, hfail⟩
    cases hupload : io.upload with
    | none => rfl
    | some u => exact absurd ⟨hremove, Option.isSome_of_eq_some hupload⟩ h

/-- A call on a present device is truthful exactly if no start is lost in it. -/
theorem playTruthful_iff (hfd : d.mVibraFd ≠ INVALID_VALUE) (effectId : Int32)
    {timeoutMs : UInt32} (htimeout : timeoutMs ≠ 0) (io : PlayIO) :
    d.PlayTruthful effectId timeoutMs io ↔ ¬d.StartLost io := by
  unfold PlayTruthful
  by_cases hgo : (d.mCurrAppId ≠ INVALID_VALUE → io.remove = true) ∧ io.upload.isSome
  case neg =>
    have hret := play_of_not_upload hfd effectId htimeout hgo
    refine iff_of_true (fun hzero => ?_) fun hlost => hgo ⟨hlost.1, hlost.2.1⟩
    exact absurd (hret.symm.trans hzero) (by decide)
  obtain ⟨hremove, hsome⟩ := hgo
  obtain ⟨u, hupload⟩ := Option.isSome_iff_exists.mp hsome
  obtain ⟨len, hplay⟩ := play_of_upload hfd effectId htimeout hremove hupload
  rw [hplay, startEffect]
  cases hstart : io.start with
  | true =>
      refine iff_of_true (fun _ => ⟨u, hupload, hstart, List.mem_cons_self, ?_⟩) fun hlost => ?_
      · exact congrArg _ removePrevious_written
      · exact Bool.false_ne_true (hlost.2.2.1.symm.trans hstart)
  | false =>
      cases hunstarted : io.removeUnstarted with
      | true =>
          -- The result is that of the removal.
          refine iff_of_false (fun htruthful => ?_) (not_not.mpr ⟨hremove, hsome, hstart, ?_⟩)
          · obtain ⟨_, _, hstarted, _⟩ := htruthful rfl
            exact Bool.false_ne_true (hstart.symm.trans hstarted)
          · exact hunstarted
      | false =>
          refine iff_of_true (fun hzero => ?_) fun hlost => ?_
          · exact absurd (show (-1 : Int32) = 0 from hzero) (by decide)
          · exact Bool.false_ne_true (hunstarted.symm.trans hlost.2.2.2)

end InputFFDevice

namespace Vibrator

variable {v : Vibrator}

/-- The request was answered with success, or calls `onComplete` later. -/
def Reported (v : Vibrator) (status : Status) (v' : Vibrator) : Prop :=
  status = .ok ∨ v'.completions ≠ v.completions

/-- `on` and `perform` report only vibrations that were started. An effect is played with
the magnitude of its strength. -/
def OnTruthful (v : Vibrator) (timeoutMs : Int32) (callback : Bool) (io : RequestIO) : Prop :=
  let r := v.on timeoutMs callback io
  v.Reported r.1 r.2 →
    v.ff.Started INVALID_VALUE timeoutMs.toUInt32 io.play r.2.ff

def PerformTruthful (v : Vibrator) (effect : Int32) (es : InputFFDevice.EffectStrength)
    (callback : Bool) (io : RequestIO) : Prop :=
  let r := v.perform effect es callback io
  v.Reported r.1 r.2.2 →
    ∃ m, InputFFDevice.magnitude es = some m ∧
      { v.ff with mCurrMagnitude := m }.Started effect (INVALID_VALUE : Int32).toUInt32 io.play
        r.2.2.ff

theorem complete_ff (callback : Bool) (us : Option UInt32) :
    (v.complete callback us).ff = v.ff := by
  unfold complete
  split <;> rfl

/-- `on` reports what `play` returns. -/
theorem onTruthful_iff (hled : v.ledVib.mDetected = false) (timeoutMs : Int32)
    (callback : Bool) (io : RequestIO) :
    v.OnTruthful timeoutMs callback io ↔
      v.ff.PlayTruthful INVALID_VALUE timeoutMs.toUInt32 io.play := by
  unfold OnTruthful InputFFDevice.PlayTruthful on
  simp only [hled, Bool.false_eq_true, if_false]
  by_cases hret : (v.ff.on timeoutMs io.play).1.ret = 0
  · rw [if_neg (not_not.mpr hret), complete_ff]
    exact ⟨fun h _ => h (.inl rfl), fun h _ => h hret⟩
  · rw [if_pos hret]
    refine iff_of_true ?_ fun hzero => absurd hzero hret
    rintro (hok | hne)
    · cases hok
    · exact absurd rfl hne

/-- The effects and the strengths that the force-feedback device is asked to play. -/
def Supported (effect : Int32) (es : InputFFDevice.EffectStrength) : Prop :=
  ¬(effect < CLICK ∨ HEAVY_CLICK < effect) ∧ InputFFDevice.magnitude es ≠ none

theorem performTruthful_of_unsupported (hled : v.ledVib.mDetected = false) {effect : Int32}
    {es : InputFFDevice.EffectStrength} (h : ¬Supported effect es) (callback : Bool)
    (io : RequestIO) : v.PerformTruthful effect es callback io := by
  have hperform : v.perform effect es callback io = (.unsupportedOperation, none, v) := by
    unfold perform
    simp only [hled, Bool.false_eq_true, if_false]
    split
    case isTrue => rfl
    case isFalse heffect =>
      exact if_pos (by_contra fun hes => h ⟨heffect, hes⟩)
  simp only [PerformTruthful, hperform]
  rintro (hok | hne)
  · cases hok
  · exact absurd rfl hne

theorem performTruthful_iff (hled : v.ledVib.mDetected = false) {effect : Int32}
    {es : InputFFDevice.EffectStrength} (heffect : ¬(effect < CLICK ∨ HEAVY_CLICK < effect))
    {m : Int16} (hm : InputFFDevice.magnitude es = some m) (callback : Bool) (io : RequestIO) :
    v.PerformTruthful effect es callback io ↔
      { v.ff with mCurrMagnitude := m }.PlayTruthful effect (INVALID_VALUE : Int32).toUInt32
        io.play := by
  have hes : InputFFDevice.magnitude es ≠ none := by
    rw [hm]
    exact Option.some_ne_none m
  unfold PerformTruthful InputFFDevice.PlayTruthful perform
  simp only [hled, Bool.false_eq_true, if_false, if_neg heffect, if_neg hes,
    InputFFDevice.playEffect_of_magnitude hm]
  generalize InputFFDevice.play _ _ _ _ = r
  by_cases hret : r.1.ret = 0
  · rw [if_neg (not_not.mpr hret)]
    dsimp only
    rw [complete_ff]
    constructor
    · intro h _
      obtain ⟨m', hm', hstarted⟩ := h (.inl rfl)
      cases hm.symm.trans hm'
      exact hstarted
    · exact fun h _ => ⟨m, hm, h hret⟩
  · rw [if_pos hret]
    refine iff_of_true ?_ fun hzero => absurd hzero hret
    rintro (hok | hne)
    · cases hok
    · exact absurd rfl hne

/-- On a present device, `play` reports success only of an effect that is started, and so
do `on` and `perform`, if and only if the start is not lost. An effect that is not
supported is not played. -/
theorem starts_truthful_iff (hled : v.ledVib.mDetected = false)
    (hfd : v.ff.mVibraFd ≠ INVALID_VALUE) (io : RequestIO) :
    (∀ effectId timeoutMs, timeoutMs ≠ 0 →
        (v.ff.PlayTruthful effectId timeoutMs io.play ↔ ¬v.ff.StartLost io.play)) ∧
      (∀ timeoutMs callback, timeoutMs ≠ 0 →
        (v.OnTruthful timeoutMs callback io ↔ ¬v.ff.StartLost io.play)) ∧
      ∀ effect es callback,
        (v.PerformTruthful effect es callback io ↔
          (Supported effect es → ¬v.ff.StartLost io.play)) := by
  refine ⟨fun effectId timeoutMs htimeout => ?_, fun timeoutMs callback htimeout => ?_,
    fun effect es callback => ?_⟩
  · exact InputFFDevice.playTruthful_iff hfd effectId htimeout io.play
  · rw [onTruthful_iff hled]
    refine InputFFDevice.playTruthful_iff hfd _ (fun hzero => htimeout ?_) io.play
    exact congrArg Int32.ofUInt32 hzero
  · by_cases hsupported : Supported effect es
    · obtain ⟨m, hm⟩ := Option.ne_none_iff_exists'.mp hsupported.2
      rw [performTruthful_iff hled hsupported.1 hm]
      have htimeout : (INVALID_VALUE : Int32).toUInt32 ≠ 0 := by decide
      refine (InputFFDevice.playTruthful_iff (d := { v.ff with mCurrMagnitude := m }) hfd effect
        htimeout io.play).trans ?_
      exact ⟨fun h _ => h, fun h => h hsupported⟩
    · exact iff_of_true (performTruthful_of_unsupported hled hsupported callback io)
        fun h => absurd h hsupported

/-- The write of the start event fails, and the effect is removed: `play` and `on` report
success, and `onComplete` is called for a vibration that never was. -/
theorem start_lost :
    let ff : InputFFDevice := { mVibraFd := 7 }
    let v : Vibrator := { ff }
    let io : RequestIO :=
      ⟨⟨true, some ⟨0, 0, 0, by decide⟩, false, true⟩, fun _ => .written, none⟩
    (ff.play INVALID_VALUE 500 io.play).1.ret = 0 ∧
      ¬ff.PlayTruthful INVALID_VALUE 500 io.play ∧
      (v.on 500 true io).1 = .ok ∧ (v.on 500 true io).2.completions = [some 500000] ∧
      (v.on 500 true io).2.ff.uploaded = [] ∧ ¬v.OnTruthful 500 true io := by
  intro ff v io
  refine ⟨by decide, fun h => ?_, by decide, by decide, by decide, fun h => ?_⟩
  · obtain ⟨_, _, hstart, _⟩ := h (by decide)
    exact absurd hstart (by decide)
  · obtain ⟨_, _, hstart, _⟩ := h (.inl (by decide))
    exact absurd hstart (by decide)

/-- A vibration whose start event is written is reported truthfully. -/
theorem start_reported :
    let v : Vibrator := { ff := { mVibraFd := 7, mCurrAppId := 3 } }
    v.OnTruthful 500 true
      ⟨⟨true, some ⟨0, 0, 0, by decide⟩, true, true⟩, fun _ => .written, none⟩ := by
  intro v
  refine ((starts_truthful_iff (v := v) rfl (by decide) _).2.1 500 true (by decide)).mpr ?_
  exact fun hlost => absurd hlost.2.2.1 (by decide)

end Vibrator

end OneplusHal.Vibrator

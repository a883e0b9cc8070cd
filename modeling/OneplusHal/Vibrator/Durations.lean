import OneplusHal.Vibrator.Starts

/-!
How long a vibration is meant to last, in the two places that are told.

The duration is a signed 32-bit number of milliseconds. The effect carries it in the 16 bits
of `replay.length`; the thread that calls `onComplete` carries it in a product of two ints,
the microseconds it sleeps.
-/

set_option linter.dupNamespace false

namespace OneplusHal.Vibrator

open OneplusHal

namespace InputFFDevice

variable {d : InputFFDevice}

theorem removePrevious_given : d.removePrevious.given = d.given := by
  rw [removePrevious]
  split <;> rfl

theorem startEffect_given (playLengthMs : Option Int) (io : PlayIO) :
    (d.startEffect playLengthMs io).2.given = d.given := by
  rw [startEffect]
  split
  · rfl
  · split <;> rfl

/-- A call of `play` on a present device that returns zero has given its effect to the kernel,
and no other one. -/
theorem play_given (hfd : d.mVibraFd ≠ INVALID_VALUE) (effectId : Int32) {timeoutMs : UInt32}
    (htimeout : timeoutMs ≠ 0) {io : PlayIO} (hret : (d.play effectId timeoutMs io).1.ret = 0) :
    ∃ id, (d.play effectId timeoutMs io).2.given =
      { d.removePrevious.effectOf effectId timeoutMs with id } :: d.given := by
  have hgo : (d.mCurrAppId ≠ INVALID_VALUE → io.remove = true) ∧ io.upload.isSome := by
    by_contra hno
    rw [play_of_not_upload hfd effectId htimeout hno] at hret
    exact absurd hret (by decide)
  obtain ⟨hremove, hsome⟩ := hgo
  obtain ⟨u, hupload⟩ := Option.isSome_iff_exists.mp hsome
  obtain ⟨len, hplay⟩ := play_of_upload hfd effectId htimeout hremove hupload
  refine ⟨u.id, ?_⟩
  rw [hplay, startEffect_given, withEffect, removePrevious_given]

theorem effectOf_constant (timeoutMs : UInt32) :
    d.effectOf INVALID_VALUE timeoutMs =
      { id := d.mCurrAppId
        replayLength := timeoutMs.toUInt16
        replayDelay := 0
        u := .constant d.mCurrMagnitude } :=
  if_neg (not_not.mpr rfl)

end InputFFDevice

namespace Vibrator

variable {v : Vibrator}

/-- The call gives the kernel a constant effect, programmed to play for the milliseconds asked
for. -/
def Programmed (v : Vibrator) (timeoutMs : Int32) (callback : Bool) (io : RequestIO) : Prop :=
  ∃ e, (v.on timeoutMs callback io).2.ff.given = e :: v.ff.given ∧
    (∃ level, e.u = .constant level) ∧ (e.replayLength.toNat : Int) = timeoutMs.toInt

/-- The thread that reports the end, where there is a callback, sleeps for as many
microseconds as the milliseconds asked for. -/
def Scheduled (v : Vibrator) (timeoutMs : Int32) (callback : Bool) (io : RequestIO) : Prop :=
  callback = true →
    ∃ us, (v.on timeoutMs callback io).2.completions = some us :: v.completions ∧
      (us.toNat : Int) = timeoutMs.toInt * 1000

/-- A nonnegative int is the same number as an unsigned one. -/
theorem toUInt32_toNat {x : Int32} (h : 0 ≤ x) : (x.toUInt32.toNat : Int) = x.toInt := by
  have hnonneg : 0 ≤ x.toInt := Int32.le_iff_toInt_le.mp h
  rw [Int32.toNat_toUInt32_of_le h]
  exact Int.toNat_of_nonneg hnonneg

/-- What 16 bits keep of a duration is the duration exactly if it fits. -/
theorem toUInt16_eq_iff {timeoutMs : Int32} (h : 0 ≤ timeoutMs) :
    (timeoutMs.toUInt32.toUInt16.toNat : Int) = timeoutMs.toInt ↔ timeoutMs ≤ 65535 := by
  have hnat := toUInt32_toNat h
  rw [UInt32.toNat_toUInt16, Int32.le_iff_toInt_le, ← hnat]
  change _ ↔ (timeoutMs.toUInt32.toNat : Int) ≤ 65535
  omega

/-- The product does not overflow up to 2147483 milliseconds. -/
theorem timeoutUs_eq {timeoutMs : Int32} (h : 0 ≤ timeoutMs) (hfit : timeoutMs ≤ 2147483) :
    ∃ us, timeoutUs timeoutMs = some us ∧ (us.toNat : Int) = timeoutMs.toInt * 1000 := by
  have hnonneg : 0 ≤ timeoutMs.toInt := Int32.le_iff_toInt_le.mp h
  have hle : timeoutMs.toInt ≤ 2147483 := Int32.le_iff_toInt_le.mp hfit
  have hmin := Int32.toInt_minValue
  have hmax := Int32.toInt_maxValue
  have hproduct : (timeoutMs * 1000).toInt = timeoutMs.toInt * 1000 := by
    rw [Int32.toInt_mul]
    change (timeoutMs.toInt * 1000).bmod (2 ^ 32) = _
    rw [Int.bmod_eq_of_le] <;> omega
  have hpos : 0 ≤ timeoutMs * 1000 := by
    rw [Int32.le_iff_toInt_le, hproduct]
    change (0 : Int) ≤ _
    omega
  have hfits : Int32.minValue.toInt ≤ timeoutMs.toInt * 1000 ∧
      timeoutMs.toInt * 1000 ≤ Int32.maxValue.toInt := by
    omega
  exact ⟨_, if_pos hfits, (toUInt32_toNat hpos).trans hproduct⟩

/-- From 2147484 milliseconds on it does. -/
theorem timeoutUs_eq_none {timeoutMs : Int32} (h : 2147483 < timeoutMs) :
    timeoutUs timeoutMs = none := by
  have hlt : 2147483 < timeoutMs.toInt := Int32.lt_iff_toInt_lt.mp h
  have hmax := Int32.toInt_maxValue
  refine if_neg fun hfits => ?_
  omega

/-- The thread of a timeout sleeps for its milliseconds exactly if the product fits an int. -/
theorem timeoutUs_iff {timeoutMs : Int32} (h : 0 ≤ timeoutMs) :
    (∃ us, timeoutUs timeoutMs = some us ∧ (us.toNat : Int) = timeoutMs.toInt * 1000) ↔
      timeoutMs ≤ 2147483 := by
  refine ⟨fun ⟨us, hus, _⟩ => ?_, timeoutUs_eq h⟩
  by_contra hfits
  rw [timeoutUs_eq_none (Int32.not_le.mp hfits)] at hus
  cases hus

/-- The thread of an effect sleeps for its milliseconds exactly if the product fits a
`useconds_t`. -/
theorem playLengthUs_iff {playLengthMs : Int} (h : 0 ≤ playLengthMs) :
    ((playLengthUs playLengthMs).toNat : Int) = playLengthMs * 1000 ↔ playLengthMs ≤ 4294967 := by
  have hnat : (playLengthUs playLengthMs).toNat = (playLengthMs * 1000 % 2 ^ 32).toNat := by
    rw [playLengthUs, UInt32.ofInt, UInt32.toNat_ofNat']
    omega
  rw [hnat]
  omega

/-- An answer of success is that of `play`, and the thread is left. -/
theorem on_ok (hled : v.ledVib.mDetected = false) {timeoutMs : Int32} {callback : Bool}
    {io : RequestIO} (hok : (v.on timeoutMs callback io).1 = .ok) :
    (v.ff.on timeoutMs io.play).1.ret = 0 ∧
      (v.on timeoutMs callback io).2.ff = (v.ff.on timeoutMs io.play).2 ∧
      (callback = true →
        (v.on timeoutMs callback io).2.completions = timeoutUs timeoutMs :: v.completions) := by
  unfold on at hok ⊢
  simp only [hled, Bool.false_eq_true, if_false] at hok ⊢
  by_cases hret : (v.ff.on timeoutMs io.play).1.ret = 0
  · rw [if_neg (not_not.mpr hret), complete_ff]
    refine ⟨hret, rfl, fun hcallback => ?_⟩
    rw [complete, if_pos hcallback]
  · rw [if_pos hret] at hok
    cases hok

/-- The effect of a request that succeeds is programmed for its duration exactly if that
fits 16 bits. -/
theorem programmed_iff (hled : v.ledVib.mDetected = false)
    (hfd : v.ff.mVibraFd ≠ INVALID_VALUE) {timeoutMs : Int32} (hpos : 0 < timeoutMs)
    {callback : Bool} {io : RequestIO} (hok : (v.on timeoutMs callback io).1 = .ok) :
    v.Programmed timeoutMs callback io ↔ timeoutMs ≤ 65535 := by
  have hnonneg : 0 ≤ timeoutMs := Int32.le_of_lt hpos
  have htimeout : timeoutMs.toUInt32 ≠ 0 := by
    intro hzero
    rw [show timeoutMs = 0 from congrArg Int32.ofUInt32 hzero] at hpos
    exact absurd hpos (by decide)
  obtain ⟨hret, hff, -⟩ := on_ok hled hok
  obtain ⟨id, hgiven⟩ := InputFFDevice.play_given hfd INVALID_VALUE htimeout hret
  rw [InputFFDevice.effectOf_constant] at hgiven
  rw [← toUInt16_eq_iff hnonneg, Programmed, hff]
  constructor
  · rintro ⟨e, he, -, hlength⟩
    obtain ⟨rfl, -⟩ := List.cons.inj (he.symm.trans hgiven)
    exact hlength
  · exact fun hlength => ⟨_, hgiven, ⟨_, rfl⟩, hlength⟩

/-- A request to a present device that succeeds has the duration it was given programmed and
reported, if and only if the duration fits 16 bits. -/
theorem durations_agree_iff (hled : v.ledVib.mDetected = false)
    (hfd : v.ff.mVibraFd ≠ INVALID_VALUE) (timeoutMs : Int32) (hpos : 0 < timeoutMs)
    (callback : Bool) (io : RequestIO) (hok : (v.on timeoutMs callback io).1 = .ok) :
    (v.Programmed timeoutMs callback io ∧ v.Scheduled timeoutMs callback io) ↔
      timeoutMs ≤ 65535 := by
  rw [programmed_iff hled hfd hpos hok]
  refine ⟨And.left, fun hfits => ⟨hfits, fun hcallback => ?_⟩⟩
  obtain ⟨us, hus, hproduct⟩ :=
    timeoutUs_eq (Int32.le_of_lt hpos) (Int32.le_trans hfits (by decide))
  exact ⟨us, hus ▸ (on_ok hled hok).2.2 hcallback, hproduct⟩

/-- The outcomes of a request all whose system calls succeed. -/
def RequestIO.succeeding : RequestIO :=
  ⟨⟨true, some ⟨0, 0, 0, by decide⟩, true, true⟩, fun _ => .written, none⟩

/-- A vibration of 70 seconds stops after 4464 milliseconds, and its end is reported after 70
seconds; one of 2147484 milliseconds overflows the product. -/
theorem duration_truncated :
    let v : Vibrator := { ff := { mVibraFd := 7 } }
    ((v.on 70000 true .succeeding).1 = .ok ∧
      (v.on 70000 true .succeeding).2.ff.given.map (·.replayLength) = [4464] ∧
      (v.on 70000 true .succeeding).2.completions = [some 70000000] ∧
      ¬v.Programmed 70000 true .succeeding) ∧
      (v.on 2147484 true .succeeding).1 = .ok ∧
      (v.on 2147484 true .succeeding).2.completions = [none] ∧
      ¬v.Scheduled 2147484 true .succeeding := by
  intro v
  refine ⟨⟨by decide, by decide, by decide, ?_⟩, by decide, by decide, fun h => ?_⟩
  · rintro ⟨e, he, -, hlength⟩
    obtain ⟨rfl, -⟩ := List.cons.inj (he.symm.trans
      (show (v.on 70000 true .succeeding).2.ff.given = [⟨0, 4464, 0, .constant 0x7fff⟩] by decide))
    exact absurd hlength (by decide)
  · obtain ⟨us, hus, -⟩ := h rfl
    exact absurd (hus.symm.trans
      (show (v.on 2147484 true .succeeding).2.completions = [none] by decide)) (by simp)

/-- Half a second is programmed and reported. -/
theorem duration_kept :
    let v : Vibrator := { ff := { mVibraFd := 7 } }
    v.Programmed 500 true .succeeding ∧ v.Scheduled 500 true .succeeding :=
  (durations_agree_iff (v := { ff := { mVibraFd := 7 } }) rfl (by decide) 500 (by decide) true
    .succeeding (by decide)).mpr (by decide)

end Vibrator

end OneplusHal.Vibrator

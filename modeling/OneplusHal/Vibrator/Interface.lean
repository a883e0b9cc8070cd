import OneplusHal.Lib.Refinement
import OneplusHal.Vibrator.Durations

/-!
The interface of the vibrator service over a run of calls.

What the service can do is settled when its devices are detected, and the interface advertises it:
the calls that it turns away as unsupported are those that it does not advertise, but for amplitudes
under external control. Each call that succeeds leaves at most one thread, which completes it.
-/

-- The class has the name of its interface.
set_option linter.dupNamespace false

namespace OneplusHal.Vibrator

/-! ### The interface -/

def CAP_ON_CALLBACK : UInt32 := 1
def CAP_PERFORM_CALLBACK : UInt32 := 2
def CAP_AMPLITUDE_CONTROL : UInt32 := 4
def CAP_EXTERNAL_CONTROL : UInt32 := 8

def THUD : Int32 := 3
def POP : Int32 := 4

/-- The amplitude of a caller: not in the range, or as it is scaled to a byte. -/
inductive Amplitude
  | illegal
  | scaled (tmp : UInt8)

inductive Answer
  | status (s : Status)
  | illegalArgument
  deriving DecidableEq

namespace Vibrator

/-- The service as it starts; `led` says whether there is an LED vibrator. -/
def create (p : InputFFDevice.Probe) (led : Bool) : Vibrator :=
  { ff := .create p, ledVib := { mDetected := led } }

def getCapabilities (v : Vibrator) : UInt32 :=
  if v.ledVib.mDetected then CAP_ON_CALLBACK ||| CAP_PERFORM_CALLBACK
  else
    let caps := CAP_ON_CALLBACK
    let caps := if v.ff.mSupportGain then caps ||| CAP_AMPLITUDE_CONTROL else caps
    let caps := if v.ff.mSupportEffects then caps ||| CAP_PERFORM_CALLBACK else caps
    if v.ff.mSupportExternalControl then caps ||| CAP_EXTERNAL_CONTROL else caps

def getSupportedEffects (v : Vibrator) : List Int32 :=
  if v.ledVib.mDetected then [CLICK, DOUBLE_CLICK, TICK, HEAVY_CLICK]
  else [CLICK, DOUBLE_CLICK, TICK, THUD, POP, HEAVY_CLICK]

def setAmplitude (amplitude : Amplitude) (success : Bool) (v : Vibrator) : Answer × Vibrator :=
  if v.ledVib.mDetected then (.status .unsupportedOperation, v)
  else
    match amplitude with
    | .illegal => (.illegalArgument, v)
    | .scaled tmp =>
        if v.ff.mInExternalControl then (.status .unsupportedOperation, v)
        else
          let r := v.ff.setAmplitude tmp success
          (if r.1.ret ≠ 0 then .status .serviceSpecific else .status .ok, { v with ff := r.2 })

def setExternalControl (enabled : Bool) (v : Vibrator) : Status × Vibrator :=
  if v.ledVib.mDetected then (.unsupportedOperation, v)
  else if !v.ff.mSupportExternalControl then (.unsupportedOperation, v)
  else (.ok, { v with ff := { v.ff with mInExternalControl := enabled } })

inductive Call
  | on (timeoutMs : Int32) (callback : Bool) (io : RequestIO)
  | off (io : RequestIO)
  | perform (effect : Int32) (es : InputFFDevice.EffectStrength) (callback : Bool)
      (io : RequestIO)
  | setAmplitude (amplitude : Amplitude) (success : Bool)
  | setExternalControl (enabled : Bool)

def step (v : Vibrator) : Call → Vibrator
  | .on timeoutMs callback io => (v.on timeoutMs callback io).2
  | .off io => (v.off io).2
  | .perform effect es callback io => (v.perform effect es callback io).2.2
  | .setAmplitude amplitude success => (v.setAmplitude amplitude success).2
  | .setExternalControl enabled => (v.setExternalControl enabled).2

end Vibrator

/-! ### What a call leaves alone -/

namespace InputFFDevice

/-- What the constructor has found and who is in control. -/
def settings (d : InputFFDevice) : Bool × Bool × Bool × Bool :=
  (d.mSupportGain, d.mSupportEffects, d.mSupportExternalControl, d.mInExternalControl)

variable {d : InputFFDevice}

theorem settings_removePrevious : d.removePrevious.settings = d.settings := by
  rw [removePrevious]
  split <;> rfl

theorem settings_eviocsff (effect : FfEffect) (u : Upload) :
    (d.eviocsff effect u).2.settings = d.settings := by
  rw [eviocsff]
  split <;> rfl

theorem settings_startEffect (playLengthMs : Option Int) (io : PlayIO) :
    (d.startEffect playLengthMs io).2.settings = d.settings := by
  rw [startEffect]
  split
  · rfl
  · split <;> rfl

theorem settings_play (effectId : Int32) (timeoutMs : UInt32) (io : PlayIO) :
    (d.play effectId timeoutMs io).2.settings = d.settings := by
  rw [play]
  split
  · rfl
  split
  · split
    · rfl
    · split
      · exact settings_removePrevious
      · rename_i u _
        exact (settings_startEffect _ io).trans
          ((settings_eviocsff _ u).trans settings_removePrevious)
  · split
    · split <;> rfl
    · rfl

theorem settings_playEffect (effectId : Int32) (es : EffectStrength) (io : PlayIO) :
    (d.playEffect effectId es io).2.settings = d.settings := by
  rw [playEffect]
  split
  · rfl
  · rw [settings_play]
    rfl

theorem settings_setAmplitude (amplitude : UInt8) (success : Bool) :
    (d.setAmplitude amplitude success).2.settings = d.settings := by
  rw [setAmplitude]
  split
  · rfl
  · split <;> simp only [settings, write]

end InputFFDevice

namespace Vibrator

variable {v : Vibrator}

/-- What the devices can do, and who is in control. -/
def settings (v : Vibrator) : Bool × Bool × Bool × Bool × Bool :=
  (v.ledVib.mDetected, v.ff.settings)

theorem mDetected_write_value (file value : String) (io : WriteValue) (l : LedVibratorDevice) :
    (l.write_value file value io).2.mDetected = l.mDetected := by
  cases io <;> rfl

theorem mDetected_on (timeoutMs : Int32) (state duration activate : WriteValue)
    (l : LedVibratorDevice) :
    (l.on timeoutMs state duration activate).2.mDetected = l.mDetected := by
  simp only [LedVibratorDevice.on]
  split
  · exact mDetected_write_value _ _ _ l
  split
  · rw [mDetected_write_value, mDetected_write_value]
  split <;> rw [mDetected_write_value, mDetected_write_value, mDetected_write_value]

theorem mDetected_writeValues (io : ℕ → WriteValue) (n : ℕ) (values : List (String × String))
    (l : LedVibratorDevice) : (writeValues io n values l).mDetected = l.mDetected := by
  induction values generalizing n l with
  | nil => rfl
  | cons value values ih =>
      obtain ⟨path, value⟩ := value
      rw [writeValues]
      split
      · exact ih n l
      · rw [ih, mDetected_write_value]

theorem settings_complete (callback : Bool) (us : Option UInt32) :
    (v.complete callback us).settings = v.settings := by
  rw [complete]
  split <;> rfl

theorem settings_led {l : LedVibratorDevice} (h : l.mDetected = v.ledVib.mDetected) :
    ({ v with ledVib := l } : Vibrator).settings = v.settings :=
  congrArg (·, v.ff.settings) h

theorem settings_ff {ff : InputFFDevice} (h : ff.settings = v.ff.settings) :
    ({ v with ff } : Vibrator).settings = v.settings :=
  congrArg (v.ledVib.mDetected, ·) h

theorem settings_on (timeoutMs : Int32) (callback : Bool) (io : RequestIO) :
    (v.on timeoutMs callback io).2.settings = v.settings := by
  have hled := settings_led (v := v)
    (mDetected_on timeoutMs (io.values 0) (io.values 1) (io.values 2) v.ledVib)
  have hff := settings_ff (v := v)
    (InputFFDevice.settings_play INVALID_VALUE timeoutMs.toUInt32 io.play)
  rw [on]
  split
  · dsimp only
    split
    · exact hled
    · exact (settings_complete _ _).trans hled
  · dsimp only
    split
    · exact hff
    · exact (settings_complete _ _).trans hff

theorem settings_off (io : RequestIO) : (v.off io).2.settings = v.settings := by
  rw [off]
  split
  · exact settings_led (mDetected_write_value _ _ _ v.ledVib)
  · exact settings_ff (InputFFDevice.settings_play INVALID_VALUE 0 io.play)

theorem settings_perform (effect : Int32) (es : InputFFDevice.EffectStrength) (callback : Bool)
    (io : RequestIO) : (v.perform effect es callback io).2.2.settings = v.settings := by
  rw [perform]
  split
  · split
    · rfl
    · refine (settings_complete _ _).trans (settings_led ?_)
      rw [mDetected_write_value, mDetected_writeValues]
  · split
    · rfl
    split
    · rfl
    have hff := settings_ff (v := v) (InputFFDevice.settings_playEffect effect es io.play)
    dsimp only
    split
    · exact hff
    · exact (settings_complete _ _).trans hff

theorem settings_setAmplitude (amplitude : Amplitude) (success : Bool) :
    (v.setAmplitude amplitude success).2.settings = v.settings := by
  unfold setAmplitude
  split
  · rfl
  cases amplitude with
  | illegal => rfl
  | scaled tmp =>
      dsimp only
      split
      · rfl
      · exact settings_ff (InputFFDevice.settings_setAmplitude tmp success)

/-- Nothing but external control ever changes. -/
theorem settings_step {c : Call} (hc : ∀ enabled, c ≠ .setExternalControl enabled) :
    (v.step c).settings = v.settings := by
  cases c with
  | on timeoutMs callback io => exact settings_on timeoutMs callback io
  | off io => exact settings_off io
  | perform effect es callback io => exact settings_perform effect es callback io
  | setAmplitude amplitude success => exact settings_setAmplitude amplitude success
  | setExternalControl enabled => exact absurd rfl (hc enabled)

/-! ### What is advertised -/

/-- What the interface says that it can do. -/
def advertised (v : Vibrator) : UInt32 × List Int32 := (v.getCapabilities, v.getSupportedEffects)

theorem advertised_congr {v' : Vibrator} (h : v'.settings = v.settings) :
    v'.advertised = v.advertised := by
  simp only [settings, InputFFDevice.settings, Prod.mk.injEq] at h
  obtain ⟨hled, hgain, heffects, hexternal, -⟩ := h
  simp only [advertised, getCapabilities, getSupportedEffects, hled, hgain, heffects, hexternal]

theorem advertised_step (v : Vibrator) (c : Call) : (v.step c).advertised = v.advertised := by
  cases c with
  | setExternalControl enabled =>
      simp only [step, setExternalControl]
      split
      · rfl
      · split <;> rfl
  | _ => exact advertised_congr (settings_step nofun)

theorem mDetected_step (v : Vibrator) (c : Call) :
    (v.step c).ledVib.mDetected = v.ledVib.mDetected := by
  have hother (hc : ∀ enabled, c ≠ .setExternalControl enabled) :
      (v.step c).ledVib.mDetected = v.ledVib.mDetected :=
    congrArg Prod.fst (settings_step (v := v) hc)
  cases c with
  | setExternalControl enabled =>
      simp only [step, setExternalControl]
      split
      · rfl
      · split <;> rfl
  | _ => exact hother nofun

theorem mem_effects_iff (effect : Int32) :
    effect ∈ [CLICK, DOUBLE_CLICK, TICK, THUD, POP, HEAVY_CLICK] ↔
      ¬(effect < CLICK ∨ HEAVY_CLICK < effect) := by
  simp only [List.mem_cons, List.not_mem_nil, or_false, ← Int32.toInt_inj, Int32.lt_iff_toInt_lt,
    CLICK, DOUBLE_CLICK, TICK, THUD, POP, HEAVY_CLICK, Int32.reduceToInt]
  omega

theorem ledEffects_eq_none_iff (effect : Int32) :
    ledEffects effect = none ↔ effect ∉ [CLICK, DOUBLE_CLICK, TICK, HEAVY_CLICK] := by
  rw [ledEffects]
  split_ifs <;> simp_all

/-- Effects of a known strength are turned away if they are not listed, and only then. -/
theorem perform_unsupported_iff (v : Vibrator) (effect : Int32)
    {es : InputFFDevice.EffectStrength} (hes : InputFFDevice.magnitude es ≠ none)
    (callback : Bool) (io : RequestIO) :
    (v.perform effect es callback io).1 = .unsupportedOperation ↔
      effect ∉ v.getSupportedEffects := by
  rw [perform, getSupportedEffects]
  split
  · rw [← ledEffects_eq_none_iff]
    split
    · rename_i hnone
      exact iff_of_true rfl hnone
    · rename_i values hsome
      exact iff_of_false nofun (by rw [hsome]; nofun)
  · rw [mem_effects_iff, not_not]
    split
    · rename_i hout
      exact iff_of_true rfl hout
    · rename_i hin
      refine iff_of_false ?_ hin
      dsimp only
      split <;> nofun

theorem external_eq_zero_iff (v : Vibrator) :
    v.getCapabilities &&& CAP_EXTERNAL_CONTROL = 0 ↔
      v.ledVib.mDetected = true ∨ v.ff.mSupportExternalControl = false := by
  rw [getCapabilities]
  cases v.ledVib.mDetected <;> cases v.ff.mSupportExternalControl <;> cases v.ff.mSupportGain <;>
    cases v.ff.mSupportEffects <;> decide

/-- External control is turned away if it is not advertised, and only then. -/
theorem setExternalControl_unsupported_iff (v : Vibrator) (enabled : Bool) :
    (v.setExternalControl enabled).1 = .unsupportedOperation ↔
      v.getCapabilities &&& CAP_EXTERNAL_CONTROL = 0 := by
  rw [external_eq_zero_iff, setExternalControl]
  split
  · rename_i hled
    exact iff_of_true rfl (.inl hled)
  · rename_i hled
    rw [or_iff_right hled]
    split
    · rename_i hexternal
      exact iff_of_true rfl (by simpa using hexternal)
    · rename_i hexternal
      exact iff_of_false nofun (by simpa using hexternal)

/-! ### External control -/

/-- Somebody else takes control, and may. -/
def Takes (v : Vibrator) (c : Call) : Prop :=
  c = .setExternalControl true ∧ (v.setExternalControl true).1 = .ok

/-- Control is given back. -/
def Returns (v : Vibrator) (c : Call) : Prop :=
  c = .setExternalControl false ∧ (v.setExternalControl false).1 = .ok

theorem mInExternalControl_step (v : Vibrator) (c : Call) :
    (v.step c).ff.mInExternalControl = true ↔
      v.Takes c ∨ (v.ff.mInExternalControl = true ∧ ¬v.Returns c) := by
  have hother (hc : ∀ enabled, c ≠ .setExternalControl enabled) :
      (v.step c).ff.mInExternalControl = true ↔
        v.Takes c ∨ (v.ff.mInExternalControl = true ∧ ¬v.Returns c) := by
    have hsettings := settings_step (v := v) hc
    simp only [settings, InputFFDevice.settings, Prod.mk.injEq] at hsettings
    rw [hsettings.2.2.2.2, or_iff_right fun h => hc true h.1, and_iff_left fun h => hc false h.1]
  cases c with
  | setExternalControl enabled =>
      simp only [step, Takes, Returns, setExternalControl]
      cases enabled <;> cases v.ledVib.mDetected <;> cases v.ff.mSupportExternalControl <;> simp
  | _ => exact hother nofun

theorem mInExternalControl_detect (p : InputFFDevice.Probe) (d : InputFFDevice)
    (nodes : List InputFFDevice.InputNode) :
    (InputFFDevice.detect p d nodes).mInExternalControl = d.mInExternalControl := by
  induction nodes with
  | nil => rfl
  | cons node nodes ih =>
      rw [InputFFDevice.detect]
      split
      · exact ih
      split
      · exact ih
      split
      · exact ih
      · split
        · rfl
        · exact ih

theorem mInExternalControl_create (p : InputFFDevice.Probe) (led : Bool) :
    (create p led).ff.mInExternalControl = false := by
  show (InputFFDevice.create p).mInExternalControl = false
  rw [InputFFDevice.create]
  split
  · rfl
  · exact mInExternalControl_detect p {} _

/-- An amplitude is turned away if there is an LED vibrator or somebody else is in control. -/
theorem setAmplitude_unsupported_iff (v : Vibrator) (tmp : UInt8) (success : Bool) :
    (v.setAmplitude (.scaled tmp) success).1 = .status .unsupportedOperation ↔
      v.ledVib.mDetected = true ∨ v.ff.mInExternalControl = true := by
  unfold setAmplitude
  split
  · rename_i hled
    exact iff_of_true rfl (.inl hled)
  · rename_i hled
    rw [or_iff_right hled]
    dsimp only
    split
    · rename_i hcontrol
      exact iff_of_true rfl hcontrol
    · rename_i hcontrol
      refine iff_of_false ?_ hcontrol
      dsimp only
      split <;> nofun

/-- What the interface does is what it has advertised from the start. -/
structure Honest (v₀ v : Vibrator) : Prop where
  capabilities : v.getCapabilities = v₀.getCapabilities
  supportedEffects : v.getSupportedEffects = v₀.getSupportedEffects
  effects : ∀ effect es callback io, InputFFDevice.magnitude es ≠ none →
    ((v.perform effect es callback io).1 = .unsupportedOperation ↔
      effect ∉ v₀.getSupportedEffects)
  externalControl : ∀ enabled, (v.setExternalControl enabled).1 = .unsupportedOperation ↔
    v₀.getCapabilities &&& CAP_EXTERNAL_CONTROL = 0

theorem honest_of_advertised {v₀ : Vibrator} (h : v.advertised = v₀.advertised) : Honest v₀ v where
  capabilities := congrArg Prod.fst h
  supportedEffects := congrArg Prod.snd h
  effects effect es callback io hes := by
    rw [perform_unsupported_iff v effect hes,
      show v.getSupportedEffects = _ from congrArg Prod.snd h]
    rfl
  externalControl enabled := by
    rw [setExternalControl_unsupported_iff, show v.getCapabilities = _ from congrArg Prod.fst h]
    rfl

/-- After any run the service turns away what it does not advertise, and amplitudes as long as
somebody else has taken control and not given it back. -/
theorem honest_run (p : InputFFDevice.Probe) (led : Bool) (cs : List Call) :
    Honest (create p led) (Machine.run step (create p led) cs) ∧
      ∀ tmp success, ((Machine.run step (create p led) cs).setAmplitude (.scaled tmp) success).1 =
          .status .unsupportedOperation ↔
        led = true ∨ Machine.SetSince step Takes Returns (create p led) cs := by
  have hadvertised := Machine.run_invariant (I := fun v => v.advertised = (create p led).advertised)
    (fun v c h => (advertised_step v c).trans h) rfl cs
  have hled : (Machine.run step (create p led) cs).ledVib.mDetected = led :=
    Machine.run_invariant (I := fun v => v.ledVib.mDetected = led)
      (fun v c h => (mDetected_step v c).trans h) rfl cs
  refine ⟨honest_of_advertised hadvertised, fun tmp success => ?_⟩
  rw [setAmplitude_unsupported_iff, hled]
  have hvacant : ¬(create p led).ff.mInExternalControl = true := by
    rw [mInExternalControl_create]
    exact Bool.false_ne_true
  exact or_congr_right (Machine.holds_run_iff
    (P := fun v : Vibrator => v.ff.mInExternalControl = true) mInExternalControl_step hvacant cs)

/-! ### Completions -/

/-- How long the thread sleeps after which a call that succeeds calls back: for the time asked for,
or for the one that the call says a predefined effect takes. -/
def promised (v : Vibrator) : Call → Option (Option UInt32)
  | .on timeoutMs callback io =>
      if callback ∧ (v.on timeoutMs callback io).1 = .ok then some (timeoutUs timeoutMs) else none
  | .perform effect es callback io =>
      if callback then
        (v.perform effect es callback io).2.1.map fun playLengthMs =>
          some (playLengthUs playLengthMs)
      else none
  | _ => none

theorem completions_complete (callback : Bool) (us : Option UInt32) :
    (v.complete callback us).completions =
      (if callback then some us else none).toList ++ v.completions := by
  rw [complete]
  split <;> rfl

theorem completions_on (timeoutMs : Int32) (callback : Bool) (io : RequestIO) :
    (v.on timeoutMs callback io).2.completions =
      (v.promised (.on timeoutMs callback io)).toList ++ v.completions := by
  rw [promised, on]
  split
  · dsimp only
    split
    · rw [if_neg (fun h => nomatch h.2)]
      rfl
    · rw [completions_complete]
      simp only [and_true]
  · dsimp only
    split
    · rw [if_neg (fun h => nomatch h.2)]
      rfl
    · rw [completions_complete]
      simp only [and_true]

theorem completions_perform (effect : Int32) (es : InputFFDevice.EffectStrength) (callback : Bool)
    (io : RequestIO) :
    (v.perform effect es callback io).2.2.completions =
      (v.promised (.perform effect es callback io)).toList ++ v.completions := by
  have hnone :
      (if callback then (none : Option (Option UInt32)) else none).toList ++ v.completions =
        v.completions := by
    split <;> rfl
  rw [promised, perform]
  split
  · split
    · exact hnone.symm
    · rw [completions_complete]
      rfl
  · split
    · exact hnone.symm
    split
    · exact hnone.symm
    dsimp only
    split
    · exact hnone.symm
    · rw [completions_complete]
      rfl

theorem completions_step (v : Vibrator) (c : Call) :
    (v.step c).completions = (v.promised c).toList ++ v.completions := by
  cases c with
  | on timeoutMs callback io => exact completions_on timeoutMs callback io
  | off io =>
      simp only [step, off]
      split <;> rfl
  | perform effect es callback io => exact completions_perform effect es callback io
  | setAmplitude amplitude success =>
      simp only [step, setAmplitude]
      split
      · rfl
      cases amplitude with
      | illegal => rfl
      | scaled tmp =>
          dsimp only
          split <;> rfl
  | setExternalControl enabled =>
      simp only [step, setExternalControl]
      split
      · rfl
      · split <;> rfl

/-- Each call with a callback that succeeds completes once, after its own sleep, and no other call
completes. The sleep takes as long as was asked for or said, up to 2147483 milliseconds asked for
and 4294967 said, and not beyond. -/
theorem completions_run (p : InputFFDevice.Probe) (led : Bool) (cs : List Call) :
    (Machine.run step (create p led) cs).completions =
        (Refinement.labels step promised (create p led) cs).reverse ∧
      (∀ timeoutMs : Int32, 0 ≤ timeoutMs →
        ((∃ us, timeoutUs timeoutMs = some us ∧ (us.toNat : Int) = timeoutMs.toInt * 1000) ↔
          timeoutMs ≤ 2147483)) ∧
      ∀ playLengthMs : Int, 0 ≤ playLengthMs →
        (((playLengthUs playLengthMs).toNat : Int) = playLengthMs * 1000 ↔
          playLengthMs ≤ 4294967) := by
  refine ⟨?_, fun _ => timeoutUs_iff, fun _ => playLengthUs_iff⟩
  rw [Refinement.run_collects (f := completions) completions_step]
  exact List.append_nil _

end Vibrator

end OneplusHal.Vibrator

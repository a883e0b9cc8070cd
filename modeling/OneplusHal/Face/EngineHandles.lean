import Mathlib.Tactic.IntervalCases
import OneplusHal.Face.FaceEngine
import OneplusHal.Lib.Machine

/-!
The handles of the cv engine over a history of `init` calls.

The early return of `init` looks at the verify handle alone, and a repeated `initLocked`
begins with the first creation again. A history is safe up to the first call that stops
after some creation, and what goes wrong later depends on where it stopped: after the
verify handle, every later call reports success without a liveness handle; before it, the
next call whose first creation succeeds overwrites the detector.
-/

namespace OneplusHal.Face

open OneplusHal

namespace FaceEngine

def initStep (e : FaceEngine) (io : EngineInitIO) : FaceEngine := (init io e).2

/-- All five handles hold objects that were created. -/
def HoldsAll (e : FaceEngine) : Prop :=
  ∀ slot ∈ [e.mDetector, e.mDetector640, e.mOcular, e.mVerify, e.mHackness],
    ∃ h ∈ e.created, slot = some h

/-- Every handle created is still held or has been destroyed. -/
def NoneLost (e : FaceEngine) : Prop := ∀ h ∈ e.created, h ∈ e.handles ∨ h ∈ e.destroyed

instance (e : FaceEngine) : Decidable e.HoldsAll := inferInstanceAs (Decidable (∀ _ ∈ _, _))

instance (e : FaceEngine) : Decidable e.NoneLost := inferInstanceAs (Decidable (∀ _ ∈ _, _))

/-- What is expected of one call of `init`. -/
def InitMeets (e : FaceEngine) (io : EngineInitIO) : Prop :=
  ((init io e).1 = true → (init io e).2.HoldsAll) ∧ (init io e).2.NoneLost

instance (e : FaceEngine) (io : EngineInitIO) : Decidable (InitMeets e io) :=
  inferInstanceAs (Decidable (_ ∧ _))

/-- The call gets as far as creating the first handle. -/
def CreatesDetector (e : FaceEngine) (io : EngineInitIO) : Prop :=
  (e.mLib || io.dlopen) = true ∧ io.cmdline = true ∧ io.license = true ∧ io.models = true ∧
    io.createDetector = true

/-- The call does not come after a call that stopped half-way in a manner that it cannot
repair: not after one that stopped between the verify and the liveness handle, and, after
one that stopped before the verify handle, only if it does not create the detector. -/
def RetrySafe (e : FaceEngine) (io : EngineInitIO) : Prop :=
  (e.mVerify.isSome → e.mHackness.isSome) ∧
    (e.mVerify = none → e.mDetector.isSome → ¬CreatesDetector e io)

/-- The engine after the first `k` creations and no other. -/
def stage (lib : Bool) (k : ℕ) : FaceEngine where
  mLib := lib
  mDetector := if 0 < k then some 0 else none
  mDetector640 := if 1 < k then some 1 else none
  mOcular := if 2 < k then some 2 else none
  mVerify := if 3 < k then some 3 else none
  mHackness := if 4 < k then some 4 else none
  created := (List.range k).reverse

def Staged (e : FaceEngine) : Prop := ∃ lib, ∃ k ≤ 5, e = stage lib k

/-- How many of the five creations of a call succeed before one fails. -/
def creations (io : EngineInitIO) : ℕ :=
  if !io.createDetector then 0
  else if !io.createDetector640 then 1
  else if !io.createOcular then 2
  else if !io.createVerify then 3
  else if !io.createHackness then 4
  else 5

theorem creations_le (io : EngineInitIO) : creations io ≤ 5 := by
  unfold creations
  split_ifs <;> omega

/-- A call that does not create the detector changes no handle. -/
theorem init_of_not_createsDetector {e : FaceEngine} {io : EngineInitIO}
    (hverify : e.mVerify = none) (h : ¬CreatesDetector e io) :
    ∃ lib, init io e = (false, { e with mLib := lib }) := by
  simp only [CreatesDetector, not_and_or, Bool.not_eq_true] at h
  rw [init, if_neg (by simp [hverify])]
  by_cases hlib : (!e.mLib && !io.dlopen) = true
  · exact ⟨e.mLib, by rw [if_pos hlib]⟩
  · refine ⟨true, ?_⟩
    rw [if_neg hlib]
    rcases h with h | h | h | h | h
    · simp [← Bool.not_or, h] at hlib
    all_goals
      cases hc : io.cmdline <;> simp_all [initLocked]

theorem init_of_createsDetector {e : FaceEngine} {io : EngineInitIO}
    (hverify : e.mVerify = none) (h : CreatesDetector e io) :
    init io e = initLocked io { e with mLib := true } := by
  obtain ⟨hlib, hcmdline, -⟩ := h
  have hlib' : (!e.mLib && !io.dlopen) = false := by rw [← Bool.not_or, hlib]; rfl
  simp [init, hverify, hlib', hcmdline]

theorem initLocked_stage_zero {io : EngineInitIO} (hlicense : io.license = true)
    (hmodels : io.models = true) :
    initLocked io (stage true 0) = (creations io == 5, stage true (creations io)) := by
  simp only [initLocked, creations, hlicense, hmodels]
  cases io.createDetector <;> cases io.createDetector640 <;> cases io.createOcular <;>
    cases io.createVerify <;> cases io.createHackness <;> rfl

theorem stage_holdsAll (lib : Bool) : (stage lib 5).HoldsAll := by
  cases lib <;> decide

theorem stage_noneLost (lib : Bool) {k : ℕ} (hk : k ≤ 5) : (stage lib k).NoneLost := by
  cases lib <;> interval_cases k <;> decide

/-- Creating the detector again loses the one that an earlier call created. -/
theorem initLocked_stage_loses {io : EngineInitIO} (hlicense : io.license = true)
    (hmodels : io.models = true) (hdetector : io.createDetector = true) {k : ℕ} (hlo : 1 ≤ k)
    (hhi : k ≤ 3) : ¬(initLocked io (stage true k)).2.NoneLost := by
  simp only [initLocked, hlicense, hmodels, hdetector]
  interval_cases k <;>
    cases io.createDetector640 <;> cases io.createOcular <;> cases io.createVerify <;>
      cases io.createHackness <;> decide

/-- One call from any stage: it meets what is expected exactly if it is a safe retry. -/
theorem initMeets_iff {e : FaceEngine} (h : e.Staged) (io : EngineInitIO) :
    InitMeets e io ↔ RetrySafe e io := by
  obtain ⟨lib, k, hk, rfl⟩ := h
  rcases (by omega : k = 0 ∨ (1 ≤ k ∧ k ≤ 3) ∨ k = 4 ∨ k = 5) with rfl | hmid | rfl | rfl
  · -- nothing has been created: any outcome of the call is as expected
    have hsafe : RetrySafe (stage lib 0) io := by simp [RetrySafe, stage]
    refine iff_of_true ?_ hsafe
    by_cases hc : CreatesDetector (stage lib 0) io
    · have hinit : init io (stage lib 0) = (creations io == 5, stage true (creations io)) :=
        (init_of_createsDetector rfl hc).trans (initLocked_stage_zero hc.2.2.1 hc.2.2.2.1)
      rw [InitMeets, hinit]
      refine ⟨fun hdone => ?_, stage_noneLost true (creations_le io)⟩
      have hfive : creations io = 5 := by simpa using hdone
      rw [hfive]
      exact stage_holdsAll true
    · obtain ⟨lib', hinit⟩ := init_of_not_createsDetector (e := stage lib 0) rfl hc
      rw [InitMeets, hinit]
      exact ⟨fun hdone => by simp at hdone, stage_noneLost lib' (k := 0) (by omega)⟩
  · -- stopped before the verify handle
    have hverify : (stage lib k).mVerify = none := by simp [stage]; omega
    have hdetector : (stage lib k).mDetector.isSome = true := by
      simp [stage, show 0 < k by omega]
    have hiff : RetrySafe (stage lib k) io ↔ ¬CreatesDetector (stage lib k) io := by
      simp [RetrySafe, hverify, hdetector]
    rw [hiff]
    constructor
    · intro hmeets hc
      rw [InitMeets, init_of_createsDetector hverify hc] at hmeets
      exact initLocked_stage_loses hc.2.2.1 hc.2.2.2.1 hc.2.2.2.2 hmid.1 hmid.2 hmeets.2
    · intro hc
      obtain ⟨lib', hinit⟩ := init_of_not_createsDetector hverify hc
      rw [InitMeets, hinit]
      exact ⟨fun hdone => by simp at hdone, stage_noneLost lib' hk⟩
  · -- stopped between the verify and the liveness handle
    have hinit : init io (stage lib 4) = (true, stage lib 4) := by simp [init, stage]
    refine iff_of_false ?_ (by simp [RetrySafe, stage])
    rw [InitMeets, hinit]
    intro hmeets
    have hall := hmeets.1 rfl
    revert hall
    cases lib <;> decide
  · have hinit : init io (stage lib 5) = (true, stage lib 5) := by simp [init, stage]
    refine iff_of_true ?_ (by simp [RetrySafe, stage])
    rw [InitMeets, hinit]
    exact ⟨fun _ => stage_holdsAll lib, stage_noneLost lib le_rfl⟩

/-- A safe retry leaves the engine at a stage. -/
theorem staged_initStep {e : FaceEngine} (h : e.Staged) {io : EngineInitIO}
    (hsafe : RetrySafe e io) : (initStep e io).Staged := by
  obtain ⟨lib, k, hk, rfl⟩ := h
  by_cases hverify : (stage lib k).mVerify = none
  · by_cases hc : CreatesDetector (stage lib k) io
    · have hk0 : k = 0 := by
        by_contra hne
        exact hsafe.2 hverify (by simp [stage, Nat.pos_of_ne_zero hne]) hc
      subst hk0
      refine ⟨true, creations io, creations_le io, ?_⟩
      rw [initStep, init_of_createsDetector hverify hc]
      exact congrArg Prod.snd (initLocked_stage_zero hc.2.2.1 hc.2.2.2.1)
    · obtain ⟨lib', hinit⟩ := init_of_not_createsDetector hverify hc
      exact ⟨lib', k, hk, by rw [initStep, hinit]; rfl⟩
  · have hsome : (stage lib k).mVerify.isSome = true := by
      simpa [Option.isSome_iff_ne_none] using hverify
    exact ⟨lib, k, hk, by simp [initStep, init, hsome]⟩

theorem Staged.noneLost {e : FaceEngine} (h : e.Staged) : e.NoneLost := by
  obtain ⟨lib, k, hk, rfl⟩ := h
  exact stage_noneLost lib hk

/-- Over any history of `init` calls on a new engine, every call that reports success
leaves all five handles created and no call loses a handle, if and only if every call is
a safe retry. The destructor then destroys every handle that was created. -/
theorem init_history_iff (ios : List EngineInitIO) :
    (Machine.Along initStep InitMeets {} ios ↔ Machine.Along initStep RetrySafe {} ios) ∧
      (Machine.Along initStep RetrySafe {} ios → ∀ i ∈ (Machine.run initStep {} ios).created,
        i ∈ (Machine.run initStep {} ios).destroy.destroyed) := by
  have hnew : Staged {} := ⟨false, 0, by omega, rfl⟩
  refine ⟨Machine.along_iff (I := Staged) (fun _ io h => initMeets_iff h io)
    (fun _ _ h hsafe => staged_initStep h hsafe) hnew ios, fun hsafe i hi => ?_⟩
  have hstaged : (Machine.run initStep {} ios).Staged :=
    Machine.Along.invariant (I := Staged) (fun _ _ h hsafe => staged_initStep h hsafe) hnew hsafe
  exact List.mem_append.mpr (hstaged.noneLost i hi)

/-- A call in which everything succeeds but the creation of the liveness handle. -/
def stopsAtHackness : EngineInitIO :=
  ⟨true, true, true, true, true, true, true, true, false⟩

/-- After a call that stops at the liveness handle the next one reports success without
it. -/
theorem init_history_incomplete :
    ¬Machine.Along initStep InitMeets {} [stopsAtHackness, stopsAtHackness] := by
  simp only [Machine.along_cons, Machine.along_nil, and_true]
  decide

end FaceEngine

end OneplusHal.Face

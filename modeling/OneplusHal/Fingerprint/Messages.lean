import Mathlib.Data.Int.Notation
import Mathlib.Tactic.Common

/-!
The messages of the vendor's fingerprint module, and what the framework is told of them.

The codes of errors and acquired images go through a filter each: a standard code becomes an
enumerator, a code from the vendor's base on becomes the vendor's enumerator with an offset, and
every other code is taken for a fallback. On the codes that the filters know nothing is lost.
-/

namespace OneplusHal.Fingerprint

/-- The HIDL `FingerprintError` enumeration. -/
inductive FingerprintError
  | hwUnavailable
  | unableToProcess
  | timeout
  | noSpace
  | canceled
  | unableToRemove
  | lockout
  | vendor
  deriving DecidableEq

/-- The HIDL `FingerprintAcquiredInfo` enumeration. -/
inductive FingerprintAcquiredInfo
  | good
  | partial'
  | insufficient
  | imagerDirty
  | tooSlow
  | tooFast
  | vendor
  deriving DecidableEq

/-- `FINGERPRINT_ERROR_VENDOR_BASE` and `FINGERPRINT_ACQUIRED_VENDOR_BASE`. -/
def VENDOR_BASE : ℤ := 1000

/-- The body that both filters share, up to their tables: the enumerator and the vendor code. -/
def vendorFilter {R : Type*} (standard : ℤ → Option R) (vendor fallback : R) (code : ℤ) : R × ℤ :=
  match standard code with
  | some r => (r, 0)
  | none => if VENDOR_BASE ≤ code then (vendor, code - VENDOR_BASE) else (fallback, 0)

/-- The codes that a filter does not take for the fallback. -/
def Known {R : Type*} (standard : ℤ → Option R) (code : ℤ) : Prop :=
  (standard code).isSome ∨ VENDOR_BASE ≤ code

/-- `FINGERPRINT_ERROR_HW_UNAVAILABLE` to `FINGERPRINT_ERROR_LOCKOUT`. -/
def standardError : ℤ → Option FingerprintError
  | 1 => some .hwUnavailable
  | 2 => some .unableToProcess
  | 3 => some .timeout
  | 4 => some .noSpace
  | 5 => some .canceled
  | 6 => some .unableToRemove
  | 7 => some .lockout
  | _ => none

/-- `FINGERPRINT_ACQUIRED_GOOD` to `FINGERPRINT_ACQUIRED_TOO_FAST`. -/
def standardAcquired : ℤ → Option FingerprintAcquiredInfo
  | 0 => some .good
  | 1 => some .partial'
  | 2 => some .insufficient
  | 3 => some .imagerDirty
  | 4 => some .tooSlow
  | 5 => some .tooFast
  | _ => none

def vendorErrorFilter (error : ℤ) : FingerprintError × ℤ :=
  vendorFilter standardError .vendor .unableToProcess error

def vendorAcquiredFilter (info : ℤ) : FingerprintAcquiredInfo × ℤ :=
  vendorFilter standardAcquired .vendor .insufficient info

/-! ### What the filters keep -/

/-- The value of the enumerator. -/
def FingerprintError.value : FingerprintError → ℤ
  | .hwUnavailable => 1
  | .unableToProcess => 2
  | .timeout => 3
  | .noSpace => 4
  | .canceled => 5
  | .unableToRemove => 6
  | .lockout => 7
  | .vendor => 8

/-- The value of the enumerator. -/
def FingerprintAcquiredInfo.value : FingerprintAcquiredInfo → ℤ
  | .good => 0
  | .partial' => 1
  | .insufficient => 2
  | .imagerDirty => 3
  | .tooSlow => 4
  | .tooFast => 5
  | .vendor => 6

section Filter

variable {R : Type*} [DecidableEq R] {standard : ℤ → Option R} {vendor fallback : R}
  {value : R → ℤ} {code : ℤ}

/-- The code behind an enumerator and a vendor code. -/
def codeOf (value : R → ℤ) (vendor : R) (told : R × ℤ) : ℤ :=
  if told.1 = vendor then VENDOR_BASE + told.2 else value told.1

theorem codeOf_vendorFilter (htable : ∀ c r, standard c = some r → value r = c ∧ r ≠ vendor)
    (h : Known standard code) :
    codeOf value vendor (vendorFilter standard vendor fallback code) = code := by
  cases hstandard : standard code with
  | some r =>
      obtain ⟨hvalue, hne⟩ := htable code r hstandard
      simp only [codeOf, vendorFilter, hstandard]
      rw [if_neg hne, hvalue]
  | none =>
      have hbase : VENDOR_BASE ≤ code := h.resolve_left (by simp [hstandard])
      simp only [codeOf, vendorFilter, hstandard, if_pos hbase, if_true]
      omega

end Filter

theorem standardError_eq_some {c : ℤ} {r : FingerprintError} (h : standardError c = some r) :
    r.value = c ∧ r ≠ .vendor := by
  unfold standardError at h
  split at h <;> cases h <;> exact ⟨rfl, nofun⟩

theorem standardAcquired_eq_some {c : ℤ} {r : FingerprintAcquiredInfo}
    (h : standardAcquired c = some r) : r.value = c ∧ r ≠ .vendor := by
  unfold standardAcquired at h
  split at h <;> cases h <;> exact ⟨rfl, nofun⟩

/-! ### Messages -/

/-- A `fingerprint_msg_t`, with the data that its type uses. -/
inductive FingerprintMsg
  | error (error : ℤ)
  | acquired (acquiredInfo : ℤ)
  | templateEnrolling (fid gid samplesRemaining : ℕ)
  | templateRemoved (fid gid remainingTemplates : ℕ)
  | authenticated (fid gid : ℕ) (hat : List UInt8)
  | templateEnumerating (fid gid remainingTemplates : ℕ)
  /-- a type that `notify` has no case for -/
  | other (type : ℤ)

/-- The calls of `IBiometricsFingerprintClientCallback`. -/
inductive ClientCallback
  | onError (devId : ℕ) (error : FingerprintError) (vendorCode : ℤ)
  | onAcquired (devId : ℕ) (info : FingerprintAcquiredInfo) (vendorCode : ℤ)
  | onEnrollResult (devId fid gid remaining : ℕ)
  | onRemoved (devId fid gid remaining : ℕ)
  | onAuthenticated (devId fid gid : ℕ) (token : List UInt8)
  | onEnumerate (devId fid gid remaining : ℕ)
  deriving DecidableEq

/-- What the framework is to be told of a message, in terms of the message alone: everything but
the vendor's codes for a finger that goes down or up, and no token with a finger that was not
recognized. -/
def FingerprintMsg.told (devId : ℕ) : FingerprintMsg → Option ClientCallback
  | .error code => some (.onError devId (vendorErrorFilter code).1 (vendorErrorFilter code).2)
  | .acquired info =>
      if info = VENDOR_BASE ∨ info = VENDOR_BASE + 1 then none
      else some (.onAcquired devId (vendorAcquiredFilter info).1 (vendorAcquiredFilter info).2)
  | .templateEnrolling fid gid remaining => some (.onEnrollResult devId fid gid remaining)
  | .templateRemoved fid gid remaining => some (.onRemoved devId fid gid remaining)
  | .authenticated fid gid hat =>
      some (.onAuthenticated devId fid gid (if fid = 0 then [] else hat))
  | .templateEnumerating fid gid remaining => some (.onEnumerate devId fid gid remaining)
  | .other _ => none

/-- The messages of `fingerprint.h`: their codes are known, and a finger that was not recognized
comes with no token. -/
def FingerprintMsg.WellFormed : FingerprintMsg → Prop
  | .error code => Known standardError code
  | .acquired info => Known standardAcquired info
  | .authenticated fid _ hat => fid = 0 → hat = []
  | _ => True

/-- The message behind a call of the framework's. -/
def ClientCallback.message : ClientCallback → FingerprintMsg
  | .onError _ error vendorCode =>
      .error (codeOf FingerprintError.value .vendor (error, vendorCode))
  | .onAcquired _ info vendorCode =>
      .acquired (codeOf FingerprintAcquiredInfo.value .vendor (info, vendorCode))
  | .onEnrollResult _ fid gid remaining => .templateEnrolling fid gid remaining
  | .onRemoved _ fid gid remaining => .templateRemoved fid gid remaining
  | .onAuthenticated _ fid gid token => .authenticated fid gid token
  | .onEnumerate _ fid gid remaining => .templateEnumerating fid gid remaining

theorem FingerprintMsg.message_of_told {devId : ℕ} {m : FingerprintMsg} {c : ClientCallback}
    (hm : m.WellFormed) (h : m.told devId = some c) : c.message = m := by
  cases m with
  | error code =>
      cases h
      exact congrArg error (codeOf_vendorFilter (fun _ _ => standardError_eq_some) hm)
  | acquired info =>
      rw [told] at h
      split at h
      · cases h
      · cases h
        exact congrArg acquired (codeOf_vendorFilter (fun _ _ => standardAcquired_eq_some) hm)
  | templateEnrolling fid gid remaining => cases h; rfl
  | templateRemoved fid gid remaining => cases h; rfl
  | authenticated fid gid hat =>
      cases h
      show authenticated fid gid (if fid = 0 then [] else hat) = authenticated fid gid hat
      split
      · rename_i hfid
        rw [hm hfid]
      · rfl
  | templateEnumerating fid gid remaining => cases h; rfl
  | other type => cases h

end OneplusHal.Fingerprint

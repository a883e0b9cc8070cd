import OneplusHal.Face.AlikeStates
import OneplusHal.Face.EnrollAtomic
import OneplusHal.Lib.Unwinding

/-!
What the sessions of other users can do to an enrolled user: nothing.

While somebody is enrolled, an operation of anybody else has one answer that its own
session and its arguments decide, and it sets at most challenges of its session, the
lockout of its user and ghosts. So the enrolled user does not tell the states before and
after it apart, and by unwinding hears the same in every operation that follows.
-/

namespace OneplusHal.Face

open OneplusHal

/-- The answer to an operation while somebody else is enrolled. -/
def Op.reply (op : Op) (session : Session) : Callback :=
  match op with
  | .generateChallenge r => .onChallengeGenerated r.value
  | .revokeChallenge challenge => .onChallengeRevoked challenge
  | .enroll challenge _ _ =>
      .onError (if challenge ∈ session.mChallenges then .noSpace else .unableToProcess)
  | .enumerateEnrollments => .onEnrollmentsEnumerated []
  | .removeEnrollments ids _ => .onEnrollmentsRemoved ids
  | .getAuthenticatorId => .onAuthenticatorIdRetrieved 0
  | .invalidateAuthenticatorId _ _ => .onAuthenticatorIdInvalidated 0
  | .resetLockout => .onLockoutCleared
  | .close => .onSessionClosed
  | _ => .onError .unableToProcess

theorem mUserId_updated (op : Op) (session : Session) :
    (op.updated session).mUserId = session.mUserId := by
  cases op <;> rfl

/-- An operation of a user who is not the enrolled one. -/
theorem runOp_stranger {s : State} {e : Enrollment} {i : ℕ} {session : Session}
    (load : Enrollment.load s.storage.enrollmentFile = .ok e) (enrolled : 0 ≤ e.userId)
    (hsession : s.sessions[i]? = some session) (hother : e.userId ≠ session.mUserId) (op : Op) :
    ∃ sLockouts enrolls, sLockouts e.userId = s.sLockouts e.userId ∧
      runOp i session op s =
        { s with
          sessions := s.sessions.set i (op.updated session), sLockouts, enrolls }.emit
            (op.reply session) := by
  have hkept : s.sessions.set i session = s.sessions := by
    obtain ⟨hi, rfl⟩ := List.getElem?_eq_some_iff.mp hsession
    exact List.set_getElem_self hi
  have hload (op' : Enrollment → State → State) : s.withEnrollment op' = op' e s := by
    simp only [State.withEnrollment, load]
  cases op with
  | generateChallenge r => exact ⟨s.sLockouts, s.enrolls, rfl, rfl⟩
  | revokeChallenge challenge => exact ⟨s.sLockouts, s.enrolls, rfl, rfl⟩
  | enroll challenge preview io =>
      refine ⟨s.sLockouts, s.enrolls + 1, rfl, ?_⟩
      simp only [runOp, doEnroll, hload, enrollWith, if_pos enrolled, Op.updated, hkept, Op.reply]
      by_cases hknown : challenge ∈ session.mChallenges
      · rw [if_neg (not_not.mpr hknown), if_pos hknown]
        rfl
      · rw [if_pos hknown, if_neg hknown]
        rfl
  | resetLockout =>
      refine ⟨(s.eraseLockout session.mUserId).sLockouts, s.enrolls, ?_, ?_⟩
      · exact Function.update_of_ne hother _ _
      · simp only [Op.updated, hkept]
        rfl
  | _ =>
      refine ⟨s.sLockouts, s.enrolls, rfl, ?_⟩
      simp only [runOp, doAuthenticate, hload, Op.updated, hkept, Op.reply, authenticateWith,
        enumerateWith, removeWith, getFeaturesWith, setFeatureWith, getAuthenticatorIdWith,
        invalidateWith, ne_eq, hother, not_false_eq_true, true_or, if_true, if_false]

/-! ### Authenticator ids -/

/-- The record on file, if it is anybody's, has an authenticator id. -/
def Identified (file : Option Bytes) : Prop :=
  ∀ e, Enrollment.load file = .ok e → 0 ≤ e.userId → e.authenticatorId ≠ 0

theorem identified_none : Identified none := by
  rintro e ⟨⟩ henrolled
  exact absurd henrolled (by decide)

theorem Enrollment.save_identified {e : Enrollment} {file : Option Bytes} (hfile : Identified file)
    (he : 0 ≤ e.userId → e.authenticatorId ≠ 0 ∧ IsWord e.engine) (io : SaveIO) :
    Identified (e.save io file).2 := by
  unfold Enrollment.save
  split
  · cases io.unlinkFails with
    | true => exact hfile
    | false => exact identified_none
  · rename_i hnegative
    obtain ⟨hid, hengine⟩ := he (Int32.not_lt.mp hnegative)
    cases io.write with
    | written =>
        intro e' hload _
        rw [writeStringToFile, Enrollment.load_text hengine] at hload
        exact Except.ok.inj hload ▸ hid
    | openFailed => exact hfile
    | writeFailed => exact identified_none

theorem Enrolling.identified {user : Int32} {io : EnrollIO} {s s' : State}
    (h : Enrolling user io s s') (hs : Identified s.storage.enrollmentFile) :
    Identified s'.storage.enrollmentFile := by
  cases h with
  | terminated load => exact hs
  | refused keeps trace => exact keeps.storage ▸ hs
  | @frameless e st _ _ _ _ load vacant keeps shrinks trace =>
      have hstorage : s'.storage = st := keeps.storage
      rw [hstorage, shrinks.enrollmentFile]
      exact hs
  | @failed e st _ _ _ _ _ load vacant keeps failure loop trace =>
      have hstorage : s'.storage = st := keeps.storage
      rw [hstorage]
      obtain hsame | hgone := failure.enrollmentFile
      · exact hsame ▸ hs
      · exact hgone ▸ identified_none
  | @finished e st _ _ _ _ load vacant keeps success loop hcaptured trace =>
      have hstorage : s'.storage = st := keeps.storage
      have hengine : IsWord (newEnrollment user e io (engineName s)).engine :=
        engineName_eq_engine s ▸ isWord_engine s.currentStore
      rw [hstorage, success.enrollmentFile]
      split
      · exact identified_none
      · intro e' hload _
        rw [Enrollment.load_text hengine] at hload
        exact Except.ok.inj hload ▸ io.authenticatorId.ne_zero

theorem identified_withEnrollment {s : State} {op : Enrollment → State → State}
    (hs : Identified s.storage.enrollmentFile)
    (hop : ∀ e, Enrollment.load s.storage.enrollmentFile = .ok e →
      Identified (op e s).storage.enrollmentFile) :
    Identified (s.withEnrollment op).storage.enrollmentFile := by
  simp only [State.withEnrollment]
  split
  · exact hs
  · rename_i e hload
    exact hop e hload

theorem runOp_identified {s : State} (hs : Consistent s)
    (h : Identified s.storage.enrollmentFile) (i : ℕ) (session : Session) (op : Op) :
    Identified (runOp i session op s).storage.enrollmentFile := by
  have hrecord {e : Enrollment} (hload : Enrollment.load s.storage.enrollmentFile = .ok e)
      (henrolled : 0 ≤ e.userId) : e.authenticatorId ≠ 0 ∧ IsWord e.engine := by
    obtain ⟨en, hrecord⟩ := hs.recorded hload henrolled
    exact ⟨h e hload henrolled, hrecord.engine ▸ isWord_engine en.store⟩
  cases op with
  | enroll challenge preview io =>
      exact (doEnroll_enrolling session challenge preview io s).identified h
  | authenticate io =>
      have hstorage := (doAuthenticate_attempt session.mUserId io s).keeps.storage
      show Identified (doAuthenticate session.mUserId io s).storage.enrollmentFile
      rw [hstorage]
      exact h
  | removeEnrollments ids io =>
      have hfile := (removeFeature_removed io.feature s).shrinks.enrollmentFile
      refine identified_withEnrollment h fun e _ => ?_
      simp only [removeWith]
      split
      · exact h
      · split
        · exact hfile ▸ h
        · refine Enrollment.save_identified (hfile ▸ h) (fun hnegative => ?_) io.save
          exact absurd hnegative (by decide)
  | setFeature feature enabled io =>
      refine identified_withEnrollment h fun e hload => ?_
      have he := hrecord hload
      have hsaved := Enrollment.save_identified (e := { e with requireAttention := enabled }) h
        he io
      simp only [setFeatureWith]
      split
      · exact h
      · split <;> exact hsaved
  | invalidateAuthenticatorId r io =>
      refine identified_withEnrollment h fun e hload => ?_
      simp only [invalidateWith]
      split
      · exact h
      · exact Enrollment.save_identified (e := { e with authenticatorId := r.value }) h
          (fun henrolled => ⟨r.ne_zero, (hrecord hload henrolled).2⟩) io
  | getFeatures =>
      refine identified_withEnrollment h fun e _ => ?_
      simp only [getFeaturesWith]
      split <;> exact h
  | enumerateEnrollments => exact identified_withEnrollment h fun e _ => h
  | getAuthenticatorId => exact identified_withEnrollment h fun e _ => h
  | _ => exact h

theorem Reachable.identified {s : State} (h : Reachable s) :
    Identified s.storage.enrollmentFile := by
  suffices hboth : Consistent s ∧ Identified s.storage.enrollmentFile from hboth.2
  refine Machine.Reachable.invariant
    (I := fun s => Consistent s ∧ Identified s.storage.enrollmentFile) ?_ ?_ h
  · intro s₀ h₀
    refine ⟨Reachable.consistent ⟨s₀, [], h₀, rfl⟩, ?_⟩
    obtain ⟨available, tee, now, rfl⟩ := h₀
    exact identified_none
  · rintro s st ⟨hs, hid⟩
    refine ⟨consistent_step s st hs, ?_⟩
    cases st with
    | op i op =>
        have hbegin : Consistent s.begin := Carries.consistent hs (.of_storage rfl rfl le_rfl)
        simp only [step]
        split
        · exact hid
        · exact runOp_identified hbegin hid i _ op
    | _ => exact hid

/-! ### Isolation -/

/-- The step is an operation of somebody else. -/
def Foreign (user : Int32) (s : State) (st : Step) : Prop :=
  ∃ other, stepUser s st = some other ∧ other ≠ user

/-- The step is no operation of anybody else. -/
def Own (user : Int32) (s : State) (st : Step) : Prop :=
  ∀ other, stepUser s st = some other → other = user

/-- What the step reports. -/
def heard (s : State) (st : Step) : List Callback := (step s st).callbacks

/-- The enrollment ids that a callback carries. -/
def Callback.enrollmentIds : Callback → List Int32
  | .onEnrollmentProgress id _ => [id]
  | .onAuthenticationSucceeded id => [id]
  | .onEnrollmentsEnumerated ids => ids
  | .onEnrollmentsRemoved ids => ids
  | _ => []

/-- The authenticator ids that a callback carries. -/
def Callback.authenticatorIds : Callback → List Int64
  | .onAuthenticatorIdRetrieved id => [id]
  | .onAuthenticatorIdInvalidated id => [id]
  | _ => []

/-- The enrollment ids that a step passes in. -/
def Step.enrollmentIds : Step → List Int32
  | .op _ (.removeEnrollments ids _) => ids
  | _ => []

/-- The step reports nothing of the record `e`: its answer is decided by its session and its
arguments, and names neither the enrollment, unless it was given, nor the authenticator. -/
structure Discreet (e : Enrollment) (s : State) (st : Step) : Prop where
  reply : ∃ i op session, st = .op i op ∧ s.sessions[i]? = some session ∧
    heard s st = [op.reply session]
  enrollmentId : ∀ c ∈ heard s st, e.enrollmentId ∈ c.enrollmentIds →
    e.enrollmentId ∈ st.enrollmentIds
  authenticatorId : ∀ c ∈ heard s st, e.authenticatorId ∉ c.authenticatorIds

/-- An answer that ignores the record says nothing of it. -/
theorem Discreet.of_reply {e : Enrollment} {s : State} {st : Step} (hid : e.authenticatorId ≠ 0)
    (h : ∃ i op session, st = .op i op ∧ s.sessions[i]? = some session ∧
      heard s st = [op.reply session]) : Discreet e s st := by
  obtain ⟨i, op, session, rfl, hsession, hheard⟩ := h
  refine ⟨⟨i, op, session, rfl, hsession, hheard⟩, fun c hc => ?_, fun c hc => ?_⟩
  · rw [hheard, List.mem_singleton] at hc
    subst hc
    cases op with
    | removeEnrollments ids io => exact id
    | _ => simp [Op.reply, Callback.enrollmentIds]
  · rw [hheard, List.mem_singleton] at hc
    subst hc
    cases op with
    | getAuthenticatorId => simpa [Op.reply, Callback.authenticatorIds] using hid
    | invalidateAuthenticatorId r io =>
        simpa [Op.reply, Callback.authenticatorIds] using hid
    | _ => simp [Op.reply, Callback.authenticatorIds]

/-- What belongs to `user` is the same in both states. -/
structure Untouched (user : Int32) (s s' : State) : Prop where
  storage : s'.storage = s.storage
  lockout : s'.sLockouts user = s.sLockouts user

/-- An operation of somebody else, as the enrolled user sees it. -/
theorem foreign_step {s : State} {e : Enrollment} {st : Step}
    (load : Enrollment.load s.storage.enrollmentFile = .ok e) (enrolled : 0 ≤ e.userId)
    (hforeign : Foreign e.userId s st) :
    (∃ i op session, st = .op i op ∧ s.sessions[i]? = some session ∧
      heard s st = [op.reply session]) ∧
      Untouched e.userId s (step s st) ∧ s.begin.Alike e.userId (step s st).begin := by
  obtain ⟨other, hother, hne⟩ := hforeign
  cases st with
  | op i op =>
      obtain ⟨session, hsession, rfl⟩ := Option.map_eq_some_iff.mp hother
      obtain ⟨lockouts, enrolls, hlockouts, hrun⟩ :=
        runOp_stranger (s := s.begin) load enrolled hsession (Ne.symm hne) op
      have hstep : step s (.op i op) = runOp i session op s.begin := by
        simp only [step, hsession]
      rw [hrun] at hstep
      have hseen : (s.sessions.set i (op.updated session)).map (Session.seenBy e.userId) =
          s.sessions.map (Session.seenBy e.userId) := by
        obtain ⟨hi, rfl⟩ := List.getElem?_eq_some_iff.mp hsession
        rw [List.map_set, Session.seenBy_other hne (mUserId_updated op _)]
        exact (List.map_set ..).symm.trans (by rw [List.set_getElem_self])
      refine ⟨⟨i, op, session, rfl, hsession, ?_⟩, ?_, ?_⟩
      · rw [heard, hstep]
        rfl
      · rw [hstep]
        exact ⟨rfl, hlockouts⟩
      · rw [hstep]
        exact { State.Alike.refl e.userId s.begin with lockout := hlockouts, sessions := hseen }
  | _ => simp [stepUser] at hother

/-- Sessions that look the same to `user`: the ones of `user` are the same. -/
theorem getElem?_of_seenBy {user : Int32} {ss ss' : List Session}
    (h : ss'.map (Session.seenBy user) = ss.map (Session.seenBy user)) {i : ℕ}
    (hown : ∀ session, ss'[i]? = some session → session.mUserId = user) : ss[i]? = ss'[i]? := by
  have hi : ss'[i]?.map (Session.seenBy user) = ss[i]?.map (Session.seenBy user) := by
    rw [← List.getElem?_map, h, List.getElem?_map]
  cases hsession : ss'[i]? with
  | none =>
      rw [hsession, Option.map_none, eq_comm, Option.map_eq_none_iff] at hi
      exact hi
  | some session' =>
      rw [hsession, Option.map_some, eq_comm, Option.map_eq_some_iff] at hi
      obtain ⟨session, hsome, hseen⟩ := hi
      have huser' : session'.mUserId = user := hown session' hsession
      have huser : session.mUserId = user := by
        rw [← Session.mUserId_seenBy user, hseen, Session.mUserId_seenBy, huser']
      rw [Session.seenBy_self huser, Session.seenBy_self huser'] at hseen
      rw [hsome, hseen]

/-- A step of the user's own, from states that look the same to the user. -/
theorem own_step {user : Int32} {s s' : State} {st : Step} (h : s.begin.Alike user s'.begin)
    (hown : Own user s' st) :
    heard s' st = heard s st ∧ (step s st).begin.Alike user (step s' st).begin := by
  suffices hstep : (step s st).Alike user (step s' st) from ⟨hstep.callbacks, hstep.begin⟩
  cases st with
  | createSession other =>
      have hsessions (new : List Session) : (s'.sessions ++ new).map (Session.seenBy user) =
          (s.sessions ++ new).map (Session.seenBy user) := by
        rw [List.map_append, List.map_append]
        exact congrArg (· ++ _) h.sessions
      exact { h with sessions := hsessions _ }
  | op i op =>
      have huser (session : Session) (hsession : s'.sessions[i]? = some session) :
          session.mUserId = user := hown session.mUserId (by rw [stepUser, hsession]; rfl)
      have hsessions : s.sessions[i]? = s'.sessions[i]? := getElem?_of_seenBy h.sessions huser
      simp only [step, hsessions]
      cases hsession : s'.sessions[i]? with
      | none => exact h
      | some session => exact runOp_alike h i (huser session hsession) op
  | setTeeProperty tee => exact { h with useTee := rfl }
  | restart available => exact h.restarted available
  | wait elapsed => exact h.withWorld (h.world.tick elapsed)

/-- While a user is enrolled, the operations of others touch nothing of that user, report
nothing of the record, and make no difference to what the user hears later. -/
theorem users_isolated {s : State} (h : Reachable s) {e : Enrollment}
    (load : Enrollment.load s.storage.enrollmentFile = .ok e) (enrolled : 0 ≤ e.userId)
    {sts : List Step} (hforeign : Machine.Along step (Foreign e.userId) s sts) :
    Untouched e.userId s (Machine.run step s sts) ∧
      Machine.Along step (Discreet e) s sts ∧
      ∀ sts', Machine.Along step (Own e.userId) (Machine.run step s sts) sts' →
        Machine.outputs step heard (Machine.run step s sts) sts' =
          Machine.outputs step heard s sts' := by
  have hid : e.authenticatorId ≠ 0 := h.identified e load enrolled
  have hlocal (t : State) (st : Step) (ht : Untouched e.userId s t)
      (hst : Foreign e.userId t st) :
      Discreet e t st ∧ t.begin.Alike e.userId (step t st).begin ∧
        Untouched e.userId s (step t st) := by
    have hload : Enrollment.load t.storage.enrollmentFile = .ok e := by rw [ht.storage, load]
    obtain ⟨hreply, huntouched, halike⟩ := foreign_step hload enrolled hst
    refine ⟨.of_reply hid hreply, halike, ?_⟩
    exact ⟨huntouched.storage.trans ht.storage, huntouched.lockout.trans ht.lockout⟩
  have hstart : Untouched e.userId s s := ⟨rfl, rfl⟩
  refine ⟨?_, ?_, fun sts' hown => ?_⟩
  · exact hforeign.invariant (fun t st ht hst => (hlocal t st ht hst).2.2) hstart
  · exact hforeign.of_invariant
      (fun t st ht hst => ⟨(hlocal t st ht hst).1, (hlocal t st ht hst).2.2⟩) hstart
  · exact Machine.outputs_run_eq (R := fun t t' => t.begin.Alike e.userId t'.begin)
      (fun t => .refl e.userId t.begin) (fun _ _ _ ht ht' => ht.trans ht')
      (fun t st ht hst => (hlocal t st ht hst).2) (fun t t' st ht hst => own_step ht hst)
      hstart hforeign hown

/-- User 1 asks for the face of user 0 to be removed, in vain. -/
theorem users_isolated_removal :
    let s := step (State.withUser false true) (.createSession 1)
    let sts := [.op 1 (.removeEnrollments [1] .quiet), .op 1 .resetLockout]
    let s' := Machine.run step s sts
    Untouched 0 s s' ∧
      heard s' (.op 0 (.authenticate .quiet)) = heard s (.op 0 (.authenticate .quiet)) := by
  intro s sts s'
  have hs : Reachable s := (State.withUser_reachable false true).run [.createSession 1]
  have hfile : s.storage.enrollmentFile = some (Enrollment.text ⟨0, 1, 1, true, kCvEngine⟩) := by
    decide +kernel
  have hload : Enrollment.load s.storage.enrollmentFile = .ok ⟨0, 1, 1, true, kCvEngine⟩ := by
    rw [hfile]
    exact Enrollment.load_text (isWord_engine .featureFile)
  have hforeign : Machine.Along step (Foreign 0) s sts :=
    ⟨⟨1, by decide +kernel, by decide⟩, ⟨1, by decide +kernel, by decide⟩, trivial⟩
  have huser : stepUser s' (.op 0 (.authenticate .quiet)) = some 0 := by decide +kernel
  have hown : Machine.Along step (Own 0) s' [.op 0 (.authenticate .quiet)] := by
    refine ⟨fun other hother => ?_, trivial⟩
    rw [huser] at hother
    exact (Option.some.inj hother).symm
  obtain ⟨huntouched, -, hheard⟩ := users_isolated hs hload (by decide) hforeign
  exact ⟨huntouched, List.head_eq_of_cons_eq (hheard _ hown)⟩

end OneplusHal.Face

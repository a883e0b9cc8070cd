import OneplusHal.Face.Attempt
import OneplusHal.Face.Enrolling
import OneplusHal.Face.Service

/-!
The frame of whole operations.

Enrolling and authenticating apart, an operation answers with one callback, or dies of
the record it cannot read, and touches at most the storage and its own session. With
`Enrolling` and `Attempt` this covers every step of the service.
-/

namespace OneplusHal.Face

open OneplusHal

/-- The operations that neither use the camera nor clear a lockout. -/
def Op.IsPlain (op : Op) : Prop :=
  (∀ challenge preview io, op ≠ .enroll challenge preview io) ∧
    (∀ io, op ≠ .authenticate io) ∧ op ≠ .resetLockout

/-- The callbacks of these operations. -/
def Callback.isAnswer : Callback → Bool
  | .onEnrollmentFrame _ _ => false
  | .onEnrollmentProgress _ _ => false
  | .onAuthenticationFrame _ => false
  | .onAuthenticationSucceeded _ => false
  | .onAuthenticationFailed => false
  | .onLockoutTimed _ => false
  | .onLockoutPermanent => false
  | .onLockoutCleared => false
  | _ => true

def Event.IsAnswer (e : Event) : Prop :=
  (∃ ex, e = .terminate ex) ∨ ∃ c, e = .callback c ∧ c.isAnswer = true

/-- What a plain operation leaves. -/
structure Answered (s s' : State) : Prop where
  keeps : { s with storage := s'.storage, sessions := s'.sessions }.Keeps s'
  trace : ∃ e : Event, e.IsAnswer ∧ s'.world.trace = s.world.trace ++ [e]

theorem Answered.emit {s s' : State} {c : Callback}
    (hkeeps : { s with storage := s'.storage, sessions := s'.sessions }.Keeps s')
    (hworld : s'.world = s.world) (hc : c.isAnswer = true) : Answered s (s'.emit c) :=
  ⟨hkeeps.emit c, .callback c, .inr ⟨c, rfl, hc⟩, by rw [State.trace_emit, hworld]⟩

theorem Answered.of_withEnrollment {s : State} {op : Enrollment → State → State}
    (hop : ∀ e, Enrollment.load s.storage.enrollmentFile = .ok e → Answered s (op e s)) :
    Answered s (s.withEnrollment op) := by
  simp only [State.withEnrollment]
  split
  · rename_i ex hload
    exact ⟨(State.Keeps.refl s).world le_rfl, _, .inl ⟨ex, rfl⟩, rfl⟩
  · rename_i e hload
    exact hop e hload

/-- The storage alone was written, and one callback made. -/
theorem Answered.of_storage (s : State) (st : Storage) {c : Callback} (hc : c.isAnswer = true) :
    Answered s ({ s with storage := st }.emit c) :=
  .emit (.refl _) rfl hc

theorem removeWith_answered (user : Int32) (ids : List Int32) (io : RemoveIO) (e : Enrollment)
    (s : State) : Answered s (removeWith user ids io e s) := by
  have hkeeps := removeFeature_keeps io.feature s
  have hworld := world_removeFeature io.feature s
  simp only [removeWith]
  split
  · exact .of_storage s s.storage rfl
  · split
    · exact .emit { hkeeps with sessions := rfl } hworld rfl
    · exact .emit { hkeeps with storage := rfl, sessions := rfl } hworld rfl

theorem runOp_answered {op : Op} (hop : op.IsPlain) (i : ℕ) (session : Session) (s : State) :
    Answered s (runOp i session op s) := by
  cases op with
  | generateChallenge r => exact .emit (.refl _) rfl rfl
  | revokeChallenge challenge => exact .emit (.refl _) rfl rfl
  | enroll challenge preview io => exact absurd rfl (hop.1 challenge preview io)
  | authenticate io => exact absurd rfl (hop.2.1 io)
  | detectInteraction => exact .of_storage s s.storage rfl
  | enumerateEnrollments =>
      exact .of_withEnrollment fun e _ => .of_storage s s.storage rfl
  | removeEnrollments ids io =>
      exact .of_withEnrollment fun e _ => removeWith_answered session.mUserId ids io e s
  | getFeatures =>
      refine .of_withEnrollment fun e _ => ?_
      simp only [getFeaturesWith]
      split <;> exact .of_storage s s.storage rfl
  | setFeature feature enabled io =>
      refine .of_withEnrollment fun e _ => ?_
      simp only [setFeatureWith]
      split
      · exact .of_storage s s.storage rfl
      · split <;> exact .of_storage s _ rfl
  | getAuthenticatorId =>
      exact .of_withEnrollment fun e _ => .of_storage s s.storage rfl
  | invalidateAuthenticatorId r io =>
      refine .of_withEnrollment fun e _ => ?_
      simp only [invalidateWith]
      split
      · exact .of_storage s s.storage rfl
      · exact .of_storage s _ rfl
  | resetLockout => exact absurd rfl hop.2.2
  | close => exact .of_storage s s.storage rfl

theorem callback?_eq_some {e : Event} {c : Callback} :
    e.callback? = some c ↔ e = .callback c := by
  cases e <;> simp [Event.callback?]

theorem mem_callbacks {s : State} {c : Callback} :
    c ∈ s.callbacks ↔ .callback c ∈ s.world.trace := by
  simp [State.callbacks, List.mem_filterMap, callback?_eq_some]

theorem callbacks_emit {s : State} (h : s.world.trace = []) (c : Callback) :
    (s.emit c).callbacks = [c] := by
  simp [State.callbacks, h, Event.callback?]

theorem Answered.isAnswer {s s' : State} (h : Answered s s') (hs : s.world.trace = [])
    {c : Callback} (hc : c ∈ s'.callbacks) : c.isAnswer = true := by
  obtain ⟨e, he, htrace⟩ := h.trace
  rw [mem_callbacks, htrace, hs, List.nil_append, List.mem_singleton] at hc
  subst hc
  obtain ⟨ex, hex⟩ | ⟨c', hc', hanswer⟩ := he
  · simp at hex
  · rwa [Event.callback.inj hc']

/-- Beside the engines' own state an attempt sets the lockouts alone. -/
theorem Attempt.keeps {user : Int32} {io : AuthenticateIO} {s s' : State}
    (h : Attempt user io s s') :
    { s with sLockouts := s'.sLockouts }.Keeps s' := by
  cases h with
  | terminated load => exact (State.Keeps.refl s).world le_rfl
  | refused keeps refusal trace => exact { keeps with sLockouts := rfl }
  | frameless load admitted keeps trace =>
      exact { admitted.keeps.trans keeps with sLockouts := rfl }
  | @ran e s₁ s₂ evs matched compared error failElapsed load admitted keeps trace loop =>
      have hran : s.Keeps s₂ := admitted.keeps.trans keeps
      have hconclusion :=
        conclude_conclusion s₂ user e.enrollmentId failElapsed matched compared error
      generalize s₂.conclude user e.enrollmentId failElapsed matched compared error = s' at *
      cases hconclusion with
      | succeeded => exact { hran with sLockouts := rfl }
      | ended er h => exact { hran with sLockouts := rfl }
      | failed h =>
          obtain ⟨t, hfailed⟩ := onAuthenticationFailedLocked_failed user failElapsed s₂
          have hend := hfailed.keeps
          exact
            { storage := hend.storage.trans hran.storage
              sLockouts := rfl
              sessions := hend.sessions.trans hran.sessions
              useTee := hend.useTee.trans hran.useTee
              enrolls := hend.enrolls.trans hran.enrolls
              enrolled := hend.enrolled.trans hran.enrolled
              setup := hend.setup.trans hran.setup
              now_le := hran.now_le.trans hend.now_le }

/-! ### Time -/

theorem Enrolling.now_le {user : Int32} {io : EnrollIO} {s s' : State}
    (h : Enrolling user io s s') : s.world.now ≤ s'.world.now := by
  cases h with
  | terminated load => exact le_rfl
  | refused keeps trace => exact keeps.now_le
  | frameless load vacant keeps shrinks trace => exact keeps.now_le
  | failed load vacant keeps failure loop trace => exact keeps.now_le
  | finished load vacant keeps success loop hcaptured trace => exact keeps.now_le

theorem now_le_runOp (i : ℕ) (session : Session) (op : Op) (s : State) :
    s.world.now ≤ (runOp i session op s).world.now := by
  by_cases hplain : op.IsPlain
  · exact (runOp_answered hplain i session s).keeps.now_le
  · cases op with
    | enroll challenge preview io =>
        exact (doEnroll_enrolling session challenge preview io s).now_le
    | authenticate io => exact (doAuthenticate_attempt session.mUserId io s).keeps.now_le
    | resetLockout => exact le_rfl
    | _ => exact absurd ⟨by simp, by simp, by simp⟩ hplain

/-- The clock never goes back. -/
theorem now_le_step (s : State) (st : Step) : s.world.now ≤ (step s st).world.now := by
  cases st with
  | createSession user => exact le_rfl
  | op i op =>
      simp only [step]
      split
      · exact le_rfl
      · exact now_le_runOp i _ op s.begin
  | setTeeProperty tee => exact le_rfl
  | restart available => exact le_rfl
  | wait elapsed => exact Nat.le_add_right _ _

/-! ### Whose operation it is -/

/-- The user whose session a step runs in. -/
def stepUser (s : State) : Step → Option Int32
  | .op i _ => s.sessions[i]?.map Session.mUserId
  | _ => none

/-- An operation of `user` is run by one of the user's sessions. -/
theorem step_of_stepUser {s : State} {i : ℕ} {op : Op} {user : Int32}
    (h : stepUser s (.op i op) = some user) :
    ∃ session, session.mUserId = user ∧ step s (.op i op) = runOp i session op s.begin := by
  obtain ⟨session, hsession, rfl⟩ := Option.map_eq_some_iff.mp h
  exact ⟨session, rfl, by simp only [step, hsession]⟩

end OneplusHal.Face

import OneplusHal.Face.Operations
import OneplusHal.Lib.Machine

/-!
The lockout of each user.

One attempt counts as a failure exactly if a probe was compared, nothing matched, the
client had not cancelled when the loop ended, and no SDK error ended the loop. Over runs,
the tracker of a user is kept, cleared or counts one failure in every step, and a failure
is counted only by an attempt that found the user not locked out.
-/

namespace OneplusHal.Face

open OneplusHal

/-! ### One attempt -/

def Event.isCompared : Event → Bool
  | .compared _ _ => true
  | _ => false

def Event.isSdkError : Event → Bool
  | .sdkError _ => true
  | _ => false

theorem any_isCompared {evs : List Event} :
    evs.any Event.isCompared = true ↔ ∃ f t, .compared f t ∈ evs := by
  rw [List.any_eq_true]
  constructor
  · rintro ⟨e, he, h⟩
    cases e with
    | compared f t => exact ⟨f, t, he⟩
    | _ => simp [Event.isCompared] at h
  · rintro ⟨f, t, h⟩
    exact ⟨_, h, rfl⟩

theorem any_isSdkError {evs : List Event} :
    evs.any Event.isSdkError = false ↔ ∀ er, .sdkError er ∉ evs := by
  rw [List.any_eq_false]
  constructor
  · intro h er her
    exact h _ her rfl
  · intro h e he herror
    cases e with
    | sdkError er => exact h er he
    | _ => simp [Event.isSdkError] at herror

/-- The attempt compared a probe, and neither the client nor the SDK ended it. -/
def CountsAsFailure (s' : State) : Prop :=
  (∃ f t, .compared f t ∈ s'.world.trace) ∧ s'.world.cancelled = false ∧
    ∀ er, .sdkError er ∉ s'.world.trace

instance (s' : State) : Decidable (CountsAsFailure s') :=
  decidable_of_iff (s'.world.trace.any Event.isCompared = true ∧ s'.world.cancelled = false ∧
    s'.world.trace.any Event.isSdkError = false)
    (and_congr any_isCompared (and_congr Iff.rfl any_isSdkError))

@[simp] theorem cancelled_onAuthenticationFailedLocked (user : Int32) (elapsed : ℕ) (s : State) :
    (onAuthenticationFailedLocked user elapsed s).world.cancelled = s.world.cancelled := by
  simp only [onAuthenticationFailedLocked]
  split
  · rfl
  · split <;> rfl

/-- An attempt without success counts as a failure of its user or changes no tracker. -/
theorem Attempt.lockouts {user : Int32} {io : AuthenticateIO} {s s' : State}
    (h : Attempt user io s s')
    (hs : s.world.trace = [])
    (hsuccess : ∀ id, .onAuthenticationSucceeded id ∉ s'.callbacks) :
    (CountsAsFailure s' ∧ ∃ t, t.failures = (s.sLockouts user).failures + 1 ∧
      s'.sLockouts = Function.update s.sLockouts user t) ∨
      (¬CountsAsFailure s' ∧ s'.sLockouts = s.sLockouts) := by
  cases h with
  | terminated load =>
      refine .inr ⟨?_, rfl⟩
      simp [CountsAsFailure, State.terminate, hs]
  | refused keeps refusal trace =>
      refine .inr ⟨?_, keeps.sLockouts⟩
      simp [CountsAsFailure, trace, hs]
  | @frameless _ _ _ started _ load admitted keeps trace =>
      refine .inr ⟨?_, keeps.sLockouts.trans admitted.keeps.sLockouts⟩
      cases started <;> simp [CountsAsFailure, trace, hs]
  | @ran e s₁ s₂ evs matched compared error failElapsed load admitted keeps trace loop =>
      have hkept : s₂.sLockouts = s.sLockouts := keeps.sLockouts.trans admitted.keeps.sLockouts
      have hconclusion :=
        conclude_conclusion s₂ user e.enrollmentId failElapsed matched compared error
      obtain ⟨cs, htrace, -⟩ := hconclusion.trace
      rw [trace, hs] at htrace
      generalize s₂.conclude user e.enrollmentId failElapsed matched compared error = s' at *
      have hcounts : CountsAsFailure s' ↔
          compared = true ∧ s'.world.cancelled = false ∧ error.isSome = false := by
        rw [CountsAsFailure, loop.compared_iff, ← Bool.not_eq_true error.isSome, loop.error_iff,
          htrace]
        simp
      cases hconclusion with
      | succeeded =>
          refine absurd ?_ (hsuccess e.enrollmentId)
          rw [mem_callbacks]
          simp
      | ended er h =>
          -- An error, a cancellation or no comparison: each excludes a failure.
          refine .inr ⟨?_, hkept⟩
          rw [hcounts]
          rintro ⟨hcompared, hcancelled, herror⟩
          rcases h with h | h | h
          · simp [h] at herror
          · have : s₂.world.cancelled = false := hcancelled
            simp [h] at this
          · simp [h] at hcompared
      | failed h =>
          obtain ⟨t, hfailed⟩ := onAuthenticationFailedLocked_failed user failElapsed s₂
          refine .inl ⟨hcounts.mpr ⟨rfl, by simpa using h, rfl⟩, t, ?_, ?_⟩
          · rw [hfailed.failures, hkept]
          · rw [← hkept]
            exact hfailed.keeps.sLockouts

/-- What an authentication attempt without success does to the failures of its user. -/
theorem failures_of_attempt (s : State) (user : Int32) (io : AuthenticateIO) :
    let s' := doAuthenticate user io s.begin
    (∀ id, .onAuthenticationSucceeded id ∉ s'.callbacks) →
      (CountsAsFailure s' → (s'.sLockouts user).failures = (s.sLockouts user).failures + 1) ∧
        (¬CountsAsFailure s' → s'.sLockouts user = s.sLockouts user) := by
  intro s' hsuccess
  rcases (doAuthenticate_attempt user io s.begin).lockouts rfl hsuccess with
    ⟨hcounts, t, hfailures, hlockouts⟩ | ⟨hcounts, hlockouts⟩
  · refine ⟨fun _ => ?_, fun h => absurd hcounts h⟩
    rw [hlockouts, Function.update_self, hfailures]
    rfl
  · exact ⟨fun h => absurd h hcounts, fun _ => by rw [hlockouts]; rfl⟩

/-- A probe that does not match. -/
def MatchIO.different : MatchIO := { MatchIO.alike with score := 0 }

def AuthenticateIO.mismatch : AuthenticateIO :=
  { AuthenticateIO.quiet with cv := [.waiting ⟨.clear, 0, .different⟩] }

/-- A mismatch, after which the camera brings nothing more, counts. -/
theorem failures_of_mismatch :
    ((doAuthenticate 0 .mismatch (State.withUser false true).begin).sLockouts 0).failures =
      ((State.withUser false true).sLockouts 0).failures + 1 := by
  have hcallbacks : (doAuthenticate 0 .mismatch (State.withUser false true).begin).callbacks =
      [.onAuthenticationFrame .good, .onAuthenticationFailed] := by decide +kernel
  exact (failures_of_attempt (State.withUser false true) 0 .mismatch (by simp [hcallbacks])).1
    (by decide +kernel)

/-- A probe was compared and did not match, but then the client cancelled, or the SDK
reported an error: nothing is counted. -/
theorem failed_probe_escapes :
    let cancel := { AuthenticateIO.quiet with
      cv := [.waiting ⟨.clear, 0, .different⟩, ⟨{ cancel := true }, [{}], ⟨.clear, 0, .alike⟩⟩] }
    let error := { AuthenticateIO.quiet with stAuth := [.waiting .unlockFailed, .waiting .handle] }
    let s := step (State.withUser false true) (.op 0 (.authenticate cancel))
    let s' := step (State.withUser true true) (.op 0 (.authenticate error))
    ((∃ f t, .compared f t ∈ s.world.trace) ∧
        s.callbacks = [.onAuthenticationFrame .good, .onError .canceled] ∧
        (s.sLockouts 0).failures = ((State.withUser false true).sLockouts 0).failures) ∧
      (∃ f t, .compared f t ∈ s'.world.trace) ∧
        s'.callbacks = [.onAuthenticationFrame .good, .onError .hwUnavailable] ∧
        (s'.sLockouts 0).failures = ((State.withUser true true).sLockouts 0).failures := by
  intro cancel error s s'
  refine ⟨⟨any_isCompared.mp ?_, ?_, ?_⟩, any_isCompared.mp ?_, ?_, ?_⟩ <;> decide +kernel

/-! ### Runs -/

/-- The step is an operation of `user` that clears the lockout. -/
def Clears (user : Int32) (s : State) (st : Step) : Prop :=
  stepUser s st = some user ∧
    ((∃ i, st = .op i .resetLockout) ∨
      ∃ id, .onAuthenticationSucceeded id ∈ (step s st).callbacks)

/-- Nothing clears the lockout of `user`, and the process goes on. -/
def Uncleared (user : Int32) (s : State) (st : Step) : Prop :=
  ¬Clears user s st ∧ ∀ available, st ≠ .restart available

/-- The failures that a step reports to a session of `user`. -/
def failedReports (user : Int32) (s : State) (st : Step) : ℕ :=
  if stepUser s st = some user then (step s st).callbacks.count .onAuthenticationFailed else 0

/-- The attempt was turned away by the lockout. -/
def RejectedForLockout (s' : State) : Prop :=
  .onAuthenticationFailed ∉ s'.callbacks ∧
    (.onLockoutPermanent ∈ s'.callbacks ∨ ∃ ms, .onLockoutTimed ms ∈ s'.callbacks)

/-- What an attempt does to the tracker of its user, with what it reports of that. -/
inductive Outcome (user : Int32) (s s' : State) : Prop
  | kept (lockouts : s'.sLockouts = s.sLockouts)
      (reports : s'.callbacks.count .onAuthenticationFailed = 0)
  | cleared (id : Int32) (lockouts : s'.sLockouts = Function.update s.sLockouts user {})
      (success : .onAuthenticationSucceeded id ∈ s'.callbacks)
      (reports : ∀ c ∈ s'.callbacks,
        c = .onAuthenticationSucceeded id ∨ ∃ info, c = .onAuthenticationFrame info)
  | failed {t : LockoutTracker} (lockouts : s'.sLockouts = Function.update s.sLockouts user t)
      (failures : t.failures = (s.sLockouts user).failures + 1)
      (timed : t.failures < kLockoutPermanentFailures → t.failures % kLockoutTimedFailures = 0 →
        t.lockedUntil = s'.world.now + kLockoutDuration)
      (notPermanent : (s.sLockouts user).failures < kLockoutPermanentFailures)
      (unlocked : (s.sLockouts user).lockedUntil ≤ s'.world.now)
      (reports : s'.callbacks.count .onAuthenticationFailed = 1)

theorem AuthLoop.count_failed {s : State} {deadline : Time} {requireAttention : Bool}
    {evs : List Event} {matched compared : Bool} {error : Option Error}
    (h : AuthLoop s deadline requireAttention evs matched compared error) :
    (evs.filterMap Event.callback?).count .onAuthenticationFailed = 0 := by
  rw [List.count_eq_zero, List.mem_filterMap]
  rintro ⟨e, he, hc⟩
  rw [callback?_eq_some] at hc
  obtain ⟨info, hinfo⟩ := h.reports _ (hc ▸ he)
  simp at hinfo

theorem Attempt.outcome {user : Int32} {io : AuthenticateIO} {s s' : State}
    (h : Attempt user io s s')
    (hs : s.world.trace = []) : Outcome user s s' := by
  cases h with
  | terminated load =>
      refine .kept rfl ?_
      simp [State.callbacks, State.terminate, World.log, hs, List.filterMap_cons, Event.callback?]
  | @refused _ c keeps refusal trace =>
      refine .kept keeps.sLockouts ?_
      have hc : c ≠ .onAuthenticationFailed := by
        rcases refusal with rfl | ⟨ms, rfl⟩ | ⟨er, rfl⟩ <;> simp
      simp [State.callbacks, trace, hs, Event.callback?, hc]
  | @frameless _ _ _ started _ load admitted keeps trace =>
      refine .kept (keeps.sLockouts.trans admitted.keeps.sLockouts) ?_
      cases started <;> simp [State.callbacks, trace, hs, List.filterMap_cons, Event.callback?]
  | @ran e s₁ s₂ evs matched compared error failElapsed load admitted keeps trace loop =>
      have hkept : s₂.sLockouts = s.sLockouts := keeps.sLockouts.trans admitted.keeps.sLockouts
      have hcount := loop.count_failed
      have hconclusion :=
        conclude_conclusion s₂ user e.enrollmentId failElapsed matched compared error
      generalize s₂.conclude user e.enrollmentId failElapsed matched compared error = s' at *
      cases hconclusion with
      | succeeded =>
          have hlockouts : ((s₂.eraseLockout user).emit
              (.onAuthenticationSucceeded e.enrollmentId)).sLockouts =
              Function.update s.sLockouts user {} := by
            rw [← hkept]
            rfl
          refine .cleared e.enrollmentId hlockouts
            (mem_callbacks.mpr (List.mem_append_right _ ?_)) ?_
          · exact List.mem_singleton_self _
          · intro c hc
            rw [mem_callbacks, State.trace_emit] at hc
            simp only [State.eraseLockout, State.setLockout, trace, hs] at hc
            rcases List.mem_append.mp hc with hc | hc
            · refine .inr (loop.reports c ?_)
              simpa using hc
            · refine .inl ?_
              simpa using hc
      | ended er h =>
          refine .kept hkept ?_
          simp [State.callbacks, trace, hs, List.filterMap_cons, Event.callback?, hcount]
      | failed h =>
          obtain ⟨t, hfailed⟩ := onAuthenticationFailedLocked_failed user failElapsed s₂
          obtain ⟨report, htrace, hreport⟩ := hfailed.trace
          refine .failed (t := t) ?_ ?_ hfailed.timed admitted.failures ?_ ?_
          · rw [← hkept]
            exact hfailed.keeps.sLockouts
          · rw [hfailed.failures, hkept]
          · exact admitted.unlocked.trans (keeps.now_le.trans hfailed.keeps.now_le)
          · rcases hreport with rfl | rfl | ⟨ms, rfl⟩ <;>
              simp [State.callbacks, htrace, trace, hs, List.filterMap_cons, Event.callback?,
                hcount]

/-- What a step does to the tracker of `user`, with the failures it reports. -/
inductive Tracked (user : Int32) (s : State) (st : Step) : Prop
  | kept (tracker : (step s st).sLockouts user = s.sLockouts user)
      (reports : failedReports user s st = 0)
  | cleared (clears : ¬Uncleared user s st) (tracker : (step s st).sLockouts user = {})
  | failed (failures : ((step s st).sLockouts user).failures = (s.sLockouts user).failures + 1)
      (timed : ((step s st).sLockouts user).failures < kLockoutPermanentFailures →
        ((step s st).sLockouts user).failures % kLockoutTimedFailures = 0 →
          ((step s st).sLockouts user).lockedUntil = (step s st).world.now + kLockoutDuration)
      (notPermanent : (s.sLockouts user).failures < kLockoutPermanentFailures)
      (unlocked : (s.sLockouts user).lockedUntil ≤ (step s st).world.now)
      (reports : failedReports user s st = 1)

theorem Answered.count_failed {s s' : State} (h : Answered s s') (hs : s.world.trace = []) :
    s'.callbacks.count .onAuthenticationFailed = 0 :=
  List.count_eq_zero.mpr fun hmem => Bool.false_ne_true (h.isAnswer hs hmem)

theorem Enrolling.count_failed {user : Int32} {io : EnrollIO} {s s' : State}
    (h : Enrolling user io s s') (hs : s.world.trace = []) :
    s'.callbacks.count .onAuthenticationFailed = 0 := by
  have hloop {stAuth : Bool} {deadline : Time} {evs : List Event} {captured : Prop}
      (hloop : EnrollLoop stAuth deadline evs captured) :
      .callback .onAuthenticationFailed ∉ evs := by
    intro hmem
    rcases hloop.reports _ hmem with ⟨info, stage, hc⟩ | ⟨id, remaining, -, hc⟩ <;> simp at hc
  rw [List.count_eq_zero, mem_callbacks]
  cases h with
  | terminated load => simp [State.terminate, World.log, hs]
  | refused keeps trace => simp [trace, hs]
  | @frameless _ _ _ _ started _ load vacant keeps shrinks trace =>
      cases started <;> simp [trace, hs]
  | failed load vacant keeps failure loop trace => simp [trace, hs, hloop loop]
  | finished load vacant keeps success loop hcaptured trace => simp [trace, hs, hloop loop]

theorem Enrolling.sLockouts {user : Int32} {io : EnrollIO} {s s' : State}
    (h : Enrolling user io s s') : s'.sLockouts = s.sLockouts := by
  cases h with
  | terminated load => rfl
  | refused keeps trace => exact keeps.sLockouts
  | frameless load vacant keeps shrinks trace => exact keeps.sLockouts
  | failed load vacant keeps failure loop trace => exact keeps.sLockouts
  | finished load vacant keeps success loop hcaptured trace => exact keeps.sLockouts

/-- An attempt of user `u` and the tracker of `user`. -/
theorem Outcome.tracked {user u : Int32} {s : State} {st : Step} (hu : stepUser s st = some u)
    (h : Outcome u s.begin (step s st)) : Tracked user s st := by
  -- Trackers of other users are not touched.
  by_cases huser : u = user
  · subst huser
    have hreports : failedReports u s st =
        (step s st).callbacks.count .onAuthenticationFailed := if_pos hu
    cases h with
    | kept lockouts reports => exact .kept (congrFun lockouts u) (hreports.trans reports)
    | cleared id lockouts success reports =>
        refine .cleared (fun h => h.1 ⟨hu, .inr ⟨id, success⟩⟩) ?_
        rw [lockouts, Function.update_self]
    | failed lockouts failures timed notPermanent unlocked reports =>
        have htracker := congrFun lockouts u
        rw [Function.update_self] at htracker
        rw [← htracker] at failures timed
        exact .failed failures timed notPermanent unlocked (hreports.trans reports)
  · have hreports : failedReports user s st = 0 := by simp [failedReports, hu, huser]
    have hother (t : LockoutTracker) :
        Function.update s.begin.sLockouts u t user = s.sLockouts user := by
      rw [Function.update_of_ne (Ne.symm huser)]
      rfl
    cases h with
    | kept lockouts reports => exact .kept (congrFun lockouts user) hreports
    | cleared id lockouts success reports =>
        exact .kept ((congrFun lockouts user).trans (hother _)) hreports
    | failed lockouts failures timed notPermanent unlocked reports =>
        exact .kept ((congrFun lockouts user).trans (hother _)) hreports

theorem tracked_step (user : Int32) (s : State) (st : Step) : Tracked user s st := by
  have hnone (h : stepUser s st = none) : failedReports user s st = 0 := by
    simp [failedReports, h]
  cases st with
  | createSession u => exact .kept rfl (hnone rfl)
  | setTeeProperty tee => exact .kept rfl (hnone rfl)
  | wait elapsed => exact .kept rfl (hnone rfl)
  | restart available => exact .cleared (fun h => h.2 available rfl) rfl
  | op i op =>
      cases hsession : s.sessions[i]? with
      | none =>
          refine .kept ?_ (hnone ?_)
          · simp [step, hsession, State.begin]
          · simp [stepUser, hsession]
      | some session =>
          have hu : stepUser s (.op i op) = some session.mUserId := by
            simp [stepUser, hsession]
          have hstep : step s (.op i op) = runOp i session op s.begin := by
            simp [step, hsession]
          have hkept (hlockouts : (step s (.op i op)).sLockouts = s.sLockouts)
              (hreports : (step s (.op i op)).callbacks.count .onAuthenticationFailed = 0) :
              Tracked user s (.op i op) := by
            refine .kept (congrFun hlockouts user) ?_
            rw [failedReports, hreports, ite_self]
          by_cases hplain : op.IsPlain
          · have hanswered := runOp_answered hplain i session s.begin
            rw [← hstep] at hanswered
            exact hkept hanswered.keeps.sLockouts (hanswered.count_failed rfl)
          · cases op with
            | enroll challenge preview io =>
                have henrolling := doEnroll_enrolling session challenge preview io s.begin
                refine hkept ?_ ?_
                · rw [hstep]
                  exact henrolling.sLockouts
                · rw [hstep]
                  exact henrolling.count_failed rfl
            | authenticate io =>
                apply Outcome.tracked hu
                rw [hstep]
                exact (doAuthenticate_attempt session.mUserId io s.begin).outcome rfl
            | resetLockout =>
                by_cases huser : session.mUserId = user
                · refine .cleared (fun h => h.1 ⟨huser ▸ hu, .inl ⟨i, rfl⟩⟩) ?_
                  rw [hstep, ← huser]
                  exact Function.update_self ..
                · refine .kept ?_ (by simp [failedReports, hu, huser])
                  rw [hstep]
                  exact Function.update_of_ne (Ne.symm huser) _ _
            | _ => exact absurd ⟨by simp, by simp, by simp⟩ hplain

/-! ### What the lockout guarantees -/

theorem failures_le {s : State} (h : Reachable s) (user : Int32) :
    (s.sLockouts user).failures ≤ kLockoutPermanentFailures := by
  refine Machine.Reachable.invariant
    (I := fun s => (s.sLockouts user).failures ≤ kLockoutPermanentFailures) ?_ ?_ h
  · rintro _ ⟨available, tee, now, rfl⟩
    exact Nat.zero_le _
  · intro s st hle
    cases tracked_step user s st with
    | kept tracker reports => exact tracker ▸ hle
    | cleared clears tracker => exact tracker ▸ Nat.zero_le _
    | failed failures timed notPermanent unlocked reports => omega

/-- Without clearing, every reported failure is counted. -/
theorem failures_run {user : Int32} {s : State} {sts : List Step}
    (h : Machine.Along step (Uncleared user) s sts) :
    ((Machine.run step s sts).sLockouts user).failures =
      (s.sLockouts user).failures + Machine.total step (failedReports user) s sts := by
  refine Machine.Along.total_eq (fun s => (s.sLockouts user).failures) ?_ h
  intro s st hG
  cases tracked_step user s st with
  | kept tracker reports => rw [tracker, reports, Nat.add_zero]
  | cleared clears tracker => exact absurd hG clears
  | failed failures timed notPermanent unlocked reports => rw [failures, reports]

/-- An attempt that starts the camera was not locked out at that time. -/
theorem Attempt.started {user : Int32} {io : AuthenticateIO} {s s' : State}
    (h : Attempt user io s s')
    (hs : s.world.trace = []) {t : Time} {ok : Bool} (ht : .cameraStarted t ok ∈ s'.world.trace) :
    (s.sLockouts user).failures < kLockoutPermanentFailures ∧
      (s.sLockouts user).lockedUntil ≤ t ∧ s.world.now ≤ t := by
  cases h with
  | terminated load => simp [State.terminate, World.log, hs] at ht
  | refused keeps refusal trace => simp [trace, hs] at ht
  | @frameless _ s₁ _ started _ load admitted keeps trace =>
      have htime : t = s₁.world.now := by
        rw [trace, hs] at ht
        cases started <;> simp at ht <;> exact ht.1
      exact htime ▸ ⟨admitted.failures, admitted.unlocked, admitted.keeps.now_le⟩
  | @ran e s₁ s₂ evs matched compared error failElapsed load admitted keeps trace loop =>
      obtain ⟨cs, htrace, -⟩ :=
        (conclude_conclusion s₂ user e.enrollmentId failElapsed matched compared error).trace
      have htime : t = s₁.world.now := by
        rw [htrace, trace, hs] at ht
        simp [loop.events.camera] at ht
        exact ht.1
      exact htime ▸ ⟨admitted.failures, admitted.unlocked, admitted.keeps.now_le⟩

/-- Every attempt of `user`, while enrolled, is turned away for good. -/
def LockedOut (user : Int32) (s : State) : Prop :=
  ∀ i io, stepUser s (.op i (.authenticate io)) = some user →
    let s' := step s (.op i (.authenticate io))
    (∀ t ok, .cameraStarted t ok ∉ s'.world.trace) ∧
      ∀ e, Enrollment.load s.storage.enrollmentFile = .ok e → e.userId = user →
        s'.callbacks = [.onLockoutPermanent]

/-- No attempt of `user` starts the camera before `t`. -/
def ShutUntil (user : Int32) (t : Time) (s : State) : Prop :=
  ∀ i io, stepUser s (.op i (.authenticate io)) = some user →
    ∀ t' ok, .cameraStarted t' ok ∈ (step s (.op i (.authenticate io))).world.trace → t ≤ t'

theorem lockedOut_of_failures {user : Int32} {s : State}
    (h : (s.sLockouts user).failures = kLockoutPermanentFailures) : LockedOut user s := by
  intro i io hu
  obtain ⟨session, rfl, hstep⟩ := step_of_stepUser hu
  rw [hstep]
  refine ⟨fun t ok ht => ?_, fun e hload huser => ?_⟩
  · have hlt := ((doAuthenticate_attempt session.mUserId io s.begin).started rfl ht).1
    exact absurd h (ne_of_lt hlt)
  · have hload' : Enrollment.load s.begin.storage.enrollmentFile = .ok e := hload
    have hpermanent : kLockoutPermanentFailures ≤ (s.begin.sLockouts session.mUserId).failures :=
      h.ge
    simp only [runOp, doAuthenticate, State.withEnrollment, hload', authenticateWith, huser,
      ne_eq, not_true, if_false, checkLockoutLocked, if_pos hpermanent, if_true]
    rfl

/-- `t` lies behind, or the tracker of `user` still remembers it. -/
def Remembers (user : Int32) (t : Time) (s : State) : Prop :=
  t ≤ (s.sLockouts user).lockedUntil ∨ t ≤ s.world.now

theorem remembers_step {user : Int32} {t : Time} (s : State) (st : Step)
    (h : Remembers user t s) (hG : Uncleared user s st) : Remembers user t (step s st) := by
  have hnow := now_le_step s st
  cases tracked_step user s st with
  | kept tracker reports =>
      rw [Remembers, tracker]
      exact h.imp_right fun h => h.trans hnow
  | cleared clears tracker => exact absurd hG clears
  | failed failures timed notPermanent unlocked reports =>
      refine .inr ?_
      rcases h with h | h
      · exact h.trans unlocked
      · exact h.trans hnow

theorem Remembers.shutUntil {user : Int32} {t : Time} {s : State} (h : Remembers user t s) :
    ShutUntil user t s := by
  intro i io hu t' ok ht'
  obtain ⟨session, rfl, hstep⟩ := step_of_stepUser hu
  rw [hstep] at ht'
  obtain ⟨-, hlocked, hnow⟩ := (doAuthenticate_attempt session.mUserId io s.begin).started rfl ht'
  rcases h with h | h
  · exact h.trans hlocked
  · exact h.trans hnow

theorem tracker_of_rejected {user : Int32} {s : State} {i : ℕ} {io : AuthenticateIO}
    (hu : stepUser s (.op i (.authenticate io)) = some user)
    (h : RejectedForLockout (step s (.op i (.authenticate io)))) :
    (step s (.op i (.authenticate io))).sLockouts user = s.sLockouts user := by
  obtain ⟨session, rfl, hstep⟩ := step_of_stepUser hu
  rw [hstep] at h ⊢
  cases (doAuthenticate_attempt session.mUserId io s.begin).outcome rfl with
  | kept lockouts reports => exact congrFun lockouts session.mUserId
  | cleared id lockouts success reports =>
      rcases h.2 with h | ⟨ms, h⟩ <;> rcases reports _ h with h | ⟨info, h⟩ <;> simp at h
  | failed lockouts failures timed notPermanent unlocked reports =>
      refine absurd (List.count_pos_iff.mp ?_) h.1
      exact reports ▸ Nat.one_pos

/-- The lockout of `user`, over every run in which nothing clears it. -/
theorem lockout_enforced {s : State} (h : Reachable s) (user : Int32) :
    (s.sLockouts user).failures ≤ 20 ∧
      (∀ sts, Machine.Along step (Uncleared user) s sts →
        Machine.total step (failedReports user) s sts ≤ 20 ∧
          ((s.sLockouts user).failures = 20 → LockedOut user (Machine.run step s sts))) ∧
      (∀ st, failedReports user s st ≠ 0 →
        ((step s st).sLockouts user).failures ∈ [5, 10, 15] →
          ∀ sts, Machine.Along step (Uncleared user) (step s st) sts →
            ShutUntil user ((step s st).world.now + 30 * 10 ^ 9)
              (Machine.run step (step s st) sts)) ∧
      ∀ i io, stepUser s (.op i (.authenticate io)) = some user →
        let s' := step s (.op i (.authenticate io))
        RejectedForLockout s' → s'.sLockouts user = s.sLockouts user := by
  refine ⟨failures_le h user, fun sts hG => ?_, fun st hfailed hmem sts hG => ?_,
    fun i io hu => tracker_of_rejected hu⟩
  · have hcount := failures_run hG
    have hle : ((Machine.run step s sts).sLockouts user).failures ≤ 20 :=
      failures_le (h.run sts) user
    refine ⟨by omega, fun hpermanent => lockedOut_of_failures ?_⟩
    show _ = 20
    omega
  · cases tracked_step user s st with
    | kept tracker reports => exact absurd reports hfailed
    | cleared clears tracker => simp [tracker] at hmem
    | failed failures timed notPermanent unlocked reports =>
        -- The 5th, 10th and 15th failure each shut the camera until 30 s later.
        set failures' := ((step s st).sLockouts user).failures
        have hfifth : failures' < 20 ∧ failures' % 5 = 0 := by
          simp only [List.mem_cons, List.not_mem_nil, or_false] at hmem
          omega
        have hremembers : Remembers user ((step s st).world.now + 30 * 10 ^ 9) (step s st) :=
          .inl (timed hfifth.1 hfifth.2).ge
        exact (hG.invariant remembers_step hremembers).shutUntil

/-- Five failed attempts shut the camera for 30 s, and four times as many for good. -/
theorem lockout_enforced_mismatch :
    let fail : Step := .op 0 (.authenticate .mismatch)
    let rest : Step := .wait (30 * 10 ^ 9)
    let s := Machine.run step (State.withUser false true) (List.replicate 4 fail)
    let s' := Machine.run step (State.withUser false true)
      (List.replicate 4 [fail, fail, fail, fail, fail, rest]).flatten
    ShutUntil 0 ((step s fail).world.now + 30 * 10 ^ 9) (step s fail) ∧ LockedOut 0 s' := by
  intro fail rest s s'
  have hs : Reachable s := (State.withUser_reachable false true).run _
  have hs' : Reachable s' := (State.withUser_reachable false true).run _
  have hfailed : failedReports 0 s fail ≠ 0 := by decide +kernel
  have hfifth : ((step s fail).sLockouts 0).failures ∈ [5, 10, 15] := by decide +kernel
  have hpermanent : (s'.sLockouts 0).failures = 20 := by decide +kernel
  clear_value s s'
  exact ⟨(lockout_enforced hs 0).2.2.1 fail hfailed hfifth [] trivial,
    ((lockout_enforced hs' 0).2.1 [] trivial).2 hpermanent⟩

end OneplusHal.Face

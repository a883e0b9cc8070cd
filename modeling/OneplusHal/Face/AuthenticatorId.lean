import OneplusHal.Face.Isolation

/-!
The authenticator id of an enrolled user, from an invalidation on.

Invalidating draws a new id, writes the record with it, and reports the id whether or not
the write succeeded. If it did, the record carries the id through everything that follows,
also where the whole record is written again. If it failed, the next query reads the old
record, or none.
-/

namespace OneplusHal.Face

open OneplusHal

/-- The enrolled user's record is readable and has the authenticator id `x`. -/
structure Carried (e : Enrollment) (x : Int64) (s : State) (e' : Enrollment) : Prop where
  load : Enrollment.load s.storage.enrollmentFile = .ok e'
  userId : e'.userId = e.userId
  enrollmentId : e'.enrollmentId = e.enrollmentId
  authenticatorId : e'.authenticatorId = x
  engine : IsWord e'.engine

/-- The step is no operation of the enrolled user by which the authenticator id ends: it
does not invalidate it, and it is not reported to have removed the enrollment. Nor does a
write of the record fail in it. -/
def Continues (e : Enrollment) (s : State) (st : Step) : Prop :=
  ∀ i op, st = .op i op → stepUser s st = some e.userId →
    (∀ r io, op ≠ .invalidateAuthenticatorId r io) ∧
      (∀ ids io, op = .removeEnrollments ids io → e.enrollmentId ∈ ids →
        .onEnrollmentsRemoved ids ∉ heard s st) ∧
      ∀ enabled io, op = .setFeature .requireAttention enabled io → io.write = .written

/-- Asked by the user, the service reports the authenticator id `x`. -/
def Answers (e : Enrollment) (x : Int64) (s : State) (st : Step) : Prop :=
  ∀ i, st = .op i .getAuthenticatorId → stepUser s st = some e.userId →
    heard s st = [.onAuthenticatorIdRetrieved x]

/-! ### One step -/

theorem stepUser_eq_some {s : State} {i : ℕ} {op : Op} {user : Int32} :
    stepUser s (.op i op) = some user ↔
      ∃ session, s.sessions[i]? = some session ∧ session.mUserId = user := by
  simp [stepUser]

/-- The record is written again, with the same ids. -/
theorem Carried.save {e e' : Enrollment} {x : Int64} {s s' : State} (h : Carried e x s e')
    (henrolled : 0 ≤ e.userId) (requireAttention : Bool) {io : SaveIO}
    (hwrite : io.write = .written)
    (hfile : s'.storage.enrollmentFile =
      (({ e' with requireAttention } : Enrollment).save io s.storage.enrollmentFile).2) :
    Carried e x s' { e' with requireAttention } := by
  have hnot : ¬e'.userId < 0 := by
    rw [h.userId]
    exact Int32.not_lt.mpr henrolled
  refine ⟨?_, h.userId, h.enrollmentId, h.authenticatorId, h.engine⟩
  rw [hfile, Enrollment.save, if_neg hnot, hwrite, writeStringToFile]
  exact Enrollment.load_text h.engine

theorem Carried.of_file {e e' : Enrollment} {x : Int64} {s s' : State} (h : Carried e x s e')
    (hfile : s'.storage.enrollmentFile = s.storage.enrollmentFile) : Carried e x s' e' :=
  ⟨hfile ▸ h.load, h.userId, h.enrollmentId, h.authenticatorId, h.engine⟩

/-- An operation of the enrolled user carries the id on. -/
theorem Carried.runOp {e e' : Enrollment} {x : Int64} {s : State} (h : Carried e x s e')
    (henrolled : 0 ≤ e.userId) {i : ℕ} {session : Session} (op : Op)
    (huser : session.mUserId = e.userId)
    (hinvalidate : ∀ r io, op ≠ .invalidateAuthenticatorId r io)
    (hremove : ∀ ids io, op = .removeEnrollments ids io → e.enrollmentId ∈ ids →
      .onEnrollmentsRemoved ids ∉ (Face.runOp i session op s).callbacks)
    (hset : ∀ enabled io, op = .setFeature .requireAttention enabled io → io.write = .written) :
    ∃ e'', Carried e x (Face.runOp i session op s) e'' := by
  have hload (op' : Enrollment → State → State) : s.withEnrollment op' = op' e' s := by
    simp only [State.withEnrollment, h.load]
  have hsame : e'.userId = session.mUserId := h.userId.trans huser.symm
  cases op with
  | enroll challenge preview io =>
      refine ⟨e', h.of_file ?_⟩
      have hvacant : 0 ≤ e'.userId := h.userId ▸ henrolled
      simp only [Face.runOp, doEnroll, hload, enrollWith, if_pos hvacant]
      split <;> rfl
  | authenticate io =>
      have hstorage := (doAuthenticate_attempt session.mUserId io s).keeps.storage
      exact ⟨e', h.of_file (congrArg Storage.enrollmentFile hstorage)⟩
  | removeEnrollments ids io =>
      refine ⟨e', h.of_file ?_⟩
      have hnot := hremove ids io rfl
      simp only [Face.runOp, hload, removeWith, hsame, ne_eq, not_true_eq_false, false_or]
        at hnot ⊢
      split
      · rfl
      · rename_i hids
        rw [if_neg hids] at hnot
        split
        · exact (removeFeature_removed io.feature s).shrinks.enrollmentFile
        · -- The removal is reported.
          rename_i hok
          rw [if_neg hok] at hnot
          rw [h.enrollmentId, not_not] at hids
          refine absurd ?_ (hnot hids)
          simp [State.callbacks, State.emit, World.emit, World.log, Event.callback?]
  | setFeature feature enabled io =>
      cases feature with
      | debug =>
          refine ⟨e', h.of_file ?_⟩
          simp [Face.runOp, hload, setFeatureWith]
      | requireAttention =>
          refine ⟨_, h.save henrolled enabled (hset enabled io rfl) ?_⟩
          simp only [Face.runOp, hload, setFeatureWith, hsame, ne_eq, not_true_eq_false, or_self,
            if_false]
          split <;> rfl
  | invalidateAuthenticatorId r io => exact absurd rfl (hinvalidate r io)
  | getFeatures =>
      refine ⟨e', h.of_file ?_⟩
      simp only [Face.runOp, hload, getFeaturesWith]
      split <;> rfl
  | _ =>
      refine ⟨e', h.of_file ?_⟩
      simp only [Face.runOp, hload, enumerateWith, getAuthenticatorIdWith]
      rfl

theorem Carried.step {e e' : Enrollment} {x : Int64} {s : State} (h : Carried e x s e')
    (henrolled : 0 ≤ e.userId) {st : Step} (hst : Continues e s st) :
    ∃ e'', Carried e x (step s st) e'' := by
  cases st with
  | op i op =>
      by_cases hforeign : Foreign e.userId s (.op i op)
      · -- Nobody else touches the record.
        obtain ⟨-, huntouched, -⟩ := foreign_step h.load (h.userId.symm ▸ henrolled)
          (h.userId.symm ▸ hforeign)
        exact ⟨e', h.of_file (congrArg Storage.enrollmentFile huntouched.storage)⟩
      · cases hsession : s.sessions[i]? with
        | none =>
            refine ⟨e', h.of_file ?_⟩
            simp only [Face.step, hsession]
            rfl
        | some session =>
            have huser : session.mUserId = e.userId := by
              by_contra hne
              exact hforeign ⟨_, stepUser_eq_some.mpr ⟨session, hsession, rfl⟩, hne⟩
            obtain ⟨hinvalidate, hremove, hset⟩ :=
              hst i op rfl (stepUser_eq_some.mpr ⟨session, hsession, huser⟩)
            have hstep : Face.step s (.op i op) = Face.runOp i session op s.begin := by
              simp only [Face.step, hsession]
            simp only [heard, hstep] at hremove
            rw [hstep]
            exact Carried.runOp (s := s.begin) (h.of_file rfl) henrolled op huser hinvalidate
              hremove hset
  | _ => exact ⟨e', h.of_file rfl⟩

/-- The query reads the record. -/
theorem heard_getAuthenticatorId {s : State} {e : Enrollment} {i : ℕ} {session : Session}
    (load : Enrollment.load s.storage.enrollmentFile = .ok e)
    (hsession : s.sessions[i]? = some session) :
    heard s (.op i .getAuthenticatorId) =
      [.onAuthenticatorIdRetrieved
        (if e.userId = session.mUserId then e.authenticatorId else 0)] := by
  have hload : Enrollment.load s.begin.storage.enrollmentFile = .ok e := load
  simp only [heard, step, hsession, Face.runOp, State.withEnrollment, hload,
    getAuthenticatorIdWith]
  rfl

theorem Carried.answers {e e' : Enrollment} {x : Int64} {s : State} (h : Carried e x s e')
    (st : Step) : Answers e x s st := by
  rintro i rfl huser
  obtain ⟨session, hsession, hsame⟩ := stepUser_eq_some.mp huser
  rw [heard_getAuthenticatorId h.load hsession, if_pos (h.userId.trans hsame.symm),
    h.authenticatorId]

/-! ### From an invalidation on -/

/-- The record write of an invalidation succeeds, or it leaves the record and the id drawn
is the one that the record has. -/
def InvalidationKept (r : RandomId) (io : SaveIO) (e : Enrollment) : Prop :=
  io.write = .written ∨ io.write = .openFailed ∧ r.value = e.authenticatorId

section

variable {s : State} {i : ℕ} {session : Session} {e : Enrollment} {r : RandomId} {io : SaveIO}

variable (r io) in
theorem step_invalidate (load : Enrollment.load s.storage.enrollmentFile = .ok e)
    (enrolled : 0 ≤ e.userId) (hsession : s.sessions[i]? = some session)
    (huser : session.mUserId = e.userId) :
    let s' := step s (.op i (.invalidateAuthenticatorId r io))
    s'.callbacks = [.onAuthenticatorIdInvalidated r.value] ∧ s'.sessions = s.sessions ∧
      s'.storage.enrollmentFile =
        (writeStringToFile io.write ({ e with authenticatorId := r.value } : Enrollment).text
          s.storage.enrollmentFile).2 := by
  have hload : Enrollment.load s.begin.storage.enrollmentFile = .ok e := load
  have hnot : ¬e.userId < 0 := Int32.not_lt.mpr enrolled
  simp only [step, hsession, Face.runOp, State.withEnrollment, hload, invalidateWith, huser, ne_eq,
    not_true_eq_false, if_false, Enrollment.save, if_neg hnot]
  exact ⟨rfl, rfl, rfl⟩

/-- After an invalidation whose record write is kept, the record carries the id reported. -/
theorem carried_invalidate (hengine : IsWord e.engine)
    (load : Enrollment.load s.storage.enrollmentFile = .ok e) (enrolled : 0 ≤ e.userId)
    (hsession : s.sessions[i]? = some session) (huser : session.mUserId = e.userId)
    (hkept : InvalidationKept r io e) :
    ∃ e', Carried e r.value (step s (.op i (.invalidateAuthenticatorId r io))) e' := by
  obtain ⟨-, -, hfile⟩ := step_invalidate r io load enrolled hsession huser
  rcases hkept with hwritten | ⟨hfailed, hid⟩
  · refine ⟨{ e with authenticatorId := r.value }, ?_, rfl, rfl, rfl, hengine⟩
    rw [hfile, hwritten, writeStringToFile]
    exact Enrollment.load_text hengine
  · refine ⟨e, ?_, rfl, rfl, hid.symm, hengine⟩
    rw [hfile, hfailed]
    exact load

/-- Otherwise the very next query reports something else. -/
theorem not_answers_of_not_kept (load : Enrollment.load s.storage.enrollmentFile = .ok e)
    (enrolled : 0 ≤ e.userId) (hsession : s.sessions[i]? = some session)
    (huser : session.mUserId = e.userId) (hkept : ¬InvalidationKept r io e) :
    ¬Answers e r.value (step s (.op i (.invalidateAuthenticatorId r io)))
      (.op i .getAuthenticatorId) := by
  obtain ⟨-, hsessions, hfile⟩ := step_invalidate r io load enrolled hsession huser
  intro hanswers
  have hsession' := hsession
  rw [← hsessions] at hsession'
  have hheard := hanswers i rfl (stepUser_eq_some.mpr ⟨session, hsession', huser⟩)
  unfold InvalidationKept at hkept
  cases hwrite : io.write with
  | written => exact hkept (.inl hwrite)
  | openFailed =>
      rw [hwrite, writeStringToFile] at hfile
      rw [heard_getAuthenticatorId (by rw [hfile]; exact load) hsession', if_pos huser.symm]
        at hheard
      injection hheard with hid
      injection hid with hid
      exact hkept (.inr ⟨hwrite, hid.symm⟩)
  | writeFailed =>
      rw [hwrite, writeStringToFile] at hfile
      have hvacant : ({} : Enrollment).userId ≠ session.mUserId := by
        rw [huser]
        intro hminus
        rw [← hminus] at enrolled
        exact absurd enrolled (by decide)
      rw [heard_getAuthenticatorId (by rw [hfile]; rfl) hsession', if_neg hvacant] at hheard
      injection hheard with hid
      injection hid with hid
      exact r.ne_zero hid.symm

/-- An invalidation reports a new id. From then on, until the user invalidates again or the
enrollment is removed, every query of the user reports that id, if and only if the record
write of the invalidation is kept. -/
theorem invalidated_id_reported_iff (h : Reachable s)
    (load : Enrollment.load s.storage.enrollmentFile = .ok e) (enrolled : 0 ≤ e.userId)
    (hsession : s.sessions[i]? = some session) (huser : session.mUserId = e.userId) :
    let s' := step s (.op i (.invalidateAuthenticatorId r io))
    s'.callbacks = [.onAuthenticatorIdInvalidated r.value] ∧
      ((∀ sts, Machine.Along step (Continues e) s' sts →
          Machine.Along step (Answers e r.value) s' sts) ↔ InvalidationKept r io e) := by
  intro s'
  refine ⟨(step_invalidate r io load enrolled hsession huser).1, ?_, fun hkept sts hsts => ?_⟩
  · intro hall
    by_contra hkept
    refine not_answers_of_not_kept load enrolled hsession huser hkept
      (hall [.op i .getAuthenticatorId] ⟨?_, trivial⟩).1
    rintro j op hop -
    cases hop
    exact ⟨fun _ _ => nofun, fun _ _ => nofun, fun _ _ => nofun⟩
  · obtain ⟨en, hrecord⟩ := h.consistent.recorded load enrolled
    have hengine : IsWord e.engine := hrecord.engine ▸ isWord_engine en.store
    refine Machine.Along.of_invariant (I := fun t => ∃ e', Carried e r.value t e') ?_
      (carried_invalidate hengine load enrolled hsession huser hkept) hsts
    rintro t st ⟨e', ht⟩ hst
    exact ⟨ht.answers st, ht.step enrolled hst⟩

end

/-- The write of the record fails: the id reported is not the one that a query finds. -/
theorem invalidated_id_lost :
    let s := State.withUser false true
    let s' := step s (.op 0 (.invalidateAuthenticatorId ⟨2, by decide⟩ ⟨false, .openFailed⟩))
    s'.callbacks = [.onAuthenticatorIdInvalidated 2] ∧
      heard s' (.op 0 .getAuthenticatorId) = [.onAuthenticatorIdRetrieved 1] ∧
      ¬Answers ⟨0, 1, 1, true, kCvEngine⟩ 2 s' (.op 0 .getAuthenticatorId) := by
  intro s s'
  have hheard : heard s' (.op 0 .getAuthenticatorId) = [.onAuthenticatorIdRetrieved 1] := by
    decide +kernel
  refine ⟨by decide +kernel, hheard, fun hanswers => ?_⟩
  have hnew := hanswers 0 rfl (by decide +kernel)
  rw [hheard] at hnew
  exact absurd hnew (by decide)

/-- The id is reported after a restart and a change of a feature. -/
theorem invalidated_id_restarted :
    let s := State.withUser false true
    let s' := step s (.op 0 (.invalidateAuthenticatorId ⟨2, by decide⟩ .quiet))
    Machine.Along step (Answers ⟨0, 1, 1, true, kCvEngine⟩ 2) s'
      [.restart false, .createSession 0, .op 0 (.setFeature .requireAttention false .quiet),
        .op 0 .getAuthenticatorId] := by
  intro s s'
  have hfile : s.storage.enrollmentFile = some (Enrollment.text ⟨0, 1, 1, true, kCvEngine⟩) := by
    decide +kernel
  have hload : Enrollment.load s.storage.enrollmentFile = .ok ⟨0, 1, 1, true, kCvEngine⟩ := by
    rw [hfile]
    exact Enrollment.load_text (isWord_engine .featureFile)
  have hsession : s.sessions[0]? = some ⟨0, [1]⟩ := by decide +kernel
  have hkept : InvalidationKept ⟨2, by decide⟩ .quiet ⟨0, 1, 1, true, kCvEngine⟩ := .inl rfl
  refine (invalidated_id_reported_iff (State.withUser_reachable false true) hload (by decide)
    hsession rfl).2.mpr hkept _ ⟨?_, ?_, ?_, ?_, trivial⟩
  · rintro i op ⟨⟩
  · rintro i op ⟨⟩
  · rintro i op ⟨⟩ -
    refine ⟨fun _ _ => nofun, fun _ _ => nofun, ?_⟩
    rintro enabled io ⟨⟩
    rfl
  · rintro i op ⟨⟩ -
    exact ⟨fun _ _ => nofun, fun _ _ => nofun, fun _ _ => nofun⟩

end OneplusHal.Face

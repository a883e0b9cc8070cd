import OneplusHal.Face.TemplateStores

/-!
An enrollment is all or nothing, for a session whose user a record can belong to.

The first half follows the challenges of a session through a run: a session knows those
that it generated and has not revoked since. The second half reads off `Enrolling` what
an enrollment leaves in the storage and what it reports last.
-/

namespace OneplusHal.Face

open OneplusHal

/-! ### Challenges -/

/-- Session `i` knows the challenge. -/
def Knows (i : ℕ) (challenge : Int64) (s : State) : Prop :=
  ∃ session, s.sessions[i]? = some session ∧ challenge ∈ session.mChallenges

/-- Session `i` generates the challenge. -/
def Generates (i : ℕ) (challenge : Int64) (s : State) (st : Step) : Prop :=
  s.sessions[i]?.isSome = true ∧ ∃ r, r.value = challenge ∧ st = .op i (.generateChallenge r)

/-- Session `i` revokes the challenge, or ends with its process. -/
def Revokes (i : ℕ) (challenge : Int64) (_ : State) (st : Step) : Prop :=
  st = .op i (.revokeChallenge challenge) ∨ ∃ available, st = .restart available

/-- What an operation makes of its own session. -/
def Op.updated (op : Op) (session : Session) : Session :=
  match op with
  | .generateChallenge r => session.generate r.value
  | .revokeChallenge challenge => session.revoke challenge
  | _ => session

theorem mem_updated {op : Op} {session : Session} {challenge : Int64} :
    challenge ∈ (op.updated session).mChallenges ↔
      (∃ r, r.value = challenge ∧ op = .generateChallenge r) ∨
        (challenge ∈ session.mChallenges ∧ op ≠ .revokeChallenge challenge) := by
  cases op with
  | generateChallenge r =>
      by_cases hr : r.value = challenge
      · simp [Op.updated, Session.generate, hr]
      · simp [Op.updated, Session.generate, hr, Ne.symm hr]
  | revokeChallenge c =>
      simp only [Op.updated, Session.revoke, List.mem_filter]
      grind
  | _ => simp [Op.updated]

theorem sessions_withEnrollment {s : State} {op : Enrollment → State → State}
    (hop : ∀ e, (op e s).sessions = s.sessions) : (s.withEnrollment op).sessions = s.sessions := by
  simp only [State.withEnrollment]
  split
  · rfl
  · exact hop _

theorem Enrolling.sessions {user : Int32} {io : EnrollIO} {s s' : State}
    (h : Enrolling user io s s') : s'.sessions = s.sessions := by
  cases h with
  | terminated load => rfl
  | refused keeps trace => exact keeps.sessions
  | frameless load vacant keeps shrinks trace => exact keeps.sessions
  | failed load vacant keeps failure loop trace => exact keeps.sessions
  | finished load vacant keeps success loop hcaptured trace => exact keeps.sessions

/-- An operation changes its own session alone. -/
theorem sessions_runOp {i : ℕ} {session : Session} (op : Op) {s : State}
    (h : s.sessions[i]? = some session) :
    (runOp i session op s).sessions = s.sessions.set i (op.updated session) := by
  have hsame : s.sessions.set i session = s.sessions := by
    obtain ⟨hi, rfl⟩ := List.getElem?_eq_some_iff.mp h
    exact List.set_getElem_self hi
  cases op with
  | generateChallenge r => rfl
  | revokeChallenge challenge => rfl
  | enroll challenge preview io =>
      exact (doEnroll_enrolling session challenge preview io s).sessions.trans hsame.symm
  | authenticate io =>
      exact (doAuthenticate_attempt session.mUserId io s).keeps.sessions.trans hsame.symm
  | removeEnrollments ids io =>
      refine (sessions_withEnrollment fun e => ?_).trans hsame.symm
      have hkeeps := removeFeature_keeps io.feature s
      simp only [removeWith]
      split
      · rfl
      · split <;> exact hkeeps.sessions
  | getFeatures =>
      refine (sessions_withEnrollment fun e => ?_).trans hsame.symm
      simp only [getFeaturesWith]
      split <;> rfl
  | setFeature feature enabled io =>
      refine (sessions_withEnrollment fun e => ?_).trans hsame.symm
      simp only [setFeatureWith]
      split
      · rfl
      · split <;> rfl
  | invalidateAuthenticatorId r io =>
      refine (sessions_withEnrollment fun e => ?_).trans hsame.symm
      simp only [invalidateWith]
      split <;> rfl
  | enumerateEnrollments => exact (sessions_withEnrollment fun e => rfl).trans hsame.symm
  | getAuthenticatorId => exact (sessions_withEnrollment fun e => rfl).trans hsame.symm
  | _ => exact hsame.symm

theorem knows_congr {i : ℕ} {challenge : Int64} {s s' : State}
    (h : s'.sessions[i]? = s.sessions[i]?) : Knows i challenge s' ↔ Knows i challenge s := by
  simp only [Knows, h]

theorem knows_step (s : State) (st : Step) (i : ℕ) (challenge : Int64) :
    Knows i challenge (step s st) ↔
      Generates i challenge s st ∨ (Knows i challenge s ∧ ¬Revokes i challenge s st) := by
  -- a step that says nothing about the challenges of session `i`
  have hother (hsession : (step s st).sessions[i]? = s.sessions[i]?)
      (hgenerates : ¬Generates i challenge s st)
      (hrevokes : Knows i challenge s → ¬Revokes i challenge s st) :
      Knows i challenge (step s st) ↔
        Generates i challenge s st ∨ (Knows i challenge s ∧ ¬Revokes i challenge s st) := by
    rw [knows_congr hsession]
    simpa [hgenerates] using hrevokes
  cases st with
  | createSession user =>
      have hnew : (step s (.createSession user)).sessions = s.sessions ++ [⟨user, []⟩] := rfl
      obtain hlt | hge := lt_or_ge i s.sessions.length
      · refine hother ?_ (by simp [Generates]) (by simp [Revokes])
        rw [hnew, List.getElem?_append_left hlt]
      · have hnone : s.sessions[i]? = none := List.getElem?_eq_none hge
        have hempty : ¬Knows i challenge (step s (.createSession user)) := by
          rintro ⟨session, hsession, hmem⟩
          rw [hnew, List.getElem?_append_right hge] at hsession
          have hsession' := List.mem_of_getElem? hsession
          rw [List.mem_singleton.mp hsession'] at hmem
          simp at hmem
        apply iff_of_false hempty
        simp [Generates, Knows, hnone]
  | setTeeProperty tee => exact hother rfl (by simp [Generates]) (by simp [Revokes])
  | wait elapsed => exact hother rfl (by simp [Generates]) (by simp [Revokes])
  | restart available =>
      have hempty : ¬Knows i challenge (step s (.restart available)) := by
        rintro ⟨session, hsession, -⟩
        simp [step, State.restarted] at hsession
      simp [hempty, Generates, Revokes]
  | op j op =>
      cases hsession : s.sessions[j]? with
      | none =>
          have hstep : step s (.op j op) = s.begin := by simp only [step, hsession]
          refine hother (by rw [hstep]; rfl) ?_ ?_
          · rintro ⟨hsome, r, -, hop⟩
            cases hop
            simp [hsession] at hsome
          · rintro ⟨session, hi, -⟩ (hop | ⟨available, hop⟩)
            · cases hop
              simp [hsession] at hi
            · simp at hop
      | some session =>
          have hsessions : (step s (.op j op)).sessions =
              s.sessions.set j (op.updated session) := by
            simp only [step, hsession]
            exact sessions_runOp op (s := s.begin) hsession
          by_cases hij : i = j
          · subst hij
            obtain ⟨hi, -⟩ := List.getElem?_eq_some_iff.mp hsession
            have hupdated : (step s (.op i op)).sessions[i]? = some (op.updated session) := by
              rw [hsessions, List.getElem?_set_self hi]
            simp only [Knows, hupdated, hsession, Generates, Revokes]
            simp [mem_updated]
          · refine hother ?_ ?_ ?_
            · rw [hsessions, List.getElem?_set_ne (Ne.symm hij)]
            · rintro ⟨-, r, -, hop⟩
              cases hop
              exact hij rfl
            · rintro - (hop | ⟨available, hop⟩)
              · cases hop
                exact hij rfl
              · simp at hop

/-- A session knows the challenges that it generated and has not revoked since. -/
theorem knows_run_iff {s₀ : State} (h₀ : s₀.Initial) (sts : List Step) (i : ℕ)
    (challenge : Int64) : Knows i challenge (Machine.run step s₀ sts) ↔
      Machine.SetSince step (Generates i challenge) (Revokes i challenge) s₀ sts := by
  refine Machine.holds_run_iff (fun s st => knows_step s st i challenge) ?_ sts
  obtain ⟨available, tee, now, rfl⟩ := h₀
  rintro ⟨session, hsession, -⟩
  simp [State.restarted] at hsession

/-! ### The two outcomes -/

def EndsInError (s' : State) : Prop := ∃ er, s'.callbacks.getLast? = some (.onError er)

/-- The enrollment is reported, with its record and its template in place. -/
structure EnrollFinished (user : Int32) (io : EnrollIO) (origin : ℕ) (s' : State) : Prop where
  callback : s'.callbacks.getLast? =
    some (.onEnrollmentProgress io.enrollmentId.toEnrollmentId 0)
  record : ∃ r, Enrollment.load s'.storage.enrollmentFile = .ok r ∧ r.userId = user ∧
    r.enrollmentId = io.enrollmentId.toEnrollmentId ∧
      r.authenticatorId = io.authenticatorId.value ∧ r.authenticatorId ≠ 0 ∧
        r.engine = engineName s'
  template : ∃ t ∈ s'.storage.templates s'.currentStore, t.origin = origin

/-- The enrollment reports an error, and there is neither a record nor a template of it. -/
structure EnrollUndone (origin : ℕ) (s' : State) : Prop where
  callback : EndsInError s'
  record : s'.storage.enrollmentFile = none
  template : s'.storage.Lacks origin

theorem getLast?_callbacks {s : State} {before : List Event} {c : Callback}
    (h : s.world.trace = before ++ [.callback c]) : s.callbacks.getLast? = some c := by
  rw [State.callbacks, h, List.filterMap_append]
  simp [Event.callback?]

theorem RandomId.ne_zero (r : RandomId) : r.value ≠ 0 := by
  intro h
  have hpos := r.pos
  rw [h] at hpos
  exact absurd hpos (by decide)

/-- With a record on file an enrollment is refused. -/
theorem Enrolling.refused_of_record {user : Int32} {io : EnrollIO} {s s' : State}
    (h : Enrolling user io s s') (hs : Consistent s) (hfile : s.storage.enrollmentFile ≠ none) :
    EndsInError s' ∧ s'.storage = s.storage := by
  have hoccupied {e : Enrollment} (load : Enrollment.load s.storage.enrollmentFile = .ok e)
      (vacant : e.userId < 0) : False := hfile (hs.noRecord_of_vacant load vacant)
  cases h with
  | terminated load =>
      obtain ⟨hnone, -⟩ | ⟨e, en, -, hload⟩ := hs.load
      · exact absurd hnone hfile
      · simp [hload] at load
  | refused keeps trace => exact ⟨⟨_, getLast?_callbacks trace⟩, keeps.storage⟩
  | frameless load vacant keeps shrinks trace => exact (hoccupied load vacant).elim
  | failed load vacant keeps failure loop trace => exact (hoccupied load vacant).elim
  | finished load vacant keeps success loop hcaptured trace => exact (hoccupied load vacant).elim

theorem FinishedEnroll.template {user : Int32} {e : Enrollment} {io : EnrollIO} {s : State}
    {st : Storage} (h : FinishedEnroll user e io s st) :
    ∃ t ∈ st.templates s.currentStore, t.origin = s.enrolls := by
  cases hst : s.auth.mAvailable with
  | true =>
      obtain ⟨faceId, t, -, hfind, horigin⟩ := h.holds.stAuth hst
      refine ⟨t, ?_, horigin⟩
      rw [State.currentStore, if_pos hst]
      exact StAuthStore.mem_of_find hfind
  | false =>
      obtain ⟨t, ht, horigin⟩ := h.holds.cv hst
      refine ⟨t, ?_, horigin⟩
      rw [ht]
      exact List.mem_singleton_self t

/-- Without a record an enrollment finishes or leaves nothing. -/
theorem Enrolling.finished_or_undone {user : Int32} {io : EnrollIO} {s s' : State}
    (h : Enrolling user io s s') (hs : Consistent s) (hfile : s.storage.enrollmentFile = none)
    (huser : 0 ≤ user) (hclean : CleanUpSucceeds io) :
    EnrollFinished user io s.enrolls s' ∨ EnrollUndone s.enrolls s' := by
  have hlacks {st : Storage} (hst : ∀ store, ∀ t ∈ st.templates store,
      t ∈ s.storage.templates store) : st.Lacks s.enrolls := fun store t ht =>
    ne_of_lt (hs.origins store t (hst store t ht))
  cases h with
  | terminated load =>
      rw [hfile] at load
      simp [Enrollment.load] at load
  | refused keeps trace =>
      refine .inr ⟨⟨_, getLast?_callbacks trace⟩, ?_, ?_⟩
      · rw [keeps.storage, hfile]
      · rw [keeps.storage]
        exact hlacks fun _ _ ht => ht
  | @frameless _ _ _ _ started er load vacant keeps shrinks trace =>
      rw [← List.cons_append, ← List.append_assoc] at trace
      refine .inr ⟨⟨_, getLast?_callbacks trace⟩, ?_, ?_⟩
      · rw [keeps.storage]
        exact shrinks.enrollmentFile.trans hfile
      · rw [keeps.storage]
        exact hlacks fun _ _ ht => shrinks.mem_templates ht
  | @failed _ _ _ t evs _ er load vacant keeps failure loop trace =>
      have hlast : s'.world.trace = s.world.trace ++
          (.cameraStarted t true :: (evs ++ [.cameraStopped])) ++ [.callback (.onError er)] := by
        simpa using trace
      refine .inr ⟨⟨_, getLast?_callbacks hlast⟩, ?_, ?_⟩
      · rw [keeps.storage]
        obtain hsame | hgone := failure.enrollmentFile
        · exact hsame.trans hfile
        · exact hgone
      · rw [keeps.storage]
        exact hlacks (failure.clean hclean)
  | @finished e st _ t evs _ load vacant keeps success loop hcaptured trace =>
      have hlast : s'.world.trace = s.world.trace ++ (.cameraStarted t true :: (evs ++
          [.cameraStopped, .callback (.onEnrollmentFrame .good .enrollmentFinished)])) ++
            [.callback (.onEnrollmentProgress io.enrollmentId.toEnrollmentId 0)] := by
        simpa using trace
      have hrecord : s'.storage.enrollmentFile =
          some (newEnrollment user e io (engineName s)).text := by
        rw [keeps.storage]
        exact success.enrollmentFile.trans (if_neg (Int32.not_lt.mpr huser))
      have hname : engineName s' = engineName s := keeps.engineName
      have hstore : s'.currentStore = s.currentStore := keeps.currentStore
      refine .inl ⟨getLast?_callbacks hlast, ⟨newEnrollment user e io (engineName s), ?_, rfl, rfl,
        rfl, io.authenticatorId.ne_zero, hname.symm⟩, ?_⟩
      · rw [hrecord]
        exact Enrollment.load_text (engineName_eq_engine s ▸ isWord_engine s.currentStore)
      · rw [keeps.storage, hstore]
        exact success.template

/-- An enrollment with a challenge that its session does not know, or while there is a
record, ends in an error and touches nothing. Every other one finishes or leaves nothing
of itself, if its user is one that a record can belong to. -/
theorem enroll_atomic {s₀ : State} (h₀ : s₀.Initial) (sts : List Step) {i : ℕ} {user : Int32}
    {challenge : Int64} {preview : Bool} {io : EnrollIO}
    (hsession : stepUser (Machine.run step s₀ sts) (.op i (.enroll challenge preview io)) =
      some user) :
    let s := Machine.run step s₀ sts
    let s' := step s (.op i (.enroll challenge preview io))
    let known := Machine.SetSince step (Generates i challenge) (Revokes i challenge) s₀ sts
    (¬known ∨ s.storage.enrollmentFile ≠ none → EndsInError s' ∧ s'.storage = s.storage) ∧
      (known ∧ s.storage.enrollmentFile = none → 0 ≤ user → CleanUpSucceeds io →
        EnrollFinished user io s.enrolls s' ∨ EnrollUndone s.enrolls s') := by
  intro s s' known
  have hs : Consistent s.begin :=
    Carries.consistent (Reachable.consistent ⟨s₀, sts, h₀, rfl⟩) (.of_storage rfl rfl le_rfl)
  obtain ⟨session, hi, huser'⟩ := Option.map_eq_some_iff.mp hsession
  have hs' : s' = (doEnroll session challenge preview io s.begin).counted := by
    show step s _ = _
    simp only [step, s, hi]
    rfl
  have henrolling := doEnroll_enrolling session challenge preview io s.begin
  have hknown : known ↔ challenge ∈ session.mChallenges := by
    show Machine.SetSince step _ _ s₀ sts ↔ _
    rw [← knows_run_iff h₀]
    simp [Knows, hi]
  rw [huser'] at henrolling
  constructor
  · rintro (hunknown | hfile)
    · have hrefused : doEnroll session challenge preview io s.begin =
          s.begin.emit (.onError .unableToProcess) := by
        rw [doEnroll, if_pos (hknown.not.mp hunknown)]
      rw [hs', hrefused]
      exact ⟨⟨.unableToProcess, rfl⟩, rfl⟩
    · obtain ⟨herror, hstorage⟩ := henrolling.refused_of_record hs hfile
      rw [hs']
      exact ⟨herror, hstorage⟩
  · rintro ⟨-, hfile⟩ huser hclean
    rw [hs']
    obtain hfinished | hundone := henrolling.finished_or_undone hs hfile huser hclean
    · exact .inl ⟨hfinished.callback, hfinished.record, hfinished.template⟩
    · exact .inr ⟨hundone.callback, hundone.record, hundone.template⟩

theorem cleanUpSucceeds_quiet : CleanUpSucceeds .quiet :=
  ⟨rfl, rfl, .templateNotExist, rfl⟩

/-- The run in which session 0 of `user` has generated challenge 1. -/
def challengeSteps (user : Int32) : List Step :=
  [.createSession user, .op 0 (.generateChallenge .one)]

theorem challengeSteps_known (user : Int32) :
    Machine.SetSince step (Generates 0 1) (Revokes 0 1) (State.new false true)
      (challengeSteps user) :=
  ⟨[.createSession user], .op 0 (.generateChallenge .one), [], rfl, ⟨rfl, .one, rfl, rfl⟩, trivial⟩

theorem enroll_atomic_quiet :
    let s := Machine.run step (State.new false true) (challengeSteps 0)
    let s' := step s (.op 0 (.enroll 1 true .quiet))
    EnrollFinished 0 .quiet s.enrolls s' ∨ EnrollUndone s.enrolls s' := by
  intro s s'
  have hu : stepUser s (.op 0 (.enroll 1 true .quiet)) = some 0 := by decide +kernel
  have hfile : s.storage.enrollmentFile = none := by decide +kernel
  exact (enroll_atomic (State.new_initial false true) (challengeSteps 0) hu).2
    ⟨challengeSteps_known 0, hfile⟩ (by decide) cleanUpSucceeds_quiet

/-- A record of a negative user is no record: the file is deleted, and the enrollment is
reported without one. -/
theorem enroll_without_record :
    let s := Machine.run step (State.new false true) (challengeSteps (-1))
    let s' := step s (.op 0 (.enroll 1 true .quiet))
    Machine.SetSince step (Generates 0 1) (Revokes 0 1) (State.new false true)
        (challengeSteps (-1)) ∧
      s.storage.enrollmentFile = none ∧ CleanUpSucceeds .quiet ∧
        s'.callbacks.getLast? = some (.onEnrollmentProgress 1 0) ∧
          s'.storage.enrollmentFile = none ∧
            ¬(EnrollFinished (-1) .quiet s.enrolls s' ∨ EnrollUndone s.enrolls s') := by
  intro s s'
  have hlast : s'.callbacks.getLast? = some (.onEnrollmentProgress 1 0) := by decide +kernel
  have hfile : s'.storage.enrollmentFile = none := by decide +kernel
  refine ⟨challengeSteps_known (-1), by decide +kernel, cleanUpSucceeds_quiet, hlast, hfile, ?_⟩
  rintro (h | h)
  · obtain ⟨r, hload, -, hid, -⟩ := h.record
    rw [hfile] at hload
    cases hload
    exact absurd hid (by decide)
  · obtain ⟨er, herror⟩ := h.callback
    rw [hlast] at herror
    simp at herror

end OneplusHal.Face

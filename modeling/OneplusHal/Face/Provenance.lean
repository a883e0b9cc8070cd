import OneplusHal.Face.TemplateStores

/-!
Where the record on file comes from.

The ghost `enrolled` names one enroll operation. It is the one that made the record: the
last one to report an enrollment as finished, and the one whose enrollment id and user
the record shows, whatever was rewritten since.
-/

namespace OneplusHal.Face

open OneplusHal

/-- The step reports an enrollment as finished. -/
def Finishes (s : State) (st : Step) (id : Int32) : Prop :=
  .onEnrollmentProgress id 0 ∈ (step s st).callbacks

/-- The step reports `e` as enrolled. It is enroll operation `en.origin`, and the store in
use is `en.store`. -/
def Makes (e : Enrollment) (en : Enrolled) (s : State) (st : Step) : Prop :=
  (∃ i challenge preview io, st = .op i (.enroll challenge preview io)) ∧
    stepUser s st = some e.userId ∧ Finishes s st e.enrollmentId ∧ s.enrolls = en.origin ∧
      s.currentStore = en.store

/-- In the run from `s₀` over `sts`, the last enrollment to finish was `e`. -/
def Created (s₀ : State) (sts : List Step) (e : Enrollment) (en : Enrolled) : Prop :=
  Machine.SetSince step (Makes e en) (fun s st => ∃ id, Finishes s st id) s₀ sts

theorem Created.unique {s₀ : State} {sts : List Step} {e e' : Enrollment} {en en' : Enrolled}
    (h : Created s₀ sts e en) (h' : Created s₀ sts e' en') : en = en' := by
  have hfinishes (e : Enrollment) (en : Enrolled) (s : State) (st : Step)
      (hmakes : Makes e en s st) : ∃ id, Finishes s st id := ⟨_, hmakes.2.2.1⟩
  obtain ⟨js, st, ⟨-, -, -, horigin, hstore⟩, -, -, -, horigin', hstore'⟩ :=
    Machine.SetSince.unique (hfinishes e en) (hfinishes e' en') h h'
  cases en
  cases en'
  rw [Enrolled.mk.injEq]
  exact ⟨horigin.symm.trans horigin', hstore.symm.trans hstore'⟩

theorem Answered.no_progress {s s' : State} (h : Answered s s') (hs : s.world.trace = [])
    (id : Int32) (remaining : Int) : .onEnrollmentProgress id remaining ∉ s'.callbacks :=
  fun hmem => Bool.false_ne_true (h.isAnswer hs hmem)

theorem Attempt.no_progress {user : Int32} {io : AuthenticateIO} {s s' : State}
    (h : Attempt user io s s')
    (hs : s.world.trace = []) (id : Int32) (remaining : Int) :
    .onEnrollmentProgress id remaining ∉ s'.callbacks := by
  rw [mem_callbacks]
  cases h with
  | terminated load => simp [State.terminate, World.log, hs]
  | refused keeps refusal trace =>
      obtain rfl | ⟨ms, rfl⟩ | ⟨er, rfl⟩ := refusal <;> simp [trace, hs]
  | @frameless _ _ _ started _ load admitted keeps trace => cases started <;> simp [trace, hs]
  | @ran e s₁ s₂ evs matched compared error failElapsed load admitted keeps trace loop =>
      obtain ⟨cs, htrace, -, hprogress⟩ :=
        (conclude_conclusion s₂ user e.enrollmentId failElapsed matched compared error).trace
      have hloop : .callback (.onEnrollmentProgress id remaining) ∉ evs := fun hc => by
        simpa using loop.reports _ hc
      rw [htrace, trace, hs]
      simp [hloop, hprogress id remaining]

/-- The record of a state in which nothing new was recorded was there before. -/
theorem Carries.recorded {s s' : State} {e : Enrollment} {en : Enrolled} (h : Carries s s')
    (hs : Consistent s) (hrecord : Recorded s' e en) :
    ∃ e₀, Recorded s e₀ en ∧ e₀.userId = e.userId ∧ e₀.enrollmentId = e.enrollmentId := by
  have hfile := hrecord.file
  have hsame {e₀ : Enrollment} {en₀ : Enrolled} (hrecord₀ : Recorded s e₀ en₀) : en₀ = en := by
    have henrolled := hrecord₀.enrolled
    rw [← h.enrolled, hrecord.enrolled] at henrolled
    exact (Option.some.inj henrolled).symm
  cases h.record with
  | gone hnone => simp [hnone] at hfile
  | same hkept =>
      have hload : Enrollment.load s.storage.enrollmentFile = .ok e := hkept ▸ hrecord.load
      obtain ⟨en₀, hrecord₀⟩ := hs.recorded hload hrecord.userId
      exact ⟨e, hsame hrecord₀ ▸ hrecord₀, rfl, rfl⟩
  | @rewritten e₀ e' hload henrolled huser hid hengine hkept =>
      obtain ⟨en₀, hrecord₀⟩ := hs.recorded hload henrolled
      have hload' : Enrollment.load s'.storage.enrollmentFile = .ok e' := by
        rw [hkept]
        exact Enrollment.load_text (hengine ▸ hrecord₀.engine ▸ isWord_engine en₀.store)
      rw [hrecord.load] at hload'
      cases hload'
      exact ⟨e₀, hsame hrecord₀ ▸ hrecord₀, huser.symm, hid.symm⟩

/-- What a record after an enroll operation says: it was there before, or the operation has
just made it. -/
theorem Enrolling.recorded {user : Int32} {io : EnrollIO} {s s' : State} {e : Enrollment}
    {en : Enrolled} (h : Enrolling user io s s') (hs : Consistent s) (htrace : s.world.trace = [])
    (hrecord : Recorded s'.counted e en) :
    (Carries s s'.counted ∧
      ∀ id, .callback (.onEnrollmentProgress id 0) ∉ s'.world.trace) ∨
      (user = e.userId ∧ .callback (.onEnrollmentProgress e.enrollmentId 0) ∈ s'.world.trace ∧
        s.enrolls = en.origin ∧ s.currentStore = en.store) := by
  have hfile : s'.storage.enrollmentFile = some e.text := hrecord.file
  cases h with
  | terminated load =>
      refine .inl ⟨.of_storage rfl rfl (Nat.le_succ _), ?_⟩
      simp [State.terminate, World.log, htrace]
  | refused keeps trace =>
      refine .inl ⟨.of_storage keeps.storage keeps.enrolled ?_, ?_⟩
      · exact keeps.enrolls.ge.trans (Nat.le_succ _)
      · simp [trace, htrace]
  | @frameless _ _ _ _ started _ load vacant keeps shrinks trace =>
      refine .inl ⟨.of_shrinks (keeps.storage ▸ shrinks) keeps.enrolled ?_, ?_⟩
      · exact keeps.enrolls.ge.trans (Nat.le_succ _)
      · cases started <;> simp [trace, htrace]
  | failed load vacant keeps failure loop trace =>
      have hnone := hs.noRecord_of_vacant load vacant
      rw [keeps.storage] at hfile
      obtain hsame | hgone := failure.enrollmentFile
      · rw [hsame, hnone] at hfile
        cases hfile
      · rw [hgone] at hfile
        cases hfile
  | @finished e' st _ _ _ _ load vacant keeps success loop hcaptured trace =>
      have hstorage : s'.storage = st := keeps.storage
      have hnew := success.enrollmentFile
      rw [← hstorage, hfile] at hnew
      by_cases huser : user < 0
      · rw [if_pos huser] at hnew
        cases hnew
      rw [if_neg huser] at hnew
      -- Reading the new record back gives the one record there is.
      have hload := hrecord.load
      have hengine : (newEnrollment user e' io (engineName s)).engine = s.currentStore.engine :=
        engineName_eq_engine s
      rw [hrecord.file, hnew, Enrollment.load_text (hengine ▸ isWord_engine _)] at hload
      have he : newEnrollment user e' io (engineName s) = e := Except.ok.inj hload
      have hen : some (⟨s.enrolls, s.currentStore⟩ : Enrolled) = some en :=
        keeps.enrolled.symm.trans hrecord.enrolled
      obtain rfl := Option.some.inj hen
      refine .inr ⟨he ▸ rfl, ?_, rfl, rfl⟩
      rw [trace, ← he]
      simp [newEnrollment]

theorem runOp_recorded {i : ℕ} {session : Session} {op : Op} {s : State} {e : Enrollment}
    {en : Enrolled} (hs : Consistent s) (htrace : s.world.trace = [])
    (hrecord : Recorded (runOp i session op s) e en) :
    (Carries s (runOp i session op s) ∧
      ∀ id, .onEnrollmentProgress id 0 ∉ (runOp i session op s).callbacks) ∨
      (∃ challenge preview io, op = .enroll challenge preview io) ∧ session.mUserId = e.userId ∧
        .onEnrollmentProgress e.enrollmentId 0 ∈ (runOp i session op s).callbacks ∧
          s.enrolls = en.origin ∧ s.currentStore = en.store := by
  by_cases hplain : op.IsPlain
  · refine .inl ⟨runOp_carries hplain.1 i session s, fun id => ?_⟩
    exact (runOp_answered hplain i session s).no_progress htrace id 0
  cases op with
  | enroll challenge preview io =>
      have henrolling := doEnroll_enrolling session challenge preview io s
      simp only [mem_callbacks]
      obtain hkept | hmade := henrolling.recorded hs htrace hrecord
      · exact .inl hkept
      · exact .inr ⟨⟨challenge, preview, io, rfl⟩, hmade⟩
  | authenticate io =>
      refine .inl ⟨runOp_carries (by rintro _ _ _ ⟨⟩) i session s, fun id => ?_⟩
      exact (doAuthenticate_attempt session.mUserId io s).no_progress htrace id 0
  | resetLockout =>
      refine .inl ⟨.of_storage rfl rfl le_rfl, fun id hid => ?_⟩
      have hcallbacks : (runOp i session .resetLockout s).callbacks = [.onLockoutCleared] :=
        callbacks_emit htrace _
      rw [hcallbacks] at hid
      simp at hid
  | _ => exact absurd ⟨by simp, by simp, by simp⟩ hplain

/-- A record after a step has just been made by it, or was there before it. -/
theorem Recorded.of_step {s : State} {st : Step} {e : Enrollment} {en : Enrolled}
    (hs : Consistent s) (h : Recorded (step s st) e en) :
    Makes e en s st ∨
      (∃ e₀, Recorded s e₀ en ∧ e₀.userId = e.userId ∧ e₀.enrollmentId = e.enrollmentId) ∧
        ¬∃ id, Finishes s st id := by
  have hsilent (hcarries : Carries s (step s st)) (htrace : (step s st).world.trace = []) :
      (∃ e₀, Recorded s e₀ en ∧ e₀.userId = e.userId ∧ e₀.enrollmentId = e.enrollmentId) ∧
        ¬∃ id, Finishes s st id := by
    refine ⟨hcarries.recorded hs h, ?_⟩
    rintro ⟨id, hid⟩
    rw [Finishes, mem_callbacks, htrace] at hid
    cases hid
  cases st with
  | op i op =>
      cases hsession : s.sessions[i]? with
      | none =>
          have hstep : step s (.op i op) = s.begin := by simp only [step, hsession]
          exact .inr (hsilent (hstep ▸ .of_storage rfl rfl le_rfl) (hstep ▸ rfl))
      | some session =>
          have hstep : step s (.op i op) = runOp i session op s.begin := by
            simp only [step, hsession]
          have hbegin : Consistent s.begin := Carries.consistent hs (.of_storage rfl rfl le_rfl)
          simp only [Makes, Finishes, hstep] at h ⊢
          obtain ⟨hcarries, hquiet⟩ | ⟨⟨challenge, preview, io, rfl⟩, huser, hmade⟩ :=
            runOp_recorded hbegin rfl h
          · refine .inr ⟨Carries.recorded ?_ hs h, not_exists.mpr hquiet⟩
            exact ⟨hcarries.templates, hcarries.reference, hcarries.record, hcarries.enrolled,
              hcarries.enrolls⟩
          · refine .inl ⟨⟨i, challenge, preview, io, rfl⟩, ?_, hmade⟩
            rw [stepUser, hsession, Option.map_some, huser]
  | _ => exact .inr (hsilent (.of_storage rfl rfl le_rfl) rfl)

/-- The record of every reachable state is that of the last enrollment to finish. -/
theorem Recorded.created {s₀ : State} (h₀ : s₀.Initial) {sts : List Step} {e : Enrollment}
    {en : Enrolled} (h : Recorded (Machine.run step s₀ sts) e en) : Created s₀ sts e en := by
  induction sts using List.reverseRecOn generalizing e with
  | nil =>
      obtain ⟨available, tee, now, rfl⟩ := h₀
      cases h.file
  | append_singleton sts st ih =>
      have hs : Consistent (Machine.run step s₀ sts) := Reachable.consistent ⟨s₀, sts, h₀, rfl⟩
      rw [Created, Machine.setSince_append_singleton]
      rw [Machine.run_append, Machine.run_cons, Machine.run_nil] at h
      obtain hmakes | ⟨⟨e₀, hrecord, huser, hid⟩, hquiet⟩ := h.of_step hs
      · exact .inl hmakes
      · refine .inr ⟨(ih hrecord).mono fun s st hmakes => ?_, hquiet⟩
        rwa [Makes, huser, hid] at hmakes

end OneplusHal.Face

import OneplusHal.Face.Provenance

/-!
Whose template a successful authentication matched.

The engine recorded with an enrollment tells the two directories of st_auth apart, but
not the TEE slot and the feature file of the cv engine. After the tee property has
changed, the cv engine matches whatever the other of these two still holds.
-/

namespace OneplusHal.Face

open OneplusHal

/-- What a success says about the record and the template. -/
structure Success (s : State) (user id : Int32) (trace : List Event) (e : Enrollment) : Prop where
  load : Enrollment.load s.storage.enrollmentFile = .ok e
  enrollmentId : e.enrollmentId = id
  userId : e.userId = user
  engine : e.engine = engineName s
  accepted : ∃ f t, .accepted f t ∈ trace
  reference : ∀ f t, .accepted f t ∈ trace → s.reference = some t

theorem Attempt.success {user id : Int32} {io : AuthenticateIO} {s s' : State}
    (h : Attempt user io s s')
    (hs : s.world.trace = []) (hid : .onAuthenticationSucceeded id ∈ s'.callbacks) :
    ∃ e, Success s user id s'.world.trace e := by
  rw [mem_callbacks] at hid
  cases h with
  | terminated load => simp [State.terminate, World.log, hs] at hid
  | refused keeps refusal trace =>
      obtain rfl | ⟨ms, rfl⟩ | ⟨er, rfl⟩ := refusal <;> simp [trace, hs] at hid
  | @frameless _ _ _ started _ load admitted keeps trace =>
      cases started <;> simp [trace, hs] at hid
  | @ran e s₁ s₂ evs matched compared error failElapsed load admitted keeps trace loop =>
      obtain ⟨cs, htrace, hsucceeded, -⟩ :=
        (conclude_conclusion s₂ user e.enrollmentId failElapsed matched compared error).trace
      have hcallback : .callback (.onAuthenticationSucceeded id) ∉ evs := fun hc => by
        simpa using loop.reports _ hc
      rw [htrace, trace, hs] at hid ⊢
      have hid' : .onAuthenticationSucceeded id ∈ cs := by simpa [hcallback] using hid
      obtain ⟨hmatched, rfl⟩ := hsucceeded id hid'
      obtain ⟨f, t, ht⟩ := loop.matched_iff.mp hmatched
      refine ⟨e, load, rfl, admitted.userId, admitted.engine, ⟨f, t, by simp [ht]⟩, ?_⟩
      intro f t ht
      exact loop.reference f t (.inr (by simpa using ht))

/-- The accepted frames were compared against the template of `en`. -/
def MatchedFor (en : Enrolled) (trace : List Event) : Prop :=
  (∃ f t, .accepted f t ∈ trace) ∧ ∀ f t, .accepted f t ∈ trace → t.origin = en.origin

/-- A success matched the enrolled template exactly if the store in use is the one that
this template was written to. -/
theorem Success.matchedFor_iff {s : State} {user id : Int32} {trace : List Event}
    {e : Enrollment} {en : Enrolled} (h : Success s user id trace e) (hrecord : Recorded s e en) :
    MatchedFor en trace ↔ s.currentStore = en.store := by
  have hreference (f : Fetch) (t : Template) (ht : .accepted f t ∈ trace) :
      s.storage.reference s.currentStore = some t :=
    (reference_eq s).symm.trans (h.reference f t ht)
  constructor
  · rintro ⟨⟨f, t, ht⟩, horigin⟩
    exact hrecord.only _ t (Storage.mem_of_reference (hreference f t ht)) (horigin f t ht)
  · intro hstore
    refine ⟨h.accepted, fun f t ht => hrecord.genuine t ?_⟩
    rw [← hstore]
    exact hreference f t ht

/-- If `user` is enrolled with the engine in use, the store in use is the one that the
template was written to. -/
def StoreKept (s : State) (user : Int32) : Prop :=
  ∀ e, Enrollment.load s.storage.enrollmentFile = .ok e → e.userId = user →
    e.engine = engineName s → ∃ en, s.enrolled = some en ∧ s.currentStore = en.store

/-- On st_auth it always is: the record tells the two directories apart. -/
theorem storeKept_of_stAuth {s : State} (h : Consistent s) (hst : s.auth.mAvailable = true)
    (user : Int32) : StoreKept s user := by
  intro e load huser hengine
  rw [engineName_eq_engine] at hengine
  obtain ⟨en, hrecord⟩ := h.recorded_of_engine load hengine
  have hcurrent : s.currentStore = .stAuth s.auth.mUseTee := by
    simp [State.currentStore, hst]
  refine ⟨en, hrecord.enrolled, ?_⟩
  rw [hcurrent] at hengine ⊢
  exact (StoreId.engine_injOn (hrecord.engine.symm.trans hengine)).symm

/-- A success is about the enrollment on record. -/
theorem step_success {s : State} (hs : Consistent s) {i : ℕ} {io : AuthenticateIO} {id : Int32}
    (hid : .onAuthenticationSucceeded id ∈ (step s (.op i (.authenticate io))).callbacks) :
    ∃ e en, stepUser s (.op i (.authenticate io)) = some e.userId ∧
      Success s e.userId id (step s (.op i (.authenticate io))).world.trace e ∧
        Recorded s e en := by
  cases hu : stepUser s (.op i (.authenticate io)) with
  | none =>
      have hsession : s.sessions[i]? = none := Option.map_eq_none_iff.mp hu
      simp only [step, hsession] at hid
      exact absurd hid (by simp [mem_callbacks, State.begin])
  | some user =>
      obtain ⟨session, rfl, hstep⟩ := step_of_stepUser hu
      rw [hstep] at hid ⊢
      obtain ⟨e, hsuccess⟩ :=
        (doAuthenticate_attempt session.mUserId io s.begin).success rfl hid
      have huser : e.userId = session.mUserId := hsuccess.userId
      obtain ⟨en, hrecord⟩ := hs.recorded_of_engine hsuccess.load
        (hsuccess.engine.trans (engineName_eq_engine s))
      refine ⟨e, en, by rw [huser], ?_, hrecord⟩
      exact ⟨hsuccess.load, hsuccess.enrollmentId, rfl, hsuccess.engine, hsuccess.accepted,
        hsuccess.reference⟩

/-- The authentications of the run are of users whose store is kept. -/
def KeepsStore (s : State) (st : Step) : Prop :=
  ∀ i io user, st = .op i (.authenticate io) → stepUser s st = some user → StoreKept s user

/-- The success reported for `id` is about the user's own enrollment `e`, and the frame was
compared against the template that its enroll operation stored. -/
def MatchesOwn (s₀ : State) (sts : List Step) (st : Step) (id : Int32) : Prop :=
  let s := Machine.run step s₀ sts
  ∃ e en, e.enrollmentId = id ∧ stepUser s st = some e.userId ∧ Created s₀ sts e en ∧
    MatchedFor en (step s st).world.trace

/-- After any run, a success matched the template of the enrollment it reports exactly if the
store in use is still the one this template was written to. So it is in every run that
authenticates on that store alone. -/
theorem authenticated_iff {s₀ : State} (h₀ : s₀.Initial) (sts : List Step) :
    (∀ i io id,
      let s := Machine.run step s₀ sts
      let st : Step := .op i (.authenticate io)
      .onAuthenticationSucceeded id ∈ (step s st).callbacks →
        ∃ en, s.enrolled = some en ∧ (MatchesOwn s₀ sts st id ↔ s.currentStore = en.store)) ∧
      (Machine.Along step KeepsStore s₀ sts → ∀ before i io after id,
        sts = before ++ .op i (.authenticate io) :: after →
          .onAuthenticationSucceeded id ∈
              (step (Machine.run step s₀ before) (.op i (.authenticate io))).callbacks →
            MatchesOwn s₀ before (.op i (.authenticate io)) id) := by
  have hconsistent (sts : List Step) : Consistent (Machine.run step s₀ sts) :=
    Reachable.consistent ⟨s₀, sts, h₀, rfl⟩
  constructor
  · intro i io id s st hid
    obtain ⟨e, en, hu, hsuccess, hrecord⟩ := step_success (hconsistent sts) hid
    refine ⟨en, hrecord.enrolled, ?_, fun hstore => ?_⟩
    · rintro ⟨e', en', -, -, hcreated, hmatched⟩
      rw [hcreated.unique (hrecord.created h₀)] at hmatched
      exact (hsuccess.matchedFor_iff hrecord).mp hmatched
    · exact ⟨e, en, hsuccess.enrollmentId, hu, hrecord.created h₀,
        (hsuccess.matchedFor_iff hrecord).mpr hstore⟩
  · rintro hkeeps before i io after id rfl hid
    obtain ⟨e, en, hu, hsuccess, hrecord⟩ := step_success (hconsistent before) hid
    have hkept := ((Machine.along_append _ _ _ _).mp hkeeps).2.1 i io e.userId rfl hu
    obtain ⟨en', henrolled, hstore⟩ := hkept e hsuccess.load rfl hsuccess.engine
    obtain rfl : en' = en := Option.some.inj (henrolled.symm.trans hrecord.enrolled)
    exact ⟨e, en', hsuccess.enrollmentId, hu, hrecord.created h₀,
      (hsuccess.matchedFor_iff hrecord).mpr hstore⟩

/-- A user whose template is where it was written to is matched against it. -/
theorem matchedFor_withUser :
    MatchesOwn (.new false true) (.createSession 0 :: enrollSteps 0)
      (.op 0 (.authenticate .quiet)) 1 := by
  have hid : .onAuthenticationSucceeded 1 ∈
      (step (State.withUser false true) (.op 0 (.authenticate .quiet))).callbacks := by
    decide +kernel
  obtain ⟨en, henrolled, hmatches⟩ := (authenticated_iff (State.new_initial false true)
    (.createSession 0 :: enrollSteps 0)).1 0 .quiet 1 hid
  have hen : (State.withUser false true).enrolled = some ⟨0, .teeSlot⟩ := by decide +kernel
  cases hen.symm.trans henrolled
  have hstore : (State.withUser false true).currentStore = .teeSlot := by decide +kernel
  exact hmatches.mpr hstore

/-- User 0 enrolls with the TEE and is removed while the property is off, which leaves the
template in the TEE. User 1 enrolls then, and with the property on again the face of
user 0 passes for user 1. -/
theorem stale_template_matches :
    let s₀ := State.new false true
    let sts := [.createSession 0, .createSession 1] ++ enrollSteps 0 ++
      [.setTeeProperty false, .op 0 (.removeEnrollments [1] .quiet)] ++ enrollSteps 1 ++
        [.setTeeProperty true]
    let auth : Step := .op 1 (.authenticate .quiet)
    s₀.Initial ∧ .onAuthenticationSucceeded 1 ∈ (step (Machine.run step s₀ sts) auth).callbacks ∧
      ¬MatchesOwn s₀ sts auth 1 := by
  intro s₀ sts auth
  have h₀ : s₀.Initial := State.new_initial false true
  have hstale : ((step (Machine.run step s₀ sts) auth).world.trace.any fun
      | .accepted _ t => decide (t.origin ≠ 1)
      | _ => false) = true := by decide +kernel
  refine ⟨h₀, by decide +kernel, ?_⟩
  rintro ⟨e, en, -, -, hcreated, -, hmatched⟩
  have hconsistent : Consistent (Machine.run step s₀ sts) := Reachable.consistent ⟨s₀, sts, h₀, rfl⟩
  obtain rfl : en = ⟨1, .featureFile⟩ := by
    obtain hnone | ⟨e', en', hrecord⟩ := hconsistent.record
    · exact absurd hnone (by decide +kernel)
    · have henrolled : (Machine.run step s₀ sts).enrolled = some ⟨1, .featureFile⟩ := by
        decide +kernel
      cases henrolled.symm.trans hrecord.enrolled
      exact hcreated.unique (hrecord.created h₀)
  obtain ⟨ev, hev, horigin⟩ := List.any_eq_true.mp hstale
  split at horigin
  · exact of_decide_eq_true horigin (hmatched _ _ hev)
  · simp at horigin

end OneplusHal.Face

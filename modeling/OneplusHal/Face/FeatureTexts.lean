import OneplusHal.Face.Lockout
import OneplusHal.Face.TemplateStores
import OneplusHal.Lib.Bytes

/-!
The features that the cv engine compares.

The SDK writes a feature as a text, and the text waits in a file or with the trusted app until an
authentication reads it back, in another process perhaps. What is read back is, to the byte, what
was extracted, and the string that the SDK is handed ends in its buffer.
-/

namespace OneplusHal.Face

open OneplusHal OneplusHal.Bytes

/-- The SDK serializes the feature of the frame as the comment in `extractFeature` has it. -/
def CvFrame.Serializes (a : CvFrame) : Prop :=
  ∀ f, a.getFeature.out = some f →
    ∃ bytes, bytes.length = f.length ∧ f.serializeFeature.out = some (base64 bytes ++ [0])

/-- The feature that the SDK finds in the frame. -/
def CvFrame.Shows (a : CvFrame) (bytes : List UInt8) : Prop :=
  ∃ f, a.getFeature = ⟨0, some f⟩ ∧ bytes.length = f.length ∧
    f.serializeFeature.out = some (base64 bytes ++ [0])

/-- The buffer is, to the byte, the text of the feature, and the string at its front ends in it
and reads as the feature. -/
structure Spells (buffer bytes : List UInt8) : Prop where
  text : buffer = base64 bytes ++ [0]
  reads : (cString buffer).bind unbase64 = some bytes

theorem CvFrame.Serializes.text {a : CvFrame} (h : a.Serializes) (hne : extractFeature a ≠ []) :
    ∃ bytes, a.Shows bytes ∧ extractFeature a = base64 bytes ++ [0] := by
  rw [extractFeature] at hne ⊢
  by_cases hret : a.getFeature.ret = 0
  · rw [if_neg (not_not.mpr hret)] at hne ⊢
    cases hout : a.getFeature.out with
    | none =>
        rw [hout] at hne
        exact absurd rfl hne
    | some f =>
        obtain ⟨bytes, hlength, htext⟩ := h f hout
        have hsize : serializedSize f.length = (base64 bytes ++ [0]).length := by
          rw [List.length_append, length_base64, hlength]
          rfl
        refine ⟨bytes, ⟨f, by rw [← hret, ← hout], hlength, htext⟩, ?_⟩
        simp only [serialized, htext, Option.getD_some, hsize]
        refine List.ext_getElem (by simp) fun i _ hi => ?_
        rw [List.getElem_map, List.getElem_range, List.getD_eq_getElem?_getD,
          List.getElem?_eq_getElem hi, Option.getD_some]
  · rw [if_pos hret] at hne
    exact absurd rfl hne

theorem CvFrame.Serializes.spells {a : CvFrame} (h : a.Serializes) (hne : extractFeature a ≠ []) :
    ∃ bytes, a.Shows bytes ∧ Spells (extractFeature a) bytes := by
  obtain ⟨bytes, hshows, htext⟩ := h.text hne
  refine ⟨bytes, hshows, htext, ?_⟩
  rw [htext, cString_append_nul (nul_notMem_base64 bytes), Option.bind_some, unbase64_base64]

/-! ### What an enrollment stores -/

/-- A store of the cv engine. -/
def StoreId.IsCv : StoreId → Prop
  | .stAuth _ => False
  | _ => True

theorem feature_enrollFrame (orientation : FaceOrientation) (enrollmentId : Int32) (f : Fetch)
    (nv21 : Nv21) (a : CvFrame) (p : World × EnrollLocals) :
    let x := (enrollFrame orientation enrollmentId f nv21 a p).2.2
    x.feature = p.2.feature ∨ x.feature = extractFeature a := by
  simp only [enrollFrame]
  split
  · exact .inl rfl
  · split_ifs
    all_goals first | exact .inl rfl | exact .inr rfl

theorem feature_whileFrames (deadline : Time) (orientation : FaceOrientation)
    (enrollmentId : Int32) (calls : List (Call CvFrame)) (w : World) :
    let x := (whileFrames deadline (enrollFrame orientation enrollmentId) calls (w, {})).2
    x.feature = [] ∨ ∃ c ∈ calls, x.feature = extractFeature c.answers := by
  refine Loop.foldUntil_of_mem (I := fun p : World × EnrollLocals =>
    p.2.feature = [] ∨ ∃ c ∈ calls, p.2.feature = extractFeature c.answers) ?_ ?_ (.inl rfl)
  · intro c hc p hp
    simp only [frameStep]
    split
    · exact hp
    · rename_i nv21 _
      obtain h | h := feature_enrollFrame orientation enrollmentId
        ((p.1.pass c.before).fetch deadline) nv21 c.answers
        (((p.1.pass c.before).nextFrame deadline c.waits).2, p.2)
      · rw [h]
        exact hp
      · exact .inr ⟨c, hc, h⟩
  · exact fun p hp => hp

theorem concludeEnroll_templates {s : State} (hcv : s.auth.mAvailable = false) {user : Int32}
    {e : Enrollment} {io : EnrollIO} {feature : List UInt8} {nv21 : Nv21} {store : StoreId}
    {t : Template}
    (ht : t ∈ (s.concludeEnroll user e io feature nv21).storage.templates store) :
    t ∈ s.storage.templates store ∨ t.feature = feature ∧ feature ≠ [] := by
  simp only [State.concludeEnroll] at ht
  split at ht
  · exact .inl ht
  rename_i hfeature
  set new : Template := ⟨feature, s.enrolls⟩
  obtain ⟨hfail, hok⟩ := storeFeature_stored hcv io.store new nv21
  generalize storeFeature io.store new nv21 s = stored at *
  split at ht
  · rename_i hstored
    exact .inl ((hfail (by simpa using hstored)).mem_templates ht)
  rename_i hstored
  obtain ⟨hwithin, honly⟩ := hok (by simpa using hstored)
  have hnew (ht : t ∈ stored.2.storage.templates store) :
      t ∈ s.storage.templates store ∨ t.feature = feature ∧ feature ≠ [] := by
    obtain hold | ⟨rfl, -⟩ := hwithin.templates store t ht
    · exact .inl hold
    · rw [honly, List.mem_singleton] at ht
      exact .inr ⟨by rw [ht], hfeature⟩
  split at ht
  · refine hnew ?_
    have hshrinks := (removeFeature_removed io.undo { stored.2 with
      storage := { stored.2.storage with enrollmentFile := _ } }).shrinks.mem_templates ht
    simpa using hshrinks
  · exact hnew (by simpa [finishEnroll] using ht)

theorem doEnrollCv_templates {s : State} (hcv : s.auth.mAvailable = false) {user : Int32}
    {preview : Bool} {e : Enrollment} {io : EnrollIO} {store : StoreId} {t : Template}
    (ht : t ∈ (doEnrollCv user preview e io s).storage.templates store) :
    t ∈ s.storage.templates store ∨
      ∃ c ∈ io.cv, t.feature = extractFeature c.answers ∧ t.feature ≠ [] := by
  simp only [doEnrollCv] at ht
  split at ht
  · exact .inl ht
  set w := (s.world.startCamera preview io.start).2.tick io.startElapsed
  have hfeature := feature_whileFrames (w.now + kEnrollTimeout)
    (faceOrientation w.camera.mSensorOrientation) io.enrollmentId.toEnrollmentId io.cv w
  set l := whileFrames (w.now + kEnrollTimeout)
    (enrollFrame (faceOrientation w.camera.mSensorOrientation) io.enrollmentId.toEnrollmentId)
    io.cv (w, {})
  have hconclude : t ∈ s.storage.templates store ∨ t.feature = l.2.feature ∧ l.2.feature ≠ [] :=
    concludeEnroll_templates (s := { s with world := l.1.stopCamera.pass io.stop }) hcv ht
  obtain hold | ⟨hsame, hne⟩ := hconclude
  · exact .inl hold
  · obtain hnone | ⟨c, hc, hextracted⟩ := hfeature
    · exact absurd hnone hne
    · exact .inr ⟨c, hc, hsame.trans hextracted, hsame ▸ hne⟩

/-- The engine of st_auth keeps to its own directories. -/
theorem Enrolling.templates_of_isCv {user : Int32} {io : EnrollIO} {s s' : State}
    (h : Enrolling user io s s') (hst : s.auth.mAvailable = true) {store : StoreId}
    (hstore : store.IsCv) {t : Template} (ht : t ∈ s'.storage.templates store) :
    t ∈ s.storage.templates store := by
  have hcurrent : ¬s.currentStore.IsCv := by
    rw [State.currentStore, hst, if_pos rfl]
    exact not_false
  have hold {o : ℕ} (h : t ∈ s.storage.templates store ∨ store = s.currentStore ∧ t.origin = o) :
      t ∈ s.storage.templates store := by
    obtain h | ⟨rfl, -⟩ := h
    · exact h
    · exact absurd hstore hcurrent
  cases h with
  | terminated load => exact ht
  | refused keeps trace =>
      rw [keeps.storage] at ht
      exact ht
  | frameless load vacant keeps shrinks trace =>
      rw [keeps.storage] at ht
      exact shrinks.mem_templates ht
  | failed load vacant keeps failure loop trace =>
      rw [keeps.storage] at ht
      exact hold (failure.templates store t ht)
  | finished load vacant keeps success loop hcaptured trace =>
      rw [keeps.storage] at ht
      exact hold (success.templates store t ht)

theorem doEnroll_templates {session : Session} {challenge : Int64} {preview : Bool}
    {io : EnrollIO} {s : State} {store : StoreId} (hstore : store.IsCv) {t : Template}
    (ht : t ∈ (doEnroll session challenge preview io s).storage.templates store) :
    t ∈ s.storage.templates store ∨
      ∃ c ∈ io.cv, t.feature = extractFeature c.answers ∧ t.feature ≠ [] := by
  cases hengine : s.auth.mAvailable with
  | true =>
      exact .inl ((doEnroll_enrolling session challenge preview io s).templates_of_isCv hengine
        hstore ht)
  | false =>
      have hkeeps := keeps_prepare io.prepare s
      have hcv : (prepare io.prepare s).2.auth.mAvailable = false := hkeeps.mAvailable.trans hengine
      simp only [doEnroll, State.withEnrollment, enrollWith] at ht
      split at ht
      · exact .inl ht
      split at ht
      · exact .inl ht
      split at ht
      · exact .inl ht
      split at ht
      · rw [hkeeps.storage] at ht
        exact .inl ht
      · rw [if_neg (by rw [hcv]; exact Bool.false_ne_true)] at ht
        rw [← hkeeps.storage]
        exact doEnrollCv_templates hcv ht

/-! ### Every run -/

/-- The frames that an enrollment of the cv engine looks at. -/
def Step.enrollFrames : Step → List CvFrame
  | .op _ (.enroll _ _ io) => io.cv.map Call.answers
  | _ => []

/-- The feature is the one extracted from a frame of one of the enrollments. -/
def IsExtracted (sts : List Step) (feature : List UInt8) : Prop :=
  ∃ st ∈ sts, ∃ a ∈ st.enrollFrames, feature = extractFeature a ∧ feature ≠ []

/-- Whatever the cv engine has stored was extracted in an enrollment. -/
def Captured (sts : List Step) (s : State) : Prop :=
  ∀ store : StoreId, store.IsCv → ∀ t ∈ s.storage.templates store, IsExtracted sts t.feature

theorem templates_step {s : State} {st : Step} {store : StoreId} (hstore : store.IsCv)
    {t : Template} (ht : t ∈ (step s st).storage.templates store) :
    t ∈ s.storage.templates store ∨
      ∃ a ∈ st.enrollFrames, t.feature = extractFeature a ∧ t.feature ≠ [] := by
  cases st with
  | op i op =>
      simp only [step] at ht
      cases hsession : s.sessions[i]? with
      | none =>
          rw [hsession] at ht
          exact .inl ht
      | some session =>
          rw [hsession] at ht
          by_cases hop : ∃ challenge preview io, op = .enroll challenge preview io
          · obtain ⟨challenge, preview, io, rfl⟩ := hop
            obtain hold | ⟨c, hc, hnew⟩ := doEnroll_templates hstore ht
            · exact .inl hold
            · exact .inr ⟨c.answers, List.mem_map_of_mem hc, hnew⟩
          · refine .inl ((runOp_carries ?_ i session s.begin).templates store t ht)
            rintro challenge preview io rfl
            exact hop ⟨challenge, preview, io, rfl⟩
  | _ => exact .inl ht

theorem Captured.step {sts : List Step} {s : State} (h : Captured sts s) (st : Step) :
    Captured (sts ++ [st]) (step s st) := by
  intro store hstore t ht
  obtain hold | ⟨a, ha, hnew⟩ := templates_step hstore ht
  · obtain ⟨st', hst', hextracted⟩ := h store hstore t hold
    exact ⟨st', List.mem_append_left _ hst', hextracted⟩
  · exact ⟨st, by simp, a, ha, hnew⟩

theorem captured_run {s₀ : State} (h₀ : s₀.Initial) (sts : List Step) :
    Captured sts (Machine.run step s₀ sts) := by
  induction sts using List.reverseRecOn with
  | nil =>
      obtain ⟨available, tee, now, rfl⟩ := h₀
      intro store hstore t ht
      cases store with
      | stAuth tee => exact hstore.elim
      | _ => cases ht
  | append_singleton sts st ih =>
      rw [Machine.run_append, Machine.run_cons, Machine.run_nil]
      exact ih.step st

theorem Attempt.compared {user : Int32} {io : AuthenticateIO} {s s' : State}
    (h : Attempt user io s s')
    (hs : s.world.trace = []) {f : Fetch} {t : Template}
    (ht : .compared f t ∈ s'.world.trace) : s.reference = some t := by
  cases h with
  | terminated load => simp [State.terminate, World.log, hs] at ht
  | refused keeps refusal trace => simp [trace, hs] at ht
  | @frameless _ _ _ started _ load admitted keeps trace =>
      cases started <;> simp [trace, hs] at ht
  | @ran e s₁ s₂ evs matched compared error failElapsed load admitted keeps trace loop =>
      obtain ⟨cs, htrace, -⟩ :=
        (conclude_conclusion s₂ user e.enrollmentId failElapsed matched compared error).trace
      rw [htrace, trace, hs] at ht
      exact loop.reference f t (.inl (by simpa using ht))

theorem compared_reference {s : State} {i : ℕ} {io : AuthenticateIO} {f : Fetch} {t : Template}
    (ht : .compared f t ∈ (step s (.op i (.authenticate io))).world.trace) :
    s.storage.reference s.currentStore = some t := by
  simp only [step] at ht
  cases hsession : s.sessions[i]? with
  | none =>
      rw [hsession] at ht
      cases ht
  | some session =>
      rw [hsession] at ht
      rw [← reference_eq]
      exact (doAuthenticate_attempt session.mUserId io s.begin).compared rfl ht

/-- Whatever an authentication of the cv engine compares, in any run: the template is the text of a
feature that was found in a frame of an enrollment before, and the probe that of the feature in its
frame. The strings that the SDK is handed end in their buffers. -/
theorem compared_spells {s₀ : State} (h₀ : s₀.Initial) {sts : List Step}
    (hsdk : ∀ st ∈ sts, ∀ a ∈ st.enrollFrames, a.Serializes) {i : ℕ} {io : AuthenticateIO}
    (hprobes : ∀ c ∈ io.cv, c.answers.frame.Serializes) :
    let s := Machine.run step s₀ sts
    s.auth.mAvailable = false →
      (∀ f t, .compared f t ∈ (step s (.op i (.authenticate io))).world.trace →
        ∃ st ∈ sts, ∃ a ∈ st.enrollFrames, ∃ bytes, a.Shows bytes ∧ Spells t.feature bytes) ∧
      ∀ c ∈ io.cv, extractFeature c.answers.frame ≠ [] →
        ∃ bytes, c.answers.frame.Shows bytes ∧ Spells (extractFeature c.answers.frame) bytes := by
  intro s hcv
  refine ⟨fun f t ht => ?_, fun c hc hne => (hprobes c hc).spells hne⟩
  have hstore : s.currentStore.IsCv := by
    rw [State.currentStore, hcv, if_neg Bool.false_ne_true]
    split <;> trivial
  have hmem : t ∈ s.storage.templates s.currentStore :=
    Storage.mem_of_reference (compared_reference ht)
  obtain ⟨st, hst, a, ha, hsame, hne⟩ := captured_run h₀ sts s.currentStore hstore t hmem
  obtain ⟨bytes, hshows, hspells⟩ := (hsdk st hst a ha).spells (hsame ▸ hne)
  exact ⟨st, hst, a, ha, bytes, hshows, hsame ▸ hspells⟩

/-- A frame whose feature the SDK serializes. -/
def CvFrame.serialized : CvFrame :=
  { CvFrame.clear with getFeature := ⟨0, some ⟨2, ⟨0, some (base64 [77, 97] ++ [0])⟩⟩⟩ }

theorem CvFrame.serialized_serializes : CvFrame.serialized.Serializes := by
  rintro f ⟨⟩
  exact ⟨[77, 97], rfl, rfl⟩

/-- The user's face is compared with itself. -/
theorem compared_spells_serialized :
    let enroll := { EnrollIO.quiet with cv := List.replicate kEnrollFrames (.waiting .serialized) }
    let auth := { AuthenticateIO.quiet with cv := [.waiting ⟨.serialized, 0, .alike⟩] }
    let sts : List Step := [.createSession 0, .op 0 (.generateChallenge .one),
      .op 0 (.enroll 1 true enroll)]
    let s := Machine.run step (.new false false) sts
    ∃ f t, .compared f t ∈ (step s (.op 0 (.authenticate auth))).world.trace ∧
      ∃ st ∈ sts, ∃ a ∈ st.enrollFrames, ∃ bytes, a.Shows bytes ∧ Spells t.feature bytes := by
  intro enroll auth sts s
  have hany : (step s (.op 0 (.authenticate auth))).world.trace.any Event.isCompared = true := by
    decide +kernel
  obtain ⟨ev, hev, hcompared⟩ := List.any_eq_true.mp hany
  have hframes : ∀ st ∈ sts, ∀ a ∈ st.enrollFrames, a.Serializes := by
    intro st hst a ha
    obtain rfl | rfl | rfl : st = .createSession 0 ∨ st = .op 0 (.generateChallenge .one) ∨
        st = .op 0 (.enroll 1 true enroll) := by simpa [sts] using hst
    · cases ha
    · cases ha
    · obtain ⟨c, hc, rfl⟩ := List.mem_map.mp ha
      rw [List.eq_of_mem_replicate hc]
      exact CvFrame.serialized_serializes
  have hprobes : ∀ c ∈ auth.cv, c.answers.frame.Serializes := by
    intro c hc
    rw [List.mem_singleton.mp hc]
    exact CvFrame.serialized_serializes
  cases ev with
  | compared f t =>
      have hcv : s.auth.mAvailable = false := by decide +kernel
      exact ⟨f, t, hev, (compared_spells (State.new_initial false false) hframes hprobes hcv).1 f t
        hev⟩
  | _ => cases hcompared

end OneplusHal.Face

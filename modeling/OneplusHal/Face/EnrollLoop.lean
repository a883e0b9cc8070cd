import OneplusHal.Face.CaptureLoop
import OneplusHal.Face.Stores

/-!
The two enrollment loops: which events they leave, and what the st_auth loop does to the
storage while the SDK captures.
-/

namespace OneplusHal.Face

open OneplusHal

/-! ### Events -/

/-- The callbacks of an enrollment that goes on. -/
def Callback.IsEnrollReport (c : Callback) : Prop :=
  (∃ info stage, c = .onEnrollmentFrame info stage) ∨
    ∃ id remaining, (0 < remaining ∧ remaining < (kEnrollFrames : Int)) ∧
      c = .onEnrollmentProgress id remaining

/-- A frame that the cv engine counts as good. -/
def Counted (a : CvFrame) : Prop :=
  ∃ orientation nv21 face, detect a orientation false false = some face ∧
    enrollInfo a nv21 (some face) = .good

/-- What a turn may leave about the frame of the call `f`. -/
def EnrollEvent (f : Fetch) (e : Event) : Prop :=
  e = .detected f ∨ (∃ a, e = .captured f a ∧ ∀ b ∈ a, extractFeature b ≠ []) ∨
    (∃ a, e = .counted f a ∧ Counted a) ∨ (∃ c, e = .callback c ∧ c.IsEnrollReport) ∨
      ∃ er, e = .sdkError er

/-- What an enrollment loop leaves, on the cv engine or on st_auth. -/
structure EnrollLoop (stAuth : Bool) (deadline : Time) (evs : List Event) (captured : Prop) :
    Prop where
  events : LoopEvents deadline evs
  reports : ∀ c, .callback c ∈ evs → c.IsEnrollReport
  counted : ∀ f a, .counted f a ∈ evs → Counted a
  extracted : ∀ f a, .captured f (some a) ∈ evs → extractFeature a ≠ []
  captured : captured → ∃ f a, .captured f a ∈ evs ∧ (stAuth = true ∨ a.isSome = true)

namespace EnrollLoop

variable {stAuth : Bool} {deadline : Time} {evs : List Event} {captured captured' : Prop}
  {f : Fetch}

theorem nil (h : ¬captured) : EnrollLoop stAuth deadline [] captured where
  events := .nil
  reports := by simp
  counted := by simp
  extracted := by simp
  captured := fun hc => absurd hc h

theorem lost (h : EnrollLoop stAuth deadline evs captured) (hvalid : f.Valid deadline false) :
    EnrollLoop stAuth deadline (evs ++ [.nextFrame f false]) captured where
  events := h.events.turn hvalid (by simp)
  reports := by simpa using h.reports
  counted := by simpa using h.counted
  extracted := by simpa using h.extracted
  captured := by simpa using h.captured

theorem turn {new : List Event} (h : EnrollLoop stAuth deadline evs captured)
    (hvalid : f.Valid deadline true) (hnew : ∀ e ∈ new, EnrollEvent f e)
    (hcaptured : captured' →
      captured ∨ ∃ a, .captured f a ∈ new ∧ (stAuth = true ∨ a.isSome = true)) :
    EnrollLoop stAuth deadline (evs ++ .nextFrame f true :: new) captured' where
  events := by
    refine h.events.turn hvalid fun e he => ?_
    rcases hnew e he with rfl | ⟨a, rfl, -⟩ | ⟨a, rfl, -⟩ | ⟨c, rfl, -⟩ | ⟨er, rfl⟩ <;>
      simp [Event.frame]
  reports := by
    intro c hc
    rcases List.mem_append.mp hc with hc | hc
    · exact h.reports c hc
    · rcases List.mem_cons.mp hc with hc | hc
      · simp at hc
      · rcases hnew _ hc with hc | ⟨a, hc, -⟩ | ⟨a, hc, -⟩ | ⟨d, hd, hreport⟩ | ⟨er, hc⟩
        · simp at hc
        · simp at hc
        · simp at hc
        · rw [Event.callback.inj hd]
          exact hreport
        · simp at hc
  counted := by
    intro g a ha
    rcases List.mem_append.mp ha with ha | ha
    · exact h.counted g a ha
    · rcases List.mem_cons.mp ha with ha | ha
      · simp at ha
      · rcases hnew _ ha with ha | ⟨b, ha, -⟩ | ⟨b, hb, hcounted⟩ | ⟨d, ha, -⟩ | ⟨er, ha⟩
        · simp at ha
        · simp at ha
        · rw [(Event.counted.inj hb).2]
          exact hcounted
        · simp at ha
        · simp at ha
  extracted := by
    intro g a ha
    rcases List.mem_append.mp ha with ha | ha
    · exact h.extracted g a ha
    · rcases List.mem_cons.mp ha with ha | ha
      · simp at ha
      · rcases hnew _ ha with ha | ⟨b, hb, hfeature⟩ | ⟨b, ha, -⟩ | ⟨d, ha, -⟩ | ⟨er, ha⟩
        · simp at ha
        · exact hfeature a (Event.captured.inj hb).2.symm
        · simp at ha
        · simp at ha
        · simp at ha
  captured := by
    intro hc
    rcases hcaptured hc with hc | ⟨a, ha, hengine⟩
    · obtain ⟨g, a, ha, hengine⟩ := h.captured hc
      exact ⟨g, a, List.mem_append_left _ ha, hengine⟩
    · exact ⟨f, a, List.mem_append_right _ (List.mem_cons_of_mem _ ha), hengine⟩

end EnrollLoop

/-- Since `w` no time has passed, and the trace has grown by events about the frame of `f`,
with the capture of `a` among them if `captured a`. -/
structure World.Leaves (f : Fetch) (captured : Option CvFrame → Prop) (w w' : World) :
    Prop where
  now : w'.now = w.now
  trace : ∃ new, w'.trace = w.trace ++ new ∧ (∀ e ∈ new, EnrollEvent f e) ∧
    ∀ a, captured a → .captured f a ∈ new

namespace World.Leaves

variable {f : Fetch} {captured : Option CvFrame → Prop} {w w' : World}

theorem refl (f : Fetch) (w : World) : w.Leaves f (fun _ => False) w :=
  ⟨rfl, [], by simp, by simp, by simp⟩

theorem log (h : w.Leaves f captured w') {e : Event} (he : EnrollEvent f e) :
    w.Leaves f (fun a => captured a ∨ e = .captured f a) (w'.log e) := by
  obtain ⟨hnow, new, htrace, hnew, hcaptured⟩ := h
  refine ⟨hnow, new ++ [e], by rw [World.trace_log, htrace, List.append_assoc], ?_, ?_⟩
  · intro d hd
    rcases List.mem_append.mp hd with hd | hd
    · exact hnew d hd
    · rw [List.mem_singleton.mp hd]
      exact he
  · rintro a (hc | rfl)
    · exact List.mem_append_left _ (hcaptured a hc)
    · simp

theorem mono {captured' : Option CvFrame → Prop} (h : w.Leaves f captured w')
    (hc : ∀ a, captured' a → captured a) : w.Leaves f captured' w' :=
  ⟨h.now, h.trace.imp fun _ h => ⟨h.1, h.2.1, fun a h' => h.2.2 a (hc a h')⟩⟩

theorem report (h : w.Leaves f captured w') {c : Callback} (hc : c.IsEnrollReport) :
    w.Leaves f captured (w'.emit c) :=
  (h.log (.inr (.inr (.inr (.inl ⟨c, rfl, hc⟩))))).mono fun _ => .inl

theorem reportFirstFrame (h : w.Leaves f captured w') (first : Bool) :
    w.Leaves f captured (w'.reportFirstFrame first) := by
  unfold World.reportFirstFrame
  split
  · exact h.report (.inl ⟨_, _, rfl⟩)
  · exact h

theorem reportEnrollFrame (h : w.Leaves f captured w') (info lastInfo : AcquiredInfo) :
    w.Leaves f captured (w'.reportEnrollFrame info lastInfo) := by
  unfold World.reportEnrollFrame
  split
  · exact h.report (.inl ⟨_, _, rfl⟩)
  · exact h

end World.Leaves

/-! ### The cv loop -/

theorem enrollFrame_leaves (orientation : FaceOrientation) (enrollmentId : Int32) (f : Fetch)
    (nv21 : Nv21) (a : CvFrame) (w : World) (x : EnrollLocals) :
    let r := enrollFrame orientation enrollmentId f nv21 a (w, x)
    w.Leaves f (fun b => b = some a ∧ r.2.2.feature ≠ [] ∧ x.feature = []) r.2.1 := by
  intro r
  have hreports := (((World.Leaves.refl f w).reportFirstFrame x.first).log
    (e := .detected f) (.inl rfl)).reportEnrollFrame
      (enrollInfo a nv21 (detect a orientation false false)) x.lastInfo
  simp only [r, enrollFrame]
  split
  · exact hreports.mono fun _ h => absurd h.2.2 h.2.1
  rename_i face hface
  have hcounted : Counted a := by
    split at hface
    · rename_i hgood
      exact ⟨orientation, nv21, face, hface, hface ▸ hgood⟩
    · simp at hface
  have hcount := hreports.log (e := .counted f a) (.inr (.inr (.inl ⟨a, rfl, hcounted⟩)))
  -- whether the face is a new one only resets the counter
  generalize hx : (if face.face.id ≠ x.lastFaceId then _ else _ : EnrollLocals) = y
  have hfeature : y.feature = x.feature := by
    rw [← hx]
    split <;> rfl
  split
  · rename_i hmore
    refine (hcount.report (.inr ⟨enrollmentId, _, ?_, rfl⟩)).mono fun _ h => ?_
    · have hlt : y.goodFrames + 1 < kEnrollFrames := hmore
      omega
    · exact absurd (hfeature.trans h.2.2) h.2.1
  · split
    · rename_i hextracted
      have hcapture : EnrollEvent f (.captured f (some a)) :=
        .inr (.inl ⟨some a, rfl, by simpa using hextracted⟩)
      exact (hcount.log hcapture).mono fun b h => .inr (by rw [h.1])
    · exact hcount.mono fun _ h => absurd (hfeature.trans h.2.2) h.2.1

/-- What the cv loop leaves. -/
theorem enrollLoop (orientation : FaceOrientation) (enrollmentId : Int32) (deadline : Time)
    (calls : List (Call CvFrame)) (w : World) :
    let l := whileFrames deadline (enrollFrame orientation enrollmentId) calls (w, {})
    ∃ evs, l.1.trace = w.trace ++ evs ∧ w.now ≤ l.1.now ∧
      EnrollLoop false deadline evs (l.2.feature ≠ []) := by
  have hnow : w.now ≤
      (whileFrames deadline (enrollFrame orientation enrollmentId) calls (w, {})).1.now :=
    now_le_whileFrames (fun f nv21 a p =>
      (enrollFrame_leaves orientation enrollmentId f nv21 a p.1 p.2).now.ge) calls (w, {})
  refine (whileFrames_invariant
    (I := fun evs (x : EnrollLocals) => EnrollLoop false deadline evs (x.feature ≠ [])) ?_ ?_
    calls w _
    (.nil fun h => h rfl)).imp fun evs h => ⟨h.1, hnow, h.2⟩
  · intro evs x f nv21 a w h hvalid
    obtain ⟨-, new, htrace, hnew, hcaptured⟩ :=
      enrollFrame_leaves orientation enrollmentId f nv21 a w x
    refine ⟨new, htrace, h.turn hvalid hnew fun hfeature => ?_⟩
    by_cases hx : x.feature = []
    · exact .inr ⟨some a, hcaptured _ ⟨rfl, hfeature, hx⟩, .inr rfl⟩
    · exact .inl hx
  · intro evs x f h hvalid
    exact h.lost hvalid

/-! ### The st_auth loop -/

namespace AuthEngine

theorem within_insert (st : Storage) (tee : Bool) (faceId : Int) (t : Template) :
    st.Within (.stAuth tee) t.origin (st.setStAuth tee ((st.stAuth tee).insert faceId t)) where
  enrollmentFile := rfl
  templates store u hu := by
    by_cases hstore : store = .stAuth tee
    · subst hstore
      simp only [Storage.templates, Storage.setStAuth, Function.update_self] at hu
      rcases StAuthStore.mem_insert hu with rfl | hu
      · exact .inr ⟨rfl, rfl⟩
      · exact .inl hu
    · rw [templates_setStAuth_of_ne hstore] at hu
      exact .inl hu

/-- The storage after the SDK has answered about a frame. -/
def captured (origin : ℕ) (answer : EnrollAnswer) (a : AuthEngine) (st : Storage) : Storage :=
  if EnrollAnswer.stores answer then
    st.setStAuth a.mUseTee
      ((st.stAuth a.mUseTee).insert (answer.faceId.getD (-1)) ⟨answer.feature, origin⟩)
  else st

/-- Beside what the SDK does, `enroll` writes the face id, and only the frame that ends the
enrollment is reported as done. -/
theorem enroll_storage (origin : ℕ) (answer : EnrollAnswer) (a : AuthEngine) (st : Storage) :
    let r := a.enroll origin answer st
    ∃ file, r.2.2 = { captured origin answer a st with faceIdFile := file } ∧
      (r.1.done = true → EnrollAnswer.stores answer = true ∧
        file = some (Text.print (answer.faceId.getD (-1)))) := by
  intro r
  have hdone (h : answer.status = .ok ∨ answer.status = .enrollOk) :
      EnrollAnswer.stores answer = true := by
    rcases h with h | h <;> simp [EnrollAnswer.stores, h]
  have hst : (if EnrollAnswer.stores answer then
      st.setStAuth (a.call .authEnroll true).mUseTee
        ((st.stAuth (a.call .authEnroll true).mUseTee).insert (answer.faceId.getD (-1))
          ⟨answer.feature, origin⟩) else st) = captured origin answer a st := rfl
  simp only [r, enroll, hst]
  set saved := writeStringToFile answer.writeFaceId (Text.print (answer.faceId.getD (-1)))
    (captured origin answer a st).faceIdFile
  cases hstatus : answer.status with
  | ok =>
      cases hok : saved.1 with
      | false => exact ⟨saved.2, rfl, by simp⟩
      | true => exact ⟨saved.2, rfl, fun _ => ⟨hdone (.inl hstatus), writeStringToFile_ok hok⟩⟩
  | enrollOk =>
      cases hok : saved.1 with
      | false => exact ⟨saved.2, rfl, by simp⟩
      | true => exact ⟨saved.2, rfl, fun _ => ⟨hdone (.inr hstatus), writeStringToFile_ok hok⟩⟩
  | _ => exact ⟨_, rfl, by simp⟩

theorem captured_within (origin : ℕ) (answer : EnrollAnswer) (a : AuthEngine) (st : Storage) :
    st.Within (.stAuth a.mUseTee) origin (captured origin answer a st) := by
  unfold captured
  split
  · exact within_insert st a.mUseTee _ ⟨answer.feature, origin⟩
  · exact (Storage.Shrinks.refl st).within _ _

theorem enroll_within (origin : ℕ) (answer : EnrollAnswer) (a : AuthEngine) (st : Storage) :
    st.Within (.stAuth a.mUseTee) origin (a.enroll origin answer st).2.2 := by
  obtain ⟨file, hfile, -⟩ := enroll_storage origin answer a st
  have hwithin := captured_within origin answer a st
  rw [hfile]
  exact ⟨hwithin.enrollmentFile, fun store t ht =>
    hwithin.templates store t (by cases store <;> exact ht)⟩

end AuthEngine

/-- The template of the enrollment is where the face id says. -/
def StAuthHolds (st : Storage) (tee : Bool) (origin : ℕ) : Prop :=
  ∃ faceId t, st.faceIdFile = some (Text.print faceId) ∧ (st.stAuth tee).find faceId = some t ∧
    t.origin = origin

theorem AuthEngine.enroll_done {origin : ℕ} {answer : EnrollAnswer} {a : AuthEngine}
    {st : Storage} (h : (a.enroll origin answer st).1.done = true) :
    StAuthHolds (a.enroll origin answer st).2.2 a.mUseTee origin := by
  obtain ⟨file, hfile, hdone⟩ := a.enroll_storage origin answer st
  obtain ⟨hstores, rfl⟩ := hdone h
  refine ⟨answer.faceId.getD (-1), ⟨answer.feature, origin⟩, by rw [hfile], ?_, rfl⟩
  rw [hfile]
  simp [AuthEngine.captured, hstores, Storage.setStAuth]

@[simp] theorem AuthEngine.mInitialized_enroll (origin : ℕ) (answer : EnrollAnswer)
    (a : AuthEngine) (st : Storage) :
    (a.enroll origin answer st).2.1.mInitialized = a.mInitialized := by
  simp only [AuthEngine.enroll]
  cases answer.status with
  | ok => split_ifs <;> rfl
  | enrollOk => split_ifs <;> rfl
  | _ => rfl

/-- A frame that is accepted leaves fewer to come than an enrollment takes. -/
theorem AuthEngine.enroll_remaining_lt (origin : ℕ) (answer : EnrollAnswer) (a : AuthEngine)
    (st : Storage) :
    (a.enroll origin answer st).1.remaining < (Face.kEnrollFrames : Int) := by
  have hkeep (accepted : ℕ) :
      max ((AuthEngine.kEnrollFrames : Int) - (accepted + 1 : ℕ)) 1 <
        (Face.kEnrollFrames : Int) := by
    simp only [AuthEngine.kEnrollFrames, Face.kEnrollFrames]
    omega
  have hnone : (-1 : Int) < (Face.kEnrollFrames : Int) := by decide
  have hdone : (0 : Int) < (Face.kEnrollFrames : Int) := by decide
  simp only [AuthEngine.enroll]
  cases answer.status with
  | ok => split_ifs <;> assumption
  | enrollOk => split_ifs <;> assumption
  | enrollKeep => exact hkeep _
  | _ => exact hnone

theorem World.Leaves.logCaptured {f : Fetch} {captured : Option CvFrame → Prop} {w w' : World}
    (h : w.Leaves f captured w') (stores : Bool) :
    w.Leaves f (fun a => captured a ∨ a = none ∧ stores = true) (w'.logCaptured f stores) := by
  unfold World.logCaptured
  split
  · have hcapture : EnrollEvent f (.captured f none) := .inr (.inl ⟨none, rfl, by simp⟩)
    exact (h.log hcapture).mono fun a => Or.imp_right fun ha => by rw [ha.1]
  · rename_i hstores
    exact h.mono fun _ h' => h'.resolve_right fun ha => hstores ha.2

theorem stEnrollFrame_leaves (origin : ℕ) (enrollmentId : Int32) (f : Fetch) (nv21 : Nv21)
    (a : EnrollAnswer) (w : World) (x : StEnrollLocals) :
    let r := stEnrollFrame origin enrollmentId f nv21 a (w, x)
    w.Leaves f (fun b => b = none ∧ AuthEngine.EnrollAnswer.stores a = true) r.2.1 := by
  intro r
  have hframe := (((World.Leaves.refl f w).reportFirstFrame x.first).log
    (e := .detected f) (.inl rfl)).logCaptured (AuthEngine.EnrollAnswer.stores a)
  simp only [r, stEnrollFrame]
  split
  · exact (hframe.log (.inr (.inr (.inr (.inr ⟨_, rfl⟩))))).mono fun _ h => .inl (.inr h)
  · have hreport := (hframe.reportEnrollFrame (x.auth.enroll origin a x.storage).1.info
      x.lastInfo).mono fun _ => .inr
    split
    · exact hreport
    · split
      · rename_i hremaining
        have hlt := AuthEngine.enroll_remaining_lt origin a x.auth x.storage
        exact hreport.report (.inr ⟨enrollmentId, _, ⟨hremaining.1, hlt⟩, rfl⟩)
      · exact hreport

/-- What a turn does to the engine and the storage is what `AuthEngine::enroll` does, and a
turn that goes on is not done. -/
theorem stEnrollFrame_locals (origin : ℕ) (enrollmentId : Int32) (f : Fetch) (nv21 : Nv21)
    (a : EnrollAnswer) (w : World) (x : StEnrollLocals) :
    let r := stEnrollFrame origin enrollmentId f nv21 a (w, x)
    let result := x.auth.enroll origin a x.storage
    r.2.2.auth = result.2.1 ∧ r.2.2.storage = result.2.2 ∧
      (r.1 = false → r.2.2.done = x.done) ∧
      (r.2.2.done = true → x.done = true ∨ result.1.done = true) := by
  simp only [stEnrollFrame]
  split
  · exact ⟨rfl, rfl, fun _ => rfl, .inl⟩
  · split
    · rename_i hdone
      exact ⟨rfl, rfl, fun h => by simp at h, fun _ => .inr hdone⟩
    · split <;> exact ⟨rfl, rfl, fun _ => rfl, .inl⟩

/-- What the st_auth loop of the enroll operation `s.enrolls` leaves. -/
structure StEnrollLoop (s : State) (st : Storage) (deadline : Time) (evs : List Event)
    (x : StEnrollLocals) : Prop where
  setup : x.auth.setup = s.auth.setup
  mInitialized : x.auth.mInitialized = s.auth.mInitialized
  within : st.Within (.stAuth s.auth.mUseTee) s.enrolls x.storage
  done : x.done = true → StAuthHolds x.storage s.auth.mUseTee s.enrolls
  loop : EnrollLoop true deadline evs (x.done = true)

theorem stEnrollLoop {s : State} {auth : AuthEngine} (st : Storage)
    (hsetup : auth.setup = s.auth.setup) (hinit : auth.mInitialized = s.auth.mInitialized)
    (enrollmentId : Int32) (deadline : Time) (calls : List (Call EnrollAnswer)) (w : World) :
    let l := whileFrames deadline (stEnrollFrame s.enrolls enrollmentId) calls
      (w, { auth, storage := st })
    ∃ evs, l.1.trace = w.trace ++ evs ∧ w.now ≤ l.1.now ∧
      StEnrollLoop s st deadline evs l.2 := by
  have hnow : w.now ≤ (whileFrames deadline (stEnrollFrame s.enrolls enrollmentId) calls
      (w, { auth, storage := st })).1.now :=
    now_le_whileFrames (fun f nv21 a p =>
      (stEnrollFrame_leaves s.enrolls enrollmentId f nv21 a p.1 p.2).now.ge) calls
      (w, { auth, storage := st })
  refine (whileFrames_rule
    (I := fun evs (x : StEnrollLocals) => x.done = false ∧ StEnrollLoop s st deadline evs x)
    ?_ ?_ calls w { auth, storage := st } ⟨rfl, hsetup, hinit, (Storage.Shrinks.refl st).within _ _,
      by simp, .nil (by simp)⟩).imp fun evs h => ⟨h.1, hnow, h.2⟩
  · rintro evs x f nv21 a w ⟨hdone, h⟩ hvalid
    obtain ⟨-, new, htrace, hnew, hcaptured⟩ :=
      stEnrollFrame_leaves s.enrolls enrollmentId f nv21 a w x
    obtain ⟨hauth, hstorage, hcont, hdone'⟩ :=
      stEnrollFrame_locals s.enrolls enrollmentId f nv21 a w x
    have htee : x.auth.mUseTee = s.auth.mUseTee := AuthEngine.mUseTee_eq_of_setup h.setup
    have hfinished (hd : (stEnrollFrame s.enrolls enrollmentId f nv21 a (w, x)).2.2.done = true) :
        (x.auth.enroll s.enrolls a x.storage).1.done = true :=
      (hdone' hd).resolve_left (by simp [hdone])
    have hturn : StEnrollLoop s st deadline (evs ++ .nextFrame f true :: new)
        (stEnrollFrame s.enrolls enrollmentId f nv21 a (w, x)).2.2 := by
      constructor
      · rw [hauth, AuthEngine.setup_enroll]
        exact h.setup
      · rw [hauth, AuthEngine.mInitialized_enroll]
        exact h.mInitialized
      · rw [hstorage]
        exact h.within.trans (htee ▸ AuthEngine.enroll_within s.enrolls a x.auth x.storage)
      · intro hd
        rw [hstorage]
        exact htee ▸ AuthEngine.enroll_done (hfinished hd)
      · refine h.loop.turn hvalid hnew fun hd =>
          .inr ⟨none, hcaptured none ⟨rfl, ?_⟩, .inl rfl⟩
        obtain ⟨_, -, hstores⟩ := AuthEngine.enroll_storage s.enrolls a x.auth x.storage
        exact (hstores (hfinished hd)).1
    exact ⟨new, htrace, fun hgo => ⟨(hcont hgo).trans hdone, hturn⟩, fun _ => hturn⟩
  · rintro evs x f ⟨-, h⟩ hvalid
    exact { h with loop := h.loop.lost hvalid }

end OneplusHal.Face

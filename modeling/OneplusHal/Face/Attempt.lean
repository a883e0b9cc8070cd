import OneplusHal.Face.Authenticate
import OneplusHal.Face.CaptureLoop
import OneplusHal.Face.Frame

/-!
What one authentication can do, on either engine.

`Attempt` says it once: the record cannot be read, the attempt is refused before the
camera is touched, it gets no frame, or it runs its loop and concludes from the four
flags the loop leaves. `AuthLoop` ties these flags to the events of the loop. Everything
later about authentication is read off these two.
-/

namespace OneplusHal.Face

open OneplusHal

/-! ### The turns of the two loops -/

/-- The template that a probe is compared against. -/
def State.reference (s : State) : Option Template :=
  if s.auth.mAvailable then
    (s.storage.faceIdFile.bind fun text => parseInt text 0).bind
      (s.storage.stAuth s.auth.mUseTee).find
  else if s.useTee then s.storage.teeFeature
  else s.storage.featureFile

/-- The events of a report, if there is one. -/
def IsAuthReport (report : List Event) : Prop :=
  report = [] ∨ ∃ info, report = [.callback (.onAuthenticationFrame info)]

theorem IsAuthReport.eq_frame {report : List Event} (h : IsAuthReport report) {e : Event}
    (he : e ∈ report) : ∃ info, e = .callback (.onAuthenticationFrame info) := by
  rcases h with rfl | ⟨info, rfl⟩
  · cases he
  · exact ⟨info, List.mem_singleton.mp he⟩

theorem World.trace_reportAuthFrame (w : World) (info lastInfo : AcquiredInfo) :
    ∃ report, IsAuthReport report ∧
      (w.reportAuthFrame info lastInfo).trace = w.trace ++ report := by
  unfold reportAuthFrame
  split
  · exact ⟨_, .inr ⟨info, rfl⟩, rfl⟩
  · exact ⟨[], .inl rfl, by simp⟩

@[simp] theorem World.now_reportAuthFrame (w : World) (info lastInfo : AcquiredInfo) :
    (w.reportAuthFrame info lastInfo).now = w.now := by
  unfold reportAuthFrame
  split <;> rfl

theorem FaceTee.compare_some {a : SendAnswer} {score score' : ℚ} {st : Storage} {t : Template}
    (h : FaceTee.compare a score st = some (score', t)) :
    st.teeFeature = some t ∧ FaceTee.send a = 0 ∧ score' = score := by
  cases hslot : st.teeFeature with
  | none => simp [FaceTee.compare, hslot] at h
  | some u =>
      simp only [FaceTee.compare, hslot] at h
      split at h
      · rename_i hsend
        obtain ⟨hscore, ht⟩ := Prod.mk.inj (Option.some.inj h)
        exact ⟨congrArg some ht, hsend, hscore.symm⟩
      · simp at h

/-- A comparison that does not fail has had the SDK answer in full. -/
theorem compareFeatures_nonneg {io : CompareIO} {first second : List UInt8}
    (h : ¬compareFeatures io first second < 0) :
    (io.deserializeFirst = true ∧ io.deserializeSecond = true) ∧ io.compareFeature.ret = 0 ∧
      io.compareFeature.out = some (compareFeatures io first second) := by
  have hfails : ¬¬(-1 : ℚ) < 0 := not_not.mpr neg_one_lt_zero
  simp only [compareFeatures] at h ⊢
  split at h
  · exact absurd h hfails
  rename_i hbytes
  split at h
  · exact absurd h hfails
  rename_i hread
  split at h
  · exact absurd h hfails
  rename_i hret
  rw [if_neg hbytes, if_neg hread, if_neg hret]
  refine ⟨by simpa using hread, not_not.mp hret, ?_⟩
  cases hout : io.compareFeature.out with
  | none => simp [hout] at h
  | some score => rfl

/-- The comparison gave this score: the trusted app answered with it, or the file could be
read and every call of the SDK succeeded. -/
structure MatchIO.Scores (m : MatchIO) (useTee : Bool) (score : ℚ) : Prop where
  tee : useTee = true → FaceTee.send m.compare = 0 ∧ m.score = score
  file : useTee = false → m.readFails = false ∧
    (m.compareFeatures.deserializeFirst = true ∧ m.compareFeatures.deserializeSecond = true) ∧
      m.compareFeatures.compareFeature.ret = 0 ∧
        m.compareFeatures.compareFeature.out = some score

theorem matchFeature_some {io : MatchIO} {useTee : Bool} {probe : List UInt8} {tee : FaceTee}
    {st : Storage} {score : ℚ} {t : Template}
    (h : (matchFeature io useTee probe tee st).1 = some (score, t)) :
    (if useTee then st.teeFeature else st.featureFile) = some t ∧ io.Scores useTee score := by
  cases useTee with
  | true =>
      simp only [matchFeature, if_true] at h ⊢
      split at h
      · simp at h
      · obtain ⟨hslot, hsend, hscore⟩ := FaceTee.compare_some h
        exact ⟨hslot, fun _ => ⟨hsend, hscore.symm⟩, fun htee => by simp at htee⟩
  | false =>
      simp only [matchFeature, Bool.false_eq_true, if_false] at h ⊢
      cases hread : io.readFails with
      | true => simp [hread] at h
      | false =>
          cases hfile : st.featureFile with
          | none => simp [hread, hfile] at h
          | some stored =>
              simp only [hread, hfile, Bool.false_eq_true, if_false] at h
              split at h
              · simp at h
              · rename_i hscore
                obtain ⟨rfl, rfl⟩ := Prod.mk.inj (Option.some.inj h)
                exact ⟨rfl, fun htee => by simp at htee,
                  fun _ => ⟨hread, compareFeatures_nonneg hscore⟩⟩

/-- Both scores pass. -/
def Decision.Passes (d : Decision) : Prop :=
  kMatchThreshold ≤ d.score ∧ spoofScore d.frame ≤ kSpoofThreshold

instance (d : Decision) : Decidable d.Passes := inferInstanceAs (Decidable (_ ∧ _))

/-- A decision of the cv engine: the frame passed everything but the thresholds, and
`accepted` says whether it passed these. -/
structure Judged (requireAttention : Bool) (d : Decision) : Prop where
  detected : ∃ orientation large, (detect d.frame orientation large true).isSome = true
  attentive : requireAttention = true → eyesOpen d.frame = true
  feature : extractFeature d.frame ≠ []
  compared : d.answers.Scores d.useTee d.score
  decision : d.accepted = true ↔ d.Passes

theorem acquireProbe_good {requireAttention : Bool} {a : CvFrame} {face : Option DetectedFace}
    {now : Time} {x : AuthLocals} (h : (acquireProbe requireAttention a face now x).1 = .good) :
    face.isSome = true ∧ (requireAttention = true → eyesOpen a = true) := by
  cases face with
  | none => simp [acquireProbe] at h
  | some face =>
      refine ⟨rfl, fun hra => ?_⟩
      by_contra heyes
      simp [acquireProbe, hra, heyes] at h

theorem acquireProbe_flags (requireAttention : Bool) (a : CvFrame) (face : Option DetectedFace)
    (now : Time) (x : AuthLocals) :
    (acquireProbe requireAttention a face now x).2.compared = x.compared ∧
      (acquireProbe requireAttention a face now x).2.matched = x.matched := by
  cases face <;> exact ⟨rfl, rfl⟩

/-- A turn of the cv loop goes on without a comparison, or compares the probe and decides. -/
theorem authenticateFrame_cases (requireAttention useTee : Bool) (orientation : FaceOrientation)
    (st : Storage) (f : Fetch) (nv21 : Nv21) (a : ProbeAnswers) (w : World) (x : AuthLocals) :
    ∃ report, IsAuthReport report ∧
      let r := authenticateFrame requireAttention useTee orientation st f nv21 a (w, x)
      (r.2.1.trace = w.trace ++ .detected f :: report ∧ r.2.2.compared = x.compared ∧
        r.2.2.matched = x.matched) ∨
      ∃ t, (if useTee then st.teeFeature else st.featureFile) = some t ∧
        r.2.2.compared = true ∧
        ∃ d, Judged requireAttention d ∧
          ((d.accepted = true ∧ r.2.2.matched = true ∧
              r.2.1.trace = w.trace ++ .detected f :: report ++
                [.compared f t, .judged d, .accepted f t]) ∨
            (d.accepted = false ∧ r.2.2.matched = x.matched ∧
              r.2.1.trace = w.trace ++ .detected f :: report ++
                [.compared f t, .judged d])) := by
  simp only [authenticateFrame]
  obtain ⟨report, hreport, htrace⟩ := World.trace_reportAuthFrame
    ((w.log (.detected f)).tick a.elapsed)
    (acquireProbe requireAttention a.frame (detect a.frame orientation x.large true)
      ((w.log (.detected f)).tick a.elapsed).now x).1 x.lastInfo
  have hflags := acquireProbe_flags requireAttention a.frame
    (detect a.frame orientation x.large true) ((w.log (.detected f)).tick a.elapsed).now x
  refine ⟨report, hreport, ?_⟩
  have htrace' : _ = w.trace ++ .detected f :: report := htrace.trans (by simp)
  split
  · exact .inl ⟨htrace', hflags⟩
  rename_i hgood
  obtain ⟨hface, heyes⟩ := acquireProbe_good (not_not.mp hgood)
  split
  · exact .inl ⟨htrace', hflags⟩
  rename_i hfeature
  split
  · exact .inl ⟨htrace', hflags⟩
  -- The only way here: a face, eyes open where asked for, a feature and a score.
  rename_i score t hmatch
  obtain ⟨href, hscores⟩ := matchFeature_some hmatch
  have hjudged {accepted : Bool}
      (h : accepted = true ↔ kMatchThreshold ≤ score ∧ spoofScore a.frame ≤ kSpoofThreshold) :
      Judged requireAttention ⟨a.frame, useTee, a.probe, score, accepted⟩ :=
    ⟨⟨orientation, x.large, hface⟩, heyes, hfeature, hscores, h⟩
  refine .inr ⟨t, href, ?_⟩
  split
  · rename_i hpass
    refine ⟨rfl, _, hjudged (iff_of_true rfl hpass), .inl ⟨rfl, rfl, ?_⟩⟩
    rw [World.trace_log, World.trace_log, World.trace_log, htrace']
    simp
  · rename_i hfail
    refine ⟨rfl, _, hjudged (iff_of_false Bool.false_ne_true hfail), .inr ⟨rfl, hflags.2, ?_⟩⟩
    rw [World.trace_log, World.trace_log, htrace']
    simp

@[simp] theorem AuthEngine.mFaceId_authenticate (status : AuthStatus) (a : AuthEngine)
    (st : Storage) : (a.authenticate status st).2.2.mFaceId = a.mFaceId := by
  simp only [AuthEngine.authenticate]
  split <;> rfl

/-- The SDK answers about a frame with an error, without a comparison, or by comparing it
to the template stored under the face id. -/
theorem AuthEngine.authenticate_cases (status : AuthStatus) (a : AuthEngine) (st : Storage) :
    let r := a.authenticate status st
    (r.1.done = false ∧ r.1.compared = false ∧ r.2.1 = none) ∨
      ∃ t, (st.stAuth a.mUseTee).find a.mFaceId = some t ∧ r.1.compared = true ∧
        r.1.error = none ∧ r.2.1 = some t := by
  intro r
  -- A status that means a comparison is not given for a face id without a template.
  have hstored
      (h : AuthStatus.isCompared (authUnlock status ((st.stAuth a.mUseTee).find a.mFaceId)) =
        true) :
      ∃ t, (st.stAuth a.mUseTee).find a.mFaceId = some t := by
    rw [← Option.isSome_iff_exists]
    by_contra hnone
    unfold authUnlock at h
    split at h
    · simp [AuthStatus.isCompared] at h
    · rename_i hstatus
      refine hstatus ?_
      rw [h, Bool.true_and]
      simpa using hnone
  simp only [r, AuthEngine.authenticate]
  split
  · rename_i hstatus
    obtain ⟨t, ht⟩ := hstored (by rw [hstatus]; rfl)
    exact .inr ⟨t, ht, rfl, rfl, ht⟩
  · rename_i hstatus
    obtain ⟨t, ht⟩ := hstored (by rw [hstatus]; rfl)
    exact .inr ⟨t, ht, rfl, rfl, ht⟩
  · rename_i hstatus
    obtain ⟨t, ht⟩ := hstored (by rw [hstatus]; rfl)
    exact .inr ⟨t, ht, rfl, rfl, ht⟩
  all_goals exact .inl ⟨rfl, rfl, rfl⟩

/-- A turn of the st_auth loop stops at an SDK error, goes on without a comparison, or
compares the frame and stops if it matches. -/
theorem stAuthenticateFrame_cases (st : Storage) (f : Fetch) (nv21 : Nv21) (status : AuthStatus)
    (w : World) (x : StAuthLocals) :
    ∃ report, IsAuthReport report ∧
      let r := stAuthenticateFrame st f nv21 status (w, x)
      (∃ error, r.2.1.trace = w.trace ++ [.detected f, .sdkError error] ∧
          r.2.2.error = some error ∧ r.2.2.compared = x.compared ∧ r.2.2.matched = x.matched) ∨
        (r.2.1.trace = w.trace ++ .detected f :: report ∧ r.2.2.error = x.error ∧
          r.2.2.compared = x.compared ∧ r.2.2.matched = x.matched) ∨
        ∃ t, (st.stAuth x.auth.mUseTee).find x.auth.mFaceId = some t ∧ r.2.2.error = x.error ∧
          r.2.2.compared = true ∧
          ((r.2.2.matched = x.matched ∧
              r.2.1.trace = w.trace ++ .detected f :: report ++ [.compared f t]) ∨
            (r.2.2.matched = true ∧
              r.2.1.trace = w.trace ++ .detected f :: report ++
                [.compared f t, .accepted f t])) := by
  obtain ⟨report, hreport, htrace⟩ := World.trace_reportAuthFrame (w.log (.detected f))
    (x.auth.authenticate status st).1.info x.lastInfo
  refine ⟨report, hreport, ?_⟩
  have htrace' : _ = w.trace ++ .detected f :: report := htrace.trans (by simp)
  simp only [stAuthenticateFrame]
  split
  · rename_i error _
    exact .inl ⟨error, by simp, rfl, rfl, rfl⟩
  refine .inr ?_
  rcases x.auth.authenticate_cases status st with ⟨hdone, hcmp, hnone⟩ | ⟨t, ht, hcmp, -, hsome⟩
  · left
    simp [hdone, hcmp, hnone, World.logCompared, htrace']
  · right
    refine ⟨t, ht, ?_⟩
    cases hdone : (x.auth.authenticate status st).1.done with
    | true => simp [hcmp, hsome, World.logCompared, World.logAccepted, htrace']
    | false => simp [hcmp, hsome, World.logCompared, htrace']

/-! ### The loops -/

/-- What an authentication loop that begins in `s` leaves, on either engine: the flags say
which events there were, only the one template is ever compared, and the cv engine's
decisions are as they should be. -/
structure AuthLoop (s : State) (deadline : Time) (requireAttention : Bool) (evs : List Event)
    (matched compared : Bool) (error : Option Error) : Prop where
  events : LoopEvents deadline evs
  reports : ∀ c, .callback c ∈ evs → ∃ info, c = .onAuthenticationFrame info
  compared_iff : compared = true ↔ ∃ f t, .compared f t ∈ evs
  matched_iff : matched = true ↔ ∃ f t, .accepted f t ∈ evs
  error_iff : error.isSome = true ↔ ∃ er, .sdkError er ∈ evs
  reference : ∀ f t, .compared f t ∈ evs ∨ .accepted f t ∈ evs → s.reference = some t
  judged : ∀ d, .judged d ∈ evs → Judged requireAttention d
  decided : matched = true →
    s.auth.mAvailable = true ∨ ∃ d, .judged d ∈ evs ∧ d.accepted = true

namespace AuthLoop

theorem nil (s : State) (deadline : Time) (requireAttention : Bool) :
    AuthLoop s deadline requireAttention [] false false none where
  events := .nil
  reports := by simp
  compared_iff := by simp
  matched_iff := by simp
  error_iff := by simp
  reference := by simp
  judged := by simp
  decided := by simp

/-- What a turn may leave after its report. -/
def Verdict (s : State) (requireAttention : Bool) (f : Fetch) (e : Event) : Prop :=
  (∃ t, s.reference = some t ∧ (e = .compared f t ∨ e = .accepted f t)) ∨
    (∃ d, e = .judged d ∧ Judged requireAttention d) ∨
      ∃ er, e = .sdkError er

variable {s : State} {deadline : Time} {requireAttention : Bool} {evs report : List Event}
  {f : Fetch}  {matched matched' compared compared' : Bool} {error error' : Option Error}

/-- A verdict is on the frame of its turn, and neither a camera call nor a callback. -/
theorem Verdict.silent {e : Event} (h : Verdict s requireAttention f e) :
    (∀ g, e.frame = some g → g = f) ∧ (∀ g b, e ≠ .nextFrame g b) ∧
      ((∀ t ok, e ≠ .cameraStarted t ok) ∧ e ≠ .cameraStopped) ∧ ∀ c, e ≠ .callback c := by
  rcases h with ⟨t, -, rfl | rfl⟩ | ⟨d, rfl, -⟩ | ⟨er, rfl⟩ <;>
    simp [Event.frame]

/-- A verdict on a template is on the reference. -/
theorem Verdict.reference {e : Event} {t : Template} (h : Verdict s requireAttention f e)
    (ht : (∃ g, e = .compared g t) ∨ ∃ g, e = .accepted g t) : s.reference = some t := by
  rcases h with ⟨u, hu, rfl | rfl⟩ | ⟨d, rfl, -⟩ | ⟨er, rfl⟩
  · rcases ht with ⟨g, ht⟩ | ⟨g, ht⟩
    · cases ht
      exact hu
    · cases ht
  · rcases ht with ⟨g, ht⟩ | ⟨g, ht⟩
    · cases ht
    · cases ht
      exact hu
  · rcases ht with ⟨g, ht⟩ | ⟨g, ht⟩ <;> cases ht
  · rcases ht with ⟨g, ht⟩ | ⟨g, ht⟩ <;> cases ht

/-- A call that yields no frame. -/
theorem lost (h : AuthLoop s deadline requireAttention evs matched compared error)
    (hvalid : f.Valid deadline false) :
    AuthLoop s deadline requireAttention (evs ++ [.nextFrame f false]) matched compared error where
  events := h.events.turn hvalid (by simp)
  reports := by simpa using h.reports
  compared_iff := by simpa using h.compared_iff
  matched_iff := by simpa using h.matched_iff
  error_iff := by simpa using h.error_iff
  reference := by simpa using h.reference
  judged := by simpa using h.judged
  decided := by simpa using h.decided

/-- A turn of the loop. -/
theorem turn (verdicts : List Event)
    (h : AuthLoop s deadline requireAttention evs matched compared error)
    (hvalid : f.Valid deadline true)
    (hreport : IsAuthReport report) (hverdict : ∀ e ∈ verdicts, Verdict s requireAttention f e)
    (hcompared : compared' = true ↔ compared = true ∨ ∃ g t, .compared g t ∈ verdicts)
    (hmatched : matched' = true ↔ matched = true ∨ ∃ g t, .accepted g t ∈ verdicts)
    (herror : error'.isSome = true ↔ error.isSome = true ∨ ∃ er, .sdkError er ∈ verdicts)
    (hdecided : matched' = true →
      matched = true ∨ s.auth.mAvailable = true ∨
        ∃ d, .judged d ∈ verdicts ∧ d.accepted = true) :
    AuthLoop s deadline requireAttention
      (evs ++ .nextFrame f true :: (.detected f :: report ++ verdicts)) matched' compared'
      error' := by
  have hcmp (g : Fetch) (t : Template) : .compared g t ∉ report := fun he => by
    simpa using hreport.eq_frame he
  have hacc (g : Fetch) (t : Template) : .accepted g t ∉ report := fun he => by
    simpa using hreport.eq_frame he
  have hjud (d : Decision) : .judged d ∉ report := fun he => by
    simpa using hreport.eq_frame he
  have herr (er : Error) : .sdkError er ∉ report := fun he => by
    simpa using hreport.eq_frame he
  have hmem (e : Event) :
      e ∈ evs ++ .nextFrame f true :: (.detected f :: report ++ verdicts) ↔
        e ∈ evs ∨ e = .nextFrame f true ∨ e = .detected f ∨ e ∈ report ∨ e ∈ verdicts := by
    simp
  constructor
  · refine h.events.turn hvalid fun e he => ?_
    rcases List.mem_append.mp he with he | he
    · rcases List.mem_cons.mp he with rfl | he
      · simp [Event.frame]
      · obtain ⟨info, rfl⟩ := hreport.eq_frame he
        simp [Event.frame]
    · obtain ⟨hf, hfetch, hcamera, -⟩ := (hverdict e he).silent
      exact ⟨fun g hg => ⟨hf g hg, rfl⟩, hfetch, hcamera⟩
  · intro c hc
    rcases (hmem _).mp hc with hc | hc | hc | hc | hc
    · exact h.reports c hc
    · simp at hc
    · simp at hc
    · obtain ⟨info, hinfo⟩ := hreport.eq_frame hc
      exact ⟨info, Event.callback.inj hinfo⟩
    · exact absurd rfl ((hverdict _ hc).silent.2.2.2 c)
  · rw [hcompared, h.compared_iff]
    simp only [hmem, hcmp, reduceCtorEq, false_or, exists_or]
  · rw [hmatched, h.matched_iff]
    simp only [hmem, hacc, reduceCtorEq, false_or, exists_or]
  · rw [herror, h.error_iff]
    simp only [hmem, herr, reduceCtorEq, false_or, exists_or]
  · intro g t ht
    simp only [hmem, hcmp, hacc, reduceCtorEq, false_or] at ht
    rcases ht with (ht | ht) | (ht | ht)
    · exact h.reference g t (.inl ht)
    · exact (hverdict _ ht).reference (.inl ⟨g, rfl⟩)
    · exact h.reference g t (.inr ht)
    · exact (hverdict _ ht).reference (.inr ⟨g, rfl⟩)
  · intro d hd
    simp only [hmem, hjud, reduceCtorEq, false_or] at hd
    rcases hd with hd | hd
    · exact h.judged d hd
    · rcases hverdict _ hd with ⟨u, -, hu | hu⟩ | ⟨d', hu, hjudged⟩ | ⟨er, hu⟩
      · simp at hu
      · simp at hu
      · obtain rfl := Event.judged.inj hu
        exact hjudged
      · simp at hu
  · intro hm
    simp only [hmem]
    obtain hm | hst | ⟨d, hd, haccepted⟩ := hdecided hm
    · obtain hst | ⟨d, hd, haccepted⟩ := h.decided hm
      · exact .inl hst
      · exact .inr ⟨d, .inl hd, haccepted⟩
    · exact .inl hst
    · exact .inr ⟨d, .inr (.inr (.inr (.inr hd))), haccepted⟩

end AuthLoop

theorem now_le_authenticateFrame (requireAttention useTee : Bool) (orientation : FaceOrientation)
    (st : Storage) (f : Fetch) (nv21 : Nv21) (a : ProbeAnswers) (p : World × AuthLocals) :
    p.1.now ≤
      (authenticateFrame requireAttention useTee orientation st f nv21 a p).2.1.now := by
  simp only [authenticateFrame]
  split
  · simp
  · split
    · simp
    · split
      · simp
      · split <;> simp

theorem authenticateLoop {s : State} (hcv : s.auth.mAvailable = false) (requireAttention : Bool)
    (orientation : FaceOrientation) (deadline : Time) (calls : List (Call ProbeAnswers))
    (w : World) (tee : FaceTee) :
    let l := whileFrames deadline
      (authenticateFrame requireAttention s.useTee orientation s.storage) calls
      (w, { tee, lastFace := w.now })
    ∃ evs, l.1.trace = w.trace ++ evs ∧ w.now ≤ l.1.now ∧
      AuthLoop s deadline requireAttention evs l.2.matched l.2.compared none := by
  have href {t : Template}
      (h : (if s.useTee then s.storage.teeFeature else s.storage.featureFile) = some t) :
      s.reference = some t := by
    rw [← h, State.reference, hcv]
    rfl
  have hnow : w.now ≤ (whileFrames deadline
      (authenticateFrame requireAttention s.useTee orientation s.storage) calls
      (w, { tee, lastFace := w.now })).1.now :=
    now_le_whileFrames (now_le_authenticateFrame requireAttention s.useTee orientation s.storage)
      calls (w, { tee, lastFace := w.now })
  refine (whileFrames_invariant
    (I := fun evs (x : AuthLocals) =>
      AuthLoop s deadline requireAttention evs x.matched x.compared none)
    ?_ ?_ calls w _ (.nil s deadline requireAttention)).imp fun evs h => ⟨h.1, hnow, h.2⟩
  · intro evs x f nv21 a w h hvalid
    obtain ⟨report, hreport, hcases⟩ := authenticateFrame_cases requireAttention s.useTee
      orientation s.storage f nv21 a w x
    rcases hcases with ⟨htr, hc, hm⟩ | ⟨t, ht, hc, d, hj, ⟨hd, hm, htr⟩ | ⟨-, hm, htr⟩⟩
    · refine ⟨.detected f :: report ++ [], by simpa using htr, ?_⟩
      rw [hc, hm]
      exact h.turn [] hvalid hreport (by simp) (by simp) (by simp) (by simp) .inl
    · refine ⟨_, by rw [htr, List.append_assoc], ?_⟩
      rw [hc, hm]
      refine h.turn _ hvalid hreport ?_ (by simp) (by simp) (by simp) (by simp [hd])
      simp [AuthLoop.Verdict, href ht, hj]
    · refine ⟨_, by rw [htr, List.append_assoc], ?_⟩
      rw [hc, hm]
      refine h.turn _ hvalid hreport ?_ (by simp) (by simp) (by simp) .inl
      simp [AuthLoop.Verdict, href ht, hj]
  · intro evs x f h hvalid
    exact h.lost hvalid

theorem now_le_stAuthenticateFrame (st : Storage) (f : Fetch) (nv21 : Nv21)
    (status : AuthStatus) (p : World × StAuthLocals) :
    p.1.now ≤ (stAuthenticateFrame st f nv21 status p).2.1.now := by
  have hcompared (w : World) (t : Option Template) : (w.logCompared f t).now = w.now := by
    cases t <;> rfl
  have haccepted (w : World) (t : Option Template) : (w.logAccepted f t).now = w.now := by
    cases t <;> rfl
  simp only [stAuthenticateFrame]
  split
  · exact le_rfl
  · split <;> simp [hcompared, haccepted]

theorem stAuthenticateFrame_auth (st : Storage) (f : Fetch) (nv21 : Nv21) (status : AuthStatus)
    (p : World × StAuthLocals) :
    (stAuthenticateFrame st f nv21 status p).2.2.auth = (p.2.auth.authenticate status st).2.2 := by
  simp only [stAuthenticateFrame]
  split
  · rfl
  · split <;> rfl

theorem stAuthenticateLoop {s : State} {auth : AuthEngine} {faceId : Int}
    (hst : s.auth.mAvailable = true) (hsetup : auth.setup = s.auth.setup)
    (hface : (s.storage.faceIdFile.bind fun text => parseInt text 0) = some faceId)
    (hid : auth.mFaceId = faceId) (requireAttention : Bool) (deadline : Time)
    (calls : List (Call AuthStatus)) (w : World) :
    let l := whileFrames deadline (stAuthenticateFrame s.storage) calls (w, { auth })
    ∃ evs, l.1.trace = w.trace ++ evs ∧ w.now ≤ l.1.now ∧ l.2.auth.setup = s.auth.setup ∧
      AuthLoop s deadline requireAttention evs l.2.matched l.2.compared l.2.error := by
  have href {x : StAuthLocals} {t : Template} (hx : x.auth.setup = s.auth.setup)
      (hid : x.auth.mFaceId = faceId)
      (h : (s.storage.stAuth x.auth.mUseTee).find x.auth.mFaceId = some t) :
      s.reference = some t := by
    rw [AuthEngine.mUseTee_eq_of_setup hx, hid] at h
    rw [State.reference, hst, hface]
    exact h
  have hnow : w.now ≤
      (whileFrames deadline (stAuthenticateFrame s.storage) calls (w, { auth })).1.now :=
    now_le_whileFrames (now_le_stAuthenticateFrame s.storage) calls (w, { auth })
  refine (whileFrames_invariant
    (I := fun evs (x : StAuthLocals) => x.auth.setup = s.auth.setup ∧ x.auth.mFaceId = faceId ∧
      AuthLoop s deadline requireAttention evs x.matched x.compared x.error) ?_ ?_ calls w { auth }
    ⟨hsetup, hid, .nil s deadline requireAttention⟩).imp fun evs h => ⟨h.1, hnow, h.2.1, h.2.2.2⟩
  · rintro evs x f nv21 status w ⟨hx, hid, h⟩ hvalid
    obtain ⟨report, hreport, hcases⟩ := stAuthenticateFrame_cases s.storage f nv21 status w x
    have hauth := stAuthenticateFrame_auth s.storage f nv21 status (w, x)
    have hkept : (stAuthenticateFrame s.storage f nv21 status (w, x)).2.2.auth.setup =
        s.auth.setup ∧
        (stAuthenticateFrame s.storage f nv21 status (w, x)).2.2.auth.mFaceId = faceId := by
      rw [hauth, AuthEngine.setup_authenticate, AuthEngine.mFaceId_authenticate]
      exact ⟨hx, hid⟩
    rcases hcases with ⟨er, htr, her, hc, hm⟩ | ⟨htr, her, hc, hm⟩ |
      ⟨t, ht, her, hc, ⟨hm, htr⟩ | ⟨hm, htr⟩⟩
    · refine ⟨_, htr, hkept.1, hkept.2, ?_⟩
      rw [hc, hm, her]
      exact h.turn [.sdkError er] hvalid (.inl rfl) (by simp [AuthLoop.Verdict]) (by simp)
        (by simp) (by simp) .inl
    · refine ⟨.detected f :: report ++ [], by simpa using htr, hkept.1, hkept.2, ?_⟩
      rw [hc, hm, her]
      exact h.turn [] hvalid hreport (by simp) (by simp) (by simp) (by simp) .inl
    · refine ⟨_, by rw [htr, List.append_assoc], hkept.1, hkept.2, ?_⟩
      rw [hc, hm, her]
      refine h.turn _ hvalid hreport ?_ (by simp) (by simp) (by simp) .inl
      simp [AuthLoop.Verdict, href hx hid ht]
    · refine ⟨_, by rw [htr, List.append_assoc], hkept.1, hkept.2, ?_⟩
      rw [hc, hm, her]
      refine h.turn _ hvalid hreport ?_ (by simp) (by simp) (by simp) fun _ => .inr (.inl hst)
      simp [AuthLoop.Verdict, href hx hid ht]
  · rintro evs x f ⟨hx, hid, h⟩ hvalid
    exact ⟨hx, hid, h.lost hvalid⟩

/-! ### The whole attempt -/

/-- How an attempt that looked at frames ends, from the flags of its loop. -/
def State.conclude (s : State) (user enrollmentId : Int32) (failElapsed : ℕ)
    (matched compared : Bool) (error : Option Error) : State :=
  if matched then (s.eraseLockout user).emit (.onAuthenticationSucceeded enrollmentId)
  else
    match error with
    | some error => s.emit (.onError error)
    | none =>
        if s.world.cancelled then s.emit (.onError .canceled)
        else if compared then onAuthenticationFailedLocked user failElapsed s
        else s.emit (.onError .timeout)

/-- How `conclude` goes, with what it depends on. -/
inductive Conclusion (s : State) (user enrollmentId : Int32) (failElapsed : ℕ) :
    Bool → Bool → Option Error → State → Prop
  | succeeded {compared : Bool} {error : Option Error} :
      Conclusion s user enrollmentId failElapsed true compared error
        ((s.eraseLockout user).emit (.onAuthenticationSucceeded enrollmentId))
  | ended {compared : Bool} {error : Option Error} (er : Error)
      (h : error.isSome = true ∨ s.world.cancelled = true ∨ compared = false) :
      Conclusion s user enrollmentId failElapsed false compared error (s.emit (.onError er))
  | failed (h : s.world.cancelled = false) :
      Conclusion s user enrollmentId failElapsed false true none
        (onAuthenticationFailedLocked user failElapsed s)

theorem conclude_conclusion (s : State) (user enrollmentId : Int32) (failElapsed : ℕ)
    (matched compared : Bool) (error : Option Error) :
    Conclusion s user enrollmentId failElapsed matched compared error
      (s.conclude user enrollmentId failElapsed matched compared error) := by
  cases matched with
  | true => exact .succeeded
  | false =>
      cases error with
      | some er => exact .ended er (.inl rfl)
      | none =>
          simp only [State.conclude, Bool.false_eq_true, if_false]
          cases hcancelled : s.world.cancelled with
          | true => exact .ended _ (.inr (.inl hcancelled))
          | false =>
              cases compared with
              | true => exact .failed hcancelled
              | false => exact .ended _ (.inr (.inr rfl))

/-- What a failed attempt does to the tracker of its user. -/
structure Failed (user : Int32) (s : State) (t : LockoutTracker) (s' : State) : Prop where
  keeps : { s with sLockouts := Function.update s.sLockouts user t }.Keeps s'
  failures : t.failures = (s.sLockouts user).failures + 1
  timed : t.failures < kLockoutPermanentFailures → t.failures % kLockoutTimedFailures = 0 →
    t.lockedUntil = s'.world.now + kLockoutDuration
  trace : ∃ report, s'.world.trace =
      s.world.trace ++ .callback .onAuthenticationFailed :: report ∧
    (report = [] ∨ report = [.callback .onLockoutPermanent] ∨
      ∃ ms, report = [.callback (.onLockoutTimed ms)])

theorem onAuthenticationFailedLocked_failed (user : Int32) (elapsed : ℕ) (s : State) :
    ∃ t, Failed user s t (onAuthenticationFailedLocked user elapsed s) := by
  set counted : LockoutTracker :=
    { s.sLockouts user with failures := (s.sLockouts user).failures + 1 }
  have hcounted : { s with sLockouts := Function.update s.sLockouts user counted }.Keeps
      ((s.emit .onAuthenticationFailed).setLockout user counted) :=
    (State.Keeps.refl _).emit _
  simp only [onAuthenticationFailedLocked]
  split
  · rename_i hpermanent
    refine ⟨counted, hcounted.emit _, rfl, ?_, _, by simp [State.setLockout], .inr (.inl rfl)⟩
    intro hlt
    exact absurd hpermanent (not_le.mpr hlt)
  · split
    · rename_i htimed
      set locked : LockoutTracker := ⟨counted.failures, s.world.now + elapsed + kLockoutDuration⟩
      refine ⟨locked, ?_, rfl, fun _ _ => rfl,
        [.callback (.onLockoutTimed (kLockoutDuration / 10 ^ 6))], by simp [State.setLockout],
        .inr (.inr ⟨_, rfl⟩)⟩
      have hupdate : Function.update (Function.update s.sLockouts user counted) user locked =
          Function.update s.sLockouts user locked :=
        Function.update_idem _ _ _
      exact ⟨rfl, hupdate, rfl, rfl, rfl, rfl, rfl, Nat.le_add_right _ _⟩
    · rename_i htimed
      refine ⟨counted, hcounted, rfl, fun _ h => absurd h htimed, [], by simp [State.setLockout],
        .inl rfl⟩

/-- The callbacks at the end of an attempt that ran its loop. -/
theorem Conclusion.trace {s s' : State} {user enrollmentId : Int32} {failElapsed : ℕ}
    {matched compared : Bool} {error : Option Error}
    (h : Conclusion s user enrollmentId failElapsed matched compared error s') :
    ∃ cs : List Callback, s'.world.trace = s.world.trace ++ cs.map .callback ∧
      (∀ id, .onAuthenticationSucceeded id ∈ cs → matched = true ∧ id = enrollmentId) ∧
      ∀ id remaining, .onEnrollmentProgress id remaining ∉ cs := by
  cases h with
  | succeeded =>
      refine ⟨[.onAuthenticationSucceeded enrollmentId], rfl, ?_, by simp⟩
      simp
  | ended er h => exact ⟨[.onError er], rfl, by simp, by simp⟩
  | failed h =>
      obtain ⟨t, hfailed⟩ := onAuthenticationFailedLocked_failed user failElapsed s
      obtain ⟨report, htrace, hreport⟩ := hfailed.trace
      rcases hreport with rfl | rfl | ⟨ms, rfl⟩
      · exact ⟨[.onAuthenticationFailed], htrace, by simp, by simp⟩
      · exact ⟨[.onAuthenticationFailed, .onLockoutPermanent], htrace, by simp, by simp⟩
      · exact ⟨[.onAuthenticationFailed, .onLockoutTimed ms], htrace, by simp, by simp⟩

/-- The attempt gets as far as starting the camera, in `s₁`. -/
structure Admitted (user : Int32) (e : Enrollment) (s s₁ : State) : Prop where
  keeps : s.Keeps s₁
  trace : s₁.world.trace = s.world.trace
  userId : e.userId = user
  engine : e.engine = engineName s
  failures : (s.sLockouts user).failures < kLockoutPermanentFailures
  unlocked : (s.sLockouts user).lockedUntil ≤ s₁.world.now

/-- The callbacks by which an attempt is turned away. -/
def Callback.IsRefusal (c : Callback) : Prop :=
  c = .onLockoutPermanent ∨ (∃ ms, c = .onLockoutTimed ms) ∨ ∃ er, c = .onError er

/-- How an authentication of `user` that begins in `s` can go. -/
inductive Attempt (user : Int32) (io : AuthenticateIO) (s : State) : State → Prop
  | terminated {ex : StdException}
      (load : Enrollment.load s.storage.enrollmentFile = .error ex) :
      Attempt user io s (s.terminate ex)
  | refused {s' : State} {c : Callback} (keeps : s.Keeps s') (refusal : c.IsRefusal)
      (trace : s'.world.trace = s.world.trace ++ [.callback c]) : Attempt user io s s'
  | frameless {e : Enrollment} {s₁ s' : State} {started : Bool} {er : Error}
      (load : Enrollment.load s.storage.enrollmentFile = .ok e)
      (admitted : Admitted user e s s₁) (keeps : s₁.Keeps s')
      (trace : s'.world.trace = s.world.trace ++ .cameraStarted s₁.world.now started ::
        ((if started then [.cameraStopped] else []) ++ [.callback (.onError er)])) :
      Attempt user io s s'
  | ran {e : Enrollment} {s₁ s₂ : State} {evs : List Event} {matched compared : Bool}
      {error : Option Error} {failElapsed : ℕ}
      (load : Enrollment.load s.storage.enrollmentFile = .ok e)
      (admitted : Admitted user e s s₁) (keeps : s₁.Keeps s₂)
      (trace : s₂.world.trace =
        s.world.trace ++ .cameraStarted s₁.world.now true :: (evs ++ [.cameraStopped]))
      (loop : AuthLoop s (io.deadline s₁.world.now) e.requireAttention evs matched compared
        error) :
      Attempt user io s
        (s₂.conclude user e.enrollmentId failElapsed matched compared error)

theorem State.Keeps.reference {s s' : State} (h : s.Keeps s') : s'.reference = s.reference := by
  simp only [State.reference, h.storage, h.useTee, h.mAvailable, h.mUseTee]

theorem AuthLoop.of_keeps {s s' : State} {deadline : Time} {requireAttention : Bool}
    {evs : List Event} {matched compared : Bool} {error : Option Error} (hk : s.Keeps s')
    (h : AuthLoop s' deadline requireAttention evs matched compared error) :
    AuthLoop s deadline requireAttention evs matched compared error :=
  { h with
    reference := fun f t ht => hk.reference ▸ h.reference f t ht
    decided := fun hm => hk.mAvailable ▸ h.decided hm }

theorem checkLockoutLocked_true {user : Int32} {elapsed : ℕ} {s : State}
    (h : (checkLockoutLocked user elapsed s).1 = true) :
    s.Keeps (checkLockoutLocked user elapsed s).2 ∧ ∃ c : Callback, c.IsRefusal ∧
      (checkLockoutLocked user elapsed s).2.world.trace = s.world.trace ++ [.callback c] := by
  simp only [checkLockoutLocked] at h ⊢
  split at h
  · rename_i hfailures
    rw [if_pos hfailures]
    exact ⟨(State.Keeps.refl s).emit _, _, .inl rfl, rfl⟩
  · rename_i hfailures
    split at h
    · rename_i hlocked
      rw [if_neg hfailures, if_pos hlocked]
      have htick := (State.Keeps.refl s).world (w := s.world.tick elapsed) (Nat.le_add_right _ _)
      exact ⟨htick.emit _, _, .inr (.inl ⟨_, rfl⟩), rfl⟩
    · simp at h

theorem checkLockoutLocked_false {user : Int32} {elapsed : ℕ} {s : State}
    (h : (checkLockoutLocked user elapsed s).1 = false) :
    (checkLockoutLocked user elapsed s).2 = { s with world := s.world.tick elapsed } ∧
      (s.sLockouts user).failures < kLockoutPermanentFailures ∧
      (s.sLockouts user).lockedUntil ≤ s.world.now + elapsed := by
  simp only [checkLockoutLocked] at h ⊢
  split at h
  · simp at h
  · rename_i hfailures
    split at h
    · simp at h
    · rename_i hlocked
      rw [if_neg hfailures, if_neg hlocked]
      exact ⟨rfl, not_le.mp hfailures, not_lt.mp hlocked⟩

/-- An attempt whose camera does not start. -/
theorem Attempt.of_noCamera {user : Int32} {io : AuthenticateIO} {e : Enrollment} {s s₁ : State}
    (load : Enrollment.load s.storage.enrollmentFile = .ok e) (admitted : Admitted user e s s₁)
    {start : StartIO} (h : (s₁.world.startCamera false start).1 = false) :
    Attempt user io s
      ({ s₁ with world := (s₁.world.startCamera false start).2 }.emit
        (.onError .hwUnavailable)) := by
  have hstart := (State.Keeps.refl s₁).world (w := (s₁.world.startCamera false start).2) le_rfl
  have htrace : ({ s₁ with world := (s₁.world.startCamera false start).2 }.emit
      (.onError .hwUnavailable)).world.trace = s.world.trace ++
        .cameraStarted s₁.world.now false ::
          ((if false then [.cameraStopped] else []) ++ [.callback (.onError .hwUnavailable)]) := by
    rw [State.trace_emit, World.trace_startCamera, h, admitted.trace]
    simp
  exact .frameless load admitted (hstart.emit _) htrace

/-- On the cv engine an admitted attempt gets no camera or runs its loop. -/
theorem doAuthenticateCv_attempt {user : Int32} {e : Enrollment} {s s₁ : State}
    (load : Enrollment.load s.storage.enrollmentFile = .ok e) (admitted : Admitted user e s s₁)
    (hcv : s₁.auth.mAvailable = false) (io : AuthenticateIO) :
    Attempt user io s (doAuthenticateCv user e io s₁) := by
  simp only [doAuthenticateCv]
  split
  · rename_i hfailed
    exact .of_noCamera load admitted (by simpa using hfailed)
  rename_i hstarted
  have hok : (s₁.world.startCamera false io.start).1 = true := by simpa using hstarted
  set w := (s₁.world.startCamera false io.start).2.tick io.startElapsed
  obtain ⟨evs, htrace, hnow, hloop⟩ := authenticateLoop hcv e.requireAttention
    (faceOrientation w.camera.mSensorOrientation) (w.now + kAuthTimeout) io.cv w s₁.tee
  set l := whileFrames (w.now + kAuthTimeout)
    (authenticateFrame e.requireAttention s₁.useTee
      (faceOrientation w.camera.mSensorOrientation) s₁.storage) io.cv
    (w, { tee := s₁.tee, lastFace := w.now })
  have hkeeps : s₁.Keeps { s₁ with world := l.1.stopCamera.pass io.stop, tee := l.2.tee } := by
    apply ((State.Keeps.refl s₁).handles s₁.engine l.2.tee).world
    have hstart : s₁.world.now ≤ w.now := Nat.le_add_right _ _
    exact (hstart.trans hnow).trans (Nat.le_add_right _ _)
  have hend : l.1.stopCamera.trace =
      s.world.trace ++ .cameraStarted s₁.world.now true :: (evs ++ [.cameraStopped]) := by
    rw [World.trace_cameraUse hok htrace, admitted.trace]
  have hran : Attempt user io s
      (State.conclude { s₁ with world := l.1.stopCamera.pass io.stop, tee := l.2.tee } user
        e.enrollmentId io.failElapsed l.2.matched l.2.compared none) :=
    .ran load admitted hkeeps hend (hloop.of_keeps admitted.keeps)
  exact hran

theorem AuthEngine.beginAuthenticate_none {ok requireAttention : Bool} {a : AuthEngine}
    {st : Storage} (h : (a.beginAuthenticate ok requireAttention st).1 = none) :
    (st.faceIdFile.bind fun text => parseInt text 0) =
      some (a.beginAuthenticate ok requireAttention st).2.mFaceId := by
  cases hface : st.faceIdFile.bind fun text => parseInt text 0 with
  | none => simp [AuthEngine.beginAuthenticate, hface] at h
  | some faceId =>
      simp only [AuthEngine.beginAuthenticate, hface]
      split <;> rfl

/-- On st_auth it may also be turned away once the camera runs. -/
theorem doAuthenticateAuth_attempt {user : Int32} {e : Enrollment} {s s₁ : State}
    (load : Enrollment.load s.storage.enrollmentFile = .ok e) (admitted : Admitted user e s s₁)
    (hst : s₁.auth.mAvailable = true) (io : AuthenticateIO) :
    Attempt user io s (doAuthenticateAuth user e io s₁) := by
  simp only [doAuthenticateAuth]
  split
  · rename_i hfailed
    exact .of_noCamera load admitted (by simpa using hfailed)
  rename_i hstarted
  have hok : (s₁.world.startCamera false io.start).1 = true := by simpa using hstarted
  set b := s₁.auth.beginAuthenticate io.setFaceOrientation e.requireAttention s₁.storage with hb
  have hsetup : b.2.setup = s₁.auth.setup := AuthEngine.setup_beginAuthenticate _ _ _ _
  split
  · rename_i er _
    have hkeeps : s₁.Keeps
        { s₁ with world := (s₁.world.startCamera false io.start).2.stopCamera, auth := b.2 } :=
      { State.Keeps.refl s₁ with setup := hsetup }
    have htrace : (s₁.world.startCamera false io.start).2.stopCamera.trace ++
        [.callback (.onError er)] = s.world.trace ++ .cameraStarted s₁.world.now true ::
          ((if true then [.cameraStopped] else []) ++ [.callback (.onError er)]) := by
      rw [World.trace_stopCamera, World.trace_startCamera, hok, admitted.trace]
      simp
    exact .frameless load admitted (hkeeps.emit (.onError er)) htrace
  rename_i hnone
  set w := (s₁.world.startCamera false io.start).2.tick io.startElapsed
  obtain ⟨evs, htrace, hnow, hauth, hloop⟩ := stAuthenticateLoop hst hsetup
    (AuthEngine.beginAuthenticate_none hnone) rfl e.requireAttention (w.now + kAuthTimeout)
    io.stAuth w
  set l := whileFrames (w.now + kAuthTimeout) (stAuthenticateFrame s₁.storage) io.stAuth
    (w, { auth := b.2 })
  have hkeeps : s₁.Keeps { s₁ with world := l.1.stopCamera.pass io.stop, auth := l.2.auth } := by
    have hstart : s₁.world.now ≤ w.now := Nat.le_add_right _ _
    exact { State.Keeps.refl s₁ with
      setup := hauth
      now_le := (hstart.trans hnow).trans (Nat.le_add_right _ _) }
  have hend : l.1.stopCamera.trace =
      s.world.trace ++ .cameraStarted s₁.world.now true :: (evs ++ [.cameraStopped]) := by
    rw [World.trace_cameraUse hok htrace, admitted.trace]
  have hran : Attempt user io s
      (State.conclude { s₁ with world := l.1.stopCamera.pass io.stop, auth := l.2.auth } user
        e.enrollmentId io.failElapsed l.2.matched l.2.compared l.2.error) :=
    .ran load admitted hkeeps hend (hloop.of_keeps admitted.keeps)
  exact hran

theorem authenticateWith_attempt {user : Int32} {e : Enrollment} {s : State}
    (load : Enrollment.load s.storage.enrollmentFile = .ok e) (io : AuthenticateIO) :
    Attempt user io s (authenticateWith user io e s) := by
  simp only [authenticateWith]
  split
  · exact .refused ((State.Keeps.refl s).emit _) (.inr (.inr ⟨_, rfl⟩)) rfl
  rename_i huser
  split
  · rename_i hlocked
    obtain ⟨hkeeps, c, hc, htrace⟩ := checkLockoutLocked_true hlocked
    exact .refused hkeeps hc htrace
  rename_i hunlocked
  obtain ⟨hcheck, hfailures, huntil⟩ :=
    checkLockoutLocked_false (Bool.eq_false_iff.mpr hunlocked)
  rw [hcheck]
  set s₀ : State := { s with world := s.world.tick io.checkElapsed }
  have hs₀ : s.Keeps s₀ := (State.Keeps.refl s).world (Nat.le_add_right _ _)
  have hprepare := hs₀.trans (keeps_prepare io.prepare s₀)
  have htrace := trace_prepare io.prepare s₀
  split
  · rename_i hfailed
    refine .refused hprepare (.inr (.inr ⟨.hwUnavailable, rfl⟩)) ?_
    rw [htrace, if_neg (by simpa using hfailed)]
    rfl
  rename_i hready
  rw [if_pos (by simpa using hready), List.append_nil] at htrace
  split
  · have htrace' : ((prepare io.prepare s₀).2.emit (.onError .reenrollRequired)).world.trace =
        s.world.trace ++ [.callback (.onError .reenrollRequired)] := by
      rw [State.trace_emit, htrace]
      rfl
    exact .refused (hprepare.emit _) (.inr (.inr ⟨_, rfl⟩)) htrace'
  rename_i hengine
  have admitted : Admitted user e s (prepare io.prepare s₀).2 :=
    { keeps := hprepare
      trace := htrace
      userId := not_not.mp huser
      engine := (not_not.mp hengine).trans hprepare.engineName
      failures := hfailures
      unlocked := huntil.trans (keeps_prepare io.prepare s₀).now_le }
  split
  · rename_i hst
    exact doAuthenticateAuth_attempt load admitted hst io
  · rename_i hcv
    exact doAuthenticateCv_attempt load admitted (Bool.eq_false_iff.mpr hcv) io

theorem doAuthenticate_attempt (user : Int32) (io : AuthenticateIO) (s : State) :
    Attempt user io s (doAuthenticate user io s) := by
  simp only [doAuthenticate, State.withEnrollment]
  split
  · rename_i hload
    exact .terminated hload
  · rename_i hload
    exact authenticateWith_attempt hload io

end OneplusHal.Face

import OneplusHal.Face.Alike

/-!
The turns of the capture loops in states that the user does not tell apart.
-/

namespace OneplusHal.Face

open OneplusHal

/-! ### Reports and ghosts -/

namespace World.Alike

variable {w w' : World} (h : w.Alike w')

include h

theorem reportAuthFrame (info lastInfo : AcquiredInfo) :
    (w.reportAuthFrame info lastInfo).Alike (w'.reportAuthFrame info lastInfo) := by
  unfold World.reportAuthFrame
  split
  · exact h.emit _
  · exact h

theorem reportFirstFrame (first : Bool) :
    (w.reportFirstFrame first).Alike (w'.reportFirstFrame first) := by
  unfold World.reportFirstFrame
  split
  · exact h.emit _
  · exact h

theorem reportEnrollFrame (info lastInfo : AcquiredInfo) :
    (w.reportEnrollFrame info lastInfo).Alike (w'.reportEnrollFrame info lastInfo) := by
  unfold World.reportEnrollFrame
  split
  · exact h.emit _
  · exact h

/-- An event that is no callback, in one world alone. -/
theorem log_right {e : Event} (he : e.callback? = none) : w.Alike (w'.log e) :=
  { h with
    callbacks := by
      simp only [trace_log, List.filterMap_append, List.filterMap_cons, he, List.filterMap_nil,
        List.append_nil, h.callbacks] }

theorem log_left {e : Event} (he : e.callback? = none) : (w.log e).Alike w' :=
  (h.symm.log_right he).symm

theorem logCompared (f : Fetch) (t t' : Option Template) :
    (w.logCompared f t).Alike (w'.logCompared f t') := by
  have hleft : (w.logCompared f t).Alike w' := by
    cases t with
    | none => exact h
    | some t => exact h.log_left rfl
  cases t' with
  | none => exact hleft
  | some t' => exact hleft.log_right rfl

theorem logAccepted (f : Fetch) (t t' : Option Template) :
    (w.logAccepted f t).Alike (w'.logAccepted f t') := by
  have hleft : (w.logAccepted f t).Alike w' := by
    cases t with
    | none => exact h
    | some t => exact h.log_left rfl
  cases t' with
  | none => exact hleft
  | some t' => exact hleft.log_right rfl

theorem logCaptured (f : Fetch) (stores : Bool) :
    (w.logCaptured f stores).Alike (w'.logCaptured f stores) := by
  unfold World.logCaptured
  split
  · exact h.log rfl
  · exact h

end World.Alike

/-! ### The turns -/

theorem matchFeature_alike {st st' : Storage} (h : st.Alike st') (io : MatchIO) (useTee : Bool)
    (probe : List UInt8) (tee : FaceTee) :
    (matchFeature io useTee probe tee st').1.map Prod.fst =
        (matchFeature io useTee probe tee st).1.map Prod.fst ∧
      (matchFeature io useTee probe tee st').2 = (matchFeature io useTee probe tee st).2 := by
  cases useTee with
  | true =>
      simp only [matchFeature, if_true]
      split
      · exact ⟨rfl, rfl⟩
      · exact ⟨FaceTee.compare_alike h io.compare io.score, rfl⟩
  | false =>
      have hfile := h.featureFile
      simp only [matchFeature, Bool.false_eq_true, if_false]
      cases io.readFails with
      | true => exact ⟨rfl, rfl⟩
      | false =>
          simp only [Bool.false_eq_true, if_false]
          cases hst : st.featureFile with
          | none =>
              have hst' : st'.featureFile = none := by simpa [hst] using hfile
              rw [hst']
              exact ⟨rfl, rfl⟩
          | some t =>
              obtain ⟨t', hst', ht⟩ := Option.map_eq_some_iff.mp (hfile.trans (by rw [hst]; rfl))
              simp only [hst', ht]
              split <;> exact ⟨rfl, rfl⟩

theorem authenticateFrame_alike {st st' : Storage} (hst : st.Alike st')
    (requireAttention useTee : Bool) (orientation : FaceOrientation) (f : Fetch) (nv21 : Nv21)
    (a : ProbeAnswers) {w w' : World} (hw : w.Alike w') (x : AuthLocals) :
    let r := authenticateFrame requireAttention useTee orientation st f nv21 a (w, x)
    let r' := authenticateFrame requireAttention useTee orientation st' f nv21 a (w', x)
    r'.1 = r.1 ∧ r.2.1.Alike r'.2.1 ∧ r.2.2 = r'.2.2 := by
  have hseen := (hw.logSame (.detected f)).tick a.elapsed
  simp only [authenticateFrame, hseen.now]
  have hreported := hseen.reportAuthFrame (acquireProbe requireAttention a.frame
    (detect a.frame orientation x.large true) ((w.log (.detected f)).tick a.elapsed).now x).1
    x.lastInfo
  split
  · exact ⟨rfl, hreported, rfl⟩
  · split
    · exact ⟨rfl, hreported, rfl⟩
    · -- The two scores are the same, whatever the origins of the templates.
      have hmatch := matchFeature_alike hst a.probe useTee (extractFeature a.frame)
        (acquireProbe requireAttention a.frame (detect a.frame orientation x.large true)
          ((w.log (.detected f)).tick a.elapsed).now x).2.tee
      generalize matchFeature a.probe useTee (extractFeature a.frame) _ st = m at *
      generalize matchFeature a.probe useTee (extractFeature a.frame) _ st' = m' at *
      obtain ⟨found, tee⟩ := m
      obtain ⟨found', tee'⟩ := m'
      obtain ⟨hfound, rfl⟩ := hmatch
      cases found with
      | none =>
          obtain rfl : found' = none := Option.map_eq_none_iff.mp hfound
          exact ⟨rfl, hreported, rfl⟩
      | some p =>
          obtain ⟨⟨score, t'⟩, rfl, rfl⟩ := Option.map_eq_some_iff.mp hfound
          have hevent : (Event.compared f t').callback? = (Event.compared f p.2).callback? := rfl
          have hcompared := hreported.log hevent
          simp only
          split
          · exact ⟨rfl, (hcompared.log rfl).log rfl, rfl⟩
          · exact ⟨rfl, hcompared.log rfl, rfl⟩

theorem stAuthenticateFrame_alike {st st' : Storage} (hst : st.Alike st') (f : Fetch)
    (nv21 : Nv21) (status : AuthStatus) {w w' : World} (hw : w.Alike w') (x : StAuthLocals) :
    let r := stAuthenticateFrame st f nv21 status (w, x)
    let r' := stAuthenticateFrame st' f nv21 status (w', x)
    r'.1 = r.1 ∧ r.2.1.Alike r'.2.1 ∧ r.2.2 = r'.2.2 := by
  obtain ⟨hresult, -, hauth⟩ := AuthEngine.authenticate_alike hst status x.auth
  have hseen := hw.logSame (.detected f)
  simp only [stAuthenticateFrame, hresult, hauth]
  have hcompared := (hseen.reportAuthFrame (x.auth.authenticate status st).1.info
    x.lastInfo).logCompared f (x.auth.authenticate status st).2.1
      (x.auth.authenticate status st').2.1
  cases (x.auth.authenticate status st).1.error with
  | some error => exact ⟨rfl, hseen.log rfl, rfl⟩
  | none =>
      simp only
      split
      · exact ⟨rfl, hcompared.logAccepted f _ _, rfl⟩
      · exact ⟨rfl, hcompared, rfl⟩

theorem enrollFrame_alike (orientation : FaceOrientation) (enrollmentId : Int32) (f : Fetch)
    (nv21 : Nv21) (a : CvFrame) {w w' : World} (hw : w.Alike w') (x : EnrollLocals) :
    let r := enrollFrame orientation enrollmentId f nv21 a (w, x)
    let r' := enrollFrame orientation enrollmentId f nv21 a (w', x)
    r'.1 = r.1 ∧ r.2.1.Alike r'.2.1 ∧ r.2.2 = r'.2.2 := by
  have hseen := (hw.reportFirstFrame x.first).logSame (.detected f)
  have hreported := hseen.reportEnrollFrame
    (enrollInfo a nv21 (detect a orientation false false)) x.lastInfo
  have hcounted := hreported.logSame (.counted f a)
  simp only [enrollFrame]
  split
  · exact ⟨rfl, hreported, rfl⟩
  · rename_i face _
    generalize (if face.face.id ≠ x.lastFaceId then _ else _ : EnrollLocals) = y
    split
    · exact ⟨rfl, hcounted.emit _, rfl⟩
    · split
      · exact ⟨rfl, hcounted.log rfl, rfl⟩
      · exact ⟨rfl, hcounted, rfl⟩

/-- Locals of the st_auth loop over related storages. -/
structure StEnrollLocals.Alike (x x' : StEnrollLocals) : Prop where
  auth : x'.auth = x.auth
  storage : x.storage.Alike x'.storage
  error : x'.error = x.error
  done : x'.done = x.done
  lastRemaining : x'.lastRemaining = x.lastRemaining
  lastInfo : x'.lastInfo = x.lastInfo
  first : x'.first = x.first

theorem stEnrollFrame_alike (origin origin' : ℕ) (enrollmentId : Int32) (f : Fetch)
    (nv21 : Nv21) (a : EnrollAnswer) {w w' : World} {x x' : StEnrollLocals} (hw : w.Alike w')
    (hx : x.Alike x') :
    let r := stEnrollFrame origin enrollmentId f nv21 a (w, x)
    let r' := stEnrollFrame origin' enrollmentId f nv21 a (w', x')
    r'.1 = r.1 ∧ r.2.1.Alike r'.2.1 ∧ r.2.2.Alike r'.2.2 := by
  obtain ⟨hresult, hauth, hstorage⟩ :=
    AuthEngine.enroll_alike hx.storage origin origin' a x.auth
  have hseen := ((hw.reportFirstFrame x.first).logSame (.detected f)).logCaptured f
    (AuthEngine.EnrollAnswer.stores a)
  simp only [stEnrollFrame, hx.auth, hx.first, hresult]
  have hx₁ : StEnrollLocals.Alike
      { x with
        first := false
        auth := (x.auth.enroll origin a x.storage).2.1
        storage := (x.auth.enroll origin a x.storage).2.2 }
      { x' with
        first := false
        auth := (x.auth.enroll origin' a x'.storage).2.1
        storage := (x.auth.enroll origin' a x'.storage).2.2 } :=
    { hx with auth := hauth, storage := hstorage, first := rfl }
  have hreported := hseen.reportEnrollFrame (x.auth.enroll origin a x.storage).1.info x.lastInfo
  cases (x.auth.enroll origin a x.storage).1.error with
  | some error => exact ⟨rfl, hseen.log rfl, { hx₁ with error := rfl }⟩
  | none =>
      simp only [hx.lastInfo, hx.lastRemaining]
      split
      · exact ⟨rfl, hreported, { hx₁ with done := rfl, lastInfo := rfl, lastRemaining := rfl }⟩
      · split
        · exact ⟨rfl, hreported.emit _, { hx₁ with lastInfo := rfl, lastRemaining := rfl }⟩
        · exact ⟨rfl, hreported, { hx₁ with lastInfo := rfl, lastRemaining := rfl }⟩

/-! ### The loops -/

section

variable {w w' : World} (hw : w.Alike w') (deadline : Time)

include hw

theorem authenticateLoop_alike {st st' : Storage} (hst : st.Alike st')
    (requireAttention useTee : Bool) (orientation : FaceOrientation)
    (calls : List (Call ProbeAnswers)) (x : AuthLocals) :
    let l := whileFrames deadline (authenticateFrame requireAttention useTee orientation st)
      calls (w, x)
    let l' := whileFrames deadline (authenticateFrame requireAttention useTee orientation st')
      calls (w', x)
    l.1.Alike l'.1 ∧ l.2 = l'.2 := by
  apply whileFrames_alike ?_ calls hw rfl
  rintro f nv21 a w w' x _ hw rfl
  exact authenticateFrame_alike hst requireAttention useTee orientation f nv21 a hw x

theorem stAuthenticateLoop_alike {st st' : Storage} (hst : st.Alike st')
    (calls : List (Call AuthStatus)) (x : StAuthLocals) :
    let l := whileFrames deadline (stAuthenticateFrame st) calls (w, x)
    let l' := whileFrames deadline (stAuthenticateFrame st') calls (w', x)
    l.1.Alike l'.1 ∧ l.2 = l'.2 := by
  apply whileFrames_alike ?_ calls hw rfl
  rintro f nv21 status w w' x _ hw rfl
  exact stAuthenticateFrame_alike hst f nv21 status hw x

theorem enrollLoop_alike (orientation : FaceOrientation) (enrollmentId : Int32)
    (calls : List (Call CvFrame)) (x : EnrollLocals) :
    let l := whileFrames deadline (enrollFrame orientation enrollmentId) calls (w, x)
    let l' := whileFrames deadline (enrollFrame orientation enrollmentId) calls (w', x)
    l.1.Alike l'.1 ∧ l.2 = l'.2 := by
  apply whileFrames_alike ?_ calls hw rfl
  rintro f nv21 a w w' x _ hw rfl
  exact enrollFrame_alike orientation enrollmentId f nv21 a hw x

theorem stEnrollLoop_alike (origin origin' : ℕ) (enrollmentId : Int32)
    (calls : List (Call EnrollAnswer)) {x x' : StEnrollLocals} (hx : x.Alike x') :
    let l := whileFrames deadline (stEnrollFrame origin enrollmentId) calls (w, x)
    let l' := whileFrames deadline (stEnrollFrame origin' enrollmentId) calls (w', x')
    l.1.Alike l'.1 ∧ l.2.Alike l'.2 := by
  apply whileFrames_alike ?_ calls hw hx
  intro f nv21 a w w' x x' hw hx
  exact stEnrollFrame_alike origin origin' enrollmentId f nv21 a hw hx

end

end OneplusHal.Face

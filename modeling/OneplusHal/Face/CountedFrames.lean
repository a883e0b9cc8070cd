import OneplusHal.Face.EnrollLoop
import OneplusHal.Lib.Streak

/-!
Which frames the cv enrollment counts.

Beside the loop runs a history of the frames it was handed. Two local variables, a counter
and the last face id, stand for a list: the streak of good frames with one face that the
history ends with. So a feature comes out of the last of five frames in a row, and what is
reported as remaining is what the streak lacks.
-/

namespace OneplusHal.Face

open OneplusHal

/-! ### The history of a capture loop -/

/-- A frame that `nextFrame` has returned, the engine's answers about it, and what the
body of the loop left in the trace. -/
structure Turn (α : Type) where
  fetch : Fetch
  nv21 : Nv21
  answers : α
  events : List Event

section

variable {α σ : Type}

/-- The body of a loop, with a history of its turns. -/
def recorded (body : Fetch → Nv21 → α → World × σ → Bool × World × σ) (f : Fetch) (nv21 : Nv21)
    (a : α) (p : World × σ × List (Turn α)) : Bool × World × σ × List (Turn α) :=
  let r := body f nv21 a (p.1, p.2.1)
  (r.1, r.2.1, r.2.2, p.2.2 ++ [⟨f, nv21, a, r.2.1.trace.drop p.1.trace.length⟩])

/-- The history changes nothing of the loop. -/
theorem whileFrames_recorded (deadline : Time)
    (body : Fetch → Nv21 → α → World × σ → Bool × World × σ) (calls : List (Call α)) (w : World)
    (x : σ) (turns : List (Turn α)) :
    let r := whileFrames deadline (recorded body) calls (w, x, turns)
    (r.1, r.2.1) = whileFrames deadline body calls (w, x) := by
  refine Loop.foldUntil_related
    (R := fun (p : World × σ) (q : World × σ × List (Turn α)) => (q.1, q.2.1) = p)
    ?_ ?_ calls rfl
  · rintro c _ ⟨v, y, ts⟩ rfl
    simp only [frameStep]
    cases ((v.pass c.before).nextFrame deadline c.waits).1 with
    | none => exact ⟨rfl, rfl⟩
    | some nv21 => exact ⟨rfl, rfl⟩
  · rintro _ ⟨v, y, ts⟩ rfl
    rfl

end

/-! ### What is reported -/

/-- A report of how many frames an enrollment still lacks. -/
def Event.remaining? : Event → Option Int
  | .callback (.onEnrollmentProgress _ remaining) =>
      if remaining = 0 then none else some remaining
  | _ => none

/-- The counts reported, in order; the 0 at the end of an enrollment is none. -/
def remainings (evs : List Event) : List Int := evs.filterMap Event.remaining?

/-- The calls of `nextFrame` that returned a frame, in order. -/
def fetches (evs : List Event) : List Fetch := evs.filterMap Event.fetched?

@[simp] theorem remainings_append (evs evs' : List Event) :
    remainings (evs ++ evs') = remainings evs ++ remainings evs' :=
  List.filterMap_append

@[simp] theorem fetches_append (evs evs' : List Event) :
    fetches (evs ++ evs') = fetches evs ++ fetches evs' :=
  List.filterMap_append

theorem remainings_reportFirstFrame (w : World) (first : Bool) :
    remainings (w.reportFirstFrame first).trace = remainings w.trace := by
  unfold World.reportFirstFrame
  split
  · simp [remainings, Event.remaining?]
  · rfl

theorem remainings_reportEnrollFrame (w : World) (info lastInfo : AcquiredInfo) :
    remainings (w.reportEnrollFrame info lastInfo).trace = remainings w.trace := by
  unfold World.reportEnrollFrame
  split
  · simp [remainings, Event.remaining?]
  · rfl

/-! ### Counting -/

/-- The id of the face in a frame that is judged good. -/
def goodFace (orientation : FaceOrientation) (t : Turn CvFrame) : Option Int :=
  let face := detect t.answers orientation false false
  (if enrollInfo t.answers t.nv21 face = .good then face else none).map fun face => face.face.id

/-- A face with this id is found, of good quality, with open eyes, and not a spoof. -/
def JudgedGood (orientation : FaceOrientation) (t : Turn CvFrame) (id : Int) : Prop :=
  ∃ face, detect t.answers orientation false false = some face ∧ face.face.id = id ∧
    checkQuality t.answers t.nv21 face = .good ∧ eyesOpen t.answers = true ∧
    spoofScore t.answers ≤ kSpoofThreshold

theorem enrollInfo_eq_good_iff {a : CvFrame} {nv21 : Nv21} {face : DetectedFace} :
    enrollInfo a nv21 (some face) = .good ↔
      checkQuality a nv21 face = .good ∧ eyesOpen a = true ∧ spoofScore a ≤ kSpoofThreshold := by
  unfold enrollInfo
  dsimp only
  by_cases hquality : checkQuality a nv21 face = .good
  case neg =>
    rw [if_pos hquality]
    refine iff_of_false ?_ fun h => hquality h.1
    revert hquality
    cases checkQuality a nv21 face with
    | good => exact fun h => absurd rfl h
    | _ => exact fun _ => nofun
  rw [if_neg (not_not.mpr hquality), and_iff_right hquality]
  cases eyesOpen a with
  | false => exact iff_of_false nofun nofun
  | true =>
      rw [if_neg (by decide), and_iff_right rfl, ← not_lt]
      split
      case isTrue hspoof => exact iff_of_false nofun (not_not.mpr hspoof)
      case isFalse hspoof => exact iff_of_true rfl hspoof

theorem goodFace_eq_some_iff {orientation : FaceOrientation} {t : Turn CvFrame} {id : Int} :
    goodFace orientation t = some id ↔ JudgedGood orientation t id := by
  unfold goodFace JudgedGood
  dsimp only
  cases detect t.answers orientation false false with
  | none => exact iff_of_false (by rw [ite_self]; exact nofun) (by rintro ⟨face, ⟨⟩, -⟩)
  | some face =>
      simp only [Option.some.injEq, exists_eq_left', ← enrollInfo_eq_good_iff]
      split
      case isTrue hgood => simp [hgood]
      case isFalse hbad => simp [hbad]

/-- No feature can be extracted from the frame. -/
def Featureless (t : Turn CvFrame) : Prop := extractFeature t.answers = []

instance : DecidablePred Featureless := fun _ => inferInstanceAs (Decidable (_ = _))

/-- The frames counted since the last reset: good ones in a row, with one face, and fewer
than five or five with a feature. -/
def counted (orientation : FaceOrientation) (turns : List (Turn CvFrame)) : List (Turn CvFrame) :=
  Streak.present (goodFace orientation) Featureless kEnrollFrames turns

/-- Every report of a turn says what the frames counted by then lack. -/
def ReportsCounted (orientation : FaceOrientation) (turns : List (Turn CvFrame)) : Prop :=
  ∀ before t, before ++ [t] <+: turns → ∀ r ∈ remainings t.events,
    1 ≤ r ∧ r ≤ 4 ∧ ((counted orientation (before ++ [t])).length : Int) = 5 - r

/-- The feature comes from the last of five counted frames, which is the frame kept. -/
def CapturedFrom (orientation : FaceOrientation) (turns : List (Turn CvFrame)) (nv21 : Nv21)
    (feature : List UInt8) : Prop :=
  (counted orientation turns).length = 5 ∧
    ∃ last, (counted orientation turns).getLast? = some last ∧ nv21 = last.nv21 ∧
      feature = extractFeature last.answers

/-- What the two local variables stand for. -/
structure Counting (orientation : FaceOrientation) (x : EnrollLocals)
    (turns : List (Turn CvFrame)) : Prop where
  goodFrames : x.goodFrames = (counted orientation turns).length
  lt : x.goodFrames < kEnrollFrames
  lastFaceId : ∀ u ∈ counted orientation turns, goodFace orientation u = some x.lastFaceId
  feature : x.feature = []

theorem counted_append_singleton (orientation : FaceOrientation) (turns : List (Turn CvFrame))
    (t : Turn CvFrame) :
    counted orientation (turns ++ [t]) =
      Streak.extend (goodFace orientation) Featureless kEnrollFrames
        (counted orientation turns) t :=
  Streak.present_append_singleton _ _ _ _ _

section

variable {orientation : FaceOrientation} (enrollmentId : Int32) {f : Fetch} {nv21 : Nv21}
  {a : CvFrame} (w : World) (x : EnrollLocals) {evs : List Event}

/-- A turn with a frame that is not good. -/
theorem enrollFrame_bad (h : goodFace orientation ⟨f, nv21, a, evs⟩ = none) :
    let r := enrollFrame orientation enrollmentId f nv21 a (w, x)
    r.1 = false ∧ remainings r.2.1.trace = remainings w.trace ∧ r.2.2.goodFrames = 0 ∧
      r.2.2.feature = x.feature := by
  rw [goodFace, Option.map_eq_none_iff] at h
  unfold enrollFrame
  dsimp only at h ⊢
  rw [h]
  refine ⟨rfl, ?_, rfl, rfl⟩
  dsimp only
  rw [remainings_reportEnrollFrame, World.trace_log, remainings_append,
    remainings_reportFirstFrame]
  exact List.append_nil _

/-- A turn with a good frame, from the counter on. -/
theorem enrollFrame_good {k : Int} (h : goodFace orientation ⟨f, nv21, a, evs⟩ = some k) :
    let r := enrollFrame orientation enrollmentId f nv21 a (w, x)
    let n := (if k = x.lastFaceId then x.goodFrames else 0) + 1
    r.2.2.nv21 = nv21 ∧ r.2.2.lastFaceId = k ∧
      ((n < kEnrollFrames ∧ r.1 = false ∧ r.2.2.goodFrames = n ∧ r.2.2.feature = x.feature ∧
          remainings r.2.1.trace = remainings w.trace ++ [(kEnrollFrames : Int) - n]) ∨
        (kEnrollFrames ≤ n ∧ remainings r.2.1.trace = remainings w.trace ∧
          ((extractFeature a ≠ [] ∧ r.1 = true ∧ r.2.2.feature = extractFeature a) ∨
            (extractFeature a = [] ∧ r.1 = false ∧ r.2.2.goodFrames = 0 ∧
              r.2.2.feature = x.feature)))) := by
  obtain ⟨face, hface, rfl⟩ := Option.map_eq_some_iff.mp h
  unfold enrollFrame
  dsimp only at hface ⊢
  rw [hface]
  dsimp only
  -- the counter and the face id before this frame is counted
  generalize hy : (if face.face.id ≠ x.lastFaceId then _ else _ : EnrollLocals) = y
  obtain ⟨hcount, hid, hkept⟩ : y.goodFrames =
      (if face.face.id = x.lastFaceId then x.goodFrames else 0) ∧
      y.lastFaceId = face.face.id ∧ y.nv21 = nv21 ∧ y.feature = x.feature := by
    rw [← hy]
    by_cases hsame : face.face.id = x.lastFaceId
    · rw [if_neg (not_not.mpr hsame), if_pos hsame]
      exact ⟨rfl, hsame.symm, rfl, rfl⟩
    · rw [if_pos hsame, if_neg hsame]
      exact ⟨rfl, rfl, rfl, rfl⟩
  rw [← hcount]
  generalize hv : (w.reportFirstFrame x.first).log (.detected f) = v
  have hreports (info : AcquiredInfo) :
      remainings ((v.reportEnrollFrame info x.lastInfo).log (.counted f a)).trace =
        remainings w.trace := by
    rw [World.trace_log, remainings_append, remainings_reportEnrollFrame, ← hv,
      World.trace_log, remainings_append, remainings_reportFirstFrame]
    simp [remainings, Event.remaining?]
  by_cases hmore : y.goodFrames + 1 < kEnrollFrames
  · rw [if_pos hmore]
    refine ⟨hkept.1, hid, .inl ⟨hmore, rfl, rfl, hkept.2, ?_⟩⟩
    have hne : (kEnrollFrames : Int) - (y.goodFrames + 1 : ℕ) ≠ 0 := by omega
    rw [World.trace_emit, remainings_append, hreports]
    simp only [remainings, List.filterMap_cons, List.filterMap_nil, Event.remaining?, if_neg hne]
  · rw [if_neg hmore]
    by_cases hfeature : extractFeature a ≠ []
    · rw [if_pos hfeature]
      refine ⟨hkept.1, hid, .inr ⟨not_lt.mp hmore, ?_, .inl ⟨hfeature, rfl, rfl⟩⟩⟩
      rw [World.trace_log, remainings_append, hreports]
      exact List.append_nil _
    · rw [if_neg hfeature]
      exact ⟨hkept.1, hid, .inr ⟨not_lt.mp hmore, hreports _, .inr
        ⟨not_not.mp hfeature, rfl, rfl, hkept.2⟩⟩⟩

/-- A turn goes on counting as `counted` does, or ends the loop with a feature. -/
theorem Counting.turn {turns : List (Turn CvFrame)} (h : Counting orientation x turns)
    (evs : List Event) :
    let r := enrollFrame orientation enrollmentId f nv21 a (w, x)
    let turns' := turns ++ [⟨f, nv21, a, evs⟩]
    ((r.1 = false ∧ Counting orientation r.2.2 turns') ∨
        (r.1 = true ∧ CapturedFrom orientation turns' r.2.2.nv21 r.2.2.feature)) ∧
      (remainings r.2.1.trace = remainings w.trace ∨
        ∃ n : Int, remainings r.2.1.trace = remainings w.trace ++ [n] ∧ 1 ≤ n ∧ n ≤ 4 ∧
          ((counted orientation turns').length : Int) = 5 - n) := by
  intro r turns'
  have hext := counted_append_singleton orientation turns ⟨f, nv21, a, evs⟩
  cases hface : goodFace orientation ⟨f, nv21, a, evs⟩ with
  | none =>
      obtain ⟨hgo, hreports, hcount, hfeature⟩ := enrollFrame_bad enrollmentId w x hface
      have hnone : counted orientation turns' = [] :=
        hext.trans (Streak.extend_of_unmarked hface)
      refine ⟨.inl ⟨hgo, ?_, ?_, ?_, hfeature.trans h.feature⟩, .inl hreports⟩
      · rw [hnone]
        exact hcount
      · rw [hcount]
        decide
      · rw [hnone]
        exact fun u hu => absurd hu List.not_mem_nil
  | some k =>
      have hgrow := Streak.length_grow h.lastFaceId hface
      rw [← h.goodFrames] at hgrow
      have hmark : goodFace orientation ⟨f, nv21, a, evs⟩ ≠ none := by
        rw [hface]
        exact nofun
      have hgrown (hkeep : _ ∨ ¬Featureless ⟨f, nv21, a, evs⟩) :
          counted orientation turns' =
            Streak.grow (goodFace orientation) (counted orientation turns) ⟨f, nv21, a, evs⟩ :=
        hext.trans (Streak.extend_of_marked hmark hkeep)
      obtain ⟨hnv21, hid, ⟨hmore, hgo, hcount, hfeature, hreports⟩ | ⟨hfull, hreports,
        ⟨hsome, hstop, hfeature⟩ | ⟨hnone, hgo, hcount, hfeature⟩⟩⟩ :=
        enrollFrame_good enrollmentId w x hface
      · rw [← hgrow] at hmore hcount hreports
        have heq := hgrown (.inl hmore)
        refine ⟨.inl ⟨hgo, ?_, ?_, ?_, hfeature.trans h.feature⟩, .inr ⟨_, hreports, ?_⟩⟩
        · rw [heq]
          exact hcount
        · exact hcount.trans_lt hmore
        · rw [heq]
          intro u hu
          rw [Streak.mark_grow hu, hface, hid]
        · rw [heq]
          have hpos : 1 ≤ (Streak.grow (goodFace orientation) (counted orientation turns)
              ⟨f, nv21, a, evs⟩).length := by omega
          rw [kEnrollFrames] at hmore ⊢
          omega
      · have heq := hgrown (.inr hsome)
        refine ⟨.inr ⟨hstop, ?_, ⟨f, nv21, a, evs⟩, ?_, hnv21, hfeature⟩, .inl hreports⟩
        · rw [heq, hgrow]
          have hlt := h.lt
          have hle : (if k = x.lastFaceId then x.goodFrames else 0) ≤ x.goodFrames := by
            split <;> omega
          rw [kEnrollFrames] at hfull hlt
          omega
        · rw [heq]
          exact List.getLast?_concat
      · rw [← hgrow] at hfull
        have heq : counted orientation turns' = [] :=
          hext.trans (Streak.extend_of_spoiled hfull hnone)
        refine ⟨.inl ⟨hgo, ?_, ?_, ?_, hfeature.trans h.feature⟩, .inl hreports⟩
        · rw [heq]
          exact hcount
        · rw [hcount]
          decide
        · rw [heq]
          exact fun u hu => absurd hu List.not_mem_nil

end

/-! ### The whole loop -/

/-- What the history says about the events of the loop and about its outcome. -/
structure LoopCounts (orientation : FaceOrientation) (evs : List Event) (x : EnrollLocals)
    (turns : List (Turn CvFrame)) : Prop where
  fetches : fetches evs = turns.map Turn.fetch
  remainings : remainings evs = turns.flatMap fun t => remainings t.events
  reports : ReportsCounted orientation turns
  captured : x.feature ≠ [] → CapturedFrom orientation turns x.nv21 x.feature

theorem fetches_eq_nil {f : Fetch} {new : List Event} (hnew : ∀ e ∈ new, EnrollEvent f e) :
    fetches new = [] := by
  rw [fetches, List.filterMap_eq_nil_iff]
  intro e he
  rcases hnew e he with rfl | ⟨a, rfl, -⟩ | ⟨a, rfl, -⟩ | ⟨c, rfl, -⟩ | ⟨er, rfl⟩ <;> rfl

/-- The turn after a history that reports as counted. -/
theorem ReportsCounted.turn {orientation : FaceOrientation} {turns : List (Turn CvFrame)}
    (h : ReportsCounted orientation turns) {t : Turn CvFrame}
    (ht : ∀ r ∈ remainings t.events, 1 ≤ r ∧ r ≤ 4 ∧
      ((counted orientation (turns ++ [t])).length : Int) = 5 - r) :
    ReportsCounted orientation (turns ++ [t]) := by
  intro before u hprefix
  rcases List.prefix_concat_iff.mp hprefix with heq | hprefix
  · obtain ⟨rfl, hu⟩ := List.append_inj' heq rfl
    cases hu
    exact ht
  · exact h before u hprefix

theorem LoopCounts.turn {orientation : FaceOrientation} {evs : List Event} {x x' : EnrollLocals}
    {turns : List (Turn CvFrame)} (h : LoopCounts orientation evs x turns) (t : Turn CvFrame)
    (hfetches : Face.fetches t.events = [])
    (hreports : ∀ r ∈ Face.remainings t.events, 1 ≤ r ∧ r ≤ 4 ∧
      ((counted orientation (turns ++ [t])).length : Int) = 5 - r)
    (hcaptured : x'.feature ≠ [] →
      CapturedFrom orientation (turns ++ [t]) x'.nv21 x'.feature) :
    LoopCounts orientation (evs ++ .nextFrame t.fetch true :: t.events) x' (turns ++ [t]) where
  fetches := by
    rw [fetches_append, h.fetches, List.map_append]
    simpa [Face.fetches, Event.fetched?] using hfetches
  remainings := by
    rw [remainings_append, h.remainings, List.flatMap_append, List.flatMap_singleton]
    exact congrArg _ (List.filterMap_cons_none rfl)
  reports := h.reports.turn hreports
  captured := hcaptured

theorem enrollLoop_counts (orientation : FaceOrientation) (enrollmentId : Int32)
    (deadline : Time) (calls : List (Call CvFrame)) (w : World) :
    let l := whileFrames deadline (recorded (enrollFrame orientation enrollmentId)) calls
      (w, {}, [])
    ∃ evs, l.1.trace = w.trace ++ evs ∧ LoopCounts orientation evs l.2.1 l.2.2 := by
  refine whileFrames_rule
    (I := fun evs (p : EnrollLocals × List (Turn CvFrame)) =>
      LoopCounts orientation evs p.1 p.2 ∧ Counting orientation p.1 p.2)
    (Q := fun evs p => LoopCounts orientation evs p.1 p.2) ?_ ?_ calls w _ ?_
  · rintro evs ⟨x, turns⟩ f nv21 a v ⟨h, hcounting⟩ -
    obtain ⟨-, new, htrace, hnew, -⟩ := enrollFrame_leaves orientation enrollmentId f nv21 a v x
    obtain ⟨houtcome, hreports⟩ := hcounting.turn (f := f) (a := a) enrollmentId v x new
    rw [htrace, remainings_append] at hreports
    have hreports' : ∀ r ∈ remainings new, 1 ≤ r ∧ r ≤ 4 ∧
        ((counted orientation (turns ++ [⟨f, nv21, a, new⟩])).length : Int) = 5 - r := by
      intro r hr
      obtain hnone | ⟨n, hone, hn⟩ := hreports
      · rw [List.append_right_eq_self.mp hnone] at hr
        exact absurd hr List.not_mem_nil
      · rw [List.append_cancel_left hone] at hr
        rw [List.mem_singleton.mp hr]
        exact hn
    have hdrop : (enrollFrame orientation enrollmentId f nv21 a (v, x)).2.1.trace.drop
        v.trace.length = new := by
      rw [htrace]
      exact List.drop_left
    have hturn (hcaptured) : LoopCounts orientation _
        (enrollFrame orientation enrollmentId f nv21 a (v, x)).2.2 _ :=
      h.turn ⟨f, nv21, a, new⟩ (fetches_eq_nil hnew) hreports' hcaptured
    refine ⟨new, htrace, fun hgo => ?_, fun hstop => ?_⟩
    all_goals
      simp only [recorded, hdrop] at *
      obtain ⟨hgo', hcounting'⟩ | ⟨hstop', hcaptured⟩ := houtcome
    · exact ⟨hturn fun hne => absurd hcounting'.feature hne, hcounting'⟩
    · exact absurd (hgo.symm.trans hstop') Bool.false_ne_true
    · exact absurd (hgo'.symm.trans hstop) Bool.false_ne_true
    · exact hturn fun _ => hcaptured
  · rintro evs ⟨x, turns⟩ f ⟨h, -⟩ -
    refine ⟨?_, ?_, h.reports, h.captured⟩
    · rw [fetches_append, h.fetches]
      exact List.append_nil _
    · rw [remainings_append, h.remainings]
      exact List.append_nil _
  · refine ⟨⟨rfl, rfl, ?_, fun h => absurd rfl h⟩, rfl, by decide,
      fun u hu => absurd hu List.not_mem_nil, rfl⟩
    intro before t hprefix
    simp at hprefix

/-! ### The operation -/

/-- The loop of `doEnrollCv` with its history; without a camera there are no frames. -/
def captureLoop (preview : Bool) (io : EnrollIO) (s : State) :
    World × EnrollLocals × List (Turn CvFrame) :=
  let r := s.world.startCamera preview io.start
  if !r.1 then (r.2, {}, [])
  else
    let w := r.2.tick io.startElapsed
    whileFrames (w.now + kEnrollTimeout)
      (recorded (enrollFrame (faceOrientation w.camera.mSensorOrientation)
        io.enrollmentId.toEnrollmentId)) io.cv (w, {}, [])

/-- The orientation in which the frames of the operation are looked at. -/
def captureOrientation (preview : Bool) (io : EnrollIO) (s : State) : FaceOrientation :=
  faceOrientation (s.world.startCamera preview io.start).2.camera.mSensorOrientation

/-- `doEnrollCv` from the answer of `storeFeature` on. -/
def enrollStored (user : Int32) (e : Enrollment) (io : EnrollIO) (stored : Bool × State) : State :=
  let s := stored.2
  if !stored.1 then s.emit (.onError .unableToProcess)
  else
    let saved := (newEnrollment user e io kCvEngine).save io.save s.storage.enrollmentFile
    let s := { s with storage := { s.storage with enrollmentFile := saved.2 } }
    if !saved.1 then (removeFeature io.undo s).2.emit (.onError .unableToProcess)
    else finishEnroll io s

theorem doEnrollCv_eq (user : Int32) (preview : Bool) (e : Enrollment) (io : EnrollIO)
    (s : State) :
    let l := captureLoop preview io s
    doEnrollCv user preview e io s =
      if (s.world.startCamera preview io.start).1 = false then
        { s with world := l.1 }.emit (.onError .hwUnavailable)
      else
        let s := { s with world := l.1.stopCamera.pass io.stop }
        if l.2.1.feature = [] then
          s.emit (.onError (if s.world.cancelled then .canceled else .timeout))
        else
          enrollStored user e io
            (storeFeature io.store ⟨l.2.1.feature, s.enrolls⟩ l.2.1.nv21 s) := by
  unfold doEnrollCv captureLoop
  cases hstart : (s.world.startCamera preview io.start).1 with
  | false => simp only [hstart, Bool.not_false, if_true]
  | true =>
      have hrecorded := whileFrames_recorded
        (((s.world.startCamera preview io.start).2.tick io.startElapsed).now + kEnrollTimeout)
        (enrollFrame (faceOrientation ((s.world.startCamera preview io.start).2.tick
          io.startElapsed).camera.mSensorOrientation) io.enrollmentId.toEnrollmentId) io.cv
        ((s.world.startCamera preview io.start).2.tick io.startElapsed) {} []
      simp only [hstart, Bool.not_true, Bool.false_eq_true, if_false, reduceCtorEq, ← hrecorded]
      rfl

/-- The history ends with five good frames of one face, the last one of them `last`. -/
def EndsWithFiveGood (orientation : FaceOrientation) (turns : List (Turn CvFrame))
    (last : Turn CvFrame) : Prop :=
  ∃ before five k, turns = before ++ five ∧ five.length = 5 ∧
    (∀ t ∈ five, JudgedGood orientation t k) ∧ five.getLast? = some last

theorem CapturedFrom.endsWithFiveGood {orientation : FaceOrientation}
    {turns : List (Turn CvFrame)} {nv21 : Nv21} {feature : List UInt8}
    (h : CapturedFrom orientation turns nv21 feature) :
    ∃ last, EndsWithFiveGood orientation turns last ∧ nv21 = last.nv21 ∧
      feature = extractFeature last.answers := by
  obtain ⟨hfive, last, hlast, hnv21, hfeature⟩ := h
  have hne : counted orientation turns ≠ [] := by
    intro hnil
    rw [hnil] at hfive
    exact absurd hfive (by decide)
  obtain ⟨k, hk⟩ := Streak.mark_present hne
  have hsuffix : counted orientation turns <:+ turns := Streak.present_suffix turns
  obtain ⟨before, hbefore⟩ := hsuffix
  exact ⟨last, ⟨before, _, k, hbefore.symm, hfive, fun t ht => goodFace_eq_some_iff.mp (hk t ht),
    hlast⟩, hnv21, hfeature⟩

theorem captureLoop_counts (preview : Bool) (io : EnrollIO) (s : State) :
    let l := captureLoop preview io s
    ∃ evs, l.1.trace = s.world.trace ++ evs ∧
      LoopCounts (captureOrientation preview io s) evs l.2.1 l.2.2 := by
  unfold captureLoop
  dsimp only
  split
  · refine ⟨_, World.trace_startCamera _ _ _, rfl, rfl, ?_, fun h => absurd rfl h⟩
    intro before t hprefix
    simp at hprefix
  · obtain ⟨evs, htrace, hcounts⟩ := enrollLoop_counts (captureOrientation preview io s)
      io.enrollmentId.toEnrollmentId
      (((s.world.startCamera preview io.start).2.tick io.startElapsed).now + kEnrollTimeout) io.cv
      ((s.world.startCamera preview io.start).2.tick io.startElapsed)
    rw [World.trace_tick, World.trace_startCamera, List.append_assoc] at htrace
    exact ⟨_, htrace, hcounts.fetches, hcounts.remainings, hcounts.reports, hcounts.captured⟩

/-- From a storing on, no more frames are fetched, and nothing is lacking. -/
theorem enrollStored_trace (user : Int32) (e : Enrollment) (io : EnrollIO)
    (stored : Bool × State) :
    ∃ evs, (enrollStored user e io stored).world.trace = stored.2.world.trace ++ evs ∧
      fetches evs = [] ∧ remainings evs = [] := by
  unfold enrollStored
  dsimp only
  split
  · exact ⟨_, State.trace_emit _ _, rfl, rfl⟩
  · split
    · refine ⟨[.callback (.onError .unableToProcess)], ?_, rfl, rfl⟩
      rw [State.trace_emit, world_removeFeature]
    · refine ⟨[.callback (.onEnrollmentFrame .good .enrollmentFinished),
        .callback (.onEnrollmentProgress io.enrollmentId.toEnrollmentId 0)], ?_, rfl, rfl⟩
      rw [finishEnroll, State.trace_emit, State.trace_emit, List.append_assoc]
      rfl

/-- What an enrollment of the cv engine stores and reports, by the frames it was handed:
a feature of the last of five good frames of one face in a row, with that frame, and for
each frame counted what the frames since the last reset lack. -/
theorem doEnrollCv_counts (user : Int32) (preview : Bool) (e : Enrollment) (io : EnrollIO)
    (s : State) :
    let orientation := captureOrientation preview io s
    let l := captureLoop preview io s
    let s' := doEnrollCv user preview e io s
    (l.2.1.feature = [] → ∃ w, s' = { s with world := w }) ∧
      (l.2.1.feature ≠ [] → ∃ last w, EndsWithFiveGood orientation l.2.2 last ∧
        s' = enrollStored user e io
          (storeFeature io.store ⟨extractFeature last.answers, s.enrolls⟩ last.nv21
            { s with world := w })) ∧
      ReportsCounted orientation l.2.2 ∧
      ∃ evs, s'.world.trace = s.world.trace ++ evs ∧ fetches evs = l.2.2.map Turn.fetch ∧
        remainings evs = l.2.2.flatMap fun t => remainings t.events := by
  intro orientation l s'
  obtain ⟨evs, htrace, hcounts⟩ := captureLoop_counts preview io s
  have heq : s' = _ := doEnrollCv_eq user preview e io s
  dsimp only at heq
  -- What follows the loop leaves no more of the two kinds of events.
  have hafter {evs' : List Event} (hrest : s'.world.trace = l.1.trace ++ evs')
      (hfetches : fetches evs' = []) (hremainings : remainings evs' = []) :
      ∃ evs, s'.world.trace = s.world.trace ++ evs ∧ fetches evs = l.2.2.map Turn.fetch ∧
        remainings evs = l.2.2.flatMap fun t => remainings t.events := by
    refine ⟨evs ++ evs', ?_, ?_, ?_⟩
    · rw [hrest, htrace, List.append_assoc]
    · rw [fetches_append, hfetches, List.append_nil, hcounts.fetches]
    · rw [remainings_append, hremainings, List.append_nil, hcounts.remainings]
  by_cases hstart : (s.world.startCamera preview io.start).1 = false
  · rw [if_pos hstart] at heq
    have hnone : l.2.1.feature = [] := by
      simp only [l, captureLoop, hstart, Bool.not_false, if_true]
    refine ⟨fun _ => ⟨_, heq⟩, fun h => absurd hnone h, hcounts.reports, ?_⟩
    have hrest : s'.world.trace = l.1.trace ++ [.callback (.onError .hwUnavailable)] := by
      rw [heq]
      rfl
    exact hafter hrest rfl rfl
  · rw [if_neg hstart] at heq
    by_cases hfeature : l.2.1.feature = []
    · rw [if_pos hfeature] at heq
      refine ⟨fun _ => ⟨_, heq⟩, fun h => absurd hfeature h, hcounts.reports, ?_⟩
      have hrest : s'.world.trace = l.1.trace ++ [.cameraStopped, .callback (.onError
          (if (l.1.stopCamera.pass io.stop).cancelled then .canceled else .timeout))] := by
        rw [heq, State.trace_emit, World.trace_pass, World.trace_stopCamera, List.append_assoc]
        rfl
      exact hafter hrest rfl rfl
    · rw [if_neg hfeature] at heq
      obtain ⟨last, hends, hnv21, hlast⟩ := (hcounts.captured hfeature).endsWithFiveGood
      refine ⟨fun h => absurd h hfeature, fun _ => ⟨last, l.1.stopCamera.pass io.stop, hends, ?_⟩,
        hcounts.reports, ?_⟩
      · rw [heq, hnv21, hlast]
      · obtain ⟨evs', hstored, hfetches, hremainings⟩ := enrollStored_trace user e io
          (storeFeature io.store ⟨l.2.1.feature, s.enrolls⟩ l.2.1.nv21
            { s with world := l.1.stopCamera.pass io.stop })
        have hrest : s'.world.trace = l.1.trace ++ ([.cameraStopped] ++ evs') := by
          rw [heq, hstored, world_storeFeature, World.trace_pass, World.trace_stopCamera,
            List.append_assoc]
        exact hafter hrest hfetches hremainings

end OneplusHal.Face

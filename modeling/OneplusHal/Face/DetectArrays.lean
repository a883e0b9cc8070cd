import OneplusHal.Face.DetectRuns

/-!
The faces that the service works with are those that `detect` copies out of the arrays.

The service's model of `detect` looks at the answers of the detector alone. It agrees with the
function on the arrays wherever the width of every rectangle is an int.
-/

namespace OneplusHal.Face

open OneplusHal Detecting

def StRect.toRect (r : StRect) : Rect :=
  ⟨r.left.toInt, r.top.toInt, r.right.toInt, r.bottom.toInt⟩

def StFace.toCvFace (f : StFace) : CvFace :=
  { rect := f.rect.toRect
    yaw := f.yaw
    pitch := f.pitch
    id := f.id.toInt
    landmarks := ⟨f.landmarks.points, f.landmarks.occlusion⟩ }

def Detection.toAnswer (d : Detection) : DetectAnswer :=
  ⟨d.ret.toInt, d.array.map fun fs => fs.map StFace.toCvFace⟩

/-- The detector answers about a frame as `a` says, in every run. -/
structure AnswersFrame (sdk : Detector) (a : CvFrame) (large : Bool) : Prop where
  answer : ∀ i o, (sdk i (FaceOrientation.code o)).toAnswer = a.detectFaces large o
  fits : ∀ i o, ∀ f ∈ (sdk i o).found, f.Fits

/-! ### Faces -/

theorem StFace.width_toCvFace {f : StFace} (h : f.Fits) : f.toCvFace.width = f.width.toInt :=
  h.toInt_width.symm

theorem widest_map {f : StFace} {fs : List StFace} (h : ∀ g ∈ f :: fs, g.Fits) :
    widest f.toCvFace (fs.map StFace.toCvFace) = (widestFace f fs).toCvFace := by
  induction fs using List.reverseRecOn with
  | nil => rfl
  | append_singleton fs g ih =>
      have hmem : ∀ g' ∈ f :: fs, g'.Fits := fun g' hg' => h g' (List.mem_append_left [g] hg')
      have hcompare : (widestFace f fs).toCvFace.width < g.toCvFace.width ↔
          (widestFace f fs).width < g.width := by
        rw [StFace.width_toCvFace (hmem _ (widestFace_mem f fs)),
          StFace.width_toCvFace (h g (by simp)), Int32.lt_iff_toInt_lt]
      have hlast : widest f.toCvFace ((fs ++ [g]).map StFace.toCvFace) =
          if (widest f.toCvFace (fs.map StFace.toCvFace)).width < g.toCvFace.width then g.toCvFace
          else widest f.toCvFace (fs.map StFace.toCvFace) := by
        rw [List.map_append, widest, List.foldl_append]
        rfl
      rw [hlast, ih hmem, widestFace_append]
      by_cases hlt : (widestFace f fs).width < g.width
      · rw [if_pos (hcompare.mpr hlt), if_pos hlt]
      · rw [if_neg fun hlt' => hlt (hcompare.mp hlt'), if_neg hlt]

theorem found_toAnswer (d : Detection) : d.toAnswer.found = d.found.map StFace.toCvFace := by
  have hret : d.ret.toInt = 0 ↔ d.ret = 0 := Int32.toInt_inj (y := 0)
  unfold DetectAnswer.found Detection.found Detection.toAnswer
  by_cases hzero : d.ret = 0
  · rw [if_neg (not_not.mpr (hret.mpr hzero)), if_neg (not_not.mpr hzero)]
    cases d.array <;> rfl
  · rw [if_pos fun h => hzero (hret.mp h), if_pos hzero]
    rfl

variable {sdk : Detector} {a : CvFrame} {large : Bool}

theorem AnswersFrame.found (h : AnswersFrame sdk a large) (i : ℕ) (o : FaceOrientation) :
    (a.detectFaces large o).found = (sdk i o.code).found.map StFace.toCvFace := by
  rw [← h.answer i o, found_toAnswer]

/-! ### The function -/

theorem orientations_code (orientation : FaceOrientation) (tryOtherOrientations : Bool) :
    orientations orientation.code tryOtherOrientations =
      (detectOrder orientation tryOtherOrientations).map FaceOrientation.code := by
  cases orientation <;> cases tryOtherOrientations <;> decide

/-- What `detect` looks for at one orientation. -/
def lookAt (a : CvFrame) (large : Bool) (o : FaceOrientation) : Option DetectedFace :=
  match (a.detectFaces large o).found with
  | [] => none
  | f :: fs => some (toDetectedFace (widest f fs) o)

theorem detect_eq_findSome? (orientation : FaceOrientation) (large tryOtherOrientations : Bool) :
    Face.detect a orientation large tryOtherOrientations =
      (detectOrder orientation tryOtherOrientations).findSome? (lookAt a large) := rfl

/-- Where no run found a face, there is nothing to look at. -/
theorem AnswersFrame.lookAt_eq_none (h : AnswersFrame sdk a large) {os : List FaceOrientation}
    (hnothing : NothingFound sdk (os.map FaceOrientation.code)) :
    os.findSome? (lookAt a large) = none := by
  refine List.findSome?_eq_none_iff.mpr fun o ho => ?_
  obtain ⟨i, hi⟩ := List.mem_iff_getElem?.mp ho
  have hnone := hnothing i o.code (by rw [List.getElem?_map, hi]; rfl)
  rw [lookAt, h.found i o, hnone]
  rfl

/-- The face that is stored is the one the service works with. -/
structure Shows (d : Detected) (shown : DetectedFace) : Prop where
  face : shown.face = d.face.toCvFace
  points : shown.points = d.points
  occlusion : shown.occlusion = d.occlusion
  orientation : shown.orientation.code = d.orientation

theorem shows_toDetectedFace {f : StFace} {o : FaceOrientation} {d : Detected}
    (h : Copied f o.code d) (hbacked : f.landmarks.Backed) :
    Shows d (toDetectedFace f.toCvFace o) := by
  obtain ⟨rfl, horientation, ⟨hpoints, -⟩, hcopy, -⟩ := h
  refine ⟨rfl, hpoints.symm, ?_, horientation.symm⟩
  unfold copyOcclusion at hcopy
  unfold toDetectedFace StFace.toCvFace
  cases hcells : d.face.landmarks.occlusion with
  | none =>
      rw [hcells] at hcopy
      rw [← Option.some.inj hcopy]
      exact congrArg (List.replicate · 0) hbacked.points
  | some cells =>
      rw [hcells] at hcopy
      exact Option.some.inj ((assign_all (hbacked.occlusion cells hcells)).symm.trans hcopy)

/-- On the answers of the detector about a frame, the function on the arrays stores what the
service's model of it returns. -/
theorem detect_refines (h : AnswersFrame sdk a large) (orientation : FaceOrientation)
    (tryOtherOrientations : Bool) :
    ∃ out log, Detecting.detect sdk orientation.code tryOtherOrientations = some (out, log) ∧
      Option.Rel Shows out (Face.detect a orientation large tryOtherOrientations) := by
  obtain ⟨out, log, hdetect, -, hcases⟩ :=
    detect_cases sdk orientation.code tryOtherOrientations
  refine ⟨out, log, hdetect, ?_⟩
  rw [detect_eq_findSome?]
  rcases hcases with ⟨os, o, after, f, fs, d, rfl, -, hnothing, hsplit, hrun, hcopied⟩ |
    ⟨rfl, hlog, hnothing⟩
  · rw [orientations_code] at hsplit
    obtain ⟨os', rest, horder, rfl, hrest⟩ := List.map_eq_append_iff.mp hsplit
    obtain ⟨o', after', rfl, rfl, -⟩ := List.map_eq_cons_iff.mp hrest
    have hfits : ∀ g ∈ f :: fs, g.Fits := hrun ▸ h.fits _ _
    have hlook : lookAt a large o' = some (toDetectedFace (widestFace f fs).toCvFace o') := by
      rw [lookAt, h.found _ o', hrun, ← widest_map hfits]
      rfl
    rw [horder, List.findSome?_append, h.lookAt_eq_none hnothing, List.findSome?_cons, hlook]
    exact .some (shows_toDetectedFace hcopied (backed_of_found (hrun ▸ widestFace_mem f fs)))
  · rw [hlog, orientations_code] at hnothing
    rw [h.lookAt_eq_none hnothing]
    exact .none

end OneplusHal.Face

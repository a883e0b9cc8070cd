import Mathlib.Data.List.Nodup
import OneplusHal.Face.FaceEngine
import OneplusHal.Lib.Ledger
import OneplusHal.Lib.Raster

/-!
`FaceEngine::detect` with the arrays that the detector allocates.

One pointer and one count go through several runs of the detector. The log holds the runs, the
reads of an array, and the releases; an array is known by the number of the run that allocated
it. What the detector answers may depend on the run and on the orientation.
-/

namespace OneplusHal.Face

open OneplusHal

/-! ### What the detector leaves -/

/-- `cv_rect_t` -/
structure StRect where
  left : Int32
  top : Int32
  right : Int32
  bottom : Int32

/-- `cv_landmarks_t`; `points` and `occlusion` are the cells behind the pointers, and the
latter may be null. -/
structure StLandmarks where
  count : ℕ
  points : List (ℚ × ℚ × ℚ)
  occlusion : Option (List UInt8)

/-- The cells behind the pointers are as many as the count says. -/
structure StLandmarks.Backed (lm : StLandmarks) : Prop where
  points : lm.points.length = lm.count
  occlusion : ∀ cells ∈ lm.occlusion, cells.length = lm.count

/-- `cv_face_t`, without the fields that nothing reads. -/
structure StFace where
  rect : StRect
  yaw : ℚ
  pitch : ℚ
  id : Int32
  landmarks : StLandmarks

/-- The int that `detect` compares. -/
def StFace.width (f : StFace) : Int32 := f.rect.right - f.rect.left

/-- The width of the rectangle. -/
def StRect.width (r : StRect) : Int := r.right.toInt - r.left.toInt

/-- The width of the rectangle is an int. -/
def StFace.Fits (f : StFace) : Prop :=
  Int32.minValue.toInt ≤ f.rect.width ∧ f.rect.width ≤ Int32.maxValue.toInt

theorem StFace.Fits.toInt_width {f : StFace} (h : f.Fits) : f.width.toInt = f.rect.width := by
  have hmin := Int32.toInt_minValue
  have hmax := Int32.toInt_maxValue
  obtain ⟨hge, hle⟩ := h
  rw [StRect.width] at hge hle ⊢
  rw [StFace.width, Int32.toInt_sub, Int.bmod_eq_of_le]
  · omega
  · omega

/-- One run of the detector: its return code, and the array that it left in `faces`, with as
many faces as it left in `count`. A null pointer comes with no faces. -/
structure Detection where
  ret : Int32
  array : Option (List StFace)
  backed : ∀ fs ∈ array, ∀ f ∈ fs, f.landmarks.Backed

def Detection.count (d : Detection) : ℕ := (d.array.getD []).length

/-- The faces of a run that did not fail. -/
def Detection.found (d : Detection) : List StFace := if d.ret ≠ 0 then [] else d.array.getD []

/-- The detector that `large` selects, by the number of the run and the orientation. -/
abbrev Detector := ℕ → Int32 → Detection

def FaceOrientation.code : FaceOrientation → Int32
  | .up => 1
  | .left => 2
  | .down => 4
  | .right => 8

/-! ### The function -/

inductive DetectEvent
  | detectFaces (orientation : Int32) (array : Option ℕ)
  | read (array : ℕ)
  | releaseFaces (array : ℕ) (count : ℕ)

structure FaceArray where
  id : ℕ
  faces : List StFace

/-- The variables that `run` captures, with the number of runs so far and the log. -/
structure Detecting where
  faces : Option FaceArray := none
  count : ℕ := 0
  runs : ℕ := 0
  log : List DetectEvent := []

/-- What `detect` stores through `out`. -/
structure Detected where
  face : StFace
  points : List (ℚ × ℚ × ℚ)
  occlusion : List UInt8
  orientation : Int32

/-- `DetectedFace::get` -/
def Detected.get (d : Detected) : StFace :=
  { d.face with
    landmarks :=
      { count := d.points.length, points := d.points, occlusion := some d.occlusion } }

namespace Detecting

def emit (s : Detecting) (e : DetectEvent) : Detecting := { s with log := s.log ++ [e] }

/-- The closure `run`. -/
def run (sdk : Detector) (o : Int32) (s : Detecting) : Bool × Detecting :=
  let d := sdk s.runs o
  let s' : Detecting :=
    { faces := d.array.map fun fs => ⟨s.runs, fs⟩
      count := if d.ret ≠ 0 then 0 else d.count
      runs := s.runs + 1
      log := s.log ++ [.detectFaces o (d.array.map fun _ => s.runs)] }
  match s'.faces with
  | none => (decide (0 < s'.count), s')
  | some array =>
      if s'.count = 0 then (false, { s' with faces := none }.emit (.releaseFaces array.id 0))
      else (true, s')

/-- The loop over the other orientations, with the one that found a face. -/
def runOthers (sdk : Detector) (orientation : Int32) : List Int32 → Detecting →
    Option Int32 × Detecting
  | [], s => (none, s)
  | o :: os, s =>
      if o ≠ orientation then
        let r := s.run sdk o
        if r.1 then (some o, r.2) else runOthers sdk orientation os r.2
      else runOthers sdk orientation os s

/-- All runs. -/
def runAll (sdk : Detector) (orientation : Int32) (tryOtherOrientations : Bool) :
    Option Int32 × Detecting :=
  let r := run sdk orientation {}
  if r.1 then (some orientation, r.2)
  else if tryOtherOrientations then
    runOthers sdk orientation (kOrientations.map FaceOrientation.code) r.2
  else (none, r.2)

/-- The body of the loop that looks for the widest face; `p` holds the index of `best`. A read
out of the array is undefined. -/
def compareFace (array : FaceArray) (k : ℕ) (p : ℕ × Detecting) : Option (ℕ × Detecting) := do
  let f ← array.faces[k + 1]?
  let best ← array.faces[p.1]?
  return (if f.width > best.width then k + 1 else p.1, p.2.emit (.read array.id))

def widestIndex (array : FaceArray) (s : Detecting) : Option (ℕ × Detecting) :=
  Raster.forRange (s.count - 1) (compareFace array) (0, s)

/-- `assign(cells, cells + n)` -/
def assign {α : Type} (cells : List α) (n : ℕ) : Option (List α) :=
  if n ≤ cells.length then some (cells.take n) else none

/-- The copy of the occlusion, zeros where the detector has none. -/
def copyOcclusion (lm : StLandmarks) : Option (List UInt8) :=
  match lm.occlusion with
  | some cells => assign cells lm.count
  | none => some (List.replicate lm.count 0)

/-- The copy of the best face, and the release of its array. -/
def report (orientation : Int32) (s : Detecting) : Option (Detected × Detecting) := do
  let array ← s.faces
  let (best, s) ← widestIndex array s
  let f ← array.faces[best]?
  let points ← assign f.landmarks.points f.landmarks.count
  let occlusion ← copyOcclusion f.landmarks
  let s := (s.emit (.read array.id)).emit (.releaseFaces array.id s.count)
  return (⟨f, points, occlusion, orientation⟩, s)

/-- What is stored if the function returns true, and the log; `none` is undefined. -/
def detect (sdk : Detector) (orientation : Int32) (tryOtherOrientations : Bool) :
    Option (Option Detected × List DetectEvent) :=
  let r := runAll sdk orientation tryOtherOrientations
  match r.1 with
  | none => some (none, r.2.log)
  | some o => (report o r.2).map fun p => (some p.1, p.2.log)

/-! ### What the log says -/

/-- The arrays. -/
def arrayLedger : Ledger DetectEvent ℕ where
  acquires
    | .detectFaces _ array => array
    | _ => none
  releases
    | .releaseFaces array _ => some array
    | _ => none
  touches
    | .read array | .releaseFaces array _ => [array]
    | _ => []

def orientation? : DetectEvent → Option Int32
  | .detectFaces o _ => some o
  | _ => none

/-- The orientations that were tried, in order. -/
def tried (log : List DetectEvent) : List Int32 := log.filterMap orientation?

/-- None of these runs found a face. -/
def NothingFound (sdk : Detector) (os : List Int32) : Prop :=
  ∀ i o, os[i]? = some o → (sdk i o).found = []

/-- Between two runs, after those with the orientations `os`: the pointer is null, and every
array is released. -/
structure Seeking (sdk : Detector) (os : List Int32) (s : Detecting) : Prop where
  faces : s.faces = none
  count : s.count = 0
  runs : s.runs = os.length
  tried : tried s.log = os
  balanced : arrayLedger.Balanced s.log ∅
  numbered : ∀ id, arrayLedger.Acquired s.log id → id < s.runs
  nothing : NothingFound sdk os

/-- After the first run that found faces, which had the orientation `o`: the pointer is to
their array, and that is the only one not released. -/
structure Found (sdk : Detector) (os : List Int32) (o : Int32) (s : Detecting) : Prop where
  faces : s.faces = some ⟨os.length, (sdk os.length o).found⟩
  count : s.count = (sdk os.length o).found.length
  ne_nil : (sdk os.length o).found ≠ []
  tried : tried s.log = os ++ [o]
  balanced : arrayLedger.Balanced s.log {os.length}
  nothing : NothingFound sdk os

variable {sdk : Detector} {os : List Int32} {o : Int32} {s : Detecting}

theorem seeking_nil (sdk : Detector) : Seeking sdk [] {} where
  faces := rfl
  count := rfl
  runs := rfl
  tried := rfl
  balanced := ⟨.nil, fun id => by simp [Ledger.Owned]⟩
  numbered := fun id h => absurd h Ledger.not_acquired_nil
  nothing := nofun

theorem NothingFound.append (h : NothingFound sdk os) (hlast : (sdk os.length o).found = []) :
    NothingFound sdk (os ++ [o]) := by
  intro i o' ho'
  rcases Nat.lt_trichotomy i os.length with hlt | rfl | hgt
  · exact h i o' (by rwa [List.getElem?_append_left hlt] at ho')
  · rw [List.getElem?_concat_length] at ho'
    rwa [← Option.some.inj ho']
  · rw [List.getElem?_eq_none (by rw [List.length_append, List.length_singleton]; omega)] at ho'
    cases ho'

theorem tried_append (log : List DetectEvent) (e : DetectEvent) :
    tried (log ++ [e]) = tried log ++ (orientation? e).toList := by
  rw [tried, List.filterMap_append]
  cases he : orientation? e <;> simp [tried, he]

/-! ### The runs -/

/-- The state after a call of the detector, with the pointer and the count that `run` leaves. -/
def ran (s : Detecting) (o : Int32) (array : Option ℕ) (faces : Option FaceArray)
    (count : ℕ) : Detecting :=
  { faces, count, runs := s.runs + 1, log := s.log ++ [.detectFaces o array] }

/-- What one run does: the array is null, or it goes back at once, or it holds faces. -/
theorem run_cases (sdk : Detector) (o : Int32) (s : Detecting) :
    let d := sdk s.runs o
    (d.found = [] ∧ s.run sdk o = (false, s.ran o none none 0)) ∨
      (d.found = [] ∧
        s.run sdk o =
          (false, (s.ran o (some s.runs) none 0).emit (.releaseFaces s.runs 0))) ∨
      d.found ≠ [] ∧
        s.run sdk o =
          (true, s.ran o (some s.runs) (some ⟨s.runs, d.found⟩) d.found.length) := by
  unfold run ran
  generalize sdk s.runs o = d
  obtain ⟨ret, array, -⟩ := d
  simp only [Detection.found, Detection.count]
  cases array with
  | none => exact .inl ⟨ite_self [], by simp⟩
  | some fs =>
      by_cases hret : ret = 0
      case neg => exact .inr (.inl ⟨if_pos hret, by simp [hret]⟩)
      case pos =>
        cases fs with
        | nil => exact .inr (.inl ⟨if_neg (not_not.mpr hret), by simp [hret]⟩)
        | cons f fs => exact .inr (.inr ⟨by simp [hret], by simp [hret]⟩)

/-- A run finds the first faces, or leaves nothing behind. -/
theorem Seeking.run (h : Seeking sdk os s) (o : Int32) :
    ((s.run sdk o).1 = true ∧ Found sdk os o (s.run sdk o).2) ∨
      ((s.run sdk o).1 = false ∧ Seeking sdk (os ++ [o]) (s.run sdk o).2) := by
  have hlog (array : Option ℕ) :
      Detecting.tried (s.log ++ [.detectFaces o array]) = os ++ [o] := by
    rw [tried_append, h.tried]
    rfl
  have hruns : s.runs + 1 = (os ++ [o]).length := by
    rw [h.runs, List.length_append, List.length_singleton]
  have hfresh : ¬arrayLedger.Acquired s.log s.runs := fun ha =>
    absurd (h.numbered s.runs ha) (Nat.lt_irrefl _)
  have hacquired := h.balanced.acquire (e := .detectFaces o (some s.runs)) rfl rfl nofun hfresh
  have hnumbered : ∀ id, arrayLedger.Acquired (s.log ++ [.detectFaces o (some s.runs)]) id →
      id < s.runs + 1 := by
    refine Ledger.forall_acquired_append h.numbered (fun id => Nat.lt_succ_of_lt) fun id hid => ?_
    cases hid
    exact Nat.lt_succ_self _
  rcases run_cases sdk o s with ⟨hfound, hrun⟩ | ⟨hfound, hrun⟩ | ⟨hfound, hrun⟩
  · rw [hrun]
    refine .inr ⟨rfl, ?_⟩
    exact
      { faces := rfl
        count := rfl
        runs := hruns
        tried := hlog none
        balanced := h.balanced.touch rfl rfl nofun
        numbered := Ledger.forall_acquired_append h.numbered (fun id => Nat.lt_succ_of_lt) nofun
        nothing := h.nothing.append (h.runs ▸ hfound) }
  · rw [hrun]
    refine .inr ⟨rfl, ?_⟩
    have hreleased := hacquired.release (e := .releaseFaces s.runs 0) rfl rfl
      (fun id hid => by simpa [arrayLedger] using hid) (Set.mem_insert _ _)
    have hempty : (insert s.runs ∅ : Set ℕ) \ {s.runs} = ∅ := by simp
    rw [hempty] at hreleased
    exact
      { faces := rfl
        count := rfl
        runs := hruns
        tried := by
          change Detecting.tried (s.log ++ [_] ++ [_]) = _
          rw [tried_append, hlog]
          exact List.append_nil _
        balanced := hreleased
        numbered := Ledger.forall_acquired_append hnumbered (fun _ => id) nofun
        nothing := h.nothing.append (h.runs ▸ hfound) }
  · rw [hrun]
    refine .inl ⟨rfl, ?_⟩
    have hone : (insert s.runs ∅ : Set ℕ) = {os.length} := by simp [h.runs]
    rw [hone] at hacquired
    exact
      { faces := by rw [← h.runs]; rfl
        count := by rw [← h.runs]; rfl
        ne_nil := h.runs ▸ hfound
        tried := hlog _
        balanced := hacquired
        nothing := h.nothing }

/-- The orientations that may be tried, in order. -/
def orientations (orientation : Int32) (tryOtherOrientations : Bool) : List Int32 :=
  orientation ::
    if tryOtherOrientations then
      (kOrientations.map FaceOrientation.code).filter (· ≠ orientation)
    else []

theorem nodup_orientations (orientation : Int32) (tryOtherOrientations : Bool) :
    (orientations orientation tryOtherOrientations).Nodup := by
  cases tryOtherOrientations with
  | false => exact List.nodup_singleton orientation
  | true =>
      refine List.nodup_cons.mpr ⟨fun hmem => ?_, List.Nodup.filter _ (by decide)⟩
      have hne := (List.mem_filter.mp hmem).2
      simp at hne

/-- The loop tries one orientation after another, except the one it is told, until one finds
faces. -/
theorem Seeking.runOthers (h : Seeking sdk os s) (orientation : Int32) (others : List Int32) :
    let r := Detecting.runOthers sdk orientation others s
    (∃ o before after, r.1 = some o ∧ Found sdk (os ++ before) o r.2 ∧
        others.filter (· ≠ orientation) = before ++ o :: after) ∨
      (r.1 = none ∧ Seeking sdk (os ++ others.filter (· ≠ orientation)) r.2) := by
  induction others generalizing os s with
  | nil => exact .inr ⟨rfl, by simpa [Detecting.runOthers] using h⟩
  | cons o others ih =>
      simp only [Detecting.runOthers]
      by_cases hne : o ≠ orientation
      case neg =>
        rw [if_neg hne, List.filter_cons_of_neg (by simpa using hne)]
        exact ih h
      case pos =>
        rw [if_pos hne, List.filter_cons_of_pos (by simpa using hne)]
        rcases h.run o with ⟨hrun, hfound⟩ | ⟨hrun, hseeking⟩
        · rw [if_pos hrun]
          exact .inl ⟨o, [], _, rfl, by rwa [List.append_nil], rfl⟩
        · rw [if_neg (by rw [hrun]; exact Bool.false_ne_true)]
          rcases ih hseeking with ⟨o', before, after, hr, hfound, hsplit⟩ | ⟨hr, hrest⟩
          · refine .inl ⟨o', o :: before, after, hr, ?_, by rw [hsplit]; rfl⟩
            rwa [List.append_assoc] at hfound
          · refine .inr ⟨hr, ?_⟩
            rwa [List.append_assoc] at hrest

/-- The orientations are tried up to the first that finds faces, or all in vain. -/
theorem runAll_cases (sdk : Detector) (orientation : Int32) (tryOtherOrientations : Bool) :
    let r := runAll sdk orientation tryOtherOrientations
    (∃ os o after, r.1 = some o ∧ Found sdk os o r.2 ∧
        orientations orientation tryOtherOrientations = os ++ o :: after) ∨
      (r.1 = none ∧ Seeking sdk (orientations orientation tryOtherOrientations) r.2) := by
  unfold runAll
  dsimp only
  rcases (seeking_nil sdk).run orientation with ⟨hrun, hfound⟩ | ⟨hrun, hseeking⟩
  · rw [if_pos hrun]
    exact .inl ⟨[], orientation, _, rfl, hfound, rfl⟩
  · rw [if_neg (by rw [hrun]; exact Bool.false_ne_true)]
    cases tryOtherOrientations with
    | false => exact .inr ⟨rfl, hseeking⟩
    | true =>
        rw [if_pos rfl]
        rcases hseeking.runOthers orientation (kOrientations.map FaceOrientation.code) with
          ⟨o, before, after, hr, hfound, hsplit⟩ | ⟨hr, hrest⟩
        · refine .inl ⟨_, o, after, hr, hfound, ?_⟩
          rw [orientations, if_pos rfl, hsplit]
          rfl
        · exact .inr ⟨hr, hrest⟩

/-! ### The widest face -/

/-- The first of the widest faces. -/
def widestFace (f : StFace) (fs : List StFace) : StFace :=
  fs.foldl (fun best f => if f.width > best.width then f else best) f

theorem widestFace_append (f : StFace) (fs : List StFace) (g : StFace) :
    widestFace f (fs ++ [g]) =
      if g.width > (widestFace f fs).width then g else widestFace f fs := by
  rw [widestFace, List.foldl_append]
  rfl

theorem widestFace_mem (f : StFace) (fs : List StFace) : widestFace f fs ∈ f :: fs := by
  induction fs using List.reverseRecOn with
  | nil => exact List.mem_cons_self
  | append_singleton fs g ih =>
      rw [widestFace_append]
      split
      · simp
      · exact List.mem_append_left [g] ih

theorem le_widestFace (f : StFace) (fs : List StFace) :
    ∀ g ∈ f :: fs, g.width ≤ (widestFace f fs).width := by
  induction fs using List.reverseRecOn with
  | nil =>
      intro g hg
      rw [List.mem_singleton.mp hg]
      exact Int32.le_refl _
  | append_singleton fs g ih =>
      intro g' hg'
      rw [widestFace_append]
      rcases List.mem_append.mp (show g' ∈ (f :: fs) ++ [g] from hg') with hg' | hg'
      · split
        case isTrue hlt => exact Int32.le_trans (ih g' hg') (Int32.le_of_lt hlt)
        case isFalse => exact ih g' hg'
      · rw [List.mem_singleton.mp hg']
        split
        case isTrue => exact Int32.le_refl _
        case isFalse hge => exact Int32.not_lt.mp hge

/-- The face is the widest by the ints that are compared, and so by the rectangles, if their
widths are ints. -/
structure IsWidest (best : StFace) (faces : List StFace) : Prop where
  mem : best ∈ faces
  compared : ∀ f ∈ faces, f.width ≤ best.width
  rect : (∀ f ∈ faces, f.Fits) → ∀ f ∈ faces, f.rect.width ≤ best.rect.width

theorem isWidest_widestFace (f : StFace) (fs : List StFace) :
    IsWidest (widestFace f fs) (f :: fs) where
  mem := widestFace_mem f fs
  compared := le_widestFace f fs
  rect hfits g hg := by
    have hle := Int32.le_iff_toInt_le.mp (le_widestFace f fs g hg)
    rwa [(hfits g hg).toInt_width, (hfits _ (widestFace_mem f fs)).toInt_width] at hle

/-- After `k` rounds of the loop: `best` is the widest of the first `k + 1` faces, and the array
was only read. -/
structure Compared (array : FaceArray) (f : StFace) (fs : List StFace) (s : Detecting) (k : ℕ)
    (p : ℕ × Detecting) : Prop where
  best : array.faces[p.1]? = some (widestFace f (fs.take k))
  count : p.2.count = s.count
  balanced : arrayLedger.Balanced p.2.log {array.id}
  tried : tried p.2.log = tried s.log

theorem Compared.step {array : FaceArray} {f : StFace} {fs : List StFace} {k : ℕ}
    {p : ℕ × Detecting} (h : Compared array f fs s k p) (hfaces : array.faces = f :: fs)
    (hk : k < fs.length) :
    ∃ p', compareFace array k p = some p' ∧ Compared array f fs s (k + 1) p' := by
  have hnext : array.faces[k + 1]? = some fs[k] := by
    rw [hfaces, List.getElem?_cons_succ, List.getElem?_eq_getElem hk]
  have htake : fs.take (k + 1) = fs.take k ++ [fs[k]] := (List.take_append_getElem hk).symm
  have hbalanced : arrayLedger.Balanced (p.2.log ++ [.read array.id]) {array.id} :=
    h.balanced.touch rfl rfl fun id hid => by simpa [arrayLedger] using hid
  have htried : Detecting.tried (p.2.log ++ [.read array.id]) = Detecting.tried s.log := by
    rw [tried_append, h.tried]
    exact List.append_nil _
  unfold compareFace
  rw [hnext, h.best]
  refine ⟨_, rfl, ?_, h.count, hbalanced, htried⟩
  rw [htake, widestFace_append]
  split
  case isTrue => exact hnext
  case isFalse => exact h.best

/-- The loop ends with `best` on the widest face. -/
theorem widestIndex_compared (array : FaceArray) {f : StFace} {fs : List StFace}
    (hfaces : array.faces = f :: fs) (hcount : s.count = (f :: fs).length)
    (hbalanced : arrayLedger.Balanced s.log {array.id}) :
    ∃ p, widestIndex array s = some p ∧ Compared array f fs s fs.length p := by
  have hrounds : s.count - 1 = fs.length := by rw [hcount, List.length_cons, Nat.add_sub_cancel]
  have hstart : Compared array f fs s 0 (0, s) :=
    ⟨by rw [hfaces]; rfl, rfl, hbalanced, rfl⟩
  unfold widestIndex
  rw [hrounds]
  exact Raster.forRange_rule (I := Compared array f fs s)
    (fun k p hk hp => hp.step hfaces hk) hstart

/-! ### The whole function -/

/-- The landmarks of a face that a run found are backed. -/
theorem backed_of_found {d : Detection} {f : StFace} (h : f ∈ d.found) : f.landmarks.Backed := by
  unfold Detection.found at h
  split at h
  case isTrue => exact absurd h List.not_mem_nil
  case isFalse =>
    cases harray : d.array with
    | none =>
        rw [harray] at h
        exact absurd h List.not_mem_nil
    | some fs =>
        rw [harray] at h
        exact d.backed fs harray f h

theorem assign_all {α : Type} {cells : List α} {n : ℕ} (h : cells.length = n) :
    assign cells n = some cells := by
  rw [assign, if_pos (Nat.le_of_eq h.symm), List.take_of_length_le (Nat.le_of_eq h)]

theorem copyOcclusion_eq {lm : StLandmarks} (h : lm.Backed) :
    ∃ occlusion, copyOcclusion lm = some occlusion ∧ occlusion.length = lm.count := by
  unfold copyOcclusion
  cases hcells : lm.occlusion with
  | none => exact ⟨_, rfl, List.length_replicate⟩
  | some cells => exact ⟨cells, assign_all (h.occlusion cells hcells), h.occlusion cells hcells⟩

/-- What is stored of the best face: its landmarks, as many as it has. -/
structure Copied (f : StFace) (orientation : Int32) (d : Detected) : Prop where
  face : d.face = f
  orientation : d.orientation = orientation
  points : d.points = f.landmarks.points ∧ d.points.length = f.landmarks.count
  occlusion : copyOcclusion f.landmarks = some d.occlusion ∧
    d.occlusion.length = f.landmarks.count

/-- The best face is copied, and then the array is released. -/
theorem Found.report (h : Found sdk os o s) :
    ∃ f fs d s', (sdk os.length o).found = f :: fs ∧ Detecting.report o s = some (d, s') ∧
      Copied (widestFace f fs) o d ∧ arrayLedger.Balanced s'.log ∅ ∧
      Detecting.tried s'.log = os ++ [o] := by
  obtain ⟨f, fs, hfound⟩ := List.exists_cons_of_ne_nil h.ne_nil
  have hfaces := h.faces
  have hcount := h.count
  rw [hfound] at hfaces hcount
  obtain ⟨p, hloop, hcompared⟩ := widestIndex_compared ⟨os.length, f :: fs⟩ rfl hcount h.balanced
  have hbest : (f :: fs)[p.1]? = some (widestFace f fs) := by
    have hbest := hcompared.best
    rwa [List.take_length] at hbest
  have hbacked : (widestFace f fs).landmarks.Backed :=
    backed_of_found (hfound ▸ widestFace_mem f fs)
  obtain ⟨occlusion, hocclusion, hlength⟩ := copyOcclusion_eq hbacked
  have hread := hcompared.balanced.touch (e := .read os.length) rfl rfl
    fun id hid => by simpa [arrayLedger] using hid
  have hreleased := hread.release (e := .releaseFaces os.length p.2.count) rfl rfl
    (fun id hid => by simpa [arrayLedger] using hid) (Set.mem_singleton _)
  rw [Set.sdiff_self] at hreleased
  refine ⟨f, fs, ⟨widestFace f fs, (widestFace f fs).landmarks.points, occlusion, o⟩,
    (p.2.emit (.read os.length)).emit (.releaseFaces os.length p.2.count), hfound, ?_,
    ⟨rfl, rfl, ⟨rfl, hbacked.points⟩, hocclusion, hlength⟩, hreleased, ?_⟩
  · unfold Detecting.report
    simp only [hfaces, hloop, hbest, assign_all hbacked.points, hocclusion, Option.bind_eq_bind,
      Option.bind_some]
    rfl
  · change Detecting.tried (p.2.log ++ [_] ++ [_]) = _
    rw [tried_append, tried_append, hcompared.tried, h.tried]
    simp [orientation?]

/-- What `detect` does: it copies the widest face of the first run that finds any, or tries
every orientation in vain, and leaves no array. -/
theorem detect_cases (sdk : Detector) (orientation : Int32) (tryOtherOrientations : Bool) :
    ∃ out log, detect sdk orientation tryOtherOrientations = some (out, log) ∧
      arrayLedger.Balanced log ∅ ∧
      ((∃ os o after f fs d, out = some d ∧ tried log = os ++ [o] ∧ NothingFound sdk os ∧
          orientations orientation tryOtherOrientations = os ++ o :: after ∧
          (sdk os.length o).found = f :: fs ∧ Copied (widestFace f fs) o d) ∨
        (out = none ∧ tried log = orientations orientation tryOtherOrientations ∧
          NothingFound sdk (tried log))) := by
  unfold detect
  dsimp only
  rcases runAll_cases sdk orientation tryOtherOrientations with
    ⟨os, o, after, hr, hfound, hsplit⟩ | ⟨hr, hseeking⟩
  · obtain ⟨f, fs, d, s', hrun, hreport, hcopied, hbalanced, hlog⟩ := hfound.report
    rw [hr]
    dsimp only
    rw [hreport, Option.map_some]
    exact ⟨_, _, rfl, hbalanced, .inl ⟨os, o, after, f, fs, d, rfl, hlog, hfound.nothing, hsplit,
      hrun, hcopied⟩⟩
  · rw [hr]
    refine ⟨_, _, rfl, hseeking.balanced, .inr ⟨rfl, hseeking.tried, ?_⟩⟩
    rw [hseeking.tried]
    exact hseeking.nothing

/-- Every array that the detector left is released once, and nothing reads it after that. -/
structure Released (log : List DetectEvent) : Prop where
  once : ∀ id, arrayLedger.Acquired log id →
    log.countP (fun e => arrayLedger.releases e = some id) = 1
  unread : ∀ before id count after, log = before ++ .releaseFaces id count :: after →
    .read id ∉ after

theorem released_of_balanced {log : List DetectEvent} (h : arrayLedger.Balanced log ∅) :
    Released log where
  once id hid := h.disciplined.countP_releases_eq hid fun howned => (h.owned id).mp howned
  unread _ id _ _ hsplit hread :=
    h.disciplined.not_touched_after hsplit rfl (.read id) hread (List.mem_singleton_self id)

/-- The face is the widest of the first run that found any, and reported with the orientation
of that run and with all its landmarks. -/
structure Widest (sdk : Detector) (log : List DetectEvent) (d : Detected) : Prop where
  first : ∃ os, tried log = os ++ [d.orientation] ∧ NothingFound sdk os ∧
    IsWidest d.face (sdk os.length d.orientation).found
  points : d.points = d.face.landmarks.points ∧ d.points.length = d.face.landmarks.count
  occlusion : copyOcclusion d.face.landmarks = some d.occlusion ∧
    d.occlusion.length = d.face.landmarks.count
  get : d.get.landmarks.Backed ∧ d.get.landmarks.count = d.face.landmarks.count

theorem Copied.widest {f : StFace} {fs : List StFace} {d : Detected} {log : List DetectEvent}
    (h : Copied (widestFace f fs) o d) (hlog : tried log = os ++ [o])
    (hnothing : NothingFound sdk os) (hrun : (sdk os.length o).found = f :: fs) :
    Widest sdk log d := by
  obtain ⟨hface, rfl, hpoints, hocclusion⟩ := h
  exact
    { first := by
        refine ⟨os, hlog, hnothing, ?_⟩
        rw [hface, hrun]
        exact isWidest_widestFace f fs
      points := hface ▸ hpoints
      occlusion := hface ▸ hocclusion
      get := by
        refine ⟨⟨rfl, fun cells hcells => ?_⟩, hface ▸ hpoints.2⟩
        cases hcells
        exact hocclusion.2.trans hpoints.2.symm }

/-- Whatever the detector answers, `detect` tries each orientation at most once and the given
one first, releases every array once and never reads it afterwards, and reports the widest face
of the first run that found any; without such a run it reports none. -/
theorem detect_right (sdk : Detector) (orientation : Int32) (tryOtherOrientations : Bool) :
    ∃ out log, detect sdk orientation tryOtherOrientations = some (out, log) ∧
      (tried log).Nodup ∧ (tried log).head? = some orientation ∧ Released log ∧
      (∀ d, out = some d → Widest sdk log d) ∧ (out = none → NothingFound sdk (tried log)) := by
  obtain ⟨out, log, hdetect, hbalanced, hcases⟩ := detect_cases sdk orientation tryOtherOrientations
  have hnodup := nodup_orientations orientation tryOtherOrientations
  refine ⟨out, log, hdetect, ?_⟩
  rcases hcases with ⟨os, o, after, f, fs, d, rfl, hlog, hnothing, hsplit, hrun, hcopied⟩ |
    ⟨rfl, hlog, hnothing⟩
  · have hprefix : tried log <+: orientations orientation tryOtherOrientations :=
      ⟨after, by rw [hlog, hsplit, List.append_assoc]; rfl⟩
    refine ⟨hnodup.sublist hprefix.sublist, ?_, released_of_balanced hbalanced, ?_, nofun⟩
    · cases os with
      | nil => rw [hlog, (List.cons.inj hsplit).1]; rfl
      | cons o' os => rw [hlog, (List.cons.inj hsplit).1]; rfl
    · rintro d' hd'
      rw [← Option.some.inj hd']
      exact hcopied.widest hlog hnothing hrun
  · refine ⟨hlog ▸ hnodup, by rw [hlog]; rfl, released_of_balanced hbalanced, nofun, fun _ => ?_⟩
    exact hnothing

end Detecting

end OneplusHal.Face

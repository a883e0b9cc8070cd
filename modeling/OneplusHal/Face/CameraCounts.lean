import Mathlib.Data.List.Forall2
import OneplusHal.Face.CameraHandles

/-!
The camera source that counts its objects, as an abstraction of the one that names them.

The counters are those of the log, and the pointers that are not null are the same. Images and the
other callbacks do not matter to either.
-/

namespace OneplusHal.Face

open OneplusHal

def NdkObject.isFor (r : CameraResource) : NdkObject → Bool
  | .part r' _ => r' = r
  | _ => false

namespace CameraHandles

/-- How many objects for the pointer have been made. -/
def made (s : CameraHandles) (r : CameraResource) : ℕ :=
  s.log.countP fun e => e.made.any (NdkObject.isFor r)

/-- How many of them have been freed. -/
def freed (s : CameraHandles) (r : CameraResource) : ℕ :=
  s.log.countP fun e => e.freed.any (NdkObject.isFor r)

/-- The camera source seen without the names of its objects. -/
structure Agrees (s : CameraHandles) (c : CameraSource) : Prop where
  id : s.mCameraId = c.mCameraId
  orientation : s.mSensorOrientation = c.mSensorOrientation
  held : ∀ r, (s.held r).isSome = c.held r
  acquired : ∀ r, s.made r = c.acquired r
  released : ∀ r, s.freed r = c.released r

variable {s : CameraHandles} {c : CameraSource}

theorem agrees_init : Agrees {} {} := ⟨rfl, rfl, fun _ => rfl, fun _ => rfl, fun _ => rfl⟩

/-! ### Calls -/

/-- A call that makes and frees nothing for a pointer. -/
theorem Agrees.snoc (h : Agrees s c) {e : NdkCall}
    (hmade : ∀ r, e.made.any (NdkObject.isFor r) = false)
    (hfreed : ∀ r, e.freed.any (NdkObject.isFor r) = false) (next : ℕ) :
    Agrees { s with next, log := s.log ++ [e] } c where
  id := h.id
  orientation := h.orientation
  held := h.held
  acquired r := by
    rw [← h.acquired, made, made, List.countP_append, List.countP_singleton, hmade]
    rfl
  released r := by
    rw [← h.released, freed, freed, List.countP_append, List.countP_singleton, hfreed]
    rfl

theorem Agrees.call (h : Agrees s c) (f : NdkFunction) (given : List NdkObject) :
    Agrees (s.call f given) c :=
  h.snoc (fun _ => rfl) (fun _ => rfl) s.next

theorem Agrees.make (h : Agrees s c) (f : NdkFunction) (given : List NdkObject)
    {g : ℕ → NdkObject} (hg : ∀ r n, (g n).isFor r = false) :
    Agrees (s.make f given g) c :=
  h.snoc (e := ({ function := f, given, made := some (g s.next) } : NdkCall))
    (fun r => hg r s.next) (fun _ => rfl) (s.next + 1)

theorem Agrees.free (h : Agrees s c) (f : NdkFunction) {o : NdkObject}
    (ho : ∀ r, o.isFor r = false) : Agrees (s.free f o) c :=
  h.snoc (e := ({ function := f, given := [], freed := some o } : NdkCall)) (fun _ => rfl) ho s.next

theorem Agrees.create (h : Agrees s c) (r : CameraResource) (given : List NdkObject) (ok : Bool) :
    Agrees (s.create r given ok) (c.acquire r ok) := by
  unfold CameraHandles.create CameraSource.acquire
  cases ok with
  | false => exact h.call _ _
  | true =>
      refine ⟨h.id, h.orientation, fun r' => ?_, fun r' => ?_, fun r' => ?_⟩
      · by_cases heq : r' = r
        · subst heq
          simp [assign]
        · simp [assign, heq, h.held]
      · by_cases heq : r' = r
        · subst heq
          simp [assign, CameraHandles.make, made, NdkObject.isFor, ← h.acquired]
        · simp [assign, CameraHandles.make, made, NdkObject.isFor, heq, Ne.symm heq,
            ← h.acquired]
      · simp [assign, CameraHandles.make, freed, ← h.released]

theorem Agrees.clear (h : Agrees s c) {r : CameraResource} {n : ℕ} (hn : s.held r = some n) :
    Agrees { s.free (.free r) (.part r n) with held := Function.update s.held r none }
      (c.release r) := by
  have hheld : c.held r = true := by
    rw [← h.held, hn]
    rfl
  rw [CameraSource.release, if_pos hheld]
  refine ⟨h.id, h.orientation, fun r' => ?_, fun r' => ?_, fun r' => ?_⟩
  · by_cases heq : r' = r
    · subst heq
      simp
    · simp [heq, h.held]
  · simp [CameraHandles.free, made, ← h.acquired]
  · by_cases heq : r' = r
    · subst heq
      simp [CameraHandles.free, freed, NdkObject.isFor, ← h.released]
    · simp [CameraHandles.free, freed, NdkObject.isFor, heq, Ne.symm heq, ← h.released]

/-! ### Images -/

theorem Agrees.onImageAvailable (h : Agrees s c) (a : ImageAnswer) :
    Agrees (s.onImageAvailable a) c := by
  unfold CameraHandles.onImageAvailable
  dsimp only
  split
  · exact h.call _ _
  · have hfreed := ((h.make .acquireLatestImage (s.arg .reader) (g := .image)
      fun _ _ => rfl).call .getPlanes [.image s.next]).free .deleteImage (o := .image s.next)
      fun _ => rfl
    split
    · exact hfreed
    · split
      · exact hfreed.call _ _
      · exact (hfreed.call _ _).call _ _

theorem Agrees.images (h : Agrees s c) (as : List ImageAnswer) : Agrees (s.images as) c := by
  unfold CameraHandles.images
  split
  · exact Machine.run_invariant (I := fun s => Agrees s c)
      (fun _ a hs => hs.onImageAvailable a) h as
  · exact h

/-- The mailbox does not matter. -/
theorem Agrees.setFrame (h : Agrees s c) (frame : Nv21) (available failed : Bool) :
    Agrees s { c with mFrame := frame, mFrameAvailable := available, mFailed := failed } :=
  ⟨h.id, h.orientation, h.held, h.acquired, h.released⟩

theorem Agrees.deliver (h : Agrees s c) (events : List CameraEvent) :
    Agrees s (events.foldl CameraSource.deliver c) := by
  refine Machine.run_invariant (I := Agrees s) (fun c e hc => ?_) h events
  cases e with
  | imageAvailable nv21 =>
      cases nv21 with
      | none => exact hc
      | some frame => exact hc.setFrame frame true c.mFailed
  | disconnected => exact hc.setFrame c.mFrame c.mFrameAvailable true
  | error code => exact hc.setFrame c.mFrame c.mFrameAvailable true

/-! ### Stop -/

section Stop

variable {late : NdkFunction → List ImageAnswer}

theorem Agrees.callLate (h : Agrees s c) (f : NdkFunction) (given : List NdkObject) :
    Agrees (s.callLate late f given) c :=
  (h.images (late f)).call f given

theorem Agrees.release_null (h : Agrees s c) {r : CameraResource} (hr : s.held r = none) :
    c.release r = c := by
  have hheld : c.held r = false := by
    rw [← h.held, hr]
    rfl
  rw [CameraSource.release, hheld, if_neg Bool.false_ne_true]

theorem Agrees.release (h : Agrees s c) (r : CameraResource) :
    Agrees (s.release late r) (c.release r) := by
  unfold CameraHandles.release
  split
  case h_1 hr => rwa [h.release_null hr]
  case h_2 n hn =>
    have hcleared := (h.images (late (.free r))).clear (n := n) (r := r) (by simpa using hn)
    simpa [CameraHandles.free] using hcleared

theorem Agrees.stopSession (h : Agrees s c) :
    Agrees (s.stopSession late) (c.release .session) := by
  unfold CameraHandles.stopSession
  split
  · exact (h.callLate _ _).release _
  case isFalse hnull => rwa [h.release_null (by simpa using hnull)]

theorem Agrees.stopRequest (h : Agrees s c) :
    Agrees (s.stopRequest late)
      (if c.held .request then (c.release .target).release .request else c) := by
  unfold CameraHandles.stopRequest
  rw [h.held]
  split
  · exact ((h.callLate _ _).release _).release _
  · exact h

theorem Agrees.stopOutputs (h : Agrees s c) :
    Agrees (s.stopOutputs late)
      (if c.held .outputs then (c.release .sessionOutput).release .outputs else c) := by
  unfold CameraHandles.stopOutputs
  rw [h.held]
  split
  · exact ((h.callLate _ _).release _).release _
  · exact h

theorem Agrees.stop (h : Agrees s c) : Agrees (s.stop late) c.stop :=
  ((((h.stopSession.release .device).stopRequest).stopOutputs).release .reader).release .preview

end Stop

/-! ### Start -/

/-- A camera is remembered. -/
theorem Agrees.name (h : Agrees s c) (id : Bytes) (o : Int) :
    Agrees { s with mCameraId := id, mSensorOrientation := o }
      { c with mCameraId := id, mSensorOrientation := o } :=
  ⟨rfl, rfl, h.held, h.acquired, h.released⟩

theorem Agrees.look (h : Agrees s c) (manager ids : ℕ) (a : CameraAnswer) :
    Agrees (s.look manager ids a)
      (if a.toInfo.front then
        { c with
          mCameraId := a.id
          mSensorOrientation := a.orientation.getD c.mSensorOrientation }
      else c) := by
  unfold CameraHandles.look CameraAnswer.toInfo
  dsimp only
  cases a.readable with
  | false => exact h.call _ _
  | true =>
      have hread := (h.make .getCameraCharacteristics [.manager manager, .idList ids]
        (g := .metadata) fun _ _ => rfl).call .getConstEntry [.metadata s.next]
      by_cases hfront : a.front = some true
      · have hnamed := ((hread.name a.id (a.orientation.getD c.mSensorOrientation)).call
          .getConstEntry [.metadata s.next]).free .freeMetadata (o := .metadata s.next)
          fun _ => rfl
        simp only [hfront, Bool.not_true, Bool.true_and, decide_true, Bool.false_eq_true, if_true,
          if_false]
        rw [← h.orientation] at hnamed ⊢
        exact hnamed
      · have hfreed := hread.free .freeMetadata (o := .metadata s.next) fun _ => rfl
        simpa [hfront] using hfreed

theorem Agrees.lookAll (h : Agrees s c) (manager ids : ℕ) (answers : List CameraAnswer) :
    Agrees (lookAll manager ids answers s)
      (CameraSource.scanCameras (answers.map CameraAnswer.toInfo) c) := by
  induction answers generalizing s c with
  | nil => exact h
  | cons a rest ih =>
      rw [CameraHandles.lookAll, List.map_cons, CameraSource.scanCameras, h.id]
      split
      · exact h
      · have hnext := ih (h.look manager ids a)
        rwa [apply_ite (CameraSource.scanCameras (rest.map CameraAnswer.toInfo))] at hnext

theorem Agrees.createManager (h : Agrees s c) : Agrees s.createManager c := by
  unfold CameraHandles.createManager
  split
  · exact h
  · have hmade := h.make .createManager [] (g := .manager) fun _ _ => rfl
    exact ⟨hmade.id, hmade.orientation, hmade.held, hmade.acquired, hmade.released⟩

theorem Agrees.findFrontCamera (h : Agrees s c) (cameras : Option (List CameraAnswer)) :
    (findFrontCamera cameras s).1 =
        (CameraSource.findFrontCamera (cameras.map (List.map CameraAnswer.toInfo)) c).1 ∧
      Agrees (findFrontCamera cameras s).2
        (CameraSource.findFrontCamera (cameras.map (List.map CameraAnswer.toInfo)) c).2 := by
  unfold CameraHandles.findFrontCamera CameraSource.findFrontCamera
  rw [h.id]
  split
  · exact ⟨rfl, h⟩
  · cases cameras with
    | none => exact ⟨rfl, h.createManager.call _ _⟩
    | some answers =>
        have hlisted := h.createManager.make .getCameraIdList
          [.manager (s.createManager.mManager.getD 0)] (g := .idList) fun _ _ => rfl
        have hlooked := (hlisted.lookAll (s.createManager.mManager.getD 0) s.createManager.next
          answers).free .deleteCameraIdList (o := .idList s.createManager.next) fun _ => rfl
        exact ⟨congrArg (fun id => decide (id ≠ [])) hlooked.id, hlooked⟩

theorem Agrees.acquirePreview (h : Agrees s c) (preview : Bool) :
    Agrees (s.acquirePreview preview) (c.acquire .preview preview) := by
  cases preview with
  | false => exact h
  | true => exact (h.create .preview [] true).call _ _

theorem Agrees.connect (h : Agrees s c) (io : HandlesIO) :
    Agrees (s.connect io)
      ((((c.acquire .outputs io.outputs).acquire .sessionOutput io.sessionOutput).acquire
        .request io.request).acquire .target io.target) :=
  (((((((h.call _ _).call _ _).create _ _ _).create _ _ _).call _ _).create _ _ _).create _ _
    _).call _ _

/-- Where neither a device nor a session is left over. -/
theorem Agrees.openPipeline (h : Agrees s c) (hdevice : s.held .device = none)
    (hsession : s.held .session = none) (io : HandlesIO) (o : Bool × CameraSource)
    (ho : o =
      if !io.openCamera then (false, c.stop)
      else if !io.reader then (false, (c.acquire .device true).stop)
      else
        let c := (((((c.acquire .device true).acquire .reader true).acquire .outputs
          io.outputs).acquire .sessionOutput io.sessionOutput).acquire .request
          io.request).acquire .target io.target
        if !io.session then (false, c.stop)
        else if !io.repeating then (false, (c.acquire .session true).stop)
        else (true, c.acquire .session true)) :
    (s.openPipeline io).1 = o.1 ∧ Agrees (s.openPipeline io).2 o.2 := by
  subst ho
  unfold CameraHandles.openPipeline
  dsimp only
  cases io.openCamera with
  | false =>
      rw [assign_none (by simpa using hdevice)]
      exact ⟨rfl, (h.call (.create .device) _).stop⟩
  | true =>
      have hopened (given : List NdkObject) := h.create .device given true
      simp only [Bool.not_true, Bool.false_eq_true, if_false]
      cases io.reader with
      | false => exact ⟨rfl, ((hopened _).call (.create .reader) _).stop⟩
      | true =>
          have hconnected (given : List NdkObject) :=
            ((hopened given).create .reader [] true).connect io
          simp only [Bool.not_true, Bool.false_eq_true, if_false]
          cases io.session with
          | false =>
              rw [assign_none (by simpa using hsession)]
              exact ⟨rfl, ((hconnected _).call (.create .session) _).stop⟩
          | true =>
              have hcreated (given given' : List NdkObject) :=
                (hconnected given).create .session given' true
              simp only [Bool.not_true, Bool.false_eq_true, if_false]
              cases io.repeating with
              | false => exact ⟨rfl, ((hcreated _ _).call .setRepeatingRequest _).stop⟩
              | true => exact ⟨rfl, (hcreated _ _).call .setRepeatingRequest _⟩

theorem Agrees.start (h : Agrees s c) (hdevice : s.held .device = none)
    (hsession : s.held .session = none) (preview : Bool) (io : HandlesIO) :
    (s.start preview io).1 = (c.start preview io.toStartIO).1 ∧
      Agrees (s.start preview io).2 (c.start preview io.toStartIO).2 := by
  obtain ⟨hfound, hagrees⟩ : (CameraHandles.findFrontCamera io.cameras s).1 =
        (CameraSource.findFrontCamera io.toStartIO.cameras c).1 ∧
      Agrees (CameraHandles.findFrontCamera io.cameras s).2
        (CameraSource.findFrontCamera io.toStartIO.cameras c).2 := h.findFrontCamera io.cameras
  unfold CameraHandles.start CameraSource.start
  dsimp only
  rw [hfound]
  split
  · exact ⟨rfl, hagrees⟩
  · exact ((hagrees.acquirePreview preview).setFrame _ false false).openPipeline
      (by simpa [held_findFrontCamera] using hdevice)
      (by simpa [held_findFrontCamera] using hsession) io _ rfl

/-! ### Rounds -/

/-- The round of a camera source that counts, with any callbacks. -/
def Round.Matches (r : Round) (q : CameraSource.Round) : Prop :=
  q.preview = r.preview ∧ q.start = r.start.toStartIO

theorem Agrees.round (h : Agrees s c) (hdevice : s.held .device = none)
    (hsession : s.held .session = none) {r : Round} {q : CameraSource.Round}
    (hq : r.Matches q) : Agrees (s.round r) (c.round q) := by
  obtain ⟨hresult, hstarted⟩ := h.start hdevice hsession r.preview r.start
  unfold CameraHandles.round CameraSource.round
  dsimp only
  rw [hq.1, hq.2, hresult]
  split
  · exact ((hstarted.images r.images).deliver q.events).stop
  · exact hstarted

theorem Agrees.destroy (h : Agrees s c) : Agrees s.destroy c.stop := by
  have hstopped : Agrees s.stopEarly c.stop := h.stop
  unfold CameraHandles.destroy
  dsimp only
  split
  · exact hstopped
  case h_2 n _ =>
    have hfreed := hstopped.free .deleteManager (o := .manager n) fun _ => rfl
    exact ⟨hfreed.id, hfreed.orientation, hfreed.held, hfreed.acquired, hfreed.released⟩

theorem exists_matches (rounds : List Round) : ∃ qs, List.Forall₂ Round.Matches rounds qs :=
  ⟨rounds.map fun r => { preview := r.preview, start := r.start.toStartIO, events := [] },
    List.forall₂_map_right_iff.mpr (List.forall₂_same.mpr fun _ _ => ⟨rfl, rfl⟩)⟩

end CameraHandles

end OneplusHal.Face

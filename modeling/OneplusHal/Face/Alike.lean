import OneplusHal.Face.CaptureLoop
import OneplusHal.Face.Enroll

/-!
States that no client tells apart.

What an operation does and reports depends neither on the ghosts (the events beside the
callbacks, and the origins of the templates) nor on what belongs to other users (their
lockouts and challenges). `Alike` relates worlds, storages and states that differ in these
only, and each piece of an operation is shown to give the same result in related ones and
to leave them related.
-/

namespace OneplusHal.Face

open OneplusHal

/-! ### Worlds -/

/-- The two worlds differ in events that are no callbacks. -/
structure World.Alike (w w' : World) : Prop where
  camera : w'.camera = w.camera
  now : w'.now = w.now
  cancelled : w'.cancelled = w.cancelled
  callbacks : w'.trace.filterMap Event.callback? = w.trace.filterMap Event.callback?

namespace World.Alike

theorem refl (w : World) : w.Alike w := ⟨rfl, rfl, rfl, rfl⟩

theorem symm {w w' : World} (h : w.Alike w') : w'.Alike w :=
  ⟨h.camera.symm, h.now.symm, h.cancelled.symm, h.callbacks.symm⟩

theorem trans {w₁ w₂ w₃ : World} (h : w₁.Alike w₂) (h' : w₂.Alike w₃) : w₁.Alike w₃ :=
  ⟨h'.camera.trans h.camera, h'.now.trans h.now, h'.cancelled.trans h.cancelled,
    h'.callbacks.trans h.callbacks⟩

variable {w w' : World} (h : w.Alike w')

include h

theorem log {e e' : Event} (he : e'.callback? = e.callback?) : (w.log e).Alike (w'.log e') :=
  { h with
    callbacks := by
      simp only [trace_log, List.filterMap_append, h.callbacks, List.filterMap_cons, he] }

theorem logSame (e : Event) : (w.log e).Alike (w'.log e) := h.log rfl

theorem emit (c : Callback) : (w.emit c).Alike (w'.emit c) := h.logSame _

theorem withCamera (c : CameraSource) : { w with camera := c }.Alike { w' with camera := c } :=
  { h with camera := rfl }

theorem tick (n : ℕ) : (w.tick n).Alike (w'.tick n) :=
  { h with now := congrArg (· + n) h.now }

theorem pass (g : Gap) : (w.pass g).Alike (w'.pass g) where
  camera := congrArg (fun c => g.events.foldl CameraSource.deliver c) h.camera
  now := congrArg (· + g.elapsed) h.now
  cancelled := congrArg (· || g.cancel) h.cancelled
  callbacks := h.callbacks

theorem fetch (deadline : Time) : w'.fetch deadline = w.fetch deadline := by
  simp only [World.fetch, h.camera, h.now, h.cancelled]

theorem awaitFrame (deadline : Time) (waits : List Gap) :
    (awaitFrame deadline waits w').1 = (awaitFrame deadline waits w).1 ∧
      (awaitFrame deadline waits w).2.Alike (awaitFrame deadline waits w').2 := by
  have hidle {v v' : World} (hv : v.Alike v') : v'.idle = v.idle := by
    simp only [idle, hv.camera]
  have hbusy (rest : List Gap) {v v' : World} (hv : v.Alike v') (hb : v.idle = false) :
      (World.awaitFrame deadline rest v').1 = (World.awaitFrame deadline rest v).1 ∧
        (World.awaitFrame deadline rest v).2.Alike (World.awaitFrame deadline rest v').2 := by
    rw [awaitFrame_of_not_idle hb, awaitFrame_of_not_idle ((hidle hv).trans hb), hv.camera]
    split
    · exact ⟨rfl, hv⟩
    · exact ⟨rfl, hv.withCamera _⟩
  induction waits generalizing w w' with
  | nil =>
      cases hb : w.idle with
      | true =>
          rw [awaitFrame_nil hb, awaitFrame_nil ((hidle h).trans hb)]
          exact ⟨rfl, { h with now := congrArg (max · deadline) h.now }⟩
      | false => exact hbusy [] h hb
  | cons g rest ih =>
      cases hb : w.idle with
      | true =>
          have hpass := h.pass g
          rw [awaitFrame_cons hb, awaitFrame_cons ((hidle h).trans hb), hpass.cancelled, hpass.now]
          split
          · exact ⟨rfl, hpass⟩
          · exact ih hpass
      | false => exact hbusy (g :: rest) h hb

theorem nextFrame (deadline : Time) (waits : List Gap) :
    (w'.nextFrame deadline waits).1 = (w.nextFrame deadline waits).1 ∧
      (w.nextFrame deadline waits).2.Alike (w'.nextFrame deadline waits).2 := by
  obtain ⟨hframe, halike⟩ := h.awaitFrame deadline waits
  exact ⟨hframe, halike.log rfl⟩

theorem startCamera (preview : Bool) (io : StartIO) :
    (w'.startCamera preview io).1 = (w.startCamera preview io).1 ∧
      (w.startCamera preview io).2.Alike (w'.startCamera preview io).2 := by
  simp only [World.startCamera, h.camera]
  exact ⟨trivial, (h.withCamera _).log rfl⟩

theorem stopCamera : w.stopCamera.Alike w'.stopCamera := by
  simp only [World.stopCamera, h.camera]
  exact (h.withCamera _).log rfl

end World.Alike

/-! ### Capture loops -/

section

variable {α σ τ : Type} {deadline : Time}
  {body : Fetch → Nv21 → α → World × σ → Bool × World × σ}
  {body' : Fetch → Nv21 → α → World × τ → Bool × World × τ} {R : σ → τ → Prop}

/-- Two loops whose bodies do not tell related worlds and locals apart. -/
theorem whileFrames_alike
    (hbody : ∀ f nv21 a w w' x x', w.Alike w' → R x x' →
      let r := body f nv21 a (w, x)
      let r' := body' f nv21 a (w', x')
      r'.1 = r.1 ∧ r.2.1.Alike r'.2.1 ∧ R r.2.2 r'.2.2)
    (calls : List (Call α)) {w w' : World} {x : σ} {x' : τ} (h : w.Alike w') (hx : R x x') :
    let l := whileFrames deadline body calls (w, x)
    let l' := whileFrames deadline body' calls (w', x')
    l.1.Alike l'.1 ∧ R l.2 l'.2 := by
  apply Loop.foldUntil_related
    (R := fun (p : World × σ) (q : World × τ) => p.1.Alike q.1 ∧ R p.2 q.2)
  · rintro c ⟨v, y⟩ ⟨v', y'⟩ ⟨hv, hy⟩
    have hpass := hv.pass c.before
    obtain ⟨hframe, hnext⟩ := hpass.nextFrame deadline c.waits
    simp only [frameStep, hframe, hpass.fetch]
    cases (World.nextFrame deadline c.waits (v.pass c.before)).1 with
    | none => exact ⟨rfl, hnext, hy⟩
    | some nv21 => exact hbody _ nv21 c.answers _ _ y y' hnext hy
  · rintro ⟨v, y⟩ ⟨v', y'⟩ ⟨hv, hy⟩
    exact ⟨((hv.pass _).nextFrame deadline []).2, hy⟩
  · exact ⟨h, hx⟩

end

/-! ### Templates and storages -/

/-- A store without the origins of its templates. -/
def StAuthStore.data (store : StAuthStore) : List (Int × List UInt8) :=
  store.map fun p => (p.1, p.2.feature)

/-- The two storages differ in the origins of their templates. -/
structure Storage.Alike (st st' : Storage) : Prop where
  enrollmentFile : st'.enrollmentFile = st.enrollmentFile
  featureFile : st'.featureFile.map Template.feature = st.featureFile.map Template.feature
  faceIdFile : st'.faceIdFile = st.faceIdFile
  teeFeature : st'.teeFeature.map Template.feature = st.teeFeature.map Template.feature
  teeFrames : st'.teeFrames = st.teeFrames
  stAuth : ∀ tee, (st'.stAuth tee).data = (st.stAuth tee).data

theorem isNone_eq_of_data {t t' : Option Template}
    (h : t'.map Template.feature = t.map Template.feature) : t'.isNone = t.isNone := by
  rw [← Option.isNone_map (f := Template.feature) (x := t'), h, Option.isNone_map]

namespace StAuthStore

theorem data_eq_nil_iff {store store' : StAuthStore} (h : store'.data = store.data) :
    store' = [] ↔ store = [] := by
  rw [← List.map_eq_nil_iff (f := fun p : Int × Template => (p.1, p.2.feature)), ← data, h, data,
    List.map_eq_nil_iff]

theorem data_insert (store : StAuthStore) (faceId : Int) (t : Template) :
    (store.insert faceId t).data =
      (faceId, t.feature) :: store.data.filter fun p => p.1 != faceId := by
  rw [insert, data, List.map_cons, data, List.filter_map]
  rfl

theorem data_find (store : StAuthStore) (faceId : Int) :
    (store.find faceId).map Template.feature = store.data.lookup faceId := by
  induction store with
  | nil => rfl
  | cons p store ih =>
      rw [find, data, List.map_cons, List.lookup_cons, List.lookup_cons]
      cases faceId == p.1 with
      | true => rfl
      | false => exact ih

theorem find_alike {store store' : StAuthStore} (h : store'.data = store.data) (faceId : Int) :
    (store'.find faceId).map Template.feature = (store.find faceId).map Template.feature := by
  rw [data_find, data_find, h]

end StAuthStore

theorem deleteAllFaces_alike {store store' : StAuthStore} (h : store'.data = store.data)
    (answer : DeleteAnswer) :
    (deleteAllFaces answer store').1 = (deleteAllFaces answer store).1 ∧
      (deleteAllFaces answer store').2.data = (deleteAllFaces answer store).2.data := by
  cases answer with
  | failed code => exact ⟨rfl, h⟩
  | deleted whenEmpty =>
      simp only [deleteAllFaces, StAuthStore.data_eq_nil_iff h]
      exact ⟨trivial, trivial⟩

theorem unlink_alike {α β : Type} {f : α → β} {file file' : Option α}
    (h : file'.map f = file.map f) (fails : Bool) :
    (unlink fails file').1 = (unlink fails file).1 ∧
      (unlink fails file').2.map f = (unlink fails file).2.map f := by
  cases fails with
  | true => exact ⟨rfl, h⟩
  | false => exact ⟨rfl, rfl⟩

theorem writeStringToFile_alike {α β : Type} {f : α → β} {file file' : Option α} {x x' : α}
    (h : file'.map f = file.map f) (hx : f x' = f x) (o : WriteOutcome) :
    (writeStringToFile o x' file').1 = (writeStringToFile o x file).1 ∧
      (writeStringToFile o x' file').2.map f = (writeStringToFile o x file).2.map f := by
  cases o with
  | written => exact ⟨rfl, congrArg some hx⟩
  | openFailed => exact ⟨rfl, h⟩
  | writeFailed => exact ⟨rfl, rfl⟩

namespace Storage.Alike

theorem refl (st : Storage) : st.Alike st := ⟨rfl, rfl, rfl, rfl, rfl, fun _ => rfl⟩

theorem trans {st₁ st₂ st₃ : Storage} (h : st₁.Alike st₂) (h' : st₂.Alike st₃) :
    st₁.Alike st₃ where
  enrollmentFile := h'.enrollmentFile.trans h.enrollmentFile
  featureFile := h'.featureFile.trans h.featureFile
  faceIdFile := h'.faceIdFile.trans h.faceIdFile
  teeFeature := h'.teeFeature.trans h.teeFeature
  teeFrames := h'.teeFrames.trans h.teeFrames
  stAuth tee := (h'.stAuth tee).trans (h.stAuth tee)

variable {st st' : Storage} (h : st.Alike st')

include h

theorem setStAuth (tee : Bool) {store store' : StAuthStore} (hstore : store'.data = store.data) :
    (st.setStAuth tee store).Alike (st'.setStAuth tee store') :=
  { h with
    stAuth := fun tee' => by
      by_cases htee : tee' = tee
      · subst htee
        simpa only [Storage.setStAuth, Function.update_self] using hstore
      · simpa only [Storage.setStAuth, Function.update_of_ne htee] using h.stAuth tee' }

theorem setRecord (file : Option Bytes) :
    { st with enrollmentFile := file }.Alike { st' with enrollmentFile := file } :=
  { h with enrollmentFile := rfl }

theorem setFaceId (file : Option Bytes) :
    { st with faceIdFile := file }.Alike { st' with faceIdFile := file } :=
  { h with faceIdFile := rfl }

theorem setFeature {file file' : Option Template}
    (hfile : file'.map Template.feature = file.map Template.feature) :
    { st with featureFile := file }.Alike { st' with featureFile := file' } :=
  { h with featureFile := hfile }

end Storage.Alike

/-! ### The trusted app -/

namespace FaceTee

variable {st st' : Storage} (h : st.Alike st')

include h

theorem saveFeature_alike (a : SendAnswer) {t t' : Template} (ht : t'.feature = t.feature) :
    (saveFeature a t' st').1 = (saveFeature a t st).1 ∧
      (saveFeature a t st).2.Alike (saveFeature a t' st').2 := by
  simp only [saveFeature]
  split
  · exact ⟨rfl, { h with teeFeature := congrArg some ht }⟩
  · exact ⟨rfl, h⟩

theorem removeFeature_alike (a : SendAnswer) :
    (removeFeature a st').1 = (removeFeature a st).1 ∧
      (removeFeature a st).2.Alike (removeFeature a st').2 := by
  have hsend : sendOn st'.teeFeature a = sendOn st.teeFeature a := by
    simp only [sendOn, isNone_eq_of_data h.teeFeature]
  simp only [removeFeature, hsend]
  split
  · exact ⟨rfl, { h with teeFeature := rfl }⟩
  · exact ⟨rfl, h⟩

theorem compare_alike (a : SendAnswer) (score : ℚ) :
    (compare a score st').map Prod.fst = (compare a score st).map Prod.fst := by
  have hslot := isNone_eq_of_data h.teeFeature
  simp only [compare]
  cases hst : st.teeFeature with
  | none => cases hst' : st'.teeFeature with
    | none => rfl
    | some t' => simp [hst, hst'] at hslot
  | some t => cases hst' : st'.teeFeature with
    | none => simp [hst, hst'] at hslot
    | some t' => by_cases hsend : send a = 0 <;> simp [hsend]

theorem saveFrame_alike (a : SendAnswer) (index : ℕ) (nv21 : Nv21) :
    (saveFrame a index nv21 st).2.Alike (saveFrame a index nv21 st').2 := by
  simp only [saveFrame, h.teeFrames]
  split
  · exact { h with teeFrames := rfl }
  · exact h

theorem removeFrame_alike (a : SendAnswer) (index : ℕ) :
    (removeFrame a index st).2.Alike (removeFrame a index st').2 := by
  simp only [removeFrame, h.teeFrames]
  split
  · exact { h with teeFrames := rfl }
  · exact h

theorem removeFrames_alike (a : ℕ → SendAnswer) :
    (removeFrames a st).Alike (removeFrames a st') := by
  simp only [removeFrames]
  induction List.range kMaxFrames generalizing st st' with
  | nil => exact h
  | cons i is ih => exact ih (removeFrame_alike h (a i) i)

end FaceTee

/-! ### The st_auth engine -/

namespace AuthEngine

variable {st st' : Storage} (h : st.Alike st')

include h

theorem beginEnroll_alike (io : BeginEnrollIO) (a : AuthEngine) :
    (beginEnroll io a st').1 = (beginEnroll io a st).1 ∧
      (beginEnroll io a st').2.1 = (beginEnroll io a st).2.1 ∧
      (beginEnroll io a st).2.2.Alike (beginEnroll io a st').2.2 := by
  obtain ⟨hcode, hdata⟩ := deleteAllFaces_alike (h.stAuth a.mUseTee) io.delete
  have halike := (h.setStAuth a.mUseTee hdata).setFaceId (unlink io.unlinkFails st.faceIdFile).2
  simp only [beginEnroll, call, hcode, Storage.setStAuth, h.faceIdFile]
  split
  · exact ⟨rfl, rfl, halike⟩
  · split <;> exact ⟨rfl, rfl, halike⟩

theorem enroll_alike (origin origin' : ℕ) (answer : EnrollAnswer) (a : AuthEngine) :
    (enroll origin' answer a st').1 = (enroll origin answer a st).1 ∧
      (enroll origin' answer a st').2.1 = (enroll origin answer a st).2.1 ∧
      (enroll origin answer a st).2.2.Alike (enroll origin' answer a st').2.2 := by
  have hcaptured :
      (if EnrollAnswer.stores answer then
        st.setStAuth (a.call .authEnroll true).mUseTee
          ((st.stAuth (a.call .authEnroll true).mUseTee).insert (answer.faceId.getD (-1))
            ⟨answer.feature, origin⟩) else st).Alike
      (if EnrollAnswer.stores answer then
        st'.setStAuth (a.call .authEnroll true).mUseTee
          ((st'.stAuth (a.call .authEnroll true).mUseTee).insert (answer.faceId.getD (-1))
            ⟨answer.feature, origin'⟩) else st') := by
    split
    · apply h.setStAuth
      rw [StAuthStore.data_insert, StAuthStore.data_insert, h.stAuth]
    · exact h
  simp only [enroll]
  generalize (if EnrollAnswer.stores answer then _ else st) = c at hcaptured ⊢
  generalize (if EnrollAnswer.stores answer then _ else st') = c' at hcaptured ⊢
  rw [hcaptured.faceIdFile]
  obtain ⟨ok, file⟩ :=
    writeStringToFile answer.writeFaceId (Text.print (answer.faceId.getD (-1))) c.faceIdFile
  have hsaved := hcaptured.setFaceId file
  cases answer.status with
  | ok => cases ok <;> exact ⟨rfl, rfl, hsaved⟩
  | enrollOk => cases ok <;> exact ⟨rfl, rfl, hsaved⟩
  | _ => exact ⟨rfl, rfl, hcaptured⟩

theorem authenticate_alike (status : AuthStatus) (a : AuthEngine) :
    (authenticate status a st').1 = (authenticate status a st).1 ∧
      (authenticate status a st').2.1.map Template.feature =
        (authenticate status a st).2.1.map Template.feature ∧
      (authenticate status a st').2.2 = (authenticate status a st).2.2 := by
  have hfind := StAuthStore.find_alike (h.stAuth a.mUseTee) a.mFaceId
  have hunlock : authUnlock status ((st'.stAuth a.mUseTee).find a.mFaceId) =
      authUnlock status ((st.stAuth a.mUseTee).find a.mFaceId) := by
    simp only [authUnlock, isNone_eq_of_data hfind]
  simp only [authenticate, hunlock]
  -- Only the answers that mean a comparison hand the stored template on.
  cases authUnlock status ((st.stAuth a.mUseTee).find a.mFaceId) with
  | unlockOk => exact ⟨rfl, hfind, rfl⟩
  | unlockFailed => exact ⟨rfl, hfind, rfl⟩
  | hacknessFailed => exact ⟨rfl, hfind, rfl⟩
  | _ => exact ⟨rfl, rfl, rfl⟩

theorem removeTemplate_alike (io : RemoveTemplateIO) (a : AuthEngine) :
    (removeTemplate io a st').1 = (removeTemplate io a st).1 ∧
      (removeTemplate io a st').2.1 = (removeTemplate io a st).2.1 ∧
      (removeTemplate io a st).2.2.Alike (removeTemplate io a st').2.2 := by
  have hunlinked := h.setFaceId (unlink io.unlinkFails st.faceIdFile).2
  simp only [removeTemplate, h.faceIdFile]
  cases (a.init io.init).1 with
  | false => exact ⟨rfl, rfl, hunlinked⟩
  | true =>
      generalize (a.init io.init).2.call .authReset true = b
      have hdeleted := deleteAllFaces_alike (h.stAuth b.mUseTee) io.delete
      generalize deleteAllFaces io.delete (st.stAuth b.mUseTee) = d at *
      generalize deleteAllFaces io.delete (st'.stAuth b.mUseTee) = d' at *
      obtain ⟨code, store⟩ := d
      obtain ⟨code', store'⟩ := d'
      obtain ⟨rfl, hdata⟩ := hdeleted
      have halike := hunlinked.setStAuth b.mUseTee hdata
      cases code' <;> exact ⟨rfl, rfl, halike⟩

end AuthEngine

end OneplusHal.Face

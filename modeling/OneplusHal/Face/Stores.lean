import OneplusHal.Face.Enroll
import OneplusHal.Face.Frame

/-!
What the pieces of an operation do to the storage.

Everything but a capture only deletes: each part of the storage is afterwards as it was,
or empty. A capture adds templates of the present enroll operation to the store in use.
`Shrinks` and `Within` say these two, and a removal that reports success has emptied the
store in use.
-/

namespace OneplusHal.Face

open OneplusHal

/-! ### Deletions -/

/-- The record is left alone, and every other part is as it was or empty. -/
structure Storage.Shrinks (st st' : Storage) : Prop where
  enrollmentFile : st'.enrollmentFile = st.enrollmentFile
  featureFile : st'.featureFile = st.featureFile ∨ st'.featureFile = none
  faceIdFile : st'.faceIdFile = st.faceIdFile ∨ st'.faceIdFile = none
  teeFeature : st'.teeFeature = st.teeFeature ∨ st'.teeFeature = none
  stAuth : ∀ tee, st'.stAuth tee = st.stAuth tee ∨ st'.stAuth tee = []

/-- The record is left alone, and every template is an old one or one that the enroll
operation `origin` put into `store`. -/
structure Storage.Within (st : Storage) (store : StoreId) (origin : ℕ) (st' : Storage) :
    Prop where
  enrollmentFile : st'.enrollmentFile = st.enrollmentFile
  templates : ∀ store', ∀ t ∈ st'.templates store',
    t ∈ st.templates store' ∨ store' = store ∧ t.origin = origin

/-- As it was or empty, twice. -/
theorem emptied_trans {α : Type} {a b c e : α} (h : b = a ∨ b = e) (h' : c = b ∨ c = e) :
    c = a ∨ c = e := by
  rcases h' with rfl | rfl
  · exact h
  · exact .inr rfl

namespace Storage.Shrinks

theorem refl (st : Storage) : st.Shrinks st :=
  ⟨rfl, .inl rfl, .inl rfl, .inl rfl, fun _ => .inl rfl⟩

theorem templates {st st' : Storage} (h : st.Shrinks st') (store : StoreId) :
    st'.templates store = st.templates store ∨ st'.templates store = [] := by
  cases store with
  | teeSlot =>
      rcases h.teeFeature with h | h
      · exact .inl (by simp [Storage.templates, h])
      · exact .inr (by simp [Storage.templates, h])
  | featureFile =>
      rcases h.featureFile with h | h
      · exact .inl (by simp [Storage.templates, h])
      · exact .inr (by simp [Storage.templates, h])
  | stAuth tee =>
      rcases h.stAuth tee with h | h
      · exact .inl (by simp [Storage.templates, h])
      · exact .inr (by simp [Storage.templates, h])

theorem mem_templates {st st' : Storage} (h : st.Shrinks st') {store : StoreId} {t : Template}
    (ht : t ∈ st'.templates store) : t ∈ st.templates store := by
  rcases h.templates store with hsame | hempty
  · exact hsame ▸ ht
  · simp [hempty] at ht

theorem within {st st' : Storage} (h : st.Shrinks st') (store : StoreId) (origin : ℕ) :
    st.Within store origin st' :=
  ⟨h.enrollmentFile, fun _ _ ht => .inl (h.mem_templates ht)⟩

/-- Emptying one template directory of st_auth. -/
theorem setStAuth {st st' : Storage} (h : st.Shrinks st') {tee : Bool} {store : StAuthStore}
    (hstore : store = st'.stAuth tee ∨ store = []) : st.Shrinks (st'.setStAuth tee store) :=
  { h with
    stAuth := fun tee' => by
      by_cases htee : tee' = tee
      · subst htee
        simp only [Storage.setStAuth, Function.update_self]
        exact emptied_trans (h.stAuth tee') hstore
      · simp only [Storage.setStAuth, Function.update_of_ne htee]
        exact h.stAuth tee' }

end Storage.Shrinks

theorem Storage.Within.trans {st₁ st₂ st₃ : Storage} {store : StoreId} {origin : ℕ}
    (h : st₁.Within store origin st₂) (h' : st₂.Within store origin st₃) :
    st₁.Within store origin st₃ where
  enrollmentFile := h'.enrollmentFile.trans h.enrollmentFile
  templates store' t ht := by
    rcases h'.templates store' t ht with ht | hnew
    · exact h.templates store' t ht
    · exact .inr hnew

theorem unlink_shrinks {α : Type} (fails : Bool) (file : Option α) :
    (unlink fails file).2 = file ∨ (unlink fails file).2 = none := by
  cases fails <;> simp

theorem deleteAllFaces_shrinks (answer : DeleteAnswer) (store : StAuthStore) :
    (deleteAllFaces answer store).2 = store ∨ (deleteAllFaces answer store).2 = [] := by
  cases answer with
  | failed code => exact .inl rfl
  | deleted whenEmpty =>
      refine .inr ?_
      simp only [deleteAllFaces]
      split
      · split <;> rfl
      · rfl

/-- The answers to a deletion that the code takes for success. -/
def AuthStatus.isGone (status : AuthStatus) : Prop :=
  status = .ok ∨ status = .templateNotExist ∨ status = .templateNoFace

theorem deleteAllFaces_deleted (whenEmpty : EmptyStoreCode) (store : StAuthStore) :
    (deleteAllFaces (.deleted whenEmpty) store).1.isGone ∧
      (deleteAllFaces (.deleted whenEmpty) store).2 = [] := by
  by_cases h : store = []
  · cases whenEmpty <;> simp [deleteAllFaces, h, AuthStatus.isGone]
  · simp [deleteAllFaces, h, AuthStatus.isGone]

namespace AuthEngine

theorem beginEnroll_shrinks (io : BeginEnrollIO) (a : AuthEngine) (st : Storage) :
    st.Shrinks (beginEnroll io a st).2.2 := by
  have hst : st.Shrinks { st with faceIdFile := (unlink io.unlinkFails st.faceIdFile).2 } :=
    { Storage.Shrinks.refl st with faceIdFile := unlink_shrinks _ _ }
  have hdeleted := hst.setStAuth (deleteAllFaces_shrinks io.delete (st.stAuth a.mUseTee))
  simp only [beginEnroll]
  split
  · exact hdeleted
  · split <;> exact hdeleted

/-- `removeTemplate`, with the steps that the storage depends on. -/
theorem removeTemplate_eq (io : RemoveTemplateIO) (a : AuthEngine) (st : Storage) :
    let st₁ := { st with faceIdFile := (unlink io.unlinkFails st.faceIdFile).2 }
    let r := a.removeTemplate io st
    ((a.init io.init).1 = false ∧ r.1 = false ∧ r.2.2 = st₁) ∨
      (∃ code, (a.init io.init).1 = true ∧ io.delete = .failed code ∧ r.1 = false ∧
        r.2.2 = st₁) ∨
      (∃ whenEmpty, (a.init io.init).1 = true ∧ io.delete = .deleted whenEmpty ∧ r.1 = true ∧
        r.2.2 = st₁.setStAuth a.mUseTee []) := by
  have htee : (a.init io.init).2.mUseTee = a.mUseTee :=
    mUseTee_eq_of_setup (setup_init io.init a)
  simp only [removeTemplate]
  cases hinit : (a.init io.init).1 with
  | false => exact .inl ⟨rfl, by simp⟩
  | true =>
      cases hdelete : io.delete with
      | failed code =>
          refine .inr (.inl ⟨code, rfl, rfl, ?_⟩)
          simp [deleteAllFaces, Storage.setStAuth, call]
      | deleted whenEmpty =>
          refine .inr (.inr ⟨whenEmpty, rfl, rfl, ?_⟩)
          obtain ⟨hgone, hempty⟩ := deleteAllFaces_deleted whenEmpty (st.stAuth a.mUseTee)
          rcases hgone with hgone | hgone | hgone <;>
            simp [call, htee, hgone, hempty]

theorem removeTemplate_shrinks (io : RemoveTemplateIO) (a : AuthEngine) (st : Storage) :
    st.Shrinks (a.removeTemplate io st).2.2 := by
  have hst : st.Shrinks { st with faceIdFile := (unlink io.unlinkFails st.faceIdFile).2 } :=
    { Storage.Shrinks.refl st with faceIdFile := unlink_shrinks _ _ }
  rcases removeTemplate_eq io a st with ⟨-, -, h⟩ | ⟨code, -, -, -, h⟩ | ⟨whenEmpty, -, -, -, h⟩
  · rw [h]
    exact hst
  · rw [h]
    exact hst
  · rw [h]
    exact hst.setStAuth (.inr rfl)

end AuthEngine

/-! ### The current store -/

theorem FaceTee.removeFrames_eq (a : ℕ → SendAnswer) (st : Storage) :
    ∃ frames, FaceTee.removeFrames a st = { st with teeFrames := frames } := by
  have hstep (is : List ℕ) : ∀ st₁ : Storage, (∃ frames, st₁ = { st with teeFrames := frames }) →
      ∃ frames, is.foldl (fun st i => (FaceTee.removeFrame (a i) i st).2) st₁ =
        { st with teeFrames := frames } := by
    induction is with
    | nil => exact fun _ h => h
    | cons i is ih =>
        rintro _ ⟨frames, rfl⟩
        apply ih
        simp only [FaceTee.removeFrame]
        split
        · exact ⟨_, rfl⟩
        · exact ⟨frames, rfl⟩
  exact hstep _ st ⟨st.teeFrames, rfl⟩

/-- What a removal from the store in use did to the storage. -/
structure Removed (s : State) (ok : Bool) (st : Storage) : Prop where
  shrinks : s.storage.Shrinks st
  others : ∀ store, store ≠ s.currentStore → st.templates store = s.storage.templates store
  done : ok = true → st.templates s.currentStore = []
  failed : ok = false → st.templates s.currentStore = s.storage.templates s.currentStore

theorem templates_setStAuth_of_ne {st : Storage} {tee : Bool} {l : StAuthStore} {store : StoreId}
    (h : store ≠ .stAuth tee) : (st.setStAuth tee l).templates store = st.templates store := by
  cases store with
  | teeSlot => rfl
  | featureFile => rfl
  | stAuth tee' =>
      have hne : tee' ≠ tee := fun htee => h (by rw [htee])
      simp only [Storage.templates, Storage.setStAuth, Function.update_of_ne hne]

@[simp] theorem templates_setRecord (st : Storage) (file : Option Bytes) (store : StoreId) :
    { st with enrollmentFile := file }.templates store = st.templates store := by
  cases store <;> rfl

theorem removeTemplate_removed {s : State} (hst : s.auth.mAvailable = true)
    (io : RemoveTemplateIO) :
    Removed s (s.auth.removeTemplate io s.storage).1
      (s.auth.removeTemplate io s.storage).2.2 := by
  have hstore : s.currentStore = .stAuth s.auth.mUseTee := by simp [State.currentStore, hst]
  have hshrinks := AuthEngine.removeTemplate_shrinks io s.auth s.storage
  rcases AuthEngine.removeTemplate_eq io s.auth s.storage with
    ⟨-, hok, h⟩ | ⟨code, -, -, hok, h⟩ | ⟨whenEmpty, -, -, hok, h⟩
  · refine ⟨hshrinks, fun store _ => ?_, by simp [hok], fun _ => ?_⟩ <;> rw [h] <;> rfl
  · refine ⟨hshrinks, fun store _ => ?_, by simp [hok], fun _ => ?_⟩ <;> rw [h] <;> rfl
  · refine ⟨hshrinks, fun store hne => ?_, fun _ => ?_, by simp [hok]⟩
    · rw [h, templates_setStAuth_of_ne (hstore ▸ hne)]
      rfl
    · rw [h, hstore]
      simp [Storage.templates, Storage.setStAuth]

theorem removeFeature_removed (io : RemoveFeatureIO) (s : State) :
    Removed s (removeFeature io s).1 (removeFeature io s).2.storage := by
  cases hst : s.auth.mAvailable with
  | true =>
      simp only [removeFeature, hst, if_true]
      exact removeTemplate_removed hst io.auth
  | false =>
      cases htee : s.useTee with
      | false =>
          have hstore : s.currentStore = .featureFile := by simp [State.currentStore, hst, htee]
          simp only [removeFeature, hst, htee, Bool.not_false, if_true, Bool.false_eq_true,
            if_false]
          refine ⟨{ Storage.Shrinks.refl s.storage with featureFile := unlink_shrinks _ _ }, ?_,
            ?_, ?_⟩
          · intro store hne
            cases store with
            | featureFile => exact absurd hstore.symm hne
            | _ => rfl
          · cases io.unlinkFails <;> simp [hstore, Storage.templates]
          · cases io.unlinkFails <;> simp [hstore, Storage.templates]
      | true =>
          have hstore : s.currentStore = .teeSlot := by simp [State.currentStore, hst, htee]
          simp only [removeFeature, hst, htee, Bool.not_true, Bool.false_eq_true, if_false]
          split
          · exact ⟨.refl _, fun _ _ => rfl, by simp, fun _ => rfl⟩
          · simp only [FaceTee.removeFeature]
            split
            · obtain ⟨frames, hframes⟩ := FaceTee.removeFrames_eq io.removeFrame
                { s.storage with teeFeature := none }
              rw [hframes]
              refine ⟨{ Storage.Shrinks.refl s.storage with teeFeature := .inr rfl }, ?_,
                fun _ => by simp [hstore, Storage.templates], by simp⟩
              intro store hne
              cases store with
              | teeSlot => exact absurd hstore.symm hne
              | _ => rfl
            · obtain ⟨frames, hframes⟩ := FaceTee.removeFrames_eq io.removeFrame s.storage
              rw [hframes]
              exact ⟨{ Storage.Shrinks.refl s.storage with }, fun _ _ => rfl, by simp,
                fun _ => rfl⟩

/-- Beside the storage a removal sets the engines' own state alone. -/
theorem removeFeature_keeps (io : RemoveFeatureIO) (s : State) :
    { s with storage := (removeFeature io s).2.storage }.Keeps (removeFeature io s).2 := by
  have hrefl (st : Storage) := State.Keeps.refl { s with storage := st }
  simp only [removeFeature]
  split
  · exact { hrefl _ with setup := AuthEngine.setup_removeTemplate _ _ _ }
  · split
    · exact hrefl _
    · split
      · exact (hrefl s.storage).handles s.engine (s.tee.openTee io.tee).2
      · generalize FaceTee.removeFrames io.removeFrame _ = st
        exact (hrefl st).handles s.engine (s.tee.openTee io.tee).2

theorem undoTemplate_keeps (io : RemoveTemplateIO) (s : State) :
    { s with storage := (undoTemplate io s).storage }.Keeps (undoTemplate io s) :=
  { State.Keeps.refl { s with storage := (undoTemplate io s).storage } with
    setup := AuthEngine.setup_removeTemplate _ _ _ }

theorem FaceTee.openTee_again {io : TeeOpenIO} {t : FaceTee} (h : (t.openTee io).1 = true)
    (io' : TeeOpenIO) : ((t.openTee io).2.openTee io').1 = true := by
  simp only [FaceTee.openTee] at h ⊢
  split_ifs at h ⊢ <;> simp_all [FaceTee.start]

/-- Beside the storage, storing a template sets the engines' own state alone. -/
theorem storeFeature_keeps (io : StoreFeatureIO) (t : Template) (nv21 : Nv21) (s : State) :
    { s with storage := (storeFeature io t nv21 s).2.storage }.Keeps
      (storeFeature io t nv21 s).2 := by
  have hremove := removeFeature_keeps io.remove s
  simp only [storeFeature]
  split
  · exact { hremove with storage := rfl }
  · split
    · exact { hremove with storage := rfl }
    · split <;> exact { hremove with storage := rfl }

theorem within_featureFile (st : Storage) (t : Template) :
    st.Within .featureFile t.origin { st with featureFile := some t } where
  enrollmentFile := rfl
  templates store u hu := by
    cases store with
    | featureFile =>
        have hut : u = t := by simpa [Storage.templates, eq_comm] using hu
        exact .inr ⟨rfl, by rw [hut]⟩
    | _ => exact .inl hu

theorem within_teeFeature (st : Storage) (t : Template) (frames : ℕ → Option Nv21) :
    st.Within .teeSlot t.origin { st with teeFeature := some t, teeFrames := frames } where
  enrollmentFile := rfl
  templates store u hu := by
    cases store with
    | teeSlot =>
        have hut : u = t := by simpa [Storage.templates, eq_comm] using hu
        exact .inr ⟨rfl, by rw [hut]⟩
    | _ => exact .inl hu

theorem FaceTee.saveFrame_eq (a : SendAnswer) (index : ℕ) (nv21 : Nv21) (st : Storage) :
    ∃ frames, (FaceTee.saveFrame a index nv21 st).2 = { st with teeFrames := frames } := by
  simp only [FaceTee.saveFrame]
  split
  · exact ⟨_, rfl⟩
  · exact ⟨st.teeFrames, rfl⟩

/-- A template that could be stored is the only one in the store in use, and one that could
not leaves nothing new. -/
theorem storeFeature_stored {s : State} (hcv : s.auth.mAvailable = false) (io : StoreFeatureIO)
    (t : Template) (nv21 : Nv21) :
    let r := storeFeature io t nv21 s
    (r.1 = false → s.storage.Shrinks r.2.storage) ∧
      (r.1 = true → s.storage.Within s.currentStore t.origin r.2.storage ∧
        r.2.storage.templates s.currentStore = [t]) := by
  intro r
  have hshrinks := (removeFeature_removed io.remove s).shrinks
  have htee : (removeFeature io.remove s).2.useTee = s.useTee :=
    (removeFeature_keeps io.remove s).useTee
  cases hu : s.useTee with
  | false =>
      have hstore : s.currentStore = .featureFile := by simp [State.currentStore, hcv, hu]
      rw [hu] at htee
      simp only [r, storeFeature, htee, Bool.not_false, if_true, hstore]
      cases io.write with
      | written =>
          refine ⟨by simp [writeStringToFile], fun _ => ⟨?_, rfl⟩⟩
          exact (hshrinks.within _ _).trans (within_featureFile _ t)
      | openFailed => exact ⟨fun _ => hshrinks, by simp [writeStringToFile]⟩
      | writeFailed =>
          exact ⟨fun _ => { hshrinks with featureFile := .inr rfl }, by simp [writeStringToFile]⟩
  | true =>
      have hstore : s.currentStore = .teeSlot := by simp [State.currentStore, hcv, hu]
      rw [hu] at htee
      simp only [r, storeFeature, htee, Bool.not_true, Bool.false_eq_true, if_false, hstore]
      split
      · exact ⟨fun _ => hshrinks, by simp⟩
      · by_cases hsend : FaceTee.send io.save = 0
        · obtain ⟨frames, hframes⟩ := FaceTee.saveFrame_eq io.saveFrame 0 nv21
            { (removeFeature io.remove s).2.storage with teeFeature := some t }
          simp only [FaceTee.saveFeature, if_pos hsend, Bool.not_true, Bool.false_eq_true,
            if_false, hframes]
          refine ⟨by simp, fun _ => ⟨?_, rfl⟩⟩
          exact (hshrinks.within _ _).trans (within_teeFeature _ t frames)
        · simp only [FaceTee.saveFeature, if_neg hsend, Bool.not_false, if_true]
          exact ⟨fun _ => hshrinks, by simp⟩

/-- A template stored in the TEE leaves its sessions open. -/
theorem storeFeature_opened {io : StoreFeatureIO} {t : Template} {nv21 : Nv21} {s : State}
    (htee : s.useTee = true) (h : (storeFeature io t nv21 s).1 = true) (io' : TeeOpenIO) :
    ((storeFeature io t nv21 s).2.tee.openTee io').1 = true := by
  have htee' : (removeFeature io.remove s).2.useTee = true :=
    (removeFeature_keeps io.remove s).useTee.trans htee
  simp only [storeFeature, htee', Bool.not_true, Bool.false_eq_true, if_false] at h ⊢
  split at h
  · simp at h
  · rename_i hopen
    rw [if_neg hopen]
    have hagain := FaceTee.openTee_again (by simpa using hopen) io'
    split <;> exact hagain

end OneplusHal.Face

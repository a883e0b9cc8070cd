import OneplusHal.Face.EnrollLoop

/-!
What one enrollment can do, on either engine.

`Enrolling` says it once, as `Attempt` does for authentication: refused before the
camera is touched, without frames, or run through its loop, after which it failed or
finished. What a failed and a finished enrollment leave in the storage is said by
`FailedEnroll` and `FinishedEnroll`.
-/

namespace OneplusHal.Face

open OneplusHal

/-- The deletions by which a failing enrollment cleans up succeed. -/
structure CleanUpSucceeds (io : EnrollIO) : Prop where
  unlinks : io.undo.unlinkFails = false
  removes : FaceTee.send io.undo.remove = 0
  deletes : ∃ whenEmpty, io.undo.auth.delete = .deleted whenEmpty

/-- The record is as it was or gone, templates are old ones or of this operation and in the
store in use, and after a clean-up all of them are old ones. -/
structure FailedEnroll (io : EnrollIO) (s : State) (st : Storage) : Prop where
  enrollmentFile :
    st.enrollmentFile = s.storage.enrollmentFile ∨ st.enrollmentFile = none
  templates : ∀ store, ∀ t ∈ st.templates store,
    t ∈ s.storage.templates store ∨ store = s.currentStore ∧ t.origin = s.enrolls
  clean : CleanUpSucceeds io →
    ∀ store, ∀ t ∈ st.templates store, t ∈ s.storage.templates store

/-- The store in use holds the template of this operation, where the engine looks for it. -/
structure HoldsNew (s : State) (st : Storage) : Prop where
  stAuth : s.auth.mAvailable = true → StAuthHolds st s.auth.mUseTee s.enrolls
  cv : s.auth.mAvailable = false →
    ∃ t, st.templates s.currentStore = [t] ∧ t.origin = s.enrolls

/-- The record of this operation has been saved, where there is one to save, and its template
is in the store in use. -/
structure FinishedEnroll (user : Int32) (e : Enrollment) (io : EnrollIO) (s : State)
    (st : Storage) : Prop where
  enrollmentFile : st.enrollmentFile =
    if user < 0 then none else some (newEnrollment user e io (engineName s)).text
  templates : ∀ store, ∀ t ∈ st.templates store,
    t ∈ s.storage.templates store ∨ store = s.currentStore ∧ t.origin = s.enrolls
  holds : HoldsNew s st

/-- How an enrollment for `user` that begins in `s` can go, once its challenge is known. -/
inductive Enrolling (user : Int32) (io : EnrollIO) (s : State) : State → Prop
  | terminated {ex : StdException}
      (load : Enrollment.load s.storage.enrollmentFile = .error ex) :
      Enrolling user io s (s.terminate ex)
  | refused {s' : State} {er : Error} (keeps : s.Keeps s')
      (trace : s'.world.trace = s.world.trace ++ [.callback (.onError er)]) :
      Enrolling user io s s'
  | frameless {e : Enrollment} {st : Storage} {s' : State} {t : Time} {started : Bool}
      {er : Error} (load : Enrollment.load s.storage.enrollmentFile = .ok e)
      (vacant : e.userId < 0) (keeps : { s with storage := st }.Keeps s')
      (shrinks : s.storage.Shrinks st)
      (trace : s'.world.trace = s.world.trace ++ .cameraStarted t started ::
        ((if started then [.cameraStopped] else []) ++ [.callback (.onError er)])) :
      Enrolling user io s s'
  | failed {e : Enrollment} {st : Storage} {s' : State} {t : Time} {evs : List Event}
      {captured : Prop} {er : Error}
      (load : Enrollment.load s.storage.enrollmentFile = .ok e) (vacant : e.userId < 0)
      (keeps : { s with storage := st }.Keeps s') (failure : FailedEnroll io s st)
      (loop : EnrollLoop s.auth.mAvailable (io.deadline t) evs captured)
      (trace : s'.world.trace = s.world.trace ++ .cameraStarted t true ::
        (evs ++ [.cameraStopped, .callback (.onError er)])) : Enrolling user io s s'
  | finished {e : Enrollment} {st : Storage} {s' : State} {t : Time} {evs : List Event}
      {captured : Prop} (load : Enrollment.load s.storage.enrollmentFile = .ok e)
      (vacant : e.userId < 0)
      (keeps : { s with
        storage := st, enrolled := some ⟨s.enrolls, s.currentStore⟩ }.Keeps s')
      (success : FinishedEnroll user e io s st)
      (loop : EnrollLoop s.auth.mAvailable (io.deadline t) evs captured) (hcaptured : captured)
      (trace : s'.world.trace = s.world.trace ++ .cameraStarted t true ::
        (evs ++ [.cameraStopped, .callback (.onEnrollmentFrame .good .enrollmentFinished),
          .callback (.onEnrollmentProgress io.enrollmentId.toEnrollmentId 0)])) :
      Enrolling user io s s'

/-! ### Cleaning up -/

/-- Deletions after a failure leave no more than before. -/
theorem FailedEnroll.of_removed {io : EnrollIO} {s s₃ : State} {ok : Bool} {st : Storage}
    (hfile : s₃.storage.enrollmentFile = s.storage.enrollmentFile ∨
      s₃.storage.enrollmentFile = none)
    (htemplates : ∀ store, ∀ t ∈ s₃.storage.templates store,
      t ∈ s.storage.templates store ∨ store = s.currentStore ∧ t.origin = s.enrolls)
    (hstore : s₃.currentStore = s.currentStore) (hremoved : Removed s₃ ok st)
    (hok : CleanUpSucceeds io → ok = true) : FailedEnroll io s st where
  enrollmentFile := hremoved.shrinks.enrollmentFile ▸ hfile
  templates store t ht := htemplates store t (hremoved.shrinks.mem_templates ht)
  clean hclean store t ht := by
    by_cases hcurrent : store = s₃.currentStore
    · rw [hcurrent, hremoved.done (hok hclean)] at ht
      simp at ht
    · rcases htemplates store t (hremoved.shrinks.mem_templates ht) with hold | ⟨hnew, -⟩
      · exact hold
      · exact absurd (hnew.trans hstore.symm) hcurrent

theorem FailedEnroll.of_shrinks {io : EnrollIO} {s : State} {st : Storage}
    (h : s.storage.Shrinks st) : FailedEnroll io s st where
  enrollmentFile := .inl h.enrollmentFile
  templates _ _ ht := .inl (h.mem_templates ht)
  clean _ _ _ ht := h.mem_templates ht

theorem Enrollment.save_failed {e : Enrollment} {io : SaveIO} {file : Option Bytes}
    (h : (e.save io file).1 = false) :
    (e.save io file).2 = file ∨ (e.save io file).2 = none := by
  unfold Enrollment.save at h ⊢
  split
  · exact unlink_shrinks _ _
  · rename_i huser
    rw [if_neg huser] at h
    exact writeStringToFile_failed h

theorem Enrollment.save_ok {e : Enrollment} {io : SaveIO} {file : Option Bytes}
    (h : (e.save io file).1 = true) :
    (e.save io file).2 = if e.userId < 0 then none else some e.text := by
  unfold Enrollment.save at h ⊢
  split
  · rename_i huser
    rw [if_pos huser] at h
    cases hfails : io.unlinkFails with
    | false => rfl
    | true => simp [hfails] at h
  · rename_i huser
    rw [if_neg huser] at h
    exact writeStringToFile_ok h

/-- On the cv engine, after a template was stored. -/
theorem removeFeature_ok {io : RemoveFeatureIO} {s : State} (hcv : s.auth.mAvailable = false)
    (hopen : s.useTee = true → ∀ io, (s.tee.openTee io).1 = true)
    (hstored : s.storage.templates s.currentStore ≠ [])
    (hunlinks : io.unlinkFails = false) (hremoves : FaceTee.send io.remove = 0) :
    (removeFeature io s).1 = true := by
  cases htee : s.useTee with
  | false => simp [removeFeature, hcv, htee, hunlinks]
  | true =>
      cases hslot : s.storage.teeFeature with
      | none => simp [State.currentStore, hcv, htee, Storage.templates, hslot] at hstored
      | some t =>
          simp [removeFeature, hcv, htee, hopen htee, FaceTee.removeFeature, hslot, hremoves]

theorem undoTemplate_ok {io : RemoveTemplateIO} {s : State}
    (hinit : s.auth.mInitialized = true) (hdeletes : ∃ whenEmpty, io.delete = .deleted whenEmpty) :
    (s.auth.removeTemplate io s.storage).1 = true := by
  have hok : (s.auth.init io.init).1 = true := by simp [AuthEngine.init, hinit]
  obtain ⟨whenEmpty, hdelete⟩ := hdeletes
  rcases AuthEngine.removeTemplate_eq io s.auth s.storage with
    ⟨hfalse, -⟩ | ⟨code, -, hfailed, -⟩ | ⟨_, -, -, hok, -⟩
  · simp [hok] at hfalse
  · simp [hdelete] at hfailed
  · exact hok

/-! ### The whole operation -/

theorem State.Keeps.withStorage {s s' : State} (h : s.Keeps s') (st : Storage) :
    { s with storage := st }.Keeps { s' with storage := st } :=
  { h with storage := rfl }

theorem State.Keeps.withEnrolled {s s' : State} (h : s.Keeps s') (st : Storage)
    (en : Option Enrolled) :
    { s with storage := st, enrolled := en }.Keeps { s' with storage := st, enrolled := en } :=
  { h with storage := rfl, enrolled := rfl }

/-- The events after the loop of an enrollment that finishes. -/
theorem trace_finishEnroll {io : EnrollIO} {s : State} {before evs : List Event} {t : Time}
    (h : s.world.trace = before ++ .cameraStarted t true :: (evs ++ [.cameraStopped])) :
    (finishEnroll io s).world.trace = before ++ .cameraStarted t true ::
      (evs ++ [.cameraStopped, .callback (.onEnrollmentFrame .good .enrollmentFinished),
        .callback (.onEnrollmentProgress io.enrollmentId.toEnrollmentId 0)]) := by
  show (s.world.trace ++ [_]) ++ [_] = _
  rw [h]
  simp

theorem finishEnroll_keeps (io : EnrollIO) (s : State) {origin : ℕ} {store : StoreId}
    (horigin : s.enrolls = origin) (hstore : s.currentStore = store) :
    { s with enrolled := some ⟨origin, store⟩ }.Keeps (finishEnroll io s) := by
  subst horigin hstore
  exact ((State.Keeps.refl _).emit _).emit _

/-- The enrollment whose camera does not start. -/
theorem Enrolling.of_noCamera {user : Int32} {io : EnrollIO} {s s₁ : State} {e : Enrollment}
    (load : Enrollment.load s.storage.enrollmentFile = .ok e) (vacant : e.userId < 0)
    (hkeeps : s.Keeps s₁) (htrace : s₁.world.trace = s.world.trace) {preview : Bool}
    {start : StartIO} (h : (s₁.world.startCamera preview start).1 = false) :
    Enrolling user io s
      ({ s₁ with world := (s₁.world.startCamera preview start).2 }.emit
        (.onError .hwUnavailable)) := by
  have hstart := (State.Keeps.refl s₁).world (w := (s₁.world.startCamera preview start).2) le_rfl
  have htrace' : ({ s₁ with world := (s₁.world.startCamera preview start).2 }.emit
      (.onError .hwUnavailable)).world.trace = s.world.trace ++
        .cameraStarted s₁.world.now false ::
          ((if false then [.cameraStopped] else []) ++ [.callback (.onError .hwUnavailable)]) := by
    rw [State.trace_emit, World.trace_startCamera, h, htrace]
    simp
  exact .frameless load vacant ((hkeeps.trans hstart).emit _) (.refl _) htrace'

/-- The enrollment whose record is saved, once its template is in the store in use. -/
theorem Enrolling.of_saved {user : Int32} {io : EnrollIO} {s s' : State} {e : Enrollment}
    {t : Time} {evs : List Event} {captured : Prop} {engine : Bytes}
    (load : Enrollment.load s.storage.enrollmentFile = .ok e) (vacant : e.userId < 0)
    (hkeeps : { s with storage := s'.storage }.Keeps s')
    (htemplates : ∀ store, ∀ u ∈ s'.storage.templates store,
      u ∈ s.storage.templates store ∨ store = s.currentStore ∧ u.origin = s.enrolls)
    (hholds : HoldsNew s s'.storage)
    (htrace : s'.world.trace =
      s.world.trace ++ .cameraStarted t true :: (evs ++ [.cameraStopped]))
    (hloop : EnrollLoop s.auth.mAvailable (io.deadline t) evs captured) (hcaptured : captured)
    (hname : engineName s = engine) {file : Option Bytes}
    (hsaved : ((newEnrollment user e io engine).save io.save file).1 = true) :
    Enrolling user io s (finishEnroll io { s' with storage := { s'.storage with
      enrollmentFile := ((newEnrollment user e io engine).save io.save file).2 } }) := by
  set s₃ : State := { s' with storage := { s'.storage with
    enrollmentFile := ((newEnrollment user e io engine).save io.save file).2 } }
  have hsuccess : FinishedEnroll user e io s s₃.storage := by
    refine ⟨?_, by simpa [s₃] using htemplates, fun hst => ?_, fun hcv => ?_⟩
    · rw [hname]
      exact Enrollment.save_ok hsaved
    · obtain ⟨faceId, u, hface, hfind, horigin⟩ := hholds.stAuth hst
      exact ⟨faceId, u, by simpa [s₃] using hface, by simpa [s₃] using hfind, horigin⟩
    · obtain ⟨u, honly, horigin⟩ := hholds.cv hcv
      exact ⟨u, by simpa [s₃] using honly, horigin⟩
  have hkeeps₃ : { s with
      storage := s₃.storage, enrolled := some ⟨s.enrolls, s.currentStore⟩ }.Keeps
      (finishEnroll io s₃) :=
    (hkeeps.withEnrolled _ _).trans
      (finishEnroll_keeps io s₃ hkeeps.enrolls hkeeps.currentStore)
  exact .finished load vacant hkeeps₃ hsuccess hloop hcaptured (trace_finishEnroll (s := s₃) htrace)

/-- `doEnroll` after its loop. -/
def State.concludeEnroll (s : State) (user : Int32) (e : Enrollment) (io : EnrollIO)
    (feature : List UInt8) (nv21 : Nv21) : State :=
  if feature = [] then s.emit (.onError (if s.world.cancelled then .canceled else .timeout))
  else
    let stored := storeFeature io.store ⟨feature, s.enrolls⟩ nv21 s
    let s := stored.2
    if !stored.1 then s.emit (.onError .unableToProcess)
    else
      let saved := (newEnrollment user e io kCvEngine).save io.save s.storage.enrollmentFile
      let s := { s with storage := { s.storage with enrollmentFile := saved.2 } }
      if !saved.1 then (removeFeature io.undo s).2.emit (.onError .unableToProcess)
      else finishEnroll io s

theorem concludeEnroll_enrolling {user : Int32} {s s₂ : State} {e : Enrollment} {t : Time}
    {evs : List Event} (load : Enrollment.load s.storage.enrollmentFile = .ok e)
    (vacant : e.userId < 0) (hkeeps : s.Keeps s₂) (hcv : s₂.auth.mAvailable = false)
    (htrace : s₂.world.trace =
      s.world.trace ++ .cameraStarted t true :: (evs ++ [.cameraStopped])) (io : EnrollIO)
    {feature : List UInt8} (nv21 : Nv21)
    (hloop : EnrollLoop s.auth.mAvailable (io.deadline t) evs (feature ≠ [])) :
    Enrolling user io s (s₂.concludeEnroll user e io feature nv21) := by
  have hlast {w : World} (hw : w = s₂.world) (er : Error) :
      (w.emit (.onError er)).trace = s.world.trace ++ .cameraStarted t true ::
        (evs ++ [.cameraStopped, .callback (.onError er)]) := by
    rw [World.trace_emit, hw, htrace]
    simp
  simp only [State.concludeEnroll]
  split
  · exact .failed load vacant (hkeeps.emit _) (.of_shrinks (.refl _)) hloop (hlast rfl _)
  rename_i hfeature
  -- From here on there is a template to store, and after that one to undo.
  set new : Template := ⟨feature, s₂.enrolls⟩
  obtain ⟨hfail, hok⟩ := storeFeature_stored hcv io.store new nv21
  have hworld := world_storeFeature io.store new nv21 s₂
  have hopened (htee : s₂.useTee = true) (h : (storeFeature io.store new nv21 s₂).1 = true)
      (io' : TeeOpenIO) : ((storeFeature io.store new nv21 s₂).2.tee.openTee io').1 = true :=
    storeFeature_opened htee h io'
  have hkeeps₃ := (hkeeps.withStorage _).trans (storeFeature_keeps io.store new nv21 s₂)
  generalize storeFeature io.store new nv21 s₂ = stored at *
  split
  · rename_i hstored
    refine .failed load vacant (hkeeps₃.emit _) (.of_shrinks ?_) hloop (hlast hworld _)
    rw [← hkeeps.storage]
    exact hfail (by simpa using hstored)
  rename_i hstored
  obtain ⟨hwithin, honly⟩ := hok (by simpa using hstored)
  rw [hkeeps.storage, hkeeps.currentStore] at hwithin
  rw [hkeeps.currentStore] at honly
  have htemplates : ∀ store, ∀ u ∈ stored.2.storage.templates store,
      u ∈ s.storage.templates store ∨ store = s.currentStore ∧ u.origin = s.enrolls := by
    intro store u hu
    rw [← hkeeps.enrolls]
    exact hwithin.templates store u hu
  set saved := (newEnrollment user e io kCvEngine).save io.save stored.2.storage.enrollmentFile
  set s₃ : State := { stored.2 with storage := { stored.2.storage with enrollmentFile := saved.2 } }
  split
  · rename_i hsaved
    have hstore₃ : s₃.currentStore = s.currentStore := hkeeps₃.currentStore
    have hcv₃ : s₃.auth.mAvailable = false := by
      rw [← hcv, hkeeps.mAvailable]
      exact hkeeps₃.mAvailable
    have htemplates₃ : ∀ store, ∀ u ∈ s₃.storage.templates store,
        u ∈ s.storage.templates store ∨ store = s.currentStore ∧ u.origin = s.enrolls := by
      simpa [s₃] using htemplates
    have hfile : s₃.storage.enrollmentFile = s.storage.enrollmentFile ∨
        s₃.storage.enrollmentFile = none := by
      rw [← hwithin.enrollmentFile]
      exact Enrollment.save_failed (by simpa using hsaved)
    -- The TEE is open by now, and its slot is not empty, so that it can be emptied.
    have hundo (hclean : CleanUpSucceeds io) : (removeFeature io.undo s₃).1 = true := by
      refine removeFeature_ok hcv₃ ?_ ?_ hclean.unlinks hclean.removes
      · intro htee io'
        have htee₂ : s₂.useTee = true := by
          rw [hkeeps.useTee, ← htee]
          exact hkeeps₃.useTee.symm
        exact hopened htee₂ (by simpa using hstored) io'
      · simp [hstore₃, s₃, honly]
    have hkeeps₄ : { s with storage := (removeFeature io.undo s₃).2.storage }.Keeps
        (removeFeature io.undo s₃).2 :=
      (hkeeps₃.withStorage _).trans (removeFeature_keeps io.undo s₃)
    exact .failed load vacant (hkeeps₄.emit _)
      (.of_removed hfile htemplates₃ hstore₃ (removeFeature_removed io.undo s₃) hundo) hloop
      (hlast ((world_removeFeature io.undo s₃).trans hworld) _)
  · rename_i hsaved
    have hname : engineName s = kCvEngine := by
      rw [← hkeeps.engineName, engineName, hcv]
      rfl
    have hholds : HoldsNew s stored.2.storage := by
      refine ⟨fun hst => ?_, fun _ => ⟨new, honly, hkeeps.enrolls⟩⟩
      rw [← hkeeps.mAvailable, hcv] at hst
      exact absurd hst Bool.false_ne_true
    exact .of_saved load vacant hkeeps₃ htemplates hholds (hworld ▸ htrace) hloop hfeature hname
      (by simpa using hsaved)

theorem doEnrollCv_enrolling {user : Int32} {s s₁ : State} {e : Enrollment}
    (load : Enrollment.load s.storage.enrollmentFile = .ok e) (vacant : e.userId < 0)
    (hkeeps : s.Keeps s₁) (htrace₁ : s₁.world.trace = s.world.trace)
    (hcv : s₁.auth.mAvailable = false) (preview : Bool) (io : EnrollIO) :
    Enrolling user io s (doEnrollCv user preview e io s₁) := by
  simp only [doEnrollCv]
  split
  · rename_i hfailed
    exact .of_noCamera load vacant hkeeps htrace₁ (by simpa using hfailed)
  rename_i hstarted
  have hok : (s₁.world.startCamera preview io.start).1 = true := by simpa using hstarted
  set w := (s₁.world.startCamera preview io.start).2.tick io.startElapsed
  obtain ⟨evs, htrace, hnow, hloop⟩ := enrollLoop (faceOrientation w.camera.mSensorOrientation)
    io.enrollmentId.toEnrollmentId (w.now + kEnrollTimeout) io.cv w
  set l := whileFrames (w.now + kEnrollTimeout)
    (enrollFrame (faceOrientation w.camera.mSensorOrientation) io.enrollmentId.toEnrollmentId)
    io.cv (w, {})
  have hkeeps₂ : s.Keeps { s₁ with world := l.1.stopCamera.pass io.stop } := by
    have hstart : s₁.world.now ≤ w.now := Nat.le_add_right _ _
    exact hkeeps.world ((hstart.trans hnow).trans (Nat.le_add_right _ _))
  have htrace₂ : (l.1.stopCamera.pass io.stop).trace =
      s.world.trace ++ .cameraStarted s₁.world.now true :: (evs ++ [.cameraStopped]) := by
    rw [World.trace_pass, World.trace_cameraUse hok htrace, htrace₁]
  have hloop' : EnrollLoop s.auth.mAvailable (io.deadline s₁.world.now) evs (l.2.feature ≠ []) := by
    rw [← hkeeps.mAvailable, hcv]
    exact hloop
  exact concludeEnroll_enrolling load vacant hkeeps₂ hcv htrace₂ io l.2.nv21 hloop'

/-- `doEnrollAuth` after its loop. -/
def State.concludeEnrollAuth (s : State) (user : Int32) (e : Enrollment) (io : EnrollIO)
    (done : Bool) (error : Option Error) : State :=
  if !done then
    (undoTemplate io.undo.auth s).emit
      (.onError (error.getD (if s.world.cancelled then .canceled else .timeout)))
  else
    let saved := (newEnrollment user e io s.auth.name).save io.save s.storage.enrollmentFile
    let s := { s with storage := { s.storage with enrollmentFile := saved.2 } }
    if !saved.1 then (undoTemplate io.undo.auth s).emit (.onError .unableToProcess)
    else finishEnroll io s

theorem concludeEnrollAuth_enrolling {user : Int32} {s s₂ : State} {e : Enrollment} {t : Time}
    {evs : List Event} {st : Storage}
    (load : Enrollment.load s.storage.enrollmentFile = .ok e) (vacant : e.userId < 0)
    (hkeeps : { s with storage := st }.Keeps s₂) (hst : s.auth.mAvailable = true)
    (hinit : s₂.auth.mInitialized = true) (hwithin : s.storage.Within s.currentStore s.enrolls st)
    {done : Bool} (hdone : done = true → StAuthHolds st s.auth.mUseTee s.enrolls)
    (htrace : s₂.world.trace =
      s.world.trace ++ .cameraStarted t true :: (evs ++ [.cameraStopped])) (io : EnrollIO)
    (error : Option Error)
    (hloop : EnrollLoop s.auth.mAvailable (io.deadline t) evs (done = true)) :
    Enrolling user io s (s₂.concludeEnrollAuth user e io done error) := by
  have hundo {s₃ : State} (hkeeps₃ : { s with storage := s₃.storage }.Keeps s₃)
      (hauth : s₃.auth = s₂.auth) (hworld : s₃.world = s₂.world)
      (hfile : s₃.storage.enrollmentFile = s.storage.enrollmentFile ∨
        s₃.storage.enrollmentFile = none)
      (htemplates : ∀ store, ∀ u ∈ s₃.storage.templates store,
        u ∈ s.storage.templates store ∨ store = s.currentStore ∧ u.origin = s.enrolls)
      (er : Error) : Enrolling user io s ((undoTemplate io.undo.auth s₃).emit (.onError er)) := by
    have hst₃ : s₃.auth.mAvailable = true := hkeeps₃.mAvailable.trans hst
    have hok (hclean : CleanUpSucceeds io) :
        (s₃.auth.removeTemplate io.undo.auth s₃.storage).1 = true :=
      undoTemplate_ok (hauth ▸ hinit) hclean.deletes
    have htrace₃ : s₃.world.trace ++ [.callback (.onError er)] = s.world.trace ++
        .cameraStarted t true :: (evs ++ [.cameraStopped, .callback (.onError er)]) := by
      rw [hworld, htrace]
      simp
    exact .failed load vacant
      (((hkeeps₃.withStorage _).trans (undoTemplate_keeps io.undo.auth s₃)).emit _)
      (.of_removed hfile htemplates hkeeps₃.currentStore
        (removeTemplate_removed hst₃ io.undo.auth) hok) hloop htrace₃
  simp only [State.concludeEnrollAuth]
  have hstorage : s₂.storage = st := hkeeps.storage
  split
  · refine hundo (hstorage ▸ hkeeps) rfl rfl (.inl ?_) ?_ _
    · rw [hstorage, hwithin.enrollmentFile]
    · rw [hstorage]
      exact hwithin.templates
  rename_i hfinished
  set saved := (newEnrollment user e io s₂.auth.name).save io.save s₂.storage.enrollmentFile
  set s₃ : State := { s₂ with storage := { s₂.storage with enrollmentFile := saved.2 } }
  split
  · rename_i hsaved
    have htemplates₃ : ∀ store, ∀ u ∈ s₃.storage.templates store,
        u ∈ s.storage.templates store ∨ store = s.currentStore ∧ u.origin = s.enrolls := by
      simpa [s₃, hstorage] using hwithin.templates
    refine hundo (hkeeps.withStorage s₃.storage) rfl rfl ?_ htemplates₃ _
    rw [← hwithin.enrollmentFile, ← hstorage]
    exact Enrollment.save_failed (by simpa using hsaved)
  · rename_i hsaved
    have hname : engineName s = s₂.auth.name := by
      have htee : s₂.auth.mUseTee = s.auth.mUseTee := hkeeps.mUseTee
      rw [engineName, if_pos hst, AuthEngine.name, AuthEngine.name, htee]
    have hholds : HoldsNew s s₂.storage := by
      refine ⟨fun _ => hstorage ▸ hdone (by simpa using hfinished), fun hcv => ?_⟩
      rw [hst] at hcv
      exact absurd hcv.symm Bool.false_ne_true
    exact .of_saved load vacant (hstorage ▸ hkeeps) (hstorage ▸ hwithin.templates) hholds htrace
      hloop (by simpa using hfinished) hname (by simpa using hsaved)

theorem AuthEngine.init_initialized {io : AuthInitIO} {a : AuthEngine}
    (h : (a.init io).1 = true) : (a.init io).2.mInitialized = true := by
  simp only [AuthEngine.init] at h ⊢
  split at h
  · rename_i hinit
    rw [if_pos hinit]
    exact hinit
  · rename_i hinit
    rw [if_neg hinit]
    split at h
    · simp at h
    · rename_i hsymbols
      rw [if_neg hsymbols]
      exact h

@[simp] theorem AuthEngine.mInitialized_beginEnroll (io : BeginEnrollIO) (a : AuthEngine)
    (st : Storage) : (a.beginEnroll io st).2.1.mInitialized = a.mInitialized := by
  simp only [AuthEngine.beginEnroll]
  split
  · rfl
  · split <;> rfl

theorem doEnrollAuth_enrolling {user : Int32} {s s₁ : State} {e : Enrollment}
    (load : Enrollment.load s.storage.enrollmentFile = .ok e) (vacant : e.userId < 0)
    (hkeeps : s.Keeps s₁) (htrace₁ : s₁.world.trace = s.world.trace)
    (hst : s₁.auth.mAvailable = true) (hinit : s₁.auth.mInitialized = true) (preview : Bool)
    (io : EnrollIO) : Enrolling user io s (doEnrollAuth user preview e io s₁) := by
  simp only [doEnrollAuth]
  split
  · rename_i hfailed
    exact .of_noCamera load vacant hkeeps htrace₁ (by simpa using hfailed)
  rename_i hstarted
  have hok : (s₁.world.startCamera preview io.start).1 = true := by simpa using hstarted
  have hshrinks := AuthEngine.beginEnroll_shrinks io.beginEnroll s₁.auth s₁.storage
  have hsetup := AuthEngine.setup_beginEnroll io.beginEnroll s₁.auth s₁.storage
  have hinit₁ := AuthEngine.mInitialized_beginEnroll io.beginEnroll s₁.auth s₁.storage
  generalize s₁.auth.beginEnroll io.beginEnroll s₁.storage = b at *
  have hbegun (w : World) (hw : s₁.world.now ≤ w.now) : { s with storage := b.2.2 }.Keeps
      { s₁ with world := w, auth := b.2.1, storage := b.2.2 } :=
    { hkeeps.withStorage b.2.2 with
      setup := hsetup.trans hkeeps.setup
      now_le := hkeeps.now_le.trans hw }
  split
  · rename_i er _
    have htrace : (s₁.world.startCamera preview io.start).2.stopCamera.trace ++
        [.callback (.onError er)] = s.world.trace ++ .cameraStarted s₁.world.now true ::
          ((if true then [.cameraStopped] else []) ++ [.callback (.onError er)]) := by
      rw [World.trace_stopCamera, World.trace_startCamera, hok, htrace₁]
      simp
    refine .frameless load vacant ((hbegun _ ?_).emit (.onError er)) ?_ htrace
    · exact le_rfl
    · rw [← hkeeps.storage]
      exact hshrinks
  set w := (s₁.world.startCamera preview io.start).2.tick io.startElapsed
  obtain ⟨evs, htrace, hnow, hloop⟩ := stEnrollLoop (s := s₁) b.2.2 hsetup hinit₁
    io.enrollmentId.toEnrollmentId (w.now + kEnrollTimeout) io.stAuth w
  set l := whileFrames (w.now + kEnrollTimeout)
    (stEnrollFrame s₁.enrolls io.enrollmentId.toEnrollmentId) io.stAuth
    (w, { auth := b.2.1, storage := b.2.2 })
  have hstart : s₁.world.now ≤ w.now := Nat.le_add_right _ _
  have hkeeps₂ : { s with storage := l.2.storage }.Keeps
      { s₁ with world := l.1.stopCamera.pass io.stop, auth := l.2.auth, storage := l.2.storage } :=
    { hkeeps.withStorage l.2.storage with
      setup := hloop.setup.trans hkeeps.setup
      now_le := hkeeps.now_le.trans ((hstart.trans hnow).trans (Nat.le_add_right _ _)) }
  have htrace₂ : (l.1.stopCamera.pass io.stop).trace =
      s.world.trace ++ .cameraStarted s₁.world.now true :: (evs ++ [.cameraStopped]) := by
    rw [World.trace_pass, World.trace_cameraUse hok htrace, htrace₁]
  have hstore : s.currentStore = .stAuth s₁.auth.mUseTee := by
    rw [← hkeeps.currentStore, State.currentStore, if_pos hst]
  have hwithin : s.storage.Within s.currentStore s.enrolls l.2.storage := by
    rw [hstore, ← hkeeps.enrolls]
    refine .trans ?_ hloop.within
    rw [← hkeeps.storage]
    exact hshrinks.within _ _
  have hloop' : EnrollLoop s.auth.mAvailable (io.deadline s₁.world.now) evs (l.2.done = true) := by
    rw [← hkeeps.mAvailable, hst]
    exact hloop.loop
  exact concludeEnrollAuth_enrolling load vacant hkeeps₂ (hkeeps.mAvailable ▸ hst)
    (hloop.mInitialized.trans hinit) hwithin
    (fun hdone => hkeeps.mUseTee ▸ hkeeps.enrolls ▸ hloop.done hdone) htrace₂ io l.2.error
    hloop'

theorem prepare_initialized {io : PrepareIO} {s : State} (hst : s.auth.mAvailable = true)
    (h : (prepare io s).1 = true) : (prepare io s).2.auth.mInitialized = true := by
  simp only [prepare, hst, if_true] at h ⊢
  split at h
  · simp at h
  · rename_i hinit
    rw [if_neg hinit]
    exact AuthEngine.init_initialized (by simpa using hinit)

/-- An enrollment with a known challenge. -/
theorem enrollWith_enrolling {user : Int32} {s : State} {e : Enrollment}
    (load : Enrollment.load s.storage.enrollmentFile = .ok e) (preview : Bool) (io : EnrollIO) :
    Enrolling user io s (enrollWith user preview io e s) := by
  simp only [enrollWith]
  split
  · exact .refused ((State.Keeps.refl s).emit (.onError .noSpace)) rfl
  rename_i hvacant
  have vacant : e.userId < 0 := by simpa using hvacant
  have hkeeps := keeps_prepare io.prepare s
  have htrace := trace_prepare io.prepare s
  split
  · rename_i hfailed
    rw [if_neg (by simpa using hfailed)] at htrace
    exact .refused hkeeps htrace
  rename_i hready
  have hready' : (prepare io.prepare s).1 = true := by simpa using hready
  rw [if_pos hready', List.append_nil] at htrace
  split
  · rename_i hst
    exact doEnrollAuth_enrolling load vacant hkeeps htrace hst
      (prepare_initialized (hkeeps.mAvailable ▸ hst) hready') preview io
  · rename_i hcv
    exact doEnrollCv_enrolling load vacant hkeeps htrace (by simpa using hcv) preview io

theorem doEnroll_enrolling (session : Session) (challenge : Int64) (preview : Bool)
    (io : EnrollIO) (s : State) :
    Enrolling session.mUserId io s (doEnroll session challenge preview io s) := by
  simp only [doEnroll]
  split
  · exact .refused ((State.Keeps.refl s).emit (.onError .unableToProcess)) rfl
  · simp only [State.withEnrollment]
    split
    · rename_i hload
      exact .terminated hload
    · rename_i hload
      exact enrollWith_enrolling hload preview io

end OneplusHal.Face

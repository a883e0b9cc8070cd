import OneplusHal.Face.AlikeTurns
import OneplusHal.Face.Attempt
import OneplusHal.Face.Enrolling
import OneplusHal.Face.Service

/-!
Operations of a user in states that the user does not tell apart.

The states differ in ghosts and in what belongs to other users. An operation of the user
reports the same in both and leads to two such states again.
-/

namespace OneplusHal.Face

open OneplusHal

/-- A session as `user` sees it: the challenges of others are hidden. -/
def Session.seenBy (user : Int32) (session : Session) : Session :=
  if session.mUserId = user then session else { session with mChallenges := [] }

@[simp] theorem Session.mUserId_seenBy (user : Int32) (session : Session) :
    (session.seenBy user).mUserId = session.mUserId := by
  unfold seenBy
  split <;> rfl

theorem Session.seenBy_self {session : Session} {user : Int32} (h : session.mUserId = user) :
    session.seenBy user = session := if_pos h

theorem Session.seenBy_other {session session' : Session} {user : Int32}
    (h : session.mUserId ≠ user) (h' : session'.mUserId = session.mUserId) :
    session'.seenBy user = session.seenBy user := by
  rw [seenBy, seenBy, if_neg h, if_neg (h' ▸ h), h']

/-- `user` does not tell the two states apart. -/
structure State.Alike (user : Int32) (s s' : State) : Prop where
  world : s.world.Alike s'.world
  engine : s'.engine = s.engine
  tee : s'.tee = s.tee
  auth : s'.auth = s.auth
  storage : s.storage.Alike s'.storage
  lockout : s'.sLockouts user = s.sLockouts user
  sessions : s'.sessions.map (Session.seenBy user) = s.sessions.map (Session.seenBy user)
  useTee : s'.useTee = s.useTee

namespace State.Alike

theorem refl (user : Int32) (s : State) : s.Alike user s where
  world := .refl _
  engine := rfl
  tee := rfl
  auth := rfl
  storage := .refl _
  lockout := rfl
  sessions := rfl
  useTee := rfl

theorem trans {user : Int32} {s₁ s₂ s₃ : State} (h : s₁.Alike user s₂) (h' : s₂.Alike user s₃) :
    s₁.Alike user s₃ where
  world := h.world.trans h'.world
  engine := h'.engine.trans h.engine
  tee := h'.tee.trans h.tee
  auth := h'.auth.trans h.auth
  storage := h.storage.trans h'.storage
  lockout := h'.lockout.trans h.lockout
  sessions := h'.sessions.trans h.sessions
  useTee := h'.useTee.trans h.useTee

variable {user : Int32} {s s' : State} (h : s.Alike user s')

include h

theorem callbacks : s'.callbacks = s.callbacks := h.world.callbacks

theorem engineName : engineName s' = engineName s := by
  simp only [Face.engineName, h.auth]

theorem withWorld {w w' : World} (hw : w.Alike w') :
    { s with world := w }.Alike user { s' with world := w' } :=
  { h with world := hw }

theorem emit (c : Callback) : (s.emit c).Alike user (s'.emit c) := h.withWorld (h.world.emit c)

theorem terminate (ex : StdException) : (s.terminate ex).Alike user (s'.terminate ex) :=
  h.withWorld (h.world.log rfl)

/-- The second state, made from the first one. -/
theorem exists_eq : ∃ world storage sLockouts sessions enrolls enrolled,
    s' = { s with world, storage, sLockouts, sessions, enrolls, enrolled } := by
  refine ⟨s'.world, s'.storage, s'.sLockouts, s'.sessions, s'.enrolls, s'.enrolled, ?_⟩
  rw [← h.engine, ← h.tee, ← h.auth, ← h.useTee]

theorem withEngines (engine : FaceEngine) (tee : FaceTee) (auth : AuthEngine) :
    { s with engine, tee, auth }.Alike user { s' with engine, tee, auth } :=
  { h with engine := rfl, tee := rfl, auth := rfl }

theorem withStorage {st st' : Storage} (hst : st.Alike st') :
    { s with storage := st }.Alike user { s' with storage := st' } :=
  { h with storage := hst }

theorem withGhosts (n n' : ℕ) (en en' : Option Enrolled) :
    { s with enrolls := n, enrolled := en }.Alike user
      { s' with enrolls := n', enrolled := en' } :=
  { h with }

theorem setLockout (t : LockoutTracker) : (s.setLockout user t).Alike user (s'.setLockout user t) :=
  { h with lockout := by simp only [State.setLockout, Function.update_self] }

theorem setSession (i : ℕ) (session : Session) :
    (s.setSession i session).Alike user (s'.setSession i session) :=
  { h with sessions := by simp only [State.setSession, List.map_set, h.sessions] }

theorem begin : s.begin.Alike user s'.begin :=
  { h with world := { h.world with cancelled := rfl, callbacks := rfl } }

theorem restarted (available : Bool) :
    (s.restarted available).Alike user (s'.restarted available) where
  world := ⟨rfl, h.world.now, rfl, rfl⟩
  engine := rfl
  tee := rfl
  auth := by simp only [State.restarted, h.useTee]
  storage := h.storage
  lockout := rfl
  sessions := rfl
  useTee := h.useTee

end State.Alike

/-! ### Preparing the engine, and the template stores -/

section

variable {user : Int32} {s s' : State} (h : s.Alike user s')

include h

theorem prepare_alike (io : PrepareIO) :
    (prepare io s').1 = (prepare io s).1 ∧ (prepare io s).2.Alike user (prepare io s').2 := by
  obtain ⟨w, st, lockouts, sessions, enrolls, enrolled, rfl⟩ := h.exists_eq
  simp only [prepare]
  split
  · split
    · exact ⟨rfl, { h.emit _ with auth := rfl }⟩
    · exact ⟨rfl, { h with auth := rfl }⟩
  · split
    · exact ⟨rfl, { h.emit _ with engine := rfl }⟩
    · split
      · split
        · exact ⟨rfl, { h.emit _ with engine := rfl, tee := rfl }⟩
        · exact ⟨rfl, { h with engine := rfl, tee := rfl }⟩
      · exact ⟨rfl, { h with engine := rfl }⟩

theorem removeFeature_alike (io : RemoveFeatureIO) :
    (removeFeature io s').1 = (removeFeature io s).1 ∧
      (removeFeature io s).2.Alike user (removeFeature io s').2 := by
  obtain ⟨w, st, lockouts, sessions, enrolls, enrolled, rfl⟩ := h.exists_eq
  simp only [removeFeature]
  split
  · obtain ⟨hok, hauth, hstorage⟩ := AuthEngine.removeTemplate_alike h.storage io.auth s.auth
    exact ⟨hok, { h with auth := hauth, storage := hstorage }⟩
  · split
    · obtain ⟨hok, hfile⟩ := unlink_alike h.storage.featureFile io.unlinkFails
      exact ⟨hok, h.withStorage (h.storage.setFeature hfile)⟩
    · split
      · exact ⟨rfl, { h with tee := rfl }⟩
      · have hst : s.storage.Alike st := h.storage
        obtain ⟨hok, hremoved⟩ := FaceTee.removeFeature_alike hst io.remove
        have hframes := FaceTee.removeFrames_alike hremoved io.removeFrame
        have hs := h.withEngines s.engine (s.tee.openTee io.tee).2 s.auth
        exact ⟨hok, hs.withStorage hframes⟩

theorem undoTemplate_alike (io : RemoveTemplateIO) :
    (undoTemplate io s).Alike user (undoTemplate io s') := by
  obtain ⟨-, hauth, hstorage⟩ := AuthEngine.removeTemplate_alike h.storage io s.auth
  simp only [undoTemplate, h.auth, hauth]
  exact { h with auth := rfl, storage := hstorage }

theorem storeFeature_alike (io : StoreFeatureIO) {t t' : Template} (ht : t'.feature = t.feature)
    (nv21 : Nv21) :
    (storeFeature io t' nv21 s').1 = (storeFeature io t nv21 s).1 ∧
      (storeFeature io t nv21 s).2.Alike user (storeFeature io t' nv21 s').2 := by
  obtain ⟨-, hremoved⟩ := removeFeature_alike h io.remove
  simp only [storeFeature]
  generalize (removeFeature io.remove s).2 = r at *
  generalize (removeFeature io.remove s').2 = r' at *
  obtain ⟨w, st, lockouts, sessions, enrolls, enrolled, rfl⟩ := hremoved.exists_eq
  split
  · obtain ⟨hok, hfile⟩ := writeStringToFile_alike hremoved.storage.featureFile ht io.write
    exact ⟨hok, hremoved.withStorage (hremoved.storage.setFeature hfile)⟩
  · split
    · exact ⟨rfl, { hremoved with tee := rfl }⟩
    · obtain ⟨hok, hsaved⟩ := FaceTee.saveFeature_alike hremoved.storage io.save ht
      rw [hok]
      split
      · exact ⟨rfl, { hremoved with tee := rfl, storage := hsaved }⟩
      · have hframe := FaceTee.saveFrame_alike hsaved io.saveFrame 0 nv21
        exact ⟨rfl, { hremoved with tee := rfl, storage := hframe }⟩

/-! ### Authentication -/

theorem checkLockoutLocked_alike (elapsed : ℕ) :
    (checkLockoutLocked user elapsed s').1 = (checkLockoutLocked user elapsed s).1 ∧
      (checkLockoutLocked user elapsed s).2.Alike user (checkLockoutLocked user elapsed s').2 := by
  have hworld := h.world.tick elapsed
  have htick := h.withWorld hworld
  simp only [checkLockoutLocked, h.lockout, hworld.now]
  split
  · exact ⟨rfl, h.emit _⟩
  · split
    · exact ⟨rfl, htick.emit _⟩
    · exact ⟨rfl, htick⟩

theorem onAuthenticationFailedLocked_alike (elapsed : ℕ) :
    (onAuthenticationFailedLocked user elapsed s).Alike user
      (onAuthenticationFailedLocked user elapsed s') := by
  have hfailed := h.emit .onAuthenticationFailed
  simp only [onAuthenticationFailedLocked, hfailed.lockout]
  generalize (s.emit .onAuthenticationFailed).sLockouts user = t
  have hcounted := hfailed.setLockout { t with failures := t.failures + 1 }
  have hworld := hcounted.world.tick elapsed
  simp only [hworld.now]
  split
  · exact hcounted.emit _
  · split
    · exact ((hcounted.withWorld hworld).setLockout _).emit _
    · exact hcounted

theorem conclude_alike (enrollmentId : Int32) (failElapsed : ℕ) (matched compared : Bool)
    (error : Option Error) :
    (s.conclude user enrollmentId failElapsed matched compared error).Alike user
      (s'.conclude user enrollmentId failElapsed matched compared error) := by
  simp only [State.conclude, h.world.cancelled]
  split
  · exact (h.setLockout _).emit _
  · cases error with
    | some error => exact h.emit _
    | none =>
        simp only
        split
        · exact h.emit _
        · split
          · exact onAuthenticationFailedLocked_alike h failElapsed
          · exact h.emit _

theorem doAuthenticateCv_alike (e : Enrollment) (io : AuthenticateIO) :
    (doAuthenticateCv user e io s).Alike user (doAuthenticateCv user e io s') := by
  obtain ⟨w, st, lockouts, sessions, enrolls, enrolled, rfl⟩ := h.exists_eq
  obtain ⟨hok, hstart⟩ := h.world.startCamera false io.start
  have hw := hstart.tick io.startElapsed
  simp only [doAuthenticateCv, hok]
  split
  · exact (h.withWorld hstart).emit _
  · simp only [hw.camera, hw.now]
    generalize hl : whileFrames _ (authenticateFrame _ _ _ s.storage) _ _ = l
    generalize hl' : whileFrames _ (authenticateFrame _ _ _ st) _ _ = l'
    obtain ⟨hend, hlocals⟩ : l.1.Alike l'.1 ∧ l.2 = l'.2 := by
      rw [← hl, ← hl']
      exact authenticateLoop_alike hw _ h.storage _ _ _ io.cv _
    rw [← hlocals]
    have hs := (h.withEngines s.engine l.2.tee s.auth).withWorld (hend.stopCamera.pass io.stop)
    exact conclude_alike hs e.enrollmentId io.failElapsed l.2.matched l.2.compared none

theorem doAuthenticateAuth_alike (e : Enrollment) (io : AuthenticateIO) :
    (doAuthenticateAuth user e io s).Alike user (doAuthenticateAuth user e io s') := by
  obtain ⟨w, st, lockouts, sessions, enrolls, enrolled, rfl⟩ := h.exists_eq
  obtain ⟨hok, hstart⟩ := h.world.startCamera false io.start
  have hw := hstart.tick io.startElapsed
  have hbegin : s.auth.beginAuthenticate io.setFaceOrientation e.requireAttention st =
      s.auth.beginAuthenticate io.setFaceOrientation e.requireAttention s.storage := by
    simp only [AuthEngine.beginAuthenticate, show st.faceIdFile = _ from h.storage.faceIdFile]
  simp only [doAuthenticateAuth, hok, hbegin]
  split
  · exact (h.withWorld hstart).emit _
  · generalize s.auth.beginAuthenticate _ _ _ = b
    cases b.1 with
    | some error =>
        exact { (h.withWorld hstart.stopCamera).emit _ with auth := rfl }
    | none =>
        simp only [hw.now]
        generalize hl : whileFrames _ (stAuthenticateFrame s.storage) _ _ = l
        generalize hl' : whileFrames _ (stAuthenticateFrame st) _ _ = l'
        obtain ⟨hend, hlocals⟩ : l.1.Alike l'.1 ∧ l.2 = l'.2 := by
          rw [← hl, ← hl']
          exact stAuthenticateLoop_alike hw _ h.storage io.stAuth _
        rw [← hlocals]
        have hs := (h.withEngines s.engine s.tee l.2.auth).withWorld
          (hend.stopCamera.pass io.stop)
        exact conclude_alike hs e.enrollmentId io.failElapsed l.2.matched l.2.compared l.2.error

theorem authenticateWith_alike (io : AuthenticateIO) (e : Enrollment) :
    (authenticateWith user io e s).Alike user (authenticateWith user io e s') := by
  obtain ⟨hlocked, hcheck⟩ := checkLockoutLocked_alike h io.checkElapsed
  obtain ⟨hok, hprepare⟩ := prepare_alike hcheck io.prepare
  simp only [authenticateWith, hlocked, hok, hprepare.engineName, hprepare.auth]
  split
  · exact h.emit _
  · split
    · exact hcheck
    · split
      · exact hprepare
      · split
        · exact hprepare.emit _
        · split
          · exact doAuthenticateAuth_alike hprepare e io
          · exact doAuthenticateCv_alike hprepare e io

/-! ### Enrollment -/

theorem finishEnroll_alike (io : EnrollIO) :
    (finishEnroll io s).Alike user (finishEnroll io s') :=
  ((h.withGhosts _ _ _ _).emit _).emit _

theorem concludeEnroll_alike (e : Enrollment) (io : EnrollIO) (feature : List UInt8)
    (nv21 : Nv21) :
    (s.concludeEnroll user e io feature nv21).Alike user
      (s'.concludeEnroll user e io feature nv21) := by
  have ht : (Template.mk feature s'.enrolls).feature = (Template.mk feature s.enrolls).feature :=
    rfl
  obtain ⟨hok, hstored⟩ := storeFeature_alike h io.store ht nv21
  simp only [State.concludeEnroll, h.world.cancelled, hok, hstored.storage.enrollmentFile]
  generalize (storeFeature io.store _ nv21 s).2 = r at *
  generalize (storeFeature io.store _ nv21 s').2 = r' at *
  have hsaved := hstored.withStorage (hstored.storage.setRecord
    ((newEnrollment user e io kCvEngine).save io.save r.storage.enrollmentFile).2)
  split
  · exact h.emit _
  · split
    · exact hstored.emit _
    · split
      · exact (removeFeature_alike hsaved io.undo).2.emit _
      · exact finishEnroll_alike hsaved io

theorem doEnrollCv_alike (preview : Bool) (e : Enrollment) (io : EnrollIO) :
    (doEnrollCv user preview e io s).Alike user (doEnrollCv user preview e io s') := by
  obtain ⟨hok, hstart⟩ := h.world.startCamera preview io.start
  have hw := hstart.tick io.startElapsed
  simp only [doEnrollCv, hok]
  split
  · exact (h.withWorld hstart).emit _
  · simp only [hw.camera, hw.now]
    generalize hl : whileFrames _ (enrollFrame _ _) _
      ((s.world.startCamera _ _).2.tick _, _) = l
    generalize hl' : whileFrames _ (enrollFrame _ _) _
      ((s'.world.startCamera _ _).2.tick _, _) = l'
    obtain ⟨hend, hlocals⟩ : l.1.Alike l'.1 ∧ l.2 = l'.2 := by
      rw [← hl, ← hl']
      exact enrollLoop_alike hw _ _ _ io.cv _
    rw [← hlocals]
    exact concludeEnroll_alike (h.withWorld (hend.stopCamera.pass io.stop)) e io l.2.feature
      l.2.nv21

theorem concludeEnrollAuth_alike (e : Enrollment) (io : EnrollIO) (done : Bool)
    (error : Option Error) :
    (s.concludeEnrollAuth user e io done error).Alike user
      (s'.concludeEnrollAuth user e io done error) := by
  obtain ⟨w, st, lockouts, sessions, enrolls, enrolled, rfl⟩ := h.exists_eq
  have hw : s.world.Alike w := h.world
  have hst : s.storage.Alike st := h.storage
  simp only [State.concludeEnrollAuth, hw.cancelled, hst.enrollmentFile]
  have hsaved := h.withStorage (hst.setRecord
    ((newEnrollment user e io s.auth.name).save io.save s.storage.enrollmentFile).2)
  split
  · exact (undoTemplate_alike h io.undo.auth).emit _
  · split
    · exact (undoTemplate_alike hsaved io.undo.auth).emit _
    · exact finishEnroll_alike hsaved io

theorem doEnrollAuth_alike (preview : Bool) (e : Enrollment) (io : EnrollIO) :
    (doEnrollAuth user preview e io s).Alike user (doEnrollAuth user preview e io s') := by
  obtain ⟨w, st, lockouts, sessions, enrolls, enrolled, rfl⟩ := h.exists_eq
  have hst : s.storage.Alike st := h.storage
  obtain ⟨hok, hstart⟩ := h.world.startCamera preview io.start
  obtain ⟨herror, hauth, hbegun⟩ := AuthEngine.beginEnroll_alike hst io.beginEnroll s.auth
  have hw := hstart.tick io.startElapsed
  simp only [doEnrollAuth, hok, herror, hauth]
  generalize s.auth.beginEnroll io.beginEnroll s.storage = b at *
  generalize s.auth.beginEnroll io.beginEnroll st = b' at *
  split
  · exact (h.withWorld hstart).emit _
  · have hs := (h.withEngines s.engine s.tee b.2.1).withStorage hbegun
    cases b.1 with
    | some error => exact (hs.withWorld hstart.stopCamera).emit _
    | none =>
        simp only [hw.now]
        have hx : StEnrollLocals.Alike { auth := b.2.1, storage := b.2.2 }
            { auth := b.2.1, storage := b'.2.2 } := ⟨rfl, hbegun, rfl, rfl, rfl, rfl, rfl⟩
        generalize hl : whileFrames _ (stEnrollFrame s.enrolls _) _ _ = l
        generalize hl' : whileFrames _ (stEnrollFrame enrolls _) _ _ = l'
        obtain ⟨hend, hlocals⟩ : l.1.Alike l'.1 ∧ l.2.Alike l'.2 := by
          rw [← hl, ← hl']
          exact stEnrollLoop_alike hw _ _ _ _ io.stAuth hx
        rw [hlocals.auth, hlocals.done, hlocals.error]
        have hend' := ((h.withEngines s.engine s.tee l.2.auth).withStorage
          hlocals.storage).withWorld (hend.stopCamera.pass io.stop)
        exact concludeEnrollAuth_alike hend' e io l.2.done l.2.error

theorem enrollWith_alike (preview : Bool) (io : EnrollIO) (e : Enrollment) :
    (enrollWith user preview io e s).Alike user (enrollWith user preview io e s') := by
  obtain ⟨hok, hprepare⟩ := prepare_alike h io.prepare
  simp only [enrollWith, hok, hprepare.auth]
  split
  · exact h.emit _
  · split
    · exact hprepare
    · split
      · exact doEnrollAuth_alike hprepare preview e io
      · exact doEnrollCv_alike hprepare preview e io

/-! ### The remaining operations -/

theorem withEnrollment_alike {op : Enrollment → State → State}
    (hop : ∀ e, (op e s).Alike user (op e s')) :
    (s.withEnrollment op).Alike user (s'.withEnrollment op) := by
  simp only [State.withEnrollment, h.storage.enrollmentFile]
  cases Enrollment.load s.storage.enrollmentFile with
  | error ex => exact h.terminate ex
  | ok e => exact hop e

theorem doEnroll_alike (session : Session) (challenge : Int64) (preview : Bool) (io : EnrollIO)
    (huser : session.mUserId = user) :
    (doEnroll session challenge preview io s).Alike user
      (doEnroll session challenge preview io s') := by
  subst huser
  simp only [doEnroll]
  split
  · exact h.emit _
  · exact withEnrollment_alike h (enrollWith_alike h preview io)

theorem saveRecord_alike (e : Enrollment) (io : SaveIO) :
    { s with storage :=
      { s.storage with enrollmentFile := (e.save io s.storage.enrollmentFile).2 } }.Alike user
      { s' with storage :=
        { s'.storage with enrollmentFile := (e.save io s'.storage.enrollmentFile).2 } } := by
  rw [h.storage.enrollmentFile]
  exact h.withStorage (h.storage.setRecord _)

theorem removeWith_alike (ids : List Int32) (io : RemoveIO) (e : Enrollment) :
    (removeWith user ids io e s).Alike user (removeWith user ids io e s') := by
  obtain ⟨hok, hremoved⟩ := removeFeature_alike h io.feature
  simp only [removeWith, hok]
  split
  · exact h.emit _
  · split
    · exact hremoved.emit _
    · exact (saveRecord_alike hremoved {} io.save).emit _

theorem setFeatureWith_alike (feature : Feature) (enabled : Bool) (io : SaveIO) (e : Enrollment) :
    (setFeatureWith user feature enabled io e s).Alike user
      (setFeatureWith user feature enabled io e s') := by
  have hsaved := saveRecord_alike h { e with requireAttention := enabled } io
  simp only [setFeatureWith, h.storage.enrollmentFile] at hsaved ⊢
  split
  · exact h.emit _
  · split
    · exact hsaved.emit _
    · exact hsaved.emit _

theorem invalidateWith_alike (r : RandomId) (io : SaveIO) (e : Enrollment) :
    (invalidateWith user r io e s).Alike user (invalidateWith user r io e s') := by
  simp only [invalidateWith]
  split
  · exact h.emit _
  · exact (saveRecord_alike h { e with authenticatorId := r.value } io).emit _

/-- An operation of the user, in a session that is the same in both states. -/
theorem runOp_alike (i : ℕ) {session : Session} (huser : session.mUserId = user) (op : Op) :
    (runOp i session op s).Alike user (runOp i session op s') := by
  subst huser
  cases op with
  | generateChallenge r => exact (h.setSession i _).emit _
  | revokeChallenge challenge => exact (h.setSession i _).emit _
  | enroll challenge preview io =>
      exact (doEnroll_alike h session challenge preview io rfl).withGhosts _ _ _ _
  | authenticate io => exact withEnrollment_alike h (authenticateWith_alike h io)
  | detectInteraction => exact h.emit _
  | enumerateEnrollments => exact withEnrollment_alike h fun e => h.emit _
  | removeEnrollments ids io => exact withEnrollment_alike h (removeWith_alike h ids io)
  | getFeatures =>
      refine withEnrollment_alike h fun e => ?_
      simp only [getFeaturesWith]
      split <;> exact h.emit _
  | setFeature feature enabled io =>
      exact withEnrollment_alike h (setFeatureWith_alike h feature enabled io)
  | getAuthenticatorId => exact withEnrollment_alike h fun e => h.emit _
  | invalidateAuthenticatorId r io => exact withEnrollment_alike h (invalidateWith_alike h r io)
  | resetLockout => exact (h.setLockout _).emit _
  | close => exact h.emit _

end

end OneplusHal.Face

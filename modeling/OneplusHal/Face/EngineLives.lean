import OneplusHal.Face.Operations
import OneplusHal.Face.StAuthCalls

/-!
The st_auth engine of the service leads the life that `StAuthCalls` is about.

Every operation drives the engine by inputs of a life: it is prepared before it is used,
and templates are removed whenever they have to be. A restart begins a new life.
-/

namespace OneplusHal.Face

open OneplusHal AuthEngine

/-- Inputs of a life lead from `a` to `a'`, where the last `prepare` answered `b` before
them and `b'` after them. -/
def Drives (b : Bool) (a : AuthEngine) (b' : Bool) (a' : AuthEngine) : Prop :=
  ∃ is, Machine.run Life.step ⟨a, b, false⟩ is = ⟨a', b', false⟩

namespace Drives

variable {b b' b'' : Bool} {a a' a'' : AuthEngine}

theorem refl (b : Bool) (a : AuthEngine) : Drives b a b a := ⟨[], rfl⟩

theorem trans (h : Drives b a b' a') (h' : Drives b' a' b'' a'') : Drives b a b'' a'' := by
  obtain ⟨is, his⟩ := h
  obtain ⟨is', his'⟩ := h'
  exact ⟨is ++ is', by rw [Machine.run_append, his, his']⟩

theorem prepare (io : AuthInitIO) (b : Bool) (a : AuthEngine) :
    Drives b a (a.init io).1 (a.init io).2 :=
  ⟨[.prepare io], rfl⟩

theorem use (u : Use) (a : AuthEngine) : Drives true a true (u.apply a) := ⟨[.use u], rfl⟩

theorem removeTemplate (io : RemoveTemplateIO) (st : Storage) (b : Bool) (a : AuthEngine) :
    Drives b a b (a.removeTemplate io st).2.1 :=
  ⟨[.removeTemplate io st], rfl⟩

/-- The frames of a loop whose body uses the engine. -/
theorem whileFrames {α σ : Type} {body : Fetch → Nv21 → α → World × σ → Bool × World × σ}
    (auth : σ → AuthEngine)
    (hbody : ∀ f nv21 c p, ∃ u : Use, auth (body f nv21 c p).2.2 = u.apply (auth p.2))
    (deadline : Time) (calls : List (Call α)) (p : World × σ) :
    Drives true (auth p.2) true (auth (Face.whileFrames deadline body calls p).2) := by
  refine Loop.foldUntil_invariant (I := fun q => Drives true (auth p.2) true (auth q.2)) ?_ ?_
    calls p (.refl _ _)
  · intro c q hq
    simp only [frameStep]
    split
    · exact hq
    · obtain ⟨u, hu⟩ := hbody _ _ c.answers _
      rw [hu]
      exact hq.trans (.use u _)
  · exact fun _ hq => hq

end Drives

/-! ### The operations -/

theorem drives_removeFeature (io : RemoveFeatureIO) (b : Bool) {a : AuthEngine} {s : State}
    (hs : s.auth = a) : Drives b a b (removeFeature io s).2.auth := by
  subst hs
  simp only [removeFeature]
  split
  · exact .removeTemplate io.auth s.storage b s.auth
  · split
    · exact .refl b s.auth
    · split <;> exact .refl b s.auth

theorem drives_storeFeature (io : StoreFeatureIO) (t : Template) (nv21 : Nv21) (b : Bool)
    (s : State) : Drives b s.auth b (storeFeature io t nv21 s).2.auth := by
  have hremove := drives_removeFeature io.remove b (rfl : s.auth = s.auth)
  simp only [storeFeature]
  split
  · exact hremove
  · split
    · exact hremove
    · split <;> exact hremove

/-- `prepare` asks an st_auth engine that is available, and answers as it does. -/
theorem drives_prepare (io : PrepareIO) (b : Bool) (s : State) :
    (s.auth.mAvailable = true ∧ Drives b s.auth (prepare io s).1 (prepare io s).2.auth) ∨
      (s.auth.mAvailable = false ∧ (prepare io s).2.auth = s.auth) := by
  simp only [prepare]
  cases havailable : s.auth.mAvailable with
  | true =>
      rw [if_pos rfl]
      have hinit := Drives.prepare io.auth b s.auth
      cases hanswer : (s.auth.init io.auth).1 with
      | true =>
          rw [hanswer] at hinit
          exact .inl ⟨rfl, hinit⟩
      | false =>
          rw [hanswer] at hinit
          exact .inl ⟨rfl, hinit⟩
  | false =>
      rw [if_neg Bool.false_ne_true]
      refine .inr ⟨rfl, ?_⟩
      split
      · rfl
      · split
        · split <;> rfl
        · rfl

theorem drives_of_prepare (io : PrepareIO) (b : Bool) (s : State) :
    ∃ b', Drives b s.auth b' (prepare io s).2.auth := by
  obtain ⟨-, hdrives⟩ | ⟨-, hsame⟩ := drives_prepare io b s
  · exact ⟨_, hdrives⟩
  · rw [hsame]
    exact ⟨b, .refl b s.auth⟩

/-- What follows a successful `prepare` may use the engine if it is there. -/
theorem drives_of_prepared {io : PrepareIO} {s : State} {a : AuthEngine} (b : Bool)
    (hready : (prepare io s).1 = true)
    (hst : (prepare io s).2.auth.mAvailable = true → Drives true (prepare io s).2.auth true a)
    (hcv : (prepare io s).2.auth.mAvailable = false → Drives b (prepare io s).2.auth b a) :
    ∃ b', Drives b s.auth b' a := by
  have havailable := (keeps_prepare io s).mAvailable
  obtain ⟨hthere, hdrives⟩ | ⟨hgone, hsame⟩ := drives_prepare io b s
  · rw [hready] at hdrives
    exact ⟨true, hdrives.trans (hst (havailable.trans hthere))⟩
  · exact ⟨b, hsame ▸ hcv (havailable.trans hgone)⟩

theorem auth_conclude (s : State) (user enrollmentId : Int32) (failElapsed : ℕ)
    (matched compared : Bool) (error : Option Error) :
    (s.conclude user enrollmentId failElapsed matched compared error).auth = s.auth := by
  have hconclusion := conclude_conclusion s user enrollmentId failElapsed matched compared error
  generalize s.conclude user enrollmentId failElapsed matched compared error = s' at *
  cases hconclusion with
  | succeeded => rfl
  | ended er h => rfl
  | failed h =>
      simp only [onAuthenticationFailedLocked]
      split
      · rfl
      · split <;> rfl

theorem auth_doAuthenticateCv (user : Int32) (e : Enrollment) (io : AuthenticateIO) (s : State) :
    (doAuthenticateCv user e io s).auth = s.auth := by
  simp only [doAuthenticateCv]
  split
  · rfl
  · exact auth_conclude _ user e.enrollmentId io.failElapsed _ _ none

/-- A prepared engine authenticates. -/
theorem drives_doAuthenticateAuth (user : Int32) (e : Enrollment) (io : AuthenticateIO)
    (s : State) : Drives true s.auth true (doAuthenticateAuth user e io s).auth := by
  have hbegin := Drives.use
    (.beginAuthenticate io.setFaceOrientation e.requireAttention s.storage) s.auth
  have hframe (f : Fetch) (nv21 : Nv21) (status : AuthStatus) (p : World × StAuthLocals) :
      (stAuthenticateFrame s.storage f nv21 status p).2.2.auth =
        (Use.authenticate status s.storage).apply p.2.auth := by
    simp only [stAuthenticateFrame]
    split
    · rfl
    · split <;> rfl
  have hloop (w : World) (auth : AuthEngine) : Drives true auth true (whileFrames
      (w.now + kAuthTimeout) (stAuthenticateFrame s.storage) io.stAuth (w, { auth })).2.auth :=
    .whileFrames StAuthLocals.auth (fun f nv21 status p => ⟨_, hframe f nv21 status p⟩) _
      io.stAuth (w, { auth })
  simp only [doAuthenticateAuth]
  split
  · exact .refl true s.auth
  · split
    · exact hbegin
    · refine (congrArg (Drives true s.auth true)
        (auth_conclude _ user e.enrollmentId io.failElapsed _ _ _)).mpr ?_
      exact hbegin.trans (hloop _ _)

theorem drives_authenticateWith (user : Int32) (io : AuthenticateIO) (e : Enrollment) (b : Bool)
    (s : State) : ∃ b', Drives b s.auth b' (authenticateWith user io e s).auth := by
  have hcheck : (checkLockoutLocked user io.checkElapsed s).2.auth = s.auth := by
    simp only [checkLockoutLocked]
    split
    · rfl
    · split <;> rfl
  simp only [authenticateWith]
  rw [← hcheck]
  generalize (checkLockoutLocked user io.checkElapsed s) = c at *
  split
  · rw [hcheck]
    exact ⟨b, .refl b s.auth⟩
  split
  · exact ⟨b, .refl b c.2.auth⟩
  split
  · exact drives_of_prepare io.prepare b c.2
  split
  · exact drives_of_prepare io.prepare b c.2
  rename_i hready _
  have hready' : (prepare io.prepare c.2).1 = true := by simpa using hready
  split
  · rename_i hst
    exact drives_of_prepared b hready' (fun _ => drives_doAuthenticateAuth user e io _)
      fun hcv => absurd (hcv.symm.trans hst) Bool.false_ne_true
  · rename_i hcv
    refine drives_of_prepared b hready' (fun hst => absurd hst hcv) fun _ => ?_
    rw [auth_doAuthenticateCv]
    exact .refl b _

theorem drives_undoTemplate (io : RemoveTemplateIO) (b : Bool) {a : AuthEngine} {s : State}
    (hs : s.auth = a) : Drives b a b (undoTemplate io s).auth := by
  subst hs
  exact .removeTemplate io s.storage b s.auth

theorem drives_concludeEnroll (user : Int32) (e : Enrollment) (io : EnrollIO)
    (feature : List UInt8) (nv21 : Nv21) (b : Bool) {a : AuthEngine} {s : State}
    (hs : s.auth = a) : Drives b a b (s.concludeEnroll user e io feature nv21).auth := by
  subst hs
  have hstore := drives_storeFeature io.store ⟨feature, s.enrolls⟩ nv21 b s
  simp only [State.concludeEnroll]
  split
  · exact .refl b s.auth
  · split
    · exact hstore
    · split
      · exact hstore.trans (drives_removeFeature io.undo b rfl)
      · exact hstore

theorem drives_concludeEnrollAuth (user : Int32) (e : Enrollment) (io : EnrollIO) (done : Bool)
    (error : Option Error) (b : Bool) {a : AuthEngine} {s : State} (hs : s.auth = a) :
    Drives b a b (s.concludeEnrollAuth user e io done error).auth := by
  subst hs
  simp only [State.concludeEnrollAuth]
  split
  · exact drives_undoTemplate io.undo.auth b rfl
  · split
    · exact drives_undoTemplate io.undo.auth b rfl
    · exact .refl b s.auth

theorem drives_doEnrollCv (user : Int32) (preview : Bool) (e : Enrollment) (io : EnrollIO)
    (b : Bool) (s : State) : Drives b s.auth b (doEnrollCv user preview e io s).auth := by
  simp only [doEnrollCv]
  split
  · exact .refl b s.auth
  · exact drives_concludeEnroll user e io _ _ b rfl

/-- A prepared engine enrolls. -/
theorem drives_doEnrollAuth (user : Int32) (preview : Bool) (e : Enrollment) (io : EnrollIO)
    (s : State) : Drives true s.auth true (doEnrollAuth user preview e io s).auth := by
  have hbegin := Drives.use (.beginEnroll io.beginEnroll s.storage) s.auth
  have hframe (f : Fetch) (nv21 : Nv21) (a : EnrollAnswer) (p : World × StEnrollLocals) :
      (stEnrollFrame s.enrolls io.enrollmentId.toEnrollmentId f nv21 a p).2.2.auth =
        (Use.enroll s.enrolls a p.2.storage).apply p.2.auth := by
    simp only [stEnrollFrame]
    split
    · rfl
    · split
      · rfl
      · split <;> rfl
  have hloop (w : World) (auth : AuthEngine) (storage : Storage) :
      Drives true auth true (whileFrames (w.now + kEnrollTimeout)
        (stEnrollFrame s.enrolls io.enrollmentId.toEnrollmentId) io.stAuth
        (w, { auth, storage })).2.auth :=
    .whileFrames StEnrollLocals.auth (fun f nv21 a p => ⟨_, hframe f nv21 a p⟩) _ io.stAuth
      (w, { auth, storage })
  simp only [doEnrollAuth]
  split
  · exact .refl true s.auth
  · split
    · exact hbegin
    · exact (hbegin.trans (hloop _ _ _)).trans
        (drives_concludeEnrollAuth user e io _ _ true rfl)

theorem drives_enrollWith (user : Int32) (preview : Bool) (io : EnrollIO) (e : Enrollment)
    (b : Bool) (s : State) : ∃ b', Drives b s.auth b' (enrollWith user preview io e s).auth := by
  simp only [enrollWith]
  split
  · exact ⟨b, .refl b s.auth⟩
  split
  · exact drives_of_prepare io.prepare b s
  rename_i hready
  have hready' : (prepare io.prepare s).1 = true := by simpa using hready
  split
  · rename_i hst
    exact drives_of_prepared b hready' (fun _ => drives_doEnrollAuth user preview e io _)
      fun hcv => absurd (hcv.symm.trans hst) Bool.false_ne_true
  · rename_i hcv
    exact drives_of_prepared b hready' (fun hst => absurd hst hcv)
      fun _ => drives_doEnrollCv user preview e io b _

theorem drives_removeWith (user : Int32) (ids : List Int32) (io : RemoveIO) (e : Enrollment)
    (b : Bool) (s : State) : Drives b s.auth b (removeWith user ids io e s).auth := by
  have hremove := drives_removeFeature io.feature b (rfl : s.auth = s.auth)
  simp only [removeWith]
  split
  · exact .refl b s.auth
  · split <;> exact hremove

/-- An operation on the record alone. -/
theorem drives_withEnrollment {op : Enrollment → State → State} {b : Bool} {s : State}
    (hop : ∀ e, ∃ b', Drives b s.auth b' (op e s).auth) :
    ∃ b', Drives b s.auth b' (s.withEnrollment op).auth := by
  simp only [State.withEnrollment]
  split
  · exact ⟨b, .refl b s.auth⟩
  · exact hop _

/-- Every operation drives the engine. -/
theorem drives_runOp (i : ℕ) (session : Session) (op : Op) (b : Bool) (s : State) :
    ∃ b', Drives b s.auth b' (runOp i session op s).auth := by
  have hsame : ∃ b', Drives b s.auth b' s.auth := ⟨b, .refl b s.auth⟩
  cases op with
  | enroll challenge preview io =>
      simp only [runOp, doEnroll]
      split
      · exact hsame
      · exact drives_withEnrollment fun e => drives_enrollWith session.mUserId preview io e b s
  | authenticate io =>
      exact drives_withEnrollment fun e => drives_authenticateWith session.mUserId io e b s
  | removeEnrollments ids io =>
      exact drives_withEnrollment fun e => ⟨b, drives_removeWith session.mUserId ids io e b s⟩
  | enumerateEnrollments | getAuthenticatorId => exact drives_withEnrollment fun e => hsame
  | getFeatures =>
      refine drives_withEnrollment fun e => ?_
      simp only [getFeaturesWith]
      split <;> exact hsame
  | setFeature feature enabled io =>
      refine drives_withEnrollment fun e => ?_
      simp only [setFeatureWith]
      split
      · exact hsame
      · split <;> exact hsame
  | invalidateAuthenticatorId r io =>
      refine drives_withEnrollment fun e => ?_
      simp only [invalidateWith]
      split <;> exact hsame
  | _ => exact hsame

/-! ### Runs of the service -/

/-- The engine of `s` has come out of a life that goes on. -/
def LivesIn (s : State) : Prop :=
  ∃ useTee available b', Drives false { mUseTee := useTee, mAvailable := available } b' s.auth

theorem LivesIn.step {s : State} (h : LivesIn s) (st : Step) : LivesIn (step s st) := by
  obtain ⟨useTee, available, b, hlife⟩ := h
  cases st with
  | op i op =>
      simp only [Face.step]
      split
      · exact ⟨useTee, available, b, hlife⟩
      · obtain ⟨b', hop⟩ := drives_runOp i _ op b s.begin
        exact ⟨useTee, available, b', hlife.trans hop⟩
  | restart available' => exact ⟨s.useTee, available', false, .refl _ _⟩
  | _ => exact ⟨useTee, available, b, hlife⟩

/-- The engine of a reachable service comes out of a life, and its calls of the SDK are
paired if no `init` in that life has failed after the symbols. -/
theorem reachable_life {s : State} (h : Reachable s) :
    ∃ useTee available is prepared,
      let new : Life := { engine := { mUseTee := useTee, mAvailable := available } }
      Machine.run Life.step new is = ⟨s.auth, prepared, false⟩ ∧
        (Machine.Along Life.step Life.Safe new is → s.auth.Paired) := by
  have hinit (s₀ : State) (h₀ : s₀.Initial) : LivesIn s₀ := by
    obtain ⟨available, tee, now, rfl⟩ := h₀
    exact ⟨tee, available, false, .refl _ _⟩
  obtain ⟨useTee, available, prepared, is, his⟩ :=
    Machine.Reachable.invariant hinit (fun _ st hs => hs.step st) h
  refine ⟨useTee, available, is, prepared, his, fun hsafe => ?_⟩
  have hsound := hsafe.invariant (fun _ i hl => (hl.step i).2) (Life.sound_new useTee available)
  rw [his] at hsound
  exact hsound.paired

end OneplusHal.Face

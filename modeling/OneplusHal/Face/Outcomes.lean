import OneplusHal.Face.Mailbox
import OneplusHal.Face.Operations

/-!
How operations end: what they report, and that the camera does not run any more.

The shape of a whole operation is read off `Attempt` and `Enrolling`. That the camera is
stopped is a matter of its pointers: whatever happened before, `stop` leaves neither a
device nor a reader nor a session, and a start that fails has called it.
-/

namespace OneplusHal.Face

open OneplusHal

/-! ### The camera's pointers -/

namespace CameraSource

/-- Frames can come in. -/
def running (c : CameraSource) : Bool := c.held .device || c.held .reader || c.held .session

theorem running_stop (c : CameraSource) : c.stop.running = false := by
  simp [running, held_stop, frees]

@[simp] theorem running_deliver (c : CameraSource) (e : CameraEvent) :
    (c.deliver e).running = c.running := by
  cases e with
  | imageAvailable nv21 => cases nv21 <;> rfl
  | disconnected => rfl
  | error code => rfl

theorem held_findFrontCamera (cameras : Option (List CameraInfo)) (c : CameraSource) :
    (findFrontCamera cameras c).2.held = c.held := by
  obtain ⟨id, o, heq⟩ := findFrontCamera_eq cameras c
  rw [heq]

/-- A start that fails leaves the camera stopped, or as it was. -/
theorem running_start {preview : Bool} {io : StartIO} {c : CameraSource}
    (h : (c.start preview io).1 = false) (hc : c.running = false) :
    (c.start preview io).2.running = false := by
  revert h
  simp only [start]
  split
  · intro _
    rw [running, held_findFrontCamera]
    exact hc
  · split
    · exact fun _ => running_stop _
    · split
      · exact fun _ => running_stop _
      · split
        · exact fun _ => running_stop _
        · split
          · exact fun _ => running_stop _
          · exact fun h => absurd h (Bool.noConfusion)

end CameraSource

namespace World

theorem running_pass (w : World) (g : Gap) : (w.pass g).camera.running = w.camera.running := by
  have hfold (evs : List CameraEvent) (c : CameraSource) :
      (evs.foldl CameraSource.deliver c).running = c.running := by
    induction evs generalizing c with
    | nil => rfl
    | cons e evs ih => exact (ih _).trans (c.running_deliver e)
  exact hfold g.events w.camera

theorem running_startCamera {w : World} {preview : Bool} {io : StartIO}
    (h : (!(w.startCamera preview io).1) = true) (hw : w.camera.running = false) :
    (w.startCamera preview io).2.camera.running = false :=
  CameraSource.running_start ((Bool.not_eq_true' _).mp h) hw

/-- After the loop of an operation, the camera is stopped whatever the loop left. -/
theorem running_stopCamera_pass (w : World) (g : Gap) :
    (w.stopCamera.pass g).camera.running = false :=
  (w.stopCamera.running_pass g).trans w.camera.running_stop

end World

/-! ### No operation leaves the camera running -/

theorem camera_prepare (io : PrepareIO) (s : State) :
    (prepare io s).2.world.camera = s.world.camera := by
  simp only [prepare]
  split
  · split <;> rfl
  · split
    · rfl
    · split
      · split <;> rfl
      · rfl

theorem camera_checkLockoutLocked (user : Int32) (elapsed : ℕ) (s : State) :
    (checkLockoutLocked user elapsed s).2.world.camera = s.world.camera := by
  simp only [checkLockoutLocked]
  split
  · rfl
  · split <;> rfl

theorem camera_onAuthenticationFailedLocked (user : Int32) (elapsed : ℕ) (s : State) :
    (onAuthenticationFailedLocked user elapsed s).world.camera = s.world.camera := by
  simp only [onAuthenticationFailedLocked]
  split
  · rfl
  · split <;> rfl

theorem camera_conclude (s : State) (user enrollmentId : Int32) (failElapsed : ℕ)
    (matched compared : Bool) (error : Option Error) :
    (s.conclude user enrollmentId failElapsed matched compared error).world.camera =
      s.world.camera := by
  have hconclusion := conclude_conclusion s user enrollmentId failElapsed matched compared error
  generalize s.conclude user enrollmentId failElapsed matched compared error = s' at *
  cases hconclusion with
  | succeeded => rfl
  | ended er h => rfl
  | failed h => exact camera_onAuthenticationFailedLocked user failElapsed s

theorem running_doAuthenticateCv (user : Int32) (e : Enrollment) (io : AuthenticateIO) (s : State)
    (h : s.world.camera.running = false) :
    (doAuthenticateCv user e io s).world.camera.running = false := by
  simp only [doAuthenticateCv]
  split
  · exact World.running_startCamera ‹_› h
  · refine (congrArg CameraSource.running
      (camera_conclude _ user e.enrollmentId io.failElapsed _ _ none)).trans ?_
    exact World.running_stopCamera_pass _ io.stop

theorem running_doAuthenticateAuth (user : Int32) (e : Enrollment) (io : AuthenticateIO)
    (s : State) (h : s.world.camera.running = false) :
    (doAuthenticateAuth user e io s).world.camera.running = false := by
  simp only [doAuthenticateAuth]
  split
  · exact World.running_startCamera ‹_› h
  · split
    · exact CameraSource.running_stop _
    · refine (congrArg CameraSource.running
        (camera_conclude _ user e.enrollmentId io.failElapsed _ _ _)).trans ?_
      exact World.running_stopCamera_pass _ io.stop

theorem running_authenticateWith (user : Int32) (io : AuthenticateIO) (e : Enrollment) (s : State)
    (h : s.world.camera.running = false) :
    (authenticateWith user io e s).world.camera.running = false := by
  have hcheck : (checkLockoutLocked user io.checkElapsed s).2.world.camera.running = false := by
    rw [camera_checkLockoutLocked]
    exact h
  have hready : (prepare io.prepare
      (checkLockoutLocked user io.checkElapsed s).2).2.world.camera.running = false := by
    rw [camera_prepare]
    exact hcheck
  simp only [authenticateWith]
  split
  · exact h
  · split
    · exact hcheck
    · split
      · exact hready
      · split
        · exact hready
        · split
          · exact running_doAuthenticateAuth user e io _ hready
          · exact running_doAuthenticateCv user e io _ hready

theorem camera_concludeEnroll (s : State) (user : Int32) (e : Enrollment) (io : EnrollIO)
    (feature : List UInt8) (nv21 : Nv21) :
    (s.concludeEnroll user e io feature nv21).world.camera = s.world.camera := by
  have hstore := congrArg World.camera (world_storeFeature io.store ⟨feature, s.enrolls⟩ nv21 s)
  simp only [State.concludeEnroll]
  split
  · rfl
  · split
    · exact hstore
    · split
      · exact (congrArg World.camera (world_removeFeature io.undo _)).trans hstore
      · exact hstore

theorem camera_concludeEnrollAuth (s : State) (user : Int32) (e : Enrollment) (io : EnrollIO)
    (done : Bool) (error : Option Error) :
    (s.concludeEnrollAuth user e io done error).world.camera = s.world.camera := by
  simp only [State.concludeEnrollAuth]
  split
  · rfl
  · split <;> rfl

theorem running_doEnrollCv (user : Int32) (preview : Bool) (e : Enrollment) (io : EnrollIO)
    (s : State) (h : s.world.camera.running = false) :
    (doEnrollCv user preview e io s).world.camera.running = false := by
  simp only [doEnrollCv]
  split
  · exact World.running_startCamera ‹_› h
  · refine (congrArg CameraSource.running
      (camera_concludeEnroll _ user e io _ _)).trans ?_
    exact World.running_stopCamera_pass _ io.stop

theorem running_doEnrollAuth (user : Int32) (preview : Bool) (e : Enrollment) (io : EnrollIO)
    (s : State) (h : s.world.camera.running = false) :
    (doEnrollAuth user preview e io s).world.camera.running = false := by
  simp only [doEnrollAuth]
  split
  · exact World.running_startCamera ‹_› h
  · split
    · exact CameraSource.running_stop _
    · refine (congrArg CameraSource.running
        (camera_concludeEnrollAuth _ user e io _ _)).trans ?_
      exact World.running_stopCamera_pass _ io.stop

theorem running_enrollWith (user : Int32) (preview : Bool) (io : EnrollIO) (e : Enrollment)
    (s : State) (h : s.world.camera.running = false) :
    (enrollWith user preview io e s).world.camera.running = false := by
  have hready : (prepare io.prepare s).2.world.camera.running = false := by
    rw [camera_prepare]
    exact h
  simp only [enrollWith]
  split
  · exact h
  · split
    · exact hready
    · split
      · exact running_doEnrollAuth user preview e io _ hready
      · exact running_doEnrollCv user preview e io _ hready

/-- An operation that begins with the record leaves the camera alone if it cannot read it. -/
theorem running_withEnrollment {s : State} {op : Enrollment → State → State}
    (h : s.world.camera.running = false)
    (hop : ∀ e, (op e s).world.camera.running = false) :
    (s.withEnrollment op).world.camera.running = false := by
  simp only [State.withEnrollment]
  split
  · exact h
  · exact hop _

theorem running_runOp (i : ℕ) (session : Session) (op : Op) (s : State)
    (h : s.world.camera.running = false) :
    (runOp i session op s).world.camera.running = false := by
  cases op with
  | enroll challenge preview io =>
      show (doEnroll session challenge preview io s).world.camera.running = false
      simp only [doEnroll]
      split
      · exact h
      · exact running_withEnrollment h fun e => running_enrollWith _ preview io e s h
  | authenticate io =>
      exact running_withEnrollment h fun e => running_authenticateWith _ io e s h
  | removeEnrollments ids io =>
      refine running_withEnrollment h fun e => ?_
      have hremove : (removeFeature io.feature s).2.world.camera.running = false := by
        rw [world_removeFeature]
        exact h
      simp only [removeWith]
      split
      · exact h
      · split
        · exact hremove
        · exact hremove
  | getFeatures =>
      refine running_withEnrollment h fun e => ?_
      simp only [getFeaturesWith]
      split <;> exact h
  | setFeature feature enabled io =>
      refine running_withEnrollment h fun e => ?_
      simp only [setFeatureWith]
      split
      · exact h
      · split <;> exact h
  | invalidateAuthenticatorId r io =>
      refine running_withEnrollment h fun e => ?_
      simp only [invalidateWith]
      split <;> exact h
  | enumerateEnrollments => exact running_withEnrollment h fun e => h
  | getAuthenticatorId => exact running_withEnrollment h fun e => h
  | _ => exact h

theorem running_step (s : State) (st : Step) (h : s.world.camera.running = false) :
    (step s st).world.camera.running = false := by
  cases st with
  | op i op =>
      simp only [step]
      split
      · exact h
      · exact running_runOp i _ op s.begin h
  | restart available => rfl
  | _ => exact h

/-! ### What an operation reports -/

/-- A frame of an authentication. -/
def Callback.IsAuthReport (c : Callback) : Prop := ∃ info, c = .onAuthenticationFrame info

def Callback.IsLockout (c : Callback) : Prop :=
  c = .onLockoutPermanent ∨ ∃ ms, c = .onLockoutTimed ms

/-- The one outcome of an authentication; a failure may be followed by a lockout. -/
inductive AuthOutcome : List Callback → Prop
  | error (er : Error) : AuthOutcome [.onError er]
  | succeeded (id : Int32) : AuthOutcome [.onAuthenticationSucceeded id]
  | rejected {c : Callback} (h : c.IsLockout) : AuthOutcome [c]
  | failed : AuthOutcome [.onAuthenticationFailed]
  | lockedOut {c : Callback} (h : c.IsLockout) : AuthOutcome [.onAuthenticationFailed, c]

/-- The one outcome of an enrollment with this id. -/
inductive EnrollOutcome (id : Int32) : List Callback → Prop
  | error (er : Error) : EnrollOutcome id [.onError er]
  | finished :
      EnrollOutcome id [.onEnrollmentFrame .good .enrollmentFinished, .onEnrollmentProgress id 0]

/-- The events of an operation that uses the camera at most once and reports `last` when it
does not use it any more. -/
inductive CameraUse (report : Callback → Prop) : List Event → List Callback → Prop
  | unused (last : List Callback) : CameraUse report (last.map .callback) last
  | failed (t : Time) (last : List Callback) :
      CameraUse report (.cameraStarted t false :: last.map .callback) last
  | used {t : Time} {evs : List Event} {last : List Callback}
      (camera : ∀ e ∈ evs, (∀ t ok, e ≠ .cameraStarted t ok) ∧ e ≠ .cameraStopped)
      (reports : ∀ c, .callback c ∈ evs → report c) :
      CameraUse report (.cameraStarted t true :: (evs ++ .cameraStopped :: last.map .callback)) last

/-- The callbacks are reports and then one outcome, and the camera has been stopped by then. -/
structure Ends (report : Callback → Prop) (Outcome : List Callback → Prop) (s' : State) :
    Prop where
  ended : ∃ reports last, s'.callbacks = reports ++ last ∧ (∀ c ∈ reports, report c) ∧
    Outcome last ∧ CameraUse report s'.world.trace last
  stopped : s'.world.camera.running = false

theorem filterMap_callback_map (cs : List Callback) :
    (cs.map Event.callback).filterMap Event.callback? = cs := by
  induction cs with
  | nil => rfl
  | cons c cs ih => exact congrArg (c :: ·) ih

theorem CameraUse.reported {report : Callback → Prop} {evs : List Event} {last : List Callback}
    (h : CameraUse report evs last) :
    ∃ reports, evs.filterMap Event.callback? = reports ++ last ∧ ∀ c ∈ reports, report c := by
  cases h with
  | unused _ => exact ⟨[], filterMap_callback_map last, by simp⟩
  | failed _ _ => exact ⟨[], filterMap_callback_map last, by simp⟩
  | @used t evs _ camera reports =>
      refine ⟨evs.filterMap Event.callback?, ?_, ?_⟩
      · rw [List.filterMap_cons_none rfl, List.filterMap_append, List.filterMap_cons_none rfl,
          filterMap_callback_map]
      · intro c hc
        obtain ⟨e, he, hcallback⟩ := List.mem_filterMap.mp hc
        rw [callback?_eq_some] at hcallback
        exact reports c (hcallback ▸ he)

/-- The events of a loop, between the start of the camera and its stop. -/
theorem CameraUse.of_loop {report : Callback → Prop} {t deadline : Time} {evs : List Event}
    (h : LoopEvents deadline evs) (hreports : ∀ c, .callback c ∈ evs → report c)
    (last : List Callback) :
    CameraUse report (.cameraStarted t true :: (evs ++ .cameraStopped :: last.map .callback))
      last := by
  refine .used ?_ hreports
  intro e he
  refine ⟨?_, ?_⟩
  · rintro t ok rfl
    exact h.camera t ok he
  · rintro rfl
    exact h.running he

/-- What a conclusion reports. -/
theorem Conclusion.outcome {s s' : State} {user enrollmentId : Int32} {failElapsed : ℕ}
    {matched compared : Bool} {error : Option Error}
    (h : Conclusion s user enrollmentId failElapsed matched compared error s') :
    ∃ last, s'.world.trace = s.world.trace ++ last.map .callback ∧ AuthOutcome last := by
  cases h with
  | succeeded => exact ⟨[.onAuthenticationSucceeded enrollmentId], rfl, .succeeded _⟩
  | ended er h => exact ⟨[.onError er], rfl, .error er⟩
  | failed h =>
      obtain ⟨t, hfailed⟩ := onAuthenticationFailedLocked_failed user failElapsed s
      obtain ⟨report, htrace, hreport⟩ := hfailed.trace
      rcases hreport with rfl | rfl | ⟨ms, rfl⟩
      · exact ⟨[.onAuthenticationFailed], htrace, .failed⟩
      · exact ⟨[.onAuthenticationFailed, .onLockoutPermanent], htrace, .lockedOut (.inl rfl)⟩
      · exact ⟨[.onAuthenticationFailed, .onLockoutTimed ms], htrace,
          .lockedOut (.inr ⟨ms, rfl⟩)⟩

theorem Attempt.cameraUse {user : Int32} {io : AuthenticateIO} {s s' : State}
    (h : Attempt user io s s')
    (hs : s.world.trace = []) {e : Enrollment}
    (hload : Enrollment.load s.storage.enrollmentFile = .ok e) :
    ∃ last, AuthOutcome last ∧ CameraUse Callback.IsAuthReport s'.world.trace last := by
  cases h with
  | terminated load => rw [load] at hload; cases hload
  | @refused _ c keeps refusal trace =>
      rw [trace, hs, List.nil_append]
      refine ⟨[c], ?_, .unused [c]⟩
      rcases refusal with rfl | ⟨ms, rfl⟩ | ⟨er, rfl⟩
      · exact .rejected (.inl rfl)
      · exact .rejected (.inr ⟨ms, rfl⟩)
      · exact .error er
  | @frameless _ _ _ started er load admitted keeps trace =>
      rw [trace, hs, List.nil_append]
      refine ⟨[.onError er], .error er, ?_⟩
      cases started with
      | false => exact .failed _ [.onError er]
      | true => exact .of_loop (.nil : LoopEvents 0 []) (by simp) [.onError er]
  | @ran e s₁ s₂ evs matched compared error failElapsed load admitted keeps trace loop =>
      obtain ⟨last, htrace, hlast⟩ :=
        (conclude_conclusion s₂ user e.enrollmentId failElapsed matched compared error).outcome
      refine ⟨last, hlast, ?_⟩
      rw [htrace, trace, hs, List.nil_append]
      have huse := CameraUse.of_loop (t := s₁.world.now) loop.events loop.reports last
      rwa [List.append_cons evs, ← List.cons_append] at huse

theorem Enrolling.cameraUse {user : Int32} {io : EnrollIO} {s s' : State}
    (h : Enrolling user io s s') (hs : s.world.trace = []) {e : Enrollment}
    (hload : Enrollment.load s.storage.enrollmentFile = .ok e) :
    ∃ last, EnrollOutcome io.enrollmentId.toEnrollmentId last ∧
      CameraUse Callback.IsEnrollReport s'.world.trace last := by
  cases h with
  | terminated load => rw [load] at hload; cases hload
  | @refused _ er keeps trace =>
      rw [trace, hs, List.nil_append]
      exact ⟨[.onError er], .error er, .unused [.onError er]⟩
  | @frameless _ _ _ _ started er load vacant keeps shrinks trace =>
      rw [trace, hs, List.nil_append]
      refine ⟨[.onError er], .error er, ?_⟩
      cases started with
      | false => exact .failed _ [.onError er]
      | true => exact .of_loop (.nil : LoopEvents 0 []) (by simp) [.onError er]
  | @failed _ _ _ _ _ _ er load vacant keeps failure loop trace =>
      rw [trace, hs, List.nil_append]
      exact ⟨[.onError er], .error er, .of_loop loop.events loop.reports [.onError er]⟩
  | finished load vacant keeps success loop hcaptured trace =>
      rw [trace, hs, List.nil_append]
      exact ⟨[.onEnrollmentFrame .good .enrollmentFinished,
        .onEnrollmentProgress io.enrollmentId.toEnrollmentId 0], .finished,
        .of_loop loop.events loop.reports [_, _]⟩

theorem Ends.of_cameraUse {report : Callback → Prop} {Outcome : List Callback → Prop}
    {s' : State} {last : List Callback} (hlast : Outcome last)
    (huse : CameraUse report s'.world.trace last) (hstopped : s'.world.camera.running = false) :
    Ends report Outcome s' where
  ended := by
    obtain ⟨reports, hcallbacks, hreports⟩ := huse.reported
    exact ⟨reports, last, hcallbacks, hreports, hlast, huse⟩
  stopped := hstopped

/-- A process that starts on a device, whatever the device has stored. -/
def State.Started (s : State) : Prop :=
  ∃ (device : State) (available : Bool), s = device.restarted available

theorem running_of_reachable {s : State} (h : Machine.Reachable step State.Started s) :
    s.world.camera.running = false := by
  refine h.invariant (I := fun s => s.world.camera.running = false) ?_ running_step
  rintro s ⟨device, available, rfl⟩
  rfl

/-- Whatever the environment does, an operation whose record can be read ends in exactly
one way: an authentication reports one outcome, with a lockout after a failure or for a
rejection only, an enrollment reports one terminal callback as its last, and the camera,
if it was started, has been stopped before that. -/
theorem operation_ends {s : State} (h : Machine.Reachable step State.Started s) {e : Enrollment}
    (hload : Enrollment.load s.storage.enrollmentFile = .ok e) {i : ℕ} {session : Session}
    (hi : s.sessions[i]? = some session) :
    (∀ io, Ends Callback.IsAuthReport AuthOutcome (step s (.op i (.authenticate io)))) ∧
      ∀ challenge preview io, Ends Callback.IsEnrollReport
        (EnrollOutcome io.enrollmentId.toEnrollmentId)
        (step s (.op i (.enroll challenge preview io))) := by
  have hrunning := running_of_reachable h
  have hstep (op : Op) : step s (.op i op) = runOp i session op s.begin := by
    simp only [step, hi]
  have hstopped (op : Op) : (step s (.op i op)).world.camera.running = false :=
    running_step s (.op i op) hrunning
  refine ⟨fun io => ?_, fun challenge preview io => ?_⟩
  · obtain ⟨last, hlast, huse⟩ :=
      (doAuthenticate_attempt session.mUserId io s.begin).cameraUse rfl hload
    refine .of_cameraUse hlast ?_ (hstopped _)
    rw [hstep]
    exact huse
  · obtain ⟨last, hlast, huse⟩ :=
      (doEnroll_enrolling session challenge preview io s.begin).cameraUse rfl hload
    refine .of_cameraUse hlast ?_ (hstopped _)
    rw [hstep]
    exact huse

/-- A user who has enrolled authenticates, and one with a challenge enrolls. -/
theorem operation_ends_withUser :
    (∀ io, Ends Callback.IsAuthReport AuthOutcome
        (step (State.withUser true true) (.op 0 (.authenticate io)))) ∧
      ∀ preview io, Ends Callback.IsEnrollReport (EnrollOutcome io.enrollmentId.toEnrollmentId)
        (step
          (step (step (State.new true true) (.createSession 0)) (.op 0 (.generateChallenge .one)))
          (.op 0 (.enroll 1 preview io))) := by
  have hnew : Machine.Reachable step State.Started (State.new true true) :=
    ⟨_, [], ⟨{ useTee := true }, true, rfl⟩, rfl⟩
  constructor
  · have hreachable : Machine.Reachable step State.Started (State.withUser true true) :=
      hnew.run (.createSession 0 :: enrollSteps 0)
    have hfile : (State.withUser true true).storage.enrollmentFile =
        some (Enrollment.text ⟨0, 1, 1, true, kStAuthTee⟩) := by decide +kernel
    have hload : Enrollment.load (State.withUser true true).storage.enrollmentFile =
        .ok ⟨0, 1, 1, true, kStAuthTee⟩ := by
      rw [hfile]
      exact Enrollment.load_text (by simp [IsWord, kStAuthTee, Text.isSpace])
    have hsession : (State.withUser true true).sessions[0]? = some ⟨0, [1]⟩ := by decide +kernel
    exact (operation_ends hreachable hload hsession).1
  · have hchallenged := hnew.run [.createSession 0, .op 0 (.generateChallenge .one)]
    exact (operation_ends hchallenged rfl rfl).2 1

end OneplusHal.Face

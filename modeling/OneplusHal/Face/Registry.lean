import OneplusHal.Face.AuthenticatorId
import OneplusHal.Face.EnrollAtomic
import OneplusHal.Face.MatchedTemplate
import OneplusHal.Face.Removal
import OneplusHal.Lib.Refinement

/-!
What the service is for: a registry with room for one enrollment.

The registry knows neither engines nor templates nor files. `Responds` says what it may answer to a
request, and what it is afterwards. The service answers as the registry does, as long as a write of
the record either succeeds or leaves the old one, and the writes whose result nobody looks at
succeed.
-/

namespace OneplusHal.Face

open OneplusHal

/-! ### The registry -/

structure Entry where
  user : Int32
  enrollmentId : Int32
  authenticatorId : Int64
  requireAttention : Bool

abbrev Registry := Option Entry

/-- The enrollment of the user. -/
def Registry.own (r : Registry) (user : Int32) : Option Entry := r.filter fun e => e.user = user

/-- What a session is asked. -/
inductive Registry.Request
  | enroll
  | authenticate
  | enumerate
  | remove (ids : List Int32)
  | getFeatures
  | setFeature (feature : Feature) (enabled : Bool)
  | getAuthenticatorId
  | invalidateAuthenticatorId
  /-- a request that has nothing to do with the enrollment -/
  | other

/-- The registry may answer the user with the callbacks, and is another one afterwards. -/
inductive Responds (user : Int32) : Registry → Registry.Request → List Callback → Registry → Prop
  | enrolled {id : Int32} {authenticatorId : Int64} {cs : List Callback}
      (hid : authenticatorId ≠ 0) (hcs : cs.getLast? = some (.onEnrollmentProgress id 0)) :
      Responds user none .enroll cs (some ⟨user, id, authenticatorId, true⟩)
  | notEnrolled {r : Registry} {cs : List Callback} {er : Error}
      (hcs : cs.getLast? = some (.onError er)) : Responds user r .enroll cs r
  | authenticated {r : Registry} {cs : List Callback}
      (hcs : ∀ id, .onAuthenticationSucceeded id ∈ cs →
        (r.own user).map Entry.enrollmentId = some id) : Responds user r .authenticate cs r
  | enumerated {r : Registry} : Responds user r .enumerate
      [.onEnrollmentsEnumerated ((r.own user).map Entry.enrollmentId).toList] r
  | removed {r : Registry} {e : Entry} {ids : List Int32} (he : r.own user = some e)
      (hids : e.enrollmentId ∈ ids) : Responds user r (.remove ids) [.onEnrollmentsRemoved ids] none
  | notRemoved {r : Registry} {e : Entry} {ids : List Int32} (he : r.own user = some e)
      (hids : e.enrollmentId ∈ ids) : Responds user r (.remove ids) [.onError .unableToRemove] r
  | nothingToRemove {r : Registry} {ids : List Int32}
      (he : ∀ e ∈ r.own user, e.enrollmentId ∉ ids) :
      Responds user r (.remove ids) [.onEnrollmentsRemoved ids] r
  | features {r : Registry} {e : Entry} (he : r.own user = some e) :
      Responds user r .getFeatures
        [.onFeaturesRetrieved (if e.requireAttention then [.requireAttention] else [])] r
  | noFeatures {r : Registry} (he : r.own user = none) :
      Responds user r .getFeatures [.onError .unableToProcess] r
  | featureSet {r : Registry} {e : Entry} {enabled : Bool} (he : r.own user = some e) :
      Responds user r (.setFeature .requireAttention enabled) [.onFeatureSet .requireAttention]
        (some { e with requireAttention := enabled })
  | featureNotSet {r : Registry} {feature : Feature} {enabled : Bool} :
      Responds user r (.setFeature feature enabled) [.onError .unableToProcess] r
  | authenticatorId {r : Registry} : Responds user r .getAuthenticatorId
      [.onAuthenticatorIdRetrieved (((r.own user).map Entry.authenticatorId).getD 0)] r
  | invalidated {r : Registry} {e : Entry} {id : Int64} (he : r.own user = some e) (hid : id ≠ 0) :
      Responds user r .invalidateAuthenticatorId [.onAuthenticatorIdInvalidated id]
        (some { e with authenticatorId := id })
  | nothingToInvalidate {r : Registry} (he : r.own user = none) :
      Responds user r .invalidateAuthenticatorId [.onAuthenticatorIdInvalidated 0] r
  | other {r : Registry} {cs : List Callback} : Responds user r .other cs r

/-- A request, and what was heard of it. -/
structure Exchange where
  user : Int32
  request : Registry.Request
  heard : List Callback

def Registry.Transition (r : Registry) (x : Exchange) (r' : Registry) : Prop :=
  Responds x.user r x.request x.heard r'

namespace Exchange

/-- The user's enrollment is reported to be finished. -/
def Enrolls (user id : Int32) (x : Exchange) : Prop :=
  x.user = user ∧ x.request = .enroll ∧ x.heard.getLast? = some (.onEnrollmentProgress id 0)

/-- The user's enrollment is reported to be removed. -/
def Removes (user id : Int32) (x : Exchange) : Prop :=
  ∃ ids, id ∈ ids ∧ x = ⟨user, .remove ids, [.onEnrollmentsRemoved ids]⟩

end Exchange

theorem Registry.own_eq_some {r : Registry} {user : Int32} {e : Entry} :
    r.own user = some e ↔ r = some e ∧ e.user = user := by
  simp [Registry.own, Option.filter_eq_some_iff]

/-- The registry holds an enrollment of the user. -/
def Registry.Holds (user id : Int32) (r : Registry) : Prop :=
  ∃ e, r.own user = some e ∧ e.enrollmentId = id

/-- The registry recognizes only the user that it holds. -/
theorem Responds.holds_of_succeeded {user id : Int32} {r r' : Registry} {cs : List Callback}
    (h : Responds user r .authenticate cs r') (hid : .onAuthenticationSucceeded id ∈ cs) :
    r.Holds user id := by
  cases h with
  | authenticated hcs => exact Option.map_eq_some_iff.mp (hcs id hid)

/-- An enrollment in the registry has been enrolled, or was there before and is not removed. -/
theorem Registry.Transition.holds {user id : Int32} {r r' : Registry} {x : Exchange}
    (h : r.Transition x r') (hr' : r'.Holds user id) :
    x.Enrolls user id ∨ (r.Holds user id ∧ ¬x.Removes user id) := by
  obtain ⟨other, request, heard⟩ := x
  obtain ⟨e', hown, rfl⟩ := hr'
  obtain ⟨hr', rfl⟩ := Registry.own_eq_some.mp hown
  -- An entry that was there before with the same ids.
  have hkept {e : Entry} (he : r.own other = some e) (huser : e.user = e'.user)
      (hid : e.enrollmentId = e'.enrollmentId) : r.Holds e'.user e'.enrollmentId :=
    ⟨e, Registry.own_eq_some.mpr ⟨(Registry.own_eq_some.mp he).1, huser⟩, hid⟩
  have hnot (hrequest : ∀ ids, request ≠ .remove ids) :
      ¬Exchange.Removes e'.user e'.enrollmentId ⟨other, request, heard⟩ := by
    rintro ⟨ids, -, hx⟩
    exact hrequest ids (congrArg Exchange.request hx)
  dsimp only [Registry.Transition] at h
  cases h with
  | enrolled hid hcs =>
      cases hr'
      exact .inl ⟨rfl, rfl, hcs⟩
  | removed he hids => cases hr'
  | featureSet he =>
      cases hr'
      exact .inr ⟨hkept he rfl rfl, hnot nofun⟩
  | invalidated he hid =>
      cases hr'
      exact .inr ⟨hkept he rfl rfl, hnot nofun⟩
  | nothingToRemove he =>
      refine .inr ⟨⟨e', hown, rfl⟩, ?_⟩
      rintro ⟨ids, hids, hx⟩
      cases hx
      exact he e' hown hids
  | notRemoved he hids =>
      refine .inr ⟨⟨e', hown, rfl⟩, ?_⟩
      rintro ⟨ids, -, hx⟩
      cases hx
  | _ => exact .inr ⟨⟨e', hown, rfl⟩, hnot nofun⟩

/-! ### The service -/

def Enrollment.entry (e : Enrollment) : Entry :=
  ⟨e.userId, e.enrollmentId, e.authenticatorId, e.requireAttention⟩

/-- The registry that the record on file stands for. -/
def State.registry (s : State) : Registry :=
  match Enrollment.load s.storage.enrollmentFile with
  | .ok e => if 0 ≤ e.userId then some e.entry else none
  | .error _ => none

def Op.request : Op → Registry.Request
  | .enroll _ _ _ => .enroll
  | .authenticate _ => .authenticate
  | .enumerateEnrollments => .enumerate
  | .removeEnrollments ids _ => .remove ids
  | .getFeatures => .getFeatures
  | .setFeature feature enabled _ => .setFeature feature enabled
  | .getAuthenticatorId => .getAuthenticatorId
  | .invalidateAuthenticatorId _ _ => .invalidateAuthenticatorId
  | _ => .other

/-- What a session asks in a step, and hears. -/
def exchange (s : State) : Step → Option Exchange
  | .op i op =>
      s.sessions[i]?.map fun session => ⟨session.mUserId, op.request, heard s (.op i op)⟩
  | _ => none

/-- Users are not negative, a write of the record leaves the old one or the new one, and those
writes and deletions of it whose result is not looked at succeed. -/
def Steady (_ : State) : Step → Prop
  | .createSession user => 0 ≤ user
  | .op _ (.setFeature _ _ io) => io.write ≠ .writeFailed
  | .op _ (.invalidateAuthenticatorId _ io) => io.write = .written
  | .op _ (.removeEnrollments _ io) => io.save.unlinkFails = false
  | _ => True

theorem registry_congr {s s' : State}
    (h : s'.storage.enrollmentFile = s.storage.enrollmentFile) : s'.registry = s.registry := by
  rw [State.registry, State.registry, h]

theorem registry_of_none {s : State} (h : s.storage.enrollmentFile = none) :
    s.registry = none := by
  rw [State.registry, h]
  rfl

theorem registry_of_text {s : State} {e : Enrollment} (hengine : IsWord e.engine)
    (huser : 0 ≤ e.userId) (h : s.storage.enrollmentFile = some e.text) :
    s.registry = some e.entry := by
  rw [State.registry, h, Enrollment.load_text hengine]
  exact if_pos huser

theorem registry_of_load {s : State} {e : Enrollment}
    (load : Enrollment.load s.storage.enrollmentFile = .ok e) :
    s.registry = if 0 ≤ e.userId then some e.entry else none := by
  rw [State.registry, load]

section

variable {s : State} {e : Enrollment} {i : ℕ} {session : Session}

theorem own_registry (load : Enrollment.load s.storage.enrollmentFile = .ok e) {user : Int32}
    (huser : 0 ≤ user) :
    s.registry.own user = if e.userId = user then some e.entry else none := by
  rw [registry_of_load load]
  by_cases hsame : e.userId = user
  · rw [if_pos hsame, if_pos (hsame ▸ huser)]
    exact Registry.own_eq_some.mpr ⟨rfl, hsame⟩
  · rw [if_neg hsame]
    split
    · exact Option.filter_some_neg (decide_eq_false hsame)
    · rfl

theorem own_registry_map (load : Enrollment.load s.storage.enrollmentFile = .ok e) {user : Int32}
    (huser : 0 ≤ user) {α : Type} (f : Entry → α) :
    (s.registry.own user).map f = if e.userId = user then some (f e.entry) else none := by
  rw [own_registry load huser]
  split <;> rfl

theorem responds_enumerate (load : Enrollment.load s.storage.enrollmentFile = .ok e)
    (hsession : s.sessions[i]? = some session) (huser : 0 ≤ session.mUserId) :
    Responds session.mUserId s.registry .enumerate (heard s (.op i .enumerateEnrollments))
      (step s (.op i .enumerateEnrollments)).registry := by
  have hstep : step s (.op i .enumerateEnrollments) = enumerateWith session.mUserId e s.begin :=
    step_eq_withEnrollment hsession load rfl
  have hheard : heard s (.op i .enumerateEnrollments) = [.onEnrollmentsEnumerated
      ((s.registry.own session.mUserId).map Entry.enrollmentId).toList] := by
    rw [heard, hstep, own_registry_map load huser]
    refine (callbacks_emit rfl _).trans ?_
    split <;> rfl
  rw [hheard, hstep]
  exact .enumerated

theorem responds_getAuthenticatorId (load : Enrollment.load s.storage.enrollmentFile = .ok e)
    (hsession : s.sessions[i]? = some session) (huser : 0 ≤ session.mUserId) :
    Responds session.mUserId s.registry .getAuthenticatorId (heard s (.op i .getAuthenticatorId))
      (step s (.op i .getAuthenticatorId)).registry := by
  have hstep : step s (.op i .getAuthenticatorId) =
      getAuthenticatorIdWith session.mUserId e s.begin :=
    step_eq_withEnrollment hsession load rfl
  have hheard : heard s (.op i .getAuthenticatorId) = [.onAuthenticatorIdRetrieved
      (((s.registry.own session.mUserId).map Entry.authenticatorId).getD 0)] := by
    rw [heard_getAuthenticatorId load hsession, own_registry_map load huser]
    split <;> rfl
  rw [hheard, hstep]
  exact .authenticatorId

theorem responds_getFeatures (load : Enrollment.load s.storage.enrollmentFile = .ok e)
    (hsession : s.sessions[i]? = some session) (huser : 0 ≤ session.mUserId) :
    Responds session.mUserId s.registry .getFeatures (heard s (.op i .getFeatures))
      (step s (.op i .getFeatures)).registry := by
  have hown := own_registry load huser
  have hstep : step s (.op i .getFeatures) = getFeaturesWith session.mUserId e s.begin :=
    step_eq_withEnrollment hsession load rfl
  rw [heard, hstep, getFeaturesWith]
  split
  · rename_i hother
    rw [if_neg hother] at hown
    rw [callbacks_emit rfl]
    exact .noFeatures hown
  · rename_i hsame
    rw [if_pos (not_not.mp hsame)] at hown
    rw [callbacks_emit rfl]
    exact .features hown

theorem responds_setFeature (hs : Consistent s)
    (load : Enrollment.load s.storage.enrollmentFile = .ok e)
    (hsession : s.sessions[i]? = some session) (huser : 0 ≤ session.mUserId) {feature : Feature}
    {enabled : Bool} {io : SaveIO} (hwrite : io.write ≠ .writeFailed) :
    Responds session.mUserId s.registry (.setFeature feature enabled)
      (heard s (.op i (.setFeature feature enabled io)))
      (step s (.op i (.setFeature feature enabled io))).registry := by
  have hown := own_registry load huser
  have hstep : step s (.op i (.setFeature feature enabled io)) =
      setFeatureWith session.mUserId feature enabled io e s.begin :=
    step_eq_withEnrollment hsession load rfl
  by_cases hdone : e.userId ≠ session.mUserId ∨ feature ≠ .requireAttention
  · rw [setFeatureWith, if_pos hdone] at hstep
    rw [heard, hstep, callbacks_emit rfl]
    exact .featureNotSet
  obtain ⟨hsame, rfl⟩ : e.userId = session.mUserId ∧ feature = .requireAttention := by
    simpa only [not_or, not_not] using hdone
  have henrolled : 0 ≤ e.userId := hsame ▸ huser
  rw [if_pos hsame] at hown
  rw [setFeatureWith, if_neg hdone, Enrollment.save, if_neg (Int32.not_lt.mpr henrolled)] at hstep
  cases hio : io.write with
  | writeFailed => exact absurd hio hwrite
  | openFailed =>
      rw [hio] at hstep
      rw [heard, hstep]
      exact .featureNotSet
  | written =>
      rw [hio] at hstep
      obtain ⟨en, hrecord⟩ := hs.recorded load henrolled
      have hregistry := registry_of_text (e := { e with requireAttention := enabled })
        (hrecord.engine ▸ isWord_engine en.store) henrolled
        (congrArg (fun s => s.storage.enrollmentFile) hstep)
      rw [hregistry, heard, hstep]
      exact .featureSet hown

theorem responds_invalidate (hs : Consistent s)
    (load : Enrollment.load s.storage.enrollmentFile = .ok e)
    (hsession : s.sessions[i]? = some session) (huser : 0 ≤ session.mUserId) {r : RandomId}
    {io : SaveIO} (hwrite : io.write = .written) :
    Responds session.mUserId s.registry .invalidateAuthenticatorId
      (heard s (.op i (.invalidateAuthenticatorId r io)))
      (step s (.op i (.invalidateAuthenticatorId r io))).registry := by
  have hown := own_registry load huser
  by_cases hsame : e.userId = session.mUserId
  · have henrolled : 0 ≤ e.userId := hsame ▸ huser
    obtain ⟨hheard, -, hfile⟩ := step_invalidate r io load henrolled hsession hsame.symm
    obtain ⟨en, hrecord⟩ := hs.recorded load henrolled
    have hengine : IsWord e.engine := hrecord.engine ▸ isWord_engine en.store
    rw [if_pos hsame] at hown
    rw [hwrite, writeStringToFile] at hfile
    rw [heard, hheard, registry_of_text (e := { e with authenticatorId := r.value }) hengine
      henrolled hfile]
    exact .invalidated hown r.ne_zero
  · rw [if_neg hsame] at hown
    have hstep : step s (.op i (.invalidateAuthenticatorId r io)) =
        invalidateWith session.mUserId r io e s.begin :=
      step_eq_withEnrollment hsession load rfl
    rw [heard, hstep, invalidateWith, if_pos hsame, callbacks_emit rfl]
    exact .nothingToInvalidate hown

theorem responds_remove (load : Enrollment.load s.storage.enrollmentFile = .ok e)
    (hsession : s.sessions[i]? = some session) (huser : 0 ≤ session.mUserId) {ids : List Int32}
    {io : RemoveIO} (hunlink : io.save.unlinkFails = false) :
    Responds session.mUserId s.registry (.remove ids)
      (heard s (.op i (.removeEnrollments ids io)))
      (step s (.op i (.removeEnrollments ids io))).registry := by
  have hown := own_registry load huser
  by_cases hnamed : e.userId = session.mUserId ∧ e.enrollmentId ∈ ids
  · obtain ⟨hsame, hids⟩ := hnamed
    rw [if_pos hsame] at hown
    have hnames : Names s i ids e := ⟨load, by rw [hsession, hsame]; rfl, hids⟩
    cases hnames.removal io with
    | failed template callbacks storage =>
        have hfile := (removeFeature_removed io.feature s.begin).shrinks.enrollmentFile
        rw [heard, callbacks, registry_congr (s := s) ((congrArg _ storage).trans hfile)]
        exact .notRemoved hown hids
    | done template callbacks storage sessions =>
        rw [hunlink] at storage
        rw [heard, callbacks, registry_of_none (congrArg Storage.enrollmentFile storage)]
        exact .removed hown hids
  · have hother : e.userId ≠ session.mUserId ∨ e.enrollmentId ∉ ids := by
      rwa [not_and_or] at hnamed
    have hstep : step s (.op i (.removeEnrollments ids io)) =
        removeWith session.mUserId ids io e s.begin :=
      step_eq_withEnrollment hsession load rfl
    rw [heard, hstep, removeWith, if_pos hother, callbacks_emit rfl]
    refine .nothingToRemove fun e' he' => ?_
    rw [hown] at he'
    split at he'
    · rename_i hsame
      cases he'
      exact hother.resolve_left (not_not_intro hsame)
    · cases he'

theorem responds_authenticate (load : Enrollment.load s.storage.enrollmentFile = .ok e)
    (hsession : s.sessions[i]? = some session) (huser : 0 ≤ session.mUserId)
    {io : AuthenticateIO} :
    Responds session.mUserId s.registry .authenticate (heard s (.op i (.authenticate io)))
      (step s (.op i (.authenticate io))).registry := by
  have hstep : step s (.op i (.authenticate io)) = doAuthenticate session.mUserId io s.begin := by
    simp only [step, hsession]
    rfl
  have hattempt := doAuthenticate_attempt session.mUserId io s.begin
  rw [heard, hstep, registry_congr (s := s) (congrArg _ hattempt.keeps.storage)]
  refine .authenticated fun id hid => ?_
  obtain ⟨e', hsuccess⟩ := hattempt.success rfl hid
  have hsame : e' = e := Except.ok.inj (hsuccess.load.symm.trans load)
  rw [own_registry_map load huser, ← hsame, if_pos hsuccess.userId]
  exact congrArg some hsuccess.enrollmentId

end

/-- An enrollment, whatever comes of it. -/
theorem Enrolling.responds {user : Int32} {io : EnrollIO} {s s' : State}
    (h : Enrolling user io s s') (hs : Consistent s) (huser : 0 ≤ user) :
    Responds user s.registry .enroll s'.callbacks s'.registry := by
  by_cases hfile : s.storage.enrollmentFile = none
  case neg =>
    obtain ⟨⟨er, hlast⟩, hstorage⟩ := h.refused_of_record hs hfile
    rw [registry_congr (congrArg Storage.enrollmentFile hstorage)]
    exact .notEnrolled hlast
  -- What an attempt that fails without a record leaves.
  have hfailed {er : Error} {before : List Event}
      (htrace : s'.world.trace = before ++ [.callback (.onError er)])
      (hnone : s'.storage.enrollmentFile = none) :
      Responds user s.registry .enroll s'.callbacks s'.registry := by
    rw [registry_of_none hfile, registry_of_none hnone]
    exact .notEnrolled (getLast?_callbacks htrace)
  cases h with
  | terminated load =>
      rw [hfile] at load
      cases load
  | refused keeps trace =>
      exact hfailed trace ((congrArg Storage.enrollmentFile keeps.storage).trans hfile)
  | @frameless _ st _ _ started er load vacant keeps shrinks trace =>
      rw [← List.cons_append, ← List.append_assoc] at trace
      have hstorage : s'.storage = st := keeps.storage
      exact hfailed trace (hstorage ▸ shrinks.enrollmentFile.trans hfile)
  | @failed _ st _ t evs _ er load vacant keeps failure loop trace =>
      have hlast : s'.world.trace = s.world.trace ++
          (.cameraStarted t true :: (evs ++ [.cameraStopped])) ++ [.callback (.onError er)] := by
        simpa using trace
      have hstorage : s'.storage = st := keeps.storage
      refine hfailed hlast ?_
      rw [hstorage]
      exact failure.enrollmentFile.elim (fun hsame => hsame.trans hfile) id
  | @finished e st _ t evs _ load vacant keeps success loop hcaptured trace =>
      have hlast : s'.world.trace = s.world.trace ++ (.cameraStarted t true :: (evs ++
          [.cameraStopped, .callback (.onEnrollmentFrame .good .enrollmentFinished)])) ++
            [.callback (.onEnrollmentProgress io.enrollmentId.toEnrollmentId 0)] := by
        simpa using trace
      have hrecord : s'.storage.enrollmentFile =
          some (newEnrollment user e io (engineName s)).text := by
        rw [keeps.storage]
        exact success.enrollmentFile.trans (if_neg (Int32.not_lt.mpr huser))
      rw [hfile] at load
      cases load
      have hengine : IsWord (newEnrollment user {} io (engineName s)).engine :=
        engineName_eq_engine s ▸ isWord_engine s.currentStore
      rw [registry_of_none hfile, registry_of_text hengine huser hrecord]
      exact .enrolled io.authenticatorId.ne_zero (getLast?_callbacks hlast)

theorem responds_enroll {s : State} {i : ℕ} {session : Session} (hs : Consistent s)
    (hsession : s.sessions[i]? = some session) (huser : 0 ≤ session.mUserId) {challenge : Int64}
    {preview : Bool} {io : EnrollIO} :
    Responds session.mUserId s.registry .enroll (heard s (.op i (.enroll challenge preview io)))
      (step s (.op i (.enroll challenge preview io))).registry := by
  have hstep : step s (.op i (.enroll challenge preview io)) =
      (doEnroll session challenge preview io s.begin).counted := by
    simp only [step, hsession]
    rfl
  rw [heard, hstep]
  have hbegin : Consistent s.begin := Carries.consistent hs (.of_storage rfl rfl le_rfl)
  exact (doEnroll_enrolling session challenge preview io s.begin).responds hbegin huser

/-! ### Every run -/

/-- What the service keeps to. -/
structure Registered (s : State) : Prop where
  consistent : Consistent s
  users : ∀ session ∈ s.sessions, 0 ≤ session.mUserId

theorem Registered.responds {s : State} (h : Registered s) {i : ℕ} {op : Op} {session : Session}
    (hsession : s.sessions[i]? = some session) (hsteady : Steady s (.op i op)) :
    Responds session.mUserId s.registry op.request (heard s (.op i op))
      (step s (.op i op)).registry := by
  have huser := h.users session (List.mem_of_getElem? hsession)
  obtain ⟨e, load⟩ : ∃ e, Enrollment.load s.storage.enrollmentFile = .ok e := by
    obtain ⟨-, hload⟩ | ⟨e, -, -, hload⟩ := h.consistent.load
    · exact ⟨_, hload⟩
    · exact ⟨e, hload⟩
  have hother (hfile : (runOp i session op s.begin).storage.enrollmentFile =
      s.storage.enrollmentFile) (hrequest : op.request = .other) :
      Responds session.mUserId s.registry op.request (heard s (.op i op))
        (step s (.op i op)).registry := by
    have hstep : step s (.op i op) = runOp i session op s.begin := by
      simp only [step, hsession]
    have hregistry : (step s (.op i op)).registry = s.registry := registry_congr (hstep ▸ hfile)
    rw [hrequest, hregistry]
    exact .other
  cases op with
  | enroll challenge preview io => exact responds_enroll h.consistent hsession huser
  | authenticate io => exact responds_authenticate load hsession huser
  | enumerateEnrollments => exact responds_enumerate load hsession huser
  | removeEnrollments ids io => exact responds_remove load hsession huser hsteady
  | getFeatures => exact responds_getFeatures load hsession huser
  | setFeature feature enabled io =>
      exact responds_setFeature h.consistent load hsession huser hsteady
  | getAuthenticatorId => exact responds_getAuthenticatorId load hsession huser
  | invalidateAuthenticatorId r io =>
      exact responds_invalidate h.consistent load hsession huser hsteady
  | _ => exact hother rfl rfl

theorem users_step {s : State} (h : ∀ session ∈ s.sessions, 0 ≤ session.mUserId) {st : Step}
    (hsteady : Steady s st) : ∀ session ∈ (step s st).sessions, 0 ≤ session.mUserId := by
  cases st with
  | createSession user =>
      intro session hsession
      obtain hsession | hsession := List.mem_append.mp hsession
      · exact h session hsession
      · rw [List.mem_singleton.mp hsession]
        exact hsteady
  | op i op =>
      cases hsession : s.sessions[i]? with
      | none =>
          simp only [step, hsession]
          exact h
      | some session =>
          simp only [step, hsession]
          rw [sessions_runOp (s := s.begin) op hsession]
          intro session' hsession'
          obtain hsession' | rfl := List.mem_or_eq_of_mem_set hsession'
          · exact h session' hsession'
          · rw [mUserId_updated]
            exact h session (List.mem_of_getElem? hsession)
  | setTeeProperty tee => exact h
  | restart available => exact fun _ hsession => absurd hsession List.not_mem_nil
  | wait elapsed => exact h

theorem Registered.step {s : State} (h : Registered s) {st : Step} (hsteady : Steady s st) :
    Refinement.Moves Registry.Transition s.registry (exchange s st) (Face.step s st).registry ∧
      Registered (Face.step s st) := by
  refine ⟨?_, consistent_step s st h.consistent, users_step h.users hsteady⟩
  cases st with
  | op i op =>
      cases hsession : s.sessions[i]? with
      | none =>
          simp only [exchange, hsession]
          show (Face.step s (.op i op)).registry = s.registry
          simp only [Face.step, hsession]
          rfl
      | some session =>
          simp only [exchange, hsession]
          exact h.responds hsession hsteady
  | _ => exact registry_congr rfl

theorem Registered.of_initial {s : State} (h : s.Initial) : Registered s ∧ s.registry = none := by
  refine ⟨⟨Reachable.consistent ⟨s, [], h, rfl⟩, ?_⟩, ?_⟩
  · obtain ⟨available, tee, now, rfl⟩ := h
    exact fun _ hsession => absurd hsession List.not_mem_nil
  · obtain ⟨available, tee, now, rfl⟩ := h
    rfl

/-- What has been asked and heard in a run. -/
def dialogue (s : State) (sts : List Step) : List Exchange :=
  Refinement.labels step exchange s sts

/-- In every run the service answers as the registry does. -/
theorem registry_run {s₀ : State} (h₀ : s₀.Initial) {sts : List Step}
    (hsts : Machine.Along step Steady s₀ sts) :
    Refinement.Run Registry.Transition none (dialogue s₀ sts)
      (Machine.run step s₀ sts).registry := by
  obtain ⟨hregistered, hnone⟩ := Registered.of_initial h₀
  rw [← hnone]
  exact Refinement.refines (fun _ _ h hsteady => h.step hsteady) hregistered hsts

theorem steady_enrollSteps :
    Machine.Along step Steady (.new false true) (.createSession 0 :: enrollSteps 0) :=
  ⟨show (0 : Int32) ≤ 0 by decide, trivial, trivial, trivial⟩

theorem registry_run_withUser :
    Refinement.Run Registry.Transition none
      (dialogue (.new false true) (.createSession 0 :: enrollSteps 0))
      (State.withUser false true).registry :=
  registry_run (State.new_initial false true) steady_enrollSteps

/-- Who is recognized has enrolled before, under the id that is reported, and has not been told
since that the enrollment is removed. -/
theorem succeeded_enrolled {s₀ : State} (h₀ : s₀.Initial) {sts : List Step}
    (hsts : Machine.Along step Steady s₀ sts) {i : ℕ} {io : AuthenticateIO} {user id : Int32}
    (huser : stepUser (Machine.run step s₀ sts) (.op i (.authenticate io)) = some user)
    (hid : .onAuthenticationSucceeded id ∈
      heard (Machine.run step s₀ sts) (.op i (.authenticate io))) :
    ∃ before x after, dialogue s₀ sts = before ++ x :: after ∧ x.Enrolls user id ∧
      ∀ y ∈ after, ¬y.Removes user id := by
  obtain ⟨session, hsession, rfl⟩ := stepUser_eq_some.mp huser
  have hregistered : Registered (Machine.run step s₀ sts) :=
    hsts.invariant (fun _ _ h hsteady => (h.step hsteady).2) (Registered.of_initial h₀).1
  have hresponds : Responds session.mUserId _ .authenticate _ _ :=
    hregistered.responds hsession (show Steady _ (.op i (.authenticate io)) from trivial)
  refine (registry_run h₀ hsts).since (fun _ _ _ h => h.holds) ?_ (hresponds.holds_of_succeeded hid)
  rintro ⟨e, hnone, -⟩
  cases hnone

theorem succeeded_enrolled_withUser :
    ∃ before x after,
      dialogue (.new false true) (.createSession 0 :: enrollSteps 0) = before ++ x :: after ∧
        x.Enrolls 0 1 ∧ ∀ y ∈ after, ¬y.Removes 0 1 :=
  succeeded_enrolled (i := 0) (State.new_initial false true) steady_enrollSteps
    (show stepUser _ (.op 0 (.authenticate .quiet)) = some 0 by decide +kernel) (by decide +kernel)

end OneplusHal.Face

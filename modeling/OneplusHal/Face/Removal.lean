import OneplusHal.Face.Provenance

/-!
Removing an enrollment: that it is gone afterwards, that it can be tried again, and what
a failed attempt has destroyed already.

A removal deletes a template from the store in use now, and then the record. Neither
deletion looks at where the enrollment put its template, and the result of the second
one is dropped.
-/

namespace OneplusHal.Face

open OneplusHal

/-- Session `i` names the enrollment `e` on record, which is its user's. -/
structure Names (s : State) (i : ℕ) (ids : List Int32) (e : Enrollment) : Prop where
  load : Enrollment.load s.storage.enrollmentFile = .ok e
  session : s.sessions[i]?.map Session.mUserId = some e.userId
  named : e.enrollmentId ∈ ids

/-- How a removal that names the enrollment on record can go. -/
inductive Removal (s : State) (ids : List Int32) (io : RemoveIO) (s' : State) : Prop
  | failed (template : (removeFeature io.feature s).1 = false)
      (callbacks : s'.callbacks = [.onError .unableToRemove])
      (storage : s'.storage = (removeFeature io.feature s).2.storage)
  | done (template : (removeFeature io.feature s).1 = true)
      (callbacks : s'.callbacks = [.onEnrollmentsRemoved ids])
      (storage : s'.storage = { (removeFeature io.feature s).2.storage with
        enrollmentFile := (unlink io.save.unlinkFails s.storage.enrollmentFile).2 })
      (sessions : s'.sessions = s.sessions)

theorem step_eq_withEnrollment {s : State} {i : ℕ} {session : Session} {op : Op}
    {f : Enrollment → State → State} {e : Enrollment} (hsession : s.sessions[i]? = some session)
    (load : Enrollment.load s.storage.enrollmentFile = .ok e)
    (hop : runOp i session op s.begin = s.begin.withEnrollment f) :
    step s (.op i op) = f e s.begin := by
  have hload : Enrollment.load s.begin.storage.enrollmentFile = .ok e := load
  simp only [step, hsession, hop, State.withEnrollment, hload]

theorem Names.removal {s : State} {i : ℕ} {ids : List Int32} {e : Enrollment}
    (h : Names s i ids e) (io : RemoveIO) :
    Removal s.begin ids io (step s (.op i (.removeEnrollments ids io))) := by
  obtain ⟨session, hsession, huser⟩ := Option.map_eq_some_iff.mp h.session
  rw [step_eq_withEnrollment hsession h.load rfl]
  have hown : ¬(e.userId ≠ session.mUserId ∨ e.enrollmentId ∉ ids) := by
    simp [huser, h.named]
  have hworld := world_removeFeature io.feature s.begin
  have hkeeps := removeFeature_keeps io.feature s.begin
  have hfile := (removeFeature_removed io.feature s.begin).shrinks.enrollmentFile
  simp only [removeWith, if_neg hown]
  split
  · rename_i hfailed
    refine .failed (by simpa using hfailed) (callbacks_emit ?_ _) rfl
    rw [hworld]
    rfl
  · rename_i hdone
    refine .done (by simpa using hdone) (callbacks_emit ?_ _) ?_ hkeeps.sessions
    · show (removeFeature io.feature s.begin).2.world.trace = []
      rw [hworld]
      rfl
    · rw [← hfile]
      rfl

/-! ### Gone for good -/

def NoEnroll (_ : State) (st : Step) : Prop :=
  ∀ i challenge preview io, st ≠ .op i (.enroll challenge preview io)

/-- No session of `user` lists `id` any more before somebody enrolls. -/
def NotListed (user id : Int32) (s : State) : Prop :=
  ∀ sts, Machine.Along step NoEnroll s sts →
    let s' := Machine.run step s sts
    ∀ j ids, stepUser s' (.op j .enumerateEnrollments) = some user →
      .onEnrollmentsEnumerated ids ∈ (step s' (.op j .enumerateEnrollments)).callbacks → id ∉ ids

/-- Without enrolling nobody gets a record. -/
theorem noRecord_step (s : State) (st : Step) (h : s.storage.enrollmentFile = none)
    (hst : NoEnroll s st) : (step s st).storage.enrollmentFile = none := by
  cases st with
  | op i op =>
      simp only [step]
      split
      · exact h
      · rename_i session _
        have hop : ∀ challenge preview io, op ≠ .enroll challenge preview io := by
          rintro challenge preview io rfl
          exact hst i challenge preview io rfl
        cases (runOp_carries hop i session s.begin).record with
        | same hfile => exact hfile.trans h
        | gone hfile => exact hfile
        | rewritten load enrolled huser hid hengine hfile =>
            have hnone : s.begin.storage.enrollmentFile = none := h
            rw [hnone] at load
            cases load
            exact absurd enrolled (by decide)
  | _ => exact h

theorem callbacks_enumerate {s : State} {i : ℕ} {user : Int32} {e : Enrollment}
    (hu : stepUser s (.op i .enumerateEnrollments) = some user)
    (load : Enrollment.load s.storage.enrollmentFile = .ok e) :
    (step s (.op i .enumerateEnrollments)).callbacks =
      [.onEnrollmentsEnumerated (if e.userId = user then [e.enrollmentId] else [])] := by
  obtain ⟨session, hsession, rfl⟩ := Option.map_eq_some_iff.mp hu
  rw [step_eq_withEnrollment hsession load rfl]
  exact callbacks_emit rfl _

theorem notListed_of_noRecord {user id : Int32} {s : State} (huser : 0 ≤ user)
    (h : s.storage.enrollmentFile = none) : NotListed user id s := by
  intro sts hsts s' j ids hu hids
  have hnone : s'.storage.enrollmentFile = none := hsts.invariant noRecord_step h
  have load : Enrollment.load s'.storage.enrollmentFile = .ok {} := by
    rw [hnone]
    rfl
  rw [callbacks_enumerate hu load] at hids
  have hne : ({} : Enrollment).userId ≠ user := by
    rintro rfl
    exact absurd huser (by decide)
  rw [if_neg hne] at hids
  simp at hids
  simp [hids]

/-- After any run, a removal that is reported is for good exactly if the record could be
deleted and the store in use is the one that holds the template. -/
theorem removed_for_good_iff {s₀ : State} (h₀ : s₀.Initial) (sts : List Step) {i : ℕ}
    {ids : List Int32} {e : Enrollment} (hnames : Names (Machine.run step s₀ sts) i ids e)
    (henrolled : 0 ≤ e.userId) (io : RemoveIO) :
    let s := Machine.run step s₀ sts
    let s' := step s (.op i (.removeEnrollments ids io))
    ∃ en, s.enrolled = some en ∧ Created s₀ sts e en ∧
      (.onEnrollmentsRemoved ids ∈ s'.callbacks →
        (NotListed e.userId e.enrollmentId s' ∧ s'.storage.Lacks en.origin ↔
          io.save.unlinkFails = false ∧
            (s.currentStore = en.store ∨ s.storage.Lacks en.origin))) := by
  intro s s'
  have hconsistent : Consistent s := Reachable.consistent ⟨s₀, sts, h₀, rfl⟩
  obtain ⟨en, hrecord⟩ := hconsistent.recorded hnames.load henrolled
  refine ⟨en, hrecord.enrolled, hrecord.created h₀, fun hreport => ?_⟩
  have hremoved := removeFeature_removed io.feature s.begin
  have hremoval := hnames.removal io
  obtain ⟨-, hcallbacks, -⟩ | ⟨htemplate, -, hstorage, hsessions⟩ := hremoval
  · rw [hcallbacks] at hreport
    simp at hreport
  have htemplates (store : StoreId) : s'.storage.templates store =
      (removeFeature io.feature s.begin).2.storage.templates store := by
    rw [hstorage, templates_setRecord]
  have hfile : s'.storage.enrollmentFile =
      (unlink io.save.unlinkFails s.storage.enrollmentFile).2 := by
    rw [hstorage]
    rfl
  constructor
  · rintro ⟨hlisted, hlacks⟩
    constructor
    · cases hfails : io.save.unlinkFails with
      | false => rfl
      | true =>
          rw [hfails, unlink_true] at hfile
          have hu : stepUser s' (.op i .enumerateEnrollments) = some e.userId := by
            show s'.sessions[i]?.map Session.mUserId = _
            rw [hsessions]
            exact hnames.session
          have load' : Enrollment.load s'.storage.enrollmentFile = .ok e := hfile ▸ hnames.load
          -- The session that removed it would list it at once.
          refine absurd ?_ (hlisted [] trivial i [e.enrollmentId] hu ?_)
          · exact List.mem_singleton_self _
          · rw [Machine.run_nil, callbacks_enumerate hu load', if_pos rfl]
            exact List.mem_singleton_self _
    · by_cases hstore : s.currentStore = en.store
      · exact .inl hstore
      · refine .inr fun store t ht horigin => ?_
        have hown : store = en.store := hrecord.only store t ht horigin
        subst hown
        refine hlacks en.store t ?_ horigin
        rw [htemplates, hremoved.others en.store (Ne.symm hstore)]
        exact ht
  · rintro ⟨hunlink, hgone⟩
    constructor
    · apply notListed_of_noRecord henrolled
      rw [hfile, hunlink, unlink_false]
    · intro store t ht horigin
      rw [htemplates] at ht
      have hold := hremoved.shrinks.mem_templates ht
      -- Templates of the enrollment are in one store only, which has just been emptied.
      obtain hstore | hlacks := hgone
      · have hown : store = s.begin.currentStore :=
          (hrecord.only store t hold horigin).trans hstore.symm
        rw [hown, hremoved.done htemplate] at ht
        simp at ht
      · exact hlacks store t hold horigin

/-- The record of user 0 after the quiet enrollment. -/
def Enrollment.quiet : Enrollment := ⟨0, 1, 1, true, kCvEngine⟩

theorem names_withUser (tee : Bool) : Names (State.withUser false tee) 0 [1] .quiet := by
  cases tee <;> constructor <;> decide +kernel

/-- On the store that holds the template a quiet removal is for good. -/
theorem removed_for_good_withUser :
    let s' := step (State.withUser false true) (.op 0 (.removeEnrollments [1] .quiet))
    NotListed 0 1 s' ∧ s'.storage.Lacks 0 := by
  intro s'
  obtain ⟨en, henrolled, -, hiff⟩ := removed_for_good_iff (State.new_initial false true)
    (.createSession 0 :: enrollSteps 0) (names_withUser true) (by decide) .quiet
  have hen : (State.withUser false true).enrolled = some ⟨0, .teeSlot⟩ := by decide +kernel
  cases hen.symm.trans henrolled
  have hstore : (State.withUser false true).currentStore = .teeSlot := by decide +kernel
  exact (hiff (by decide +kernel)).mpr ⟨rfl, .inl hstore⟩

theorem created_withUser : Created (.new false true) (.createSession 0 :: enrollSteps 0) .quiet
    ⟨0, .teeSlot⟩ := by
  have hs : Consistent (State.withUser false true) :=
    (State.withUser_reachable false true).consistent
  obtain ⟨en, hrecord⟩ := hs.recorded (names_withUser true).load (by decide)
  have hen : (State.withUser false true).enrolled = some ⟨0, .teeSlot⟩ := by decide +kernel
  cases hen.symm.trans hrecord.enrolled
  exact hrecord.created (State.new_initial false true)

/-- Reported all the same: the record stays if its file cannot be deleted, and the template
stays in the TEE if the property was switched off. -/
theorem removed_but_left :
    let fails : RemoveIO :=
      { RemoveIO.quiet with save := { SaveIO.quiet with unlinkFails := true } }
    let s := step (State.withUser false true) (.op 0 (.removeEnrollments [1] fails))
    let off := step (State.withUser false true) (.setTeeProperty false)
    let s' := step off (.op 0 (.removeEnrollments [1] .quiet))
    Created (.new false true) (.createSession 0 :: enrollSteps 0) .quiet ⟨0, .teeSlot⟩ ∧
      (s.callbacks = [.onEnrollmentsRemoved [1]] ∧
        (step s (.op 0 .enumerateEnrollments)).callbacks = [.onEnrollmentsEnumerated [1]] ∧
          ¬NotListed 0 1 s) ∧
        s'.callbacks = [.onEnrollmentsRemoved [1]] ∧ ¬s'.storage.Lacks 0 := by
  intro fails s off s'
  have hlisted : (step s (.op 0 .enumerateEnrollments)).callbacks =
      [.onEnrollmentsEnumerated [1]] := by decide +kernel
  refine ⟨created_withUser, ⟨by decide +kernel, hlisted, fun h => ?_⟩, by decide +kernel,
    fun h => ?_⟩
  · refine absurd ?_ (h [] trivial 0 [1] (by decide +kernel) ?_)
    · exact List.mem_singleton_self _
    · rw [Machine.run_nil, hlisted]
      exact List.mem_singleton_self _
  · have hslot : s'.storage.teeFeature.map Template.origin = some 0 := by decide +kernel
    obtain ⟨t, ht, horigin⟩ := Option.map_eq_some_iff.mp hslot
    exact h .teeSlot t (by simp [Storage.templates, ht]) horigin

/-! ### Trying again -/

/-- No call to the backend in use fails, other than for there being nothing to delete. -/
structure Calm (s : State) (io : RemoveIO) : Prop where
  stAuth : s.auth.mAvailable = true → (s.auth.init io.feature.auth.init).1 = true ∧
    ∃ whenEmpty, io.feature.auth.delete = .deleted whenEmpty
  tee : s.currentStore = .teeSlot →
    (s.tee.openTee io.feature.tee).1 = true ∧ FaceTee.send io.feature.remove = 0
  unlink : s.currentStore = .featureFile → io.feature.unlinkFails = false
  save : io.save.unlinkFails = false

/-- With nothing failing, only the TEE refuses to remove a template, when it has none. -/
theorem removeFeature_calm {s : State} {io : RemoveIO} (h : Calm s io) :
    (removeFeature io.feature s).1 = true ↔
      ¬(s.currentStore = .teeSlot ∧ s.storage.teeFeature = none) := by
  cases hst : s.auth.mAvailable with
  | true =>
      obtain ⟨hinit, whenEmpty, hdelete⟩ := h.stAuth hst
      have hok : (s.auth.removeTemplate io.feature.auth s.storage).1 = true := by
        obtain ⟨hfailed, -⟩ | ⟨code, -, hfailed, -⟩ | ⟨_, -, -, hok, -⟩ :=
          AuthEngine.removeTemplate_eq io.feature.auth s.auth s.storage
        · simp [hinit] at hfailed
        · simp [hdelete] at hfailed
        · exact hok
      simp [removeFeature, State.currentStore, hst, hok]
  | false =>
      cases htee : s.useTee with
      | false =>
          have hstore : s.currentStore = .featureFile := by simp [State.currentStore, hst, htee]
          simp [removeFeature, hstore, hst, htee, h.unlink hstore]
      | true =>
          have hstore : s.currentStore = .teeSlot := by simp [State.currentStore, hst, htee]
          obtain ⟨hopen, hsend⟩ := h.tee hstore
          cases hslot : s.storage.teeFeature <;>
            simp [removeFeature, FaceTee.removeFeature, hstore, hst, htee, hopen, hslot, hsend]

/-- A removal in which nothing fails is reported and leaves no record, exactly if the store
in use is not an empty slot of the TEE. -/
theorem removal_succeeds_iff {s : State} {i : ℕ} {ids : List Int32} {e : Enrollment}
    (hnames : Names s i ids e) {io : RemoveIO} (hcalm : Calm s io) :
    let s' := step s (.op i (.removeEnrollments ids io))
    (.onEnrollmentsRemoved ids ∈ s'.callbacks ∧ s'.storage.enrollmentFile = none) ↔
      ¬(s.currentStore = .teeSlot ∧ s.storage.teeFeature = none) := by
  intro s'
  have hcalm' : Calm s.begin io := ⟨hcalm.stAuth, hcalm.tee, hcalm.unlink, hcalm.save⟩
  have htemplate : (removeFeature io.feature s.begin).1 = true ↔
      ¬(s.currentStore = .teeSlot ∧ s.storage.teeFeature = none) := removeFeature_calm hcalm'
  rw [← htemplate]
  constructor
  · rintro ⟨hreport, -⟩
    obtain ⟨-, hcallbacks, -⟩ | ⟨hdone, -⟩ := hnames.removal io
    · rw [hcallbacks] at hreport
      simp at hreport
    · exact hdone
  · intro hdone
    obtain ⟨hfailed, -⟩ | ⟨-, hcallbacks, hstorage, -⟩ := hnames.removal io
    · simp [hdone] at hfailed
    · refine ⟨?_, ?_⟩
      · rw [hcallbacks]
        exact List.mem_singleton_self _
      · rw [hstorage, hcalm.save, unlink_false]

theorem calm_quiet {s : State} (hcv : s.auth.mAvailable = false) : Calm s .quiet where
  stAuth hst := by simp [hcv] at hst
  tee _ := by
    refine ⟨?_, rfl⟩
    show (s.tee.openTee .quiet).1 = true
    simp [FaceTee.openTee, FaceTee.start, FaceTee.kStartAttempts, TeeOpenIO.quiet]
  unlink _ := rfl
  save := rfl

theorem removal_succeeds_withUser :
    let s' := step (State.withUser false true) (.op 0 (.removeEnrollments [1] .quiet))
    .onEnrollmentsRemoved [1] ∈ s'.callbacks ∧ s'.storage.enrollmentFile = none := by
  refine (removal_succeeds_iff (names_withUser true)
    (calm_quiet (by decide +kernel))).mpr ?_
  decide +kernel

/-- The first removal empties the slot of the TEE and cannot delete the record. The second
one finds the slot empty, and so does every one after it. -/
theorem removal_stuck :
    let fails : RemoveIO :=
      { RemoveIO.quiet with save := { SaveIO.quiet with unlinkFails := true } }
    let s := step (State.withUser false true) (.op 0 (.removeEnrollments [1] fails))
    let s' := step s (.op 0 (.removeEnrollments [1] .quiet))
    (Reachable s ∧ Names s 0 [1] .quiet ∧ Calm s .quiet) ∧
      s'.callbacks = [.onError .unableToRemove] ∧ Names s' 0 [1] .quiet := by
  intro fails s s'
  have hs : Reachable s := (State.withUser_reachable false true).run [.op 0 _]
  refine ⟨⟨hs, ?_, calm_quiet (by decide +kernel)⟩, ?_, ?_⟩
  · constructor <;> decide +kernel
  · decide +kernel
  · constructor <;> decide +kernel

/-! ### What a failure leaves -/

/-- The record, the templates of the store in use and the face id are as before. -/
structure Unspoilt (s s' : State) : Prop where
  record : s'.storage.enrollmentFile = s.storage.enrollmentFile
  templates : s'.storage.templates s.currentStore = s.storage.templates s.currentStore
  faceId : s'.storage.faceIdFile = s.storage.faceIdFile

/-- If the operation ended in an error, nothing was lost. -/
def FailsUnspoilt (s : State) (st : Step) : Prop :=
  (∃ er, .onError er ∈ (step s st).callbacks) → Unspoilt s (step s st)

/-- The record is truncated, and then the write fails. -/
def WriteLost (s : State) (i : ℕ) (feature : Feature) (io : SaveIO) : Prop :=
  feature = .requireAttention ∧ io.write = .writeFailed ∧
    ∃ e, Enrollment.load s.storage.enrollmentFile = .ok e ∧ 0 ≤ e.userId ∧
      s.sessions[i]?.map Session.mUserId = some e.userId

/-- The face id is deleted, and then the engine fails. -/
def FaceIdLost (s : State) (i : ℕ) (ids : List Int32) (io : RemoveTemplateIO) : Prop :=
  s.auth.mAvailable = true ∧ s.storage.faceIdFile ≠ none ∧ io.unlinkFails = false ∧
    ((s.auth.init io.init).1 = false ∨ ∃ code, io.delete = .failed code) ∧
      ∃ e, Names s i ids e

theorem Unspoilt.of_storage {s s' : State} (h : s'.storage = s.storage) : Unspoilt s s' :=
  ⟨by rw [h], by rw [h], by rw [h]⟩

/-- The record is not none when somebody is enrolled. -/
theorem record_ne_none {file : Option Bytes} {e : Enrollment} (load : Enrollment.load file = .ok e)
    (henrolled : 0 ≤ e.userId) : file ≠ none := by
  rintro rfl
  cases load
  exact absurd henrolled (by decide)

theorem Enrollment.save_unspoilt {e : Enrollment} {io : SaveIO} {file : Option Bytes}
    (h : (e.save io file).1 = false) (hwrite : 0 ≤ e.userId → io.write ≠ .writeFailed) :
    (e.save io file).2 = file := by
  unfold Enrollment.save at h ⊢
  split
  · rename_i huser
    rw [if_pos huser] at h
    cases hfails : io.unlinkFails with
    | true => rfl
    | false => simp [hfails] at h
  · rename_i huser
    rw [if_neg huser] at h
    cases hout : io.write with
    | written => simp [hout, writeStringToFile] at h
    | openFailed => rfl
    | writeFailed => exact absurd hout (hwrite (Int32.not_lt.mp huser))

/-- An operation on the record that nobody runs, or that cannot read the record. -/
theorem Unspoilt.of_withEnrollment {s : State} {i : ℕ} {op : Op}
    {f : Session → Enrollment → State → State}
    (hop : ∀ session, runOp i session op s.begin = s.begin.withEnrollment (f session))
    (h : ∀ session e, s.sessions[i]? = some session →
      Enrollment.load s.storage.enrollmentFile = .ok e →
        step s (.op i op) = f session e s.begin → Unspoilt s (step s (.op i op))) :
    Unspoilt s (step s (.op i op)) := by
  cases hsession : s.sessions[i]? with
  | none =>
      refine .of_storage ?_
      simp only [step, hsession]
      rfl
  | some session =>
      cases load : Enrollment.load s.storage.enrollmentFile with
      | error ex =>
          refine .of_storage ?_
          have load' : Enrollment.load s.begin.storage.enrollmentFile = .error ex := load
          simp only [step, hsession, hop, State.withEnrollment, load']
          rfl
      | ok e =>
          exact h session e hsession load (step_eq_withEnrollment hsession load (hop session))

theorem setFeature_unspoilt_iff (s : State) (i : ℕ) (feature : Feature) (enabled : Bool)
    (io : SaveIO) : FailsUnspoilt s (.op i (.setFeature feature enabled io)) ↔
      ¬WriteLost s i feature io := by
  constructor
  · rintro hunspoilt ⟨rfl, hwrite, e, load, henrolled, hsession⟩
    obtain ⟨session, hsession, huser⟩ := Option.map_eq_some_iff.mp hsession
    have hsaved : ({ e with requireAttention := enabled } : Enrollment).save io
        s.begin.storage.enrollmentFile = (false, none) := by
      simp [Enrollment.save, Int32.not_lt.mpr henrolled, hwrite, writeStringToFile]
    have hstep : step s (.op i (.setFeature .requireAttention enabled io)) =
        ({ s.begin with storage := { s.begin.storage with enrollmentFile := none } }.emit
          (.onError .unableToProcess)) := by
      rw [step_eq_withEnrollment hsession load rfl]
      simp [setFeatureWith, huser, hsaved]
    have herror : .onError .unableToProcess ∈
        (step s (.op i (.setFeature .requireAttention enabled io))).callbacks := by
      rw [hstep, callbacks_emit rfl]
      exact List.mem_singleton_self _
    have hrecord := (hunspoilt ⟨_, herror⟩).record
    rw [hstep] at hrecord
    exact record_ne_none load henrolled hrecord.symm
  · rintro hwrite ⟨er, herror⟩
    refine .of_withEnrollment (fun session => rfl) fun session e hsession load hstep => ?_
    rw [hstep] at herror ⊢
    simp only [setFeatureWith] at herror ⊢
    split
    · exact .of_storage rfl
    · rename_i hown
      obtain ⟨huser, hfeature⟩ := not_or.mp hown
      rw [if_neg hown] at herror
      split
      · rename_i hfailed
        have hkept : 0 ≤ e.userId → io.write ≠ .writeFailed := fun henrolled hout =>
          hwrite ⟨not_not.mp hfeature, hout, e, load, henrolled, by
            rw [hsession, Option.map_some, not_not.mp huser]⟩
        have hfailed' : (({ e with requireAttention := enabled } : Enrollment).save io
            s.begin.storage.enrollmentFile).1 = false := by simpa using hfailed
        have hfile := Enrollment.save_unspoilt hfailed' hkept
        refine .of_storage ?_
        show ({ s.storage with enrollmentFile := _ } : Storage) = s.storage
        rw [hfile]
        rfl
      · rename_i hdone
        rw [if_neg hdone, callbacks_emit rfl] at herror
        simp at herror

/-- The cv engine has no face id. -/
theorem faceIdFile_removeFeature {s : State} (hcv : s.auth.mAvailable = false)
    (io : RemoveFeatureIO) : (removeFeature io s).2.storage.faceIdFile = s.storage.faceIdFile := by
  simp only [removeFeature, hcv, Bool.false_eq_true, if_false]
  split
  · rfl
  · split
    · rfl
    · obtain ⟨frames, hframes⟩ := FaceTee.removeFrames_eq io.removeFrame
        (FaceTee.removeFeature io.remove s.storage).2
      rw [hframes]
      simp only [FaceTee.removeFeature]
      split <;> rfl

theorem AuthEngine.removeTemplate_failed_iff (io : RemoveTemplateIO) (a : AuthEngine)
    (st : Storage) : (a.removeTemplate io st).1 = false ↔
      (a.init io.init).1 = false ∨ ∃ code, io.delete = .failed code := by
  obtain ⟨hinit, hok, -⟩ | ⟨code, -, hdelete, hok, -⟩ | ⟨whenEmpty, hinit, hdelete, hok, -⟩ :=
    removeTemplate_eq io a st
  · simp [hinit, hok]
  · simp [hdelete, hok]
  · simp [hinit, hdelete, hok]

/-- A failing removal has tried to delete the face id. -/
theorem AuthEngine.storage_removeTemplate {io : RemoveTemplateIO} {a : AuthEngine} {st : Storage}
    (h : (a.removeTemplate io st).1 = false) : (a.removeTemplate io st).2.2 =
      { st with faceIdFile := (unlink io.unlinkFails st.faceIdFile).2 } := by
  obtain ⟨-, -, hst⟩ | ⟨code, -, -, -, hst⟩ | ⟨whenEmpty, -, -, hok, -⟩ := removeTemplate_eq io a st
  · exact hst
  · exact hst
  · simp [hok] at h

theorem removeFeature_stAuth {s : State} (hst : s.auth.mAvailable = true) (io : RemoveFeatureIO) :
    (removeFeature io s).1 = (s.auth.removeTemplate io.auth s.storage).1 ∧
      (removeFeature io s).2.storage = (s.auth.removeTemplate io.auth s.storage).2.2 := by
  simp [removeFeature, hst]

theorem remove_unspoilt_iff (s : State) (i : ℕ) (ids : List Int32) (io : RemoveIO) :
    FailsUnspoilt s (.op i (.removeEnrollments ids io)) ↔
      ¬FaceIdLost s i ids io.feature.auth := by
  constructor
  · rintro hunspoilt ⟨hst, hface, hunlink, hfails, e, hnames⟩
    have hfailed : (s.begin.auth.removeTemplate io.feature.auth s.begin.storage).1 = false :=
      (AuthEngine.removeTemplate_failed_iff _ _ _).mpr hfails
    obtain ⟨hok, hstorage⟩ := removeFeature_stAuth (s := s.begin) hst io.feature
    cases hnames.removal io with
    | failed template callbacks storage =>
        have herror : .onError .unableToRemove ∈
            (step s (.op i (.removeEnrollments ids io))).callbacks := by
          rw [callbacks]
          exact List.mem_singleton_self _
        have hkept := (hunspoilt ⟨_, herror⟩).faceId
        rw [storage, hstorage, AuthEngine.storage_removeTemplate hfailed, hunlink] at hkept
        exact hface hkept.symm
    | done template callbacks storage sessions =>
        rw [hok, hfailed] at template
        simp at template
  · rintro hkept ⟨er, herror⟩
    refine .of_withEnrollment (fun session => rfl) fun session e hsession load hstep => ?_
    by_cases hown : e.userId ≠ session.mUserId ∨ e.enrollmentId ∉ ids
    · rw [hstep]
      simp only [removeWith, if_pos hown]
      exact .of_storage rfl
    obtain ⟨huser, hid⟩ := not_or.mp hown
    have hnames : Names s i ids e :=
      ⟨load, by rw [hsession, Option.map_some, not_not.mp huser], not_not.mp hid⟩
    cases hnames.removal io with
    | failed template callbacks storage =>
        have hremoved := removeFeature_removed io.feature s.begin
        refine ⟨?_, ?_, ?_⟩
        · rw [storage]
          exact hremoved.shrinks.enrollmentFile
        · rw [storage]
          exact hremoved.failed template
        · rw [storage]
          cases hst : s.auth.mAvailable with
          | false => exact faceIdFile_removeFeature (s := s.begin) hst io.feature
          | true =>
              obtain ⟨hok, hstorage⟩ := removeFeature_stAuth (s := s.begin) hst io.feature
              rw [hok] at template
              rw [hstorage, AuthEngine.storage_removeTemplate template]
              show (unlink io.feature.auth.unlinkFails s.storage.faceIdFile).2 = _
              cases hunlink : io.feature.auth.unlinkFails with
              | true => rfl
              | false =>
                  by_contra hface
                  exact hkept ⟨hst, Ne.symm hface, hunlink,
                    (AuthEngine.removeTemplate_failed_iff _ _ _).mp template, e, hnames⟩
    | done template callbacks storage sessions =>
        rw [callbacks] at herror
        simp at herror

/-- `setFeature` and `removeEnrollments` lose nothing when they fail, exactly if no write
fails after the record was truncated, and the engine does not fail after the face id was
deleted. -/
theorem failure_unspoilt_iff (s : State) (i : ℕ) :
    (∀ feature enabled io, FailsUnspoilt s (.op i (.setFeature feature enabled io)) ↔
      ¬WriteLost s i feature io) ∧
      ∀ ids io, FailsUnspoilt s (.op i (.removeEnrollments ids io)) ↔
        ¬FaceIdLost s i ids io.feature.auth :=
  ⟨setFeature_unspoilt_iff s i, remove_unspoilt_iff s i⟩

/-- A failed write takes the record with it, and a failed removal the face id. -/
theorem failure_spoils :
    let full : SaveIO := ⟨false, .writeFailed⟩
    let damaged : RemoveIO :=
      { RemoveIO.quiet with feature := { RemoveFeatureIO.quiet with
        auth := { RemoveTemplateIO.quiet with delete := .failed 1 } } }
    let cv := State.withUser false true
    let s := step cv (.op 0 (.setFeature .requireAttention false full))
    let st := State.withUser true true
    let s' := step st (.op 0 (.removeEnrollments [1] damaged))
    (Reachable cv ∧ s.callbacks = [.onError .unableToProcess] ∧ ¬Unspoilt cv s) ∧
      Reachable st ∧ s'.callbacks = [.onError .unableToRemove] ∧ ¬Unspoilt st s' := by
  intro full damaged cv s st s'
  refine ⟨⟨State.withUser_reachable false true, by decide +kernel, fun h => ?_⟩,
    State.withUser_reachable true true, by decide +kernel, fun h => ?_⟩
  · have hlost : s.storage.enrollmentFile ≠ cv.storage.enrollmentFile := by decide +kernel
    exact hlost h.record
  · have hlost : s'.storage.faceIdFile ≠ st.storage.faceIdFile := by decide +kernel
    exact hlost h.faceId

end OneplusHal.Face

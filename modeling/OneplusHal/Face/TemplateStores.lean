import OneplusHal.Face.Operations

/-!
Which enrollment a stored template belongs to.

There is one record but several places for a template, and which of them is in use is
decided anew in each operation. The invariant `Consistent` says what the record still
guarantees: the templates that its enroll operation captured are in the store they were
written to and nowhere else, and what the engine would look at in that store is one of
them. It says nothing about the other stores, which is what goes wrong.
-/

namespace OneplusHal.Face

open OneplusHal

/-! ### Stores -/

/-- The engine whose templates a store holds. -/
def StoreId.engine : StoreId → Bytes
  | .teeSlot | .featureFile => kCvEngine
  | .stAuth tee => if tee then kStAuthTee else kStAuth

theorem engineName_eq_engine (s : State) : engineName s = s.currentStore.engine := by
  cases hst : s.auth.mAvailable <;> cases htee : s.useTee <;>
    simp [engineName, State.currentStore, hst, htee, StoreId.engine, AuthEngine.name]

/-- The record tells the two directories of st_auth apart, and both from the cv engine. -/
theorem StoreId.engine_injOn {store : StoreId} {tee : Bool}
    (h : store.engine = (StoreId.stAuth tee).engine) : store = .stAuth tee := by
  cases store with
  | teeSlot => cases tee <;> simp [engine, kCvEngine, kStAuth, kStAuthTee] at h
  | featureFile => cases tee <;> simp [engine, kCvEngine, kStAuth, kStAuthTee] at h
  | stAuth tee' => cases tee <;> cases tee' <;> simp [engine, kStAuth, kStAuthTee] at h ⊢

theorem isWord_engine (store : StoreId) : IsWord store.engine := by
  have hcv : IsWord kCvEngine := by simp [IsWord, kCvEngine, Text.isSpace]
  have hst : IsWord kStAuth := by simp [IsWord, kStAuth, Text.isSpace]
  have htee : IsWord kStAuthTee := by simp [IsWord, kStAuthTee, Text.isSpace]
  cases store with
  | teeSlot => exact hcv
  | featureFile => exact hcv
  | stAuth tee =>
      cases tee with
      | false => exact hst
      | true => exact htee

/-- The template that the engine of a store would compare a probe against. -/
def Storage.reference (st : Storage) : StoreId → Option Template
  | .teeSlot => st.teeFeature
  | .featureFile => st.featureFile
  | .stAuth tee =>
      (st.faceIdFile.bind fun text => parseInt text 0).bind (st.stAuth tee).find

theorem reference_eq (s : State) : s.reference = s.storage.reference s.currentStore := by
  cases hst : s.auth.mAvailable <;> cases htee : s.useTee <;>
    simp [State.reference, State.currentStore, hst, htee, Storage.reference]

theorem Storage.mem_of_reference {st : Storage} {store : StoreId} {t : Template}
    (h : st.reference store = some t) : t ∈ st.templates store := by
  cases store with
  | stAuth tee =>
      obtain ⟨faceId, -, hfind⟩ := Option.bind_eq_some_iff.mp h
      exact StAuthStore.mem_of_find hfind
  | _ => simpa [templates, reference] using h

theorem Storage.Shrinks.reference {st st' : Storage} (h : st.Shrinks st') {store : StoreId}
    {t : Template} (ht : st'.reference store = some t) : st.reference store = some t := by
  cases store with
  | teeSlot =>
      rcases h.teeFeature with h | h
      · exact h.symm.trans ht
      · simp [Storage.reference, h] at ht
  | featureFile =>
      rcases h.featureFile with h | h
      · exact h.symm.trans ht
      · simp [Storage.reference, h] at ht
  | stAuth tee =>
      obtain ⟨faceId, hface, hfind⟩ := Option.bind_eq_some_iff.mp ht
      rcases h.faceIdFile with hfile | hfile
      · rcases h.stAuth tee with hstore | hstore
        · rw [Storage.reference, ← hfile, ← hstore]
          exact ht
        · simp [hstore, StAuthStore.find] at hfind
      · simp [hfile] at hface

theorem Storage.reference_setRecord (st : Storage) (file : Option Bytes) (store : StoreId) :
    { st with enrollmentFile := file }.reference store = st.reference store := by
  cases store <;> rfl

theorem parseInt_print {n m : Int} (h : parseInt (Text.print n) 0 = some m) : m = n := by
  rw [parseInt, Text.scan_print] at h
  simp only [Option.ite_none_right_eq_some, Option.some.injEq] at h
  exact h.2.symm

/-- What the engine would look at after an enrollment is the new template. -/
theorem HoldsNew.reference {s : State} {st : Storage} (h : HoldsNew s st) {t : Template}
    (ht : st.reference s.currentStore = some t) : t.origin = s.enrolls := by
  cases hst : s.auth.mAvailable with
  | true =>
      obtain ⟨faceId, u, hface, hfind, horigin⟩ := h.stAuth hst
      rw [State.currentStore, if_pos hst, Storage.reference, hface] at ht
      obtain ⟨n, hn, ht⟩ := Option.bind_eq_some_iff.mp ht
      rw [parseInt_print hn, hfind] at ht
      rw [← Option.some.inj ht, horigin]
  | false =>
      obtain ⟨u, hu, horigin⟩ := h.cv hst
      have hmem := Storage.mem_of_reference ht
      rw [hu, List.mem_singleton] at hmem
      rw [hmem, horigin]

/-! ### The record and its template -/

/-- The record on file is `e`, and `en` is the enrollment that made it. -/
structure Recorded (s : State) (e : Enrollment) (en : Enrolled) : Prop where
  file : s.storage.enrollmentFile = some e.text
  userId : 0 ≤ e.userId
  engine : e.engine = en.store.engine
  enrolled : s.enrolled = some en
  origin_lt : en.origin < s.enrolls
  only : ∀ store, ∀ t ∈ s.storage.templates store, t.origin = en.origin → store = en.store
  genuine : ∀ t, s.storage.reference en.store = some t → t.origin = en.origin

/-- Templates are those of past enroll operations, and a record is that of the last one
that finished. -/
structure Consistent (s : State) : Prop where
  origins : ∀ store, ∀ t ∈ s.storage.templates store, t.origin < s.enrolls
  record : s.storage.enrollmentFile = none ∨ ∃ e en, Recorded s e en

theorem Recorded.load {s : State} {e : Enrollment} {en : Enrolled} (h : Recorded s e en) :
    Enrollment.load s.storage.enrollmentFile = .ok e := by
  rw [h.file]
  exact Enrollment.load_text (h.engine ▸ isWord_engine en.store)

theorem Consistent.load {s : State} (h : Consistent s) :
    (s.storage.enrollmentFile = none ∧ Enrollment.load s.storage.enrollmentFile = .ok {}) ∨
      ∃ e en, Recorded s e en ∧ Enrollment.load s.storage.enrollmentFile = .ok e := by
  rcases h.record with hfile | ⟨e, en, hrecord⟩
  · exact .inl ⟨hfile, by rw [hfile]; rfl⟩
  · exact .inr ⟨e, en, hrecord, hrecord.load⟩

/-- The record of an enrolled user. -/
theorem Consistent.recorded {s : State} {e : Enrollment} (h : Consistent s)
    (hload : Enrollment.load s.storage.enrollmentFile = .ok e) (huser : 0 ≤ e.userId) :
    ∃ en, Recorded s e en := by
  rcases h.load with ⟨-, hnone⟩ | ⟨e', en, hrecord, hload'⟩
  · rw [hnone] at hload
    rw [← Except.ok.inj hload] at huser
    exact absurd huser (by decide)
  · rw [hload'] at hload
    exact ⟨en, Except.ok.inj hload ▸ hrecord⟩

/-- When nobody is enrolled, there is no record. -/
theorem Consistent.noRecord_of_vacant {s : State} {e : Enrollment} (h : Consistent s)
    (hload : Enrollment.load s.storage.enrollmentFile = .ok e) (vacant : e.userId < 0) :
    s.storage.enrollmentFile = none := by
  obtain ⟨hnone, -⟩ | ⟨e', en, hrecord, hload'⟩ := h.load
  · exact hnone
  · rw [hload'] at hload
    cases hload
    exact absurd hrecord.userId (Int32.not_le.mpr vacant)

/-- A record that names an engine is one. -/
theorem Consistent.recorded_of_engine {s : State} {e : Enrollment} {store : StoreId}
    (h : Consistent s) (hload : Enrollment.load s.storage.enrollmentFile = .ok e)
    (hengine : e.engine = store.engine) : ∃ en, Recorded s e en := by
  obtain ⟨-, hnone⟩ | ⟨e', en, hrecord, hload'⟩ := h.load
  · rw [hnone] at hload
    rw [← Except.ok.inj hload] at hengine
    exact absurd hengine.symm (isWord_engine store).1
  · rw [hload'] at hload
    exact ⟨en, Except.ok.inj hload ▸ hrecord⟩

/-- The record is as it was, gone, or that of the same enrollment. -/
inductive RecordKept (file file' : Option Bytes) : Prop
  | same (h : file' = file)
  | gone (h : file' = none)
  | rewritten {e e' : Enrollment} (load : Enrollment.load file = .ok e) (enrolled : 0 ≤ e.userId)
      (userId : e'.userId = e.userId) (enrollmentId : e'.enrollmentId = e.enrollmentId)
      (engine : e'.engine = e.engine) (h : file' = some e'.text)

/-- No template is new, and neither is the record. -/
structure Carries (s s' : State) : Prop where
  templates : ∀ store, ∀ t ∈ s'.storage.templates store, t ∈ s.storage.templates store
  reference : ∀ store t, s'.storage.reference store = some t → s.storage.reference store = some t
  record : RecordKept s.storage.enrollmentFile s'.storage.enrollmentFile
  enrolled : s'.enrolled = s.enrolled
  enrolls : s.enrolls ≤ s'.enrolls

theorem Carries.of_shrinks {s s' : State} (h : s.storage.Shrinks s'.storage)
    (henrolled : s'.enrolled = s.enrolled) (henrolls : s.enrolls ≤ s'.enrolls) : Carries s s' where
  templates _ _ ht := h.mem_templates ht
  reference _ _ ht := h.reference ht
  record := .same h.enrollmentFile
  enrolled := henrolled
  enrolls := henrolls

theorem Recorded.carried {s s' : State} {e e' : Enrollment} {en : Enrolled}
    (h : Recorded s e en) (hs : Carries s s') (hfile : s'.storage.enrollmentFile = some e'.text)
    (huser : e'.userId = e.userId) (hengine : e'.engine = e.engine) : Recorded s' e' en where
  file := hfile
  userId := huser ▸ h.userId
  engine := hengine.trans h.engine
  enrolled := hs.enrolled.trans h.enrolled
  origin_lt := h.origin_lt.trans_le hs.enrolls
  only store t ht := h.only store t (hs.templates store t ht)
  genuine t ht := h.genuine t (hs.reference en.store t ht)

theorem Carries.consistent {s s' : State} (h : Consistent s) (hs : Carries s s') :
    Consistent s' := by
  refine ⟨fun store t ht => (h.origins store t (hs.templates store t ht)).trans_le hs.enrolls, ?_⟩
  cases hs.record with
  | same hfile =>
      obtain hnone | ⟨e, en, hrecord⟩ := h.record
      · exact .inl (hfile.trans hnone)
      · exact .inr ⟨e, en, hrecord.carried hs (hfile.trans hrecord.file) rfl rfl⟩
  | gone hfile => exact .inl hfile
  | rewritten hload henrolled huser hid hengine hfile =>
      obtain ⟨en, hrecord⟩ := h.recorded hload henrolled
      exact .inr ⟨_, en, hrecord.carried hs hfile huser hengine⟩

/-! ### Every step keeps the stores consistent -/

theorem unlink_recordKept (fails : Bool) (file : Option Bytes) :
    RecordKept file (unlink fails file).2 := by
  obtain h | h := unlink_shrinks fails file
  · exact .same h
  · exact .gone h

/-- A record saved again for its owner. -/
theorem Enrollment.save_recordKept {e : Enrollment} {file : Option Bytes}
    (load : Enrollment.load file = .ok e) (e' : Enrollment) (huser : e'.userId = e.userId)
    (hid : e'.enrollmentId = e.enrollmentId) (hengine : e'.engine = e.engine) (io : SaveIO) :
    RecordKept file (e'.save io file).2 := by
  unfold Enrollment.save
  split
  · exact unlink_recordKept _ _
  · rename_i hnegative
    cases io.write with
    | written => exact .rewritten load (huser ▸ Int32.not_lt.mp hnegative) huser hid hengine rfl
    | openFailed => exact .same rfl
    | writeFailed => exact .gone rfl

/-- The record alone was saved, and one callback made. -/
theorem Carries.of_save {s : State} {file : Option Bytes} (c : Callback)
    (h : RecordKept s.storage.enrollmentFile file) :
    Carries s ({ s with storage := { s.storage with enrollmentFile := file } }.emit c) where
  templates _ _ ht := by simpa using ht
  reference _ _ ht := (Storage.reference_setRecord ..).symm.trans ht
  record := h
  enrolled := rfl
  enrolls := le_rfl

theorem Carries.of_storage {s s' : State} (h : s'.storage = s.storage)
    (henrolled : s'.enrolled = s.enrolled) (henrolls : s.enrolls ≤ s'.enrolls) : Carries s s' :=
  .of_shrinks (h ▸ .refl _) henrolled henrolls

theorem Carries.emit (s : State) (c : Callback) : Carries s (s.emit c) :=
  .of_storage rfl rfl le_rfl

theorem Carries.of_withEnrollment {s : State} {op : Enrollment → State → State}
    (hop : ∀ e, Enrollment.load s.storage.enrollmentFile = .ok e → Carries s (op e s)) :
    Carries s (s.withEnrollment op) := by
  simp only [State.withEnrollment]
  split
  · exact .of_storage rfl rfl le_rfl
  · rename_i e hload
    exact hop e hload

theorem removeWith_carries (user : Int32) (ids : List Int32) (io : RemoveIO) (e : Enrollment)
    (s : State) : Carries s (removeWith user ids io e s) := by
  have hshrinks := (removeFeature_removed io.feature s).shrinks
  have hkeeps := removeFeature_keeps io.feature s
  have hremoved (c : Callback) : Carries s ((removeFeature io.feature s).2.emit c) :=
    .of_shrinks hshrinks hkeeps.enrolled hkeeps.enrolls.ge
  simp only [removeWith]
  split
  · exact .emit s _
  · split
    · exact hremoved _
    · have hsaved : RecordKept s.storage.enrollmentFile
          (({} : Enrollment).save io.save
            (removeFeature io.feature s).2.storage.enrollmentFile).2 := by
        rw [hshrinks.enrollmentFile]
        exact unlink_recordKept _ _
      exact
        { hremoved (.onEnrollmentsRemoved ids) with
          templates := fun store t ht => hshrinks.mem_templates (by simpa using ht)
          reference := fun _ _ ht =>
            hshrinks.reference ((Storage.reference_setRecord ..).symm.trans ht)
          record := hsaved }

/-- An operation that does not enroll brings no template into any store. -/
theorem runOp_carries {op : Op} (hop : ∀ challenge preview io, op ≠ .enroll challenge preview io)
    (i : ℕ) (session : Session) (s : State) : Carries s (runOp i session op s) := by
  cases op with
  | generateChallenge r => exact .of_storage rfl rfl le_rfl
  | revokeChallenge challenge => exact .of_storage rfl rfl le_rfl
  | enroll challenge preview io => exact absurd rfl (hop challenge preview io)
  | authenticate io =>
      have hkeeps := (doAuthenticate_attempt session.mUserId io s).keeps
      exact .of_storage hkeeps.storage hkeeps.enrolled hkeeps.enrolls.ge
  | detectInteraction => exact .emit s _
  | enumerateEnrollments => exact .of_withEnrollment fun e _ => .emit s _
  | removeEnrollments ids io =>
      exact .of_withEnrollment fun e _ => removeWith_carries session.mUserId ids io e s
  | getFeatures =>
      refine .of_withEnrollment fun e _ => ?_
      simp only [getFeaturesWith]
      split <;> exact .emit s _
  | setFeature feature enabled io =>
      refine .of_withEnrollment fun e hload => ?_
      simp only [setFeatureWith]
      split
      · exact .emit s _
      · have hsaved := Enrollment.save_recordKept hload { e with requireAttention := enabled }
          rfl rfl rfl io
        split <;> exact .of_save _ hsaved
  | getAuthenticatorId => exact .of_withEnrollment fun e _ => .emit s _
  | invalidateAuthenticatorId r io =>
      refine .of_withEnrollment fun e hload => ?_
      simp only [invalidateWith]
      split
      · exact .emit s _
      · exact .of_save _
          (Enrollment.save_recordKept hload { e with authenticatorId := r.value } rfl rfl rfl io)
  | resetLockout => exact .of_storage rfl rfl le_rfl
  | close => exact .emit s _

/-- The number of a new enroll operation belongs to no template yet. -/
theorem Consistent.origins_enroll {s : State} {st : Storage} (h : Consistent s)
    (hst : ∀ store, ∀ t ∈ st.templates store,
      t ∈ s.storage.templates store ∨ store = s.currentStore ∧ t.origin = s.enrolls) :
    ∀ store, ∀ t ∈ st.templates store, t.origin < s.enrolls + 1 := by
  intro store t ht
  obtain hold | ⟨-, hnew⟩ := hst store t ht
  · have hlt := h.origins store t hold
    omega
  · omega

/-- The end of an enroll operation, which is counted. -/
def State.counted (s : State) : State := { s with enrolls := s.enrolls + 1 }

theorem Enrolling.consistent {user : Int32} {io : EnrollIO} {s s' : State}
    (h : Enrolling user io s s') (hs : Consistent s) : Consistent s'.counted := by
  cases h with
  | terminated load => exact Carries.consistent hs (.of_storage rfl rfl (Nat.le_succ _))
  | refused keeps trace =>
      refine Carries.consistent hs (.of_storage keeps.storage keeps.enrolled ?_)
      exact keeps.enrolls.ge.trans (Nat.le_succ _)
  | frameless load vacant keeps shrinks trace =>
      refine Carries.consistent hs (.of_shrinks ?_ keeps.enrolled ?_)
      · exact keeps.storage ▸ shrinks
      · exact keeps.enrolls.ge.trans (Nat.le_succ _)
  | @failed e st _ _ _ _ _ load vacant keeps failure loop trace =>
      have hstorage : s'.storage = st := keeps.storage
      have henrolls : s'.enrolls = s.enrolls := keeps.enrolls
      refine ⟨?_, .inl ?_⟩
      · show ∀ store, ∀ t ∈ s'.storage.templates store, t.origin < s'.enrolls + 1
        rw [hstorage, henrolls]
        exact hs.origins_enroll failure.templates
      · show s'.storage.enrollmentFile = none
        rw [hstorage]
        obtain hsame | hgone := failure.enrollmentFile
        · exact hsame.trans (hs.noRecord_of_vacant load vacant)
        · exact hgone
  | @finished e st _ _ _ _ load vacant keeps success loop hcaptured trace =>
      have hstorage : s'.storage = st := keeps.storage
      have henrolls : s'.enrolls = s.enrolls := keeps.enrolls
      refine ⟨?_, ?_⟩
      · show ∀ store, ∀ t ∈ s'.storage.templates store, t.origin < s'.enrolls + 1
        rw [hstorage, henrolls]
        exact hs.origins_enroll success.templates
      · have hfile : s'.storage.enrollmentFile = _ := hstorage ▸ success.enrollmentFile
        -- No record is written for a negative user id.
        by_cases huser : user < 0
        · rw [if_pos huser] at hfile
          exact .inl hfile
        · rw [if_neg huser] at hfile
          refine .inr ⟨newEnrollment user e io (engineName s), ⟨s.enrolls, s.currentStore⟩,
            hfile, Int32.not_lt.mp huser, engineName_eq_engine s, keeps.enrolled, ?_, ?_, ?_⟩
          · show s.enrolls < s'.enrolls + 1
            omega
          · intro store t ht horigin
            have ht' : t ∈ st.templates store := hstorage ▸ ht
            -- Older templates have smaller numbers, so this one is new.
            obtain hold | ⟨hstore, -⟩ := success.templates store t ht'
            · exact absurd (hs.origins store t hold) (by rw [horigin]; exact lt_irrefl _)
            · exact hstore
          · intro t ht
            have ht' : st.reference s.currentStore = some t := hstorage ▸ ht
            exact success.holds.reference ht'

theorem consistent_step (s : State) (st : Step) (h : Consistent s) : Consistent (step s st) := by
  cases st with
  | createSession user => exact Carries.consistent h (.of_storage rfl rfl le_rfl)
  | setTeeProperty tee => exact Carries.consistent h (.of_storage rfl rfl le_rfl)
  | restart available => exact Carries.consistent h (.of_storage rfl rfl le_rfl)
  | wait elapsed => exact Carries.consistent h (.of_storage rfl rfl le_rfl)
  | op i op =>
      have hbegin : Consistent s.begin := Carries.consistent h (.of_storage rfl rfl le_rfl)
      simp only [step]
      split
      · exact hbegin
      · rename_i session _
        by_cases henroll : ∃ challenge preview io, op = .enroll challenge preview io
        · obtain ⟨challenge, preview, io, rfl⟩ := henroll
          exact (doEnroll_enrolling session challenge preview io s.begin).consistent hbegin
        · refine (runOp_carries ?_ i session s.begin).consistent hbegin
          rintro challenge preview io rfl
          exact henroll ⟨challenge, preview, io, rfl⟩

theorem Reachable.consistent {s : State} (h : Reachable s) : Consistent s := by
  refine Machine.Reachable.invariant ?_ consistent_step h
  rintro _ ⟨available, tee, now, rfl⟩
  refine ⟨?_, .inl rfl⟩
  intro store t ht
  cases store <;> simp [State.restarted, Storage.templates] at ht

end OneplusHal.Face

import OneplusHal.Face.Session

/-!
What the pieces of an operation leave alone.

The engine of st_auth is set up once for the life of the process: which directory it
works on and whether it is there at all never change afterwards. `Keeps` is the frame of
the pieces that touch neither the storage nor the lockouts, so that a fact about either
goes through them by one lemma each.
-/

namespace OneplusHal.Face

open OneplusHal

/-! ### The st_auth engine -/

namespace AuthEngine

/-- What is fixed when the process starts. -/
def setup (a : AuthEngine) : Bool × Bool := (a.mUseTee, a.mAvailable)

@[simp] theorem setup_call (a : AuthEngine) (fn : StFunction) (ok : Bool) :
    (a.call fn ok).setup = a.setup := rfl

@[simp] theorem setup_deinit (a : AuthEngine) : a.deinit.setup = a.setup := by
  unfold deinit
  cases hlib : a.mLib <;> cases htee : a.mUseTee <;> simp [setup, call, htee]

@[simp] theorem setup_loadSymbols (io : AuthInitIO) (a : AuthEngine) :
    (loadSymbols io a).2.setup = a.setup := by
  unfold loadSymbols
  split
  · rfl
  · split <;> rfl

@[simp] theorem setup_tryLicenses (licenses : List (Option Bool)) (a : AuthEngine) :
    (tryLicenses licenses a).2.setup = a.setup := by
  induction licenses generalizing a with
  | nil => rfl
  | cons l rest ih =>
      cases l with
      | none => exact ih a
      | some accepted =>
          cases accepted with
          | true => rfl
          | false => exact (ih _).trans (setup_call a _ _)

@[simp] theorem setup_openTee (io : AuthInitIO) (a : AuthEngine) :
    (openTee io a).2.setup = a.setup := by
  simp only [openTee]
  split
  · rfl
  · split <;> rfl

@[simp] theorem setup_initLocked (io : AuthInitIO) (a : AuthEngine) :
    (initLocked io a).2.setup = a.setup := by
  simp only [initLocked]
  split_ifs <;> simp

@[simp] theorem setup_init (io : AuthInitIO) (a : AuthEngine) :
    (init io a).2.setup = a.setup := by
  have hlocked (b : AuthEngine) (ok : Bool) (h : b.setup = a.setup) :
      (if !{ b with mInitialized := ok }.mInitialized then
          { b with mInitialized := ok }.deinit else { b with mInitialized := ok }).setup =
        a.setup := by
    split
    · exact (setup_deinit _).trans h
    · exact h
  simp only [init]
  split
  · rfl
  · split
    · exact setup_loadSymbols io a
    · apply hlocked
      split <;> simp

@[simp] theorem setup_beginEnroll (io : BeginEnrollIO) (a : AuthEngine) (st : Storage) :
    (beginEnroll io a st).2.1.setup = a.setup := by
  simp only [beginEnroll]
  split
  · rfl
  · split <;> rfl

@[simp] theorem setup_enroll (origin : ℕ) (answer : EnrollAnswer) (a : AuthEngine) (st : Storage) :
    (enroll origin answer a st).2.1.setup = a.setup := by
  simp only [enroll]
  cases answer.status with
  | ok => split_ifs <;> rfl
  | enrollOk => split_ifs <;> rfl
  | _ => rfl

@[simp] theorem setup_beginAuthenticate (ok requireAttention : Bool) (a : AuthEngine)
    (st : Storage) : (beginAuthenticate ok requireAttention a st).2.setup = a.setup := by
  simp only [beginAuthenticate]
  split
  · rfl
  · split <;> rfl

@[simp] theorem setup_authenticate (status : AuthStatus) (a : AuthEngine) (st : Storage) :
    (authenticate status a st).2.2.setup = a.setup := by
  simp only [authenticate]
  split <;> rfl

@[simp] theorem setup_removeTemplate (io : RemoveTemplateIO) (a : AuthEngine) (st : Storage) :
    (removeTemplate io a st).2.1.setup = a.setup := by
  simp only [removeTemplate]
  split
  · simp
  · split <;> simp

theorem mUseTee_eq_of_setup {a b : AuthEngine} (h : a.setup = b.setup) : a.mUseTee = b.mUseTee :=
  congrArg Prod.fst h

theorem mAvailable_eq_of_setup {a b : AuthEngine} (h : a.setup = b.setup) :
    a.mAvailable = b.mAvailable :=
  congrArg Prod.snd h

end AuthEngine

theorem State.currentStore_congr {s s' : State} (hsetup : s'.auth.setup = s.auth.setup)
    (htee : s'.useTee = s.useTee) : s'.currentStore = s.currentStore := by
  simp only [currentStore, AuthEngine.mUseTee_eq_of_setup hsetup,
    AuthEngine.mAvailable_eq_of_setup hsetup, htee]

theorem engineName_congr {s s' : State} (hsetup : s'.auth.setup = s.auth.setup) :
    engineName s' = engineName s := by
  simp only [engineName, AuthEngine.name, AuthEngine.mUseTee_eq_of_setup hsetup,
    AuthEngine.mAvailable_eq_of_setup hsetup]

/-! ### The shared state -/

/-- `s'` differs from `s` in the world and in what the engines keep in memory, and no
time is lost. -/
structure State.Keeps (s s' : State) : Prop where
  storage : s'.storage = s.storage
  sLockouts : s'.sLockouts = s.sLockouts
  sessions : s'.sessions = s.sessions
  useTee : s'.useTee = s.useTee
  enrolls : s'.enrolls = s.enrolls
  enrolled : s'.enrolled = s.enrolled
  setup : s'.auth.setup = s.auth.setup
  now_le : s.world.now ≤ s'.world.now

namespace State.Keeps

theorem refl (s : State) : s.Keeps s := ⟨rfl, rfl, rfl, rfl, rfl, rfl, rfl, le_rfl⟩

theorem trans {s₁ s₂ s₃ : State} (h : s₁.Keeps s₂) (h' : s₂.Keeps s₃) : s₁.Keeps s₃ where
  storage := h'.storage.trans h.storage
  sLockouts := h'.sLockouts.trans h.sLockouts
  sessions := h'.sessions.trans h.sessions
  useTee := h'.useTee.trans h.useTee
  enrolls := h'.enrolls.trans h.enrolls
  enrolled := h'.enrolled.trans h.enrolled
  setup := h'.setup.trans h.setup
  now_le := h.now_le.trans h'.now_le

/-- A step that sets the world alone. -/
theorem world {s s' : State} (h : s.Keeps s') {w : World} (hw : s'.world.now ≤ w.now) :
    s.Keeps { s' with world := w } :=
  { h with now_le := h.now_le.trans hw }

theorem emit {s s' : State} (h : s.Keeps s') (c : Callback) : s.Keeps (s'.emit c) :=
  h.world le_rfl

/-- A step that sets the handles of the cv engine and of the trusted app alone. -/
theorem handles {s s' : State} (h : s.Keeps s') (engine : FaceEngine) (tee : FaceTee) :
    s.Keeps { s' with engine, tee } :=
  { h with }

theorem mAvailable {s s' : State} (h : s.Keeps s') : s'.auth.mAvailable = s.auth.mAvailable :=
  AuthEngine.mAvailable_eq_of_setup h.setup

theorem mUseTee {s s' : State} (h : s.Keeps s') : s'.auth.mUseTee = s.auth.mUseTee :=
  AuthEngine.mUseTee_eq_of_setup h.setup

theorem currentStore {s s' : State} (h : s.Keeps s') : s'.currentStore = s.currentStore :=
  State.currentStore_congr h.setup h.useTee

theorem engineName {s s' : State} (h : s.Keeps s') : engineName s' = engineName s :=
  engineName_congr h.setup

end State.Keeps

@[simp] theorem State.trace_emit (s : State) (c : Callback) :
    (s.emit c).world.trace = s.world.trace ++ [.callback c] := rfl

@[simp] theorem State.storage_emit (s : State) (c : Callback) : (s.emit c).storage = s.storage :=
  rfl

theorem keeps_prepare (io : PrepareIO) (s : State) : s.Keeps (prepare io s).2 := by
  simp only [prepare]
  split
  · have hinit : s.Keeps { s with auth := (s.auth.init io.auth).2 } :=
      { State.Keeps.refl s with setup := AuthEngine.setup_init io.auth s.auth }
    split
    · exact hinit.emit _
    · exact hinit
  · have hinit := (State.Keeps.refl s).handles (s.engine.init io.engine).2
    split
    · exact (hinit s.tee).emit _
    · split
      · split
        · exact (hinit (s.tee.openTee io.tee).2).emit _
        · exact hinit (s.tee.openTee io.tee).2
      · exact hinit s.tee

/-- `prepare` reports exactly its failure. -/
theorem trace_prepare (io : PrepareIO) (s : State) :
    (prepare io s).2.world.trace =
      s.world.trace ++
        if (prepare io s).1 then [] else [.callback (.onError .hwUnavailable)] := by
  simp only [prepare]
  split
  · split <;> simp
  · split
    · simp
    · split
      · split <;> simp
      · simp

/-! ### The template stores -/

@[simp] theorem world_removeFeature (io : RemoveFeatureIO) (s : State) :
    (removeFeature io s).2.world = s.world := by
  simp only [removeFeature]
  split
  · rfl
  · split
    · rfl
    · split <;> rfl

@[simp] theorem world_storeFeature (io : StoreFeatureIO) (t : Template) (nv21 : Nv21) (s : State) :
    (storeFeature io t nv21 s).2.world = s.world := by
  simp only [storeFeature]
  split
  · simp
  · split
    · simp
    · split <;> simp

end OneplusHal.Face

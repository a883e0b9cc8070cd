import OneplusHal.Face.AuthEngine
import OneplusHal.Lib.Machine

/-!
The calls into the st_auth SDK over the whole life of an engine.

For the SDK there is one thing that a call can be too early or too late for: that a
successful `st_auth_init` has not been deinitialised yet. `deinit` goes by the library
instead of by `mInitialized`, so taking back an initialisation that stopped before
`st_auth_init` calls `st_auth_deinit` out of turn. Nothing else does: in a life in which
no initialisation fails once the symbols are there, the calls are paired.
-/

namespace OneplusHal.Face

open OneplusHal

/-- A call that works on a face, on a frame or on the templates. -/
def StFunction.needsInit : StFunction → Bool
  | .initLicense | .setTeeCommunicationFunc | .authInit | .authDeinit => false
  | _ => true

/-- Whether the SDK is initialised after a call. -/
def sdkStep (initialised : Bool) (c : StCall) : Bool :=
  match c.fn with
  | .authInit => initialised || c.succeeded
  | .authDeinit => false
  | _ => initialised

/-- The SDK may be called so in this state. -/
structure CallAdmitted (useTee initialised : Bool) (c : StCall) : Prop where
  deinit : c.fn = .authDeinit → initialised = true
  face : c.fn.needsInit = true → initialised = true ∧ c.loaded = true
  tee : useTee = true → (initialised || sdkStep initialised c) = true → c.teeOpen = true

namespace AuthEngine

def sdkInitialised (a : AuthEngine) : Bool := Machine.run sdkStep false a.calls

/-- Every call was admitted, and the TEE session is open where the SDK is initialised. -/
structure Paired (a : AuthEngine) : Prop where
  calls : Machine.Along sdkStep (CallAdmitted a.mUseTee) false a.calls
  tee : a.sdkInitialised = true → a.mUseTee = true → a.sHandle = true

/-! ### Lives of an engine -/

/-- The calls of an operation that `prepare` has admitted. -/
inductive Use
  | beginEnroll (io : BeginEnrollIO) (storage : Storage)
  | enroll (origin : ℕ) (answer : EnrollAnswer) (storage : Storage)
  | beginAuthenticate (setFaceOrientation requireAttention : Bool) (storage : Storage)
  | authenticate (status : AuthStatus) (storage : Storage)

def Use.apply (a : AuthEngine) : Use → AuthEngine
  | .beginEnroll io s => (a.beginEnroll io s).2.1
  | .enroll origin answer s => (a.enroll origin answer s).2.1
  | .beginAuthenticate orientation attention s => (a.beginAuthenticate orientation attention s).2
  | .authenticate status s => (a.authenticate status s).2.2

structure Life where
  engine : AuthEngine
  /-- what the last `prepare` answered -/
  prepared : Bool := false
  destroyed : Bool := false

inductive LifeInput
  | prepare (io : AuthInitIO)
  | use (u : Use)
  | removeTemplate (io : RemoveTemplateIO) (storage : Storage)
  | destroy

/-- What is asked of an engine that is gone, or not prepared for it, does not happen. -/
def Life.step (l : Life) (i : LifeInput) : Life :=
  if l.destroyed then l
  else
    match i with
    | .prepare io =>
        let r := l.engine.init io
        { l with engine := r.2, prepared := r.1 }
    | .use u => if l.prepared then { l with engine := u.apply l.engine } else l
    | .removeTemplate io s => { l with engine := (l.engine.removeTemplate io s).2.1 }
    | .destroy => { l with engine := l.engine.deinit, destroyed := true }

/-- A new engine, of a process that has not called the SDK yet. -/
def Life.new (useTee : Bool) : Life := { engine := { mUseTee := useTee } }

def SymbolsLoad (a : AuthEngine) (io : AuthInitIO) : Prop :=
  a.mLib = true ∨ (io.path = true ∧ io.dlopen = true ∧ ∀ fn, io.dlsym fn = true)

/-- The session is open, or the QSEECom library is there and starts the app. -/
def TeeOpens (a : AuthEngine) (io : AuthInitIO) : Prop :=
  a.sHandle = true ∨
    ((a.sStartApp = true ∨ io.teeLoad = true) ∧ true ∈ io.teeStart.take (5 * 2))

/-- No step of the initialisation fails that comes after the symbols. -/
structure InitSucceeds (a : AuthEngine) (io : AuthInitIO) : Prop where
  cmdline : io.cmdline = true
  license : some true ∈ io.licenses.take 2
  tee : a.mUseTee = true → a.TeeOpens io ∧ io.setTeeCommunicationFunc = true
  authInit : io.authInit = true

/-- The call of `init` has nothing to do, does not find the symbols, or succeeds. -/
def InitSafe (a : AuthEngine) (io : AuthInitIO) : Prop :=
  a.mInitialized = true ∨ ¬a.SymbolsLoad io ∨ a.InitSucceeds io

def Life.Safe (l : Life) (i : LifeInput) : Prop :=
  l.destroyed = true ∨
    match i with
    | .prepare io => l.engine.InitSafe io
    | .removeTemplate io _ => l.engine.InitSafe io.init
    | _ => True

/-! ### What happens between two states -/

/-- From the one state to the other only calls with `P` were made. -/
structure CallsOnly (P : StCall → Prop) (a a' : AuthEngine) : Prop where
  calls : ∃ cs, a'.calls = a.calls ++ cs ∧ ∀ c ∈ cs, P c
  mUseTee : a'.mUseTee = a.mUseTee
  mInitialized : a'.mInitialized = a.mInitialized
  mLib : a'.mLib = a.mLib
  loaded : a'.loaded = a.loaded
  sHandle : a.sHandle = true → a'.sHandle = true

namespace CallsOnly

variable {P : StCall → Prop} {a b c : AuthEngine}

theorem refl (a : AuthEngine) : CallsOnly P a a :=
  ⟨⟨[], (List.append_nil _).symm, nofun⟩, rfl, rfl, rfl, rfl, id⟩

theorem trans (h : CallsOnly P a b) (h' : CallsOnly P b c) : CallsOnly P a c := by
  obtain ⟨cs, hcs, hP⟩ := h.calls
  obtain ⟨cs', hcs', hP'⟩ := h'.calls
  refine ⟨⟨cs ++ cs', by rw [hcs', hcs, List.append_assoc], ?_⟩, h'.mUseTee.trans h.mUseTee,
    h'.mInitialized.trans h.mInitialized, h'.mLib.trans h.mLib, h'.loaded.trans h.loaded,
    fun ho => h'.sHandle (h.sHandle ho)⟩
  intro c hc
  rcases List.mem_append.mp hc with hc | hc
  · exact hP c hc
  · exact hP' c hc

theorem call {fn : StFunction} {succeeded : Bool}
    (h : P ⟨fn, succeeded, a.loaded fn, a.sHandle⟩) : CallsOnly P a (a.call fn succeeded) :=
  ⟨⟨[_], rfl, by simpa using h⟩, rfl, rfl, rfl, rfl, id⟩

end CallsOnly

/-- A call on the way to `st_auth_init`, the failed `st_auth_init` included. -/
def Preliminary (c : StCall) : Prop :=
  c.fn ≠ .authDeinit ∧ c.fn.needsInit = false ∧ sdkStep false c = false

/-- A call that may be made while the SDK is initialised, and leaves it so. -/
def Working (useTee : Bool) (c : StCall) : Prop :=
  c.fn.needsInit = true ∧ c.loaded = true ∧ (useTee = true → c.teeOpen = true)

theorem Preliminary.admitted {c : StCall} (h : Preliminary c) (useTee : Bool) :
    CallAdmitted useTee false c ∧ sdkStep false c = false := by
  obtain ⟨hdeinit, hface, hstep⟩ := h
  refine ⟨⟨fun h => absurd h hdeinit, fun h => ?_, fun _ h => ?_⟩, hstep⟩
  · rw [hface] at h
    exact absurd h Bool.false_ne_true
  · rw [hstep] at h
    exact absurd h Bool.false_ne_true

theorem Working.admitted {useTee : Bool} {c : StCall} (h : Working useTee c) :
    CallAdmitted useTee true c ∧ sdkStep true c = true := by
  obtain ⟨hface, hloaded, htee⟩ := h
  refine ⟨⟨fun _ => rfl, fun _ => ⟨rfl, hloaded⟩, fun h _ => htee h⟩, ?_⟩
  cases hfn : c.fn <;> simp_all [sdkStep, StFunction.needsInit]

theorem sdkInitialised_of_append {a a' : AuthEngine} {cs : List StCall}
    (h : a'.calls = a.calls ++ cs) :
    a'.sdkInitialised = Machine.run sdkStep a.sdkInitialised cs := by
  rw [sdkInitialised, h, Machine.run_append, ← sdkInitialised]

theorem along_of_append {a a' : AuthEngine} {cs : List StCall} {useTee : Bool}
    (h : a'.calls = a.calls ++ cs) :
    Machine.Along sdkStep (CallAdmitted useTee) false a'.calls ↔
      Machine.Along sdkStep (CallAdmitted useTee) false a.calls ∧
        Machine.Along sdkStep (CallAdmitted useTee) a.sdkInitialised cs := by
  rw [h, Machine.along_append, ← sdkInitialised]

/-- Calls that are admitted in the present state of the SDK and do not change it. -/
theorem CallsOnly.admitted {P : StCall → Prop} {initialised : Bool} {a a' : AuthEngine}
    (hP : ∀ c, P c → CallAdmitted a.mUseTee initialised c ∧ sdkStep initialised c = initialised)
    (h : CallsOnly P a a') (hsdk : a.sdkInitialised = initialised)
    (hcalls : Machine.Along sdkStep (CallAdmitted a.mUseTee) false a.calls) :
    Machine.Along sdkStep (CallAdmitted a'.mUseTee) false a'.calls ∧
      a'.sdkInitialised = initialised := by
  obtain ⟨cs, hcs, hall⟩ := h.calls
  have hguard : Machine.Along sdkStep (fun _ c => P c) initialised cs :=
    Machine.along_of_forall_mem hall initialised
  have hkeep : ∀ b c, b = initialised → P c → sdkStep b c = initialised := by
    rintro _ c rfl hc
    exact (hP c hc).2
  refine ⟨?_, ?_⟩
  · rw [h.mUseTee, along_of_append hcs, hsdk]
    refine ⟨hcalls, Machine.Along.of_invariant (I := (· = initialised)) ?_ rfl hguard⟩
    rintro b c rfl hc
    exact hP c hc
  · rw [sdkInitialised_of_append hcs, hsdk]
    exact Machine.Along.invariant (I := (· = initialised)) hkeep rfl hguard

/-! ### Initialisation -/

theorem loadSymbols_spec (io : AuthInitIO) {a : AuthEngine}
    (hloaded : a.mLib = true → ∀ fn, a.loaded fn = true) :
    ∃ loaded,
      (¬a.SymbolsLoad io ∧ loadSymbols io a = (false, { a with loaded })) ∨
        (a.SymbolsLoad io ∧ (∀ fn, loaded fn = true) ∧
          loadSymbols io a = (true, { a with loaded, mLib := true })) := by
  unfold loadSymbols SymbolsLoad
  split
  case isTrue hlib =>
    refine ⟨a.loaded, .inr ⟨.inl hlib, hloaded hlib, ?_⟩⟩
    rw [← hlib]
  case isFalse hlib =>
    split
    case isTrue hmissing =>
      refine ⟨a.loaded, .inl ⟨?_, rfl⟩⟩
      rintro (h | ⟨hpath, hdlopen, -⟩)
      · exact hlib h
      · rw [hpath, hdlopen] at hmissing
        exact absurd hmissing (by decide)
    case isFalse hfound =>
      have hfound' : io.path = true ∧ io.dlopen = true := by simpa using hfound
      have hall : StFunction.all.all io.dlsym = true ↔ ∀ fn, io.dlsym fn = true := by
        rw [List.all_eq_true]
        exact ⟨fun h fn => h fn (by cases fn <;> decide), fun h fn _ => h fn⟩
      refine ⟨io.dlsym, ?_⟩
      cases hok : StFunction.all.all io.dlsym with
      | true => exact .inr ⟨.inr ⟨hfound'.1, hfound'.2, hall.mp hok⟩, hall.mp hok, rfl⟩
      | false =>
          refine .inl ⟨?_, by rw [← Bool.not_eq_true _ |>.mp hlib]⟩
          rintro (h | ⟨-, -, h⟩)
          · exact hlib h
          · exact Bool.false_ne_true (hok.symm.trans (hall.mpr h))

/-- The licenses are tried up to one that is accepted, and nothing else changes. -/
theorem tryLicenses_spec (licenses : List (Option Bool)) (a : AuthEngine) :
    ∃ cs, (∀ c ∈ cs, Preliminary c) ∧
      tryLicenses licenses a =
        (decide (some true ∈ licenses), { a with calls := a.calls ++ cs }) := by
  induction licenses generalizing a with
  | nil => exact ⟨[], nofun, by simp [tryLicenses]⟩
  | cons license rest ih =>
      cases license with
      | none =>
          obtain ⟨cs, hcs, h⟩ := ih a
          exact ⟨cs, hcs, by simp [tryLicenses, h]⟩
      | some accepted =>
          have hpre (ok : Bool) :
              Preliminary ⟨.initLicense, ok, a.loaded .initLicense, a.sHandle⟩ :=
            ⟨nofun, rfl, rfl⟩
          cases accepted with
          | true => exact ⟨[_], by simpa using hpre true, by simp [tryLicenses, AuthEngine.call]⟩
          | false =>
              obtain ⟨cs, hcs, h⟩ := ih (a.call .initLicense false)
              refine ⟨_ :: cs, List.forall_mem_cons.mpr ⟨hpre false, hcs⟩, ?_⟩
              rw [tryLicenses, if_neg Bool.false_ne_true, h]
              simp [AuthEngine.call]

theorem openTee_spec (io : AuthInitIO) (a : AuthEngine) :
    ((openTee io a).1 = true ↔ a.TeeOpens io) ∧ (openTee io a).2.sHandle = (openTee io a).1 ∧
      CallsOnly Preliminary a (openTee io a).2 := by
  unfold openTee TeeOpens
  split
  case isTrue hopen => exact ⟨⟨fun _ => .inl hopen, fun _ => rfl⟩, hopen, .refl a⟩
  case isFalse hclosed =>
    dsimp only
    have hkeeps : ∀ app handle,
        CallsOnly Preliminary a { a with sStartApp := app, sHandle := handle } := fun app handle =>
      ⟨⟨[], (List.append_nil _).symm, nofun⟩, rfl, rfl, rfl, rfl, fun h => absurd h hclosed⟩
    split
    case isTrue happ =>
      have happ' : ¬(a.sStartApp = true ∨ io.teeLoad = true) := by simpa using happ
      refine ⟨⟨nofun, ?_⟩, Bool.not_eq_true _ |>.mp hclosed, hkeeps _ a.sHandle⟩
      rintro (h | ⟨h, -⟩)
      · exact absurd h hclosed
      · exact absurd h happ'
    case isFalse happ =>
      have happ' : a.sStartApp = true ∨ io.teeLoad = true := by
        simpa [Decidable.or_iff_not_imp_left] using happ
      refine ⟨?_, rfl, hkeeps _ _⟩
      rw [or_iff_right hclosed, and_iff_right happ']
      simp

/-- The stage of `initLocked` between the license and `st_auth_init`. -/
def setUpTee (io : AuthInitIO) (a : AuthEngine) : Bool × AuthEngine :=
  if a.mUseTee then
    let opened := openTee io a
    if !opened.1 then opened
    else
      (io.setTeeCommunicationFunc,
        opened.2.call .setTeeCommunicationFunc io.setTeeCommunicationFunc)
  else (true, a)

theorem initLocked_eq (io : AuthInitIO) (a : AuthEngine) :
    initLocked io a =
      let license := tryLicenses (io.licenses.take 2) a
      if !license.1 then (false, license.2)
      else
        let tee := setUpTee io license.2
        if !tee.1 then (false, tee.2) else (io.authInit, tee.2.call .authInit io.authInit) :=
  rfl

theorem setUpTee_spec (io : AuthInitIO) (a : AuthEngine) :
    ((setUpTee io a).1 = true ↔
        (a.mUseTee = true → a.TeeOpens io ∧ io.setTeeCommunicationFunc = true)) ∧
      ((setUpTee io a).1 = true → a.mUseTee = true → (setUpTee io a).2.sHandle = true) ∧
      CallsOnly Preliminary a (setUpTee io a).2 := by
  obtain ⟨hopens, hhandle, hopen⟩ := openTee_spec io a
  unfold setUpTee
  split
  case isFalse huse =>
    exact ⟨⟨fun _ h => absurd h huse, fun _ => rfl⟩, fun _ h => absurd h huse, .refl a⟩
  case isTrue huse =>
    dsimp only
    split
    case isTrue hfailed =>
      have hfailed' : (openTee io a).1 = false := by simpa using hfailed
      refine ⟨⟨fun h => ?_, fun h => hopens.mpr (h huse).1⟩, fun h => ?_, hopen⟩
      all_goals
        rw [hfailed'] at h
        exact absurd h Bool.false_ne_true
    case isFalse hok =>
      have hok' : (openTee io a).1 = true := by simpa using hok
      refine ⟨⟨fun h _ => ⟨hopens.mp hok', h⟩, fun h => (h huse).2⟩,
        fun _ _ => hhandle.trans hok', hopen.trans (.call ⟨nofun, rfl, rfl⟩)⟩

/-- Up to `st_auth_init` only preliminary calls were made, and then it was successful. -/
def Initialised (a a' : AuthEngine) : Prop :=
  ∃ b, CallsOnly Preliminary a b ∧ (b.mUseTee = true → b.sHandle = true) ∧
    a' = b.call .authInit true

theorem initLocked_spec (io : AuthInitIO) (a : AuthEngine) (hcmdline : io.cmdline = true) :
    (¬a.InitSucceeds io ∧ (initLocked io a).1 = false ∧
        CallsOnly Preliminary a (initLocked io a).2) ∨
      (a.InitSucceeds io ∧ (initLocked io a).1 = true ∧ Initialised a (initLocked io a).2) := by
  obtain ⟨cs, hcs, hlicenses⟩ := tryLicenses_spec (io.licenses.take 2) a
  have hl : CallsOnly Preliminary a { a with calls := a.calls ++ cs } :=
    ⟨⟨cs, rfl, hcs⟩, rfl, rfl, rfl, rfl, id⟩
  rw [initLocked_eq, hlicenses]
  dsimp only
  by_cases hlicense : some true ∈ io.licenses.take 2
  case neg =>
    rw [if_pos (by simpa using hlicense)]
    exact .inl ⟨fun h => hlicense h.license, rfl, hl⟩
  rw [if_neg (by simpa using hlicense)]
  obtain ⟨htee, hopen, ht⟩ := setUpTee_spec io { a with calls := a.calls ++ cs }
  cases hok : (setUpTee io { a with calls := a.calls ++ cs }).1 with
  | false =>
      refine .inl ⟨fun h => ?_, rfl, hl.trans ht⟩
      exact Bool.false_ne_true (hok.symm.trans (htee.mpr h.tee))
  | true =>
      simp only [Bool.not_true, Bool.false_eq_true, if_false]
      cases hinit : io.authInit with
      | false =>
          refine .inl ⟨fun h => Bool.false_ne_true (hinit.symm.trans h.authInit), rfl,
            (hl.trans ht).trans (.call ⟨nofun, rfl, rfl⟩)⟩
      | true =>
          refine .inr ⟨⟨hcmdline, hlicense, htee.mp hok, hinit⟩, rfl, _, hl.trans ht, ?_, rfl⟩
          exact fun huse => hopen hok (ht.mUseTee.symm.trans huse)

/-- The engine between two inputs of a life without a failed initialisation. -/
structure Balanced (a : AuthEngine) : Prop where
  paired : a.Paired
  sdk : a.sdkInitialised = a.mInitialized
  mLib : a.mLib = a.mInitialized
  loaded : a.mLib = true → ∀ fn, a.loaded fn = true

theorem Balanced.new (useTee available : Bool) :
    Balanced { mUseTee := useTee, mAvailable := available } :=
  ⟨⟨trivial, nofun⟩, rfl, rfl, nofun⟩

theorem Balanced.tee {a : AuthEngine} (h : a.Balanced) (hinit : a.mInitialized = true)
    (huse : a.mUseTee = true) : a.sHandle = true :=
  h.paired.tee (h.sdk.trans hinit) huse

/-- Calls that go with an initialised SDK, and may be made after one another. -/
theorem Balanced.working {a a' : AuthEngine} (h : a.Balanced) (hinit : a.mInitialized = true)
    (hcalls : CallsOnly (Working a.mUseTee) a a') : a'.Balanced := by
  obtain ⟨halong, hsdk⟩ :=
    hcalls.admitted (fun c hc => hc.admitted) (h.sdk.trans hinit) h.paired.calls
  have hinit' : a'.mInitialized = true := hcalls.mInitialized.trans hinit
  refine ⟨⟨halong, fun _ huse => ?_⟩, hsdk.trans hinit'.symm, ?_, ?_⟩
  · exact hcalls.sHandle (h.tee hinit (hcalls.mUseTee.symm.trans huse))
  · rw [hcalls.mLib, hcalls.mInitialized, h.mLib]
  · rw [hcalls.mLib, hcalls.loaded]
    exact h.loaded

/-- The one step by which the SDK gets initialised. -/
theorem Balanced.initialised {a a' : AuthEngine} (h : a.Balanced) (hinit : a.mInitialized = false)
    {loaded : StFunction → Bool} (hloaded : ∀ fn, loaded fn = true)
    (ha' : Initialised { a with loaded, mLib := true } a') :
    Balanced { a' with mInitialized := true } := by
  obtain ⟨b, hb, htee, rfl⟩ := ha'
  obtain ⟨halong, hsdk⟩ :=
    hb.admitted (fun c hc => hc.admitted _) (h.sdk.trans hinit) h.paired.calls
  have hcall : (b.call .authInit true).calls =
      b.calls ++ [⟨.authInit, true, b.loaded .authInit, b.sHandle⟩] := rfl
  have hdone : (b.call .authInit true).sdkInitialised = true := by
    rw [sdkInitialised_of_append hcall, hsdk]
    rfl
  refine ⟨⟨?_, fun _ huse => htee huse⟩, hdone, hb.mLib, fun _ => ?_⟩
  · refine (along_of_append hcall).mpr ⟨halong, ?_⟩
    rw [hsdk]
    exact ⟨⟨nofun, nofun, fun huse _ => htee huse⟩, trivial⟩
  · change ∀ fn, b.loaded fn = true
    rw [hb.loaded]
    exact hloaded

theorem deinit_calls {a : AuthEngine} (h : a.mLib = true) :
    a.deinit.calls = a.calls ++ [⟨.authDeinit, true, a.loaded .authDeinit, a.sHandle⟩] := by
  unfold deinit
  rw [if_pos h]
  dsimp only
  split <;> rfl

theorem deinit_mUseTee (a : AuthEngine) : a.deinit.mUseTee = a.mUseTee := by
  unfold deinit
  dsimp only
  split <;> split <;> rfl

/-- The end of a life. -/
theorem Balanced.deinit {a : AuthEngine} (h : a.Balanced) : a.deinit.Paired := by
  cases hinit : a.mInitialized with
  | false =>
      have hlib : a.mLib = false := h.mLib.trans hinit
      have hsdk : a.sdkInitialised = false := h.sdk.trans hinit
      have hcalls : a.deinit.calls = a.calls := by
        unfold AuthEngine.deinit
        rw [if_neg (by simp [hlib])]
        dsimp only
        split <;> rfl
      refine ⟨?_, fun hafter => ?_⟩
      · rw [deinit_mUseTee, hcalls]
        exact h.paired.calls
      · rw [sdkInitialised, hcalls] at hafter
        exact absurd (hsdk.symm.trans hafter) Bool.false_ne_true
  | true =>
      have hlib : a.mLib = true := h.mLib.trans hinit
      have hsdk : a.sdkInitialised = true := h.sdk.trans hinit
      refine ⟨?_, fun hafter => ?_⟩
      · rw [deinit_mUseTee, along_of_append (deinit_calls hlib), hsdk]
        refine ⟨h.paired.calls, ⟨fun _ => rfl, nofun, fun huse _ => ?_⟩, trivial⟩
        exact h.tee hinit huse
      · rw [sdkInitialised_of_append (deinit_calls hlib)] at hafter
        exact absurd hafter Bool.false_ne_true

/-- Undoing an initialisation without a successful `st_auth_init`. -/
theorem not_paired_deinit {a : AuthEngine} (hlib : a.mLib = true)
    (hsdk : a.sdkInitialised = false) : ¬a.deinit.Paired := by
  intro h
  have hcalls := h.calls
  rw [along_of_append (deinit_calls hlib), hsdk] at hcalls
  exact absurd (hcalls.2.1.deinit rfl) Bool.false_ne_true

theorem init_of_not_symbolsLoad {a : AuthEngine} {io : AuthInitIO} (h : a.Balanced)
    (hinit : a.mInitialized = false) (hsymbols : ¬a.SymbolsLoad io) :
    ∃ loaded, init io a = (false, { a with loaded }) := by
  obtain ⟨loaded, ⟨-, heq⟩ | ⟨hload, -⟩⟩ := loadSymbols_spec io h.loaded
  · exact ⟨loaded, by simp [init, hinit, heq]⟩
  · exact absurd hload hsymbols

theorem init_of_loadSymbols {a b : AuthEngine} {io : AuthInitIO} (hinit : a.mInitialized = false)
    (h : loadSymbols io a = (true, b)) :
    init io a =
      let locked := if io.cmdline then initLocked io b else (false, b)
      (locked.1,
        if locked.1 then { locked.2 with mInitialized := true }
        else deinit { locked.2 with mInitialized := false }) := by
  rw [init, if_neg (by simp [hinit]), h]
  dsimp only
  rw [if_neg (by decide)]
  generalize (if io.cmdline = true then initLocked io b else (false, b)) = locked
  obtain ⟨ok, b⟩ := locked
  cases ok <;> rfl

/-- From the symbols on, `init` initialises the SDK or takes back what it has not done. -/
theorem init_of_symbolsLoad {a : AuthEngine} {io : AuthInitIO} (h : a.Balanced)
    (hinit : a.mInitialized = false) (hsymbols : a.SymbolsLoad io) :
    ∃ loaded b, (∀ fn, loaded fn = true) ∧
      ((¬a.InitSucceeds io ∧ CallsOnly Preliminary { a with loaded, mLib := true } b ∧
          init io a = (false, deinit { b with mInitialized := false })) ∨
        (a.InitSucceeds io ∧ Initialised { a with loaded, mLib := true } b ∧
          init io a = (true, { b with mInitialized := true }))) := by
  obtain ⟨loaded, ⟨hload, -⟩ | ⟨-, hall, heq⟩⟩ := loadSymbols_spec io h.loaded
  · exact absurd hsymbols hload
  rw [init_of_loadSymbols hinit heq]
  cases hcmdline : io.cmdline with
  | false =>
      refine ⟨loaded, { a with loaded, mLib := true }, hall, .inl ⟨fun h => ?_, .refl _, ?_⟩⟩
      · exact Bool.false_ne_true (hcmdline.symm.trans h.cmdline)
      · simp
  | true =>
      refine ⟨loaded, (initLocked io { a with loaded, mLib := true }).2, hall, ?_⟩
      obtain ⟨hfails, hfalse, hpre⟩ | ⟨hsucceeds, htrue, hdone⟩ :=
        initLocked_spec io { a with loaded, mLib := true } hcmdline
      · refine .inl ⟨fun h => hfails ⟨h.cmdline, h.license, h.tee, h.authInit⟩, hpre, ?_⟩
        simp [hfalse]
      · refine .inr ⟨⟨hcmdline, hsucceeds.license, hsucceeds.tee, hsucceeds.authInit⟩, hdone, ?_⟩
        simp [htrue]

/-- What one call of `init` does to a balanced engine. -/
theorem Balanced.init {a : AuthEngine} (h : a.Balanced) (io : AuthInitIO) :
    (a.InitSafe io ∧ (init io a).2.Balanced ∧ ((init io a).1 = (init io a).2.mInitialized)) ∨
      (¬a.InitSafe io ∧ (init io a).1 = false ∧ ¬(init io a).2.Paired) := by
  cases hinit : a.mInitialized with
  | true =>
      have heq : AuthEngine.init io a = (true, a) := by simp [AuthEngine.init, hinit]
      rw [heq]
      exact .inl ⟨.inl hinit, h, hinit.symm⟩
  | false =>
      by_cases hsymbols : a.SymbolsLoad io
      case neg =>
        obtain ⟨loaded, heq⟩ := init_of_not_symbolsLoad h hinit hsymbols
        rw [heq]
        refine .inl ⟨.inr (.inl hsymbols), ⟨⟨h.paired.calls, h.paired.tee⟩, h.sdk, h.mLib, ?_⟩,
          hinit.symm⟩
        exact fun hlib => absurd ((h.mLib.trans hinit).symm.trans hlib) Bool.false_ne_true
      case pos =>
        obtain ⟨loaded, b, hall, ⟨hfails, hpre, heq⟩ | ⟨hsucceeds, hdone, heq⟩⟩ :=
          init_of_symbolsLoad h hinit hsymbols
        · rw [heq]
          refine .inr ⟨?_, rfl, ?_⟩
          · rintro (hdone | hno | hyes)
            · exact absurd (hinit.symm.trans hdone) Bool.false_ne_true
            · exact hno hsymbols
            · exact hfails hyes
          · have hsdk := (hpre.admitted (fun c hc => hc.admitted _) (h.sdk.trans hinit)
              h.paired.calls).2
            exact not_paired_deinit hpre.mLib hsdk
        · rw [heq]
          exact .inl ⟨.inr (.inr hsucceeds), h.initialised hinit hall hdone, rfl⟩

/-! ### Operations -/

/-- The engine may work on faces. -/
structure Ready (a : AuthEngine) : Prop where
  loaded : ∀ fn, a.loaded fn = true
  tee : a.mUseTee = true → a.sHandle = true

theorem Balanced.ready {a : AuthEngine} (h : a.Balanced) (hinit : a.mInitialized = true) :
    a.Ready :=
  ⟨h.loaded (h.mLib.trans hinit), h.tee hinit⟩

section

variable {a b : AuthEngine}

/-- One more call of a ready engine. -/
theorem Ready.call (h : a.Ready) (hb : CallsOnly (Working a.mUseTee) a b) (fn : StFunction)
    (hfn : fn.needsInit = true) (succeeded : Bool) :
    CallsOnly (Working a.mUseTee) a (b.call fn succeeded) := by
  refine hb.trans (.call ⟨hfn, ?_, fun huse => hb.sHandle (h.tee huse)⟩)
  rw [hb.loaded]
  exact h.loaded fn

theorem callsOnly_configured {P : StCall → Prop} (a : AuthEngine) (mConfig mAccepted : ℕ)
    (mFaceId : Int) : CallsOnly P a { a with mConfig, mAccepted, mFaceId } :=
  ⟨⟨[], (List.append_nil _).symm, nofun⟩, rfl, rfl, rfl, rfl, id⟩

theorem Ready.beginEnroll (h : a.Ready) (io : BeginEnrollIO) (s : Storage) :
    CallsOnly (Working a.mUseTee) a (a.beginEnroll io s).2.1 := by
  have hreset := h.call (callsOnly_configured a a.mConfig 0 a.mFaceId) .authReset rfl true
  have hdelete := h.call hreset .deleteAllFaces rfl
  have himages (ok : Bool) :=
    h.call (hdelete ok) .setImageNumber rfl io.setImageNumber
  unfold AuthEngine.beginEnroll
  dsimp only
  split
  · exact himages _
  · split <;> exact h.call (himages _) .setFaceOrientation rfl io.setFaceOrientation

theorem Ready.enroll (h : a.Ready) (origin : ℕ) (answer : EnrollAnswer) (s : Storage) :
    CallsOnly (Working a.mUseTee) a (a.enroll origin answer s).2.1 := by
  have henroll := h.call (.refl a) .authEnroll rfl true
  unfold AuthEngine.enroll
  dsimp only
  cases answer.status with
  | ok | enrollOk =>
      -- The template may be stored or not, and the face id saved or not.
      dsimp only
      split <;> split <;> exact henroll
  | enrollKeep => exact henroll.trans (callsOnly_configured _ _ _ _)
  | _ => exact henroll

theorem Ready.beginAuthenticate (h : a.Ready) (setFaceOrientation requireAttention : Bool)
    (s : Storage) :
    CallsOnly (Working a.mUseTee) a
      (a.beginAuthenticate setFaceOrientation requireAttention s).2 := by
  unfold AuthEngine.beginAuthenticate
  split
  · exact .refl a
  · have hreset (mConfig : ℕ) (mFaceId : Int) :=
      h.call (callsOnly_configured a mConfig a.mAccepted mFaceId) .authReset rfl true
    dsimp only
    split <;> exact h.call (hreset _ _) .setFaceOrientation rfl setFaceOrientation

theorem Ready.authenticate (h : a.Ready) (status : AuthStatus) (s : Storage) :
    CallsOnly (Working a.mUseTee) a (a.authenticate status s).2.2 := by
  unfold AuthEngine.authenticate
  dsimp only
  split <;> exact h.call (.refl a) .authUnlock rfl true

theorem Ready.use (h : a.Ready) (u : Use) : CallsOnly (Working a.mUseTee) a (u.apply a) := by
  cases u with
  | beginEnroll io s => exact h.beginEnroll io s
  | enroll origin answer s => exact h.enroll origin answer s
  | beginAuthenticate orientation attention s => exact h.beginAuthenticate orientation attention s
  | authenticate status s => exact h.authenticate status s

/-- The template is removed once the engine is initialised. -/
theorem Ready.clear (h : a.Ready) (ok : Bool) :
    CallsOnly (Working a.mUseTee) a ((a.call .authReset true).call .deleteAllFaces ok) :=
  h.call (h.call (.refl a) .authReset rfl true) .deleteAllFaces rfl ok

/-- `removeTemplate` stops where `init` fails, and clears the templates otherwise. -/
theorem removeTemplate_engine (io : RemoveTemplateIO) (a : AuthEngine) (s : Storage) :
    ((a.init io.init).1 = false ∧ (a.removeTemplate io s).2.1 = (a.init io.init).2) ∨
      ((a.init io.init).1 = true ∧ ∃ ok, (a.removeTemplate io s).2.1 =
        ((a.init io.init).2.call .authReset true).call .deleteAllFaces ok) := by
  unfold removeTemplate
  cases hinit : (a.init io.init).1 with
  | false => exact .inl ⟨rfl, by simp [hinit]⟩
  | true =>
      refine .inr ⟨rfl,
        (deleteAllFaces io.delete (s.stAuth (a.init io.init).2.mUseTee)).1 = .ok, ?_⟩
      simp only [hinit, Bool.not_true, Bool.false_eq_true, if_false]
      split <;> rfl

end

/-! ### Lives -/

namespace Life

/-- A life so far without a failed initialisation. -/
structure Sound (l : Life) : Prop where
  paired : l.engine.Paired
  balanced : l.destroyed = false → l.engine.Balanced
  prepared : l.destroyed = false → l.prepared = true → l.engine.mInitialized = true

theorem sound_new (useTee available : Bool) :
    Sound { engine := { mUseTee := useTee, mAvailable := available } } :=
  ⟨(Balanced.new useTee available).paired, fun _ => .new useTee available, nofun⟩

/-- A sound life goes on so exactly with a safe input. -/
theorem Sound.step {l : Life} (h : l.Sound) (i : LifeInput) :
    ((l.step i).engine.Paired ↔ l.Safe i) ∧ (l.Safe i → (l.step i).Sound) := by
  unfold Life.step Safe
  cases hd : l.destroyed with
  | true =>
      rw [if_pos rfl]
      exact ⟨iff_of_true h.paired (.inl rfl), fun _ => h⟩
  | false =>
      rw [if_neg Bool.false_ne_true]
      have hbal := h.balanced hd
      simp only [Bool.false_eq_true, false_or]
      cases i with
      | prepare io =>
          obtain ⟨hsafe, hb, hret⟩ | ⟨hbad, -, hnot⟩ := hbal.init io
          · exact ⟨iff_of_true hb.paired hsafe, fun _ =>
              ⟨hb.paired, fun _ => hb, fun _ hp => hret.symm.trans hp⟩⟩
          · exact ⟨iff_of_false hnot hbad, fun hsafe => absurd hsafe hbad⟩
      | use u =>
          dsimp only
          split
          case isFalse => exact ⟨iff_of_true h.paired trivial, fun _ => h⟩
          case isTrue hp =>
            have hinit := h.prepared hd hp
            have hcalls := (hbal.ready hinit).use u
            have hb := hbal.working hinit hcalls
            exact ⟨iff_of_true hb.paired trivial, fun _ =>
              ⟨hb.paired, fun _ => hb, fun _ _ => hcalls.mInitialized.trans hinit⟩⟩
      | removeTemplate io s =>
          dsimp only
          obtain ⟨hsafe, hb, hret⟩ | ⟨hbad, hfalse, hnot⟩ := hbal.init io.init
          · have hb' : (l.engine.removeTemplate io s).2.1.Balanced ∧
                ((l.engine.init io.init).2.mInitialized = true →
                  (l.engine.removeTemplate io s).2.1.mInitialized = true) := by
              obtain ⟨-, heq⟩ | ⟨hok, ok, heq⟩ := removeTemplate_engine io l.engine s
              · rw [heq]
                exact ⟨hb, id⟩
              · rw [heq]
                have hinit := hret.symm.trans hok
                exact ⟨hb.working hinit ((hb.ready hinit).clear ok), id⟩
            refine ⟨iff_of_true hb'.1.paired hsafe, fun _ => ⟨hb'.1.paired, fun _ => hb'.1, ?_⟩⟩
            intro _ hp
            have hinit := h.prepared hd hp
            refine hb'.2 ?_
            rwa [show l.engine.init io.init = (true, l.engine) by simp [AuthEngine.init, hinit]]
          · obtain ⟨-, heq⟩ | ⟨hok, -⟩ := removeTemplate_engine io l.engine s
            · rw [heq]
              exact ⟨iff_of_false hnot hbad, fun hsafe => absurd hsafe hbad⟩
            · exact absurd (hfalse.symm.trans hok) Bool.false_ne_true
      | destroy =>
          exact ⟨iff_of_true hbal.deinit trivial, fun _ => ⟨hbal.deinit, nofun, nofun⟩⟩

/-- The calls of a life stay paired exactly as long as no `init` fails after the symbols. -/
theorem paired_iff_safe (useTee : Bool) (is : List LifeInput) :
    Machine.Along step (fun l i => (l.step i).engine.Paired) (new useTee) is ↔
      Machine.Along step Safe (new useTee) is :=
  Machine.along_iff (I := Sound) (fun _ i h => (h.step i).1) (fun _ i h => (h.step i).2)
    (sound_new useTee false) is

/-- The library is there, and the first license cannot be read, nor the second. -/
def unlicensed : AuthInitIO where
  path := true
  dlopen := true
  dlsym := fun _ => true
  cmdline := true
  licenses := [none, none]
  teeLoad := true
  teeStart := []
  setTeeCommunicationFunc := true
  authInit := true

/-- The SDK is deinitialised before anything has initialised it. -/
theorem deinit_before_init :
    ((new false).step (.prepare unlicensed)).engine.calls = [⟨.authDeinit, true, true, false⟩] ∧
      ¬Machine.Along step (fun l i => (l.step i).engine.Paired) (new false)
        [.prepare unlicensed] := by
  refine ⟨by decide, fun h => ?_⟩
  have hcalls := h.1.calls
  exact absurd (hcalls.1.deinit rfl) Bool.false_ne_true

end Life

end AuthEngine

end OneplusHal.Face

import OneplusHal.Face.EngineCalls
import OneplusHal.Face.EngineHandles
import OneplusHal.Face.FilesLedger
import OneplusHal.Face.StAuthCalls

/-!
The initialisation of the engines, with the files and the cmdline that it needs.

Whatever fails, the process has its own cmdline again afterwards and its files are closed, but for
the archives that could not be opened. What the engines see of it is whether each step has worked.
-/

namespace OneplusHal.Face.EngineFiles

open Raster Raster.Buffer

variable {cmdline : Option Bytes} {cells : Bytes} {inUse : List Resource} {p : Process}

/-! ### The cmdline -/

/-- There is room for the name of the stock app. -/
def Process.fits (p : Process) : Bool := kCmdline.length < p.cmdline.length

theorem Process.fits_congr {p' : Process}
    (h : p'.sCmdline.map Buffer.cells = p.sCmdline.map Buffer.cells) : p'.fits = p.fits := by
  rw [Process.fits, Process.cmdline, h]
  rfl

theorem Kept.setCmdline (h : Kept cmdline inUse p) (region : Option (Buffer Char)) :
    Kept (region.map Buffer.cells) inUse { p with sCmdline := region } :=
  ⟨h.numbered, h.nodup, h.apart, h.fit, rfl⟩

theorem isStock_of_copied {b b' : Buffer Char} {n : ℕ} (hcells : b.cells = List.replicate n nul)
    (h : Copied 0 (kCmdline ++ [nul]) b b') : IsStock b'.cells := by
  refine ⟨n - (kCmdline ++ [nul]).length, ?_⟩
  rw [h.cells_eq, hcells, List.drop_replicate, List.append_assoc, List.singleton_append,
    ← List.replicate_succ]

/-- The name of the stock app can be put in, and the bytes of before again after it. -/
theorem withStockCmdline_cases {α : Type} {fn : α → Process → Bool × α × Process}
    (hfn : ∀ a p cells, Kept (some cells) [] p → IsStock cells →
      Kept (some cells) [] (fn a p).2.2) (a : α) (h : Kept cmdline [] p) :
    (p.fits = false ∧ withStockCmdline fn a p = some (false, a, p)) ∨
      p.fits = true ∧ ∃ stock p', Kept cmdline [] p' ∧ withStockCmdline fn a p =
        some ((fn a { p with sCmdline := some stock }).1,
          (fn a { p with sCmdline := some stock }).2.1, p') := by
  cases hregion : p.sCmdline with
  | none =>
      refine .inl ⟨?_, by rw [withStockCmdline, hregion]⟩
      rw [Process.fits, Process.cmdline, hregion]
      rfl
  | some region =>
      have hcmdline : p.cmdline = region.cells := by
        rw [Process.cmdline, hregion]
        rfl
      rw [withStockCmdline, hregion, Process.fits, hcmdline]
      dsimp only
      split
      · rename_i hshort
        exact .inl ⟨decide_eq_false (Nat.not_lt.mpr hshort), rfl⟩
      rename_i hroom
      have hroom := Nat.lt_of_not_le hroom
      obtain ⟨cleared, hclear, hcleared⟩ := memset_copied (b := region) (i := 0)
        (n := region.cells.length) (by omega) nul
      have hnul : cleared.cells = List.replicate region.cells.length nul := by
        rw [hcleared.cells_eq, List.length_replicate, List.drop_length, List.append_nil]
      obtain ⟨stock, hcopy, hcopied⟩ := memcpy_block (b := cleared) (i := 0) (kCmdline ++ [nul])
        (by rw [hcleared.length, List.length_append, List.length_singleton]; omega)
      have hkept := hfn a { p with sCmdline := some stock } stock.cells (h.setCmdline (some stock))
        (isStock_of_copied hnul hcopied)
      obtain ⟨after, hafter, hsame⟩ := Option.map_eq_some_iff.mp hkept.cmdline
      have hlength : after.cells.length = region.cells.length := by
        rw [hsame, hcopied.length, hcleared.length]
      obtain ⟨restored, hrestore, hrestored⟩ := memcpy_block (b := after) (i := 0) region.cells
        (by omega)
      have hback : restored.cells = region.cells := by
        rw [hrestored.cells_eq, ← hlength, List.drop_length, List.append_nil]
      refine .inr ⟨decide_eq_true hroom, stock,
        { (fn a { p with sCmdline := some stock }).2.2 with sCmdline := some restored }, ?_, ?_⟩
      · have hown : (some restored).map Buffer.cells = cmdline := by
          rw [← h.cmdline, hregion, Option.map_some, Option.map_some, hback]
        rw [← hown]
        exact hkept.setCmdline (some restored)
      · simp only [hclear, hcopy, hafter, hrestore, Option.bind_eq_bind, Option.bind_some]
        rfl

/-! ### The cv engine -/

def ArchiveAnswer.isOpened : ArchiveAnswer → Bool
  | .opened => true
  | .failed _ => false

def EntryAnswer.works (io : EntryAnswer) : Bool := io.found && io.extracted

def PathAnswer.works (io : PathAnswer) : Bool := io.found && io.memfd && io.extracted

/-- What the engine sees of its files. -/
def FaceAnswers.outcomes (io : FaceAnswers) (cmdline : Bool) : EngineInitIO where
  dlopen := io.dlopen
  cmdline := cmdline
  license := io.archive.isOpened && io.license.works && io.initLicense && io.initLicenseSnpe
  models := [kDetect, kAlign, kOcular, kVerify, kLiveness].all fun name => (io.path name).works
  createDetector := io.createDetector
  createDetector640 := io.createDetector640
  createOcular := io.createOcular
  createVerify := io.createVerify
  createHackness := io.createHackness

theorem Models.read_fst (name : String) (io : EntryAnswer) (m : Models) (p : Process) :
    (m.read name io p).1 = io.works := by
  simp only [Models.read, EntryAnswer.works]
  cases io.found <;> rfl

theorem Models.isSome_path (name : String) (io : PathAnswer) (m : Models) (p : Process) :
    (m.path name io p).1.isSome = io.works := by
  simp only [Models.path, PathAnswer.works, Process.handOut]
  cases io.found <;> cases io.memfd <;> cases io.extracted <;> rfl

theorem Models.isSome_paths (io : String → PathAnswer) (names : List String) (m : Models)
    (p : Process) :
    (m.paths io names p).1.map Option.isSome = names.map fun name => (io name).works := by
  induction names generalizing m p with
  | nil => rfl
  | cons name rest ih => rw [Models.paths, List.map_cons, List.map_cons, Models.isSome_path, ih]

/-- Five paths are there if all five entries could be extracted. -/
theorem five_paths {fds : List (Option ℕ)}
    (h : fds.map Option.isSome = List.replicate 5 true) :
    ∃ detect align ocular verify liveness,
      fds = [some detect, some align, some ocular, some verify, some liveness] := by
  simp only [List.replicate_succ, List.replicate_zero, List.map_eq_cons_iff, List.map_eq_nil_iff,
    Option.isSome_iff_exists] at h
  obtain ⟨_, _, rfl, ⟨detect, rfl⟩, _, _, rfl, ⟨align, rfl⟩, _, _, rfl, ⟨ocular, rfl⟩, _, _, rfl,
    ⟨verify, rfl⟩, _, _, rfl, ⟨liveness, rfl⟩, rfl⟩ := h
  exact ⟨detect, align, ocular, verify, liveness, rfl⟩

theorem createHandles_eq {io : FaceAnswers} {c : Bool} (hlicense : (io.outcomes c).license = true)
    (hmodels : (io.outcomes c).models = true) (detect align ocular verify liveness : ℕ)
    (e : FaceEngine) (p : Process) :
    FaceEngine.initLocked (io.outcomes c) e =
      ((createHandles io detect align ocular verify liveness e p).1,
        (createHandles io detect align ocular verify liveness e p).2.1) := by
  have hgo : ¬(!(io.outcomes c).license || !(io.outcomes c).models) = true := by
    rw [hlicense, hmodels]
    exact Bool.false_ne_true
  rw [FaceEngine.initLocked, if_neg hgo, createHandles]
  clear hgo hlicense hmodels
  obtain ⟨_, _, _, _, _, _, detector, detector640, ocular, verify, hackness⟩ := io
  cases detector <;> cases detector640 <;> cases ocular <;> cases verify <;> cases hackness <;> rfl

theorem initLocked_of_not {io : FaceAnswers} {c : Bool}
    (h : (io.outcomes c).license = false ∨ (io.outcomes c).models = false) (e : FaceEngine) :
    FaceEngine.initLocked (io.outcomes c) e = (false, e) := by
  rw [FaceEngine.initLocked, if_pos]
  obtain h | h := h
  · rw [h]
    rfl
  · rw [h, Bool.not_false, Bool.or_true]

theorem initWith_eq {io : FaceAnswers} (hopened : io.archive.isOpened = true) (c : Bool)
    (m : Models) (e : FaceEngine) (p : Process) :
    FaceEngine.initLocked (io.outcomes c) e =
      ((initWith io m e p).1, (initWith io m e p).2.1) := by
  have hlicense : (io.outcomes c).license =
      (io.license.works && io.initLicense && io.initLicenseSnpe) := by
    rw [FaceAnswers.outcomes, hopened, Bool.true_and]
  rw [initWith]
  dsimp only
  rw [Models.read_fst]
  split
  · rename_i hread
    rw [Bool.not_eq_true'] at hread
    exact initLocked_of_not (.inl (by rw [hlicense, hread]; rfl)) e
  rename_i hread
  rw [Bool.not_eq_true', Bool.not_eq_false] at hread
  rw [hread, Bool.true_and] at hlicense
  split
  · rename_i hrejected
    rw [← Bool.not_and, Bool.not_eq_true'] at hrejected
    exact initLocked_of_not (.inl (hlicense.trans hrejected)) e
  rename_i haccepted
  rw [← Bool.not_and, Bool.not_eq_true', Bool.not_eq_false] at haccepted
  have hlicense := hlicense.trans haccepted
  have hpaths := Models.isSome_paths io.path [kDetect, kAlign, kOcular, kVerify, kLiveness] m
    (((m.read kLicense io.license p).2.ask .initLicense).ask .initLicenseSnpe)
  split
  · rename_i detect align ocular verify liveness heq
    rw [heq] at hpaths
    have hmodels : (io.outcomes c).models = true := by
      simp only [FaceAnswers.outcomes]
      simpa using hpaths
    exact createHandles_eq hlicense hmodels _ _ _ _ _ e _
  · rename_i hnone
    refine initLocked_of_not (.inr (Bool.eq_false_iff.mpr fun hmodels => ?_)) e
    have hall : ([kDetect, kAlign, kOcular, kVerify, kLiveness].map fun name =>
        (io.path name).works) = List.replicate 5 true := by
      simp only [FaceAnswers.outcomes] at hmodels
      simpa using hmodels
    obtain ⟨detect, align, ocular, verify, liveness, heq⟩ := five_paths (hpaths.trans hall)
    exact hnone _ _ _ _ _ heq

theorem faceInitLocked_eq (io : FaceAnswers) (c : Bool) (e : FaceEngine) (p : Process) :
    FaceEngine.initLocked (io.outcomes c) e =
      ((faceInitLocked io e p).1, (faceInitLocked io e p).2.1) := by
  cases harchive : io.archive with
  | opened =>
      simp only [faceInitLocked, harchive, Models.openModels, openArchive, Process.handOut, if_true,
        Option.map_some]
      exact initWith_eq (by rw [harchive]; rfl) c _ e _
  | failed object =>
      simp only [faceInitLocked, harchive, Models.openModels]
      refine initLocked_of_not (.inl ?_) e
      rw [FaceAnswers.outcomes, harchive]
      rfl

/-- Nothing is left behind, and the engine is what it is taken for. -/
theorem Kept.faceInit (h : Kept cmdline [] p) (io : FaceAnswers) (e : FaceEngine) :
    ∃ p', Kept cmdline [] p' ∧ faceInit io e p =
      some ((FaceEngine.init (io.outcomes p.fits) e).1,
        (FaceEngine.init (io.outcomes p.fits) e).2, p') := by
  have hdlopen : (io.outcomes p.fits).dlopen = io.dlopen := rfl
  rw [EngineFiles.faceInit, FaceEngine.init, hdlopen]
  split
  · exact ⟨p, h, rfl⟩
  split
  · exact ⟨p, h, rfl⟩
  obtain ⟨hfits, hinit⟩ | ⟨hfits, stock, p', hp', hinit⟩ := withStockCmdline_cases
    (fun e _ _ h hstock => h.faceInitLocked hstock io e) { e with mLib := true } h
  · rw [hinit, hfits]
    exact ⟨p, h, rfl⟩
  · refine ⟨p', hp', ?_⟩
    rw [hinit, hfits]
    dsimp only
    rw [faceInitLocked_eq io true { e with mLib := true } { p with sCmdline := some stock }]
    rfl

/-! ### The auth engine -/

/-- What the engine sees of a license. -/
def AuthAnswers.licenseOutcome (io : AuthAnswers) (name : String) : Option Bool :=
  if (io.license name).1.isOpened && (io.license name).2.works then some (io.accepted name)
  else none

/-- What the engine sees of its files. -/
def AuthAnswers.outcomes (io : AuthAnswers) (cmdline : Bool) : AuthInitIO :=
  { io.rest with
    path := io.vendor || (io.library.1.isOpened && io.library.2.found)
    cmdline := cmdline
    licenses := kLicenses.map io.licenseOutcome }

theorem readEntry_fst (name : String) (out : Bool) (answer : ArchiveAnswer) (io : EntryAnswer)
    (p : Process) :
    (readEntry name out answer io p).1 =
      (answer.isOpened && io.found && (!out || io.extracted)) := by
  cases answer with
  | opened =>
      simp only [readEntry, openArchive, Process.handOut, if_true]
      cases io.found <;> cases out <;> rfl
  | failed object => cases object <;> rfl

theorem loadSymbols_eq (io : AuthAnswers) (c : Bool) (a : AuthEngine) (p : Process) :
    AuthEngine.loadSymbols (io.outcomes c) a =
      ((loadSymbols io a p).1, (loadSymbols io a p).2.1) := by
  have hpath : (engineLibraryPath io p).1 = (io.outcomes c).path := by
    simp only [engineLibraryPath, AuthAnswers.outcomes]
    cases io.vendor with
    | true => rfl
    | false =>
        show (readEntry kLibraryEntry false io.library.1 io.library.2 p).1 = _
        rw [readEntry_fst, Bool.not_false, Bool.true_or, Bool.and_true, Bool.false_or]
  have hdlopen : (io.outcomes c).dlopen = io.rest.dlopen := rfl
  rw [AuthEngine.loadSymbols, loadSymbols]
  split
  · rfl
  dsimp only
  rw [hpath, hdlopen]
  split
  · rfl
  · rfl

theorem tryLicenses_eq (io : AuthAnswers) (names : List String) (a : AuthEngine) (p : Process) :
    AuthEngine.tryLicenses (names.map io.licenseOutcome) a =
      ((tryLicenses io names a p).1, (tryLicenses io names a p).2.1) := by
  induction names generalizing a p with
  | nil => rfl
  | cons name rest ih =>
      have hread : (readEntry name true (io.license name).1 (io.license name).2 p).1 =
          ((io.license name).1.isOpened && (io.license name).2.works) := by
        rw [readEntry_fst, Bool.not_true, Bool.false_or, Bool.and_assoc]
        rfl
      rw [List.map_cons, tryLicenses, AuthAnswers.licenseOutcome]
      dsimp only
      rw [hread]
      split
      · rename_i hworks
        rw [hworks, Bool.not_true, if_neg Bool.false_ne_true, AuthEngine.tryLicenses]
        split
        · rfl
        · exact ih _ _
      · rename_i hworks
        rw [Bool.eq_false_iff.mpr hworks, Bool.not_false, if_pos rfl, AuthEngine.tryLicenses]
        exact ih a _

theorem setUpTee_eq (io : AuthAnswers) (c : Bool) (a : AuthEngine) (p : Process) :
    AuthEngine.setUpTee (io.outcomes c) a = ((setUpTee io a p).1, (setUpTee io a p).2.1) := by
  have hopen : AuthEngine.openTee (io.outcomes c) a = AuthEngine.openTee io.rest a := rfl
  rw [AuthEngine.setUpTee, setUpTee, hopen]
  split
  · dsimp only
    split
    · rename_i hfailed
      rw [Bool.not_eq_true'] at hfailed
      exact Prod.ext hfailed rfl
    · rfl
  · rfl

theorem authInitLocked_eq (io : AuthAnswers) (c : Bool) (a : AuthEngine) (p : Process) :
    AuthEngine.initLocked (io.outcomes c) a =
      ((authInitLocked io a p).1, (authInitLocked io a p).2.1) := by
  have hlicense := tryLicenses_eq io kLicenses a p
  have htee := setUpTee_eq io c (tryLicenses io kLicenses a p).2.1
    (tryLicenses io kLicenses a p).2.2
  have htake : (io.outcomes c).licenses.take 2 = kLicenses.map io.licenseOutcome := rfl
  rw [AuthEngine.initLocked_eq, authInitLocked, htake, hlicense]
  dsimp only
  rw [htee]
  split
  · rename_i hfailed
    rw [Bool.not_eq_true'] at hfailed
    exact Prod.ext hfailed.symm rfl
  split
  · rename_i hfailed
    rw [Bool.not_eq_true'] at hfailed
    exact Prod.ext hfailed.symm rfl
  · rfl

/-- Nothing is left behind, and the engine is what it is taken for. -/
theorem Kept.authInit (h : Kept cmdline [] p) (io : AuthAnswers) (a : AuthEngine) :
    ∃ p', Kept cmdline [] p' ∧ authInit io a p =
      some ((AuthEngine.init (io.outcomes p.fits) a).1,
        (AuthEngine.init (io.outcomes p.fits) a).2, p') := by
  have hloaded := h.loadSymbols io a
  have hfits : (EngineFiles.loadSymbols io a p).2.2.fits = p.fits :=
    Process.fits_congr (hloaded.cmdline.trans h.cmdline.symm)
  rw [EngineFiles.authInit, AuthEngine.init, loadSymbols_eq io _ a p]
  split
  · exact ⟨p, h, rfl⟩
  dsimp only
  split
  · exact ⟨_, hloaded, rfl⟩
  obtain ⟨hroom, hinit⟩ | ⟨hroom, stock, p', hp', hinit⟩ := withStockCmdline_cases
    (fun a _ _ h hstock => h.authInitLocked hstock io a) (EngineFiles.loadSymbols io a p).2.1
    hloaded
  · rw [hinit, ← hfits, hroom]
    exact ⟨_, hloaded.deinit _, rfl⟩
  · rw [hinit, ← hfits, hroom]
    dsimp only
    rw [authInitLocked_eq io true _
      { (EngineFiles.loadSymbols io a p).2.2 with sCmdline := some stock }]
    generalize EngineFiles.authInitLocked io _ _ = locked
    obtain ⟨ok, a, p''⟩ := locked
    cases ok with
    | false => exact ⟨_, hp'.deinit _, rfl⟩
    | true => exact ⟨p', hp', rfl⟩

/-! ### Runs -/

/-- The files of the engines after any run. -/
structure Engines.Tidy (cmdline : Option Bytes) (s : Engines) : Prop where
  /-- the arguments of the process are as they were -/
  cmdline : s.process.sCmdline.map Buffer.cells = cmdline
  /-- what has not been given back is what a failing call left to a `Models` -/
  owned : ∀ r, ledger.Owned s.process.log r ↔ r ∈ forgotten s.process.log
  /-- what is used or given back is out at that moment -/
  admitted : EachAfter ledger.Admits s.process.log
  /-- nothing is given back twice -/
  once : ∀ r, s.process.log.countP (fun e => ledger.releases e = some r) ≤ 1
  /-- nothing is used after that -/
  unused : ∀ before e after r, s.process.log = before ++ e :: after →
    ledger.releases e = some r → ∀ e' ∈ after, r ∉ ledger.touches e'
  /-- the SDK sees the stock app, unless it is to take back what it has done, and each handle is
  created from its own models -/
  fit : EachAfter Fit s.process.log

theorem Kept.tidy {s : Engines} (h : Kept cmdline [] s.process) : s.Tidy cmdline where
  cmdline := h.cmdline
  owned r := by
    rw [h.numbered.balanced.owned]
    simp
  admitted := h.numbered.balanced.disciplined.eachAfter
  once := h.numbered.balanced.disciplined.countP_releases_le
  unused _ _ _ _ hsplit hr := h.numbered.balanced.disciplined.not_touched_after hsplit hr
  fit := h.fit

theorem kept_init (region : Option (Buffer Char)) :
    Kept (region.map Buffer.cells) [] { sCmdline := region } where
  numbered :=
    { balanced := ⟨.nil, fun _ => by simp [Ledger.Owned, forgotten]⟩
      lt_next := fun _ h => absurd h Ledger.not_acquired_nil }
  nodup := List.nodup_nil
  apart := fun _ h => absurd h List.not_mem_nil
  fit := eachAfter_nil
  cmdline := rfl

/-- What the engines take a call for, with room for the cmdline or without. -/
def stepEngines (fits : Bool) (s : FaceEngine × AuthEngine) : Init → FaceEngine × AuthEngine
  | .face io => ((FaceEngine.init (io.outcomes fits) s.1).2, s.2)
  | .auth io => (s.1, (AuthEngine.init (io.outcomes fits) s.2).2)

theorem Kept.step {s : Engines} (h : Kept cmdline [] s.process) (i : Init) :
    ∃ s', step s i = some s' ∧ Kept cmdline [] s'.process ∧
      (s'.engine, s'.auth) = stepEngines s.process.fits (s.engine, s.auth) i := by
  cases i with
  | face io =>
      obtain ⟨p', hp', hinit⟩ := h.faceInit io s.engine
      refine ⟨{ s with
        engine := (FaceEngine.init (io.outcomes s.process.fits) s.engine).2
        process := p' }, ?_, hp', rfl⟩
      rw [EngineFiles.step, hinit]
      rfl
  | auth io =>
      obtain ⟨p', hp', hinit⟩ := h.authInit io s.auth
      refine ⟨{ s with
        auth := (AuthEngine.init (io.outcomes s.process.fits) s.auth).2
        process := p' }, ?_, hp', rfl⟩
      rw [EngineFiles.step, hinit]
      rfl

theorem Kept.run {s : Engines} (h : Kept cmdline [] s.process) (is : List Init) :
    ∃ s', run s is = some s' ∧ Kept cmdline [] s'.process ∧
      (s'.engine, s'.auth) =
        Machine.run (stepEngines s.process.fits) (s.engine, s.auth) is := by
  induction is generalizing s with
  | nil => exact ⟨s, rfl, h, rfl⟩
  | cons i is ih =>
      obtain ⟨s₁, hstep, h₁, heq⟩ := h.step i
      obtain ⟨s', hrun, h', heq'⟩ := ih h₁
      have hfits : s₁.process.fits = s.process.fits :=
        Process.fits_congr (h₁.cmdline.trans h.cmdline.symm)
      refine ⟨s', ?_, h', ?_⟩
      · rw [EngineFiles.run, List.foldlM_cons, hstep]
        exact hrun
      · rw [heq', hfits, heq, Machine.run_cons]

/-- Whatever calls of `init` are made on the two engines and however each of their steps turns out,
no access leaves the arguments of the process, its files are in order, no call of st_auth is missing
in its log, and the engines are what they are taken for when only the outcomes of the steps are
looked at. -/
theorem inits_tidy (region : Option (Buffer Char)) (e : FaceEngine) (a : AuthEngine)
    (is : List Init) :
    ∃ s, run ⟨e, a, { sCmdline := region }⟩ is = some s ∧ s.Tidy (region.map Buffer.cells) ∧
      Logged a.calls s.auth s.process.log ∧
      (s.engine, s.auth) =
        Machine.run (stepEngines (Process.fits { sCmdline := region })) (e, a) is := by
  obtain ⟨s, hrun, h, heq⟩ := Kept.run (s := ⟨e, a, { sCmdline := region }⟩)
    (kept_init region) is
  have hlogged : Logged a.calls a [] := (List.append_nil _).symm
  exact ⟨s, hrun, h.tidy, hlogged.run is hrun, heq⟩

end OneplusHal.Face.EngineFiles

import OneplusHal.Face.EngineFiles

/-!
The calls of st_auth in the log of the process.

The auth engine keeps its calls of the SDK, and the log keeps what the SDK is asked for with
the cmdline it sees. Both are the same calls, one for one and in order, so nothing that the
engine calls is missing in the log. The cv engine calls nothing of st_auth.
-/

namespace OneplusHal.Face.EngineFiles

variable {p : Process} {before : List StCall} {a : AuthEngine}

/-- The function of st_auth that the SDK is asked for. -/
def FileEvent.st? : FileEvent → Option StFunction
  | .ask (.st fn) _ => some fn
  | _ => none

/-- The calls of st_auth in the log. -/
def stCalls (log : List FileEvent) : List StFunction := log.filterMap FileEvent.st?

/-- The calls of the engine are those of before and, one for one and in order, those in the log. -/
def Logged (before : List StCall) (a : AuthEngine) (log : List FileEvent) : Prop :=
  a.calls.map StCall.fn = before.map StCall.fn ++ stCalls log

/-! ### The files and the cv engine -/

theorem stCalls_emit {e : FileEvent} (he : e.st? = none) (p : Process) :
    stCalls (p.emit e).log = stCalls p.log := by
  show stCalls (p.log ++ [e]) = _
  rw [stCalls, stCalls, List.filterMap_append, List.filterMap_cons_none he, List.filterMap_nil,
    List.append_nil]

theorem stCalls_handOut {event : Option ℕ → FileEvent} (hevent : ∀ n, (event n).st? = none)
    (ok : Bool) (p : Process) : stCalls (p.handOut event ok).2.log = stCalls p.log := by
  rw [Process.handOut]
  split
  · exact stCalls_emit (hevent _) _
  · exact stCalls_emit (hevent _) _

theorem stCalls_openArchive (reader : Reader) (answer : ArchiveAnswer) (p : Process) :
    stCalls (openArchive reader answer p).2.log = stCalls p.log := by
  cases answer with
  | opened => exact stCalls_handOut (fun _ => rfl) _ _
  | failed object => exact stCalls_handOut (fun _ => rfl) _ _

theorem stCalls_readEntry (name : String) (out : Bool) (answer : ArchiveAnswer) (io : EntryAnswer)
    (p : Process) : stCalls (readEntry name out answer io p).2.log = stCalls p.log := by
  have hopened := stCalls_openArchive .readEntry answer p
  simp only [readEntry]
  split
  · split
    · rw [stCalls_emit rfl, stCalls_emit rfl, stCalls_emit rfl, hopened]
    · rw [stCalls_emit rfl, stCalls_emit rfl, hopened]
  · rw [stCalls_emit rfl, hopened]
  · exact hopened

namespace Models

theorem stCalls_openModels (answer : ArchiveAnswer) (p : Process) :
    stCalls (openModels answer p).2.log = stCalls p.log := by
  cases answer with
  | opened => exact stCalls_openArchive .models .opened p
  | failed object => exact stCalls_openArchive .models (.failed object) p

theorem stCalls_read (name : String) (io : EntryAnswer) (m : Models) (p : Process) :
    stCalls (m.read name io p).2.log = stCalls p.log := by
  rw [read]
  split
  · exact stCalls_emit rfl p
  · rw [stCalls_emit rfl, stCalls_emit rfl]

theorem stCalls_path (name : String) (io : PathAnswer) (m : Models) (p : Process) :
    stCalls (m.path name io p).2.2.log = stCalls p.log := by
  have hcreated : stCalls
      ((p.emit (.findEntry m.mArchive name)).handOut (.memfdCreate name) io.memfd).2.log =
        stCalls p.log := by
    rw [stCalls_handOut fun _ => rfl, stCalls_emit rfl]
  rw [path]
  dsimp only
  split
  · exact stCalls_emit rfl p
  split
  · exact hcreated
  split
  · rw [stCalls_emit rfl, hcreated]
  · rw [stCalls_emit rfl, stCalls_emit rfl, hcreated]

theorem stCalls_paths (io : String → PathAnswer) (names : List String) (m : Models)
    (p : Process) : stCalls (m.paths io names p).2.2.log = stCalls p.log := by
  induction names generalizing m p with
  | nil => rfl
  | cons name rest ih => rw [paths, ih, stCalls_path]

theorem stCalls_destroy (m : Models) (p : Process) :
    stCalls (m.destroy p).log = stCalls p.log := by
  have hfds (fds : List ℕ) (p : Process) :
      stCalls (fds.foldl (fun p fd => p.emit (.close fd)) p).log = stCalls p.log := by
    induction fds generalizing p with
    | nil => rfl
    | cons fd rest ih => rw [List.foldl_cons, ih, stCalls_emit rfl]
  rw [destroy, hfds, stCalls_emit rfl]

end Models

theorem stCalls_create (slot : Slot) (fds : List ℕ) (p : Process) :
    stCalls (p.ask (.create slot fds)).log = stCalls p.log :=
  stCalls_emit rfl p

theorem stCalls_createHandles (io : FaceAnswers) (detect align ocular verify liveness : ℕ)
    (e : FaceEngine) (p : Process) :
    stCalls (createHandles io detect align ocular verify liveness e p).2.2.log =
      stCalls p.log := by
  simp only [createHandles]
  split_ifs <;> simp only [stCalls_create]

theorem stCalls_initWith (io : FaceAnswers) (m : Models) (e : FaceEngine) (p : Process) :
    stCalls (initWith io m e p).2.2.2.log = stCalls p.log := by
  have hread := Models.stCalls_read kLicense io.license m p
  simp only [initWith, Process.ask]
  split
  · exact hread
  split
  · rw [stCalls_emit rfl, stCalls_emit rfl, hread]
  split
  · rw [stCalls_createHandles, Models.stCalls_paths, stCalls_emit rfl, stCalls_emit rfl, hread]
  · rw [Models.stCalls_paths, stCalls_emit rfl, stCalls_emit rfl, hread]

theorem stCalls_faceInitLocked (io : FaceAnswers) (e : FaceEngine) (p : Process) :
    stCalls (faceInitLocked io e p).2.2.log = stCalls p.log := by
  have hopened := Models.stCalls_openModels io.archive p
  rw [faceInitLocked]
  dsimp only
  split
  · exact hopened
  · rw [Models.stCalls_destroy, stCalls_initWith, hopened]

/-- What `fn` preserves of the engine and the log, the whole preserves. -/
theorem withStockCmdline_preserves {α : Type} {fn : α → Process → Bool × α × Process}
    {I : α → List FileEvent → Prop} (hfn : ∀ a p, I a p.log → I (fn a p).2.1 (fn a p).2.2.log)
    {a : α} {r : Bool × α × Process} (h : I a p.log) (hr : withStockCmdline fn a p = some r) :
    I r.2.1 r.2.2.log := by
  rw [withStockCmdline] at hr
  split at hr
  · obtain rfl := Option.some.inj hr
    exact h
  split at hr
  · obtain rfl := Option.some.inj hr
    exact h
  · obtain ⟨cleared, -, hr⟩ := Option.bind_eq_some_iff.mp hr
    obtain ⟨stock, -, hr⟩ := Option.bind_eq_some_iff.mp hr
    obtain ⟨after, -, hr⟩ := Option.bind_eq_some_iff.mp hr
    obtain ⟨restored, -, hr⟩ := Option.bind_eq_some_iff.mp hr
    obtain rfl := Option.some.inj hr
    exact hfn a { p with sCmdline := some stock } h

/-! ### The auth engine -/

namespace Logged

theorem congr {a' : AuthEngine} {log log' : List FileEvent} (h : Logged before a log)
    (hcalls : a'.calls = a.calls) (hlog : stCalls log' = stCalls log) : Logged before a' log' := by
  rw [Logged, hcalls, hlog]
  exact h

theorem call (h : Logged before a p.log) (fn : StFunction) (succeeded : Bool) :
    Logged before (a.call fn succeeded) (p.ask (.st fn)).log := by
  have hlog : stCalls (p.ask (.st fn)).log = stCalls p.log ++ [fn] := by
    show stCalls (p.log ++ [_]) = _
    rw [stCalls, List.filterMap_append]
    rfl
  rw [Logged, hlog, ← List.append_assoc, ← h, AuthEngine.call, List.map_append]
  rfl

theorem loadSymbols (h : Logged before a p.log) (io : AuthAnswers) :
    Logged before (EngineFiles.loadSymbols io a p).2.1
      (EngineFiles.loadSymbols io a p).2.2.log := by
  have hpath : stCalls (engineLibraryPath io p).2.log = stCalls p.log := by
    rw [engineLibraryPath]
    split
    · rfl
    · exact stCalls_readEntry _ _ _ _ p
  rw [EngineFiles.loadSymbols]
  dsimp only
  split
  · exact h
  split
  · exact h.congr rfl hpath
  · exact h.congr rfl hpath

theorem tryLicenses (h : Logged before a p.log) (io : AuthAnswers) (names : List String) :
    Logged before (EngineFiles.tryLicenses io names a p).2.1
      (EngineFiles.tryLicenses io names a p).2.2.log := by
  induction names generalizing a p with
  | nil => exact h
  | cons name rest ih =>
      have hread := h.congr rfl (stCalls_readEntry name true (io.license name).1
        (io.license name).2 p)
      rw [EngineFiles.tryLicenses]
      dsimp only
      split
      · exact ih hread
      split
      · exact hread.call .initLicense true
      · exact ih (hread.call .initLicense false)

theorem setUpTee (h : Logged before a p.log) (io : AuthAnswers) :
    Logged before (EngineFiles.setUpTee io a p).2.1 (EngineFiles.setUpTee io a p).2.2.log := by
  have hopened : Logged before (a.openTee io.rest).2 p.log := by
    refine h.congr ?_ rfl
    rw [AuthEngine.openTee]
    split
    · rfl
    dsimp only
    split
    · rfl
    · rfl
  rw [EngineFiles.setUpTee]
  dsimp only
  split
  · split
    · exact hopened
    · exact hopened.call .setTeeCommunicationFunc _
  · exact h

theorem authInitLocked (h : Logged before a p.log) (io : AuthAnswers) :
    Logged before (EngineFiles.authInitLocked io a p).2.1
      (EngineFiles.authInitLocked io a p).2.2.log := by
  have hlicense := h.tryLicenses io kLicenses
  have htee := hlicense.setUpTee io
  rw [EngineFiles.authInitLocked]
  dsimp only
  split
  · exact hlicense
  split
  · exact htee
  · exact htee.call .authInit _

theorem deinit (h : Logged before a p.log) :
    Logged before (EngineFiles.deinit a p).1 (EngineFiles.deinit a p).2.log := by
  have hcalls : Logged before (if a.mLib then a.call .authDeinit true else a)
      (if a.mLib then p.ask (.st .authDeinit) else p).log := by
    split
    · exact h.call .authDeinit true
    · exact h
  rw [EngineFiles.deinit, AuthEngine.deinit]
  generalize (if a.mLib then a.call .authDeinit true else a) = called at hcalls
  refine hcalls.congr ?_ rfl
  dsimp only
  split
  · rfl
  · rfl

theorem authInit (h : Logged before a p.log) (io : AuthAnswers) {r : Bool × AuthEngine × Process}
    (hr : EngineFiles.authInit io a p = some r) : Logged before r.2.1 r.2.2.log := by
  rw [EngineFiles.authInit] at hr
  split at hr
  · obtain rfl := Option.some.inj hr
    exact h
  have hsymbols := h.loadSymbols io
  dsimp only at hr
  split at hr
  · obtain rfl := Option.some.inj hr
    exact hsymbols
  obtain ⟨locked, hlocked, hr⟩ := Option.bind_eq_some_iff.mp hr
  obtain rfl := Option.some.inj hr
  have hran : Logged before { locked.2.1 with mInitialized := locked.1 } locked.2.2.log :=
    withStockCmdline_preserves (fun _ _ h => h.authInitLocked io) hsymbols hlocked
  dsimp only
  split
  · exact hran.deinit
  · exact hran

theorem faceInit (h : Logged before a p.log) (io : FaceAnswers) (e : FaceEngine)
    {r : Bool × FaceEngine × Process} (hr : EngineFiles.faceInit io e p = some r) :
    Logged before a r.2.2.log := by
  rw [EngineFiles.faceInit] at hr
  split at hr
  · obtain rfl := Option.some.inj hr
    exact h
  split at hr
  · obtain rfl := Option.some.inj hr
    exact h
  · exact withStockCmdline_preserves (I := fun _ log => Logged before a log)
      (fun e p h => h.congr rfl (stCalls_faceInitLocked io e p)) h hr

theorem step {s s' : Engines} (h : Logged before s.auth s.process.log) (i : Init)
    (hs : EngineFiles.step s i = some s') : Logged before s'.auth s'.process.log := by
  cases i with
  | face io =>
      obtain ⟨r, hr, hs⟩ := Option.bind_eq_some_iff.mp hs
      obtain rfl := Option.some.inj hs
      exact h.faceInit io s.engine hr
  | auth io =>
      obtain ⟨r, hr, hs⟩ := Option.bind_eq_some_iff.mp hs
      obtain rfl := Option.some.inj hs
      exact h.authInit io hr

theorem run {s s' : Engines} (h : Logged before s.auth s.process.log) (is : List Init)
    (hs : EngineFiles.run s is = some s') : Logged before s'.auth s'.process.log := by
  induction is generalizing s with
  | nil =>
      obtain rfl := Option.some.inj hs
      exact h
  | cons i is ih =>
      rw [EngineFiles.run, List.foldlM_cons] at hs
      obtain ⟨s₁, hstep, hs⟩ := Option.bind_eq_some_iff.mp hs
      exact ih (h.step i hstep) hs

end Logged

end OneplusHal.Face.EngineFiles

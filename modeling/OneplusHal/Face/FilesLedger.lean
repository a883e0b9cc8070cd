import Mathlib.Data.List.Forall2
import Mathlib.Order.BooleanAlgebra.Set
import OneplusHal.Face.EngineFiles

/-!
What becomes of the archives and the descriptors, and what the SDK is shown.

Between two calls nothing is held. The one thing that is never given back is the object that a
failing `OpenArchive` may leave to a `Models`, which forgets it.
-/

namespace OneplusHal.Face.EngineFiles

open Raster

inductive Resource
  | archive (n : ℕ)
  | fd (n : ℕ)
  deriving DecidableEq

def Resource.number : Resource → ℕ
  | .archive n => n
  | .fd n => n

def ledger : Ledger FileEvent Resource where
  acquires
    | .openArchive _ _ archive => archive.map .archive
    | .memfdCreate _ fd => fd.map .fd
    | _ => none
  releases
    | .close fd => some (.fd fd)
    | .closeArchive archive => some (.archive archive)
    | _ => none
  touches
    | .findEntry archive _ => [.archive archive]
    | .extractToMemory archive _ => [.archive archive]
    | .extractToFile archive fd _ _ => [.archive archive, .fd fd]
    | .ask (.create _ fds) _ => fds.map .fd
    | _ => []

/-- The objects that failing calls have left to a `Models`. -/
def forgotten (t : List FileEvent) : Set Resource :=
  {r | ∃ n, r = .archive n ∧ .openArchive .models false (some n) ∈ t}

/-- The cmdline is that of the stock app, and there is nothing behind it. -/
def IsStock (cmdline : Bytes) : Prop :=
  ∃ k, cmdline = kCmdline ++ List.replicate (k + 1) nul

/-- The models that a handle is created from. -/
def modelsOf : Slot → List String
  | .detector => [kDetect, kAlign]
  | .detector640 => [kDetect, kAlign]
  | .ocular => [kOcular, kAlign]
  | .verify => [kVerify]
  | .hackness => [kLiveness]

/-- The descriptor holds the entry. -/
def Extracted (t : List FileEvent) (fd : ℕ) (name : String) : Prop :=
  ∃ archive, .extractToFile archive fd name true ∈ t

/-- The SDK sees the stock app, except when it is to take back what it has done, and each handle is
created from its own models. -/
def Fit (before : List FileEvent) : FileEvent → Prop
  | .ask (.create slot fds) cmdline =>
      IsStock cmdline ∧ List.Forall₂ (Extracted before) fds (modelsOf slot)
  | .ask (.st .authDeinit) _ => True
  | .ask _ cmdline => IsStock cmdline
  | _ => True

/-- The books are in order, with some resources in use, and the cmdline is this one. -/
structure Kept (cmdline : Option Bytes) (inUse : List Resource) (p : Process) : Prop where
  numbered : ledger.Numbered Resource.number p.next p.log (forgotten p.log ∪ {r | r ∈ inUse})
  nodup : inUse.Nodup
  apart : ∀ r ∈ inUse, r ∉ forgotten p.log
  fit : EachAfter Fit p.log
  cmdline : p.sCmdline.map Buffer.cells = cmdline

variable {cmdline : Option Bytes} {inUse : List Resource} {p : Process} {e : FileEvent}
  {r : Resource}

/-! ### One event -/

theorem forgotten_append (h : ∀ n, e ≠ .openArchive .models false (some n)) :
    forgotten (p.log ++ [e]) = forgotten p.log := by
  ext r
  simp only [forgotten, List.mem_append, List.mem_singleton, Set.mem_ofPred_eq]
  constructor
  · rintro ⟨n, rfl, hmem | heq⟩
    · exact ⟨n, rfl, hmem⟩
    · exact absurd heq.symm (h n)
  · rintro ⟨n, rfl, hmem⟩
    exact ⟨n, rfl, .inl hmem⟩

theorem forgotten_append_archive (n : ℕ) :
    forgotten (p.log ++ [.openArchive .models false (some n)]) =
      insert (.archive n) (forgotten p.log) := by
  ext r
  simp only [forgotten, List.mem_append, List.mem_singleton, Set.mem_ofPred_eq, Set.mem_insert_iff]
  constructor
  · rintro ⟨m, rfl, hmem | heq⟩
    · exact .inr ⟨m, rfl, hmem⟩
    · cases heq
      exact .inl rfl
  · rintro (rfl | ⟨m, rfl, hmem⟩)
    · exact ⟨n, rfl, .inr rfl⟩
    · exact ⟨m, rfl, .inl hmem⟩

theorem Kept.touch (h : Kept cmdline inUse p) (hacq : ledger.acquires e = none)
    (hrel : ledger.releases e = none) (ht : ∀ a ∈ ledger.touches e, a ∈ inUse)
    (hquiet : ∀ n, e ≠ .openArchive .models false (some n)) (hfit : Fit p.log e) :
    Kept cmdline inUse (p.emit e) where
  numbered := by
    show ledger.Numbered _ _ (p.log ++ [e]) (forgotten (p.log ++ [e]) ∪ _)
    rw [forgotten_append hquiet]
    exact h.numbered.touch hacq hrel fun a ha => .inr (ht a ha)
  nodup := h.nodup
  apart r hr := by
    show r ∉ forgotten (p.log ++ [e])
    rw [forgotten_append hquiet]
    exact h.apart r hr
  fit := h.fit.snoc hfit
  cmdline := h.cmdline

/-- An event that hands out the next number. -/
theorem Kept.acquire (h : Kept cmdline inUse p) (hacq : ledger.acquires e = some r)
    (hrel : ledger.releases e = none) (ht : ledger.touches e = []) (hnumber : r.number = p.next)
    (hquiet : ∀ n, e ≠ .openArchive .models false (some n)) (hfit : Fit p.log e) :
    Kept cmdline (r :: inUse) ({ p with next := p.next + 1 }.emit e) := by
  have hfresh : r ∉ forgotten p.log ∪ {r | r ∈ inUse} := h.numbered.notMem hnumber.ge
  rw [Set.mem_union, not_or] at hfresh
  constructor
  · show ledger.Numbered _ _ (p.log ++ [e]) (forgotten (p.log ++ [e]) ∪ {s | s ∈ r :: inUse})
    have hinsert : forgotten p.log ∪ {s | s ∈ r :: inUse} =
        insert r (forgotten p.log ∪ {s | s ∈ inUse}) := by
      rw [← Set.union_insert]
      congr 1
      ext s
      exact List.mem_cons
    rw [forgotten_append hquiet, hinsert]
    exact h.numbered.acquire hacq hrel (by simp [ht]) hnumber
  · exact List.nodup_cons.mpr ⟨hfresh.2, h.nodup⟩
  · intro s hs
    show s ∉ forgotten (p.log ++ [e])
    rw [forgotten_append hquiet]
    obtain rfl | hs := List.mem_cons.mp hs
    · exact hfresh.1
    · exact h.apart s hs
  · exact h.fit.snoc hfit
  · exact h.cmdline

theorem Kept.release (h : Kept cmdline inUse p) (hacq : ledger.acquires e = none)
    (hrel : ledger.releases e = some r) (ht : ledger.touches e = []) (hr : r ∈ inUse)
    (hfit : Fit p.log e) : Kept cmdline (inUse.erase r) (p.emit e) := by
  have hquiet : ∀ n, e ≠ .openArchive .models false (some n) := by
    rintro n rfl
    cases hrel
  constructor
  · show ledger.Numbered _ _ (p.log ++ [e]) (forgotten (p.log ++ [e]) ∪ {s | s ∈ inUse.erase r})
    have herase : forgotten p.log ∪ {s | s ∈ inUse.erase r} =
        (forgotten p.log ∪ {s | s ∈ inUse}) \ {r} := by
      ext s
      simp only [Set.mem_union, Set.mem_ofPred_eq, Set.mem_sdiff, Set.mem_singleton_iff,
        h.nodup.mem_erase_iff]
      constructor
      · rintro (hs | ⟨hne, hs⟩)
        · exact ⟨.inl hs, fun heq => h.apart r hr (heq ▸ hs)⟩
        · exact ⟨.inr hs, hne⟩
      · rintro ⟨hs | hs, hne⟩
        · exact .inl hs
        · exact .inr ⟨hne, hs⟩
    rw [forgotten_append hquiet, herase]
    exact h.numbered.release hacq hrel (by simp [ht]) (.inr hr)
  · exact h.nodup.erase r
  · intro s hs
    show s ∉ forgotten (p.log ++ [e])
    rw [forgotten_append hquiet]
    exact h.apart s (List.mem_of_mem_erase hs)
  · exact h.fit.snoc hfit
  · exact h.cmdline

/-- The object is taken, and forgotten at once. -/
theorem Kept.forget (h : Kept cmdline inUse p) :
    Kept cmdline inUse
      ({ p with next := p.next + 1 }.emit (.openArchive .models false (some p.next))) := by
  have hfresh : Resource.archive p.next ∉ forgotten p.log ∪ {r | r ∈ inUse} :=
    h.numbered.notMem (Nat.le_refl _)
  rw [Set.mem_union, not_or] at hfresh
  constructor
  · show ledger.Numbered _ _ (p.log ++ [_]) (forgotten (p.log ++ [_]) ∪ _)
    rw [forgotten_append_archive, Set.insert_union]
    exact h.numbered.acquire rfl rfl nofun rfl
  · exact h.nodup
  · intro s hs
    show s ∉ forgotten (p.log ++ [_])
    rw [forgotten_append_archive, Set.mem_insert_iff, not_or]
    exact ⟨fun heq => hfresh.2 (heq ▸ hs), h.apart s hs⟩
  · exact h.fit.snoc trivial
  · exact h.cmdline

theorem Kept.closeFd {fd : ℕ} (h : Kept cmdline (.fd fd :: inUse) p) :
    Kept cmdline inUse (p.emit (.close fd)) := by
  have hrelease := h.release (e := .close fd) rfl rfl rfl List.mem_cons_self trivial
  rwa [List.erase_cons_head] at hrelease

theorem Kept.closeArchive {archive : ℕ} (h : Kept cmdline (.archive archive :: inUse) p) :
    Kept cmdline inUse (p.emit (.closeArchive archive)) := by
  have hrelease := h.release (e := .closeArchive archive) rfl rfl rfl List.mem_cons_self trivial
  rwa [List.erase_cons_head] at hrelease

/-! ### The archive -/

theorem Kept.readEntry (h : Kept cmdline inUse p) (name : String) (out : Bool)
    (answer : ArchiveAnswer) (io : EntryAnswer) :
    Kept cmdline inUse (readEntry name out answer io p).2 := by
  have hopen (opened : Bool) : Kept cmdline (.archive p.next :: inUse)
      ({ p with next := p.next + 1 }.emit (.openArchive .readEntry opened (some p.next))) :=
    h.acquire rfl rfl rfl rfl nofun trivial
  cases answer with
  | opened =>
      simp only [EngineFiles.readEntry, openArchive, Process.handOut, if_true]
      have hfind := (hopen true).touch (e := .findEntry p.next name) rfl rfl
        (fun a ha => List.mem_singleton.mp ha ▸ List.mem_cons_self) nofun trivial
      split
      · exact (hfind.touch (e := .extractToMemory p.next name) rfl rfl
          (fun a ha => List.mem_singleton.mp ha ▸ List.mem_cons_self) nofun trivial).closeArchive
      · exact hfind.closeArchive
  | failed object =>
      cases object with
      | true =>
          simp only [EngineFiles.readEntry, openArchive, Process.handOut, if_true]
          exact (hopen false).closeArchive
      | false => exact h.touch rfl rfl nofun nofun trivial

/-- What a `Models` holds. -/
def Models.held (m : Models) : List Resource := m.mFds.map .fd ++ [.archive m.mArchive]

theorem Models.archive_mem (m : Models) : .archive m.mArchive ∈ m.held :=
  List.mem_append_right _ (List.mem_singleton.mpr rfl)

theorem Kept.openModels (h : Kept cmdline [] p) (answer : ArchiveAnswer) :
    Kept cmdline (((Models.openModels answer p).1.map Models.held).getD [])
      (Models.openModels answer p).2 := by
  cases answer with
  | opened => exact h.acquire rfl rfl rfl rfl nofun trivial
  | failed object =>
      cases object with
      | true => exact h.forget
      | false => exact h.touch rfl rfl nofun nofun trivial

variable {m : Models}

theorem Kept.findEntry (h : Kept cmdline m.held p) (name : String) :
    Kept cmdline m.held (p.emit (.findEntry m.mArchive name)) :=
  h.touch rfl rfl (fun _ ha => List.mem_singleton.mp ha ▸ m.archive_mem) nofun trivial

theorem Kept.read (h : Kept cmdline m.held p) (name : String) (io : EntryAnswer) :
    Kept cmdline m.held (m.read name io p).2 := by
  rw [Models.read]
  split
  · exact h.findEntry name
  · exact (h.findEntry name).touch rfl rfl
      (fun _ ha => List.mem_singleton.mp ha ▸ m.archive_mem) nofun trivial

/-- The descriptor is open, and holds the entry. -/
structure Ready (inUse : List Resource) (p : Process) (fd : ℕ) (name : String) : Prop where
  mem : .fd fd ∈ inUse
  extracted : Extracted p.log fd name

theorem Ready.mono {inUse' : List Resource} {p' : Process} {fd : ℕ} {name : String}
    (h : Ready inUse p fd name) (hmem : inUse ⊆ inUse') (hlog : p.log ⊆ p'.log) :
    Ready inUse' p' fd name :=
  ⟨hmem h.mem, h.extracted.imp fun _ hmem => hlog hmem⟩

/-- What a step makes of the models: the books stay in order, and nothing that was ready is lost. -/
structure Grown (cmdline : Option Bytes) (m : Models) (p : Process) (m' : Models) (p' : Process) :
    Prop where
  kept : Kept cmdline m'.held p'
  held : m.held ⊆ m'.held
  log : p.log ⊆ p'.log

theorem Grown.trans {m' m'' : Models} {p' p'' : Process} (h : Grown cmdline m p m' p')
    (h' : Grown cmdline m' p' m'' p'') : Grown cmdline m p m'' p'' :=
  ⟨h'.kept, List.Subset.trans h.held h'.held, List.Subset.trans h.log h'.log⟩

theorem Grown.emit {m' : Models} {p' : Process} (h : Grown cmdline m p m' p')
    (hkept : Kept cmdline m'.held (p'.emit e)) : Grown cmdline m p m' (p'.emit e) :=
  ⟨hkept, h.held, List.Subset.trans h.log (List.subset_append_left _ _)⟩

/-- A path leads to an open descriptor with the entry of that name. -/
def Leads (m : Models) (p : Process) (fd : Option ℕ) (name : String) : Prop :=
  ∀ n, fd = some n → Ready m.held p n name

theorem Leads.mono {m' : Models} {p' : Process} {fd : Option ℕ} {name : String}
    (h : Leads m p fd name) (hgrown : Grown cmdline m p m' p') : Leads m' p' fd name :=
  fun n hn => (h n hn).mono hgrown.held hgrown.log

theorem Kept.path (h : Kept cmdline m.held p) (name : String) (io : PathAnswer) :
    Grown cmdline m p (m.path name io p).2.1 (m.path name io p).2.2 ∧
      Leads (m.path name io p).2.1 (m.path name io p).2.2 (m.path name io p).1 name := by
  have hstart : Grown cmdline m p m p := ⟨h, List.Subset.refl _, List.Subset.refl _⟩
  have hfind := hstart.emit (h.findEntry name)
  rw [Models.path]
  dsimp only
  split
  · exact ⟨hfind, nofun⟩
  cases io.memfd with
  | false => exact ⟨hfind.emit (hfind.kept.touch rfl rfl nofun nofun trivial), nofun⟩
  | true =>
      have hcreate : Grown cmdline m p { m with mFds := p.next :: m.mFds } _ :=
        ⟨hfind.kept.acquire (e := .memfdCreate name (some p.next)) rfl rfl rfl rfl nofun trivial,
          List.subset_cons_self _ _,
          List.Subset.trans hfind.log (List.subset_append_left _ _)⟩
      have hextract := hcreate.emit (e := .extractToFile m.mArchive p.next name io.extracted)
        (hcreate.kept.touch rfl rfl (fun a ha => by
          obtain rfl | ha := List.mem_cons.mp ha
          · exact .tail _ m.archive_mem
          · exact List.mem_singleton.mp ha ▸ List.mem_cons_self) nofun trivial)
      simp only [Process.handOut, if_true]
      split
      · rename_i hextracted
        refine ⟨hextract, ?_⟩
        rintro n ⟨⟩
        exact ⟨List.mem_cons_self, m.mArchive, List.mem_append_right _ (List.mem_singleton.mpr
          (by rw [hextracted]))⟩
      · exact ⟨⟨hextract.kept.closeFd, List.Subset.refl _,
          List.Subset.trans hextract.log (List.subset_append_left _ _)⟩, nofun⟩

theorem Kept.paths (h : Kept cmdline m.held p) (io : String → PathAnswer) (names : List String) :
    Grown cmdline m p (m.paths io names p).2.1 (m.paths io names p).2.2 ∧
      List.Forall₂ (Leads (m.paths io names p).2.1 (m.paths io names p).2.2)
        (m.paths io names p).1 names := by
  induction names generalizing m p with
  | nil => exact ⟨⟨h, List.Subset.refl _, List.Subset.refl _⟩, .nil⟩
  | cons name rest ih =>
      obtain ⟨hfirst, hleads⟩ := h.path name (io name)
      obtain ⟨hrest, hothers⟩ := ih hfirst.kept
      exact ⟨hfirst.trans hrest, .cons (hleads.mono hrest) hothers⟩

theorem Kept.destroy (h : Kept cmdline m.held p) : Kept cmdline [] (m.destroy p) := by
  have hclose (fds : List ℕ) {p : Process} (h : Kept cmdline (fds.map .fd) p) :
      Kept cmdline [] (fds.foldl (fun p fd => p.emit (.close fd)) p) := by
    induction fds generalizing p with
    | nil => exact h
    | cons fd fds ih => exact ih h.closeFd
  refine hclose m.mFds ?_
  have harchive := h.release (e := .closeArchive m.mArchive) rfl rfl rfl m.archive_mem trivial
  have hnotMem : Resource.archive m.mArchive ∉ m.mFds.map Resource.fd := by
    intro hmem
    obtain ⟨fd, -, hfd⟩ := List.mem_map.mp hmem
    cases hfd
  rwa [Models.held, List.erase_append_right _ hnotMem, List.erase_cons_head,
    List.append_nil] at harchive

/-! ### What the SDK is asked -/

variable {cells : Bytes}

theorem Kept.cmdline_eq (h : Kept (some cells) inUse p) : p.cmdline = cells := by
  rw [Process.cmdline, h.cmdline]
  rfl

theorem Kept.ask (h : Kept (some cells) inUse p) (hstock : IsStock cells) (what : Ask)
    (hwhat : ∀ slot fds, what ≠ .create slot fds) : Kept (some cells) inUse (p.ask what) := by
  rw [← h.cmdline_eq] at hstock
  cases what with
  | create slot fds => exact absurd rfl (hwhat slot fds)
  | st fn =>
      refine h.touch rfl rfl nofun nofun ?_
      cases fn with
      | authDeinit => trivial
      | _ => exact hstock
  | _ => exact h.touch rfl rfl nofun nofun hstock

theorem Kept.create (h : Kept (some cells) inUse p) (hstock : IsStock cells) (slot : Slot)
    (fds : List ℕ) (hfds : List.Forall₂ (Ready inUse p) fds (modelsOf slot)) :
    Kept (some cells) inUse (p.ask (.create slot fds)) := by
  rw [← h.cmdline_eq] at hstock
  have hboth : List.Forall₂ (fun fd name => .fd fd ∈ inUse ∧ Extracted p.log fd name) fds
      (modelsOf slot) := hfds.imp fun _ _ hfd => ⟨hfd.mem, hfd.extracted⟩
  obtain ⟨hmem, hextracted⟩ := (List.forall₂_and_left _ _).mp hboth
  refine h.touch rfl rfl (fun a ha => ?_) nofun ⟨hstock, hextracted⟩
  obtain ⟨fd, hfd, rfl⟩ := List.mem_map.mp ha
  exact hmem fd hfd

theorem Ready.ask {fd : ℕ} {name : String} (h : Ready inUse p fd name) (what : Ask) :
    Ready inUse (p.ask what) fd name :=
  h.mono (List.Subset.refl _) (List.subset_append_left _ _)

/-! ### The cv engine -/

theorem Kept.createHandles (h : Kept (some cells) inUse p) (hstock : IsStock cells)
    (io : FaceAnswers) {detect align ocular verify liveness : ℕ}
    (hdetect : Ready inUse p detect kDetect)
    (halign : Ready inUse p align kAlign) (hocular : Ready inUse p ocular kOcular)
    (hverify : Ready inUse p verify kVerify) (hliveness : Ready inUse p liveness kLiveness)
    (e : FaceEngine) :
    Kept (some cells) inUse (createHandles io detect align ocular verify liveness e p).2.2 := by
  have h₁ := h.create hstock .detector [detect, align] (.cons hdetect (.cons halign .nil))
  have h₂ := h₁.create hstock .detector640 [detect, align]
    (.cons (hdetect.ask _) (.cons (halign.ask _) .nil))
  have h₃ := h₂.create hstock .ocular [ocular, align]
    (.cons ((hocular.ask _).ask _) (.cons ((halign.ask _).ask _) .nil))
  have h₄ := h₃.create hstock .verify [verify] (.cons (((hverify.ask _).ask _).ask _) .nil)
  have h₅ := h₄.create hstock .hackness [liveness]
    (.cons ((((hliveness.ask _).ask _).ask _).ask _) .nil)
  simp only [EngineFiles.createHandles]
  split
  · exact h₁
  split
  · exact h₂
  split
  · exact h₃
  split
  · exact h₄
  split
  · exact h₅
  · exact h₅

theorem Kept.initWith (h : Kept (some cells) m.held p) (hstock : IsStock cells) (io : FaceAnswers)
    (e : FaceEngine) :
    Kept (some cells) (initWith io m e p).2.2.1.held (initWith io m e p).2.2.2 := by
  have hlicense := h.read kLicense io.license
  have hasked := (hlicense.ask hstock .initLicense nofun).ask hstock .initLicenseSnpe nofun
  obtain ⟨hpaths, hleads⟩ := hasked.paths io.path [kDetect, kAlign, kOcular, kVerify, kLiveness]
  rw [EngineFiles.initWith]
  dsimp only
  split
  · exact hlicense
  split
  · exact hasked
  split
  · rename_i heq
    rw [heq] at hleads
    simp only [List.forall₂_cons, List.forall₂_nil_left_iff, and_true] at hleads
    obtain ⟨hdetect, halign, hocular, hverify, hliveness⟩ := hleads
    exact hpaths.kept.createHandles hstock io (hdetect _ rfl) (halign _ rfl) (hocular _ rfl)
      (hverify _ rfl) (hliveness _ rfl) e
  · exact hpaths.kept

theorem Kept.faceInitLocked (h : Kept (some cells) [] p) (hstock : IsStock cells) (io : FaceAnswers)
    (e : FaceEngine) : Kept (some cells) [] (faceInitLocked io e p).2.2 := by
  have hopen := h.openModels io.archive
  rw [EngineFiles.faceInitLocked]
  dsimp only
  cases hopened : (Models.openModels io.archive p).1 with
  | none =>
      rw [hopened] at hopen
      exact hopen
  | some m =>
      rw [hopened] at hopen
      exact (Kept.initWith hopen hstock io e).destroy

/-! ### The auth engine -/

theorem Kept.loadSymbols (h : Kept cmdline inUse p) (io : AuthAnswers) (a : AuthEngine) :
    Kept cmdline inUse (loadSymbols io a p).2.2 := by
  have hpath : Kept cmdline inUse (engineLibraryPath io p).2 := by
    rw [engineLibraryPath]
    split
    · exact h
    · exact h.readEntry _ _ _ _
  rw [EngineFiles.loadSymbols]
  split
  · exact h
  dsimp only
  split
  · exact hpath
  · exact hpath

theorem Kept.tryLicenses (h : Kept (some cells) inUse p) (hstock : IsStock cells) (io : AuthAnswers)
    (names : List String) (a : AuthEngine) :
    Kept (some cells) inUse (tryLicenses io names a p).2.2 := by
  induction names generalizing a p with
  | nil => exact h
  | cons name rest ih =>
      have hread := h.readEntry name true (io.license name).1 (io.license name).2
      have hasked := hread.ask hstock (.st .initLicense) nofun
      rw [EngineFiles.tryLicenses]
      dsimp only
      split
      · exact ih hread a
      split
      · exact hasked
      · exact ih hasked _

theorem Kept.setUpTee (h : Kept (some cells) inUse p) (hstock : IsStock cells) (io : AuthAnswers)
    (a : AuthEngine) : Kept (some cells) inUse (setUpTee io a p).2.2 := by
  rw [EngineFiles.setUpTee]
  split
  · dsimp only
    split
    · exact h
    · exact h.ask hstock _ nofun
  · exact h

theorem Kept.authInitLocked (h : Kept (some cells) inUse p) (hstock : IsStock cells)
    (io : AuthAnswers) (a : AuthEngine) : Kept (some cells) inUse (authInitLocked io a p).2.2 := by
  have hlicense := h.tryLicenses hstock io kLicenses a
  have htee := hlicense.setUpTee hstock io (EngineFiles.tryLicenses io kLicenses a p).2.1
  rw [EngineFiles.authInitLocked]
  dsimp only
  split
  · exact hlicense
  split
  · exact htee
  · exact htee.ask hstock _ nofun

theorem Kept.deinit (h : Kept cmdline inUse p) (a : AuthEngine) :
    Kept cmdline inUse (deinit a p).2 := by
  rw [EngineFiles.deinit]
  dsimp only
  split
  · exact h.touch rfl rfl nofun nofun trivial
  · exact h

end OneplusHal.Face.EngineFiles

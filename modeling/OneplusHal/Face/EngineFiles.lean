import OneplusHal.Face.AuthEngine
import OneplusHal.Face.FaceEngine
import OneplusHal.Lib.Bytes
import OneplusHal.Lib.Ledger

/-!
The files behind the engines: the archive of resources, the descriptors that the models are copied
to, and the cmdline of the process.

The SDK takes its license for the stock app's, which it knows by the cmdline. Both engines are
initialised while the bytes of that app's name stand in the place of the process's own arguments;
an initialisation that has failed is taken back when they are gone. Archives and descriptors are
numbered, and the log keeps what became of them.
-/

namespace OneplusHal.Face.EngineFiles

open Raster

def kCmdline : Bytes :=
  ['c', 'o', 'm', '.', 'o', 'n', 'e', 'p', 'l', 'u', 's', '.', 'f', 'a', 'c', 'e', 'u', 'n', 'l',
    'o', 'c', 'k']

def nul : Char := Char.ofNat 0

/-- The handles of the cv engine. -/
inductive Slot
  | detector
  | detector640
  | ocular
  | verify
  | hackness
  deriving DecidableEq

/-- Who opens the archive: a `Models`, or `readEntry`. -/
inductive Reader
  | models
  | readEntry
  deriving DecidableEq

/-- What the SDK is asked for while the engines are initialised. -/
inductive Ask
  | initLicense
  | initLicenseSnpe
  | create (slot : Slot) (fds : List ℕ)
  | st (fn : StFunction)

inductive FileEvent
  | openArchive (reader : Reader) (opened : Bool) (archive : Option ℕ)
  | findEntry (archive : ℕ) (name : String)
  | extractToMemory (archive : ℕ) (name : String)
  | memfdCreate (name : String) (fd : Option ℕ)
  | extractToFile (archive fd : ℕ) (name : String) (extracted : Bool)
  | close (fd : ℕ)
  | closeArchive (archive : ℕ)
  /-- with the cmdline that the SDK reads -/
  | ask (what : Ask) (cmdline : Bytes)

structure Process where
  /-- the number of the next archive or descriptor -/
  next : ℕ := 0
  log : List FileEvent := []
  /-- the `sCmdlineSize` bytes from `sCmdline` on, if it is not null -/
  sCmdline : Option (Buffer Char) := none

namespace Process

def emit (e : FileEvent) (p : Process) : Process := { p with log := p.log ++ [e] }

def handOut (event : Option ℕ → FileEvent) (ok : Bool) (p : Process) : Option ℕ × Process :=
  if ok then (some p.next, { p with next := p.next + 1 }.emit (event (some p.next)))
  else (none, p.emit (event none))

def cmdline (p : Process) : Bytes := (p.sCmdline.map Buffer.cells).getD []

def ask (what : Ask) (p : Process) : Process := p.emit (.ask what p.cmdline)

end Process

/-! ### The cmdline -/

/-- `fn` works on the engine that it captures. An access out of bounds is undefined. -/
def withStockCmdline {α : Type} (fn : α → Process → Bool × α × Process) (a : α) (p : Process) :
    Option (Bool × α × Process) :=
  match p.sCmdline with
  | none => some (false, a, p)
  | some region =>
      if region.cells.length ≤ kCmdline.length then some (false, a, p)
      else do
        let saved := region.cells
        let region ← region.memset 0 nul saved.length
        let region ← region.memcpy 0 (kCmdline ++ [nul]) 0 (kCmdline ++ [nul]).length
        let r := fn a { p with sCmdline := some region }
        let region ← r.2.2.sCmdline
        let region ← region.memcpy 0 saved 0 saved.length
        return (r.1, r.2.1, { r.2.2 with sCmdline := some region })

/-! ### The archive -/

/-- Opening an archive may leave an object although it fails. -/
inductive ArchiveAnswer
  | opened
  | failed (object : Bool)

def openArchive (reader : Reader) (answer : ArchiveAnswer) (p : Process) : Option ℕ × Process :=
  match answer with
  | .opened => p.handOut (.openArchive reader true) true
  | .failed object => p.handOut (.openArchive reader false) object

/-- Whether an entry is found, and can be extracted to memory. -/
structure EntryAnswer where
  found : Bool
  extracted : Bool

/-- `readEntry`, with or without a place to put the entry; the archive is closed in any case. -/
def readEntry (name : String) (out : Bool) (answer : ArchiveAnswer) (io : EntryAnswer)
    (p : Process) : Bool × Process :=
  let opened := openArchive .readEntry answer p
  match answer, opened.1 with
  | .opened, some archive =>
      let p := opened.2.emit (.findEntry archive name)
      if io.found && out then
        (io.extracted, (p.emit (.extractToMemory archive name)).emit (.closeArchive archive))
      else (io.found, p.emit (.closeArchive archive))
  | _, some archive => (false, opened.2.emit (.closeArchive archive))
  | _, none => (false, opened.2)

/-- Whether an entry is found, a memfd can be created for it, and the entry extracted to it. -/
structure PathAnswer where
  found : Bool
  memfd : Bool
  extracted : Bool

/-- A `Models` with its archive open; without it there is nothing to destroy. -/
structure Models where
  mArchive : ℕ
  /-- the latest first -/
  mFds : List ℕ := []

namespace Models

def openModels (answer : ArchiveAnswer) (p : Process) : Option Models × Process :=
  let opened := openArchive .models answer p
  match answer with
  | .opened => (opened.1.map fun archive => { mArchive := archive }, opened.2)
  -- `mArchive` is null again, whatever there was.
  | .failed _ => (none, opened.2)

def read (name : String) (io : EntryAnswer) (m : Models) (p : Process) : Bool × Process :=
  let p := p.emit (.findEntry m.mArchive name)
  if !io.found then (false, p) else (io.extracted, p.emit (.extractToMemory m.mArchive name))

/-- The path is `/proc/self/fd/` with the number of the descriptor. -/
def path (name : String) (io : PathAnswer) (m : Models) (p : Process) :
    Option ℕ × Models × Process :=
  let p := p.emit (.findEntry m.mArchive name)
  if !io.found then (none, m, p)
  else
    let created := p.handOut (.memfdCreate name) io.memfd
    match created.1 with
    | none => (none, m, created.2)
    | some fd =>
        let p := created.2.emit (.extractToFile m.mArchive fd name io.extracted)
        if io.extracted then (some fd, { m with mFds := fd :: m.mFds }, p)
        else (none, m, p.emit (.close fd))

/-- The paths of some models, one after the other. -/
def paths (io : String → PathAnswer) : List String → Models → Process →
    List (Option ℕ) × Models × Process
  | [], m, p => ([], m, p)
  | name :: rest, m, p =>
      let first := m.path name (io name) p
      let others := paths io rest first.2.1 first.2.2
      (first.1 :: others.1, others.2)

/-- `~Models` -/
def destroy (m : Models) (p : Process) : Process :=
  m.mFds.foldl (fun p fd => p.emit (.close fd)) (p.emit (.closeArchive m.mArchive))

end Models

/-! ### The cv engine -/

def kLicense : String := "res/raw/st_license_1_1.lic"
def kDetect : String := "res/raw/st_detect_9_2_0.model"
def kAlign : String := "res/raw/st_align_occlusion_1_6_4.model"
def kOcular : String := "res/raw/st_ocular_2_9_2.model"
def kVerify : String := "res/raw/st_verify_snpe_3_100_4.model"
def kLiveness : String := "res/raw/st_liveness_snpe_7_93_0.model"

/-- How the steps of one `FaceEngine::init` turn out. -/
structure FaceAnswers where
  dlopen : Bool
  archive : ArchiveAnswer
  license : EntryAnswer
  initLicense : Bool
  initLicenseSnpe : Bool
  path : String → PathAnswer
  createDetector : Bool
  createDetector640 : Bool
  createOcular : Bool
  createVerify : Bool
  createHackness : Bool

def createHandles (io : FaceAnswers) (detect align ocular verify liveness : ℕ) (e : FaceEngine)
    (p : Process) : Bool × FaceEngine × Process :=
  let p := p.ask (.create .detector [detect, align])
  if !io.createDetector then (false, e, p)
  else
    let e := { e.create with mDetector := some e.created.length }
    let p := p.ask (.create .detector640 [detect, align])
    if !io.createDetector640 then (false, e, p)
    else
      let e := { e.create with mDetector640 := some e.created.length }
      let p := p.ask (.create .ocular [ocular, align])
      if !io.createOcular then (false, e, p)
      else
        let e := { e.create with mOcular := some e.created.length }
        let p := p.ask (.create .verify [verify])
        if !io.createVerify then (false, e, p)
        else
          let e := { e.create with mVerify := some e.created.length }
          let p := p.ask (.create .hackness [liveness])
          if !io.createHackness then (false, e, p)
          else (true, { e.create with mHackness := some e.created.length }, p)

/-- `FaceEngine::initLocked` with the models open, up to their destruction. -/
def initWith (io : FaceAnswers) (m : Models) (e : FaceEngine) (p : Process) :
    Bool × FaceEngine × Models × Process :=
  let license := m.read kLicense io.license p
  if !license.1 then (false, e, m, license.2)
  else
    let p := (license.2.ask .initLicense).ask .initLicenseSnpe
    if !io.initLicense || !io.initLicenseSnpe then (false, e, m, p)
    else
      let extracted := m.paths io.path [kDetect, kAlign, kOcular, kVerify, kLiveness] p
      match extracted.1 with
      | [some detect, some align, some ocular, some verify, some liveness] =>
          let created := createHandles io detect align ocular verify liveness e extracted.2.2
          (created.1, created.2.1, extracted.2.1, created.2.2)
      | _ => (false, e, extracted.2)

def faceInitLocked (io : FaceAnswers) (e : FaceEngine) (p : Process) :
    Bool × FaceEngine × Process :=
  let opened := Models.openModels io.archive p
  match opened.1 with
  | none => (false, e, opened.2)
  | some m =>
      let r := initWith io m e opened.2
      (r.1, r.2.1, r.2.2.1.destroy r.2.2.2)

def faceInit (io : FaceAnswers) (e : FaceEngine) (p : Process) :
    Option (Bool × FaceEngine × Process) :=
  if e.mVerify.isSome then some (true, e, p)
  else if !e.mLib && !io.dlopen then some (false, e, p)
  else withStockCmdline (faceInitLocked io) { e with mLib := true } p

/-! ### The auth engine -/

def kLibraryEntry : String := "lib/arm64-v8a/libstfaceunlockocl.so"
def kLicenses : List String := ["res/raw/st_license_3_2.lic", "res/raw/st_license_3_1.lic"]

/-- How the steps of one `AuthEngine::init` turn out; `vendor` says that there is one of the vendor
libraries, and the licenses and the library of `rest` are not looked at. -/
structure AuthAnswers where
  vendor : Bool
  library : ArchiveAnswer × EntryAnswer
  license : String → ArchiveAnswer × EntryAnswer
  accepted : String → Bool
  rest : AuthInitIO

def engineLibraryPath (io : AuthAnswers) (p : Process) : Bool × Process :=
  if io.vendor then (true, p) else readEntry kLibraryEntry false io.library.1 io.library.2 p

def loadSymbols (io : AuthAnswers) (a : AuthEngine) (p : Process) : Bool × AuthEngine × Process :=
  if a.mLib then (true, a, p)
  else
    let path := engineLibraryPath io p
    if !path.1 || !io.rest.dlopen then (false, a, path.2)
    else
      let ok := StFunction.all.all io.rest.dlsym
      (ok, { a with loaded := io.rest.dlsym, mLib := ok }, path.2)

def tryLicenses (io : AuthAnswers) :
    List String → AuthEngine → Process → Bool × AuthEngine × Process
  | [], a, p => (false, a, p)
  | name :: rest, a, p =>
      let read := readEntry name true (io.license name).1 (io.license name).2 p
      if !read.1 then tryLicenses io rest a read.2
      else
        let p := read.2.ask (.st .initLicense)
        if io.accepted name then (true, a.call .initLicense true, p)
        else tryLicenses io rest (a.call .initLicense false) p

def setUpTee (io : AuthAnswers) (a : AuthEngine) (p : Process) : Bool × AuthEngine × Process :=
  if a.mUseTee then
    let opened := a.openTee io.rest
    if !opened.1 then (false, opened.2, p)
    else
      (io.rest.setTeeCommunicationFunc,
        opened.2.call .setTeeCommunicationFunc io.rest.setTeeCommunicationFunc,
        p.ask (.st .setTeeCommunicationFunc))
  else (true, a, p)

def authInitLocked (io : AuthAnswers) (a : AuthEngine) (p : Process) :
    Bool × AuthEngine × Process :=
  let license := tryLicenses io kLicenses a p
  if !license.1 then license
  else
    let tee := setUpTee io license.2.1 license.2.2
    if !tee.1 then tee
    else (io.rest.authInit, tee.2.1.call .authInit io.rest.authInit, tee.2.2.ask (.st .authInit))

/-- `AuthEngine::deinit`, with whatever cmdline the process has. -/
def deinit (a : AuthEngine) (p : Process) : AuthEngine × Process :=
  (a.deinit, if a.mLib then p.ask (.st .authDeinit) else p)

def authInit (io : AuthAnswers) (a : AuthEngine) (p : Process) :
    Option (Bool × AuthEngine × Process) :=
  if a.mInitialized then some (true, a, p)
  else
    let symbols := loadSymbols io a p
    if !symbols.1 then some (false, symbols.2)
    else do
      let locked ← withStockCmdline (authInitLocked io) symbols.2.1 symbols.2.2
      let a := { locked.2.1 with mInitialized := locked.1 }
      let ended := if !a.mInitialized then deinit a locked.2.2 else (a, locked.2.2)
      return (ended.1.mInitialized, ended)

/-! ### The engines of the hardware -/

structure Engines where
  engine : FaceEngine := {}
  auth : AuthEngine := {}
  process : Process := {}

inductive Init
  | face (io : FaceAnswers)
  | auth (io : AuthAnswers)

def step (s : Engines) : Init → Option Engines
  | .face io => do
      let r ← faceInit io s.engine s.process
      return { s with engine := r.2.1, process := r.2.2 }
  | .auth io => do
      let r ← authInit io s.auth s.process
      return { s with auth := r.2.1, process := r.2.2 }

def run (s : Engines) (is : List Init) : Option Engines := is.foldlM step s

end OneplusHal.Face.EngineFiles

import OneplusHal.Face.Attempt
import OneplusHal.Face.EnrollLoop
import OneplusHal.Lib.Machine

/-!
The face id that an st_auth enrollment leaves for the authentications after it.

The enrollment writes whatever id the SDK left, the authentication reads no id below zero.
They may be a restart apart: the file is all that is handed over.
-/

namespace OneplusHal.Face

open OneplusHal

/-- An engine with the storage, after an enrollment. `begun` is a ghost: an authentication was
begun on this engine since. -/
structure Matching where
  engine : AuthEngine
  storage : Storage
  begun : Bool := false

/-- What can happen to them before the next removal or enrollment. -/
inductive MatchingInput
  | beginAuthenticate (setFaceOrientation requireAttention : Bool)
  | authenticate (status : AuthStatus)
  | init (io : AuthInitIO)
  | deinit
  /-- a new engine, of the same process or of another -/
  | restart (engine : AuthEngine)
  /-- everything else in the storage -/
  | elsewhere (storage : Storage)

namespace Matching

def step (m : Matching) : MatchingInput → Matching
  | .beginAuthenticate orientation attention =>
      let r := m.engine.beginAuthenticate orientation attention m.storage
      { m with engine := r.2, begun := true }
  | .authenticate status => { m with engine := (m.engine.authenticate status m.storage).2.2 }
  | .init io => { m with engine := (m.engine.init io).2 }
  | .deinit => { m with engine := m.engine.deinit }
  | .restart engine => { m with engine := engine, begun := false }
  | .elsewhere storage =>
      { m with storage := { storage with faceIdFile := m.storage.faceIdFile } }

/-- The enrolled id arrives: no authentication asks for a new enrollment, and
`st_auth_unlock` gets the id once one has begun. -/
def Arrives (faceId : Int) (m : Matching) : MatchingInput → Prop
  | .beginAuthenticate orientation attention =>
      (m.engine.beginAuthenticate orientation attention m.storage).1 ≠ some .reenrollRequired
  | .authenticate _ => m.begun = true → m.engine.mFaceId = faceId
  | _ => True

/-- The id is on file, and an engine on which an authentication was begun has read it. -/
structure Knows (faceId : Int) (m : Matching) : Prop where
  file : m.storage.faceIdFile = some (Text.print faceId)
  engine : m.begun = true → m.engine.mFaceId = faceId

end Matching

namespace AuthEngine

/-- The frames of an enrollment, one after another. -/
def enrollFrames (origin : ℕ) (answers : List EnrollAnswer) (m : AuthEngine × Storage) :
    AuthEngine × Storage :=
  answers.foldl (fun m answer => (m.1.enroll origin answer m.2).2) m

/-- The id that the SDK left with its answer, in a variable that holds -1 at first. -/
def EnrollAnswer.leftFaceId (answer : EnrollAnswer) : Int := answer.faceId.getD (-1)

variable {a : AuthEngine} {s : Storage}

/-- An enrollment ends with the id on file. -/
theorem faceIdFile_enroll {origin : ℕ} {answer : EnrollAnswer}
    (h : (a.enroll origin answer s).1.done = true) :
    (a.enroll origin answer s).2.2.faceIdFile =
      some (Text.print (EnrollAnswer.leftFaceId answer)) := by
  obtain ⟨file, hstorage, hdone⟩ := a.enroll_storage origin answer s
  rw [hstorage]
  exact (hdone h).2

/-- What is printed is read, but for a negative number. -/
theorem parseInt_print_int (faceId : Int32) :
    parseInt (Text.print faceId.toInt) 0 = if 0 ≤ faceId then some faceId.toInt else none := by
  have hlt : faceId.toInt < 2 ^ 31 := faceId.toInt_lt
  rw [parseInt, Text.scan_print]
  dsimp only
  by_cases hnonneg : 0 ≤ faceId
  · rw [if_pos hnonneg, if_pos ⟨Int32.le_iff_toInt_le.mp hnonneg, hlt⟩]
  · rw [if_neg hnonneg, if_neg fun h => hnonneg (Int32.le_iff_toInt_le.mpr h.1)]

theorem beginAuthenticate_of_missing (orientation attention : Bool)
    (h : (s.faceIdFile.bind fun text => parseInt text 0) = none) :
    a.beginAuthenticate orientation attention s = (some .reenrollRequired, a) := by
  simp only [beginAuthenticate, h]

theorem beginAuthenticate_of_found (orientation attention : Bool) {faceId : Int}
    (h : (s.faceIdFile.bind fun text => parseInt text 0) = some faceId) :
    (a.beginAuthenticate orientation attention s).1 ≠ some .reenrollRequired ∧
      (a.beginAuthenticate orientation attention s).2.mFaceId = faceId := by
  simp only [beginAuthenticate, h]
  split
  · exact ⟨by simp, rfl⟩
  · exact ⟨by simp, rfl⟩

/-! The id that was read stays until the next one is read. -/

theorem mFaceId_deinit : a.deinit.mFaceId = a.mFaceId := by
  unfold deinit
  cases a.mLib <;> cases htee : a.mUseTee <;> simp [call, htee]

theorem mFaceId_loadSymbols (io : AuthInitIO) : (loadSymbols io a).2.mFaceId = a.mFaceId := by
  unfold loadSymbols
  split
  · rfl
  · split <;> rfl

theorem mFaceId_tryLicenses (licenses : List (Option Bool)) (a : AuthEngine) :
    (tryLicenses licenses a).2.mFaceId = a.mFaceId := by
  induction licenses generalizing a with
  | nil => rfl
  | cons l rest ih =>
      cases l with
      | none => exact ih a
      | some accepted =>
          cases accepted with
          | true => rfl
          | false => exact ih _

theorem mFaceId_openTee (io : AuthInitIO) (a : AuthEngine) :
    (openTee io a).2.mFaceId = a.mFaceId := by
  simp only [openTee]
  split
  · rfl
  · split <;> rfl

theorem mFaceId_initLocked (io : AuthInitIO) (a : AuthEngine) :
    (initLocked io a).2.mFaceId = a.mFaceId := by
  have hcall (b : AuthEngine) (fn : StFunction) (ok : Bool) : (b.call fn ok).mFaceId = b.mFaceId :=
    rfl
  simp only [initLocked]
  split_ifs <;> simp only [hcall, mFaceId_openTee, mFaceId_tryLicenses]

theorem mFaceId_init (io : AuthInitIO) : (a.init io).2.mFaceId = a.mFaceId := by
  have hback (b : AuthEngine) (ok : Bool) (h : b.mFaceId = a.mFaceId) :
      (if !{ b with mInitialized := ok }.mInitialized then
          { b with mInitialized := ok }.deinit else { b with mInitialized := ok }).mFaceId =
        a.mFaceId := by
    split
    · exact mFaceId_deinit.trans h
    · exact h
  simp only [init]
  split
  · rfl
  · split
    · exact mFaceId_loadSymbols io
    · apply hback
      split
      · exact (mFaceId_initLocked io _).trans (mFaceId_loadSymbols io)
      · exact mFaceId_loadSymbols io

end AuthEngine

namespace Matching

open AuthEngine

variable {m : Matching} {faceId : Int32}

/-- What holds of an id that can be read stays so. -/
theorem Knows.step (h : m.Knows faceId.toInt) (hnonneg : 0 ≤ faceId) (i : MatchingInput) :
    m.Arrives faceId.toInt i ∧ (m.step i).Knows faceId.toInt := by
  have hread : (m.storage.faceIdFile.bind fun text => parseInt text 0) = some faceId.toInt := by
    rw [h.file, Option.bind_some, parseInt_print_int, if_pos hnonneg]
  cases i with
  | beginAuthenticate orientation attention =>
      have hfound := beginAuthenticate_of_found (a := m.engine) orientation attention hread
      exact ⟨hfound.1, h.file, fun _ => hfound.2⟩
  | authenticate status =>
      exact ⟨h.engine, h.file, fun hbegun => (mFaceId_authenticate ..).trans (h.engine hbegun)⟩
  | init io => exact ⟨trivial, h.file, fun hbegun => (mFaceId_init io).trans (h.engine hbegun)⟩
  | deinit => exact ⟨trivial, h.file, fun hbegun => mFaceId_deinit.trans (h.engine hbegun)⟩
  | restart engine => exact ⟨trivial, h.file, nofun⟩
  | elsewhere storage => exact ⟨trivial, h.file, h.engine⟩

/-- Whatever happens until then, an id that can be read arrives at every authentication. -/
theorem Knows.arrives (h : m.Knows faceId.toInt) (hnonneg : 0 ≤ faceId)
    (is : List MatchingInput) : Machine.Along Matching.step (Arrives faceId.toInt) m is := by
  induction is generalizing m with
  | nil => trivial
  | cons i is ih =>
      obtain ⟨harrives, hstep⟩ := h.step hnonneg i
      exact ⟨harrives, ih hstep⟩

/-- One that cannot be read does not arrive at the first. -/
theorem Knows.not_arrives (h : m.Knows faceId.toInt) (hneg : ¬0 ≤ faceId)
    (orientation attention : Bool) :
    ¬m.Arrives faceId.toInt (.beginAuthenticate orientation attention) := by
  have hmissing : (m.storage.faceIdFile.bind fun text => parseInt text 0) = none := by
    rw [h.file, Option.bind_some, parseInt_print_int, if_neg hneg]
  rw [Arrives, beginAuthenticate_of_missing orientation attention hmissing]
  exact not_not.mpr rfl

/-- The state after the frames of an enrollment. -/
def enrolled (origin : ℕ) (answers : List EnrollAnswer) (a : AuthEngine) (s : Storage) :
    Matching :=
  let m := enrollFrames origin answers (a, s)
  { engine := m.1, storage := m.2 }

/-- The last of the frames ends the enrollment. -/
def EndsDone (origin : ℕ) (answers : List EnrollAnswer) (answer : EnrollAnswer) (a : AuthEngine)
    (s : Storage) : Prop :=
  let m := enrollFrames origin answers (a, s)
  (m.1.enroll origin answer m.2).1.done = true

theorem knows_enrolled {origin : ℕ} {answers : List EnrollAnswer} {answer : EnrollAnswer}
    {a : AuthEngine} {s : Storage} (h : EndsDone origin answers answer a s) :
    (enrolled origin (answers ++ [answer]) a s).Knows (EnrollAnswer.leftFaceId answer) := by
  have hframes : enrollFrames origin (answers ++ [answer]) (a, s) =
      ((enrollFrames origin answers (a, s)).1.enroll origin answer
        (enrollFrames origin answers (a, s)).2).2 := by
    rw [enrollFrames, List.foldl_append]
    rfl
  refine ⟨?_, nofun⟩
  rw [enrolled, hframes]
  exact faceIdFile_enroll h

/-- The id of an enrollment that was reported as done arrives at every authentication after it,
whatever happens before the next removal or enrollment, if and only if it is not negative. -/
theorem face_id_arrives_iff (origin : ℕ) (answers : List EnrollAnswer) (answer : EnrollAnswer)
    (a : AuthEngine) (s : Storage) (faceId : Int32)
    (hid : EnrollAnswer.leftFaceId answer = faceId.toInt)
    (hdone : EndsDone origin answers answer a s) :
    (∀ is, Machine.Along step (Arrives faceId.toInt)
        (enrolled origin (answers ++ [answer]) a s) is) ↔ 0 ≤ faceId := by
  have hknows := knows_enrolled hdone
  rw [hid] at hknows
  refine ⟨fun h => by_contra fun hneg => ?_, hknows.arrives⟩
  exact hknows.not_arrives hneg true true (h [.beginAuthenticate true true]).1

/-- The answer that ends an enrollment. -/
def lastAnswer (faceId : Option Int) : EnrollAnswer := ⟨.enrollOk, faceId, false, [], .written⟩

/-- The SDK ends the enrollment and leaves the id alone: it is done, and the next
authentication asks for another. -/
theorem face_id_unread :
    EndsDone 0 [] (lastAnswer none) {} {} ∧
      EnrollAnswer.leftFaceId (lastAnswer none) = (-1 : Int32).toInt ∧
      let m := enrolled 0 [lastAnswer none] {} {}
      m.storage.faceIdFile = some ['-', '1'] ∧
        (m.engine.beginAuthenticate true true m.storage).1 = some .reenrollRequired :=
  ⟨rfl, by decide, by decide, by decide⟩

/-- The id 3 arrives. -/
theorem face_id_read :
    EndsDone 0 [] (lastAnswer (some 3)) {} {} ∧
      ∀ is, Machine.Along step (Arrives 3) (enrolled 0 [lastAnswer (some 3)] {} {}) is :=
  ⟨rfl, (face_id_arrives_iff 0 [] (lastAnswer (some 3)) {} {} 3 (by decide) rfl).mpr (by decide)⟩

end Matching

end OneplusHal.Face

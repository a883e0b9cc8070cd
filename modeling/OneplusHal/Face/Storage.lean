import Mathlib.Logic.Function.Basic
import OneplusHal.Lib.Text

/-!
What the face service keeps beyond one operation: the enrollment record, and the three
places that can hold a template. Files are written and deleted through libbase and
libc, whose outcomes the environment chooses.
-/

namespace OneplusHal.Face

/-- The bytes of a file or of a `std::string`, one character a byte. -/
abbrev Bytes := List Char

/-- An NV21 frame as the camera source hands it out. -/
abbrev Nv21 := List UInt8

/-! ### Files -/

/-- What becomes of a `WriteStringToFile`. It truncates the file on open, and unlinks it
when the write itself fails. -/
inductive WriteOutcome
  | written
  | openFailed
  | writeFailed
  deriving DecidableEq

def writeStringToFile {α : Type} (o : WriteOutcome) (content : α) (file : Option α) :
    Bool × Option α :=
  match o with
  | .written => (true, some content)
  | .openFailed => (false, file)
  | .writeFailed => (false, none)

/-- `unlink(f) == 0 || errno == ENOENT`. The argument `fails` says that the call fails for
a reason other than a missing file. -/
def unlink {α : Type} (fails : Bool) (file : Option α) : Bool × Option α :=
  if fails then (false, file) else (true, none)

@[simp] theorem unlink_true {α : Type} (file : Option α) : unlink true file = (false, file) := rfl

@[simp] theorem unlink_false {α : Type} (file : Option α) : unlink false file = (true, none) := rfl

theorem writeStringToFile_ok {α : Type} {o : WriteOutcome} {content : α} {file : Option α}
    (h : (writeStringToFile o content file).1 = true) :
    (writeStringToFile o content file).2 = some content := by
  cases o <;> simp_all [writeStringToFile]

/-- A write that fails leaves the old file or none. -/
theorem writeStringToFile_failed {α : Type} {o : WriteOutcome} {content : α} {file : Option α}
    (h : (writeStringToFile o content file).1 = false) :
    (writeStringToFile o content file).2 = file ∨ (writeStringToFile o content file).2 = none := by
  cases o <;> simp_all [writeStringToFile]

/-! ### Templates -/

/-- A stored face template. `origin` is a ghost: the number of the enroll operation that
captured it. The code has no such field and no definition branches on it. -/
structure Template where
  feature : List UInt8
  origin : ℕ
  deriving DecidableEq

/-- The templates of the st_auth SDK in one of its directories, by face id. -/
abbrev StAuthStore := List (Int × Template)

def StAuthStore.find (store : StAuthStore) (faceId : Int) : Option Template :=
  store.lookup faceId

def StAuthStore.insert (store : StAuthStore) (faceId : Int) (t : Template) : StAuthStore :=
  (faceId, t) :: store.filter fun p => p.1 != faceId

/-- Everything that outlives the service process. -/
structure Storage where
  /-- `/data/vendor/face/enrollment` -/
  enrollmentFile : Option Bytes := none
  /-- `/data/vendor/face/feature` -/
  featureFile : Option Template := none
  /-- `/data/vendor/face/st_auth_face_id` -/
  faceIdFile : Option Bytes := none
  /-- the feature slot of the faceapp trusted app -/
  teeFeature : Option Template := none
  /-- the frames kept beside it -/
  teeFrames : ℕ → Option Nv21 := fun _ => none
  /-- the template directories of st_auth, without and with the TEE -/
  stAuth : Bool → StAuthStore := fun _ => []

/-- A place that can hold a template. -/
inductive StoreId
  | teeSlot
  | featureFile
  | stAuth (tee : Bool)
  deriving DecidableEq

/-- The templates a store holds. -/
def Storage.templates (s : Storage) : StoreId → List Template
  | .teeSlot => s.teeFeature.toList
  | .featureFile => s.featureFile.toList
  | .stAuth tee => (s.stAuth tee).map Prod.snd

/-- No store holds a template that enroll operation `origin` captured. -/
def Storage.Lacks (s : Storage) (origin : ℕ) : Prop :=
  ∀ store, ∀ t ∈ s.templates store, t.origin ≠ origin

theorem StAuthStore.mem_of_find {store : StAuthStore} {faceId : Int} {t : Template}
    (h : store.find faceId = some t) : t ∈ store.map Prod.snd := by
  induction store with
  | nil => simp [find] at h
  | cons p store ih =>
      obtain ⟨i, u⟩ := p
      by_cases hi : faceId = i
      · subst hi
        simp [find] at h
        simp [h]
      · have hne : (faceId == i) = false := by simpa using hi
        rw [find, List.lookup_cons, hne] at h
        exact List.mem_cons_of_mem _ (ih h)

@[simp] theorem StAuthStore.find_insert (store : StAuthStore) (faceId : Int) (t : Template) :
    (store.insert faceId t).find faceId = some t := by
  simp [find, insert]

theorem StAuthStore.mem_insert {store : StAuthStore} {faceId : Int} {t u : Template}
    (h : u ∈ (store.insert faceId t).map Prod.snd) : u = t ∨ u ∈ store.map Prod.snd := by
  simp only [insert, List.map_cons, List.mem_cons, List.mem_map, List.mem_filter] at h
  rcases h with rfl | ⟨p, ⟨hp, -⟩, rfl⟩
  · exact .inl rfl
  · exact .inr (List.mem_map_of_mem hp)

end OneplusHal.Face

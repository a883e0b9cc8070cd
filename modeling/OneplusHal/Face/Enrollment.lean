import Mathlib.Tactic.Common
import OneplusHal.Face.Storage

/-!
The enrollment record and its one-line text form. There is a single record for all
users, and a negative user id in it means that nobody is enrolled.
-/

namespace OneplusHal.Face

open OneplusHal

def kCvEngine : Bytes := ['c', 'v']

structure Enrollment where
  userId : Int32 := -1
  enrollmentId : Int32 := 0
  authenticatorId : Int64 := 0
  requireAttention : Bool := true
  engine : Bytes := []
  deriving DecidableEq

/-- What `std::stoi` and `std::stoll` throw. -/
inductive StdException
  | invalidArgument
  | outOfRange
  deriving DecidableEq

/-- `strtol` with the range check of `std::stoi`; trailing characters are ignored. -/
def stoi (s : Bytes) : Except StdException Int32 :=
  match Text.scan s with
  | none => .error .invalidArgument
  | some (n, _) =>
      if Int32.minValue.toInt ≤ n ∧ n ≤ Int32.maxValue.toInt then .ok (Int32.ofInt n)
      else .error .outOfRange

def stoll (s : Bytes) : Except StdException Int64 :=
  match Text.scan s with
  | none => .error .invalidArgument
  | some (n, _) =>
      if Int64.minValue.toInt ≤ n ∧ n ≤ Int64.maxValue.toInt then .ok (Int64.ofInt n)
      else .error .outOfRange

/-- The record made of the fields of the line, read in the order of the code. -/
def Enrollment.ofFields (f₀ f₁ f₂ f₃ engine : Bytes) : Except StdException Enrollment :=
  match stoi f₀ with
  | .error ex => .error ex
  | .ok userId =>
      match stoi f₁ with
      | .error ex => .error ex
      | .ok enrollmentId =>
          match stoll f₂ with
          | .error ex => .error ex
          | .ok authenticatorId =>
              .ok { userId, enrollmentId, authenticatorId, requireAttention := f₃ = ['1'], engine }

/-- `Enrollment::load`, with the exception it lets through. -/
def Enrollment.load (file : Option Bytes) : Except StdException Enrollment :=
  match file with
  | none => .ok {}
  | some content =>
      match (Text.trim content).splitOn ' ' with
      | [f₀, f₁, f₂, f₃] => Enrollment.ofFields f₀ f₁ f₂ f₃ kCvEngine
      | [f₀, f₁, f₂, f₃, f₄] => Enrollment.ofFields f₀ f₁ f₂ f₃ f₄
      | _ => .ok {}

/-- The line `Enrollment::save` writes. -/
def Enrollment.text (e : Enrollment) : Bytes :=
  Text.print e.userId.toInt ++ [' '] ++ Text.print e.enrollmentId.toInt ++ [' '] ++
    Text.print e.authenticatorId.toInt ++ [' '] ++ [if e.requireAttention then '1' else '0'] ++
    [' '] ++ e.engine

/-- What the file system makes of an `Enrollment::save`. -/
structure SaveIO where
  unlinkFails : Bool
  write : WriteOutcome

/-- `Enrollment::save`: a record of no user deletes the file. -/
def Enrollment.save (e : Enrollment) (io : SaveIO) (file : Option Bytes) : Bool × Option Bytes :=
  if e.userId < 0 then unlink io.unlinkFails file
  else writeStringToFile io.write e.text file

/-! ### Reading back what was written -/

@[simp] theorem stoi_print (n : Int32) : stoi (Text.print n.toInt) = .ok n := by
  have hrange : Int32.minValue.toInt ≤ n.toInt ∧ n.toInt ≤ Int32.maxValue.toInt :=
    ⟨n.minValue_le_toInt, n.toInt_le⟩
  simp only [stoi, Text.scan_print, if_pos hrange, Int32.ofInt_toInt]

@[simp] theorem stoll_print (n : Int64) : stoll (Text.print n.toInt) = .ok n := by
  have hrange : Int64.minValue.toInt ≤ n.toInt ∧ n.toInt ≤ Int64.maxValue.toInt :=
    ⟨n.minValue_le_toInt, n.toInt_le⟩
  simp only [stoll, Text.scan_print, if_pos hrange, Int64.ofInt_toInt]

/-- A word: some text without white space. -/
def IsWord (s : Bytes) : Prop := s ≠ [] ∧ ∀ c ∈ s, Text.isSpace c = false

theorem isWord_print (n : Int) : IsWord (Text.print n) :=
  ⟨Text.print_ne_nil n, fun _ => Text.not_isSpace_of_mem_print⟩

theorem IsWord.space_not_mem {s : Bytes} (h : IsWord s) : ' ' ∉ s := fun hs => by
  simpa [Text.isSpace] using h.2 _ hs

/-- The five fields of the line. -/
def Enrollment.fields (e : Enrollment) : List Bytes :=
  [Text.print e.userId.toInt, Text.print e.enrollmentId.toInt, Text.print e.authenticatorId.toInt,
    [if e.requireAttention then '1' else '0'], e.engine]

theorem Enrollment.text_eq_intercalate (e : Enrollment) :
    e.text = [' '].intercalate e.fields := by
  simp [text, fields, List.intercalate, List.intersperse]

theorem intercalate_words_ne_nil {f : Bytes} {fs : List Bytes} (h : IsWord f) :
    [' '].intercalate (f :: fs) ≠ [] := by
  cases fs with
  | nil => simpa using h.1
  | cons g gs => simp [List.intercalate_cons_cons]

/-- A line of words begins and ends with a character of a word. -/
theorem trim_intercalate_words {fs : List Bytes} (h : ∀ f ∈ fs, IsWord f) :
    Text.trim ([' '].intercalate fs) = [' '].intercalate fs := by
  apply Text.trim_eq_self
  · intro c hc
    cases fs with
    | nil => simp at hc
    | cons f fs =>
        obtain ⟨a, as, hf⟩ := List.exists_cons_of_ne_nil (h f List.mem_cons_self).1
        have hac : a = c := by
          cases fs with
          | nil => simpa [hf] using hc
          | cons g gs => simpa [hf, List.intercalate_cons_cons] using hc
        exact (h f List.mem_cons_self).2 c (by simp [hf, hac])
  · induction fs with
    | nil => simp
    | cons f fs ih =>
        cases fs with
        | nil =>
            intro c hc
            rw [List.intercalate_singleton] at hc
            exact (h f List.mem_cons_self).2 c (List.mem_of_getLast? hc)
        | cons g gs =>
            have hne : [' '].intercalate (g :: gs) ≠ [] :=
              intercalate_words_ne_nil (h g (by simp))
            rw [List.intercalate_cons_cons, List.getLast?_append_of_ne_nil _ hne]
            exact ih fun f' hf' => h f' (List.mem_cons_of_mem _ hf')

theorem splitOn_trim_words {fs : List Bytes} (h : ∀ f ∈ fs, IsWord f) (hne : fs ≠ []) :
    (Text.trim ([' '].intercalate fs)).splitOn ' ' = fs := by
  rw [trim_intercalate_words h]
  exact List.splitOn_intercalate _ (fun f hf => (h f hf).space_not_mem) hne

theorem isWord_flag (b : Bool) : IsWord [if b then '1' else '0'] := by
  cases b <;> simp [IsWord, Text.isSpace]

/-- Loading a saved line gives the same record. -/
theorem Enrollment.load_text {e : Enrollment} (h : IsWord e.engine) :
    load (some e.text) = .ok e := by
  have hwords : ∀ f ∈ e.fields, IsWord f := by
    simp only [fields, List.mem_cons, List.not_mem_nil, or_false]
    rintro f (rfl | rfl | rfl | rfl | rfl)
    · exact isWord_print _
    · exact isWord_print _
    · exact isWord_print _
    · exact isWord_flag _
    · exact h
  rw [load, text_eq_intercalate, splitOn_trim_words hwords (by simp [fields])]
  simp only [fields, ofFields, stoi_print, stoll_print]
  cases e with
  | mk userId enrollmentId authenticatorId requireAttention engine =>
      cases requireAttention <;> simp

end OneplusHal.Face

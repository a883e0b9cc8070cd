import OneplusHal.Face.TemplateStores

/-!
The enrollment file as a format.

`text` and `load` are inverse on every record of a user whose engine is one word, and a
file of the older form, which has no engine field, reads as a record of the cv engine.

What `load` makes of any other content is compared with `tolerant`, the reader that takes
a record only from four or five fields of which the first three are integers and nothing
else, and reads everything else as nobody enrolled.
-/

namespace OneplusHal.Face

open OneplusHal

namespace Enrollment

/-! ### Round trips -/

/-- The line of a record without its engine, as older versions wrote it. -/
def legacyText (e : Enrollment) : Bytes :=
  Text.print e.userId.toInt ++ [' '] ++ Text.print e.enrollmentId.toInt ++ [' '] ++
    Text.print e.authenticatorId.toInt ++ [' '] ++ [if e.requireAttention then '1' else '0']

theorem load_legacyText (e : Enrollment) :
    load (some e.legacyText) = .ok { e with engine := kCvEngine } := by
  have htext : e.legacyText = [' '].intercalate (e.fields.take 4) := by
    simp [legacyText, fields, List.intercalate, List.intersperse]
  have hwords : ∀ f ∈ e.fields.take 4, IsWord f := by
    simp only [fields, List.take_succ_cons, List.take_zero, List.mem_cons, List.not_mem_nil,
      or_false]
    rintro f (rfl | rfl | rfl | rfl)
    · exact isWord_print _
    · exact isWord_print _
    · exact isWord_print _
    · exact isWord_flag _
  rw [load, htext, splitOn_trim_words hwords (by simp [fields])]
  simp only [fields, List.take_succ_cons, List.take_zero, ofFields, stoi_print, stoll_print]
  cases hattention : e.requireAttention <;> simp

/-- A record survives a save that succeeds, a record of no user saves as nobody enrolled,
and a record in the older form reads as one of the cv engine, which saving again keeps. -/
theorem load_save (e : Enrollment) (io : SaveIO) (file : Option Bytes) :
    ((e.save io file).1 = true → 0 ≤ e.userId → IsWord e.engine →
        load (e.save io file).2 = .ok e) ∧
      ((e.save io file).1 = true → e.userId < 0 → load (e.save io file).2 = .ok {}) ∧
      load (some e.legacyText) = .ok { e with engine := kCvEngine } ∧
      (0 ≤ e.userId → ({ e with engine := kCvEngine }.save io (some e.legacyText)).1 = true →
        load ({ e with engine := kCvEngine }.save io (some e.legacyText)).2 =
          load (some e.legacyText)) := by
  have hsaved {e : Enrollment} {file : Option Bytes} (hok : (e.save io file).1 = true)
      (huser : 0 ≤ e.userId) (hengine : IsWord e.engine) :
      load (e.save io file).2 = .ok e := by
    rw [save_ok hok, if_neg (Int32.not_lt.mpr huser)]
    exact load_text hengine
  refine ⟨hsaved, fun hok hnegative => ?_, e.load_legacyText, fun huser hok => ?_⟩
  · rw [save_ok hok, if_pos hnegative]
    rfl
  · rw [load_legacyText]
    exact hsaved hok huser (isWord_engine .featureFile)

/-- The extreme values of every field. -/
theorem load_save_extremes :
    let e : Enrollment :=
      ⟨Int32.maxValue, Int32.minValue, Int64.minValue, false, kStAuthTee⟩
    load (e.save .quiet none).2 = .ok e :=
  (load_save _ .quiet none).1 rfl (by decide) (isWord_engine (.stAuth true))

/-! ### Any content -/

/-- A field that is one integer between two bounds. -/
def integerField (lo hi : Int) (f : Bytes) : Option Int :=
  (Text.wholeNumber f).filter fun n => lo ≤ n ∧ n ≤ hi

def int32Field (f : Bytes) : Option Int :=
  integerField Int32.minValue.toInt Int32.maxValue.toInt f

def int64Field (f : Bytes) : Option Int :=
  integerField Int64.minValue.toInt Int64.maxValue.toInt f

/-- The record that the fields state, if the first three are integers. -/
def stated (f₀ f₁ f₂ f₃ engine : Bytes) : Option Enrollment :=
  match int32Field f₀, int32Field f₁, int64Field f₂ with
  | some userId, some enrollmentId, some authenticatorId =>
      some ⟨.ofInt userId, .ofInt enrollmentId, .ofInt authenticatorId, f₃ = ['1'], engine⟩
  | _, _, _ => none

/-- The reader that takes everything but a record for nobody enrolled. -/
def tolerant (file : Option Bytes) : Enrollment :=
  match file with
  | none => {}
  | some content =>
      match (Text.trim content).splitOn ' ' with
      | [f₀, f₁, f₂, f₃] => (stated f₀ f₁ f₂ f₃ kCvEngine).getD {}
      | [f₀, f₁, f₂, f₃, f₄] => (stated f₀ f₁ f₂ f₃ f₄).getD {}
      | _ => {}

/-- Of four or five fields, the first three are integers. -/
def IntegersFirst (file : Option Bytes) : Prop :=
  ∀ content f₀ f₁ f₂ f₃ rest, file = some content →
    (Text.trim content).splitOn ' ' = f₀ :: f₁ :: f₂ :: f₃ :: rest → rest.length ≤ 1 →
      (int32Field f₀).isSome ∧ (int32Field f₁).isSome ∧ (int64Field f₂).isSome

theorem integerField_eq_some {lo hi n : Int} {f : Bytes} (h : integerField lo hi f = some n) :
    Text.scan f = some (n, []) ∧ lo ≤ n ∧ n ≤ hi := by
  obtain ⟨hwhole, hrange⟩ := Option.filter_eq_some_iff.mp h
  exact ⟨Text.scan_of_wholeNumber hwhole, by simpa using hrange⟩

theorem stoi_of_int32Field {f : Bytes} {n : Int} (h : int32Field f = some n) :
    stoi f = .ok (Int32.ofInt n) := by
  obtain ⟨hscan, hrange⟩ := integerField_eq_some h
  rw [stoi, hscan]
  exact if_pos hrange

theorem stoll_of_int64Field {f : Bytes} {n : Int} (h : int64Field f = some n) :
    stoll f = .ok (Int64.ofInt n) := by
  obtain ⟨hscan, hrange⟩ := integerField_eq_some h
  rw [stoll, hscan]
  exact if_pos hrange

/-- The fields of a record are read as they are stated. -/
theorem ofFields_of_integers {f₀ f₁ f₂ : Bytes} (f₃ engine : Bytes)
    (h : (int32Field f₀).isSome ∧ (int32Field f₁).isSome ∧ (int64Field f₂).isSome) :
    ofFields f₀ f₁ f₂ f₃ engine = .ok ((stated f₀ f₁ f₂ f₃ engine).getD {}) := by
  obtain ⟨h₀, h₁, h₂⟩ := h
  obtain ⟨u, hu⟩ := Option.isSome_iff_exists.mp h₀
  obtain ⟨i, hi⟩ := Option.isSome_iff_exists.mp h₁
  obtain ⟨a, ha⟩ := Option.isSome_iff_exists.mp h₂
  simp only [ofFields, stated, stoi_of_int32Field hu, stoi_of_int32Field hi,
    stoll_of_int64Field ha, hu, hi, ha, Option.getD_some]

theorem stated_eq_none {f₀ f₁ f₂ : Bytes} (f₃ engine : Bytes)
    (h : ¬((int32Field f₀).isSome ∧ (int32Field f₁).isSome ∧ (int64Field f₂).isSome)) :
    stated f₀ f₁ f₂ f₃ engine = none := by
  unfold stated
  cases hu : int32Field f₀ <;> cases hi : int32Field f₁ <;> cases ha : int64Field f₂ <;>
    simp_all

theorem engine_ofFields {f₀ f₁ f₂ f₃ engine : Bytes} {e : Enrollment}
    (h : ofFields f₀ f₁ f₂ f₃ engine = .ok e) : e.engine = engine := by
  unfold ofFields at h
  split at h
  · cases h
  · split at h
    · cases h
    · split at h
      · cases h
      · exact (Except.ok.inj h) ▸ rfl

/-- Where fields that are no record are read at all, a record with an engine is read. -/
theorem ofFields_eq_stated_iff {f₀ f₁ f₂ f₃ engine : Bytes} (hengine : engine ≠ []) :
    ofFields f₀ f₁ f₂ f₃ engine = .ok ((stated f₀ f₁ f₂ f₃ engine).getD {}) ↔
      (int32Field f₀).isSome ∧ (int32Field f₁).isSome ∧ (int64Field f₂).isSome := by
  refine ⟨fun h => ?_, ofFields_of_integers f₃ engine⟩
  by_contra hnot
  rw [stated_eq_none f₃ engine hnot] at h
  exact hengine (engine_ofFields h).symm

theorem intercalate_append_singleton {sep last : Bytes} {fs : List Bytes} (hfs : fs ≠ []) :
    sep.intercalate (fs ++ [last]) = sep.intercalate fs ++ sep ++ last := by
  induction fs with
  | nil => exact absurd rfl hfs
  | cons f fs ih =>
      cases fs with
      | nil => simp [List.intercalate_cons_cons]
      | cons g gs =>
          rw [List.intercalate_cons_cons, List.cons_append, List.cons_append,
            List.intercalate_cons_cons, ← List.cons_append, ih (List.cons_ne_nil _ _)]
          simp only [List.append_assoc]

/-- The last of several fields of a trimmed line is not empty. -/
theorem last_field_ne_nil {content last : Bytes} {fs : List Bytes} (hfs : fs ≠ [])
    (h : (Text.trim content).splitOn ' ' = fs ++ [last]) : last ≠ [] := by
  rintro rfl
  have htrim : Text.trim content = [' '].intercalate fs ++ [' '] := by
    have hjoin : [' '].intercalate ((Text.trim content).splitOn ' ') = Text.trim content :=
      List.intercalate_splitOn ' '
    rw [h, intercalate_append_singleton hfs, List.append_nil] at hjoin
    exact hjoin.symm
  have hne : Text.trim content ≠ [] := by simp [htrim]
  have hlast := Text.not_isSpace_getLast_trim hne
  simp [htrim, Text.isSpace] at hlast

theorem integersFirst_some {content : Bytes} :
    IntegersFirst (some content) ↔
      ∀ f₀ f₁ f₂ f₃ rest, (Text.trim content).splitOn ' ' = f₀ :: f₁ :: f₂ :: f₃ :: rest →
        rest.length ≤ 1 →
          (int32Field f₀).isSome ∧ (int32Field f₁).isSome ∧ (int64Field f₂).isSome := by
  constructor
  · exact fun h f₀ f₁ f₂ f₃ rest => h content f₀ f₁ f₂ f₃ rest rfl
  · rintro h _ f₀ f₁ f₂ f₃ rest ⟨⟩
    exact h f₀ f₁ f₂ f₃ rest

/-- The file is read without an exception, and as a record only if it is one, if and only
if of four or five fields the first three are integers. -/
theorem load_tolerant_iff (file : Option Bytes) :
    load file = .ok (tolerant file) ↔ IntegersFirst file := by
  cases file with
  | none => exact iff_of_true rfl fun _ _ _ _ _ _ hfile => nomatch hfile
  | some content =>
      have hlast {f₀ f₁ f₂ f₃ f₄ : Bytes}
          (hfields : (Text.trim content).splitOn ' ' = [f₀, f₁, f₂, f₃, f₄]) : f₄ ≠ [] :=
        last_field_ne_nil (List.cons_ne_nil f₀ [f₁, f₂, f₃]) hfields
      rw [integersFirst_some]
      unfold load tolerant
      dsimp only
      generalize (Text.trim content).splitOn ' ' = fields at hlast
      -- Only four or five fields are looked at, and of these the first three are parsed.
      match fields with
      | [f₀, f₁, f₂, f₃] =>
          refine (ofFields_eq_stated_iff (List.cons_ne_nil _ _)).trans ⟨?_, ?_⟩
          · rintro hall _ _ _ _ _ ⟨⟩ -
            exact hall
          · exact fun hall => hall f₀ f₁ f₂ f₃ [] rfl (Nat.zero_le 1)
      | [f₀, f₁, f₂, f₃, f₄] =>
          refine (ofFields_eq_stated_iff (hlast rfl)).trans ⟨?_, ?_⟩
          · rintro hall _ _ _ _ _ ⟨⟩ -
            exact hall
          · exact fun hall => hall f₀ f₁ f₂ f₃ [f₄] rfl le_rfl
      | [] => exact iff_of_true rfl fun _ _ _ _ _ hsplit => nomatch hsplit
      | [_] => exact iff_of_true rfl fun _ _ _ _ _ hsplit => nomatch hsplit
      | [_, _] => exact iff_of_true rfl fun _ _ _ _ _ hsplit => nomatch hsplit
      | [_, _, _] => exact iff_of_true rfl fun _ _ _ _ _ hsplit => nomatch hsplit
      | _ :: _ :: _ :: _ :: _ :: _ :: _ =>
          refine iff_of_true rfl ?_
          rintro _ _ _ _ _ ⟨⟩ hrest
          exact absurd hrest (by simp)

/-- A field that is no number, and one that only begins with a number. -/
theorem load_intolerant :
    load (some "one 2 3 1".toList) = .error .invalidArgument ∧
      load (some "1x 2 3 1".toList) = .ok ⟨1, 2, 3, true, kCvEngine⟩ ∧
      tolerant (some "1x 2 3 1".toList) = {} ∧
      load (some "one 2 3 1".toList) ≠ .ok (tolerant (some "one 2 3 1".toList)) := by
  decide +kernel

end Enrollment

end OneplusHal.Face

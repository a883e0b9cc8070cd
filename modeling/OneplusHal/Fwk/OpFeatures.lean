import Mathlib.Logic.Function.Basic
import OneplusHal.Lib.Text

/-!
The features of a device, which a class of the framework reads from a list on the odm
partition when it is loaded.

An exception that leaves its static initialiser makes the class unusable; the only exceptions
caught there are those of reading the file.
-/

namespace OneplusHal.Fwk

open OneplusHal

abbrev Text := List Char

/-- A `java.util.BitSet`. -/
abbrev BitSet := ℕ → Bool

def BitSet.set (s : BitSet) (n : ℕ) : BitSet := Function.update s n true

/-- The lines that `readLine` hands out one after another; `line` is what was read of the
current one. The end of the file ends a line that has begun. -/
def readLines (line : Text) : Text → List Text
  | [] => if line = [] then [] else [line]
  | '\r' :: '\n' :: rest => line :: readLines [] rest
  | c :: rest =>
      if c = '\n' ∨ c = '\r' then line :: readLines [] rest else readLines (line ++ [c]) rest

/-- `line.split(" ")`, which drops empty fields at the end, but leaves a line without a
separator as it is. -/
def splitSpaces (line : Text) : List Text :=
  if ' ' ∉ line then [line] else (line.splitOn ' ').rdropWhile (· = [])

/-- `replaceAll("[^0-9]", "")` -/
def digits (text : Text) : Text := text.filter Char.isDigit

structure NumberFormatException where
  text : Text

/-- `Integer.parseInt` -/
def parseInt (text : Text) : Except NumberFormatException Int32 :=
  match Text.wholeNumber text with
  | some n =>
      if Int32.minValue.toInt ≤ n ∧ n ≤ Int32.maxValue.toInt then .ok (Int32.ofInt n)
      else .error ⟨text⟩
  | none => .error ⟨text⟩

namespace OpFeatures

/-- The body of the loop over the lines. -/
def addLine (sFeatures : BitSet) (line : Text) : Except NumberFormatException BitSet :=
  let values := splitSpaces line
  if values.length = 4 ∧ values[3]? = some "true".toList then
    let id := digits (values.headD [])
    if id.length ≠ 0 then (parseInt id).map fun n => sFeatures.set n.toInt.toNat
    else .ok sFeatures
  else .ok sFeatures

/-- The static initialiser. A file that cannot be opened is an `IOException`, which is caught. -/
def initialise (file : Option Text) : Except NumberFormatException BitSet :=
  match file with
  | none => .ok fun _ => false
  | some content => (readLines [] content).foldlM addLine fun _ => false

def isSupport (sFeatures : BitSet) : List Int32 → Bool
  | [] => true
  | feature :: features =>
      if feature < 0 || !sFeatures feature.toInt.toNat then false
      else isSupport sFeatures features

/-! ### What the file declares -/

/-- The line has four fields, of which the last is `true`, and the digits of the first form the
number. -/
def Declares (line : Text) (n : ℕ) : Prop :=
  ∃ f₀ f₁ f₂, splitSpaces line = [f₀, f₁, f₂, "true".toList] ∧ digits f₀ ≠ [] ∧
    Nat.ofDigitChars 10 (digits f₀) 0 = n

/-- The lines of the file; one that cannot be opened has none. -/
def linesOf (file : Option Text) : List Text := readLines [] (file.getD [])

/-- The features are those that the file declares. -/
def Declared (file : Option Text) (sFeatures : BitSet) : Prop :=
  ∀ asked : List Int32, isSupport sFeatures asked = true ↔
    ∀ feature ∈ asked, 0 ≤ feature ∧ ∃ line ∈ linesOf file, Declares line feature.toInt.toNat

/-- No line declares a number that is no int. -/
def InRange (file : Option Text) : Prop :=
  ∀ line ∈ linesOf file, ∀ n, Declares line n → n ≤ 2147483647

/-- A line declares one number at most. -/
theorem Declares.unique {line : Text} {n m : ℕ} (h : Declares line n) (h' : Declares line m) :
    n = m := by
  obtain ⟨f₀, f₁, f₂, hsplit, -, rfl⟩ := h
  obtain ⟨g₀, g₁, g₂, hsplit', -, rfl⟩ := h'
  rw [hsplit] at hsplit'
  cases hsplit'
  rfl

theorem wholeNumber_digits {text : Text} (h : digits text ≠ []) :
    Text.wholeNumber (digits text) = some ((Nat.ofDigitChars 10 (digits text) 0 : ℕ) : Int) := by
  have hall : (digits text).all Char.isDigit = true :=
    List.all_eq_true.mpr fun c hc => (List.mem_filter.mp hc).2
  cases hdigits : digits text with
  | nil => exact absurd hdigits h
  | cons c ds =>
      rw [hdigits] at hall
      have hc : c.isDigit = true := List.all_eq_true.mp hall c List.mem_cons_self
      have hwhole : Text.wholeNat (c :: ds) = some (Nat.ofDigitChars 10 (c :: ds) 0) :=
        if_pos ⟨List.cons_ne_nil c ds, hall⟩
      rw [Text.wholeNumber, if_neg (Text.ne_of_isDigit hc rfl), if_neg (Text.ne_of_isDigit hc rfl),
        hwhole]
      rfl

/-- The number that digits form is parsed exactly if it is an int. -/
theorem parseInt_digits {text : Text} (h : digits text ≠ []) :
    parseInt (digits text) =
      if Nat.ofDigitChars 10 (digits text) 0 ≤ 2147483647 then
        .ok (Int32.ofInt (Nat.ofDigitChars 10 (digits text) 0 : ℕ))
      else .error ⟨digits text⟩ := by
  have hmin := Int32.toInt_minValue
  have hmax := Int32.toInt_maxValue
  unfold parseInt
  rw [wholeNumber_digits h]
  dsimp only
  by_cases hle : Nat.ofDigitChars 10 (digits text) 0 ≤ 2147483647
  · rw [if_pos hle, if_pos (by omega)]
  · rw [if_neg hle, if_neg (by omega)]

/-- A line that declares a number adds it, if it is an int. -/
theorem addLine_declares {line : Text} {n : ℕ} (h : Declares line n) (sFeatures : BitSet) :
    (n ≤ 2147483647 → addLine sFeatures line = .ok (sFeatures.set n)) ∧
      (2147483647 < n → ∃ e, addLine sFeatures line = .error e) := by
  obtain ⟨f₀, f₁, f₂, hsplit, hdigits, rfl⟩ := h
  have hadd : addLine sFeatures line =
      (parseInt (digits f₀)).map fun n => sFeatures.set n.toInt.toNat := by
    have hlength : (digits f₀).length ≠ 0 := fun h => hdigits (List.length_eq_zero_iff.mp h)
    rw [addLine, hsplit]
    exact (if_pos ⟨rfl, rfl⟩).trans (if_pos hlength)
  rw [hadd, parseInt_digits hdigits]
  refine ⟨fun hle => ?_, fun hlt => ?_⟩
  · rw [if_pos hle, Except.map, Int32.toInt_ofInt_of_le (by omega) (by omega), Int.toNat_natCast]
  · rw [if_neg (by omega)]
    exact ⟨_, rfl⟩

/-- Every other line is passed over. -/
theorem addLine_of_not_declares {line : Text} (h : ∀ n, ¬Declares line n) (sFeatures : BitSet) :
    addLine sFeatures line = .ok sFeatures := by
  unfold addLine
  dsimp only
  split
  case isFalse => rfl
  case isTrue hfour =>
    obtain ⟨hlength, hlast⟩ := hfour
    obtain ⟨f₀, f₁, f₂, f₃, hsplit⟩ : ∃ f₀ f₁ f₂ f₃, splitSpaces line = [f₀, f₁, f₂, f₃] := by
      match hvalues : splitSpaces line, hlength with
      | [f₀, f₁, f₂, f₃], _ => exact ⟨f₀, f₁, f₂, f₃, rfl⟩
    rw [hsplit] at hlast ⊢
    obtain rfl : f₃ = "true".toList := Option.some.inj hlast
    have hempty : digits f₀ = [] :=
      by_contra fun hdigits => h _ ⟨f₀, f₁, f₂, hsplit, hdigits, rfl⟩
    exact if_neg (by simp [hempty])

/-! ### The whole list -/

/-- The body of the loop adds what the line declares, unless that is no int. -/
theorem addLine_cases (sFeatures : BitSet) (line : Text) :
    (∃ s, addLine sFeatures line = .ok s ∧ (∀ n, Declares line n → n ≤ 2147483647) ∧
        ∀ n, s n = true ↔ sFeatures n = true ∨ Declares line n) ∨
      ((∃ e, addLine sFeatures line = .error e) ∧ ∃ n, Declares line n ∧ 2147483647 < n) := by
  by_cases hdeclares : ∃ n, Declares line n
  · obtain ⟨n, hn⟩ := hdeclares
    rcases Nat.lt_or_ge 2147483647 n with hlt | hle
    · exact .inr ⟨(addLine_declares hn sFeatures).2 hlt, n, hn, hlt⟩
    · refine .inl ⟨_, (addLine_declares hn sFeatures).1 hle, fun m hm => hm.unique hn ▸ hle,
        fun m => ?_⟩
      by_cases hm : m = n
      · subst hm
        refine iff_of_true ?_ (.inr hn)
        rw [BitSet.set, Function.update_self]
      · rw [BitSet.set, Function.update_of_ne hm]
        exact ⟨.inl, fun h => h.resolve_right fun hd => hm (hd.unique hn)⟩
  · have hnone : ∀ n, ¬Declares line n := fun n hn => hdeclares ⟨n, hn⟩
    exact .inl ⟨_, addLine_of_not_declares hnone sFeatures, fun n hn => absurd hn (hnone n),
      fun n => ⟨.inl, fun h => h.resolve_right (hnone n)⟩⟩

/-- Lines that declare ints are all added. -/
theorem addLines_ok (lines : List Text)
    (h : ∀ line ∈ lines, ∀ n, Declares line n → n ≤ 2147483647) (sFeatures : BitSet) :
    ∃ s, lines.foldlM addLine sFeatures = .ok s ∧
      ∀ n, s n = true ↔ sFeatures n = true ∨ ∃ line ∈ lines, Declares line n := by
  induction lines generalizing sFeatures with
  | nil => exact ⟨sFeatures, rfl, fun n => by simp⟩
  | cons line lines ih =>
      rcases addLine_cases sFeatures line with ⟨s₁, hadd, -, hs₁⟩ | ⟨-, n, hn, hlt⟩
      · obtain ⟨s, hrest, hs⟩ := ih (fun l hl => h l (List.mem_cons_of_mem _ hl)) s₁
        refine ⟨s, ?_, fun n => ?_⟩
        · rw [List.foldlM_cons, hadd]
          exact hrest
        · rw [hs, hs₁, or_assoc, List.exists_mem_cons_iff]
      · exact absurd (h line List.mem_cons_self n hn) (Nat.not_le_of_lt hlt)

/-- One line that declares a number that is no int, and the initialiser throws. -/
theorem addLines_error (lines : List Text)
    (h : ∃ line ∈ lines, ∃ n, Declares line n ∧ 2147483647 < n) (sFeatures : BitSet) :
    ∃ e, lines.foldlM addLine sFeatures = .error e := by
  induction lines generalizing sFeatures with
  | nil =>
      obtain ⟨line, hline, -⟩ := h
      exact absurd hline List.not_mem_nil
  | cons line lines ih =>
      rcases addLine_cases sFeatures line with ⟨s₁, hadd, hrange, -⟩ | ⟨⟨e, hadd⟩, -⟩
      · have hlater : ∃ l ∈ lines, ∃ n, Declares l n ∧ 2147483647 < n := by
          obtain ⟨l, hl, n, hn, hlt⟩ := h
          rcases List.mem_cons.mp hl with rfl | hl
          · exact absurd (hrange n hn) (Nat.not_le_of_lt hlt)
          · exact ⟨l, hl, n, hn, hlt⟩
        obtain ⟨e, hrest⟩ := ih hlater s₁
        refine ⟨e, ?_⟩
        rw [List.foldlM_cons, hadd]
        exact hrest
      · refine ⟨e, ?_⟩
        rw [List.foldlM_cons, hadd]
        rfl

theorem isSupport_iff (sFeatures : BitSet) (asked : List Int32) :
    isSupport sFeatures asked = true ↔
      ∀ feature ∈ asked, 0 ≤ feature ∧ sFeatures feature.toInt.toNat = true := by
  induction asked with
  | nil => simp [isSupport]
  | cons feature asked ih =>
      rw [isSupport, List.forall_mem_cons, ← ih]
      by_cases hneg : feature < 0
      · have hnonneg : ¬0 ≤ feature := Int32.not_le.mpr hneg
        simp [hneg, hnonneg]
      · have hnonneg : 0 ≤ feature := Int32.not_lt.mp hneg
        cases hset : sFeatures feature.toInt.toNat <;> simp [hneg, hnonneg]

/-- The class can be used and knows the features that the file declares, if and only if no line
declares a number that is no int. -/
theorem features_declared_iff (file : Option Text) :
    (∃ sFeatures, initialise file = .ok sFeatures ∧ Declared file sFeatures) ↔ InRange file := by
  have hinit : initialise file = (linesOf file).foldlM addLine fun _ => false := by
    cases file <;> rfl
  rw [hinit]
  constructor
  · rintro ⟨s, hok, -⟩ line hline n hn
    refine Nat.le_of_not_lt fun hlt => ?_
    obtain ⟨e, herror⟩ := addLines_error (linesOf file) ⟨line, hline, n, hn, hlt⟩ fun _ => false
    cases hok.symm.trans herror
  · intro hrange
    obtain ⟨s, hok, hs⟩ := addLines_ok (linesOf file) hrange fun _ => false
    refine ⟨s, hok, fun asked => ?_⟩
    rw [isSupport_iff]
    refine forall_congr' fun feature => imp_congr_right fun _ => and_congr_right fun _ => ?_
    rw [hs]
    exact ⟨fun h => h.resolve_left Bool.false_ne_true, .inr⟩

/-- One line with a number of eleven digits, and the other line is of no use to anybody. -/
theorem feature_out_of_range :
    let file := some "op_feature_1 a b true\nop_feature_99999999999 a b true\n".toList
    (∃ e, initialise file = .error e) ∧
      ¬∃ sFeatures, initialise file = .ok sFeatures ∧ Declared file sFeatures := by
  intro file
  have herror : initialise file = .error ⟨"99999999999".toList⟩ := by rfl
  refine ⟨⟨_, herror⟩, ?_⟩
  rintro ⟨s, hok, -⟩
  cases herror.symm.trans hok

end OpFeatures

end OneplusHal.Fwk

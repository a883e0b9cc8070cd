import Mathlib.Data.List.DropRight
import Mathlib.Data.List.TakeWhile

/-!
Text of bytes as C and C++ libraries treat it: white space, trimming, and decimal
numerals. `print` is `std::to_string` of an integer; `scan` is the prefix scan of the
`strtol` family, which skips leading white space, takes one sign and then every digit
it finds, and hands back the text it did not use.
-/

namespace OneplusHal.Text

/-- `isspace` in the C locale. -/
def isSpace (c : Char) : Bool :=
  c = ' ' || c = '\t' || c = '\n' || c = '\x0b' || c = '\x0c' || c = '\r'

/-- Remove white space at both ends. -/
def trim (s : List Char) : List Char :=
  (s.dropWhile isSpace).rdropWhile isSpace

def print : Int → List Char
  | .ofNat n => Nat.toDigits 10 n
  | .negSucc n => '-' :: Nat.toDigits 10 (n + 1)

/-- The digits at the front of `s` as a number, with the text behind them. -/
def scanNat (s : List Char) : Option (ℕ × List Char) :=
  if s.takeWhile Char.isDigit = [] then none
  else some (Nat.ofDigitChars 10 (s.takeWhile Char.isDigit) 0, s.dropWhile Char.isDigit)

def scanSigned (s : List Char) : Option (Int × List Char) :=
  match s with
  | [] => none
  | c :: ds =>
      if c = '-' then (scanNat ds).map fun p => (-(p.1 : Int), p.2)
      else if c = '+' then (scanNat ds).map fun p => ((p.1 : Int), p.2)
      else (scanNat (c :: ds)).map fun p => ((p.1 : Int), p.2)

def scan (s : List Char) : Option (Int × List Char) :=
  scanSigned (s.dropWhile isSpace)

/-- A text that is one numeral and nothing else: digits behind an optional sign. -/
def wholeNat (s : List Char) : Option ℕ :=
  if s ≠ [] ∧ s.all Char.isDigit then some (Nat.ofDigitChars 10 s 0) else none

def wholeNumber (s : List Char) : Option Int :=
  match s with
  | [] => none
  | c :: ds =>
      if c = '-' then (wholeNat ds).map fun n : ℕ => -(n : Int)
      else if c = '+' then (wholeNat ds).map fun n : ℕ => (n : Int)
      else (wholeNat (c :: ds)).map fun n : ℕ => (n : Int)

theorem dropWhile_isSpace_eq_self {s : List Char} (h : ∀ c ∈ s.head?, isSpace c = false) :
    s.dropWhile isSpace = s := by
  cases s with
  | nil => rfl
  | cons c cs => simp [h c (by simp)]

/-- A text that neither begins nor ends with white space is left alone. -/
theorem trim_eq_self {s : List Char} (hhead : ∀ c ∈ s.head?, isSpace c = false)
    (hlast : ∀ c ∈ s.getLast?, isSpace c = false) : trim s = s := by
  rw [trim, dropWhile_isSpace_eq_self hhead, List.rdropWhile_eq_self_iff]
  intro hne
  simp [hlast _ (List.getLast?_eq_getLast_of_ne_nil hne)]

theorem isDigit_of_mem_toDigits {n : ℕ} {c : Char} (h : c ∈ Nat.toDigits 10 n) :
    c.isDigit = true :=
  Nat.isDigit_of_mem_toDigits (by omega) (by omega) h

theorem ne_of_isDigit {c d : Char} (hc : c.isDigit = true) (hd : d.isDigit = false) :
    c ≠ d := by
  rintro rfl
  simp [hc] at hd

theorem not_isSpace_of_isDigit {c : Char} (h : c.isDigit = true) : isSpace c = false := by
  have hne (d : Char) (hd : d.isDigit = false) : (c = d) = False := by
    simpa using ne_of_isDigit h hd
  simp [isSpace, hne ' ' rfl, hne '\t' rfl, hne '\n' rfl, hne '\x0b' rfl, hne '\x0c' rfl,
    hne '\r' rfl]

theorem scanNat_toDigits (n : ℕ) : scanNat (Nat.toDigits 10 n) = some (n, []) := by
  have hall : ∀ c ∈ Nat.toDigits 10 n, c.isDigit = true := fun c => isDigit_of_mem_toDigits
  have htake : (Nat.toDigits 10 n).takeWhile Char.isDigit = Nat.toDigits 10 n :=
    List.takeWhile_eq_self_iff.mpr hall
  have hdrop : (Nat.toDigits 10 n).dropWhile Char.isDigit = [] :=
    List.dropWhile_eq_nil_iff.mpr hall
  simp [scanNat, htake, hdrop, Nat.toDigits_ne_nil, Nat.ofDigitChars_ten_toDigits]

theorem print_ne_nil (n : Int) : print n ≠ [] := by
  cases n <;> simp [print, Nat.toDigits_ne_nil]

/-- No character of a printed number is white space. -/
theorem not_isSpace_of_mem_print {n : Int} {c : Char} (h : c ∈ print n) :
    isSpace c = false := by
  cases n with
  | ofNat n => exact not_isSpace_of_isDigit (isDigit_of_mem_toDigits h)
  | negSucc n =>
      rcases List.mem_cons.mp h with rfl | h
      · rfl
      · exact not_isSpace_of_isDigit (isDigit_of_mem_toDigits h)

theorem scanSigned_print (n : Int) : scanSigned (print n) = some (n, []) := by
  cases n with
  | ofNat n =>
      cases hd : Nat.toDigits 10 n with
      | nil => exact absurd hd Nat.toDigits_ne_nil
      | cons c ds =>
          have hc : c.isDigit = true := isDigit_of_mem_toDigits (n := n) (by simp [hd])
          have hscan := scanNat_toDigits n
          rw [hd] at hscan
          simp [print, hd, scanSigned, ne_of_isDigit hc (d := '-') rfl,
            ne_of_isDigit hc (d := '+') rfl, hscan]
  | negSucc n =>
      simp only [print, scanSigned, if_true, scanNat_toDigits, Option.map_some]
      rfl

/-- Scanning what was printed gives the number back and leaves no text. -/
theorem scan_print (n : Int) : scan (print n) = some (n, []) := by
  have hhead : ∀ c ∈ (print n).head?, isSpace c = false := fun c hc =>
    not_isSpace_of_mem_print (List.mem_of_mem_head? hc)
  rw [scan, dropWhile_isSpace_eq_self hhead, scanSigned_print]

/-! ### Whole numerals -/

theorem scanNat_of_wholeNat {s : List Char} {n : ℕ} (h : wholeNat s = some n) :
    scanNat s = some (n, []) := by
  unfold wholeNat at h
  split at h
  · rename_i hs
    have htake : s.takeWhile Char.isDigit = s :=
      List.takeWhile_eq_self_iff.mpr (List.all_eq_true.mp hs.2)
    have hdrop : s.dropWhile Char.isDigit = [] :=
      List.dropWhile_eq_nil_iff.mpr (List.all_eq_true.mp hs.2)
    rw [scanNat, htake, hdrop, if_neg hs.1, Option.some.inj h]
  · cases h

theorem isDigit_of_wholeNat {c : Char} {ds : List Char} {n : ℕ}
    (h : wholeNat (c :: ds) = some n) : c.isDigit = true := by
  unfold wholeNat at h
  split at h
  · rename_i hs
    exact List.all_eq_true.mp hs.2 c List.mem_cons_self
  · cases h

/-- The prefix scan takes all of a whole numeral. -/
theorem scan_of_wholeNumber {s : List Char} {n : Int} (h : wholeNumber s = some n) :
    scan s = some (n, []) := by
  cases s with
  | nil => cases h
  | cons c ds =>
      have hspace (hc : isSpace c = false) : (c :: ds).dropWhile isSpace = c :: ds :=
        dropWhile_isSpace_eq_self (by simpa using hc)
      unfold wholeNumber at h
      dsimp only at h
      split at h
      · rename_i hminus
        obtain ⟨m, hm, rfl⟩ := Option.map_eq_some_iff.mp h
        rw [scan, hspace (hminus ▸ rfl), scanSigned, if_pos hminus, scanNat_of_wholeNat hm]
        rfl
      · rename_i hminus
        split at h
        · rename_i hplus
          obtain ⟨m, hm, rfl⟩ := Option.map_eq_some_iff.mp h
          rw [scan, hspace (hplus ▸ rfl), scanSigned, if_neg hminus, if_pos hplus,
            scanNat_of_wholeNat hm]
          rfl
        · rename_i hplus
          obtain ⟨m, hm, rfl⟩ := Option.map_eq_some_iff.mp h
          rw [scan, hspace (not_isSpace_of_isDigit (isDigit_of_wholeNat hm)), scanSigned,
            if_neg hminus, if_neg hplus, scanNat_of_wholeNat hm]
          rfl

/-- A trimmed text does not end with white space. -/
theorem not_isSpace_getLast_trim {s : List Char} (h : trim s ≠ []) :
    isSpace ((trim s).getLast h) = false :=
  Bool.eq_false_iff.mpr (List.rdropWhile_last_not isSpace (s.dropWhile isSpace) h)

end OneplusHal.Text

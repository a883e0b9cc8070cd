import Mathlib.Algebra.Group.Nat.Defs
import Mathlib.Tactic.Common
import OneplusHal.Lib.Raster

/-!
Bytes in a buffer: blocks that are copied to a place and what is left of others, words in
little-endian order, sizes rounded by a mask, and texts in base64.
-/

namespace OneplusHal.Raster.Buffer

variable {α : Type*}

/-! ### Blocks -/

/-- The block is in the buffer, from the cell `i` on. -/
def Holds (b : Buffer α) (i : ℕ) (block : List α) : Prop :=
  ∀ k, k < block.length → b.cells[i + k]? = block[k]?

/-- The block was copied to the cell `i`, and nothing else was changed. -/
structure Copied (i : ℕ) (block : List α) (b b' : Buffer α) : Prop where
  length : b'.cells.length = b.cells.length
  holds : b'.Holds i block
  frame : ∀ j, j < i ∨ i + block.length ≤ j → b'.cells[j]? = b.cells[j]?

variable {b b' : Buffer α} {i j : ℕ} {block other : List α}

theorem Copied.keeps (h : Copied i block b b') (hother : b.Holds j other)
    (hapart : j + other.length ≤ i ∨ i + block.length ≤ j) : b'.Holds j other := by
  intro k hk
  rw [h.frame (j + k) (by omega)]
  exact hother k hk

theorem Holds.append (hblock : b.Holds i block) (hother : b.Holds (i + block.length) other) :
    b.Holds i (block ++ other) := by
  intro k hk
  rw [List.length_append] at hk
  by_cases hfirst : k < block.length
  · rw [List.getElem?_append_left hfirst]
    exact hblock k hfirst
  · have hsecond := hother (k - block.length) (by omega)
    rw [show i + block.length + (k - block.length) = i + k by omega] at hsecond
    rw [List.getElem?_append_right (by omega), hsecond]

theorem Holds.of_append (h : b.Holds i (block ++ other)) :
    b.Holds i block ∧ b.Holds (i + block.length) other := by
  constructor
  · intro k hk
    rw [h k (by rw [List.length_append]; omega), List.getElem?_append_left hk]
  · intro k hk
    have hwhole := h (block.length + k) (by rw [List.length_append]; omega)
    rw [← Nat.add_assoc, List.getElem?_append_right (Nat.le_add_right _ _),
      Nat.add_sub_cancel_left] at hwhole
    exact hwhole

/-- A block of the length of the buffer is all there is in it. -/
theorem Holds.cells_eq (h : b.Holds 0 block) (hlength : b.cells.length = block.length) :
    b.cells = block := by
  refine List.ext_getElem? fun k => ?_
  by_cases hk : k < block.length
  · rw [← h k hk, Nat.zero_add]
  · rw [List.getElem?_eq_none (by omega), List.getElem?_eq_none (by omega)]

/-- A block copied to the front, with the rest behind it. -/
theorem Copied.cells_eq (h : Copied 0 block b b') :
    b'.cells = block ++ b.cells.drop block.length := by
  refine List.ext_getElem? fun k => ?_
  by_cases hk : k < block.length
  · rw [List.getElem?_append_left hk, ← h.holds k hk, Nat.zero_add]
  · rw [List.getElem?_append_right (by omega), List.getElem?_drop, h.frame k (.inr (by omega))]
    congr 1
    omega

theorem store_copied (hroom : i < b.cells.length) (x : α) :
    ∃ b', b.store i x = some b' ∧ Copied i [x] b b' := by
  refine ⟨_, if_pos hroom, List.length_set, ?_, ?_⟩
  · intro k hk
    obtain rfl : k = 0 := by simpa using hk
    exact List.getElem?_set_self hroom
  · intro j hj
    refine List.getElem?_set_ne ?_
    simp only [List.length_singleton] at hj
    omega

/-- A `memcpy` that stays in bounds on both sides. -/
theorem memcpy_copied {src : List α} {offset : ℕ} (hroom : i + block.length ≤ b.cells.length)
    (hsrc : ∀ k, k < block.length → src[offset + k]? = block[k]?) :
    ∃ b', b.memcpy i src offset block.length = some b' ∧ Copied i block b b' := by
  have hstep (k : ℕ) (c : Buffer α) (hk : k < block.length) (hc : Copied i (block.take k) b c) :
      ∃ c', (src[offset + k]?.bind fun x => c.store (i + k) x) = some c' ∧
        Copied i (block.take (k + 1)) b c' := by
    have htake : (block.take k).length = k := List.length_take_of_le (Nat.le_of_lt hk)
    obtain ⟨c', hstore, hc'⟩ := store_copied (b := c) (i := i + k)
      (by rw [hc.length]; omega) block[k]
    refine ⟨c', ?_, hc'.length.trans hc.length, ?_, fun j hj => ?_⟩
    · rw [hsrc k hk, List.getElem?_eq_getElem hk, Option.bind_some, hstore]
    · rw [← List.take_append_getElem hk]
      refine (hc'.keeps hc.holds (.inl (Nat.le_of_eq (by rw [htake])))).append ?_
      rw [htake]
      exact hc'.holds
    · rw [List.length_take_of_le hk] at hj
      rw [hc'.frame j (by simp only [List.length_singleton]; omega), hc.frame j (by omega)]
  have hstart : Copied i (block.take 0) b b :=
    ⟨rfl, fun k hk => absurd hk (by simp), fun j _ => rfl⟩
  obtain ⟨b', hloop, hb'⟩ := forRange_rule (I := fun k c => Copied i (block.take k) b c) hstep
    hstart
  rw [List.take_length] at hb'
  exact ⟨b', hloop, hb'⟩

/-- A block copied as a whole. -/
theorem memcpy_block (block : List α) (hroom : i + block.length ≤ b.cells.length) :
    ∃ b', b.memcpy i block 0 block.length = some b' ∧ Copied i block b b' :=
  memcpy_copied hroom fun k _ => by rw [Nat.zero_add]

/-- `memset` of `n` cells. -/
def memset (b : Buffer α) (i : ℕ) (x : α) (n : ℕ) : Option (Buffer α) :=
  b.memcpy i (List.replicate n x) 0 n

theorem memset_copied {n : ℕ} (hroom : i + n ≤ b.cells.length) (x : α) :
    ∃ b', b.memset i x n = some b' ∧ Copied i (List.replicate n x) b b' := by
  have hblock := memcpy_block (b := b) (i := i) (List.replicate n x)
    (by rwa [List.length_replicate])
  rwa [List.length_replicate] at hblock

/-! ### Words -/

/-- The bytes of a word, the least significant first. -/
def wordBytes (x : UInt32) : List UInt8 :=
  [x.toUInt8, (x >>> 8).toUInt8, (x >>> 16).toUInt8, (x >>> 24).toUInt8]

def store32 (b : Buffer UInt8) (i : ℕ) (x : UInt32) : Option (Buffer UInt8) :=
  b.memcpy i (wordBytes x) 0 (wordBytes x).length

def load32 (b : Buffer UInt8) (i : ℕ) : Option UInt32 := do
  let b0 ← b.cells[i]?
  let b1 ← b.cells[i + 1]?
  let b2 ← b.cells[i + 2]?
  let b3 ← b.cells[i + 3]?
  return b0.toUInt32 + b1.toUInt32 * 256 + b2.toUInt32 * 65536 + b3.toUInt32 * 16777216

@[simp] theorem length_wordBytes (x : UInt32) : (wordBytes x).length = 4 := rfl

theorem store32_copied {b : Buffer UInt8} {i : ℕ} (hroom : i + 4 ≤ b.cells.length) (x : UInt32) :
    ∃ b', b.store32 i x = some b' ∧ Copied i (wordBytes x) b b' :=
  memcpy_block (wordBytes x) hroom

theorem wordBytes_value (x : UInt32) :
    x.toUInt8.toUInt32 + (x >>> 8).toUInt8.toUInt32 * (256 : UInt32) +
        (x >>> 16).toUInt8.toUInt32 * (65536 : UInt32) +
        (x >>> 24).toUInt8.toUInt32 * (16777216 : UInt32) = x := by
  apply UInt32.toNat_inj.mp
  have hx := x.toNat_lt
  simp only [UInt32.toNat_add, UInt32.toNat_mul, UInt8.toNat_toUInt32, UInt32.toNat_toUInt8,
    UInt32.toNat_shiftRight, UInt32.toNat_ofNat, Nat.shiftRight_eq_div_pow, Nat.reduceMod,
    Nat.reducePow] at hx ⊢
  omega

theorem load32_of_holds {b : Buffer UInt8} {i : ℕ} {x : UInt32} (h : b.Holds i (wordBytes x)) :
    b.load32 i = some x := by
  have h0 : b.cells[i]? = some _ := h 0 (by simp [wordBytes])
  have h1 : b.cells[i + 1]? = some _ := h 1 (by simp [wordBytes])
  have h2 : b.cells[i + 2]? = some _ := h 2 (by simp [wordBytes])
  have h3 : b.cells[i + 3]? = some _ := h 3 (by simp [wordBytes])
  rw [load32, h0, h1, h2, h3]
  exact congrArg some (wordBytes_value x)

end OneplusHal.Raster.Buffer

namespace OneplusHal.Bytes

/-! ### Alignment -/

/-- A mask that clears the `k` low bits rounds down to a multiple of `2 ^ k`. -/
theorem toNat_and_mask (x mask : UInt64) {k : ℕ} (hk : k ≤ 64)
    (hmask : mask.toNat = (2 ^ (64 - k) - 1) <<< k) :
    (x &&& mask).toNat = x.toNat / 2 ^ k * 2 ^ k := by
  rw [UInt64.toNat_and, hmask, ← Nat.shiftRight_eq_div_pow, ← Nat.shiftLeft_eq]
  apply Nat.eq_of_testBit_eq
  intro i
  rw [Nat.testBit_and, Nat.testBit_shiftLeft, Nat.testBit_shiftLeft, Nat.testBit_two_pow_sub_one,
    Nat.testBit_shiftRight]
  by_cases hlow : k ≤ i
  · rw [Nat.add_sub_cancel' hlow]
    by_cases hhigh : i - k < 64 - k
    · simp [hlow, hhigh]
    · have hbit : x.toNat.testBit i = false :=
        Nat.testBit_lt_two_pow (Nat.lt_of_lt_of_le x.toNat_lt
          (Nat.pow_le_pow_right (by decide) (by omega)))
      simp [hbit]
  · simp [hlow]

theorem and_not_63 (x : UInt64) : (x &&& ~~~(64 - 1)).toNat = x.toNat / 64 * 64 :=
  toNat_and_mask (k := 6) x (~~~(64 - 1)) (by decide) (by decide)

/-! ### Base64 -/

/-- The digits of base64. -/
def base64Digits : List UInt8 :=
  "ABCDEFGHIJKLMNOPQRSTUVWXYZabcdefghijklmnopqrstuvwxyz0123456789+/".toList.map
    fun c => c.toNat.toUInt8

def base64Digit (n : ℕ) : UInt8 := base64Digits.getD n 0

/-- The character that pads the last group. -/
def base64Pad : UInt8 := 61

/-- Three bytes are four digits; a last group of one or two bytes is padded. -/
def base64 : List UInt8 → List UInt8
  | [] => []
  | [a] => [base64Digit (a.toNat / 4), base64Digit (a.toNat % 4 * 16), base64Pad, base64Pad]
  | [a, b] =>
      [base64Digit (a.toNat / 4), base64Digit (a.toNat % 4 * 16 + b.toNat / 16),
        base64Digit (b.toNat % 16 * 4), base64Pad]
  | a :: b :: c :: rest =>
      base64Digit (a.toNat / 4) :: base64Digit (a.toNat % 4 * 16 + b.toNat / 16) ::
        base64Digit (b.toNat % 16 * 4 + c.toNat / 64) :: base64Digit (c.toNat % 64) ::
        base64 rest

theorem length_base64 (bytes : List UInt8) :
    (base64 bytes).length = (bytes.length + 2) / 3 * 4 := by
  induction bytes using base64.induct with
  | case1 => simp [base64]
  | case2 a => simp [base64]
  | case3 a b => simp [base64]
  | case4 a b c rest ih =>
      simp only [base64, List.length_cons, ih]
      omega

example : base64 [77, 97] = [84, 87, 69, 61] := by decide

/-- The number that a digit stands for. -/
def base64Value (c : UInt8) : Option ℕ := base64Digits.idxOf? c

/-- The bytes of a text in base64, if it is one. -/
def unbase64 : List UInt8 → Option (List UInt8)
  | [] => some []
  | p :: q :: r :: s :: rest => do
      let p ← base64Value p
      let q ← base64Value q
      let a := UInt8.ofNat (p * 4 + q / 16)
      if r = base64Pad then
        if s = base64Pad ∧ rest = [] then some [a] else none
      else
        let r ← base64Value r
        let b := UInt8.ofNat (q % 16 * 16 + r / 4)
        if s = base64Pad then
          if rest = [] then some [a, b] else none
        else
          let s ← base64Value s
          let c := UInt8.ofNat (r % 4 * 64 + s)
          let bytes ← unbase64 rest
          some (a :: b :: c :: bytes)
  | _ => none

theorem base64Value_digit : ∀ n < 64, base64Value (base64Digit n) = some n := by decide

theorem base64Digit_ne_pad : ∀ n < 64, base64Digit n ≠ base64Pad := by decide

theorem base64Digit_ne_nul : ∀ n < 64, base64Digit n ≠ 0 := by decide

/-- What was written in base64 is read back. -/
theorem unbase64_base64 (bytes : List UInt8) : unbase64 (base64 bytes) = some bytes := by
  have hbyte (a : UInt8) {n : ℕ} (h : n = a.toNat) : UInt8.ofNat n = a := by
    rw [h, UInt8.ofNat_toNat]
  induction bytes using base64.induct with
  | case1 => rfl
  | case2 a =>
      have ha := a.toNat_lt
      have hfirst : UInt8.ofNat (a.toNat / 4 * 4 + a.toNat % 4 * 16 / 16) = a :=
        hbyte a (by omega)
      rw [base64, unbase64, base64Value_digit _ (by omega), base64Value_digit _ (by omega)]
      simp only [Option.bind_eq_bind, Option.bind_some, and_self, if_true, hfirst]
  | case3 a b =>
      have ha := a.toNat_lt
      have hb := b.toNat_lt
      have hfirst : UInt8.ofNat (a.toNat / 4 * 4 + (a.toNat % 4 * 16 + b.toNat / 16) / 16) = a :=
        hbyte a (by omega)
      have hsecond : UInt8.ofNat ((a.toNat % 4 * 16 + b.toNat / 16) % 16 * 16 +
          b.toNat % 16 * 4 / 4) = b := hbyte b (by omega)
      rw [base64, unbase64, base64Value_digit _ (by omega), base64Value_digit _ (by omega),
        base64Value_digit _ (by omega)]
      simp only [Option.bind_eq_bind, Option.bind_some, if_true, hfirst, hsecond,
        if_neg (base64Digit_ne_pad (b.toNat % 16 * 4) (by omega))]
  | case4 a b c rest ih =>
      have ha := a.toNat_lt
      have hb := b.toNat_lt
      have hc := c.toNat_lt
      have hfirst : UInt8.ofNat (a.toNat / 4 * 4 + (a.toNat % 4 * 16 + b.toNat / 16) / 16) = a :=
        hbyte a (by omega)
      have hsecond : UInt8.ofNat ((a.toNat % 4 * 16 + b.toNat / 16) % 16 * 16 +
          (b.toNat % 16 * 4 + c.toNat / 64) / 4) = b := hbyte b (by omega)
      have hthird : UInt8.ofNat ((b.toNat % 16 * 4 + c.toNat / 64) % 4 * 64 + c.toNat % 64) = c :=
        hbyte c (by omega)
      rw [base64, unbase64, base64Value_digit _ (by omega), base64Value_digit _ (by omega),
        base64Value_digit _ (by omega), base64Value_digit _ (by omega), ih]
      simp only [Option.bind_eq_bind, Option.bind_some, hfirst, hsecond, hthird,
        if_neg (base64Digit_ne_pad (b.toNat % 16 * 4 + c.toNat / 64) (by omega)),
        if_neg (base64Digit_ne_pad (c.toNat % 64) (by omega))]

theorem nul_notMem_base64 (bytes : List UInt8) : 0 ∉ base64 bytes := by
  have hpad : (0 : UInt8) ≠ base64Pad := by decide
  have hdigit {n : ℕ} (h : n < 64) : 0 ≠ base64Digit n := (base64Digit_ne_nul n h).symm
  induction bytes using base64.induct with
  | case1 => exact List.not_mem_nil
  | case2 a =>
      have ha := a.toNat_lt
      simp [base64, hpad, hdigit (show a.toNat / 4 < 64 by omega),
        hdigit (show a.toNat % 4 * 16 < 64 by omega)]
  | case3 a b =>
      have ha := a.toNat_lt
      have hb := b.toNat_lt
      simp [base64, hpad, hdigit (show a.toNat / 4 < 64 by omega),
        hdigit (show a.toNat % 4 * 16 + b.toNat / 16 < 64 by omega),
        hdigit (show b.toNat % 16 * 4 < 64 by omega)]
  | case4 a b c rest ih =>
      have ha := a.toNat_lt
      have hb := b.toNat_lt
      have hc := c.toNat_lt
      simp [base64, ih, hdigit (show a.toNat / 4 < 64 by omega),
        hdigit (show a.toNat % 4 * 16 + b.toNat / 16 < 64 by omega),
        hdigit (show b.toNat % 16 * 4 + c.toNat / 64 < 64 by omega),
        hdigit (show c.toNat % 64 < 64 by omega)]

/-! ### Strings that end with a NUL -/

/-- The string at the front of a buffer, up to its NUL; reading it runs off a buffer that has
none. -/
def cString : List UInt8 → Option (List UInt8)
  | [] => none
  | c :: rest => if c = 0 then some [] else (cString rest).map (c :: ·)

theorem cString_append_nul {text : List UInt8} (h : 0 ∉ text) (rest : List UInt8) :
    cString (text ++ 0 :: rest) = some text := by
  induction text with
  | nil => rfl
  | cons c text ih =>
      rw [List.mem_cons, not_or] at h
      rw [List.cons_append, cString, if_neg (Ne.symm h.1), ih h.2, Option.map_some]

end OneplusHal.Bytes

import Mathlib.Data.List.Basic

/-!
Buffers that are filled in rows. A counted loop whose body may leave the bounds of a
buffer is a fold in `Option`, with one rule; `written` is a ghost that lists the cells
stored to. A loop that stores cell after cell makes the buffer equal to the list of what
it stored, and the cells of rows of one length are found by row and column. A loop that
stores each pixel of an image at its place draws the image.
-/

namespace OneplusHal.Raster

variable {σ α : Type*}

/-- `for (int i = 0; i < n; i++)`. -/
def forRange (n : ℕ) (body : ℕ → σ → Option σ) (s : σ) : Option σ :=
  (List.range n).foldlM (fun s i => body i s) s

theorem forRange_rule {n : ℕ} {body : ℕ → σ → Option σ} {I : ℕ → σ → Prop}
    (hstep : ∀ i s, i < n → I i s → ∃ s', body i s = some s' ∧ I (i + 1) s') {s : σ}
    (h : I 0 s) : ∃ s', forRange n body s = some s' ∧ I n s' := by
  unfold forRange
  induction n with
  | zero => exact ⟨s, rfl, h⟩
  | succ n ih =>
      obtain ⟨s₁, hs₁, hI₁⟩ := ih fun i s hi => hstep i s (Nat.lt_succ_of_lt hi)
      obtain ⟨s₂, hs₂, hI₂⟩ := hstep n s₁ (Nat.lt_succ_self n) hI₁
      refine ⟨s₂, ?_, hI₂⟩
      rw [List.range_succ, List.foldlM_append, hs₁]
      simp [hs₂]

/-! ### Buffers -/

structure Buffer (α : Type*) where
  cells : List α
  written : List ℕ := []

namespace Buffer

/-- A store out of bounds is undefined. -/
def store (b : Buffer α) (i : ℕ) (x : α) : Option (Buffer α) :=
  if i < b.cells.length then
    some { cells := b.cells.set i x, written := b.written ++ [i] }
  else none

/-- `memcpy` of `n` cells of `src`, from the cell `offset` on. -/
def memcpy (b : Buffer α) (i : ℕ) (src : List α) (offset n : ℕ) : Option (Buffer α) :=
  forRange n (fun k b => src[offset + k]?.bind fun x => b.store (i + k) x) b

/-- Of the `size` cells the first were stored to, each once and in order, and hold `content`. -/
structure Filled (size : ℕ) (content : List α) (b : Buffer α) : Prop where
  length : b.cells.length = size
  begins : content <+: b.cells
  written : b.written = List.range content.length

theorem filled_nil (cells : List α) : Filled cells.length [] { cells } :=
  ⟨rfl, List.nil_prefix, rfl⟩

theorem Filled.store {size : ℕ} {content : List α} {b : Buffer α} (h : Filled size content b)
    (hroom : content.length < size) (x : α) :
    ∃ b', b.store content.length x = some b' ∧ Filled size (content ++ [x]) b' := by
  obtain ⟨rest, hrest⟩ := h.begins
  have hlength : content.length + rest.length = size := by
    rw [← h.length, ← hrest, List.length_append]
  unfold Buffer.store
  rw [if_pos (by rw [h.length]; exact hroom)]
  refine ⟨_, rfl, ?_, ?_, ?_⟩
  · rw [List.length_set, h.length]
  · cases rest with
    | nil => exact absurd hroom (by simp [← hlength])
    | cons y rest => exact ⟨rest, by simp [← hrest]⟩
  · rw [h.written, List.length_append, List.length_singleton, List.range_succ]

/-- A buffer filled to its end. -/
theorem Filled.eq {size : ℕ} {content : List α} {b : Buffer α} (h : Filled size content b)
    (hsize : content.length = size) : b.cells = content ∧ b.written = List.range size :=
  ⟨(h.begins.eq_of_length (hsize.trans h.length.symm)).symm, by rw [h.written, hsize]⟩

end Buffer

/-! ### Rows -/

/-- The first `n` rows, one after another. -/
def rows (row : ℕ → List α) (n : ℕ) : List α := (List.range n).flatMap row

@[simp] theorem rows_zero (row : ℕ → List α) : rows row 0 = [] := rfl

theorem rows_succ (row : ℕ → List α) (n : ℕ) : rows row (n + 1) = rows row n ++ row n := by
  rw [rows, List.range_succ, List.flatMap_append, List.flatMap_singleton]
  rfl

variable {row : ℕ → List α} {width : ℕ}

theorem length_rows (h : ∀ i, (row i).length = width) (n : ℕ) :
    (rows row n).length = n * width := by
  induction n with
  | zero => simp
  | succ n ih => rw [rows_succ, List.length_append, ih, h, Nat.succ_mul]

theorem getElem?_rows (h : ∀ i, (row i).length = width) {i j n : ℕ} (hi : i < n)
    (hj : j < width) : (rows row n)[i * width + j]? = (row i)[j]? := by
  induction n with
  | zero => exact absurd hi (Nat.not_lt_zero i)
  | succ n ih =>
      rw [rows_succ]
      rcases Nat.lt_succ_iff_lt_or_eq.mp hi with hi | rfl
      · have hlt : i * width + j < (rows row n).length := by
          rw [length_rows h]
          calc i * width + j < i * width + width := Nat.add_lt_add_left hj _
            _ = (i + 1) * width := (Nat.succ_mul i width).symm
            _ ≤ n * width := Nat.mul_le_mul_right _ hi
        rw [List.getElem?_append_left hlt, ih hi]
      · rw [List.getElem?_append_right (by rw [length_rows h]; omega), length_rows h,
          Nat.add_sub_cancel_left]

namespace Buffer

/-- A row copied behind what is filled already. -/
theorem Filled.memcpy {size : ℕ} {content : List α} {b : Buffer α} (h : Filled size content b)
    {src : List α} {offset n : ℕ} {row : List α} (hrow : row.length = n)
    (hsrc : ∀ k, k < n → src[offset + k]? = row[k]?) (hroom : content.length + n ≤ size) :
    ∃ b', b.memcpy content.length src offset n = some b' ∧ Filled size (content ++ row) b' := by
  subst hrow
  have hstep (k : ℕ) (b : Buffer α) (hk : k < row.length)
      (hb : Filled size (content ++ row.take k) b) :
      ∃ b', (src[offset + k]?.bind fun x => b.store (content.length + k) x) = some b' ∧
        Filled size (content ++ row.take (k + 1)) b' := by
    have hlength : (content ++ row.take k).length = content.length + k := by
      rw [List.length_append, List.length_take_of_le (Nat.le_of_lt hk)]
    obtain ⟨b', hstore, hb'⟩ := hb.store (hlength ▸ by omega) row[k]
    refine ⟨b', ?_, ?_⟩
    · rw [hsrc k hk, List.getElem?_eq_getElem hk, Option.bind_some, ← hlength]
      exact hstore
    · rwa [List.append_assoc, List.take_append_getElem] at hb'
  obtain ⟨b', hloop, hb'⟩ := forRange_rule
    (I := fun k b => Filled size (content ++ row.take k) b) hstep (by simpa using h)
  rw [List.take_length] at hb'
  exact ⟨b', hloop, hb'⟩

/-! ### Pixels -/

/-- Of the pixels of an image with `w` columns and `h` rows those that are `done` are drawn. -/
structure Drawn (size stride w : ℕ) (pixel : ℕ → ℕ → α → Prop) (done : ℕ → ℕ → Prop)
    (b : Buffer α) : Prop where
  length : b.cells.length = size
  holds : ∀ v u, u < w → done v u → ∃ x, b.cells[v * stride + u]? = some x ∧ pixel v u x

theorem Drawn.store {size stride w v u : ℕ} {pixel : ℕ → ℕ → α → Prop} {done done' : ℕ → ℕ → Prop}
    {b : Buffer α} (h : Drawn size stride w pixel done b) (hwide : w ≤ stride) (hu : u < w)
    (hroom : v * stride + u < size) {x : α} (hx : pixel v u x)
    (hdone : ∀ v' u', done' v' u' → done v' u' ∨ v' = v ∧ u' = u) :
    ∃ b', b.store (v * stride + u) x = some b' ∧ Drawn size stride w pixel done' b' := by
  unfold Buffer.store
  rw [if_pos (by rw [h.length]; exact hroom)]
  refine ⟨_, rfl, by rw [List.length_set, h.length], fun v' u' hu' hd => ?_⟩
  by_cases hsame : v * stride + u = v' * stride + u'
  · have hcol : u = u' := by
      have hmod : (v * stride + u) % stride = (v' * stride + u') % stride := by rw [hsame]
      rwa [Nat.mul_add_mod_of_lt (Nat.lt_of_lt_of_le hu hwide),
        Nat.mul_add_mod_of_lt (Nat.lt_of_lt_of_le hu' hwide)] at hmod
    subst hcol
    have hrow : v = v' :=
      Nat.eq_of_mul_eq_mul_right (Nat.lt_of_lt_of_le (Nat.zero_lt_of_lt hu) hwide)
        (Nat.add_right_cancel hsame)
    subst hrow
    exact ⟨x, List.getElem?_set_self (by rw [h.length]; exact hroom), hx⟩
  · dsimp only
    rw [List.getElem?_set_ne hsame]
    refine h.holds v' u' hu' ((hdone v' u' hd).resolve_right ?_)
    rintro ⟨rfl, rfl⟩
    exact hsame rfl

/-- A loop over rows and columns that stores each pixel at its place draws the image. -/
theorem draw_rule {stride w h : ℕ} {pixel : ℕ → ℕ → α → Prop}
    {body : ℕ → ℕ → Buffer α → Option (Buffer α)} {b : Buffer α} (hwide : w ≤ stride)
    (hlong : (h - 1) * stride + w ≤ b.cells.length)
    (hbody : ∀ v u b, v < h → u < w →
      ∃ x, body v u b = b.store (v * stride + u) x ∧ pixel v u x) :
    ∃ b', forRange h (fun v b => forRange w (body v) b) b = some b' ∧
      Drawn b.cells.length stride w pixel (fun v _ => v < h) b' := by
  have hrow (v : ℕ) (c : Buffer α) (hv : v < h)
      (hc : Drawn b.cells.length stride w pixel (fun v' _ => v' < v) c) :
      ∃ c', forRange w (body v) c = some c' ∧
        Drawn b.cells.length stride w pixel (fun v' _ => v' < v + 1) c' := by
    have hstart : Drawn b.cells.length stride w pixel (fun v' u' => v' < v ∨ v' = v ∧ u' < 0) c :=
      ⟨hc.length, fun v' u' hu' hd => hc.holds v' u' hu' (hd.resolve_right (by simp))⟩
    have hcell (u : ℕ) (c : Buffer α) (hu : u < w)
        (hc : Drawn b.cells.length stride w pixel (fun v' u' => v' < v ∨ v' = v ∧ u' < u) c) :
        ∃ c', body v u c = some c' ∧
          Drawn b.cells.length stride w pixel (fun v' u' => v' < v ∨ v' = v ∧ u' < u + 1) c' := by
      obtain ⟨x, hstore, hx⟩ := hbody v u c hv hu
      have hroom : v * stride + u < b.cells.length := by
        have hle : v * stride ≤ (h - 1) * stride := Nat.mul_le_mul_right _ (by omega)
        omega
      rw [hstore]
      exact hc.store hwide hu hroom hx (by omega)
    obtain ⟨c', hloop, hc'⟩ := forRange_rule
      (I := fun u => Drawn _ stride w pixel (fun v' u' => v' < v ∨ v' = v ∧ u' < u)) hcell hstart
    refine ⟨c', hloop, hc'.length, fun v' u' hu' hd => hc'.holds v' u' hu' ?_⟩
    rcases Nat.lt_succ_iff_lt_or_eq.mp hd with hd | hd
    · exact .inl hd
    · exact .inr ⟨hd, hu'⟩
  exact forRange_rule (I := fun v => Drawn _ stride w pixel (fun v' _ => v' < v)) hrow
    ⟨rfl, fun v' u' _ hd => absurd hd (Nat.not_lt_zero v')⟩

end Buffer

end OneplusHal.Raster

import Mathlib.Logic.Function.Iterate

/-!
Pictures by column and row, with the operations of a viewer: quarter turns, the centered
square and the mirror image. What lies outside of a picture does not matter, so pictures
are compared by `Same`, which every operation respects.
-/

namespace OneplusHal

structure Picture (α : Type*) where
  width : ℕ
  height : ℕ
  pixel : ℕ → ℕ → α

namespace Picture

variable {α β : Type*}

/-- Of the same size, with the same pixels inside. -/
structure Same (p q : Picture α) : Prop where
  width : p.width = q.width
  height : p.height = q.height
  pixel : ∀ x y, x < p.width → y < p.height → p.pixel x y = q.pixel x y

/-- A quarter turn clockwise: the left column becomes the top row. -/
def turn (p : Picture α) : Picture α where
  width := p.height
  height := p.width
  pixel x y := p.pixel y (p.height - 1 - x)

/-- `n` quarter turns clockwise. -/
def rotate (n : ℕ) (p : Picture α) : Picture α := turn^[n] p

/-- Left and right exchanged. -/
def mirror (p : Picture α) : Picture α where
  width := p.width
  height := p.height
  pixel x y := p.pixel (p.width - 1 - x) y

/-- The square in the middle, as high or as wide as the picture. -/
def centeredSquare (p : Picture α) : Picture α where
  width := min p.width p.height
  height := min p.width p.height
  pixel x y :=
    p.pixel (x + (p.width - min p.width p.height) / 2) (y + (p.height - min p.width p.height) / 2)

def map (f : α → β) (p : Picture α) : Picture β where
  width := p.width
  height := p.height
  pixel x y := f (p.pixel x y)

namespace Same

variable {p q r : Picture α}

theorem refl (p : Picture α) : p.Same p := ⟨rfl, rfl, fun _ _ _ _ => rfl⟩

theorem trans (h : p.Same q) (h' : q.Same r) : p.Same r where
  width := h.width.trans h'.width
  height := h.height.trans h'.height
  pixel x y hx hy := (h.pixel x y hx hy).trans (h'.pixel x y (h.width ▸ hx) (h.height ▸ hy))

theorem turn (h : p.Same q) : p.turn.Same q.turn where
  width := h.height
  height := h.width
  pixel x y hx hy := by
    have hx' : x < p.height := hx
    change p.pixel y (p.height - 1 - x) = q.pixel y (q.height - 1 - x)
    rw [← h.height]
    exact h.pixel _ _ hy (by omega)

theorem mirror (h : p.Same q) : p.mirror.Same q.mirror where
  width := h.width
  height := h.height
  pixel x y hx hy := by
    have hx' : x < p.width := hx
    change p.pixel (p.width - 1 - x) y = q.pixel (q.width - 1 - x) y
    rw [← h.width]
    exact h.pixel _ _ (by omega) hy

theorem centeredSquare (h : p.Same q) : p.centeredSquare.Same q.centeredSquare where
  width := by
    change min p.width p.height = min q.width q.height
    rw [h.width, h.height]
  height := by
    change min p.width p.height = min q.width q.height
    rw [h.width, h.height]
  pixel x y hx hy := by
    have hx' : x < min p.width p.height := hx
    have hy' : y < min p.width p.height := hy
    change p.pixel _ _ = q.pixel _ _
    rw [← h.width, ← h.height]
    exact h.pixel _ _ (by omega) (by omega)

end Same

/-- Four quarter turns make a whole one. -/
theorem rotate_four (p : Picture α) : (p.rotate 4).Same p where
  width := rfl
  height := rfl
  pixel x y hx hy := by
    have hx' : x < p.width := hx
    have hy' : y < p.height := hy
    change p.pixel (p.width - 1 - (p.width - 1 - x)) (p.height - 1 - (p.height - 1 - y)) = _
    congr 1 <;> omega

theorem rotate_add (m n : ℕ) (p : Picture α) : p.rotate (m + n) = (p.rotate n).rotate m :=
  Function.iterate_add_apply turn m n p

theorem Same.rotate {p q : Picture α} (h : p.Same q) (n : ℕ) : (p.rotate n).Same (q.rotate n) := by
  induction n generalizing p q with
  | zero => exact h
  | succ n ih => exact ih h.turn

/-- Only the turns beyond whole ones count. -/
theorem rotate_mod_four (n : ℕ) (p : Picture α) : (p.rotate n).Same (p.rotate (n % 4)) := by
  have hwhole (m : ℕ) : (p.rotate (4 * m)).Same p := by
    induction m with
    | zero => exact .refl p
    | succ m ih =>
        rw [Nat.mul_succ, rotate_add]
        exact (p.rotate_four.rotate (4 * m)).trans ih
  have hsplit := rotate_add (n % 4) (4 * (n / 4)) p
  rw [Nat.mod_add_div] at hsplit
  rw [hsplit]
  exact (hwhole (n / 4)).rotate (n % 4)

end Picture

end OneplusHal

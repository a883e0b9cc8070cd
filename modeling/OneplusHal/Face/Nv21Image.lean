import Mathlib.Tactic.Ring
import OneplusHal.Face.CameraSource
import OneplusHal.Lib.Raster

/-!
Images of the camera as NV21 frames: `copyImage` writes them, the preview reads them.

The writer goes through the buffer once from its beginning to its end, so the buffer is
the list of what was written, first the rows of luma, then the rows of chroma pairs. The
index arithmetic of the reader finds the sample of each pixel in these rows.
-/

namespace OneplusHal.Face

open OneplusHal Raster

/-- A plane of an image; sample `col` of row `row` is `row * rowStride + col * pixelStride`. -/
structure Plane where
  data : List UInt8
  rowStride : ℕ
  pixelStride : ℕ

/-- An `AImage`; a plane is `none` when its data cannot be had. -/
structure AImage where
  width : Int
  height : Int
  y : Option Plane
  u : Option Plane
  v : Option Plane

/-! ### The writer -/

/-- `copyImage` once it has the planes. An access out of bounds is `none`. -/
def copyPlanes (width height : ℕ) (y u v : Plane) : Option (Buffer UInt8) :=
  let nv21 : Buffer UInt8 := { cells := List.replicate (width * height * 3 / 2) 0 }
  -- The strides of the U plane go for both chroma planes.
  let uvStride := u.rowStride
  let uvPixelStride := u.pixelStride
  (forRange height (fun row nv21 =>
      nv21.memcpy (row * width) y.data (row * y.rowStride) width) nv21).bind fun nv21 =>
    (forRange (height / 2) (fun row p =>
      forRange (width / 2) (fun col p => do
        let cr ← v.data[row * uvStride + col * uvPixelStride]?
        let nv21 ← p.1.store p.2 cr
        let cb ← u.data[row * uvStride + col * uvPixelStride]?
        let nv21 ← nv21.store (p.2 + 1) cb
        some (nv21, p.2 + 2)) p) (nv21, width * height)).map Prod.fst

/-- `CameraSource::copyImage`: what it returns and the buffer, or an access out of bounds. -/
def copyImage (image : AImage) : Option (Bool × Buffer UInt8) :=
  if image.width ≠ kWidth ∨ image.height ≠ kHeight then some (false, { cells := [] })
  else
    match image.y, image.u, image.v with
    | some y, some u, some v => (copyPlanes kWidth kHeight y u v).map fun nv21 => (true, nv21)
    | _, _, _ => some (false, { cells := [] })

/-! ### The reader -/

/-- `nv21[i]`; an index out of bounds is undefined. -/
def byteAt (nv21 : Nv21) (i : Int) : Option UInt8 := if 0 ≤ i then nv21[i.toNat]? else none

/-- The luma that `renderPreview` reads for the pixel `(x, y)`. -/
def readLuma (nv21 : Nv21) (x y : Int) : Option UInt8 := byteAt nv21 (y * kWidth + x)

/-- The place of the chroma pair of `(x, y)`. `x & ~1` clears the lowest bit. -/
def chromaOffset (x y : Int) : Int := kWidth * kHeight + y.tdiv 2 * kWidth + (x - x % 2)

def readCr (nv21 : Nv21) (x y : Int) : Option UInt8 := byteAt nv21 (chromaOffset x y)

def readCb (nv21 : Nv21) (x y : Int) : Option UInt8 := byteAt nv21 (chromaOffset x y + 1)

/-! ### Images of the format YUV_420_888 -/

/-- The sample `(col, row)` of a plane. -/
def Plane.sample (p : Plane) (col row : ℕ) : Option UInt8 :=
  p.data[row * p.rowStride + col * p.pixelStride]?

/-- The plane is long enough for its strides. -/
def Plane.LongEnough (p : Plane) (width height : ℕ) : Prop :=
  ∀ row, row < height → ∀ col, col < width → (p.sample col row).isSome

/-- An image of this format and the size of the camera's frames: luma samples are next to
each other, the chroma planes share their strides, and every plane is long enough. -/
structure Yuv420 where
  y : Plane
  u : Plane
  v : Plane
  lumaStride : y.pixelStride = 1
  rowStride : v.rowStride = u.rowStride
  pixelStride : v.pixelStride = u.pixelStride
  luma : y.LongEnough kWidth kHeight
  cb : u.LongEnough (kWidth / 2) (kHeight / 2)
  cr : v.LongEnough (kWidth / 2) (kHeight / 2)

/-- A plane without padding. -/
def Plane.packed (width height : ℕ) (x : UInt8) : Plane :=
  ⟨List.replicate (height * width) x, width, 1⟩

theorem Plane.longEnough_packed (width height : ℕ) (x : UInt8) :
    (Plane.packed width height x).LongEnough width height := by
  intro row hrow col hcol
  have hlt : row * width + col * 1 < height * width := by
    calc row * width + col * 1 < (row + 1) * width := by
          rw [Nat.mul_one, Nat.add_mul, Nat.one_mul]
          exact Nat.add_lt_add_left hcol _
      _ ≤ height * width := Nat.mul_le_mul_right _ hrow
  rw [Plane.sample, Plane.packed, List.getElem?_replicate, if_pos hlt]
  rfl

/-- An image of one colour. -/
instance : Inhabited Yuv420 where
  default :=
    { y := .packed kWidth kHeight 0
      u := .packed (kWidth / 2) (kHeight / 2) 128
      v := .packed (kWidth / 2) (kHeight / 2) 128
      lumaStride := rfl
      rowStride := rfl
      pixelStride := rfl
      luma := Plane.longEnough_packed kWidth kHeight 0
      cb := Plane.longEnough_packed (kWidth / 2) (kHeight / 2) 128
      cr := Plane.longEnough_packed (kWidth / 2) (kHeight / 2) 128 }

def Yuv420.toAImage (i : Yuv420) : AImage := ⟨kWidth, kHeight, some i.y, some i.u, some i.v⟩

/-! ### What is written -/

/-- A row of luma, as `copyImage` writes it. -/
def lumaRow (y : Plane) (width row : ℕ) : List UInt8 :=
  (List.range width).map fun col => (y.sample col row).getD 0

/-- A pair of chroma samples, V before U. -/
def chromaPair (u v : Plane) (row col : ℕ) : List UInt8 :=
  [(v.sample col row).getD 0, (u.sample col row).getD 0]

def chromaRow (u v : Plane) (width row : ℕ) : List UInt8 := rows (chromaPair u v row) (width / 2)

/-- The layout of NV21: luma, and one chroma pair for two by two pixels. -/
def nv21Of (width height : ℕ) (y u v : Plane) : Nv21 :=
  rows (lumaRow y width) height ++ rows (chromaRow u v width) (height / 2)

section

variable {y u v : Plane}

theorem length_lumaRow (y : Plane) (width row : ℕ) : (lumaRow y width row).length = width := by
  rw [lumaRow, List.length_map, List.length_range]

theorem length_chromaPair (u v : Plane) (row col : ℕ) : (chromaPair u v row col).length = 2 := rfl

theorem length_chromaRow (u v : Plane) (width row : ℕ) :
    (chromaRow u v width row).length = width / 2 * 2 :=
  length_rows (length_chromaPair u v row) (width / 2)

theorem length_nv21Of (y u v : Plane) (w h : ℕ) :
    (nv21Of (2 * w) (2 * h) y u v).length = 6 * (w * h) := by
  rw [nv21Of, List.length_append, length_rows (length_lumaRow y (2 * w)),
    length_rows (length_chromaRow u v (2 * w)), Nat.mul_div_cancel_left _ two_pos,
    Nat.mul_div_cancel_left _ two_pos]
  ring

theorem size_nv21 (w h : ℕ) : 2 * w * (2 * h) * 3 / 2 = 6 * (w * h) := by
  rw [show 2 * w * (2 * h) * 3 = 2 * (6 * (w * h)) by ring, Nat.mul_div_cancel_left _ two_pos]

/-- The first loop of `copyImage`. -/
theorem copyLuma {w h : ℕ} {b : Buffer UInt8} (hb : Buffer.Filled (6 * (w * h)) [] b)
    (hstride : y.pixelStride = 1) (hy : y.LongEnough (2 * w) (2 * h)) :
    ∃ b', forRange (2 * h) (fun row b =>
        b.memcpy (row * (2 * w)) y.data (row * y.rowStride) (2 * w)) b = some b' ∧
      Buffer.Filled (6 * (w * h)) (rows (lumaRow y (2 * w)) (2 * h)) b' := by
  refine forRange_rule (I := fun row b => Buffer.Filled _ (rows (lumaRow y (2 * w)) row) b)
    (fun row b hrow hb => ?_) hb
  have hlength := length_rows (length_lumaRow y (2 * w)) row
  have hroom : (rows (lumaRow y (2 * w)) row).length + 2 * w ≤ 6 * (w * h) := by
    calc (rows (lumaRow y (2 * w)) row).length + 2 * w = (row + 1) * (2 * w) := by
          rw [hlength, Nat.add_mul, Nat.one_mul]
      _ ≤ 2 * h * (2 * w) := Nat.mul_le_mul_right _ hrow
      _ = 4 * (w * h) := by ring
      _ ≤ 6 * (w * h) := Nat.mul_le_mul_right _ (by decide)
  rw [rows_succ, ← hlength]
  refine hb.memcpy (length_lumaRow y (2 * w) row) (fun col hcol => ?_) hroom
  obtain ⟨x, hx⟩ := Option.isSome_iff_exists.mp (hy row hrow col hcol)
  have hsample : y.sample col row = y.data[row * y.rowStride + col]? := by
    rw [Plane.sample, hstride, Nat.mul_one]
  rw [lumaRow, List.getElem?_map, List.getElem?_range hcol, Option.map_some, hx, ← hsample, hx]
  rfl

/-- One turn of the inner chroma loop stores the pair of its column at the pointer. -/
theorem copyChromaPair {size : ℕ} {content : List UInt8} {b : Buffer UInt8}
    (hb : Buffer.Filled size content b) (hroom : content.length + 2 ≤ size) {row col : ℕ}
    (hrow : v.rowStride = u.rowStride) (hpixel : v.pixelStride = u.pixelStride)
    (hu : (u.sample col row).isSome) (hv : (v.sample col row).isSome) :
    ∃ b', (do
        let cr ← v.data[row * u.rowStride + col * u.pixelStride]?
        let b ← b.store content.length cr
        let cb ← u.data[row * u.rowStride + col * u.pixelStride]?
        let b ← b.store (content.length + 1) cb
        some (b, content.length + 2)) = some (b', content.length + 2) ∧
      Buffer.Filled size (content ++ chromaPair u v row col) b' := by
  obtain ⟨cb, hcb⟩ := Option.isSome_iff_exists.mp hu
  obtain ⟨cr, hcr⟩ := Option.isSome_iff_exists.mp hv
  obtain ⟨b₁, hstore₁, hb₁⟩ := hb.store (by omega) cr
  have hlength : (content ++ [cr]).length = content.length + 1 := List.length_append
  obtain ⟨b₂, hstore₂, hb₂⟩ := hb₁.store (by omega) cb
  rw [hlength] at hstore₂
  refine ⟨b₂, ?_, ?_⟩
  · rw [Plane.sample] at hcb
    rw [Plane.sample, hrow, hpixel] at hcr
    simp only [hcb, hcr, hstore₁, hstore₂, Option.bind_eq_bind, Option.bind_some]
  · rw [chromaPair, hcb, hcr]
    simpa using hb₂

/-- The second loop of `copyImage`, with its running pointer. -/
theorem copyChroma {w h : ℕ} {b : Buffer UInt8}
    (hb : Buffer.Filled (6 * (w * h)) (rows (lumaRow y (2 * w)) (2 * h)) b)
    (hrow : v.rowStride = u.rowStride) (hpixel : v.pixelStride = u.pixelStride)
    (hu : u.LongEnough w h) (hv : v.LongEnough w h) :
    ∃ p, forRange h (fun row p => forRange w (fun col p => do
          let cr ← v.data[row * u.rowStride + col * u.pixelStride]?
          let b ← p.1.store p.2 cr
          let cb ← u.data[row * u.rowStride + col * u.pixelStride]?
          let b ← b.store (p.2 + 1) cb
          some (b, p.2 + 2)) p) (b, 2 * w * (2 * h)) = some p ∧
      Buffer.Filled (6 * (w * h)) (nv21Of (2 * w) (2 * h) y u v) p.1 := by
  have hwidth (row : ℕ) : chromaRow u v (2 * w) row = rows (chromaPair u v row) w := by
    rw [chromaRow, Nat.mul_div_cancel_left _ two_pos]
  have hrows : (rows (lumaRow y (2 * w)) (2 * h)).length = 4 * (w * h) := by
    rw [length_rows (length_lumaRow y (2 * w))]
    ring
  have hfilled (row : ℕ) :
      (rows (lumaRow y (2 * w)) (2 * h) ++ rows (chromaRow u v (2 * w)) row).length =
        4 * (w * h) + row * (2 * w) := by
    rw [List.length_append, hrows, length_rows (length_chromaRow u v (2 * w)),
      Nat.mul_div_cancel_left _ two_pos, Nat.mul_comm w 2]
  -- The pointer is behind what is filled already.
  let At (content : List UInt8) (p : Buffer UInt8 × ℕ) : Prop :=
    Buffer.Filled (6 * (w * h)) content p.1 ∧ p.2 = content.length
  have hinner (row : ℕ) (hr : row < h) (p : Buffer UInt8 × ℕ)
      (hp : At (rows (lumaRow y (2 * w)) (2 * h) ++ rows (chromaRow u v (2 * w)) row) p) :
      ∃ p', forRange w (fun col p => do
          let cr ← v.data[row * u.rowStride + col * u.pixelStride]?
          let b ← p.1.store p.2 cr
          let cb ← u.data[row * u.rowStride + col * u.pixelStride]?
          let b ← b.store (p.2 + 1) cb
          some (b, p.2 + 2)) p = some p' ∧
        At (rows (lumaRow y (2 * w)) (2 * h) ++ rows (chromaRow u v (2 * w)) (row + 1)) p' := by
    rw [rows_succ, hwidth, ← List.append_assoc]
    refine forRange_rule (I := fun col p => At (_ ++ rows (chromaPair u v row) col) p) ?_
      (by simpa using hp)
    rintro col ⟨b, ptr⟩ hc ⟨hb, rfl⟩
    have hroom : (rows (lumaRow y (2 * w)) (2 * h) ++ rows (chromaRow u v (2 * w)) row ++
        rows (chromaPair u v row) col).length + 2 ≤ 6 * (w * h) := by
      rw [List.length_append, hfilled, length_rows (length_chromaPair u v row)]
      calc 4 * (w * h) + row * (2 * w) + col * 2 + 2 =
            4 * (w * h) + (row * (2 * w) + 2 * (col + 1)) := by ring
        _ ≤ 4 * (w * h) + (row * (2 * w) + 2 * w) := by omega
        _ = 4 * (w * h) + (row + 1) * (2 * w) := by ring
        _ ≤ 4 * (w * h) + h * (2 * w) := Nat.add_le_add_left (Nat.mul_le_mul_right _ hr) _
        _ = 6 * (w * h) := by ring
    obtain ⟨b', hpair, hb'⟩ := copyChromaPair hb hroom hrow hpixel (hu row hr col hc)
      (hv row hr col hc)
    refine ⟨_, hpair, ?_⟩
    rw [rows_succ, ← List.append_assoc]
    exact ⟨hb', (List.length_append.trans (congrArg _ (length_chromaPair u v row col))).symm⟩
  have hstart : At (rows (lumaRow y (2 * w)) (2 * h) ++ rows (chromaRow u v (2 * w)) 0)
      (b, 2 * w * (2 * h)) := by
    refine ⟨by simpa using hb, ?_⟩
    rw [hfilled]
    ring
  obtain ⟨p, hloop, hp⟩ := forRange_rule
    (I := fun row p => At (_ ++ rows (chromaRow u v (2 * w)) row) p)
    (fun row p hr hp => hinner row hr p hp) hstart
  refine ⟨p, hloop, ?_⟩
  rw [nv21Of, Nat.mul_div_cancel_left _ two_pos]
  exact hp.1

theorem copyPlanes_eq {w h : ℕ} (hstride : y.pixelStride = 1) (hrow : v.rowStride = u.rowStride)
    (hpixel : v.pixelStride = u.pixelStride) (hy : y.LongEnough (2 * w) (2 * h))
    (hu : u.LongEnough w h) (hv : v.LongEnough w h) :
    copyPlanes (2 * w) (2 * h) y u v =
      some ⟨nv21Of (2 * w) (2 * h) y u v, List.range (6 * (w * h))⟩ := by
  have hnew : Buffer.Filled (6 * (w * h)) []
      { cells := List.replicate (6 * (w * h)) (0 : UInt8) } := by
    have h := Buffer.filled_nil (List.replicate (6 * (w * h)) (0 : UInt8))
    rwa [List.length_replicate] at h
  obtain ⟨b, hluma, hb⟩ := copyLuma hnew hstride hy
  obtain ⟨p, hchroma, hp⟩ := copyChroma hb hrow hpixel hu hv
  obtain ⟨hcells, hwritten⟩ := hp.eq (length_nv21Of y u v w h)
  unfold copyPlanes
  dsimp only
  rw [size_nv21, Nat.mul_div_cancel_left _ two_pos, Nat.mul_div_cancel_left _ two_pos, hluma,
    Option.bind_some, hchroma, Option.map_some, ← hcells, ← hwritten]

end

/-- The frame of an image. -/
def Yuv420.nv21 (i : Yuv420) : Nv21 := nv21Of kWidth kHeight i.y i.u i.v

/-- `copyImage` writes the frame from its beginning to its end. -/
theorem copyImage_toAImage (i : Yuv420) :
    copyImage i.toAImage =
      some (true, ⟨i.nv21, List.range (kWidth * kHeight * 3 / 2)⟩) := by
  have hsize : kWidth * kHeight * 3 / 2 = 6 * (320 * 240) := rfl
  have hcopy : copyPlanes kWidth kHeight i.y i.u i.v =
      some ⟨i.nv21, List.range (kWidth * kHeight * 3 / 2)⟩ := by
    rw [hsize]
    exact copyPlanes_eq (w := 320) (h := 240) i.lumaStride i.rowStride i.pixelStride i.luma i.cb
      i.cr
  unfold copyImage Yuv420.toAImage
  dsimp only
  rw [if_neg (by simp), hcopy]
  rfl

/-! ### What is read back -/

@[simp] theorem byteAt_natCast (nv21 : Nv21) (i : ℕ) : byteAt nv21 i = nv21[i]? :=
  if_pos (Int.natCast_nonneg i)

theorem chromaOffset_natCast (x y : ℕ) :
    chromaOffset x y = ((kWidth * kHeight + (y / 2 * kWidth + x / 2 * 2) : ℕ) : Int) := by
  have hx : (x : Int) - x % 2 = ((x / 2 * 2 : ℕ) : Int) := by omega
  have hy : (y : Int).tdiv 2 = ((y / 2 : ℕ) : Int) := rfl
  rw [chromaOffset, hx, hy]
  push_cast
  ring

variable (i : Yuv420) {x y : ℕ}

/-- The luma of a pixel lies in the row of the pixel. -/
theorem luma_nv21 (hx : x < kWidth) (hy : y < kHeight) :
    i.nv21[y * kWidth + x]? = some ((i.y.sample x y).getD 0) := by
  have hlt : y * kWidth + x < (rows (lumaRow i.y kWidth) kHeight).length := by
    rw [length_rows (length_lumaRow i.y kWidth)]
    calc y * kWidth + x < y * kWidth + kWidth := Nat.add_lt_add_left hx _
      _ = (y + 1) * kWidth := (Nat.succ_mul y kWidth).symm
      _ ≤ kHeight * kWidth := Nat.mul_le_mul_right _ hy
  rw [Yuv420.nv21, nv21Of, List.getElem?_append_left hlt,
    getElem?_rows (length_lumaRow i.y kWidth) hy hx, lumaRow, List.getElem?_map,
    List.getElem?_range hx]
  rfl

/-- The chroma pair of a pixel lies in the row of its two rows of pixels. -/
theorem chroma_nv21 (hx : x < kWidth) (hy : y < kHeight) {k : ℕ} (hk : k < 2) :
    i.nv21[kWidth * kHeight + (y / 2 * kWidth + (x / 2 * 2 + k))]? =
      (chromaPair i.u i.v (y / 2) (x / 2))[k]? := by
  have hrows : (rows (lumaRow i.y kWidth) kHeight).length = kWidth * kHeight :=
    (length_rows (length_lumaRow i.y kWidth) kHeight).trans (Nat.mul_comm _ _)
  rw [Yuv420.nv21, nv21Of, List.getElem?_append_right (by rw [hrows]; exact Nat.le_add_right _ _),
    hrows, Nat.add_sub_cancel_left]
  have hcol : x / 2 < kWidth / 2 := Nat.div_lt_div_of_lt_of_dvd (by decide) hx
  have hrow : y / 2 < kHeight / 2 := Nat.div_lt_div_of_lt_of_dvd (by decide) hy
  exact (getElem?_rows (length_chromaRow i.u i.v kWidth) hrow (by omega)).trans
    (getElem?_rows (length_chromaPair i.u i.v (y / 2)) hcol hk)

/-- What the preview reads for a pixel comes from its place in the planes. -/
theorem Yuv420.reads_nv21 (hx : x < kWidth) (hy : y < kHeight) :
    readLuma i.nv21 x y = some ((i.y.sample x y).getD 0) ∧
      readCr i.nv21 x y = some ((i.v.sample (x / 2) (y / 2)).getD 0) ∧
      readCb i.nv21 x y = some ((i.u.sample (x / 2) (y / 2)).getD 0) := by
  have hpair (k : ℕ) (hk : k < 2) := chroma_nv21 i hx hy hk
  refine ⟨?_, ?_, ?_⟩
  · have hcast : (y : Int) * kWidth + x = ((y * kWidth + x : ℕ) : Int) := by push_cast; rfl
    rw [readLuma, hcast, byteAt_natCast, luma_nv21 i hx hy]
  · rw [readCr, chromaOffset_natCast, byteAt_natCast]
    exact hpair 0 (by decide)
  · have hcast : chromaOffset x y + 1 =
        ((kWidth * kHeight + (y / 2 * kWidth + (x / 2 * 2 + 1)) : ℕ) : Int) := by
      rw [chromaOffset_natCast]
      push_cast
      ring
    rw [readCb, hcast, byteAt_natCast]
    exact hpair 1 (by decide)

/-- The writer and the reader agree: the bytes of the frame are written once each, in
order, and the preview reads for a pixel the luma of its place in the Y plane and the
chroma of its place in the V and U planes. -/
theorem copyImage_read :
    ∃ nv21, copyImage i.toAImage = some (true, nv21) ∧
      nv21.written = List.range (kWidth * kHeight * 3 / 2) ∧
      nv21.cells.length = kWidth * kHeight * 3 / 2 ∧
      ∀ x y : ℕ, x < kWidth → y < kHeight → ∃ luma cb cr,
        i.y.data[y * i.y.rowStride + x]? = some luma ∧
        i.v.data[y / 2 * i.u.rowStride + x / 2 * i.u.pixelStride]? = some cr ∧
        i.u.data[y / 2 * i.u.rowStride + x / 2 * i.u.pixelStride]? = some cb ∧
        readLuma nv21.cells x y = some luma ∧ readCr nv21.cells x y = some cr ∧
        readCb nv21.cells x y = some cb := by
  refine ⟨_, copyImage_toAImage i, ?_, ?_, fun x y hx hy => ?_⟩
  · dsimp only
  · exact length_nv21Of i.y i.u i.v 320 240
  have hcol : x / 2 < kWidth / 2 := Nat.div_lt_div_of_lt_of_dvd (by decide) hx
  have hrow : y / 2 < kHeight / 2 := Nat.div_lt_div_of_lt_of_dvd (by decide) hy
  obtain ⟨luma, hluma⟩ := Option.isSome_iff_exists.mp (i.luma y hy x hx)
  obtain ⟨cb, hcb⟩ := Option.isSome_iff_exists.mp (i.cb (y / 2) hrow (x / 2) hcol)
  obtain ⟨cr, hcr⟩ := Option.isSome_iff_exists.mp (i.cr (y / 2) hrow (x / 2) hcol)
  have hreads := i.reads_nv21 hx hy
  rw [hluma, hcb, hcr] at hreads
  refine ⟨luma, cb, cr, ?_, ?_, hcb, hreads⟩
  · rwa [Plane.sample, i.lumaStride, Nat.mul_one] at hluma
  · rwa [Plane.sample, i.rowStride, i.pixelStride] at hcr

end OneplusHal.Face

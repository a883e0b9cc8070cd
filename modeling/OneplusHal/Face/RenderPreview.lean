import Mathlib.Data.Rat.Floor
import OneplusHal.Face.Nv21Image
import OneplusHal.Lib.Picture

/-!
The preview: a mirrored, upright square out of the middle of the frame.

`renderPreview` goes through the pixels of the window and looks each of them up in the
frame, in the coordinates of the sensor. What it draws is the picture that one gets by
turning the frame upright, cutting out the square and mirroring it, with the colours
converted in 16.16 fixed point.
-/

namespace OneplusHal.Face

open OneplusHal Raster

def kPreviewSize : ℕ := min kWidth kHeight

def clamp8 (v : Int) : UInt8 := UInt8.ofNat (max 0 (min v 255)).toNat

/-- What `ANativeWindow_lock` hands out for the geometry that `start` sets. -/
structure WindowBuffer where
  bits : List UInt32
  stride : ℕ
  wide : kPreviewSize ≤ stride
  long : (kPreviewSize - 1) * stride + kPreviewSize ≤ bits.length

/-! ### The drawing -/

/-- The result of an operation on `int`, which is undefined when it overflows. -/
def int32? (z : Int) : Option Int := if -2 ^ 31 ≤ z ∧ z < 2 ^ 31 then some z else none

/-- The coordinates in the frame that the pixel `(u, v)` of the preview is taken from. -/
def previewSource (rotation u v : Int) : Int × Int :=
  let rotatedWidth : Int := if rotation.tmod 180 ≠ 0 then kHeight else kWidth
  let rotatedHeight : Int := if rotation.tmod 180 ≠ 0 then kWidth else kHeight
  let offsetX := (rotatedWidth - kPreviewSize).tdiv 2
  let offsetY := (rotatedHeight - kPreviewSize).tdiv 2
  let rx := u + offsetX
  let ry := v + offsetY
  let m : Int × Int :=
    if rotation = 90 then (ry, kHeight - 1 - rx)
    else if rotation = 180 then (kWidth - 1 - rx, kHeight - 1 - ry)
    else if rotation = 270 then (kWidth - 1 - ry, rx)
    else (rx, ry)
  (kWidth - 1 - m.1, m.2)

/-- The value that is written for a pixel. -/
def previewPixel (luma cr cb : UInt8) : Option UInt32 := do
  let luma : Int := luma.toNat
  let cr ← int32? (cr.toNat - 128)
  let cb ← int32? (cb.toNat - 128)
  let cbBlue ← int32? (116130 * cb)
  let blue ← int32? (luma + cbBlue >>> (16 : ℕ))
  let cbGreen ← int32? (22554 * cb)
  let crGreen ← int32? (46802 * cr)
  let chromaGreen ← int32? (cbGreen + crGreen)
  let green ← int32? (luma - chromaGreen >>> (16 : ℕ))
  let crRed ← int32? (91881 * cr)
  let red ← int32? (luma + crRed >>> (16 : ℕ))
  some ((0xff000000 : UInt32) ||| (clamp8 blue).toUInt32 <<< 16 |||
    (clamp8 green).toUInt32 <<< 8 ||| (clamp8 red).toUInt32)

/-- `CameraSource::renderPreview`, with the buffer of the window if it could be locked. An
access out of bounds and an overflow are `none`. -/
def renderPreview (mSensorOrientation : Int) (nv21 : Nv21) (lock : Option WindowBuffer) :
    Option (Option (Buffer UInt32)) :=
  match lock with
  | none => some none
  | some buffer =>
      let rotation := (360 - mSensorOrientation.tmod 360).tmod 360
      (forRange kPreviewSize (fun v bits =>
        forRange kPreviewSize (fun u bits => do
          let (x, y) := previewSource rotation u v
          let luma ← readLuma nv21 x y
          let cr ← readCr nv21 x y
          let cb ← readCb nv21 x y
          let pixel ← previewPixel luma cr cb
          bits.store (v * buffer.stride + u) pixel) bits)
        { cells := buffer.bits }).map some

/-! ### The reference -/

/-- A pixel in the memory of the window. -/
structure Rgba where
  r : UInt8
  g : UInt8
  b : UInt8
  a : UInt8
  deriving DecidableEq

structure YCbCr where
  luma : UInt8
  cb : UInt8
  cr : UInt8

/-- A coefficient in 16.16 fixed point. -/
def fix16 (q : ℚ) : Int := round (q * 2 ^ 16)

/-- The conversion to RGB, with products in 16.16 fixed point rounded down. -/
def YCbCr.toRgba (p : YCbCr) : Rgba :=
  let luma : Int := p.luma.toNat
  let cb : Int := p.cb.toNat - 128
  let cr : Int := p.cr.toNat - 128
  { r := clamp8 (luma + fix16 1.402 * cr / 2 ^ 16)
    g := clamp8 (luma - (fix16 0.34414 * cb + fix16 0.71414 * cr) / 2 ^ 16)
    b := clamp8 (luma + fix16 1.772 * cb / 2 ^ 16)
    a := 255 }

/-- The picture of an NV21 frame: the chroma pairs are V before U, one for two by two
pixels. -/
def framePicture (nv21 : Nv21) : Picture YCbCr where
  width := kWidth
  height := kHeight
  pixel x y :=
    let pair := kWidth * kHeight + (y / 2 * (kWidth / 2) + x / 2) * 2
    { luma := nv21.getD (y * kWidth + x) 0
      cr := nv21.getD pair 0
      cb := nv21.getD (pair + 1) 0 }

/-- What a selfie camera shows of the frame of a sensor that is turned by `turns` quarter
turns: upright, the square in the middle, and mirrored. -/
def selfie (turns : ℕ) (nv21 : Nv21) : Picture Rgba :=
  (((framePicture nv21).rotate turns).centeredSquare.mirror).map YCbCr.toRgba

/-- The bytes of a word in memory, the lowest first. -/
def Rgba.ofWord (w : UInt32) : Rgba :=
  ⟨w.toUInt8, (w >>> 8).toUInt8, (w >>> 16).toUInt8, (w >>> 24).toUInt8⟩

/-- What the window shows. -/
def shown (stride : ℕ) (bits : List UInt32) : Picture Rgba where
  width := kPreviewSize
  height := kPreviewSize
  pixel u v := Rgba.ofWord (bits.getD (v * stride + u) 0)

/-! ### The colours -/

theorem Rgba.ofWord_or (r g b a : UInt8) :
    Rgba.ofWord (a.toUInt32 <<< 24 ||| b.toUInt32 <<< 16 ||| g.toUInt32 <<< 8 |||
      r.toUInt32) = ⟨r, g, b, a⟩ := by
  simp only [Rgba.ofWord, Rgba.mk.injEq, ← UInt8.toBitVec_inj]
  refine ⟨?_, ?_, ?_, ?_⟩ <;> ext i hi
  · simp
  · simp
    grind
  · simp
    grind
  · simp
    grind

theorem fix16_eq {q : ℚ} {n : Int} (h : n ≤ q * 2 ^ 16 + 1 / 2)
    (h' : q * 2 ^ 16 + 1 / 2 < n + 1) : fix16 q = n := by
  rw [fix16, round_eq, Int.floor_eq_iff]
  exact ⟨h, h'⟩

theorem int32?_eq {z : Int} (h : -2 ^ 31 ≤ z) (h' : z < 2 ^ 31) : int32? z = some z :=
  if_pos ⟨h, h'⟩

/-- No step of the conversion overflows. -/
theorem previewPixel_eq (luma cr cb : UInt8) :
    previewPixel luma cr cb = some
      ((0xff000000 : UInt32) |||
        (clamp8 (luma.toNat + 116130 * (cb.toNat - 128) / 2 ^ 16)).toUInt32 <<< 16 |||
        (clamp8 (luma.toNat -
          (22554 * (cb.toNat - 128) + 46802 * (cr.toNat - 128)) / 2 ^ 16)).toUInt32 <<< 8 |||
        (clamp8 (luma.toNat + 91881 * (cr.toNat - 128) / 2 ^ 16)).toUInt32) := by
  have hy : luma.toNat < 256 := luma.toNat_lt
  have hv : cr.toNat < 256 := cr.toNat_lt
  have hu : cb.toNat < 256 := cb.toNat_lt
  unfold previewPixel
  generalize luma.toNat = y at *
  generalize cr.toNat = v at *
  generalize cb.toNat = u at *
  simp (disch := omega) only [int32?_eq, Option.bind_eq_bind, Option.bind_some,
    Int.shiftRight_eq_div_pow]
  rfl

/-- The word that is written holds the bytes of the colour. -/
theorem ofWord_previewPixel (p : YCbCr) :
    ∃ word, previewPixel p.luma p.cr p.cb = some word ∧ Rgba.ofWord word = p.toRgba := by
  have hred : fix16 1.402 = 91881 := fix16_eq (by norm_num) (by norm_num)
  have hgreenCb : fix16 0.34414 = 22554 := fix16_eq (by norm_num) (by norm_num)
  have hgreenCr : fix16 0.71414 = 46802 := fix16_eq (by norm_num) (by norm_num)
  have hblue : fix16 1.772 = 116130 := fix16_eq (by norm_num) (by norm_num)
  refine ⟨_, previewPixel_eq p.luma p.cr p.cb, ?_⟩
  rw [YCbCr.toRgba, hred, hgreenCb, hgreenCr, hblue]
  exact Rgba.ofWord_or _ _ _ 255

/-- What the code looks up for a pixel lies in the frame, and is that pixel. -/
def Holds (nv21 : Nv21) (pixel : ℕ → ℕ → YCbCr) : Prop :=
  ∀ x y : ℕ, x < kWidth → y < kHeight →
    readLuma nv21 x y = some (pixel x y).luma ∧ readCr nv21 x y = some (pixel x y).cr ∧
      readCb nv21 x y = some (pixel x y).cb

theorem holds_framePicture {nv21 : Nv21} (hlength : nv21.length = kWidth * kHeight * 3 / 2) :
    Holds nv21 (framePicture nv21).pixel := by
  intro x y hx hy
  have hat (i j : ℕ) (hij : i = j) (hj : j < nv21.length) : nv21[i]? = some (nv21.getD j 0) := by
    rw [hij, List.getD_eq_getElem?_getD, List.getElem?_eq_getElem hj, Option.getD_some]
  rw [kWidth] at hx
  rw [kHeight] at hy
  rw [kWidth, kHeight] at hlength
  refine ⟨?_, ?_, ?_⟩
  · have hcast : (y : Int) * kWidth + x = ((y * kWidth + x : ℕ) : Int) := by push_cast; rfl
    rw [readLuma, hcast, byteAt_natCast]
    exact hat _ _ rfl (by rw [kWidth]; omega)
  · rw [readCr, chromaOffset_natCast, byteAt_natCast]
    exact hat _ _ (by rw [kWidth]; omega) (by rw [kWidth, kHeight]; omega)
  · rw [readCb, chromaOffset_natCast, ← Nat.cast_succ, byteAt_natCast]
    exact hat _ _ (by rw [kWidth]; omega) (by rw [kWidth, kHeight]; omega)

/-! ### The coordinates -/

/-- The rotation that undoes `k` quarter turns. -/
theorem rotation_eq (k : ℕ) :
    (360 - (90 * k : Int).tmod 360).tmod 360 = ((4 - k % 4) % 4 * 90 : ℕ) := by
  rw [Int.tmod_eq_emod_of_nonneg (by omega : 0 ≤ (90 * k : Int)),
    Int.tmod_eq_emod_of_nonneg (by omega)]
  omega

section

variable {α : Type*} (pixel : ℕ → ℕ → α)

/-- A picture of the size of a frame, turned, cut out and mirrored. -/
def preview (turns : ℕ) : Picture α :=
  ((⟨kWidth, kHeight, pixel⟩ : Picture α).rotate turns).centeredSquare.mirror

theorem preview_mod_four (k : ℕ) : (preview pixel k).Same (preview pixel (k % 4)) :=
  (Picture.rotate_mod_four k _).centeredSquare.mirror

theorem quarter_turns {r : ℕ} (hr : r < 4) : r = 0 ∨ r = 1 ∨ r = 2 ∨ r = 3 := by omega

theorem size_preview (k : ℕ) :
    (preview pixel k).width = kPreviewSize ∧ (preview pixel k).height = kPreviewSize := by
  have hsame := preview_mod_four pixel k
  rw [hsame.width, hsame.height]
  rcases quarter_turns (Nat.mod_lt k (by decide)) with hr | hr | hr | hr <;> rw [hr] <;>
    exact ⟨rfl, rfl⟩

/-- The mirror image in the coordinates of the sensor, turned back, is the turned picture
with its left and right exchanged. -/
theorem previewSource_rotate {r : ℕ} (hr : r < 4) {u v : ℕ} (hu : u < kPreviewSize)
    (hv : v < kPreviewSize) :
    ∃ x y : ℕ, x < kWidth ∧ y < kHeight ∧
      previewSource ((4 - r) % 4 * 90 : ℕ) u v = ((x : Int), (y : Int)) ∧
      (preview pixel r).pixel u v = pixel x y := by
  have hpreview : kPreviewSize = 480 := rfl
  have hwidth : kWidth = 640 := rfl
  have hheight : kHeight = 480 := rfl
  rw [hpreview] at hu hv
  rcases quarter_turns hr with rfl | rfl | rfl | rfl
  · refine ⟨559 - u, v, by omega, by omega, ?_, ?_⟩
    · simp only [previewSource, hpreview, hwidth, hheight]
      simp
      omega
    · change pixel (480 - 1 - u + (640 - 480) / 2) (v + (480 - 480) / 2) = _
      congr 1
      omega
  · refine ⟨v + 80, u, by omega, by omega, ?_, ?_⟩
    · simp only [previewSource, hpreview, hwidth, hheight]
      simp
    · change pixel (v + (640 - 480) / 2) (480 - 1 - (480 - 1 - u + (480 - 480) / 2)) = _
      congr 1
      omega
  · refine ⟨u + 80, 479 - v, by omega, by omega, ?_, ?_⟩
    · simp only [previewSource, hpreview, hwidth, hheight]
      simp
      omega
    · change pixel (640 - 1 - (480 - 1 - u + (640 - 480) / 2))
        (480 - 1 - (v + (480 - 480) / 2)) = _
      congr 1
      omega
  · refine ⟨559 - v, 479 - u, by omega, by omega, ?_, ?_⟩
    · simp only [previewSource, hpreview, hwidth, hheight]
      simp
      omega
    · change pixel (640 - 1 - (v + (640 - 480) / 2))
        (480 - 1 - (480 - 1 - (480 - 1 - u + (480 - 480) / 2))) = _
      congr 1 <;> omega

theorem previewSource_eq (k : ℕ) {u v : ℕ} (hu : u < kPreviewSize) (hv : v < kPreviewSize) :
    ∃ x y : ℕ, x < kWidth ∧ y < kHeight ∧
      previewSource ((360 - (90 * k : Int).tmod 360).tmod 360) u v = ((x : Int), (y : Int)) ∧
      (preview pixel k).pixel u v = pixel x y := by
  obtain ⟨hwidth, hheight⟩ := size_preview pixel k
  rw [rotation_eq, (preview_mod_four pixel k).pixel u v (hwidth ▸ hu) (hheight ▸ hv)]
  exact previewSource_rotate pixel (Nat.mod_lt k (by decide)) hu hv

end

section

variable {nv21 : Nv21} {pixel : ℕ → ℕ → YCbCr} (h : Holds nv21 pixel) (k : ℕ)

include h in
/-- One turn of the inner loop stores the pixel of the preview. -/
theorem Holds.drawPixel (stride v u : ℕ) (bits : Buffer UInt32) (hv : v < kPreviewSize)
    (hu : u < kPreviewSize) :
    ∃ word, (do
        let (x, y) := previewSource ((360 - (90 * k : Int).tmod 360).tmod 360) u v
        let luma ← readLuma nv21 x y
        let cr ← readCr nv21 x y
        let cb ← readCb nv21 x y
        let pixel ← previewPixel luma cr cb
        bits.store (v * stride + u) pixel) = bits.store (v * stride + u) word ∧
      Rgba.ofWord word = ((preview pixel k).pixel u v).toRgba := by
  obtain ⟨x, y, hx, hy, hsource, hpixel⟩ := previewSource_eq pixel k hu hv
  obtain ⟨hluma, hcr, hcb⟩ := h x y hx hy
  obtain ⟨word, hword, hof⟩ := ofWord_previewPixel (pixel x y)
  refine ⟨word, ?_, hof.trans (congrArg YCbCr.toRgba hpixel.symm)⟩
  simp only [hsource, hluma, hcr, hcb, hword, Option.bind_eq_bind, Option.bind_some]

include h in
/-- The window shows the picture that the frame holds, in the colours of the window. -/
theorem Holds.renderPreview (buffer : WindowBuffer) :
    ∃ bits, renderPreview (90 * k) nv21 (some buffer) = some (some bits) ∧
      bits.cells.length = buffer.bits.length ∧
      (shown buffer.stride bits.cells).Same ((preview pixel k).map YCbCr.toRgba) := by
  obtain ⟨hwidth, hheight⟩ := size_preview pixel k
  let window : Buffer UInt32 := { cells := buffer.bits }
  obtain ⟨bits, hloop, hbits⟩ := window.draw_rule buffer.wide buffer.long
    fun v u bits hv hu => h.drawPixel k buffer.stride v u bits hv hu
  refine ⟨bits, congrArg (Option.map some) hloop, hbits.length, hwidth.symm, hheight.symm, ?_⟩
  intro u v hu hv
  obtain ⟨word, hword, hof⟩ := hbits.holds v u hu hv
  change Rgba.ofWord (bits.cells.getD _ 0) = _
  rw [List.getD_eq_getElem?_getD, hword, Option.getD_some, hof]
  rfl

end

/-- No access leaves the frame or the window, nothing overflows, and the window shows the
selfie. -/
theorem renderPreview_selfie (k : ℕ) {nv21 : Nv21}
    (hlength : nv21.length = kWidth * kHeight * 3 / 2) (buffer : WindowBuffer) :
    ∃ bits, renderPreview (90 * k) nv21 (some buffer) = some (some bits) ∧
      bits.cells.length = buffer.bits.length ∧
      (shown buffer.stride bits.cells).Same (selfie k nv21) :=
  (holds_framePicture hlength).renderPreview k buffer

/-- A grey frame, and a window without padding. -/
theorem renderPreview_grey :
    ∃ bits, renderPreview (90 * 3) (List.replicate (kWidth * kHeight * 3 / 2) 128)
        (some ⟨List.replicate (kPreviewSize * kPreviewSize) 0, kPreviewSize, le_rfl, by
          rw [List.length_replicate]; decide⟩) = some (some bits) ∧
      bits.cells.length = (List.replicate (kPreviewSize * kPreviewSize) (0 : UInt32)).length ∧
      (shown kPreviewSize bits.cells).Same
        (selfie 3 (List.replicate (kWidth * kHeight * 3 / 2) 128)) :=
  renderPreview_selfie 3 List.length_replicate _

/-! ### From an image to the window -/

/-- The picture that the planes of an image hold. -/
def Yuv420.picture (i : Yuv420) : Picture YCbCr where
  width := kWidth
  height := kHeight
  pixel x y :=
    { luma := (i.y.sample x y).getD 0
      cb := (i.u.sample (x / 2) (y / 2)).getD 0
      cr := (i.v.sample (x / 2) (y / 2)).getD 0 }

theorem Yuv420.holds_picture (i : Yuv420) : Holds i.nv21 i.picture.pixel :=
  fun _ _ hx hy => i.reads_nv21 hx hy

/-- The frame copied out of an image is drawn as the selfie of that image. -/
theorem copyImage_renderPreview (i : Yuv420) (k : ℕ) (buffer : WindowBuffer) :
    ∃ nv21 bits, copyImage i.toAImage = some (true, nv21) ∧
      renderPreview (90 * k) nv21.cells (some buffer) = some (some bits) ∧
      (shown buffer.stride bits.cells).Same
        ((i.picture.rotate k).centeredSquare.mirror.map YCbCr.toRgba) := by
  obtain ⟨bits, hrender, -, hshown⟩ := i.holds_picture.renderPreview k buffer
  exact ⟨_, bits, copyImage_toAImage i, hrender, hshown⟩

end OneplusHal.Face

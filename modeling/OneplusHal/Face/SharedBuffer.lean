import OneplusHal.Face.FaceEngine
import OneplusHal.Face.FaceTee
import OneplusHal.Lib.Bytes

/-!
The buffer that the client of faceapp shares with the trusted app, byte by byte.

A command writes its request at the start of the buffer, the payload behind it, and the
sentinel of the response behind both; nothing compares the sizes with that of the buffer. A
write out of bounds is undefined.
-/

namespace OneplusHal.Face

open Raster Raster.Buffer Bytes

namespace SharedBuffer

def kSharedBufferSize : UInt32 := 0xc8000

/-- A buffer of the size that the app was started with. -/
abbrev Shared : Type := { b : Buffer UInt8 // b.cells.length = kSharedBufferSize.toNat }

inductive Command
  | saveFeature
  | compareFeature
  | removeFeature
  | saveFrame
  | removeFrame

def Command.value : Command → UInt32
  | .saveFeature => 1
  | .compareFeature => 2
  | .removeFeature => 3
  | .saveFrame => 4
  | .removeFrame => 6

/-- The fields of a request that commands set; the others are zero since the `memset`. The
thresholds are the bits of floats. -/
structure Request where
  cmd : Command
  size : UInt32 := 0
  index : UInt32 := 0
  thresholds : List UInt8 := List.replicate 32 0
  length_thresholds : thresholds.length = 32 := by rfl

/-- `sizeof(Request)` -/
def sizeofRequest : UInt64 := 48

/-- -1.0f, 0.172f, 0.268f, 0.342f, 0.405f, 0.49f, 0.55f and 1.0f -/
def kThresholds : List UInt32 :=
  [0xbf800000, 0x3e3020c5, 0x3e89374c, 0x3eaf1aa0, 0x3ecf5c29, 0x3efae148, 0x3f0ccccd, 0x3f800000]

def kHeaderSize : UInt64 := 64

def requestSize (payload : UInt64) : UInt64 :=
  (payload + sizeofRequest + kHeaderSize) &&& ~~~(kHeaderSize - 1)

def kFrameSize : UInt64 := 640 * 480 * 3 / 2

/-- The bytes of the header of a request. -/
def Request.header (r : Request) : List UInt8 :=
  wordBytes r.cmd.value ++ wordBytes r.size ++ wordBytes r.index ++ [1, 0, 0, 0] ++ r.thresholds

/-- A call of `QSEECom_send_cmd`: the request starts the buffer, the response is at the offset
`rsp`, and the lengths are unsigned ints. -/
structure SendCmd where
  buffer : Buffer UInt8
  reqSize : UInt32
  rsp : ℕ
  rspSize : UInt32

/-- `FaceTee::send`, up to the call. -/
def send (b : Buffer UInt8) (reqSize rspSize : UInt64) : Option SendCmd := do
  let b ← b.store32 (reqSize.toNat + 4) 9
  return { buffer := b, reqSize := reqSize.toUInt32, rsp := reqSize.toNat,
           rspSize := rspSize.toUInt32 }

/-- What `FaceTee::send` returns: `ret` is the result of the call, and `response` are the bytes
that the app has written there. -/
def SendCmd.result (c : SendCmd) (ret : UInt32) (response : List UInt8) : Option UInt32 :=
  if ret ≠ 0 then some ret
  else do
    let b ← c.buffer.memcpy c.rsp response 0 response.length
    b.load32 (c.rsp + 4)

/-- The start of every command. -/
def writeHeader (r : Request) (b : Buffer UInt8) : Option (Buffer UInt8) := do
  let b ← b.memset 0 0 sizeofRequest.toNat
  let b ← b.store 12 1
  let b ← b.store32 0 r.cmd.value
  let b ← b.store32 4 r.size
  let b ← b.store32 8 r.index
  b.memcpy 16 r.thresholds 0 r.thresholds.length

/-- The part that the commands share. -/
def request (r : Request) (payload : List UInt8) (size reqSize : UInt64) (b : Shared) :
    Option SendCmd := do
  let b ← writeHeader r b.1
  let b ← b.memcpy sizeofRequest.toNat payload 0 size.toNat
  send b reqSize kHeaderSize

/-- `feature.size()` -/
def sizeOf (feature : List UInt8) : UInt64 := UInt64.ofNat feature.length

def saveFeature (feature : List UInt8) (b : Shared) : Option SendCmd :=
  let size := sizeOf feature
  request { cmd := .saveFeature, size := size.toUInt32 } feature size (requestSize size) b

def removeFeature (b : Shared) : Option SendCmd :=
  request { cmd := .removeFeature } [] 0 kHeaderSize b

def compare (feature : List UInt8) (b : Shared) : Option SendCmd :=
  let size := sizeOf feature
  request
    { cmd := .compareFeature
      size := size.toUInt32
      thresholds := kThresholds.flatMap wordBytes }
    feature size (requestSize size) b

def saveFrame (index : Int32) (nv21 : List UInt8) (b : Shared) : Option SendCmd :=
  request { cmd := .saveFrame, size := kFrameSize.toUInt32, index := index.toUInt32 } nv21
    kFrameSize (requestSize kFrameSize) b

def removeFrame (index : Int32) (b : Shared) : Option SendCmd :=
  request { cmd := .removeFrame, index := index.toUInt32 } [] 0 kHeaderSize b

/-! ### Serialized features -/

/-- The value of an int expression; an overflow is undefined. -/
def int (x : Int) : Option Int32 :=
  if Int32.minValue.toInt ≤ x ∧ x ≤ Int32.maxValue.toInt then some (Int32.ofInt x) else none

/-- `((feature->length + 2) / 3) * 4 + 1`, in ints. -/
def serializedLength (length : Int32) : Option Int32 := do
  let rounded ← int (length.toInt + 2)
  let groups ← int (rounded.toInt.tdiv 3)
  let digits ← int (groups.toInt * 4)
  int (digits.toInt + 1)

/-- The end of `extractFeature`, for a feature of these bytes: the SDK writes them in base64,
with a NUL behind. -/
def serialize (length : Int32) (bytes : List UInt8) : Option (List UInt8) := do
  let size ← serializedLength length
  let out : Buffer UInt8 := { cells := List.replicate size.toInt.toNat 0 }
  let text := base64 bytes ++ [0]
  let out ← out.memcpy 0 text 0 text.length
  return out.cells

/-! ### Commands that fit -/

/-- The call finds the request in the buffer, with its payload and the length of that, and the
response aligned behind them, with the sentinel in it. -/
structure Fits (r : Request) (payload : List UInt8) (c : SendCmd) : Prop where
  length : c.buffer.cells.length = kSharedBufferSize.toNat
  header : c.buffer.Holds 0 r.header
  body : c.buffer.Holds sizeofRequest.toNat payload
  size : r.size.toNat = payload.length
  after : sizeofRequest.toNat + payload.length < c.rsp
  aligned : 64 ∣ c.rsp
  sent : c.reqSize.toNat = c.rsp
  response : c.rspSize = 64 ∧ c.rsp + c.rspSize.toNat ≤ kSharedBufferSize.toNat
  sentinel : c.buffer.load32 (c.rsp + 4) = some 9

/-- From every buffer the command gets as far as the call, with a request that fits. -/
def Sends (cmd : Command) (payload : List UInt8) (command : Shared → Option SendCmd) : Prop :=
  ∀ b, ∃ r c, r.cmd = cmd ∧ command b = some c ∧ Fits r payload c

/-- The most that fits. -/
def maxPayload : ℕ := 819087

theorem requestSize_toNat {payload : UInt64} (h : payload.toNat ≤ maxPayload) :
    (requestSize payload).toNat = (payload.toNat + 112) / 64 * 64 := by
  have hsum : (payload + sizeofRequest + kHeaderSize).toNat = payload.toNat + 112 := by
    unfold maxPayload at h
    simp only [UInt64.toNat_add, sizeofRequest, kHeaderSize, UInt64.reduceToNat]
    omega
  exact (and_not_63 _).trans (by rw [hsum])

theorem length_header (r : Request) : r.header.length = 48 := by
  simp [Request.header, r.length_thresholds]

/-- The header is in the buffer once its fields are written, and nothing else has changed. -/
theorem writeHeader_copied (r : Request) {b : Buffer UInt8} (hroom : 48 ≤ b.cells.length) :
    ∃ b', writeHeader r b = some b' ∧ b'.cells.length = b.cells.length ∧
      b'.Holds 0 r.header := by
  have hthresholds := r.length_thresholds
  obtain ⟨b₁, hmemset, h₁⟩ := memset_copied (b := b) (i := 0) (n := 48) (by omega) (0 : UInt8)
  have hroom₁ : 48 ≤ b₁.cells.length := hroom.trans_eq h₁.length.symm
  obtain ⟨b₂, hflags, h₂⟩ := store_copied (b := b₁) (i := 12) (by omega) (1 : UInt8)
  have hroom₂ : 48 ≤ b₂.cells.length := hroom₁.trans_eq h₂.length.symm
  obtain ⟨b₃, hcmd, h₃⟩ := store32_copied (b := b₂) (i := 0) (by omega) r.cmd.value
  have hroom₃ : 48 ≤ b₃.cells.length := hroom₂.trans_eq h₃.length.symm
  obtain ⟨b₄, hsize, h₄⟩ := store32_copied (b := b₃) (i := 4) (by omega) r.size
  have hroom₄ : 48 ≤ b₄.cells.length := hroom₃.trans_eq h₄.length.symm
  obtain ⟨b₅, hindex, h₅⟩ := store32_copied (b := b₄) (i := 8) (by omega) r.index
  have hroom₅ : 48 ≤ b₅.cells.length := hroom₄.trans_eq h₅.length.symm
  obtain ⟨b₆, hcopy, h₆⟩ := memcpy_block (b := b₅) (i := 16) r.thresholds (by omega)
  refine ⟨b₆, ?_, ?_, ?_⟩
  · change (b.memset 0 0 48).bind _ = _
    rw [hmemset, Option.bind_some]
    change (b₁.store 12 1).bind _ = _
    rw [hflags, Option.bind_some]
    change (b₂.store32 0 r.cmd.value).bind _ = _
    rw [hcmd, Option.bind_some]
    change (b₃.store32 4 r.size).bind _ = _
    rw [hsize, Option.bind_some]
    change (b₄.store32 8 r.index).bind _ = _
    rw [hindex, Option.bind_some]
    exact hcopy
  · rw [h₆.length, h₅.length, h₄.length, h₃.length, h₂.length, h₁.length]
  -- The padding behind the flags is what the `memset` left.
  · have hzero : b₁.Holds 0 (List.replicate 13 0 ++ ([0, 0, 0] ++ List.replicate 32 0)) :=
      h₁.holds
    have hpad := hzero.of_append.2.of_append.1
    have hpad := h₆.keeps (h₅.keeps (h₄.keeps (h₃.keeps (h₂.keeps hpad (by simp)) (by simp))
      (by simp)) (by simp)) (by simp)
    have hflag := h₆.keeps (h₅.keeps (h₄.keeps (h₃.keeps h₂.holds (by simp)) (by simp)) (by simp))
      (by simp)
    have hcmd := h₆.keeps (h₅.keeps (h₄.keeps h₃.holds (by simp)) (by simp)) (by simp)
    have hsize := h₆.keeps (h₅.keeps h₄.holds (by simp)) (by simp)
    have hindex := h₆.keeps h₅.holds (by simp)
    exact (((hcmd.append hsize).append hindex).append (hflag.append hpad)).append h₆.holds

/-- A payload that fits is in the buffer at the call, with its header, and so is the sentinel
of the response. -/
theorem request_fits {r : Request} {payload : List UInt8} {size reqSize : UInt64} (b : Shared)
    (hsize : size.toNat = payload.length) (hr : r.size.toNat = payload.length)
    (hfits : payload.length ≤ maxPayload)
    (hreq : reqSize.toNat = (payload.length + 112) / 64 * 64) :
    ∃ c, request r payload size reqSize b = some c ∧ Fits r payload c := by
  obtain ⟨b, hb⟩ := b
  have hroom : b.cells.length = 819200 := hb
  have hheader := length_header r
  unfold maxPayload at hfits
  obtain ⟨b₁, hwrite, hlength₁, hholds⟩ := writeHeader_copied r (b := b) (by omega)
  obtain ⟨b₂, hcopy, h₂⟩ := memcpy_block (b := b₁) (i := 48) payload (by omega)
  have hlength₂ := h₂.length
  obtain ⟨b₃, hstore, h₃⟩ := store32_copied (b := b₂) (i := reqSize.toNat + 4) (by omega) 9
  refine ⟨⟨b₃, reqSize.toUInt32, reqSize.toNat, kHeaderSize.toUInt32⟩, ?_, ?_⟩
  · change (writeHeader r b).bind _ = _
    rw [hwrite, Option.bind_some]
    change (b₁.memcpy 48 payload 0 size.toNat).bind _ = _
    rw [hsize, hcopy, Option.bind_some]
    change (b₂.store32 (reqSize.toNat + 4) 9).bind _ = _
    rw [hstore, Option.bind_some]
    rfl
  · have hsent : reqSize.toUInt32.toNat = reqSize.toNat := by
      rw [UInt64.toNat_toUInt32]
      omega
    have hbody : b₃.Holds 48 payload := h₃.keeps h₂.holds (.inl (by omega))
    exact
      { length := by rw [h₃.length, hlength₂, hlength₁]; exact hb
        header := h₃.keeps (h₂.keeps hholds (.inl (by omega))) (.inl (by omega))
        body := hbody
        size := hr
        after := by
          change 48 + payload.length < reqSize.toNat
          omega
        aligned := by
          change 64 ∣ reqSize.toNat
          rw [hreq]
          exact Nat.dvd_mul_left 64 _
        sent := hsent
        response := by
          refine ⟨rfl, ?_⟩
          change reqSize.toNat + 64 ≤ 819200
          omega
        sentinel := load32_of_holds h₃.holds }

/-- What fits is bounded. -/
theorem Fits.length_le {r : Request} {payload : List UInt8} {c : SendCmd}
    (h : Fits r payload c) : payload.length ≤ maxPayload := by
  obtain ⟨k, hk⟩ := h.aligned
  have hafter := h.after
  have hend := h.response.2
  rw [h.response.1] at hend
  change 48 + payload.length < c.rsp at hafter
  change c.rsp + 64 ≤ 819200 at hend
  unfold maxPayload
  omega

/-- What `send` returns of a call that fits: the result of the transport, or else the result
that the app wrote, or the sentinel where it wrote none. -/
theorem Fits.result_eq {r : Request} {payload : List UInt8} {c : SendCmd}
    (h : Fits r payload c) (ret : UInt32) :
    c.result ret [] = some (FaceTee.send ⟨ret, none⟩) ∧
      ∀ score result rest, (rest : List UInt8).length ≤ 56 →
        c.result ret (wordBytes score ++ wordBytes result ++ rest) =
          some (FaceTee.send ⟨ret, some result⟩) := by
  unfold SendCmd.result FaceTee.send
  by_cases hret : ret ≠ 0
  · simp only [if_pos hret]
    exact ⟨trivial, fun _ _ _ _ => trivial⟩
  · simp only [if_neg hret]
    refine ⟨h.sentinel, fun score result rest hrest => ?_⟩
    have hend := h.response.2
    rw [h.response.1] at hend
    change c.rsp + 64 ≤ 819200 at hend
    have hlength : c.buffer.cells.length = 819200 := h.length
    obtain ⟨b, hcopy, hcopied⟩ := memcpy_block (b := c.buffer) (i := c.rsp)
      (wordBytes score ++ wordBytes result ++ rest) (by simp; omega)
    have hresult : b.Holds (c.rsp + 4) (wordBytes result) :=
      hcopied.holds.of_append.1.of_append.2
    simp only [hcopy, Option.bind_eq_bind, Option.bind_some]
    exact load32_of_holds hresult

theorem sizeOf_toNat {feature : List UInt8} (h : feature.length ≤ maxPayload) :
    (sizeOf feature).toNat = feature.length ∧
      (sizeOf feature).toUInt32.toNat = feature.length := by
  unfold maxPayload at h
  have hsize : (sizeOf feature).toNat = feature.length := by
    rw [sizeOf, UInt64.toNat_ofNat']
    omega
  refine ⟨hsize, ?_⟩
  rw [UInt64.toNat_toUInt32, hsize]
  omega

/-- The two commands that send a feature. -/
theorem feature_sent_iff (feature : List UInt8) :
    (Sends .saveFeature feature (saveFeature feature) ∧
        Sends .compareFeature feature (compare feature)) ↔ feature.length ≤ maxPayload := by
  constructor
  · rintro ⟨hsave, -⟩
    obtain ⟨r, c, -, -, hfits⟩ := hsave ⟨{ cells := List.replicate _ 0 }, List.length_replicate⟩
    exact hfits.length_le
  · intro hle
    obtain ⟨hsize, hsize32⟩ := sizeOf_toNat hle
    have hreq := requestSize_toNat (hsize.trans_le hle)
    rw [hsize] at hreq
    refine ⟨fun b => ?_, fun b => ?_⟩
    · obtain ⟨c, hc, hfits⟩ := request_fits
        (r := { cmd := .saveFeature, size := (sizeOf feature).toUInt32 }) b hsize hsize32 hle hreq
      exact ⟨_, c, rfl, hc, hfits⟩
    · obtain ⟨c, hc, hfits⟩ := request_fits
        (r := { cmd := .compareFeature
                size := (sizeOf feature).toUInt32
                thresholds := kThresholds.flatMap wordBytes }) b hsize hsize32 hle hreq
      exact ⟨_, c, rfl, hc, hfits⟩

theorem frame_sent (index : Int32) {nv21 : List UInt8} (h : nv21.length = kFrameSize.toNat) :
    Sends .saveFrame nv21 (saveFrame index nv21) := by
  intro b
  have hlength : nv21.length = 460800 := h
  have hreq : (requestSize kFrameSize).toNat = (nv21.length + 112) / 64 * 64 := by
    rw [hlength]
    decide
  obtain ⟨c, hc, hfits⟩ := request_fits
    (r := { cmd := .saveFrame, size := kFrameSize.toUInt32, index := index.toUInt32 }) b h.symm
    h.symm (by rw [hlength]; decide) hreq
  exact ⟨_, c, rfl, hc, hfits⟩

/-- The two commands without a payload. -/
theorem header_sent (r : Request) (h : r.size = 0) :
    Sends r.cmd [] (request r [] 0 kHeaderSize) := by
  intro b
  have hr : r.size.toNat = ([] : List UInt8).length := by
    rw [h]
    rfl
  have hsize : (0 : UInt64).toNat = ([] : List UInt8).length := rfl
  obtain ⟨c, hc, hfits⟩ := request_fits b hsize hr (Nat.zero_le _)
    (show kHeaderSize.toNat = _ from rfl)
  exact ⟨r, c, rfl, hc, hfits⟩

/-! ### Lengths -/

theorem toInt_of_int {x : Int} {y : Int32} (h : int x = some y) : y.toInt = x := by
  unfold int at h
  split at h
  case isFalse => cases h
  case isTrue hrange =>
    have hmin := Int32.toInt_minValue
    have hmax := Int32.toInt_maxValue
    rw [← Option.some.inj h]
    exact Int32.toInt_ofInt_of_le (by omega) (by omega)

theorem int_eq {x : Int} (h : 0 ≤ x) (hmax : x ≤ 2147483647) :
    ∃ y, int x = some y ∧ y.toInt = x := by
  have hint : int x = some (Int32.ofInt x) := by
    have hmin := Int32.toInt_minValue
    have hmax := Int32.toInt_maxValue
    exact if_pos ⟨by omega, by omega⟩
  exact ⟨_, hint, toInt_of_int hint⟩

/-- A size that is computed without overflow is the size of the text with its NUL. -/
theorem toInt_serializedLength {length size : Int32} (h : 0 ≤ length)
    (hsize : serializedLength length = some size) :
    size.toInt = serializedSize length.toInt.toNat := by
  have hnonneg : 0 ≤ length.toInt := Int32.le_iff_toInt_le.mp h
  obtain ⟨rounded, hrounded, hsize⟩ := Option.bind_eq_some_iff.mp hsize
  obtain ⟨groups, hgroups, hsize⟩ := Option.bind_eq_some_iff.mp hsize
  obtain ⟨digits, hdigits, hsize⟩ := Option.bind_eq_some_iff.mp hsize
  rw [toInt_of_int hsize, toInt_of_int hdigits, toInt_of_int hgroups, toInt_of_int hrounded,
    Int.tdiv_eq_ediv_of_nonneg (by omega), serializedSize]
  omega

/-- Up to the length that fits there is none. -/
theorem serializedLength_isSome {length : Int32} (h : 0 ≤ length) (hfits : length ≤ 614313) :
    ∃ size, serializedLength length = some size := by
  have hnonneg : 0 ≤ length.toInt := Int32.le_iff_toInt_le.mp h
  have hle : length.toInt ≤ 614313 := Int32.le_iff_toInt_le.mp hfits
  obtain ⟨rounded, hrounded, hr⟩ := int_eq (x := length.toInt + 2) (by omega) (by omega)
  obtain ⟨groups, hgroups, hg⟩ := int_eq (x := rounded.toInt.tdiv 3)
    (by rw [Int.tdiv_eq_ediv_of_nonneg (by omega)]; omega)
    (by rw [Int.tdiv_eq_ediv_of_nonneg (by omega)]; omega)
  rw [Int.tdiv_eq_ediv_of_nonneg (by omega)] at hg
  obtain ⟨digits, hdigits, hd⟩ := int_eq (x := groups.toInt * 4) (by omega) (by omega)
  obtain ⟨size, hsize, -⟩ := int_eq (x := digits.toInt + 1) (by omega) (by omega)
  refine ⟨size, ?_⟩
  simp only [serializedLength, hrounded, hgroups, hdigits, hsize, Option.bind_eq_bind,
    Option.bind_some]

/-- The text fills the buffer of its size. -/
theorem serialize_eq {length size : Int32} {bytes : List UInt8} (h : 0 ≤ length)
    (hbytes : bytes.length = length.toInt.toNat) (hsize : serializedLength length = some size) :
    serialize length bytes = some (base64 bytes ++ [0]) := by
  have hlength : (base64 bytes ++ [0]).length = size.toInt.toNat := by
    rw [toInt_serializedLength h hsize, List.length_append, length_base64, hbytes]
    rfl
  obtain ⟨out, hcopy, hcopied⟩ := memcpy_block
    (b := ({ cells := List.replicate size.toInt.toNat 0 } : Buffer UInt8)) (i := 0)
    (base64 bytes ++ [0])
    (by rw [hlength, List.length_replicate, Nat.zero_add])
  have hcells : out.cells = base64 bytes ++ [0] :=
    hcopied.holds.cells_eq (by rw [hcopied.length, List.length_replicate, hlength])
  unfold serialize
  simp only [hsize, hcopy, Option.bind_eq_bind, Option.bind_some, hcells]
  rfl

/-- The buffer that is filled is the one `extractFeature` returns. -/
theorem extractFeature_serialize {length size : Int32} {bytes : List UInt8} {a : CvFrame} {r : Int}
    (h : 0 ≤ length) (hbytes : bytes.length = length.toInt.toNat)
    (hsize : serializedLength length = some size)
    (ha : a.getFeature = ⟨0, some ⟨length.toInt.toNat, ⟨r, some (base64 bytes ++ [0])⟩⟩⟩) :
    serialize length bytes = some (extractFeature a) := by
  have hlength : serializedSize length.toInt.toNat = (base64 bytes ++ [0]).length := by
    rw [List.length_append, length_base64, hbytes]
    rfl
  have hextract : extractFeature a = (List.range (serializedSize length.toInt.toNat)).map
      fun i => (base64 bytes ++ [0]).getD i 0 := by
    rw [extractFeature, ha, if_neg (not_not.mpr rfl)]
    rfl
  rw [serialize_eq h hbytes hsize, hextract, hlength]
  refine congrArg some (List.ext_getElem (by simp) fun i hi _ => ?_)
  rw [List.getElem_map, List.getElem_range, List.getD_eq_getElem?_getD, List.getElem?_eq_getElem hi,
    Option.getD_some]

/-- For a feature of a length the SDK reports, its text fits the buffer of the size computed,
and both commands that send it fit the shared buffer. -/
def FeatureFits (length : Int32) : Prop :=
  ∀ bytes : List UInt8, bytes.length = length.toInt.toNat →
    ∃ feature, serialize length bytes = some feature ∧ feature = base64 bytes ++ [0] ∧
      Sends .saveFeature feature (saveFeature feature) ∧
      Sends .compareFeature feature (compare feature)

/-- The commands that do not depend on the feature. -/
def OthersFit : Prop :=
  requestSize 0 = kHeaderSize ∧ Sends .removeFeature [] removeFeature ∧
    (∀ index nv21, nv21.length = kFrameSize.toNat →
      Sends .saveFrame nv21 (saveFrame index nv21)) ∧
    ∀ index, Sends .removeFrame [] (removeFrame index)

theorem othersFit : OthersFit :=
  ⟨by decide, header_sent { cmd := .removeFeature } rfl, fun index _ h => frame_sent index h,
    fun index => header_sent { cmd := .removeFrame, index := index.toUInt32 } rfl⟩

/-- Every command fits the shared buffer, if and only if the feature has at most 614313
bytes. -/
theorem commands_fit_iff (length : Int32) (h : 0 ≤ length) :
    (FeatureFits length ∧ OthersFit) ↔ length ≤ 614313 := by
  have hnonneg : 0 ≤ length.toInt := Int32.le_iff_toInt_le.mp h
  have htext (bytes : List UInt8) (hbytes : bytes.length = length.toInt.toNat) :
      (base64 bytes ++ [0]).length ≤ maxPayload ↔ length ≤ 614313 := by
    rw [List.length_append, length_base64, hbytes, Int32.le_iff_toInt_le]
    change (length.toInt.toNat + 2) / 3 * 4 + 1 ≤ 819087 ↔ length.toInt ≤ 614313
    omega
  constructor
  · rintro ⟨hfeature, -⟩
    have hbytes : (List.replicate length.toInt.toNat (0 : UInt8)).length = length.toInt.toNat :=
      List.length_replicate
    obtain ⟨feature, -, rfl, hsends⟩ := hfeature _ hbytes
    exact (htext _ hbytes).mp ((feature_sent_iff _).mp hsends)
  · intro hfits
    obtain ⟨size, hsize⟩ := serializedLength_isSome h hfits
    refine ⟨fun bytes hbytes => ⟨_, serialize_eq h hbytes hsize, rfl, ?_⟩, othersFit⟩
    exact (feature_sent_iff _).mpr ((htext bytes hbytes).mpr hfits)

/-- One byte more, and the response ends behind the shared buffer; a feature whose text would
be larger than an int has no size at all. -/
theorem feature_too_long :
    serializedLength 614314 = some 819089 ∧ (requestSize 819089).toNat + 64 = 819264 ∧
      ¬FeatureFits 614314 ∧ serializedLength 1610612734 = none := by
  refine ⟨by decide, by decide, fun h => ?_, by decide⟩
  obtain ⟨_, -, rfl, hsends⟩ := h (List.replicate 614314 0) List.length_replicate
  have hle := (feature_sent_iff _).mp hsends
  rw [List.length_append, length_base64, List.length_replicate] at hle
  exact absurd hle (by decide)

/-- A feature of a thousand bytes fits. -/
theorem feature_fits : FeatureFits 1000 ∧ OthersFit :=
  (commands_fit_iff 1000 (by decide)).mpr (by decide)

end SharedBuffer

end OneplusHal.Face

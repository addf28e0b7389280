import Mathlib.Data.Rat.Floor

/-!
# DSS layer descriptors: `fillDssLayer` and what it reads

The anonymous namespace the patch adds to `HWC2OnFbAdapter.cpp`: the layout of a Hisilicon
buffer handle, the pixel formats, and `fillDssLayer`, which turns a buffer and a layer's
geometry into the descriptor the framebuffer driver takes.

* `int32_t` and `int` are `Int`, `uint32_t` is `Nat`; every `static_cast` between them is
  `toUInt32` or `toInt32` and wraps. `float` is `Rat`: conversions and differences of
  coordinates are exact, and there is no NaN.
* `buffer_handle_t` is `Option NativeHandle`, `nullptr` being `none`. The words behind a handle
  are its `data`; gralloc does not rewrite them while the handle is in use.
* Fields of the descriptors that `memset` clears and nothing writes afterwards are left out.
-/

namespace Mozart.Composer

/-- `static_cast<uint32_t>` of a signed value. -/
def toUInt32 (i : Int) : Nat := (i % 2 ^ 32).toNat

/-- `static_cast<int32_t>` of an unsigned value. -/
def toInt32 (n : Nat) : Int := Int.bmod n (2 ^ 32)

/-! ## Handles and pixel formats -/

/-- `native_handle_t`; `data` is the memory from the flexible array member on. -/
structure NativeHandle where
  numFds : Int
  numInts : Int
  data : Nat → Int

abbrev BufferHandle := Option NativeHandle

def kHisiHandleMagic : Nat := 0x03141592

def kHisiMaxLayers : Nat := 9

def HISI_FB_PIXEL_FORMAT_RGB_565 : Nat := 0
def HISI_FB_PIXEL_FORMAT_RGBX_8888 : Nat := 5
def HISI_FB_PIXEL_FORMAT_RGBA_8888 : Nat := 6
def HISI_FB_PIXEL_FORMAT_BGRA_8888 : Nat := 13
def HISI_FB_PIXEL_FORMAT_YUV_422_I : Nat := 14
def HISI_FB_PIXEL_FORMAT_YCbCr_422_SP : Nat := 15
def HISI_FB_PIXEL_FORMAT_YCbCr_420_SP : Nat := 17
def HISI_FB_PIXEL_FORMAT_YCrCb_420_SP : Nat := 18
def HISI_FB_PIXEL_FORMAT_YCbCr_420_P : Nat := 21
def HISI_FB_PIXEL_FORMAT_YCrCb_420_P : Nat := 22

-- The platform's own numbers, from `system/graphics.h`.
def HAL_PIXEL_FORMAT_RGBA_8888 : Int := 1
def HAL_PIXEL_FORMAT_RGBX_8888 : Int := 2
def HAL_PIXEL_FORMAT_RGB_565 : Int := 4
def HAL_PIXEL_FORMAT_BGRA_8888 : Int := 5
def HAL_PIXEL_FORMAT_YCbCr_422_SP : Int := 0x10
def HAL_PIXEL_FORMAT_YCrCb_420_SP : Int := 0x11
def HAL_PIXEL_FORMAT_YV12 : Int := 0x32315659

/-- `handleWord`: `data` starts 12 bytes into a `native_handle_t`, after three `int`s. -/
def handleWord (handle : NativeHandle) (byteOffset : Nat) : Int :=
  handle.data ((byteOffset - 12) / 4)

def isHisiHandle : BufferHandle → Bool
  | none => false
  | some handle =>
    handle.numFds ≥ 1 && handle.numInts ≥ 48 &&
      toUInt32 (handleWord handle 16) == kHisiHandleMagic

def isYuvFormat (format : Nat) : Bool :=
  format ≥ HISI_FB_PIXEL_FORMAT_YUV_422_I && format ≤ HISI_FB_PIXEL_FORMAT_YCrCb_420_P

/-- `convertHisiFormat`: the driver's format and its bytes per pixel. -/
def convertHisiFormat (halFormat : Int) : Option (Nat × Nat) :=
  if halFormat = HAL_PIXEL_FORMAT_RGBA_8888 then some (HISI_FB_PIXEL_FORMAT_RGBA_8888, 4)
  else if halFormat = HAL_PIXEL_FORMAT_RGBX_8888 then some (HISI_FB_PIXEL_FORMAT_RGBX_8888, 4)
  else if halFormat = HAL_PIXEL_FORMAT_RGB_565 then some (HISI_FB_PIXEL_FORMAT_RGB_565, 2)
  else if halFormat = HAL_PIXEL_FORMAT_BGRA_8888 then some (HISI_FB_PIXEL_FORMAT_BGRA_8888, 4)
  else if halFormat = HAL_PIXEL_FORMAT_YCbCr_422_SP then
    some (HISI_FB_PIXEL_FORMAT_YCbCr_422_SP, 2)
  else if halFormat = HAL_PIXEL_FORMAT_YCrCb_420_SP then
    some (HISI_FB_PIXEL_FORMAT_YCrCb_420_SP, 1)
  else if halFormat = 0x100 then some (HISI_FB_PIXEL_FORMAT_YCbCr_420_SP, 1)
  else if halFormat = 0x101 then some (HISI_FB_PIXEL_FORMAT_YCbCr_420_P, 1)
  else if halFormat = HAL_PIXEL_FORMAT_YV12 then some (HISI_FB_PIXEL_FORMAT_YCrCb_420_P, 1)
  else none

def getHisiFormat : BufferHandle → Option Nat
  | none => none
  | some handle =>
    if isHisiHandle (some handle) then (convertHisiFormat (handleWord handle 20)).map Prod.fst
    else none

/-! ## Transforms, blending, capabilities -/

def HWC_TRANSFORM_FLIP_H : Int := 1
def HWC_TRANSFORM_FLIP_V : Int := 2
def HWC_TRANSFORM_ROT_180 : Int := 3
def HWC_TRANSFORM_ROT_90 : Int := 4
def HWC_TRANSFORM_ROT_270 : Int := 7

def HISI_FB_TRANSFORM_NOP : Nat := 0
def HISI_FB_TRANSFORM_FLIP_H : Nat := 0x01
def HISI_FB_TRANSFORM_FLIP_V : Nat := 0x02
def HISI_FB_TRANSFORM_ROT_90 : Nat := 0x04
def HISI_FB_TRANSFORM_ROT_180 : Nat := 0x03
def HISI_FB_TRANSFORM_ROT_270 : Nat := 0x07

def mapHwcTransform (transform : Int) : Nat :=
  if transform = HWC_TRANSFORM_FLIP_H then HISI_FB_TRANSFORM_FLIP_H
  else if transform = HWC_TRANSFORM_FLIP_V then HISI_FB_TRANSFORM_FLIP_V
  else if transform = HWC_TRANSFORM_ROT_90 then HISI_FB_TRANSFORM_ROT_90
  else if transform = HWC_TRANSFORM_ROT_180 then HISI_FB_TRANSFORM_ROT_180
  else if transform = HWC_TRANSFORM_ROT_270 then HISI_FB_TRANSFORM_ROT_270
  else HISI_FB_TRANSFORM_NOP

def HWC2_BLEND_MODE_NONE : Int := 1
def HWC2_BLEND_MODE_PREMULTIPLIED : Int := 2
def HWC2_BLEND_MODE_COVERAGE : Int := 3

def HISI_FB_BLENDING_NONE : Int := 0
def HISI_FB_BLENDING_PREMULT : Int := 1
def HISI_FB_BLENDING_COVERAGE : Int := 2

def mapHwcBlendMode (blendMode : Int) : Int :=
  if blendMode = HWC2_BLEND_MODE_PREMULTIPLIED then HISI_FB_BLENDING_PREMULT
  else if blendMode = HWC2_BLEND_MODE_COVERAGE then HISI_FB_BLENDING_COVERAGE
  else HISI_FB_BLENDING_NONE

def DPE0_CHN0 : Int := 0
def DPE0_CHN3 : Int := 3

def DSS_SCENE_PDP_ONLINE : Nat := 0x1

def CAP_FB_POST : Nat := 1 <<< 1
def CAP_DMA : Nat := 1 <<< 5
def CAP_CSC : Nat := 1 <<< 6
def CAP_SCL : Nat := 1 <<< 7

/-! ## Rectangles -/

/-- `hwc_rect_t`. -/
structure HwcRect where
  left : Int
  top : Int
  right : Int
  bottom : Int
deriving DecidableEq

/-- `hwc_frect_t`. -/
structure HwcFRect where
  left : Rat
  top : Rat
  right : Rat
  bottom : Rat
deriving DecidableEq

/-- `HWC2OnFbAdapter::Info`, as far as the patch reads it. -/
structure Info where
  width : Nat
  height : Nat
deriving DecidableEq

def rectIsValid (rect : HwcRect) : Bool := rect.right > rect.left && rect.bottom > rect.top

def rectWidth (rect : HwcRect) : Nat := toUInt32 (rect.right - rect.left)

def rectHeight (rect : HwcRect) : Nat := toUInt32 (rect.bottom - rect.top)

def cropIsValid (crop : HwcFRect) : Bool := crop.right > crop.left && crop.bottom > crop.top

def frameFitsDisplay (rect : HwcRect) (info : Info) : Bool :=
  rect.left ≥ 0 && rect.top ≥ 0 && rect.right ≤ toInt32 info.width &&
    rect.bottom ≤ toInt32 info.height

def frameArea (rect : HwcRect) : Nat :=
  if !rectIsValid rect then 0 else rectWidth rect * rectHeight rect

/-- `std::round`: to the nearest integer, halves away from zero. -/
def stdRound (value : Rat) : Int :=
  if 0 ≤ value then (value + 1 / 2).floor else -(-value + 1 / 2).floor

def roundNonNegative (value : Rat) : Nat := toUInt32 (max 0 (stdRound value))

/-! ## The descriptor -/

/-- `dss_rect_t`. -/
structure DssRect where
  x : Nat := 0
  y : Nat := 0
  w : Nat := 0
  h : Nat := 0
deriving DecidableEq

/-- `dss_img_t`. -/
structure DssImg where
  format : Nat := 0
  width : Nat := 0
  height : Nat := 0
  bpp : Nat := 0
  stride : Nat := 0
  uStride : Nat := 0
  vStride : Nat := 0
  buf_size : Nat := 0
  phy_addr : Nat := 0
  vir_addr : Nat := 0
  uOffset : Nat := 0
  vOffset : Nat := 0
  ptba : Nat := 0
  ptva : Nat := 0
  is_tile : Nat := 0
  mmu_enable : Nat := 0
  csc_mode : Nat := 0
  secure_mode : Nat := 0
  shared_fd : Int := 0
deriving DecidableEq

/-- `dss_layer_t`. -/
structure DssLayer where
  src : DssImg := {}
  src_rect : DssRect := {}
  dst_rect : DssRect := {}
  transform : Nat := 0
  blending : Int := 0
  glb_alpha : Nat := 0
  layer_idx : Int := 0
  chn_idx : Int := 0
  need_cap : Nat := 0
  flags : Nat := 0
  acquire_fence : Int := 0
deriving DecidableEq

/-- The image half of `fillDssLayer`: what it copies out of the handle. -/
def fillDssImg (handle : NativeHandle) (hisiFormat bpp : Nat) : DssImg where
  format := hisiFormat
  width := toUInt32 (handleWord handle 88)
  height := toUInt32 (handleWord handle 92)
  bpp := bpp
  stride := toUInt32 (handleWord handle 32)
  uStride := toUInt32 (handleWord handle 100)
  vStride := toUInt32 (handleWord handle 104)
  buf_size := toUInt32 (handleWord handle 120)
  phy_addr := toUInt32 (handleWord handle 96)
  vir_addr := toUInt32 (handleWord handle 116)
  uOffset := toUInt32 (handleWord handle 108)
  vOffset := toUInt32 (handleWord handle 112)
  ptba := toUInt32 (handleWord handle 124)
  ptva := toUInt32 (handleWord handle 128)
  is_tile := if handleWord handle 132 = 1 then 1 else 0
  -- a buffer without a physical address goes through the MMU
  mmu_enable := if toUInt32 (handleWord handle 96) = 0 then 1 else 0
  csc_mode := 0
  secure_mode := 0
  shared_fd := handle.data 0

def sourceRect (sourceCrop : HwcFRect) : DssRect where
  x := roundNonNegative sourceCrop.left
  y := roundNonNegative sourceCrop.top
  w := roundNonNegative (sourceCrop.right - sourceCrop.left)
  h := roundNonNegative (sourceCrop.bottom - sourceCrop.top)

def displayRect (displayFrame : HwcRect) : DssRect where
  x := toUInt32 displayFrame.left
  y := toUInt32 displayFrame.top
  w := rectWidth displayFrame
  h := rectHeight displayFrame

/-- The `need_cap` word: what the caller asks for, colour conversion for a YUV buffer and the
scaler when the two rectangles differ in size. -/
def needCapWord (needCap hisiFormat : Nat) (src_rect dst_rect : DssRect) : Nat :=
  let need_cap := if isYuvFormat hisiFormat then needCap ||| CAP_CSC else needCap
  if src_rect.w ≠ dst_rect.w ∨ src_rect.h ≠ dst_rect.h then need_cap ||| CAP_SCL else need_cap

/-- `fillDssLayer`; `none` is its `return false`, which leaves `*outLayer` alone. -/
def fillDssLayer (handle : BufferHandle) (sourceCrop : HwcFRect) (displayFrame : HwcRect)
    (blendMode : Int) (planeAlpha : Rat) (transform layerIndex channel : Int)
    (needCap : Nat) : Option DssLayer :=
  match handle with
  | none => none
  | some h =>
    if !isHisiHandle (some h) || !cropIsValid sourceCrop || !rectIsValid displayFrame then none
    else
      let width := toUInt32 (handleWord h 88)
      let height := toUInt32 (handleWord h 92)
      if width = 0 ∨ height = 0 ∨ sourceCrop.left < 0 ∨ sourceCrop.top < 0 ∨
          sourceCrop.right > width ∨ sourceCrop.bottom > height then none
      else
        match convertHisiFormat (handleWord h 20) with
        | none => none
        | some (hisiFormat, bpp) =>
          some {
            src := fillDssImg h hisiFormat bpp
            src_rect := sourceRect sourceCrop
            dst_rect := displayRect displayFrame
            transform := mapHwcTransform transform
            blending := mapHwcBlendMode blendMode
            glb_alpha := toUInt32 (max 0 (min 1 planeAlpha) * 255).floor
            layer_idx := layerIndex
            chn_idx := channel
            need_cap :=
              needCapWord needCap hisiFormat (sourceRect sourceCrop) (displayRect displayFrame)
            flags := DSS_SCENE_PDP_ONLINE
            acquire_fence := -1 }

/-- `dss_wb_layer_t`: the two fences `postOverlay` sets. -/
structure DssWbLayer where
  acquire_fence : Int := 0
  release_fence : Int := 0
deriving DecidableEq

/-- `dss_overlay_t`, cleared. -/
structure DssOverlay where
  layer_infos : Vector DssLayer kHisiMaxLayers := Vector.replicate kHisiMaxLayers {}
  layer_nums : Nat := 0
  release_fence : Int := 0
  ovl_flags : Nat := 0
  wb_layer_info : DssWbLayer := {}
  dirty_rect : DssRect := {}
deriving DecidableEq

/-! ## What `fillDssLayer` returns

The fields of a descriptor in terms of what it was made from; the image is known by its format. -/

structure Filled (handle : BufferHandle) (sourceCrop : HwcFRect) (displayFrame : HwcRect)
    (blendMode transform layerIndex channel : Int) (needCap : Nat) (layer : DssLayer) : Prop where
  frame_valid : rectIsValid displayFrame = true
  format : getHisiFormat handle = some layer.src.format
  src_rect : layer.src_rect = sourceRect sourceCrop
  dst_rect : layer.dst_rect = displayRect displayFrame
  transform : layer.transform = mapHwcTransform transform
  blending : layer.blending = mapHwcBlendMode blendMode
  layer_idx : layer.layer_idx = layerIndex
  chn_idx : layer.chn_idx = channel
  need_cap : layer.need_cap = needCapWord needCap layer.src.format layer.src_rect layer.dst_rect

theorem filled_of_fillDssLayer {handle : BufferHandle} {sourceCrop : HwcFRect}
    {displayFrame : HwcRect} {blendMode : Int} {planeAlpha : Rat}
    {transform layerIndex channel : Int} {needCap : Nat} {layer : DssLayer}
    (h : fillDssLayer handle sourceCrop displayFrame blendMode planeAlpha transform layerIndex
      channel needCap = some layer) :
    Filled handle sourceCrop displayFrame blendMode transform layerIndex channel needCap layer := by
  cases handle with
  | none => cases h
  | some handle =>
    rw [fillDssLayer] at h
    split_ifs at h with hvalid
    simp only [Bool.or_eq_true, Bool.not_eq_true', not_or, Bool.not_eq_false] at hvalid
    change (if _ then none else _) = some layer at h
    rw [ite_eq_iff] at h
    rcases h with ⟨-, h⟩ | ⟨-, h⟩
    · cases h
    cases hformat : convertHisiFormat (handleWord handle 20) with
    | none =>
      rw [hformat] at h
      cases h
    | some format =>
      rw [hformat] at h
      obtain rfl := Option.some.inj h
      refine ⟨hvalid.2, ?_, rfl, rfl, rfl, rfl, rfl, rfl, rfl⟩
      rw [getHisiFormat, if_pos hvalid.1.1, hformat]
      rfl

/-- The scaler is asked for exactly when the two rectangles differ in size. -/
theorem needCapWord_scl {needCap : Nat} (hcap : needCap &&& CAP_SCL = 0) (hisiFormat : Nat)
    (src_rect dst_rect : DssRect) :
    needCapWord needCap hisiFormat src_rect dst_rect &&& CAP_SCL ≠ 0 ↔
      src_rect.w ≠ dst_rect.w ∨ src_rect.h ≠ dst_rect.h := by
  have hyuv :
      (if isYuvFormat hisiFormat then needCap ||| CAP_CSC else needCap) &&& CAP_SCL = 0 := by
    split
    · rw [Nat.and_or_distrib_right, hcap]
      decide
    · exact hcap
  show (if _ then _ ||| CAP_SCL else _) &&& CAP_SCL ≠ 0 ↔ _
  by_cases hsize : src_rect.w ≠ dst_rect.w ∨ src_rect.h ≠ dst_rect.h
  · rw [if_pos hsize, Nat.and_or_distrib_right, hyuv]
    exact iff_of_true (by decide) hsize
  · rw [if_neg hsize, hyuv]
    exact iff_of_false (fun h => h rfl) hsize

theorem bmod_natCast_le (n m : Nat) : Int.bmod n m ≤ n := by
  have hmod : (n : Int) % m ≤ n := by exact_mod_cast Nat.mod_le n m
  rw [Int.bmod_def]
  split
  · exact hmod
  · exact le_trans (Int.sub_le_self _ (Int.natCast_nonneg m)) hmod

theorem toInt32_le (n : Nat) : toInt32 n ≤ n := bmod_natCast_le n _

theorem toInt32_lt (n : Nat) : toInt32 n < 2 ^ 31 :=
  Int.bmod_lt (x := (n : Int)) (m := 2 ^ 32) (by decide)

theorem toUInt32_of_range {i : Int} (h0 : 0 ≤ i) (h1 : i < 2 ^ 32) : (toUInt32 i : Int) = i := by
  rw [toUInt32, Int.emod_eq_of_lt h0 h1, Int.toNat_of_nonneg h0]

theorem bmod_emod_of_lt {n m : Nat} (h : n < m) : Int.bmod n m % m = n := by
  have hn : (n : Int) % m = n := by exact_mod_cast Nat.mod_eq_of_lt h
  rw [Int.bmod_def]
  split
  · rw [Int.emod_emod_of_dvd _ (dvd_refl _), hn]
  · rw [Int.sub_emod_right, Int.emod_emod_of_dvd _ (dvd_refl _), hn]

theorem toUInt32_toInt32 {n : Nat} (h : n < 2 ^ 32) : toUInt32 (toInt32 n) = n :=
  congrArg Int.toNat (bmod_emod_of_lt h)

/-- The descriptor's rectangle is the frame, side by side. -/
def DssRect.Is (rect : DssRect) (frame : HwcRect) : Prop :=
  (rect.x : Int) = frame.left ∧ (rect.y : Int) = frame.top ∧
    (rect.x + rect.w : Int) = frame.right ∧ (rect.y + rect.h : Int) = frame.bottom

/-- A frame that lies on the display loses nothing on its way into the descriptor. -/
theorem displayRect_is {frame : HwcRect} {info : Info} (hvalid : rectIsValid frame = true)
    (hfits : frameFitsDisplay frame info = true) : (displayRect frame).Is frame := by
  simp only [rectIsValid, frameFitsDisplay, Bool.and_eq_true, decide_eq_true_eq] at hvalid hfits
  obtain ⟨hw, hh⟩ := hvalid
  obtain ⟨⟨⟨hl, ht⟩, hr⟩, hb⟩ := hfits
  have hwidth := toInt32_lt info.width
  have hheight := toInt32_lt info.height
  have hx : (toUInt32 frame.left : Int) = frame.left := toUInt32_of_range hl (by omega)
  have hy : (toUInt32 frame.top : Int) = frame.top := toUInt32_of_range ht (by omega)
  have hw' : (toUInt32 (frame.right - frame.left) : Int) = frame.right - frame.left :=
    toUInt32_of_range (by omega) (by omega)
  have hh' : (toUInt32 (frame.bottom - frame.top) : Int) = frame.bottom - frame.top :=
    toUInt32_of_range (by omega) (by omega)
  refine ⟨hx, hy, ?_, ?_⟩
  · show (toUInt32 frame.left + toUInt32 (frame.right - frame.left) : Int) = frame.right
    omega
  · show (toUInt32 frame.top + toUInt32 (frame.bottom - frame.top) : Int) = frame.bottom
    omega

end Mozart.Composer

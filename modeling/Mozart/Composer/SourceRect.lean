import Mozart.Composer.Dss
import Mozart.Lib.Rounding

/-!
# The source rectangle of a descriptor

`fillDssLayer` checks the crop against the buffer before it rounds, and rounds the origin and the
size on their own. The rectangle it programs is therefore not always inside the buffer: the size
of a crop below half a pixel rounds to nothing, and an origin and a size that both end in exactly
a half round up together, one column past a crop that reached the edge.

* **`srcRect_inside_iff`**: the crops for which the rectangle is non-empty and inside.
-/

namespace Mozart.Composer

open Rounding

/-- A non-empty rectangle inside `width` by `height`. -/
def DssRect.Inside (rect : DssRect) (width height : Nat) : Prop :=
  1 ≤ rect.w ∧ 1 ≤ rect.h ∧ rect.x + rect.w ≤ width ∧ rect.y + rect.h ≤ height

/-- A side of a crop that can be rounded without leaving the buffer. -/
structure SideRoundsInside (lo hi : Rat) (size : Nat) : Prop where
  half_pixel : 1 / 2 ≤ hi - lo
  not_both_up : ¬ (hi = size ∧ Int.fract lo = 1 / 2)

/-- What `fillDssLayer` checked about a crop. -/
structure CropInBuffer (crop : HwcFRect) (width height : Nat) : Prop where
  left_nonneg : 0 ≤ crop.left
  top_nonneg : 0 ≤ crop.top
  left_lt_right : crop.left < crop.right
  top_lt_bottom : crop.top < crop.bottom
  right_le : crop.right ≤ width
  bottom_le : crop.bottom ≤ height

theorem toUInt32_lt (i : Int) : toUInt32 i < 2 ^ 32 := by
  rw [toUInt32]
  omega

theorem cropInBuffer_of_fillDssLayer {handle : NativeHandle} {crop : HwcFRect}
    {displayFrame : HwcRect} {blendMode : Int} {planeAlpha : Rat}
    {transform layerIndex channel : Int} {needCap : Nat} {layer : DssLayer}
    (h : fillDssLayer (some handle) crop displayFrame blendMode planeAlpha transform layerIndex
      channel needCap = some layer) :
    CropInBuffer crop (toUInt32 (handleWord handle 88)) (toUInt32 (handleWord handle 92)) := by
  rw [fillDssLayer] at h
  split_ifs at h with hvalid
  simp only [Bool.or_eq_true, Bool.not_eq_true', not_or, Bool.not_eq_false, cropIsValid,
    Bool.and_eq_true, decide_eq_true_eq] at hvalid
  -- the second test, of the crop against the size of the buffer
  change (if _ then none else _) = some layer at h
  rw [ite_eq_iff] at h
  rcases h with ⟨-, h⟩ | ⟨hbounds, -⟩
  · cases h
  simp only [not_or, not_lt] at hbounds
  obtain ⟨-, -, hleft, htop, hright, hbottom⟩ := hbounds
  exact ⟨hleft, htop, hvalid.1.2.1, hvalid.1.2.2, hright, hbottom⟩

/-- For a length that fits a `uint32_t`, `roundNonNegative` is rounding and nothing else. -/
theorem roundNonNegative_eq {value : Rat} {size : Nat} (h0 : 0 ≤ value) (hle : value ≤ size)
    (hsize : size < 2 ^ 32) : (roundNonNegative value : Int) = round value := by
  have hround : stdRound value = round value := by
    rw [stdRound, if_pos h0, round_eq]
    rfl
  have hnonneg : 0 ≤ round value := by
    rw [← round_zero (α := Rat)]
    exact round_le_round h0
  have hlt : round value < 2 ^ 32 := by
    have hmono := round_le_round hle
    rw [round_natCast] at hmono
    omega
  rw [roundNonNegative, hround, max_eq_right hnonneg, toUInt32_of_range hnonneg hlt]

/-- One axis: the origin and the size of the side from `lo` to `hi`, each rounded on its own. -/
theorem side_inside_iff {lo hi : Rat} {size : Nat} (h0 : 0 ≤ lo) (hlt : lo < hi) (hle : hi ≤ size)
    (hsize : size < 2 ^ 32) :
    (1 ≤ roundNonNegative (hi - lo) ∧
      roundNonNegative lo + roundNonNegative (hi - lo) ≤ size) ↔ SideRoundsInside lo hi size := by
  have hlo := roundNonNegative_eq h0 (hlt.le.trans hle) hsize
  have hlength := roundNonNegative_eq (sub_nonneg.mpr hlt.le) ((sub_le_self hi h0).trans hle) hsize
  have hpos : 1 ≤ roundNonNegative (hi - lo) ↔ 1 / 2 ≤ hi - lo := by
    rw [← one_le_round_iff, ← hlength]
    omega
  have hend : roundNonNegative lo + roundNonNegative (hi - lo) ≤ size ↔
      ¬ (hi = size ∧ Int.fract lo = 1 / 2) := by
    have hsum : lo + (hi - lo) ≤ ((size : Int) : Rat) := by
      rw [add_sub_cancel, Int.cast_natCast]
      exact hle
    have hiff := round_add_round_le_iff hsum
    rw [add_sub_cancel, Int.cast_natCast, ← hlo, ← hlength] at hiff
    rw [← hiff]
    omega
  rw [hpos, hend]
  exact ⟨fun h => ⟨h.1, h.2⟩, fun h => ⟨h.half_pixel, h.not_both_up⟩⟩

/-- **The source rectangle is inside the buffer exactly when** both sides of the crop measure at
least half a pixel and neither reaches the far edge from a half-way origin. -/
theorem srcRect_inside_iff {handle : NativeHandle} {crop : HwcFRect} {displayFrame : HwcRect}
    {blendMode : Int} {planeAlpha : Rat} {transform layerIndex channel : Int} {needCap : Nat}
    {layer : DssLayer}
    (hfills : fillDssLayer (some handle) crop displayFrame blendMode planeAlpha transform
      layerIndex channel needCap = some layer) :
    layer.src_rect.Inside (toUInt32 (handleWord handle 88)) (toUInt32 (handleWord handle 92)) ↔
      SideRoundsInside crop.left crop.right (toUInt32 (handleWord handle 88)) ∧
        SideRoundsInside crop.top crop.bottom (toUInt32 (handleWord handle 92)) := by
  have hcrop := cropInBuffer_of_fillDssLayer hfills
  have hwidth := side_inside_iff hcrop.left_nonneg hcrop.left_lt_right hcrop.right_le
    (toUInt32_lt _)
  have hheight := side_inside_iff hcrop.top_nonneg hcrop.top_lt_bottom hcrop.bottom_le
    (toUInt32_lt _)
  rw [(filled_of_fillDssLayer hfills).src_rect, ← hwidth, ← hheight]
  exact ⟨fun ⟨hw, hh, hx, hy⟩ => ⟨⟨hw, hx⟩, hh, hy⟩, fun ⟨⟨hw, hx⟩, hh, hy⟩ => ⟨hw, hh, hx, hy⟩⟩

/-- A 64 by 32 video buffer. -/
def sampleFrameBuffer : NativeHandle where
  numFds := 1
  numInts := 48
  data i := if i = 1 then 0x03141592 else if i = 2 then HAL_PIXEL_FORMAT_YV12 else
    if i = 19 then 64 else if i = 20 then 32 else 0

/-- A crop in whole pixels keeps to the edge. -/
theorem srcRect_inside_wholePixels :
    ∃ layer, fillDssLayer (some sampleFrameBuffer) ⟨1, 0, 64, 32⟩ ⟨0, 0, 32, 32⟩ 1 1 0 0 0 CAP_DMA =
      some layer ∧ layer.src_rect.Inside 64 32 := by
  have hsome : (fillDssLayer (some sampleFrameBuffer) ⟨1, 0, 64, 32⟩ ⟨0, 0, 32, 32⟩ 1 1 0 0 0
      CAP_DMA).isSome = true := by decide +kernel
  obtain ⟨layer, hlayer⟩ := Option.isSome_iff_exists.mp hsome
  refine ⟨layer, hlayer, (srcRect_inside_iff hlayer).mpr ⟨⟨by norm_num, ?_⟩, by norm_num, ?_⟩⟩
  · rintro ⟨-, hfract⟩
    norm_num at hfract
  · rintro ⟨-, hfract⟩
    norm_num at hfract

/-- A crop that starts at half a pixel and reaches the right edge is programmed one column past
it. -/
theorem srcRect_past_the_edge :
    ¬ ∀ (handle : NativeHandle) (crop : HwcFRect) (displayFrame : HwcRect) (blendMode : Int)
      (planeAlpha : Rat) (transform layerIndex channel : Int) (needCap : Nat) (layer : DssLayer),
      fillDssLayer (some handle) crop displayFrame blendMode planeAlpha transform layerIndex
        channel needCap = some layer →
      layer.src_rect.Inside (toUInt32 (handleWord handle 88))
        (toUInt32 (handleWord handle 92)) := by
  intro h
  have hsome : (fillDssLayer (some sampleFrameBuffer) ⟨1 / 2, 0, 64, 32⟩ ⟨0, 0, 32, 32⟩ 1 1 0 0 0
      CAP_DMA).isSome = true := by decide +kernel
  obtain ⟨layer, hlayer⟩ := Option.isSome_iff_exists.mp hsome
  obtain ⟨-, -, hedge, -⟩ := h _ _ _ _ _ _ _ _ _ layer hlayer
  have hrect := (filled_of_fillDssLayer hlayer).src_rect
  have hx : layer.src_rect.x = 1 := hrect ▸ (by decide +kernel)
  have hw : layer.src_rect.w = 64 := hrect ▸ (by decide +kernel)
  rw [hx, hw] at hedge
  exact absurd hedge (by decide +kernel)

end Mozart.Composer

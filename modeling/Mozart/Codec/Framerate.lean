import Mathlib.Data.Rat.Floor
import Mozart.Lib.Rounding

/-!
# The frame rate of an IMG MSVDX decoder

The old decoders want thousandths of a frame per second, 60 at most, where OMX gives a rate in Q16.
`ACodec` converts on two paths: `setVideoFormatOnPort` from the rate itself
(`makeVideoPortFramerate`), and `setVideoPortFormatType` from a Q16 value, unless that is so small
that it may be in thousandths already.

* `float` is `Rat`: products and quotients are exact. `OMX_U32` is `Nat`.
* Of a port format only `xFramerate` is read or written.
* **`framerates_agree_iff`**: the rates for which the two paths agree.
* **`no_conversion_agrees`**: a conversion that knows nothing but the integer cannot do better.
-/

namespace Mozart.Codec

open Rounding

/-- A cast of a `float` to an integer type, towards zero. -/
def truncate (value : Rat) : Int := if 0 ≤ value then value.floor else value.ceil

/-- `(OMX_U32)value`. Outside the range of the type C++ promises nothing; here it wraps. -/
def toOmxU32 (value : Rat) : Nat := (truncate value % 2 ^ 32).toNat

/-- `OMX_VIDEO_PARAM_PORTFORMATTYPE`. -/
structure VideoPortFormat where
  xFramerate : Nat
deriving DecidableEq

/-- `kPortIndexInput` and `kPortIndexOutput`. -/
inductive PortIndex where
  | input
  | output
deriving DecidableEq

def isLegacyImgMsvdxDecoder (componentName : String) : Bool :=
  "OMX.IMG.MSVDX.Decoder.".toList.isPrefixOf componentName.toList

/-- The last lines of `makeVideoPortFramerate` and `convertQ16FramerateToLegacyMillifps`: capped at
60 frames per second, and rounded to thousandths. -/
def legacyMillifps (frameRate : Rat) : Nat :=
  let frameRate := if frameRate > 60 then 60 else frameRate
  toOmxU32 (frameRate * 1000 + 1 / 2)

def makeVideoPortFramerate (componentName : String) (frameRate : Rat) : Nat :=
  if !isLegacyImgMsvdxDecoder componentName then toOmxU32 (frameRate * 65536)
  else if frameRate ≤ 0 then 0
  else legacyMillifps frameRate

def convertQ16FramerateToLegacyMillifps (xFramerate : Nat) : Nat :=
  let frameRate : Rat := xFramerate / 65536
  legacyMillifps frameRate

/-- `setVideoPortFormatType`, once it has found the format: its status, which is that of the node's
`setParameter`, and the format it passes to that. -/
def setVideoPortFormatType (setParameter : VideoPortFormat → Int) (componentName : String)
    (portIndex : PortIndex) (format : VideoPortFormat) : Int × VideoPortFormat :=
  let format :=
    if isLegacyImgMsvdxDecoder componentName ∧ portIndex = .input ∧ format.xFramerate > 60000 then
      { format with xFramerate := convertQ16FramerateToLegacyMillifps format.xFramerate }
    else format
  (setParameter format, format)

/-! ## The conversions -/

theorem toOmxU32_eq {value : Rat} (h0 : 0 ≤ value) (hlt : value < 2 ^ 32) :
    (toOmxU32 value : Int) = ⌊value⌋ := by
  have htruncate : truncate value = ⌊value⌋ := if_pos h0
  have hnonneg : 0 ≤ ⌊value⌋ := Int.floor_nonneg.mpr h0
  have hbound : ⌊value⌋ < 2 ^ 32 := by
    rw [Int.floor_lt]
    exact_mod_cast hlt
  unfold toOmxU32
  rw [htruncate]
  omega

theorem toOmxU32_natCast {n : Nat} (h : n < 2 ^ 32) : toOmxU32 n = n := by
  have hfloor := @toOmxU32_eq n (Nat.cast_nonneg n) (by exact_mod_cast h)
  rw [Int.floor_natCast] at hfloor
  omega

theorem legacyMillifps_eq {rate : Rat} (h0 : 0 ≤ rate) :
    (legacyMillifps rate : Int) = ⌊min rate 60 * 1000 + 1 / 2⌋ := by
  have hcap : (if rate > 60 then 60 else rate) = min rate 60 := by
    rw [min_def]
    split_ifs <;> linarith
  have hmin : 0 ≤ min rate 60 := le_min h0 (by norm_num)
  have hle : min rate 60 ≤ 60 := min_le_right rate 60
  unfold legacyMillifps
  rw [hcap]
  apply toOmxU32_eq
  · linarith
  · linarith

/-- Never more than the cap. -/
theorem legacyMillifps_le {rate : Rat} (h0 : 0 ≤ rate) : legacyMillifps rate ≤ 60000 := by
  have hfloor : ⌊min rate 60 * 1000 + 1 / 2⌋ < 60001 := by
    rw [Int.floor_lt]
    have hle : min rate 60 ≤ 60 := min_le_right rate 60
    push_cast
    linarith
  rw [← legacyMillifps_eq h0] at hfloor
  omega

/-- Rates less than a thousandth apart come out one apart at most. -/
theorem legacyMillifps_close {rate rate' : Rat} (h0 : 0 ≤ rate) (hle : rate ≤ rate')
    (hclose : rate' ≤ rate + 1 / 1000) :
    legacyMillifps rate ≤ legacyMillifps rate' ∧
      legacyMillifps rate' ≤ legacyMillifps rate + 1 := by
  have hmin : min rate 60 ≤ min rate' 60 := min_le_min_right 60 hle
  have hmin' : min rate' 60 ≤ min rate 60 + 1 / 1000 := by
    rcases le_total rate 60 with h | h
    · rw [min_eq_left h]
      exact (min_le_left rate' 60).trans hclose
    · rw [min_eq_right h, min_eq_right (h.trans hle)]
      norm_num
  have hlower : ⌊min rate 60 * 1000 + 1 / 2⌋ ≤ ⌊min rate' 60 * 1000 + 1 / 2⌋ :=
    Int.floor_le_floor (by linarith)
  have hupper : ⌊min rate' 60 * 1000 + 1 / 2⌋ ≤ ⌊min rate 60 * 1000 + 1 / 2⌋ + 1 :=
    floor_le_floor_add_one (by linarith)
  rw [← legacyMillifps_eq h0, ← legacyMillifps_eq (h0.trans hle)] at hlower hupper
  omega

theorem makeVideoPortFramerate_legacy {componentName : String}
    (hname : isLegacyImgMsvdxDecoder componentName = true) {frameRate : Rat} (h0 : 0 ≤ frameRate) :
    makeVideoPortFramerate componentName frameRate = legacyMillifps frameRate := by
  unfold makeVideoPortFramerate
  rw [hname, if_neg (by decide)]
  split_ifs with hle
  · have hzero : frameRate = 0 := le_antisymm hle h0
    rw [hzero]
    decide +kernel
  · rfl

/-! ## The two paths -/

/-- The values of the two paths for one rate differ by one at most. -/
def Close (passed made : Nat) : Prop := passed ≤ made + 1 ∧ made ≤ passed + 1

/-- The Q16 value of a rate, cut down by less than one step. -/
theorem q16_bounds {rate : Rat} (h0 : 0 ≤ rate) (hle : rate ≤ 65535) :
    ((toOmxU32 (rate * 65536) : Rat) / 65536 ≤ rate ∧
      rate < (toOmxU32 (rate * 65536) : Rat) / 65536 + 1 / 65536) := by
  have hq : (toOmxU32 (rate * 65536) : Int) = ⌊rate * 65536⌋ :=
    toOmxU32_eq (by linarith) (by norm_num; linarith)
  have hcast : (toOmxU32 (rate * 65536) : Rat) = (⌊rate * (65536 : Nat)⌋ : Rat) := by
    exact_mod_cast congrArg (Int.cast : Int → Rat) hq
  rw [hcast]
  exact ⟨floor_div_le rate (by decide), lt_floor_div_add rate (by decide)⟩

/-- A Q16 value that is recognised as one is converted closely. -/
theorem close_of_converted {rate : Rat} {q : Nat} (hle : (q : Rat) / 65536 ≤ rate)
    (hlt : rate < (q : Rat) / 65536 + 1 / 65536) :
    Close (convertQ16FramerateToLegacyMillifps q) (legacyMillifps rate) :=
  have hq : (0 : Rat) ≤ (q : Rat) / 65536 := div_nonneg (Nat.cast_nonneg q) (by norm_num)
  have hclose := legacyMillifps_close hq hle (by linarith)
  ⟨hclose.1.trans (Nat.le_add_right _ _), hclose.2⟩

/-- A Q16 value of at most 60000 stands for less than a frame per second; as it is, it is close to
the thousandths only up to 1. -/
theorem close_of_unconverted {rate : Rat} {q : Nat} (hq : q ≤ 60000)
    (hle : (q : Rat) / 65536 ≤ rate) (hlt : rate < (q : Rat) / 65536 + 1 / 65536) :
    Close q (legacyMillifps rate) ↔ q ≤ 1 := by
  have hq0 : (0 : Rat) ≤ q := Nat.cast_nonneg q
  have hqle : (q : Rat) ≤ 60000 := by exact_mod_cast hq
  have h0 : 0 ≤ rate := by linarith
  have hmade := legacyMillifps_eq h0
  rw [min_eq_left (by linarith)] at hmade
  constructor
  · rintro ⟨hclose, -⟩
    by_contra hgt
    have hq2 : (2 : Rat) ≤ q := by exact_mod_cast Nat.lt_of_not_le hgt
    have hlow : ⌊rate * 1000 + 1 / 2⌋ < (q : Int) - 1 := by
      rw [Int.floor_lt]
      push_cast
      linarith
    omega
  · intro h1
    have hq1 : (q : Rat) ≤ 1 := by exact_mod_cast h1
    have hzero : ⌊rate * 1000 + 1 / 2⌋ = 0 := by
      rw [Int.floor_eq_zero_iff]
      exact ⟨by linarith, by linarith⟩
    rw [hzero] at hmade
    unfold Close
    omega

theorem setVideoPortFormatType_eq {setParameter : VideoPortFormat → Int} {componentName : String}
    (hname : isLegacyImgMsvdxDecoder componentName = true) (q : Nat) :
    (setVideoPortFormatType setParameter componentName .input ⟨q⟩).2 =
      ⟨if q > 60000 then convertQ16FramerateToLegacyMillifps q else q⟩ := by
  unfold setVideoPortFormatType
  simp only [hname, true_and]
  split_ifs <;> rfl

theorem q16_lt_iff {rate : Rat} {q : Nat} (hle : (q : Rat) / 65536 ≤ rate)
    (hlt : rate < (q : Rat) / 65536 + 1 / 65536) (n : Nat) : q < n ↔ rate < n / 65536 := by
  constructor
  · intro h
    have hsucc : (q : Rat) + 1 ≤ n := by exact_mod_cast h
    linarith
  · intro h
    have hcast : (q : Rat) < n := by linarith
    exact_mod_cast hcast

/-- **The two paths agree up to one exactly** below 2 of 65536 frames per second and from 60001 of
them on: there the Q16 value is either as good as zero, or too large for thousandths. In between it
is passed on as it is. On both paths the value is 60000 at most, and what has been passed on once
is passed on unchanged. -/
theorem framerates_agree_iff {componentName : String}
    (hname : isLegacyImgMsvdxDecoder componentName = true)
    (setParameter : VideoPortFormat → Int) {rate : Rat} (h0 : 0 ≤ rate) (hle : rate ≤ 65535) :
    let q := toOmxU32 (rate * 65536)
    let passed := (setVideoPortFormatType setParameter componentName .input ⟨q⟩).2
    let made := makeVideoPortFramerate componentName rate
    (Close passed.xFramerate made ↔ rate < 2 / 65536 ∨ 60001 / 65536 ≤ rate) ∧
    (rate < 60001 / 65536 → passed.xFramerate = q) ∧
    passed.xFramerate ≤ 60000 ∧ made ≤ 60000 ∧
    (setVideoPortFormatType setParameter componentName .input passed).2 = passed := by
  intro q passed made
  obtain ⟨hdown, hup⟩ := q16_bounds h0 hle
  have hmade : made = legacyMillifps rate := makeVideoPortFramerate_legacy hname h0
  have hpassed : passed = ⟨if q > 60000 then convertQ16FramerateToLegacyMillifps q else q⟩ :=
    setVideoPortFormatType_eq hname q
  -- the two bounds of the rate, as bounds of the truncated Q16 value
  have hsmall := q16_lt_iff hdown hup 2
  have hplain := q16_lt_iff hdown hup 60001
  push_cast at hsmall hplain
  have hcap : passed.xFramerate ≤ 60000 := by
    rw [hpassed]
    dsimp only
    split_ifs with hq
    · exact legacyMillifps_le (div_nonneg (Nat.cast_nonneg q) (by norm_num))
    · omega
  refine ⟨?_, fun hrate => ?_, hcap, hmade ▸ legacyMillifps_le h0, ?_⟩
  · rw [hmade, hpassed]
    -- the guard of the conversion
    by_cases hq : q > 60000
    · have hrate : ¬ rate < 60001 / 65536 := fun hrate => by
        have hlt := hplain.mpr hrate
        omega
      rw [if_pos hq]
      exact iff_of_true (close_of_converted hdown hup) (Or.inr (not_lt.mp hrate))
    · have hrate : rate < 60001 / 65536 := hplain.mp (by omega)
      rw [if_neg hq, close_of_unconverted (by omega) hdown hup, or_iff_left (not_le.mpr hrate),
        ← hsmall]
      exact Nat.lt_succ_iff.symm
  · have hlt := hplain.mpr hrate
    rw [hpassed]
    exact if_neg (by omega)
  · obtain ⟨xFramerate⟩ := passed
    rw [setVideoPortFormatType_eq hname]
    exact congrArg VideoPortFormat.mk (if_neg (Nat.not_lt.mpr hcap))

/-- At the film rate of 24 frames per second the paths agree. -/
theorem framerates_agree_iff_film :
    Close (setVideoPortFormatType (fun _ => 0) "OMX.IMG.MSVDX.Decoder.AVC" .input
        ⟨toOmxU32 (24 * 65536)⟩).2.xFramerate
      (makeVideoPortFramerate "OMX.IMG.MSVDX.Decoder.AVC" 24) :=
  (framerates_agree_iff (by decide +kernel) (fun _ => 0) (by norm_num) (by norm_num)).1.mpr
    (Or.inr (by norm_num))

/-- Half a frame per second is 32768 in Q16, and is taken for 32.768 frames per second. -/
theorem not_close_half :
    ¬ ∀ (componentName : String) (setParameter : VideoPortFormat → Int) (rate : Rat),
      isLegacyImgMsvdxDecoder componentName = true → 0 ≤ rate → rate ≤ 65535 →
      Close (setVideoPortFormatType setParameter componentName .input
        ⟨toOmxU32 (rate * 65536)⟩).2.xFramerate (makeVideoPortFramerate componentName rate) := by
  intro h
  have hclose := h "OMX.IMG.MSVDX.Decoder.AVC" (fun _ => 0) (1 / 2) (by decide +kernel)
    (by norm_num) (by norm_num)
  have hpassed : (setVideoPortFormatType (fun _ => 0) "OMX.IMG.MSVDX.Decoder.AVC" .input
      ⟨toOmxU32 (1 / 2 * 65536)⟩).2.xFramerate = 32768 := by decide +kernel
  have hmade : makeVideoPortFramerate "OMX.IMG.MSVDX.Decoder.AVC" (1 / 2) = 500 := by
    decide +kernel
  rw [hpassed, hmade] at hclose
  exact absurd hclose.1 (by decide)

/-! ## No other conversion does better -/

/-- **No conversion of the integer alone** is close for all rates and leaves alone what it has
converted: 500 is both the result for half a frame per second and the Q16 value of a rate that
should come out as 8. -/
theorem no_conversion_agrees {componentName : String}
    (hname : isLegacyImgMsvdxDecoder componentName = true) :
    ¬ ∃ convert : Nat → Nat, ∀ rate : Rat, 0 ≤ rate → rate ≤ 65535 →
      Close (convert (toOmxU32 (rate * 65536))) (makeVideoPortFramerate componentName rate) ∧
      convert (convert (toOmxU32 (rate * 65536))) = convert (toOmxU32 (rate * 65536)) := by
  rintro ⟨convert, h⟩
  have hhalf := h (1 / 2) (by norm_num) (by norm_num)
  rw [makeVideoPortFramerate_legacy hname (by norm_num),
    show toOmxU32 (1 / 2 * 65536) = 32768 by decide +kernel,
    show legacyMillifps (1 / 2) = 500 by decide +kernel] at hhalf
  obtain ⟨⟨hle, hge⟩, hagain⟩ := hhalf
  generalize convert 32768 = result at hle hge hagain
  -- the result is the Q16 value of another rate, to which it is not close
  have hresult : (0 : Rat) ≤ result := Nat.cast_nonneg result
  have hcast : (result : Rat) ≤ 501 := by exact_mod_cast hle
  have hrate : (0 : Rat) ≤ (result : Rat) / 65536 := by linarith
  have hother := (h ((result : Rat) / 65536) hrate (by linarith)).1
  rw [div_mul_cancel₀ _ (by norm_num), toOmxU32_natCast (by omega), hagain,
    makeVideoPortFramerate_legacy hname hrate] at hother
  have hsmall := (close_of_unconverted (by omega) (le_refl _) (by linarith)).mp hother
  omega

end Mozart.Codec

import Mozart.Lib.RunningMax
import Mozart.Composer.Client

/-!
# The overlay `validateLayers` selects

The selection loop is a running maximum over the display-frame areas of the layers that pass its
tests, with the id 0 and the area 0 as default.

* **`frameArea_eq`**: on frames that lie on the display the area is exact.
* **`validateLayers_picks_best`**: the choice is a largest candidate, and everything a validation
  reports follows from it.
* **`validation_stabilises`**: what was accepted is chosen again, in every order.
-/

namespace Mozart.Composer

open MapLoop RunningMax

/-! ## Areas -/

/-- The area of a frame, without any machine arithmetic. -/
def HwcRect.area (rect : HwcRect) : Int := (rect.right - rect.left) * (rect.bottom - rect.top)

/-- A frame on the display has sides that are positive `int`s. -/
theorem sides_of_fits {frame : HwcRect} {info : Info} (hvalid : rectIsValid frame = true)
    (hfits : frameFitsDisplay frame info = true) :
    (0 < frame.right - frame.left ∧ frame.right - frame.left < 2 ^ 31) ∧
      0 < frame.bottom - frame.top ∧ frame.bottom - frame.top < 2 ^ 31 := by
  simp only [rectIsValid, frameFitsDisplay, Bool.and_eq_true, decide_eq_true_eq] at hvalid hfits
  have hwidth := toInt32_lt info.width
  have hheight := toInt32_lt info.height
  omega

/-- **The area is exact**, and positive; the product of the sides stays far from `2^64`. -/
theorem frameArea_eq {frame : HwcRect} {info : Info} (hvalid : rectIsValid frame = true)
    (hfits : frameFitsDisplay frame info = true) :
    (frameArea frame : Int) = frame.area ∧ 0 < frame.area ∧ frameArea frame < 2 ^ 64 := by
  obtain ⟨⟨hw, hw'⟩, hh, hh'⟩ := sides_of_fits hvalid hfits
  have hwidth : (rectWidth frame : Int) = frame.right - frame.left :=
    toUInt32_of_range (le_of_lt hw) (by omega)
  have hheight : (rectHeight frame : Int) = frame.bottom - frame.top :=
    toUInt32_of_range (le_of_lt hh) (by omega)
  have harea : frameArea frame = rectWidth frame * rectHeight frame := if_neg (by simp [hvalid])
  have hexact : (frameArea frame : Int) = frame.area := by
    rw [harea, Nat.cast_mul, hwidth, hheight, HwcRect.area]
  refine ⟨hexact, mul_pos hw hh, ?_⟩
  have hlt : rectWidth frame * rectHeight frame < 2 ^ 31 * 2 ^ 31 :=
    Nat.mul_lt_mul'' (by omega) (by omega)
  rw [harea]
  omega

namespace Adapter

/-! ## The candidates -/

/-- A layer the selection loop does not skip: every test of the loop, on its own. -/
structure Candidate (info : Info) (state : LayerState) : Prop extends Eligible info state where
  crop_valid : cropIsValid state.sourceCrop = true
  fills : (fillDssLayer state.buffer state.sourceCrop state.displayFrame HWC2_BLEND_MODE_NONE 1
    state.transform 0 DPE0_CHN0 CAP_DMA).isSome = true

theorem eligible_iff {info : Info} {state : LayerState} :
    eligible info state = true ↔ Candidate info state := by
  constructor
  · intro h
    have htests := eligible_spec h
    simp only [eligible, Bool.not_eq_true', Bool.or_eq_false_iff, Bool.not_eq_false'] at h
    exact ⟨htests, h.1.1.2, by simpa using h.2⟩
  · rintro ⟨⟨hdevice, htransform, halpha, hvalid, hfits, hyuv⟩, hcrop, hfills⟩
    have hsome : (fillDssLayer state.buffer state.sourceCrop state.displayFrame
        HWC2_BLEND_MODE_NONE 1 0 0 DPE0_CHN0 CAP_DMA).isNone = false := by
      rw [htransform] at hfills
      simpa using hfills
    simp [eligible, hdevice, htransform, not_lt.mpr halpha, hvalid, hfits, hyuv, hcrop, hsome]

/-- The layer is a candidate for the overlay. -/
def IsCandidate (a : Adapter) (layer : Nat) (state : LayerState) : Prop :=
  a.mLayerStates.lookup layer = some state ∧ Candidate a.mFbInfo state

theorem IsCandidate.area_exact {a : Adapter} {layer : Nat} {state : LayerState}
    (h : a.IsCandidate layer state) :
    (frameArea state.displayFrame : Int) = state.displayFrame.area ∧
      0 < state.displayFrame.area :=
  have hexact := frameArea_eq h.2.frame_valid h.2.frame_fits
  ⟨hexact.1, hexact.2.1⟩

/-! ## The selection loop is a running maximum -/

/-- The score of a layer: the area of a candidate. -/
def score (info : Info) (states : LayerMap) (layer : Nat) : Option Nat :=
  (states.lookup layer).bind fun state =>
    if eligible info state then some (frameArea state.displayFrame) else none

theorem selectStep_eq (info : Info) (states : LayerMap) :
    selectStep info states = better (score info states) := by
  funext best layer
  unfold selectStep better score
  cases states.lookup layer with
  | none => rfl
  | some state =>
    by_cases helig : eligible info state = true
    · simp [helig]
    · simp [Bool.eq_false_iff.mpr helig]

variable {a : Adapter} {overlayProperty : Bool} {order : List Nat} {l : Nat} {state : LayerState}

theorem score_eq_some {area : Nat} : score a.mFbInfo a.mLayerStates l = some area ↔
    ∃ state, a.IsCandidate l state ∧ frameArea state.displayFrame = area := by
  unfold score IsCandidate
  rw [Option.bind_eq_some_iff]
  refine exists_congr fun state => ?_
  rw [and_assoc, Option.ite_none_right_eq_some, eligible_iff, Option.some.injEq]

theorem bestOf_selectOverlay (a : Adapter) (order : List Nat) :
    BestOf (score a.mFbInfo a.mLayerStates) (0, 0) order
      (order.foldl (selectStep a.mFbInfo a.mLayerStates) (0, 0)) := by
  rw [selectStep_eq]
  exact runningMax_spec _ _ order

/-- The property is set and no post has failed since it was last off. -/
def OverlayOn (a : Adapter) (overlayProperty : Bool) : Prop :=
  overlayProperty = true ∧ a.mOverlayDisabledByError = false

theorem overlayChoice_of_on (h : a.OverlayOn overlayProperty) (order : List Nat) :
    a.overlayChoice overlayProperty order = selectOverlay a.mFbInfo a.mLayerStates order := by
  obtain ⟨rfl, hlatch⟩ := h
  exact if_pos (by simp [latchAfterProperty, hlatch])

theorem overlayChoice_of_off (h : ¬a.OverlayOn overlayProperty) (order : List Nat) :
    a.overlayChoice overlayProperty order = 0 := by
  refine if_neg fun hon => h ?_
  cases overlayProperty with
  | false => cases hon
  | true => exact ⟨rfl, by simpa [latchAfterProperty] using hon⟩

theorem IsCandidate.mem_order (horder : IsOrder order a.mLayerStates) (h : a.IsCandidate l state) :
    l ∈ order := horder.mem_iff.mpr (Finmap.mem_of_lookup_eq_some h.1)

/-- **Without a candidate there is no overlay.** -/
theorem overlayChoice_of_none (h : ∀ l state, ¬a.IsCandidate l state) (order : List Nat) :
    a.overlayChoice overlayProperty order = 0 := by
  by_contra hne
  by_cases hon : a.OverlayOn overlayProperty
  · rw [overlayChoice_of_on hon] at hne
    cases bestOf_selectOverlay a order with
    | default heq => exact hne (congrArg Prod.fst heq)
    | candidate _ hscore =>
      obtain ⟨state, hcandidate, -⟩ := score_eq_some.mp hscore
      exact h _ state hcandidate
  · exact hne (overlayChoice_of_off hon order)

/-- **The overlay is a largest candidate**, if there is any. -/
theorem overlayChoice_largest (hids : 0 ∉ a.mLayerStates) (horder : IsOrder order a.mLayerStates)
    (hon : a.OverlayOn overlayProperty) (hsome : ∃ l state, a.IsCandidate l state) :
    a.overlayChoice overlayProperty order ≠ 0 ∧
      ∃ state, a.IsCandidate (a.overlayChoice overlayProperty order) state ∧
        ∀ l' state', a.IsCandidate l' state' →
          state'.displayFrame.area ≤ state.displayFrame.area := by
  rw [overlayChoice_of_on hon, selectOverlay]
  obtain ⟨l, first, hfirst⟩ := hsome
  cases bestOf_selectOverlay a order with
  | default heq hle =>
    -- the default area is 0, that of a candidate is positive
    have harea := hle l (hfirst.mem_order horder) _ (score_eq_some.mpr ⟨first, hfirst, rfl⟩)
    have hexact := hfirst.area_exact
    omega
  | candidate hmem hscore hlt hle =>
    obtain ⟨state, hcandidate, harea⟩ := score_eq_some.mp hscore
    refine ⟨fun hzero => hids ?_, state, hcandidate, fun l' state' h' => ?_⟩
    · exact hzero ▸ Finmap.mem_of_lookup_eq_some hcandidate.1
    · have hle' := hle l' (h'.mem_order horder) _ (score_eq_some.mpr ⟨state', h', rfl⟩)
      rw [← hcandidate.area_exact.1, ← h'.area_exact.1, harea]
      exact_mod_cast hle'

/-- **A strictly largest candidate is chosen in every order.** -/
theorem overlayChoice_of_strict (horder : IsOrder order a.mLayerStates)
    (hon : a.OverlayOn overlayProperty) (h : a.IsCandidate l state)
    (hstrict : ∀ l' state', a.IsCandidate l' state' → l' ≠ l →
      state'.displayFrame.area < state.displayFrame.area) :
    a.overlayChoice overlayProperty order = l := by
  rw [overlayChoice_of_on hon, selectOverlay]
  have hexact := h.area_exact
  have hbest := (bestOf_selectOverlay a order).eq_of_strict (h.mem_order horder)
    (score_eq_some.mpr ⟨state, h, rfl⟩) (by dsimp only; omega) (fun l' _ hne area harea => ?_)
  · rw [hbest]
  · obtain ⟨state', h', rfl⟩ := score_eq_some.mp harea
    have hlt := hstrict l' state' h' hne
    rw [← hexact.1, ← h'.area_exact.1] at hlt
    exact_mod_cast hlt

/-! ## What a validation reports -/

theorem validatedType_of_mem (overlayProperty : Bool) (horder : IsOrder order a.mLayerStates)
    (hl : l ∈ a.mLayerStates) :
    (a.validateLayers overlayProperty order).validatedType l =
      some (validatedTypeOf (a.overlayChoice overlayProperty order) l) := by
  obtain ⟨state, hstate⟩ := Finmap.mem_iff.mp hl
  rw [validatedType_validateLayers a overlayProperty horder, hstate, Option.map_some]

theorem lookup_changedTypes (overlayProperty : Bool) (horder : IsOrder order a.mLayerStates)
    {type : Int} : (a.validateLayers overlayProperty order).mChangedTypes.lookup l = some type ↔
      ∃ state, a.mLayerStates.lookup l = some state ∧
        (a.validateLayers overlayProperty order).validatedType l = some type ∧
        state.requestedType ≠ type := by
  rw [changedTypes_validateLayers a overlayProperty horder,
    validatedType_validateLayers a overlayProperty horder, types]
  cases a.mLayerStates.lookup l with
  | none => simp
  | some state =>
    simp only [Option.map_some, Option.bind_some, Option.ite_none_right_eq_some,
      Option.some.injEq, exists_eq_left', ne_eq]
    constructor
    · rintro ⟨hne, rfl⟩
      exact ⟨rfl, hne⟩
    · rintro ⟨rfl, hne⟩
      exact ⟨hne, rfl⟩

/-- A video layer and one that is left to the client. -/
def twoLayers : Adapter :=
  [Call.addLayer, .addLayer, .setLayerCompositionType 1 HWC2_COMPOSITION_DEVICE,
    .setLayerBuffer 1 (some sampleVideo), .setLayerDisplayFrame 1 ⟨0, 0, 32, 32⟩,
    .setLayerSourceCrop 1 ⟨0, 0, 64, 32⟩].foldl
      (fun a call => (call.perform a).1) { mFbInfo := ⟨64, 32⟩ }

/-- One round of the composer: validate, then accept. -/
def validateAccept (overlayProperty : Bool) (a : Adapter) (orders : List Nat × List Nat) :
    Adapter :=
  (a.validateLayers overlayProperty orders.1).acceptChanges orders.2

/-- The requests are what a validation that chose `overlay` hands out, and the overlay, if there is
one, is still a candidate. -/
structure Settled (overlayProperty : Bool) (overlay : Nat) (a : Adapter) : Prop where
  requested : ∀ l state, a.mLayerStates.lookup l = some state →
    state.requestedType = validatedTypeOf overlay l
  candidate : overlay ≠ 0 → a.OverlayOn overlayProperty ∧ ∃ state, a.IsCandidate overlay state

/-- A settled adapter has only one candidate left. -/
theorem Settled.eq_of_candidate {overlay : Nat} (h : Settled overlayProperty overlay a)
    (hcandidate : a.IsCandidate l state) : overlay ≠ 0 ∧ l = overlay := by
  have hdevice := hcandidate.2.device
  rw [h.requested l state hcandidate.1] at hdevice
  exact validatedTypeOf_eq_device.mp hdevice

/-- **The overlay chosen before is chosen again**, in every order. -/
theorem Settled.overlayChoice_eq {overlay : Nat} (h : Settled overlayProperty overlay a)
    (horder : IsOrder order a.mLayerStates) : a.overlayChoice overlayProperty order = overlay := by
  by_cases hoverlay : overlay = 0
  · rw [hoverlay]
    exact overlayChoice_of_none (fun l state hcandidate =>
      (h.eq_of_candidate hcandidate).1 hoverlay) order
  · obtain ⟨hon, state, hcandidate⟩ := h.candidate hoverlay
    exact overlayChoice_of_strict horder hon hcandidate fun l' state' h' hne =>
      absurd (h.eq_of_candidate h').2 hne

theorem Settled.changedTypes_eq {overlay : Nat} (h : Settled overlayProperty overlay a)
    (horder : IsOrder order a.mLayerStates) :
    (a.validateLayers overlayProperty order).outNums.1 = 0 := by
  rw [outNums, Finset.card_eq_zero, Finset.eq_empty_iff_forall_notMem]
  intro l hl
  obtain ⟨type, htype⟩ := Finmap.mem_iff.mp (Finmap.mem_keys.mp hl)
  obtain ⟨state, hstate, hvalidated, hne⟩ := (lookup_changedTypes overlayProperty horder).mp htype
  rw [validatedType_of_mem overlayProperty horder (Finmap.mem_of_lookup_eq_some hstate),
    h.overlayChoice_eq horder, ← h.requested l state hstate] at hvalidated
  exact hne (Option.some.inj hvalidated)

theorem overlayChoice_candidate (h : a.overlayChoice overlayProperty order ≠ 0) :
    a.OverlayOn overlayProperty ∧
      ∃ state, a.IsCandidate (a.overlayChoice overlayProperty order) state := by
  by_cases hon : a.OverlayOn overlayProperty
  · refine ⟨hon, ?_⟩
    rw [overlayChoice_of_on hon, selectOverlay] at h ⊢
    cases bestOf_selectOverlay a order with
    | default heq => exact absurd (congrArg Prod.fst heq) h
    | candidate _ hscore =>
      obtain ⟨state, hcandidate, -⟩ := score_eq_some.mp hscore
      exact ⟨state, hcandidate⟩
  · exact absurd (overlayChoice_of_off hon order) h

section Rounds

variable {orders : List Nat × List Nat}

/-- Orders in which a round can visit the layers of `a`. -/
def RoundOrders (a : Adapter) (orders : List Nat × List Nat) : Prop :=
  IsOrder orders.1 a.mLayerStates ∧ IsOrder orders.2 a.mLayerStates

theorem keys_validateLayers (horder : IsOrder order a.mLayerStates) :
    (a.validateLayers overlayProperty order).mLayerStates.keys = a.mLayerStates.keys :=
  keys_assignTypes _ horder

theorem RoundOrders.accept (h : a.RoundOrders orders) (overlayProperty : Bool) :
    IsOrder orders.2 (a.validateLayers overlayProperty orders.1).mLayerStates :=
  ⟨h.2.1, h.2.2.trans (keys_validateLayers h.1).symm⟩

theorem RoundOrders.keys_eq (h : a.RoundOrders orders) (overlayProperty : Bool) :
    (a.validateAccept overlayProperty orders).mLayerStates.keys = a.mLayerStates.keys :=
  (keys_acceptChanges (h.accept overlayProperty)).trans (keys_validateLayers h.1)

theorem RoundOrders.lookup_eq (h : a.RoundOrders orders) (overlayProperty : Bool) (l : Nat) :
    (a.validateAccept overlayProperty orders).mLayerStates.lookup l =
      (a.mLayerStates.lookup l).map fun state => { state with
        requestedType := validatedTypeOf (a.overlayChoice overlayProperty orders.1) l
        validatedType := validatedTypeOf (a.overlayChoice overlayProperty orders.1) l } := by
  rw [validateAccept, lookup_acceptChanges (h.accept overlayProperty),
    lookup_validateLayers a overlayProperty h.1, Option.map_map]
  rfl

/-- **A round settles the adapter** on the overlay it chose. -/
theorem RoundOrders.settled (h : a.RoundOrders orders) (overlayProperty : Bool) :
    Settled overlayProperty (a.overlayChoice overlayProperty orders.1)
      (a.validateAccept overlayProperty orders) where
  requested l state hstate := by
    rw [h.lookup_eq] at hstate
    obtain ⟨old, -, rfl⟩ := Option.map_eq_some_iff.mp hstate
    rfl
  candidate hne := by
    -- acceptance rewrites the request of the overlay to the `DEVICE` it already was
    obtain ⟨⟨rfl, hlatch⟩, state, hstate, hcandidate⟩ := overlayChoice_candidate hne
    refine ⟨⟨rfl, hlatch⟩, _, (h.lookup_eq true _).trans (congrArg _ hstate), ?_⟩
    exact { hcandidate with device := validatedTypeOf_eq_device.mpr ⟨hne, rfl⟩ }

/-- Further rounds stay with it. -/
theorem Settled.rounds {overlay : Nat} {rounds : List (List Nat × List Nat)}
    (h : Settled overlayProperty overlay a) (horders : ∀ orders ∈ rounds, a.RoundOrders orders) :
    Settled overlayProperty overlay (rounds.foldl (validateAccept overlayProperty) a) ∧
      (rounds.foldl (validateAccept overlayProperty) a).mLayerStates.keys =
        a.mLayerStates.keys := by
  induction rounds generalizing a with
  | nil => exact ⟨h, rfl⟩
  | cons orders rounds ih =>
    have horders₁ := horders orders List.mem_cons_self
    have hkeys := horders₁.keys_eq overlayProperty
    have hsettled := horders₁.settled overlayProperty
    rw [h.overlayChoice_eq horders₁.1] at hsettled
    have hrest := ih hsettled fun orders' hmem => by
      obtain ⟨hvalidate, haccept⟩ := horders orders' (List.mem_cons_of_mem _ hmem)
      exact ⟨⟨hvalidate.1, hvalidate.2.trans hkeys.symm⟩,
        haccept.1, haccept.2.trans hkeys.symm⟩
    exact ⟨hrest.1, hrest.2.trans hkeys⟩

/-- Two validations that choose the same overlay out of the same layers agree on all they tell. -/
theorem validateLayers_agree {b : Adapter} {order' : List Nat}
    (horder : IsOrder order a.mLayerStates) (horder' : IsOrder order' b.mLayerStates)
    (hkeys : b.mLayerStates.keys = a.mLayerStates.keys)
    (hchoice : b.overlayChoice overlayProperty order' = a.overlayChoice overlayProperty order) :
    (∀ l, (b.validateLayers overlayProperty order').validatedType l =
      (a.validateLayers overlayProperty order).validatedType l) ∧
    (b.validateLayers overlayProperty order').mClearClientTargetLayers =
      (a.validateLayers overlayProperty order).mClearClientTargetLayers := by
  have hmem : ∀ l, l ∈ b.mLayerStates ↔ l ∈ a.mLayerStates := fun l => by
    rw [← Finmap.mem_keys, ← Finmap.mem_keys, hkeys]
  have htypes : ∀ l, (b.validateLayers overlayProperty order').validatedType l =
      (a.validateLayers overlayProperty order).validatedType l := fun l => by
    by_cases hl : l ∈ a.mLayerStates
    · rw [validatedType_of_mem overlayProperty horder hl,
        validatedType_of_mem overlayProperty horder' ((hmem l).mpr hl), hchoice]
    · rw [validatedType_validateLayers a overlayProperty horder,
        validatedType_validateLayers b overlayProperty horder', Finmap.lookup_eq_none.mpr hl,
        Finmap.lookup_eq_none.mpr (mt (hmem l).mp hl), Option.map_none, Option.map_none]
  refine ⟨htypes, ?_⟩
  ext l
  rw [mem_clearClientTargetLayers b overlayProperty horder',
    mem_clearClientTargetLayers a overlayProperty horder, htypes l]
  exact and_congr_right' (exists_congr fun l' => and_congr_left' (hmem l'))

/-- **Validation stabilises after acceptance**, with the orders of all loops left open: every
validation after the first acceptance chooses the overlay of the first one, validates every layer
as it did, asks for the same clear requests, and changes no type. -/
theorem validation_stabilises (a : Adapter) (overlayProperty : Bool)
    (horders : a.RoundOrders orders) (rounds : List (List Nat × List Nat))
    (hrounds : ∀ orders ∈ rounds, a.RoundOrders orders)
    (horder : IsOrder order a.mLayerStates) :
    let first := a.validateLayers overlayProperty orders.1
    let later := ((orders :: rounds).foldl (validateAccept overlayProperty) a).validateLayers
      overlayProperty order
    later.outNums.1 = 0 ∧
    later.mHasOverlayLayer = first.mHasOverlayLayer ∧
    (later.mHasOverlayLayer = true → later.mOverlayLayer = first.mOverlayLayer) ∧
    (∀ l, later.validatedType l = first.validatedType l) ∧
    later.mClearClientTargetLayers = first.mClearClientTargetLayers := by
  rw [List.foldl_cons]
  have hkeys := horders.keys_eq overlayProperty
  have hback : ∀ {order}, IsOrder order a.mLayerStates →
      IsOrder order (a.validateAccept overlayProperty orders).mLayerStates :=
    fun h => ⟨h.1, h.2.trans hkeys.symm⟩
  obtain ⟨hsettled, hrest⟩ := (horders.settled overlayProperty).rounds
    fun r hr => ⟨hback (hrounds r hr).1, hback (hrounds r hr).2⟩
  -- all that matters of the later rounds is that they left a settled adapter
  generalize rounds.foldl (validateAccept overlayProperty)
    (a.validateAccept overlayProperty orders) = b at hsettled hrest ⊢
  have hsame : b.mLayerStates.keys = a.mLayerStates.keys := hrest.trans hkeys
  have horder' : IsOrder order b.mLayerStates := ⟨horder.1, horder.2.trans hsame.symm⟩
  have hchoice := hsettled.overlayChoice_eq horder'
  have hlater := validateLayers_overlay b overlayProperty order
  have hfirst := validateLayers_overlay a overlayProperty orders.1
  rw [hchoice] at hlater
  refine ⟨hsettled.changedTypes_eq horder', Bool.eq_iff_iff.mpr (hlater.1.trans hfirst.1.symm),
    fun hhas => ?_, validateLayers_agree horders.1 horder' hsame hchoice⟩
  exact (hlater.2.2 hhas).trans (hfirst.2.2 (hfirst.1.mpr (hlater.1.mp hhas))).symm

theorem validation_stabilises_twoLayers :
    ((twoLayers.validateAccept true ([2, 1], [1, 2])).validateLayers true [1, 2]).outNums.1 = 0 ∧
      ((twoLayers.validateAccept true ([2, 1], [1, 2])).validateLayers true [1, 2]).validatedType 1
        = some HWC2_COMPOSITION_DEVICE := by
  have horders : twoLayers.RoundOrders ([2, 1], [1, 2]) :=
    ⟨by decide +kernel, by decide +kernel⟩
  obtain ⟨hzero, -, -, htypes, -⟩ := validation_stabilises twoLayers true horders [] (by simp)
    (show IsOrder [1, 2] twoLayers.mLayerStates by decide +kernel)
  exact ⟨hzero, (htypes 1).trans (by decide +kernel)⟩

end Rounds

end Adapter

end Mozart.Composer

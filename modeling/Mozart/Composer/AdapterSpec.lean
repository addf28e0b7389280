import Mozart.Composer.Adapter

/-!
# What the adapter's operations do

One specification for each part of the adapter with a loop or several exits in it, so that the
properties of the following modules never unfold these again.

* **`assignTypes_spec`** and **`lookup_acceptChanges`** describe the loops that write the layer
  states, for every order in which the map may be visited.
* **`overlayChoice_eligible`**: the overlay chosen is a layer of the map that passed every test;
  **`validatedType_eq_device`**: it becomes the one device layer.
* **`overlayPost`**: the exits of `postOverlay`, each with the tests that lead to it.
-/

namespace Mozart.Composer

open MapLoop

namespace Adapter

/-- The type the last validation gave to a layer. -/
def validatedType (a : Adapter) (layer : Nat) : Option Int :=
  (a.mLayerStates.lookup layer).map LayerState.validatedType

/-! ## Layers -/

variable {a : Adapter} {layer : Nat}

theorem setLayer_of_notMem (h : layer ∉ a.mLayerStates) (f : LayerState → LayerState) :
    a.setLayer layer f = (a, false) := by
  rw [setLayer, Finmap.lookup_eq_none.mpr h]

theorem setLayer_of_mem (h : layer ∈ a.mLayerStates) (f : LayerState → LayerState) :
    a.setLayer layer f = ({ a with mLayerStates := modify layer f a.mLayerStates }, true) := by
  obtain ⟨state, hstate⟩ := Finmap.mem_iff.mp h
  rw [setLayer, hstate]

theorem removeLayer_of_notMem (h : layer ∉ a.mLayers) : a.removeLayer layer = (a, false) :=
  if_pos h

theorem removeLayer_of_mem (h : layer ∈ a.mLayers) :
    a.removeLayer layer = ({ a with
      mLayers := a.mLayers.erase layer
      mLayerStates := a.mLayerStates.erase layer
      mChangedTypes := a.mChangedTypes.erase layer
      mClearClientTargetLayers := a.mClearClientTargetLayers.erase layer
      mHasOverlayLayer :=
        if a.mHasOverlayLayer && a.mOverlayLayer == layer then false else a.mHasOverlayLayer
      mOverlayUsesClientTarget :=
        if a.mHasOverlayLayer && a.mOverlayLayer == layer then false
        else a.mOverlayUsesClientTarget }, true) := if_neg (not_not.mpr h)

theorem validatedType_removeLayer (h : layer ∈ a.mLayers) (l : Nat) :
    (a.removeLayer layer).1.validatedType l = if l = layer then none else a.validatedType l := by
  rw [removeLayer_of_mem h]
  show ((a.mLayerStates.erase layer).lookup l).map _ = _
  split_ifs with hl
  · rw [hl, Finmap.lookup_erase, Option.map_none]
  · rw [Finmap.lookup_erase_ne hl]
    rfl

/-- The overlay survives the removal of any other layer, and no flag is set by it. -/
theorem removeLayer_overlay (h : layer ∈ a.mLayers) :
    ((a.removeLayer layer).1.mHasOverlayLayer = true → a.mHasOverlayLayer = true ∧
      (a.removeLayer layer).1.mOverlayLayer = a.mOverlayLayer ∧ a.mOverlayLayer ≠ layer) ∧
    ((a.mOverlayUsesClientTarget = true → a.mHasOverlayLayer = true) →
      (a.removeLayer layer).1.mOverlayUsesClientTarget = true →
      (a.removeLayer layer).1.mHasOverlayLayer = true) := by
  rw [removeLayer_of_mem h]
  simp only
  split_ifs with hover
  · exact ⟨fun hc => absurd hc (by decide), fun _ hc => absurd hc (by decide)⟩
  · refine ⟨fun hhas => ⟨hhas, trivial, fun heq => hover ?_⟩, id⟩
    rw [hhas, heq, Bool.true_and, beq_self_eq_true]

/-! ## What the loops of `validateLayers` compute -/

/-- The loop state of `assignStep` once the layers in `done` have been visited. -/
structure AssignedUpTo (overlayLayer : Nat) (states : LayerMap) (done : List Nat)
    (acc : Assigned) : Prop where
  states_eq : ∀ l, acc.states.lookup l =
    if l ∈ done then
      (states.lookup l).map fun s => { s with validatedType := validatedTypeOf overlayLayer l }
    else states.lookup l
  changed_eq : ∀ l, acc.changedTypes.lookup l =
    if l ∈ done then
      (states.lookup l).bind fun s =>
        if s.requestedType ≠ validatedTypeOf overlayLayer l then
          some (validatedTypeOf overlayLayer l) else none
    else none
  client_iff : acc.hasClientComposition = true ↔
    ∃ l ∈ done, validatedTypeOf overlayLayer l = HWC2_COMPOSITION_CLIENT

theorem AssignedUpTo.step {overlayLayer : Nat} {states : LayerMap} {done : List Nat}
    {acc : Assigned} {layer : Nat} {s : LayerState}
    (h : AssignedUpTo overlayLayer states done acc) (hnew : layer ∉ done)
    (hs : states.lookup layer = some s) :
    AssignedUpTo overlayLayer states (done ++ [layer]) (assignStep overlayLayer acc layer) := by
  -- the layer is still as the loop found it
  have hlookup : acc.states.lookup layer = some s := by rw [h.states_eq, if_neg hnew, hs]
  have hunchanged : acc.changedTypes.lookup layer = none := by rw [h.changed_eq, if_neg hnew]
  rw [assignStep, hlookup]
  refine ⟨fun l => ?_, fun l => ?_, ?_⟩
  · show (modify layer _ acc.states).lookup l = _
    rw [lookup_modify]
    by_cases hl : l = layer
    · subst hl
      simp [hlookup, hs]
    · rw [if_neg hl, h.states_eq]
      simp [hl]
  · show Finmap.lookup l (if _ then emplace layer _ acc.changedTypes else acc.changedTypes) = _
    by_cases hl : l = layer
    · subst hl
      by_cases hreq : s.requestedType = validatedTypeOf overlayLayer l
      · simp [hreq, hunchanged, hs]
      · rw [if_pos hreq, emplace_of_notMem (Finmap.lookup_eq_none.mp hunchanged),
          Finmap.lookup_insert]
        simp [hs, hreq]
    · have hsame : Finmap.lookup l (if s.requestedType ≠ validatedTypeOf overlayLayer layer then
          emplace layer (validatedTypeOf overlayLayer layer) acc.changedTypes
          else acc.changedTypes) = acc.changedTypes.lookup l := by
        split
        · exact lookup_emplace_of_ne hl
        · rfl
      rw [hsame, h.changed_eq]
      simp [hl]
  · show (acc.hasClientComposition || _) = true ↔ _
    rw [Bool.or_eq_true, h.client_iff, beq_iff_eq]
    constructor
    · rintro (⟨l, hl, ht⟩ | ht)
      · exact ⟨l, by simp [hl], ht⟩
      · exact ⟨layer, by simp, ht⟩
    · rintro ⟨l, hl, ht⟩
      rcases List.mem_append.mp hl with hl | hl
      · exact Or.inl ⟨l, hl, ht⟩
      · rw [List.mem_singleton.mp hl] at ht
        exact Or.inr ht

/-- **The second loop**, in any visiting order: every layer gets its type, the changed types are
those that differ from the request, and the flag says whether a client layer is left. -/
theorem assignTypes_spec (overlayLayer : Nat) {states : LayerMap} {order : List Nat}
    (horder : IsOrder order states) :
    AssignedUpTo overlayLayer states order (assignTypes overlayLayer states order) := by
  refine foldl_invariant horder ?_ fun done layer s acc hnew hs h => h.step hnew hs
  exact ⟨fun l => by simp, fun l => by simp, by simp⟩

theorem lookup_assignTypes (overlayLayer : Nat) {states : LayerMap} {order : List Nat}
    (horder : IsOrder order states) (l : Nat) :
    (assignTypes overlayLayer states order).states.lookup l = (states.lookup l).map
      fun s => { s with validatedType := validatedTypeOf overlayLayer l } := by
  rw [(assignTypes_spec overlayLayer horder).states_eq, horder.ite_map_lookup]

theorem keys_assignTypes (overlayLayer : Nat) {states : LayerMap} {order : List Nat}
    (horder : IsOrder order states) :
    (assignTypes overlayLayer states order).states.keys = states.keys := by
  refine keys_eq_of_isSome fun l => ?_
  rw [lookup_assignTypes overlayLayer horder, Option.isSome_map]

/-- The tests of the first loop, one by one. -/
structure Eligible (info : Info) (state : LayerState) : Prop where
  device : state.requestedType = HWC2_COMPOSITION_DEVICE
  transform : state.transform = 0
  alpha : opaqueThreshold ≤ state.planeAlpha
  frame_valid : rectIsValid state.displayFrame = true
  frame_fits : frameFitsDisplay state.displayFrame info = true
  yuv : (getHisiFormat state.buffer).any isYuvFormat = true

theorem eligible_spec {info : Info} {state : LayerState} (h : eligible info state = true) :
    Eligible info state := by
  unfold eligible at h
  simp only [Bool.not_eq_true', Bool.or_eq_false_iff, bne_eq_false_iff_eq, decide_eq_false_iff_not,
    Bool.not_eq_false', not_lt] at h
  obtain ⟨⟨⟨⟨⟨⟨⟨hdevice, htransform⟩, halpha⟩, hvalid⟩, hfits⟩, -⟩, hyuv⟩, -⟩ := h
  exact ⟨hdevice, htransform, halpha, hvalid, hfits, hyuv⟩

/-- The first loop chooses a layer of the map that passes its tests, or none. -/
theorem selectOverlay_eligible (info : Info) {states : LayerMap} {order : List Nat}
    (horder : IsOrder order states) (h : selectOverlay info states order ≠ 0) :
    ∃ state, states.lookup (selectOverlay info states order) = some state ∧
      Eligible info state := by
  let Chosen := fun (best : Nat × Nat) =>
    best.1 = 0 ∨ ∃ state, states.lookup best.1 = some state ∧ Eligible info state
  have hchosen : Chosen (order.foldl (selectStep info states) (0, 0)) := by
    refine foldl_invariant (P := fun _ best => Chosen best) horder (Or.inl rfl) ?_
    intro done layer s best _ hs hbest
    show Chosen (selectStep info states best layer)
    rw [selectStep, hs]
    simp only
    by_cases helig : eligible info s = true
    · rw [if_neg (by simp [helig])]
      split
      · exact Or.inr ⟨s, hs, eligible_spec helig⟩
      · exact hbest
    · rw [if_pos (by simp [helig])]
      exact hbest
  exact hchosen.resolve_left h

/-- **The overlay chosen** is a layer that passed the tests of the first loop. -/
theorem overlayChoice_eligible {a : Adapter} {overlayProperty : Bool} {order : List Nat}
    (horder : IsOrder order a.mLayerStates) (h : a.overlayChoice overlayProperty order ≠ 0) :
    ∃ state, a.mLayerStates.lookup (a.overlayChoice overlayProperty order) = some state ∧
      Eligible a.mFbInfo state := by
  unfold overlayChoice at h ⊢
  by_cases hon : (overlayProperty && !a.latchAfterProperty overlayProperty) = true
  · rw [if_pos hon] at h ⊢
    exact selectOverlay_eligible a.mFbInfo horder h
  · rw [if_neg hon] at h
    exact absurd rfl h

theorem overlayChoice_mem {a : Adapter} {overlayProperty : Bool} {order : List Nat}
    (horder : IsOrder order a.mLayerStates) (h : a.overlayChoice overlayProperty order ≠ 0) :
    a.overlayChoice overlayProperty order ∈ a.mLayerStates := by
  obtain ⟨state, hstate, -⟩ := overlayChoice_eligible horder h
  exact Finmap.mem_of_lookup_eq_some hstate

theorem validatedTypeOf_eq_device {overlayLayer l : Nat} :
    validatedTypeOf overlayLayer l = HWC2_COMPOSITION_DEVICE ↔
      overlayLayer ≠ 0 ∧ l = overlayLayer := by
  unfold validatedTypeOf
  split
  · next h => exact ⟨fun _ => h, fun _ => rfl⟩
  · next h => exact ⟨fun hc => absurd hc (by decide), fun hl => absurd hl h⟩

/-! ## Validation and acceptance -/

theorem lookup_validateLayers (a : Adapter) (overlayProperty : Bool) {order : List Nat}
    (horder : IsOrder order a.mLayerStates) (l : Nat) :
    (a.validateLayers overlayProperty order).mLayerStates.lookup l = (a.mLayerStates.lookup l).map
      fun s => { s with
        validatedType := validatedTypeOf (a.overlayChoice overlayProperty order) l } :=
  lookup_assignTypes _ horder l

theorem validatedType_validateLayers (a : Adapter) (overlayProperty : Bool) {order : List Nat}
    (horder : IsOrder order a.mLayerStates) (l : Nat) :
    (a.validateLayers overlayProperty order).validatedType l =
      (a.mLayerStates.lookup l).map
        fun _ => validatedTypeOf (a.overlayChoice overlayProperty order) l := by
  rw [validatedType, lookup_validateLayers a overlayProperty horder, Option.map_map]
  rfl

/-- **The device layer is the overlay chosen**, if there is one. -/
theorem validatedType_eq_device (a : Adapter) (overlayProperty : Bool) {order : List Nat}
    (horder : IsOrder order a.mLayerStates) {l : Nat} :
    (a.validateLayers overlayProperty order).validatedType l = some HWC2_COMPOSITION_DEVICE ↔
      a.overlayChoice overlayProperty order ≠ 0 ∧ l = a.overlayChoice overlayProperty order := by
  rw [validatedType_validateLayers a overlayProperty horder]
  constructor
  · intro h
    obtain ⟨s, -, ht⟩ := Option.map_eq_some_iff.mp h
    exact validatedTypeOf_eq_device.mp ht
  · intro h
    obtain ⟨s, hs⟩ : ∃ s, a.mLayerStates.lookup l = some s :=
      Finmap.mem_iff.mp (h.2 ▸ overlayChoice_mem horder h.1)
    rw [hs]
    exact congrArg some (validatedTypeOf_eq_device.mpr h)

/-- The overlay flags after a validation, in terms of the layer chosen. -/
theorem validateLayers_overlay (a : Adapter) (overlayProperty : Bool) (order : List Nat) :
    ((a.validateLayers overlayProperty order).mHasOverlayLayer = true ↔
      a.overlayChoice overlayProperty order ≠ 0) ∧
    ((a.validateLayers overlayProperty order).mOverlayUsesClientTarget = true →
      a.overlayChoice overlayProperty order ≠ 0) ∧
    ((a.validateLayers overlayProperty order).mHasOverlayLayer = true →
      (a.validateLayers overlayProperty order).mOverlayLayer =
        a.overlayChoice overlayProperty order) := by
  have hhas : (a.validateLayers overlayProperty order).mHasOverlayLayer = true ↔
      a.overlayChoice overlayProperty order ≠ 0 := bne_iff_ne
  refine ⟨hhas, fun huses => bne_iff_ne.mp (Bool.and_eq_true_iff.mp huses).1, fun h => ?_⟩
  show (if _ then _ else a.mOverlayLayer) = _
  rw [if_pos (hhas.mp h)]

/-- The client target is used exactly when a layer other than the overlay is left to draw. -/
theorem usesClientTarget_validateLayers (a : Adapter) (overlayProperty : Bool) {order : List Nat}
    (horder : IsOrder order a.mLayerStates) :
    (a.validateLayers overlayProperty order).mOverlayUsesClientTarget = true ↔
      a.overlayChoice overlayProperty order ≠ 0 ∧
        ∃ l ∈ a.mLayerStates, l ≠ a.overlayChoice overlayProperty order := by
  show (_ != 0 && (assignTypes _ a.mLayerStates order).hasClientComposition) = true ↔ _
  rw [Bool.and_eq_true, bne_iff_ne, (assignTypes_spec _ horder).client_iff]
  refine and_congr_right fun hne => exists_congr fun l => ?_
  rw [horder.mem_iff]
  refine and_congr_right fun _ => ?_
  unfold validatedTypeOf
  by_cases hl : l = a.overlayChoice overlayProperty order
  · rw [if_pos ⟨hne, hl⟩]
    exact iff_of_false (by decide) (fun h => h hl)
  · rw [if_neg (fun h => hl h.2)]
    exact iff_of_true rfl hl

/-- A hole is asked for under the overlay, when another layer is left to draw. -/
theorem mem_clearClientTargetLayers (a : Adapter) (overlayProperty : Bool) {order : List Nat}
    (horder : IsOrder order a.mLayerStates) {l : Nat} :
    l ∈ (a.validateLayers overlayProperty order).mClearClientTargetLayers ↔
      (a.validateLayers overlayProperty order).validatedType l = some HWC2_COMPOSITION_DEVICE ∧
        ∃ l' ∈ a.mLayerStates, l' ≠ l := by
  have huses := usesClientTarget_validateLayers a overlayProperty horder
  rw [validatedType_eq_device a overlayProperty horder]
  show l ∈ (if (a.validateLayers overlayProperty order).mOverlayUsesClientTarget then
    {a.overlayChoice overlayProperty order} else ∅ : Finset Nat) ↔ _
  split_ifs with hflag
  · rw [Finset.mem_singleton]
    obtain ⟨hne, hother⟩ := huses.mp hflag
    exact ⟨fun hl => ⟨⟨hne, hl⟩, hl ▸ hother⟩, fun h => h.1.2⟩
  · refine iff_of_false (Finset.notMem_empty l) fun ⟨⟨hne, hl⟩, hother⟩ => hflag ?_
    exact huses.mpr ⟨hne, hl ▸ hother⟩

/-- `acceptChanges` makes every layer's request its validated type. -/
theorem lookup_acceptChanges {a : Adapter} {order : List Nat}
    (horder : IsOrder order a.mLayerStates) (l : Nat) :
    (a.acceptChanges order).mLayerStates.lookup l =
      (a.mLayerStates.lookup l).map fun s => { s with requestedType := s.validatedType } := by
  have hloop : ∀ l, (a.acceptChanges order).mLayerStates.lookup l =
      if l ∈ order then
        (a.mLayerStates.lookup l).map fun s => { s with requestedType := s.validatedType }
      else a.mLayerStates.lookup l := by
    refine foldl_invariant (P := fun done (states : LayerMap) => ∀ l, states.lookup l =
      if l ∈ done then
        (a.mLayerStates.lookup l).map fun s => { s with requestedType := s.validatedType }
      else a.mLayerStates.lookup l) horder (fun l => by simp) ?_
    intro done layer s states hnew hs hP l
    rw [lookup_modify]
    by_cases hl : l = layer
    · subst hl
      simp [hP, hnew]
    · rw [if_neg hl, hP]
      simp [hl]
  rw [hloop, horder.ite_map_lookup]

theorem keys_acceptChanges {a : Adapter} {order : List Nat}
    (horder : IsOrder order a.mLayerStates) :
    (a.acceptChanges order).mLayerStates.keys = a.mLayerStates.keys := by
  refine keys_eq_of_isSome fun l => ?_
  rw [lookup_acceptChanges horder, Option.isSome_map]

/-! ## What a post can do to the adapter -/

/-- The first test of `postOverlay` lets the frame through. -/
def OverlayWanted (a : Adapter) : Prop :=
  a.mHasOverlayLayer = true ∧ a.mOverlayDisabledByError = false

/-- The descriptor `postOverlay` builds when both of its layers can be filled. -/
inductive Describes (a : Adapter) : DssOverlay → Prop where
  | videoOnly {video : LayerState} {videoInfo : DssLayer}
      (hlayer : a.mLayerStates.lookup a.mOverlayLayer = some video)
      (hvideo : videoLayer video = some videoInfo) (huses : a.mOverlayUsesClientTarget = false) :
      Describes a (a.overlayDescriptor videoInfo none)
  | withClientTarget {video : LayerState} {videoInfo clientInfo : DssLayer}
      (hlayer : a.mLayerStates.lookup a.mOverlayLayer = some video)
      (hvideo : videoLayer video = some videoInfo) (huses : a.mOverlayUsesClientTarget = true)
      (hclient : a.clientTargetLayer = some clientInfo) :
      Describes a (a.overlayDescriptor videoInfo (some clientInfo))

/-- The layers of a descriptor, bottom and top. -/
theorem Describes.layers {a : Adapter} {overlay : DssOverlay} (h : a.Describes overlay) :
    ∃ video videoInfo client, a.mLayerStates.lookup a.mOverlayLayer = some video ∧
      videoLayer video = some videoInfo ∧ overlay = a.overlayDescriptor videoInfo client ∧
      client.isSome = a.mOverlayUsesClientTarget ∧
      ∀ clientInfo, client = some clientInfo → a.clientTargetLayer = some clientInfo := by
  cases h with
  | videoOnly hlayer hvideo huses =>
    exact ⟨_, _, none, hlayer, hvideo, rfl, huses.symm, fun _ h => by cases h⟩
  | withClientTarget hlayer hvideo huses hclient =>
    exact ⟨_, _, some _, hlayer, hvideo, rfl, huses.symm, fun _ h => h ▸ hclient⟩

/-- The exits of `postOverlay`, each with the tests that lead to it, what becomes of the adapter
and the calls made. -/
inductive OverlayPost (a : Adapter) (env : PostEnv) : Adapter × Exit × List Effect → Prop where
  | notWanted (hoff : ¬a.OverlayWanted) : OverlayPost a env (a, .notWanted, [])
  | missingLayer (hwanted : a.OverlayWanted)
      (hlayer : a.mLayerStates.lookup a.mOverlayLayer = none) :
      OverlayPost a env (a, .missingLayer, [])
  | noClientTarget (hwanted : a.OverlayWanted) (huses : a.mOverlayUsesClientTarget = true)
      (hbuffer : a.mBuffer = none) :
      OverlayPost a env (a.disableOverlay, .noClientTarget, [])
  | videoInvalid {video : LayerState} (hwanted : a.OverlayWanted)
      (hlayer : a.mLayerStates.lookup a.mOverlayLayer = some video)
      (hvideo : videoLayer video = none) :
      OverlayPost a env (a.disableOverlay, .videoInvalid, [])
  | clientTargetInvalid (hwanted : a.OverlayWanted) (huses : a.mOverlayUsesClientTarget = true)
      (hclient : a.clientTargetLayer = none) :
      OverlayPost a env (a.disableOverlay, .clientTargetInvalid, [])
  | openFailed (hwanted : a.OverlayWanted) (hopen : env.fbFd < 0) :
      OverlayPost a env (a.disableOverlay, .openFailed, [.openFb0 env.fbFd])
  | ioctlFailed {overlay : DssOverlay} (hwanted : a.OverlayWanted) (hdesc : a.Describes overlay)
      (hopen : 0 ≤ env.fbFd) (hioctl : env.ioctlResult ≠ 0) :
      OverlayPost a env (a.disableOverlay, .ioctlFailed, playEffects env overlay)
  | posted {overlay : DssOverlay} (hwanted : a.OverlayWanted) (hdesc : a.Describes overlay)
      (hopen : 0 ≤ env.fbFd) (hioctl : env.ioctlResult = 0) :
      OverlayPost a env (a, .posted, playEffects env overlay)

theorem overlayPost_playOverlay {a : Adapter} (env : PostEnv) {overlay : DssOverlay}
    (hwanted : a.OverlayWanted) (hdesc : a.Describes overlay) :
    OverlayPost a env (a.playOverlay env overlay) := by
  unfold playOverlay
  split_ifs with hopen hioctl
  · exact .openFailed hwanted hopen
  · exact .ioctlFailed hwanted hdesc (not_lt.mp hopen) hioctl
  · exact .posted hwanted hdesc (not_lt.mp hopen) (not_not.mp hioctl)

/-- **What `postOverlay` can do.** -/
theorem overlayPost (a : Adapter) (env : PostEnv) : OverlayPost a env (a.postOverlay env) := by
  rw [postOverlay]
  have htest : (!a.mHasOverlayLayer || a.mOverlayDisabledByError) = true ↔ ¬a.OverlayWanted := by
    rw [OverlayWanted]
    cases a.mHasOverlayLayer <;> cases a.mOverlayDisabledByError <;> decide
  by_cases hwanted : a.OverlayWanted
  · rw [if_neg (fun h => htest.mp h hwanted)]
    cases hlayer : a.mLayerStates.lookup a.mOverlayLayer with
    | none => exact .missingLayer hwanted hlayer
    | some video =>
      show OverlayPost a env (if _ then _ else _)
      -- the exits in the order of the code
      by_cases hbuffer : (a.mOverlayUsesClientTarget && a.mBuffer.isNone) = true
      · rw [if_pos hbuffer]
        rw [Bool.and_eq_true, Option.isNone_iff_eq_none] at hbuffer
        exact .noClientTarget hwanted hbuffer.1 hbuffer.2
      rw [if_neg hbuffer]
      cases hvideo : videoLayer video with
      | none => exact .videoInvalid hwanted hlayer hvideo
      | some videoInfo =>
        show OverlayPost a env (if _ then _ else _)
        by_cases huses : a.mOverlayUsesClientTarget = true
        · rw [if_pos huses]
          cases hclient : a.clientTargetLayer with
          | none => exact .clientTargetInvalid hwanted huses hclient
          | some clientInfo =>
            exact overlayPost_playOverlay env hwanted
              (.withClientTarget hlayer hvideo huses hclient)
        · rw [if_neg huses]
          exact overlayPost_playOverlay env hwanted
            (.videoOnly hlayer hvideo (Bool.eq_false_iff.mpr huses))
  · rw [if_pos (htest.mpr hwanted)]
    exact .notWanted hwanted

theorem OverlayPost.adapter_cases {a : Adapter} {env : PostEnv}
    {r : Adapter × Exit × List Effect} (h : OverlayPost a env r) :
    r.1 = a ∨ r.1 = a.disableOverlay := by
  cases h with
  | notWanted | missingLayer | posted => exact Or.inl rfl
  | noClientTarget | videoInvalid | clientTargetInvalid | openFailed | ioctlFailed =>
    exact Or.inr rfl

/-- `postBuffer` in terms of `postOverlay`: what is not played goes to the framebuffer device. -/
theorem postBuffer_eq (a : Adapter) (env : PostEnv) :
    a.postBuffer env =
      if (a.postOverlay env).2.1 = .posted then
        ((a.postOverlay env).1, .overlay, (a.postOverlay env).2.2)
      else
        ((a.postOverlay env).1, ((a.postOverlay env).1.fbdevPost env).1,
          (a.postOverlay env).2.2 ++ ((a.postOverlay env).1.fbdevPost env).2) := by
  by_cases hhas : a.mHasOverlayLayer = true
  · rw [postBuffer, if_pos hhas]
    rcases a.postOverlay env with ⟨a', exit, effects⟩
    cases exit <;> rfl
  · have hskip : a.postOverlay env = (a, .notWanted, []) := by
      rw [postOverlay, if_pos (by simp [hhas])]
    rw [postBuffer, if_neg hhas, hskip]
    rfl

/-- A post leaves the adapter alone or switches the overlay off. -/
theorem postBuffer_cases (a : Adapter) (env : PostEnv) :
    (a.postBuffer env).1 = a ∨ (a.postBuffer env).1 = a.disableOverlay := by
  have hcases := (overlayPost a env).adapter_cases
  rw [postBuffer_eq]
  split
  · exact hcases
  · exact hcases

/-- The descriptors that a list of calls hands to the driver. -/
def overlays (effects : List Effect) : List DssOverlay :=
  effects.filterMap fun
    | .ioctlOnlinePlay _ overlay => some overlay
    | _ => none

theorem overlays_append (effects effects' : List Effect) :
    overlays (effects ++ effects') = overlays effects ++ overlays effects' :=
  List.filterMap_append

theorem overlays_playEffects (env : PostEnv) (overlay : DssOverlay) :
    overlays (playEffects env overlay) = [overlay] := by
  rw [playEffects, overlays_append]
  split <;> rfl

theorem overlays_fbdevPost (a : Adapter) (env : PostEnv) : overlays (a.fbdevPost env).2 = [] := by
  unfold fbdevPost
  split <;> rfl

/-- **What reaches the driver** is the descriptor of an overlay that is wanted. -/
theorem describes_of_mem_overlays {a : Adapter} {env : PostEnv} {overlay : DssOverlay}
    (h : overlay ∈ overlays (a.postBuffer env).2.2) : a.OverlayWanted ∧ a.Describes overlay := by
  have hpost : overlay ∈ overlays (a.postOverlay env).2.2 := by
    rw [postBuffer_eq] at h
    split at h
    · exact h
    · rwa [overlays_append, overlays_fbdevPost, List.append_nil] at h
  have hexit := overlayPost a env
  revert hpost hexit
  generalize a.postOverlay env = r
  intro hpost hexit
  cases hexit with
  | ioctlFailed hwanted hdesc | posted hwanted hdesc =>
    rw [overlays_playEffects, List.mem_singleton] at hpost
    exact ⟨hwanted, hpost ▸ hdesc⟩
  | _ => exact absurd hpost List.not_mem_nil

end Adapter

end Mozart.Composer

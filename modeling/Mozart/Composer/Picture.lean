import Mozart.Lib.Blend
import Mozart.Composer.PlayedOverlays

/-!
# The overlay split preserves the picture

What is seen on the display, pixel by pixel. A layer is a picture, transparent outside its
display frame. The framework draws the layers validated `CLIENT` into the client target, and
where it was asked to it cuts a hole first; the driver then shows the layers of a descriptor on
top of each other.

1. **`Scene`** is what a validation settles about the layers and the posts after it rely on.
2. **`clientTarget_inside`** and **`clientTarget_outside`** compute the client target where the
   video is and where it is not; the hole makes up for the video's place in the stack.
3. **`overlay_preserves_picture`**: the split shows what composing all layers would show.
-/

namespace Mozart.Composer

open MapLoop Transition Adapter

/-! ## Drawing and showing -/

/-- A premultiplied colour for each pixel. -/
abbrev Picture := Int → Int → Color Rat

def HwcRect.Contains (rect : HwcRect) (x y : Int) : Prop :=
  rect.left ≤ x ∧ x < rect.right ∧ rect.top ≤ y ∧ y < rect.bottom

instance (rect : HwcRect) (x y : Int) : Decidable (rect.Contains x y) :=
  inferInstanceAs (Decidable (_ ∧ _))

def DssRect.Contains (rect : DssRect) (x y : Int) : Prop :=
  rect.x ≤ x ∧ x < rect.x + rect.w ∧ rect.y ≤ y ∧ y < rect.y + rect.h

instance (rect : DssRect) (x y : Int) : Decidable (rect.Contains x y) :=
  inferInstanceAs (Decidable (_ ∧ _))

/-- The layers from bottom to top, by their distinct `z`. -/
structure InZOrder (stack : List Nat) (states : LayerMap) : Prop where
  order : IsOrder stack states
  sorted : stack.Pairwise fun l l' => ∀ state state',
    states.lookup l = some state → states.lookup l' = some state' → state.z < state'.z

/-- What the framework does at one pixel of the client target when it comes to layer `l`: the
hole the adapter asked for, then the layer itself if it is the client's to draw. -/
def paint (a : Adapter) (content : Nat → Picture) (x y : Int) (below : Color Rat) (l : Nat) :
    Color Rat :=
  match a.mLayerStates.lookup l with
  | none => below
  | some state =>
    let below :=
      if l ∈ a.mClearClientTargetLayers ∧ state.displayFrame.Contains x y then .transparent
      else below
    if state.validatedType = HWC2_COMPOSITION_CLIENT then (content l x y).onto below else below

def clientTarget (a : Adapter) (content : Nat → Picture) (stack : List Nat) : Picture :=
  fun x y => stack.foldl (paint a content x y) .transparent

/-- All layers drawn by the client, over black. -/
def composeAll (content : Nat → Picture) (stack : List Nat) : Picture := fun x y =>
  (Color.compose (stack.map fun l => content l x y)).onto .black

/-- One channel of the driver: without blending it replaces what is below. -/
def showLayer (layer : DssLayer) (picture : Picture) (x y : Int) (below : Color Rat) :
    Color Rat :=
  if layer.dst_rect.Contains x y then
    if layer.blending = HISI_FB_BLENDING_NONE then picture x y else (picture x y).onto below
  else below

/-- The driver shows the layers of a descriptor in the order of their index, over black. -/
def scanOut (overlay : DssOverlay) (pictures : List Picture) : Picture := fun x y =>
  ((overlay.layer_infos.toList.take overlay.layer_nums).zip pictures).foldl
    (fun below layer => showLayer layer.1 layer.2 x y below) .black

theorem scanOut_one (a : Adapter) (video : DssLayer) (picture : Picture)
    (pictures : List Picture) (x y : Int) :
    scanOut (a.overlayDescriptor video none) (picture :: pictures) x y =
      showLayer video picture x y .black := rfl

theorem scanOut_two (a : Adapter) (video client : DssLayer) (picture picture' : Picture)
    (x y : Int) : scanOut (a.overlayDescriptor video (some client)) [picture, picture'] x y =
      showLayer client picture' x y (showLayer video picture x y .black) := rfl

/-! ## What a validation settles -/

/-- The part of a layer's state that decides where and by whom it is drawn. -/
def LayerState.place (state : LayerState) : HwcRect × Int :=
  (state.displayFrame, state.validatedType)

structure Scene (a : Adapter) (choice : Nat) : Prop where
  layer : a.mOverlayLayer = choice
  video : ∃ state, a.mLayerStates.lookup choice = some state ∧
    rectIsValid state.displayFrame = true ∧ frameFitsDisplay state.displayFrame a.mFbInfo = true
  uses : a.mOverlayUsesClientTarget = true ↔ ∃ l ∈ a.mLayerStates, l ≠ choice
  client : ∀ l state, a.mLayerStates.lookup l = some state →
    (state.validatedType = HWC2_COMPOSITION_CLIENT ↔ l ≠ choice)
  clear : a.mClearClientTargetLayers = if a.mOverlayUsesClientTarget then {choice} else ∅

variable {a a' : Adapter} {choice : Nat}

theorem scene_validateLayers (a : Adapter) (overlayProperty : Bool) {order : List Nat}
    (horder : IsOrder order a.mLayerStates) (h : a.overlayChoice overlayProperty order ≠ 0) :
    Scene (a.validateLayers overlayProperty order) (a.overlayChoice overlayProperty order) where
  layer := if_pos h
  video := by
    obtain ⟨state, hstate, helig⟩ := overlayChoice_eligible horder h
    have hlookup := lookup_validateLayers a overlayProperty horder
      (a.overlayChoice overlayProperty order)
    rw [hstate] at hlookup
    exact ⟨_, hlookup, helig.frame_valid, helig.frame_fits⟩
  uses := by
    rw [usesClientTarget_validateLayers a overlayProperty horder, and_iff_right h]
    refine exists_congr fun l => and_congr_left fun _ => ?_
    rw [← Finmap.mem_keys, ← Finmap.mem_keys]
    exact (keys_assignTypes _ horder).symm ▸ Iff.rfl
  client l state hl := by
    rw [lookup_validateLayers a overlayProperty horder] at hl
    obtain ⟨state', -, rfl⟩ := Option.map_eq_some_iff.mp hl
    show validatedTypeOf _ l = _ ↔ _
    unfold validatedTypeOf
    by_cases hchoice : l = a.overlayChoice overlayProperty order
    · rw [if_pos ⟨h, hchoice⟩]
      exact iff_of_false (by decide) (not_not.mpr hchoice)
    · rw [if_neg fun hc => hchoice hc.2]
      exact iff_of_true rfl hchoice
  clear := rfl

/-- A step that leaves the flags and every layer's place alone. -/
theorem Scene.of_places (h : Scene a choice)
    (hplaces : ∀ l, (a'.mLayerStates.lookup l).map LayerState.place =
      (a.mLayerStates.lookup l).map LayerState.place)
    (hinfo : a'.mFbInfo = a.mFbInfo) (hlayer : a'.mOverlayLayer = a.mOverlayLayer)
    (huses : a'.mOverlayUsesClientTarget = a.mOverlayUsesClientTarget)
    (hclear : a'.mClearClientTargetLayers = a.mClearClientTargetLayers) : Scene a' choice := by
  -- every layer of one adapter has its like in the other
  have hlike : ∀ {b b' : Adapter}, (∀ l, (b'.mLayerStates.lookup l).map LayerState.place =
      (b.mLayerStates.lookup l).map LayerState.place) → ∀ {l state},
      b.mLayerStates.lookup l = some state → ∃ state', b'.mLayerStates.lookup l = some state' ∧
        state'.displayFrame = state.displayFrame ∧ state'.validatedType = state.validatedType := by
    intro b b' hb l state hstate
    have hmap := hb l
    rw [hstate] at hmap
    obtain ⟨state', hstate', hplace⟩ := Option.map_eq_some_iff.mp hmap
    exact ⟨state', hstate', congrArg Prod.fst hplace, congrArg Prod.snd hplace⟩
  have hmem : ∀ l, l ∈ a'.mLayerStates ↔ l ∈ a.mLayerStates := by
    intro l
    rw [Finmap.mem_iff, Finmap.mem_iff]
    exact ⟨fun ⟨_, hl⟩ => (hlike (fun l => (hplaces l).symm) hl).imp fun _ h => h.1,
      fun ⟨_, hl⟩ => (hlike hplaces hl).imp fun _ h => h.1⟩
  refine ⟨hlayer.trans h.layer, ?_, ?_, fun l state hl => ?_, ?_⟩
  · obtain ⟨state, hstate, hvalid, hfits⟩ := h.video
    obtain ⟨state', hstate', hframe, -⟩ := hlike hplaces hstate
    exact ⟨state', hstate', hframe ▸ hvalid, hinfo ▸ hframe ▸ hfits⟩
  · rw [huses, h.uses]
    exact exists_congr fun l => and_congr_left fun _ => (hmem l).symm
  · obtain ⟨state', hstate', -, htype⟩ := hlike (fun l => (hplaces l).symm) hl
    rw [← htype]
    exact h.client l state' hstate'
  · rw [hclear, huses]
    exact h.clear

/-- The calls between a validation and the next change to a layer. -/
def Call.IsQuiet : Call → Prop
  | setState _ | setLayerBuffer _ _ | acceptChanges _ | setBuffer _ | postBuffer _ => True
  | _ => False

theorem scene_perform {call : Call} (hquiet : call.IsQuiet) (hpossible : call.Possible a)
    (h : a.mHasOverlayLayer = true → Scene a choice)
    (hhas : (call.perform a).1.mHasOverlayLayer = true) : Scene (call.perform a).1 choice := by
  cases call with
  | setState | setBuffer => exact (h hhas).of_places (fun _ => rfl) rfl rfl rfl rfl
  | setLayerBuffer layer buffer =>
    change (a.setLayer layer _).1.mHasOverlayLayer = true at hhas
    show Scene (a.setLayer layer _).1 choice
    by_cases hlive : layer ∈ a.mLayerStates
    · rw [setLayer_of_mem hlive] at hhas ⊢
      refine (h hhas).of_places (fun l => ?_) rfl rfl rfl rfl
      rw [lookup_modify]
      split_ifs with hl
      · rw [hl, Option.map_map]
        rfl
      · rfl
    · rw [setLayer_of_notMem hlive] at hhas ⊢
      exact h hhas
  | acceptChanges order =>
    refine (h hhas).of_places (fun l => ?_) rfl rfl rfl rfl
    show ((a.acceptChanges order).mLayerStates.lookup l).map _ = _
    rw [lookup_acceptChanges hpossible, Option.map_map]
    rfl
  | postBuffer env =>
    change (a.postBuffer env).1.mHasOverlayLayer = true at hhas
    show Scene (a.postBuffer env).1 choice
    -- a post that fails clears the flag, and there is no scene to describe
    rcases postBuffer_cases a env with heq | heq
    · rw [heq] at hhas ⊢
      exact h hhas
    · rw [heq] at hhas
      cases hhas
  | _ => exact hquiet.elim

/-! ## The client target, pixel by pixel -/

section pixel

variable {content : Nat → Picture} {x y : Int} {stack lower upper : List Nat}

theorem paint_of_ne (h : Scene a choice) {l : Nat} (hl : l ∈ a.mLayerStates) (hne : l ≠ choice)
    (below : Color Rat) : paint a content x y below l = (content l x y).onto below := by
  obtain ⟨state, hstate⟩ := Finmap.mem_iff.mp hl
  have hclear : l ∉ a.mClearClientTargetLayers := by
    rw [h.clear]
    split_ifs
    · exact fun hmem => hne (Finset.mem_singleton.mp hmem)
    · exact Finset.notMem_empty l
  rw [paint, hstate]
  simp only [hclear, false_and, if_false, if_pos ((h.client l state hstate).mpr hne)]

theorem foldl_paint (h : Scene a choice) {layers : List Nat}
    (hlayers : ∀ l ∈ layers, l ∈ a.mLayerStates ∧ l ≠ choice) (below : Color Rat) :
    layers.foldl (paint a content x y) below =
      Color.drawOnto below (layers.map fun l => content l x y) := by
  induction layers generalizing below with
  | nil => rfl
  | cons l layers ih =>
    obtain ⟨hl, hne⟩ := hlayers l List.mem_cons_self
    rw [List.foldl_cons, paint_of_ne h hl hne,
      ih fun l' hl' => hlayers l' (List.mem_cons_of_mem l hl')]
    rfl

/-- The framework's turn at the video's place in the stack: a hole where the video is. -/
theorem paint_video (h : Scene a choice) {state : LayerState}
    (hstate : a.mLayerStates.lookup choice = some state) (below : Color Rat) :
    paint a content x y below choice =
      if a.mOverlayUsesClientTarget = true ∧ state.displayFrame.Contains x y then .transparent
      else below := by
  have hdevice : ¬state.validatedType = HWC2_COMPOSITION_CLIENT :=
    fun hc => (h.client choice state hstate).mp hc rfl
  have hclear : choice ∈ a.mClearClientTargetLayers ↔ a.mOverlayUsesClientTarget = true := by
    rw [h.clear]
    split_ifs with huses
    · exact iff_of_true (Finset.mem_singleton_self choice) huses
    · exact iff_of_false (Finset.notMem_empty choice) huses
  rw [paint, hstate]
  simp only [if_neg hdevice, hclear]

/-- The stack below and above the video. -/
theorem InZOrder.split (h : InZOrder stack a.mLayerStates) (hmem : choice ∈ a.mLayerStates) :
    ∃ lower upper, stack = lower ++ choice :: upper ∧
      (∀ l ∈ lower, l ∈ a.mLayerStates ∧ l ≠ choice) ∧
      ∀ l ∈ upper, l ∈ a.mLayerStates ∧ l ≠ choice := by
  obtain ⟨lower, upper, heq⟩ := List.append_of_mem (h.order.mem_iff.mpr hmem)
  have hnodup := h.order.1
  rw [heq, List.nodup_append, List.nodup_cons] at hnodup
  obtain ⟨-, ⟨hupper, -⟩, hlower⟩ := hnodup
  refine ⟨lower, upper, heq, fun l hl => ⟨?_, ?_⟩, fun l hl => ⟨?_, ?_⟩⟩
  · exact h.order.mem_iff.mp (heq ▸ List.mem_append_left _ hl)
  · exact hlower l hl choice List.mem_cons_self
  · exact h.order.mem_iff.mp (heq ▸ List.mem_append_right _ (List.mem_cons_of_mem choice hl))
  · exact fun hc => hupper (hc ▸ hl)

/-- **Where the video is** only the layers above it are left in the client target. -/
theorem clientTarget_inside (h : Scene a choice) (huses : a.mOverlayUsesClientTarget = true)
    {state : LayerState} (hstate : a.mLayerStates.lookup choice = some state)
    (hframe : state.displayFrame.Contains x y)
    (hupper : ∀ l ∈ upper, l ∈ a.mLayerStates ∧ l ≠ choice) :
    clientTarget a content (lower ++ choice :: upper) x y =
      Color.compose (upper.map fun l => content l x y) := by
  rw [clientTarget, List.foldl_append, List.foldl_cons, paint_video h hstate,
    if_pos ⟨huses, hframe⟩, foldl_paint h hupper]
  rfl

/-- **Where the video is not** the client target is all the other layers. -/
theorem clientTarget_outside (h : Scene a choice) {state : LayerState}
    (hstate : a.mLayerStates.lookup choice = some state)
    (hframe : ¬state.displayFrame.Contains x y)
    (hlower : ∀ l ∈ lower, l ∈ a.mLayerStates ∧ l ≠ choice)
    (hupper : ∀ l ∈ upper, l ∈ a.mLayerStates ∧ l ≠ choice) :
    clientTarget a content (lower ++ choice :: upper) x y =
      Color.compose ((lower ++ upper).map fun l => content l x y) := by
  rw [clientTarget, List.foldl_append, List.foldl_cons, paint_video h hstate,
    if_neg fun hc => hframe hc.2, foldl_paint h hupper, foldl_paint h hlower, List.map_append]
  exact List.foldl_append.symm

end pixel

/-! ## The picture on the display -/

theorem DssRect.contains_iff {rect : DssRect} {frame : HwcRect} (h : rect.Is frame) (x y : Int) :
    rect.Contains x y ↔ frame.Contains x y := by
  obtain ⟨hx, hy, hw, hh⟩ := h
  rw [DssRect.Contains, hw, hh, hx, hy]
  rfl

/-- The video's channel: the layer's picture on its frame, black around it. -/
theorem showLayer_video {video : LayerState} {videoInfo : DssLayer}
    (hvideo : videoLayer video = some videoInfo) {info : Info}
    (hvalid : rectIsValid video.displayFrame = true)
    (hfits : frameFitsDisplay video.displayFrame info = true) (picture : Picture) (x y : Int)
    (below : Color Rat) : showLayer videoInfo picture x y below =
      if video.displayFrame.Contains x y then picture x y else below := by
  have hfilled := filled_of_fillDssLayer hvideo
  have hrect : videoInfo.dst_rect.Is video.displayFrame :=
    hfilled.dst_rect ▸ displayRect_is hvalid hfits
  have hblending : videoInfo.blending = HISI_FB_BLENDING_NONE := hfilled.blending
  rw [showLayer, if_pos hblending]
  simp only [DssRect.contains_iff hrect]

/-- The client target's channel covers the display. -/
theorem showLayer_client {clientInfo : DssLayer} (hclient : a.clientTargetLayer = some clientInfo)
    (hwidth : a.mFbInfo.width < 2 ^ 32) (hheight : a.mFbInfo.height < 2 ^ 32)
    (picture : Picture) {x y : Int} (hx : 0 ≤ x ∧ x < a.mFbInfo.width)
    (hy : 0 ≤ y ∧ y < a.mFbInfo.height) (below : Color Rat) :
    showLayer clientInfo picture x y below = (picture x y).onto below := by
  have hblending : clientInfo.blending ≠ HISI_FB_BLENDING_NONE := by
    rw [(filled_of_fillDssLayer hclient).blending]
    decide
  have hrect : clientInfo.dst_rect.Contains x y := by
    rw [clientTargetLayer_dst hwidth hheight hclient, DssRect.Contains]
    exact ⟨hx.1, by simpa using hx.2, hy.1, by simpa using hy.2⟩
  rw [showLayer, if_pos hrect, if_neg hblending]

theorem Scene.preserves (h : Scene a choice) {overlay : DssOverlay} (hdesc : a.Describes overlay)
    (hwidth : a.mFbInfo.width < 2 ^ 32) (hheight : a.mFbInfo.height < 2 ^ 32)
    {stack : List Nat} (hstack : InZOrder stack a.mLayerStates) {content : Nat → Picture}
    {x y : Int} (hx : 0 ≤ x ∧ x < a.mFbInfo.width) (hy : 0 ≤ y ∧ y < a.mFbInfo.height)
    (hinside : ∀ state, a.mLayerStates.lookup choice = some state →
      state.displayFrame.Contains x y → (content choice x y).IsOpaque)
    (houtside : ∀ state, a.mLayerStates.lookup choice = some state →
      ¬state.displayFrame.Contains x y → content choice x y = .transparent) :
    scanOut overlay [content choice, clientTarget a content stack] x y =
      composeAll content stack x y := by
  obtain ⟨video, videoInfo, client, hlayer, hvideo, rfl, hsome, hclient⟩ := hdesc.layers
  rw [h.layer] at hlayer
  obtain ⟨state, hstate, hvalid, hfits⟩ := h.video
  obtain rfl : video = state := Option.some.inj (hlayer.symm.trans hstate)
  obtain ⟨lower, upper, rfl, hlower, hupper⟩ :=
    hstack.split (Finmap.mem_of_lookup_eq_some hlayer)
  -- the reference picture, on the video's frame and around it
  have hcompose : composeAll content (lower ++ choice :: upper) x y =
      if video.displayFrame.Contains x y then
        (Color.compose (upper.map fun l => content l x y)).onto (content choice x y)
      else (Color.compose ((lower ++ upper).map fun l => content l x y)).onto .black := by
    rw [composeAll, List.map_append, List.map_cons]
    split_ifs with hframe
    · have hopaque := hinside video hlayer hframe
      rw [Color.compose_of_isOpaque hopaque, Color.onto_assoc, hopaque.onto]
    · rw [houtside video hlayer hframe, Color.compose_transparent, List.map_append]
  cases client with
  | none =>
    -- the video is the only layer
    have halone : ∀ l ∈ a.mLayerStates, l = choice := by
      intro l hl
      by_contra hne
      rw [h.uses.mpr ⟨l, hl, hne⟩] at hsome
      cases hsome
    obtain rfl : lower = [] :=
      List.eq_nil_iff_forall_not_mem.mpr fun l hl => (hlower l hl).2 (halone l (hlower l hl).1)
    obtain rfl : upper = [] :=
      List.eq_nil_iff_forall_not_mem.mpr fun l hl => (hupper l hl).2 (halone l (hupper l hl).1)
    rw [scanOut_one, showLayer_video hvideo hvalid hfits, hcompose]
    split_ifs
    · exact (Color.transparent_onto _).symm
    · exact (Color.transparent_onto _).symm
  | some clientInfo =>
    rw [scanOut_two, showLayer_client (hclient clientInfo rfl) hwidth hheight _ hx hy,
      showLayer_video hvideo hvalid hfits, hcompose]
    split_ifs with hframe
    · rw [clientTarget_inside h hsome.symm hlayer hframe hupper]
    · rw [clientTarget_outside h hlayer hframe hlower hupper]

/-- **The overlay split preserves the picture.** Whatever the layers, and whichever of them the
validation chose as the overlay, if that layer is opaque on its frame and transparent around it:
a post after the validation shows, on every pixel of the display, what composing all layers over
black would show, wherever the video lies in the stack. -/
theorem overlay_preserves_picture {overlayProperty : Bool} {order issued : List Nat}
    (horder : IsOrder order a.mLayerStates) (hchosen : a.overlayChoice overlayProperty order ≠ 0)
    {calls : List Call} (hquiet : ∀ call ∈ calls, call.IsQuiet) {t : Tracked}
    (hexec : exec system ⟨a.validateLayers overlayProperty order, issued⟩ calls = some t)
    {env : PostEnv} {overlay : DssOverlay}
    (hplayed : overlay ∈ overlays (t.adapter.postBuffer env).2.2)
    (hwidth : t.adapter.mFbInfo.width < 2 ^ 32) (hheight : t.adapter.mFbInfo.height < 2 ^ 32)
    {stack : List Nat} (hstack : InZOrder stack t.adapter.mLayerStates) {content : Nat → Picture}
    (hcontent : ∀ state, t.adapter.mLayerStates.lookup (a.overlayChoice overlayProperty order) =
      some state → ∀ x y,
        (state.displayFrame.Contains x y →
          (content (a.overlayChoice overlayProperty order) x y).IsOpaque) ∧
        (¬state.displayFrame.Contains x y →
          content (a.overlayChoice overlayProperty order) x y = .transparent))
    {x y : Int} (hx : 0 ≤ x ∧ x < t.adapter.mFbInfo.width)
    (hy : 0 ≤ y ∧ y < t.adapter.mFbInfo.height) :
    scanOut overlay [content (a.overlayChoice overlayProperty order),
      clientTarget t.adapter content stack] x y = composeAll content stack x y := by
  -- the validation set the scene, and no quiet call changes it
  have hscene : t.adapter.mHasOverlayLayer = true →
      Scene t.adapter (a.overlayChoice overlayProperty order) := by
    refine exec_invariant (I := fun t => t.adapter.mHasOverlayLayer = true →
      Scene t.adapter (a.overlayChoice overlayProperty order)) ?_ ?_ hexec
    · intro t call t' hmem hscene hstep
      obtain ⟨hpossible, rfl⟩ := step_eq_some hstep
      exact scene_perform (hquiet call hmem) hpossible hscene
    · exact fun _ => scene_validateLayers a overlayProperty horder hchosen
  obtain ⟨hwanted, hdesc⟩ := describes_of_mem_overlays hplayed
  exact (hscene hwanted.1).preserves hdesc hwidth hheight hstack hx hy
    (fun state hstate => (hcontent state hstate x y).1)
    (fun state hstate => (hcontent state hstate x y).2)

/-- A video on the left half of the display, above a layer of the client's. -/
def sampleScene : Adapter :=
  [Call.addLayer, .addLayer, .setLayerCompositionType 1 HWC2_COMPOSITION_DEVICE,
    .setLayerBuffer 1 (some sampleVideo), .setLayerDisplayFrame 1 ⟨0, 0, 32, 32⟩,
    .setLayerSourceCrop 1 ⟨0, 0, 64, 32⟩, .setLayerZOrder 1 5].foldl
      (fun a call => (call.perform a).1) { mFbInfo := ⟨64, 32⟩ }

def sampleContent (l : Nat) : Picture := fun x y =>
  if l = 1 then
    if (HwcRect.mk 0 0 32 32).Contains x y then ⟨1 / 2, 1 / 4, 0, 1⟩ else .transparent
  else ⟨0, 1 / 8, 1 / 3, 1 / 2⟩

theorem overlay_preserves_picture_sample : ∃ t overlay,
    exec system ⟨sampleScene.validateLayers true [2, 1], []⟩
      [.setBuffer (some sampleVideo), .acceptChanges [1, 2]] = some t ∧
    overlays (t.adapter.postBuffer sampleEnv).2.2 = [overlay] ∧
    ∀ x y, 0 ≤ x ∧ x < 64 → 0 ≤ y ∧ y < 32 →
      scanOut overlay [sampleContent 1, clientTarget t.adapter sampleContent [2, 1]] x y =
        composeAll sampleContent [2, 1] x y := by
  have hchoice : sampleScene.overlayChoice true [2, 1] = 1 := by decide +kernel
  have horder : IsOrder [2, 1] sampleScene.mLayerStates := by decide +kernel
  have hrun : (exec system ⟨sampleScene.validateLayers true [2, 1], []⟩
      [.setBuffer (some sampleVideo), .acceptChanges [1, 2]]).map (fun t =>
        ((overlays (t.adapter.postBuffer sampleEnv).2.2).length, t.adapter.mFbInfo,
          decide (IsOrder [2, 1] t.adapter.mLayerStates))) = some (1, ⟨64, 32⟩, true) := by
    decide +kernel
  have hstates : (exec system ⟨sampleScene.validateLayers true [2, 1], []⟩
      [.setBuffer (some sampleVideo), .acceptChanges [1, 2]]).map (fun t =>
        ((t.adapter.mLayerStates.lookup 1).map fun state => (state.displayFrame, state.z),
          (t.adapter.mLayerStates.lookup 2).map LayerState.z)) =
      some (some (⟨0, 0, 32, 32⟩, 5), some 0) := by decide +kernel
  obtain ⟨t, hexec, ht⟩ := Option.map_eq_some_iff.mp hrun
  rw [hexec] at hstates
  obtain ⟨hvideo, hother⟩ := Prod.mk.inj (Option.some.inj hstates)
  obtain ⟨hlength, ht⟩ := Prod.mk.inj ht
  obtain ⟨hinfo, hstackOrder⟩ := Prod.mk.inj ht
  obtain ⟨overlay, hoverlay⟩ := List.length_eq_one_iff.mp hlength
  obtain ⟨video, hvideo, hplace⟩ := Option.map_eq_some_iff.mp hvideo
  obtain ⟨hframe, hz⟩ := Prod.mk.inj hplace
  obtain ⟨other, hother, hz'⟩ := Option.map_eq_some_iff.mp hother
  have hstack : InZOrder [2, 1] t.adapter.mLayerStates := by
    refine ⟨of_decide_eq_true hstackOrder, List.pairwise_pair.mpr ?_⟩
    intro state state' hstate hstate'
    rw [hother] at hstate
    rw [hvideo] at hstate'
    rw [← Option.some.inj hstate, ← Option.some.inj hstate', hz, hz']
    decide
  have hcontent : ∀ state,
      t.adapter.mLayerStates.lookup (sampleScene.overlayChoice true [2, 1]) = some state → ∀ x y,
        (state.displayFrame.Contains x y →
          (sampleContent (sampleScene.overlayChoice true [2, 1]) x y).IsOpaque) ∧
        (¬state.displayFrame.Contains x y →
          sampleContent (sampleScene.overlayChoice true [2, 1]) x y = .transparent) := by
    rw [hchoice, hvideo]
    intro state hstate x y
    rw [← Option.some.inj hstate, hframe, sampleContent, if_pos rfl]
    exact ⟨fun hin => by rw [if_pos hin]; rfl, fun hout => if_neg hout⟩
  have hquiet : ∀ call ∈ [Call.setBuffer (some sampleVideo), .acceptChanges [1, 2]],
      call.IsQuiet := by
    intro call hcall
    rcases List.mem_pair.mp hcall with rfl | rfl
    · trivial
    · trivial
  refine ⟨t, overlay, hexec, hoverlay, fun x y hx hy => ?_⟩
  have h := overlay_preserves_picture horder (by rw [hchoice]; decide) hquiet hexec
    (hoverlay ▸ List.mem_singleton_self overlay) (by rw [hinfo]; decide) (by rw [hinfo]; decide)
    hstack hcontent (by rw [hinfo]; exact hx) (by rw [hinfo]; exact hy)
  rwa [hchoice] at h

end Mozart.Composer

import Mozart.Lib.MapLoop
import Mozart.Lib.Transition
import Mozart.Composer.Dss

/-!
# `HWC2OnFbAdapter`: the layers, the validation, the post

The adapter that presents one framebuffer device as a HWC2 composer, with the patch's overlay.
Each member function of the patch is one definition here; `Call` and `perform` put them
together, and `system` is the adapter under every sequence of calls.

* `hwc2_layer_t` is `uint64_t`: ids are `Nat`, and `addLayer` wraps at `2^64`.
* The unordered containers are `Finmap` and `Finset`. The order in which a loop over
  `mLayerStates` visits the layers is an argument.
* What the property service, `open`, `ioctl` and the framebuffer device answer are arguments
  too; what the adapter asks of them is returned as a list of `Effect`s, in order.
-/

namespace Mozart.Composer

open MapLoop

def HWC2_COMPOSITION_CLIENT : Int := 1
def HWC2_COMPOSITION_DEVICE : Int := 2

/-- `HWC2OnFbAdapter::LayerState`. -/
structure LayerState where
  buffer : BufferHandle := none
  requestedType : Int := HWC2_COMPOSITION_CLIENT
  validatedType : Int := HWC2_COMPOSITION_CLIENT
  blendMode : Int := HWC2_BLEND_MODE_NONE
  displayFrame : HwcRect := ⟨0, 0, 0, 0⟩
  sourceCrop : HwcFRect := ⟨0, 0, 0, 0⟩
  planeAlpha : Rat := 1
  transform : Int := 0
  z : Nat := 0

abbrev LayerMap := Finmap fun _ : Nat => LayerState

/-- `HWC2OnFbAdapter::State`. -/
inductive State where
  | MODIFIED
  | VALIDATED_WITH_CHANGES
  | VALIDATED
deriving DecidableEq

/-- `class HWC2OnFbAdapter`. -/
structure Adapter where
  mFbInfo : Info
  mState : State := .MODIFIED
  mNextLayerId : Nat := 0
  mLayers : Finset Nat := ∅
  mLayerStates : LayerMap := ∅
  mChangedTypes : Finmap (fun _ : Nat => Int) := ∅
  mClearClientTargetLayers : Finset Nat := ∅
  mBuffer : BufferHandle := none
  mOverlayEnabled : Bool := false
  mOverlayDisabledByError : Bool := false
  mHasOverlayLayer : Bool := false
  mOverlayUsesClientTarget : Bool := false
  mOverlayLayer : Nat := 0

namespace Adapter

def setState (a : Adapter) (state : State) : Adapter := { a with mState := state }

/-! ## Layers and their setters -/

/-- `addLayer`: the adapter and the id it returns. -/
def addLayer (a : Adapter) : Adapter × Nat :=
  let id := (a.mNextLayerId + 1) % 2 ^ 64
  ({ a with
      mNextLayerId := id
      mLayers := insert id a.mLayers
      mLayerStates := emplace id {} a.mLayerStates }, id)

def removeLayer (a : Adapter) (layer : Nat) : Adapter × Bool :=
  if layer ∉ a.mLayers then (a, false)
  else
    let wasOverlay := a.mHasOverlayLayer && a.mOverlayLayer == layer
    ({ a with
        mLayers := a.mLayers.erase layer
        mLayerStates := a.mLayerStates.erase layer
        mChangedTypes := a.mChangedTypes.erase layer
        mClearClientTargetLayers := a.mClearClientTargetLayers.erase layer
        mHasOverlayLayer := if wasOverlay then false else a.mHasOverlayLayer
        mOverlayUsesClientTarget := if wasOverlay then false else a.mOverlayUsesClientTarget },
      true)

/-- The body all setters share: find the layer's state, write one of its fields. -/
def setLayer (a : Adapter) (layer : Nat) (f : LayerState → LayerState) : Adapter × Bool :=
  match a.mLayerStates.lookup layer with
  | none => (a, false)
  | some _ => ({ a with mLayerStates := modify layer f a.mLayerStates }, true)

def setLayerBuffer (a : Adapter) (layer : Nat) (buffer : BufferHandle) : Adapter × Bool :=
  a.setLayer layer fun state => { state with buffer := buffer }

def setLayerCompositionType (a : Adapter) (layer : Nat) (type : Int) : Adapter × Bool :=
  a.setLayer layer fun state => { state with requestedType := type }

def setLayerBlendMode (a : Adapter) (layer : Nat) (mode : Int) : Adapter × Bool :=
  a.setLayer layer fun state => { state with blendMode := mode }

def setLayerDisplayFrame (a : Adapter) (layer : Nat) (frame : HwcRect) : Adapter × Bool :=
  a.setLayer layer fun state => { state with displayFrame := frame }

def setLayerPlaneAlpha (a : Adapter) (layer : Nat) (alpha : Rat) : Adapter × Bool :=
  a.setLayer layer fun state => { state with planeAlpha := alpha }

def setLayerSourceCrop (a : Adapter) (layer : Nat) (crop : HwcFRect) : Adapter × Bool :=
  a.setLayer layer fun state => { state with sourceCrop := crop }

def setLayerTransform (a : Adapter) (layer : Nat) (transform : Int) : Adapter × Bool :=
  a.setLayer layer fun state => { state with transform := transform }

def setLayerZOrder (a : Adapter) (layer : Nat) (z : Nat) : Adapter × Bool :=
  a.setLayer layer fun state => { state with z := z }

/-! ## Validation -/

/-- The literal `0.999f`, the single-precision number nearest to 0.999. -/
def opaqueThreshold : Rat := 16760439 / 16777216

/-- The condition under which the selection loop does not `continue`. -/
def eligible (info : Info) (state : LayerState) : Bool :=
  !(state.requestedType != HWC2_COMPOSITION_DEVICE ||
    state.transform != 0 ||
    state.planeAlpha < opaqueThreshold ||
    !rectIsValid state.displayFrame ||
    !frameFitsDisplay state.displayFrame info ||
    !cropIsValid state.sourceCrop ||
    !(getHisiFormat state.buffer).any isYuvFormat ||
    (fillDssLayer state.buffer state.sourceCrop state.displayFrame HWC2_BLEND_MODE_NONE 1
      state.transform 0 DPE0_CHN0 CAP_DMA).isNone)

/-- One round of the selection loop, over `overlayLayer` and `overlayArea`. -/
def selectStep (info : Info) (states : LayerMap) (best : Nat × Nat) (layer : Nat) : Nat × Nat :=
  match states.lookup layer with
  | none => best
  | some state =>
    if !eligible info state then best
    else
      let area := frameArea state.displayFrame
      if area > best.2 then (layer, area) else best

/-- The selection loop: the overlay layer, or 0. -/
def selectOverlay (info : Info) (states : LayerMap) (order : List Nat) : Nat :=
  (order.foldl (selectStep info states) (0, 0)).1

/-- What the second loop of `validateLayers` writes. -/
structure Assigned where
  states : LayerMap
  changedTypes : Finmap (fun _ : Nat => Int) := ∅
  hasClientComposition : Bool := false

def validatedTypeOf (overlayLayer layer : Nat) : Int :=
  if overlayLayer ≠ 0 ∧ layer = overlayLayer then HWC2_COMPOSITION_DEVICE
  else HWC2_COMPOSITION_CLIENT

/-- One round of the second loop. -/
def assignStep (overlayLayer : Nat) (acc : Assigned) (layer : Nat) : Assigned :=
  match acc.states.lookup layer with
  | none => acc
  | some state =>
    let validatedType := validatedTypeOf overlayLayer layer
    { states := modify layer (fun state => { state with validatedType := validatedType }) acc.states
      changedTypes :=
        if state.requestedType ≠ validatedType then
          emplace layer validatedType acc.changedTypes
        else acc.changedTypes
      hasClientComposition :=
        acc.hasClientComposition || validatedType == HWC2_COMPOSITION_CLIENT }

def assignTypes (overlayLayer : Nat) (states : LayerMap) (order : List Nat) : Assigned :=
  order.foldl (assignStep overlayLayer) { states := states }

/-- `mOverlayDisabledByError` once `validateLayers` has read the property: turning the overlay
off forgets the error. -/
def latchAfterProperty (a : Adapter) (overlayProperty : Bool) : Bool :=
  if !overlayProperty then false else a.mOverlayDisabledByError

/-- The `overlayLayer` that `validateLayers` computes; 0 when the overlay is off or latched. -/
def overlayChoice (a : Adapter) (overlayProperty : Bool) (order : List Nat) : Nat :=
  if overlayProperty && !a.latchAfterProperty overlayProperty then
    selectOverlay a.mFbInfo a.mLayerStates order
  else 0

/-- `validateLayers`, given the property's value and the order both of its loops run in. The
counts it reports are the sizes of the two containers. -/
def validateLayers (a : Adapter) (overlayProperty : Bool) (order : List Nat) : Adapter :=
  let overlayLayer := a.overlayChoice overlayProperty order
  let assigned := assignTypes overlayLayer a.mLayerStates order
  -- an overlay under other layers needs a hole in the client target
  let usesClientTarget := overlayLayer != 0 && assigned.hasClientComposition
  { a with
    mOverlayEnabled := overlayProperty
    mOverlayDisabledByError := a.latchAfterProperty overlayProperty
    mLayerStates := assigned.states
    mChangedTypes := assigned.changedTypes
    mClearClientTargetLayers := if usesClientTarget then {overlayLayer} else ∅
    mHasOverlayLayer := overlayLayer != 0
    mOverlayUsesClientTarget := usesClientTarget
    mOverlayLayer := if overlayLayer ≠ 0 then overlayLayer else a.mOverlayLayer }

/-- `*outNumTypes` and `*outNumRequests`. -/
def outNums (a : Adapter) : Nat × Nat :=
  (a.mChangedTypes.keys.card, a.mClearClientTargetLayers.card)

def acceptChanges (a : Adapter) (order : List Nat) : Adapter :=
  { a with
    mLayerStates := order.foldl
      (fun states layer =>
        modify layer (fun state => { state with requestedType := state.validatedType }) states)
      a.mLayerStates
    mChangedTypes := ∅ }

/-! ## Posting -/

def setBuffer (a : Adapter) (buffer : BufferHandle) : Adapter := { a with mBuffer := buffer }

/-- The calls `postOverlay` and `postBuffer` make. -/
inductive Effect where
  | openFb0 (fbFd : Int)
  | ioctlOnlinePlay (fbFd : Int) (overlay : DssOverlay)
  | close (fd : Int)
  | fbPost (buffer : NativeHandle)

/-- What the outside answers during one `postBuffer`: `open`, `ioctl`, the release fence that
the `ioctl` leaves in the descriptor, and the framebuffer device's `post`. -/
structure PostEnv where
  fbFd : Int
  ioctlResult : Int
  releaseFence : Int
  fbPostError : Int

/-- The exits of `postOverlay`, in the order of the source. Only `posted` returns true. -/
inductive Exit where
  | notWanted
  | missingLayer
  | noClientTarget
  | videoInvalid
  | clientTargetInvalid
  | openFailed
  | ioctlFailed
  | posted
deriving DecidableEq

/-- The four updates every failure from the client target on makes. -/
def disableOverlay (a : Adapter) : Adapter :=
  { a with
    mOverlayDisabledByError := true
    mHasOverlayLayer := false
    mOverlayUsesClientTarget := false
    mState := .MODIFIED }

/-- The descriptor of the video layer. -/
def videoLayer (video : LayerState) : Option DssLayer :=
  fillDssLayer video.buffer video.sourceCrop video.displayFrame HWC2_BLEND_MODE_NONE 1
    video.transform 0 DPE0_CHN0 CAP_DMA

/-- The descriptor of the client target, which covers the display. -/
def clientTargetLayer (a : Adapter) : Option DssLayer :=
  fillDssLayer a.mBuffer ⟨0, 0, a.mFbInfo.width, a.mFbInfo.height⟩
    ⟨0, 0, toInt32 a.mFbInfo.width, toInt32 a.mFbInfo.height⟩
    HWC2_BLEND_MODE_PREMULTIPLIED 1 0 1 DPE0_CHN3 CAP_FB_POST

/-- The `overlay` structure `postOverlay` hands to the driver, `layer_nums` layers filled. -/
def overlayDescriptor (a : Adapter) (video : DssLayer) (client : Option DssLayer) :
    DssOverlay :=
  let cleared : DssOverlay := {
    release_fence := -1
    wb_layer_info := { acquire_fence := -1, release_fence := -1 }
    ovl_flags := DSS_SCENE_PDP_ONLINE
    dirty_rect := { x := 0, y := 0, w := a.mFbInfo.width, h := a.mFbInfo.height } }
  let infos := cleared.layer_infos.set 0 video (by decide)
  match client with
  | none => { cleared with layer_infos := infos, layer_nums := 1 }
  | some client => { cleared with layer_infos := infos.set 1 client (by decide), layer_nums := 2 }

/-- The calls of a post that got as far as the `ioctl`: both descriptors are closed after it,
whether it failed or not. -/
def playEffects (env : PostEnv) (overlay : DssOverlay) : List Effect :=
  [.openFb0 env.fbFd, .ioctlOnlinePlay env.fbFd overlay, .close env.fbFd] ++
    if env.releaseFence ≥ 0 then [.close env.releaseFence] else []

/-- The last part of `postOverlay`: open the framebuffer, play the overlay, close everything. -/
def playOverlay (a : Adapter) (env : PostEnv) (overlay : DssOverlay) :
    Adapter × Exit × List Effect :=
  if env.fbFd < 0 then (a.disableOverlay, .openFailed, [.openFb0 env.fbFd])
  else if env.ioctlResult ≠ 0 then (a.disableOverlay, .ioctlFailed, playEffects env overlay)
  else (a, .posted, playEffects env overlay)

/-- `postOverlay`: the adapter, the exit taken and the calls made on the way. -/
def postOverlay (a : Adapter) (env : PostEnv) : Adapter × Exit × List Effect :=
  if !a.mHasOverlayLayer || a.mOverlayDisabledByError then (a, .notWanted, [])
  else
    match a.mLayerStates.lookup a.mOverlayLayer with
    | none => (a, .missingLayer, [])
    | some video =>
      if a.mOverlayUsesClientTarget && a.mBuffer.isNone then
        (a.disableOverlay, .noClientTarget, [])
      else
        match videoLayer video with
        | none => (a.disableOverlay, .videoInvalid, [])
        | some videoInfo =>
          if a.mOverlayUsesClientTarget then
            match a.clientTargetLayer with
            | none => (a.disableOverlay, .clientTargetInvalid, [])
            | some clientInfo =>
              a.playOverlay env (a.overlayDescriptor videoInfo (some clientInfo))
          else a.playOverlay env (a.overlayDescriptor videoInfo none)

/-- How `postBuffer` ends: the overlay returned true, or the rest of the function runs with
this `error`. -/
inductive Posted where
  | overlay
  | fbdev (error : Int)
deriving DecidableEq

/-- The plain framebuffer post, which is also the fallback. -/
def fbdevPost (a : Adapter) (env : PostEnv) : Posted × List Effect :=
  match a.mBuffer with
  | some buffer => (.fbdev env.fbPostError, [.fbPost buffer])
  | none => (.fbdev 0, [])

def postBuffer (a : Adapter) (env : PostEnv) : Adapter × Posted × List Effect :=
  if a.mHasOverlayLayer then
    match a.postOverlay env with
    | (a', .posted, effects) => (a', .overlay, effects)
    | (a', _, effects) => (a', (a'.fbdevPost env).1, effects ++ (a'.fbdevPost env).2)
  else (a, a.fbdevPost env)

end Adapter

/-! ## The adapter under any sequence of calls -/

/-- The calls the hooks make on the adapter, with everything decided outside it. -/
inductive Call where
  | setState (state : State)
  | addLayer
  | removeLayer (layer : Nat)
  | setLayerBuffer (layer : Nat) (buffer : BufferHandle)
  | setLayerCompositionType (layer : Nat) (type : Int)
  | setLayerBlendMode (layer : Nat) (mode : Int)
  | setLayerDisplayFrame (layer : Nat) (frame : HwcRect)
  | setLayerPlaneAlpha (layer : Nat) (alpha : Rat)
  | setLayerSourceCrop (layer : Nat) (crop : HwcFRect)
  | setLayerTransform (layer : Nat) (transform : Int)
  | setLayerZOrder (layer : Nat) (z : Nat)
  | validateLayers (overlayProperty : Bool) (order : List Nat)
  | acceptChanges (order : List Nat)
  | setBuffer (buffer : BufferHandle)
  | postBuffer (env : Adapter.PostEnv)

/-- What a call returns. -/
inductive Result where
  | done
  | id (layer : Nat)
  | found (ok : Bool)
  | counts (numTypes numRequests : Nat)
  | posted (how : Adapter.Posted) (effects : List Adapter.Effect)

namespace Call

/-- The layer a setter or a removal is about. -/
def layer? : Call → Option Nat
  | removeLayer l | setLayerBuffer l _ | setLayerCompositionType l _ | setLayerBlendMode l _
  | setLayerDisplayFrame l _ | setLayerPlaneAlpha l _ | setLayerSourceCrop l _
  | setLayerTransform l _ | setLayerZOrder l _ => some l
  | _ => none

/-- The loops visit the layer map, whatever the order. -/
def Possible (a : Adapter) : Call → Prop
  | validateLayers _ order | acceptChanges order => IsOrder order a.mLayerStates
  | _ => True

instance (a : Adapter) : (call : Call) → Decidable (call.Possible a)
  | validateLayers _ order | acceptChanges order =>
    inferInstanceAs (Decidable (IsOrder order a.mLayerStates))
  | setState _ | addLayer | removeLayer _ | setLayerBuffer _ _ | setLayerCompositionType _ _
  | setLayerBlendMode _ _ | setLayerDisplayFrame _ _ | setLayerPlaneAlpha _ _
  | setLayerSourceCrop _ _ | setLayerTransform _ _ | setLayerZOrder _ _ | setBuffer _
  | postBuffer _ => isTrue trivial

def perform (a : Adapter) : Call → Adapter × Result
  | setState state => (a.setState state, .done)
  | addLayer => let (a', id) := a.addLayer; (a', .id id)
  | removeLayer l => let (a', ok) := a.removeLayer l; (a', .found ok)
  | setLayerBuffer l buffer => let (a', ok) := a.setLayerBuffer l buffer; (a', .found ok)
  | setLayerCompositionType l type =>
    let (a', ok) := a.setLayerCompositionType l type; (a', .found ok)
  | setLayerBlendMode l mode => let (a', ok) := a.setLayerBlendMode l mode; (a', .found ok)
  | setLayerDisplayFrame l frame =>
    let (a', ok) := a.setLayerDisplayFrame l frame; (a', .found ok)
  | setLayerPlaneAlpha l alpha => let (a', ok) := a.setLayerPlaneAlpha l alpha; (a', .found ok)
  | setLayerSourceCrop l crop => let (a', ok) := a.setLayerSourceCrop l crop; (a', .found ok)
  | setLayerTransform l transform =>
    let (a', ok) := a.setLayerTransform l transform; (a', .found ok)
  | setLayerZOrder l z => let (a', ok) := a.setLayerZOrder l z; (a', .found ok)
  | validateLayers overlayProperty order =>
    let a' := a.validateLayers overlayProperty order
    (a', .counts a'.outNums.1 a'.outNums.2)
  | acceptChanges order => (a.acceptChanges order, .done)
  | setBuffer buffer => (a.setBuffer buffer, .done)
  | postBuffer env =>
    let (a', how, effects) := a.postBuffer env
    (a', .posted how effects)

end Call

/-- An adapter with the ids it has handed out so far, oldest first. -/
structure Tracked where
  adapter : Adapter
  issued : List Nat

def Result.newIds : Result → List Nat
  | .id layer => [layer]
  | _ => []

/-- The adapter from its construction on. -/
def system : Transition.System Tracked Call where
  init t := ∃ info, t = ⟨{ mFbInfo := info }, []⟩
  step t call :=
    if call.Possible t.adapter then
      let (a', result) := call.perform t.adapter
      some ⟨a', t.issued ++ result.newIds⟩
    else none

end Mozart.Composer

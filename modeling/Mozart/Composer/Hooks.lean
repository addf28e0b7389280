import Mozart.Composer.RepInv

/-!
# The HWC2 hooks around the adapter

The functions the framework calls. Each checks the display id, reads or writes the adapter and
moves its state; between two of them nothing runs on the adapter.

* The hooks the patch contains are translated under their own names. Those it leaves alone
  (`createLayer`, `destroyLayer`, `setLayerStateHook`, `setClientTarget`, `presentDisplay`) are
  known by the adapter function they call; the state a create, a destroy or a
  `setLayerStateHook` leaves behind is part of the label, as is the moment of a post.
* `setLayerBufferHook` first waits for its acquire fence and closes it, which touches nothing
  of the adapter and is left out. Counts are `Nat`: an adapter has fewer than `2^32` layers.
* **`Hook.perform`** dispatches, **`Hook.repInv_perform`** carries the representation invariant
  over, and `session` is the adapter under every sequence of hooks.
-/

namespace Mozart.Composer

open MapLoop

/-- `hwc2_error_t`, as far as the hooks return it. -/
inductive Hwc2Error where
  | NONE
  | BAD_DISPLAY
  | BAD_LAYER
  | HAS_CHANGES
  | NOT_VALIDATED
deriving DecidableEq

def HWC2_LAYER_REQUEST_CLEAR_CLIENT_TARGET : Int := 1

/-- What a hook returns and writes through its pointers. `written` is the part of the client's
arrays that was filled. -/
inductive Reply where
  | error (error : Hwc2Error)
  | layer (outLayer : Nat)
  | counts (error : Hwc2Error) (outNumTypes outNumRequests : Nat)
  | changedTypes (outNumElements : Nat) (written : List (Nat × Int))
  | requests (outDisplayRequests : Int) (outNumElements : Nat) (written : List (Nat × Int))
  | posted (how : Adapter.Posted) (effects : List Adapter.Effect)

namespace Adapter

def hasLayer (a : Adapter) (layer : Nat) : Bool := layer ∈ a.mLayers

/-! ## Setters -/

/-- The end of every setter's hook in the patch: an unknown layer is an error, a known one
leaves the display to be validated again. -/
def setterHook (set : Adapter × Bool) : Adapter × Reply :=
  if !set.2 then (set.1, .error .BAD_LAYER)
  else (set.1.setState .MODIFIED, .error .NONE)

def setLayerCompositionTypeHook (a : Adapter) (layer : Nat) (type : Int) : Adapter × Reply :=
  setterHook (a.setLayerCompositionType layer type)

def setLayerBlendModeHook (a : Adapter) (layer : Nat) (mode : Int) : Adapter × Reply :=
  setterHook (a.setLayerBlendMode layer mode)

def setLayerDisplayFrameHook (a : Adapter) (layer : Nat) (frame : HwcRect) : Adapter × Reply :=
  setterHook (a.setLayerDisplayFrame layer frame)

def setLayerPlaneAlphaHook (a : Adapter) (layer : Nat) (alpha : Rat) : Adapter × Reply :=
  setterHook (a.setLayerPlaneAlpha layer alpha)

def setLayerSourceCropHook (a : Adapter) (layer : Nat) (crop : HwcFRect) : Adapter × Reply :=
  setterHook (a.setLayerSourceCrop layer crop)

def setLayerTransformHook (a : Adapter) (layer : Nat) (transform : Int) : Adapter × Reply :=
  setterHook (a.setLayerTransform layer transform)

def setLayerZOrderHook (a : Adapter) (layer z : Nat) : Adapter × Reply :=
  setterHook (a.setLayerZOrder layer z)

/-- `setLayerBufferHook`: the one setter that does not change the state. -/
def setLayerBufferHook (a : Adapter) (layer : Nat) (buffer : BufferHandle) : Adapter × Reply :=
  if !a.hasLayer layer then (a, .error .BAD_LAYER)
  else ((a.setLayerBuffer layer buffer).1, .error .NONE)

/-- `setLayerStateHook`, behind the setters whose value the adapter does not keep. -/
def setLayerStateHook (a : Adapter) (layer : Nat) (after : State) : Adapter × Reply :=
  if !a.hasLayer layer then (a, .error .BAD_LAYER)
  else (a.setState after, .error .NONE)

/-! ## Layers -/

def createLayerHook (a : Adapter) (after : State) : Adapter × Reply :=
  (a.addLayer.1.setState after, .layer a.addLayer.2)

def destroyLayerHook (a : Adapter) (layer : Nat) (after : State) : Adapter × Reply :=
  if !(a.removeLayer layer).2 then (a, .error .BAD_LAYER)
  else ((a.removeLayer layer).1.setState after, .error .NONE)

/-! ## Validation -/

def validateDisplayHook (a : Adapter) (overlayProperty : Bool) (order : List Nat) :
    Adapter × Reply :=
  let a := a.validateLayers overlayProperty order
  let (numTypes, numRequests) := a.outNums
  if numTypes > 0 || numRequests > 0 then
    (a.setState .VALIDATED_WITH_CHANGES, .counts .HAS_CHANGES numTypes numRequests)
  else (a.setState .VALIDATED, .counts .NONE numTypes numRequests)

/-- `getChangedCompositionTypesHook`; `capacity` is `*outNumElements` where the client passes
arrays and `none` where it passes null. `order` is that of `mChangedTypes`. -/
def getChangedCompositionTypesHook (a : Adapter) (capacity : Option Nat) (order : List Nat) :
    Adapter × Reply :=
  if a.mState = .MODIFIED then (a, .error .NOT_VALIDATED)
  else
    match capacity with
    | some capacity =>
      let outNumElements := min capacity a.mChangedTypes.keys.card
      (a, .changedTypes outNumElements (entriesAt (order.take outNumElements) a.mChangedTypes))
    | none => (a, .changedTypes a.mChangedTypes.keys.card [])

/-- `getDisplayRequestsHook`; `order` is that of `mClearClientTargetLayers`. -/
def getDisplayRequestsHook (a : Adapter) (capacity : Option Nat) (order : List Nat) :
    Adapter × Reply :=
  if a.mState = .MODIFIED then (a, .error .NOT_VALIDATED)
  else
    match capacity with
    | some capacity =>
      let outNumElements := min capacity a.mClearClientTargetLayers.card
      (a, .requests 0 outNumElements ((order.take outNumElements).map fun l =>
        (l, HWC2_LAYER_REQUEST_CLEAR_CLIENT_TARGET)))
    | none => (a, .requests 0 a.mClearClientTargetLayers.card [])

def acceptDisplayChangesHook (a : Adapter) (order : List Nat) : Adapter × Reply :=
  if a.mState = .MODIFIED then (a, .error .NOT_VALIDATED)
  else ((a.acceptChanges order).setState .VALIDATED, .error .NONE)

/-! ## Presenting -/

def setClientTargetHook (a : Adapter) (target : BufferHandle) : Adapter × Reply :=
  (a.setBuffer target, .error .NONE)

/-- `presentDisplayHook`, once it has decided to post. -/
def presentDisplayHook (a : Adapter) (env : PostEnv) : Adapter × Reply :=
  let (a', how, effects) := a.postBuffer env
  (a', .posted how effects)

end Adapter

/-! ## The hooks as labels -/

inductive Hook where
  | createLayer (after : State)
  | destroyLayer (layer : Nat) (after : State)
  | setLayerBuffer (layer : Nat) (buffer : BufferHandle)
  | setLayerCompositionType (layer : Nat) (type : Int)
  | setLayerBlendMode (layer : Nat) (mode : Int)
  | setLayerDisplayFrame (layer : Nat) (frame : HwcRect)
  | setLayerPlaneAlpha (layer : Nat) (alpha : Rat)
  | setLayerSourceCrop (layer : Nat) (crop : HwcFRect)
  | setLayerTransform (layer : Nat) (transform : Int)
  | setLayerZOrder (layer : Nat) (z : Nat)
  | setLayerState (layer : Nat) (after : State)
  | setClientTarget (target : BufferHandle)
  | validateDisplay (overlayProperty : Bool) (order : List Nat)
  | getChangedCompositionTypes (capacity : Option Nat) (order : List Nat)
  | getDisplayRequests (capacity : Option Nat) (order : List Nat)
  | acceptDisplayChanges (order : List Nat)
  | presentDisplay (env : Adapter.PostEnv)

namespace Hook

/-- The loops of a hook visit their container, whatever the order. -/
def Possible (a : Adapter) : Hook → Prop
  | validateDisplay _ order | acceptDisplayChanges order => IsOrder order a.mLayerStates
  | getChangedCompositionTypes _ order => IsOrder order a.mChangedTypes
  | getDisplayRequests _ order => order.Nodup ∧ order.toFinset = a.mClearClientTargetLayers
  | _ => True

instance (a : Adapter) : (hook : Hook) → Decidable (hook.Possible a)
  | validateDisplay _ order | acceptDisplayChanges order =>
    inferInstanceAs (Decidable (IsOrder order a.mLayerStates))
  | getChangedCompositionTypes _ order =>
    inferInstanceAs (Decidable (IsOrder order a.mChangedTypes))
  | getDisplayRequests _ order =>
    inferInstanceAs (Decidable (order.Nodup ∧ order.toFinset = a.mClearClientTargetLayers))
  | createLayer _ | destroyLayer _ _ | setLayerBuffer _ _ | setLayerCompositionType _ _
  | setLayerBlendMode _ _ | setLayerDisplayFrame _ _ | setLayerPlaneAlpha _ _
  | setLayerSourceCrop _ _ | setLayerTransform _ _ | setLayerZOrder _ _ | setLayerState _ _
  | setClientTarget _ | presentDisplay _ => isTrue trivial

def perform (a : Adapter) : Hook → Adapter × Reply
  | createLayer after => a.createLayerHook after
  | destroyLayer layer after => a.destroyLayerHook layer after
  | setLayerBuffer layer buffer => a.setLayerBufferHook layer buffer
  | setLayerCompositionType layer type => a.setLayerCompositionTypeHook layer type
  | setLayerBlendMode layer mode => a.setLayerBlendModeHook layer mode
  | setLayerDisplayFrame layer frame => a.setLayerDisplayFrameHook layer frame
  | setLayerPlaneAlpha layer alpha => a.setLayerPlaneAlphaHook layer alpha
  | setLayerSourceCrop layer crop => a.setLayerSourceCropHook layer crop
  | setLayerTransform layer transform => a.setLayerTransformHook layer transform
  | setLayerZOrder layer z => a.setLayerZOrderHook layer z
  | setLayerState layer after => a.setLayerStateHook layer after
  | setClientTarget target => a.setClientTargetHook target
  | validateDisplay overlayProperty order => a.validateDisplayHook overlayProperty order
  | getChangedCompositionTypes capacity order => a.getChangedCompositionTypesHook capacity order
  | getDisplayRequests capacity order => a.getDisplayRequestsHook capacity order
  | acceptDisplayChanges order => a.acceptDisplayChangesHook order
  | presentDisplay env => a.presentDisplayHook env

end Hook

/-- A call of the framework: the display it names and the hook. -/
structure HookCall where
  display : Nat
  hook : Hook

namespace HookCall

def Possible (displayId : Nat) (a : Adapter) (call : HookCall) : Prop :=
  displayId = call.display → call.hook.Possible a

instance (displayId : Nat) (a : Adapter) (call : HookCall) :
    Decidable (call.Possible displayId a) :=
  inferInstanceAs (Decidable (_ → _))

/-- The first test of every hook, with the display `getDisplayId` names. -/
def perform (displayId : Nat) (a : Adapter) (call : HookCall) : Adapter × Reply :=
  if displayId ≠ call.display then (a, .error .BAD_DISPLAY) else call.hook.perform a

end HookCall

/-! ## What the hooks can do -/

namespace Adapter

variable {a : Adapter} {layer : Nat}

theorem setterHook_of_mem (h : layer ∈ a.mLayerStates) (f : LayerState → LayerState) :
    setterHook (a.setLayer layer f) =
      ({ a with mLayerStates := modify layer f a.mLayerStates, mState := .MODIFIED },
        .error .NONE) := by
  rw [setLayer_of_mem h]
  rfl

theorem validateDisplayHook_eq (a : Adapter) (overlayProperty : Bool) (order : List Nat) :
    ∃ state error, state ≠ .MODIFIED ∧ a.validateDisplayHook overlayProperty order =
      ((a.validateLayers overlayProperty order).setState state,
        .counts error (a.validateLayers overlayProperty order).outNums.1
          (a.validateLayers overlayProperty order).outNums.2) := by
  unfold validateDisplayHook
  simp only
  split
  · exact ⟨.VALIDATED_WITH_CHANGES, .HAS_CHANGES, by decide, rfl⟩
  · exact ⟨.VALIDATED, .NONE, by decide, rfl⟩

theorem setterHook_of_notMem (h : layer ∉ a.mLayerStates) (f : LayerState → LayerState) :
    setterHook (a.setLayer layer f) = (a, .error .BAD_LAYER) := by
  rw [setLayer_of_notMem h]
  rfl

end Adapter

namespace Hook

open Adapter

/-- The setters of a field that is neither the buffer nor a type. -/
def setsPlainField : Hook → Bool
  | setLayerBlendMode _ _ | setLayerDisplayFrame _ _ | setLayerPlaneAlpha _ _
  | setLayerSourceCrop _ _ | setLayerTransform _ _ | setLayerZOrder _ _ => true
  | _ => false

/-- What a hook can do to the adapter and reply. A failed test leaves the adapter alone. -/
inductive Move (a : Adapter) : Hook → Adapter × Reply → Prop where
  | refused {hook : Hook} {error : Hwc2Error} (herror : error ≠ .NONE) :
      Move a hook (a, .error error)
  | created (after : State) :
      Move a (createLayer after) (a.addLayer.1.setState after, .layer a.addLayer.2)
  | destroyed {layer : Nat} (after : State) (hlive : layer ∈ a.mLayers) :
      Move a (destroyLayer layer after) ((a.removeLayer layer).1.setState after, .error .NONE)
  | buffer {layer : Nat} (buffer : BufferHandle) (hlive : layer ∈ a.mLayerStates) :
      Move a (setLayerBuffer layer buffer)
        ({ a with mLayerStates :=
            modify layer (fun state => { state with buffer := buffer }) a.mLayerStates },
          .error .NONE)
  | typed {layer : Nat} (type : Int) (hlive : layer ∈ a.mLayerStates) :
      Move a (setLayerCompositionType layer type)
        ({ a with
            mLayerStates :=
              modify layer (fun state => { state with requestedType := type }) a.mLayerStates
            mState := .MODIFIED }, .error .NONE)
  | setter {hook : Hook} {layer : Nat} {f : LayerState → LayerState}
      (hhook : hook.setsPlainField = true) (hlive : layer ∈ a.mLayerStates)
      (hbuffer : ∀ state, (f state).buffer = state.buffer)
      (hrequested : ∀ state, (f state).requestedType = state.requestedType)
      (hvalidated : ∀ state, (f state).validatedType = state.validatedType) :
      Move a hook ({ a with
        mLayerStates := modify layer f a.mLayerStates, mState := .MODIFIED }, .error .NONE)
  | state {layer : Nat} (after : State) :
      Move a (setLayerState layer after) (a.setState after, .error .NONE)
  | target (target : BufferHandle) :
      Move a (setClientTarget target) (a.setBuffer target, .error .NONE)
  | validated (overlayProperty : Bool) (order : List Nat) {state : State} {error : Hwc2Error}
      (hstate : state ≠ .MODIFIED) :
      Move a (validateDisplay overlayProperty order)
        ((a.validateLayers overlayProperty order).setState state,
          .counts error (a.validateLayers overlayProperty order).outNums.1
            (a.validateLayers overlayProperty order).outNums.2)
  | typesCount {order : List Nat} (hstate : a.mState ≠ .MODIFIED) :
      Move a (getChangedCompositionTypes none order)
        (a, .changedTypes a.mChangedTypes.keys.card [])
  | types {capacity : Nat} {order : List Nat} (hstate : a.mState ≠ .MODIFIED) :
      Move a (getChangedCompositionTypes (some capacity) order)
        (a, .changedTypes (min capacity a.mChangedTypes.keys.card)
          (entriesAt (order.take (min capacity a.mChangedTypes.keys.card)) a.mChangedTypes))
  | requests {capacity : Option Nat} {order : List Nat} (outNumElements : Nat)
      (written : List (Nat × Int)) :
      Move a (getDisplayRequests capacity order) (a, .requests 0 outNumElements written)
  | accepted (order : List Nat) (hstate : a.mState ≠ .MODIFIED) :
      Move a (acceptDisplayChanges order)
        ((a.acceptChanges order).setState .VALIDATED, .error .NONE)
  | posted (env : PostEnv) :
      Move a (presentDisplay env)
        ((a.postBuffer env).1, .posted (a.postBuffer env).2.1 (a.postBuffer env).2.2)

variable {a : Adapter}

theorem move_setterHook {hook : Hook} {layer : Nat} {f : LayerState → LayerState}
    (hhook : hook.setsPlainField = true)
    (hbuffer : ∀ state, (f state).buffer = state.buffer)
    (hrequested : ∀ state, (f state).requestedType = state.requestedType)
    (hvalidated : ∀ state, (f state).validatedType = state.validatedType) :
    Move a hook (setterHook (a.setLayer layer f)) := by
  by_cases hlive : layer ∈ a.mLayerStates
  · rw [setterHook_of_mem hlive]
    exact .setter hhook hlive hbuffer hrequested hvalidated
  · rw [setterHook_of_notMem hlive]
    exact .refused (by decide)

/-- **Every hook makes one of these moves.** -/
theorem move (h : RepInv a) (hook : Hook) : Move a hook (hook.perform a) := by
  cases hook with
  | createLayer after => exact .created after
  | destroyLayer layer after =>
    show Move a _ (if _ then _ else _)
    by_cases hlive : layer ∈ a.mLayers
    · rw [if_neg (by simp [removeLayer_of_mem hlive])]
      exact .destroyed after hlive
    · rw [if_pos (by simp [removeLayer_of_notMem hlive])]
      exact .refused (by decide)
  | setLayerBuffer layer buffer =>
    show Move a _ (if _ then _ else _)
    -- the hook looks for the layer in the list, the setter in the states: the same ids
    by_cases hlive : layer ∈ a.mLayers
    · rw [if_neg (by simp [hasLayer, hlive]), Adapter.setLayerBuffer,
        setLayer_of_mem (h.mem_layers_iff.mp hlive)]
      exact .buffer buffer (h.mem_layers_iff.mp hlive)
    · rw [if_pos (by simp [hasLayer, hlive])]
      exact .refused (by decide)
  | setLayerCompositionType layer type =>
    show Move a _ (setterHook (a.setLayer layer _))
    by_cases hlive : layer ∈ a.mLayerStates
    · rw [setterHook_of_mem hlive]
      exact .typed type hlive
    · rw [setterHook_of_notMem hlive]
      exact .refused (by decide)
  | setLayerBlendMode | setLayerDisplayFrame | setLayerPlaneAlpha | setLayerSourceCrop
  | setLayerTransform | setLayerZOrder =>
    exact move_setterHook rfl (fun _ => rfl) (fun _ => rfl) (fun _ => rfl)
  | setLayerState layer after =>
    show Move a _ (if _ then _ else _)
    split
    · exact .refused (by decide)
    · exact .state after
  | setClientTarget target => exact .target target
  | validateDisplay overlayProperty order =>
    -- which of the two states it ends in does not matter here
    obtain ⟨state, error, hstate, heq⟩ := validateDisplayHook_eq a overlayProperty order
    show Move a _ (a.validateDisplayHook overlayProperty order)
    rw [heq]
    exact .validated overlayProperty order hstate
  | getChangedCompositionTypes capacity order =>
    show Move a _ (if _ then _ else _)
    split
    · exact .refused (by decide)
    · next hstate =>
      cases capacity with
      | none => exact .typesCount hstate
      | some capacity => exact .types hstate
  | getDisplayRequests capacity order =>
    show Move a _ (if _ then _ else _)
    split
    · exact .refused (by decide)
    · cases capacity with
      | none => exact .requests _ _
      | some capacity => exact .requests _ _
  | acceptDisplayChanges order =>
    show Move a _ (if _ then _ else _)
    split
    · exact .refused (by decide)
    · next hstate => exact .accepted order hstate
  | presentDisplay env => exact .posted env

/-- **The hooks keep the representation invariant.** -/
theorem repInv_perform (h : RepInv a) {hook : Hook} (hhook : hook.Possible a) :
    RepInv (hook.perform a).1 := by
  have hmove := move h hook
  revert hmove
  generalize hook.perform a = r
  intro hmove
  cases hmove with
  | refused | typesCount | types | requests => exact h
  | created after => exact h.addLayer.setState after
  | destroyed after hlive => exact (h.removeLayer _).setState after
  | @buffer layer buffer hlive =>
    have hset := h.setLayer layer (f := fun state => { state with buffer := buffer }) fun _ => rfl
    rwa [setLayer_of_mem hlive] at hset
  | @typed layer type hlive =>
    have hset := h.setLayer layer (f := fun state => { state with requestedType := type })
      fun _ => rfl
    rw [setLayer_of_mem hlive] at hset
    exact hset.setState .MODIFIED
  | @setter _ layer f _ hlive _ _ hvalidated =>
    have hset := h.setLayer layer hvalidated
    rw [setLayer_of_mem hlive] at hset
    exact hset.setState .MODIFIED
  | state after => exact h.setState after
  | target target => exact h.setBuffer target
  | validated overlayProperty order =>
    exact (h.validateLayers overlayProperty hhook).setState _
  | accepted order => exact (h.acceptChanges hhook).setState _
  | posted env => exact h.postBuffer env

end Hook

end Mozart.Composer

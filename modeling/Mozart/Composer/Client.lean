import Mozart.Composer.Hooks

/-!
# The client's copy of the composition types

The framework keeps its own table of the types it set. What the adapter decides otherwise it
learns from the list of changed types, and it makes the list its own when it accepts.

* **`Client.observe`** is this bookkeeping, driven by the replies alone; `conversation` puts
  client and adapter together under every sequence of hooks the client may call.
* **`Diff`**: the adapter's list is exactly the difference of requested and validated types,
  until the display is modified. One lemma for each operation that touches a type.
* **`Patches`** says the same of a list the client holds; **`Patches.lookup_applyPairs`** is what
  applying it does to a table of the requests.
-/

namespace Mozart.Composer

open MapLoop Transition Adapter

/-- What the client remembers. -/
structure Client where
  table : Finmap fun _ : Nat => Int := ∅
  /-- The number of changed types the adapter named since the last validation. -/
  count : Option Nat := none
  /-- The changed types fetched since the last validation; there is nothing to fetch after one
  without changes. -/
  fetched : Option (List (Nat × Int)) := none

/-- What the client makes of a hook's reply. A layer it already has is not a fresh one. -/
def Client.observe (c : Client) (hook : Hook) (reply : Reply) : Client :=
  match hook, reply with
  | .createLayer _, .layer layer =>
    { c with table := emplace layer HWC2_COMPOSITION_CLIENT c.table }
  | .destroyLayer layer _, .error .NONE => { c with table := c.table.erase layer }
  | .setLayerCompositionType layer type, .error .NONE =>
    { c with table := c.table.insert layer type }
  | .validateDisplay _ _, .counts _ numTypes _ =>
    { c with count := none, fetched := if numTypes = 0 then some [] else none }
  | .getChangedCompositionTypes none _, .changedTypes numElements _ =>
    { c with count := some numElements }
  | .getChangedCompositionTypes (some _) _, .changedTypes _ written =>
    { c with fetched := some written }
  | .acceptDisplayChanges _, .error .NONE =>
    { c with table := applyPairs (c.fetched.getD []) c.table }
  | _, _ => c

structure Conversation where
  adapter : Adapter
  client : Client := {}

/-- Client and adapter, under every sequence of hooks. -/
def conversation (displayId : Nat) : System Conversation HookCall where
  init c := ∃ info, c = { adapter := { mFbInfo := info } }
  step c call :=
    if call.Possible displayId c.adapter then
      some ⟨(call.perform displayId c.adapter).1,
        c.client.observe call.hook (call.perform displayId c.adapter).2⟩
    else none

/-- The client's discipline, and what is assumed of the hooks the patch leaves alone: arrays of
changed types have the length the null call named, an acceptance follows the fetch, and no
layer that comes, goes or is given a value makes a modified display a validated one. -/
def Hook.Allowed (c : Conversation) : Hook → Prop
  | createLayer after | destroyLayer _ after | setLayerState _ after =>
    c.adapter.mState = .MODIFIED → after = .MODIFIED
  | getChangedCompositionTypes (some capacity) _ => c.client.count = some capacity
  | acceptDisplayChanges _ => c.client.fetched.isSome = true
  | _ => True

instance (c : Conversation) : (hook : Hook) → Decidable (hook.Allowed c)
  | .createLayer after | .destroyLayer _ after | .setLayerState _ after =>
    inferInstanceAs (Decidable (c.adapter.mState = .MODIFIED → after = .MODIFIED))
  | .getChangedCompositionTypes (some capacity) _ =>
    inferInstanceAs (Decidable (c.client.count = some capacity))
  | .acceptDisplayChanges _ => inferInstanceAs (Decidable (c.client.fetched.isSome = true))
  | .setLayerBuffer _ _ | .setLayerCompositionType _ _ | .setLayerBlendMode _ _
  | .setLayerDisplayFrame _ _ | .setLayerPlaneAlpha _ _ | .setLayerSourceCrop _ _
  | .setLayerTransform _ _ | .setLayerZOrder _ _ | .setClientTarget _ | .validateDisplay _ _
  | .getChangedCompositionTypes none _ | .getDisplayRequests _ _ | .presentDisplay _ =>
    isTrue trivial

def allowed (c : Conversation) (call : HookCall) : Prop := call.hook.Allowed c

instance (c : Conversation) (call : HookCall) : Decidable (allowed c call) :=
  inferInstanceAs (Decidable (call.hook.Allowed c))

theorem Client.observe_refused (c : Client) (hook : Hook) {error : Hwc2Error}
    (herror : error ≠ .NONE) : c.observe hook (.error error) = c := by
  cases hook with
  | destroyLayer | setLayerCompositionType | acceptDisplayChanges =>
    cases error with
    | NONE => exact absurd rfl herror
    | _ => rfl
  | getChangedCompositionTypes capacity => cases capacity <;> rfl
  | _ => rfl

theorem Client.observe_plain (c : Client) {hook : Hook} (hhook : hook.setsPlainField = true) :
    c.observe hook (.error .NONE) = c := by
  cases hook <;> first | rfl | cases hhook

/-! ## The two types of each layer -/

/-- The type requested for a layer and the type its last validation gave it. -/
def Adapter.types (a : Adapter) (l : Nat) : Option (Int × Int) :=
  (a.mLayerStates.lookup l).map fun state => (state.requestedType, state.validatedType)

section types

variable {a : Adapter} {layer : Nat}

theorem types_addLayer (l : Nat) : a.addLayer.1.types l =
    if l = a.addLayer.2 then
      some ((a.types l).getD (HWC2_COMPOSITION_CLIENT, HWC2_COMPOSITION_CLIENT))
    else a.types l := by
  show ((emplace a.addLayer.2 {} a.mLayerStates).lookup l).map _ = _
  rw [lookup_emplace, types]
  split_ifs with hl
  · rw [← hl]
    cases a.mLayerStates.lookup l <;> rfl
  · rfl

theorem types_removeLayer (h : layer ∈ a.mLayers) (l : Nat) :
    (a.removeLayer layer).1.types l = if l = layer then none else a.types l := by
  rw [removeLayer_of_mem h]
  show ((a.mLayerStates.erase layer).lookup l).map _ = _
  split_ifs with hl
  · rw [hl, Finmap.lookup_erase, Option.map_none]
  · rw [Finmap.lookup_erase_ne hl]
    rfl

theorem map_types_modify (layer : Nat) (f : LayerState → LayerState)
    (hrequested : ∀ state, (f state).requestedType = state.requestedType)
    (hvalidated : ∀ state, (f state).validatedType = state.validatedType) (m : LayerMap) (l : Nat) :
    ((modify layer f m).lookup l).map (fun state => (state.requestedType, state.validatedType)) =
      (m.lookup l).map fun state => (state.requestedType, state.validatedType) := by
  rw [lookup_modify]
  split_ifs with hl
  · rw [hl, Option.map_map]
    exact Option.map_congr fun state _ => Prod.ext (hrequested state) (hvalidated state)
  · rfl

theorem types_validateLayers (a : Adapter) (overlayProperty : Bool) {order : List Nat}
    (horder : IsOrder order a.mLayerStates) (l : Nat) :
    (a.validateLayers overlayProperty order).types l = (a.types l).map
      fun type => (type.1, validatedTypeOf (a.overlayChoice overlayProperty order) l) := by
  rw [types, lookup_validateLayers a overlayProperty horder, types, Option.map_map, Option.map_map]
  rfl

theorem types_acceptChanges {order : List Nat} (horder : IsOrder order a.mLayerStates) (l : Nat) :
    (a.acceptChanges order).types l = (a.types l).map fun type => (type.2, type.2) := by
  rw [types, lookup_acceptChanges horder, types, Option.map_map, Option.map_map]
  rfl

/-- The changed types after a validation: the layers that asked for another type. -/
theorem changedTypes_validateLayers (a : Adapter) (overlayProperty : Bool) {order : List Nat}
    (horder : IsOrder order a.mLayerStates) (l : Nat) :
    (a.validateLayers overlayProperty order).mChangedTypes.lookup l = (a.types l).bind fun type =>
      if type.1 ≠ validatedTypeOf (a.overlayChoice overlayProperty order) l then
        some (validatedTypeOf (a.overlayChoice overlayProperty order) l) else none := by
  refine ((assignTypes_spec _ horder).changed_eq l).trans ?_
  rw [types, Option.bind_map]
  split
  · rfl
  · next hl =>
    have hnone : a.mLayerStates.lookup l = none :=
      Finmap.lookup_eq_none.mpr (mt horder.mem_iff.mpr hl)
    rw [hnone]
    rfl

/-- A layer's type is only ever changed to `CLIENT`: the overlay had asked for `DEVICE`. -/
theorem eq_client_of_changed {overlayProperty : Bool} {order : List Nat}
    (horder : IsOrder order a.mLayerStates) {l : Nat} {requested : Int}
    (hrequested : (a.types l).map Prod.fst = some requested)
    (hchanged : requested ≠ validatedTypeOf (a.overlayChoice overlayProperty order) l) :
    validatedTypeOf (a.overlayChoice overlayProperty order) l = HWC2_COMPOSITION_CLIENT := by
  by_cases hdevice : a.overlayChoice overlayProperty order ≠ 0 ∧
      l = a.overlayChoice overlayProperty order
  · obtain ⟨state, hstate, helig⟩ := overlayChoice_eligible horder hdevice.1
    rw [types, hdevice.2, hstate] at hrequested
    have hasked : requested = HWC2_COMPOSITION_DEVICE :=
      (Option.some.inj hrequested).symm.trans helig.device
    exact absurd (hasked.trans (validatedTypeOf_eq_device.mpr hdevice).symm) hchanged
  · exact if_neg hdevice

end types

/-! ## The adapter's list is the difference -/

/-- The changed types name every layer whose request was not granted, and no other. -/
structure Diff (a : Adapter) : Prop where
  client : ∀ l type, a.mChangedTypes.lookup l = some type → type = HWC2_COMPOSITION_CLIENT
  changed : a.mState ≠ .MODIFIED → ∀ l type, a.types l = some type →
    a.mChangedTypes.lookup l = if type.1 ≠ type.2 then some type.2 else none

/-- Pairs that turn every layer's request into its validated type. -/
structure Patches (a : Adapter) (pairs : List (Nat × Int)) : Prop where
  client : ∀ p ∈ pairs, p.2 = HWC2_COMPOSITION_CLIENT
  types : a.mState ≠ .MODIFIED → ∀ l type, a.types l = some type →
    type.2 = if l ∈ pairs.map Prod.fst then HWC2_COMPOSITION_CLIENT else type.1

variable {a a' : Adapter} {layer : Nat} {hook : Hook}

/-- A step that keeps the types of the layers keeps what is said about them. -/
theorem Diff.of_types (h : Diff a) (htypes : ∀ l, a'.types l = a.types l)
    (hchanged : a'.mChangedTypes = a.mChangedTypes)
    (hstate : a'.mState ≠ .MODIFIED → a.mState ≠ .MODIFIED) : Diff a' where
  client l type hl := h.client l type (hchanged ▸ hl)
  changed hmod l type hl := by
    rw [hchanged]
    exact h.changed (hstate hmod) l type (htypes l ▸ hl)

theorem Patches.of_types {pairs : List (Nat × Int)} (h : Patches a pairs)
    (htypes : ∀ l, a'.types l = a.types l)
    (hstate : a'.mState ≠ .MODIFIED → a.mState ≠ .MODIFIED) : Patches a' pairs where
  client := h.client
  types hmod l type hl := h.types (hstate hmod) l type (htypes l ▸ hl)

theorem Diff.addLayer (hrep : RepInv a) (h : Diff a) {after : State}
    (hafter : a.mState = .MODIFIED → after = .MODIFIED) : Diff (a.addLayer.1.setState after) where
  client := h.client
  changed hmod l type hl := by
    have hstate : a.mState ≠ .MODIFIED := mt hafter hmod
    change a.addLayer.1.types l = some type at hl
    rw [types_addLayer] at hl
    show a.mChangedTypes.lookup l = _
    split_ifs at hl with hid
    · cases htype : a.types l with
      | some type' =>
        rw [htype] at hl
        exact Option.some.inj hl ▸ h.changed hstate l type' htype
      | none =>
        -- a fresh layer: nothing is said about its id
        rw [htype] at hl
        obtain rfl := Option.some.inj hl
        cases hchanged : a.mChangedTypes.lookup l with
        | none => rfl
        | some type' =>
          have hlive := hrep.mem_layers_iff.mp (hrep.changed l type' hchanged).1
          obtain ⟨state, hstate⟩ := Finmap.mem_iff.mp hlive
          rw [types, hstate] at htype
          cases htype
    · exact h.changed hstate l type hl

theorem Patches.addLayer {pairs : List (Nat × Int)} (h : Patches a pairs) {after : State}
    (hafter : a.mState = .MODIFIED → after = .MODIFIED) :
    Patches (a.addLayer.1.setState after) pairs where
  client := h.client
  types hmod l type hl := by
    have hstate : a.mState ≠ .MODIFIED := mt hafter hmod
    change a.addLayer.1.types l = some type at hl
    rw [types_addLayer] at hl
    split_ifs at hl with hid
    · cases htype : a.types l with
      | some type' =>
        rw [htype] at hl
        exact Option.some.inj hl ▸ h.types hstate l type' htype
      | none =>
        rw [htype] at hl
        obtain rfl := Option.some.inj hl
        exact (ite_self _).symm
    · exact h.types hstate l type hl

theorem Diff.removeLayer (h : Diff a) (hlive : layer ∈ a.mLayers) {after : State}
    (hafter : a.mState = .MODIFIED → after = .MODIFIED) :
    Diff ((a.removeLayer layer).1.setState after) := by
  have hchanged : ((a.removeLayer layer).1.setState after).mChangedTypes =
      a.mChangedTypes.erase layer := by
    rw [removeLayer_of_mem hlive]
    rfl
  refine ⟨fun l type hl => ?_, fun hmod l type hl => ?_⟩
  · rw [hchanged] at hl
    by_cases hne : l = layer
    · rw [hne, Finmap.lookup_erase] at hl
      cases hl
    · rw [Finmap.lookup_erase_ne hne] at hl
      exact h.client l type hl
  · change (a.removeLayer layer).1.types l = some type at hl
    rw [types_removeLayer hlive] at hl
    split_ifs at hl with hne
    rw [hchanged, Finmap.lookup_erase_ne hne]
    exact h.changed (mt hafter hmod) l type hl

theorem Patches.removeLayer {pairs : List (Nat × Int)} (h : Patches a pairs)
    (hlive : layer ∈ a.mLayers) {after : State}
    (hafter : a.mState = .MODIFIED → after = .MODIFIED) :
    Patches ((a.removeLayer layer).1.setState after) pairs where
  client := h.client
  types hmod l type hl := by
    change (a.removeLayer layer).1.types l = some type at hl
    rw [types_removeLayer hlive] at hl
    split_ifs at hl
    exact h.types (mt hafter hmod) l type hl

/-- **After a validation** the changed types are the difference, whatever was said before. -/
theorem diff_validateLayers (a : Adapter) (overlayProperty : Bool) {order : List Nat}
    (horder : IsOrder order a.mLayerStates) (state : State) :
    Diff ((a.validateLayers overlayProperty order).setState state) where
  client l type hl := by
    change (a.validateLayers overlayProperty order).mChangedTypes.lookup l = some type at hl
    rw [changedTypes_validateLayers a overlayProperty horder] at hl
    obtain ⟨⟨requested, validated⟩, htype, hchanged⟩ := Option.bind_eq_some_iff.mp hl
    split_ifs at hchanged with hne
    rw [← Option.some.inj hchanged]
    exact eq_client_of_changed horder (by rw [htype]; rfl) hne
  changed _ l type hl := by
    change (a.validateLayers overlayProperty order).types l = some type at hl
    show (a.validateLayers overlayProperty order).mChangedTypes.lookup l = _
    rw [types_validateLayers a overlayProperty horder] at hl
    obtain ⟨type', htype, rfl⟩ := Option.map_eq_some_iff.mp hl
    rw [changedTypes_validateLayers a overlayProperty horder, htype]
    rfl

theorem diff_acceptChanges {order : List Nat} (horder : IsOrder order a.mLayerStates)
    (state : State) : Diff ((a.acceptChanges order).setState state) where
  client l type hl := by
    change Finmap.lookup l (∅ : Finmap fun _ : Nat => Int) = some type at hl
    rw [Finmap.lookup_empty] at hl
    cases hl
  changed _ l type hl := by
    change (a.acceptChanges order).types l = some type at hl
    rw [types_acceptChanges horder] at hl
    obtain ⟨type', -, rfl⟩ := Option.map_eq_some_iff.mp hl
    show Finmap.lookup l (∅ : Finmap fun _ : Nat => Int) = _
    rw [Finmap.lookup_empty, if_neg (not_not.mpr rfl)]

theorem Patches.acceptChanges {pairs : List (Nat × Int)} (h : Patches a pairs) {order : List Nat}
    (horder : IsOrder order a.mLayerStates) (hstate : a.mState ≠ .MODIFIED) (state : State) :
    Patches ((a.acceptChanges order).setState state) pairs where
  client := h.client
  types _ l type hl := by
    change (a.acceptChanges order).types l = some type at hl
    rw [types_acceptChanges horder] at hl
    obtain ⟨type', htype, rfl⟩ := Option.map_eq_some_iff.mp hl
    have hpatch := h.types hstate l type' htype
    split_ifs at hpatch ⊢
    · exact hpatch
    · rfl

/-- The complete list of changed types is such a patch. -/
theorem Diff.patches (h : Diff a) {order : List Nat} (horder : IsOrder order a.mChangedTypes) :
    Patches a (entriesAt order a.mChangedTypes) where
  client p hp := h.client p.1 p.2 (mem_entriesAt.mp hp).2
  types hmod l type hl := by
    have hlookup := h.changed hmod l type hl
    rw [horder.map_fst_entriesAt]
    by_cases hmem : l ∈ order
    · rw [if_pos hmem]
      obtain ⟨changed, hchanged⟩ := Finmap.mem_iff.mp (horder.mem_iff.mp hmem)
      rw [hchanged] at hlookup
      split_ifs at hlookup
      exact Option.some.inj hlookup ▸ h.client l changed hchanged
    · rw [if_neg hmem]
      have hnone : a.mChangedTypes.lookup l = none :=
        Finmap.lookup_eq_none.mpr (mt horder.mem_iff.mpr hmem)
      rw [hnone] at hlookup
      split_ifs at hlookup with hne
      exact (not_not.mp hne).symm

/-- A table of the requests, patched, is a table of the validated types. -/
theorem Patches.lookup_applyPairs {pairs : List (Nat × Int)} (h : Patches a pairs)
    (hmod : a.mState ≠ .MODIFIED) {table : Finmap fun _ : Nat => Int}
    (htable : ∀ l, table.lookup l = (a.types l).map Prod.fst) (l : Nat) :
    (applyPairs pairs table).lookup l = (a.types l).map Prod.snd := by
  rw [MapLoop.lookup_applyPairs (fun p hp _ => h.client p hp), htable]
  cases htype : a.types l with
  | none => exact ite_self none
  | some type =>
    have hpatch := h.types hmod l type htype
    show (if _ then some HWC2_COMPOSITION_CLIENT else some type.1) = some type.2
    rw [hpatch]
    split <;> rfl

/-- Arrays that are long enough receive the whole list. -/
theorem take_isOrder {order : List Nat} (horder : IsOrder order a.mChangedTypes) {capacity : Nat}
    (h : a.mChangedTypes.keys.card ≤ capacity) :
    order.take (min capacity a.mChangedTypes.keys.card) = order := by
  rw [min_eq_right h, ← horder.length_eq, List.take_length]

end Mozart.Composer

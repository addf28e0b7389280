import Mozart.Composer.AdapterSpec

/-!
# The representation invariant of the adapter

The adapter keeps the same facts in several places: which layers exist in `mLayers` and in the
keys of `mLayerStates`, which of them is the overlay in its `validatedType`, in `mOverlayLayer`
and in `mClearClientTargetLayers`. `RepInv` says how these belong together.

1. **Preservation**, one lemma per operation. An operation that leaves the layers and their
   validated types alone needs only `RepInv.of_le`.
2. **Ids.** `Issued` ties `mNextLayerId` to the ids handed out; it holds past `2^64` additions
   as well, where the ids start to repeat.
3. **`adapter_consistent`** puts both together for every reachable state.
-/

namespace Mozart.Composer

open MapLoop Transition

namespace Adapter

/-! ## The invariant -/

/-- How the adapter's containers and flags belong together. -/
structure RepInv (a : Adapter) : Prop where
  keys_eq : a.mLayerStates.keys = a.mLayers
  one_device : ∀ l l', a.validatedType l = some HWC2_COMPOSITION_DEVICE →
    a.validatedType l' = some HWC2_COMPOSITION_DEVICE → l = l'
  changed : ∀ l t, a.mChangedTypes.lookup l = some t →
    l ∈ a.mLayers ∧ a.validatedType l = some t
  clear : ∀ l ∈ a.mClearClientTargetLayers,
    l ∈ a.mLayers ∧ a.validatedType l = some HWC2_COMPOSITION_DEVICE
  overlay : a.mHasOverlayLayer = true →
    a.mOverlayLayer ∈ a.mLayers ∧ a.validatedType a.mOverlayLayer = some HWC2_COMPOSITION_DEVICE
  client_target : a.mOverlayUsesClientTarget = true → a.mHasOverlayLayer = true

theorem repInv_new (info : Info) : RepInv { mFbInfo := info } where
  keys_eq := rfl
  one_device l l' h := by simp [validatedType] at h
  changed l t h := by simp at h
  clear l h := by simp at h
  overlay h := by simp at h
  client_target h := by simp at h

namespace RepInv

variable {a a' : Adapter}

theorem mem_layers_iff (h : RepInv a) {l : Nat} : l ∈ a.mLayers ↔ l ∈ a.mLayerStates := by
  rw [← h.keys_eq, Finmap.mem_keys]

/-- An operation that keeps the layers and their validated types keeps the invariant, if it at
most forgets changed types, clear requests and the overlay. -/
theorem of_le (h : RepInv a) (hlayers : a'.mLayers = a.mLayers)
    (hkeys : a'.mLayerStates.keys = a.mLayerStates.keys)
    (htypes : ∀ l, a'.validatedType l = a.validatedType l)
    (hchanged : a'.mChangedTypes = a.mChangedTypes ∨ a'.mChangedTypes = ∅)
    (hclear : a'.mClearClientTargetLayers ⊆ a.mClearClientTargetLayers)
    (hoverlay : a'.mHasOverlayLayer = true →
      a.mHasOverlayLayer = true ∧ a'.mOverlayLayer = a.mOverlayLayer)
    (hclient : a'.mOverlayUsesClientTarget = true → a'.mHasOverlayLayer = true) : RepInv a' where
  keys_eq := by rw [hkeys, hlayers, h.keys_eq]
  one_device l l' hl hl' := h.one_device l l' (htypes l ▸ hl) (htypes l' ▸ hl')
  changed l t hl := by
    rw [hlayers, htypes]
    rcases hchanged with heq | heq
    · exact h.changed l t (heq ▸ hl)
    · rw [heq, Finmap.lookup_empty] at hl
      cases hl
  clear l hl := by
    rw [hlayers, htypes]
    exact h.clear l (hclear hl)
  overlay hhas := by
    obtain ⟨hhad, heq⟩ := hoverlay hhas
    rw [hlayers, htypes, heq]
    exact h.overlay hhad
  client_target := hclient

theorem setState (h : RepInv a) (state : State) : RepInv (a.setState state) :=
  h.of_le rfl rfl (fun _ => rfl) (Or.inl rfl) (le_refl _) (fun hh => ⟨hh, rfl⟩) h.client_target

theorem setBuffer (h : RepInv a) (buffer : BufferHandle) : RepInv (a.setBuffer buffer) :=
  h.of_le rfl rfl (fun _ => rfl) (Or.inl rfl) (le_refl _) (fun hh => ⟨hh, rfl⟩) h.client_target

/-! ## Layers come and go -/

theorem addLayer (h : RepInv a) : RepInv a.addLayer.1 := by
  -- `id` is fresh until the counter wraps; a layer that has it then is left alone
  set id := (a.mNextLayerId + 1) % 2 ^ 64
  have hlive : ∀ l, l ∈ a.mLayers → a.addLayer.1.validatedType l = a.validatedType l := by
    intro l hl
    show ((emplace id {} a.mLayerStates).lookup l).map _ = (a.mLayerStates.lookup l).map _
    by_cases heq : l = id
    · rw [emplace_of_mem (heq ▸ h.mem_layers_iff.mp hl)]
    · rw [lookup_emplace_of_ne heq]
  have hdevice : ∀ l, a.addLayer.1.validatedType l = some HWC2_COMPOSITION_DEVICE →
      a.validatedType l = some HWC2_COMPOSITION_DEVICE := by
    intro l hl
    by_cases hmem : l ∈ a.mLayers
    · rwa [← hlive l hmem]
    · have hnot : l ∉ a.mLayerStates := mt h.mem_layers_iff.mpr hmem
      change ((emplace id {} a.mLayerStates).lookup l).map _ = _ at hl
      by_cases heq : l = id
      · rw [← heq, emplace_of_notMem hnot, Finmap.lookup_insert] at hl
        exact absurd hl (by decide)
      · rw [lookup_emplace_of_ne heq, Finmap.lookup_eq_none.mpr hnot] at hl
        cases hl
  have hkeep : ∀ l t, l ∈ a.mLayers ∧ a.validatedType l = some t →
      l ∈ a.addLayer.1.mLayers ∧ a.addLayer.1.validatedType l = some t := by
    rintro l t ⟨hl, ht⟩
    exact ⟨Finset.mem_insert_of_mem hl, (hlive l hl).trans ht⟩
  exact {
    keys_eq := by
      show (emplace id {} a.mLayerStates).keys = insert id a.mLayers
      rw [keys_emplace, h.keys_eq]
    one_device := fun l l' hl hl' => h.one_device l l' (hdevice l hl) (hdevice l' hl')
    changed := fun l t hl => hkeep l t (h.changed l t hl)
    clear := fun l hl => hkeep l _ (h.clear l hl)
    overlay := fun hh => hkeep _ _ (h.overlay hh)
    client_target := h.client_target }

theorem removeLayer (h : RepInv a) (layer : Nat) : RepInv (a.removeLayer layer).1 := by
  by_cases hmem : layer ∉ a.mLayers
  · rw [removeLayer_of_notMem hmem]
    exact h
  rw [not_not] at hmem
  have htypes := fun l => validatedType_removeLayer hmem l
  have hlayers : (a.removeLayer layer).1.mLayers = a.mLayers.erase layer := by
    rw [removeLayer_of_mem hmem]
  -- what is said about another layer goes on to hold
  have hkeep : ∀ l t, l ≠ layer → l ∈ a.mLayers ∧ a.validatedType l = some t →
      l ∈ (a.removeLayer layer).1.mLayers ∧
        (a.removeLayer layer).1.validatedType l = some t := by
    rintro l t hl ⟨hin, ht⟩
    rw [hlayers, htypes, if_neg hl]
    exact ⟨Finset.mem_erase.mpr ⟨hl, hin⟩, ht⟩
  have hold : ∀ l t, (a.removeLayer layer).1.validatedType l = some t →
      a.validatedType l = some t := by
    intro l t ht
    rw [htypes] at ht
    split_ifs at ht
    exact ht
  have hoverlay := removeLayer_overlay hmem
  refine ⟨?_, ?_, ?_, ?_, ?_, ?_⟩
  · rw [hlayers, removeLayer_of_mem hmem]
    show (a.mLayerStates.erase layer).keys = a.mLayers.erase layer
    rw [Finmap.keys_erase, h.keys_eq]
  · exact fun l l' hl hl' => h.one_device l l' (hold l _ hl) (hold l' _ hl')
  · intro l t hl
    have hl : (a.mChangedTypes.erase layer).lookup l = some t := by
      rwa [removeLayer_of_mem hmem] at hl
    have hne : l ≠ layer := by
      rintro rfl
      rw [Finmap.lookup_erase] at hl
      cases hl
    rw [Finmap.lookup_erase_ne hne] at hl
    exact hkeep l t hne (h.changed l t hl)
  · intro l hl
    have hl : l ∈ a.mClearClientTargetLayers.erase layer := by
      rwa [removeLayer_of_mem hmem] at hl
    exact hkeep l _ (Finset.mem_erase.mp hl).1 (h.clear l (Finset.mem_erase.mp hl).2)
  · intro hhas
    have hstays := hoverlay.1 hhas
    rw [hstays.2.1]
    exact hkeep _ _ hstays.2.2 (h.overlay hstays.1)
  · exact fun huses => hoverlay.2 h.client_target huses

theorem setLayer (h : RepInv a) (layer : Nat) {f : LayerState → LayerState}
    (hf : ∀ s, (f s).validatedType = s.validatedType) : RepInv (a.setLayer layer f).1 := by
  unfold Adapter.setLayer
  cases hs : a.mLayerStates.lookup layer with
  | none => exact h
  | some s =>
    refine h.of_le rfl keys_modify ?_ (Or.inl rfl) (le_refl _) (fun hh => ⟨hh, rfl⟩)
      h.client_target
    intro l
    show ((modify layer f a.mLayerStates).lookup l).map _ = (a.mLayerStates.lookup l).map _
    rw [lookup_modify]
    split_ifs with hl
    · rw [hl, hs]
      exact congrArg some (hf s)
    · rfl

/-! ## Validation and acceptance -/

theorem validateLayers (h : RepInv a) (overlayProperty : Bool) {order : List Nat}
    (horder : IsOrder order a.mLayerStates) :
    RepInv (a.validateLayers overlayProperty order) := by
  -- the layer validated as a device layer is the chosen one, and that one is live
  have hdevice := fun l => validatedType_eq_device a overlayProperty horder (l := l)
  have hchosen : a.overlayChoice overlayProperty order ≠ 0 →
      a.overlayChoice overlayProperty order ∈ a.mLayers ∧
        (a.validateLayers overlayProperty order).validatedType
          (a.overlayChoice overlayProperty order) = some HWC2_COMPOSITION_DEVICE := fun hne =>
    ⟨h.mem_layers_iff.mpr (overlayChoice_mem horder hne), (hdevice _).mpr ⟨hne, rfl⟩⟩
  have hoverlay := validateLayers_overlay a overlayProperty order
  refine ⟨?_, ?_, ?_, ?_, ?_, fun huses => hoverlay.1.mpr (hoverlay.2.1 huses)⟩
  · show (assignTypes _ a.mLayerStates order).states.keys = a.mLayers
    rw [keys_assignTypes _ horder, h.keys_eq]
  · intro l l' hl hl'
    rw [((hdevice l).mp hl).2, ((hdevice l').mp hl').2]
  · intro l t hl
    change (assignTypes _ a.mLayerStates order).changedTypes.lookup l = some t at hl
    rw [(assignTypes_spec _ horder).changed_eq] at hl
    split_ifs at hl with hin
    obtain ⟨s, hs, ht⟩ := Option.bind_eq_some_iff.mp hl
    split_ifs at ht
    refine ⟨h.mem_layers_iff.mpr (horder.mem_iff.mp hin), ?_⟩
    rw [validatedType_validateLayers a overlayProperty horder, hs]
    exact ht
  · intro l hl
    change l ∈ (if (a.validateLayers overlayProperty order).mOverlayUsesClientTarget then
      {a.overlayChoice overlayProperty order} else ∅ : Finset Nat) at hl
    split_ifs at hl with huses
    · rw [Finset.mem_singleton.mp hl]
      exact hchosen (hoverlay.2.1 huses)
    · exact absurd hl (Finset.notMem_empty l)
  · intro hhas
    rw [hoverlay.2.2 hhas]
    exact hchosen (hoverlay.1.mp hhas)

theorem acceptChanges (h : RepInv a) {order : List Nat}
    (horder : IsOrder order a.mLayerStates) : RepInv (a.acceptChanges order) := by
  refine h.of_le rfl (keys_acceptChanges horder) ?_ (Or.inr rfl) (le_refl _)
    (fun hh => ⟨hh, rfl⟩) h.client_target
  intro l
  rw [validatedType, lookup_acceptChanges horder, Option.map_map]
  rfl

/-! ## Posting -/

theorem disableOverlay (h : RepInv a) : RepInv a.disableOverlay := by
  refine h.of_le rfl rfl (fun _ => rfl) (Or.inl rfl) (le_refl _) ?_ ?_
  · intro hh
    cases hh
  · intro hh
    cases hh

theorem postBuffer (h : RepInv a) (env : PostEnv) : RepInv (a.postBuffer env).1 := by
  rcases postBuffer_cases a env with heq | heq
  · rwa [heq]
  · rw [heq]
    exact h.disableOverlay

/-- **`postOverlay` never misses its layer.** -/
theorem postOverlay_finds_layer (h : RepInv a) (env : PostEnv) :
    (a.postOverlay env).2.1 ≠ .missingLayer := by
  intro hexit
  have hpost := overlayPost a env
  rcases hres : a.postOverlay env with ⟨a', exit, effects⟩
  rw [hres] at hpost hexit
  cases hexit
  cases hpost with
  | missingLayer hwanted hlayer =>
    have hlive := h.mem_layers_iff.mp (h.overlay hwanted.1).1
    exact Finmap.lookup_eq_none.mp hlayer hlive

end RepInv

end Adapter

namespace Call

open Adapter

variable {a : Adapter}

theorem repInv_perform (h : RepInv a) {call : Call} (hcall : call.Possible a) :
    RepInv (call.perform a).1 := by
  cases call with
  | setState state => exact h.setState state
  | addLayer => exact h.addLayer
  | removeLayer l => exact h.removeLayer l
  | setLayerBuffer l | setLayerCompositionType l | setLayerBlendMode l | setLayerDisplayFrame l
  | setLayerPlaneAlpha l | setLayerSourceCrop l | setLayerTransform l | setLayerZOrder l =>
    exact h.setLayer l fun _ => rfl
  | validateLayers overlayProperty order => exact h.validateLayers overlayProperty hcall
  | acceptChanges order => exact h.acceptChanges hcall
  | setBuffer buffer => exact h.setBuffer buffer
  | postBuffer env => exact h.postBuffer env

/-- **A setter or a removal on a layer that is not live** returns false and changes nothing. -/
theorem perform_of_notLive (h : RepInv a) {call : Call} {l : Nat} (hcall : call.layer? = some l)
    (hl : l ∉ a.mLayers) : call.perform a = (a, .found false) := by
  have hset : ∀ f, a.setLayer l f = (a, false) := setLayer_of_notMem (mt h.mem_layers_iff.mpr hl)
  cases call <;> cases hcall
  case removeLayer =>
    show ((a.removeLayer l).1, Result.found (a.removeLayer l).2) = _
    rw [removeLayer_of_notMem hl]
  all_goals
    show ((a.setLayer l _).1, Result.found (a.setLayer l _).2) = _
    rw [hset]

/-! ## Ids -/

/-- Only `addLayer` makes a layer or touches the counter. -/
theorem perform_counter (call : Call) (a : Adapter) :
    call = addLayer ∨ (call.perform a).2.newIds = [] ∧
      (call.perform a).1.mNextLayerId = a.mNextLayerId ∧
      (call.perform a).1.mLayers ⊆ a.mLayers := by
  have hset : ∀ l f, (a.setLayer l f).1.mNextLayerId = a.mNextLayerId ∧
      (a.setLayer l f).1.mLayers ⊆ a.mLayers := by
    intro l f
    unfold Adapter.setLayer
    split
    · exact ⟨rfl, le_refl _⟩
    · exact ⟨rfl, le_refl _⟩
  cases call with
  | addLayer => exact Or.inl rfl
  | setState | validateLayers | acceptChanges | setBuffer => exact Or.inr ⟨rfl, rfl, le_refl _⟩
  | setLayerBuffer l | setLayerCompositionType l | setLayerBlendMode l | setLayerDisplayFrame l
  | setLayerPlaneAlpha l | setLayerSourceCrop l | setLayerTransform l | setLayerZOrder l =>
    exact Or.inr ⟨rfl, hset l _⟩
  | removeLayer l =>
    refine Or.inr ⟨rfl, ?_⟩
    show (a.removeLayer l).1.mNextLayerId = a.mNextLayerId ∧ (a.removeLayer l).1.mLayers ⊆ _
    by_cases hl : l ∉ a.mLayers
    · rw [removeLayer_of_notMem hl]
      exact ⟨rfl, le_refl _⟩
    · rw [Adapter.removeLayer, if_neg hl]
      exact ⟨rfl, Finset.erase_subset l a.mLayers⟩
  | postBuffer env =>
    refine Or.inr ⟨rfl, ?_⟩
    show (a.postBuffer env).1.mNextLayerId = a.mNextLayerId ∧ (a.postBuffer env).1.mLayers ⊆ _
    -- also when a failure disables the overlay
    rcases postBuffer_cases a env with heq | heq
    · rw [heq]
      exact ⟨rfl, le_refl _⟩
    · rw [heq]
      exact ⟨rfl, le_refl _⟩

end Call

/-- The `i`-th id `addLayer` hands out. -/
def nthId (i : Nat) : Nat := (i + 1) % 2 ^ 64

/-- The ids handed out so far are the first ones, and every live layer has one of them. -/
structure Issued (t : Tracked) : Prop where
  counter : t.adapter.mNextLayerId = t.issued.length % 2 ^ 64
  issued_eq : t.issued = (List.range t.issued.length).map nthId
  live : ∀ l ∈ t.adapter.mLayers, l ∈ t.issued

theorem Issued.step {t : Tracked} (h : Issued t) (call : Call) :
    Issued ⟨(call.perform t.adapter).1, t.issued ++ (call.perform t.adapter).2.newIds⟩ := by
  rcases call.perform_counter t.adapter with rfl | ⟨hnone, hcounter, hlayers⟩
  · -- the new id is the next of the sequence
    have hid : (t.adapter.mNextLayerId + 1) % 2 ^ 64 = nthId t.issued.length := by
      rw [h.counter, nthId, Nat.mod_add_mod]
    have hlen : (t.issued ++ [nthId t.issued.length]).length = t.issued.length + 1 := by simp
    refine ⟨?_, ?_, ?_⟩
    · show (t.adapter.mNextLayerId + 1) % 2 ^ 64 = (t.issued ++ [_]).length % 2 ^ 64
      rw [hid, List.length_append]
      rfl
    · show t.issued ++ [(t.adapter.mNextLayerId + 1) % 2 ^ 64] =
        (List.range (t.issued ++ [_]).length).map nthId
      rw [hid, hlen, List.range_succ, List.map_append, ← h.issued_eq]
      rfl
    · intro l hl
      show l ∈ t.issued ++ [(t.adapter.mNextLayerId + 1) % 2 ^ 64]
      rcases Finset.mem_insert.mp hl with heq | hl
      · exact List.mem_append_right _ (List.mem_singleton.mpr heq)
      · exact List.mem_append_left _ (h.live l hl)
  · rw [hnone, List.append_nil]
    exact ⟨hcounter.trans h.counter, h.issued_eq, fun l hl => h.live l (hlayers hl)⟩

/-- Below `2^64` additions no id is zero and none is handed out twice. -/
theorem Issued.distinct {t : Tracked} (h : Issued t) (hlt : t.issued.length < 2 ^ 64) :
    0 ∉ t.issued ∧ t.issued.Nodup := by
  have hexact : ∀ i ∈ List.range t.issued.length, nthId i = i + 1 := by
    intro i hi
    have := List.mem_range.mp hi
    exact Nat.mod_eq_of_lt (by omega)
  rw [h.issued_eq]
  constructor
  · intro hzero
    obtain ⟨i, hi, hid⟩ := List.mem_map.mp hzero
    rw [hexact i hi] at hid
    cases hid
  · refine List.Nodup.map_on ?_ List.nodup_range
    intro i hi j hj heq
    rw [hexact i hi, hexact j hj] at heq
    exact Nat.succ.inj heq

/-! ## Every reachable state -/

open Adapter

theorem step_eq_some {t t' : Tracked} {call : Call} (h : system.step t call = some t') :
    call.Possible t.adapter ∧
      t' = ⟨(call.perform t.adapter).1, t.issued ++ (call.perform t.adapter).2.newIds⟩ := by
  change (if _ then _ else none) = _ at h
  split_ifs at h with hcall
  exact ⟨hcall, (Option.some.inj h).symm⟩

theorem reachable_inv {t : Tracked} (h : Reachable system t) : RepInv t.adapter ∧ Issued t := by
  refine h.invariant (I := fun t => RepInv t.adapter ∧ Issued t) ?_ ?_
  · rintro t ⟨info, rfl⟩
    exact ⟨repInv_new info, rfl, rfl, fun l hl => absurd hl (Finset.notMem_empty l)⟩
  · rintro t call t' ⟨hrep, hissued⟩ hstep
    obtain ⟨hcall, rfl⟩ := step_eq_some hstep
    exact ⟨Call.repInv_perform hrep hcall, hissued.step call⟩

/-- **The representation invariant over whole runs.** After any sequence of calls the
containers and flags belong together as `RepInv` says; the ids handed out are nonzero and
distinct while fewer than `2^64` layers were added; `postOverlay` finds its layer; and a setter
or a removal on a layer that is not live returns false and changes nothing. -/
theorem adapter_consistent {t : Tracked} (h : Reachable system t) :
    RepInv t.adapter ∧
    (t.issued.length < 2 ^ 64 → 0 ∉ t.issued ∧ t.issued.Nodup) ∧
    (∀ l ∈ t.adapter.mLayers, l ∈ t.issued) ∧
    (∀ env, (t.adapter.postOverlay env).2.1 ≠ .missingLayer) ∧
    (∀ (call : Call) (l : Nat), call.layer? = some l → l ∉ t.adapter.mLayers →
      call.perform t.adapter = (t.adapter, .found false)) := by
  obtain ⟨hrep, hissued⟩ := reachable_inv h
  exact ⟨hrep, hissued.distinct, hissued.live, hrep.postOverlay_finds_layer,
    fun call l hcall hl => Call.perform_of_notLive hrep hcall hl⟩

/-- A 64x32 buffer in the planar YUV format `0x101`. -/
def sampleVideo : NativeHandle where
  numFds := 1
  numInts := 48
  data i := if i = 1 then 0x03141592 else if i = 2 then 0x101 else if i = 19 then 64
    else if i = 20 then 32 else 0

/-- A video layer next to a layer the client composes, validated. -/
def sampleRun : Option Tracked :=
  exec system ⟨{ mFbInfo := ⟨64, 32⟩ }, []⟩
    [.addLayer, .addLayer, .setLayerCompositionType 1 HWC2_COMPOSITION_DEVICE,
      .setLayerBuffer 1 (some sampleVideo), .setLayerDisplayFrame 1 ⟨0, 0, 64, 32⟩,
      .setLayerSourceCrop 1 ⟨0, 0, 64, 32⟩, .validateLayers true [2, 1]]

theorem adapter_consistent_sampleRun : ∃ t, sampleRun = some t ∧
    t.adapter.mHasOverlayLayer = true ∧ RepInv t.adapter ∧ t.issued.Nodup := by
  have hflag : sampleRun.map (·.adapter.mHasOverlayLayer) = some true := by decide +kernel
  have hlen : sampleRun.map (·.issued.length) = some 2 := by decide +kernel
  cases hrun : sampleRun with
  | none =>
    rw [hrun] at hflag
    cases hflag
  | some t =>
    rw [hrun] at hflag hlen
    have hreach : Reachable system t := .of_exec ⟨_, rfl⟩ hrun
    have htwo : t.issued.length = 2 := Option.some.inj hlen
    have hlt : t.issued.length < 2 ^ 64 := by
      rw [htwo]
      decide
    have h := adapter_consistent hreach
    exact ⟨t, rfl, Option.some.inj hflag, h.1, (h.2.1 hlt).2⟩

end Mozart.Composer

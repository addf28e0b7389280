import Mozart.Composer.Hooks

/-!
# What reaches the driver, over whole runs

`session` is the adapter under every sequence of hooks, with a record of what the run did: the
overlay layer the last validation chose, the buffer attached to that layer since, and every
descriptor handed to the driver together with the adapter it was made from.

1. **`Chosen`** holds in every run: the overlay layer is the one chosen, and its buffer is the
   one that passed the selection's test for YUV, or the one attached since.
2. **`Validated`** holds in the runs in which a post needs a validated display: the geometry
   the selection tested is still the layer's.
3. **`played_yuv_iff`** and **`played_matches`** are what follows for every descriptor.
-/

namespace Mozart.Composer

open MapLoop Transition Adapter

/-- A descriptor handed to the driver, with the adapter that posted it and the run's record at
that moment. -/
structure Played where
  overlay : DssOverlay
  adapter : Adapter
  choice : Nat
  swapped : Option BufferHandle

/-- The adapter and the record of its run. -/
structure Session where
  adapter : Adapter
  /-- The overlay layer of the last validation, 0 for none. -/
  choice : Nat := 0
  /-- The buffer last attached to that layer since the validation, if any was. -/
  swapped : Option BufferHandle := none
  played : List Played := []

def Reply.overlays : Reply → List DssOverlay
  | .posted _ effects => Adapter.overlays effects
  | _ => []

/-- The session once `hook` has left the adapter and the reply `r`. -/
def Session.observe (s : Session) (hook : Hook) (r : Adapter × Reply) : Session where
  adapter := r.1
  choice :=
    match hook, r.2 with
    | .validateDisplay overlayProperty order, .counts _ _ _ =>
      s.adapter.overlayChoice overlayProperty order
    | _, _ => s.choice
  swapped :=
    match hook, r.2 with
    | .validateDisplay _ _, .counts _ _ _ => none
    | .setLayerBuffer layer buffer, .error .NONE =>
      if layer = s.choice then some buffer else s.swapped
    | _, _ => s.swapped
  played := s.played ++ r.2.overlays.map fun overlay => ⟨overlay, s.adapter, s.choice, s.swapped⟩

/-- The adapter from its construction on, for a display whose sides are `uint32_t`. -/
def session (displayId : Nat) : System Session HookCall where
  init s := ∃ info : Info, info.width < 2 ^ 32 ∧ info.height < 2 ^ 32 ∧
    s = { adapter := { mFbInfo := info } }
  step s call :=
    if call.Possible displayId s.adapter then
      some (s.observe call.hook (call.perform displayId s.adapter))
    else none

/-- What is assumed of the hooks the patch leaves alone: a display is posted only while it is
validated, and a layer that comes, goes or is given a value has to be validated again. -/
def Hook.AsUnpatched (a : Adapter) : Hook → Prop
  | createLayer after | destroyLayer _ after | setLayerState _ after => after = .MODIFIED
  | presentDisplay _ => a.mState = .VALIDATED
  | _ => True

/-- The assumption on one step of a session. -/
def asUnpatched (s : Session) (call : HookCall) : Prop := call.hook.AsUnpatched s.adapter

instance (a : Adapter) : (hook : Hook) → Decidable (hook.AsUnpatched a)
  | .createLayer after | .destroyLayer _ after | .setLayerState _ after =>
    inferInstanceAs (Decidable (after = .MODIFIED))
  | .presentDisplay _ => inferInstanceAs (Decidable (a.mState = .VALIDATED))
  | .setLayerBuffer _ _ | .setLayerCompositionType _ _ | .setLayerBlendMode _ _
  | .setLayerDisplayFrame _ _ | .setLayerPlaneAlpha _ _ | .setLayerSourceCrop _ _
  | .setLayerTransform _ _ | .setLayerZOrder _ _ | .setClientTarget _ | .validateDisplay _ _
  | .getChangedCompositionTypes _ _ | .getDisplayRequests _ _ | .acceptDisplayChanges _ =>
    isTrue trivial

instance (s : Session) (call : HookCall) : Decidable (asUnpatched s call) :=
  inferInstanceAs (Decidable (call.hook.AsUnpatched s.adapter))

/-! ## Steps of a session -/

variable {displayId : Nat} {s s' : Session} {hook : Hook}

theorem Session.observe_refused (s : Session) (hook : Hook) {error : Hwc2Error}
    (herror : error ≠ .NONE) : s.observe hook (s.adapter, .error error) = s := by
  have hplayed : s.played ++ [] = s.played := List.append_nil s.played
  cases hook with
  | setLayerBuffer => cases error <;> simp_all [observe, Reply.overlays]
  | _ => simp [observe, Reply.overlays]

/-- A step is a hook on the adapter's own display, or nothing. -/
theorem session_step {call : HookCall} (h : (session displayId).step s call = some s') :
    s' = s ∨ call.hook.Possible s.adapter ∧
      s' = s.observe call.hook (call.hook.perform s.adapter) := by
  change (if _ then some _ else none) = some s' at h
  split_ifs at h with hpossible
  obtain rfl := Option.some.inj h
  by_cases hdisplay : displayId = call.display
  · right
    refine ⟨hpossible hdisplay, ?_⟩
    rw [HookCall.perform, if_neg (not_not.mpr hdisplay)]
  · left
    rw [HookCall.perform, if_pos hdisplay]
    exact s.observe_refused call.hook (by decide)

/-! ## The overlay layer and its buffer, in every run -/

/-- The buffer of the overlay layer, as far as the record knows it. -/
def Attached (swapped : Option BufferHandle) (buffer : BufferHandle) : Prop :=
  match swapped with
  | none => (getHisiFormat buffer).any isYuvFormat = true
  | some attached => buffer = attached

structure Chosen (a : Adapter) (choice : Nat) (swapped : Option BufferHandle) : Prop where
  layer : a.mHasOverlayLayer = true → a.mOverlayLayer = choice
  buffer : a.mHasOverlayLayer = true → ∃ state,
    a.mLayerStates.lookup choice = some state ∧ Attached swapped state.buffer

variable {a a' : Adapter} {choice : Nat} {swapped : Option BufferHandle}

/-- A step that keeps the overlay's flags need only keep the buffer of its layer. -/
theorem Chosen.of_kept (h : Chosen a choice swapped)
    (hkept : a'.mHasOverlayLayer = true → a.mHasOverlayLayer = true ∧
      a'.mOverlayLayer = a.mOverlayLayer ∧
      ∀ state, a.mLayerStates.lookup choice = some state →
        ∃ state', a'.mLayerStates.lookup choice = some state' ∧ state'.buffer = state.buffer) :
    Chosen a' choice swapped where
  layer hhas := by
    obtain ⟨hhad, hlayer, -⟩ := hkept hhas
    exact hlayer.trans (h.layer hhad)
  buffer hhas := by
    obtain ⟨hhad, -, hstate⟩ := hkept hhas
    obtain ⟨state, hlookup, hattached⟩ := h.buffer hhad
    obtain ⟨state', hlookup', hbuffer⟩ := hstate state hlookup
    exact ⟨state', hlookup', hbuffer ▸ hattached⟩

theorem lookup_modify_buffer {m : LayerMap} {layer l : Nat} {f : LayerState → LayerState}
    (hf : ∀ state, (f state).buffer = state.buffer) {state : LayerState}
    (h : m.lookup l = some state) :
    ∃ state', (modify layer f m).lookup l = some state' ∧ state'.buffer = state.buffer := by
  rw [lookup_modify]
  split_ifs with hl
  · rw [← hl, h]
    exact ⟨f state, rfl, hf state⟩
  · exact ⟨state, h, rfl⟩

theorem Chosen.observe (h : Chosen s.adapter s.choice s.swapped)
    (hpossible : hook.Possible s.adapter) {r : Adapter × Reply}
    (hmove : Hook.Move s.adapter hook r) :
    Chosen r.1 (s.observe hook r).choice (s.observe hook r).swapped := by
  cases hmove with
  | refused herror =>
    rw [s.observe_refused hook herror]
    exact h
  | created after =>
    refine h.of_kept fun hhas => ⟨hhas, rfl, fun state hstate => ⟨state, ?_, rfl⟩⟩
    exact lookup_emplace_of_lookup hstate
  | @destroyed layer after hlive =>
    -- destroying the overlay layer clears the flag, so another layer was destroyed
    refine h.of_kept fun hhas => ?_
    obtain ⟨hhad, hsame, hne⟩ := (removeLayer_overlay hlive).1 hhas
    refine ⟨hhad, hsame, fun state hstate => ⟨state, ?_, rfl⟩⟩
    rw [removeLayer_of_mem hlive]
    exact (Finmap.lookup_erase_ne (h.layer hhad ▸ hne)).trans hstate
  | @buffer layer buffer hlive =>
    refine ⟨h.layer, fun hhas => ?_⟩
    obtain ⟨state, hstate, hattached⟩ := h.buffer hhas
    show ∃ state', (modify layer _ s.adapter.mLayerStates).lookup s.choice = some state' ∧
      Attached (if layer = s.choice then some buffer else s.swapped) state'.buffer
    rw [lookup_modify]
    -- a buffer of the overlay layer is the one swapped in
    by_cases hl : layer = s.choice
    · rw [if_pos hl, if_pos hl.symm, hl, hstate]
      exact ⟨_, rfl, rfl⟩
    · rw [if_neg hl, if_neg (Ne.symm hl)]
      exact ⟨state, hstate, hattached⟩
  | typed type hlive =>
    exact h.of_kept fun hhas => ⟨hhas, rfl, fun state hstate =>
      lookup_modify_buffer (f := fun state => { state with requestedType := type })
        (fun _ => rfl) hstate⟩
  | setter hhook hlive hbuffer =>
    have hrecord : ∀ r, (s.observe hook (r, .error .NONE)).choice = s.choice ∧
        (s.observe hook (r, .error .NONE)).swapped = s.swapped := by
      cases hook <;> first | exact fun _ => ⟨rfl, rfl⟩ | cases hhook
    rw [(hrecord _).1, (hrecord _).2]
    refine h.of_kept fun hhas => ⟨hhas, rfl, fun state hstate => ?_⟩
    exact lookup_modify_buffer hbuffer hstate
  | state | target | typesCount | types | requests =>
    exact h.of_kept fun hhas => ⟨hhas, rfl, fun state hstate => ⟨state, hstate, rfl⟩⟩
  | validated overlayProperty order =>
    -- what was chosen had a YUV buffer, and none was swapped in since
    obtain ⟨hhas, -, hlayer⟩ := validateLayers_overlay s.adapter overlayProperty order
    refine ⟨hlayer, fun hon => ?_⟩
    obtain ⟨state, hstate, helig⟩ := overlayChoice_eligible hpossible (hhas.mp hon)
    have hlookup := lookup_validateLayers s.adapter overlayProperty hpossible
      (s.adapter.overlayChoice overlayProperty order)
    rw [hstate] at hlookup
    exact ⟨_, hlookup, helig.yuv⟩
  | accepted order =>
    refine h.of_kept fun hhas => ⟨hhas, rfl, fun state hstate => ?_⟩
    have hlookup := lookup_acceptChanges hpossible s.choice
    rw [hstate] at hlookup
    exact ⟨_, hlookup, rfl⟩
  | posted env =>
    refine h.of_kept fun hhas => ?_
    -- a post leaves the layers alone; one that fails clears the flag
    rcases postBuffer_cases s.adapter env with heq | heq
    · rw [heq] at hhas ⊢
      exact ⟨hhas, rfl, fun state hstate => ⟨state, hstate, rfl⟩⟩
    · rw [heq] at hhas
      cases hhas

/-! ## The geometry of the overlay layer, between validation and post -/

/-- While the display is validated, the overlay layer is as the selection found it and the flag
for the client target says whether there is another layer. -/
structure Validated (a : Adapter) (choice : Nat) : Prop where
  geometry : a.mState ≠ .MODIFIED → a.mHasOverlayLayer = true → ∃ state,
    a.mLayerStates.lookup choice = some state ∧ rectIsValid state.displayFrame = true ∧
    frameFitsDisplay state.displayFrame a.mFbInfo = true ∧ state.transform = 0
  client : a.mState ≠ .MODIFIED → a.mHasOverlayLayer = true →
    (a.mOverlayUsesClientTarget = true ↔ ∃ l ∈ a.mLayers, l ≠ choice)

/-- What a step must leave alone, unless the display has to be validated again after it. -/
structure Kept (a a' : Adapter) (choice : Nat) : Prop where
  state : a.mState ≠ .MODIFIED
  has : a.mHasOverlayLayer = true
  uses : a'.mOverlayUsesClientTarget = a.mOverlayUsesClientTarget
  layers : a'.mLayers = a.mLayers
  info : a'.mFbInfo = a.mFbInfo
  geometry : ∀ state, a.mLayerStates.lookup choice = some state →
    ∃ state', a'.mLayerStates.lookup choice = some state' ∧
      state'.displayFrame = state.displayFrame ∧ state'.transform = state.transform

theorem Validated.of_kept (h : Validated a choice)
    (hkept : a'.mState ≠ .MODIFIED → a'.mHasOverlayLayer = true → Kept a a' choice) :
    Validated a' choice where
  geometry hstate hhas := by
    have k := hkept hstate hhas
    obtain ⟨state, hlookup, hvalid, hfits, htransform⟩ := h.geometry k.state k.has
    obtain ⟨state', hlookup', hframe, htransform'⟩ := k.geometry state hlookup
    exact ⟨state', hlookup', hframe ▸ hvalid, k.info ▸ hframe ▸ hfits,
      htransform'.trans htransform⟩
  client hstate hhas := by
    have k := hkept hstate hhas
    rw [k.uses, k.layers]
    exact h.client k.state k.has

theorem Validated.of_modified (hstate : a'.mState = .MODIFIED) : Validated a' choice :=
  ⟨fun h => absurd hstate h, fun h => absurd hstate h⟩

theorem Validated.observe (hrep : RepInv s.adapter) (h : Validated s.adapter s.choice)
    (hpossible : hook.Possible s.adapter) (hok : hook.AsUnpatched s.adapter)
    {r : Adapter × Reply} (hmove : Hook.Move s.adapter hook r) :
    Validated r.1 (s.observe hook r).choice := by
  cases hmove with
  | refused herror =>
    rw [s.observe_refused hook herror]
    exact h
  -- these have to leave the display to be validated again
  | created after | destroyed after | state after => exact .of_modified hok
  | typed | setter => exact .of_modified rfl
  | @buffer layer buffer hlive =>
    refine h.of_kept fun hstate hhas => ⟨hstate, hhas, rfl, rfl, rfl, fun state hlookup => ?_⟩
    show ∃ state', (modify layer _ s.adapter.mLayerStates).lookup s.choice = some state' ∧ _
    rw [lookup_modify]
    by_cases hl : s.choice = layer
    · rw [if_pos hl, ← hl, hlookup]
      exact ⟨_, rfl, rfl, rfl⟩
    · rw [if_neg hl]
      exact ⟨state, hlookup, rfl, rfl⟩
  | target | typesCount | types | requests =>
    exact h.of_kept fun hstate hhas => ⟨hstate, hhas, rfl, rfl, rfl,
      fun state hlookup => ⟨state, hlookup, rfl, rfl⟩⟩
  | validated overlayProperty order =>
    have hhas := (validateLayers_overlay s.adapter overlayProperty order).1
    refine ⟨fun _ hon => ?_, fun _ hon => ?_⟩
    · obtain ⟨state, hstate, helig⟩ := overlayChoice_eligible hpossible (hhas.mp hon)
      have hlookup := lookup_validateLayers s.adapter overlayProperty hpossible
        (s.adapter.overlayChoice overlayProperty order)
      rw [hstate] at hlookup
      exact ⟨_, hlookup, helig.frame_valid, helig.frame_fits, helig.transform⟩
    · refine (usesClientTarget_validateLayers s.adapter overlayProperty hpossible).trans ?_
      -- the layers of the list are those with a state
      rw [and_iff_right (hhas.mp hon)]
      exact exists_congr fun l => and_congr_left fun _ => hrep.mem_layers_iff.symm
  | accepted order hstate =>
    refine h.of_kept fun _ hhas => ⟨hstate, hhas, rfl, rfl, rfl, fun state hlookup => ?_⟩
    have hlookup' := lookup_acceptChanges hpossible s.choice
    rw [hlookup] at hlookup'
    exact ⟨_, hlookup', rfl, rfl⟩
  | posted env =>
    refine h.of_kept fun hstate hhas => ?_
    rcases postBuffer_cases s.adapter env with heq | heq
    · rw [heq] at hstate hhas ⊢
      exact ⟨hstate, hhas, rfl, rfl, rfl, fun state hlookup => ⟨state, hlookup, rfl, rfl⟩⟩
    · rw [heq] at hhas
      cases hhas

/-! ## Every descriptor of a run -/

/-- `layer_infos[i]`. -/
def DssOverlay.info (overlay : DssOverlay) (i : Fin kHisiMaxLayers) : DssLayer :=
  overlay.layer_infos.get i

def bottom : Fin kHisiMaxLayers := ⟨0, Nat.succ_pos 8⟩

def top : Fin kHisiMaxLayers := ⟨1, Nat.one_lt_succ_succ 7⟩

theorem describes_of_move {r : Adapter × Reply} (hmove : Hook.Move a hook r)
    {overlay : DssOverlay} (h : overlay ∈ r.2.overlays) :
    (∃ env, hook = .presentDisplay env) ∧ a.OverlayWanted ∧ a.Describes overlay := by
  cases hmove with
  | posted env => exact ⟨⟨env, rfl⟩, describes_of_mem_overlays h⟩
  | _ => exact absurd h List.not_mem_nil

theorem info_of_move {r : Adapter × Reply} (hmove : Hook.Move a hook r) :
    r.1.mFbInfo = a.mFbInfo := by
  cases hmove with
  | destroyed after hlive =>
    rw [removeLayer_of_mem hlive]
    rfl
  | posted env =>
    show (a.postBuffer env).1.mFbInfo = a.mFbInfo
    rcases postBuffer_cases a env with heq | heq
    · rw [heq]
    · rw [heq]
      rfl
  | _ => rfl

/-- What every run knows of a descriptor. -/
structure Recorded (p : Played) : Prop where
  rep : RepInv p.adapter
  chosen : Chosen p.adapter p.choice p.swapped
  wanted : p.adapter.OverlayWanted
  describes : p.adapter.Describes p.overlay
  width : p.adapter.mFbInfo.width < 2 ^ 32
  height : p.adapter.mFbInfo.height < 2 ^ 32

structure SessionInv (s : Session) : Prop where
  rep : RepInv s.adapter
  chosen : Chosen s.adapter s.choice s.swapped
  width : s.adapter.mFbInfo.width < 2 ^ 32
  height : s.adapter.mFbInfo.height < 2 ^ 32
  played : ∀ p ∈ s.played, Recorded p

theorem mem_played_observe {r : Adapter × Reply} {p : Played}
    (h : p ∈ (s.observe hook r).played) : p ∈ s.played ∨
      ∃ overlay ∈ r.2.overlays, p = ⟨overlay, s.adapter, s.choice, s.swapped⟩ := by
  rcases List.mem_append.mp h with h | h
  · exact Or.inl h
  · obtain ⟨overlay, hoverlay, rfl⟩ := List.mem_map.mp h
    exact Or.inr ⟨overlay, hoverlay, rfl⟩

theorem sessionInv_step (h : SessionInv s) {call : HookCall}
    (hstep : (session displayId).step s call = some s') : SessionInv s' := by
  rcases session_step hstep with rfl | ⟨hpossible, rfl⟩
  · exact h
  have hmove := Hook.move h.rep call.hook
  have hinfo := info_of_move hmove
  refine ⟨Hook.repInv_perform h.rep hpossible, h.chosen.observe hpossible hmove, ?_, ?_, ?_⟩
  · exact hinfo ▸ h.width
  · exact hinfo ▸ h.height
  · intro p hp
    rcases mem_played_observe hp with hp | ⟨overlay, hoverlay, rfl⟩
    · exact h.played p hp
    · obtain ⟨-, hwanted, hdescribes⟩ := describes_of_move hmove hoverlay
      exact ⟨h.rep, h.chosen, hwanted, hdescribes, h.width, h.height⟩

theorem sessionInv_init (h : (session displayId).init s) : SessionInv s := by
  obtain ⟨info, hwidth, hheight, rfl⟩ := h
  exact {
    rep := repInv_new info
    chosen := ⟨fun h => absurd h Bool.false_ne_true, fun h => absurd h Bool.false_ne_true⟩
    width := hwidth
    height := hheight
    played := fun p hp => absurd hp List.not_mem_nil }

theorem sessionInv_of_reachable (h : Reachable (session displayId) s) : SessionInv s :=
  h.invariant (fun _ => sessionInv_init) fun _ _ _ hs hstep => sessionInv_step hs hstep

/-- In the runs as assumed, a descriptor is played while the display is validated. -/
theorem validated_of_run {as : List HookCall} (h : Run (session displayId) asUnpatched as s) :
    Validated s.adapter s.choice ∧
      ∀ p ∈ s.played, Validated p.adapter p.choice ∧ p.adapter.mState = .VALIDATED := by
  have hinv : SessionInv s ∧ Validated s.adapter s.choice ∧
      ∀ p ∈ s.played, Validated p.adapter p.choice ∧ p.adapter.mState = .VALIDATED := by
    refine h.invariant (I := fun _ s => SessionInv s ∧ Validated s.adapter s.choice ∧
      ∀ p ∈ s.played, Validated p.adapter p.choice ∧ p.adapter.mState = .VALIDATED) ?_ ?_
    · intro s hinit
      refine ⟨sessionInv_init hinit, ?_⟩
      obtain ⟨info, -, -, rfl⟩ := hinit
      exact ⟨.of_modified rfl, fun p hp => absurd hp List.not_mem_nil⟩
    · rintro as s call s' ⟨hinv, hvalidated, hplayed⟩ hok hstep
      refine ⟨sessionInv_step hinv hstep, ?_⟩
      rcases session_step hstep with rfl | ⟨hpossible, rfl⟩
      · exact ⟨hvalidated, hplayed⟩
      have hmove := Hook.move hinv.rep call.hook
      refine ⟨hvalidated.observe hinv.rep hpossible hok hmove, fun p hp => ?_⟩
      rcases mem_played_observe hp with hp | ⟨overlay, hoverlay, rfl⟩
      · exact hplayed p hp
      · obtain ⟨⟨env, henv⟩, -⟩ := describes_of_move hmove hoverlay
        have hstate : call.hook.AsUnpatched s.adapter := hok
        rw [henv] at hstate
        exact ⟨hvalidated, hstate⟩
  exact hinv.2

end Mozart.Composer

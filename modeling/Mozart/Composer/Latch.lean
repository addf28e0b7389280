import Mozart.Composer.RepInv

/-!
# A failing overlay post falls back, and stays back

* **`OverlayFails`** lists the points at which `postOverlay` can fail; **`overlayPost_failed`**
  says that each of them takes an exit with the same four updates.
* **`closed_eq`**: every exit closes what it opened, and a release fence it was given.
* **`Latched`** is what the updates leave behind. Every call but a `validateLayers` that finds
  the property off keeps it (`Latched.perform`), and while it holds no overlay is played.
-/

namespace Mozart.Composer

open MapLoop Transition

namespace Adapter

variable {a : Adapter} {env : PostEnv}

/-! ## Failing -/

/-- The points at which `postOverlay` can fail: no client target to put above the video, a video
layer or a client target that cannot be described, no framebuffer, a refused `ioctl`. -/
def OverlayFails (a : Adapter) (env : PostEnv) : Prop :=
  (a.mOverlayUsesClientTarget = true ∧ a.mBuffer = none) ∨
  (∃ video, a.mLayerStates.lookup a.mOverlayLayer = some video ∧ videoLayer video = none) ∨
  (a.mOverlayUsesClientTarget = true ∧ a.clientTargetLayer = none) ∨
  env.fbFd < 0 ∨ env.ioctlResult ≠ 0

/-- A descriptor that was built has passed the first three points. -/
theorem Describes.not_fails {overlay : DssOverlay} (h : a.Describes overlay) (hopen : 0 ≤ env.fbFd)
    (hioctl : env.ioctlResult = 0) : ¬a.OverlayFails env := by
  obtain ⟨video, videoInfo, client, hlayer, hvideo, -, hsome, hclient⟩ := h.layers
  have htarget : a.mOverlayUsesClientTarget = true → a.clientTargetLayer.isSome = true := by
    intro huses
    rw [huses] at hsome
    obtain ⟨clientInfo, hinfo⟩ := Option.isSome_iff_exists.mp hsome
    rw [hclient clientInfo hinfo]
    rfl
  rintro (⟨huses, hbuffer⟩ | ⟨video', hlayer', hnone⟩ | ⟨huses, hnone⟩ | hfd | hresult)
  · have hfilled := htarget huses
    rw [clientTargetLayer, hbuffer] at hfilled
    cases hfilled
  · obtain rfl : video = video' := Option.some.inj (hlayer.symm.trans hlayer')
    rw [hnone] at hvideo
    cases hvideo
  · have hfilled := htarget huses
    rw [hnone] at hfilled
    cases hfilled
  · exact absurd hopen (not_le.mpr hfd)
  · exact hresult hioctl

/-- **Each point of failure makes the four updates** and returns false. -/
theorem overlayPost_failed (h : RepInv a) (hwanted : a.OverlayWanted)
    (hfails : a.OverlayFails env) :
    (a.postOverlay env).1 = a.disableOverlay ∧ (a.postOverlay env).2.1 ≠ .posted := by
  have hexit := overlayPost a env
  have hfound := h.postOverlay_finds_layer env
  revert hexit hfound
  generalize a.postOverlay env = r
  intro hexit hfound
  cases hexit with
  | notWanted hoff => exact absurd hwanted hoff
  | missingLayer => exact absurd rfl hfound
  | posted _ hdesc hopen hioctl => exact absurd hfails (hdesc.not_fails hopen hioctl)
  | noClientTarget | videoInvalid | clientTargetInvalid | openFailed | ioctlFailed =>
    exact ⟨rfl, fun h => by cases h⟩

/-! ## Descriptors -/

/-- The descriptors that a list of calls opens. -/
def opened (effects : List Effect) : List Int :=
  effects.filterMap fun
    | .openFb0 fbFd => if fbFd < 0 then none else some fbFd
    | _ => none

/-- The descriptors that a list of calls closes. -/
def closed (effects : List Effect) : List Int :=
  effects.filterMap fun
    | .close fd => some fd
    | _ => none

/-- The release fence that a list of calls is given by the driver. -/
def fences (env : PostEnv) (effects : List Effect) : List Int :=
  (overlays effects).filterMap fun _ =>
    if env.releaseFence < 0 then none else some env.releaseFence

theorem closed_playEffects (env : PostEnv) (overlay : DssOverlay) (hopen : 0 ≤ env.fbFd) :
    closed (playEffects env overlay) =
      opened (playEffects env overlay) ++ fences env (playEffects env overlay) := by
  have hfd : ¬env.fbFd < 0 := not_lt.mpr hopen
  rw [fences, overlays_playEffects]
  by_cases hfence : env.releaseFence < 0
  · have hnone : ¬env.releaseFence ≥ 0 := not_le.mpr hfence
    simp [closed, opened, playEffects, hfd, hfence, hnone]
  · have hsome : env.releaseFence ≥ 0 := not_lt.mp hfence
    simp [closed, opened, playEffects, hfd, hfence, hsome]

/-- **Every exit of `postOverlay` closes what it opened**, and the fence it was given. -/
theorem closed_eq (a : Adapter) (env : PostEnv) :
    closed (a.postOverlay env).2.2 =
      opened (a.postOverlay env).2.2 ++ fences env (a.postOverlay env).2.2 := by
  have hexit := overlayPost a env
  revert hexit
  generalize a.postOverlay env = r
  intro hexit
  cases hexit with
  | ioctlFailed _ _ hopen | posted _ _ hopen => exact closed_playEffects env _ hopen
  | openFailed _ hopen =>
    show [] = opened [.openFb0 env.fbFd] ++ []
    simp [opened, hopen]
  | notWanted | missingLayer | noClientTarget | videoInvalid | clientTargetInvalid => rfl

/-- The post to the framebuffer device opens and closes nothing. -/
theorem closed_append_fbdevPost {effects : List Effect}
    (h : closed effects = opened effects ++ fences env effects) (a : Adapter) :
    closed (effects ++ (a.fbdevPost env).2) =
      opened (effects ++ (a.fbdevPost env).2) ++ fences env (effects ++ (a.fbdevPost env).2) := by
  have hclosed : closed (a.fbdevPost env).2 = [] := by
    unfold fbdevPost
    split <;> rfl
  have hopened : opened (a.fbdevPost env).2 = [] := by
    unfold fbdevPost
    split <;> rfl
  have hfences : fences env (effects ++ (a.fbdevPost env).2) = fences env effects := by
    rw [fences, overlays_append, overlays_fbdevPost, List.append_nil, fences]
  calc closed (effects ++ (a.fbdevPost env).2)
      = closed effects ++ closed (a.fbdevPost env).2 := List.filterMap_append
    _ = opened effects ++ fences env effects := by rw [hclosed, List.append_nil, h]
    _ = (opened effects ++ opened (a.fbdevPost env).2) ++ fences env effects := by
      rw [hopened, List.append_nil]
    _ = opened (effects ++ (a.fbdevPost env).2) ++
        fences env (effects ++ (a.fbdevPost env).2) := by
      rw [hfences, opened, opened, opened, List.filterMap_append]

/-! ## Staying back -/

/-- What the four updates leave behind, the state apart. -/
def Latched (a : Adapter) : Prop :=
  a.mOverlayDisabledByError = true ∧ a.mHasOverlayLayer = false

theorem latched_disableOverlay (a : Adapter) : a.disableOverlay.Latched := ⟨rfl, rfl⟩

namespace Latched

theorem overlayChoice_eq (h : a.Latched) (order : List Nat) : a.overlayChoice true order = 0 := by
  rw [overlayChoice, latchAfterProperty, h.1]
  rfl

theorem postBuffer_eq (h : a.Latched) (env : PostEnv) :
    a.postBuffer env = (a, a.fbdevPost env) := by
  rw [Adapter.postBuffer, h.2]
  rfl

/-- While the fallback is latched the driver is left alone. -/
theorem overlays_eq_nil (h : a.Latched) (env : PostEnv) :
    overlays (a.postBuffer env).2.2 = [] := by
  rw [h.postBuffer_eq env]
  exact overlays_fbdevPost a env

theorem setLayer (h : a.Latched) (layer : Nat) (f : LayerState → LayerState) :
    (a.setLayer layer f).1.Latched := by
  by_cases hlayer : layer ∈ a.mLayerStates
  · rw [setLayer_of_mem hlayer]
    exact h
  · rw [setLayer_of_notMem hlayer]
    exact h

/-- **What keeps the fallback latched**: every call but a validation with the property off. -/
theorem perform (h : a.Latched) {call : Call}
    (hcall : ∀ order, call ≠ .validateLayers false order) : (call.perform a).1.Latched := by
  cases call with
  | setState | addLayer | acceptChanges | setBuffer => exact h
  | setLayerBuffer l | setLayerCompositionType l | setLayerBlendMode l | setLayerDisplayFrame l
  | setLayerPlaneAlpha l | setLayerSourceCrop l | setLayerTransform l | setLayerZOrder l =>
    exact h.setLayer l _
  | removeLayer l =>
    show (a.removeLayer l).1.Latched
    by_cases hlive : l ∈ a.mLayers
    -- removing a layer may clear the flag, but does not set it
    · have hflag : (a.removeLayer l).1.mHasOverlayLayer ≠ true := fun hhas => by
        have hhad := ((removeLayer_overlay hlive).1 hhas).1
        rw [h.2] at hhad
        cases hhad
      refine ⟨?_, Bool.eq_false_iff.mpr hflag⟩
      rw [removeLayer_of_mem hlive]
      exact h.1
    · rw [removeLayer_of_notMem hlive]
      exact h
  | validateLayers overlayProperty order =>
    cases overlayProperty with
    | false => exact absurd rfl (hcall order)
    | true =>
      refine ⟨h.1, ?_⟩
      show (a.overlayChoice true order != 0) = false
      rw [h.overlayChoice_eq]
      rfl
  | postBuffer env =>
    show (a.postBuffer env).1.Latched
    rw [h.postBuffer_eq]
    exact h

/-- A validation then gives every layer to the client and asks for no hole. -/
theorem validateLayers_client (h : a.Latched) {order : List Nat}
    (horder : IsOrder order a.mLayerStates) :
    (∀ l ∈ a.mLayerStates,
      (a.validateLayers true order).validatedType l = some HWC2_COMPOSITION_CLIENT) ∧
    (a.validateLayers true order).mClearClientTargetLayers = ∅ := by
  have hchoice := h.overlayChoice_eq order
  constructor
  · intro l hl
    obtain ⟨state, hstate⟩ := Finmap.mem_iff.mp hl
    rw [validatedType_validateLayers a true horder, hstate, hchoice]
    rfl
  · show (if (a.overlayChoice true order != 0 && _) then _ else _) = _
    rw [hchoice]
    rfl

end Latched

end Adapter

/-! ## The whole rest of the run -/

open Adapter

theorem latched_of_exec {t t' : Tracked} {calls : List Call}
    (hcalls : ∀ call ∈ calls, ∀ order, call ≠ .validateLayers false order)
    (h : t.adapter.Latched) (hexec : exec system t calls = some t') : t'.adapter.Latched := by
  refine exec_invariant (I := fun t => t.adapter.Latched) ?_ h hexec
  intro t call t' hmem hlatched hstep
  obtain ⟨-, rfl⟩ := step_eq_some hstep
  exact hlatched.perform (hcalls call hmem)

/-- **A failing overlay post latches the fallback.** In every reachable state and at every point
of failure, `postOverlay` returns false, the frame goes to the framebuffer device in the same
call, the flags are cleared, the display has to be validated again and nothing is left open.
However the run goes on, until a validation finds the property off no overlay is played and
every validation gives all layers to the client. -/
theorem overlay_failure_latches {t : Tracked} (h : Reachable system t) {env : PostEnv}
    (hwanted : t.adapter.OverlayWanted) (hfails : t.adapter.OverlayFails env) :
    (t.adapter.postOverlay env).2.1 ≠ .posted ∧
    (∀ buffer, t.adapter.mBuffer = some buffer →
      (t.adapter.postBuffer env).2 =
        (.fbdev env.fbPostError, (t.adapter.postOverlay env).2.2 ++ [.fbPost buffer])) ∧
    (t.adapter.postBuffer env).1.mHasOverlayLayer = false ∧
    (t.adapter.postBuffer env).1.mOverlayUsesClientTarget = false ∧
    (t.adapter.postBuffer env).1.mState = .MODIFIED ∧
    closed (t.adapter.postBuffer env).2.2 =
      opened (t.adapter.postBuffer env).2.2 ++ fences env (t.adapter.postBuffer env).2.2 ∧
    ∀ (t₁ t₂ : Tracked) (calls : List Call), system.step t (.postBuffer env) = some t₁ →
      (∀ call ∈ calls, ∀ order, call ≠ .validateLayers false order) →
      exec system t₁ calls = some t₂ →
      (∀ env', overlays (t₂.adapter.postBuffer env').2.2 = []) ∧
      ∀ order, IsOrder order t₂.adapter.mLayerStates →
        (∀ l ∈ t₂.adapter.mLayers,
          (t₂.adapter.validateLayers true order).validatedType l =
            some HWC2_COMPOSITION_CLIENT) ∧
        (t₂.adapter.validateLayers true order).mClearClientTargetLayers = ∅ := by
  -- all exits of a failed post do the same to the adapter, which the first parts read off
  obtain ⟨hadapter, hexit⟩ := overlayPost_failed (reachable_inv h).1 hwanted hfails
  have hpost := postBuffer_eq t.adapter env
  rw [if_neg hexit, hadapter] at hpost
  refine ⟨hexit, ?_, ?_, ?_, ?_, ?_, ?_⟩
  · intro buffer hbuffer
    have hfbdev : t.adapter.disableOverlay.fbdevPost env =
        (.fbdev env.fbPostError, [.fbPost buffer]) := by
      show t.adapter.fbdevPost env = _
      rw [fbdevPost, hbuffer]
    rw [hpost, hfbdev]
  · rw [hpost]
    rfl
  · rw [hpost]
    rfl
  · rw [hpost]
    rfl
  · rw [hpost]
    exact closed_append_fbdevPost (closed_eq t.adapter env) _
  · intro t₁ t₂ calls hstep hcalls hexec
    obtain ⟨-, rfl⟩ := step_eq_some hstep
    -- from here on the latch is an invariant of the calls
    have hlatched : (t.adapter.postBuffer env).1.Latched := by
      rw [hpost]
      exact latched_disableOverlay t.adapter
    have hlater := latched_of_exec hcalls hlatched hexec
    have hreach : Reachable system t₂ := (h.step hstep).exec hexec
    refine ⟨hlater.overlays_eq_nil, fun order horder => ?_⟩
    obtain ⟨htypes, hclear⟩ := hlater.validateLayers_client horder
    exact ⟨fun l hl => htypes l ((reachable_inv hreach).1.mem_layers_iff.mp hl), hclear⟩

/-- The driver refuses the overlay and hands back a fence. -/
def refusedEnv : PostEnv := ⟨3, -1, 7, 0⟩

theorem overlay_failure_latches_sample : ∃ t,
    (sampleRun.bind fun t => exec system t [.setBuffer (some sampleVideo)]) = some t ∧
    (t.adapter.postBuffer refusedEnv).1.mState = .MODIFIED ∧
    closed (t.adapter.postBuffer refusedEnv).2.2 = [3, 7] := by
  have hflags : (sampleRun.bind fun t => exec system t [.setBuffer (some sampleVideo)]).map
      (fun t => (t.adapter.mHasOverlayLayer, t.adapter.mOverlayDisabledByError)) =
      some (true, false) := by decide +kernel
  have hopened : (sampleRun.bind fun t => exec system t [.setBuffer (some sampleVideo)]).map
      (fun t => opened (t.adapter.postBuffer refusedEnv).2.2 ++
        fences refusedEnv (t.adapter.postBuffer refusedEnv).2.2) = some [3, 7] := by
    decide +kernel
  obtain ⟨t, hrun, hwanted⟩ := Option.map_eq_some_iff.mp hflags
  rw [hrun] at hopened
  obtain ⟨t₀, hsample, hexec⟩ := Option.bind_eq_some_iff.mp hrun
  have hreach₀ : Reachable system t₀ := .of_exec ⟨_, rfl⟩ hsample
  have hreach : Reachable system t := hreach₀.exec hexec
  have hfails : t.adapter.OverlayFails refusedEnv :=
    Or.inr (Or.inr (Or.inr (Or.inr (by decide))))
  have hresult := overlay_failure_latches hreach
    ⟨(Prod.mk.inj hwanted).1, (Prod.mk.inj hwanted).2⟩ hfails
  exact ⟨t, hrun, hresult.2.2.2.2.1, hresult.2.2.2.2.2.1.trans (Option.some.inj hopened)⟩

end Mozart.Composer

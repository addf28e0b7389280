import Mozart.Composer.Latch
import Mozart.Composer.Selection
import Mozart.Lib.Flag

/-!
# When the overlay is in use

* **`disabledByError_iff`**: the overlay is disabled by an error exactly after a post that failed,
  until a validation finds the property off.
* **`overlay_chosen_iff`**: so a validation with the property on gives a layer to the overlay
  exactly if some layer can be shown there and no post failed since the property was last off.
-/

namespace Mozart.Composer

open Transition MapLoop

namespace Adapter

/-- The call is a post that wants the overlay and fails. -/
def FailingPost (t : Tracked) (call : Call) : Prop :=
  ∃ env, call = .postBuffer env ∧ t.adapter.OverlayWanted ∧ t.adapter.OverlayFails env

/-- The call is a validation that finds the property off. -/
def TurnsOff (call : Call) : Prop := ∃ order, call = .validateLayers false order

/-- Some post failed, and no validation since found the property off. -/
def FailedSince (t₀ : Tracked) (calls : List Call) : Prop :=
  SetSince system FailingPost TurnsOff t₀ calls

variable {a : Adapter}

/-- A post that does not fail leaves the adapter as it is. -/
theorem postBuffer_of_not_failing {env : PostEnv}
    (hnot : ¬ (a.OverlayWanted ∧ a.OverlayFails env)) : (a.postBuffer env).1 = a := by
  have hsame : (a.postOverlay env).1 = a := by
    have hexit := overlayPost a env
    revert hexit
    generalize a.postOverlay env = r
    intro hexit
    cases hexit with
    | notWanted | missingLayer | posted => rfl
    | noClientTarget hwanted huses hbuffer =>
      exact absurd ⟨hwanted, .inl ⟨huses, hbuffer⟩⟩ hnot
    | videoInvalid hwanted hlayer hvideo =>
      exact absurd ⟨hwanted, .inr (.inl ⟨_, hlayer, hvideo⟩)⟩ hnot
    | clientTargetInvalid hwanted huses hclient =>
      exact absurd ⟨hwanted, .inr (.inr (.inl ⟨huses, hclient⟩))⟩ hnot
    | openFailed hwanted hopen =>
      exact absurd ⟨hwanted, .inr (.inr (.inr (.inl hopen)))⟩ hnot
    | ioctlFailed hwanted _ _ hioctl =>
      exact absurd ⟨hwanted, .inr (.inr (.inr (.inr hioctl)))⟩ hnot
  rw [postBuffer_eq]
  split
  · exact hsame
  · exact hsame

theorem postBuffer_of_failing (h : RepInv a) {env : PostEnv} (hwanted : a.OverlayWanted)
    (hfails : a.OverlayFails env) : (a.postBuffer env).1 = a.disableOverlay := by
  obtain ⟨hadapter, hexit⟩ := overlayPost_failed h hwanted hfails
  rw [postBuffer_eq, if_neg hexit]
  exact hadapter

theorem disabledByError_setLayer (layer : Nat) (f : LayerState → LayerState) :
    (a.setLayer layer f).1.mOverlayDisabledByError = a.mOverlayDisabledByError := by
  by_cases hlayer : layer ∈ a.mLayerStates
  · rw [setLayer_of_mem hlayer]
  · rw [setLayer_of_notMem hlayer]

theorem disabledByError_removeLayer (layer : Nat) :
    (a.removeLayer layer).1.mOverlayDisabledByError = a.mOverlayDisabledByError := by
  by_cases hlayer : layer ∈ a.mLayers
  · rw [removeLayer_of_mem hlayer]
  · rw [removeLayer_of_notMem hlayer]

/-- What a call does to the flag: nothing but for posts and validations. -/
theorem disabledByError_perform {call : Call} (hpost : ∀ env, call ≠ .postBuffer env)
    (hvalidate : ∀ overlayProperty order, call ≠ .validateLayers overlayProperty order) :
    (call.perform a).1.mOverlayDisabledByError = a.mOverlayDisabledByError := by
  cases call with
  | setState | addLayer | acceptChanges | setBuffer => rfl
  | removeLayer l => exact disabledByError_removeLayer l
  | setLayerBuffer l | setLayerCompositionType l | setLayerBlendMode l | setLayerDisplayFrame l
  | setLayerPlaneAlpha l | setLayerSourceCrop l | setLayerTransform l | setLayerZOrder l =>
    exact disabledByError_setLayer l _
  | validateLayers overlayProperty order => exact absurd rfl (hvalidate overlayProperty order)
  | postBuffer env => exact absurd rfl (hpost env)

theorem disabledByError_step {t t' : Tracked} {call : Call} (h : RepInv t.adapter)
    (hstep : system.step t call = some t') :
    t'.adapter.mOverlayDisabledByError = true
      ↔ FailingPost t call ∨ t.adapter.mOverlayDisabledByError = true ∧ ¬ TurnsOff call := by
  obtain ⟨-, rfl⟩ := step_eq_some hstep
  -- a failing post sets the latch, a validation with the property off clears it, nothing else does
  by_cases hpost : ∃ env, call = .postBuffer env
  · obtain ⟨env, rfl⟩ := hpost
    have hkeeps : ¬ TurnsOff (.postBuffer env) := by
      rintro ⟨order, horder⟩
      cases horder
    show (t.adapter.postBuffer env).1.mOverlayDisabledByError = true ↔ _
    by_cases hfailing : t.adapter.OverlayWanted ∧ t.adapter.OverlayFails env
    · rw [postBuffer_of_failing h hfailing.1 hfailing.2]
      exact iff_of_true rfl (.inl ⟨env, rfl, hfailing⟩)
    · have hnot : ¬ FailingPost t (.postBuffer env) := by
        rintro ⟨env', henv, hwanted⟩
        cases henv
        exact hfailing hwanted
      rw [postBuffer_of_not_failing hfailing, or_iff_right hnot, and_iff_left hkeeps]
  · have hnot : ¬ FailingPost t call := fun ⟨env, henv, _⟩ => hpost ⟨env, henv⟩
    rw [or_iff_right hnot]
    by_cases hvalidate : ∃ overlayProperty order, call = .validateLayers overlayProperty order
    · obtain ⟨overlayProperty, order, rfl⟩ := hvalidate
      show t.adapter.latchAfterProperty overlayProperty = true ↔ _
      cases overlayProperty with
      | false => exact iff_of_false nofun fun hset => hset.2 ⟨order, rfl⟩
      | true =>
        have hkeeps : ¬ TurnsOff (.validateLayers true order) := by
          rintro ⟨order', horder⟩
          cases horder
        rw [and_iff_left hkeeps]
        rfl
    · have hkeeps : ¬ TurnsOff call := fun ⟨order, horder⟩ => hvalidate ⟨false, order, horder⟩
      rw [and_iff_left hkeeps, disabledByError_perform (fun env henv => hpost ⟨env, henv⟩)
        (fun overlayProperty order horder => hvalidate ⟨overlayProperty, order, horder⟩)]

theorem disabledByError_iff {t₀ t : Tracked} {calls : List Call} (hinit : system.init t₀)
    (hexec : exec system t₀ calls = some t) :
    t.adapter.mOverlayDisabledByError = true ↔ FailedSince t₀ calls := by
  have hreach : Reachable system t₀ := .init hinit
  have hoff : ¬ t₀.adapter.mOverlayDisabledByError = true := by
    obtain ⟨info, rfl⟩ := hinit
    exact nofun
  have hkeep : ∀ t call t', Reachable system t → system.step t call = some t' →
      Reachable system t' := fun t call t' h hstep => h.step hstep
  have hflag : ∀ t call t', Reachable system t → system.step t call = some t' →
      (t'.adapter.mOverlayDisabledByError = true ↔ FailingPost t call ∨
        t.adapter.mOverlayDisabledByError = true ∧ ¬ TurnsOff call) :=
    fun t call t' h hstep => disabledByError_step (reachable_inv h).1 hstep
  exact flag_iff_setSince hkeep hflag hreach hoff hexec

end Adapter

open Adapter

/-- **`overlay_chosen_iff`.** After every run: a validation that finds the property on gives a layer
to the overlay exactly if there is a layer that can be shown there, and no post failed since a
validation last found the property off, or ever if none did. -/
theorem overlay_chosen_iff {t₀ t : Tracked} {calls : List Call} (hinit : system.init t₀)
    (hexec : exec system t₀ calls = some t) (hcount : t.issued.length < 2 ^ 64) {order : List Nat}
    (horder : IsOrder order t.adapter.mLayerStates) :
    (t.adapter.validateLayers true order).mHasOverlayLayer = true
      ↔ (∃ l state, t.adapter.IsCandidate l state) ∧ ¬ FailedSince t₀ calls := by
  have hflag := disabledByError_iff hinit hexec
  have hchosen : (t.adapter.validateLayers true order).mHasOverlayLayer = true
      ↔ t.adapter.overlayChoice true order ≠ 0 := bne_iff_ne
  rw [hchosen]
  constructor
  · intro hne
    constructor
    · by_contra hnone
      exact hne (overlayChoice_of_none (fun l state h => hnone ⟨l, state, h⟩) order)
    · intro hfailed
      have hoff : ¬ t.adapter.OverlayOn true := fun hon =>
        absurd (hflag.mpr hfailed) (by rw [hon.2]; exact nofun)
      exact hne (overlayChoice_of_off hoff order)
  · rintro ⟨hcandidate, hnot⟩
    obtain ⟨hrep, hissued⟩ := reachable_inv ((Reachable.init hinit).exec hexec)
    have hids : 0 ∉ t.adapter.mLayerStates := fun hzero =>
      (hissued.distinct hcount).1 (hissued.live 0 (hrep.mem_layers_iff.mpr hzero))
    have hon : t.adapter.OverlayOn true :=
      ⟨rfl, Bool.eq_false_iff.mpr fun hset => hnot (hflag.mp hset)⟩
    exact (overlayChoice_largest hids horder hon hcandidate).1

/-- A validated video layer, a post that the driver refuses, and the property off for one
validation. -/
def refusedThenOff : List Call :=
  [.addLayer, .setLayerCompositionType 1 HWC2_COMPOSITION_DEVICE,
    .setLayerBuffer 1 (some sampleVideo), .setLayerDisplayFrame 1 ⟨0, 0, 64, 32⟩,
    .setLayerSourceCrop 1 ⟨0, 0, 64, 32⟩, .validateLayers true [1], .postBuffer refusedEnv,
    .validateLayers false [1]]

theorem overlay_chosen_iff_refused : ∃ t, exec system ⟨{ mFbInfo := ⟨64, 32⟩ }, []⟩ refusedThenOff
      = some t ∧ ¬ FailedSince ⟨{ mFbInfo := ⟨64, 32⟩ }, []⟩ refusedThenOff := by
  have hrun : (exec system ⟨{ mFbInfo := ⟨64, 32⟩ }, []⟩ refusedThenOff).map
      (fun t => ((t.adapter.validateLayers true [1]).mHasOverlayLayer,
        decide (IsOrder [1] t.adapter.mLayerStates), t.issued.length)) = some (true, true, 1) := by
    decide +kernel
  obtain ⟨t, hexec, hvalues⟩ := Option.map_eq_some_iff.mp hrun
  obtain ⟨hchosen, hrest⟩ := Prod.mk.inj hvalues
  obtain ⟨horder, hlength⟩ := Prod.mk.inj hrest
  have hcount : t.issued.length < 2 ^ 64 := by
    rw [hlength]
    decide
  have hiff := overlay_chosen_iff ⟨_, rfl⟩ hexec hcount (of_decide_eq_true horder)
  exact ⟨t, hexec, (hiff.mp hchosen).2⟩

end Mozart.Composer

import Mozart.Composer.OverlayRuns

/-!
# The descriptors a run hands to the driver

What the two invariants of a session say of every descriptor it played.

* **`played_yuv_iff`**: the bottom layer is in a YUV format as long as the buffers attached
  after the validation are. `postOverlay` does not repeat the test of the selection, so
  **`played_not_yuv`** is a run that plays an RGBA buffer.
* **`played_matches`**: everything else about a descriptor is as the validation left it.
-/

namespace Mozart.Composer

open MapLoop Transition Adapter

variable {displayId : Nat} {s : Session} {p : Played}

/-! ## The two layers of a descriptor -/

theorem info_bottom (a : Adapter) (video : DssLayer) (client : Option DssLayer) :
    (a.overlayDescriptor video client).info bottom = video := by
  cases client <;> rfl

theorem info_top (a : Adapter) (video client : DssLayer) :
    (a.overlayDescriptor video (some client)).info top = client := rfl

/-- The video behind the bottom layer, which is the overlay layer of the last validation. -/
theorem Recorded.video (h : Recorded p) : ∃ video,
    p.adapter.mLayerStates.lookup p.choice = some video ∧
      videoLayer video = some (p.overlay.info bottom) := by
  obtain ⟨video, videoInfo, client, hlayer, hvideo, heq, -⟩ := h.describes.layers
  rw [← h.chosen.layer h.wanted.1, heq, info_bottom]
  exact ⟨video, hlayer, hvideo⟩

/-! ## Formats -/

/-- One descriptor: its bottom layer is YUV exactly when the buffer attached since the
validation is, if there is one. -/
theorem Recorded.yuv_iff (h : Recorded p) :
    isYuvFormat (p.overlay.info bottom).src.format = true ↔
      ∀ buffer, p.swapped = some buffer → (getHisiFormat buffer).any isYuvFormat = true := by
  obtain ⟨video, hlookup, hvideo⟩ := h.video
  obtain ⟨state, hstate, hattached⟩ := h.chosen.buffer h.wanted.1
  obtain rfl : video = state := Option.some.inj (hlookup.symm.trans hstate)
  have hformat : (getHisiFormat video.buffer).any isYuvFormat =
      isYuvFormat (p.overlay.info bottom).src.format := by
    rw [(filled_of_fillDssLayer hvideo).format]
    rfl
  rw [← hformat]
  cases hswapped : p.swapped with
  | none =>
    rw [hswapped] at hattached
    exact iff_of_true hattached fun buffer hsome => by cases hsome
  | some attached =>
    rw [hswapped] at hattached
    have hbuffer : video.buffer = attached := hattached
    rw [hbuffer]
    constructor
    · intro h buffer hsome
      exact Option.some.inj hsome ▸ h
    · exact fun h => h attached rfl

/-- **When the overlay stays YUV.** In every run, all descriptors have a YUV buffer at the bottom
exactly when, at each post that reached the driver, the buffer last attached to the overlay
layer since its validation, if any was, is in a YUV format. -/
theorem played_yuv_iff (h : Reachable (session displayId) s) :
    (∀ p ∈ s.played, isYuvFormat (p.overlay.info bottom).src.format = true) ↔
      ∀ p ∈ s.played, ∀ buffer, p.swapped = some buffer →
        (getHisiFormat buffer).any isYuvFormat = true :=
  forall_congr' fun p => forall_congr' fun hp =>
    ((sessionInv_of_reachable h).played p hp).yuv_iff

/-- A 64x32 buffer in `HAL_PIXEL_FORMAT_RGBA_8888`. -/
def sampleRgba : NativeHandle where
  numFds := 1
  numInts := 48
  data i := if i = 1 then 0x03141592 else if i = 2 then 1 else if i = 19 then 64
    else if i = 20 then 32 else 0

/-- The hooks up to the validation of one video layer. -/
def validateVideo : List Hook :=
  [.createLayer .MODIFIED, .setLayerCompositionType 1 HWC2_COMPOSITION_DEVICE,
    .setLayerBuffer 1 (some sampleVideo), .setLayerDisplayFrame 1 ⟨0, 0, 64, 32⟩,
    .setLayerSourceCrop 1 ⟨0, 0, 64, 32⟩, .validateDisplay true [1]]

/-- The framebuffer opens, the driver takes the overlay and there is no release fence. -/
def sampleEnv : PostEnv := ⟨3, 0, -1, 0⟩

/-- Calls of hooks on display 0. -/
def onDisplay0 (hooks : List Hook) : List HookCall := hooks.map fun hook => ⟨0, hook⟩

/-- Execute hooks under the assumptions on the unpatched ones. -/
def playHooks (hooks : List Hook) : Option Session :=
  exec ((session 0).restrict asUnpatched) { adapter := { mFbInfo := ⟨64, 32⟩ } }
    (onDisplay0 hooks)

theorem run_playHooks {hooks : List Hook} (h : playHooks hooks = some s) :
    Run (session 0) asUnpatched (onDisplay0 hooks) s :=
  .of_exec_restrict ⟨⟨64, 32⟩, by decide, by decide, rfl⟩ h

theorem reachable_playHooks {hooks : List Hook} (h : playHooks hooks = some s) :
    Reachable (session 0) s := ⟨_, (run_playHooks h).mono fun _ _ _ => trivial⟩

/-- A video posted as it was validated, and again with the next frame in its buffer. -/
theorem played_yuv_iff_video : ∃ s, playHooks (validateVideo ++ [.presentDisplay sampleEnv,
      .setLayerBuffer 1 (some sampleVideo), .presentDisplay sampleEnv]) = some s ∧
    (s.played.map fun p => p.swapped.isSome) = [false, true] ∧
      ∀ p ∈ s.played, isYuvFormat (p.overlay.info bottom).src.format = true := by
  have hswapped : (playHooks (validateVideo ++ [.presentDisplay sampleEnv,
      .setLayerBuffer 1 (some sampleVideo), .presentDisplay sampleEnv])).map
      (fun s => s.played.map fun p => p.swapped.map fun buffer =>
        (getHisiFormat buffer).any isYuvFormat) = some [none, some true] := by decide +kernel
  obtain ⟨s, hrun, hplayed⟩ := Option.map_eq_some_iff.mp hswapped
  refine ⟨s, hrun, ?_, (played_yuv_iff (reachable_playHooks hrun)).mpr fun p hp buffer hsome => ?_⟩
  · have hsome := congrArg (List.map Option.isSome) hplayed
    simpa [Function.comp_def] using hsome
  · have hformat : (p.swapped.map fun buffer => (getHisiFormat buffer).any isYuvFormat) ∈
        [none, some true] := by
      rw [← hplayed]
      exact List.mem_map_of_mem hp
    rw [hsome] at hformat
    simpa using hformat

/-- **The overlay does not always stay YUV.** The client replaces the video by an RGBA buffer,
which needs no new validation, and the next post hands it to the driver. -/
theorem played_not_yuv : ∃ s, Run (session 0) asUnpatched (onDisplay0 (validateVideo ++
      [.setLayerBuffer 1 (some sampleRgba), .presentDisplay sampleEnv])) s ∧
    ∃ p ∈ s.played, isYuvFormat (p.overlay.info bottom).src.format = false := by
  have hformats : (playHooks (validateVideo ++
      [.setLayerBuffer 1 (some sampleRgba), .presentDisplay sampleEnv])).map
      (fun s => s.played.map fun p => (p.overlay.info bottom).src.format) = some [6] := by
    decide +kernel
  obtain ⟨s, hrun, hplayed⟩ := Option.map_eq_some_iff.mp hformats
  obtain ⟨p, hp, hformat⟩ := List.mem_map.mp (hplayed ▸ List.mem_singleton_self 6)
  exact ⟨s, run_playHooks hrun, p, hp, hformat ▸ rfl⟩

/-! ## Geometry -/

/-- What the descriptor owes to the validation: its layers, where they go and what they ask of
the driver. -/
structure MatchesValidated (p : Played) : Prop where
  layer_nums : p.overlay.layer_nums = 1 ∨ p.overlay.layer_nums = 2
  layer_idx : ∀ i : Fin kHisiMaxLayers, i.val < p.overlay.layer_nums →
    (p.overlay.info i).layer_idx = i.val
  /-- The overlay layer at the bottom, exactly on its display frame, inside the display. -/
  video : ∃ video, p.adapter.mLayerStates.lookup p.choice = some video ∧
    videoLayer video = some (p.overlay.info bottom) ∧
    (p.overlay.info bottom).chn_idx = DPE0_CHN0 ∧
    (p.overlay.info bottom).transform = HISI_FB_TRANSFORM_NOP ∧
    (p.overlay.info bottom).dst_rect.Is video.displayFrame ∧
    video.displayFrame.left < video.displayFrame.right ∧
    video.displayFrame.top < video.displayFrame.bottom ∧
    0 ≤ video.displayFrame.left ∧ video.displayFrame.right ≤ p.adapter.mFbInfo.width ∧
    0 ≤ video.displayFrame.top ∧ video.displayFrame.bottom ≤ p.adapter.mFbInfo.height
  two_iff : p.overlay.layer_nums = 2 ↔ ∃ l ∈ p.adapter.mLayers, l ≠ p.choice
  /-- The client target on top, over the whole display. -/
  client : p.overlay.layer_nums = 2 →
    p.adapter.clientTargetLayer = some (p.overlay.info top) ∧
    (p.overlay.info top).chn_idx = DPE0_CHN3 ∧
    (p.overlay.info top).blending = HISI_FB_BLENDING_PREMULT ∧
    (p.overlay.info top).dst_rect = ⟨0, 0, p.adapter.mFbInfo.width, p.adapter.mFbInfo.height⟩
  scaler : ∀ i : Fin kHisiMaxLayers, i.val < p.overlay.layer_nums →
    ((p.overlay.info i).need_cap &&& CAP_SCL ≠ 0 ↔
      (p.overlay.info i).src_rect.w ≠ (p.overlay.info i).dst_rect.w ∨
      (p.overlay.info i).src_rect.h ≠ (p.overlay.info i).dst_rect.h)

/-- The filled part of `layer_infos`. -/
theorem index_cases {overlay : DssOverlay} {i : Fin kHisiMaxLayers}
    (hnums : overlay.layer_nums = 1 ∨ overlay.layer_nums = 2) (hi : i.val < overlay.layer_nums) :
    i = bottom ∨ i = top ∧ overlay.layer_nums = 2 := by
  have hval : i.val = 0 ∨ i.val = 1 ∧ overlay.layer_nums = 2 := by omega
  rcases hval with hval | ⟨hval, htwo⟩
  · exact Or.inl (Fin.ext hval)
  · exact Or.inr ⟨Fin.ext hval, htwo⟩

/-- The client target's layer, on a display whose sides are `uint32_t`. -/
theorem clientTargetLayer_dst {a : Adapter} (hwidth : a.mFbInfo.width < 2 ^ 32)
    (hheight : a.mFbInfo.height < 2 ^ 32) {client : DssLayer}
    (h : a.clientTargetLayer = some client) :
    client.dst_rect = ⟨0, 0, a.mFbInfo.width, a.mFbInfo.height⟩ := by
  rw [(filled_of_fillDssLayer h).dst_rect, displayRect, rectWidth, rectHeight, Int.sub_zero,
    Int.sub_zero, toUInt32_toInt32 hwidth, toUInt32_toInt32 hheight]
  rfl

theorem Recorded.matches (h : Recorded p) (hvalidated : Validated p.adapter p.choice)
    (hstate : p.adapter.mState ≠ .MODIFIED) : MatchesValidated p := by
  obtain ⟨video, videoInfo, client, hlayer, hvideo, heq, hsome, hclient⟩ := h.describes.layers
  rw [h.chosen.layer h.wanted.1] at hlayer
  obtain ⟨state, hstate', hvalid, hfits, htransform⟩ := hvalidated.geometry hstate h.wanted.1
  obtain rfl : video = state := Option.some.inj (hlayer.symm.trans hstate')
  have hbottom : p.overlay.info bottom = videoInfo := by rw [heq, info_bottom]
  have hfilled := filled_of_fillDssLayer hvideo
  have hnums : p.overlay.layer_nums = if client.isSome then 2 else 1 := by
    rw [heq]
    cases client <;> rfl
  have hnums' : p.overlay.layer_nums = 1 ∨ p.overlay.layer_nums = 2 := by
    rw [hnums]
    split
    · exact Or.inr rfl
    · exact Or.inl rfl
  -- the second layer, when there is one
  have htop : p.overlay.layer_nums = 2 →
      p.adapter.clientTargetLayer = some (p.overlay.info top) := by
    intro htwo
    cases client with
    | none =>
      rw [hnums] at htwo
      cases htwo
    | some clientInfo =>
      rw [heq, info_top]
      exact hclient clientInfo rfl
  refine ⟨hnums', fun i hi => ?_, ?_, ?_, fun htwo => ?_, fun i hi => ?_⟩
  · rcases index_cases hnums' hi with rfl | ⟨rfl, htwo⟩
    · rw [hbottom, hfilled.layer_idx]
      rfl
    · rw [(filled_of_fillDssLayer (htop htwo)).layer_idx]
      rfl
  · refine ⟨video, hlayer, hbottom ▸ hvideo, hbottom ▸ hfilled.chn_idx, ?_, ?_, ?_⟩
    · rw [hbottom, hfilled.transform, htransform]
      rfl
    · rw [hbottom, hfilled.dst_rect]
      exact displayRect_is hvalid hfits
    · simp only [rectIsValid, frameFitsDisplay, Bool.and_eq_true, decide_eq_true_eq]
        at hvalid hfits
      obtain ⟨⟨⟨hleft, htop⟩, hright⟩, hbot⟩ := hfits
      exact ⟨hvalid.1, hvalid.2, hleft, hright.trans (toInt32_le _), htop,
        hbot.trans (toInt32_le _)⟩
  · rw [hnums, hsome, ← hvalidated.client hstate h.wanted.1]
    cases p.adapter.mOverlayUsesClientTarget <;> decide
  · have hfilled' := filled_of_fillDssLayer (htop htwo)
    exact ⟨htop htwo, hfilled'.chn_idx, hfilled'.blending,
      clientTargetLayer_dst h.width h.height (htop htwo)⟩
  · rcases index_cases hnums' hi with rfl | ⟨rfl, htwo⟩
    · rw [hbottom, hfilled.need_cap]
      exact needCapWord_scl (by decide) _ _ _
    · rw [(filled_of_fillDssLayer (htop htwo)).need_cap]
      exact needCapWord_scl (by decide) _ _ _

/-- **Every descriptor matches what was validated.** In every run in which a post needs a
validated display, and layers that come, go or change need a new validation. -/
theorem played_matches {as : List HookCall} (h : Run (session displayId) asUnpatched as s) :
    ∀ p ∈ s.played, MatchesValidated p := by
  intro p hp
  have hrecorded := (sessionInv_of_reachable ⟨as, h.mono fun _ _ _ => trivial⟩).played p hp
  obtain ⟨hvalidated, hstate⟩ := (validated_of_run h).2 p hp
  exact hrecorded.matches hvalidated (by rw [hstate]; decide)

/-- A second layer, which the client draws into its target, and a swap of the video's buffer
before the post. -/
theorem played_matches_two : ∃ s, playHooks (validateVideo ++ [.createLayer .MODIFIED,
      .setClientTarget (some sampleRgba), .validateDisplay true [2, 1],
      .acceptDisplayChanges [1, 2], .setLayerBuffer 1 (some sampleVideo),
      .presentDisplay sampleEnv]) = some s ∧
    (s.played.map fun p => p.overlay.layer_nums) = [2] ∧ ∀ p ∈ s.played, MatchesValidated p := by
  have hnums : (playHooks (validateVideo ++ [.createLayer .MODIFIED,
      .setClientTarget (some sampleRgba), .validateDisplay true [2, 1],
      .acceptDisplayChanges [1, 2], .setLayerBuffer 1 (some sampleVideo),
      .presentDisplay sampleEnv])).map (fun s => s.played.map fun p => p.overlay.layer_nums) =
      some [2] := by decide +kernel
  obtain ⟨s, hrun, hplayed⟩ := Option.map_eq_some_iff.mp hnums
  exact ⟨s, hrun, hplayed, played_matches (run_playHooks hrun)⟩

end Mozart.Composer

import Mozart.Scripts.PatchStack

/-!
# `apply-local-patches.sh`

The script installs the device tree, applies the stack of patches, and in between extracts the
proprietary blobs if there is a cache of them.

* **`applyLocalPatches_again`**: a second run ends with the status of the first and changes
  nothing; after a success it skips every patch.
* **`applyLocalPatches_complete`**: after a success everything is in place.
* **`applyLocalPatches_frame`**: what a run may change, wherever it ends.
* **`applyLocalPatches_verified`**: it changes something only in a checkout with the pinned
  prebuilts, and these it leaves alone.
-/

namespace Mozart.Scripts

open Provision

variable {C P : Type}

/-! ## The script -/

section

variable (s : Setup C P)

def noBlobCache : List String :=
  ["note: proprietary blob cache is absent",
    "      run scripts/extract-proprietary-blobs.sh with a stock /system extraction before " ++
      "building"]

/-- `[[ -d "$BLOB_CACHE" ]] && [[ -n "$(find "$BLOB_CACHE" -type f -print -quit)" ]]` -/
def World.hasBlobs (w : World C) : Bool := w.cache.any fun files => decide (files.keys ≠ ∅)

/-- The blobs are extracted if there is a cache with a file in it. -/
def extractIfCached : Command C := fun w =>
  if w.hasBlobs then extract s .cache w else ⟨0, noBlobCache, w⟩

def patchesApplied : List String := ["local mozart patches are applied"]

/-- `apply-local-patches.sh` -/
def applyLocalPatches : Command C :=
  runAll <| [requireCheckout s, installDeviceTree s]
    ++ patchesBeforeBlobs.map (fun e => applyOnce s e.repo e.patch) ++ [extractIfCached s]
    ++ patchesAfterBlobs.map (fun e => applyOnce s e.repo e.patch) ++ [echo patchesApplied]

end

/-! ## The blobs between the patches -/

section

variable (s : Setup C P)

theorem extract_settles : Settles (extract s .cache)
    (fun w => ∀ m ∈ extractSteps s .cache, m.done w)
    (fun w => (extractSteps s .cache).flatMap fun m => m.quiet w) := by
  rw [extract_eq]
  exact runAll_settles (extractSteps_keep s .cache)

theorem hasBlobs_iff {w : World C} :
    w.hasBlobs = true ↔ ∃ p, (w.cached p).isSome = true := by
  unfold World.hasBlobs World.cached
  cases w.cache with
  | none => simp
  | some files =>
    simp only [Option.any_some, decide_eq_true_eq, Option.bind_some, Finmap.lookup_isSome,
      ← Finset.nonempty_iff_ne_empty, Finset.Nonempty, Finmap.mem_keys]

/-- A cache with a file in it has one after an extraction. -/
theorem hasBlobs_extract {w : World C} (h : w.hasBlobs = true) :
    (extract s .cache w).state.hasBlobs = true := by
  obtain ⟨p, hp⟩ := hasBlobs_iff.mp h
  exact hasBlobs_iff.mpr ⟨p, isSome_view_extract (l := .cache p) hp⟩

/-- If there is a cache, its blobs are installed. -/
def CacheExtracted (w : World C) : Prop :=
  w.hasBlobs = true → ∀ m ∈ extractSteps s .cache, m.done w

theorem extractIfCached_settles :
    Settles (extractIfCached s) (CacheExtracted s) (fun w => (extractIfCached s w).output) where
  establishes := by
    intro w hstatus
    unfold extractIfCached at hstatus ⊢
    split at hstatus
    · next hcache =>
      rw [if_pos hcache]
      intro _
      exact (extract_settles s).establishes w hstatus
    · next hcache =>
      rw [if_neg hcache]
      exact fun h => absurd h hcache
  noop := by
    intro w h
    unfold extractIfCached
    split
    · next hcache => rw [(extract_settles s).noop w (h hcache)]
    · rfl

theorem extractIfCached_stable : Stable (extractIfCached s) := by
  intro w
  unfold extractIfCached
  by_cases hcache : w.hasBlobs = true
  · rw [if_pos hcache, if_pos (hasBlobs_extract s hcache), extract_eq]
    exact runAll_stable (extractSteps_keep s .cache) (extractSteps_stable s .cache) w
  · rw [if_neg hcache, if_neg hcache]
    exact ⟨rfl, rfl⟩

/-- The locations of blobs. -/
def Proprietary (l : Location) : Prop :=
  (∃ p, l = .android (vendorProprietary ++ p)) ∨ ∃ p, l = .cache p

def managedExtract : Managed (World C) String :=
  ⟨extractIfCached s, _, _, extractIfCached_settles s⟩

theorem extractIfCached_frame (w : World C) {l : Location} (hl : ¬ Extracted s l) :
    World.view (extractIfCached s w).state l = w.view l := by
  unfold extractIfCached
  split
  · exact extract_frame s .cache w hl
  · rfl

theorem managedExtract_footprint :
    Footprint World.view (managedExtract s) Proprietary (Extracted s) where
  done_congr := by
    intro w w' hsame h hcache'
    have hcached : w'.cached = w.cached := funext fun p => hsame (.cache p) (.inr ⟨p, rfl⟩)
    have handroid : ∀ p, w'.android (vendorProprietary ++ p) = w.android (vendorProprietary ++ p) :=
      fun p => hsame (.android (vendorProprietary ++ p)) (.inl ⟨p, rfl⟩)
    -- the source is the cache, so the two worlds look the same to the steps
    have hfind : ∀ rel, findBlob .cache rel w' = findBlob .cache rel w := by
      intro rel
      unfold findBlob
      rw [show (Source.cache : Source C).files w' = Source.cache.files w from hcached]
    obtain ⟨there, hthere⟩ := hasBlobs_iff.mp hcache'
    have hdone := h (hasBlobs_iff.mpr ⟨there, hcached ▸ hthere⟩)
    intro m hm
    have hm' := hdone m hm
    unfold extractSteps at hm
    simp only [List.mem_append, List.mem_cons, List.not_mem_nil, or_false, List.mem_map] at hm
    rcases hm with ((rfl | rfl | rfl) | ⟨e, _, rfl⟩) | rfl
    · exact hm'
    · exact hm'
    · obtain ⟨blob, hblob⟩ := Option.isSome_iff_exists.mp hthere
      exact isDir_of_cached hblob
    · obtain ⟨blob, ⟨⟨src, hfound⟩, hvendor, hblob⟩, hpass⟩ := hm'
      refine ⟨blob, ⟨⟨src, ?_⟩, ?_, ?_⟩, hpass⟩
      · rw [hfind]
        exact hfound
      · rw [handroid]
        exact hvendor
      · rw [hcached]
        exact hblob
    · exact hm'
  frame w _ hl := extractIfCached_frame s w hl

end

/-! ## The script in the checkout -/

theorem installDeviceTree_freshWorld : (installDeviceTree freshSetup freshWorld).status = 0 := by
  decide +kernel

/-- The mirror leaves what is outside of the device tree. -/
theorem filesThere_installDeviceTree :
    FilesThere (installDeviceTree freshSetup freshWorld).state := by
  have hframe := (managedInstall_footprint freshSetup).frame freshWorld
  constructor
  · intro p hp
    have hout : ¬ Mirrored (.android p) := by
      rintro ⟨q, heq, _⟩
      rw [Location.android.injEq] at heq
      exact hp (heq ▸ List.prefix_append targetTree q)
    have hat : (installDeviceTree freshSetup freshWorld).state.android p = freshWorld.android p :=
      hframe (.android p) hout
    rw [hat]
    rfl
  · intro p hp
    have hout : ¬ Mirrored (.cache p) := by
      rintro ⟨q, heq, _⟩
      cases heq
    have hat : (installDeviceTree freshSetup freshWorld).state.cached p = freshWorld.cached p :=
      hframe (.cache p) hout
    rw [hat]
    exact hp

/-- The entries of its list. -/
def copybit : BlobEntry := ⟨"lib/hw/copybit.hi3635.so".toList, []⟩

def gralloc : BlobEntry :=
  ⟨"lib/hw/gralloc.hi3635.so".toList, "532c572fa8ebb29878e0c7fd31e54e7d868efdd4".toList⟩

theorem parseList_freshSetup : parseList freshSetup.listFile = [copybit, gralloc] := by
  decide +kernel

theorem relPath_copybit : relPath copybit.rel = ["lib", "hw", "copybit.hi3635.so"] := by
  decide +kernel

theorem relPath_gralloc : relPath gralloc.rel = ["lib", "hw", "gralloc.hi3635.so"] := by
  decide +kernel

/-- The extraction finds both blobs, one of them with another checksum than the list has. -/
theorem extractIfCached_freshSetup {w : World (List Path)} (h : FilesThere w) :
    (extractIfCached freshSetup w).status = 0 ∧
      FilesThere (extractIfCached freshSetup w).state := by
  have hcopybit := h.2 ["proprietary", "lib", "hw", "copybit.hi3635.so"] (by decide)
  have hgralloc := h.2 ["system", "lib", "hw", "gralloc.hi3635.so"] (by decide)
  have hdir : (Source.cache : Source (List Path)).isDir w = true := by
    obtain ⟨blob, hblob⟩ := Option.isSome_iff_exists.mp hgralloc
    exact isDir_of_cached hblob
  unfold extractIfCached
  rw [if_pos (hasBlobs_iff.mpr ⟨_, hgralloc⟩)]
  constructor
  · refine extract_of_found rfl rfl hdir (by decide) ?_
    intro e he
    rw [parseList_freshSetup] at he
    rw [isSome_findBlob_iff]
    rcases List.mem_pair.mp he with rfl | rfl
    · rw [relPath_copybit]
      exact ⟨_, List.mem_cons_self, hcopybit⟩
    · rw [relPath_gralloc]
      exact ⟨_, List.mem_cons_of_mem _ List.mem_cons_self, hgralloc⟩
  · exact ⟨fun p hp => isSome_view_extract (l := .android p) (h.1 p hp),
      fun p hp => isSome_view_extract (l := .cache p) (h.2 p hp)⟩

/-- Behind its first two steps the script does not fail where the patches find their files. -/
theorem applyLocalPatches_split : ∃ later : List (Command (List Path)),
    applyLocalPatches freshSetup
      = runAll (requireCheckout freshSetup :: installDeviceTree freshSetup :: later) ∧
    ∀ step ∈ later, ∀ w, FilesThere w → (step w).status = 0 ∧ FilesThere (step w).state := by
  refine ⟨patchesBeforeBlobs.map (fun e => applyOnce freshSetup e.repo e.patch)
      ++ [extractIfCached freshSetup]
      ++ patchesAfterBlobs.map (fun e => applyOnce freshSetup e.repo e.patch)
      ++ [echo patchesApplied], ?_, ?_⟩
  · unfold applyLocalPatches
    simp only [List.cons_append, List.nil_append]
  intro step hstep w hw
  simp only [List.mem_append, List.mem_cons, List.not_mem_nil, or_false, List.mem_map] at hstep
  rcases hstep with ((⟨e, he, rfl⟩ | rfl) | ⟨e, he, rfl⟩) | rfl
  · exact applyOnce_freshSetup (List.mem_append_left _ he) hw
  · exact extractIfCached_freshSetup hw
  · exact applyOnce_freshSetup (List.mem_append_right _ he) hw
  · exact ⟨rfl, hw⟩

theorem applyLocalPatches_freshWorld : (applyLocalPatches freshSetup freshWorld).status = 0 ∧
    FilesThere (applyLocalPatches freshSetup freshWorld).state := by
  obtain ⟨later, hsplit, hlater⟩ := applyLocalPatches_split
  have hrepo : requireCheckout freshSetup freshWorld = ⟨0, [], freshWorld⟩ := rfl
  have hfirst : (requireCheckout freshSetup freshWorld).status = 0 := by rw [hrepo]
  rw [hsplit, runAll_cons_of_zero hfirst, hrepo, runAll_cons_of_zero installDeviceTree_freshWorld]
  exact runAll_succeeds hlater filesThere_installDeviceTree

/-! ## The whole script -/

section

variable {s : Setup C P} {files : P → List Path}

/-- The steps of the script with the conditions they establish. -/
def applySteps (h : StackLaws s files) : List (Managed (World C) String) :=
  [checked (s.isDir [".repo"]) 2 exit_two (noCheckout s), managedInstall s]
    ++ patchesBeforeBlobs.map (managedPatch h.lawful) ++ [managedExtract s]
    ++ patchesAfterBlobs.map (managedPatch h.lawful) ++ [printed patchesApplied]

theorem install_keeps_patch (h : StackLaws s files) {e : PatchEntry} (he : e ∈ patchStack) :
    (managedInstall s).Keeps (managedPatch h.lawful e) := by
  apply (managedInstall_footprint s).keeps (managedPatch_footprint h.lawful (h.headers e he))
  rintro l ⟨p, rfl⟩ ⟨f, hf, heq⟩
  rw [Location.android.injEq] at heq
  exact (patchStack_outside e he f hf).1 (heq ▸ List.prefix_append targetTree p)

theorem install_keeps_extract : (managedInstall s).Keeps (managedExtract s) := by
  apply (managedInstall_footprint s).keeps (managedExtract_footprint s)
  rintro l ⟨p, rfl⟩ ⟨e, _, heq | heq⟩
  · rw [Location.android.injEq] at heq
    -- `device` is not `vendor`
    exact absurd (List.cons.inj heq).1 (by decide)
  · cases heq

theorem patch_keeps_extract (h : StackLaws s files) {e : PatchEntry} (he : e ∈ patchStack) :
    (managedPatch h.lawful e).Keeps (managedExtract s) := by
  apply (managedPatch_footprint h.lawful (h.headers e he)).keeps (managedExtract_footprint s)
  rintro l ⟨f, hf, rfl⟩ ⟨blob, _, heq | heq⟩
  · rw [Location.android.injEq] at heq
    exact (patchStack_outside e he f hf).2 (heq ▸ List.prefix_append vendorProprietary _)
  · cases heq

theorem extract_keeps_patch (h : StackLaws s files) {e : PatchEntry} (he : e ∈ patchStack) :
    (managedExtract s).Keeps (managedPatch h.lawful e) := by
  apply (managedExtract_footprint s).keeps (managedPatch_footprint h.lawful (h.headers e he))
  rintro l (⟨p, rfl⟩ | ⟨p, rfl⟩) ⟨f, hf, heq⟩
  · rw [Location.android.injEq] at heq
    exact (patchStack_outside e he f hf).2 (heq ▸ List.prefix_append vendorProprietary p)
  · cases heq

/-- No step of the script undoes an earlier one. -/
theorem applySteps_keep (h : StackLaws s files) : (applySteps h).Pairwise Managed.Keeps := by
  obtain ⟨hbefore, hafter, hacross⟩ := List.pairwise_append.mp (patchStack_keep h)
  have hin : ∀ {e}, e ∈ patchesBeforeBlobs → e ∈ patchStack := List.mem_append_left _
  have hin' : ∀ {e}, e ∈ patchesAfterBlobs → e ∈ patchStack := List.mem_append_right _
  unfold applySteps
  rw [List.pairwise_append, List.pairwise_append, List.pairwise_append, List.pairwise_append]
  refine ⟨⟨⟨⟨?_, ?_, ?_⟩, List.pairwise_singleton _ _, ?_⟩, ?_, ?_⟩,
    List.pairwise_singleton _ _, ?_⟩
  · rw [List.pairwise_pair]
    exact checked_keeps _ _ _ _
  · exact List.pairwise_map.mpr hbefore
  -- the checks and the device tree, then the patches before the blobs
  · intro a ha b hb
    obtain ⟨e, he, rfl⟩ := List.mem_map.mp hb
    rcases List.mem_pair.mp ha with rfl | rfl
    · exact checked_keeps _ _ _ _
    · exact install_keeps_patch h (hin he)
  -- all of these, then the extraction
  · intro a ha b hb
    rw [List.mem_singleton.mp hb]
    rcases List.mem_append.mp ha with ha | ha
    · rcases List.mem_pair.mp ha with rfl | rfl
      · exact checked_keeps _ _ _ _
      · exact install_keeps_extract
    · obtain ⟨e, he, rfl⟩ := List.mem_map.mp ha
      exact patch_keeps_extract h (hin he)
  · exact List.pairwise_map.mpr hafter
  -- all of these, then the patches after the blobs
  · intro a ha b hb
    obtain ⟨e, he, rfl⟩ := List.mem_map.mp hb
    rcases List.mem_append.mp ha with ha | ha
    · rcases List.mem_append.mp ha with ha | ha
      · rcases List.mem_pair.mp ha with rfl | rfl
        · exact checked_keeps _ _ _ _
        · exact install_keeps_patch h (hin' he)
      · obtain ⟨e', he', rfl⟩ := List.mem_map.mp ha
        exact hacross e' he' e he
    · rw [List.mem_singleton.mp ha]
      exact extract_keeps_patch h (hin' he)
  · intro a _ b hb w hdone
    rw [List.mem_singleton.mp hb]
    exact hdone

theorem applySteps_stable (h : StackLaws s files) : ∀ m ∈ applySteps h, Stable m.step := by
  have hpatch : ∀ e, Stable (managedPatch h.lawful e).step :=
    fun e => (applyOnce_settles h.lawful e).stable (applyOnce_fails_in_place h.lawful e)
  intro m hm
  unfold applySteps at hm
  simp only [List.mem_append, List.mem_cons, List.not_mem_nil, or_false, List.mem_map] at hm
  rcases hm with (((((rfl | rfl) | ⟨e, _, rfl⟩) | rfl) | ⟨e, _, rfl⟩) | rfl)
  · exact checked_stable _ _ _
  · exact runAll_stable (installSteps_keep s) (installSteps_stable s)
  · exact hpatch e
  · exact extractIfCached_stable s
  · exact hpatch e
  · exact printed_stable _

/-- What the script prints when there is nothing to do. -/
theorem quiet_applySteps (h : StackLaws s files) (w : World C) :
    ((applySteps h).flatMap fun m => m.quiet w) = installed
      ++ patchesBeforeBlobs.map alreadyApplied ++ (extractIfCached s w).output
      ++ patchesAfterBlobs.map alreadyApplied ++ patchesApplied := by
  unfold applySteps
  rw [List.flatMap_append, List.flatMap_append, List.flatMap_append, List.flatMap_append,
    List.flatMap_map, List.flatMap_map, List.map_eq_flatMap, List.map_eq_flatMap,
    List.flatMap_singleton, List.flatMap_singleton]
  rfl

/-- **`applyLocalPatches_again`.** A second run ends with the status of the first and changes
nothing, also when the first stopped on the way. After a success it prints that every patch is
already applied. -/
theorem applyLocalPatches_again (h : StackLaws s files) (w : World C) :
    let first := applyLocalPatches s w
    let second := applyLocalPatches s first.state
    second.status = first.status ∧ second.state = first.state ∧
      (first.status = 0 → second.output = installed ++ patchesBeforeBlobs.map alreadyApplied
        ++ (extractIfCached s first.state).output ++ patchesAfterBlobs.map alreadyApplied
        ++ patchesApplied) := by
  have hkeep := applySteps_keep h
  obtain ⟨hstatus, hstate⟩ := runAll_stable hkeep (applySteps_stable h) w
  refine ⟨hstatus, hstate, ?_⟩
  intro hzero
  show (runAll ((applySteps h).map Managed.step) (applyLocalPatches s w).state).output = _
  rw [← quiet_applySteps h]
  exact congrArg Outcome.output (runAll_again hkeep hzero)

theorem applyLocalPatches_again_freshWorld :
    let first := applyLocalPatches freshSetup freshWorld
    let second := applyLocalPatches freshSetup first.state
    second.status = 0 ∧ second.state = first.state ∧
      alreadyApplied noAssertSignature ∈ second.output := by
  obtain ⟨hstatus, hstate, houtput⟩ := applyLocalPatches_again freshSetup_laws freshWorld
  refine ⟨hstatus.trans applyLocalPatches_freshWorld.1, hstate, ?_⟩
  rw [houtput applyLocalPatches_freshWorld.1]
  have hmem : alreadyApplied noAssertSignature ∈ patchesBeforeBlobs.map alreadyApplied :=
    List.mem_map_of_mem List.mem_cons_self
  simp [hmem]

/-- After a success nothing is left to do. -/
theorem done_of_applyLocalPatches (h : StackLaws s files) {w : World C}
    (hstatus : (applyLocalPatches s w).status = 0) :
    ∀ m ∈ applySteps h, m.done (applyLocalPatches s w).state :=
  all_done_runAll (applySteps_keep h) hstatus

theorem applied_of_applyLocalPatches (h : StackLaws s files) {w : World C}
    (hstatus : (applyLocalPatches s w).status = 0) {e : PatchEntry} (he : e ∈ patchStack) :
    Applied s e (applyLocalPatches s w).state := by
  apply done_of_applyLocalPatches h hstatus (managedPatch h.lawful e)
  unfold applySteps
  rcases List.mem_append.mp he with he | he
  · have hmem := List.mem_map_of_mem (f := managedPatch h.lawful) he
    simp [hmem]
  · have hmem := List.mem_map_of_mem (f := managedPatch h.lawful) he
    simp [hmem]

/-- What no step of the script may write is as it was. -/
theorem view_applyLocalPatches (hgit : s.git.Lawful files)
    (hheaders : ∀ e ∈ patchStack, ∀ q ∈ files (s.patch e.patch), q ∈ e.files) (w : World C)
    {l : Location}
    (hl : ¬ (Mirrored l ∨ (∃ e ∈ patchStack, e.Touches l) ∨ Extracted s l)) :
    (applyLocalPatches s w).state.view l = w.view l := by
  unfold applyLocalPatches
  apply runAll_frame
  intro step hstep w'
  have hpatch : ∀ e ∈ patchStack,
      World.view (applyOnce s e.repo e.patch w').state l = w'.view l :=
    fun e he => applyOnce_frame hgit (hheaders e he) w' fun h => hl (.inr (.inl ⟨e, he, h⟩))
  simp only [List.mem_append, List.mem_cons, List.not_mem_nil, or_false, List.mem_map] at hstep
  rcases hstep with ((((rfl | rfl) | ⟨e, he, rfl⟩) | rfl) | ⟨e, he, rfl⟩) | rfl
  · unfold requireCheckout
    rw [state_require]
  · exact (managedInstall_footprint s).frame w' l fun h => hl (.inl h)
  · exact hpatch e (List.mem_append_left _ he)
  · exact extractIfCached_frame s w' fun h => hl (.inr (.inr h))
  · exact hpatch e (List.mem_append_right _ he)
  · rfl

/-- The prebuilts are none of the files a run may change. -/
theorem prebuilt_frame (hgit : s.git.Lawful files)
    (hheaders : ∀ e ∈ patchStack, ∀ q ∈ files (s.patch e.patch), q ∈ e.files) (w : World C)
    {prebuilt : String × String} (hprebuilt : prebuilt ∈ prebuilts) :
    (applyLocalPatches s w).state.android (targetTree ++ prebuiltPath prebuilt.1)
      = w.android (targetTree ++ prebuiltPath prebuilt.1) := by
  refine view_applyLocalPatches hgit hheaders w (l := .android _) ?_
  rintro (⟨p, heq, hex⟩ | ⟨e, he, f, hf, heq⟩ | ⟨e, _, heq | heq⟩)
  · rw [Location.android.injEq] at heq
    rw [← List.append_cancel_left heq, excluded_prebuilt hprebuilt] at hex
    cases hex
  · rw [Location.android.injEq] at heq
    exact (patchStack_outside e he f hf).1 (heq ▸ List.prefix_append targetTree _)
  · rw [Location.android.injEq] at heq
    exact absurd (List.cons.inj heq).1 (by decide)
  · cases heq

/-- **`applyLocalPatches_verified`.** A run that changes anything has found the pinned prebuilts,
and they are there, unchanged, when it ends. -/
theorem applyLocalPatches_verified (hgit : s.git.Lawful files)
    (hheaders : ∀ e ∈ patchStack, ∀ q ∈ files (s.patch e.patch), q ∈ e.files) (w : World C)
    (hchanged : (applyLocalPatches s w).state ≠ w) :
    ∀ prebuilt ∈ prebuilts, ∃ file,
      w.android (targetTree ++ prebuiltPath prebuilt.1) = some file ∧
      s.sha1sum file = prebuilt.2 ∧
      (applyLocalPatches s w).state.android (targetTree ++ prebuiltPath prebuilt.1)
        = some file := by
  have hpinned : ∀ prebuilt ∈ prebuilts,
      (w.android (targetTree ++ prebuiltPath prebuilt.1)).map s.sha1sum = some prebuilt.2 := by
    rcases installDeviceTree_cases s w with ⟨hstatus, hstate⟩ | hpinned
    · exfalso
      apply hchanged
      unfold applyLocalPatches
      -- the script ends with its first or its second step
      by_cases hrepo : (requireCheckout s w).status = 0
      · have hsame : (requireCheckout s w).state = w := state_require _ _ _ _
        rw [List.append_assoc, List.append_assoc, List.append_assoc, List.cons_append,
          List.cons_append, runAll_cons_of_zero hrepo]
        rw [← hsame] at hstatus
        rw [runAll_cons_of_ne_zero hstatus, hsame]
        exact hstate
      · rw [List.append_assoc, List.append_assoc, List.append_assoc, List.cons_append,
          runAll_cons_of_ne_zero hrepo]
        exact state_require _ _ _ _
    · exact hpinned
  intro prebuilt hprebuilt
  obtain ⟨file, hfile, hsha⟩ := Option.map_eq_some_iff.mp (hpinned prebuilt hprebuilt)
  refine ⟨file, hfile, hsha, ?_⟩
  rw [prebuilt_frame hgit hheaders w hprebuilt, hfile]

theorem freshSetup_reverse : freshSetup.git.checkReverse (freshSetup.patch noAssertSignature.patch)
    (below noAssertSignature.repo freshWorld.android) = 1 := by
  decide +kernel

/-- The patches were not in place, so the run has changed something. -/
theorem applyLocalPatches_verified_freshWorld :
    (applyLocalPatches freshSetup freshWorld).state.android
      (targetTree ++ prebuiltPath "teecd") = some [["teecd"]] := by
  have hchanged : (applyLocalPatches freshSetup freshWorld).state ≠ freshWorld := by
    intro hsame
    obtain ⟨_, hreverse⟩ := applied_of_applyLocalPatches freshSetup_laws
      applyLocalPatches_freshWorld.1 (e := noAssertSignature) (by decide +kernel)
    rw [hsame, freshSetup_reverse] at hreverse
    cases hreverse
  obtain ⟨file, hfile, _, hthere⟩ := applyLocalPatches_verified (markGit_lawful stackFiles)
    freshSetup_laws.headers freshWorld hchanged
    ("teecd", "9f7a96b1e658f67d08abe2b67ba710fbfe023c92") (by decide)
  have hteecd : freshWorld.android (targetTree ++ prebuiltPath "teecd") = some [["teecd"]] := by
    decide +kernel
  exact hthere.trans (hfile.symm.trans hteecd)

end

end Mozart.Scripts

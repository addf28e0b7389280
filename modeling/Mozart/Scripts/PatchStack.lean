import Mozart.Scripts.InstallDeviceTree
import Mozart.Scripts.ExtractBlobs

/-!
# The stack of patches

`apply_once` applies a patch to a repository of the checkout unless it can be applied in reverse.
The stack is what `apply-local-patches.sh` calls it for, in that order, with the files the headers
of each patch name.

* **`patchStack_keep`**: a patch that is in place stays so when a later one is applied. Only two
  pairs are about one file; of these it has to be assumed.
-/

namespace Mozart.Scripts

open Provision

variable {C P : Type}

/-! ## The stack -/

/-- A patch of the stack: the repository, the place below `$PATCH_ROOT`, and the files of the
repository its headers name. -/
structure PatchEntry where
  repo : Path
  patch : Path
  files : List Path
  deriving DecidableEq

/-- The argument of `apply_kirin930_patch`. -/
def kirin930Patch (repo patchRel : Path) (files : List Path) : PatchEntry :=
  ⟨repo, ["patches", "upstream", "kirin930"] ++ patchRel, files⟩

/-- The arguments of `apply_once`. -/
def localPatch (repo patch : Path) (files : List Path) : PatchEntry :=
  ⟨repo, ["patches"] ++ patch, files⟩

def noAssertSignature : PatchEntry :=
  kirin930Patch ["build", "make"] ["build", "make", "Do-not-check-device-assert-signature.patch"]
    [["tools", "releasetools", "edify_generator.py"],
     ["tools", "releasetools", "ota_from_target_files.py"]]

def otaBuildTools : PatchEntry :=
  localPatch ["build", "make"] ["build", "make", "mozart-release-ota-build-tools.patch"]
    [["core", "Makefile"],
     ["tools", "buildinfo.sh"],
     ["tools", "releasetools", "common.py"],
     ["tools", "releasetools", "ota_from_target_files.py"],
     ["tools", "releasetools", "sign_target_files_apks.py"]]

def restoreVendorPaths : PatchEntry :=
  localPatch ["vendor", "huawei", "mozart"] ["vendor", "huawei", "mozart",
    "restore-emui31-gpu-omx-vendor-paths.patch"]
    [["mozart-vendor.mk"]]

def preserveStockMac : PatchEntry :=
  localPatch ["vendor", "huawei", "mozart"] ["vendor", "huawei", "mozart",
    "preserve-stock-mac-normalization-helper.patch"]
    [["mozart-vendor.mk"]]

/-- The patches applied before the blobs are extracted. -/
def patchesBeforeBlobs : List PatchEntry := [
  noAssertSignature,
  kirin930Patch ["frameworks", "base"] ["frameworks", "base",
    "Hardware-bitmaps-support-workaround.patch"]
    [["core", "jni", "android", "graphics", "Bitmap.cpp"],
     ["core", "jni", "android", "graphics", "BitmapFactory.cpp"],
     ["graphics", "java", "android", "graphics", "Bitmap.java"],
     ["libs", "hwui", "hwui", "Bitmap.cpp"],
     ["libs", "hwui", "renderthread", "OpenGLPipeline.cpp"]],
  kirin930Patch ["hardware", "broadcom", "wlan"] ["hardware", "broadcom", "wlan",
    "WifiHAL-Do-not-error-check-on-initialization.patch"]
    [["bcmdhd", "wifi_hal", "wifi_hal.cpp"]],
  kirin930Patch ["hardware", "interfaces"] ["hardware", "interfaces",
    "Audio-skip-setMasterVolume-if-not-implement.patch"]
    [["audio", "core", "all-versions", "default", "include", "core", "all-versions", "default",
       "Device.impl.h"],
     ["audio", "core", "all-versions", "default", "include", "core", "all-versions", "default",
       "PrimaryDevice.impl.h"]],
  kirin930Patch ["lineage-sdk"] ["lineage-sdk", "Hardcode-Vendor-Security-Patchlevel.patch"]
    [["sdk", "src", "java", "org", "lineageos", "internal", "preference", "deviceinfo",
       "LineageVendorSecurityPatchTextView.java"]],
  kirin930Patch ["system", "bt"] ["system", "bt", "Hci-dont-crash-if-some-checks-fail.patch"]
    [["hci", "src", "hci_packet_parser.cc"]],
  kirin930Patch ["system", "core"] ["system", "core",
    "Support-mkbootimg-0xffb88000-as-tags-offset.patch"]
    [["mkbootimg", "mkbootimg"]],
  otaBuildTools,
  localPatch ["kernel", "huawei", "mozart"] ["kernel", "huawei", "mozart",
    "disable-debug-info.patch"]
    [["arch", "arm64", "configs", "lineage_mozart_defconfig"]],
  localPatch ["kernel", "huawei", "mozart"] ["kernel", "huawei", "mozart",
    "arm64-nt-arm-system-call-regset.patch"]
    [["arch", "arm64", "kernel", "ptrace.c"],
     ["include", "uapi", "linux", "elf.h"]],
  localPatch ["vendor", "lineage"] ["vendor", "lineage",
    "disable-backuptool-and-hudson-fetch.patch"]
    [["config", "common.mk"],
     ["vendorsetup.sh"]],
  restoreVendorPaths,
  preserveStockMac]

/-- The patches applied after it. -/
def patchesAfterBlobs : List PatchEntry := [
  localPatch ["system", "core"] ["system", "core", "init-user-permissive-selinux.patch"]
    [["init", "Android.bp"],
     ["init", "Android.mk"]],
  localPatch ["hardware", "interfaces"] ["hardware", "interfaces",
    "legacy-private-sensor-type-compat.patch"]
    [["sensors", "1.0", "default", "convert.cpp"]],
  localPatch ["frameworks", "base"] ["frameworks", "base",
    "packageinstaller-webview-compat.patch"]
    [["services", "core", "java", "com", "android", "server", "pm",
       "PackageInstallerSession.java"],
     ["services", "core", "java", "com", "android", "server", "webkit", "SystemImpl.java"]],
  localPatch ["frameworks", "base"] ["frameworks", "base", "gnss-geofence-native-timeout.patch"]
    [["services", "core", "java", "com", "android", "server", "location",
       "GnssGeofenceProvider.java"]],
  localPatch ["frameworks", "av"] ["frameworks", "av", "img-msvdx-decoder-framerate-compat.patch"]
    [["media", "libstagefright", "ACodec.cpp"],
     ["media", "libstagefright", "omx", "OMXUtils.cpp"]],
  localPatch ["frameworks", "native"] ["frameworks", "native",
    "surfaceflinger-powerdown-lcd-on-off.patch"]
    [["services", "surfaceflinger", "SurfaceFlinger.cpp"]],
  localPatch ["hardware", "interfaces"] ["hardware", "interfaces",
    "hwc2onfbadapter-hisi-dss-overlay-fallback.patch"]
    [["graphics", "composer", "2.1", "utils", "hwc2onfbadapter", "Android.bp"],
     ["graphics", "composer", "2.1", "utils", "hwc2onfbadapter", "HWC2OnFbAdapter.cpp"],
     ["graphics", "composer", "2.1", "utils", "hwc2onfbadapter", "include", "hwc2onfbadapter",
       "HWC2OnFbAdapter.h"]]]

def patchStack : List PatchEntry := patchesBeforeBlobs ++ patchesAfterBlobs

/-! ## apply_once -/

section

variable (s : Setup C P)

/-- `$repo/${patch#$PATCH_ROOT/}` -/
def patchName (repo patch : Path) : String := (repo ++ patch).render

def alreadyApplied (e : PatchEntry) : String :=
  "skip: already applied: " ++ patchName e.repo e.patch

/-- `apply_once` -/
def applyOnce (repo patch : Path) : Command C := fun w =>
  if s.isDir repo then
    let tree := below repo w.android
    if s.git.checkReverse (s.patch patch) tree = 0 then
      ⟨0, ["skip: already applied: " ++ patchName repo patch], w⟩
    else
      let output := ["apply: " ++ patchName repo patch]
      let status := s.git.check (s.patch patch) tree
      if status ≠ 0 then ⟨status, output, w⟩
      else
        let applied := s.git.apply (s.patch patch) tree
        ⟨applied.1, output, { w with android := graft repo applied.2 w.android }⟩
  else ⟨3, ["error: missing Android repository: " ++ repo.render], w⟩

end

/-! ## One patch -/

section

variable (s : Setup C P) {files : P → List Path}

/-- What is assumed of git and of the patches: the headers of a patch name its files, and of the
two pairs of patches about one file the later leaves the earlier in place. -/
structure StackLaws (files : P → List Path) : Prop where
  lawful : s.git.Lawful files
  headers : ∀ e ∈ patchStack, ∀ q ∈ files (s.patch e.patch), q ∈ e.files
  otaTools : s.git.Separate (s.patch noAssertSignature.patch) (s.patch otaBuildTools.patch)
  vendorPaths : s.git.Separate (s.patch restoreVendorPaths.patch) (s.patch preserveStockMac.patch)

/-- The repository is there and the patch can be applied in reverse. -/
def Applied (e : PatchEntry) (w : World C) : Prop :=
  s.isDir e.repo = true ∧ s.git.checkReverse (s.patch e.patch) (below e.repo w.android) = 0

variable {s}

/-- All `apply_once` does: it changes nothing, or it applies the patch and succeeds. -/
theorem applyOnce_cases (hgit : s.git.Lawful files) (e : PatchEntry) (w : World C) :
    (applyOnce s e.repo e.patch w).state = w ∨
      s.isDir e.repo = true ∧
      (s.git.apply (s.patch e.patch) (below e.repo w.android)).1 = 0 ∧
      (applyOnce s e.repo e.patch w).state = { w with
        android := graft e.repo (s.git.apply (s.patch e.patch) (below e.repo w.android)).2
          w.android } := by
  unfold applyOnce
  split
  · next hdir =>
    simp only
    split
    · exact .inl rfl
    · split
      · exact .inl rfl
      · by_cases hstatus : (s.git.apply (s.patch e.patch) (below e.repo w.android)).1 = 0
        · right
          exact ⟨hdir, hstatus, rfl⟩
        · left
          rw [hgit.atomic _ _ hstatus, graft_below]
  · exact .inl rfl

theorem applyOnce_settles (hgit : s.git.Lawful files) (e : PatchEntry) :
    Settles (applyOnce s e.repo e.patch) (Applied s e) (fun _ => [alreadyApplied e]) where
  establishes := by
    intro w h
    unfold applyOnce at h ⊢
    by_cases hdir : s.isDir e.repo = true
    · rw [if_pos hdir] at h ⊢
      simp only at h ⊢
      split at h
      · next hreverse =>
        rw [if_pos hreverse]
        exact ⟨hdir, hreverse⟩
      · next hreverse =>
        rw [if_neg hreverse]
        split at h
        · next hcheck => exact absurd h hcheck
        · next hcheck =>
          rw [if_neg hcheck]
          refine ⟨hdir, ?_⟩
          show s.git.checkReverse _ (below e.repo (graft e.repo _ w.android)) = 0
          -- what was just applied can be reversed
          rw [below_graft_self]
          exact hgit.apply_reverse _ _ h
    · rw [if_neg hdir] at h
      cases h
  noop := by
    intro w h
    unfold applyOnce
    rw [if_pos h.1]
    exact if_pos h.2

theorem applyOnce_fails_in_place (hgit : s.git.Lawful files) (e : PatchEntry) (w : World C)
    (h : (applyOnce s e.repo e.patch w).status ≠ 0) : (applyOnce s e.repo e.patch w).state = w := by
  unfold applyOnce at h ⊢
  by_cases hdir : s.isDir e.repo = true
  · rw [if_pos hdir] at h ⊢
    simp only at h ⊢
    split
    · rfl
    · next hreverse =>
      rw [if_neg hreverse] at h
      split
      · rfl
      · next hcheck =>
        rw [if_neg hcheck] at h
        rw [hgit.atomic _ _ h, graft_below]
  · rw [if_neg hdir]

/-! ## What a patch is about -/

/-- The files of a patch. -/
def PatchEntry.Touches (e : PatchEntry) (l : Location) : Prop :=
  ∃ f ∈ e.files, l = .android (e.repo ++ f)

/-- Two patches are about different files. -/
def PatchEntry.Apart (a b : PatchEntry) : Prop :=
  (¬ a.repo <+: b.repo ∧ ¬ b.repo <+: a.repo) ∨ (a.repo = b.repo ∧ ∀ f ∈ a.files, f ∉ b.files)

instance (a b : PatchEntry) : Decidable (a.Apart b) :=
  inferInstanceAs (Decidable (_ ∨ _))

theorem PatchEntry.Apart.not_touches {a b : PatchEntry} (h : a.Apart b) (l : Location)
    (ha : a.Touches l) : ¬ b.Touches l := by
  obtain ⟨f, hf, rfl⟩ := ha
  rintro ⟨g, hg, heq⟩
  rw [Location.android.injEq] at heq
  rcases h with ⟨hab, hba⟩ | ⟨hrepo, hfiles⟩
  · rcases List.prefix_or_prefix_of_prefix (List.prefix_append a.repo f)
        (heq ▸ List.prefix_append b.repo g) with hpre | hpre
    · exact hab hpre
    · exact hba hpre
  · rw [hrepo] at heq
    exact hfiles f hf (List.append_cancel_left heq ▸ hg)

/-- Only two pairs of the stack are about one file. -/
theorem patchStack_apart : patchStack.Pairwise fun a b =>
    a.Apart b ∨ (a = noAssertSignature ∧ b = otaBuildTools) ∨
      (a = restoreVendorPaths ∧ b = preserveStockMac) := by
  decide +kernel

/-- No patch is about the device tree or the proprietary blobs. -/
theorem patchStack_outside : ∀ e ∈ patchStack, ∀ f ∈ e.files,
    ¬ targetTree <+: e.repo ++ f ∧ ¬ vendorProprietary <+: e.repo ++ f := by
  decide +kernel

def managedPatch (hgit : s.git.Lawful files) (e : PatchEntry) : Managed (World C) String :=
  ⟨applyOnce s e.repo e.patch, _, _, applyOnce_settles hgit e⟩

theorem applyOnce_frame (hgit : s.git.Lawful files) {e : PatchEntry}
    (hheaders : ∀ q ∈ files (s.patch e.patch), q ∈ e.files) (w : World C) {l : Location}
    (hl : ¬ e.Touches l) : World.view (applyOnce s e.repo e.patch w).state l = w.view l := by
  rcases applyOnce_cases hgit e w with hstate | ⟨_, _, hstate⟩
  · rw [hstate]
  · rw [hstate]
    cases l with
    | cache p => rfl
    | android p =>
      show graft e.repo _ w.android p = w.android p
      by_cases hp : e.repo <+: p
      · obtain ⟨f, rfl⟩ := hp
        have hf : f ∉ files (s.patch e.patch) := fun hf => hl ⟨f, hheaders f hf, rfl⟩
        rw [graft_append, hgit.writes _ _ _ hf]
        rfl
      · exact graft_outside hp _ _

theorem managedPatch_footprint (hgit : s.git.Lawful files) {e : PatchEntry}
    (hheaders : ∀ q ∈ files (s.patch e.patch), q ∈ e.files) :
    Footprint World.view (managedPatch hgit e) e.Touches e.Touches where
  done_congr := by
    rintro w w' hsame ⟨hdir, hreverse⟩
    refine ⟨hdir, ?_⟩
    rw [← hreverse]
    apply hgit.reads
    intro q hq
    exact hsame (.android (e.repo ++ q)) ⟨q, hheaders q hq, rfl⟩
  frame w _ hl := applyOnce_frame hgit hheaders w hl

theorem keeps_of_separate (hgit : s.git.Lawful files) {a b : PatchEntry} (hrepo : a.repo = b.repo)
    (h : s.git.Separate (s.patch a.patch) (s.patch b.patch)) :
    (managedPatch hgit a).Keeps (managedPatch hgit b) := by
  rintro w ⟨hdir, hreverse⟩
  refine ⟨hdir, ?_⟩
  show s.git.checkReverse _ (below a.repo (applyOnce s b.repo b.patch w).state.android) = 0
  rcases applyOnce_cases hgit b w with hstate | ⟨_, hstatus, hstate⟩
  · rw [hstate]
    exact hreverse
  · rw [hstate, hrepo, below_graft_self]
    rw [hrepo] at hreverse
    exact h _ hreverse hstatus

/-- A patch that is in place stays so when a later one of the stack is applied. -/
theorem patchStack_keep (h : StackLaws s files) :
    patchStack.Pairwise fun a b => (managedPatch h.lawful a).Keeps (managedPatch h.lawful b) := by
  apply patchStack_apart.imp_of_mem
  intro a b ha hb hpair
  rcases hpair with hapart | ⟨rfl, rfl⟩ | ⟨rfl, rfl⟩
  · exact (managedPatch_footprint h.lawful (h.headers a ha)).keeps
      (managedPatch_footprint h.lawful (h.headers b hb)) hapart.not_touches
  · exact keeps_of_separate h.lawful rfl h.otaTools
  · exact keeps_of_separate h.lawful rfl h.vendorPaths

end

/-! ## A checkout -/

/-- The files of the patch at a path. -/
def stackFiles (p : Path) : List Path :=
  ((patchStack.find? fun e => e.patch = p).map PatchEntry.files).getD []

theorem stackFiles_patch : ∀ e ∈ patchStack, stackFiles e.patch = e.files := by
  decide +kernel

/-- A checkout with everything the scripts ask for. -/
def freshSetup : Setup (List Path) Path where
  androidTop := "/android/lineage16-mozart"
  patchRoot := "/mozart-patches"
  isDir _ := true
  sourceTree := some fun p => if p = ["BoardConfig.mk"] then some [] else none
  hasRsync := true
  quickCheck sent there := decide (sent = there)
  sha1sum file := (file.flatten.head?.bind fun name => prebuilts.lookup name).getD ""
  git := markGit stackFiles
  patch := id
  listFile := ("lib/hw/copybit.hi3635.so\n" ++
    "lib/hw/gralloc.hi3635.so;sha1=532c572fa8ebb29878e0c7fd31e54e7d868efdd4\n").toList
  strictSha1 := "0"

/-- The prebuilts, told apart by their names, and an empty file everywhere else. The cache has the
first of the listed blobs where a script left it and the second where a dump has it. -/
def freshWorld : World (List Path) where
  android p := some <|
    ((prebuilts.find? fun prebuilt => targetTree ++ prebuiltPath prebuilt.1 = p).map
      fun prebuilt => [[prebuilt.1]]).getD []
  cache := some <|
    (Finmap.singleton ["proprietary", "lib", "hw", "copybit.hi3635.so"] [["copybit"]]).insert
      ["system", "lib", "hw", "gralloc.hi3635.so"] [["gralloc"]]

theorem freshSetup_laws : StackLaws freshSetup stackFiles where
  lawful := markGit_lawful stackFiles
  headers e he _ hq := stackFiles_patch e he ▸ hq
  otaTools := markGit_separate stackFiles _ _
  vendorPaths := markGit_separate stackFiles _ _

/-- The patches and the blobs find their files: outside of the device tree there is one
everywhere, and the cache has what it had. -/
def FilesThere (w : World (List Path)) : Prop :=
  (∀ p, ¬ targetTree <+: p → (w.android p).isSome = true) ∧
    ∀ p, (freshWorld.cached p).isSome = true → (w.cached p).isSome = true

theorem applyOnce_freshSetup {e : PatchEntry} (he : e ∈ patchStack) {w : World (List Path)}
    (h : FilesThere w) : (applyOnce freshSetup e.repo e.patch w).status = 0 ∧
      FilesThere (applyOnce freshSetup e.repo e.patch w).state := by
  -- the files of the patch are there, so this `git` can apply it or has done so
  have hthere : ∀ f ∈ stackFiles e.patch, (below e.repo w.android f).isSome = true := by
    intro f hf
    rw [stackFiles_patch e he] at hf
    exact h.1 _ (patchStack_outside e he f hf).1
  have hdir : freshSetup.isDir e.repo = true := rfl
  unfold applyOnce
  rw [if_pos hdir]
  simp only
  split
  · exact ⟨rfl, h⟩
  · have hcheck : freshSetup.git.check (freshSetup.patch e.patch) (below e.repo w.android) = 0 :=
      if_pos hthere
    have happly : freshSetup.git.apply (freshSetup.patch e.patch) (below e.repo w.android) = _ :=
      if_pos hthere
    rw [if_neg (not_not.mpr hcheck), happly]
    refine ⟨rfl, ?_, h.2⟩
    intro p hp
    have hold := h.1 p hp
    show (graft e.repo _ w.android p).isSome = true
    by_cases hrepo : e.repo <+: p
    · obtain ⟨q, rfl⟩ := hrepo
      rw [graft_append]
      show Option.isSome (if q ∈ stackFiles e.patch then _ else below e.repo w.android q) = true
      split
      · rw [Option.isSome_map]
        exact hold
      · exact hold
    · rw [graft_outside hrepo]
      exact hold

end Mozart.Scripts

import Mozart.Scripts.Checkout

/-!
# `install-device-tree.sh`

The script mirrors `device/huawei/mozart` of this repository into the checkout with `rsync`, after
it has made sure that the three prebuilts the repository must not contain are there, in the pinned
version; they are among the excludes, so the mirror does not touch them.

* **`installSteps_keep`**: no step undoes an earlier one, so that the script can be run again.
* **`managedInstall_footprint`**: it writes below `device/huawei/mozart` only, and to no excluded
  path.
-/

namespace Mozart.Scripts

open Provision

variable {C P : Type}

/-- `$TARGET_TREE` -/
def targetTree : Path := ["device", "huawei", "mozart"]

/-- The executables of the pinned baseline, with their checksums. -/
def prebuilts : List (String × String) :=
  [("hw_healthd", "6cad7ff3470a05df2bccef2489ba96d07286052d"),
    ("oeminfo_nvm_server", "5656ecd5fade408108a36a8e1d73dc88adebea75"),
    ("teecd", "9f7a96b1e658f67d08abe2b67ba710fbfe023c92")]

def prebuiltPath (name : String) : Path := ["rootdir", "sbin", name]

/-! ## rsync -/

/-- The `--exclude` patterns: what is inside of two directories, and the prebuilts. -/
def excluded (p : Path) : Bool :=
  [[".git"], ["patches"]].any (fun dir => decide (dir <+: p ∧ dir ≠ p)) ||
    prebuilts.any fun prebuilt => decide (prebuiltPath prebuilt.1 <+: p)

/-- `rsync -a --delete` with the excludes: an excluded path stays as it is on the receiving side,
every other one becomes what it is on the sending side, unless the quick check finds no
difference. -/
def mirror (quickCheck : C → C → Bool) (source target : Tree C) : Tree C := fun p =>
  if excluded p then target p
  else
    match source p, target p with
    | none, _ => none
    | some sent, none => some sent
    | some sent, some there => if quickCheck sent there then some there else some sent

theorem mirror_of_excluded {p : Path} (h : excluded p = true) (quickCheck : C → C → Bool)
    (source target : Tree C) : mirror quickCheck source target p = target p := by
  unfold mirror
  rw [if_pos h]

/-- A second transfer finds nothing to do. -/
theorem mirror_mirror (quickCheck : C → C → Bool) (source target : Tree C) :
    mirror quickCheck source (mirror quickCheck source target)
      = mirror quickCheck source target := by
  funext p
  cases hp : excluded p with
  | true => rw [mirror_of_excluded hp]
  | false =>
    unfold mirror
    simp only [hp, Bool.false_eq_true, if_false]
    cases source p with
    | none => rfl
    | some sent =>
      cases target p with
      | none => simp
      | some there =>
        by_cases hsame : quickCheck sent there = true
        · simp [hsame]
        · simp [hsame]

section

variable (s : Setup C P)

def noSource : List String :=
  ["error: maintained device source is missing: " ++ s.patchRoot ++ "/" ++ targetTree.render]

def noBaseline : List String :=
  ["error: pinned kirin930 device baseline is missing: " ++ s.androidTop ++ "/"
      ++ targetTree.render,
    "copy local_manifests/mozart.xml into .repo/local_manifests and run repo sync first"]

def noRsync : List String := ["error: rsync is required to install the maintained device source"]

def installed : List String := ["installed maintained device source: " ++ targetTree.render]

/-- `check_prebuilt` -/
def checkPrebuilt (name expected : String) : Command C := fun w =>
  match w.android (targetTree ++ prebuiltPath name) with
  | none =>
    ⟨4, ["error: pinned device baseline is missing proprietary prebuilt: rootdir/sbin/" ++ name], w⟩
  | some c =>
    let actual := s.sha1sum c
    if actual ≠ expected then
      ⟨4, ["error: unexpected sha1 for rootdir/sbin/" ++ name, "expected: " ++ expected,
        "actual:   " ++ actual], w⟩
    else
      ⟨0, [], w⟩

/-- The `rsync` command. -/
def rsync (source : Tree C) : Command C := fun w =>
  ⟨0, [], { w with
    android := graft targetTree (mirror s.quickCheck source (below targetTree w.android))
      w.android }⟩

/-- `install-device-tree.sh` -/
def installDeviceTree : Command C :=
  runAll <| [requireCheckout s,
      require (fun _ => s.sourceTree.isSome) 3 (noSource s),
      require (fun _ => s.isDir (targetTree ++ [".git"])) 3 (noBaseline s),
      require (fun _ => s.hasRsync) 3 noRsync]
    ++ prebuilts.map (fun prebuilt => checkPrebuilt s prebuilt.1 prebuilt.2)
    ++ [rsync s (s.sourceTree.getD fun _ => none), echo installed]

end

/-! ## Running it again -/

section

variable (s : Setup C P)

@[simp] theorem state_checkPrebuilt (name expected : String) (w : World C) :
    (checkPrebuilt s name expected w).state = w := by
  unfold checkPrebuilt
  split
  · rfl
  · simp only
    split <;> rfl

theorem checkPrebuilt_settles (name expected : String) :
    Settles (checkPrebuilt s name expected)
      (fun w => (w.android (targetTree ++ prebuiltPath name)).map s.sha1sum = some expected)
      (fun _ => []) where
  establishes := by
    intro w h
    unfold checkPrebuilt at h ⊢
    cases hc : w.android (targetTree ++ prebuiltPath name) with
    | none =>
      rw [hc] at h
      cases h
    | some c =>
      rw [hc] at h
      simp only at h ⊢
      split at h
      · cases h
      · next hsha =>
        rw [if_neg hsha, hc, Option.map_some, not_not.mp hsha]
  noop := by
    intro w h
    unfold checkPrebuilt
    cases hc : w.android (targetTree ++ prebuiltPath name) with
    | none =>
      rw [hc] at h
      cases h
    | some c =>
      rw [hc] at h
      exact if_neg (not_not.mpr (Option.some.inj h))

theorem rsync_settles (source : Tree C) :
    Settles (rsync s source)
      (fun w => mirror s.quickCheck source (below targetTree w.android)
        = below targetTree w.android)
      (fun _ => []) where
  establishes := by
    intro w _
    show mirror s.quickCheck source (below targetTree (graft targetTree _ w.android))
      = below targetTree (graft targetTree _ w.android)
    rw [below_graft_self, mirror_mirror]
  noop := by
    intro w h
    unfold rsync
    rw [h, graft_below]

def managedPrebuilt (prebuilt : String × String) : Managed (World C) String :=
  ⟨checkPrebuilt s prebuilt.1 prebuilt.2, _, _, checkPrebuilt_settles s prebuilt.1 prebuilt.2⟩

def managedRsync : Managed (World C) String :=
  ⟨rsync s (s.sourceTree.getD fun _ => none), _, _, rsync_settles s _⟩

/-- The steps of the script with the conditions they establish. -/
def installSteps : List (Managed (World C) String) :=
  [checked (s.isDir [".repo"]) 2 exit_two (noCheckout s),
      checked s.sourceTree.isSome 3 exit_three (noSource s),
      checked (s.isDir (targetTree ++ [".git"])) 3 exit_three (noBaseline s),
      checked s.hasRsync 3 exit_three noRsync]
    ++ prebuilts.map (managedPrebuilt s) ++ [managedRsync s, printed installed]

theorem installDeviceTree_eq :
    installDeviceTree s = runAll ((installSteps s).map Managed.step) := rfl

/-! ## What the script touches -/

/-- The locations below `device/huawei/mozart`. -/
def InTargetTree (l : Location) : Prop := ∃ p, l = .android (targetTree ++ p)

/-- Those of them the mirror may write. -/
def Mirrored (l : Location) : Prop := ∃ p, l = .android (targetTree ++ p) ∧ excluded p = false

theorem managedPrebuilt_footprint (prebuilt : String × String) :
    Footprint World.view (managedPrebuilt s prebuilt)
      (· = .android (targetTree ++ prebuiltPath prebuilt.1)) (fun _ => False) where
  done_congr := by
    intro w w' hsame h
    have hfile : w'.android (targetTree ++ prebuiltPath prebuilt.1) = _ := hsame _ rfl
    show (w'.android (targetTree ++ prebuiltPath prebuilt.1)).map s.sha1sum = some prebuilt.2
    rw [hfile]
    exact h
  frame := by
    intro w l _
    show World.view (checkPrebuilt s prebuilt.1 prebuilt.2 w).state l = w.view l
    rw [state_checkPrebuilt]

theorem managedRsync_footprint :
    Footprint World.view (managedRsync s) InTargetTree Mirrored where
  done_congr := by
    intro w w' hsame h
    have hbelow : below targetTree w'.android = below targetTree w.android := by
      funext p
      exact hsame (.android (targetTree ++ p)) ⟨p, rfl⟩
    show mirror s.quickCheck _ (below targetTree w'.android) = below targetTree w'.android
    rw [hbelow]
    exact h
  frame := by
    intro w l hl
    cases l with
    | cache p => rfl
    | android p =>
      show graft targetTree (mirror s.quickCheck _ (below targetTree w.android)) w.android p
        = w.android p
      by_cases hp : targetTree <+: p
      · obtain ⟨q, rfl⟩ := hp
        rw [graft_append]
        have hex : excluded q = true := by
          by_contra hno
          exact hl ⟨q, rfl, Bool.eq_false_iff.mpr hno⟩
        rw [mirror_of_excluded hex]
        rfl
      · exact graft_outside hp _ _

/-- The prebuilts are among the excludes. -/
theorem excluded_prebuilt {prebuilt : String × String} (h : prebuilt ∈ prebuilts) :
    excluded (prebuiltPath prebuilt.1) = true := by
  unfold excluded
  rw [Bool.or_eq_true]
  right
  rw [List.any_eq_true]
  exact ⟨prebuilt, h, by simp⟩

/-- Every step of the script: it writes where the mirror may write, and no more. -/
theorem installStep_footprint {m : Managed (World C) String} (hm : m ∈ installSteps s) :
    Footprint World.view m InTargetTree Mirrored := by
  have hnone : ∀ {m : Managed (World C) String} {r w : Location → Prop},
      Footprint World.view m r w → (∀ l, r l → InTargetTree l) → (∀ l, w l → Mirrored l) →
      Footprint World.view m InTargetTree Mirrored := by
    intro m r w h hr hw
    exact ⟨fun s s' hsame => h.done_congr s s' fun l hl => hsame l (hr l hl),
      fun s l hl => h.frame s l fun hl' => hl (hw l hl')⟩
  unfold installSteps at hm
  simp only [List.mem_append, List.mem_cons, List.not_mem_nil, or_false, List.mem_map] at hm
  rcases hm with ((rfl | rfl | rfl | rfl) | ⟨prebuilt, _, rfl⟩) | rfl | rfl
  · exact hnone (checked_footprint _ _ _) (fun _ h => h.elim) (fun _ h => h.elim)
  · exact hnone (checked_footprint _ _ _) (fun _ h => h.elim) (fun _ h => h.elim)
  · exact hnone (checked_footprint _ _ _) (fun _ h => h.elim) (fun _ h => h.elim)
  · exact hnone (checked_footprint _ _ _) (fun _ h => h.elim) (fun _ h => h.elim)
  · refine hnone (managedPrebuilt_footprint s prebuilt) ?_ (fun _ h => h.elim)
    rintro l rfl
    exact ⟨_, rfl⟩
  · exact managedRsync_footprint s
  · exact hnone (printed_footprint _) (fun _ h => h.elim) (fun _ h => h.elim)

/-- No step of the script undoes an earlier one: the checks are not about what it writes. -/
theorem installSteps_keep : (installSteps s).Pairwise Managed.Keeps := by
  have hprebuilt : ∀ prebuilt ∈ prebuilts, ∀ m ∈ [managedRsync s, printed installed],
      (managedPrebuilt s prebuilt).Keeps m := by
    intro prebuilt hp m hm
    have hwrites : Footprint World.view m InTargetTree Mirrored := by
      apply installStep_footprint s
      unfold installSteps
      exact List.mem_append_right _ hm
    apply (managedPrebuilt_footprint s prebuilt).keeps hwrites
    -- the pinned prebuilts are excluded from the transfer
    rintro l rfl ⟨p, heq, hex⟩
    have hsame : prebuiltPath prebuilt.1 = p := by
      rw [Location.android.injEq] at heq
      exact List.append_cancel_left heq
    rw [← hsame, excluded_prebuilt hp] at hex
    cases hex
  unfold installSteps
  rw [List.pairwise_append, List.pairwise_append]
  refine ⟨⟨?_, ?_, ?_⟩, ?_, ?_⟩
  · simp [checked_keeps]
  · rw [List.pairwise_map]
    apply List.pairwise_of_forall
    intro a b
    exact (managedPrebuilt_footprint s a).keeps (managedPrebuilt_footprint s b) fun _ _ h => h
  · intro a ha b _
    simp only [List.mem_cons, List.not_mem_nil, or_false] at ha
    rcases ha with rfl | rfl | rfl | rfl <;> exact checked_keeps _ _ _ _
  · rw [List.pairwise_pair]
    exact (managedRsync_footprint s).keeps (printed_footprint _) fun _ _ h => h
  · intro a ha b hb
    rcases List.mem_append.mp ha with ha | ha
    · simp only [List.mem_cons, List.not_mem_nil, or_false] at ha
      rcases ha with rfl | rfl | rfl | rfl <;> exact checked_keeps _ _ _ _
    · obtain ⟨prebuilt, hp, rfl⟩ := List.mem_map.mp ha
      exact hprebuilt prebuilt hp b hb

/-- The checks fail without having changed anything, and `rsync` does not fail. -/
theorem installSteps_stable : ∀ m ∈ installSteps s, Stable m.step := by
  intro m hm
  unfold installSteps at hm
  simp only [List.mem_append, List.mem_cons, List.not_mem_nil, or_false, List.mem_map] at hm
  rcases hm with ((rfl | rfl | rfl | rfl) | ⟨prebuilt, _, rfl⟩) | rfl | rfl
  · exact checked_stable _ _ _
  · exact checked_stable _ _ _
  · exact checked_stable _ _ _
  · exact checked_stable _ _ _
  · apply (checkPrebuilt_settles s prebuilt.1 prebuilt.2).stable
    intro w _
    exact state_checkPrebuilt s prebuilt.1 prebuilt.2 w
  · apply (rsync_settles s _).stable
    intro w h
    exact absurd rfl h
  · exact printed_stable _

/-- The script ends before the transfer, with everything as it was, or the prebuilts are the pinned
ones. -/
theorem installDeviceTree_cases (w : World C) :
    ((installDeviceTree s w).status ≠ 0 ∧ (installDeviceTree s w).state = w) ∨
      ∀ prebuilt ∈ prebuilts,
        (w.android (targetTree ++ prebuiltPath prebuilt.1)).map s.sha1sum = some prebuilt.2 := by
  let checks := [checked (s.isDir [".repo"]) 2 exit_two (noCheckout s),
      checked s.sourceTree.isSome 3 exit_three (noSource s),
      checked (s.isDir (targetTree ++ [".git"])) 3 exit_three (noBaseline s),
      checked s.hasRsync 3 exit_three noRsync]
    ++ prebuilts.map (managedPrebuilt s)
  have hchecks : (runAll (checks.map Managed.step) w).state = w := by
    refine runAll_invariant (I := fun w' => w' = w) ?_ rfl
    rintro step hstep w' rfl
    obtain ⟨m, hm, rfl⟩ := List.mem_map.mp hstep
    rcases List.mem_append.mp hm with hm | hm
    · simp only [List.mem_cons, List.not_mem_nil, or_false] at hm
      rcases hm with rfl | rfl | rfl | rfl <;> exact state_require _ _ _ _
    · obtain ⟨prebuilt, _, rfl⟩ := List.mem_map.mp hm
      exact state_checkPrebuilt s prebuilt.1 prebuilt.2 w'
  -- the transfer starts only after the last check
  have hsplit : installDeviceTree s w = runAll (checks.map Managed.step
      ++ [rsync s (s.sourceTree.getD fun _ => none), echo installed]) w := rfl
  rw [hsplit, runAll_append]
  by_cases hstatus : (runAll (checks.map Managed.step) w).status = 0
  · right
    have hkeep : checks.Pairwise Managed.Keeps :=
      (List.pairwise_append.mp (installSteps_keep s)).1
    have hdone := all_done_runAll hkeep hstatus
    rw [hchecks] at hdone
    intro prebuilt hprebuilt
    exact hdone (managedPrebuilt s prebuilt)
      (List.mem_append_right _ (List.mem_map_of_mem hprebuilt))
  · left
    rw [if_neg hstatus]
    exact ⟨hstatus, hchecks⟩

/-- The script as a step of another script. -/
def managedInstall : Managed (World C) String :=
  ⟨installDeviceTree s, _, _, runAll_settles (installSteps_keep s)⟩

theorem managedInstall_footprint :
    Footprint World.view (managedInstall s) InTargetTree Mirrored where
  done_congr := by
    intro w w' hsame h m hm
    exact (installStep_footprint s hm).done_congr w w' hsame (h m hm)
  frame := by
    intro w l hl
    show World.view (installDeviceTree s w).state l = w.view l
    rw [installDeviceTree_eq]
    apply runAll_frame
    intro step hstep w'
    obtain ⟨m, hm, rfl⟩ := List.mem_map.mp hstep
    exact (installStep_footprint s hm).frame w' l hl

end

end Mozart.Scripts

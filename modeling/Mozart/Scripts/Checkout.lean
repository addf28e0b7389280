import Mathlib.Data.Finmap
import Mozart.Lib.Provision

/-!
# The checkout the scripts work on

`scripts/` turns an Android checkout into one that builds for mozart. Its three scripts write to
two places: the files below `$ANDROID_TOP`, and the cache of proprietary blobs below
`$PATCH_ROOT/proprietary-blobs/huawei/mozart`. Paths are lists of components; `git`, `rsync`,
`sha1sum` and the rest of `$PATCH_ROOT`, which no script writes to, are in the `Setup`.
-/

namespace Mozart.Scripts

open Provision

/-- A path below some root. -/
abbrev Path := List String

/-- The path as the scripts print it. -/
def Path.render (p : Path) : String := "/".intercalate p

/-- The regular files of a directory. -/
abbrev Tree (C : Type) := Path → Option C

variable {C P : Type}

/-- The files below a directory. -/
def below (dir : Path) (t : Tree C) : Tree C := fun p => t (dir ++ p)

/-- The tree with the files below a directory replaced. -/
def graft (dir : Path) (sub t : Tree C) : Tree C := fun p =>
  if dir <+: p then sub (p.drop dir.length) else t p

@[simp] theorem below_graft_self (dir : Path) (sub t : Tree C) :
    below dir (graft dir sub t) = sub := by
  funext p
  unfold below graft
  rw [if_pos (List.prefix_append dir p), List.drop_left]

@[simp] theorem graft_below (dir : Path) (t : Tree C) : graft dir (below dir t) t = t := by
  funext p
  unfold graft below
  split
  · next h =>
    obtain ⟨q, rfl⟩ := h
    rw [List.drop_left]
  · rfl

theorem graft_outside {dir p : Path} (h : ¬ dir <+: p) (sub t : Tree C) :
    graft dir sub t p = t p := by
  unfold graft
  rw [if_neg h]

theorem graft_append (dir p : Path) (sub t : Tree C) : graft dir sub t (dir ++ p) = sub p := by
  unfold graft
  rw [if_pos (List.prefix_append dir p), List.drop_left]

/-! ## git -/

/-- `git apply` in a repository: the exit statuses of its two checks, and of the command itself
with the files it leaves. -/
structure Git (C P : Type) where
  /-- `git apply -R --check` -/
  checkReverse : P → Tree C → Nat
  /-- `git apply --check` -/
  check : P → Tree C → Nat
  apply : P → Tree C → Nat × Tree C

/-- What the scripts rely on: the files named in a patch are the only ones it reads or writes;
a patch that could not be applied left everything as it was, one that was applied can be applied
in reverse. -/
structure Git.Lawful (git : Git C P) (files : P → List Path) : Prop where
  apply_reverse : ∀ p t, (git.apply p t).1 = 0 → git.checkReverse p (git.apply p t).2 = 0
  atomic : ∀ p t, (git.apply p t).1 ≠ 0 → (git.apply p t).2 = t
  writes : ∀ p t q, q ∉ files p → (git.apply p t).2 q = t q
  reads : ∀ p t t', (∀ q ∈ files p, t' q = t q) → git.checkReverse p t' = git.checkReverse p t

/-- Applying the later patch leaves the earlier one in place, as when their hunks do not meet. -/
def Git.Separate (git : Git C P) (earlier later : P) : Prop :=
  ∀ t, git.checkReverse earlier t = 0 → (git.apply later t).1 = 0 →
    git.checkReverse earlier (git.apply later t).2 = 0

/-- A git for files that are the lists of the patches in them: applying a patch adds it to its
files, if they are there. -/
def markGit (files : Path → List Path) : Git (List Path) Path where
  checkReverse p t := if ∀ f ∈ files p, p ∈ (t f).getD [] then 0 else 1
  check p t := if ∀ f ∈ files p, (t f).isSome = true then 0 else 1
  apply p t :=
    if ∀ f ∈ files p, (t f).isSome = true then
      (0, fun q => if q ∈ files p then (t q).map (p :: ·) else t q)
    else (1, t)

section

variable (files : Path → List Path)

theorem markGit_apply_cases (p : Path) (t : Tree (List Path)) :
    ((∀ f ∈ files p, (t f).isSome = true) ∧ (markGit files).apply p t
        = (0, fun q => if q ∈ files p then (t q).map (p :: ·) else t q)) ∨
      (markGit files).apply p t = (1, t) := by
  by_cases h : ∀ f ∈ files p, (t f).isSome = true
  · exact .inl ⟨h, if_pos h⟩
  · exact .inr (if_neg h)

theorem markGit_checkReverse {p : Path} {t : Tree (List Path)} :
    (markGit files).checkReverse p t = 0 ↔ ∀ f ∈ files p, p ∈ (t f).getD [] := by
  show (if ∀ f ∈ files p, p ∈ (t f).getD [] then 0 else 1) = 0 ↔ _
  split <;> simp_all

theorem markGit_lawful : (markGit files).Lawful files where
  apply_reverse := by
    intro p t h
    rcases markGit_apply_cases files p t with ⟨hthere, happly⟩ | happly
    · rw [happly, markGit_checkReverse]
      intro f hf
      obtain ⟨c, hc⟩ := Option.isSome_iff_exists.mp (hthere f hf)
      simp [hf, hc]
    · rw [happly] at h
      cases h
  atomic := by
    intro p t h
    rcases markGit_apply_cases files p t with ⟨_, happly⟩ | happly
    · rw [happly] at h
      exact absurd rfl h
    · rw [happly]
  writes := by
    intro p t q hq
    rcases markGit_apply_cases files p t with ⟨_, happly⟩ | happly
    · rw [happly]
      exact if_neg hq
    · rw [happly]
  reads := by
    intro p t t' hsame
    have hiff : (∀ f ∈ files p, p ∈ (t' f).getD []) ↔ ∀ f ∈ files p, p ∈ (t f).getD [] := by
      apply forall₂_congr
      intro f hf
      rw [hsame f hf]
    show (if _ then 0 else 1) = if _ then 0 else 1
    simp only [hiff]

theorem markGit_separate (earlier later : Path) : (markGit files).Separate earlier later := by
  intro t hreverse _
  rw [markGit_checkReverse] at hreverse ⊢
  intro f hf
  have hin := hreverse f hf
  rcases markGit_apply_cases files later t with ⟨_, happly⟩ | happly
  · rw [happly]
    show earlier ∈ (if f ∈ files later then (t f).map (later :: ·) else t f).getD []
    split
    · cases hfile : t f with
      | none =>
        rw [hfile] at hin
        exact hin
      | some c =>
        rw [hfile] at hin
        exact List.mem_cons_of_mem later hin
    · exact hin
  · rw [happly]
    exact hin

end

/-! ## The world of the scripts -/

/-- What no script changes. -/
structure Setup (C P : Type) where
  /-- `$ANDROID_TOP` -/
  androidTop : String
  /-- `$PATCH_ROOT` -/
  patchRoot : String
  /-- the directories below `$ANDROID_TOP` the scripts ask for -/
  isDir : Path → Bool
  /-- `$PATCH_ROOT/device/huawei/mozart`, if it is there -/
  sourceTree : Option (Tree C)
  /-- `command -v rsync` -/
  hasRsync : Bool
  /-- rsync's quick check: size and modification time are those of the source -/
  quickCheck : C → C → Bool
  sha1sum : C → String
  git : Git C P
  /-- the patch at a path below `$PATCH_ROOT` -/
  patch : Path → P
  /-- `proprietary-files/mozart-emui31-graphics.txt` -/
  listFile : List Char
  /-- `$STRICT_SHA1` -/
  strictSha1 : String

/-- What the scripts change. -/
structure World (C : Type) where
  /-- the files below `$ANDROID_TOP` -/
  android : Tree C
  /-- the files below `$PATCH_ROOT/proprietary-blobs/huawei/mozart`, if that is a directory -/
  cache : Option (Finmap fun _ : Path => C)

/-- A file of the cache. -/
def World.cached (w : World C) (p : Path) : Option C := w.cache.bind fun files => files.lookup p

/-- A file of the world. -/
inductive Location where
  | android (p : Path)
  | cache (p : Path)

def World.view (w : World C) : Location → Option C
  | .android p => w.android p
  | .cache p => w.cached p

/-- A step of one of the scripts, printing lines. -/
abbrev Command (C : Type) := Step (World C) String

/-- The check each of the three scripts begins with. -/
def noCheckout (s : Setup C P) : List String :=
  ["error: " ++ s.androidTop ++ " does not look like an Android repo checkout"]

def requireCheckout (s : Setup C P) : Command C :=
  require (fun _ => s.isDir [".repo"]) 2 (noCheckout s)

/-! ## Steps with nothing to undo -/

theorem exit_two : 2 ≠ 0 := Nat.succ_ne_zero 1

theorem exit_three : 3 ≠ 0 := Nat.succ_ne_zero 2

/-- A check whose condition is not about the world, to be met before a script goes on. -/
def checked (cond : Bool) (status : Nat) (hstatus : status ≠ 0) (message : List String) :
    Managed (World C) String :=
  ⟨require (fun _ => cond) status message, _, _, require_settles _ hstatus message⟩

def printed (message : List String) : Managed (World C) String :=
  ⟨echo message, _, _, echo_settles message⟩

/-- What is not about the world is not broken by anything. -/
theorem checked_keeps (cond : Bool) {status : Nat} (hstatus : status ≠ 0) (message : List String)
    (m : Managed (World C) String) : (checked cond status hstatus message).Keeps m :=
  fun _ h => h

theorem require_fails_in_place (cond : World C → Bool) (status : Nat) (message : List String)
    (w : World C) (_ : (require cond status message w).status ≠ 0) :
    (require cond status message w).state = w := by
  rw [state_require]

theorem checked_stable (cond : Bool) {status : Nat} (hstatus : status ≠ 0)
    (message : List String) :
    Stable (checked cond status hstatus message : Managed (World C) String).step :=
  (require_settles _ hstatus message).stable (require_fails_in_place _ status message)

theorem printed_stable (message : List String) :
    Stable (printed message : Managed (World C) String).step := fun _ => ⟨rfl, rfl⟩

theorem checked_footprint (cond : Bool) {status : Nat} (hstatus : status ≠ 0)
    (message : List String) :
    Footprint World.view (checked cond status hstatus message : Managed (World C) String)
      (fun _ => False) (fun _ => False) where
  done_congr _ _ _ h := h
  frame := by
    intro w l _
    show World.view (require (fun _ => cond) status message w).state l = w.view l
    rw [state_require]

theorem printed_footprint (message : List String) :
    Footprint World.view (printed message : Managed (World C) String)
      (fun _ => False) (fun _ => False) where
  done_congr _ _ _ h := h
  frame _ _ _ := rfl

end Mozart.Scripts

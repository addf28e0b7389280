import Mathlib.Data.List.Induction
import Mathlib.Order.Lattice

/-!
# A running maximum over candidates

A loop that keeps the best candidate seen so far, replaces it only by a strictly better one, and
starts from a default with a score of its own. What it ends with is a candidate of the largest
score, the first of them, or the default if no candidate is better than that.

* **`runningMax_spec`**: the default, or a best candidate.
* **`BestOf.eq_of_strict`**: where one candidate is better than all others, the order does not
  matter.
-/

namespace RunningMax

variable {κ σ : Type*} [LinearOrder σ] {score : κ → Option σ} {best : κ × σ} {xs : List κ}

/-- One round; an element without a score is no candidate. -/
def better (score : κ → Option σ) (best : κ × σ) (x : κ) : κ × σ :=
  match score x with
  | none => best
  | some s => if s > best.2 then (x, s) else best

/-- `best` after the candidates `xs`, starting from `start`. -/
inductive BestOf (score : κ → Option σ) (start : κ × σ) (xs : List κ) (best : κ × σ) : Prop where
  | default (heq : best = start) (hle : ∀ x ∈ xs, ∀ s, score x = some s → s ≤ start.2)
  | candidate (hmem : best.1 ∈ xs) (hscore : score best.1 = some best.2) (hlt : start.2 < best.2)
      (hle : ∀ x ∈ xs, ∀ s, score x = some s → s ≤ best.2)

theorem BestOf.snoc {start : κ × σ} (h : BestOf score start xs best) (x : κ) :
    BestOf score start (xs ++ [x]) (better score best x) := by
  have hstart : start.2 ≤ best.2 := by
    cases h with
    | default heq => rw [heq]
    | candidate _ _ hlt => exact hlt.le
  have hle : ∀ y ∈ xs, ∀ s, score y = some s → s ≤ best.2 := by
    cases h with
    | default heq hle => rwa [heq]
    | candidate _ _ _ hle => exact hle
  -- a round that keeps the best keeps what is known of it
  have hkeep : (∀ s, score x = some s → s ≤ best.2) → BestOf score start (xs ++ [x]) best := by
    intro hx
    have hall : ∀ y ∈ xs ++ [x], ∀ s, score y = some s → s ≤ best.2 := by
      intro y hy s hs
      rcases List.mem_append.mp hy with hy | hy
      · exact hle y hy s hs
      · rw [List.mem_singleton.mp hy] at hs
        exact hx s hs
    cases h with
    | default heq => exact .default heq fun y hy s hs => heq ▸ hall y hy s hs
    | candidate hmem hscore hlt =>
      exact .candidate (List.mem_append_left _ hmem) hscore hlt hall
  unfold better
  cases hscore : score x with
  | none => exact hkeep fun s hs => by rw [hscore] at hs; cases hs
  | some s =>
    show BestOf score start (xs ++ [x]) (if _ then _ else _)
    split_ifs with hgt
    · refine .candidate (by simp) hscore (lt_of_le_of_lt hstart hgt) fun y hy t ht => ?_
      rcases List.mem_append.mp hy with hy | hy
      · exact (hle y hy t ht).trans (le_of_lt hgt)
      · rw [List.mem_singleton.mp hy, hscore] at ht
        exact (Option.some.inj ht).ge
    · refine hkeep fun t ht => ?_
      rw [hscore] at ht
      exact Option.some.inj ht ▸ not_lt.mp hgt

/-- **What the loop ends with.** -/
theorem runningMax_spec (score : κ → Option σ) (start : κ × σ) (xs : List κ) :
    BestOf score start xs (xs.foldl (better score) start) := by
  induction xs using List.reverseRecOn with
  | nil => exact .default rfl (by simp)
  | append_singleton xs x ih =>
    rw [List.foldl_append]
    exact ih.snoc x

/-- **A strict maximum is found in every order.** -/
theorem BestOf.eq_of_strict {start : κ × σ} (h : BestOf score start xs best) {x : κ} {s : σ}
    (hx : x ∈ xs) (hscore : score x = some s) (hstart : start.2 < s)
    (hstrict : ∀ y ∈ xs, y ≠ x → ∀ t, score y = some t → t < s) : best = (x, s) := by
  cases h with
  | default heq hle => exact absurd (hle x hx s hscore) (not_le.mpr hstart)
  | candidate hmem hbest _ hle =>
    have hkey : best.1 = x := by
      by_contra hne
      exact absurd (hle x hx s hscore) (not_le.mpr (hstrict _ hmem hne _ hbest))
    rw [hkey, hscore] at hbest
    exact Prod.ext hkey (Option.some.inj hbest).symm

end RunningMax

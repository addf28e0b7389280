import Mathlib.Data.List.Induction
import Mozart.Lib.Transition

/-!
# Flags

A flag that some steps set and some clear, and that all others leave alone, tells something about
the past: whether it was set since it was last cleared.

* **`flag_iff_setSince`**: so it does at the end of every run.
-/

namespace Transition

variable {σ α : Type*} {T : System σ α}

theorem exec_append_singleton (s : σ) (as : List α) (a : α) :
    exec T s (as ++ [a]) = (exec T s as).bind fun s' => T.step s' a := by
  induction as generalizing s with
  | nil =>
    show (T.step s a).bind some = T.step s a
    cases T.step s a with
    | none => rfl
    | some s' => rfl
  | cons b bs ih =>
    show (T.step s b).bind _ = ((T.step s b).bind _).bind _
    rw [Option.bind_assoc]
    congr 1
    funext s'
    exact ih s'

/-- A setting step was taken, and no clearing step after it. -/
def SetSince (T : System σ α) (sets : σ → α → Prop) (clears : α → Prop) (s₀ : σ)
    (as : List α) : Prop :=
  ∃ before a after s, as = before ++ a :: after ∧ exec T s₀ before = some s ∧ sets s a ∧
    ∀ b ∈ after, ¬ clears b

variable {sets : σ → α → Prop} {clears : α → Prop} {s₀ s : σ} {as : List α} {a : α}

/-- One more step sets the flag, or leaves it set. -/
theorem setSince_append_singleton (hexec : exec T s₀ as = some s) :
    SetSince T sets clears s₀ (as ++ [a])
      ↔ sets s a ∨ SetSince T sets clears s₀ as ∧ ¬ clears a := by
  constructor
  · rintro ⟨before, b, after, s₁, hsplit, hbefore, hsets, hafter⟩
    induction after using List.reverseRecOn with
    | nil =>
      obtain ⟨rfl, hb⟩ := List.append_inj' hsplit rfl
      cases hb
      cases hexec.symm.trans hbefore
      exact .inl hsets
    | append_singleton after c _ =>
      rw [← List.cons_append, ← List.append_assoc] at hsplit
      obtain ⟨rfl, hc⟩ := List.append_inj' hsplit rfl
      cases hc
      right
      refine ⟨⟨before, b, after, s₁, rfl, hbefore, hsets, ?_⟩, ?_⟩
      · intro d hd
        exact hafter d (List.mem_append_left _ hd)
      · exact hafter a (List.mem_append_right _ (List.mem_singleton_self a))
  · rintro (hsets | ⟨⟨before, b, after, s₁, rfl, hbefore, hsets, hafter⟩, hclears⟩)
    · exact ⟨as, a, [], s, rfl, hexec, hsets, nofun⟩
    · refine ⟨before, b, after ++ [a], s₁, by simp, hbefore, hsets, ?_⟩
      intro d hd
      rcases List.mem_append.mp hd with hd | hd
      · exact hafter d hd
      · rw [List.mem_singleton.mp hd]
        exact hclears

/-- **The rule for flags**, along an invariant. -/
theorem flag_iff_setSince {flag I : σ → Prop}
    (hkeep : ∀ s a s', I s → T.step s a = some s' → I s')
    (hflag : ∀ s a s', I s → T.step s a = some s' → (flag s' ↔ sets s a ∨ flag s ∧ ¬ clears a))
    (hI : I s₀) (hinit : ¬ flag s₀) (hexec : exec T s₀ as = some s) :
    flag s ↔ SetSince T sets clears s₀ as := by
  have key : I s ∧ (flag s ↔ SetSince T sets clears s₀ as) := by
    induction as using List.reverseRecOn generalizing s with
    | nil =>
      cases hexec
      refine ⟨hI, iff_of_false hinit ?_⟩
      rintro ⟨before, a, after, s₁, hsplit, -⟩
      have hne := List.append_ne_nil_of_right_ne_nil before (List.cons_ne_nil a after)
      exact absurd hsplit.symm hne
    | append_singleton as a ih =>
      rw [exec_append_singleton] at hexec
      obtain ⟨s₁, hexec₁, hstep⟩ := Option.bind_eq_some_iff.mp hexec
      obtain ⟨hI₁, hiff⟩ := ih hexec₁
      refine ⟨hkeep s₁ a s hI₁ hstep, ?_⟩
      rw [hflag s₁ a s hI₁ hstep, setSince_append_singleton hexec₁, hiff]
  exact key.2

end Transition

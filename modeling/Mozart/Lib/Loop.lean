import Mathlib.Data.List.Basic

/-!
# Loops that may fault

A loop of an imperative program over a list is `List.foldlM` of its body in `Except`. The loop
invariant `P done b` relates the elements already handled to the loop state.

* **`foldlM_total`**: if the body succeeds at every position and keeps the invariant, so does
  the loop.
* **`foldlM_ok`**: if the loop succeeded, a fact the body establishes about each element it
  accepts holds of all of them.
* **`foldl_total`**: the loop rule for a body that cannot fault.
-/

namespace Loop

universe u

variable {α β ε : Type*} {f : β → α → Except ε β}

/-- A sequence of two computations succeeds exactly when both do. -/
theorem bind_eq_ok {γ δ : Type u} {x : Except ε γ} {k : γ → Except ε δ} {b : δ} :
    (x >>= k) = .ok b ↔ ∃ a, x = .ok a ∧ k a = .ok b := by
  cases x with
  | error e =>
    constructor
    · intro h
      cases h
    · rintro ⟨a, h, _⟩
      cases h
  | ok a =>
    constructor
    · intro h
      exact ⟨a, rfl, h⟩
    · rintro ⟨a', h, hk⟩
      cases h
      exact hk

theorem exists_bind_eq_ok {γ δ : Type u} {x : Except ε γ} {k : γ → Except ε δ} {a : γ}
    (h : x = .ok a) (hk : ∃ b, k a = .ok b) : ∃ b, (x >>= k) = .ok b := by
  obtain ⟨b, hb⟩ := hk
  exact ⟨b, bind_eq_ok.mpr ⟨a, h, hb⟩⟩

/-- A body that succeeds at the first element leaves the rest of the loop to run. -/
theorem foldlM_cons_of_ok {a : α} {l : List α} {b b' : β} (h : f b a = .ok b') :
    (a :: l).foldlM f b = l.foldlM f b' := by
  rw [List.foldlM_cons, h]
  rfl

/-- A body that faults at the first element ends the loop. -/
theorem foldlM_cons_of_error {a : α} {l : List α} {b : β} {e : ε} (h : f b a = .error e) :
    (a :: l).foldlM f b = .error e := by
  rw [List.foldlM_cons, h]
  rfl

/-- **The loop rule.** The body is only ever run at a split `done ++ a :: rest` of the list. -/
theorem foldlM_total {P : List α → β → Prop} {l : List α} {b₀ : β} (hinit : P [] b₀)
    (hstep : ∀ done a rest b, l = done ++ a :: rest → P done b →
      ∃ b', f b a = .ok b' ∧ P (done ++ [a]) b') :
    ∃ b, l.foldlM f b₀ = .ok b ∧ P l b := by
  suffices h : ∀ rest done b, l = done ++ rest → P done b →
      ∃ b', rest.foldlM f b = .ok b' ∧ P l b' from h l [] b₀ rfl hinit
  intro rest
  induction rest with
  | nil =>
    intro done b hl hP
    refine ⟨b, rfl, ?_⟩
    rw [hl, List.append_nil]
    exact hP
  | cons a rest ih =>
    intro done b hl hP
    obtain ⟨b', hb', hP'⟩ := hstep done a rest b hl hP
    obtain ⟨b'', hb'', hP''⟩ := ih (done ++ [a]) b' (by simpa using hl) hP'
    refine ⟨b'', ?_, hP''⟩
    rw [foldlM_cons_of_ok hb']
    exact hb''

/-- What every accepted element satisfies, all elements of a loop that succeeded satisfy. -/
theorem foldlM_ok {Q : α → Prop} (hbody : ∀ b a b', f b a = .ok b' → Q a) :
    ∀ {l : List α} {b b' : β}, l.foldlM f b = .ok b' → ∀ a ∈ l, Q a
  | [], _, _, _, a, ha => absurd ha (by simp)
  | x :: l, b, b', h, a, ha => by
    cases hx : f b x with
    | error e =>
      rw [foldlM_cons_of_error hx] at h
      cases h
    | ok b₁ =>
      rw [foldlM_cons_of_ok hx] at h
      rcases List.mem_cons.mp ha with rfl | ha
      · exact hbody b a b₁ hx
      · exact foldlM_ok hbody h a ha

/-- **The loop rule without faults**, stated as `foldlM_total` is. -/
theorem foldl_total {g : β → α → β} {P : List α → β → Prop} {l : List α} {b₀ : β}
    (hinit : P [] b₀)
    (hstep : ∀ done a rest b, l = done ++ a :: rest → P done b → P (done ++ [a]) (g b a)) :
    P l (l.foldl g b₀) := by
  suffices h : ∀ rest done b, l = done ++ rest → P done b → P l (rest.foldl g b) from
    h l [] b₀ rfl hinit
  intro rest
  induction rest with
  | nil =>
    intro done b hl hP
    rw [hl, List.append_nil]
    exact hP
  | cons a rest ih =>
    intro done b hl hP
    exact ih (done ++ [a]) (g b a) (by simpa using hl) (hstep done a rest b hl hP)

end Loop

import Mathlib.Logic.Function.Basic

/-!
# One mutex, many threads

`Owned mutex holds` ties the mutex to the program counters: it names a thread exactly when that
thread is at a point where it holds it. Taking and releasing keep this, so at most one thread is
ever inside (`Owned.exclusive`).
-/

namespace Mutex

variable {θ : Type*} {mutex : Option θ} {holds : θ → Bool} {a b : θ}

def Owned (mutex : Option θ) (holds : θ → Bool) : Prop :=
  ∀ a, mutex = some a ↔ holds a = true

theorem Owned.exclusive (h : Owned mutex holds) (ha : holds a = true) (hb : holds b = true) :
    a = b := by
  have hmutex := (h a).mpr ha
  rw [(h b).mpr hb] at hmutex
  exact (Option.some.inj hmutex).symm

theorem Owned.not_holds_of_free (h : Owned none holds) (a : θ) : holds a = false := by
  cases hholds : holds a with
  | false => rfl
  | true => exact absurd ((h a).mpr hholds) (by simp)

variable [DecidableEq θ]

theorem Owned.acquire (h : Owned none holds) (a : θ) :
    Owned (some a) (Function.update holds a true) := by
  intro b
  by_cases hb : b = a
  · subst hb
    simp
  · rw [Function.update_of_ne hb, h.not_holds_of_free b]
    simp [Ne.symm hb]

theorem Owned.release (h : Owned mutex holds) (ha : holds a = true) :
    Owned none (Function.update holds a false) := by
  intro b
  by_cases hb : b = a
  · subst hb
    simp
  · rw [Function.update_of_ne hb]
    -- the mutex was `a`'s, so `b` does not hold it
    have hmutex := (h a).mpr ha
    constructor
    · intro hnone
      cases hnone
    · intro hholds
      exact absurd (h.exclusive hholds ha) hb

end Mutex

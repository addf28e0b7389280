import Mathlib.Data.Int.CardIntervalMod

/-!
# Going round

A history of visits that goes round `n` places, starting with place 0. Whatever stretch of it is
looked at, no place is visited more than once more than another, and `n` visits in a row reach
every place.
-/

namespace RoundRobin

/-- Visit `k` of the history is to place `k % n`. -/
def GoesRound (n : Nat) (visits : List Nat) : Prop :=
  visits = (List.range visits.length).map (· % n)

variable {n : Nat} {visits before stretch rest : List Nat}

theorem goesRound_nil (n : Nat) : GoesRound n [] := rfl

/-- One more visit, to the next place. -/
theorem GoesRound.snoc (h : GoesRound n visits) :
    GoesRound n (visits ++ [visits.length % n]) := by
  rw [GoesRound, List.length_append, List.length_singleton, List.range_succ, List.map_append, ← h,
    List.map_singleton]

theorem GoesRound.getElem (h : GoesRound n visits) {k : Nat} (hk : k < visits.length) :
    visits[k] = k % n := by
  have hget : visits[k]? = some (k % n) := by
    rw [h, List.getElem?_map, List.getElem?_range hk, Option.map_some]
  exact (List.getElem?_eq_some_iff.mp hget).2

theorem GoesRound.left (h : GoesRound n (before ++ rest)) : GoesRound n before := by
  refine List.ext_getElem (by simp) fun k hk _ => ?_
  have hvisit := h.getElem (k := k) (by rw [List.length_append]; omega)
  rw [List.getElem_append_left hk] at hvisit
  simpa using hvisit

theorem GoesRound.count (h : GoesRound n visits) {i : Nat} (hi : i < n) :
    visits.count i = visits.length / n + if i < visits.length % n then 1 else 0 := by
  have hn : 0 < n := by omega
  have hcount := Nat.count_modEq_card visits.length hn i
  rw [Nat.mod_eq_of_lt hi] at hcount
  have hmap : visits.count i = ((List.range visits.length).map (· % n)).count i :=
    congrArg (List.count i) h
  rw [← hcount, hmap, List.count, List.countP_map, Nat.count]
  refine List.countP_congr fun k _ => ?_
  simp [Nat.ModEq, Nat.mod_eq_of_lt hi]

/-- **Fairness.** In no stretch is a place visited two times more than another. -/
theorem GoesRound.fair (h : GoesRound n (before ++ stretch ++ rest)) {i j : Nat} (hi : i < n)
    (hj : j < n) : stretch.count i ≤ stretch.count j + 1 := by
  have hall := h.left
  have hi₁ := hall.count hi
  have hj₁ := hall.count hj
  have hi₀ := hall.left.count hi
  have hj₀ := hall.left.count hj
  rw [List.count_append] at hi₁ hj₁
  split_ifs at hi₁ hj₁ hi₀ hj₀ <;> omega

/-- **Nobody is left out** of `n` visits in a row. -/
theorem GoesRound.mem (h : GoesRound n (before ++ stretch)) (hlength : n ≤ stretch.length)
    {i : Nat} (hi : i < n) : i ∈ stretch.take n := by
  -- the distance from the place of the first visit to `i`
  let k := (i + n - before.length % n) % n
  have hk : k < n := Nat.mod_lt _ (by omega)
  have hplace : (before.length + k) % n = i := by
    have hle := Nat.mod_lt before.length (show 0 < n by omega)
    rw [Nat.add_mod, Nat.mod_mod, ← Nat.add_mod, ← Nat.mod_add_mod,
      show before.length % n + (i + n - before.length % n) = i + n by omega, Nat.add_mod_right,
      Nat.mod_eq_of_lt hi]
  have hvisit := h.getElem (k := before.length + k) (by rw [List.length_append]; omega)
  rw [List.getElem_append_right (by omega), hplace] at hvisit
  rw [List.mem_iff_getElem]
  exact ⟨k, by rw [List.length_take]; omega, by simpa using hvisit⟩

end RoundRobin

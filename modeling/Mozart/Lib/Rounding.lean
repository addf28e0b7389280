import Mathlib.Algebra.Order.Round
import Mathlib.Tactic.Linarith
import Mathlib.Tactic.NormNum

/-!
# Rounding in pieces and through a grid

An interval `[a, a + b]` whose origin and length are rounded to whole numbers on their own. The
two roundings move the far end by one at most, and only when both go up from exactly a half.

* **`round_add_round_le_iff`**: when the rounded pieces still end at or before a whole number.

A value handed on as a multiple of `1 / n` is less than one step below what it was
(`floor_div_le`, `lt_floor_div_add`), and rounding it down later moves by one at most
(`floor_le_floor_add_one`).
-/

namespace Rounding

variable {K : Type*} [Field K] [LinearOrder K] [IsStrictOrderedRing K] [FloorRing K] {a b : K}

theorem round_le_round (h : a ≤ b) : round a ≤ round b := by
  rw [round_eq, round_eq]
  exact Int.floor_le_floor (add_le_add_left h _)

theorem one_le_round_iff : 1 ≤ round a ↔ 1 / 2 ≤ a := by
  rw [round_eq, Int.le_floor, Int.cast_one, ← sub_le_iff_le_add]
  norm_num

/-- Rounding goes up by a whole half only from a half. -/
theorem round_eq_add_half_iff : (round a : K) = a + 1 / 2 ↔ Int.fract a = 1 / 2 := by
  rw [Int.fract_eq_iff]
  constructor
  · intro h
    refine ⟨by norm_num, by norm_num, round a - 1, ?_⟩
    push_cast
    linarith
  · rintro ⟨-, -, z, hz⟩
    have hsum : a + 1 / 2 = ((z + 1 : ℤ) : K) := by
      push_cast
      linarith
    rw [round_eq, hsum, Int.floor_intCast]

/-- **The far end stays** unless it is the whole number itself and the origin is half-way. -/
theorem round_add_round_le_iff {n : ℤ} (h : a + b ≤ n) :
    round a + round b ≤ n ↔ ¬ (a + b = n ∧ Int.fract a = 1 / 2) := by
  constructor
  · rintro hle ⟨hsum, hfract⟩
    have ha := round_eq_add_half_iff.mpr hfract
    have hb : (round b : K) = b + 1 / 2 := by
      refine round_eq_add_half_iff.mpr (Int.fract_eq_iff.mpr ⟨by norm_num, by norm_num,
        n - round a, ?_⟩)
      push_cast
      linarith
    have hcast : ((round a + round b : ℤ) : K) ≤ n := Int.cast_le.mpr hle
    push_cast at hcast
    linarith
  · intro hnot
    by_contra hgt
    have ha := round_le_add_half a
    have hb := round_le_add_half b
    have hcast : ((n + 1 : ℤ) : K) ≤ (round a + round b : ℤ) := Int.cast_le.mpr (by omega)
    push_cast at hcast
    -- both roundings went up by a half, and there was nothing left before `n`
    exact hnot ⟨le_antisymm h (by linarith), round_eq_add_half_iff.mp (by linarith)⟩

/-! ## Through a grid -/

/-- A value cut down to a multiple of `1 / n`. -/
theorem floor_div_le (a : K) {n : ℕ} (hn : 0 < n) : (⌊a * n⌋ : K) / n ≤ a := by
  rw [div_le_iff₀ (Nat.cast_pos.mpr hn)]
  exact Int.floor_le _

theorem lt_floor_div_add (a : K) {n : ℕ} (hn : 0 < n) : a < (⌊a * n⌋ : K) / n + 1 / n := by
  rw [← add_div, lt_div_iff₀ (Nat.cast_pos.mpr hn)]
  exact Int.lt_floor_add_one _

theorem floor_le_floor_add_one (h : b ≤ a + 1) : ⌊b⌋ ≤ ⌊a⌋ + 1 := by
  rw [← Int.floor_add_one]
  exact Int.floor_le_floor h

end Rounding

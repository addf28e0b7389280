import Mathlib.Data.Int.ModEq
import Mathlib.Data.List.Range
import Mathlib.Logic.Function.Basic

/-!
# Windows of a circular buffer

A memory of `cap` cells used in a circle: `slot cap start i` is the cell `i` places after
`start`, and `window mem cap start n` reads `n` cells from `start` on. Every operation on a
circular queue is one of the window equations below (take the front off, append at the back,
write outside), so that a client never reasons about remainders.
-/

namespace CircularBuffer

/-- The cell `i` places after `start` in a circle of `cap` cells. -/
def slot (cap start i : Int) : Int := (start + i) % cap

variable {cap start i j : Int}

theorem slot_nonneg (hcap : 0 < cap) : 0 ≤ slot cap start i :=
  Int.emod_nonneg _ (by omega)

theorem slot_lt (hcap : 0 < cap) : slot cap start i < cap :=
  Int.emod_lt_of_pos _ hcap

/-- Going on from a slot is going further from its start. -/
@[simp] theorem slot_slot (cap start i j : Int) :
    slot cap (slot cap start i) j = slot cap start (i + j) := by
  unfold slot
  rw [Int.emod_add_emod, add_assoc]

theorem slot_zero (hstart : 0 ≤ start) (hlt : start < cap) : slot cap start 0 = start := by
  unfold slot
  rw [add_zero, Int.emod_eq_of_lt hstart hlt]

/-- A slot that does not wrap is plain addition. -/
theorem slot_of_lt (hnonneg : 0 ≤ start + i) (hlt : start + i < cap) :
    slot cap start i = start + i :=
  Int.emod_eq_of_lt hnonneg hlt

/-- A slot that wraps once is one circle back. -/
theorem slot_of_ge (hge : cap ≤ start + i) (hlt : start + i < 2 * cap) :
    slot cap start i = start + i - cap := by
  unfold slot
  rw [← Int.sub_emod_right, Int.emod_eq_of_lt (by omega) (by omega)]

/-- Within one circle, different offsets are different cells. -/
theorem slot_injective (hi : 0 ≤ i) (hicap : i < cap) (hj : 0 ≤ j) (hjcap : j < cap)
    (h : slot cap start i = slot cap start j) : i = j := by
  have hmod : start + i ≡ start + j [ZMOD cap] := h
  have hcancel : i % cap = j % cap := Int.ModEq.add_left_cancel' start hmod
  rwa [Int.emod_eq_of_lt hi hicap, Int.emod_eq_of_lt hj hjcap] at hcancel

/-! ## Windows -/

variable {α : Type*} {mem mem' : Int → α} {m n : Nat}

/-- The contents of the `n` cells from `start` on, in order. -/
def window (mem : Int → α) (cap start : Int) (n : Nat) : List α :=
  (List.range n).map fun i : Nat => mem (slot cap start i)

@[simp] theorem length_window : (window mem cap start n).length = n := by
  simp [window]

/-- The window depends only on the cells it covers. -/
theorem window_congr
    (h : ∀ i : Nat, i < n → mem (slot cap start i) = mem' (slot cap start i)) :
    window mem cap start n = window mem' cap start n := by
  unfold window
  apply List.map_congr_left
  intro i hi
  exact h i (List.mem_range.mp hi)

/-- **Writing outside a window leaves it alone.** -/
theorem window_update {c : Int} {e : α} (h : ∀ i : Nat, i < n → slot cap start i ≠ c) :
    window (Function.update mem c e) cap start n = window mem cap start n := by
  apply window_congr
  intro i hi
  rw [Function.update_of_ne (h i hi)]

/-- **Appending.** A window is its front part and the window that starts where that ends. -/
theorem window_add (mem : Int → α) (cap start : Int) (m n : Nat) :
    window mem cap start (m + n)
      = window mem cap start m ++ window mem cap (slot cap start m) n := by
  unfold window
  rw [List.range_add, List.map_append, List.map_map]
  simp [Function.comp_def]

/-- **Taking the front off.** -/
theorem window_succ (mem : Int → α) (cap start : Int) (n : Nat) :
    window mem cap start (n + 1)
      = mem (slot cap start 0) :: window mem cap (slot cap start 1) n := by
  rw [Nat.add_comm, window_add]
  simp [window]

/-- A window that does not wrap reads consecutive cells. -/
theorem window_eq_of_get (es : List α) (hstart : 0 ≤ start)
    (hfit : start + es.length ≤ cap)
    (h : ∀ j : Nat, (hj : j < es.length) → mem (start + j) = es[j]) :
    window mem cap start es.length = es := by
  apply List.ext_getElem (by simp)
  intro j _ hj
  have hslot : slot cap start j = start + j := slot_of_lt (by omega) (by omega)
  simp [window, hslot, h j hj]

end CircularBuffer

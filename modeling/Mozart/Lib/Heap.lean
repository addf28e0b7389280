import Mathlib.Data.List.Basic

/-!
# A heap of blocks

Addresses are handed out in order and never again, so a stale pointer can never mean a newer
block: reading through it finds nothing. That the addresses not handed out yet are free is a field.

* **`block_alloc_of_block`**: an allocation moves nothing.
* **`block_free`**: a block is gone exactly when it was freed.
-/

/-- A heap whose blocks hold a `β` each. -/
structure Heap (β : Type*) where
  block : Nat → Option β
  next : Nat
  fresh : ∀ p, next ≤ p → block p = none

namespace Heap

variable {β : Type*}

def empty : Heap β := ⟨fun _ => none, 0, fun _ _ => rfl⟩

@[simp] theorem block_empty (p : Nat) : (empty : Heap β).block p = none := rfl

/-- The next address, and the heap in which it holds `b`. -/
def alloc (h : Heap β) (b : β) : Nat × Heap β :=
  (h.next, {
    block := fun p => if p = h.next then some b else h.block p
    next := h.next + 1
    fresh := by
      intro p hp
      have hne : p ≠ h.next := by omega
      show (if p = h.next then some b else h.block p) = none
      rw [if_neg hne]
      exact h.fresh p (by omega) })

/-- Give a block back. -/
def free (h : Heap β) (q : Nat) : Heap β where
  block p := if p = q then none else h.block p
  next := h.next
  fresh := by
    intro p hp
    split
    · rfl
    · exact h.fresh p hp

variable {h : Heap β}

@[simp] theorem alloc_fst (b : β) : (h.alloc b).1 = h.next := rfl

theorem block_alloc (b : β) (p : Nat) :
    (h.alloc b).2.block p = if p = h.next then some b else h.block p := rfl

@[simp] theorem block_alloc_self (b : β) : (h.alloc b).2.block h.next = some b := by
  rw [block_alloc, if_pos rfl]

theorem ne_next_of_block {p : Nat} {b : β} (hp : h.block p = some b) : p ≠ h.next := by
  intro heq
  rw [heq, h.fresh h.next (Nat.le_refl _)] at hp
  cases hp

/-- An allocation leaves every block where it is. -/
theorem block_alloc_of_block {p : Nat} {b c : β} (hp : h.block p = some b) :
    (h.alloc c).2.block p = some b := by
  rw [block_alloc, if_neg (ne_next_of_block hp)]
  exact hp

theorem block_free (q p : Nat) :
    (h.free q).block p = if p = q then none else h.block p := rfl

end Heap

import Mathlib.Data.Fin.Tuple.Basic
import Mathlib.Data.Set.Piecewise

/-!
# Objects in memory, byte by byte

A word as its bytes, least significant first, and the window of an object that a caller may read
or write: `count` bytes from `pos` on.

* **`bytes_ofBytes`**: the word made of some bytes has these bytes.
* **`Window.write_eq_write_iff`**: writing into two objects gives the same exactly when they agree
  outside the window.
* **`Window.forall_write_eq_iff`**: what was there before never matters exactly for the window of
  all bytes.
-/

namespace ByteObject

variable {n : Nat}

/-! ## Words -/

/-- The bytes of a word, least significant first. -/
def bytes (v : BitVec (n * 8)) (i : Fin n) : BitVec 8 := v.extractLsb' (8 * i) 8

/-- The word with these bytes: bit `k` is bit `k % 8` of byte `k / 8`. -/
def ofBytes (b : Fin n → BitVec 8) : BitVec (n * 8) :=
  (BitVec.iunfoldr (fun k _ => ((), (b k.divNat).getLsb k.modNat)) ()).2

theorem getLsbD_ofBytes (b : Fin n → BitVec 8) (k : Fin (n * 8)) :
    (ofBytes b).getLsbD k = (b k.divNat).getLsbD k.modNat :=
  BitVec.iunfoldr_getLsbD (fun _ => ()) k fun _ => rfl

theorem bytes_ofBytes (b : Fin n → BitVec 8) : bytes (ofBytes b) = b := by
  funext i
  apply BitVec.eq_of_getElem_eq
  intro k hk
  have hi := i.isLt
  have hlt : 8 * i.val + k < n * 8 := by omega
  have hdiv : (⟨8 * i.val + k, hlt⟩ : Fin (n * 8)).divNat = i := by
    apply Fin.ext
    rw [Fin.coe_divNat]
    show (8 * i.val + k) / 8 = i.val
    omega
  have hmod : (8 * i.val + k) % 8 = k := by omega
  rw [bytes, BitVec.getElem_extractLsb', getLsbD_ofBytes _ ⟨_, hlt⟩, hdiv, Fin.coe_modNat]
  show (b i).getLsbD ((8 * i.val + k) % 8) = (b i)[k]
  rw [hmod, BitVec.getLsbD_eq_getElem hk]

/-- A word extended to a wider one is its low part. -/
theorem setWidth_signExtend {v w : Nat} (h : v ≤ w) (x : BitVec v) :
    (x.signExtend w).setWidth v = x := by
  apply BitVec.eq_of_getLsbD_eq
  intro i hi
  have hiw : i < w := by omega
  simp [BitVec.getElem_signExtend, hi, hiw]

/-! ## Windows -/

/-- `count` bytes from `pos` on, of an object of `n`. -/
structure Window (n : Nat) where
  pos : Nat
  count : Nat
  fits : pos + count ≤ n

namespace Window

variable {α : Type*} (win : Window n)

/-- The positions in the window. -/
def slots : Set (Fin n) := {i | win.pos ≤ i ∧ i < win.pos + win.count}

instance : DecidablePred (· ∈ win.slots) :=
  fun i => inferInstanceAs (Decidable (win.pos ≤ i.val ∧ i.val < win.pos + win.count))

/-- The position of the `k`-th byte of the window. -/
def slot (k : Fin win.count) : Fin n := ⟨win.pos + k, by have := win.fits; omega⟩

theorem slot_mem (k : Fin win.count) : win.slot k ∈ win.slots :=
  ⟨Nat.le_add_right _ _, Nat.add_lt_add_left k.isLt _⟩

/-- `object` with the first bytes of `buffer` in the window. -/
def write (buffer : Nat → α) (object : Fin n → α) : Fin n → α :=
  win.slots.piecewise (fun i => buffer (i - win.pos)) object

variable {win} {buffer : Nat → α} {object object' : Fin n → α} {i : Fin n}

theorem write_of_mem (h : i ∈ win.slots) : win.write buffer object i = buffer (i - win.pos) :=
  Set.piecewise_eq_of_mem _ _ _ h

theorem write_of_notMem (h : i ∉ win.slots) : win.write buffer object i = object i :=
  Set.piecewise_eq_of_notMem _ _ _ h

theorem write_slot (k : Fin win.count) : win.write buffer object (win.slot k) = buffer k := by
  rw [write_of_mem (win.slot_mem k), slot, Nat.add_sub_cancel_left]

/-- **Only what lies outside the window is left of the object.** -/
theorem write_eq_write_iff :
    win.write buffer object = win.write buffer object' ↔ ∀ i ∉ win.slots, object i = object' i := by
  constructor
  · intro h i hi
    have hat := congrFun h i
    rwa [write_of_notMem hi, write_of_notMem hi] at hat
  · intro h
    funext i
    by_cases hi : i ∈ win.slots
    · rw [write_of_mem hi, write_of_mem hi]
    · rw [write_of_notMem hi, write_of_notMem hi, h i hi]

theorem forall_mem_slots_iff : (∀ i, i ∈ win.slots) ↔ win.count = n := by
  have hfits := win.fits
  constructor
  · intro h
    by_contra hne
    -- the first byte is in the window only if it starts there, the last only if it ends there
    have hfirst := (h ⟨0, by omega⟩).1
    have hlast := (h ⟨n - 1, by omega⟩).2
    simp only at hfirst hlast
    omega
  · intro h i
    have hi := i.isLt
    exact ⟨by omega, by omega⟩

/-- **The object never matters** exactly when the window is all of it. -/
theorem forall_write_eq_iff [Nontrivial α] :
    (∀ object', win.write buffer object' = win.write buffer object) ↔ win.count = n := by
  rw [← forall_mem_slots_iff]
  constructor
  · intro h i
    by_contra hi
    obtain ⟨x, hx⟩ := exists_ne (object i)
    exact hx (write_eq_write_iff.mp (h fun _ => x) i hi)
  · exact fun h object' => write_eq_write_iff.mpr fun i hi => absurd (h i) hi

end Window

end ByteObject

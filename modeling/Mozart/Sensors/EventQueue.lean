import Mozart.Lib.CircularBuffer
import Mozart.Sensors.Hal

/-!
# `SensorEventQueue`: the zero-copy circular queue of one sub-HAL

The class of `sensors/SensorEventQueue.cpp`. Its point is that the writer needs no intermediate
buffer: `getWritableRegion` hands out a pointer into the queue's own storage, the sub-HAL fills
that region **without the lock**, and `markAsWritten` makes it readable afterwards. Nothing in
the queue remembers that a region is out.

* `mData` is the memory behind the pointer, indexed by slot; a `sensors_event_t *` into it is a
  slot number, and `NULL` is `none`. An access outside `[0, mCapacity)` is expressible.
* An `int` is an `Int`, and what is assigned to one goes through `toInt32`. `InRange` says when no
  sum that `getWritableRegion` forms wraps; the one caller, `writerTask`, asks for 36 records of a
  queue of capacity 36.
* `Wf` is what every operation keeps, `Holds` ties a region that is being filled to the queue,
  and each operation has one lemma saying what it does to `readable`, the queue as a list.
* **`Wf.handsOutMaximal_iff`**, **`Wf.free_iff`**: what `getWritableRegion` hands out is as
  promised, and may be written to, exactly when nothing wraps.
-/

namespace Mozart.Sensors

open CircularBuffer

/-- `class SensorEventQueue`; the condition variable belongs to the threads, not to the data. -/
structure SensorEventQueue (α : Type*) where
  mCapacity : Int
  mStart : Int
  mSize : Int
  mData : Int → α

namespace SensorEventQueue

variable {α : Type*}

/-- The constructor; `mem` is what the freshly allocated storage happens to hold. -/
def new (capacity : Int) (mem : Int → α) : SensorEventQueue α where
  mCapacity := capacity
  mStart := 0
  mSize := 0
  mData := mem

/-- `getWritableRegion`: the returned length and the pointer stored in `*out`. The two sums of the
source with more than one operator are each taken as one, which wraps to the same. -/
def getWritableRegion (q : SensorEventQueue α) (requestedLength : Int) : Int × Option Int :=
  if q.mSize = q.mCapacity ∨ requestedLength ≤ 0 then
    (0, none)
  else
    -- Start writing after the last readable record.
    let firstWritable := (toInt32 (q.mStart + q.mSize)).tmod q.mCapacity
    let lastWritable := toInt32 (firstWritable + requestedLength - 1)
    -- Don't go past the end of the data array.
    let lastWritable :=
      if lastWritable > q.mCapacity - 1 then q.mCapacity - 1 else lastWritable
    -- Don't go into the readable region.
    let lastWritable :=
      if firstWritable < q.mStart ∧ lastWritable ≥ q.mStart then q.mStart - 1 else lastWritable
    (toInt32 (lastWritable - firstWritable + 1), some firstWritable)

def markAsWritten (q : SensorEventQueue α) (count : Int) : SensorEventQueue α :=
  { q with mSize := toInt32 (q.mSize + count) }

def getSize (q : SensorEventQueue α) : Int := q.mSize

/-- `peek`: a pointer to the first readable record. -/
def peek (q : SensorEventQueue α) : Option Int :=
  if q.mSize = 0 then none else some q.mStart

/-- The test of the loops in `dequeue` and `waitForSpace`. -/
def isFull (q : SensorEventQueue α) : Bool := q.mSize == q.mCapacity

/-- `dequeue`: the queue afterwards, and whether `mSpaceAvailableCondition` was broadcast. -/
def dequeue (q : SensorEventQueue α) : SensorEventQueue α × Bool :=
  if q.mSize = 0 then
    (q, false)
  else
    ({ q with
      mSize := toInt32 (q.mSize - 1)
      mStart := (toInt32 (q.mStart + 1)).tmod q.mCapacity }, q.isFull)

/-- A store through a pointer into the storage: `mData[slot] = e`. -/
def store (q : SensorEventQueue α) (slot : Int) (e : α) : SensorEventQueue α :=
  { q with mData := Function.update q.mData slot e }

@[simp] theorem store_mStart (q : SensorEventQueue α) (c : Int) (e : α) :
    (q.store c e).mStart = q.mStart := rfl

@[simp] theorem store_mSize (q : SensorEventQueue α) (c : Int) (e : α) :
    (q.store c e).mSize = q.mSize := rfl

theorem store_mData_of_ne {q : SensorEventQueue α} {c j : Int} (h : j ≠ c) (e : α) :
    (q.store c e).mData j = q.mData j := by
  unfold store
  exact Function.update_of_ne h e q.mData

/-! ## The representation invariant and the queue as a list -/

/-- The bounds every operation keeps. -/
structure Wf (q : SensorEventQueue α) : Prop where
  capacity_pos : 1 ≤ q.mCapacity
  capacity_lt : q.mCapacity < 2 ^ 31
  start_nonneg : 0 ≤ q.mStart
  start_lt : q.mStart < q.mCapacity
  size_nonneg : 0 ≤ q.mSize
  size_le : q.mSize ≤ q.mCapacity

/-- The readable records, oldest first: `mData[(mStart + i) mod mCapacity]` for `i < mSize`. -/
def readable (q : SensorEventQueue α) : List α :=
  window q.mData q.mCapacity q.mStart q.mSize.toNat

/-- The slot of the `i`-th readable record. -/
def readableSlot (q : SensorEventQueue α) (i : Int) : Int := slot q.mCapacity q.mStart i

/-- The first slot after the readable records, as `getWritableRegion` computes it. -/
def firstWritable (q : SensorEventQueue α) : Int := slot q.mCapacity q.mStart q.mSize

theorem wf_new {capacity : Int} (h : 1 ≤ capacity) (hint : capacity < 2 ^ 31) (mem : Int → α) :
    (new capacity mem).Wf :=
  ⟨h, hint, le_refl 0, h, le_refl 0, by simp only [new]; omega⟩

theorem readable_new (capacity : Int) (mem : Int → α) : (new capacity mem).readable = [] := rfl

/-- Where the first writable slot lies: behind the readable records, or, once these wrap,
between them and `mStart`. -/
theorem Wf.firstWritable_cases {q : SensorEventQueue α} (h : q.Wf) :
    (q.mStart + q.mSize < q.mCapacity ∧ q.firstWritable = q.mStart + q.mSize) ∨
      (q.mCapacity ≤ q.mStart + q.mSize ∧
        q.firstWritable = q.mStart + q.mSize - q.mCapacity) := by
  obtain ⟨hcap, _, hstart, hlt, hsize, hle⟩ := h
  rcases Int.lt_or_le (q.mStart + q.mSize) q.mCapacity with hfit | hwrap
  · exact Or.inl ⟨hfit, slot_of_lt (by omega) hfit⟩
  · exact Or.inr ⟨hwrap, slot_of_ge hwrap (by omega)⟩

theorem Wf.readable_eq_nil_iff {q : SensorEventQueue α} (h : q.Wf) :
    q.readable = [] ↔ q.mSize = 0 := by
  have hsize := h.size_nonneg
  rw [← List.length_eq_zero_iff, readable, length_window]
  omega

/-! ## A region that is being filled -/

/-- A region handed to the writer: the pointer and length `getWritableRegion` gave, and the
records stored there so far. The queue does not keep this; the writing thread does. -/
structure Region (α : Type*) where
  buffer : Option Int
  bufferSize : Int
  written : List α

/-- The region `r` is still the writer's: it starts at the first writable slot, fits between
there and both the end of the array and the readable records, and holds what was written. -/
structure Holds (q : SensorEventQueue α) (r : Region α) : Prop where
  buffer_eq : r.buffer = some q.firstWritable
  fits_array : q.firstWritable + r.bufferSize ≤ q.mCapacity
  fits_free : q.mSize + r.bufferSize ≤ q.mCapacity
  written_le : r.written.length ≤ r.bufferSize
  stored : ∀ j : Nat, (hj : j < r.written.length) → q.mData (q.firstWritable + j) = r.written[j]

/-- Neither sum that `getWritableRegion` forms for the request leaves `int`. -/
def InRange (q : SensorEventQueue α) (requestedLength : Int) : Prop :=
  q.mStart + q.mSize < 2 ^ 31 ∧ q.firstWritable + requestedLength - 1 < 2 ^ 31

instance (q : SensorEventQueue α) (requestedLength : Int) :
    Decidable (q.InRange requestedLength) :=
  inferInstanceAs (Decidable (_ ∧ _))

/-- Requests up to `2 ^ 30` of a queue up to that capacity. -/
theorem Wf.inRange {q : SensorEventQueue α} (h : q.Wf) (hcap : q.mCapacity ≤ 2 ^ 30)
    {requestedLength : Int} (hle : requestedLength ≤ 2 ^ 30) : q.InRange requestedLength := by
  obtain ⟨hpos, _, hstart, hlt, hsize, hsize_le⟩ := h
  have hfirst : q.firstWritable < q.mCapacity := slot_lt (by omega)
  exact ⟨by omega, by omega⟩

/-- What `getWritableRegion` computes when it hands out a region and nothing wraps. -/
theorem Wf.getWritableRegion_eq {q : SensorEventQueue α} (h : q.Wf)
    (hfull : q.mSize ≠ q.mCapacity) {requestedLength : Int} (hreq : 1 ≤ requestedLength)
    (hrange : q.InRange requestedLength) :
    q.getWritableRegion requestedLength
      = (min requestedLength (min (q.mCapacity - q.mSize) (q.mCapacity - q.firstWritable)),
          some q.firstWritable) := by
  obtain ⟨hsum, hlast⟩ := hrange
  have hcases := h.firstWritable_cases
  obtain ⟨_, hint, hstart, hstart_lt, hsize, hle⟩ := h
  have hfirst : (toInt32 (q.mStart + q.mSize)).tmod q.mCapacity = q.firstWritable := by
    rw [toInt32_of_range (by omega) hsum]
    exact Int.tmod_eq_emod_of_nonneg (by omega)
  have hrequest : toInt32 (q.firstWritable + requestedLength - 1)
      = q.firstWritable + requestedLength - 1 := toInt32_of_range (by omega) hlast
  have hlen : ¬ (q.mSize = q.mCapacity ∨ requestedLength ≤ 0) := by omega
  unfold getWritableRegion
  rw [if_neg hlen]
  simp only [hfirst, hrequest, Prod.mk.injEq, and_true]
  rcases hcases with ⟨hfit, hf⟩ | ⟨hwrap, hf⟩
  all_goals
    split_ifs
    all_goals
      rw [toInt32_of_range (by omega) (by omega)]
      omega

/-- **A granted region is the writer's.** -/
theorem Wf.holds_getWritableRegion {q : SensorEventQueue α} (h : q.Wf)
    (hfull : q.mSize ≠ q.mCapacity) {requestedLength : Int} (hreq : 1 ≤ requestedLength)
    (hrange : q.InRange requestedLength) :
    q.Holds ⟨(q.getWritableRegion requestedLength).2, (q.getWritableRegion requestedLength).1, []⟩
      ∧ 1 ≤ (q.getWritableRegion requestedLength).1 := by
  have hle := h.size_le
  have hstart := h.start_nonneg
  have hstart_lt := h.start_lt
  have hsize := h.size_nonneg
  rw [h.getWritableRegion_eq hfull hreq hrange]
  rcases h.firstWritable_cases with ⟨hfit, hf⟩ | ⟨hwrap, hf⟩
  all_goals
    refine ⟨⟨rfl, ?_, ?_, ?_, fun j hj => absurd hj (by simp)⟩, ?_⟩ <;>
      simp only [List.length_nil] <;> omega

/-- **The region is disjoint from the readable records** and lies inside the array. -/
theorem Holds.disjoint {q : SensorEventQueue α} {r : Region α} (h : q.Wf) (hr : q.Holds r)
    {c : Int} (hc : q.firstWritable ≤ c) (hlt : c < q.firstWritable + r.bufferSize) :
    0 ≤ c ∧ c < q.mCapacity ∧ ∀ i, 0 ≤ i → i < q.mSize → q.readableSlot i ≠ c := by
  have hcap : 0 < q.mCapacity := by have := h.capacity_pos; omega
  have hnonneg : 0 ≤ q.firstWritable := slot_nonneg hcap
  have harray := hr.fits_array
  have hfree := hr.fits_free
  have hsize := h.size_nonneg
  refine ⟨by omega, by omega, fun i hi hilt heq => ?_⟩
  -- `c` is the slot at offset `mSize + d`, and `i < mSize + d < mCapacity`
  have hcslot : c = slot q.mCapacity q.mStart (q.mSize + (c - q.firstWritable)) := by
    rw [← slot_slot]
    change c = slot q.mCapacity q.firstWritable (c - q.firstWritable)
    rw [slot_of_lt (by omega) (by omega)]
    omega
  rw [hcslot] at heq
  have := slot_injective hi (by omega) (by omega) (by omega) heq
  omega

/-! ## When nothing wraps -/

/-- The `length` slots from `ptr` on lie in the array, and none of them is readable. -/
def Free (q : SensorEventQueue α) (ptr length : Int) : Prop :=
  ∀ c, ptr ≤ c → c < ptr + length → 0 ≤ c ∧ c < q.mCapacity ∧
    ∀ i, 0 ≤ i → i < q.mSize → (q.mStart + i) % q.mCapacity ≠ c

theorem Holds.free {q : SensorEventQueue α} {r : Region α} (h : q.Wf) (hr : q.Holds r) :
    q.Free q.firstWritable r.bufferSize :=
  fun _ hc hlt => hr.disjoint h hc hlt

/-- Slot 0 is the first readable one after the wrap. -/
theorem Wf.readable_zero {q : SensorEventQueue α} (h : q.Wf)
    (hwrap : q.mCapacity < q.mStart + q.mSize) :
    ∃ i, 0 ≤ i ∧ i < q.mSize ∧ (q.mStart + i) % q.mCapacity = 0 := by
  have hlt := h.start_lt
  refine ⟨q.mCapacity - q.mStart, by omega, by omega, ?_⟩
  rw [show q.mStart + (q.mCapacity - q.mStart) = q.mCapacity by omega, Int.emod_self]

/-- What a request gets where a sum wraps: a region behind the first writable slot that leaves the
array, or one that starts before it, outside the array or on a readable slot. -/
theorem Wf.getWritableRegion_of_wrap {q : SensorEventQueue α} (h : q.Wf)
    (hfull : q.mSize ≠ q.mCapacity) {requestedLength : Int} (hreq : 1 ≤ requestedLength)
    (hint : requestedLength < 2 ^ 31) (hrange : ¬ q.InRange requestedLength) :
    ∃ ptr length, q.getWritableRegion requestedLength = (length, some ptr) ∧ 1 ≤ length ∧
      ((ptr = q.firstWritable ∧ q.mCapacity - q.firstWritable < length) ∨
        (ptr ≤ 0 ∧ 0 < q.firstWritable ∧ q.mCapacity < q.mStart + q.mSize)) := by
  have hcases := h.firstWritable_cases
  obtain ⟨hpos, hcap, hstart, hstart_lt, hsize, hle⟩ := h
  have hlen : ¬ (q.mSize = q.mCapacity ∨ requestedLength ≤ 0) := by omega
  unfold getWritableRegion
  rw [if_neg hlen]
  by_cases hsum : q.mStart + q.mSize < 2 ^ 31
  · -- `lastWritable` wraps to a negative number, which neither clip touches
    have hlast : 2 ^ 31 ≤ q.firstWritable + requestedLength - 1 := by
      by_contra hlt
      exact hrange ⟨hsum, Int.not_le.mp hlt⟩
    have hfirst : (toInt32 (q.mStart + q.mSize)).tmod q.mCapacity = q.firstWritable := by
      rw [toInt32_of_range (by omega) hsum]
      exact Int.tmod_eq_emod_of_nonneg (by omega)
    have hbounds : 0 ≤ q.firstWritable ∧ q.firstWritable < q.mCapacity := by omega
    have hrequest : toInt32 (q.firstWritable + requestedLength - 1)
        = q.firstWritable + requestedLength - 1 - 2 ^ 32 := toInt32_of_ge hlast (by omega)
    refine ⟨q.firstWritable, requestedLength, ?_, hreq, .inl ⟨rfl, by omega⟩⟩
    simp only [hfirst, hrequest, Prod.mk.injEq, and_true]
    rw [if_neg (by omega), if_neg (by omega), toInt32_of_lt (by omega) (by omega)]
    omega
  · -- `firstWritable` is a remainder of a negative number
    have hfirst : toInt32 (q.mStart + q.mSize) = q.mStart + q.mSize - 2 ^ 32 :=
      toInt32_of_ge (by omega) (by omega)
    have hneg : (q.mStart + q.mSize - 2 ^ 32).tmod q.mCapacity ≤ 0 := by
      have := Int.tmod_nonneg q.mCapacity (show 0 ≤ 2 ^ 32 - (q.mStart + q.mSize) by omega)
      rw [show q.mStart + q.mSize - 2 ^ 32 = -(2 ^ 32 - (q.mStart + q.mSize)) by omega,
        Int.neg_tmod]
      omega
    have hlow : -q.mCapacity < (q.mStart + q.mSize - 2 ^ 32).tmod q.mCapacity := by
      have := Int.tmod_lt_of_pos (2 ^ 32 - (q.mStart + q.mSize)) (by omega : 0 < q.mCapacity)
      rw [show q.mStart + q.mSize - 2 ^ 32 = -(2 ^ 32 - (q.mStart + q.mSize)) by omega,
        Int.neg_tmod]
      omega
    simp only [hfirst]
    generalize (q.mStart + q.mSize - 2 ^ 32).tmod q.mCapacity = ptr at hneg hlow ⊢
    rw [toInt32_of_range (x := ptr + requestedLength - 1) (by omega) (by omega)]
    refine ⟨ptr, _, rfl, ?_, .inr ⟨hneg, by omega, by omega⟩⟩
    split_ifs
    all_goals
      rw [toInt32_of_range (by omega) (by omega)]
      omega

/-- **What may be written to.** The region handed out is free exactly when no sum wraps. -/
theorem Wf.free_iff {q : SensorEventQueue α} (h : q.Wf) (hfull : q.mSize ≠ q.mCapacity)
    {requestedLength : Int} (hreq : 1 ≤ requestedLength) (hint : requestedLength < 2 ^ 31) :
    (∃ ptr, (q.getWritableRegion requestedLength).2 = some ptr ∧
      q.Free ptr (q.getWritableRegion requestedLength).1) ↔ q.InRange requestedLength := by
  constructor
  · rintro ⟨ptr, hptr, hfree⟩
    by_contra hrange
    obtain ⟨ptr', length, hregion, hpos, hcases⟩ :=
      h.getWritableRegion_of_wrap hfull hreq hint hrange
    rw [hregion] at hptr hfree
    obtain rfl := Option.some.inj hptr
    rcases hcases with ⟨rfl, hlong⟩ | ⟨hptr, _, hwrap⟩
    · -- the slot behind the array
      have hfirst : q.firstWritable < q.mCapacity := slot_lt (by have := h.capacity_pos; omega)
      have := (hfree q.mCapacity (by omega) (by dsimp only; omega)).2.1
      omega
    · obtain ⟨hnonneg, _, hreadable⟩ := hfree _ (Int.le_refl _) (by dsimp only; omega)
      obtain ⟨i, hi, hlt, hslot⟩ := h.readable_zero hwrap
      exact hreadable i hi hlt (by omega)
  · intro hrange
    obtain ⟨hholds, _⟩ := h.holds_getWritableRegion hfull hreq hrange
    exact ⟨q.firstWritable, hholds.buffer_eq, hholds.free h⟩

/-- What `getWritableRegion` is to hand out: nothing of a full queue; else a region that starts at
the first slot behind the readable records and is as long as asked for, unless the free slots or
the array end before; it is never empty and no slot of it is readable. -/
def HandsOutMaximal (q : SensorEventQueue α) (requestedLength : Int) : Prop :=
  (q.mSize = q.mCapacity ∨ requestedLength ≤ 0 →
    q.getWritableRegion requestedLength = (0, none)) ∧
  (q.mSize ≠ q.mCapacity → 0 < requestedLength → ∃ f length,
    f = (q.mStart + q.mSize) % q.mCapacity ∧
    q.getWritableRegion requestedLength = (length, some f) ∧
    length = min requestedLength (min (q.mCapacity - q.mSize) (q.mCapacity - f)) ∧
    1 ≤ length ∧ q.Free f length)

/-- **`getWritableRegion` hands out the longest region there is** exactly when there is nothing to
hand out or no sum wraps. -/
theorem Wf.handsOutMaximal_iff {q : SensorEventQueue α} (h : q.Wf) {requestedLength : Int}
    (hint : requestedLength < 2 ^ 31) :
    q.HandsOutMaximal requestedLength ↔
      q.mSize = q.mCapacity ∨ requestedLength ≤ 0 ∨ q.InRange requestedLength := by
  constructor
  · rintro ⟨-, hregion⟩
    by_contra hnot
    obtain ⟨hfull, hreq, hrange⟩ := not_or.mp hnot |>.imp_right not_or.mp
    obtain ⟨f, length, hf, hgot, hlength, -⟩ := hregion hfull (by omega)
    obtain ⟨ptr, length', hgot', -, hcases⟩ :=
      h.getWritableRegion_of_wrap hfull (by omega) hint hrange
    rw [hgot'] at hgot
    obtain ⟨rfl, hptr⟩ := Prod.mk.inj hgot
    obtain rfl := Option.some.inj hptr
    change ptr = q.firstWritable at hf
    omega
  · intro hcond
    refine ⟨fun hnone => if_pos hnone, fun hfull hreq => ?_⟩
    have hrange : q.InRange requestedLength := by
      rcases hcond with hfull' | hnone | hrange
      · exact absurd hfull' hfull
      · omega
      · exact hrange
    obtain ⟨hholds, hpos⟩ := h.holds_getWritableRegion hfull hreq hrange
    rw [h.getWritableRegion_eq hfull hreq hrange] at hholds hpos
    exact ⟨q.firstWritable, _, rfl, h.getWritableRegion_eq hfull hreq hrange, rfl, hpos,
      hholds.free h⟩

/-- Two readable records in slots 3 and 0 of four leave slots 1 and 2. -/
theorem Wf.handsOutMaximal_iff_wrapped : ∃ q : SensorEventQueue Nat,
    q.getWritableRegion 5 = (2, some 1) ∧ q.HandsOutMaximal 5 := by
  have h : Wf (⟨4, 3, 2, fun _ => 0⟩ : SensorEventQueue Nat) := by constructor <;> decide
  exact ⟨_, by decide, (h.handsOutMaximal_iff (by decide)).mpr (.inr (.inr (by decide)))⟩

/-- Half of the largest array is readable, the other half in front of it: `mStart + mSize` wraps,
and the slot before the array is handed out. -/
theorem not_handsOutMaximal_largest : ∃ q : SensorEventQueue Nat, q.Wf ∧
    q.mCapacity = 2 ^ 31 - 1 ∧ q.mStart = 2 ^ 30 ∧ q.mSize = 2 ^ 30 ∧ q.firstWritable = 1 ∧
    q.getWritableRegion 1 = (1, some (-1)) ∧ ¬ q.HandsOutMaximal 1 := by
  refine ⟨⟨2 ^ 31 - 1, 2 ^ 30, 2 ^ 30, fun _ => 0⟩, by constructor <;> decide, rfl, rfl, rfl,
    by decide, by decide, ?_⟩
  rintro ⟨-, hregion⟩
  obtain ⟨f, length, hf, hgot, -⟩ := hregion (by decide) (by decide)
  have hptr : some (-1) = some f := congrArg Prod.snd hgot
  rw [Option.some.inj hptr.symm] at hf
  revert hf
  decide

/-! ## `store`: one unlocked write of the sub-HAL -/

theorem Wf.store {q : SensorEventQueue α} (h : q.Wf) (c : Int) (e : α) : (q.store c e).Wf :=
  ⟨h.capacity_pos, h.capacity_lt, h.start_nonneg, h.start_lt, h.size_nonneg, h.size_le⟩

/-- **Storing into the region changes nothing readable.** -/
theorem Holds.readable_store {q : SensorEventQueue α} {r : Region α} (h : q.Wf) (hr : q.Holds r)
    (hlt : r.written.length < r.bufferSize) (e : α) :
    (q.store (q.firstWritable + r.written.length) e).readable = q.readable := by
  obtain ⟨_, _, hdisjoint⟩ := hr.disjoint h
    (c := q.firstWritable + r.written.length) (by omega) (by omega)
  refine window_update fun i hi => hdisjoint i (by omega) ?_
  rw [store_mSize] at hi
  omega

/-- Storing the next record keeps the region, one record longer. -/
theorem Holds.store {q : SensorEventQueue α} {r : Region α} (hr : q.Holds r)
    (hlt : r.written.length < r.bufferSize) (e : α) :
    (q.store (q.firstWritable + r.written.length) e).Holds
      { r with written := r.written ++ [e] } where
  buffer_eq := hr.buffer_eq
  fits_array := hr.fits_array
  fits_free := hr.fits_free
  written_le := by simp only [List.length_append, List.length_singleton]; omega
  stored := by
    intro j hj
    change Function.update q.mData (q.firstWritable + r.written.length) e (q.firstWritable + j) = _
    rcases Nat.lt_or_ge j r.written.length with hold | hnew
    · rw [Function.update_of_ne (by omega), hr.stored j hold, List.getElem_append_left hold]
    · have hlast : j = r.written.length := by
        simp only [List.length_append, List.length_singleton] at hj
        omega
      subst hlast
      simp

/-! ## `markAsWritten` -/

/-- The new size is one the array has room for, so it does not wrap. -/
theorem Holds.markAsWritten_eq {q : SensorEventQueue α} {r : Region α} (h : q.Wf)
    (hr : q.Holds r) :
    q.markAsWritten r.written.length = { q with mSize := q.mSize + r.written.length } := by
  have hwritten := hr.written_le
  have hfree := hr.fits_free
  have hsize := h.size_nonneg
  have hcap := h.capacity_lt
  unfold markAsWritten
  rw [toInt32_of_range (by omega) (by omega)]

theorem Holds.wf_markAsWritten {q : SensorEventQueue α} {r : Region α} (h : q.Wf)
    (hr : q.Holds r) : (q.markAsWritten r.written.length).Wf := by
  have hwritten := hr.written_le
  have hfree := hr.fits_free
  have hsize := h.size_nonneg
  rw [hr.markAsWritten_eq h]
  exact ⟨h.capacity_pos, h.capacity_lt, h.start_nonneg, h.start_lt, by dsimp only; omega,
    by dsimp only; omega⟩

/-- **Marking as written appends the written records**, in the order they were stored. -/
theorem Holds.readable_markAsWritten {q : SensorEventQueue α} {r : Region α} (h : q.Wf)
    (hr : q.Holds r) :
    (q.markAsWritten r.written.length).readable = q.readable ++ r.written := by
  have hsize := h.size_nonneg
  have hcount : (q.mSize + r.written.length).toNat = q.mSize.toNat + r.written.length := by
    omega
  have hfirst : slot q.mCapacity q.mStart q.mSize.toNat = q.firstWritable := by
    rw [Int.toNat_of_nonneg hsize, firstWritable]
  rw [hr.markAsWritten_eq h]
  unfold readable
  rw [hcount, window_add, hfirst]
  congr 1
  have hwritten := hr.written_le
  have harray := hr.fits_array
  have hnonneg : 0 ≤ q.firstWritable := slot_nonneg (by have := h.capacity_pos; omega)
  exact window_eq_of_get r.written hnonneg (by dsimp only; omega) hr.stored

/-! ## `peek` and `dequeue` -/

theorem peek_of_empty {q : SensorEventQueue α} (hempty : q.mSize = 0) : q.peek = none :=
  if_pos hempty

theorem peek_of_ne {q : SensorEventQueue α} (hne : q.mSize ≠ 0) : q.peek = some q.mStart :=
  if_neg hne

theorem dequeue_of_empty {q : SensorEventQueue α} (hempty : q.mSize = 0) :
    q.dequeue = (q, false) := by
  simp [dequeue, hempty]

/-- A successful `dequeue` advances `mStart` by one slot; it signals exactly when it makes the
queue not full. -/
theorem Wf.dequeue_eq {q : SensorEventQueue α} (h : q.Wf) (hne : q.mSize ≠ 0) :
    q.dequeue = ({ q with mSize := q.mSize - 1, mStart := q.readableSlot 1 }, q.isFull) := by
  obtain ⟨_, hcap, hstart, hlt, hsize, hle⟩ := h
  unfold dequeue
  rw [if_neg hne, toInt32_of_range (by omega) (by omega), toInt32_of_range (by omega) (by omega),
    Int.tmod_eq_emod_of_nonneg (by omega)]
  rfl

@[simp] theorem dequeue_mCapacity (q : SensorEventQueue α) :
    q.dequeue.1.mCapacity = q.mCapacity := by
  unfold dequeue
  split <;> rfl

theorem Wf.dequeue {q : SensorEventQueue α} (h : q.Wf) : q.dequeue.1.Wf := by
  by_cases hempty : q.mSize = 0
  · rwa [dequeue_of_empty hempty]
  · have hcap := h.capacity_pos
    have hsize := h.size_nonneg
    have hle := h.size_le
    rw [h.dequeue_eq hempty]
    exact ⟨hcap, h.capacity_lt, slot_nonneg (by omega), slot_lt (by omega),
      by dsimp only; omega, by dsimp only; omega⟩

/-- **`peek` then `dequeue` takes the oldest record out.** -/
theorem Wf.readable_dequeue {q : SensorEventQueue α} (h : q.Wf) (hne : q.mSize ≠ 0) :
    q.readable = q.mData q.mStart :: q.dequeue.1.readable := by
  have hsize := h.size_nonneg
  obtain ⟨n, hn⟩ : ∃ n : Nat, q.mSize.toNat = n + 1 := ⟨q.mSize.toNat - 1, by omega⟩
  have hn' : (q.mSize - 1).toNat = n := by omega
  rw [h.dequeue_eq hne]
  unfold readable
  rw [hn, window_succ, slot_zero h.start_nonneg h.start_lt]
  simp only [hn', readableSlot]

/-- `dequeue` moves the window, not the region behind it. -/
theorem Holds.dequeue {q : SensorEventQueue α} {r : Region α} (h : q.Wf) (hr : q.Holds r) :
    q.dequeue.1.Holds r := by
  by_cases hempty : q.mSize = 0
  · rwa [dequeue_of_empty hempty]
  · have hfirst : q.dequeue.1.firstWritable = q.firstWritable := by
      rw [h.dequeue_eq hempty]
      simp only [firstWritable, readableSlot, slot_slot]
      congr 1
      omega
    have hsize : q.dequeue.1.mSize = q.mSize - 1 := by rw [h.dequeue_eq hempty]
    have hdata : q.dequeue.1.mData = q.mData := by rw [h.dequeue_eq hempty]
    have hfree := hr.fits_free
    refine ⟨?_, ?_, ?_, hr.written_le, ?_⟩
    · rw [hfirst, hr.buffer_eq]
    · rw [hfirst, dequeue_mCapacity]; exact hr.fits_array
    · rw [hsize, dequeue_mCapacity]; omega
    · rw [hfirst, hdata]; exact hr.stored

end SensorEventQueue

end Mozart.Sensors

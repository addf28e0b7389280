import Mozart.Lib.Fifo
import Mozart.Sensors.EventQueue

/-!
# One writer, one reader, one `SensorEventQueue`

The use the class comment allows: one writer that fills the region it was handed *without the
lock*, and a reader that peeks and dequeues under it. The mutex is the reader's `unlocked` state:
the two locked sections of the writer are single steps that need it, its stores are not.

* **`State.Inv`**: the queue is well formed, the region in flight is still the writer's, and what
  the reader has peeked or copied is still the oldest record.
* **`step_spec`**: every step keeps the invariant and is, on the abstraction
  `committed / readable / read`, a step of the FIFO channel or invisible. This is the one case
  analysis of the module.
* **`sensorEventQueue_refines_fifo`**: the statement about every interleaving in which no request
  makes a sum in `getWritableRegion` wrap.
* **`written_past_the_array`**: an interleaving in which one does.
-/

namespace Mozart.Sensors.ZeroCopy

open Transition CircularBuffer SensorEventQueue

/-- The writer: before its first locked section, or filling the region that section got. -/
inductive WriterPc (α : Type*) where
  | waitForSpace
  | filling (region : Region α)

/-- The reader. It holds the mutex in every state but `unlocked`. -/
inductive ReaderPc (α : Type*) where
  | unlocked
  | locked
  | peeked (event : Option Int)
  | copied (event : Option α)

structure State (α : Type*) where
  queue : SensorEventQueue α
  writer : WriterPc α
  reader : ReaderPc α
  /-- the events of all `markAsWritten` calls so far -/
  committed : List α
  /-- the events dequeued so far -/
  read : List α

inductive Step (α : Type*) where
  | getWritableRegion (requestedLength : Int)
  | write (e : α)
  | markAsWritten
  | lock
  | peek
  | copy
  | dequeue
  | unlock

variable {α : Type*}

/-- One step. The writer's two locked sections need the mutex free, its stores do not; waiting
for space is being unable to take the `getWritableRegion` step. A request is a positive `int`. -/
def step (s : State α) : Step α → Option (State α)
  | .getWritableRegion requestedLength =>
    match s.writer, s.reader with
    | .waitForSpace, .unlocked =>
      if s.queue.isFull ∨ requestedLength < 1 ∨ 2 ^ 31 ≤ requestedLength then
        none
      else
        let (bufferSize, buffer) := s.queue.getWritableRegion requestedLength
        some { s with writer := .filling ⟨buffer, bufferSize, []⟩ }
    | _, _ => none
  | .write e =>
    match s.writer with
    | .filling ⟨some buffer, bufferSize, written⟩ =>
      if written.length < bufferSize then
        some { s with
          queue := s.queue.store (buffer + written.length) e
          writer := .filling ⟨some buffer, bufferSize, written ++ [e]⟩ }
      else
        none
    | _ => none
  | .markAsWritten =>
    match s.writer, s.reader with
    | .filling region, .unlocked =>
      some { s with
        queue := s.queue.markAsWritten region.written.length
        writer := .waitForSpace
        committed := s.committed ++ region.written }
    | _, _ => none
  | .lock =>
    match s.reader with
    | .unlocked => some { s with reader := .locked }
    | _ => none
  | .peek =>
    match s.reader with
    | .locked => some { s with reader := .peeked s.queue.peek }
    | _ => none
  | .copy =>
    match s.reader with
    | .peeked event => some { s with reader := .copied (event.map s.queue.mData) }
    | _ => none
  | .dequeue =>
    match s.reader with
    | .copied event =>
      some { s with
        queue := s.queue.dequeue.1
        reader := .locked
        read := s.read ++ event.toList }
    | _ => none
  | .unlock =>
    match s.reader with
    | .locked => some { s with reader := .unlocked }
    | _ => none

/-- A fresh queue over any memory, its writer and its reader. -/
def system (capacity : Int) (mem : Int → α) : System (State α) (Step α) where
  init s := s = ⟨SensorEventQueue.new capacity mem, .waitForSpace, .unlocked, [], []⟩
  step := step

/-- No request makes a sum wrap. -/
def RequestInRange (s : State α) : Step α → Prop
  | .getWritableRegion requestedLength => s.queue.InRange requestedLength
  | _ => True

instance (s : State α) : (a : Step α) → Decidable (RequestInRange s a)
  | .getWritableRegion requestedLength =>
    inferInstanceAs (Decidable (s.queue.InRange requestedLength))
  | .write _ | .markAsWritten | .lock | .peek | .copy | .dequeue | .unlock =>
    inferInstanceAs (Decidable True)

/-! ## The invariant -/

/-- The record `peek` points at, copied out. -/
def front (q : SensorEventQueue α) : Option α := q.peek.map q.mData

/-- The oldest record is not touched by a store behind the readable records. -/
theorem front_store {q : SensorEventQueue α} {r : Region α} (h : q.Wf) (hr : q.Holds r)
    (hlt : r.written.length < r.bufferSize) (e : α) :
    front (q.store (q.firstWritable + r.written.length) e) = front q := by
  by_cases hempty : q.mSize = 0
  · rw [front, front, peek_of_empty hempty, peek_of_empty (by exact hempty)]
    rfl
  · have hsize := h.size_nonneg
    obtain ⟨_, _, hdisjoint⟩ := hr.disjoint h
      (c := q.firstWritable + r.written.length) (by omega) (by omega)
    have hstart : q.mStart ≠ q.firstWritable + r.written.length := by
      have := hdisjoint 0 (le_refl 0) (by omega)
      rwa [readableSlot, slot_zero h.start_nonneg h.start_lt] at this
    rw [front, front, peek_of_ne hempty, peek_of_ne (by exact hempty)]
    simp only [Option.map_some, store_mStart, store_mData_of_ne hstart]

/-- What the interleaving keeps. The last two fields say that nothing moves under the reader
between its `peek` and its `dequeue`. -/
structure State.Inv (s : State α) : Prop where
  wf : s.queue.Wf
  holds : ∀ region, s.writer = .filling region → s.queue.Holds region
  peeked : ∀ event, s.reader = .peeked event → event = s.queue.peek
  copied : ∀ event, s.reader = .copied event → event = front s.queue

/-- The FIFO channel a state stands for. -/
def abs (s : State α) : Fifo.State α := ⟨s.committed, s.queue.readable, s.read⟩

/-- Dequeuing moves the front record out of the list `readable`. -/
theorem readable_eq_front {q : SensorEventQueue α} (h : q.Wf) :
    q.readable = (front q).toList ++ q.dequeue.1.readable := by
  by_cases hempty : q.mSize = 0
  · rw [dequeue_of_empty hempty, front, peek_of_empty hempty]
    rfl
  · rw [h.readable_dequeue hempty, front, peek_of_ne hempty]
    rfl

/-- A move of the reader alone, to a state in which it still knows the oldest record. -/
theorem State.Inv.setReader {s : State α} (h : s.Inv) {reader : ReaderPc α}
    (hpeeked : ∀ event, reader = .peeked event → event = s.queue.peek)
    (hcopied : ∀ event, reader = .copied event → event = front s.queue) :
    State.Inv { s with reader } :=
  ⟨h.wf, h.holds, hpeeked, hcopied⟩

/-- A store of the writer, which the reader does not notice. -/
theorem State.Inv.store {s : State α} (h : s.Inv) {buffer bufferSize : Int} {written : List α}
    (hwriter : s.writer = .filling ⟨some buffer, bufferSize, written⟩)
    (hlt : written.length < bufferSize) (e : α) :
    State.Inv { s with
      queue := s.queue.store (buffer + written.length) e
      writer := .filling ⟨some buffer, bufferSize, written ++ [e]⟩ } ∧
    (s.queue.store (buffer + written.length) e).readable = s.queue.readable := by
  have hr := h.holds _ hwriter
  obtain rfl : buffer = s.queue.firstWritable := Option.some.inj hr.buffer_eq
  refine ⟨⟨h.wf.store _ _, ?_, ?_, ?_⟩, hr.readable_store h.wf hlt e⟩
  · rintro region ⟨⟩
    exact hr.store hlt e
  · intro event hevent
    exact h.peeked event hevent
  · intro event hevent
    rw [h.copied event hevent, front_store h.wf hr hlt]

/-- A `dequeue` by the reader takes out the record it copied. -/
theorem State.Inv.dequeue {s : State α} (h : s.Inv) {event : Option α}
    (hreader : s.reader = .copied event) :
    State.Inv { s with
      queue := s.queue.dequeue.1
      reader := .locked
      read := s.read ++ event.toList } ∧
    s.queue.readable = event.toList ++ s.queue.dequeue.1.readable := by
  refine ⟨⟨h.wf.dequeue, fun region hregion => (h.holds region hregion).dequeue h.wf, by simp,
    by simp⟩, ?_⟩
  rw [h.copied event hreader]
  exact readable_eq_front h.wf

/-- **One step.** Every step keeps the invariant, and the FIFO channel it stands for either takes
a step of its own (a commit is a `send`, a dequeue of a record a `receive`) or stays put. -/
theorem step_spec {s s' : State α} {a : Step α} (hinv : s.Inv) (hrange : RequestInRange s a)
    (hstep : step s a = some s') :
    s'.Inv ∧ s'.queue.mCapacity = s.queue.mCapacity ∧
      (abs s' = abs s ∨ ∃ b, (Fifo.channel α).step (abs s) b = some (abs s')) := by
  cases a with
  | getWritableRegion requestedLength =>
    simp only [step] at hstep
    split at hstep
    · split at hstep
      · cases hstep
      · rename_i hreader hguard
        cases hstep
        have hfull : s.queue.mSize ≠ s.queue.mCapacity := by
          intro heq
          exact hguard (Or.inl (by simp [isFull, heq]))
        refine ⟨⟨hinv.wf, ?_, hinv.peeked, hinv.copied⟩, rfl, Or.inl rfl⟩
        rintro region ⟨⟩
        exact (hinv.wf.holds_getWritableRegion hfull (by omega) hrange).1
    · cases hstep
  | write e =>
    simp only [step] at hstep
    split at hstep
    · rename_i buffer bufferSize written hwriter
      split at hstep
      · rename_i hlt
        cases hstep
        obtain ⟨hinv', hreadable⟩ := hinv.store hwriter hlt e
        exact ⟨hinv', rfl, Or.inl (by simp only [abs, hreadable])⟩
      · cases hstep
    · cases hstep
  | markAsWritten =>
    simp only [step] at hstep
    split at hstep
    · rename_i region hwriter hreader
      cases hstep
      have hr := hinv.holds _ hwriter
      refine ⟨⟨hr.wf_markAsWritten hinv.wf, by simp, by simp [hreader], by simp [hreader]⟩, rfl,
        Or.inr ⟨.send region.written, ?_⟩⟩
      simp [Fifo.channel, abs, hr.readable_markAsWritten hinv.wf]
    · cases hstep
  | lock | peek | unlock =>
    simp only [step] at hstep
    split at hstep
    · cases hstep
      exact ⟨hinv.setReader (by simp) (by simp), rfl, Or.inl rfl⟩
    · cases hstep
  | copy =>
    simp only [step] at hstep
    split at hstep
    · rename_i event hreader
      cases hstep
      rw [hinv.peeked _ hreader]
      exact ⟨hinv.setReader (by simp) (by simp [front]), rfl, Or.inl rfl⟩
    · cases hstep
  | dequeue =>
    simp only [step] at hstep
    split at hstep
    · rename_i event hreader
      cases hstep
      obtain ⟨hinv', hreadable⟩ := hinv.dequeue hreader
      refine ⟨hinv', dequeue_mCapacity s.queue, ?_⟩
      -- an empty queue gives `NULL`, and `dequeue` on it does nothing
      cases event with
      | none => exact Or.inl (by simp [abs, hreadable])
      | some e => exact Or.inr ⟨.receive, by simp [Fifo.channel, abs, hreadable]⟩
    · cases hstep

/-- The interleavings in which no request makes a sum wrap. -/
def rangedSystem (capacity : Int) (mem : Int → α) : System (State α) (Step α) :=
  (system capacity mem).restrict RequestInRange

theorem step_of_ranged {capacity : Int} {mem : Int → α} {s s' : State α} {a : Step α}
    (hstep : (rangedSystem capacity mem).step s a = some s') :
    RequestInRange s a ∧ step s a = some s' := by
  change (if RequestInRange s a then step s a else none) = some s' at hstep
  split_ifs at hstep with hrange
  exact ⟨hrange, hstep⟩

theorem reachable_inv {capacity : Int} (hcap : 1 ≤ capacity) (hint : capacity < 2 ^ 31)
    {mem : Int → α} {s : State α} (hs : Reachable (rangedSystem capacity mem) s) :
    s.Inv ∧ s.queue.mCapacity = capacity := by
  refine hs.invariant (I := fun s => s.Inv ∧ s.queue.mCapacity = capacity) ?_ ?_
  · rintro s rfl
    exact ⟨⟨wf_new hcap hint mem, by simp, by simp, by simp⟩, rfl⟩
  · intro s a s' ⟨hinv, hcapacity⟩ hstep
    obtain ⟨hrange, hstep⟩ := step_of_ranged hstep
    obtain ⟨hinv', hsame, _⟩ := step_spec hinv hrange hstep
    exact ⟨hinv', hsame.trans hcapacity⟩

/-- The queue, its writer and its reader simulate the FIFO channel. -/
def simulation {capacity : Int} (hcap : 1 ≤ capacity) (hint : capacity < 2 ^ 31)
    (mem : Int → α) : Simulation (rangedSystem capacity mem) (Fifo.channel α) where
  abs := abs
  init := by
    rintro s rfl
    simp [Fifo.channel, abs, readable_new]
  step := by
    intro s a s' hs hstep
    obtain ⟨hrange, hstep⟩ := step_of_ranged hstep
    exact (step_spec (reachable_inv hcap hint hs).1 hrange hstep).2.2

/-! ## The refinement -/

/-- **`SensorEventQueue` is a FIFO list under zero-copy writing**, in every state of every
interleaving whose requests make no sum wrap: the indices are in bounds; whatever region the
writer is filling lies in the array and meets no readable slot, so none of its unlocked stores
does; and the events read so far followed by the readable slots are the events committed, in
order. The next request gets a region that may be written to exactly when it makes no sum wrap
either. -/
theorem sensorEventQueue_refines_fifo {capacity : Int} (hcap : 1 ≤ capacity)
    (hint : capacity < 2 ^ 31) (mem : Int → α) {as : List (Step α)} {s : State α}
    (hrun : Run (system capacity mem) RequestInRange as s) :
    (0 ≤ s.queue.mStart ∧ s.queue.mStart < capacity) ∧
    (0 ≤ s.queue.mSize ∧ s.queue.mSize ≤ capacity) ∧
    (∀ region, s.writer = .filling region → ∃ ptr, region.buffer = some ptr ∧
      region.written.length ≤ region.bufferSize ∧
      ∀ c, ptr ≤ c → c < ptr + region.bufferSize → 0 ≤ c ∧ c < capacity ∧
        ∀ i, 0 ≤ i → i < s.queue.mSize → (s.queue.mStart + i) % capacity ≠ c) ∧
    s.read ++ (List.range s.queue.mSize.toNat).map
        (fun i : Nat => s.queue.mData ((s.queue.mStart + i) % capacity)) = s.committed ∧
    ∀ requestedLength region s', s'.writer = .filling region →
      (system capacity mem).step s (.getWritableRegion requestedLength) = some s' →
      ((∃ ptr, region.buffer = some ptr ∧ s'.queue.Free ptr region.bufferSize) ↔
        RequestInRange s (.getWritableRegion requestedLength)) := by
  have hs : Reachable (rangedSystem capacity mem) s := ⟨as, hrun.restrict⟩
  obtain ⟨⟨hwf, hholds, _, _⟩, rfl⟩ := reachable_inv hcap hint hs
  refine ⟨⟨hwf.start_nonneg, hwf.start_lt⟩, ⟨hwf.size_nonneg, hwf.size_le⟩, ?_, ?_, ?_⟩
  · intro region hregion
    have hr := hholds region hregion
    exact ⟨_, hr.buffer_eq, hr.written_le, hr.free hwf⟩
  · exact Fifo.received_append_pending ((simulation hcap hint mem).reachable hs)
  · intro requestedLength region s' hregion hstep
    simp only [system, step] at hstep
    split at hstep
    · split_ifs at hstep with hguard
      cases hstep
      cases hregion
      simp only [not_or, not_lt, not_le, isFull, beq_iff_eq] at hguard
      exact hwf.free_iff hguard.1 hguard.2.1 hguard.2.2
    · cases hstep

/-- A queue of capacity 2 that is filled and read once; the third event goes into slot 0 while the
reader is taking out the second. -/
theorem sensorEventQueue_refines_fifo_wrapped :
    ∃ s : State Nat, s.read = [7, 8] ∧ s.committed = [7, 8, 9] ∧ s.queue.mSize = 1 ∧
      s.read ++ (List.range s.queue.mSize.toNat).map
        (fun i : Nat => s.queue.mData ((s.queue.mStart + i) % 2)) = s.committed := by
  have hrun : exec (rangedSystem 2 fun _ => 0)
      ⟨SensorEventQueue.new 2 fun _ => 0, .waitForSpace, .unlocked, [], []⟩
      [.getWritableRegion 36, .write 7, .write 8, .markAsWritten, .lock, .peek, .copy, .dequeue,
        .unlock, .getWritableRegion 36, .lock, .peek, .write 9, .copy, .dequeue, .unlock,
        .markAsWritten]
      = some _ := rfl
  exact ⟨_, rfl, rfl, rfl, (sensorEventQueue_refines_fifo (by decide) (by decide) (fun _ => 0)
    (Run.of_exec_restrict rfl hrun)).2.2.2.1⟩

/-- Three events go through a queue of capacity 4; the next request is for as many records as an
`int` can say, and gets them from slot 3 on. Five are written, and the queue of four holds five. -/
theorem written_past_the_array :
    ∃ s : State Nat, Reachable (system 4 fun _ => 0) s ∧ s.queue.mSize = 5 ∧
      ¬ s.queue.mSize ≤ 4 := by
  have hrun : exec (system 4 fun _ => 0)
      ⟨SensorEventQueue.new 4 fun _ => 0, .waitForSpace, .unlocked, [], []⟩
      [.getWritableRegion 3, .write 1, .write 2, .write 3, .markAsWritten, .lock,
        .peek, .copy, .dequeue, .peek, .copy, .dequeue, .peek, .copy, .dequeue, .unlock,
        .getWritableRegion (2 ^ 31 - 1), .write 4, .write 5, .write 6, .write 7, .write 8,
        .markAsWritten] = some _ := rfl
  exact ⟨_, Reachable.of_exec rfl hrun, rfl, by decide⟩

end Mozart.Sensors.ZeroCopy

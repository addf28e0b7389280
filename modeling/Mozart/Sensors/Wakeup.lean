import Mozart.Lib.Mutex
import Mozart.Sensors.MultiHal

/-!
# No lost wake-up

The signals of `multihal.cpp` are conditional: a writer broadcasts only if `waiting_for_data` is
set, and `dequeue` only on the step from full to not full. The invariant of the whole system that
makes this enough:

* `Channel.Inv`: a region that is out is still the writer's, and a writer that was not signalled
  since it blocked has a full queue.
* `PollInv`: the queues behind `nextReadIndex` that the scan has counted in `empties` are empty,
  so a `poll` that was not signalled since it blocked has only empty queues.
* **`no_lost_wakeup`**: what follows for blocked threads.
-/

namespace Mozart.Sensors.MultiHal

open SensorEventQueue

/-! ## One channel -/

/-- The region the writer has been handed and not given back. -/
def WriterPc.region : WriterPc → Option (Region SensorsEvent)
  | .polling region | .polled region | .committing region => some region
  | .top | .waitForSpace | .blocked _ => none

structure Channel.Inv (c : Channel) : Prop where
  wf : c.queue.Wf
  capacity : c.queue.mCapacity = SENSOR_EVENT_QUEUE_CAPACITY
  holds : ∀ region, c.writer.region = some region → c.queue.Holds region
  full : c.writer = .blocked false → c.queue.mSize = c.queue.mCapacity

variable {i : Nat} {c c' : Channel} {m m' : Option Thread} {commits : Bool}

/-- The request of `writerTask` makes no sum wrap. -/
theorem Channel.Inv.inRange (hinv : c.Inv) : c.queue.InRange SENSOR_EVENT_QUEUE_CAPACITY :=
  hinv.wf.inRange (by rw [hinv.capacity]; decide) (by decide)

theorem WriterMove.inv (hinv : c.Inv) (h : WriterMove i c m c' m' commits) : c'.Inv := by
  have hrange := hinv.inRange
  obtain ⟨hwf, hcap, hholds, hfull⟩ := hinv
  cases h with
  | lock hpc => exact ⟨hwf, hcap, by simp [WriterPc.region], by simp⟩
  | block hpc hisFull =>
    exact ⟨hwf, hcap, by simp [WriterPc.region], fun _ => by simpa [isFull] using hisFull⟩
  | grant hpc hspace =>
    have hne : c.queue.mSize ≠ c.queue.mCapacity := by simpa [isFull] using hspace
    refine ⟨hwf, hcap, ?_, by simp⟩
    rintro region ⟨⟩
    exact (hwf.holds_getWritableRegion hne (by decide) hrange).1
  | wake hpc => exact ⟨hwf, hcap, by simp [WriterPc.region], by simp⟩
  | write e hpc hroom =>
    -- the store goes to the end of what is written of the region
    have hr := hholds _ (by rw [hpc]; rfl)
    obtain rfl := Option.some.inj hr.buffer_eq
    refine ⟨hwf.store _ _, hcap, ?_, by simp⟩
    rintro region ⟨⟩
    exact hr.store hroom e
  | giveUp hpc => exact ⟨hwf, hcap, by simp [WriterPc.region], by simp⟩
  | polled hpc =>
    refine ⟨hwf, hcap, ?_, by simp⟩
    rintro region ⟨⟩
    exact hholds _ (by rw [hpc]; rfl)
  | relock hpc =>
    refine ⟨hwf, hcap, ?_, by simp⟩
    rintro region ⟨⟩
    exact hholds _ (by rw [hpc]; rfl)
  | commit hpc =>
    have hr := hholds _ (by rw [hpc]; rfl)
    exact ⟨hr.wf_markAsWritten hwf, hcap, by simp [WriterPc.region], by simp⟩

/-- **Until the commit nothing readable changes**, whatever the sub-HAL stores. -/
theorem WriterMove.readable_eq (hinv : c.Inv) (h : WriterMove i c m c' m' false) :
    c'.queue.mSize = c.queue.mSize ∧ c'.queue.mStart = c.queue.mStart ∧
      c'.queue.readable = c.queue.readable ∧ c'.committed = c.committed := by
  cases h with
  | write e hpc hroom =>
    have hr := hinv.holds _ (by rw [hpc]; rfl)
    obtain rfl := Option.some.inj hr.buffer_eq
    exact ⟨rfl, rfl, hr.readable_store hinv.wf hroom e, rfl⟩
  | _ => exact ⟨rfl, rfl, rfl, rfl⟩

/-- The record at the front stays there with it. -/
theorem mData_mStart_eq_of_readable_eq {q q' : SensorEventQueue SensorsEvent} (h : q.Wf)
    (h' : q'.Wf) (hsize : q'.mSize = q.mSize) (hne : q.mSize ≠ 0)
    (hreadable : q'.readable = q.readable) : q'.mData q'.mStart = q.mData q.mStart := by
  rw [h.readable_dequeue hne, h'.readable_dequeue (by rwa [hsize])] at hreadable
  exact (List.cons.inj hreadable).1

theorem WriterPc.region_signal (pc : WriterPc) : pc.signal.region = pc.region := by
  cases pc <;> rfl

theorem WriterPc.holdsMutex_signal (pc : WriterPc) : pc.signal.holdsMutex = pc.holdsMutex := by
  cases pc <;> rfl

/-- Taking a record out and signalling the writer if the queue was full. -/
theorem Channel.Inv.dequeue (hinv : c.Inv) :
    Channel.Inv { c with
      queue := c.queue.dequeue.1
      writer := if c.queue.dequeue.2 then c.writer.signal else c.writer } := by
  obtain ⟨hwf, hcap, hholds, hfull⟩ := hinv
  refine ⟨hwf.dequeue, by rw [dequeue_mCapacity, hcap], ?_, ?_⟩
  · intro region hregion
    refine (hholds region ?_).dequeue hwf
    split at hregion
    · rwa [WriterPc.region_signal] at hregion
    · exact hregion
  · intro hblocked
    exfalso
    split at hblocked
    · -- a signalled writer remembers it
      cases hpc : c.writer <;> simp [hpc, WriterPc.signal] at hblocked
    · -- the queue was full, so `dequeue` has signalled
      rename_i hsilent
      have hsize := hfull hblocked
      have hne : c.queue.mSize ≠ 0 := by
        have := hwf.capacity_pos
        omega
      rw [hwf.dequeue_eq hne] at hsilent
      exact hsilent (by simp [isFull, hsize])

/-! ## The mutex -/

def State.holds (s : State) : Thread → Bool
  | .poll => s.poll.holdsMutex
  | .writer i => (s.channels i).writer.holdsMutex

theorem PollPc.holdsMutex_signal (pc : PollPc) : pc.signal.holdsMutex = pc.holdsMutex := by
  cases pc <;> rfl

variable {n : Nat} {t : HandleTable} {s s' : State}

theorem holds_afterWriter (s : State) (i : Nat) (c : Channel) (m : Option Thread)
    (commits : Bool) : (s.afterWriter i c m commits).holds
      = Function.update s.holds (.writer i) c.writer.holdsMutex := by
  funext a
  cases a with
  | poll =>
    rw [Function.update_of_ne (by simp)]
    show (if commits && s.waitingForData then s.poll.signal else s.poll).holdsMutex = _
    split
    · exact PollPc.holdsMutex_signal s.poll
    · rfl
  | writer j =>
    show (Function.update s.channels i c j).writer.holdsMutex = _
    by_cases hj : j = i
    · subst hj
      simp
    · rw [Function.update_of_ne hj, Function.update_of_ne (by simpa using hj)]
      rfl

theorem WriterMove.owned (h : WriterMove i (s.channels i) s.queueMutex c m commits)
    (howned : Mutex.Owned s.queueMutex s.holds) :
    Mutex.Owned m (Function.update s.holds (.writer i) c.writer.holdsMutex) := by
  have hsame : ∀ {b}, (s.channels i).writer.holdsMutex = b →
      Function.update s.holds (.writer i) b = s.holds := by
    rintro b rfl
    exact Function.update_eq_self (.writer i) s.holds
  cases h with
  | lock hpc hfree | wake hpc hfree | relock hpc hfree =>
    rw [hfree] at howned
    exact howned.acquire _
  | block hpc | grant hpc | commit hpc =>
    refine howned.release ?_
    show (s.channels i).writer.holdsMutex = true
    rw [hpc]
    rfl
  | write e hpc | giveUp hpc | polled hpc =>
    rw [hsame (by rw [hpc]; rfl)]
    exact howned

theorem PollMove.owned (h : PollMove n t s s') (howned : Mutex.Owned s.queueMutex s.holds) :
    Mutex.Owned s'.queueMutex s'.holds := by
  have hholds : s'.holds = Function.update s.holds .poll s'.poll.holdsMutex := by
    funext a
    cases a with
    | poll => simp [State.holds]
    | writer j =>
      rw [Function.update_of_ne (by simp)]
      cases h with
      -- `dequeue` may signal a blocked writer, which does not give it the mutex
      | dequeue hpc =>
        show (Function.update s.channels s.nextReadIndex _ j).writer.holdsMutex = _
        by_cases hj : j = s.nextReadIndex
        · subst hj
          rw [Function.update_self]
          dsimp only
          split
          · exact WriterPc.holdsMutex_signal _
          · rfl
        · rw [Function.update_of_ne hj]
          rfl
      | _ => rfl
  rw [hholds]
  have hsame : ∀ {b}, s.poll.holdsMutex = b → Function.update s.holds .poll b = s.holds := by
    rintro b rfl
    exact Function.update_eq_self .poll s.holds
  cases h with
  | lock hpc hfree | wake hpc hfree =>
    rw [hfree] at howned
    exact howned.acquire _
  | block hpc | ret hpc =>
    refine howned.release ?_
    show s.poll.holdsMutex = true
    rw [hpc]
    rfl
  | call hpc | skip hpc | found hpc | crash hpc | copy hpc | dequeue hpc =>
    rw [hsame (by rw [hpc]; rfl)]
    exact howned

/-! ## The scan -/

/-- The last `empties` queues before `next`, in scan order, are empty. -/
def EmptyBehind (n : Nat) (channels : Nat → Channel) (next empties : Nat) : Prop :=
  ∀ i < n, ∀ d, 1 ≤ d → d ≤ empties → (i + d) % n = next → (channels i).queue.mSize = 0

/-- At the start of a scan, and after a queue that was not empty. -/
theorem EmptyBehind.of_zero {channels : Nat → Channel} {next empties : Nat} (hzero : empties = 0) :
    EmptyBehind n channels next empties := by
  intro i hi d hd hle
  omega

/-- Another empty queue was seen. -/
theorem EmptyBehind.skip {channels : Nat → Channel} {next empties : Nat}
    (h : EmptyBehind n channels next empties) (hnext : next < n)
    (hempty : (channels next).queue.mSize = 0) :
    EmptyBehind n channels ((next + 1) % n) (empties + 1) := by
  intro i hi d hd hle heq
  have hshift : (i + (d - 1)) % n = next := by
    have : (i + (d - 1) + 1) % n = (next + 1) % n := by
      rw [← heq]
      congr 1
      omega
    have hmod := Nat.ModEq.add_right_cancel' 1 this
    rwa [Nat.ModEq, Nat.mod_eq_of_lt hnext] at hmod
  by_cases hone : d = 1
  · -- `i` is the queue just seen
    rw [hone, Nat.sub_self, Nat.add_zero, Nat.mod_eq_of_lt hi] at hshift
    rwa [hshift]
  · exact h i hi (d - 1) (by omega) (by omega) hshift

/-- Once `empties` reaches the number of queues, every queue has been seen. -/
theorem EmptyBehind.all {channels : Nat → Channel} {next empties : Nat}
    (h : EmptyBehind n channels next empties) (hnext : next < n) (hn : n ≤ empties) :
    ∀ i < n, (channels i).queue.mSize = 0 := by
  intro i hi
  by_cases hlt : i < next
  · refine h i hi (next - i) (by omega) (by omega) ?_
    rw [show i + (next - i) = next by omega, Nat.mod_eq_of_lt hnext]
  · refine h i hi (next + n - i) (by omega) (by omega) ?_
    rw [show i + (next + n - i) = next + n by omega, Nat.add_mod_right, Nat.mod_eq_of_lt hnext]

structure PollFrame.Inv (f : PollFrame) : Prop where
  maxReads_pos : 1 ≤ f.maxReads
  read_le : f.eventsRead ≤ f.maxReads
  read : ∀ k < f.eventsRead, (f.data k).isSome
  untouched : ∀ k, f.maxReads ≤ k → f.data k = none

/-- What holds of the client's thread, given the queues. -/
def PollInv (n : Nat) (t : HandleTable) (channels : Nat → Channel) (next : Nat) : PollPc → Prop
  | .idle => True
  | .entering maxReads => 1 ≤ maxReads
  | .scanning f => f.Inv ∧ EmptyBehind n channels next f.empties
  | .peeked f event =>
    f.Inv ∧ f.eventsRead < f.maxReads ∧ f.empties = 0 ∧
      (channels next).queue.peek = some event
  | .copied f event =>
    f.Inv ∧ f.eventsRead < f.maxReads ∧ f.empties = 0 ∧ (channels next).queue.mSize ≠ 0 ∧
      (channels next).queue.mData (channels next).queue.mStart = event ∧
      f.data f.eventsRead = some (copyEventRemapHandle t event next)
  | .blocked f signalled =>
    f.Inv ∧ f.eventsRead = 0 ∧
      (signalled = false → ∀ i < n, (channels i).queue.mSize = 0)
  | .crashed => False

/-- The client only looks at sizes and at the records in front. -/
theorem PollInv.congr {channels channels' : Nat → Channel} {next : Nat} {pc : PollPc}
    (h : PollInv n t channels next pc)
    (hsize : ∀ i, (channels' i).queue.mSize = (channels i).queue.mSize)
    (hstart : ∀ i, (channels' i).queue.mStart = (channels i).queue.mStart)
    (hfront : ∀ i, (channels i).queue.mSize ≠ 0 → (channels' i).queue.mData
      (channels' i).queue.mStart = (channels i).queue.mData (channels i).queue.mStart) :
    PollInv n t channels' next pc := by
  cases pc with
  | idle => trivial
  | entering maxReads => exact h
  | scanning f =>
    obtain ⟨hf, hempty⟩ := h
    exact ⟨hf, fun i hi d hd hle heq => by rw [hsize]; exact hempty i hi d hd hle heq⟩
  | peeked f event =>
    obtain ⟨hf, hlt, hzero, hpeek⟩ := h
    refine ⟨hf, hlt, hzero, ?_⟩
    rw [← hpeek]
    simp only [peek, hsize, hstart]
  | copied f event =>
    obtain ⟨hf, hlt, hzero, hne, hevent, hdata⟩ := h
    refine ⟨hf, hlt, hzero, by rwa [hsize], ?_, hdata⟩
    rw [hfront next hne, hevent]
  | blocked f signalled =>
    obtain ⟨hf, hnone, hempty⟩ := h
    exact ⟨hf, hnone, fun hs i hi => by rw [hsize]; exact hempty hs i hi⟩
  | crashed => exact h

/-! ## The whole system -/

/-- **The invariant of every interleaving.** -/
structure Inv (n : Nat) (t : HandleTable) (s : State) : Prop where
  channels : ∀ i, (s.channels i).Inv
  owned : Mutex.Owned s.queueMutex s.holds
  next : 0 < n → s.nextReadIndex < n
  waiting : ∀ f signalled, s.poll = .blocked f signalled → s.waitingForData = true
  poll : PollInv n t s.channels s.nextReadIndex s.poll

theorem inv_initial (n : Nat) (t : HandleTable) (mem : Nat → Int → SensorsEvent) :
    Inv n t (initial mem) where
  channels i := ⟨wf_new (by decide) (by decide) (mem i), rfl, by simp [initial, WriterPc.region], by
    simp [initial]⟩
  owned := by
    intro a
    cases a <;> simp [initial, State.holds, PollPc.holdsMutex, WriterPc.holdsMutex]
  next hn := hn
  waiting := by simp [initial]
  poll := trivial

/-- A commit happens outside the client's critical sections; if `poll` is blocked, it has set
`waiting_for_data` and is signalled now. -/
theorem PollInv.commit {channels : Nat → Channel} {next : Nat} {pc : PollPc} {waiting : Bool}
    (h : PollInv n t s.channels next pc) (hfree : pc.holdsMutex = false)
    (hwaiting : ∀ f signalled, pc = .blocked f signalled → waiting = true) :
    PollInv n t channels next (if waiting then pc.signal else pc) := by
  cases pc with
  | idle => cases waiting <;> trivial
  | entering maxReads => cases waiting <;> exact h
  | scanning f => cases hfree
  | peeked f event => cases hfree
  | copied f event => cases hfree
  | blocked f signalled =>
    obtain ⟨hf, hnone, _⟩ := h
    rw [hwaiting f signalled rfl]
    exact ⟨hf, hnone, fun hs => by cases hs⟩
  | crashed => exact h.elim

theorem PollPc.blocked_of_signal {pc : PollPc} {f : PollFrame} {signalled : Bool}
    (h : pc.signal = .blocked f signalled) : ∃ b, pc = .blocked f b := by
  cases pc with
  | blocked f' b =>
    cases h
    exact ⟨b, rfl⟩
  | _ => cases h

/-- A move of a writer. -/
theorem Inv.afterWriter (hinv : Inv n t s)
    (h : WriterMove i (s.channels i) s.queueMutex c m commits) :
    Inv n t (s.afterWriter i c m commits) := by
  obtain ⟨hchannels, howned, hnext, hwaiting, hpoll⟩ := hinv
  have hc := h.inv (hchannels i)
  refine ⟨?_, ?_, hnext, ?_, ?_⟩
  · intro j
    show (Function.update s.channels i c j).Inv
    by_cases hj : j = i
    · subst hj
      rwa [Function.update_self]
    · rw [Function.update_of_ne hj]
      exact hchannels j
  · rw [holds_afterWriter]
    exact h.owned howned
  -- a signal wakes the poll up and leaves the flag alone
  · intro f signalled hblocked
    show s.waitingForData = true
    change (if commits && s.waitingForData then s.poll.signal else s.poll)
      = .blocked f signalled at hblocked
    split at hblocked
    · obtain ⟨b, hb⟩ := PollPc.blocked_of_signal hblocked
      exact hwaiting f b hb
    · exact hwaiting f signalled hblocked
  · show PollInv n t (Function.update s.channels i c) s.nextReadIndex
      (if commits && s.waitingForData then s.poll.signal else s.poll)
    cases commits with
    | true =>
      -- the writer that commits has the mutex, so the poll is not looking at the queues
      have hwriter : s.holds (.writer i) = true := by
        cases h with
        | commit hpc =>
          show (s.channels i).writer.holdsMutex = true
          rw [hpc]
          rfl
      have hfree : s.poll.holdsMutex = false := by
        cases hholds : s.poll.holdsMutex with
        | false => rfl
        | true => cases howned.exclusive hwriter (show s.holds .poll = true from hholds)
      exact hpoll.commit hfree hwaiting
    | false =>
      -- all other moves leave what is readable as it is, stores into the region included
      obtain ⟨hsize, hstart, hreadable, _⟩ := h.readable_eq (hchannels i)
      refine hpoll.congr ?_ ?_ ?_ <;> intro j <;> by_cases hj : j = i
      · subst hj
        rw [Function.update_self, hsize]
      · rw [Function.update_of_ne hj]
      · subst hj
        rw [Function.update_self, hstart]
      · rw [Function.update_of_ne hj]
      · subst hj
        rw [Function.update_self]
        exact fun hne => mData_mStart_eq_of_readable_eq (hchannels j).wf hc.wf hsize hne hreadable
      · rw [Function.update_of_ne hj]
        exact fun _ => rfl

theorem PollFrame.Inv.copy {f : PollFrame} (hf : f.Inv) (hlt : f.eventsRead < f.maxReads)
    (e : SensorsEvent) :
    PollFrame.Inv { f with data := Function.update f.data f.eventsRead (some e) } where
  maxReads_pos := hf.maxReads_pos
  read_le := hf.read_le
  read k hk := by
    have hne : k ≠ f.eventsRead := Nat.ne_of_lt hk
    simpa only [Function.update_of_ne hne] using hf.read k hk
  untouched k hk := by
    have hne : k ≠ f.eventsRead := Nat.ne_of_gt (Nat.lt_of_lt_of_le hlt hk)
    simpa only [Function.update_of_ne hne] using hf.untouched k hk

/-- The copied event is kept, or its slot is used again. -/
theorem PollFrame.Inv.next {f : PollFrame} (hf : f.Inv) (hlt : f.eventsRead < f.maxReads)
    (hcopied : (f.data f.eventsRead).isSome) (dropped : Bool) :
    PollFrame.Inv { f with
      eventsRead := if dropped then f.eventsRead else f.eventsRead + 1 } := by
  cases dropped with
  | true => exact hf
  | false =>
    refine ⟨hf.maxReads_pos, hlt, fun k hk => ?_, hf.untouched⟩
    have hk' : k < f.eventsRead + 1 := hk
    rcases Nat.lt_succ_iff_lt_or_eq.mp hk' with hlt | rfl
    · exact hf.read k hlt
    · exact hcopied

/-- A move of the client. -/
theorem Inv.pollMove (hinv : Inv n t s) (h : PollMove n t s s') : Inv n t s' := by
  have howned' := h.owned hinv.owned
  obtain ⟨hchannels, _, hnext, hwaiting, hpoll⟩ := hinv
  have hmod : 0 < n → (s.nextReadIndex + 1) % n < n := Nat.mod_lt _
  cases h with
  | call hpc hpos => exact ⟨hchannels, howned', hnext, by simp, hpos⟩
  | lock hpc =>
    rw [hpc] at hpoll
    exact ⟨hchannels, howned', hnext, by simp, ⟨hpoll, by simp, by simp, by simp⟩,
      .of_zero rfl⟩
  | skip hpc hmore hlt hempty =>
    rw [hpc] at hpoll
    obtain ⟨hf, hbehind⟩ := hpoll
    refine ⟨hchannels, howned', hmod, by simp, ⟨hf.1, hf.2, hf.3, hf.4⟩, hbehind.skip hlt ?_⟩
    by_contra hne
    rw [peek_of_ne hne] at hempty
    cases hempty
  | found hpc hmore hlt hpeek =>
    rw [hpc] at hpoll
    obtain ⟨hf, _⟩ := hpoll
    exact ⟨hchannels, howned', hnext, by simp, ⟨hf.1, hf.2, hf.3, hf.4⟩, hmore.2, rfl, hpeek⟩
  | crash hpc hmore hge => exact absurd (hnext (by omega)) hge
  | block hpc hdone hnone =>
    rw [hpc] at hpoll
    obtain ⟨hf, hbehind⟩ := hpoll
    refine ⟨hchannels, howned', hnext, fun _ _ _ => rfl, hf, hnone, fun _ i hi => ?_⟩
    -- nothing was read, so the scan ended because it had seen every queue
    have hpos := hf.maxReads_pos
    exact hbehind.all (hnext (by omega)) (by omega) i hi
  | ret hpc => exact ⟨hchannels, howned', hnext, by simp, trivial⟩
  | @copy f event hpc =>
    rw [hpc] at hpoll
    obtain ⟨hf, hlt, hzero, hpeek⟩ := hpoll
    refine ⟨hchannels, howned', hnext, by simp, hf.copy hlt _, hlt, hzero, ?_, ?_, ?_⟩
    · intro hempty
      rw [peek_of_empty hempty] at hpeek
      cases hpeek
    · unfold peek at hpeek
      split at hpeek
      · cases hpeek
      · cases hpeek
        rfl
    · exact Function.update_self ..
  | @dequeue f event hpc =>
    rw [hpc] at hpoll
    obtain ⟨hf, hlt, hzero, _, _, hdata⟩ := hpoll
    refine ⟨?_, howned', hmod, by simp, hf.next hlt (by simp [hdata]) _, .of_zero hzero⟩
    intro j
    show (Function.update s.channels s.nextReadIndex _ j).Inv
    by_cases hj : j = s.nextReadIndex
    · subst hj
      rw [Function.update_self]
      exact (hchannels s.nextReadIndex).dequeue
    · rw [Function.update_of_ne hj]
      exact hchannels j
  | wake hpc =>
    rw [hpc] at hpoll
    obtain ⟨hf, _⟩ := hpoll
    exact ⟨hchannels, howned', hnext, by simp, ⟨hf.1, hf.2, hf.3, hf.4⟩,
      .of_zero rfl⟩

theorem inv_of_reachable (hs : Transition.Reachable (system n t) s) : Inv n t s := by
  refine hs.invariant (I := Inv n t) ?_ ?_
  · rintro s ⟨mem, rfl⟩
    exact inv_initial n t mem
  · intro s a s' hinv hstep
    rcases move_of_step hstep with ⟨i, c, m, commits, _, hmove, rfl⟩ | hmove
    · exact hinv.afterWriter hmove
    · exact hinv.pollMove hmove

/-! ## Blocked threads -/

/-- **No lost wake-up.** A `poll` blocked without a signal has announced itself and has only
empty queues; a writer blocked without a signal has a full queue. So no event is readable behind
an unsignalled `poll`, and it and a writer are never both stuck. -/
theorem no_lost_wakeup (hs : Transition.Reachable (system n t) s) :
    (∀ f, s.poll = .blocked f false →
      s.waitingForData = true ∧ ∀ i < n, (s.channels i).queue.mSize = 0) ∧
    (∀ i, (s.channels i).writer = .blocked false →
      (s.channels i).queue.mSize = SENSOR_EVENT_QUEUE_CAPACITY) ∧
    (∀ f, s.poll = .blocked f false → ∀ i < n, (s.channels i).queue.readable = []) ∧
    (∀ f, ∀ i < n, ¬ (s.poll = .blocked f false ∧ (s.channels i).writer = .blocked false)) := by
  have hinv := inv_of_reachable hs
  have hempty : ∀ f, s.poll = .blocked f false → ∀ i < n, (s.channels i).queue.mSize = 0 := by
    intro f hblocked
    have hpoll := hinv.poll
    rw [hblocked] at hpoll
    exact hpoll.2.2 rfl
  have hfull : ∀ i, (s.channels i).writer = .blocked false →
      (s.channels i).queue.mSize = SENSOR_EVENT_QUEUE_CAPACITY := by
    intro i hblocked
    rw [(hinv.channels i).full hblocked, (hinv.channels i).capacity]
  refine ⟨fun f hf => ⟨hinv.waiting f false hf, hempty f hf⟩, hfull, fun f hf i hi => ?_, ?_⟩
  · exact (hinv.channels i).wf.readable_eq_nil_iff.mpr (hempty f hf i hi)
  · rintro f i hi ⟨hpoll, hwriter⟩
    have hzero := hempty f hpoll i hi
    rw [hfull i hwriter] at hzero
    cases hzero

/-- The client finds two empty queues and blocks. Then a writer fills its queue, which signals the
client, and blocks in turn. -/
theorem no_lost_wakeup_two_queues : ∃ (s s' : State) (f : PollFrame),
    Transition.Reachable (system 2 .initial) s ∧ Transition.Reachable (system 2 .initial) s' ∧
    (s.poll = .blocked f false ∧ s.waitingForData = true ∧
      (s.channels 0).queue.mSize = 0 ∧ (s.channels 1).queue.readable = []) ∧
    (s'.channels 1).writer = .blocked false ∧ (s'.channels 1).queue.mSize = 36 ∧
      s'.poll = .blocked f true := by
  have hempty : Transition.exec (system 2 .initial) (initial fun _ _ => { sensor := 0, type := 1 })
      [.client (.call 1), .client .lock, .client .scan, .client .scan, .client .scan] = some _ :=
    rfl
  have hs := Transition.Reachable.of_exec (T := system 2 .initial) ⟨_, rfl⟩ hempty
  let fill : List Step := [.writer 1 .lock, .writer 1 .testSpace] ++
    List.replicate 36 (.writer 1 (.write { sensor := 0, type := 1 })) ++
    [.writer 1 (.pollReturn none), .writer 1 .relock, .writer 1 .commit, .writer 1 .lock,
      .writer 1 .testSpace]
  have hs' := hs.exec (show Transition.exec _ _ fill = some _ from rfl)
  have h := no_lost_wakeup hs
  have hblocked := h.1 _ rfl
  exact ⟨_, _, _, hs, hs', ⟨rfl, hblocked.1, hblocked.2 0 (by decide),
    h.2.2.1 _ rfl 1 (by decide)⟩, rfl, (no_lost_wakeup hs').2.1 1 rfl, rfl⟩

end Mozart.Sensors.MultiHal

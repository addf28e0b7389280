import Mathlib.Logic.Function.Basic
import Mozart.Lib.Transition
import Mozart.Sensors.EventQueue
import Mozart.Sensors.Hal

/-!
# Writers and poll

The threads of the multi-HAL: one `writerTask` for each opened sub-HAL and the client's thread in
`sensors_poll_context_t::poll`. They share `queue_mutex`; a writer waits on the condition of its
own queue, `poll` on `data_available_cond`.

* Program counters are the constructors of `WriterPc` and `PollPc`; every step between two of
  them is one label, so a label sequence is an interleaving. The sub-HAL's stores into the region
  it was handed need no lock.
* A blocked thread remembers whether it was signalled since it blocked. The flag is a ghost: a
  blocked thread may wake up at any time (spuriously), it only needs the mutex.
* `committed` and `visits` are ghosts too: what each sub-HAL delivered, and what each iteration
  of the inner loop of `poll` found.
-/

namespace Mozart.Sensors.MultiHal

open SensorEventQueue

def SENSOR_EVENT_QUEUE_CAPACITY : Int := 36

/-- `copy_event_remap_handle`. -/
def copyEventRemapHandle (t : HandleTable) (src : SensorsEvent) (subIndex : Int) : SensorsEvent :=
  -- a meta-data event keeps its `sensor`, the nested handle is rewritten
  if src.type = SENSOR_TYPE_META_DATA then
    { src with metaDataSensor := t.getGlobalHandle ⟨subIndex, src.metaDataSensor⟩ }
  else
    { src with sensor := t.getGlobalHandle ⟨subIndex, src.sensor⟩ }

/-! ## State -/

inductive Thread where
  | poll
  | writer (i : Nat)
deriving DecidableEq, Repr

/-- Where a `writerTask` is. It holds the mutex in `waitForSpace` and `committing`. -/
inductive WriterPc where
  | top
  | waitForSpace
  | blocked (signalled : Bool)
  | polling (region : Region SensorsEvent)
  | polled (region : Region SensorsEvent)
  | committing (region : Region SensorsEvent)

def WriterPc.holdsMutex : WriterPc → Bool
  | .waitForSpace | .committing _ => true
  | .top | .blocked _ | .polling _ | .polled _ => false

/-- One sub-HAL: its queue, its writer, and the events it has committed. -/
structure Channel where
  queue : SensorEventQueue SensorsEvent
  writer : WriterPc
  committed : List SensorsEvent

/-- The locals of a running `poll`; `data` holds what was written to the caller's array. -/
structure PollFrame where
  maxReads : Nat
  data : Nat → Option SensorsEvent
  empties : Nat
  eventsRead : Nat

/-- Where the client's thread is. It holds the mutex in `scanning`, `peeked` and `copied`, and an
exception out of `poll` does not release it; in `copied` the record behind the pointer is kept as
a ghost. -/
inductive PollPc where
  | idle
  | entering (maxReads : Nat)
  | scanning (frame : PollFrame)
  | peeked (frame : PollFrame) (event : Int)
  | copied (frame : PollFrame) (event : SensorsEvent)
  | blocked (frame : PollFrame) (signalled : Bool)
  | crashed

def PollPc.holdsMutex : PollPc → Bool
  | .scanning _ | .peeked _ _ | .copied _ _ | .crashed => true
  | .idle | .entering _ | .blocked _ _ => false

/-- A `poll` that returned: its argument, its result, and the caller's array. -/
structure PollResult where
  maxReads : Nat
  count : Nat
  data : Nat → Option SensorsEvent

structure State where
  channels : Nat → Channel
  poll : PollPc
  nextReadIndex : Nat
  waitingForData : Bool
  queueMutex : Option Thread
  returned : List PollResult
  visits : List (Nat × Option SensorsEvent)

/-! ## Steps -/

inductive WriterStep where
  | lock
  | testSpace
  | wake
  | write (e : SensorsEvent)
  | pollReturn (error : Option Int)
  | relock
  | commit

inductive PollStep where
  | call (maxReads : Nat)
  | lock
  | scan
  | copy
  | dequeue
  | wake

inductive Step where
  | writer (i : Nat) (a : WriterStep)
  | client (a : PollStep)

/-- `pthread_cond_broadcast(&data_available_cond)`. -/
def PollPc.signal : PollPc → PollPc
  | .blocked frame _ => .blocked frame true
  | pc => pc

/-- `pthread_cond_broadcast(&mSpaceAvailableCondition)`. -/
def WriterPc.signal : WriterPc → WriterPc
  | .blocked _ => .blocked true
  | pc => pc

def State.setChannel (s : State) (i : Nat) (c : Channel) : State :=
  { s with channels := Function.update s.channels i c }

/-- `writerTask` of the sub-HAL behind queue `i`. -/
def writerStep (s : State) (i : Nat) (a : WriterStep) : Option State :=
  let c := s.channels i
  match c.writer, a with
  | .top, .lock =>
    if s.queueMutex = none then
      some { s.setChannel i { c with writer := .waitForSpace } with
        queueMutex := some (.writer i) }
    else
      none
  | .waitForSpace, .testSpace =>
    if c.queue.isFull then
      some { s.setChannel i { c with writer := .blocked false } with queueMutex := none }
    else
      let (bufferSize, buffer) := c.queue.getWritableRegion SENSOR_EVENT_QUEUE_CAPACITY
      some { s.setChannel i { c with writer := .polling ⟨buffer, bufferSize, []⟩ } with
        queueMutex := none }
  | .blocked _, .wake =>
    if s.queueMutex = none then
      some { s.setChannel i { c with writer := .waitForSpace } with
        queueMutex := some (.writer i) }
    else
      none
  | .polling ⟨some buffer, bufferSize, written⟩, .write e =>
    -- inside `device->poll(device, buffer, bufferSize)`, without the lock
    if written.length < bufferSize then
      some (s.setChannel i { c with
        queue := c.queue.store (buffer + written.length) e
        writer := .polling ⟨some buffer, bufferSize, written ++ [e]⟩ })
    else
      none
  | .polling region, .pollReturn error =>
    match error with
    | some code =>
      -- a negative result is ignored, whatever was stored
      if code < 0 then some (s.setChannel i { c with writer := .top }) else none
    | none =>
      if region.written = [] then
        some (s.setChannel i { c with writer := .top })
      else
        some (s.setChannel i { c with writer := .polled region })
  | .polled region, .relock =>
    if s.queueMutex = none then
      some { s.setChannel i { c with writer := .committing region } with
        queueMutex := some (.writer i) }
    else
      none
  | .committing region, .commit =>
    some { s.setChannel i {
        queue := c.queue.markAsWritten region.written.length
        writer := .top
        committed := c.committed ++ region.written } with
      poll := if s.waitingForData then s.poll.signal else s.poll
      queueMutex := none }
  | _, _ => none

/-- `sensors_poll_context_t::poll`, for `n` queues and the handle table `t`. -/
def pollStep (n : Nat) (t : HandleTable) (s : State) (a : PollStep) : Option State :=
  match s.poll, a with
  | .idle, .call maxReads =>
    if 1 ≤ maxReads then some { s with poll := .entering maxReads } else none
  | .entering maxReads, .lock =>
    if s.queueMutex = none then
      some { s with poll := .scanning ⟨maxReads, fun _ => none, 0, 0⟩, queueMutex := some .poll }
    else
      none
  | .scanning frame, .scan =>
    if frame.empties < n ∧ frame.eventsRead < frame.maxReads then
      if s.nextReadIndex < n then
        match (s.channels s.nextReadIndex).queue.peek with
        | none =>
          some { s with
            poll := .scanning { frame with empties := frame.empties + 1 }
            nextReadIndex := (s.nextReadIndex + 1) % n
            visits := s.visits ++ [(s.nextReadIndex, none)] }
        | some event => some { s with poll := .peeked { frame with empties := 0 } event }
      else
        -- `queues.at` throws `std::out_of_range`
        some { s with poll := .crashed }
    else if frame.eventsRead = 0 then
      some { s with poll := .blocked frame false, waitingForData := true, queueMutex := none }
    else
      some { s with
        poll := .idle
        queueMutex := none
        returned := s.returned ++ [⟨frame.maxReads, frame.eventsRead, frame.data⟩] }
  | .peeked frame event, .copy =>
    let src := (s.channels s.nextReadIndex).queue.mData event
    some { s with
      poll := .copied { frame with
        data := Function.update frame.data frame.eventsRead
          (some (copyEventRemapHandle t src s.nextReadIndex)) } src }
  | .copied frame event, .dequeue =>
    let c := s.channels s.nextReadIndex
    let dropped := (frame.data frame.eventsRead).any fun e => e.sensor == -1
    let (queue, broadcast) := c.queue.dequeue
    some { s.setChannel s.nextReadIndex { c with
        queue := queue
        writer := if broadcast then c.writer.signal else c.writer } with
      poll := .scanning { frame with
        eventsRead := if dropped then frame.eventsRead else frame.eventsRead + 1 }
      nextReadIndex := (s.nextReadIndex + 1) % n
      visits := s.visits ++ [(s.nextReadIndex, some event)] }
  | .blocked frame _, .wake =>
    if s.queueMutex = none then
      some { s with
        poll := .scanning { frame with empties := 0 }
        waitingForData := false
        queueMutex := some .poll }
    else
      none
  | _, _ => none

def step (n : Nat) (t : HandleTable) (s : State) : Step → Option State
  | .writer i a => if i < n then writerStep s i a else none
  | .client a => pollStep n t s a

/-- The state when `lazy_init_sensors_list` releases `queue_mutex`: the writers have not entered
their loops. `mem` is what the storage of the queues happens to hold. -/
def initial (mem : Nat → Int → SensorsEvent) : State where
  channels i := ⟨.new SENSOR_EVENT_QUEUE_CAPACITY (mem i), .top, []⟩
  poll := .idle
  nextReadIndex := 0
  waitingForData := false
  queueMutex := none
  returned := []
  visits := []

/-- `n` writers and one client. -/
def system (n : Nat) (t : HandleTable) : Transition.System State Step where
  init s := ∃ mem, s = initial mem
  step := step n t

/-! ## What a step does

One inversion lemma for each thread. A writer only touches its own channel and the mutex, so its
moves are described without the rest of the state. -/

/-- A move of the writer of queue `i`: its channel and the mutex, before and after, and whether
it committed events. -/
inductive WriterMove (i : Nat) (c : Channel) (m : Option Thread) :
    Channel → Option Thread → Bool → Prop where
  | lock (hpc : c.writer = .top) (hfree : m = none) :
      WriterMove i c m { c with writer := .waitForSpace } (some (.writer i)) false
  | block (hpc : c.writer = .waitForSpace) (hfull : c.queue.isFull = true) :
      WriterMove i c m { c with writer := .blocked false } none false
  | grant (hpc : c.writer = .waitForSpace) (hspace : c.queue.isFull = false) :
      WriterMove i c m
        { c with writer := .polling ⟨(c.queue.getWritableRegion SENSOR_EVENT_QUEUE_CAPACITY).2,
          (c.queue.getWritableRegion SENSOR_EVENT_QUEUE_CAPACITY).1, []⟩ } none false
  | wake {signalled : Bool} (hpc : c.writer = .blocked signalled) (hfree : m = none) :
      WriterMove i c m { c with writer := .waitForSpace } (some (.writer i)) false
  | write {buffer bufferSize : Int} {written : List SensorsEvent} (e : SensorsEvent)
      (hpc : c.writer = .polling ⟨some buffer, bufferSize, written⟩)
      (hroom : written.length < bufferSize) :
      WriterMove i c m { c with
        queue := c.queue.store (buffer + written.length) e
        writer := .polling ⟨some buffer, bufferSize, written ++ [e]⟩ } m false
  | giveUp {region : Region SensorsEvent} (hpc : c.writer = .polling region) :
      WriterMove i c m { c with writer := .top } m false
  | polled {region : Region SensorsEvent} (hpc : c.writer = .polling region) :
      WriterMove i c m { c with writer := .polled region } m false
  | relock {region : Region SensorsEvent} (hpc : c.writer = .polled region) (hfree : m = none) :
      WriterMove i c m { c with writer := .committing region } (some (.writer i)) false
  | commit {region : Region SensorsEvent} (hpc : c.writer = .committing region) :
      WriterMove i c m {
        queue := c.queue.markAsWritten region.written.length
        writer := .top
        committed := c.committed ++ region.written } none true

/-- The state after a writer's move. Only a commit signals, and only when `poll` said it waits. -/
def State.afterWriter (s : State) (i : Nat) (c : Channel) (m : Option Thread) (commits : Bool) :
    State :=
  { s.setChannel i c with
    queueMutex := m
    poll := if commits && s.waitingForData then s.poll.signal else s.poll }

theorem writerMove_of_step {s s' : State} {i : Nat} {a : WriterStep}
    (h : writerStep s i a = some s') :
    ∃ c m commits, WriterMove i (s.channels i) s.queueMutex c m commits ∧
      s' = s.afterWriter i c m commits := by
  unfold writerStep at h
  simp only at h
  split at h
  · rename_i hpc
    split_ifs at h with hfree
    cases h
    exact ⟨_, _, false, .lock hpc hfree, rfl⟩
  -- at the test of `waitForSpace`
  · rename_i hpc
    split_ifs at h with hfull
    · cases h
      exact ⟨_, _, false, .block hpc hfull, rfl⟩
    · cases h
      exact ⟨_, _, false, .grant hpc (by simpa using hfull), rfl⟩
  · rename_i hpc
    split_ifs at h with hfree
    cases h
    exact ⟨_, _, false, .wake hpc hfree, rfl⟩
  -- in the sub-HAL's `poll`: a store, then its return with an error, nothing or events
  · rename_i buffer bufferSize written e hpc
    split_ifs at h with hroom
    cases h
    exact ⟨_, _, false, .write e hpc hroom, rfl⟩
  · rename_i region error hpc
    split at h
    · split_ifs at h
      cases h
      exact ⟨_, _, false, .giveUp hpc, rfl⟩
    · split_ifs at h
      · cases h
        exact ⟨_, _, false, .giveUp hpc, rfl⟩
      · cases h
        exact ⟨_, _, false, .polled hpc, rfl⟩
  · rename_i region hpc
    split_ifs at h with hfree
    cases h
    exact ⟨_, _, false, .relock hpc hfree, rfl⟩
  -- the only move that may wake the client up
  · rename_i region hpc
    cases h
    refine ⟨_, _, true, .commit hpc, ?_⟩
    simp [State.afterWriter]
  · cases h

/-- A move of the client's thread. -/
inductive PollMove (n : Nat) (t : HandleTable) (s : State) : State → Prop where
  | call {maxReads : Nat} (hpc : s.poll = .idle) (hpos : 1 ≤ maxReads) :
      PollMove n t s { s with poll := .entering maxReads }
  | lock {maxReads : Nat} (hpc : s.poll = .entering maxReads) (hfree : s.queueMutex = none) :
      PollMove n t s { s with
        poll := .scanning ⟨maxReads, fun _ => none, 0, 0⟩, queueMutex := some .poll }
  | skip {frame : PollFrame} (hpc : s.poll = .scanning frame)
      (hmore : frame.empties < n ∧ frame.eventsRead < frame.maxReads)
      (hnext : s.nextReadIndex < n)
      (hempty : (s.channels s.nextReadIndex).queue.peek = none) :
      PollMove n t s { s with
        poll := .scanning { frame with empties := frame.empties + 1 }
        nextReadIndex := (s.nextReadIndex + 1) % n
        visits := s.visits ++ [(s.nextReadIndex, none)] }
  | found {frame : PollFrame} {event : Int} (hpc : s.poll = .scanning frame)
      (hmore : frame.empties < n ∧ frame.eventsRead < frame.maxReads)
      (hnext : s.nextReadIndex < n)
      (hpeek : (s.channels s.nextReadIndex).queue.peek = some event) :
      PollMove n t s { s with poll := .peeked { frame with empties := 0 } event }
  | crash {frame : PollFrame} (hpc : s.poll = .scanning frame)
      (hmore : frame.empties < n ∧ frame.eventsRead < frame.maxReads)
      (hnext : ¬ s.nextReadIndex < n) : PollMove n t s { s with poll := .crashed }
  | block {frame : PollFrame} (hpc : s.poll = .scanning frame)
      (hdone : ¬ (frame.empties < n ∧ frame.eventsRead < frame.maxReads))
      (hnone : frame.eventsRead = 0) :
      PollMove n t s { s with
        poll := .blocked frame false, waitingForData := true, queueMutex := none }
  | ret {frame : PollFrame} (hpc : s.poll = .scanning frame)
      (hsome : frame.eventsRead ≠ 0) :
      PollMove n t s { s with
        poll := .idle
        queueMutex := none
        returned := s.returned ++ [⟨frame.maxReads, frame.eventsRead, frame.data⟩] }
  | copy {frame : PollFrame} {event : Int} (hpc : s.poll = .peeked frame event) :
      PollMove n t s { s with
        poll := .copied { frame with
          data := Function.update frame.data frame.eventsRead
            (some (copyEventRemapHandle t ((s.channels s.nextReadIndex).queue.mData event)
              s.nextReadIndex)) } ((s.channels s.nextReadIndex).queue.mData event) }
  | dequeue {frame : PollFrame} {event : SensorsEvent} (hpc : s.poll = .copied frame event) :
      PollMove n t s { s.setChannel s.nextReadIndex { s.channels s.nextReadIndex with
          queue := (s.channels s.nextReadIndex).queue.dequeue.1
          writer := if (s.channels s.nextReadIndex).queue.dequeue.2 then
            (s.channels s.nextReadIndex).writer.signal
            else (s.channels s.nextReadIndex).writer } with
        poll := .scanning { frame with
          eventsRead := if (frame.data frame.eventsRead).any fun e => e.sensor == -1 then
            frame.eventsRead else frame.eventsRead + 1 }
        nextReadIndex := (s.nextReadIndex + 1) % n
        visits := s.visits ++ [(s.nextReadIndex, some event)] }
  | wake {frame : PollFrame} {signalled : Bool} (hpc : s.poll = .blocked frame signalled)
      (hfree : s.queueMutex = none) :
      PollMove n t s { s with
        poll := .scanning { frame with empties := 0 }
        waitingForData := false
        queueMutex := some .poll }

theorem pollMove_of_step {n : Nat} {t : HandleTable} {s s' : State} {a : PollStep}
    (h : pollStep n t s a = some s') : PollMove n t s s' := by
  unfold pollStep at h
  split at h
  · rename_i hpc
    split_ifs at h with hpos
    cases h
    exact .call hpc hpos
  · rename_i hpc
    split_ifs at h with hfree
    cases h
    exact .lock hpc hfree
  · rename_i hpc
    -- the loop goes on, or blocks with nothing read, or returns
    split_ifs at h with hmore hnext hnone
    · split at h
      · rename_i hempty
        cases h
        exact .skip hpc hmore hnext hempty
      · rename_i hpeek
        cases h
        exact .found hpc hmore hnext hpeek
    · cases h
      exact .crash hpc hmore hnext
    · cases h
      exact .block hpc hmore hnone
    · cases h
      exact .ret hpc hnone
  · rename_i hpc
    cases h
    exact .copy hpc
  · rename_i hpc
    cases h
    exact .dequeue hpc
  · rename_i hpc
    split_ifs at h with hfree
    cases h
    exact .wake hpc hfree
  · cases h

/-- **Every step is a move of a writer or of the client.** -/
theorem move_of_step {n : Nat} {t : HandleTable} {s s' : State} {a : Step}
    (h : step n t s a = some s') :
    (∃ i c m commits, i < n ∧ WriterMove i (s.channels i) s.queueMutex c m commits ∧
        s' = s.afterWriter i c m commits) ∨ PollMove n t s s' := by
  cases a with
  | writer i a =>
    simp only [step] at h
    split_ifs at h with hi
    obtain ⟨c, m, commits, hmove, rfl⟩ := writerMove_of_step h
    exact Or.inl ⟨i, c, m, commits, hi, hmove, rfl⟩
  | client a => exact Or.inr (pollMove_of_step h)

end Mozart.Sensors.MultiHal

import Mozart.Sensors.OpenFailures
import Mozart.Sensors.Wakeup

/-!
# End-to-end delivery

What a sub-HAL commits reaches the client once, in order, under its global handle.

* `Delivery` follows an event in two stages: from `committed` through the queue to `visits` (the
  queue is a FIFO), and from `visits` through the caller's array to the polls that returned.
* `poll` looks the sensor up under the index of the queue, the table has it under the index of
  the module. `handedOn_eq_some_iff`: an event keeps its identity exactly when the two agree.
* `handedOn_eq_takenFrom`: what the client sees of module `i` is what `poll` took from queue `i`.
* **`inOrder_iff`**: the statement about every interleaving and every pattern of failed opens.
-/

namespace Mozart.Sensors

open MultiHal SensorEventQueue

/-! ## Handles of events -/

/-- The handle that says which sensor an event is about. -/
def SensorsEvent.effectiveHandle (e : SensorsEvent) : Int :=
  if e.type = SENSOR_TYPE_META_DATA then e.metaDataSensor else e.sensor

def SensorsEvent.withHandle (e : SensorsEvent) (handle : Int) : SensorsEvent :=
  if e.type = SENSOR_TYPE_META_DATA then { e with metaDataSensor := handle }
  else { e with sensor := handle }

/-- A meta-data event has to have its `sensor` set to 0. -/
def SensorsEvent.wellFormed (e : SensorsEvent) : Bool :=
  e.type != SENSOR_TYPE_META_DATA || e.sensor == 0

/-- The event of sub-HAL `i` is about a sensor the table knows. -/
def registered (t : HandleTable) (i : Nat) (e : SensorsEvent) : Bool :=
  e.wellFormed && (t.fullToGlobal.find ⟨i, e.effectiveHandle⟩).isSome

/-- The event carries the global handle of a sensor of sub-HAL `i`. -/
def comesFrom (t : HandleTable) (i : Nat) (e : SensorsEvent) : Bool :=
  e.wellFormed &&
    (t.globalToFull.find e.effectiveHandle).any fun full => full.moduleIndex == (i : Int)

/-- The event under the global handle of its sensor of the module at `m`. -/
def SensorsEvent.globalised (t : HandleTable) (m : Nat) (e : SensorsEvent) : SensorsEvent :=
  e.withHandle (t.getGlobalHandle ⟨m, e.effectiveHandle⟩)

theorem copyEventRemapHandle_eq (t : HandleTable) (e : SensorsEvent) (i : Nat) :
    copyEventRemapHandle t e i = e.withHandle (t.getGlobalHandle ⟨i, e.effectiveHandle⟩) := by
  unfold copyEventRemapHandle SensorsEvent.withHandle SensorsEvent.effectiveHandle
  split <;> rfl

theorem SensorsEvent.effectiveHandle_withHandle (e : SensorsEvent) (handle : Int) :
    (e.withHandle handle).effectiveHandle = handle := by
  by_cases hmeta : e.type = SENSOR_TYPE_META_DATA <;> simp [withHandle, effectiveHandle, hmeta]

theorem SensorsEvent.wellFormed_withHandle (e : SensorsEvent) (handle : Int) :
    (e.withHandle handle).wellFormed = e.wellFormed := by
  by_cases hmeta : e.type = SENSOR_TYPE_META_DATA
  · simp [withHandle, wellFormed, hmeta]
  · have hother : (e.type != SENSOR_TYPE_META_DATA) = true := by simpa using hmeta
    simp [withHandle, wellFormed, hmeta, hother]

section Table

variable {t : HandleTable} {fulls : List FullHandle}

theorem pos_of_find {full : FullHandle} {handle : Int} (ht : t.Describes fulls)
    (h : t.fullToGlobal.find full = some handle) : 1 ≤ handle :=
  ((ht.isSome_global handle).mp (by rw [ht.full full handle h]; rfl)).1

/-- The remapped event comes from the sub-HAL whose queue it was taken from, if from any. -/
theorem comesFrom_remap (ht : t.Describes fulls) (e : SensorsEvent) (i j : Nat) :
    comesFrom t i (copyEventRemapHandle t e j) = (decide (j = i) && registered t j e) := by
  rw [copyEventRemapHandle_eq, comesFrom, SensorsEvent.effectiveHandle_withHandle,
    SensorsEvent.wellFormed_withHandle, registered, HandleTable.getGlobalHandle]
  cases hfind : t.fullToGlobal.find ⟨j, e.effectiveHandle⟩ with
  | none =>
    -- `-1` is not a global handle
    have hunknown : t.globalToFull.find (-1) = none := by
      rw [ht.global, if_neg (by omega)]
    simp [hunknown]
  | some handle =>
    simp only [ht.full _ _ hfind, Option.any_some, Option.isSome_some, Bool.and_true]
    by_cases hji : j = i
    · simp [hji]
    · have hne : ((j : Int) == (i : Int)) = false := by simpa using hji
      simp [hji, hne]

/-- An event of a registered sensor is not dropped. -/
theorem remap_sensor_ne (ht : t.Describes fulls) {e : SensorsEvent} {i : Nat}
    (h : registered t i e = true) : (copyEventRemapHandle t e i).sensor ≠ -1 := by
  rw [registered, Bool.and_eq_true] at h
  obtain ⟨hwell, hsome⟩ := h
  obtain ⟨handle, hfind⟩ := Option.isSome_iff_exists.mp hsome
  have hpos := pos_of_find ht hfind
  rw [copyEventRemapHandle_eq, HandleTable.getGlobalHandle, hfind]
  by_cases hmeta : e.type = SENSOR_TYPE_META_DATA
  · have hzero : e.sensor = 0 := by simpa [SensorsEvent.wellFormed, hmeta] using hwell
    simp [SensorsEvent.withHandle, hmeta, hzero]
  · simp only [SensorsEvent.withHandle, hmeta, if_false]
    omega

/-- The global handle of a registered event stands for its sensor. -/
theorem globalised_of_registered (ht : t.Describes fulls) {e : SensorsEvent} {m : Nat}
    (h : registered t m e = true) : ∃ handle,
      t.globalToFull.find handle = some ⟨m, e.effectiveHandle⟩ ∧
        e.globalised t m = e.withHandle handle := by
  rw [registered, Bool.and_eq_true] at h
  obtain ⟨handle, hfind⟩ := Option.isSome_iff_exists.mp h.2
  refine ⟨handle, ht.full _ _ hfind, ?_⟩
  rw [SensorsEvent.globalised, HandleTable.getGlobalHandle, hfind]

end Table

namespace MultiHal

/-! ## What `poll` takes and what it hands on -/

/-- The event that an iteration of the inner loop took from queue `i`. -/
def takenFrom (i : Nat) (visit : Nat × Option SensorsEvent) : Option SensorsEvent :=
  if visit.1 = i then visit.2 else none

/-- The event that an iteration passed upstream. -/
def handedOn (t : HandleTable) (visit : Nat × Option SensorsEvent) : Option SensorsEvent :=
  (visit.2.map fun e => copyEventRemapHandle t e visit.1).filter fun e => e.sensor != -1

/-- **Upstream of a queue**: the events handed on that come from sub-HAL `i` are the registered
ones among those taken from queue `i`, in the same order. -/
theorem handedOn_eq_takenFrom {t : HandleTable} {fulls : List FullHandle} (ht : t.Describes fulls)
    (visits : List (Nat × Option SensorsEvent)) (i : Nat) :
    (visits.filterMap (handedOn t)).filter (comesFrom t i)
      = ((visits.filterMap (takenFrom i)).filter (registered t i)).map
          fun e => copyEventRemapHandle t e i := by
  rw [List.filter_filterMap, List.filter_filterMap, List.map_filterMap]
  congr 1
  funext visit
  obtain ⟨j, event⟩ := visit
  cases event with
  | none => simp [handedOn, takenFrom]
  | some e =>
    have hfrom := comesFrom_remap ht e i j
    by_cases hji : j = i
    · subst hji
      cases hreg : registered t j e with
      | true =>
        have hkept := remap_sensor_ne ht hreg
        simp [handedOn, takenFrom, Option.filter, hkept, hfrom, hreg]
      | false =>
        simp only [hreg, Bool.and_false] at hfrom
        simp only [handedOn, takenFrom, Option.filter, if_true, hreg]
        split <;> simp_all
    · simp only [hji, decide_false, Bool.false_and] at hfrom
      simp only [handedOn, takenFrom, Option.filter, hji, if_false]
      split <;> simp_all

/-- **An event keeps its identity** exactly when the index of its queue is that of its module.
Under any other index `poll` drops it or hands it on as an event of another sensor. -/
theorem handedOn_eq_some_iff {t : HandleTable} {fulls : List FullHandle} (ht : t.Describes fulls)
    {e : SensorsEvent} {m : Nat} (hreg : registered t m e = true) (i : Nat) :
    handedOn t (i, some e) = some (e.globalised t m) ↔ i = m := by
  constructor
  · intro h
    have hsame : copyEventRemapHandle t e i = e.globalised t m := by
      rw [handedOn, Option.map_some, Option.filter_eq_some_iff] at h
      exact Option.some.inj h.1
    -- what carries the handle of module `m` comes from queue `m`
    have hself := comesFrom_remap ht e m m
    have hfrom := comesFrom_remap ht e m i
    rw [copyEventRemapHandle_eq t e m, hreg] at hself
    rw [hsame, SensorsEvent.globalised, hself] at hfrom
    simp only [decide_true, Bool.and_true, Bool.true_eq, Bool.and_eq_true,
      decide_eq_true_eq] at hfrom
    exact hfrom.1
  · rintro rfl
    have hkept := remap_sensor_ne ht hreg
    rw [copyEventRemapHandle_eq] at hkept
    simp [handedOn, Option.filter, hkept, copyEventRemapHandle_eq, SensorsEvent.globalised]

/-! ## The caller's array -/

def PollFrame.events (f : PollFrame) : List SensorsEvent :=
  (List.range f.eventsRead).filterMap f.data

def PollResult.events (r : PollResult) : List SensorsEvent := (List.range r.count).filterMap r.data

/-- The events in the array of a `poll` that has not returned. -/
def PollPc.inFlight : PollPc → List SensorsEvent
  | .scanning f | .peeked f _ | .copied f _ | .blocked f _ => f.events
  | .idle | .entering _ | .crashed => []

/-- The events of all polls that returned. -/
def State.delivered (s : State) : List SensorsEvent := s.returned.flatMap PollResult.events

theorem PollPc.inFlight_signal (pc : PollPc) : pc.signal.inFlight = pc.inFlight := by
  cases pc <;> rfl

/-- Copying into the next slot adds nothing yet. -/
theorem PollFrame.events_copy (f : PollFrame) (x : Option SensorsEvent) :
    PollFrame.events { f with data := Function.update f.data f.eventsRead x } = f.events := by
  refine List.filterMap_congr fun k hk => ?_
  rw [List.mem_range] at hk
  exact Function.update_of_ne (Nat.ne_of_lt hk) ..

theorem PollFrame.events_next (f : PollFrame) (dropped : Bool) :
    PollFrame.events { f with eventsRead := if dropped then f.eventsRead else f.eventsRead + 1 }
      = f.events ++ if dropped then [] else (f.data f.eventsRead).toList := by
  cases dropped with
  | true => simp [events]
  | false =>
    simp only [events, Bool.false_eq_true, if_false, List.range_succ, List.filterMap_append]
    cases h : f.data f.eventsRead <;> simp [h]

/-! ## The invariant -/

structure Delivery (t : HandleTable) (s : State) : Prop where
  fifo : ∀ i, (s.channels i).committed
    = s.visits.filterMap (takenFrom i) ++ (s.channels i).queue.readable
  upstream : s.delivered ++ s.poll.inFlight = s.visits.filterMap (handedOn t)
  results : ∀ r ∈ s.returned, 1 ≤ r.count ∧ r.count ≤ r.maxReads ∧
    (∀ k < r.count, (r.data k).isSome) ∧ ∀ k, r.maxReads ≤ k → r.data k = none

variable {n : Nat} {t : HandleTable} {s s' : State}

theorem delivery_initial (t : HandleTable) (mem : Nat → Int → SensorsEvent) :
    Delivery t (initial mem) :=
  ⟨fun _ => rfl, rfl, by simp [initial]⟩

/-- A commit appends to the log and to the queue, every other move of a writer to neither. -/
theorem WriterMove.fifo {i : Nat} {c c' : Channel} {m m' : Option Thread} {commits : Bool}
    (hinv : c.Inv) (h : WriterMove i c m c' m' commits) {taken : List SensorsEvent}
    (hfifo : c.committed = taken ++ c.queue.readable) :
    c'.committed = taken ++ c'.queue.readable := by
  cases commits with
  | true =>
    cases h with
    | commit hpc =>
      have hr := hinv.holds _ (by rw [hpc]; rfl)
      dsimp only
      rw [hr.readable_markAsWritten hinv.wf, hfifo, List.append_assoc]
  | false =>
    obtain ⟨_, _, hreadable, hcommitted⟩ := h.readable_eq hinv
    rw [hreadable, hcommitted, hfifo]

theorem Delivery.afterWriter {i : Nat} {c : Channel} {m : Option Thread} {commits : Bool}
    (hinv : Inv n t s) (h : Delivery t s)
    (hmove : WriterMove i (s.channels i) s.queueMutex c m commits) :
    Delivery t (s.afterWriter i c m commits) := by
  obtain ⟨hfifo, hupstream, hresults⟩ := h
  refine ⟨fun j => ?_, ?_, hresults⟩
  · show (Function.update s.channels i c j).committed = s.visits.filterMap (takenFrom j)
      ++ (Function.update s.channels i c j).queue.readable
    by_cases hj : j = i
    · subst hj
      rw [Function.update_self]
      exact hmove.fifo (hinv.channels j) (hfifo j)
    · rw [Function.update_of_ne hj]
      exact hfifo j
  · show s.delivered ++ PollPc.inFlight (if commits && s.waitingForData then s.poll.signal
      else s.poll) = s.visits.filterMap (handedOn t)
    split
    · rwa [PollPc.inFlight_signal]
    · exact hupstream

theorem filterMap_visits_snoc {f : Nat × Option SensorsEvent → Option SensorsEvent}
    (visits : List (Nat × Option SensorsEvent)) (visit : Nat × Option SensorsEvent) :
    (visits ++ [visit]).filterMap f = visits.filterMap f ++ (f visit).toList := by
  rw [List.filterMap_append]
  cases h : f visit <;> simp [h]

theorem Delivery.pollMove (hinv : Inv n t s) (h : Delivery t s) (hmove : PollMove n t s s') :
    Delivery t s' := by
  have hpoll := hinv.poll
  obtain ⟨hfifo, hupstream, hresults⟩ := h
  cases hmove with
  | call hpc | lock hpc | found hpc | block hpc | wake hpc =>
    rw [hpc] at hupstream
    exact ⟨hfifo, hupstream, hresults⟩
  | skip hpc =>
    rw [hpc] at hupstream
    refine ⟨fun i => ?_, ?_, hresults⟩
    · rw [hfifo i, filterMap_visits_snoc]
      by_cases hi : s.nextReadIndex = i <;> simp [takenFrom, hi]
    · rw [filterMap_visits_snoc, show handedOn t (s.nextReadIndex, none) = none from rfl,
        Option.toList_none, List.append_nil]
      exact hupstream
  | crash hpc hmore hge => exact absurd (hinv.next (by omega)) hge
  | @ret f hpc hsome =>
    rw [hpc] at hupstream hpoll
    obtain ⟨hf, _⟩ := hpoll
    refine ⟨hfifo, ?_, ?_⟩
    · -- what was in flight is delivered now
      rw [← hupstream]
      simp [State.delivered, PollPc.inFlight, PollResult.events, PollFrame.events]
    · intro r hr
      rcases List.mem_append.mp hr with hr | hr
      · exact hresults r hr
      · obtain rfl := List.mem_singleton.mp hr
        exact ⟨Nat.one_le_iff_ne_zero.mpr hsome, hf.read_le, hf.read, hf.untouched⟩
  | @copy f event hpc =>
    rw [hpc] at hupstream
    refine ⟨hfifo, ?_, hresults⟩
    show s.delivered ++ PollFrame.events { f with data := _ } = _
    rw [PollFrame.events_copy]
    exact hupstream
  | @dequeue f event hpc =>
    rw [hpc] at hupstream hpoll
    obtain ⟨_, _, _, hne, hevent, hdata⟩ := hpoll
    refine ⟨fun i => ?_, ?_, hresults⟩
    · show (Function.update s.channels s.nextReadIndex _ i).committed
        = (s.visits ++ [(s.nextReadIndex, some event)]).filterMap (takenFrom i)
          ++ (Function.update s.channels s.nextReadIndex _ i).queue.readable
      rw [filterMap_visits_snoc]
      by_cases hi : i = s.nextReadIndex
      · subst hi
        rw [Function.update_self, hfifo, (hinv.channels _).wf.readable_dequeue hne, hevent]
        simp [takenFrom]
      · rw [Function.update_of_ne hi, hfifo i]
        simp [takenFrom, Ne.symm hi]
    · show s.delivered ++ PollFrame.events { f with eventsRead := _ }
        = (s.visits ++ [(s.nextReadIndex, some event)]).filterMap (handedOn t)
      rw [filterMap_visits_snoc, ← hupstream, PollFrame.events_next, hdata, List.append_assoc]
      congr 2
      -- the slot is kept unless its `sensor` is `-1`
      by_cases hdropped : (copyEventRemapHandle t event s.nextReadIndex).sensor = -1
      · simp [handedOn, hdropped]
      · simp [handedOn, hdropped, Option.filter]

theorem delivery_of_reachable (hs : Transition.Reachable (system n t) s) :
    Inv n t s ∧ Delivery t s := by
  refine hs.invariant (I := fun s => Inv n t s ∧ Delivery t s) ?_ ?_
  · rintro s ⟨mem, rfl⟩
    exact ⟨inv_initial n t mem, delivery_initial t mem⟩
  · rintro s a s' ⟨hinv, hdelivery⟩ hstep
    rcases move_of_step hstep with ⟨i, c, m, commits, _, hmove, rfl⟩ | hmove
    · exact ⟨hinv.afterWriter hmove, hdelivery.afterWriter hinv hmove⟩
    · exact ⟨hinv.pollMove hmove, hdelivery.pollMove hinv hmove⟩

/-! ## In order, once each -/

/-- The events of registered sensors of module `m` that `poll` took from queue `i`. -/
def State.taken (t : HandleTable) (s : State) (i m : Nat) : List SensorsEvent :=
  (s.visits.filterMap (takenFrom i)).filter (registered t m)

/-- What `poll` handed on of them, to the client or to the array of a call still running. -/
def State.handedOnFrom (t : HandleTable) (s : State) (i m : Nat) : List SensorsEvent :=
  (s.visits.filter fun visit => visit.1 == i && visit.2.any (registered t m)).filterMap
    (handedOn t)

/-- Of the sensors of module `m`, what was handed on from queue `i`, then what is still in the
queue, is what the sub-HAL committed, under the global handles. -/
def InOrder (t : HandleTable) (s : State) (i m : Nat) : Prop :=
  s.handedOnFrom t i m ++
      ((s.channels i).queue.readable.filter (registered t m)).map (SensorsEvent.globalised t m)
    = ((s.channels i).committed.filter (registered t m)).map (SensorsEvent.globalised t m)

instance (t : HandleTable) (s : State) (i m : Nat) : Decidable (InOrder t s i m) :=
  inferInstanceAs (Decidable (_ = _))

/-- The same for a client, who only has the global handles to tell the sub-HALs apart: what polls
have returned, what is in the array of a poll still running, what is in the queue. -/
def SeenInOrder (t : HandleTable) (s : State) (i m : Nat) : Prop :=
  s.delivered.filter (comesFrom t m) ++ s.poll.inFlight.filter (comesFrom t m) ++
      ((s.channels i).queue.readable.filter (registered t m)).map (SensorsEvent.globalised t m)
    = ((s.channels i).committed.filter (registered t m)).map (SensorsEvent.globalised t m)

instance (t : HandleTable) (s : State) (i m : Nat) : Decidable (SeenInOrder t s i m) :=
  inferInstanceAs (Decidable (_ = _))

theorem State.handedOnFrom_eq (t : HandleTable) (s : State) (i m : Nat) :
    s.handedOnFrom t i m = (s.taken t i m).filterMap fun e => handedOn t (i, some e) := by
  rw [handedOnFrom, taken, List.filterMap_filter, List.filter_filterMap, List.filterMap_filterMap]
  congr 1
  funext visit
  obtain ⟨j, event⟩ := visit
  cases event with
  | none => simp [handedOn, takenFrom]
  | some e =>
    by_cases hji : j = i
    · subst hji
      cases hreg : registered t m e <;> simp [takenFrom, Option.filter, hreg]
    · simp [takenFrom, hji]

/-- Up to the first registered event that `poll` takes, every queue is in order. -/
theorem Delivery.inOrder_iff_index {fulls : List FullHandle} (h : Delivery t s)
    (ht : t.Describes fulls) (i m : Nat) :
    InOrder t s i m ↔ i = m ∨ s.taken t i m = [] := by
  rw [InOrder, s.handedOnFrom_eq, h.fifo i, List.filter_append, List.map_append,
    List.append_cancel_right_eq, ← State.taken, List.filterMap_eq_map_iff_forall_eq_some]
  constructor
  · intro hall
    cases htaken : s.taken t i m with
    | nil => exact Or.inr rfl
    | cons e es =>
      have he : e ∈ s.taken t i m := by simp [htaken]
      exact Or.inl ((handedOn_eq_some_iff ht (List.mem_filter.mp he).2 i).mp (hall e he))
  · rintro (rfl | hnone) e he
    · exact (handedOn_eq_some_iff ht (List.mem_filter.mp he).2 i).mpr rfl
    · simp [hnone] at he

theorem Delivery.seenInOrder {fulls : List FullHandle} (h : Delivery t s)
    (ht : t.Describes fulls) (m : Nat) : SeenInOrder t s m m := by
  have hremap : (fun e => copyEventRemapHandle t e m) = SensorsEvent.globalised t m :=
    funext fun e => copyEventRemapHandle_eq t e m
  rw [SeenInOrder, ← List.filter_append, h.upstream, handedOn_eq_takenFrom ht, h.fifo m,
    List.filter_append, List.map_append, hremap]

/-- **End-to-end delivery.** After initialisation, in every interleaving of the writers with a
client that polls: what the sub-HAL behind queue `i` commits arrives in order, once each and under
its global handles, exactly if every entry of `sub_hw_modules` before its own opened, or as long
as `poll` has taken no registered event from the queue. Registered means that the module reported
the sensor. A poll returns between 1 and `maxReads` events and writes to no other slot. -/
theorem inOrder_iff {hal : SubHals} {blank : SensorT} {g : Globals} {ctx : PollContext}
    (hinit : initialise hal blank = .ok (g, ctx))
    (hs : Transition.Reachable (system ctx.subHwDevices.length g.handles) s) :
    (∀ i device, ctx.subHwDevices[i]? = some device →
      (InOrder g.handles s i device.openedFrom ↔
        (∀ k < device.openedFrom, (hal.openModule k).isSome) ∨
          s.taken g.handles i device.openedFrom = []) ∧
      ((∀ k < device.openedFrom, (hal.openModule k).isSome) →
        SeenInOrder g.handles s i device.openedFrom)) ∧
    s.delivered ++ s.poll.inFlight = s.visits.filterMap (handedOn g.handles) ∧
    (∀ m e, registered g.handles m e = true ↔ e.wellFormed = true ∧
      ∃ r ∈ hal.reportedSensors, r.moduleIndex = m ∧ r.sensor.handle = e.effectiveHandle) ∧
    (∀ m e, registered g.handles m e = true → ∃ handle,
      g.handles.globalToFull.find handle = some ⟨m, e.effectiveHandle⟩ ∧
        e.globalised g.handles m = e.withHandle handle) ∧
    ∀ r ∈ s.returned, 1 ≤ r.count ∧ r.count ≤ r.maxReads ∧
      (∀ k < r.count, (r.data k).isSome) ∧ ∀ k, r.maxReads ≤ k → r.data k = none := by
  have hstate := (initialised_of_initialise hinit).1
  have ht := hstate.handles
  obtain ⟨_, hdelivery⟩ := delivery_of_reachable hs
  refine ⟨fun i device hdevice => ?_, hdelivery.upstream, fun m e => ?_,
    fun m e => globalised_of_registered ht, hdelivery.results⟩
  · rw [hstate.devices] at hdevice
    -- the queue of a module is behind those of the modules before it that opened
    have hindex : i = device.openedFrom ↔
        ∀ k < device.openedFrom, (hal.openModule k).isSome := by
      rw [← hal.openedBefore_eq_iff, ← (SubHals.getElem?_devices hdevice).1]
    refine ⟨by rw [hdelivery.inOrder_iff_index ht, hindex], fun hopened => ?_⟩
    have hseen := hdelivery.seenInOrder ht device.openedFrom
    rwa [← hindex.mpr hopened] at hseen ⊢
  · rw [registered, Bool.and_eq_true, ht.known, List.mem_map]
    simp [ReportedSensor.fullHandle]

/-- Two sub-HALs commit three events, one of them meta-data. A poll returns the first of each, a
second poll has taken the other. -/
theorem inOrder_iff_twoLibraries : ∃ s,
    Transition.Reachable
      (system twoLibrariesInit.2.subHwDevices.length twoLibrariesInit.1.handles) s ∧
    s.delivered = [{ sensor := 1, type := 1 },
      { sensor := 0, type := SENSOR_TYPE_META_DATA, metaDataSensor := 4 }] ∧
    s.poll.inFlight = [{ sensor := 2, type := 4 }] ∧
    InOrder twoLibrariesInit.1.handles s 0 0 ∧ InOrder twoLibrariesInit.1.handles s 1 1 ∧
    SeenInOrder twoLibrariesInit.1.handles s 1 1 := by
  have hrun : Transition.exec
      (system twoLibrariesInit.2.subHwDevices.length twoLibrariesInit.1.handles)
      (initial fun _ _ => { sensor := 0, type := 1 })
      [.writer 0 .lock, .writer 0 .testSpace, .writer 0 (.write { sensor := 0, type := 1 }),
        .writer 1 .lock, .writer 1 .testSpace, .writer 0 (.write { sensor := 3, type := 4 }),
        .writer 1 (.write { sensor := 0, type := SENSOR_TYPE_META_DATA, metaDataSensor := 5 }),
        .writer 1 (.pollReturn none), .writer 1 .relock, .writer 1 .commit,
        .writer 0 (.pollReturn none), .writer 0 .relock, .writer 0 .commit,
        .client (.call 2), .client .lock, .client .scan, .client .copy, .client .dequeue,
        .client .scan, .client .copy, .client .dequeue, .client .scan,
        .client (.call 1), .client .lock, .client .scan, .client .copy, .client .dequeue]
      = some _ := rfl
  have hs := Transition.Reachable.of_exec
    (T := system twoLibrariesInit.2.subHwDevices.length twoLibrariesInit.1.handles) ⟨_, rfl⟩ hrun
  have hall := (inOrder_iff initialise_twoLibraries hs).1
  have hfirst := hall 0 ⟨0, SENSORS_DEVICE_API_VERSION_1_0⟩ rfl
  have hsecond := hall 1 ⟨1, SENSORS_DEVICE_API_VERSION_1_0⟩ rfl
  exact ⟨_, hs, rfl, rfl, hfirst.1.mpr (.inl fun _ _ => rfl),
    hsecond.1.mpr (.inl fun _ _ => rfl), hsecond.2 fun _ _ => rfl⟩

/-- The first library has no sensors and fails to open. The one event of the second is looked up
under index 0 and dropped: neither by queues nor by global handles is it in order. -/
theorem not_inOrder_firstFails :
    ¬ ∀ g ctx s, initialise firstFailsHal { handle := 0, type := 0 } = .ok (g, ctx) →
      Transition.Reachable (system ctx.subHwDevices.length g.handles) s →
      ∀ i device, ctx.subHwDevices[i]? = some device →
        InOrder g.handles s i device.openedFrom ∨ SeenInOrder g.handles s i device.openedFrom := by
  intro h
  have hrun : Transition.exec
      (system firstFailsInit.2.subHwDevices.length firstFailsInit.1.handles)
      (initial fun _ _ => { sensor := 0, type := 1 })
      [.writer 0 .lock, .writer 0 .testSpace, .writer 0 (.write { sensor := 0, type := 1 }),
        .writer 0 (.pollReturn none), .writer 0 .relock, .writer 0 .commit,
        .client (.call 1), .client .lock, .client .scan, .client .copy, .client .dequeue]
      = some _ := rfl
  have horder := h _ _ _ initialise_firstFails (Transition.Reachable.of_exec ⟨_, rfl⟩ hrun) 0
    ⟨1, SENSORS_DEVICE_API_VERSION_1_0⟩ rfl
  revert horder
  decide

end MultiHal

end Mozart.Sensors

import Mozart.Sensors.Delivery

/-!
# Closing the context under running writers

`device__close` closes every sub-HAL device and deletes the context. Nothing stops the threads
that `addSubHwDevice` started, and what they use (their device, their queue, the static mutex)
outlives the context.

* **`closingSystem`**: the writers and the client of `MultiHal` together with one `device__close`.
  The call of a device's `poll` is a step of its own, between the unlock and what the sub-HAL does
  inside; `calls` is a ghost, the calls made on the devices.
* **`closed_device_polled`**: a run in which a closed device is polled.
* **`polls_of_closed_devices`**: by whom, and how long, a closed device can still be polled.
-/

namespace Mozart.Sensors.MultiHal

open SensorEventQueue

/-! ## The system -/

/-- A call on a sub-HAL device. `poll` is called by the writer of some queue. -/
inductive DeviceCall where
  | poll (device : HwDevice) (writer : Nat)
  | close (device : HwDevice)
deriving DecidableEq, Repr

/-- Where `device__close` is: in `close` of the context, about to close the device at `next`, or
done and the context deleted. -/
inductive ClosePc where
  | idle
  | closing (next : Nat)
  | deleted
deriving DecidableEq, Repr

structure ClosingState where
  hal : State
  close : ClosePc
  inPoll : Nat → Bool
  calls : List DeviceCall

inductive ClosingStep where
  | hal (a : Step)
  | callPoll (i : Nat)
  | deviceClose
  | closeNext
  | delete

/-- The sub-HAL acts inside `poll` only. -/
def WriterStep.insidePoll : WriterStep → Bool
  | .write _ | .pollReturn _ => true
  | .lock | .testSpace | .wake | .relock | .commit => false

def closingStep (ctx : PollContext) (t : HandleTable) (s : ClosingState) :
    ClosingStep → Option ClosingState
  | .hal (.writer i a) =>
    if a.insidePoll && !s.inPoll i then none
    else
      (step ctx.subHwDevices.length t s.hal (.writer i a)).map fun hal => { s with
        hal := hal
        inPoll := match a with
          | .pollReturn _ => Function.update s.inPoll i false
          | _ => s.inPoll }
  | .hal (.client a) =>
    -- nobody may use a context that is deleted
    if s.close = .deleted then none
    else (step ctx.subHwDevices.length t s.hal (.client a)).map fun hal => { s with hal := hal }
  | .callPoll i =>
    match ctx.subHwDevices[i]?, (s.hal.channels i).writer with
    | some device, .polling _ =>
      if s.inPoll i then none
      else some { s with
        inPoll := Function.update s.inPoll i true
        calls := s.calls ++ [.poll device i] }
    | _, _ => none
  | .deviceClose => if s.close = .idle then some { s with close := .closing 0 } else none
  | .closeNext =>
    match s.close with
    | .closing next =>
      ctx.subHwDevices[next]?.map fun device => { s with
        close := .closing (next + 1)
        calls := s.calls ++ [.close device] }
    | _ => none
  | .delete =>
    match s.close with
    | .closing next =>
      if next = ctx.subHwDevices.length then some { s with close := .deleted } else none
    | _ => none

def closingSystem (ctx : PollContext) (t : HandleTable) :
    Transition.System ClosingState ClosingStep where
  init s := ∃ mem, s = ⟨initial mem, .idle, fun _ => false, []⟩
  step := closingStep ctx t

variable {ctx : PollContext} {t : HandleTable} {s s' : ClosingState} {i : Nat}

/-! ## What a step does -/

/-- A step moves a thread of `MultiHal`, or calls `poll`, or is one of the closing thread. -/
inductive ClosingMove (ctx : PollContext) (t : HandleTable) (s : ClosingState) :
    ClosingState → Prop where
  | writer {hal : State} {inPoll : Nat → Bool} (i : Nat) (a : WriterStep)
      (hstep : step ctx.subHwDevices.length t s.hal (.writer i a) = some hal) :
      ClosingMove ctx t s { s with hal := hal, inPoll := inPoll }
  | client {hal : State} (a : PollStep) (hopen : s.close ≠ .deleted)
      (hstep : step ctx.subHwDevices.length t s.hal (.client a) = some hal) :
      ClosingMove ctx t s { s with hal := hal }
  | callPoll {i : Nat} {device : HwDevice} {region : Region SensorsEvent}
      (hdevice : ctx.subHwDevices[i]? = some device)
      (hpc : (s.hal.channels i).writer = .polling region) :
      ClosingMove ctx t s { s with
        inPoll := Function.update s.inPoll i true
        calls := s.calls ++ [.poll device i] }
  | deviceClose (hpc : s.close = .idle) : ClosingMove ctx t s { s with close := .closing 0 }
  | closeNext {next : Nat} {device : HwDevice} (hpc : s.close = .closing next)
      (hdevice : ctx.subHwDevices[next]? = some device) :
      ClosingMove ctx t s { s with
        close := .closing (next + 1)
        calls := s.calls ++ [.close device] }
  | delete (hpc : s.close = .closing ctx.subHwDevices.length) :
      ClosingMove ctx t s { s with close := .deleted }

theorem closingMove_of_step {a : ClosingStep} (h : closingStep ctx t s a = some s') :
    ClosingMove ctx t s s' := by
  unfold closingStep at h
  split at h
  · split_ifs at h
    obtain ⟨hal, hstep, rfl⟩ := Option.map_eq_some_iff.mp h
    exact .writer _ _ hstep
  · split_ifs at h with hopen
    obtain ⟨hal, hstep, rfl⟩ := Option.map_eq_some_iff.mp h
    exact .client _ hopen hstep
  -- one case for each label: the threads, the call of `poll`, and the loop of `device__close`
  · split at h
    · rename_i device region hdevice hpc
      split_ifs at h
      cases h
      exact .callPoll hdevice hpc
    · cases h
  · split_ifs at h with hpc
    cases h
    exact .deviceClose hpc
  · split at h
    · rename_i next hpc
      obtain ⟨device, hdevice, rfl⟩ := Option.map_eq_some_iff.mp h
      exact .closeNext hpc hdevice
    · cases h
  · split at h
    · rename_i next hpc
      split_ifs at h with hend
      cases h
      exact .delete (hend ▸ hpc)
    · cases h

/-- **Closing does not disturb the threads**: a run of the whole is a run of `MultiHal`. -/
def closingSimulation (ctx : PollContext) (t : HandleTable) :
    Transition.Simulation (closingSystem ctx t) (system ctx.subHwDevices.length t) where
  abs := ClosingState.hal
  init := by
    rintro s ⟨mem, rfl⟩
    exact ⟨mem, rfl⟩
  step s a s' _ hstep := by
    cases closingMove_of_step hstep with
    | writer i a h => exact .inr ⟨.writer i a, h⟩
    | client a hopen h => exact .inr ⟨.client a, h⟩
    | callPoll | deviceClose | closeNext | delete => exact .inl rfl

theorem hal_reachable (hs : Transition.Reachable (closingSystem ctx t) s) :
    Transition.Reachable (system ctx.subHwDevices.length t) s.hal :=
  (closingSimulation ctx t).reachable hs

/-! ## Regions are not empty -/

theorem WriterMove.region_pos {c c' : Channel} {m m' : Option Thread} {commits : Bool}
    (hinv : c.Inv) (hpos : ∀ region, c.writer.region = some region → 1 ≤ region.bufferSize)
    (h : WriterMove i c m c' m' commits) :
    ∀ region, c'.writer.region = some region → 1 ≤ region.bufferSize := by
  cases h with
  | grant hpc hspace =>
    have hne : c.queue.mSize ≠ c.queue.mCapacity := by simpa [isFull] using hspace
    rintro region ⟨⟩
    exact (hinv.wf.holds_getWritableRegion hne (by decide) hinv.inRange).2
  | @write buffer bufferSize written e hpc hroom =>
    rintro region ⟨⟩
    exact hpos ⟨some buffer, bufferSize, written⟩ (by rw [hpc]; rfl)
  | polled hpc | relock hpc =>
    rintro region ⟨⟩
    exact hpos _ (by rw [hpc]; rfl)
  | _ => simp [WriterPc.region]

/-- A writer in `poll`, or about to call it, has been given at least one slot. -/
theorem region_pos_of_reachable {n : Nat} {s : State}
    (hs : Transition.Reachable (system n t) s) :
    ∀ i region, (s.channels i).writer.region = some region → 1 ≤ region.bufferSize := by
  have key : Inv n t s ∧
      ∀ i region, (s.channels i).writer.region = some region → 1 ≤ region.bufferSize := by
    refine hs.invariant (I := fun s => Inv n t s ∧
      ∀ i region, (s.channels i).writer.region = some region → 1 ≤ region.bufferSize) ?_ ?_
    · rintro s ⟨mem, rfl⟩
      exact ⟨inv_initial n t mem, fun i region h => by cases h⟩
    · rintro s a s' ⟨hinv, hpos⟩ hstep
      rcases move_of_step hstep with ⟨i, c, m, commits, _, hmove, rfl⟩ | hmove
      · refine ⟨hinv.afterWriter hmove, fun j region h => ?_⟩
        change (Function.update s.channels i c j).writer.region = some region at h
        by_cases hj : j = i
        · subst hj
          rw [Function.update_self] at h
          exact hmove.region_pos (hinv.channels j) (hpos j) region h
        · rw [Function.update_of_ne hj] at h
          exact hpos j region h
      · refine ⟨hinv.pollMove hmove, fun j region h => hpos j region ?_⟩
        cases hmove with
        | dequeue hpc =>
          change (Function.update s.channels s.nextReadIndex _ j).writer.region = some region at h
          -- a writer that is signalled is not in `poll`
          by_cases hj : j = s.nextReadIndex
          · subst hj
            rw [Function.update_self] at h
            dsimp only at h
            split at h
            · rwa [WriterPc.region_signal] at h
            · exact h
          · rwa [Function.update_of_ne hj] at h
        | _ => exact h
  exact key.2

/-! ## The calls on the devices -/

def DeviceCall.closed : DeviceCall → Option HwDevice
  | .close device => some device
  | .poll _ _ => none

/-- The devices that have been closed. -/
def ClosePc.closed (ctx : PollContext) : ClosePc → List HwDevice
  | .idle => []
  | .closing next => ctx.subHwDevices.take next
  | .deleted => ctx.subHwDevices

structure ClosingInv (ctx : PollContext) (s : ClosingState) : Prop where
  polls : ∀ device i, .poll device i ∈ s.calls → ctx.subHwDevices[i]? = some device
  closes : s.calls.filterMap DeviceCall.closed = s.close.closed ctx

theorem ClosingInv.move (h : ClosingInv ctx s) (hmove : ClosingMove ctx t s s') :
    ClosingInv ctx s' := by
  obtain ⟨hpolls, hcloses⟩ := h
  cases hmove with
  | writer | client => exact ⟨hpolls, hcloses⟩
  | @callPoll i device region hdevice hpc =>
    refine ⟨fun device' j hmem => ?_, ?_⟩
    · obtain hmem | hmem := List.mem_append.mp hmem
      · exact hpolls device' j hmem
      · cases List.mem_singleton.mp hmem
        exact hdevice
    · rw [List.filterMap_append, hcloses]
      exact List.append_nil _
  | deviceClose hpc =>
    rw [hpc] at hcloses
    exact ⟨hpolls, hcloses⟩
  | @closeNext next device hpc hdevice =>
    rw [hpc] at hcloses
    refine ⟨fun device' j hmem => ?_, ?_⟩
    · obtain hmem | hmem := List.mem_append.mp hmem
      · exact hpolls device' j hmem
      · cases List.mem_singleton.mp hmem
    -- the loop goes through the devices in order
    · show (s.calls ++ [DeviceCall.close device]).filterMap DeviceCall.closed
        = ctx.subHwDevices.take (next + 1)
      rw [List.filterMap_append, hcloses, List.take_add_one, hdevice]
      rfl
  | delete hpc =>
    rw [hpc] at hcloses
    exact ⟨hpolls, hcloses.trans (List.take_length ..)⟩

theorem closingInv_of_reachable (hs : Transition.Reachable (closingSystem ctx t) s) :
    ClosingInv ctx s := by
  refine hs.invariant (I := ClosingInv ctx) ?_ fun s a s' h hstep =>
    h.move (closingMove_of_step hstep)
  rintro s ⟨mem, rfl⟩
  exact ⟨by simp, rfl⟩

/-! ## After the context is deleted -/

/-- The queue is full and its writer neither in `poll` nor about to call it. -/
def Channel.Stuck (c : Channel) : Prop := c.writer.region = none ∧ c.queue.isFull = true

/-- Where nobody takes events out, a writer does not get out of a full queue. -/
theorem WriterMove.stuck {c c' : Channel} {m m' : Option Thread} {commits : Bool}
    (hstuck : c.Stuck) (h : WriterMove i c m c' m' commits) : c'.Stuck := by
  obtain ⟨hregion, hfull⟩ := hstuck
  cases h with
  | lock hpc | block hpc | wake hpc => exact ⟨rfl, hfull⟩
  | grant hpc hspace => simp [hfull] at hspace
  | write e hpc | giveUp hpc | polled hpc | relock hpc | commit hpc =>
    rw [hpc] at hregion
    cases hregion

/-- What lasts after the deletion in `s`. -/
structure AfterDelete (s s' : ClosingState) : Prop where
  deleted : s'.close = .deleted
  visits : s'.hal.visits = s.hal.visits
  stuck : ∀ i, (s.hal.channels i).Stuck → (s'.hal.channels i).Stuck ∧
    ∀ device, s'.calls.count (.poll device i) = s.calls.count (.poll device i)

theorem AfterDelete.move {s₁ s₂ : ClosingState} (h : AfterDelete s s₁)
    (hmove : ClosingMove ctx t s₁ s₂) : AfterDelete s s₂ := by
  obtain ⟨hdeleted, hvisits, hstuck⟩ := h
  cases hmove with
  | @writer hal inPoll i a hstep =>
    simp only [step] at hstep
    split_ifs at hstep
    obtain ⟨c, m, commits, hmove, rfl⟩ := writerMove_of_step hstep
    refine ⟨hdeleted, hvisits, fun k hk => ⟨?_, (hstuck k hk).2⟩⟩
    show (Function.update s₁.hal.channels i c k).Stuck
    by_cases hki : k = i
    · subst hki
      rw [Function.update_self]
      exact hmove.stuck (hstuck k hk).1
    · rw [Function.update_of_ne hki]
      exact (hstuck k hk).1
  | client a hopen => exact absurd hdeleted hopen
  | @callPoll i device region hdevice hpc =>
    refine ⟨hdeleted, hvisits, fun k hk => ⟨(hstuck k hk).1, fun device' => ?_⟩⟩
    have hne : (DeviceCall.poll device i) ≠ .poll device' k := by
      rintro ⟨⟩
      have hregion := (hstuck i hk).1.1
      rw [hpc] at hregion
      cases hregion
    rw [List.count_append, (hstuck k hk).2, List.count_singleton, if_neg (by simpa using hne),
      Nat.add_zero]
  | deviceClose hpc | closeNext hpc | delete hpc =>
    rw [hdeleted] at hpc
    cases hpc

theorem length_readable_le {c : Channel} (hinv : c.Inv) :
    c.queue.readable.length ≤ SENSOR_EVENT_QUEUE_CAPACITY.toNat := by
  have hsize := hinv.wf.size_nonneg
  have hle := hinv.wf.size_le
  rw [hinv.capacity] at hle
  rw [readable, CircularBuffer.length_window]
  omega

/-- **By whom, and how long, a closed device can be polled**, in every interleaving of the writers
and a polling client with `device__close`. A device's `poll` is only ever called by the writer that
was started for it; `device__close` closes the devices one after the other, each once, and then
deletes the context; `poll` is only called with room in the queue; and what a writer still commits
after the deletion fits into the slots its queue had free then, so that one with a full queue that
is not in `poll` yet never calls it again. -/
theorem polls_of_closed_devices (hs : Transition.Reachable (closingSystem ctx t) s) :
    (∀ device i, .poll device i ∈ s.calls → ctx.subHwDevices[i]? = some device) ∧
    s.calls.filterMap DeviceCall.closed = s.close.closed ctx ∧
    (∀ i s', closingStep ctx t s (.callPoll i) = some s' →
      (s.hal.channels i).queue.isFull = false) ∧
    (s.close = .deleted → ∀ as s', Transition.exec (closingSystem ctx t) s as = some s' → ∀ i,
      (s'.hal.channels i).committed.length + (s.hal.channels i).queue.readable.length
          ≤ (s.hal.channels i).committed.length + SENSOR_EVENT_QUEUE_CAPACITY.toNat ∧
        ((s.hal.channels i).writer.region = none → (s.hal.channels i).queue.isFull = true →
          ∀ device, s'.calls.count (.poll device i) = s.calls.count (.poll device i))) := by
  have hcalls := closingInv_of_reachable hs
  have hhal := hal_reachable hs
  obtain ⟨hinv, hdelivery⟩ := delivery_of_reachable hhal
  refine ⟨hcalls.polls, hcalls.closes, fun i s' hstep => ?_, fun hdeleted as s' hexec i => ?_⟩
  · -- the region the writer holds lies in free slots
    obtain ⟨region, hpc⟩ : ∃ region, (s.hal.channels i).writer = .polling region := by
      simp only [closingStep] at hstep
      split at hstep
      · exact ⟨_, ‹_›⟩
      · cases hstep
    have hregion : (s.hal.channels i).writer.region = some region := by
      rw [hpc]
      rfl
    have hpos := region_pos_of_reachable hhal i region hregion
    have hfits := ((hinv.channels i).holds region hregion).fits_free
    simp only [isFull, beq_eq_false_iff_ne]
    omega
  · have hafter : AfterDelete s s' := Transition.exec_invariant (I := AfterDelete s)
      (fun s₁ a s₂ _ h hstep => h.move (closingMove_of_step hstep))
      ⟨hdeleted, rfl, fun i hi => ⟨hi, fun _ => rfl⟩⟩ hexec
    obtain ⟨hinv', hdelivery'⟩ := delivery_of_reachable (hal_reachable (hs.exec hexec))
    refine ⟨?_, fun hregion hfull => (hafter.stuck i ⟨hregion, hfull⟩).2⟩
    -- nothing is taken out any more, so what is committed stays in the queue
    have hbefore := congrArg List.length (hdelivery.fifo i)
    have hafterwards := congrArg List.length (hdelivery'.fifo i)
    rw [List.length_append] at hbefore hafterwards
    rw [hafter.visits] at hafterwards
    have hroom := length_readable_le (hinv'.channels i)
    omega

/-- One sub-HAL, whose context is deleted before its writer starts. -/
theorem polls_of_closed_devices_oneSensor : ∃ (s : ClosingState) (device : HwDevice),
    s.close = .deleted ∧ s.calls = [.close device] ∧
      ∀ as s', Transition.exec (closingSystem oneSensorInit.2 oneSensorInit.1.handles) s as
        = some s' → (s'.hal.channels 0).committed.length ≤ 36 := by
  obtain ⟨s, hrun, hclose, hcalls, hnone⟩ : ∃ s,
      Transition.exec (closingSystem oneSensorInit.2 oneSensorInit.1.handles)
        ⟨initial fun _ _ => { sensor := 0, type := 1 }, .idle, fun _ => false, []⟩
        [.deviceClose, .closeNext, .delete] = some s ∧
      s.close = .deleted ∧ s.calls = [.close ⟨0, SENSORS_DEVICE_API_VERSION_1_0⟩] ∧
      (s.hal.channels 0).committed = [] := ⟨_, rfl, rfl, rfl, rfl⟩
  obtain ⟨-, -, -, hdeleted⟩ := polls_of_closed_devices (.of_exec ⟨_, rfl⟩ hrun)
  refine ⟨s, _, hclose, hcalls, fun as s' hexec => ?_⟩
  have hroom := (hdeleted hclose as s' hexec 0).1
  rw [hnone] at hroom
  exact Nat.le_trans (Nat.le_add_right _ _) hroom

/-- **A closed device is polled**: its writer enters the loop after `device__close` got to it. -/
theorem closed_device_polled : ∃ (s : ClosingState) (device : HwDevice) (i : Nat),
    Transition.Reachable (closingSystem oneSensorInit.2 oneSensorInit.1.handles) s ∧
      s.calls = [.close device, .poll device i] := by
  have hrun : Transition.exec (closingSystem oneSensorInit.2 oneSensorInit.1.handles)
      ⟨initial fun _ _ => { sensor := 0, type := 1 }, .idle, fun _ => false, []⟩
      [.deviceClose, .closeNext, .hal (.writer 0 .lock), .hal (.writer 0 .testSpace),
        .callPoll 0] = some _ := rfl
  exact ⟨_, _, 0, .of_exec ⟨_, rfl⟩ hrun, rfl⟩

end Mozart.Sensors.MultiHal

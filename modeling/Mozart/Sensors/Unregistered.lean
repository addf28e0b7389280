import Mozart.Sensors.Delivery

/-!
# Events of unknown sensors

`poll` looks at `sensor` to drop the events of sensors that are in no table. That is where
`copy_event_remap_handle` puts the `-1` of a normal event; the `-1` of a meta-data event goes into
`meta_data.sensor`, and such an event is passed on.

* **`handedOn_registered_iff`**: only events of registered sensors are passed on, and only events
  of unknown sensors are dropped, exactly as long as every meta-data event taken from a queue is of
  a registered sensor.
* **`unknown_metaData_handed_on`**: a run in which one is not.
-/

namespace Mozart.Sensors.MultiHal

variable {n : Nat} {t : HandleTable} {fulls : List FullHandle} {s : State} {i : Nat}
  {e : SensorsEvent}

/-- An event of a registered sensor is passed on under a handle the table knows. -/
theorem handedOn_of_registered (ht : t.Describes fulls) (hwell : e.wellFormed = true)
    (h : (t.fullToGlobal.find ⟨i, e.effectiveHandle⟩).isSome) :
    handedOn t (i, some e) = some (copyEventRemapHandle t e i) ∧
      (copyEventRemapHandle t e i).effectiveHandle ≠ -1 ∧
      (t.globalToFull.find (copyEventRemapHandle t e i).effectiveHandle).isSome := by
  have hne := remap_sensor_ne ht (show registered t i e = true by rw [registered, hwell, h]; rfl)
  obtain ⟨handle, hfind⟩ := Option.isSome_iff_exists.mp h
  have hhandle : (copyEventRemapHandle t e i).effectiveHandle = handle := by
    rw [copyEventRemapHandle_eq, SensorsEvent.effectiveHandle_withHandle,
      HandleTable.getGlobalHandle, hfind]
  have hpos := pos_of_find ht hfind
  refine ⟨by simp [handedOn, Option.filter, hne], by omega, ?_⟩
  rw [hhandle, ht.full _ _ hfind]
  rfl

/-- A normal event of an unknown sensor is dropped. -/
theorem handedOn_of_unknown (htype : e.type ≠ SENSOR_TYPE_META_DATA)
    (h : t.fullToGlobal.find ⟨i, e.effectiveHandle⟩ = none) : handedOn t (i, some e) = none := by
  have hsensor : (copyEventRemapHandle t e i).sensor = -1 := by
    rw [copyEventRemapHandle_eq, HandleTable.getGlobalHandle, h]
    simp [SensorsEvent.withHandle, htype]
  simp [handedOn, Option.filter, hsensor]

/-- A meta-data event of an unknown sensor is passed on with the handle `-1`: its `sensor`, which
is what `poll` looks at, is still 0. -/
theorem handedOn_of_unknown_metaData (hwell : e.wellFormed = true)
    (htype : e.type = SENSOR_TYPE_META_DATA)
    (h : t.fullToGlobal.find ⟨i, e.effectiveHandle⟩ = none) :
    handedOn t (i, some e) = some (copyEventRemapHandle t e i) ∧
      (copyEventRemapHandle t e i).effectiveHandle = -1 := by
  have hzero : e.sensor = 0 := by simpa [SensorsEvent.wellFormed, htype] using hwell
  have hsensor : (copyEventRemapHandle t e i).sensor = 0 := by
    rw [copyEventRemapHandle_eq]
    simp [SensorsEvent.withHandle, htype, hzero]
  refine ⟨by simp [handedOn, Option.filter, hsensor], ?_⟩
  rw [copyEventRemapHandle_eq, SensorsEvent.effectiveHandle_withHandle,
    HandleTable.getGlobalHandle, h]

/-- What was taken from a queue had been committed to it. -/
theorem Delivery.committed_of_visit (h : Delivery t s) (hvisit : (i, some e) ∈ s.visits) :
    e ∈ (s.channels i).committed := by
  rw [h.fifo i]
  exact List.mem_append_left _ (List.mem_filterMap.mpr ⟨_, hvisit, if_pos rfl⟩)

/-- **What `poll` passes on and what it drops**, in every interleaving of the writers, which
commit meta-data events with `sensor` 0, with a client that polls. The events passed on (returned,
or in the array of the running call) all carry a registered handle, never `-1`, and every event
taken from a queue and not passed on is of an unknown sensor, if and only if every meta-data event
taken from a queue is of a registered sensor. -/
theorem handedOn_registered_iff {hal : SubHals} {blank : SensorT} {g : Globals}
    {ctx : PollContext} (hinit : initialise hal blank = .ok (g, ctx))
    (hs : Transition.Reachable (system ctx.subHwDevices.length g.handles) s)
    (hwell : ∀ i, ∀ e ∈ (s.channels i).committed, e.wellFormed = true) :
    s.delivered ++ s.poll.inFlight = s.visits.filterMap (handedOn g.handles) ∧
    (((∀ e ∈ s.delivered ++ s.poll.inFlight, e.effectiveHandle ≠ -1 ∧
        (g.handles.globalToFull.find e.effectiveHandle).isSome) ∧
      ∀ i e, (i, some e) ∈ s.visits → handedOn g.handles (i, some e) = none →
        g.handles.fullToGlobal.find ⟨i, e.effectiveHandle⟩ = none) ↔
      ∀ i e, (i, some e) ∈ s.visits → e.type = SENSOR_TYPE_META_DATA →
        (g.handles.fullToGlobal.find ⟨i, e.effectiveHandle⟩).isSome) := by
  have ht := (initialised_of_initialise hinit).1.handles
  obtain ⟨-, hdelivery⟩ := delivery_of_reachable hs
  refine ⟨hdelivery.upstream, ?_⟩
  rw [hdelivery.upstream]
  constructor
  -- an unknown meta-data event is passed on with the handle `-1`
  · rintro ⟨hregistered, -⟩ i e hvisit htype
    by_contra hunknown
    obtain ⟨hpassed, hbad⟩ := handedOn_of_unknown_metaData
      (hwell i e (hdelivery.committed_of_visit hvisit)) htype (by simpa using hunknown)
    exact (hregistered _ (List.mem_filterMap.mpr ⟨_, hvisit, hpassed⟩)).1 hbad
  · intro hmeta
    -- any other event of an unknown sensor is dropped, so what is passed on was registered
    have hknown : ∀ i e, (i, some e) ∈ s.visits → handedOn g.handles (i, some e) ≠ none →
        (g.handles.fullToGlobal.find ⟨i, e.effectiveHandle⟩).isSome := by
      intro i e hvisit hpassed
      by_cases htype : e.type = SENSOR_TYPE_META_DATA
      · exact hmeta i e hvisit htype
      · by_contra hunknown
        exact hpassed (handedOn_of_unknown htype (by simpa using hunknown))
    constructor
    · intro e' he'
      obtain ⟨⟨i, event⟩, hvisit, hpassed⟩ := List.mem_filterMap.mp he'
      cases event with
      | none => cases hpassed
      | some e =>
        have hsome := hknown i e hvisit (by simp [hpassed])
        obtain ⟨hsame, hregistered⟩ := handedOn_of_registered ht
          (hwell i e (hdelivery.committed_of_visit hvisit)) hsome
        cases hsame.symm.trans hpassed
        exact hregistered
    · intro i e hvisit hdropped
      by_contra hsome
      have hpassed := (handedOn_of_registered ht
        (hwell i e (hdelivery.committed_of_visit hvisit))
        (Option.isSome_iff_ne_none.mpr hsome)).1
      cases hdropped.symm.trans hpassed

/-- The run of one sub-HAL that delivers the event `e` to a client that polls. -/
def oneEventRun (e : SensorsEvent) : List Step :=
  [.writer 0 .lock, .writer 0 .testSpace, .writer 0 (.write e), .writer 0 (.pollReturn none),
    .writer 0 .relock, .writer 0 .commit, .client (.call 1), .client .lock, .client .scan,
    .client .copy, .client .dequeue, .client .scan]

/-- A meta-data event of the one sensor there is. -/
theorem handedOn_registered_iff_oneSensor : ∃ (s : State) (t : HandleTable),
    s.delivered = [{ sensor := 0, type := SENSOR_TYPE_META_DATA, metaDataSensor := 1 }] ∧
      ∀ e ∈ s.delivered ++ s.poll.inFlight, e.effectiveHandle ≠ -1 ∧
        (t.globalToFull.find e.effectiveHandle).isSome := by
  have hrun : Transition.exec (system oneSensorInit.2.subHwDevices.length oneSensorInit.1.handles)
      (initial fun _ _ => { sensor := 0, type := 1 })
      (oneEventRun { sensor := 0, type := SENSOR_TYPE_META_DATA }) = some _ := rfl
  have hs := Transition.Reachable.of_exec
    (T := system oneSensorInit.2.subHwDevices.length oneSensorInit.1.handles) ⟨_, rfl⟩ hrun
  have h := handedOn_registered_iff initialise_oneSensor hs fun i e he => by
    cases i with
    | zero =>
      cases List.mem_singleton.mp he
      rfl
    | succ i => cases he
  refine ⟨_, _, rfl, (h.2.mpr fun i e hvisit _ => ?_).1⟩
  cases List.mem_singleton.mp hvisit
  rfl

/-- **A meta-data event of an unknown sensor is returned**, with the handle `-1`. -/
theorem unknown_metaData_handed_on : ∃ (s : State) (e : SensorsEvent),
    Transition.Reachable
      (system oneSensorInit.2.subHwDevices.length oneSensorInit.1.handles) s ∧
    (∀ i, ∀ e ∈ (s.channels i).committed, e.wellFormed = true) ∧
    e ∈ s.delivered ∧ e.effectiveHandle = -1 ∧
      oneSensorInit.1.handles.globalToFull.find e.effectiveHandle = none := by
  have hrun : Transition.exec (system oneSensorInit.2.subHwDevices.length oneSensorInit.1.handles)
      (initial fun _ _ => { sensor := 0, type := 1 })
      (oneEventRun { sensor := 0, type := SENSOR_TYPE_META_DATA, metaDataSensor := 7 })
        = some _ := rfl
  refine ⟨_, { sensor := 0, type := SENSOR_TYPE_META_DATA, metaDataSensor := -1 },
    Transition.Reachable.of_exec ⟨_, rfl⟩ hrun, fun i e he => ?_, List.mem_singleton.mpr rfl, rfl,
    rfl⟩
  cases i with
  | zero =>
    cases List.mem_singleton.mp he
    rfl
  | succ i => cases he

end Mozart.Sensors.MultiHal

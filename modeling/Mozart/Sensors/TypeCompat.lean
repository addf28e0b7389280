import Mozart.Sensors.Delivery

/-!
# Private sensor types on their way to the framework

Sub-HALs written before the private range existed number their own sensor types right behind the
standard ones. `convert.cpp` of the 1.0 sensors service moves those types into the private range,
once for the sensor list and once for every event. Nothing checks that the two agree:

* `convertLegacySensorType` leaves no type between the standard ones and the private range.
* `Sourced`: an event that `poll` handed on was committed by the sub-HAL of some queue.
* **`delivered_types_listed`**: what reaches the framework about a sensor has the type under which
  the sensor list announced it.
-/

namespace Mozart.Sensors

/-! ## `convert.cpp` -/

def SENSOR_TYPE_ACCELEROMETER_UNCALIBRATED : Int := 35
def SENSOR_TYPE_DEVICE_PRIVATE_BASE : Int := 0x10000

/-- `isLegacyPrivateSensorType`. -/
def isLegacyPrivateSensorType (type : Int) : Bool :=
  type > SENSOR_TYPE_ACCELEROMETER_UNCALIBRATED && type < SENSOR_TYPE_DEVICE_PRIVATE_BASE

/-- `convertLegacySensorType`. -/
def convertLegacySensorType (type : Int) : Int :=
  if isLegacyPrivateSensorType type then SENSOR_TYPE_DEVICE_PRIVATE_BASE + type else type

/-- The fields of `SensorInfo` that `convertFromSensor` fills up to `power`. -/
structure SensorInfo where
  name : String
  vendor : String
  version : Int
  sensorHandle : Int
  type : Int
  maxRange : Rat
  resolution : Rat
  power : Rat
deriving DecidableEq, Repr

/-- `convertFromSensor`. -/
def convertFromSensor (src : SensorT) : SensorInfo where
  name := src.name
  vendor := src.vendor
  version := src.version
  sensorHandle := src.handle
  type := convertLegacySensorType src.type
  maxRange := src.maxRange
  resolution := src.resolution
  power := src.power

/-- `Event`, without the payload. -/
structure Event where
  sensorHandle : Int
  sensorType : Int
  timestamp : Int
deriving DecidableEq, Repr

/-- `convertFromSensorEvent`, up to the payload of the event. -/
def convertFromSensorEvent (src : SensorsEvent) : Event where
  sensorHandle := src.sensor
  sensorType := convertLegacySensorType src.type
  timestamp := src.timestamp

theorem isLegacyPrivateSensorType_iff (type : Int) :
    isLegacyPrivateSensorType type = true ↔ 35 < type ∧ type < 0x10000 := by
  rw [isLegacyPrivateSensorType, Bool.and_eq_true, decide_eq_true_eq, decide_eq_true_eq]
  rfl

/-- The framework sees no type between the standard ones and the private range. -/
theorem isLegacyPrivateSensorType_convert (type : Int) :
    isLegacyPrivateSensorType (convertLegacySensorType type) = false := by
  unfold convertLegacySensorType
  split
  · next hlegacy =>
    rw [isLegacyPrivateSensorType_iff] at hlegacy
    rw [Bool.eq_false_iff, ne_eq, isLegacyPrivateSensorType_iff, SENSOR_TYPE_DEVICE_PRIVATE_BASE]
    omega
  · next hother => simpa using hother

/-! ## The sensor list -/

theorem type_fixSensorFlags (version : Int) (sensor : SensorT) :
    (fixSensorFlags version sensor).type = sensor.type := by
  unfold fixSensorFlags
  split_ifs <;> rfl

theorem type_globalSensor (version : Int) (i : Nat) (r : ReportedSensor) :
    (globalSensor version i r).type = r.sensor.type := by
  rw [globalSensor, type_fixSensorFlags]

/-- The entries of the sensor list are the reported sensors, numbered from 1. -/
theorem Initialised.mem_list {hal : SubHals} {g : Globals} {ctx : PollContext}
    (h : Initialised hal g ctx) : ∃ list, g.globalSensorsList = some list ∧
      (∀ (i : Nat) r, hal.reportedSensors[i]? = some r → ∃ sensor ∈ list,
        sensor.handle = i + 1 ∧ sensor.type = r.sensor.type) ∧
      ∀ sensor ∈ list, ∃ (i : Nat) (r : ReportedSensor), hal.reportedSensors[i]? = some r ∧
        sensor.handle = i + 1 ∧ sensor.type = r.sensor.type := by
  obtain ⟨list, hlist, hlength, hentries⟩ := h.list
  refine ⟨list, hlist, fun i r hr => ?_, fun sensor hsensor => ?_⟩
  · obtain ⟨_, version, _, _, hget⟩ := hentries i r hr
    exact ⟨_, List.mem_of_getElem? hget, handle_globalSensor version i r,
      type_globalSensor version i r⟩
  · obtain ⟨i, hi⟩ := List.getElem?_of_mem hsensor
    have hlt : i < hal.reportedSensors.length := by
      rw [← hlength]
      exact (List.getElem?_eq_some_iff.mp hi).1
    have hr := List.getElem?_eq_getElem hlt
    obtain ⟨_, version, _, _, hget⟩ := hentries i _ hr
    obtain rfl : globalSensor version i _ = sensor := Option.some.inj (hget.symm.trans hi)
    exact ⟨i, _, hr, handle_globalSensor version i _, type_globalSensor version i _⟩

/-! ## Where a delivered event comes from -/

namespace MultiHal

variable {n : Nat} {t : HandleTable} {s s' : State} {e : SensorsEvent}

/-- Only the queues of `sub_hw_devices` ever hold anything. -/
def OnlyQueues (n : Nat) (s : State) : Prop := ∀ i, n ≤ i → (s.channels i).committed = []

theorem PollMove.committed (h : PollMove n t s s') (i : Nat) :
    (s'.channels i).committed = (s.channels i).committed := by
  cases h with
  | dequeue hpc =>
    show (Function.update s.channels s.nextReadIndex _ i).committed = _
    by_cases hi : i = s.nextReadIndex
    · subst hi
      rw [Function.update_self]
    · rw [Function.update_of_ne hi]
  | _ => rfl

theorem onlyQueues_of_reachable (hs : Transition.Reachable (system n t) s) : OnlyQueues n s := by
  refine hs.invariant (I := OnlyQueues n) ?_ ?_
  · rintro s ⟨mem, rfl⟩ i -
    rfl
  · intro s a s' h hstep i hi
    rcases move_of_step hstep with ⟨j, c, m, commits, hj, -, rfl⟩ | hmove
    · show (Function.update s.channels j c i).committed = []
      rw [Function.update_of_ne (by omega)]
      exact h i hi
    · rw [hmove.committed]
      exact h i hi

/-- The event that `poll` made of a committed one. -/
structure Sourced (n : Nat) (t : HandleTable) (s : State) (e : SensorsEvent) (i : Nat)
    (source : SensorsEvent) : Prop where
  queue : i < n
  committed : source ∈ (s.channels i).committed
  remapped : e = copyEventRemapHandle t source i
  kept : e.sensor ≠ -1

/-- **Every delivered event has a source.** -/
theorem sourced_of_delivered (hs : Transition.Reachable (system n t) s) (he : e ∈ s.delivered) :
    ∃ i source, Sourced n t s e i source := by
  obtain ⟨-, hfifo, hupstream, -⟩ := delivery_of_reachable hs
  have hhanded : e ∈ s.visits.filterMap (handedOn t) := by
    rw [← hupstream]
    exact List.mem_append_left _ he
  obtain ⟨⟨i, taken⟩, hvisit, hkept⟩ := List.mem_filterMap.mp hhanded
  rw [handedOn, Option.filter_eq_some_iff, Option.map_eq_some_iff] at hkept
  obtain ⟨⟨source, htaken, hremap⟩, hsensor⟩ := hkept
  have hcommitted : source ∈ (s.channels i).committed := by
    rw [hfifo i]
    refine List.mem_append_left _ (List.mem_filterMap.mpr ⟨(i, taken), hvisit, ?_⟩)
    simpa [takenFrom] using htaken
  refine ⟨i, source, ?_, hcommitted, hremap.symm, by simpa using hsensor⟩
  by_contra hi
  rw [onlyQueues_of_reachable hs i (by omega)] at hcommitted
  exact List.not_mem_nil hcommitted

/-- Outside meta-data events the remapped event keeps its type, and its handle is looked up. -/
theorem copyEventRemapHandle_data (t : HandleTable) {source : SensorsEvent}
    (hdata : source.type ≠ SENSOR_TYPE_META_DATA) (i : Nat) :
    copyEventRemapHandle t source i
      = { source with sensor := t.getGlobalHandle ⟨i, source.sensor⟩ } := by
  rw [copyEventRemapHandle_eq]
  simp [SensorsEvent.withHandle, SensorsEvent.effectiveHandle, hdata]

theorem type_copyEventRemapHandle (t : HandleTable) (source : SensorsEvent) (i : Nat) :
    (copyEventRemapHandle t source i).type = source.type := by
  unfold copyEventRemapHandle
  split <;> rfl

/-- The handle of a delivered data event is that of a sensor its sub-HAL reported. -/
theorem Sourced.reported {hal : SubHals} {i : Nat} {source : SensorsEvent}
    (ht : t.Describes (hal.reportedSensors.map ReportedSensor.fullHandle))
    (h : Sourced n t s e i source) (hdata : e.type ≠ SENSOR_TYPE_META_DATA) :
    ∃ (k : Nat) (r : ReportedSensor), hal.reportedSensors[k]? = some r ∧ e.sensor = k + 1 ∧
      r.moduleIndex = i ∧ r.sensor.handle = source.sensor ∧ e.type = source.type := by
  have htype : e.type = source.type := by rw [h.remapped, type_copyEventRemapHandle]
  have hsensor : e.sensor = t.getGlobalHandle ⟨i, source.sensor⟩ := by
    rw [h.remapped, copyEventRemapHandle_data t (by rwa [← htype]) i]
  cases hfind : t.fullToGlobal.find ⟨i, source.sensor⟩ with
  | none =>
    have hkept := h.kept
    simp [hsensor, HandleTable.getGlobalHandle, hfind] at hkept
  | some handle =>
    have hglobal := ht.full _ _ hfind
    have hpos := pos_of_find ht hfind
    rw [ht.global, if_pos hpos, List.getElem?_map, Option.map_eq_some_iff] at hglobal
    obtain ⟨r, hr, hfull⟩ := hglobal
    have hhandle : e.sensor = handle := by rw [hsensor, HandleTable.getGlobalHandle, hfind]
    simp only [ReportedSensor.fullHandle, FullHandle.mk.injEq] at hfull
    exact ⟨(handle - 1).toNat, r, hr, by omega, by omega, hfull.2, htype⟩

/-! ## The list and the events agree -/

/-- The sub-HAL at position `m` of `sub_hw_modules` sends the event under the type its own
sensor list gives the sensor. -/
def KeepsType (hal : SubHals) (m : Nat) (e : SensorsEvent) : Prop :=
  ∀ r ∈ hal.reportedSensors, r.moduleIndex = m → r.sensor.handle = e.sensor →
    r.sensor.type = e.type

/-- **Sensor list and events agree on the types.** No sub-HAL failed to open, and each sends its
data events under the types it reported. Then in every interleaving, whatever `poll` has returned
about a sensor is, after `convert.cpp`, an event of exactly one announced handle and of the type
announced with it, and that type is not a legacy private one. -/
theorem delivered_types_listed {hal : SubHals} {blank : SensorT} {g : Globals} {ctx : PollContext}
    (hinit : initialise hal blank = .ok (g, ctx))
    (hopen : ∀ m < hal.modules.length, (hal.openModule m).isSome)
    (hs : Transition.Reachable (system ctx.subHwDevices.length g.handles) s)
    (hkeeps : ∀ i device, ctx.subHwDevices[i]? = some device →
      ∀ e ∈ (s.channels i).committed, e.type ≠ SENSOR_TYPE_META_DATA →
        KeepsType hal device.openedFrom e) :
    ∃ list, g.globalSensorsList = some list ∧
      ∀ e ∈ s.delivered, e.type ≠ SENSOR_TYPE_META_DATA →
        (∃ sensor ∈ list,
          (convertFromSensor sensor).sensorHandle = (convertFromSensorEvent e).sensorHandle) ∧
        (∀ sensor ∈ list,
          (convertFromSensor sensor).sensorHandle = (convertFromSensorEvent e).sensorHandle →
            (convertFromSensor sensor).type = (convertFromSensorEvent e).sensorType) ∧
        isLegacyPrivateSensorType (convertFromSensorEvent e).sensorType = false := by
  have hinitialised := (initialised_of_initialise hinit).1
  obtain ⟨list, hlist, hlisted, hentry⟩ := hinitialised.mem_list
  refine ⟨list, hlist, fun e he hdata => ?_⟩
  obtain ⟨i, source, hsourced⟩ := sourced_of_delivered hs he
  obtain ⟨k, r, hr, hsensor, hmodule, hhandle, htype⟩ :=
    hsourced.reported hinitialised.handles hdata
  -- device `i` was opened from entry `i`, so the event carries the type reported there
  have hi : i < hal.modules.length := by
    have hqueue := hsourced.queue
    rw [hinitialised.devices, SubHals.length_devices] at hqueue
    rwa [(hal.openedBefore_eq_iff hal.modules.length).mpr hopen] at hqueue
  obtain ⟨version, hversion⟩ := Option.isSome_iff_exists.mp (hopen i hi)
  have hdevice : ctx.subHwDevices[i]? = some ⟨i, version⟩ := by
    rw [hinitialised.devices,
      (hal.devices_at_iff hi).mpr (.inl fun m hm => hopen m (by omega)), hversion]
    rfl
  have hreported : r.sensor.type = e.type := by
    rw [htype]
    exact hkeeps i _ hdevice source hsourced.committed (by rwa [← htype]) r
      (List.mem_of_getElem? hr) hmodule hhandle
  refine ⟨?_, fun sensor hmem hsame => ?_, isLegacyPrivateSensorType_convert _⟩
  · obtain ⟨sensor, hmem, hnumber, -⟩ := hlisted k r hr
    refine ⟨sensor, hmem, ?_⟩
    show sensor.handle = e.sensor
    rw [hnumber, hsensor]
  · obtain ⟨k', r', hr', hnumber, hlistedType⟩ := hentry sensor hmem
    change sensor.handle = e.sensor at hsame
    -- one number, one entry
    obtain rfl : k' = k := by omega
    obtain rfl : r' = r := Option.some.inj (hr'.symm.trans hr)
    show convertLegacySensorType sensor.type = convertLegacySensorType e.type
    rw [hlistedType, hreported]

/-- One library whose only sensor has a type of its own, right behind the standard ones. -/
def privateSensorHal : SubHals :=
  { oneSensorHal with getSensorsList := fun _ => [{ handle := 7, type := 40 }] }

/-- What initialisation leaves for it. -/
def privateSensorInit : Globals × PollContext :=
  match initialise privateSensorHal { handle := 0, type := 0 } with
  | .ok result => result
  | .error _ => ({}, ⟨[]⟩)

theorem privateSensorInit_devices :
    privateSensorInit.2.subHwDevices = [⟨0, SENSORS_DEVICE_API_VERSION_1_0⟩] := rfl

theorem keepsType_private : KeepsType privateSensorHal 0 { sensor := 7, type := 40 } := by
  intro r hr _ _
  obtain rfl : r = ⟨0, 0, { handle := 7, type := 40 }⟩ := List.mem_singleton.mp hr
  rfl

/-- The sub-HAL commits one event and the client polls it. -/
theorem private_run : ∃ s,
    Transition.Reachable
        (system privateSensorInit.2.subHwDevices.length privateSensorInit.1.handles) s ∧
      (s.channels 0).committed = [{ sensor := 7, type := 40 }] ∧
      s.delivered = [{ sensor := 1, type := 40 }] := by
  have hrun : Transition.exec
      (system privateSensorInit.2.subHwDevices.length privateSensorInit.1.handles)
      (initial fun _ _ => { sensor := 0, type := 1 })
      [.writer 0 .lock, .writer 0 .testSpace, .writer 0 (.write { sensor := 7, type := 40 }),
        .writer 0 (.pollReturn none), .writer 0 .relock, .writer 0 .commit,
        .client (.call 1), .client .lock, .client .scan, .client .copy, .client .dequeue,
        .client .scan] = some _ := rfl
  exact ⟨_, Transition.Reachable.of_exec ⟨_, rfl⟩ hrun, rfl, rfl⟩

theorem delivered_types_listed_private : ∃ (s : State) (list : List SensorT),
    privateSensorInit.1.globalSensorsList = some list ∧
      s.delivered.map convertFromSensorEvent = [⟨1, 0x10028, 0⟩] ∧
      ∀ e ∈ s.delivered, e.type ≠ SENSOR_TYPE_META_DATA →
        ∀ sensor ∈ list,
          (convertFromSensor sensor).sensorHandle = (convertFromSensorEvent e).sensorHandle →
            (convertFromSensor sensor).type = (convertFromSensorEvent e).sensorType := by
  obtain ⟨s, hs, hcommitted, hdelivered⟩ := private_run
  have hinit : initialise privateSensorHal { handle := 0, type := 0 }
      = .ok (privateSensorInit.1, privateSensorInit.2) := rfl
  obtain ⟨list, hlist, hagree⟩ := delivered_types_listed hinit (by decide) hs (by
    intro i device hdevice e he _
    rw [privateSensorInit_devices, List.getElem?_singleton] at hdevice
    split at hdevice
    · next hi =>
      subst hi
      rw [hcommitted] at he
      obtain rfl := List.mem_singleton.mp he
      obtain rfl := Option.some.inj hdevice
      exact keepsType_private
    · cases hdevice)
  refine ⟨s, list, hlist, ?_, fun e he hdata => (hagree e he hdata).2.1⟩
  rw [hdelivered]
  rfl

end MultiHal

end Mozart.Sensors

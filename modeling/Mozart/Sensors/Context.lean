import Mozart.Sensors.Init

/-!
# Control calls: from the framework's handle to the sub-HAL

The five control entry points of the proxy device (`device__*`) and the `sensors_poll_context_t`
methods they use. A sub-HAL is behind its function pointers, so a forwarded call is recorded with
the device, the handle and the arguments it carries, and what it returns is an answer of the
environment (`answer`).

* `route` is where a global handle leads: the device at its module index and its local handle,
  if both are usable. Every method is `route` and then its own call (`withSensor_eq`).
* For sensors of a sub-HAL below API 1.1 `device__activate` and `device__batch` keep two arrays,
  indexed by `handle - 1`; an index outside them is the fault `outOfBounds`.
-/

namespace Mozart.Sensors

/-! ## Looking a handle up -/

/-- `get_v0_device_by_handle`. -/
def PollContext.getV0DeviceByHandle (ctx : PollContext) (g : Globals) (globalHandle : Int) :
    Option HwDevice :=
  let subIndex := g.handles.getModuleIndex globalHandle
  if subIndex < 0 ∨ subIndex ≥ ctx.subHwDevices.length then
    none
  else
    ctx.subHwDevices[subIndex.toNat]?

/-- `get_v1_device_by_handle`: the same lookup, cast to the larger interface. -/
def PollContext.getV1DeviceByHandle (ctx : PollContext) (g : Globals) (globalHandle : Int) :
    Option HwDevice :=
  let subIndex := g.handles.getModuleIndex globalHandle
  if subIndex < 0 ∨ subIndex ≥ ctx.subHwDevices.length then
    none
  else
    ctx.subHwDevices[subIndex.toNat]?

/-- `get_device_version_by_handle`. -/
def PollContext.getDeviceVersionByHandle (ctx : PollContext) (g : Globals) (handle : Int) : Int :=
  match ctx.getV0DeviceByHandle g handle with
  | some v0 => v0.version
  | none => -1

def halIsAPILevelCompliant (ctx : PollContext) (g : Globals) (handle level : Int) : Bool :=
  let version := ctx.getDeviceVersionByHandle g handle
  version ≠ -1 && version ≥ level

/-! ## Calls to a sub-HAL -/

/-- The `dev` argument of a sub-HAL function: its own device, or the proxy of the multi-HAL. -/
inductive DeviceArg where
  | proxy
  | sub (device : HwDevice)
deriving DecidableEq, Repr

/-- A call through a function pointer of `device`. -/
inductive SubHalCall where
  | activate (device : HwDevice) (handle enabled : Int)
  | setDelay (device : HwDevice) (handle ns : Int)
  | batch (device : HwDevice) (handle flags periodNs timeout : Int)
  | flush (device : HwDevice) (handle : Int)
  | injectSensorData (device : HwDevice) (dev : DeviceArg) (data : SensorsEvent)
deriving DecidableEq, Repr

/-- The device whose function is called. -/
def SubHalCall.device : SubHalCall → HwDevice
  | .activate d _ _ | .setDelay d _ _ | .batch d _ _ _ _ | .flush d _ | .injectSensorData d _ _ => d

/-- The sensor handle the call carries. -/
def SubHalCall.handle : SubHalCall → Int
  | .activate _ h _ | .setDelay _ h _ | .batch _ h _ _ _ | .flush _ h => h
  | .injectSensorData _ _ data => data.sensor

/-- What a method returns, and the sub-HAL calls it made with their results. -/
structure Reply where
  retval : Int
  calls : List (SubHalCall × Int)

/-- `retval = -EINVAL`, and no call. -/
def Reply.invalid : Reply := ⟨-EINVAL, []⟩

/-- One call, whose result is returned. -/
def Reply.forward (answer : SubHalCall → Int) (call : SubHalCall) : Reply :=
  ⟨answer call, [(call, answer call)]⟩

/-! ## The methods of `sensors_poll_context_t` -/

/-- The shape of `activate`, `setDelay`, `batch` and `flush`: look up local handle and device, go
on if both are there. -/
def PollContext.withSensor {ρ : Type} (ctx : PollContext) (g : Globals) (handle : Int)
    (invalid : ρ) (body : HwDevice → Int → ρ) : ρ :=
  let localHandle := g.handles.getLocalHandle handle
  match ctx.getV0DeviceByHandle g handle with
  | some device => if localHandle ≥ 0 then body device localHandle else invalid
  | none => invalid

variable (ctx : PollContext) (g : Globals) (answer : SubHalCall → Int)

/-- `sensors_poll_context_t::activate`. -/
def PollContext.activate (handle enabled : Int) : Reply :=
  ctx.withSensor g handle .invalid fun v0 localHandle =>
    .forward answer (.activate v0 localHandle enabled)

/-- `sensors_poll_context_t::setDelay`. -/
def PollContext.setDelay (handle ns : Int) : Reply :=
  ctx.withSensor g handle .invalid fun v0 localHandle =>
    .forward answer (.setDelay v0 localHandle ns)

/-- An array read at an `int` index. -/
def getIndex {α : Type} (xs : List α) (index : Int) : Except Fault α :=
  if index < 0 then
    .error .outOfBounds
  else
    match xs[index.toNat]? with
    | some x => .ok x
    | none => .error .outOfBounds

/-- An array write at an `int` index. -/
def setIndex {α : Type} (xs : List α) (index : Int) (x : α) : Except Fault (List α) :=
  if 0 ≤ index ∧ index < xs.length then .ok (xs.set index.toNat x) else .error .outOfBounds

/-- `sensors_poll_context_t::batch`. Below API 1.1 it clamps to the delays of the entry of
`global_sensors_list` at the *module* index and passes `setDelay` the *global* handle. -/
def PollContext.batch (handle flags periodNs timeout : Int) : Except Fault Reply :=
  ctx.withSensor g handle (.ok .invalid) fun v1 localHandle =>
    if halIsAPILevelCompliant ctx g handle SENSORS_DEVICE_API_VERSION_1_1 then
      .ok (.forward answer (.batch v1 localHandle flags periodNs timeout))
    else if periodNs < 0 ∨ timeout < 0 then
      .ok .invalid
    else
      match getIndex (g.globalSensorsList.getD []) (g.handles.getModuleIndex handle) with
      | .error fault => .error fault
      | .ok sensor =>
        -- `int maxDelay`, read from an `int64_t`
        let maxDelay := toInt32 sensor.maxDelay
        let periodNs :=
          if periodNs < sensor.minDelay then sensor.minDelay
          else if periodNs > maxDelay then maxDelay
          else periodNs
        .ok (.forward answer (.setDelay v1 handle periodNs))

/-- `sensors_poll_context_t::flush`. -/
def PollContext.flush (handle : Int) : Reply :=
  ctx.withSensor g handle .invalid fun v1 localHandle =>
    if halIsAPILevelCompliant ctx g handle SENSORS_DEVICE_API_VERSION_1_1 then
      .forward answer (.flush v1 localHandle)
    else
      .invalid

/-- `sensors_poll_context_t::inject_sensor_data`; `dev` and `data` are handed on as they came. -/
def PollContext.injectSensorData (dev : DeviceArg) (data : SensorsEvent) : Reply :=
  let localHandle := g.handles.getLocalHandle data.sensor
  match ctx.getV1DeviceByHandle g data.sensor with
  | some v1 =>
    if halIsAPILevelCompliant ctx g data.sensor SENSORS_DEVICE_API_VERSION_1_4
        ∧ localHandle ≥ 0 then
      .forward answer (.injectSensorData v1 dev data)
    else
      .invalid
  | none => .invalid

/-! ## The entry points -/

/-- `device__activate`. -/
def deviceActivate (handle enabled : Int) : Except Fault (Globals × Reply) :=
  let activated := ctx.activate g answer handle enabled
  if halIsAPILevelCompliant ctx g handle SENSORS_DEVICE_API_VERSION_1_1 then
    .ok (g, activated)
  else do
    let index := handle - 1
    let enableState ← setIndex g.sensorsEnableState index enabled
    let g := { g with sensorsEnableState := enableState }
    if enabled = 0 then
      return (g, activated)
    let batch ← getIndex g.sensorsBatchList index
    if batch.empty then
      return (g, activated)
    let delayed := ctx.setDelay g answer handle batch.periodNs
    let batchList ← setIndex g.sensorsBatchList index { batch with empty := true }
    -- `delay_retval || activate_retval`
    let retval := if delayed.retval ≠ 0 ∨ activated.retval ≠ 0 then 1 else 0
    return ({ g with sensorsBatchList := batchList }, ⟨retval, activated.calls ++ delayed.calls⟩)

/-- `device__setDelay`. -/
def deviceSetDelay (handle ns : Int) : Except Fault (Globals × Reply) :=
  .ok (g, ctx.setDelay g answer handle ns)

/-- `device__batch`. -/
def deviceBatch (handle flags periodNs timeout : Int) : Except Fault (Globals × Reply) :=
  if halIsAPILevelCompliant ctx g handle SENSORS_DEVICE_API_VERSION_1_1 then do
    let reply ← ctx.batch g answer handle flags periodNs timeout
    return (g, reply)
  else do
    let index := handle - 1
    let enabled ← getIndex g.sensorsEnableState index
    if enabled = 0 then
      let batch ← getIndex g.sensorsBatchList index
      let batchList ← setIndex g.sensorsBatchList index
        (batch.updateBatchData handle flags periodNs timeout)
      -- skip setDelay() if sensors haven't been activated
      return ({ g with sensorsBatchList := batchList }, ⟨0, []⟩)
    return (g, ctx.setDelay g answer handle periodNs)

/-- `device__flush`. -/
def deviceFlush (handle : Int) : Except Fault (Globals × Reply) :=
  .ok (g, ctx.flush g answer handle)

/-- `device__inject_sensor_data`. -/
def deviceInjectSensorData (data : SensorsEvent) : Except Fault (Globals × Reply) :=
  .ok (g, ctx.injectSensorData g answer .proxy data)

/-- A control call of the framework. -/
inductive DeviceCall where
  | activate (handle enabled : Int)
  | setDelay (handle ns : Int)
  | batch (handle flags periodNs timeout : Int)
  | flush (handle : Int)
  | injectSensorData (data : SensorsEvent)
deriving DecidableEq, Repr

/-- The global handle a control call is about. -/
def DeviceCall.handle : DeviceCall → Int
  | .activate h _ | .setDelay h _ | .batch h _ _ _ | .flush h => h
  | .injectSensorData data => data.sensor

/-- The entry point of a control call. -/
def dispatch : DeviceCall → Except Fault (Globals × Reply)
  | .activate handle enabled => deviceActivate ctx g answer handle enabled
  | .setDelay handle ns => deviceSetDelay ctx g answer handle ns
  | .batch handle flags periodNs timeout =>
    deviceBatch ctx g answer handle flags periodNs timeout
  | .flush handle => deviceFlush ctx g answer handle
  | .injectSensorData data => deviceInjectSensorData ctx g answer data

/-! ## Where a handle leads -/

theorem PollContext.getV1DeviceByHandle_eq (handle : Int) :
    ctx.getV1DeviceByHandle g handle = ctx.getV0DeviceByHandle g handle := rfl

/-- The device and local handle a global handle is forwarded to. -/
def PollContext.route (handle : Int) : Option (HwDevice × Int) :=
  ctx.withSensor g handle none fun device localHandle => some (device, localHandle)

theorem PollContext.withSensor_eq {ρ : Type} (handle : Int) (invalid : ρ)
    (body : HwDevice → Int → ρ) :
    ctx.withSensor g handle invalid body
      = match ctx.route g handle with
        | some (device, localHandle) => body device localHandle
        | none => invalid := by
  unfold PollContext.route PollContext.withSensor
  cases ctx.getV0DeviceByHandle g handle with
  | none => rfl
  | some device =>
    dsimp only
    split <;> rfl

/-- The device table, applied to a module index that is in the handle maps. -/
theorem PollContext.getV0DeviceByHandle_of_find {handle : Int} {full : FullHandle}
    (hfind : g.handles.globalToFull.find handle = some full) (hnonneg : 0 ≤ full.moduleIndex) :
    ctx.getV0DeviceByHandle g handle = ctx.subHwDevices[full.moduleIndex.toNat]? := by
  have hindex : g.handles.getModuleIndex handle = full.moduleIndex := by
    simp [HandleTable.getModuleIndex, hfind]
  unfold PollContext.getV0DeviceByHandle
  simp only [hindex]
  split
  · rename_i hout
    rw [List.getElem?_eq_none (by omega)]
  · rfl

theorem PollContext.getV0DeviceByHandle_of_unknown {handle : Int}
    (hfind : g.handles.globalToFull.find handle = none) :
    ctx.getV0DeviceByHandle g handle = none := by
  have hindex : g.handles.getModuleIndex handle = -1 := by
    simp [HandleTable.getModuleIndex, hfind]
  unfold PollContext.getV0DeviceByHandle
  rw [hindex]
  rfl

theorem halIsAPILevelCompliant_of_unknown {handle : Int} (level : Int)
    (hfind : g.handles.globalToFull.find handle = none) :
    halIsAPILevelCompliant ctx g handle level = false := by
  unfold halIsAPILevelCompliant PollContext.getDeviceVersionByHandle
  rw [ctx.getV0DeviceByHandle_of_unknown g hfind]
  rfl

/-- **Where a known handle leads**: to the device at its module index, with its local handle. -/
theorem PollContext.route_eq_some_iff {handle l : Int} {full : FullHandle} {d : HwDevice}
    (hfind : g.handles.globalToFull.find handle = some full) (hnonneg : 0 ≤ full.moduleIndex) :
    ctx.route g handle = some (d, l) ↔
      ctx.subHwDevices[full.moduleIndex.toNat]? = some d ∧ 0 ≤ full.localHandle ∧
        full.localHandle = l := by
  have hlocal : g.handles.getLocalHandle handle = full.localHandle := by
    simp [HandleTable.getLocalHandle, hfind]
  unfold PollContext.route PollContext.withSensor
  rw [ctx.getV0DeviceByHandle_of_find g hfind hnonneg, hlocal]
  cases ctx.subHwDevices[full.moduleIndex.toNat]? with
  | none => simp
  | some device =>
    dsimp only
    split_ifs with hge
    · simp only [Option.some.injEq, Prod.mk.injEq]
      exact ⟨fun h => ⟨h.1, hge, h.2⟩, fun h => ⟨h.1, h.2.2⟩⟩
    · exact iff_of_false (by simp) fun h => hge h.2.1

/-- The levels of a known handle are those of the device at its module index. -/
theorem halIsAPILevelCompliant_of_find {handle level : Int} {full : FullHandle} {d : HwDevice}
    (hfind : g.handles.globalToFull.find handle = some full) (hnonneg : 0 ≤ full.moduleIndex)
    (hdevice : ctx.subHwDevices[full.moduleIndex.toNat]? = some d) (hlevel : 0 ≤ level) :
    halIsAPILevelCompliant ctx g handle level = decide (level ≤ d.version) := by
  rw [halIsAPILevelCompliant, PollContext.getDeviceVersionByHandle,
    ctx.getV0DeviceByHandle_of_find g hfind hnonneg, hdevice, Bool.eq_iff_iff, Bool.and_eq_true,
    decide_eq_true_eq, decide_eq_true_eq]
  dsimp only
  omega

theorem PollContext.route_of_unknown {handle : Int}
    (hfind : g.handles.globalToFull.find handle = none) : ctx.route g handle = none := by
  unfold PollContext.route PollContext.withSensor
  rw [ctx.getV0DeviceByHandle_of_unknown g hfind]

end Mozart.Sensors

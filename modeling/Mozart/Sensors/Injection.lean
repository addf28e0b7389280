import Mozart.Sensors.Control
import Mozart.Sensors.MultiHal

/-!
# Injected events

`poll` turns the local handles of a sub-HAL into global ones; `inject_sensor_data` goes the other
way and should undo that. It looks the local handle up, but only to see that there is one: the
sub-HAL gets the device and the event as the framework passed them.

* `InjectsInverse`: what would be undone, an event under its local handle.
* **`inject_never_inverse`**: no injected event arrives that way, whatever the handle.
-/

namespace Mozart.Sensors

open MultiHal

variable {hal : SubHals} {blank : SensorT}

/-- The inverse of the remapping of `poll` for an event `e` under the global handle of `full`:
the sub-HAL gets its own device and the event under its local handle, which comes back as `e`. -/
def InjectsInverse (t : HandleTable) (full : FullHandle) (e : SensorsEvent)
    (calls : List SubHalCall) : Prop :=
  ∃ device : HwDevice, device.openedFrom = full.moduleIndex ∧
    calls = [.injectSensorData device (.sub device) { e with sensor := full.localHandle }] ∧
    copyEventRemapHandle t { e with sensor := full.localHandle } full.moduleIndex = e

theorem PollContext.injectSensorData_eq (ctx : PollContext) (g : Globals)
    (answer : SubHalCall → Int) (dev : DeviceArg) (data : SensorsEvent) :
    ctx.injectSensorData g answer dev data =
      if halIsAPILevelCompliant ctx g data.sensor SENSORS_DEVICE_API_VERSION_1_4 then
        .toTarget answer (ctx.route g data.sensor) fun d _ => .injectSensorData d dev data
      else .invalid := by
  unfold PollContext.injectSensorData PollContext.route PollContext.withSensor
  rw [ctx.getV1DeviceByHandle_eq]
  cases ctx.getV0DeviceByHandle g data.sensor with
  | none => simp [Reply.toTarget]
  | some device =>
    by_cases hlocal : g.handles.getLocalHandle data.sensor ≥ 0 <;> simp [hlocal, Reply.toTarget]

/-- **No injected event arrives as the inverse of the remapping.** Where the handle leads to a
device of its own module, that device is called, but with the multi-HAL's device and the event as
it came. -/
theorem inject_never_inverse {s : ControlState}
    (hs : Transition.Reachable (controlSystem hal blank) s) {e : SensorsEvent} {full : FullHandle}
    (hfind : s.globals.handles.globalToFull.find e.sensor = some full) {version : Int}
    (hopen : hal.openModule full.moduleIndex.toNat = some version)
    (hlevel : SENSORS_DEVICE_API_VERSION_1_4 ≤ version) (answer : SubHalCall → Int) :
    ∃ reply, dispatch s.ctx s.globals answer (.injectSensorData e) = .ok (s.globals, reply) ∧
      (∀ device, s.ctx.subHwDevices[full.moduleIndex.toNat]? = some device →
        device.openedFrom = full.moduleIndex → 0 ≤ full.localHandle →
        reply.calls.map Prod.fst = [.injectSensorData device .proxy e]) ∧
      ¬ InjectsInverse s.globals.handles full e (reply.calls.map Prod.fst) := by
  have h := initialised_of_reachable hs
  refine ⟨_, rfl, fun device hdevice hmodule hlocal => ?_, ?_⟩
  · have hroute : s.ctx.route s.globals e.sensor = some (device, full.localHandle) := by
      exact (s.ctx.route_eq_some_iff s.globals hfind (by omega)).mpr ⟨hdevice, hlocal, rfl⟩
    -- the device at the index is the module's own, so its version is the one asked about
    have hversion : device.version = version := by
      rw [h.devices] at hdevice
      have hopened := (SubHals.getElem?_devices hdevice).2
      rw [show full.moduleIndex.toNat = device.openedFrom by omega, hopened] at hopen
      exact Option.some.inj hopen
    have hcompliant : halIsAPILevelCompliant s.ctx s.globals e.sensor
        SENSORS_DEVICE_API_VERSION_1_4 = true := by
      rw [halIsAPILevelCompliant_of_find s.ctx s.globals hfind (by omega) hdevice (by decide),
        decide_eq_true_eq, hversion]
      exact hlevel
    rw [PollContext.injectSensorData_eq, if_pos hcompliant, hroute]
    rfl
  · -- the device argument of every call made is the proxy
    rintro ⟨device, -, hcalls, -⟩
    rw [PollContext.injectSensorData_eq] at hcalls
    split at hcalls
    · cases hroute : s.ctx.route s.globals e.sensor with
      | none =>
        rw [hroute] at hcalls
        cases hcalls
      | some target =>
        rw [hroute] at hcalls
        injection hcalls with hcall
        injection hcall with _ hdev
        cases hdev
    · cases hcalls

/-- One sensor of an API 1.4 sub-HAL. -/
def injectableHal : SubHals :=
  { oneSensorHal with openModule := fun _ => some SENSORS_DEVICE_API_VERSION_1_4 }

theorem reachable_injectable :
    ∃ g ctx, Transition.Reachable (controlSystem injectableHal { handle := 0, type := 0 })
      ⟨g, ctx, []⟩ ∧ g.handles.globalToFull.find 1 = some ⟨0, 0⟩ ∧
      ctx.subHwDevices = [⟨0, SENSORS_DEVICE_API_VERSION_1_4⟩] :=
  ⟨_, _, .init ⟨rfl, rfl⟩, rfl, rfl⟩

/-- An event injected for its sensor. -/
theorem inject_never_inverse_injectable :
    ∃ s reply, Transition.Reachable (controlSystem injectableHal { handle := 0, type := 0 }) s ∧
      dispatch s.ctx s.globals (fun _ => 0) (.injectSensorData { sensor := 1, type := 1 })
        = .ok (s.globals, reply) ∧
      reply.calls.map Prod.fst = [.injectSensorData ⟨0, SENSORS_DEVICE_API_VERSION_1_4⟩ .proxy
        { sensor := 1, type := 1 }] := by
  obtain ⟨g, ctx, hs, hfind, hdevices⟩ := reachable_injectable
  obtain ⟨reply, hdispatch, hcalls, -⟩ := inject_never_inverse hs
    (e := { sensor := 1, type := 1 }) hfind rfl (by decide) fun _ => 0
  exact ⟨_, reply, hs, hdispatch, hcalls _ (congrArg (fun devices => devices[0]?) hdevices) rfl
    (by decide)⟩

/-- The sub-HAL does not get its own device, nor the event under its local handle 0. -/
theorem not_injectsInverse_injectable :
    ∃ s reply, Transition.Reachable (controlSystem injectableHal { handle := 0, type := 0 }) s ∧
      s.globals.handles.globalToFull.find 1 = some ⟨0, 0⟩ ∧
      dispatch s.ctx s.globals (fun _ => 0) (.injectSensorData { sensor := 1, type := 1 })
        = .ok (s.globals, reply) ∧
      ¬ InjectsInverse s.globals.handles ⟨0, 0⟩ { sensor := 1, type := 1 }
        (reply.calls.map Prod.fst) := by
  have hs : Transition.Reachable (controlSystem injectableHal { handle := 0, type := 0 })
      ⟨_, _, []⟩ := .init ⟨rfl, rfl⟩
  refine ⟨_, _, hs, rfl, rfl, ?_⟩
  rintro ⟨device, -, hcalls, -⟩
  injection hcalls with hcall
  injection hcall with _ hdev
  cases hdev

end Mozart.Sensors

import Mozart.Sensors.Control

/-!
# Known and unknown handles

What the handle maps mean for control calls.

* **`handles_faithful`**: if every module opens and local handles are distinct within a module,
  a global handle stands for exactly one (module, local handle), and control calls on it reach
  that sensor and no other.
* **`rejected_iff`**: a handle the maps do not have is rejected without side effects by exactly
  the entry points that do not index the two arrays of `device__activate` and `device__batch`.
-/

namespace Mozart.Sensors

variable {hal : SubHals} {blank : SensorT}

/-! ## One full handle for each sensor -/

/-- Handles that are distinct within every module are distinct with the module index. -/
theorem nodup_fullHandle_reportedFrom {ms : List HwModule} (i : Nat)
    (hdistinct : ∀ m ∈ ms, ((hal.getSensorsList m).map SensorT.handle).Nodup) :
    ((reportedFrom hal i ms).map ReportedSensor.fullHandle).Nodup := by
  induction ms generalizing i with
  | nil => simp [reportedFrom]
  | cons m ms ih =>
    rw [reportedFrom, List.map_append, List.map_map, List.nodup_append]
    refine ⟨?_, ih (i + 1) fun m' hm' => hdistinct m' (by simp [hm']), ?_⟩
    · have hfirst : (hal.getSensorsList m).map (ReportedSensor.fullHandle ∘ fun s => ⟨i, m, s⟩)
          = ((hal.getSensorsList m).map SensorT.handle).map (FullHandle.mk i) := by
        rw [List.map_map]
        rfl
      rw [hfirst]
      exact (hdistinct m (by simp)).map fun a b hab => by simpa using hab
    · -- later modules have larger indices
      intro f hf f' hf'
      obtain ⟨s, _, rfl⟩ := List.mem_map.mp hf
      obtain ⟨r, hr, rfl⟩ := List.mem_map.mp hf'
      obtain ⟨k, hk, _, _⟩ := mem_reportedFrom.mp hr
      simp only [Function.comp_apply, ReportedSensor.fullHandle, hk, ne_eq, FullHandle.mk.injEq]
      omega

theorem nodup_fullHandles
    (hdistinct : ∀ m ∈ hal.modules, ((hal.getSensorsList m).map SensorT.handle).Nodup) :
    (hal.reportedSensors.map ReportedSensor.fullHandle).Nodup :=
  nodup_fullHandle_reportedFrom 0 hdistinct

/-- **Two handles never lead to the same sensor** of the same device. -/
theorem SubHals.target_injective
    (hdistinct : ∀ m ∈ hal.modules, ((hal.getSensorsList m).map SensorT.handle).Nodup)
    {handle handle' : Int} {device : HwDevice} {localHandle : Int}
    (h : hal.target handle = some (device, localHandle))
    (h' : hal.target handle' = some (device, localHandle)) : handle = handle' := by
  obtain ⟨i, r, rfl, hr, hd, hl, _⟩ := SubHals.target_eq_some h
  obtain ⟨j, r', rfl, hr', hd', hl', _⟩ := SubHals.target_eq_some h'
  -- the device determines the index it is found at
  have hmodule : r.moduleIndex = r'.moduleIndex :=
    (SubHals.getElem?_devices hd).1.trans (SubHals.getElem?_devices hd').1.symm
  have hfull : r.fullHandle = r'.fullHandle := by
    simp only [ReportedSensor.fullHandle, hmodule, hl, hl']
  have hi : (hal.reportedSensors.map ReportedSensor.fullHandle)[i]? = some r.fullHandle := by
    rw [List.getElem?_map, hr]
    rfl
  have hj : (hal.reportedSensors.map ReportedSensor.fullHandle)[j]? = some r.fullHandle := by
    rw [List.getElem?_map, hr', hfull]
    rfl
  have hij : i = j :=
    (List.getElem?_inj (List.getElem?_eq_some_iff.mp hi).1 (nodup_fullHandles hdistinct)).mp
      (hi.trans hj.symm)
  rw [hij]

/-! ## Known handles -/

/-- What the maps and the list say about the reported sensors: the `i`-th is entry `i` of the list
and has handle `i + 1`, in the entry as in the maps. -/
structure EncodesSensors (hal : SubHals) (g : Globals) : Prop where
  list : ∃ list, g.globalSensorsList = some list ∧ list.length = hal.reportedSensors.length ∧
    ∀ (i : Nat) (r : ReportedSensor), hal.reportedSensors[i]? = some r →
      g.handles.globalToFull.find (i + 1) = some r.fullHandle ∧
      g.handles.fullToGlobal.find r.fullHandle = some (i + 1) ∧
      ∃ version, list[i]? = some (fixSensorFlags version { r.sensor with handle := i + 1 })
  known : ∀ handle, (g.handles.globalToFull.find handle).isSome ↔
    1 ≤ handle ∧ handle ≤ hal.reportedSensors.length
  reported : ∀ full, (g.handles.fullToGlobal.find full).isSome ↔
    full ∈ hal.reportedSensors.map ReportedSensor.fullHandle
  inverse : ∀ full handle, g.handles.fullToGlobal.find full = some handle ↔
    g.handles.globalToFull.find handle = some full

theorem Initialised.encodesSensors {g : Globals} {ctx : PollContext} (h : Initialised hal g ctx)
    (hdistinct : ∀ m ∈ hal.modules, ((hal.getSensorsList m).map SensorT.handle).Nodup) :
    EncodesSensors hal g where
  list := by
    obtain ⟨list, hlist, hlength, hentries⟩ := h.list
    refine ⟨list, hlist, hlength, fun i r hr => ?_⟩
    have hfind := h.find_globalToFull hr
    obtain ⟨_, version, _, _, hget⟩ := hentries i r hr
    exact ⟨hfind, (h.handles.inverse (nodup_fullHandles hdistinct) _ _).mpr hfind, version, hget⟩
  known handle := by
    have := h.handles.isSome_global handle
    rwa [List.length_map] at this
  reported full := h.handles.known full
  inverse full handle := h.handles.inverse (nodup_fullHandles hdistinct) full handle

/-- `c` is one of the sub-HAL calls that the control call makes in state `s`, for some answers of
the sub-HALs. -/
def Makes (s : ControlState) (call : DeviceCall) (c : SubHalCall) : Prop :=
  ∃ answer g' reply, dispatch s.ctx s.globals answer call = .ok (g', reply) ∧
    c ∈ reply.calls.map Prod.fst

/-- The calls made are calls to the target of the handle. -/
theorem Initialised.target_of_makes {s : ControlState} (h : Initialised hal s.globals s.ctx)
    {call : DeviceCall} {c : SubHalCall} (hkind : ∀ data, call ≠ .injectSensorData data)
    (hmakes : Makes s call c) : hal.target call.handle = some (c.device, c.handle) := by
  obtain ⟨answer, g', reply, hdispatch, hc⟩ := hmakes
  obtain ⟨⟨c', r⟩, hmem, rfl⟩ := List.mem_map.mp hc
  rw [← h.route_eq]
  exact (dispatched_of_ok hdispatch).route_of_mem hkind hmem

/-- Control calls on `handle` return, and every sub-HAL call they make goes to the device of
`full`'s module with `full`'s local handle; `activate` always makes one. -/
def Addresses (s : ControlState) (handle : Int) (full : FullHandle) : Prop :=
  ∃ device, s.ctx.subHwDevices[full.moduleIndex.toNat]? = some device ∧
    device.openedFrom = full.moduleIndex ∧
    (∀ enabled, Makes s (.activate handle enabled)
      (.activate device full.localHandle enabled)) ∧
    ∀ call, call.handle = handle → (∀ data, call ≠ .injectSensorData data) →
      (∀ answer, ∃ result, dispatch s.ctx s.globals answer call = .ok result) ∧
      ∀ c, Makes s call c → c.device = device ∧ c.handle = full.localHandle

/-- `device__activate` starts with the call to the target, whatever it does afterwards. -/
theorem Initialised.makes_activate {s : ControlState} (h : Initialised hal s.globals s.ctx)
    {handle : Int} {device : HwDevice} {localHandle : Int}
    (htarget : hal.target handle = some (device, localHandle)) (enabled : Int)
    (hreturns : ∃ result, dispatch s.ctx s.globals (fun _ => 0) (.activate handle enabled)
      = .ok result) :
    Makes s (.activate handle enabled) (.activate device localHandle enabled) := by
  obtain ⟨⟨g', reply⟩, hdispatch⟩ := hreturns
  have hroute : s.ctx.route s.globals handle = some (device, localHandle) := by
    rw [h.route_eq, htarget]
  refine ⟨fun _ => 0, g', reply, hdispatch, ?_⟩
  cases dispatched_of_ok hdispatch <;> simp [hroute, Reply.toTarget, Reply.forward]

theorem Initialised.addresses {s : ControlState} (h : Initialised hal s.globals s.ctx)
    (hopen : ∀ i < hal.modules.length, (hal.openModule i).isSome)
    (hnonneg : ∀ m ∈ hal.modules, ∀ sensor ∈ hal.getSensorsList m, 0 ≤ sensor.handle)
    {i : Nat} {r : ReportedSensor} (hr : hal.reportedSensors[i]? = some r) :
    Addresses s (i + 1) r.fullHandle := by
  have hle := (List.getElem?_eq_some_iff.mp hr).1
  -- the module of the sensor and its device
  obtain ⟨k, hk, hmodule, hsensor⟩ := mem_reportedFrom.mp (List.mem_of_getElem? hr)
  obtain rfl : r.moduleIndex = k := by omega
  have hlt : r.moduleIndex < hal.modules.length := (List.getElem?_eq_some_iff.mp hmodule).1
  obtain ⟨version, hversion⟩ := Option.isSome_iff_exists.mp (hopen _ hlt)
  have hdevice : (hal.devices hal.modules.length)[r.moduleIndex]?
      = some ⟨r.moduleIndex, version⟩ := by
    rw [(hal.devices_at_iff hlt).mpr (Or.inl fun j hj => hopen j (by omega)), hversion]
    rfl
  have hlocal := hnonneg _ (List.mem_of_getElem? hmodule) _ hsensor
  have htarget : hal.target (i + 1) = some (⟨r.moduleIndex, version⟩, r.sensor.handle) := by
    rw [SubHals.target, if_pos (by omega), show ((i : Int) + 1 - 1).toNat = i by omega, hr]
    simp only [hdevice, ge_iff_le, if_pos hlocal]
  have hreturns : ∀ call answer, DeviceCall.handle call = (i : Int) + 1 →
      ∃ result, dispatch s.ctx s.globals answer call = .ok result := by
    intro call answer hcall
    refine dispatch_ok_of_cells hcall ?_ ?_
    · rw [h.enableState]
      omega
    · rw [h.batchList]
      omega
  refine ⟨⟨r.moduleIndex, version⟩, ?_, rfl, ?_, ?_⟩
  · rw [h.devices]
    exact hdevice
  · exact fun enabled => h.makes_activate htarget enabled (hreturns _ _ rfl)
  · intro call hcall hkind
    refine ⟨fun answer => hreturns call answer hcall, fun c hmakes => ?_⟩
    have hc := h.target_of_makes hkind hmakes
    rw [hcall, htarget] at hc
    obtain ⟨hdev, hhandle⟩ := Prod.mk.inj (Option.some.inj hc)
    exact ⟨hdev.symm, hhandle.symm⟩

/-- **Global handles are a faithful encoding of (module, local handle)**, in every state that
control calls can lead to. -/
theorem handles_faithful (hopen : ∀ i < hal.modules.length, (hal.openModule i).isSome)
    (hdistinct : ∀ m ∈ hal.modules, ((hal.getSensorsList m).map SensorT.handle).Nodup)
    (hnonneg : ∀ m ∈ hal.modules, ∀ sensor ∈ hal.getSensorsList m, 0 ≤ sensor.handle) :
    (∃ g ctx, initialise hal blank = .ok (g, ctx)) ∧
    ∀ s, Transition.Reachable (controlSystem hal blank) s →
      EncodesSensors hal s.globals ∧
      (∀ (i : Nat) (r : ReportedSensor), hal.reportedSensors[i]? = some r →
        Addresses s (i + 1) r.fullHandle) ∧
      (∀ call call' c c', (∀ data, call ≠ .injectSensorData data) →
        (∀ data, call' ≠ .injectSensorData data) → Makes s call c → Makes s call' c' →
        call.handle ≠ call'.handle → (c.device, c.handle) ≠ (c'.device, c'.handle)) := by
  constructor
  · refine (initialise_ok_iff hal blank).mpr fun r hr => ?_
    obtain ⟨k, _, hmodule, _⟩ := mem_reportedFrom.mp hr
    exact ⟨k, hmodule, hopen k (List.getElem?_eq_some_iff.mp hmodule).1⟩
  · intro s hs
    have h := initialised_of_reachable hs
    refine ⟨h.encodesSensors hdistinct, fun i r => h.addresses hopen hnonneg, ?_⟩
    intro call call' c c' hkind hkind' hmakes hmakes' hne heq
    have htarget := h.target_of_makes hkind hmakes
    have htarget' := h.target_of_makes hkind' hmakes'
    rw [(Prod.mk.inj heq).1, (Prod.mk.inj heq).2] at htarget
    exact hne (SubHals.target_injective hdistinct htarget htarget')

/-- Handles 1 and 3 are the sensors that two libraries both call 0. -/
theorem handles_faithful_twoLibraries :
    ∃ s, Transition.Reachable (controlSystem twoLibrariesHal { handle := 0, type := 0 }) s ∧
      EncodesSensors twoLibrariesHal s.globals ∧
      Addresses s 1 ⟨0, 0⟩ ∧ Addresses s 2 ⟨0, 3⟩ ∧ Addresses s 3 ⟨1, 0⟩ ∧ Addresses s 4 ⟨1, 5⟩ ∧
      ∀ c c', Makes s (.activate 1 1) c → Makes s (.activate 3 1) c' →
        (c.device, c.handle) ≠ (c'.device, c'.handle) := by
  obtain ⟨⟨g, ctx, hinit⟩, hall⟩ := @handles_faithful twoLibrariesHal
    { handle := 0, type := 0 } (fun _ _ => rfl) (by decide) (by decide)
  have hs : Transition.Reachable (controlSystem twoLibrariesHal { handle := 0, type := 0 })
      ⟨g, ctx, []⟩ := .init ⟨hinit, rfl⟩
  obtain ⟨hencodes, haddresses, hdistinct⟩ := hall _ hs
  exact ⟨_, hs, hencodes, haddresses 0 ⟨0, 0, _⟩ rfl, haddresses 1 ⟨0, 0, _⟩ rfl,
    haddresses 2 ⟨1, 1, _⟩ rfl, haddresses 3 ⟨1, 1, _⟩ rfl, fun c c' hc hc' =>
      hdistinct _ _ c c' (by simp) (by simp) hc hc' (by decide)⟩

/-! ## Unknown handles -/

/-- The entry points that index the two arrays. -/
def DeviceCall.isActivateOrBatch : DeviceCall → Bool
  | .activate .. | .batch .. => true
  | .setDelay .. | .flush .. | .injectSensorData .. => false

/-- **Unknown handles are rejected without side effects** (`-EINVAL`, no sub-HAL call, no change)
exactly by the entry points that do not index the arrays. -/
theorem rejected_iff {s : ControlState} (hs : Transition.Reachable (controlSystem hal blank) s)
    {call : DeviceCall} (hunknown : s.globals.handles.globalToFull.find call.handle = none)
    (answer : SubHalCall → Int) :
    dispatch s.ctx s.globals answer call = .ok (s.globals, .invalid) ↔
      call.isActivateOrBatch = false := by
  have h := initialised_of_reachable hs
  have hroute := s.ctx.route_of_unknown s.globals hunknown
  have hdevice := s.ctx.getV0DeviceByHandle_of_unknown s.globals hunknown
  have hlevel := fun level => halIsAPILevelCompliant_of_unknown s.ctx s.globals level hunknown
  -- the cell of an unknown handle is outside both arrays
  have hout : call.handle - 1 < 0 ∨ (s.globals.sensorsEnableState.length : Int)
      ≤ call.handle - 1 := by
    have hrange := h.handles.isSome_global call.handle
    rw [hunknown, List.length_map, ← h.enableState] at hrange
    simp only [Option.isSome_none, Bool.false_eq_true, false_iff] at hrange
    omega
  cases call with
  | activate handle enabled =>
    refine iff_of_false ?_ (by simp [DeviceCall.isActivateOrBatch])
    simp only [DeviceCall.handle] at hout hlevel
    simp [dispatch, deviceActivate, hlevel, setIndex_eq_error hout, bind, Except.bind]
  | setDelay handle ns =>
    refine iff_of_true ?_ rfl
    simp only [DeviceCall.handle] at hroute
    rw [dispatch, deviceSetDelay, PollContext.setDelay_eq, hroute]
    rfl
  | batch handle flags periodNs timeout =>
    refine iff_of_false ?_ (by simp [DeviceCall.isActivateOrBatch])
    simp only [DeviceCall.handle] at hout hlevel
    simp [dispatch, deviceBatch, hlevel, getIndex_eq_error hout, bind, Except.bind]
  | flush handle =>
    refine iff_of_true ?_ rfl
    simp only [DeviceCall.handle] at hlevel
    rw [dispatch, deviceFlush, PollContext.flush_eq, hlevel]
    rfl
  | injectSensorData data =>
    refine iff_of_true ?_ rfl
    simp only [DeviceCall.handle] at hdevice
    rw [dispatch, deviceInjectSensorData, PollContext.injectSensorData,
      s.ctx.getV1DeviceByHandle_eq, hdevice]

/-- The state of the one-sensor configuration after initialisation. -/
theorem reachable_oneSensor :
    ∃ g ctx, initialise oneSensorHal { handle := 0, type := 0 } = .ok (g, ctx) ∧
      Transition.Reachable (controlSystem oneSensorHal { handle := 0, type := 0 })
        ⟨g, ctx, []⟩ ∧
      g.handles.globalToFull.find 0 = none ∧
      dispatch ctx g (fun _ => 0) (.activate 0 1) = .error .outOfBounds :=
  ⟨_, _, rfl, .init ⟨rfl, rfl⟩, rfl, rfl⟩

/-- `device__setDelay` on handle 0 of the one-sensor configuration. -/
theorem rejected_iff_oneSensor :
    ∃ s, Transition.Reachable (controlSystem oneSensorHal { handle := 0, type := 0 }) s ∧
      dispatch s.ctx s.globals (fun _ => 0) (.setDelay 0 5) = .ok (s.globals, .invalid) := by
  obtain ⟨g, ctx, _, hs, hunknown, _⟩ := reachable_oneSensor
  exact ⟨_, hs, (@rejected_iff _ _ _ hs (.setDelay 0 5) hunknown fun _ => 0).mpr rfl⟩

/-- `device__activate` on handle 0 writes `sensors_enable_state[-1]`. -/
theorem not_rejected_activate_zero :
    ∃ s, Transition.Reachable (controlSystem oneSensorHal { handle := 0, type := 0 }) s ∧
      s.globals.handles.globalToFull.find 0 = none ∧
      dispatch s.ctx s.globals (fun _ => 0) (.activate 0 1) = .error .outOfBounds ∧
      dispatch s.ctx s.globals (fun _ => 0) (.activate 0 1) ≠ .ok (s.globals, .invalid) := by
  obtain ⟨g, ctx, _, hs, hunknown, hfault⟩ := reachable_oneSensor
  refine ⟨_, hs, hunknown, hfault, ?_⟩
  rw [hfault]
  intro hok
  cases hok

end Mozart.Sensors

import Mozart.Sensors.Context

/-!
# What initialisation establishes

* **`copyReported_total`** and **`copyReported_ok`**: the copy loop of `lazy_init_sensors_list`
  never leaves its array, and it succeeds exactly when the version of every module that reports
  a sensor is recorded.
* **`Initialised`**: the handle maps, the sensor list and the two arrays of `device__activate` and
  `device__batch` in terms of `reportedSensors`.
* **`SubHals.devices_at_iff`**: `moduleIndex` counts the entries of `sub_hw_modules`, but
  `sub_hw_devices` only grows for those that open; when the two indices still agree.
* **`initialise_ok_iff`**: `open_sensors` then `get_sensors_list` succeed exactly when every
  module that reports a sensor opened at one of its entries.
-/

namespace Mozart.Sensors

open HandleTable

/-- The entry `lazy_init_sensors_list` stores for the `i`-th reported sensor. -/
def globalSensor (version : Int) (i : Nat) (r : ReportedSensor) : SensorT :=
  fixSensorFlags version { r.sensor with handle := i + 1 }

theorem handle_fixSensorFlags (version : Int) (sensor : SensorT) :
    (fixSensorFlags version sensor).handle = sensor.handle := by
  unfold fixSensorFlags
  split_ifs <;> rfl

theorem handle_globalSensor (version : Int) (i : Nat) (r : ReportedSensor) :
    (globalSensor version i r).handle = i + 1 := by
  rw [globalSensor, handle_fixSensorFlags]

/-! ## The copy loop -/

/-- The loop invariant: the sensors handled so far are numbered in order, and their entries are
the first of an array that still has the length of the first pass. -/
structure Copied (versions : VersionMap) (total : Nat) (done : List ReportedSensor)
    (st : CopyState) : Prop where
  handles : st.handles.Describes (done.map ReportedSensor.fullHandle)
  index : st.mutableSensorIndex = done.length
  length : st.mutableSensorList.length = total
  entries : ∀ i r, done[i]? = some r → ∃ version, versions.lookup r.hwModule = some version ∧
    st.mutableSensorList[i]? = some (globalSensor version i r)

/-- The loop body on the next sensor of the list it counted. -/
theorem Copied.copyReported {versions : VersionMap} {total : Nat} {done : List ReportedSensor}
    {st : CopyState} {r : ReportedSensor} {version : Int} (h : Copied versions total done st)
    (hroom : done.length < total) (hversion : versions.lookup r.hwModule = some version) :
    ∃ st', Mozart.Sensors.copyReported (some versions) st r = .ok st' ∧
      Copied versions total (done ++ [r]) st' := by
  obtain ⟨hhandles, hindex, hlength, hentries⟩ := h
  obtain ⟨hassign, hglobal⟩ := hhandles.assignGlobalHandle r.moduleIndex r.sensor.handle
  have hok : Mozart.Sensors.copyReported (some versions) st r = .ok {
      handles := (st.handles.assignGlobalHandle r.moduleIndex r.sensor.handle).1
      mutableSensorList := st.mutableSensorList.set done.length
        (globalSensor version done.length r)
      mutableSensorIndex := done.length + 1 } := by
    unfold Mozart.Sensors.copyReported copySensor
    rw [if_pos (by omega)]
    simp [versionAt, hversion, hindex, globalSensor, hglobal]
  refine ⟨_, hok, ⟨?_, by simp, by simpa using hlength, ?_⟩⟩
  · rw [List.map_append]
    exact hassign
  · intro i r' hr'
    -- the entry written is behind those already there
    rcases Nat.lt_or_ge i done.length with hold | hnew
    · rw [List.getElem?_append_left hold] at hr'
      obtain ⟨v, hv, hget⟩ := hentries i r' hr'
      exact ⟨v, hv, by rw [List.getElem?_set_ne (by omega)]; exact hget⟩
    · have hi : i = done.length := by
        have := (List.getElem?_eq_some_iff.mp hr').1
        simp only [List.length_append, List.length_singleton] at this
        omega
      subst hi
      obtain rfl : r = r' := by simpa using hr'
      exact ⟨version, hversion, by rw [List.getElem?_set_self (by omega)]⟩

/-- **The copy loop succeeds** on a list of the counted length whose modules all have a version,
and leaves the invariant for the whole list. -/
theorem copyReported_total {versions : VersionMap} {rs : List ReportedSensor} (blank : SensorT)
    (hversions : ∀ r ∈ rs, (versions.lookup r.hwModule).isSome) :
    ∃ st, rs.foldlM (copyReported (some versions))
        ⟨.initial, List.replicate rs.length blank, 0⟩ = .ok st ∧
      Copied versions rs.length rs st := by
  refine Loop.foldlM_total (P := Copied versions rs.length)
    ⟨describes_initial, rfl, by simp, by simp⟩ ?_
  intro done r rest st hsplit hcopied
  obtain ⟨version, hversion⟩ := Option.isSome_iff_exists.mp (hversions r (by simp [hsplit]))
  exact hcopied.copyReported (by simp [hsplit]) hversion

/-- A copy loop that succeeded found the version of every module. -/
theorem copyReported_ok {versions : Option VersionMap} {rs : List ReportedSensor}
    {st st' : CopyState} (h : rs.foldlM (copyReported versions) st = .ok st') :
    ∀ r ∈ rs, ∃ vs, versions = some vs ∧ (vs.lookup r.hwModule).isSome := by
  refine Loop.foldlM_ok (Q := fun r => ∃ vs, versions = some vs ∧ (vs.lookup r.hwModule).isSome)
    ?_ h
  intro st r st' hbody
  unfold copyReported copySensor versionAt at hbody
  split at hbody
  · cases versions with
    | none => cases hbody
    | some vs =>
      cases hlookup : vs.lookup r.hwModule with
      | none => simp [hlookup] at hbody
      | some version => exact ⟨vs, rfl, by simp [hlookup]⟩
  · cases hbody

/-! ## Positions in `sub_hw_devices` -/

/-- No failure before `n` is all of the first `n` opening. -/
theorem SubHals.openedBefore_eq_iff (hal : SubHals) (n : Nat) :
    hal.openedBefore n = n ↔ ∀ k < n, (hal.openModule k).isSome := by
  have hlength : hal.openedBefore n = n ↔ hal.openedBefore n = (List.range n).length := by
    rw [List.length_range]
  rw [hlength, SubHals.openedBefore, List.countP_eq_length]
  simp

theorem SubHals.length_devices (hal : SubHals) (n : Nat) :
    (hal.devices n).length = hal.openedBefore n := by
  induction n with
  | zero => rfl
  | succ n ih =>
    rw [hal.devices_succ, hal.openedBefore_succ, List.length_append, ih]
    cases hal.openModule n <;> simp

/-- The device found at index `i` is the one whose module has `i` opened entries before it. -/
theorem SubHals.getElem?_devices {hal : SubHals} {n i : Nat} {d : HwDevice}
    (h : (hal.devices n)[i]? = some d) :
    i = hal.openedBefore d.openedFrom ∧ hal.openModule d.openedFrom = some d.version := by
  induction n with
  | zero => simp [SubHals.devices] at h
  | succ n ih =>
    rw [hal.devices_succ] at h
    rcases Nat.lt_or_ge i (hal.devices n).length with hold | hnew
    · rw [List.getElem?_append_left hold] at h
      exact ih h
    · rw [List.getElem?_append_right hnew] at h
      cases hopen : hal.openModule n with
      | none => simp [hopen] at h
      | some version =>
        rw [hopen] at h
        have hi : i - (hal.devices n).length = 0 := by
          have := (List.getElem?_eq_some_iff.mp h).1
          simpa using this
        rw [hi] at h
        obtain rfl : ⟨n, version⟩ = d := by simpa using h
        refine ⟨?_, hopen⟩
        rw [← hal.length_devices]
        dsimp only
        omega

theorem SubHals.getElem?_devices_openedBefore {hal : SubHals} {n m : Nat} {version : Int}
    (hm : m < n) (hopen : hal.openModule m = some version) :
    (hal.devices n)[hal.openedBefore m]? = some ⟨m, version⟩ := by
  induction n with
  | zero => omega
  | succ n ih =>
    rw [hal.devices_succ]
    rcases Nat.lt_or_ge m n with hlt | hge
    · have hget := ih hlt
      rw [List.getElem?_append_left (List.getElem?_eq_some_iff.mp hget).1, hget]
    · obtain rfl : m = n := by omega
      rw [List.getElem?_append_right (Nat.le_of_eq (hal.length_devices m)), hal.length_devices,
        hopen]
      simp

/-- **When index `m` of `sub_hw_devices` is right for the module at `m`**: if that module opened,
when no earlier one failed; if it failed, when the vector is too short to have an entry there. -/
theorem SubHals.devices_at_iff (hal : SubHals) {n m : Nat} (hm : m < n) :
    (hal.devices n)[m]? = (hal.openModule m).map (HwDevice.mk m) ↔
      (∀ k ≤ m, (hal.openModule k).isSome) ∨
        (hal.openModule m = none ∧ hal.openedBefore n ≤ m) := by
  cases hopen : hal.openModule m with
  | none =>
    have hnot : ¬ ∀ k ≤ m, (hal.openModule k).isSome := fun h => by
      simpa [hopen] using h m (Nat.le_refl m)
    simp [hnot, ← hal.length_devices]
  | some version =>
    simp only [Option.map_some, reduceCtorEq, false_and, or_false]
    constructor
    · intro h k hk
      have hcount : hal.openedBefore m = m := (SubHals.getElem?_devices h).1.symm
      rcases Nat.lt_or_eq_of_le hk with hlt | rfl
      · exact (hal.openedBefore_eq_iff m).mp hcount k hlt
      · simp [hopen]
    · intro h
      have hcount : hal.openedBefore m = m :=
        (hal.openedBefore_eq_iff m).mpr fun k hk => h k (by omega)
      have hget := SubHals.getElem?_devices_openedBefore hm hopen
      rwa [hcount] at hget

/-! ## The state after initialisation -/

/-- What holds of the file-scope variables and the context from initialisation on, whatever
control calls follow. -/
structure Initialised (hal : SubHals) (g : Globals) (ctx : PollContext) : Prop where
  handles : g.handles.Describes (hal.reportedSensors.map ReportedSensor.fullHandle)
  devices : ctx.subHwDevices = hal.devices hal.modules.length
  list : ∃ list, g.globalSensorsList = some list ∧
    list.length = hal.reportedSensors.length ∧
    ∀ i r, hal.reportedSensors[i]? = some r → ∃ k version,
      hal.modules[k]? = some r.hwModule ∧ hal.openModule k = some version ∧
      list[i]? = some (globalSensor version i r)
  enableState : g.sensorsEnableState.length = hal.reportedSensors.length
  batchList : g.sensorsBatchList.length = hal.reportedSensors.length

/-- The modules whose version `open_sensors` records, in terms of the entries that opened. -/
def SubHals.Opened (hal : SubHals) (m : HwModule) : Prop :=
  ∃ k, hal.modules[k]? = some m ∧ (hal.openModule k).isSome

/-- The versions the first `open_sensors` records. -/
def SubHals.versions (hal : SubHals) : VersionMap := (openSubHals hal 0 hal.modules ([], [])).2

/-- The file-scope variables after the first `open_sensors`. -/
def SubHals.openedGlobals (hal : SubHals) : Globals :=
  { subHwModules := some hal.modules
    queueMutexLocked := true
    subHwVersions := some hal.versions }

theorem openSensors_initial (hal : SubHals) :
    openSensors hal {} = .ok (hal.openedGlobals, ⟨hal.devices hal.modules.length⟩) := by
  have hdevices := openSubHals_devices hal hal.modules 0 []
  rw [Nat.zero_add, show hal.devices 0 = [] from rfl] at hdevices
  simp [openSensors, lazyInitModules, hdevices, SubHals.openedGlobals, SubHals.versions]

theorem lookup_versions_iff (hal : SubHals) (m : HwModule) :
    (hal.versions.lookup m).isSome ↔ hal.Opened m := by
  rw [SubHals.versions, isSome_lookup_openSubHals]
  simp [SubHals.Opened]

theorem opened_of_lookup_versions {hal : SubHals} {m : HwModule} {version : Int}
    (h : hal.versions.lookup m = some version) :
    ∃ k, hal.modules[k]? = some m ∧ hal.openModule k = some version := by
  rcases lookup_openSubHals hal hal.modules 0 [] [] m version h with hnone | ⟨k, hk, hopen⟩
  · simp at hnone
  · exact ⟨k, hk, by rwa [Nat.zero_add] at hopen⟩

/-- The file-scope variables after `lazy_init_sensors_list` has numbered every sensor. -/
def SubHals.listedGlobals (hal : SubHals) (st : CopyState) : Globals :=
  { hal.openedGlobals with
    handles := st.handles
    globalSensorsCount := hal.reportedSensors.length
    sensorsBatchList := List.replicate hal.reportedSensors.length {}
    sensorsEnableState := List.replicate hal.reportedSensors.length 0
    globalSensorsList := some st.mutableSensorList
    subHwVersions := none
    queueMutexLocked := false }

/-- `lazy_init_sensors_list` after `open_sensors`, when every version is recorded. -/
theorem lazyInitSensorsList_opened {hal : SubHals} (blank : SensorT)
    (hopened : ∀ r ∈ hal.reportedSensors, hal.Opened r.hwModule) :
    ∃ st, Copied hal.versions hal.reportedSensors.length hal.reportedSensors st ∧
      lazyInitSensorsList hal blank hal.openedGlobals = .ok (hal.listedGlobals st) := by
  have hversions : ∀ r ∈ hal.reportedSensors, (hal.versions.lookup r.hwModule).isSome :=
    fun r hr => (lookup_versions_iff hal r.hwModule).mpr (hopened r hr)
  obtain ⟨st, hst, hcopied⟩ := copyReported_total blank hversions
  refine ⟨st, hcopied, ?_⟩
  have hcount : countSensors hal hal.modules = hal.reportedSensors.length :=
    countSensors_eq hal 0 hal.modules
  have hcopy : copyModules hal (some hal.versions) 0 hal.modules
      ⟨.initial, List.replicate hal.reportedSensors.length blank, 0⟩ = .ok st := by
    rw [copyModules_eq]
    exact hst
  simp [lazyInitSensorsList, lazyInitModules, SubHals.openedGlobals, SubHals.listedGlobals,
    hcount, hcopy]

/-- `lazy_init_sensors_list` does not get through its copy loop without the versions. -/
theorem opened_of_lazyInitSensorsList {hal : SubHals} {blank : SensorT} {g g' : Globals}
    (hlist : g.globalSensorsList = none) (hmodules : (lazyInitModules hal g).subHwModules
      = some hal.modules) (h : lazyInitSensorsList hal blank g = .ok g') :
    ∀ r ∈ hal.reportedSensors, ∃ vs, (lazyInitModules hal g).subHwVersions = some vs ∧
      (vs.lookup r.hwModule).isSome := by
  simp only [lazyInitSensorsList, hlist, Option.isSome_none, Bool.false_eq_true, if_false,
    hmodules, Option.getD_some] at h
  split at h
  · cases h
  · rename_i st hcopy
    rw [copyModules_eq] at hcopy
    exact copyReported_ok hcopy

/-- **Initialisation succeeds exactly when every module that reports a sensor opened.** -/
theorem initialise_ok_iff (hal : SubHals) (blank : SensorT) :
    (∃ g ctx, initialise hal blank = .ok (g, ctx)) ↔
      ∀ r ∈ hal.reportedSensors, hal.Opened r.hwModule := by
  rw [initialise, openSensors_initial]
  constructor
  · rintro ⟨g, ctx, h⟩ r hr
    simp only at h
    split at h
    · cases h
    · rename_i g' hlazy
      obtain ⟨vs, hvs, hlookup⟩ := opened_of_lazyInitSensorsList rfl rfl hlazy r hr
      cases hvs
      exact (lookup_versions_iff hal r.hwModule).mp hlookup
  · intro hopened
    obtain ⟨st, _, hlazy⟩ := lazyInitSensorsList_opened blank hopened
    exact ⟨hal.listedGlobals st, ⟨hal.devices hal.modules.length⟩, by simp only [hlazy]⟩

/-- **The state after initialisation**, with every sensor disabled and no batch saved. -/
theorem initialised_of_initialise {hal : SubHals} {blank : SensorT} {g : Globals}
    {ctx : PollContext} (h : initialise hal blank = .ok (g, ctx)) :
    Initialised hal g ctx ∧
      g.sensorsEnableState = List.replicate hal.reportedSensors.length 0 ∧
      g.sensorsBatchList = List.replicate hal.reportedSensors.length {} := by
  obtain ⟨st, hcopied, hlazy⟩ := @lazyInitSensorsList_opened hal blank
    ((initialise_ok_iff hal blank).mp ⟨g, ctx, h⟩)
  rw [initialise, openSensors_initial] at h
  simp only [hlazy] at h
  cases h
  refine ⟨⟨hcopied.handles, rfl, ⟨_, rfl, hcopied.length, ?_⟩, ?_, ?_⟩, rfl, rfl⟩
  · intro i r hr
    obtain ⟨version, hversion, hget⟩ := hcopied.entries i r hr
    obtain ⟨k, hk, hopen⟩ := opened_of_lookup_versions hversion
    exact ⟨k, version, hk, hopen, hget⟩
  · exact List.length_replicate
  · exact List.length_replicate

/-- The `i`-th reported sensor has handle `i + 1`. -/
theorem Initialised.find_globalToFull {hal : SubHals} {g : Globals} {ctx : PollContext}
    (h : Initialised hal g ctx) {i : Nat} {r : ReportedSensor}
    (hr : hal.reportedSensors[i]? = some r) :
    g.handles.globalToFull.find (i + 1) = some r.fullHandle := by
  rw [h.handles.global_succ, List.getElem?_map, hr]
  rfl

/-- The device lookup of a reported sensor after initialisation is the entry of
`sub_hw_devices` at its module index. -/
theorem Initialised.getV0DeviceByHandle {hal : SubHals} {g : Globals} {ctx : PollContext}
    (h : Initialised hal g ctx) {i : Nat} {r : ReportedSensor}
    (hr : hal.reportedSensors[i]? = some r) :
    ctx.getV0DeviceByHandle g (i + 1) = (hal.devices hal.modules.length)[r.moduleIndex]? := by
  rw [ctx.getV0DeviceByHandle_of_find g (h.find_globalToFull hr)
    (by simp [ReportedSensor.fullHandle]), h.devices]
  simp [ReportedSensor.fullHandle]

/-- The smallest working configuration: one library with one sensor of an API 1.0 sub-HAL. -/
def oneSensorHal : SubHals where
  soPaths := ["only.so"]
  loadModule _ := some 0
  getSensorsList _ := [{ handle := 0, type := 1 }]
  openModule _ := some SENSORS_DEVICE_API_VERSION_1_0

/-- What initialisation leaves for it. -/
def oneSensorInit : Globals × PollContext :=
  match initialise oneSensorHal { handle := 0, type := 0 } with
  | .ok result => result
  | .error _ => ({}, ⟨[]⟩)

theorem initialise_oneSensor : initialise oneSensorHal { handle := 0, type := 0 }
    = .ok (oneSensorInit.1, oneSensorInit.2) := rfl

/-- Two libraries that open, with two sensors each; both use the local handle 0. -/
def twoLibrariesHal : SubHals where
  soPaths := ["first.so", "second.so"]
  loadModule path := if path = "first.so" then some 0 else some 1
  getSensorsList m :=
    if m = 0 then [{ handle := 0, type := 1 }, { handle := 3, type := 4 }]
    else [{ handle := 0, type := 5 }, { handle := 5, type := SENSOR_TYPE_PROXIMITY }]
  openModule _ := some SENSORS_DEVICE_API_VERSION_1_0

def twoLibrariesInit : Globals × PollContext :=
  match initialise twoLibrariesHal { handle := 0, type := 0 } with
  | .ok result => result
  | .error _ => ({}, ⟨[]⟩)

theorem initialise_twoLibraries : initialise twoLibrariesHal { handle := 0, type := 0 }
    = .ok (twoLibrariesInit.1, twoLibrariesInit.2) := rfl

end Mozart.Sensors

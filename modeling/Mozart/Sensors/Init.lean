import Mozart.Lib.Loop
import Mozart.Sensors.Hal

/-!
# Initialisation of the multi-HAL

`open_sensors` opens the sub-HALs and leaves `queue_mutex` locked; `lazy_init_sensors_list`, run
by the first `get_sensors_list`, numbers the sensors and releases it. The two communicate through
the file-scope variables (`Globals`).

* The nested copy loop of `lazy_init_sensors_list` is `copyModules`; `copyModules_eq` flattens it
  to one loop over `reportedSensors`, every sensor with the module and position it came from.
* `openSubHals` is the loop of `open_sensors`; `openSubHals_devices` and `lookup_openSubHals` say
  what it leaves in the two containers it fills.
-/

namespace Mozart.Sensors

/-! ## `lazy_init_modules` -/

/-- What `sub_hw_modules` holds once it is initialised, in the order of the config file. -/
def SubHals.modules (hal : SubHals) : List HwModule := hal.soPaths.filterMap hal.loadModule

/-- `lazy_init_modules`; only the first call loads anything. -/
def lazyInitModules (hal : SubHals) (g : Globals) : Globals :=
  match g.subHwModules with
  | some _ => g
  | none => { g with subHwModules := some hal.modules }

/-! ## `open_sensors` -/

/-- The loop over `sub_hw_modules`: a module that opens gives a device and a version, one that
does not is skipped in both. -/
def openSubHals (hal : SubHals) :
    Nat → List HwModule → List HwDevice × VersionMap → List HwDevice × VersionMap
  | _, [], acc => acc
  | i, m :: ms, (devices, versions) =>
    match hal.openModule i with
    | none => openSubHals hal (i + 1) ms (devices, versions)
    | some version =>
      openSubHals hal (i + 1) ms (devices ++ [⟨i, version⟩], VersionMap.insert versions m version)

/-- `open_sensors`. It returns with `queue_mutex` locked. -/
def openSensors (hal : SubHals) (g : Globals) : Except Fault (Globals × PollContext) :=
  let g := lazyInitModules hal g
  if g.queueMutexLocked then
    .error .queueMutexHeld
  else
    let (devices, versions) := openSubHals hal 0 (g.subHwModules.getD []) ([], [])
    .ok ({ g with queueMutexLocked := true, subHwVersions := some versions }, ⟨devices⟩)

/-! ## `lazy_init_sensors_list` -/

/-- `fix_sensor_flags`. -/
def fixSensorFlags (version : Int) (sensor : SensorT) : SensorT :=
  if version < SENSORS_DEVICE_API_VERSION_1_3 then
    if sensor.type = SENSOR_TYPE_PROXIMITY then
      { sensor with flags := sensor.flags ||| SENSOR_FLAG_ON_CHANGE_MODE ||| SENSOR_FLAG_WAKE_UP }
    else if sensor.type = SENSOR_TYPE_TEMPERATURE then
      { sensor with flags := sensor.flags ||| SENSOR_FLAG_ON_CHANGE_MODE }
    else if sensor.type = SENSOR_TYPE_LIGHT then
      { sensor with flags := sensor.flags ||| SENSOR_FLAG_ON_CHANGE_MODE }
    else
      sensor
  else
    sensor

/-- The variables of the copy loop. -/
structure CopyState where
  handles : HandleTable
  mutableSensorList : List SensorT
  mutableSensorIndex : Nat

/-- The body of the inner loop: copy one sensor, give it a global handle, fix its flags. -/
def copySensor (versions : Option VersionMap) (moduleIndex : Nat) (hwModule : HwModule)
    (st : CopyState) (localSensor : SensorT) : Except Fault CopyState :=
  if st.mutableSensorIndex < st.mutableSensorList.length then
    let (handles, globalHandle) := st.handles.assignGlobalHandle moduleIndex localSensor.handle
    match versionAt versions hwModule with
    | .error fault => .error fault
    | .ok version =>
      .ok {
        handles := handles
        mutableSensorList := st.mutableSensorList.set st.mutableSensorIndex
          (fixSensorFlags version { localSensor with handle := globalHandle })
        mutableSensorIndex := st.mutableSensorIndex + 1 }
  else
    .error .outOfBounds

/-- The outer loop over `sub_hw_modules`, with `module_index` counting along. -/
def copyModules (hal : SubHals) (versions : Option VersionMap) :
    Nat → List HwModule → CopyState → Except Fault CopyState
  | _, [], st => .ok st
  | moduleIndex, m :: ms, st =>
    match (hal.getSensorsList m).foldlM (copySensor versions moduleIndex m) st with
    | .error fault => .error fault
    | .ok st => copyModules hal versions (moduleIndex + 1) ms st

/-- The first pass over the modules. -/
def countSensors (hal : SubHals) (modules : List HwModule) : Nat :=
  modules.foldl (fun count m => count + (hal.getSensorsList m).length) 0

/-- `lazy_init_sensors_list`. The array is allocated for the count of the first pass and filled
by the second; what its cells hold before that is `blank`. -/
def lazyInitSensorsList (hal : SubHals) (blank : SensorT) (g : Globals) : Except Fault Globals :=
  if g.globalSensorsList.isSome then
    -- already initialised
    .ok g
  else
    let g := lazyInitModules hal g
    let modules := g.subHwModules.getD []
    let count := countSensors hal modules
    match copyModules hal g.subHwVersions 0 modules
        ⟨g.handles, List.replicate count blank, 0⟩ with
    | .error fault => .error fault
    | .ok st =>
      if g.queueMutexLocked then
        .ok { g with
          handles := st.handles
          globalSensorsCount := count
          sensorsBatchList := List.replicate count {}
          sensorsEnableState := List.replicate count 0
          globalSensorsList := some st.mutableSensorList
          subHwVersions := none
          queueMutexLocked := false }
      else
        .error .queueMutexNotHeld

/-- `module__get_sensors_list`: the count it returns and the list it stores in `*list`. -/
def getSensorsList (hal : SubHals) (blank : SensorT) (g : Globals) :
    Except Fault (Globals × Int × Option (List SensorT)) :=
  match lazyInitSensorsList hal blank g with
  | .error fault => .error fault
  | .ok g => .ok (g, g.globalSensorsCount, g.globalSensorsList)

/-- The usual order: one `open_sensors`, then one `get_sensors_list`. -/
def initialise (hal : SubHals) (blank : SensorT) : Except Fault (Globals × PollContext) :=
  match openSensors hal {} with
  | .error fault => .error fault
  | .ok (g, ctx) =>
    match lazyInitSensorsList hal blank g with
    | .error fault => .error fault
    | .ok g => .ok (g, ctx)

/-! ## The copy loop, flattened -/

/-- A sensor as the copy loop meets it. -/
structure ReportedSensor where
  moduleIndex : Nat
  hwModule : HwModule
  sensor : SensorT

def ReportedSensor.fullHandle (r : ReportedSensor) : FullHandle :=
  ⟨r.moduleIndex, r.sensor.handle⟩

/-- The sensors of the modules `ms`, the first of which has index `i`, in loop order. -/
def reportedFrom (hal : SubHals) : Nat → List HwModule → List ReportedSensor
  | _, [] => []
  | i, m :: ms =>
    (hal.getSensorsList m).map (fun s => ⟨i, m, s⟩) ++ reportedFrom hal (i + 1) ms

/-- The concatenated lists of all modules. -/
def SubHals.reportedSensors (hal : SubHals) : List ReportedSensor := reportedFrom hal 0 hal.modules

def copyReported (versions : Option VersionMap) (st : CopyState) (r : ReportedSensor) :
    Except Fault CopyState :=
  copySensor versions r.moduleIndex r.hwModule st r.sensor

theorem copyModules_eq (hal : SubHals) (versions : Option VersionMap) (i : Nat)
    (ms : List HwModule) (st : CopyState) :
    copyModules hal versions i ms st
      = (reportedFrom hal i ms).foldlM (copyReported versions) st := by
  induction ms generalizing i st with
  | nil => rfl
  | cons m ms ih =>
    have hinner : ((hal.getSensorsList m).map fun s => (⟨i, m, s⟩ : ReportedSensor)).foldlM
        (copyReported versions) st
        = (hal.getSensorsList m).foldlM (copySensor versions i m) st := by
      rw [List.foldlM_map]
      rfl
    rw [copyModules, reportedFrom, List.foldlM_append, hinner]
    cases (hal.getSensorsList m).foldlM (copySensor versions i m) st with
    | error fault => rfl
    | ok st' => exact ih (i + 1) st'

theorem countSensors_eq (hal : SubHals) (i : Nat) (ms : List HwModule) :
    countSensors hal ms = (reportedFrom hal i ms).length := by
  suffices h : ∀ i n, ms.foldl (fun count m => count + (hal.getSensorsList m).length) n
      = n + (reportedFrom hal i ms).length by
    rw [countSensors, h i 0, Nat.zero_add]
  induction ms with
  | nil =>
    intro i n
    rfl
  | cons m ms ih =>
    intro i n
    rw [List.foldl_cons, ih (i + 1), reportedFrom, List.length_append, List.length_map]
    omega

/-- The sensors of the concatenated list are those of the module at their index. -/
theorem mem_reportedFrom {hal : SubHals} {i : Nat} {ms : List HwModule} {r : ReportedSensor} :
    r ∈ reportedFrom hal i ms ↔ ∃ k, r.moduleIndex = i + k ∧ ms[k]? = some r.hwModule ∧
      r.sensor ∈ hal.getSensorsList r.hwModule := by
  induction ms generalizing i with
  | nil => simp [reportedFrom]
  | cons m ms ih =>
    rw [reportedFrom, List.mem_append, List.mem_map, ih]
    constructor
    · rintro (⟨s, hs, rfl⟩ | ⟨k, hk, hget, hmem⟩)
      · exact ⟨0, rfl, rfl, hs⟩
      · exact ⟨k + 1, by omega, by simpa using hget, hmem⟩
    · rintro ⟨k, hk, hget, hmem⟩
      cases k with
      | zero =>
        obtain rfl : m = r.hwModule := by simpa using hget
        exact Or.inl ⟨r.sensor, hmem, by obtain ⟨_, _, _⟩ := r; simp_all⟩
      | succ k => exact Or.inr ⟨k, by omega, by simpa using hget, hmem⟩

/-! ## The opening loop -/

/-- How many of the first `n` `open()` calls succeed. -/
def SubHals.openedBefore (hal : SubHals) (n : Nat) : Nat :=
  (List.range n).countP fun k => (hal.openModule k).isSome

/-- The devices of the first `n` modules that open. -/
def SubHals.devices (hal : SubHals) (n : Nat) : List HwDevice :=
  (List.range n).filterMap fun k => (hal.openModule k).map (HwDevice.mk k)

theorem SubHals.devices_succ (hal : SubHals) (n : Nat) :
    hal.devices (n + 1) = hal.devices n ++ ((hal.openModule n).map (HwDevice.mk n)).toList := by
  rw [SubHals.devices, List.range_succ, List.filterMap_append, SubHals.devices]
  congr 1

theorem SubHals.openedBefore_succ (hal : SubHals) (n : Nat) :
    hal.openedBefore (n + 1) = hal.openedBefore n + if (hal.openModule n).isSome then 1 else 0 := by
  rw [SubHals.openedBefore, List.range_succ, List.countP_append, SubHals.openedBefore]
  simp

theorem openSubHals_devices (hal : SubHals) (ms : List HwModule) (i : Nat) (versions : VersionMap) :
    (openSubHals hal i ms (hal.devices i, versions)).1 = hal.devices (i + ms.length) := by
  induction ms generalizing i versions with
  | nil => rfl
  | cons m ms ih =>
    rw [openSubHals, List.length_cons, show i + (ms.length + 1) = i + 1 + ms.length by omega]
    cases h : hal.openModule i with
    | none =>
      have hsame : hal.devices i = hal.devices (i + 1) := by rw [hal.devices_succ, h]; simp
      simp only
      rw [hsame]
      exact ih (i + 1) versions
    | some version =>
      have hnext : hal.devices i ++ [⟨i, version⟩] = hal.devices (i + 1) := by
        rw [hal.devices_succ, h]
        rfl
      simp only
      rw [hnext]
      exact ih (i + 1) _

theorem lookup_insert (versions : VersionMap) (m m' : HwModule) (version : Int) :
    (VersionMap.insert versions m version).lookup m'
      = (versions.lookup m').or (if m' = m then some version else none) := by
  have happend : (versions ++ [(m, version)]).lookup m'
      = (versions.lookup m').or (if m' = m then some version else none) := by
    rw [List.lookup_append]
    by_cases h : m' = m
    · simp [h]
    · simp [List.lookup_cons, h, beq_false_of_ne h]
  unfold VersionMap.insert
  split
  · rename_i hsome
    by_cases h : m' = m
    · subst h
      obtain ⟨v, hv⟩ := Option.isSome_iff_exists.mp hsome
      simp [hv]
    · simp [h]
  · exact happend

/-- The version recorded for a module is that of the first of its entries that opened. -/
theorem lookup_openSubHals (hal : SubHals) (ms : List HwModule) (i : Nat)
    (devices : List HwDevice) (versions : VersionMap) (m : HwModule) (version : Int)
    (h : (openSubHals hal i ms (devices, versions)).2.lookup m = some version) :
    versions.lookup m = some version ∨
      ∃ k, ms[k]? = some m ∧ hal.openModule (i + k) = some version := by
  induction ms generalizing i devices versions with
  | nil => exact Or.inl h
  | cons m' ms ih =>
    rw [openSubHals] at h
    cases hopen : hal.openModule i with
    | none =>
      rw [hopen] at h
      rcases ih (i + 1) _ _ h with hold | ⟨k, hget, hk⟩
      · exact Or.inl hold
      · exact Or.inr ⟨k + 1, by simpa using hget, by rw [← hk]; congr 1; omega⟩
    | some v =>
      rw [hopen] at h
      -- the entry was there before, or is the one just made, or a later one
      rcases ih (i + 1) _ _ h with hold | ⟨k, hget, hk⟩
      · rw [lookup_insert] at hold
        cases hv : versions.lookup m with
        | some v' =>
          rw [hv] at hold
          exact Or.inl hold
        | none =>
          rw [hv, Option.none_or] at hold
          split_ifs at hold with hm
          refine Or.inr ⟨0, by simp [hm], ?_⟩
          rw [Nat.add_zero, hopen, hold]
      · exact Or.inr ⟨k + 1, by simpa using hget, by rw [← hk]; congr 1; omega⟩

/-- A module is in the version map exactly when one of its entries opened. -/
theorem isSome_lookup_openSubHals (hal : SubHals) (ms : List HwModule) (i : Nat)
    (devices : List HwDevice) (versions : VersionMap) (m : HwModule) :
    ((openSubHals hal i ms (devices, versions)).2.lookup m).isSome ↔
      (versions.lookup m).isSome ∨
        ∃ k, ms[k]? = some m ∧ (hal.openModule (i + k)).isSome := by
  constructor
  · intro h
    obtain ⟨version, hversion⟩ := Option.isSome_iff_exists.mp h
    rcases lookup_openSubHals hal ms i devices versions m version hversion with hold | ⟨k, hget, hk⟩
    · exact Or.inl (by simp [hold])
    · exact Or.inr ⟨k, hget, by simp [hk]⟩
  · induction ms generalizing i devices versions with
    | nil =>
      rintro (h | ⟨k, hget, _⟩)
      · exact h
      · simp at hget
    | cons m' ms ih =>
      intro h
      rw [openSubHals]
      cases hopen : hal.openModule i with
      | none =>
        refine ih (i + 1) _ _ ?_
        rcases h with hold | ⟨k, hget, hk⟩
        · exact Or.inl hold
        -- the entry at `i` did not open, so the one in question is further on
        · cases k with
          | zero => simp [hopen] at hk
          | succ k =>
            exact Or.inr ⟨k, by simpa using hget, by
              rw [show i + 1 + k = i + (k + 1) by omega]; exact hk⟩
      | some v =>
        refine ih (i + 1) _ _ ?_
        rcases h with hold | ⟨k, hget, hk⟩
        · exact Or.inl (by rw [lookup_insert, Option.isSome_or, hold, Bool.true_or])
        · cases k with
          -- `insert` keeps an older entry, but there is one either way
          | zero =>
            obtain rfl : m' = m := by simpa using hget
            exact Or.inl (by rw [lookup_insert, Option.isSome_or, if_pos rfl]; simp)
          | succ k =>
            exact Or.inr ⟨k, by simpa using hget, by
              rw [show i + 1 + k = i + (k + 1) by omega]; exact hk⟩

end Mozart.Sensors

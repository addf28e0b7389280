import Mozart.Sensors.InitSpec

/-!
# Sub-HALs that fail to open

`moduleIndex` counts the entries of `sub_hw_modules`, but `sub_hw_devices` only grows for those
that open, so the two indices part at the first failure. `openedBefore m` is where the device of
the module at `m` really is; `devices_at_iff` says when looking at index `m` finds it (or finds
nothing, for a module that failed).
-/

namespace Mozart.Sensors

/-! ## Control calls reach the owner -/

theorem Initialised.handle_of_getElem? {hal : SubHals} {g : Globals} {ctx : PollContext}
    (h : Initialised hal g ctx) {list : List SensorT} (hlist : g.globalSensorsList = some list)
    {i : Nat} {sensor : SensorT} {r : ReportedSensor} (hsensor : list[i]? = some sensor)
    (hr : hal.reportedSensors[i]? = some r) : sensor.handle = i + 1 := by
  obtain ⟨list', hlist', _, hentries⟩ := h.list
  obtain rfl : list = list' := Option.some.inj (hlist.symm.trans hlist')
  obtain ⟨_, version, _, _, hget⟩ := hentries i r hr
  obtain rfl : sensor = globalSensor version i r := Option.some.inj (hsensor.symm.trans hget)
  exact handle_globalSensor version i r

/-- Initialisation completes, and for every entry of `global_sensors_list` both device lookups
give the device opened from the very module that reported it, or `NULL` if that failed to
open. -/
def ReachesOwner (hal : SubHals) (blank : SensorT) : Prop :=
  ∃ g ctx list, initialise hal blank = .ok (g, ctx) ∧ g.globalSensorsList = some list ∧
    ∀ (i : Nat) (sensor : SensorT) (r : ReportedSensor),
      list[i]? = some sensor → hal.reportedSensors[i]? = some r →
      ctx.getV0DeviceByHandle g sensor.handle
          = (hal.openModule r.moduleIndex).map (HwDevice.mk r.moduleIndex) ∧
        ctx.getV1DeviceByHandle g sensor.handle
          = (hal.openModule r.moduleIndex).map (HwDevice.mk r.moduleIndex)

/-- Every entry with sensors opened and so did all entries before it; or it failed, its library
opened at another entry, and no more entries opened than there are before it. -/
def OpensInOrder (hal : SubHals) : Prop :=
  ∀ m hwModule, hal.modules[m]? = some hwModule → hal.getSensorsList hwModule ≠ [] →
    (∀ k ≤ m, (hal.openModule k).isSome) ∨
      (hal.openModule m = none ∧ hal.Opened hwModule ∧
        hal.openedBefore hal.modules.length ≤ m)

theorem OpensInOrder.opened {hal : SubHals} (h : OpensInOrder hal) {r : ReportedSensor}
    (hr : r ∈ hal.reportedSensors) : hal.Opened r.hwModule := by
  obtain ⟨k, hk, hmodule, hsensor⟩ := mem_reportedFrom.mp hr
  rcases h k r.hwModule hmodule (List.ne_nil_of_mem hsensor) with hbefore | ⟨_, hopened, _⟩
  · exact ⟨k, hmodule, hbefore k (Nat.le_refl k)⟩
  · exact hopened

/-- **Control calls reach the owner exactly when the modules with sensors open in order.** -/
theorem reachesOwner_iff_opensInOrder (hal : SubHals) (blank : SensorT) :
    ReachesOwner hal blank ↔ OpensInOrder hal := by
  constructor
  · rintro ⟨g, ctx, list, hinit, hlist, hreach⟩ m hwModule hmodule hsensors
    have h := (initialised_of_initialise hinit).1
    -- a sensor of this module, and its place in the list
    obtain ⟨s, hs⟩ := List.exists_mem_of_ne_nil _ hsensors
    have hmem : (⟨m, hwModule, s⟩ : ReportedSensor) ∈ hal.reportedSensors :=
      mem_reportedFrom.mpr ⟨m, (Nat.zero_add m).symm, hmodule, hs⟩
    obtain ⟨i, hi⟩ := List.mem_iff_getElem?.mp hmem
    obtain ⟨list', hlist', _, hentries⟩ := h.list
    obtain rfl : list = list' := Option.some.inj (hlist.symm.trans hlist')
    obtain ⟨k, version, hk, hopen, hget⟩ := hentries i _ hi
    have hv0 := (hreach i _ _ hget hi).1
    rw [handle_globalSensor, h.getV0DeviceByHandle hi] at hv0
    have hlt : m < hal.modules.length := (List.getElem?_eq_some_iff.mp hmodule).1
    rcases (hal.devices_at_iff hlt).mp hv0 with hbefore | ⟨hnone, hshort⟩
    · exact Or.inl hbefore
    · exact Or.inr ⟨hnone, ⟨k, hk, by simp [hopen]⟩, hshort⟩
  · intro horder
    obtain ⟨g, ctx, hinit⟩ := (initialise_ok_iff hal blank).mpr fun r hr => horder.opened hr
    have h := (initialised_of_initialise hinit).1
    obtain ⟨list, hlist, _⟩ := h.list
    refine ⟨g, ctx, list, hinit, hlist, fun i sensor r hsensor hr => ?_⟩
    obtain ⟨m, hm, hmodule, hs⟩ := mem_reportedFrom.mp (List.mem_of_getElem? hr)
    rw [Nat.zero_add] at hm
    subst hm
    have hlt : r.moduleIndex < hal.modules.length := (List.getElem?_eq_some_iff.mp hmodule).1
    have hv0 : ctx.getV0DeviceByHandle g sensor.handle
        = (hal.openModule r.moduleIndex).map (HwDevice.mk r.moduleIndex) := by
      rw [h.handle_of_getElem? hlist hsensor hr, h.getV0DeviceByHandle hr, hal.devices_at_iff hlt]
      exact (horder _ _ hmodule (List.ne_nil_of_mem hs)).imp id fun ⟨h₁, _, h₂⟩ => ⟨h₁, h₂⟩
    exact ⟨hv0, by rw [ctx.getV1DeviceByHandle_eq, hv0]⟩

/-- Two libraries: the first has no sensors and fails to open, the second has one and opens. -/
def firstFailsHal : SubHals where
  soPaths := ["first.so", "second.so"]
  loadModule path := if path = "first.so" then some 0 else some 1
  getSensorsList m := if m = 0 then [] else [{ handle := 0, type := 1 }]
  openModule i := if i = 0 then none else some SENSORS_DEVICE_API_VERSION_1_0

def firstFailsInit : Globals × PollContext :=
  match initialise firstFailsHal { handle := 0, type := 0 } with
  | .ok result => result
  | .error _ => ({}, ⟨[]⟩)

theorem initialise_firstFails : initialise firstFailsHal { handle := 0, type := 0 }
    = .ok (firstFailsInit.1, firstFailsInit.2) := rfl

/-- The sensor of the second library has global handle 1 and module index 1, but its device is
at index 0: the lookup finds nothing. -/
theorem not_reachesOwner_firstFails : ¬ ReachesOwner firstFailsHal { handle := 0, type := 0 } := by
  rintro ⟨g, ctx, list, hinit, hlist, hreach⟩
  rw [show initialise firstFailsHal { handle := 0, type := 0 } = .ok (_, _) from rfl] at hinit
  cases hinit
  cases hlist
  have hlookup := (hreach 0 _ ⟨1, 1, { handle := 0, type := 1 }⟩ rfl rfl).1
  revert hlookup
  decide

end Mozart.Sensors

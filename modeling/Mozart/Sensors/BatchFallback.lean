import Mozart.Sensors.ControlHandles

/-!
# The clamping fallback of `sensors_poll_context_t::batch`

For a sub-HAL below API 1.1 `batch` becomes a `setDelay` with the period clamped to the delays of
the sensor. It reads them from `global_sensors_list` at the *module* index, not at the position of
the sensor, and passes `setDelay` the *global* handle, not the local one.

* `setsOwnDelay_iff`: what an accepted call asks the sub-HAL for.
* **`fallback_iff`**: when the right sensor gets the right period all the same.
-/

namespace Mozart.Sensors

variable {hal : SubHals} {blank : SensorT}

/-! ## Two clamps of one value -/

/-- Clamping `p` to `lo .. hi` and to `lo' .. hi'` is the same. -/
def SameClamp (p lo hi lo' hi' : Int) : Prop :=
  ((lo ≤ p ∧ p ≤ hi) ∧ lo' ≤ p ∧ p ≤ hi') ∨
    (p < lo ∧ p < lo' ∧ lo = lo') ∨
    (lo ≤ p ∧ hi < p ∧ hi' < p ∧ hi = hi')

theorem clamp_eq_iff {p lo hi lo' hi' : Int} (hrange : lo' ≤ hi') :
    (if p < lo then lo else if p > hi then hi else p) = max lo' (min p hi') ↔
      SameClamp p lo hi lo' hi' := by
  unfold SameClamp
  split_ifs <;> omega

/-! ## The fallback -/

/-- The single `setDelay` the fallback owes a sensor with the entry `own`, or `-EINVAL`. -/
def ClampsOwn (result : Except Fault Reply) (device : HwDevice) (localHandle : Int)
    (own : SensorT) (periodNs timeout : Int) : Prop :=
  if periodNs < 0 ∨ timeout < 0 then
    result = .ok .invalid
  else
    ∃ reply, result = .ok reply ∧ reply.calls.map Prod.fst =
      [.setDelay device localHandle (max own.minDelay (min periodNs own.maxDelay))]

/-- When it does: no module up to that of the sensor failed to open, global and local handle are the
same number, and the entry at the module index clamps the period as the sensor's own does. For
arguments that are refused it is enough that the device at the module index takes no batch. -/
def FallbackSafe (hal : SubHals) (s : ControlState) (handle : Int) (full : FullHandle)
    (own : SensorT) (periodNs timeout : Int) : Prop :=
  if periodNs < 0 ∨ timeout < 0 then
    0 ≤ full.localHandle → ∀ d, s.ctx.subHwDevices[full.moduleIndex.toNat]? = some d →
      d.version < SENSORS_DEVICE_API_VERSION_1_1
  else
    (∀ k ≤ full.moduleIndex.toNat, (hal.openModule k).isSome) ∧ full.localHandle = handle ∧
      ∃ entry, (s.globals.globalSensorsList.getD [])[full.moduleIndex.toNat]? = some entry ∧
        SameClamp periodNs entry.minDelay (toInt32 entry.maxDelay) own.minDelay own.maxDelay

/-- A known handle was given to a sensor of some module, and has an entry of its own. -/
theorem Initialised.entry_of_find {g : Globals} {ctx : PollContext} (h : Initialised hal g ctx)
    {handle : Int} {full : FullHandle} (hfind : g.handles.globalToFull.find handle = some full) :
    (∃ m : Nat, full.moduleIndex = m ∧ m < hal.modules.length) ∧
      ∃ own, (g.globalSensorsList.getD [])[(handle - 1).toNat]? = some own ∧
        own.handle = handle := by
  rw [h.handles.global] at hfind
  split_ifs at hfind with hpos
  rw [List.getElem?_map, Option.map_eq_some_iff] at hfind
  obtain ⟨r, hr, rfl⟩ := hfind
  obtain ⟨k, hk, hmodule, -⟩ := mem_reportedFrom.mp (List.mem_of_getElem? hr)
  obtain ⟨list, hlist, -, hentries⟩ := h.list
  obtain ⟨-, version, -, -, hown⟩ := hentries _ r hr
  refine ⟨⟨r.moduleIndex, rfl, ?_⟩, _, by rw [hlist]; exact hown, ?_⟩
  · obtain rfl : r.moduleIndex = k := by omega
    exact (List.getElem?_eq_some_iff.mp hmodule).1
  · rw [handle_globalSensor]
    omega

/-- The body of `batch` for a sub-HAL below API 1.1. -/
theorem PollContext.batch_of_old {ctx : PollContext} {g : Globals} {answer : SubHalCall → Int}
    {handle l : Int} {d : HwDevice} (flags periodNs timeout : Int)
    (hroute : ctx.route g handle = some (d, l))
    (hold : halIsAPILevelCompliant ctx g handle SENSORS_DEVICE_API_VERSION_1_1 = false) :
    ctx.batch g answer handle flags periodNs timeout =
      if periodNs < 0 ∨ timeout < 0 then .ok .invalid
      else match getIndex (g.globalSensorsList.getD []) (g.handles.getModuleIndex handle) with
        | .error fault => .error fault
        | .ok sensor => .ok (.forward answer (.setDelay d handle
            (if periodNs < sensor.minDelay then sensor.minDelay
            else if periodNs > toInt32 sensor.maxDelay then toInt32 sensor.maxDelay
            else periodNs))) := by
  rw [PollContext.batch, ctx.withSensor_eq g, hroute]
  have hnot : ¬ halIsAPILevelCompliant ctx g handle SENSORS_DEVICE_API_VERSION_1_1 = true := by
    rw [hold]
    exact Bool.false_ne_true
  exact if_neg hnot

/-- An accepted `batch` below API 1.1 is the right `setDelay` when device, handle and clamp agree
with those of the sensor. -/
theorem PollContext.setsOwnDelay_iff {ctx : PollContext} {g : Globals} {answer : SubHalCall → Int}
    {handle l periodNs timeout localHandle : Int} {d device : HwDevice} {own : SensorT}
    (flags : Int) (hroute : ctx.route g handle = some (d, l))
    (hold : halIsAPILevelCompliant ctx g handle SENSORS_DEVICE_API_VERSION_1_1 = false)
    (hnonneg : 0 ≤ g.handles.getModuleIndex handle) (hrange : own.minDelay ≤ own.maxDelay)
    (haccepted : ¬ (periodNs < 0 ∨ timeout < 0)) :
    (∃ reply, ctx.batch g answer handle flags periodNs timeout = .ok reply ∧
      reply.calls.map Prod.fst =
        [.setDelay device localHandle (max own.minDelay (min periodNs own.maxDelay))]) ↔
    d = device ∧ localHandle = handle ∧
      ∃ entry, (g.globalSensorsList.getD [])[(g.handles.getModuleIndex handle).toNat]? =
          some entry ∧
        SameClamp periodNs entry.minDelay (toInt32 entry.maxDelay) own.minDelay own.maxDelay := by
  rw [PollContext.batch_of_old flags periodNs timeout hroute hold, if_neg haccepted, getIndex,
    if_neg (Int.not_lt.mpr hnonneg)]
  cases (g.globalSensorsList.getD [])[(g.handles.getModuleIndex handle).toNat]? with
  | none => simp
  | some entry =>
    have hclamp := @clamp_eq_iff periodNs entry.minDelay (toInt32 entry.maxDelay) _ _ hrange
    constructor
    · rintro ⟨reply, heq, hcalls⟩
      cases heq
      injection hcalls with hcall
      injection hcall with hd hhandle hperiod
      exact ⟨hd, hhandle.symm, entry, rfl, hclamp.mp hperiod⟩
    · rintro ⟨rfl, rfl, entry', hentry', hsame⟩
      cases hentry'
      refine ⟨_, rfl, ?_⟩
      rw [← hclamp.mpr hsame]
      rfl

/-- **The fallback uses the right sensor exactly when `FallbackSafe`**, for every handle of a
sub-HAL below API 1.1; `own` is the entry of the sensor in `global_sensors_list`. -/
theorem fallback_iff {s : ControlState} (hs : Transition.Reachable (controlSystem hal blank) s)
    {handle : Int} {full : FullHandle}
    (hfind : s.globals.handles.globalToFull.find handle = some full) {version : Int}
    (hopen : hal.openModule full.moduleIndex.toNat = some version)
    (hold : version < SENSORS_DEVICE_API_VERSION_1_1) :
    ∃ own, (s.globals.globalSensorsList.getD [])[(handle - 1).toNat]? = some own ∧
      own.handle = handle ∧
      (own.minDelay ≤ own.maxDelay → ∀ flags periodNs timeout answer,
        (ClampsOwn (s.ctx.batch s.globals answer handle flags periodNs timeout)
          ⟨full.moduleIndex.toNat, version⟩ full.localHandle own periodNs timeout ↔
        FallbackSafe hal s handle full own periodNs timeout)) := by
  have h := initialised_of_reachable hs
  obtain ⟨⟨m, hm, hlt⟩, own, hown, hhandle⟩ := h.entry_of_find hfind
  refine ⟨own, hown, hhandle, fun hrange flags periodNs timeout answer => ?_⟩
  have hnonneg : 0 ≤ full.moduleIndex := by omega
  have hpos : 1 ≤ handle := ((h.handles.isSome_global handle).mp (by simp [hfind])).1
  have hindex : s.globals.handles.getModuleIndex handle = full.moduleIndex := by
    simp [HandleTable.getModuleIndex, hfind]
  -- that every module up to the sensor's own opened means that its device is at its index
  have hdevices : (∀ k ≤ full.moduleIndex.toNat, (hal.openModule k).isSome) ↔
      s.ctx.subHwDevices[full.moduleIndex.toNat]? = some ⟨full.moduleIndex.toNat, version⟩ := by
    have hat := hal.devices_at_iff (show full.moduleIndex.toNat < hal.modules.length by omega)
    rw [hopen, or_iff_left (by simp)] at hat
    rw [← hat, h.devices, Option.map_some]
  rw [ClampsOwn, FallbackSafe, hdevices]
  -- without a device at the index, or with a negative local handle, `batch` answers `-EINVAL`
  cases hroute : s.ctx.route s.globals handle with
  | none =>
    have hbatch : s.ctx.batch s.globals answer handle flags periodNs timeout = .ok .invalid := by
      rw [PollContext.batch, s.ctx.withSensor_eq s.globals, hroute]
    have hnowhere : ∀ d, s.ctx.subHwDevices[full.moduleIndex.toNat]? = some d →
        ¬ 0 ≤ full.localHandle := fun d hd hlocal => by
      rw [(s.ctx.route_eq_some_iff s.globals hfind hnonneg).mpr ⟨hd, hlocal, rfl⟩] at hroute
      cases hroute
    rw [hbatch]
    split_ifs
    · exact iff_of_true rfl fun hlocal d hd => absurd hlocal (hnowhere d hd)
    · refine iff_of_false ?_ fun hsafe => hnowhere _ hsafe.1 (by omega)
      rintro ⟨reply, heq, hcalls⟩
      cases heq
      cases hcalls
  | some target =>
    obtain ⟨d, l⟩ := target
    obtain ⟨hdevice, hlocal, -⟩ := (s.ctx.route_eq_some_iff s.globals hfind hnonneg).mp hroute
    have hcompliant := halIsAPILevelCompliant_of_find s.ctx s.globals hfind hnonneg hdevice
      (show 0 ≤ SENSORS_DEVICE_API_VERSION_1_1 by decide)
    rw [hdevice]
    by_cases hlevel : SENSORS_DEVICE_API_VERSION_1_1 ≤ d.version
    · -- the device of another module, which takes the batch itself
      rw [PollContext.batch_eq_of_compliant _ _ _ (hcompliant.trans (decide_eq_true hlevel)),
        hroute]
      split_ifs
      · exact iff_of_false (fun heq => List.cons_ne_nil _ _ (congrArg Reply.calls
          (Except.ok.inj heq))) fun hsafe => absurd (hsafe hlocal d rfl) (Int.not_lt.mpr hlevel)
      · refine iff_of_false ?_ fun hsafe => ?_
        · rintro ⟨reply, heq, hcalls⟩
          cases heq
          cases hcalls
        · rw [Option.some.inj hsafe.1] at hlevel
          exact absurd hold (Int.not_lt.mpr hlevel)
    · -- a device that has no batch, the sensor's own or another
      have hnotCompliant := hcompliant.trans (decide_eq_false hlevel)
      split_ifs with hrefused
      · rw [PollContext.batch_of_old flags periodNs timeout hroute hnotCompliant, if_pos hrefused]
        exact iff_of_true rfl fun _ d' hd' => Option.some.inj hd' ▸ Int.not_le.mp hlevel
      · rw [PollContext.setsOwnDelay_iff flags hroute hnotCompliant (hindex ▸ hnonneg) hrange
          hrefused, hindex, Option.some_inj]

/-- One API 1.0 sub-HAL with two sensors whose local handles are the global ones. -/
def twoDelaysHal : SubHals :=
  { oneSensorHal with
    getSensorsList := fun _ => [{ handle := 1, type := 1, minDelay := 10, maxDelay := 90 },
      { handle := 2, type := 2, minDelay := 20, maxDelay := 90 }] }

theorem reachable_twoDelays :
    ∃ s, Transition.Reachable (controlSystem twoDelaysHal { handle := 0, type := 0 }) s ∧
      s.globals.handles.globalToFull.find 1 = some ⟨0, 1⟩ ∧
      s.globals.handles.globalToFull.find 2 = some ⟨0, 2⟩ ∧
      (s.globals.globalSensorsList.getD []).map (fun sensor =>
        (sensor.handle, sensor.minDelay, sensor.maxDelay)) = [(1, 10, 90), (2, 20, 90)] ∧
      ∀ answer, s.ctx.batch s.globals answer 2 0 15 0 =
        .ok (.forward answer (.setDelay ⟨0, SENSORS_DEVICE_API_VERSION_1_0⟩ 2 15)) :=
  ⟨⟨_, _, []⟩, .init ⟨rfl, rfl⟩, rfl, rfl, rfl, fun _ => rfl⟩

/-- The first sensor is the one the fallback looks at. -/
theorem fallback_iff_twoDelays :
    ∃ s own, Transition.Reachable (controlSystem twoDelaysHal { handle := 0, type := 0 }) s ∧
      own.handle = 1 ∧ ClampsOwn (s.ctx.batch s.globals (fun _ => 0) 1 0 5 0)
        ⟨0, SENSORS_DEVICE_API_VERSION_1_0⟩ 1 own 5 0 := by
  obtain ⟨s, hs, hfind, -, hlist, -⟩ := reachable_twoDelays
  obtain ⟨own, hown, hhandle, hiff⟩ := fallback_iff hs hfind rfl
    (show SENSORS_DEVICE_API_VERSION_1_0 < SENSORS_DEVICE_API_VERSION_1_1 by decide)
  have hdelays : own.minDelay = 10 ∧ own.maxDelay = 90 := by
    have hget := congrArg (fun list => list[0]?) hlist
    simp only [List.getElem?_map] at hget
    rw [show (s.globals.globalSensorsList.getD [])[0]? = some own from hown] at hget
    simpa [hhandle] using hget
  refine ⟨s, own, hs, hhandle, (hiff (by omega) 0 5 0 fun _ => 0).mpr ?_⟩
  refine ⟨fun _ _ => rfl, rfl, own, hown, ?_⟩
  rw [hdelays.1, hdelays.2]
  exact Or.inr (Or.inl (by decide))

/-- A period of 15 for the second sensor, whose delays start at 20, is let through by those of the
first. -/
theorem not_clampsOwn_twoDelays :
    ∃ s own, Transition.Reachable (controlSystem twoDelaysHal { handle := 0, type := 0 }) s ∧
      s.globals.handles.globalToFull.find 2 = some ⟨0, 2⟩ ∧
      (s.globals.globalSensorsList.getD [])[1]? = some own ∧ own.handle = 2 ∧
      own.minDelay ≤ own.maxDelay ∧
      ¬ ClampsOwn (s.ctx.batch s.globals (fun _ => 0) 2 0 15 0)
        ⟨0, SENSORS_DEVICE_API_VERSION_1_0⟩ 2 own 15 0 := by
  obtain ⟨s, hs, -, hfind, hlist, hbatch⟩ := reachable_twoDelays
  have hget := congrArg (fun list => list[1]?) hlist
  simp only [List.getElem?_map] at hget
  obtain ⟨own, hown, hentry⟩ := Option.map_eq_some_iff.mp hget
  obtain ⟨hhandle, hmin, hmax⟩ : own.handle = 2 ∧ own.minDelay = 20 ∧ own.maxDelay = 90 := by
    simpa using hentry
  refine ⟨s, own, hs, hfind, hown, hhandle, by omega, ?_⟩
  rw [hbatch, ClampsOwn, if_neg (by decide), hmin, hmax]
  rintro ⟨reply, heq, hcalls⟩
  cases heq
  exact absurd hcalls (by decide)

end Mozart.Sensors

import Mozart.Lib.Transition
import Mozart.Sensors.InitSpec

/-!
# Sequences of control calls

After initialisation the framework calls the five `device__*` entry points in any order and with
any arguments, and the sub-HALs answer as they like. `controlSystem` is that system; its state
remembers every sub-HAL call made and what it returned.

* **`dispatched_of_ok`**: the one inversion lemma. `Dispatched` lists what a control call that
  returns can have done, and every later fact is a case analysis of it.
* **`Initialised.route_eq`**: where a handle leads depends only on the sub-HALs (`target`), in
  every state of every run.
* **`handles_faithful`**: global handles encode (module, local handle).
* **`rejected_iff`**: which entry points reject an unknown handle without side effects.
-/

namespace Mozart.Sensors

/-! ## Array cells -/

section Cells

variable {α : Type} {xs ys : List α} {index : Int} {x : α}

theorem getIndex_eq_ok :
    getIndex xs index = .ok x ↔ ∃ i : Nat, index = i ∧ xs[i]? = some x := by
  unfold getIndex
  constructor
  · intro h
    split_ifs at h with hneg
    refine ⟨index.toNat, by omega, ?_⟩
    split at h
    · rename_i hget
      cases h
      exact hget
    · cases h
  · rintro ⟨i, rfl, hget⟩
    simp [hget]

theorem setIndex_eq_ok :
    setIndex xs index x = .ok ys ↔
      ∃ i : Nat, index = i ∧ i < xs.length ∧ ys = xs.set i x := by
  unfold setIndex
  constructor
  · intro h
    split_ifs at h with hin
    cases h
    exact ⟨index.toNat, by omega, by omega, rfl⟩
  · rintro ⟨i, rfl, hi, rfl⟩
    rw [if_pos (by omega)]
    rfl

theorem getIndex_eq_error (h : index < 0 ∨ xs.length ≤ index) :
    getIndex xs index = .error .outOfBounds := by
  unfold getIndex
  split_ifs with hneg
  · rfl
  · rw [List.getElem?_eq_none (by omega)]

theorem setIndex_eq_error (h : index < 0 ∨ xs.length ≤ index) :
    setIndex xs index x = .error .outOfBounds := by
  unfold setIndex
  rw [if_neg (by omega)]

end Cells

/-! ## What each entry point does -/

/-- One call to where a handle leads, `-EINVAL` if it leads nowhere. -/
def Reply.toTarget (answer : SubHalCall → Int) (target : Option (HwDevice × Int))
    (call : HwDevice → Int → SubHalCall) : Reply :=
  match target with
  | some (device, localHandle) => .forward answer (call device localHandle)
  | none => .invalid

section Dispatch

variable {ctx : PollContext} {g g' : Globals} {answer : SubHalCall → Int}

theorem PollContext.activate_eq (handle enabled : Int) :
    ctx.activate g answer handle enabled
      = .toTarget answer (ctx.route g handle) fun d l => .activate d l enabled := by
  rw [PollContext.activate, ctx.withSensor_eq g]
  rfl

theorem PollContext.setDelay_eq (handle ns : Int) :
    ctx.setDelay g answer handle ns
      = .toTarget answer (ctx.route g handle) fun d l => .setDelay d l ns := by
  rw [PollContext.setDelay, ctx.withSensor_eq g]
  rfl

/-- The clamping branch of `batch` is never reached through `device__batch`, which only calls it
for sub-HALs that have the function. -/
theorem PollContext.batch_eq_of_compliant {handle : Int} (flags periodNs timeout : Int)
    (h : halIsAPILevelCompliant ctx g handle SENSORS_DEVICE_API_VERSION_1_1 = true) :
    ctx.batch g answer handle flags periodNs timeout
      = .ok (.toTarget answer (ctx.route g handle)
          fun d l => .batch d l flags periodNs timeout) := by
  rw [PollContext.batch, ctx.withSensor_eq g]
  simp only [h, if_true]
  cases ctx.route g handle <;> rfl

theorem PollContext.flush_eq (handle : Int) :
    ctx.flush g answer handle
      = if halIsAPILevelCompliant ctx g handle SENSORS_DEVICE_API_VERSION_1_1 then
          .toTarget answer (ctx.route g handle) fun d l => .flush d l
        else .invalid := by
  rw [PollContext.flush, ctx.withSensor_eq g]
  split <;> rename_i hroute <;> simp [hroute, Reply.toTarget]

/-- **What a control call that returns has done**, to the file-scope variables and to the
sub-HALs. The cells it touches are named by their index `i`, one below the handle. -/
inductive Dispatched (ctx : PollContext) (g : Globals) (answer : SubHalCall → Int) :
    DeviceCall → Globals → Reply → Prop where
  | activateCompliant {handle enabled : Int}
      (hlevel : halIsAPILevelCompliant ctx g handle SENSORS_DEVICE_API_VERSION_1_1 = true) :
      Dispatched ctx g answer (.activate handle enabled) g
        (.toTarget answer (ctx.route g handle) fun d l => .activate d l enabled)
  | activatePlain {i : Nat} {enabled : Int}
      (hlevel : halIsAPILevelCompliant ctx g (i + 1) SENSORS_DEVICE_API_VERSION_1_1 = false)
      (hi : i < g.sensorsEnableState.length)
      (hnone : enabled = 0 ∨ ∃ b, g.sensorsBatchList[i]? = some b ∧ b.empty = true) :
      Dispatched ctx g answer (.activate (i + 1) enabled)
        { g with sensorsEnableState := g.sensorsEnableState.set i enabled }
        (.toTarget answer (ctx.route g (i + 1)) fun d l => .activate d l enabled)
  | activateReplay {i : Nat} {enabled : Int} {b : BatchData} {retval : Int}
      (hlevel : halIsAPILevelCompliant ctx g (i + 1) SENSORS_DEVICE_API_VERSION_1_1 = false)
      (hi : i < g.sensorsEnableState.length) (henabled : enabled ≠ 0)
      (hbatch : g.sensorsBatchList[i]? = some b) (hsaved : b.empty = false)
      (hretval : retval =
        if (Reply.toTarget answer (ctx.route g (i + 1)) fun d l => .setDelay d l b.periodNs).retval
            ≠ 0 ∨
          (Reply.toTarget answer (ctx.route g (i + 1)) fun d l => .activate d l enabled).retval ≠ 0
        then 1 else 0) :
      Dispatched ctx g answer (.activate (i + 1) enabled)
        { g with
          sensorsEnableState := g.sensorsEnableState.set i enabled
          sensorsBatchList := g.sensorsBatchList.set i { b with empty := true } }
        ⟨retval,
          (Reply.toTarget answer (ctx.route g (i + 1)) fun d l => .activate d l enabled).calls ++
          (Reply.toTarget answer (ctx.route g (i + 1)) fun d l => .setDelay d l b.periodNs).calls⟩
  | setDelay {handle ns : Int} :
      Dispatched ctx g answer (.setDelay handle ns) g
        (.toTarget answer (ctx.route g handle) fun d l => .setDelay d l ns)
  | batchCompliant {handle flags periodNs timeout : Int}
      (hlevel : halIsAPILevelCompliant ctx g handle SENSORS_DEVICE_API_VERSION_1_1 = true) :
      Dispatched ctx g answer (.batch handle flags periodNs timeout) g
        (.toTarget answer (ctx.route g handle) fun d l => .batch d l flags periodNs timeout)
  | batchSaved {i : Nat} {flags periodNs timeout : Int} {b : BatchData}
      (hlevel : halIsAPILevelCompliant ctx g (i + 1) SENSORS_DEVICE_API_VERSION_1_1 = false)
      (hdisabled : g.sensorsEnableState[i]? = some 0)
      (hbatch : g.sensorsBatchList[i]? = some b) :
      Dispatched ctx g answer (.batch (i + 1) flags periodNs timeout)
        { g with sensorsBatchList :=
            g.sensorsBatchList.set i (b.updateBatchData (i + 1) flags periodNs timeout) }
        ⟨0, []⟩
  | batchForwarded {i : Nat} {flags periodNs timeout enabled : Int}
      (hlevel : halIsAPILevelCompliant ctx g (i + 1) SENSORS_DEVICE_API_VERSION_1_1 = false)
      (henabled : g.sensorsEnableState[i]? = some enabled) (hne : enabled ≠ 0) :
      Dispatched ctx g answer (.batch (i + 1) flags periodNs timeout) g
        (.toTarget answer (ctx.route g (i + 1)) fun d l => .setDelay d l periodNs)
  | flush {handle : Int} :
      Dispatched ctx g answer (.flush handle) g
        (if halIsAPILevelCompliant ctx g handle SENSORS_DEVICE_API_VERSION_1_1 then
          .toTarget answer (ctx.route g handle) fun d l => .flush d l
        else .invalid)
  | injectSensorData {data : SensorsEvent} :
      Dispatched ctx g answer (.injectSensorData data) g
        (ctx.injectSensorData g answer .proxy data)

theorem dispatched_of_deviceActivate {handle enabled : Int} {reply : Reply}
    (h : deviceActivate ctx g answer handle enabled = .ok (g', reply)) :
    Dispatched ctx g answer (.activate handle enabled) g' reply := by
  unfold deviceActivate at h
  simp only at h
  cases hlevel : halIsAPILevelCompliant ctx g handle SENSORS_DEVICE_API_VERSION_1_1 with
  | true =>
    rw [hlevel, if_pos rfl, PollContext.activate_eq] at h
    cases h
    exact .activateCompliant hlevel
  | false =>
    rw [hlevel, if_neg (by simp)] at h
    -- the store to the shadow array succeeded, so the handle is that of a cell
    obtain ⟨enableState, hset, h⟩ := Loop.bind_eq_ok.mp h
    obtain ⟨i, hi, hlt, rfl⟩ := setIndex_eq_ok.mp hset
    obtain rfl : handle = i + 1 := by omega
    by_cases henabled : enabled = 0
    · rw [if_pos henabled, PollContext.activate_eq] at h
      cases h
      exact .activatePlain hlevel hlt (Or.inl henabled)
    · rw [if_neg henabled] at h
      obtain ⟨b, hget, h⟩ := Loop.bind_eq_ok.mp h
      obtain ⟨j, hj, hb⟩ := getIndex_eq_ok.mp hget
      obtain rfl : j = i := by omega
      cases hempty : b.empty with
      | true =>
        rw [hempty, if_pos rfl, PollContext.activate_eq] at h
        cases h
        exact .activatePlain hlevel hlt (Or.inr ⟨b, hb, hempty⟩)
      | false =>
        rw [hempty, if_neg (by simp)] at h
        obtain ⟨batchList, hset', h⟩ := Loop.bind_eq_ok.mp h
        obtain ⟨k, hk, _, rfl⟩ := setIndex_eq_ok.mp hset'
        obtain rfl : k = j := by omega
        rw [PollContext.activate_eq, PollContext.setDelay_eq] at h
        cases h
        exact .activateReplay hlevel hlt henabled hb hempty rfl

theorem dispatched_of_deviceBatch {handle flags periodNs timeout : Int} {reply : Reply}
    (h : deviceBatch ctx g answer handle flags periodNs timeout = .ok (g', reply)) :
    Dispatched ctx g answer (.batch handle flags periodNs timeout) g' reply := by
  unfold deviceBatch at h
  cases hlevel : halIsAPILevelCompliant ctx g handle SENSORS_DEVICE_API_VERSION_1_1 with
  | true =>
    rw [hlevel, if_pos rfl, PollContext.batch_eq_of_compliant _ _ _ hlevel] at h
    cases h
    exact .batchCompliant hlevel
  | false =>
    rw [hlevel, if_neg (by simp)] at h
    obtain ⟨enabled, hget, h⟩ := Loop.bind_eq_ok.mp h
    obtain ⟨i, hi, henabled⟩ := getIndex_eq_ok.mp hget
    obtain rfl : handle = i + 1 := by omega
    by_cases hne : enabled = 0
    · rw [if_pos hne] at h
      obtain ⟨b, hget', h⟩ := Loop.bind_eq_ok.mp h
      obtain ⟨j, hj, hb⟩ := getIndex_eq_ok.mp hget'
      obtain ⟨batchList, hset, h⟩ := Loop.bind_eq_ok.mp h
      obtain ⟨k, hk, _, rfl⟩ := setIndex_eq_ok.mp hset
      obtain rfl : j = i := by omega
      obtain rfl : k = j := by omega
      cases h
      subst hne
      exact .batchSaved hlevel henabled hb
    · rw [if_neg hne, PollContext.setDelay_eq] at h
      cases h
      exact .batchForwarded hlevel henabled hne

/-- **The inversion lemma** of the five entry points. -/
theorem dispatched_of_ok {call : DeviceCall} {reply : Reply}
    (h : dispatch ctx g answer call = .ok (g', reply)) :
    Dispatched ctx g answer call g' reply := by
  cases call with
  | activate handle enabled => exact dispatched_of_deviceActivate h
  | setDelay handle ns =>
    simp only [dispatch, deviceSetDelay, PollContext.setDelay_eq] at h
    cases h
    exact .setDelay
  | batch handle flags periodNs timeout => exact dispatched_of_deviceBatch h
  | flush handle =>
    simp only [dispatch, deviceFlush, PollContext.flush_eq] at h
    cases h
    exact .flush
  | injectSensorData data =>
    cases h
    exact .injectSensorData

/-- What no control call changes. -/
theorem Dispatched.unchanged {call : DeviceCall} {reply : Reply}
    (h : Dispatched ctx g answer call g' reply) :
    g'.handles = g.handles ∧ g'.globalSensorsList = g.globalSensorsList ∧
      g'.sensorsEnableState.length = g.sensorsEnableState.length ∧
      g'.sensorsBatchList.length = g.sensorsBatchList.length := by
  cases h <;> simp

theorem Reply.mem_toTarget {target : Option (HwDevice × Int)}
    {call : HwDevice → Int → SubHalCall} {c : SubHalCall × Int} :
    c ∈ (Reply.toTarget answer target call).calls ↔
      ∃ d l, target = some (d, l) ∧ c = (call d l, answer (call d l)) := by
  cases target with
  | none => simp [Reply.toTarget, Reply.invalid]
  | some t =>
    obtain ⟨d, l⟩ := t
    simp [Reply.toTarget, Reply.forward, Prod.ext_iff]

/-- **Calls go where the handle leads**: the device of its module, with its local handle. -/
theorem Dispatched.route_of_mem {call : DeviceCall} {reply : Reply}
    (h : Dispatched ctx g answer call g' reply) (hkind : ∀ data, call ≠ .injectSensorData data)
    {c : SubHalCall × Int} (hc : c ∈ reply.calls) :
    ctx.route g call.handle = some (c.1.device, c.1.handle) := by
  -- in every case but `activateReplay` the reply is one call to the target, or none
  have hone : ∀ {f : HwDevice → Int → SubHalCall} {handle : Int},
      (∀ d l, (f d l).device = d ∧ (f d l).handle = l) →
      c ∈ (Reply.toTarget answer (ctx.route g handle) f).calls →
      ctx.route g handle = some (c.1.device, c.1.handle) := by
    intro f handle hf hmem
    obtain ⟨d, l, hroute, rfl⟩ := Reply.mem_toTarget.mp hmem
    rw [hroute, (hf d l).1, (hf d l).2]
  cases h with
  | activateCompliant => exact hone (fun _ _ => ⟨rfl, rfl⟩) hc
  | activatePlain => exact hone (fun _ _ => ⟨rfl, rfl⟩) hc
  | activateReplay =>
    rcases List.mem_append.mp hc with hc | hc
    · exact hone (fun _ _ => ⟨rfl, rfl⟩) hc
    · exact hone (fun _ _ => ⟨rfl, rfl⟩) hc
  | setDelay => exact hone (fun _ _ => ⟨rfl, rfl⟩) hc
  | batchCompliant => exact hone (fun _ _ => ⟨rfl, rfl⟩) hc
  | batchSaved => simp at hc
  | batchForwarded => exact hone (fun _ _ => ⟨rfl, rfl⟩) hc
  | flush =>
    split at hc
    · exact hone (fun _ _ => ⟨rfl, rfl⟩) hc
    · simp [Reply.invalid] at hc
  | injectSensorData => exact absurd rfl (hkind _)

/-- With the cells of a handle in both arrays, no entry point leaves them. -/
theorem dispatch_ok_of_cells {call : DeviceCall} {i : Nat} (hhandle : call.handle = i + 1)
    (hstate : i < g.sensorsEnableState.length) (hbatch : i < g.sensorsBatchList.length) :
    ∃ result, dispatch ctx g answer call = .ok result := by
  have hset : ∀ {α : Type} {xs : List α} (x : α), i < xs.length →
      setIndex xs ((i : Int) + 1 - 1) x = .ok (xs.set i x) :=
    fun x hi => setIndex_eq_ok.mpr ⟨i, by omega, hi, rfl⟩
  have hget : ∀ {α : Type} {xs : List α} (hi : i < xs.length),
      getIndex xs ((i : Int) + 1 - 1) = .ok xs[i] :=
    fun hi => getIndex_eq_ok.mpr ⟨i, by omega, List.getElem?_eq_getElem hi⟩
  cases call with
  | activate handle enabled =>
    obtain rfl : handle = i + 1 := hhandle
    simp only [dispatch, deviceActivate]
    by_cases hlevel :
        halIsAPILevelCompliant ctx g (i + 1) SENSORS_DEVICE_API_VERSION_1_1 = true
    · rw [if_pos hlevel]
      exact ⟨_, rfl⟩
    -- below API 1.1 the shadow is written, and the saved batch read if the sensor is enabled
    · rw [if_neg hlevel]
      refine Loop.exists_bind_eq_ok (hset _ hstate) ?_
      by_cases henabled : enabled = 0
      · rw [if_pos henabled]
        exact ⟨_, rfl⟩
      · rw [if_neg henabled]
        refine Loop.exists_bind_eq_ok (hget hbatch) ?_
        by_cases hempty : g.sensorsBatchList[i].empty = true
        · rw [if_pos hempty]
          exact ⟨_, rfl⟩
        · rw [if_neg hempty]
          exact Loop.exists_bind_eq_ok (hset _ hbatch) ⟨_, rfl⟩
  | setDelay handle ns => exact ⟨_, rfl⟩
  | batch handle flags periodNs timeout =>
    obtain rfl : handle = i + 1 := hhandle
    simp only [dispatch, deviceBatch]
    by_cases hlevel :
        halIsAPILevelCompliant ctx g (i + 1) SENSORS_DEVICE_API_VERSION_1_1 = true
    · rw [if_pos hlevel, PollContext.batch_eq_of_compliant _ _ _ hlevel]
      exact ⟨_, rfl⟩
    -- below API 1.1 the shadow says whether the request is saved or forwarded
    · rw [if_neg hlevel]
      refine Loop.exists_bind_eq_ok (hget hstate) ?_
      by_cases henabled : g.sensorsEnableState[i] = 0
      · rw [if_pos henabled]
        refine Loop.exists_bind_eq_ok (hget hbatch) ?_
        exact Loop.exists_bind_eq_ok (hset _ hbatch) ⟨_, rfl⟩
      · rw [if_neg henabled]
        exact ⟨_, rfl⟩
  | flush handle => exact ⟨_, rfl⟩
  | injectSensorData data => exact ⟨_, rfl⟩

end Dispatch

/-! ## The system of control calls -/

/-- The module's variables, and every sub-HAL call so far with its result, oldest first. -/
structure ControlState where
  globals : Globals
  ctx : PollContext
  log : List (SubHalCall × Int)

/-- A control call, and what the sub-HALs would answer to each call it may make. -/
structure ControlLabel where
  call : DeviceCall
  answer : SubHalCall → Int

/-- Control calls after one `open_sensors` and one `get_sensors_list`. A call that ends in a fault
is not a step. -/
def controlSystem (hal : SubHals) (blank : SensorT) :
    Transition.System ControlState ControlLabel where
  init s := initialise hal blank = .ok (s.globals, s.ctx) ∧ s.log = []
  step s a :=
    match dispatch s.ctx s.globals a.answer a.call with
    | .error _ => none
    | .ok (g, reply) => some { s with globals := g, log := s.log ++ reply.calls }

section System

variable {hal : SubHals} {blank : SensorT}

/-- A step is a control call that returned. -/
theorem dispatched_of_step {s s' : ControlState} {a : ControlLabel}
    (h : (controlSystem hal blank).step s a = some s') :
    ∃ reply, Dispatched s.ctx s.globals a.answer a.call s'.globals reply ∧
      s'.ctx = s.ctx ∧ s'.log = s.log ++ reply.calls := by
  simp only [controlSystem] at h
  split at h
  · cases h
  · rename_i g reply hdispatch
    cases h
    exact ⟨reply, dispatched_of_ok hdispatch, rfl, rfl⟩

theorem Initialised.dispatched {ctx : PollContext} {g g' : Globals} {answer : SubHalCall → Int}
    {call : DeviceCall} {reply : Reply} (h : Initialised hal g ctx)
    (hcall : Dispatched ctx g answer call g' reply) : Initialised hal g' ctx := by
  obtain ⟨hhandles, hlist, hstate, hbatch⟩ := hcall.unchanged
  exact ⟨hhandles ▸ h.handles, h.devices, hlist ▸ h.list, hstate.trans h.enableState,
    hbatch.trans h.batchList⟩

theorem Initialised.step {s s' : ControlState} {a : ControlLabel}
    (h : Initialised hal s.globals s.ctx) (hstep : (controlSystem hal blank).step s a = some s') :
    Initialised hal s'.globals s'.ctx := by
  obtain ⟨reply, hcall, hctx, _⟩ := dispatched_of_step hstep
  rw [hctx]
  exact h.dispatched hcall

/-- **Initialisation holds for good**: no sequence of control calls undoes it. -/
theorem initialised_of_reachable {s : ControlState}
    (hs : Transition.Reachable (controlSystem hal blank) s) : Initialised hal s.globals s.ctx := by
  refine hs.invariant (I := fun s => Initialised hal s.globals s.ctx) ?_
    (fun _ _ _ h hstep => h.step hstep)
  rintro s ⟨hinit, _⟩
  exact (initialised_of_initialise hinit).1

/-- Where a global handle leads, in terms of the sub-HALs alone. -/
def SubHals.target (hal : SubHals) (handle : Int) : Option (HwDevice × Int) :=
  if 1 ≤ handle then
    match hal.reportedSensors[(handle - 1).toNat]? with
    | none => none
    | some r =>
      match (hal.devices hal.modules.length)[r.moduleIndex]? with
      | none => none
      | some device => if r.sensor.handle ≥ 0 then some (device, r.sensor.handle) else none
  else
    none

theorem Initialised.route_eq {g : Globals} {ctx : PollContext} (h : Initialised hal g ctx)
    (handle : Int) : ctx.route g handle = hal.target handle := by
  unfold SubHals.target
  split_ifs with hpos
  · obtain ⟨i, rfl⟩ : ∃ i : Nat, handle = i + 1 := ⟨(handle - 1).toNat, by omega⟩
    rw [show ((i : Int) + 1 - 1).toNat = i by omega]
    have hfind := h.handles.global_succ i
    rw [List.getElem?_map] at hfind
    cases hr : hal.reportedSensors[i]? with
    | none => exact ctx.route_of_unknown g (by rw [hfind, hr]; rfl)
    | some r =>
      have hlocal : g.handles.getLocalHandle (i + 1) = r.sensor.handle := by
        simp [HandleTable.getLocalHandle, hfind, hr, ReportedSensor.fullHandle]
      unfold PollContext.route PollContext.withSensor
      rw [h.getV0DeviceByHandle hr, hlocal]
      simp only
      cases (hal.devices hal.modules.length)[r.moduleIndex]? <;> rfl
  · exact ctx.route_of_unknown g (by rw [h.handles.global, if_neg hpos])

/-- A target is a device of the list and a sensor its module reported. -/
theorem SubHals.target_eq_some {handle : Int} {device : HwDevice} {localHandle : Int}
    (h : hal.target handle = some (device, localHandle)) :
    ∃ (i : Nat) (r : ReportedSensor), handle = i + 1 ∧ hal.reportedSensors[i]? = some r ∧
      (hal.devices hal.modules.length)[r.moduleIndex]? = some device ∧
      r.sensor.handle = localHandle ∧ 0 ≤ localHandle := by
  unfold SubHals.target at h
  split_ifs at h with hpos
  refine ⟨(handle - 1).toNat, ?_⟩
  split at h
  · cases h
  · rename_i r hr
    split at h
    · cases h
    · rename_i d hd
      split_ifs at h with hlocal
      cases h
      exact ⟨r, by omega, hr, hd, rfl, hlocal⟩

end System

end Mozart.Sensors

import Mozart.Lib.Log
import Mozart.Sensors.ControlHandles

/-!
# Batching for sub-HALs below API 1.1

Such a sub-HAL has no `batch`, so `device__batch` forwards the period with `setDelay` while the
sensor is enabled, and saves it for the next `device__activate` while it is not.

* **`LegacyStep`**: the protocol seen from one sensor, a machine with its enable state and its
  saved batch. `legacyStep_of_dispatched` is the refinement: the entry points drive exactly this
  machine in the cells of the sensor, and calls on other handles leave it alone.
* **`lastSetDelay_eq_iff`**: when the last batch request wins.
* **`delaysOnlyWhenActive`**: when `setDelay` only ever goes to an active sensor.
-/

namespace Mozart.Sensors

/-! ## The protocol of one sensor -/

/-- What the two arrays hold for one sensor. -/
structure LegacyCell where
  enabled : Int
  batch : BatchData

/-- The cells at index `i`. -/
def HasCell (g : Globals) (i : Nat) (cell : LegacyCell) : Prop :=
  g.sensorsEnableState[i]? = some cell.enabled ∧ g.sensorsBatchList[i]? = some cell.batch

/-- One control call, seen from the sensor `l` of device `d` with global handle `h`: its cell
before and after, and the sub-HAL calls made. -/
inductive LegacyStep (answer : SubHalCall → Int) (h : Int) (d : HwDevice) (l : Int) :
    LegacyCell → DeviceCall → LegacyCell → List (SubHalCall × Int) → Prop where
  | activatePlain {cell : LegacyCell} {enabled : Int}
      (hnone : enabled = 0 ∨ cell.batch.empty = true) :
      LegacyStep answer h d l cell (.activate h enabled) { cell with enabled := enabled }
        [(.activate d l enabled, answer (.activate d l enabled))]
  | activateReplay {cell : LegacyCell} {enabled : Int} (henabled : enabled ≠ 0)
      (hsaved : cell.batch.empty = false) :
      LegacyStep answer h d l cell (.activate h enabled)
        ⟨enabled, { cell.batch with empty := true }⟩
        [(.activate d l enabled, answer (.activate d l enabled)),
          (.setDelay d l cell.batch.periodNs, answer (.setDelay d l cell.batch.periodNs))]
  | batchSaved {cell : LegacyCell} {flags periodNs timeout : Int} (hdisabled : cell.enabled = 0) :
      LegacyStep answer h d l cell (.batch h flags periodNs timeout)
        { cell with batch := cell.batch.updateBatchData h flags periodNs timeout } []
  | batchForwarded {cell : LegacyCell} {flags periodNs timeout : Int}
      (henabled : cell.enabled ≠ 0) :
      LegacyStep answer h d l cell (.batch h flags periodNs timeout) cell
        [(.setDelay d l periodNs, answer (.setDelay d l periodNs))]
  | other {cell : LegacyCell} {call : DeviceCall} {calls : List (SubHalCall × Int)}
      (hhandle : call.handle ≠ h)
      (hcalls : ∀ c ∈ calls, (c.1.device, c.1.handle) ≠ (d, l)) :
      LegacyStep answer h d l cell call cell calls

section Refinement

variable {hal : SubHals} {ctx : PollContext} {g g' : Globals} {answer : SubHalCall → Int}

/-- A sub-HAL below 1.1 does not pass the version gate of `device__activate` and `device__batch`. -/
theorem Initialised.not_compliant (h : Initialised hal g ctx) {handle : Int} {d : HwDevice}
    {l : Int} (htarget : hal.target handle = some (d, l))
    (hlegacy : d.version < SENSORS_DEVICE_API_VERSION_1_1) :
    halIsAPILevelCompliant ctx g handle SENSORS_DEVICE_API_VERSION_1_1 = false := by
  obtain ⟨i, r, rfl, hr, hdevice, _, _⟩ := SubHals.target_eq_some htarget
  unfold halIsAPILevelCompliant PollContext.getDeviceVersionByHandle
  rw [h.getV0DeviceByHandle hr, hdevice]
  simp only [Bool.and_eq_false_iff, decide_eq_false_iff_not]
  omega

/-- Only the cells at `handle - 1` change. -/
theorem Dispatched.hasCell_of_ne {call : DeviceCall} {reply : Reply}
    (h : Dispatched ctx g answer call g' reply) {i : Nat} (hne : call.handle ≠ i + 1)
    {cell : LegacyCell} (hcell : HasCell g i cell) : HasCell g' i cell := by
  obtain ⟨hstate, hbatch⟩ := hcell
  cases h with
  | activateCompliant => exact ⟨hstate, hbatch⟩
  | activatePlain =>
    simp only [DeviceCall.handle] at hne
    exact ⟨by rw [List.getElem?_set_ne (by omega)]; exact hstate, hbatch⟩
  | activateReplay =>
    simp only [DeviceCall.handle] at hne
    exact ⟨by rw [List.getElem?_set_ne (by omega)]; exact hstate,
      by rw [List.getElem?_set_ne (by omega)]; exact hbatch⟩
  | setDelay => exact ⟨hstate, hbatch⟩
  | batchCompliant => exact ⟨hstate, hbatch⟩
  | batchSaved =>
    simp only [DeviceCall.handle] at hne
    exact ⟨hstate, by rw [List.getElem?_set_ne (by omega)]; exact hbatch⟩
  | batchForwarded => exact ⟨hstate, hbatch⟩
  | flush => exact ⟨hstate, hbatch⟩
  | injectSensorData => exact ⟨hstate, hbatch⟩

/-- **The entry points drive the machine of the sensor**: a call on its handle is one of its
steps, and a call on another handle is not seen by it. -/
theorem legacyStep_of_dispatched (hinit : Initialised hal g ctx)
    (hdistinct : ∀ m ∈ hal.modules, ((hal.getSensorsList m).map SensorT.handle).Nodup)
    {i : Nat} {d : HwDevice} {l : Int} (htarget : hal.target (i + 1) = some (d, l))
    (hlegacy : d.version < SENSORS_DEVICE_API_VERSION_1_1) {call : DeviceCall} {reply : Reply}
    (hkind : call.isActivateOrBatch = true) (h : Dispatched ctx g answer call g' reply)
    {cell : LegacyCell} (hcell : HasCell g i cell) :
    ∃ cell', HasCell g' i cell' ∧ LegacyStep answer (i + 1) d l cell call cell' reply.calls := by
  by_cases hne : call.handle = i + 1
  · -- a call on this handle: its level rules out the compliant branches
    have hlevel := hinit.not_compliant htarget hlegacy
    have hroute : ctx.route g (i + 1) = some (d, l) := by rw [hinit.route_eq, htarget]
    obtain ⟨hstate, hbatch⟩ := hcell
    have hlt := (List.getElem?_eq_some_iff.mp hstate).1
    have hlt' := (List.getElem?_eq_some_iff.mp hbatch).1
    have hindex : ∀ {j : Nat}, (j : Int) + 1 = i + 1 → j = i := fun hj => by omega
    cases h with
    | activateCompliant hcompliant =>
      simp only [DeviceCall.handle] at hne
      simp [hne, hlevel] at hcompliant
    | @activatePlain j enabled _ hj hnone =>
      obtain rfl : j = i := hindex hne
      refine ⟨{ cell with enabled := enabled }, ⟨by simp [hlt], hbatch⟩, ?_⟩
      rw [hroute]
      refine .activatePlain (hnone.imp id ?_)
      rintro ⟨b, hb, hempty⟩
      rw [hbatch] at hb
      cases hb
      exact hempty
    | @activateReplay j enabled b retval _ hj henabled hb hsaved _ =>
      obtain rfl : j = i := hindex hne
      obtain rfl : cell.batch = b := Option.some.inj (hbatch.symm.trans hb)
      refine ⟨⟨enabled, { cell.batch with empty := true }⟩, ⟨by simp [hlt], by simp [hlt']⟩, ?_⟩
      rw [hroute]
      exact .activateReplay henabled hsaved
    | setDelay => simp [DeviceCall.isActivateOrBatch] at hkind
    | batchCompliant hcompliant =>
      simp only [DeviceCall.handle] at hne
      simp [hne, hlevel] at hcompliant
    | @batchSaved j flags periodNs timeout b _ hdisabled hb =>
      obtain rfl : j = i := hindex hne
      obtain rfl : cell.batch = b := Option.some.inj (hbatch.symm.trans hb)
      refine ⟨{ cell with batch := cell.batch.updateBatchData (j + 1) flags periodNs timeout },
        ⟨hstate, by simp [hlt']⟩, ?_⟩
      exact .batchSaved (Option.some.inj (hstate.symm.trans hdisabled))
    | @batchForwarded j flags periodNs timeout enabled _ henabled hnz =>
      obtain rfl : j = i := hindex hne
      obtain rfl : cell.enabled = enabled := Option.some.inj (hstate.symm.trans henabled)
      refine ⟨cell, ⟨hstate, hbatch⟩, ?_⟩
      rw [hroute]
      exact .batchForwarded hnz
    | flush => simp [DeviceCall.isActivateOrBatch] at hkind
    | injectSensorData => simp [DeviceCall.isActivateOrBatch] at hkind
  · -- a call on another handle goes to another sensor
    refine ⟨cell, h.hasCell_of_ne hne hcell, .other hne fun c hc heq => hne ?_⟩
    have hroute := h.route_of_mem
      (fun data hdata => by simp [hdata, DeviceCall.isActivateOrBatch] at hkind) hc
    rw [hinit.route_eq, heq] at hroute
    exact SubHals.target_injective hdistinct hroute htarget

end Refinement

section Runs

variable {hal : SubHals} {blank : SensorT}

/-- **One step of the system is one step of every sensor's machine.** -/
theorem legacyStep_of_step {s s' : ControlState} {a : ControlLabel}
    (hinit : Initialised hal s.globals s.ctx)
    (hdistinct : ∀ m ∈ hal.modules, ((hal.getSensorsList m).map SensorT.handle).Nodup)
    {i : Nat} {d : HwDevice} {l : Int} (htarget : hal.target (i + 1) = some (d, l))
    (hlegacy : d.version < SENSORS_DEVICE_API_VERSION_1_1)
    (hkind : a.call.isActivateOrBatch = true)
    (hstep : (controlSystem hal blank).step s a = some s') {cell : LegacyCell}
    (hcell : HasCell s.globals i cell) :
    ∃ cell' calls, HasCell s'.globals i cell' ∧ s'.log = s.log ++ calls ∧
      LegacyStep a.answer (i + 1) d l cell a.call cell' calls := by
  obtain ⟨reply, hcall, _, hlog⟩ := dispatched_of_step hstep
  obtain ⟨cell', hcell', hlegacyStep⟩ :=
    legacyStep_of_dispatched hinit hdistinct htarget hlegacy hkind hcall hcell
  exact ⟨cell', reply.calls, hcell', hlog, hlegacyStep⟩

/-- After initialisation every sensor is disabled and has nothing saved. -/
theorem hasCell_of_initialise {g : Globals} {ctx : PollContext}
    (h : initialise hal blank = .ok (g, ctx)) {i : Nat} (hi : i < hal.reportedSensors.length) :
    HasCell g i ⟨0, {}⟩ := by
  obtain ⟨_, hstate, hbatch⟩ := initialised_of_initialise h
  exact ⟨by rw [hstate]; simp [hi], by rw [hbatch]; simp [hi]⟩

theorem lt_length_of_target {i : Nat} {d : HwDevice} {l : Int}
    (h : hal.target (i + 1) = some (d, l)) : i < hal.reportedSensors.length := by
  obtain ⟨j, r, hj, hr, _⟩ := SubHals.target_eq_some h
  obtain rfl : i = j := by omega
  exact (List.getElem?_eq_some_iff.mp hr).1

/-! ## The last batch request -/

/-- The period of a `setDelay` call on the sensor `l` of device `d`. -/
def setDelayOf (d : HwDevice) (l : Int) : SubHalCall × Int → Option Int
  | (.setDelay d' l' ns, _) => if d' = d ∧ l' = l then some ns else none
  | _ => none

/-- The most recent period the sub-HAL received for the sensor. -/
def lastSetDelay (log : List (SubHalCall × Int)) (d : HwDevice) (l : Int) : Option Int :=
  Log.last (setDelayOf d l) log

/-- A `device__batch` on the sensor. -/
structure Request where
  periodNs : Int
  whileEnabled : Bool
deriving DecidableEq, Repr

/-- The period as it reaches the sub-HAL: what is saved goes through the `int` parameter of
`update_batch_data`. -/
def Request.received (req : Request) : Int :=
  if req.whileEnabled then req.periodNs else toInt32 req.periodNs

/-- What the framework has asked of one sensor: the last `enabled` and the last batch. -/
structure Requests where
  enabled : Int := 0
  last : Option Request := none

def Requests.next (h : Int) (reqs : Requests) (a : ControlLabel) : Requests :=
  match a.call with
  | .activate handle enabled => if handle = h then { reqs with enabled := enabled } else reqs
  | .batch handle _ periodNs _ =>
    if handle = h then { reqs with last := some ⟨periodNs, reqs.enabled ≠ 0⟩ } else reqs
  | _ => reqs

/-- The requests on the handle `h` in a sequence of control calls. -/
def requests (h : Int) (as : List ControlLabel) : Requests := as.foldl (Requests.next h) {}

theorem requests_snoc (h : Int) (as : List ControlLabel) (a : ControlLabel) :
    requests h (as ++ [a]) = (requests h as).next h a := by
  simp [requests]

/-- The invariant of the batch protocol: either nothing is saved and the sub-HAL has received the
last request, or the sensor is disabled and the last request is the one saved. -/
def BatchInv (d : HwDevice) (l : Int) (reqs : Requests) (cell : LegacyCell)
    (log : List (SubHalCall × Int)) : Prop :=
  cell.enabled = reqs.enabled ∧
    ((cell.batch.empty = true ∧
        ∀ req, reqs.last = some req → lastSetDelay log d l = some req.received) ∨
      (reqs.enabled = 0 ∧ cell.batch.empty = false ∧
        ∃ p, reqs.last = some ⟨p, false⟩ ∧ cell.batch.periodNs = toInt32 p))

theorem lastSetDelay_append_setDelay (log : List (SubHalCall × Int)) (d : HwDevice)
    (l ns status : Int) :
    lastSetDelay (log ++ [(.setDelay d l ns, status)]) d l = some ns := by
  simp [lastSetDelay, Log.last_singleton, setDelayOf]

theorem lastSetDelay_append_of_none {log new : List (SubHalCall × Int)} {d : HwDevice} {l : Int}
    (h : ∀ c ∈ new, setDelayOf d l c = none) :
    lastSetDelay (log ++ new) d l = lastSetDelay log d l :=
  Log.last_append_of_none h

/-- **One step keeps the batch protocol's invariant.** -/
theorem BatchInv.step {h : Int} {d : HwDevice} {l : Int} {reqs : Requests}
    {cell cell' : LegacyCell} {log calls : List (SubHalCall × Int)} {a : ControlLabel}
    (hinv : BatchInv d l reqs cell log)
    (hstep : LegacyStep a.answer h d l cell a.call cell' calls) :
    BatchInv d l (reqs.next h a) cell' (log ++ calls) := by
  obtain ⟨call, answer⟩ := a
  obtain ⟨henabled, hbatch⟩ := hinv
  cases hstep with
  | @activatePlain enabled hnone =>
    have hsame : lastSetDelay (log ++ [(.activate d l enabled, answer (.activate d l enabled))])
        d l = lastSetDelay log d l := lastSetDelay_append_of_none (by simp [setDelayOf])
    refine ⟨by simp [Requests.next], ?_⟩
    rw [hsame]
    -- without a replay nothing was saved, or the sensor stays disabled
    rcases hbatch with ⟨hempty, hlast⟩ | ⟨_, hsaved, p, hp, hperiod⟩
    · exact Or.inl ⟨hempty, by simpa [Requests.next] using hlast⟩
    · rcases hnone with rfl | hempty
      · exact Or.inr ⟨by simp [Requests.next], hsaved, p, by simpa [Requests.next] using hp,
          hperiod⟩
      · rw [hsaved] at hempty
        cases hempty
  | @activateReplay enabled hne hsaved =>
    refine ⟨by simp [Requests.next], Or.inl ⟨rfl, ?_⟩⟩
    rcases hbatch with ⟨hempty, _⟩ | ⟨_, _, p, hp, hperiod⟩
    · rw [hsaved] at hempty
      cases hempty
    · intro req hreq
      have hreq' : some (⟨p, false⟩ : Request) = some req := by
        rw [← hp]
        simpa [Requests.next] using hreq
      cases hreq'
      -- the replayed `setDelay` comes after the `activate`
      rw [show ∀ x y : SubHalCall × Int, log ++ [x, y] = (log ++ [x]) ++ [y] by simp,
        lastSetDelay_append_setDelay, hperiod]
      rfl
  | @batchSaved flags periodNs timeout hdisabled =>
    rw [henabled] at hdisabled
    refine ⟨by simpa [Requests.next] using henabled, Or.inr ⟨?_, rfl, periodNs, ?_, rfl⟩⟩
    · simpa [Requests.next] using hdisabled
    · simp [Requests.next, hdisabled]
  | @batchForwarded flags periodNs timeout hne =>
    rw [henabled] at hne
    refine ⟨by simpa [Requests.next] using henabled, ?_⟩
    rcases hbatch with ⟨hempty, _⟩ | ⟨hzero, _⟩
    · refine Or.inl ⟨hempty, fun req hreq => ?_⟩
      have hreq' : some (⟨periodNs, true⟩ : Request) = some req := by
        simpa [Requests.next, hne] using hreq
      cases hreq'
      rw [lastSetDelay_append_setDelay]
      rfl
    -- a request is only saved while the sensor is disabled
    · exact absurd hzero hne
  | other hhandle hcalls =>
    -- neither what was asked of this sensor nor what it was told changes
    have hnext : reqs.next h ⟨call, answer⟩ = reqs := by
      cases call <;> simp_all [Requests.next, DeviceCall.handle]
    have hsame : lastSetDelay (log ++ calls) d l = lastSetDelay log d l := by
      refine lastSetDelay_append_of_none fun c hc => ?_
      have hne := hcalls c hc
      obtain ⟨call', status⟩ := c
      cases call' <;> simp_all [setDelayOf, SubHalCall.device, SubHalCall.handle]
    rw [hnext, BatchInv, hsame]
    exact ⟨henabled, hbatch⟩

/-- The invariant holds along every sequence of `device__batch` and `device__activate` calls. -/
theorem batchInv_of_run
    (hdistinct : ∀ m ∈ hal.modules, ((hal.getSensorsList m).map SensorT.handle).Nodup)
    {i : Nat} {d : HwDevice} {l : Int} (htarget : hal.target (i + 1) = some (d, l))
    (hlegacy : d.version < SENSORS_DEVICE_API_VERSION_1_1) {as : List ControlLabel}
    {s : ControlState}
    (hrun : Transition.Run (controlSystem hal blank)
      (fun _ a => a.call.isActivateOrBatch = true) as s) :
    Initialised hal s.globals s.ctx ∧
      ∃ cell, HasCell s.globals i cell ∧ BatchInv d l (requests (i + 1) as) cell s.log := by
  refine hrun.invariant (I := fun as s => Initialised hal s.globals s.ctx ∧
    ∃ cell, HasCell s.globals i cell ∧ BatchInv d l (requests (i + 1) as) cell s.log) ?_ ?_
  · rintro s ⟨hinit, hlog⟩
    refine ⟨(initialised_of_initialise hinit).1, ⟨0, {}⟩,
      hasCell_of_initialise hinit (lt_length_of_target htarget), rfl, Or.inl ⟨rfl, ?_⟩⟩
    intro req hreq
    cases hreq
  · rintro as s a s' ⟨hinit, cell, hcell, hinv⟩ hkind hstep
    obtain ⟨cell', calls, hcell', hlog, hlegacyStep⟩ :=
      legacyStep_of_step hinit hdistinct htarget hlegacy hkind hstep hcell
    refine ⟨hinit.step hstep, cell', hcell', ?_⟩
    rw [hlog, requests_snoc]
    exact hinv.step hlegacyStep

/-- **When the last batch request wins.** While the sensor is enabled, the sub-HAL's most recent
`setDelay` carries the period of the last `device__batch` exactly when that request was
forwarded at once, or fits the `int` it was saved through. -/
theorem lastSetDelay_eq_iff
    (hdistinct : ∀ m ∈ hal.modules, ((hal.getSensorsList m).map SensorT.handle).Nodup)
    {h : Int} {d : HwDevice} {l : Int} (htarget : hal.target h = some (d, l))
    (hlegacy : d.version < SENSORS_DEVICE_API_VERSION_1_1) {as : List ControlLabel}
    {s : ControlState}
    (hrun : Transition.Run (controlSystem hal blank)
      (fun _ a => a.call.isActivateOrBatch = true) as s)
    {req : Request} (henabled : (requests h as).enabled ≠ 0)
    (hlast : (requests h as).last = some req) :
    lastSetDelay s.log d l = some req.periodNs ↔
      req.whileEnabled = true ∨ (-2 ^ 31 ≤ req.periodNs ∧ req.periodNs < 2 ^ 31) := by
  obtain ⟨i, _, rfl, _⟩ := SubHals.target_eq_some htarget
  obtain ⟨_, cell, _, _, hbatch⟩ := batchInv_of_run hdistinct htarget hlegacy hrun
  rcases hbatch with ⟨_, hreceived⟩ | ⟨hzero, _⟩
  · rw [hreceived req hlast, Option.some.injEq, ← toInt32_eq_self_iff, Request.received]
    cases req.whileEnabled <;> simp
  · exact absurd hzero henabled

/-- A run of the one-sensor configuration: calls on handle 1, all accepted by the sub-HAL. -/
theorem run_oneSensor (p : Int) :
    ∃ s, Transition.Run (controlSystem oneSensorHal { handle := 0, type := 0 })
        (fun _ a => a.call.isActivateOrBatch = true)
        [⟨.batch 1 0 p 0, fun _ => 0⟩, ⟨.activate 1 1, fun _ => 0⟩] s ∧
      s.log = [(.activate ⟨0, SENSORS_DEVICE_API_VERSION_1_0⟩ 0 1, 0),
        (.setDelay ⟨0, SENSORS_DEVICE_API_VERSION_1_0⟩ 0 (toInt32 p), 0)] := by
  have hfirst : Transition.Run (controlSystem oneSensorHal { handle := 0, type := 0 })
      (fun _ a => a.call.isActivateOrBatch = true) [] ⟨_, _, []⟩ := .nil ⟨rfl, rfl⟩
  exact ⟨_, hfirst.append_exec (by simp [DeviceCall.isActivateOrBatch]) rfl, rfl⟩

/-- A saved request of 5 ns, replayed by the activation. -/
theorem lastSetDelay_eq_iff_oneSensor :
    ∃ s : ControlState, s.log.length = 2 ∧
      lastSetDelay s.log ⟨0, SENSORS_DEVICE_API_VERSION_1_0⟩ 0 = some 5 := by
  obtain ⟨s, hrun, hlog⟩ := run_oneSensor 5
  have htarget : oneSensorHal.target 1 = some (⟨0, SENSORS_DEVICE_API_VERSION_1_0⟩, 0) := by decide
  have hlast : ∀ a b : SubHalCall → Int,
      (requests 1 [⟨.batch 1 0 5 0, a⟩, ⟨.activate 1 1, b⟩]).last = some ⟨5, false⟩ :=
    fun _ _ => rfl
  exact ⟨s, by rw [hlog]; rfl, (lastSetDelay_eq_iff (by decide) htarget (by decide) hrun (by decide)
    (hlast _ _)).mpr (Or.inr (by decide))⟩

/-- A saved request of three seconds is replayed as a negative delay. -/
theorem lastSetDelay_ne_oneSensor :
    ∃ as s, Transition.Run (controlSystem oneSensorHal { handle := 0, type := 0 })
        (fun _ a => a.call.isActivateOrBatch = true) as s ∧
      oneSensorHal.target 1 = some (⟨0, SENSORS_DEVICE_API_VERSION_1_0⟩, 0) ∧
      (∀ c ∈ s.log, c.2 = 0) ∧ (requests 1 as).enabled ≠ 0 ∧
      (requests 1 as).last = some ⟨3000000000, false⟩ ∧
      lastSetDelay s.log ⟨0, SENSORS_DEVICE_API_VERSION_1_0⟩ 0 = some (-1294967296) ∧
      lastSetDelay s.log ⟨0, SENSORS_DEVICE_API_VERSION_1_0⟩ 0 ≠ some 3000000000 := by
  obtain ⟨s, hrun, hlog⟩ := run_oneSensor 3000000000
  refine ⟨_, s, hrun, by decide, ?_, by decide, by decide, ?_, ?_⟩
  · rw [hlog]
    decide
  · rw [hlog]
    decide
  · rw [hlog]
    decide

/-! ## Only active sensors -/

/-- The `enabled` of an `activate` on the sensor that the sub-HAL accepted. -/
def acceptedActivateOf (d : HwDevice) (l : Int) : SubHalCall × Int → Option Int
  | (.activate d' l' enabled, status) =>
    if d' = d ∧ l' = l ∧ status = 0 then some enabled else none
  | _ => none

/-- The last `activate` the sub-HAL accepted for the sensor was an enabling one. -/
def Active (log : List (SubHalCall × Int)) (d : HwDevice) (l : Int) : Prop :=
  ∃ enabled, Log.last (acceptedActivateOf d l) log = some enabled ∧ enabled ≠ 0

/-- Every `setDelay` in the log went to a sensor that was active by then. -/
def DelaysOnlyWhenActive (log : List (SubHalCall × Int)) : Prop :=
  Log.EachAfter (fun before c => ∀ d l ns, c.1 = .setDelay d l ns → Active before d l) log

/-- A `device__batch` or `device__activate` on a registered handle of a sub-HAL below 1.1. -/
def LegacyCall (hal : SubHals) (a : ControlLabel) : Prop :=
  a.call.isActivateOrBatch = true ∧ ∃ d l, hal.target a.call.handle = some (d, l) ∧
    d.version < SENSORS_DEVICE_API_VERSION_1_1

/-- If the call enables a sensor that is not active, the sub-HAL accepts. -/
def EnableSucceeds (hal : SubHals) (s : ControlState) (a : ControlLabel) : Prop :=
  ∀ h enabled d l, a.call = .activate h enabled → enabled ≠ 0 → hal.target h = some (d, l) →
    a.answer (.activate d l enabled) = 0 ∨ Active s.log d l

/-- The enable state kept for a sensor is zero unless the sensor is active. -/
def ShadowSound (d : HwDevice) (l : Int) (cell : LegacyCell) (log : List (SubHalCall × Int)) :
    Prop :=
  cell.enabled ≠ 0 → Active log d l

theorem active_append_activate {log : List (SubHalCall × Int)} {d : HwDevice}
    {l enabled status : Int} (henabled : enabled ≠ 0) (h : status = 0 ∨ Active log d l) :
    Active (log ++ [(.activate d l enabled, status)]) d l := by
  unfold Active at *
  rw [Log.last_append, Log.last_singleton]
  by_cases hstatus : status = 0
  · exact ⟨enabled, by simp [acceptedActivateOf, hstatus], henabled⟩
  · simpa [acceptedActivateOf, hstatus] using h.resolve_left hstatus

theorem Active.append_of_none {log new : List (SubHalCall × Int)} {d : HwDevice} {l : Int}
    (h : Active log d l) (hnew : ∀ c ∈ new, acceptedActivateOf d l c = none) :
    Active (log ++ new) d l := by
  unfold Active
  rwa [Log.last_append_of_none hnew]

/-- **One step keeps the shadow sound**, as long as enabling succeeds. -/
theorem ShadowSound.step {answer : SubHalCall → Int} {h : Int} {d : HwDevice} {l : Int}
    {cell cell' : LegacyCell} {log calls : List (SubHalCall × Int)} {call : DeviceCall}
    (hsound : ShadowSound d l cell log)
    (henable : ∀ enabled, call = .activate h enabled → enabled ≠ 0 →
      answer (.activate d l enabled) = 0 ∨ Active log d l)
    (hstep : LegacyStep answer h d l cell call cell' calls) :
    ShadowSound d l cell' (log ++ calls) := by
  intro hne
  cases hstep with
  | @activatePlain enabled =>
    exact active_append_activate hne (henable enabled rfl hne)
  | @activateReplay enabled =>
    have hactive := active_append_activate hne (henable enabled rfl hne)
    rw [show ∀ x y : SubHalCall × Int, log ++ [x, y] = (log ++ [x]) ++ [y] by simp]
    exact hactive.append_of_none (by simp [acceptedActivateOf])
  | batchSaved => exact (hsound hne).append_of_none (by simp)
  | batchForwarded => exact (hsound hne).append_of_none (by simp [acceptedActivateOf])
  | other hhandle hcalls =>
    refine (hsound hne).append_of_none fun c hc => ?_
    have hother := hcalls c hc
    obtain ⟨call', status⟩ := c
    cases call' <;> simp_all [acceptedActivateOf, SubHalCall.device, SubHalCall.handle]

/-- The `setDelay` of a step on the sensor's own handle goes to an active sensor. -/
theorem delaysOnlyWhenActive_append {answer : SubHalCall → Int} {h : Int} {d : HwDevice} {l : Int}
    {cell cell' : LegacyCell} {log calls : List (SubHalCall × Int)} {call : DeviceCall}
    (hlog : DelaysOnlyWhenActive log) (hsound : ShadowSound d l cell log)
    (henable : ∀ enabled, call = .activate h enabled → enabled ≠ 0 →
      answer (.activate d l enabled) = 0 ∨ Active log d l)
    (hown : call.handle = h) (hstep : LegacyStep answer h d l cell call cell' calls) :
    DelaysOnlyWhenActive (log ++ calls) := by
  cases hstep with
  | activatePlain => exact Log.EachAfter.snoc hlog (by simp)
  | @activateReplay enabled hne =>
    have hactive := active_append_activate hne (henable enabled rfl hne)
    rw [show ∀ x y : SubHalCall × Int, log ++ [x, y] = (log ++ [x]) ++ [y] by simp]
    refine Log.EachAfter.snoc (Log.EachAfter.snoc hlog (by simp)) ?_
    rintro d' l' ns heq
    cases heq
    exact hactive
  | batchSaved => simpa using hlog
  | batchForwarded hne =>
    refine Log.EachAfter.snoc hlog ?_
    rintro d' l' ns heq
    cases heq
    exact hsound hne
  | other hhandle => exact absurd hown hhandle

/-- **`setDelay` only ever goes to an active sensor**, in every run in which enabling a sensor
that is not active succeeds. -/
theorem delaysOnlyWhenActive
    (hdistinct : ∀ m ∈ hal.modules, ((hal.getSensorsList m).map SensorT.handle).Nodup)
    {as : List ControlLabel} {s : ControlState}
    (hrun : Transition.Run (controlSystem hal blank)
      (fun s a => LegacyCall hal a ∧ EnableSucceeds hal s a) as s) :
    DelaysOnlyWhenActive s.log := by
  -- carried along: the shadow of every legacy sensor that says enabled is right
  suffices hinv : Initialised hal s.globals s.ctx ∧ DelaysOnlyWhenActive s.log ∧
      ∀ i d l, hal.target (Int.ofNat i + 1) = some (d, l) →
        d.version < SENSORS_DEVICE_API_VERSION_1_1 →
        ∃ cell, HasCell s.globals i cell ∧ ShadowSound d l cell s.log from hinv.2.1
  refine hrun.invariant (I := fun _ s => Initialised hal s.globals s.ctx ∧
    DelaysOnlyWhenActive s.log ∧ ∀ i d l, hal.target (Int.ofNat i + 1) = some (d, l) →
      d.version < SENSORS_DEVICE_API_VERSION_1_1 →
      ∃ cell, HasCell s.globals i cell ∧ ShadowSound d l cell s.log) ?_ ?_
  · rintro s ⟨hinit, hlog⟩
    refine ⟨(initialised_of_initialise hinit).1, ?_, fun i d l htarget _ => ?_⟩
    · rw [hlog]
      exact Log.eachAfter_nil
    · exact ⟨⟨0, {}⟩, hasCell_of_initialise hinit (lt_length_of_target htarget),
        fun hne => absurd rfl hne⟩
  · rintro _ s a s' ⟨hinit, hlog, hcells⟩ ⟨⟨hkind, d₀, l₀, htarget₀, hlegacy₀⟩, henable⟩ hstep
    refine ⟨hinit.step hstep, ?_, fun i d l htarget hlegacy => ?_⟩
    · -- the sensor the call is about
      obtain ⟨i, _, hi, _⟩ := SubHals.target_eq_some htarget₀
      rw [hi] at htarget₀
      obtain ⟨cell, hcell, hsound⟩ := hcells i d₀ l₀ htarget₀ hlegacy₀
      obtain ⟨cell', calls, _, hlog', hlegacyStep⟩ :=
        legacyStep_of_step hinit hdistinct htarget₀ hlegacy₀ hkind hstep hcell
      rw [hlog']
      exact delaysOnlyWhenActive_append hlog hsound
        (fun enabled hcall hne => henable _ enabled d₀ l₀ hcall hne htarget₀) hi hlegacyStep
    -- every other legacy sensor sees the call as well, as a step of its own machine
    · obtain ⟨cell, hcell, hsound⟩ := hcells i d l htarget hlegacy
      obtain ⟨cell', calls, hcell', hlog', hlegacyStep⟩ :=
        legacyStep_of_step hinit hdistinct htarget hlegacy hkind hstep hcell
      refine ⟨cell', hcell', ?_⟩
      rw [hlog']
      exact hsound.step (fun enabled hcall hne => henable _ enabled d l hcall hne htarget)
        hlegacyStep

/-- Activation, then a batch request, on the one sensor. -/
theorem delaysOnlyWhenActive_oneSensor :
    ∃ s : ControlState, s.log.length = 2 ∧ DelaysOnlyWhenActive s.log := by
  have hfirst : Transition.Run (controlSystem oneSensorHal { handle := 0, type := 0 })
      (fun s a => LegacyCall oneSensorHal a ∧ EnableSucceeds oneSensorHal s a)
      [] ⟨_, _, []⟩ := .nil ⟨rfl, rfl⟩
  have hsecond := hfirst.snoc (a := ⟨.activate 1 1, fun _ => 0⟩)
    ⟨⟨rfl, _, _, rfl, by decide⟩, fun _ _ _ _ _ _ _ => Or.inl rfl⟩ rfl
  have hthird := hsecond.snoc (a := ⟨.batch 1 0 5 0, fun _ => 0⟩)
    ⟨⟨rfl, _, _, rfl, by decide⟩, fun _ _ _ _ hcall => by cases hcall⟩ rfl
  exact ⟨_, rfl, delaysOnlyWhenActive (by decide) hthird⟩

/-- The sub-HAL refuses the activation, and the next batch request is forwarded all the same. -/
theorem not_delaysOnlyWhenActive_oneSensor :
    ∃ as s, Transition.Run (controlSystem oneSensorHal { handle := 0, type := 0 })
        (fun _ a => LegacyCall oneSensorHal a) as s ∧
      s.log = [(.activate ⟨0, SENSORS_DEVICE_API_VERSION_1_0⟩ 0 1, -EINVAL),
        (.setDelay ⟨0, SENSORS_DEVICE_API_VERSION_1_0⟩ 0 5, 0)] ∧
      ¬ DelaysOnlyWhenActive s.log := by
  have hfirst : Transition.Run (controlSystem oneSensorHal { handle := 0, type := 0 })
      (fun _ a => LegacyCall oneSensorHal a) [] ⟨_, _, []⟩ := .nil ⟨rfl, rfl⟩
  have hsecond := hfirst.snoc (a := ⟨.activate 1 1, fun _ => -EINVAL⟩)
    ⟨rfl, _, _, rfl, by decide⟩ rfl
  have hthird := hsecond.snoc (a := ⟨.batch 1 0 5 0, fun _ => 0⟩)
    ⟨rfl, _, _, rfl, by decide⟩ rfl
  refine ⟨_, _, hthird, rfl, fun hdelays => ?_⟩
  obtain ⟨enabled, hlast, _⟩ := hdelays
    [(.activate ⟨0, SENSORS_DEVICE_API_VERSION_1_0⟩ 0 1, -EINVAL)] _ [] rfl _ _ _ rfl
  revert hlast
  simp [Log.last, acceptedActivateOf, EINVAL]

end Runs

end Mozart.Sensors

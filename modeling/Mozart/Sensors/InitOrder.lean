import Mozart.Sensors.InitSpec

/-!
# The order of `open_sensors` and `get_sensors_list`

Both entry points of the module initialise lazily, and the comment on `lazy_init_modules` allows
either to come first. They hand `queue_mutex` from one to the other: `open_sensors` locks it,
the one `lazy_init_sensors_list` that does work unlocks it. `callsSafe_iff` says which call
sequences survive that.
-/

namespace Mozart.Sensors

/-- A call of the framework into the module. -/
inductive InitCall where
  | openSensors
  | getSensorsList
deriving DecidableEq, Repr

variable (hal : SubHals) (blank : SensorT)

/-- One call; a fault is a call that does not return. -/
def runInitCall (g : Globals) : InitCall → Except Fault Globals
  | .openSensors =>
    match openSensors hal g with
    | .error fault => .error fault
    | .ok (g, _) => .ok g
  | .getSensorsList =>
    match getSensorsList hal blank g with
    | .error fault => .error fault
    | .ok (g, _, _) => .ok g

/-- A sequence of calls, from the static initial values. -/
def runInitCalls (calls : List InitCall) : Except Fault Globals :=
  calls.foldlM (runInitCall hal blank) {}

/-- No call ends in a fault (a failed lookup in `sub_hw_versions`, a wait for `queue_mutex` that
nobody ends, an unlock of the free mutex), and once both calls occur the mutex is free. -/
def CallsSafe (calls : List InitCall) : Prop :=
  ∃ g, runInitCalls hal blank calls = .ok g ∧
    (.openSensors ∈ calls → .getSensorsList ∈ calls → g.queueMutexLocked = false)

variable {hal blank}

/-! ## What each call does to the mutex -/

/-- Once the list exists, `get_sensors_list` changes nothing. -/
theorem runInitCall_getSensorsList_listed {g : Globals} (h : g.globalSensorsList.isSome) :
    runInitCall hal blank g .getSensorsList = .ok g := by
  simp [runInitCall, getSensorsList, lazyInitSensorsList, h]

/-- `open_sensors` on the locked mutex never returns. -/
theorem runInitCall_openSensors_locked {g : Globals} (h : g.queueMutexLocked = true) :
    runInitCall hal blank g .openSensors = .error .queueMutexHeld := by
  have hsame : (lazyInitModules hal g).queueMutexLocked = g.queueMutexLocked := by
    unfold lazyInitModules
    split <;> rfl
  simp [runInitCall, openSensors, hsame, h]

/-- An `open_sensors` that returns leaves the mutex locked and the sensor list alone. -/
theorem runInitCall_openSensors_ok {g g' : Globals}
    (h : runInitCall hal blank g .openSensors = .ok g') :
    g'.queueMutexLocked = true ∧ g'.globalSensorsList = g.globalSensorsList := by
  have hsame : (lazyInitModules hal g).globalSensorsList = g.globalSensorsList := by
    unfold lazyInitModules
    split <;> rfl
  simp only [runInitCall, openSensors] at h
  by_cases hlocked : (lazyInitModules hal g).queueMutexLocked = true
  · simp [hlocked] at h
  · simp only [if_neg hlocked, Except.ok.injEq] at h
    subst h
    exact ⟨rfl, hsame⟩

/-- The first call is `get_sensors_list`: without `open_sensors` there are no versions to look
up, and if no sensor needs one the free mutex is unlocked. -/
theorem runInitCall_getSensorsList_first :
    ∃ fault, runInitCall hal blank {} .getSensorsList = .error fault := by
  cases hrun : runInitCall hal blank {} .getSensorsList with
  | error fault => exact ⟨fault, rfl⟩
  | ok g =>
    exfalso
    simp only [runInitCall, getSensorsList] at hrun
    split at hrun
    · cases hrun
    · rename_i hget
      split at hget
      · cases hget
      · rename_i hlazy
        simp only [lazyInitSensorsList, lazyInitModules, Option.isSome_none, Bool.false_eq_true,
          if_false] at hlazy
        split at hlazy <;> cases hlazy

/-! ## Sequences -/

/-- After a list exists, further `get_sensors_list` calls are idle. -/
theorem foldlM_getSensorsList_listed {g : Globals} (h : g.globalSensorsList.isSome) (n : Nat) :
    (List.replicate n InitCall.getSensorsList).foldlM (runInitCall hal blank) g = .ok g := by
  induction n with
  | zero => rfl
  | succ n ih =>
    rw [List.replicate_succ, Loop.foldlM_cons_of_ok (runInitCall_getSensorsList_listed h)]
    exact ih

/-- With the mutex locked for good, nothing a sequence can do frees it. -/
theorem locked_of_foldlM {calls : List InitCall} {g g' : Globals}
    (hlist : g.globalSensorsList.isSome) (hlocked : g.queueMutexLocked = true)
    (h : calls.foldlM (runInitCall hal blank) g = .ok g') : g'.queueMutexLocked = true := by
  induction calls with
  | nil =>
    cases h
    exact hlocked
  | cons call calls ih =>
    cases call with
    | openSensors =>
      rw [Loop.foldlM_cons_of_error (runInitCall_openSensors_locked hlocked)] at h
      cases h
    | getSensorsList =>
      rw [Loop.foldlM_cons_of_ok (runInitCall_getSensorsList_listed hlist)] at h
      exact ih h

/-- Once the list exists and the mutex is free, a sequence that leaves the mutex free consists
of `get_sensors_list` only. -/
theorem eq_replicate_of_unlocked {calls : List InitCall} {g g' : Globals}
    (hlist : g.globalSensorsList.isSome)
    (h : calls.foldlM (runInitCall hal blank) g = .ok g') (hfree : g'.queueMutexLocked = false) :
    ∃ n, calls = List.replicate n .getSensorsList := by
  induction calls with
  | nil => exact ⟨0, rfl⟩
  | cons call calls ih =>
    cases call with
    | openSensors =>
      cases hopen : runInitCall hal blank g .openSensors with
      | error fault =>
        rw [Loop.foldlM_cons_of_error hopen] at h
        cases h
      | ok g₁ =>
        rw [Loop.foldlM_cons_of_ok hopen] at h
        obtain ⟨hlocked, hsame⟩ := runInitCall_openSensors_ok hopen
        have := locked_of_foldlM (by rw [hsame]; exact hlist) hlocked h
        rw [hfree] at this
        cases this
    | getSensorsList =>
      rw [Loop.foldlM_cons_of_ok (runInitCall_getSensorsList_listed hlist)] at h
      obtain ⟨n, rfl⟩ := ih h
      exact ⟨n + 1, rfl⟩

theorem runInitCall_openSensors_initial :
    runInitCall hal blank {} .openSensors = .ok hal.openedGlobals := by
  simp only [runInitCall, openSensors_initial]

/-- With every module opened, the first list after the first open succeeds and frees the mutex. -/
theorem runInitCall_getSensorsList_opened (hopen : ∀ i, (hal.openModule i).isSome) :
    ∃ g, runInitCall hal blank hal.openedGlobals .getSensorsList = .ok g ∧
      g.globalSensorsList.isSome ∧ g.queueMutexLocked = false := by
  have hopened : ∀ r ∈ hal.reportedSensors, hal.Opened r.hwModule := by
    intro r hr
    obtain ⟨k, _, hmodule, _⟩ := mem_reportedFrom.mp hr
    exact ⟨k, hmodule, hopen k⟩
  obtain ⟨st, _, hlazy⟩ := lazyInitSensorsList_opened blank hopened
  refine ⟨hal.listedGlobals st, ?_, rfl, rfl⟩
  simp only [runInitCall, getSensorsList, hlazy]

/-- **Which call orders are safe.** When every sub-HAL opens, exactly the empty sequence and one
`open_sensors` followed by nothing but `get_sensors_list`. -/
theorem callsSafe_iff (hopen : ∀ i, (hal.openModule i).isSome) (calls : List InitCall) :
    CallsSafe hal blank calls ↔
      calls = [] ∨ ∃ n, calls = .openSensors :: List.replicate n .getSensorsList := by
  obtain ⟨g₁, hfirst, hlist₁, hfree₁⟩ := @runInitCall_getSensorsList_opened hal blank hopen
  constructor
  · rintro ⟨g, hrun, hfree⟩
    unfold runInitCalls at hrun
    -- follow the sequence up to the call that makes the list
    match calls with
    | [] => exact Or.inl rfl
    | .getSensorsList :: rest =>
      obtain ⟨fault, hfault⟩ := @runInitCall_getSensorsList_first hal blank
      rw [Loop.foldlM_cons_of_error hfault] at hrun
      cases hrun
    | [.openSensors] => exact Or.inr ⟨0, rfl⟩
    | .openSensors :: .openSensors :: rest =>
      rw [Loop.foldlM_cons_of_ok runInitCall_openSensors_initial,
        Loop.foldlM_cons_of_error (runInitCall_openSensors_locked rfl)] at hrun
      cases hrun
    | .openSensors :: .getSensorsList :: rest =>
      rw [Loop.foldlM_cons_of_ok runInitCall_openSensors_initial,
        Loop.foldlM_cons_of_ok hfirst] at hrun
      obtain ⟨n, rfl⟩ := eq_replicate_of_unlocked hlist₁ hrun (hfree (by simp) (by simp))
      exact Or.inr ⟨n + 1, rfl⟩
  · rintro (rfl | ⟨n, rfl⟩)
    · exact ⟨{}, rfl, by simp⟩
    · cases n with
      | zero =>
        refine ⟨hal.openedGlobals, ?_, by simp⟩
        rw [runInitCalls, Loop.foldlM_cons_of_ok runInitCall_openSensors_initial]
        rfl
      | succ n =>
        refine ⟨g₁, ?_, fun _ _ => hfree₁⟩
        rw [runInitCalls, Loop.foldlM_cons_of_ok runInitCall_openSensors_initial,
          List.replicate_succ, Loop.foldlM_cons_of_ok hfirst]
        exact foldlM_getSensorsList_listed hlist₁ n

/-- A safe start of the one-sensor configuration. -/
theorem callsSafe_iff_oneSensor :
    CallsSafe oneSensorHal { handle := 0, type := 0 } [.openSensors, .getSensorsList] :=
  (callsSafe_iff (fun _ => rfl) [.openSensors, .getSensorsList]).mpr (Or.inr ⟨1, rfl⟩)

/-- Asking for the list first dereferences the null versions map. -/
theorem not_callsSafe_getSensorsList_first :
    (∀ i, (oneSensorHal.openModule i).isSome) ∧
      runInitCalls oneSensorHal { handle := 0, type := 0 } [.getSensorsList, .openSensors]
        = .error .nullVersions ∧
      ¬ CallsSafe oneSensorHal { handle := 0, type := 0 } [.getSensorsList, .openSensors] := by
  have hrun : runInitCalls oneSensorHal { handle := 0, type := 0 } [.getSensorsList, .openSensors]
      = .error .nullVersions := rfl
  refine ⟨fun _ => rfl, hrun, ?_⟩
  rintro ⟨g, hok, _⟩
  rw [hrun] at hok
  cases hok

end Mozart.Sensors

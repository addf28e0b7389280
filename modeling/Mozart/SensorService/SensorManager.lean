import Mozart.Lib.Heap
import Mozart.Lib.Transition
import Mozart.SensorService.ISensorServer

/-!
# The sensor manager of a client process

`libshims/gui/SensorManager.cpp`. A `SensorManager` connects to the sensor service when it first
needs it, keeps the service's sensor list in `mSensors`, and hands out `mSensorList`, an array of
pointers into that vector which it allocates by hand. It connects anew when a ping fails, and
`sensorManagerDied` takes everything down when the service's death is reported.

The vector's storage and the pointer array are heap blocks, so that a pointer that outlived its
block finds nothing; the rest of the system is a world the manager asks. A call is a function to
`Except Fault`: running into a null or stale pointer is a fault, and so is `LOG_ALWAYS_FATAL_IF`,
which ends the process on purpose.
-/

namespace Mozart.SensorService

/-- What ends the process. -/
inductive Fault where
  /-- `LOG_ALWAYS_FATAL_IF` -/
  | fatal
  | nullPointer
  /-- an access to a block that is not allocated, or outside of it -/
  | badAccess
  /-- `free` of what is not allocated -/
  | badFree
  deriving DecidableEq, Repr

/-- What the manager asks of the system it runs in: `R` are the references to a sensor service. -/
structure Environment (String16 String8 Sensor Connection R ω : Type) where
  /-- `getService(String16("sensorservice"), &mSensorServer)`: a status and the pointer after -/
  getService : ω → (Status × Option R) × ω
  /-- `sleep(1)` -/
  sleep : ω → ω
  pingBinder : R → ω → Status × ω
  /-- the proxy a reference stands for -/
  server : R → ISensorServer String16 String8 Sensor Connection ω
  /-- whether `malloc` of an array of that many pointers succeeds -/
  malloc : Nat → ω → Bool × ω
  getType : Sensor → Int32
  isWakeUpSensor : Sensor → Bool

/-- `mSensors.array() + i` -/
structure SensorPtr where
  array : Nat
  index : Nat
  deriving DecidableEq, Repr

/-- A `SensorManager`, the memory it allocates and the world around it. -/
structure SensorManager (String16 Sensor R ω : Type) where
  mSensorServer : Option R
  /-- the pointer array, null before the first connection -/
  mSensorList : Option Nat
  /-- the storage of the vector, none for a vector that was never assigned -/
  mSensors : Option Nat
  /-- the service whose death `mDeathObserver` is registered for -/
  mDeathObserver : Option R
  mOpPackageName : String16
  /-- the blocks of `malloc` -/
  lists : Heap (List SensorPtr)
  /-- the storage of vectors -/
  arrays : Heap (List Sensor)
  world : ω

variable {String16 String8 Sensor Connection R ω : Type}

/-- The pointers `mSensors.array() + 0`, `mSensors.array() + 1`, ... -/
def pointersInto (array count : Nat) : List SensorPtr :=
  (List.range count).map fun i => ⟨array, i⟩

namespace SensorManager

/-! ## Memory -/

/-- The contents of `mSensors`. -/
def sensors (m : SensorManager String16 Sensor R ω) : List Sensor :=
  (m.mSensors.bind m.arrays.block).getD []

/-- `free(mSensorList)`, which does nothing for a null pointer. -/
def freeList (m : SensorManager String16 Sensor R ω) :
    Except Fault (SensorManager String16 Sensor R ω) :=
  match m.mSensorList with
  | none => .ok m
  | some list =>
    match m.lists.block list with
    | none => .error .badFree
    | some _ => .ok { m with lists := m.lists.free list }

/-- The storage the vector holds goes with what the vector is set to. -/
def dropStorage (m : SensorManager String16 Sensor R ω) : Heap (List Sensor) :=
  match m.mSensors with
  | none => m.arrays
  | some array => m.arrays.free array

/-- `mSensorList[i]` -/
def listEntry (m : SensorManager String16 Sensor R ω) (i : Nat) : Except Fault SensorPtr :=
  match m.mSensorList with
  | none => .error .nullPointer
  | some list =>
    match (m.lists.block list).bind (·[i]?) with
    | none => .error .badAccess
    | some ptr => .ok ptr

/-- `*ptr` -/
def deref (m : SensorManager String16 Sensor R ω) (ptr : SensorPtr) : Except Fault Sensor :=
  match (m.arrays.block ptr.array).bind (·[ptr.index]?) with
  | none => .error .badAccess
  | some sensor => .ok sensor

/-- A call through `mSensorServer`. -/
def throughServer (m : SensorManager String16 Sensor R ω) : Except Fault R :=
  match m.mSensorServer with
  | none => .error .nullPointer
  | some r => .ok r

section

variable (env : Environment String16 String8 Sensor Connection R ω)

/-! ## Connecting -/

/-- The loop around `getService`: another try after a second when the service is not there yet.
The status is `none` where the loop goes on to the code behind it. -/
def findService : Nat → Option R → ω → Option Status × Option R × ω
  | 0, server, w => (none, server, w)
  | tries + 1, _, w =>
    let answer := env.getService w
    if answer.1.1 = NAME_NOT_FOUND then
      findService tries answer.1.2 (env.sleep answer.2)
    else if answer.1.1 ≠ NO_ERROR then
      (some answer.1.1, answer.1.2, answer.2)
    else
      (none, answer.1.2, answer.2)

/-- What `assertStateLocked` does to take over the sensors of a service it has found. -/
def takeSensors (m : SensorManager String16 Sensor R ω) (r : R) :
    Except Fault (SensorManager String16 Sensor R ω) :=
  let answer := (env.server r).getSensorList m.mOpPackageName m.world
  let storage := m.dropStorage.alloc answer.1
  let memory := env.malloc answer.1.length answer.2
  if memory.1 then
    let list := m.lists.alloc (pointersInto storage.1 answer.1.length)
    .ok { m with
      mSensors := some storage.1
      arrays := storage.2
      mSensorList := some list.1
      lists := list.2
      world := memory.2 }
  else
    .error .fatal

/-- `assertStateLocked`, once it is clear that there is no live service: the old pointer array,
if there is one, is overwritten without a `free`. -/
def connect (m : SensorManager String16 Sensor R ω) :
    Except Fault (Status × SensorManager String16 Sensor R ω) :=
  let found := findService env 60 m.mSensorServer m.world
  let m := { m with mSensorServer := found.2.1, world := found.2.2 }
  match found.1 with
  | some err => .ok (err, m)
  | none =>
    match m.mSensorServer with
    | none => .error .fatal
    | some r => do
      let m ← takeSensors env { m with mDeathObserver := some r } r
      .ok (NO_ERROR, m)

/-- `assertStateLocked` -/
def assertStateLocked (m : SensorManager String16 Sensor R ω) :
    Except Fault (Status × SensorManager String16 Sensor R ω) :=
  match m.mSensorServer with
  | none => connect env m
  | some r =>
    let ping := env.pingBinder r m.world
    let m := { m with world := ping.2 }
    if ping.1 ≠ NO_ERROR then connect env m else .ok (NO_ERROR, m)

/-- `SensorManager::SensorManager`, which does not look at the status. -/
def construct (opPackageName : String16) (w : ω) :
    Except Fault (SensorManager String16 Sensor R ω) := do
  let blank : SensorManager String16 Sensor R ω :=
    ⟨none, none, none, none, opPackageName, .empty, .empty, w⟩
  let answer ← assertStateLocked env blank
  .ok answer.2

/-! ## The calls -/

/-- `getSensorList`: the returned count or error, and what `*list` was set to, if it was. -/
def getSensorList (m : SensorManager String16 Sensor R ω) :
    Except Fault ((Int × Option (Option Nat)) × SensorManager String16 Sensor R ω) := do
  let (err, m) ← assertStateLocked env m
  if err < 0 then
    .ok ((err, none), m)
  else
    .ok (((m.sensors.length : Int), some m.mSensorList), m)

/-- `getDynamicSensorList`: the returned count or error, and the list, if it was assigned. -/
def getDynamicSensorList (m : SensorManager String16 Sensor R ω) :
    Except Fault ((Int × Option (List Sensor)) × SensorManager String16 Sensor R ω) := do
  let (err, m) ← assertStateLocked env m
  if err < 0 then
    .ok ((err, none), m)
  else
    let r ← m.throughServer
    let answer := (env.server r).getDynamicSensorList m.mOpPackageName m.world
    .ok (((answer.1.length : Int), some answer.1), { m with world := answer.2 })

/-- The sensor types whose default sensor wakes the processor up: proximity, significant motion,
tilt detector, wake gesture, glance gesture, pick up gesture, wrist tilt gesture. -/
def wakeUpTypes : List Int32 := [8, 17, 22, 23, 24, 25, 26]

/-- The loop of `getDefaultSensor` from index `i` on, with `fuel` entries left. -/
def searchFrom (m : SensorManager String16 Sensor R ω) (type : Int32) (wakeUpSensor : Bool) :
    Nat → Nat → Except Fault (Option SensorPtr)
  | 0, _ => .ok none
  | fuel + 1, i => do
    let ptr ← m.listEntry i
    let sensor ← m.deref ptr
    if env.getType sensor = type ∧ env.isWakeUpSensor sensor = wakeUpSensor then
      .ok (some ptr)
    else
      searchFrom m type wakeUpSensor fuel (i + 1)

/-- `getDefaultSensor` -/
def getDefaultSensor (m : SensorManager String16 Sensor R ω) (type : Int32) :
    Except Fault (Option SensorPtr × SensorManager String16 Sensor R ω) := do
  let (err, m) ← assertStateLocked env m
  if err = NO_ERROR then
    let found ← m.searchFrom env type (decide (type ∈ wakeUpTypes)) m.sensors.length 0
    .ok (found, m)
  else
    .ok (none, m)

/-- `createEventQueue`. The loop around its body always ends in the first round, in the
`return` for a null connection or in the `break`. -/
def createEventQueue (m : SensorManager String16 Sensor R ω) (packageName : String8)
    (mode : Int32) : Except Fault (Option Connection × SensorManager String16 Sensor R ω) := do
  let (err, m) ← assertStateLocked env m
  if err = NO_ERROR then
    let r ← m.throughServer
    let answer := (env.server r).createSensorEventConnection packageName mode m.mOpPackageName
      m.world
    .ok (answer.1, { m with world := answer.2 })
  else
    .ok (none, m)

/-- `isDataInjectionEnabled` -/
def isDataInjectionEnabled (m : SensorManager String16 Sensor R ω) :
    Except Fault (Bool × SensorManager String16 Sensor R ω) := do
  let (err, m) ← assertStateLocked env m
  if err = NO_ERROR then
    let r ← m.throughServer
    let answer := (env.server r).isDataInjectionEnabled m.world
    .ok (answer.1 != 0, { m with world := answer.2 })
  else
    .ok (false, m)

end

/-- `sensorManagerDied` -/
def sensorManagerDied (m : SensorManager String16 Sensor R ω) :
    Except Fault (SensorManager String16 Sensor R ω) := do
  let m ← { m with mSensorServer := none }.freeList
  .ok { m with mSensorList := none, mSensors := none, arrays := m.dropStorage }

end SensorManager

/-! ## The manager as a system -/

/-- What happens to a manager: a call of a client, the death notice of the observed service, or
a change of the world that the manager has no part in. -/
inductive ManagerEvent (String8 ω : Type) where
  | getSensorList
  | getDynamicSensorList
  | getDefaultSensor (type : Int32)
  | createEventQueue (packageName : String8) (mode : Int32)
  | isDataInjectionEnabled
  | binderDied
  | world (w : ω)

/-- The calls of a client. They start with `assertStateLocked`. -/
def ManagerEvent.isCall : ManagerEvent String8 ω → Bool
  | .getSensorList | .getDynamicSensorList | .getDefaultSensor _ | .createEventQueue _ _
  | .isDataInjectionEnabled => true
  | .binderDied | .world _ => false

namespace SensorManager

variable (env : Environment String16 String8 Sensor Connection R ω)

/-- The manager after an event, or the fault the process ended in. A death notice only comes to
an observer. -/
def handle (m : SensorManager String16 Sensor R ω) :
    ManagerEvent String8 ω → Except Fault (SensorManager String16 Sensor R ω)
  | .getSensorList => (getSensorList env m).map Prod.snd
  | .getDynamicSensorList => (getDynamicSensorList env m).map Prod.snd
  | .getDefaultSensor type => (getDefaultSensor env m type).map Prod.snd
  | .createEventQueue packageName mode => (createEventQueue env m packageName mode).map Prod.snd
  | .isDataInjectionEnabled => (isDataInjectionEnabled env m).map Prod.snd
  | .binderDied => if m.mDeathObserver.isSome then m.sensorManagerDied else .ok m
  | .world w => .ok { m with world := w }

end SensorManager

/-- The system: it starts with a constructed manager and ends with the process. -/
def managerSystem (env : Environment String16 String8 Sensor Connection R ω) :
    Transition.System (SensorManager String16 Sensor R ω) (ManagerEvent String8 ω) where
  init m := ∃ opPackageName w, SensorManager.construct env opPackageName w = .ok m
  step m e := (SensorManager.handle env m e).toOption

end Mozart.SensorService

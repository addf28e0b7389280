import Mathlib.Algebra.Group.Int.Defs
import Mathlib.Algebra.Group.Nat.Defs
import Mozart.Sensors.Handles

/-!
# The data the multi-HAL passes around

The structures of the sensors HAL interface that `multihal.cpp` reads and writes, the sub-HALs it
sits on (whose code is loaded at run time and is a parameter here), and the file-scope variables
the initialisation fills. `int` and `int64_t` are `Int`; where a value is squeezed into a
narrower type the conversion is explicit (`toInt32`).
-/

namespace Mozart.Sensors

/-! ## Constants of the HAL interface -/

/-- `SENSORS_DEVICE_API_VERSION_1_<minor>`: major 1, the minor version, header version 1. -/
def sensorsDeviceApiVersion (minor : Int) : Int := 1 * 2 ^ 24 + minor * 2 ^ 16 + 1

def SENSORS_DEVICE_API_VERSION_1_0 : Int := sensorsDeviceApiVersion 0
def SENSORS_DEVICE_API_VERSION_1_1 : Int := sensorsDeviceApiVersion 1
def SENSORS_DEVICE_API_VERSION_1_3 : Int := sensorsDeviceApiVersion 3
def SENSORS_DEVICE_API_VERSION_1_4 : Int := sensorsDeviceApiVersion 4

def EINVAL : Int := 22

def SENSOR_TYPE_META_DATA : Int := 0
def SENSOR_TYPE_LIGHT : Int := 5
def SENSOR_TYPE_TEMPERATURE : Int := 7
def SENSOR_TYPE_PROXIMITY : Int := 8

def SENSOR_FLAG_WAKE_UP : Nat := 1
def SENSOR_FLAG_ON_CHANGE_MODE : Nat := 2

/-- What an `int` holds of a number: an `int64_t` argument converted to an `int` parameter, and
the sum or difference of two `int`s, which wraps on this two's-complement target. -/
def toInt32 (x : Int) : Int := x.bmod (2 ^ 32)

theorem toInt32_eq_self_iff (x : Int) : toInt32 x = x ↔ -2 ^ 31 ≤ x ∧ x < 2 ^ 31 := by
  unfold toInt32
  rw [Int.bmod_def]
  split_ifs <;> omega

theorem toInt32_of_range {x : Int} (hle : -2 ^ 31 ≤ x) (hlt : x < 2 ^ 31) : toInt32 x = x :=
  (toInt32_eq_self_iff x).mpr ⟨hle, hlt⟩

/-- A number one turn too large. -/
theorem toInt32_of_ge {x : Int} (hge : 2 ^ 31 ≤ x) (hlt : x < 2 ^ 32 + 2 ^ 31) :
    toInt32 x = x - 2 ^ 32 := by
  unfold toInt32
  rw [Int.bmod_def]
  split_ifs <;> omega

/-- A number one turn too small. -/
theorem toInt32_of_lt {x : Int} (hlt : x < -2 ^ 31) (hge : -2 ^ 32 - 2 ^ 31 ≤ x) :
    toInt32 x = x + 2 ^ 32 := by
  unfold toInt32
  rw [Int.bmod_def]
  split_ifs <;> omega

/-! ## Sensors, events, devices -/

/-- `struct sensor_t`. -/
structure SensorT where
  name : String := ""
  vendor : String := ""
  version : Int := 0
  handle : Int
  type : Int
  maxRange : Rat := 0
  resolution : Rat := 0
  power : Rat := 0
  minDelay : Int := 0
  fifoReservedEventCount : Nat := 0
  fifoMaxEventCount : Nat := 0
  stringType : String := ""
  requiredPermission : String := ""
  maxDelay : Int := 0
  flags : Nat := 0
deriving DecidableEq, Repr

/-- `struct sensors_event_t`. The payload is a union; `metaData` are its first two words read as
`meta_data`, `data` the words behind them. -/
structure SensorsEvent where
  version : Int := 0
  sensor : Int
  type : Int
  timestamp : Int := 0
  metaDataWhat : Int := 0
  metaDataSensor : Int := 0
  data : List Int := []
  flags : Nat := 0
deriving DecidableEq, Repr

/-- A `hw_module_t *`; the same library listed twice gives the same pointer. -/
abbrev HwModule := Nat

/-- A `hw_device_t *`. Every successful `open()` makes a fresh device, so the position in
`sub_hw_modules` of the module it was opened from stands for the pointer. -/
structure HwDevice where
  openedFrom : Nat
  version : Int
deriving DecidableEq, Repr

/-- The sub-HALs on the device: the lines of the config file, what `dlopen` and `dlsym` make of a
line, what a module reports as its sensors, and what its `open()` does when it is called for the
entry at some position (the version of the device, or failure). -/
structure SubHals where
  soPaths : List String
  loadModule : String → Option HwModule
  getSensorsList : HwModule → List SensorT
  openModule : Nat → Option Int

/-- `typedef struct batch_data`. -/
structure BatchData where
  empty : Bool := true
  handle : Int := 0
  flags : Int := 0
  periodNs : Int := 0
  timeout : Int := 0
deriving DecidableEq, Repr

/-- `update_batch_data`: the fields are 64 bit, the last two parameters are `int`. -/
def BatchData.updateBatchData (_ : BatchData) (handle flags periodNs timeout : Int) :
    BatchData where
  empty := false
  handle := handle
  flags := flags
  periodNs := toInt32 periodNs
  timeout := toInt32 timeout

/-- What ends a call without a return: undefined behaviour, an exception nobody catches, or a
wait that nobody ends. -/
inductive Fault where
  /-- `sub_hw_versions->at` on a null pointer -/
  | nullVersions
  /-- `sub_hw_versions->at` throws `std::out_of_range` -/
  | missingVersion
  /-- `pthread_mutex_lock(&queue_mutex)` while an earlier call left it locked -/
  | queueMutexHeld
  /-- `pthread_mutex_unlock(&queue_mutex)` while it is not locked -/
  | queueMutexNotHeld
  /-- an array index outside the array -/
  | outOfBounds
deriving DecidableEq, Repr

/-- `std::unordered_map<hw_module_t *, int>`. -/
abbrev VersionMap := List (HwModule × Int)

/-- `insert` leaves a key that is present alone. -/
def VersionMap.insert (versions : VersionMap) (m : HwModule) (version : Int) : VersionMap :=
  if (versions.lookup m).isSome then versions else versions ++ [(m, version)]

/-- `sub_hw_versions->at(m)`. -/
def versionAt (versions : Option VersionMap) (m : HwModule) : Except Fault Int :=
  match versions with
  | none => .error .nullVersions
  | some versions =>
    match versions.lookup m with
    | none => .error .missingVersion
    | some version => .ok version

/-- The file-scope variables of `multihal.cpp`. -/
structure Globals where
  subHwModules : Option (List HwModule) := none
  subHwVersions : Option VersionMap := none
  handles : HandleTable := .initial
  globalSensorsList : Option (List SensorT) := none
  globalSensorsCount : Int := -1
  sensorsBatchList : List BatchData := []
  sensorsEnableState : List Int := []
  /-- whether a returned call left `queue_mutex` locked -/
  queueMutexLocked : Bool := false

/-- `struct sensors_poll_context_t`, without the queues, which `MultiHal` models. -/
structure PollContext where
  subHwDevices : List HwDevice

end Mozart.Sensors

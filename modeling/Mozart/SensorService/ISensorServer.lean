import Mathlib.Logic.Function.Iterate
import Mozart.Lib.Parcel

/-!
# The binder interface of the sensor service

`libshims/gui/ISensorServer.cpp`. A client holds a `BpSensorServer`, which writes the arguments of
a call into a parcel, transacts and reads the reply; the service sits behind
`BnSensorServer::onTransact`, which does the opposite. Both sides are written against libbinder:
the strings, the sensors and the binder handles travel as `Flattening` says, and `transact` is
whatever carries the parcels.

* **`bpSensorServer_onTransact`**: a proxy in front of the stub of a server is that server, up to
  the cast that cuts the length of a sensor list to 32 bits.
* **`iterate_hop_eq_truncated`**: so is a chain of proxies and stubs of any length.
* **`fetchSensors_any_reply`**: the proxy believes the count of a reply it cannot read to the end.
-/

namespace Mozart.SensorService

open Parcel

/-! ## What libbinder and the parcelled types provide -/

/-- How the types of the interface travel in a parcel, and the values of their default
constructors. -/
structure Flattening (String16 String8 Sensor Connection : Type*) where
  string16 : Wire UInt32 String16
  string8 : Wire UInt32 String8
  sensor : Wire UInt32 Sensor
  /-- a binder handle, null for a null pointer -/
  strongBinder : Wire UInt32 (Option Connection)
  /-- `String16()` -/
  noString16 : String16
  /-- `String8()` -/
  noString8 : String8
  /-- `Sensor()` -/
  noSensor : Sensor
  /-- `ISensorServer::getInterfaceDescriptor()` -/
  descriptor : String16
  /-- the strict mode policy in front of the descriptor -/
  strictPolicy : Int32

/-- `status_t` -/
abbrev Status := Int

def NO_ERROR : Status := 0
def PERMISSION_DENIED : Status := -1
def NAME_NOT_FOUND : Status := -2

/-- `IBinder::transact(code, data, &reply)` in a world `ω`: a status, the reply, the world after. -/
abbrev Transact (ω : Type*) := UInt32 → List UInt32 → ω → (Status × List UInt32) × ω

/-- The methods of `ISensorServer`, each with the world before and after the call. -/
structure ISensorServer (String16 String8 Sensor Connection ω : Type*) where
  getSensorList : String16 → ω → List Sensor × ω
  getDynamicSensorList : String16 → ω → List Sensor × ω
  createSensorEventConnection : String8 → Int32 → String16 → ω → Option Connection × ω
  isDataInjectionEnabled : ω → Int32 × ω

variable {String16 String8 Sensor Connection ω : Type*}

/-! ## The transactions -/

def GET_SENSOR_LIST : UInt32 := 1
def CREATE_SENSOR_EVENT_CONNECTION : UInt32 := 2
def ENABLE_DATA_INJECTION : UInt32 := 3
def GET_DYNAMIC_SENSOR_LIST : UInt32 := 4

section

variable (f : Flattening String16 String8 Sensor Connection)

/-- `Parcel::writeInterfaceToken` -/
def writeInterfaceToken : List UInt32 := int32.put f.strictPolicy ++ f.string16.put f.descriptor

/-- `CHECK_INTERFACE`: what is left of the parcel behind a token of this interface. -/
def checkInterface [DecidableEq String16] (data : List UInt32) : Option (List UInt32) :=
  let policy := int32.get data 0
  let token := f.string16.get policy.2 f.noString16
  if token.1 = f.descriptor then some token.2 else none

@[simp] theorem checkInterface_writeInterfaceToken [DecidableEq String16] (args : List UInt32) :
    checkInterface f (writeInterfaceToken f ++ args) = some args := by
  unfold checkInterface writeInterfaceToken
  rw [List.append_assoc]
  simp only [Wire.get_put_append, if_true]

/-- The calls of `BpSensorServer` that fetch a list of sensors. -/
def fetchSensors (remote : Transact ω) (code : UInt32) (opPackageName : String16) (w : ω) :
    List Sensor × ω :=
  let data := writeInterfaceToken f ++ f.string16.put opPackageName
  let reply := remote code data w
  (getList f.sensor f.noSensor reply.1.2, reply.2)

/-- `BpSensorServer`, in front of a remote binder. None of its methods looks at the status of the
transaction. -/
def bpSensorServer (remote : Transact ω) :
    ISensorServer String16 String8 Sensor Connection ω where
  getSensorList := fetchSensors f remote GET_SENSOR_LIST
  getDynamicSensorList := fetchSensors f remote GET_DYNAMIC_SENSOR_LIST
  createSensorEventConnection packageName mode opPackageName w :=
    let data := writeInterfaceToken f ++ f.string8.put packageName ++ int32.put mode
      ++ f.string16.put opPackageName
    let reply := remote CREATE_SENSOR_EVENT_CONNECTION data w
    ((f.strongBinder.get reply.1.2 none).1, reply.2)
  isDataInjectionEnabled w :=
    let reply := remote ENABLE_DATA_INJECTION (writeInterfaceToken f) w
    ((int32.get reply.1.2 0).1, reply.2)

variable [DecidableEq String16]

/-- The transactions of `BnSensorServer::onTransact` that list sensors. -/
def listSensors (list : String16 → ω → List Sensor × ω) (args : List UInt32) (w : ω) :
    (Status × List UInt32) × ω :=
  let opPackageName := (f.string16.get args f.noString16).1
  let v := list opPackageName w
  ((NO_ERROR, putList f.sensor v.1), v.2)

/-- `BnSensorServer::onTransact`. A parcel without this interface's token is refused; a code that
is not of this interface goes to `BBinder::onTransact`. -/
def onTransact (server : ISensorServer String16 String8 Sensor Connection ω)
    (bbinder : Transact ω) : Transact ω := fun code data w =>
  let checked (k : List UInt32 → (Status × List UInt32) × ω) : (Status × List UInt32) × ω :=
    match checkInterface f data with
    | some args => k args
    | none => ((PERMISSION_DENIED, []), w)
  if code = GET_SENSOR_LIST then
    checked fun args => listSensors f server.getSensorList args w
  else if code = CREATE_SENSOR_EVENT_CONNECTION then
    checked fun args =>
      let packageName := f.string8.get args f.noString8
      let mode := int32.get packageName.2 0
      let opPackageName := f.string16.get mode.2 f.noString16
      let connection := server.createSensorEventConnection packageName.1 mode.1 opPackageName.1 w
      ((NO_ERROR, f.strongBinder.put connection.1), connection.2)
  else if code = ENABLE_DATA_INJECTION then
    checked fun _ =>
      let ret := server.isDataInjectionEnabled w
      ((NO_ERROR, int32.put ret.1), ret.2)
  else if code = GET_DYNAMIC_SENSOR_LIST then
    checked fun args => listSensors f server.getDynamicSensorList args w
  else
    bbinder code data w

end

/-! ## Proxy and stub

`truncated` is what the interface does to a server: the count in front of a list is a `uint32_t`,
and the client reads no more sensors than it says. -/

/-- The list a client gets of a list the server returns. -/
def truncate (v : List Sensor) : List Sensor := v.take (v.length % 2 ^ 32)

theorem truncate_of_lt {v : List Sensor} (h : v.length < 2 ^ 32) : truncate v = v := by
  unfold truncate
  rw [Nat.mod_eq_of_lt h, List.take_length]

theorem length_truncate (v : List Sensor) : (truncate v).length = v.length % 2 ^ 32 := by
  have hle : v.length % 2 ^ 32 ≤ v.length := Nat.mod_le _ _
  unfold truncate
  rw [List.length_take]
  omega

theorem truncate_truncate (v : List Sensor) : truncate (truncate v) = truncate v := by
  apply truncate_of_lt
  rw [length_truncate]
  omega

namespace ISensorServer

/-- A server whose lists have been through a parcel. -/
def truncated (server : ISensorServer String16 String8 Sensor Connection ω) :
    ISensorServer String16 String8 Sensor Connection ω where
  getSensorList p w := (truncate (server.getSensorList p w).1, (server.getSensorList p w).2)
  getDynamicSensorList p w :=
    (truncate (server.getDynamicSensorList p w).1, (server.getDynamicSensorList p w).2)
  createSensorEventConnection := server.createSensorEventConnection
  isDataInjectionEnabled := server.isDataInjectionEnabled

/-- Every list the server returns has a length that fits a `uint32_t`. -/
structure ShortLists (server : ISensorServer String16 String8 Sensor Connection ω) : Prop where
  sensors : ∀ p w, (server.getSensorList p w).1.length < 2 ^ 32
  dynamicSensors : ∀ p w, (server.getDynamicSensorList p w).1.length < 2 ^ 32

theorem ShortLists.truncated_eq {server : ISensorServer String16 String8 Sensor Connection ω}
    (h : server.ShortLists) : server.truncated = server := by
  unfold truncated
  have hsensors : ∀ p w, truncate (server.getSensorList p w).1 = (server.getSensorList p w).1 :=
    fun p w => truncate_of_lt (h.sensors p w)
  have hdynamic : ∀ p w,
      truncate (server.getDynamicSensorList p w).1 = (server.getDynamicSensorList p w).1 :=
    fun p w => truncate_of_lt (h.dynamicSensors p w)
  simp only [hsensors, hdynamic]

theorem truncated_truncated (server : ISensorServer String16 String8 Sensor Connection ω) :
    server.truncated.truncated = server.truncated := by
  unfold truncated
  simp only [truncate_truncate]

end ISensorServer

section

variable (f : Flattening String16 String8 Sensor Connection)

/-- Fetching from a stub that answers the code with `list`. -/
theorem fetchSensors_of_listSensors {code : UInt32} {list : String16 → ω → List Sensor × ω}
    {remote : Transact ω}
    (hremote : ∀ args w, remote code (writeInterfaceToken f ++ args) w = listSensors f list args w)
    (opPackageName : String16) (w : ω) :
    fetchSensors f remote code opPackageName w
      = (truncate (list opPackageName w).1, (list opPackageName w).2) := by
  unfold fetchSensors
  simp only [hremote]
  unfold listSensors
  have hreply := getList_putList f.sensor (list opPackageName w).1 f.noSensor []
  rw [List.append_nil] at hreply
  simp only [Wire.get_put_self, hreply, truncate]

variable [DecidableEq String16]
variable (server : ISensorServer String16 String8 Sensor Connection ω) (bbinder : Transact ω)

/-- **A proxy in front of a stub is the server behind it**, whatever the server and its state, up
to the width of the count in front of a list. -/
theorem bpSensorServer_onTransact :
    bpSensorServer f (onTransact f server bbinder) = server.truncated := by
  have hlist : fetchSensors f (onTransact f server bbinder) GET_SENSOR_LIST
      = server.truncated.getSensorList := by
    funext p w
    apply fetchSensors_of_listSensors f
    intro args w
    simp [onTransact]
  have hdynamic : fetchSensors f (onTransact f server bbinder) GET_DYNAMIC_SENSOR_LIST
      = server.truncated.getDynamicSensorList := by
    funext p w
    apply fetchSensors_of_listSensors f
    intro args w
    simp [onTransact, GET_SENSOR_LIST, CREATE_SENSOR_EVENT_CONNECTION, ENABLE_DATA_INJECTION,
      GET_DYNAMIC_SENSOR_LIST]
  unfold bpSensorServer
  rw [hlist, hdynamic]
  unfold ISensorServer.truncated
  congr 1
  · funext packageName mode opPackageName w
    simp [onTransact, GET_SENSOR_LIST, CREATE_SENSOR_EVENT_CONNECTION, List.append_assoc]
  · funext w
    have htoken := checkInterface_writeInterfaceToken f []
    rw [List.append_nil] at htoken
    simp [onTransact, GET_SENSOR_LIST, CREATE_SENSOR_EVENT_CONNECTION, ENABLE_DATA_INJECTION,
      htoken]

/-- A proxy in front of a stub, itself served by a stub behind another proxy, and so on. -/
def hop (server : ISensorServer String16 String8 Sensor Connection ω) :
    ISensorServer String16 String8 Sensor Connection ω :=
  bpSensorServer f (onTransact f server bbinder)

/-- **Any number of hops is one.** Passing a server on through further processes changes nothing
that the first hop has not changed: the methods of the last proxy are those of the server, with
the lists cut where the first count was. -/
theorem iterate_hop_eq_truncated (hops : Nat) :
    (hop f bbinder)^[hops + 1] server = server.truncated := by
  induction hops with
  | zero => exact bpSensorServer_onTransact f server bbinder
  | succ hops ih =>
    rw [Function.iterate_succ_apply', ih]
    show bpSensorServer f (onTransact f server.truncated bbinder) = server.truncated
    rw [bpSensorServer_onTransact, ISensorServer.truncated_truncated]

/-- Across any number of hops, also none, a server with short lists is itself. -/
theorem iterate_hop_eq_self (h : server.ShortLists) (hops : Nat) :
    (hop f bbinder)^[hops] server = server := by
  cases hops with
  | zero => rfl
  | succ hops => rw [iterate_hop_eq_truncated, h.truncated_eq]

end

/-! ## Replies of a remote that is not the stub

A dead remote leaves the reply empty, a broken one may fill it with anything. -/

section

variable (f : Flattening String16 String8 Sensor Connection) (remote : Transact ω)

/-- What the proxy's list calls give, the same for both of them. -/
theorem fetchSensors_fst (code : UInt32) (opPackageName : String16) (w : ω) :
    (fetchSensors f remote code opPackageName w).1 = getList f.sensor f.noSensor
      (remote code (writeInterfaceToken f ++ f.string16.put opPackageName) w).1.2 := rfl

/-- **The proxy believes the count.** Whatever the remote replies, and whatever status it reports,
a list call returns as many sensors as the first word of the reply says, none if the reply is
empty. Where the reply holds fewer, those it holds are followed by copies of the last one, of a
blank sensor if there is none. -/
theorem fetchSensors_any_reply {code : UInt32} {opPackageName : String16} {w : ω}
    {reply : List UInt32}
    (h : (remote code (writeInterfaceToken f ++ f.string16.put opPackageName) w).1.2 = reply) :
    (fetchSensors f remote code opPackageName w).1.length = (reply.head?.getD 0).toNat ∧
      ∀ (n : UInt32) (sent : List Sensor) (rest : List UInt32),
        reply = n :: (f.sensor.putAll sent ++ rest) → sent.length ≤ n.toNat →
        (∀ s, f.sensor.get rest s = (s, rest)) →
        (fetchSensors f remote code opPackageName w).1
          = sent ++ List.replicate (n.toNat - sent.length) (sent.getLastD f.noSensor) := by
  rw [fetchSensors_fst, h]
  constructor
  · exact length_getList f.sensor f.noSensor reply
  · intro n sent rest hreply hlen hstuck
    rw [hreply]
    exact getList_cut_short f.sensor hlen hstuck f.noSensor

end

/-- Every type of the interface a word. -/
def wordFlattening : Flattening UInt32 UInt32 UInt32 UInt32 :=
  ⟨uint32, uint32, oneWord, nullable uint32 0, 0, 0, 0, 42, 0⟩

theorem fetchSensors_any_reply_short :
    (fetchSensors wordFlattening (fun _ _ w => ((0, [3, 10, 20]), w)) GET_SENSOR_LIST 7 ()).1
      = [10, 20, 20] :=
  (fetchSensors_any_reply wordFlattening (fun _ _ w => ((0, [3, 10, 20]), w)) rfl).2 3 [10, 20] []
    rfl (by decide) (fun _ => rfl)

end Mozart.SensorService

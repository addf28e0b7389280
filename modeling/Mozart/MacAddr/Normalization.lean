import Mozart.MacAddr.Mac
import Mozart.MacAddr.Posix

/-!
# `mac_addr_normalization.cpp`

The functions of the source in its order, as programs that make system calls. Log messages are left
out, and with them what only a message shows. A descriptor is a number, a byte array that a
function fills is part of what it returns.
-/

namespace Mozart.MacAddr

open Dialogue

def kBluetoothPath : String := "/data/misc/bluedroid/macbt"

def kWifiPath : String := "/data/misc/wifi/macwifi"

def kSystemUid : UInt32 := 1000

def kBluetoothUid : UInt32 := 1002

def kBluetoothGid : UInt32 := 1002

def kWifiGid : UInt32 := 1010

/-- A program of system calls. -/
abbrev Prog (α : Type) : Type 1 := Dialogue.Prog Call Answer α

/-! ## The calls whose answer is looked at -/

abbrev openRead (path : String) : Prog (Except Errno Nat) := call (Call.openRead path)

abbrev openCreate (path : String) (mode : UInt32) : Prog (Except Errno (Nat × Attributes)) :=
  call (Call.openCreate path mode)

abbrev read (fd size : Nat) : Prog (Except Errno {bytes : List UInt8 // bytes.length ≤ size}) :=
  call (Call.read fd size)

abbrev write (fd : Nat) (data : List UInt8) : Prog (Except Errno (Fin (data.length + 1))) :=
  call (Call.write fd data)

abbrev unlink (path : String) : Prog (Except Errno Unit) := call (Call.unlink path)

abbrev fork : Prog (Except Errno Child) := call Call.fork

abbrev waitpid (child : Nat) : Prog (Except Errno Unit) := call (Call.waitpid child)

/-- Makes a call of which only the success counts. -/
def succeeds (c : Call) : Prog Bool := do
  match ← call c with
  | .ok _ => return true
  | .error _ => return false

/-! ## The functions of the source -/

def readFully (fd size : Nat) : Prog (Option {data : List UInt8 // data.length = size}) :=
  loop (⟨[], by simp⟩ : {data : List UInt8 // data.length ≤ size}) fun data => do
    if h : data.1.length = size then return .inr (some ⟨data.1, h⟩)
    match ← read fd (size - data.1.length) with
    | .error .EINTR => return .inl data
    | .error _ => return .inr none
    | .ok bytes =>
      if bytes.1.length = 0 then return .inr none
      return .inl ⟨data.1 ++ bytes.1, by have := bytes.2; have := data.2; grind⟩

def writeFully (fd : Nat) (data : List UInt8) : Prog Bool :=
  loop data fun rest => do
    if rest = [] then return .inr true
    match ← write fd rest with
    | .error .EINTR => return .inl rest
    | .error _ => return .inr false
    | .ok count => return .inl (rest.drop count)

def hasValidMac (path : String) : Prog Bool := do
  match ← openRead path with
  | .error _ => return false
  | .ok fd =>
    let bytes ← loop () fun _ => do
      match ← read fd 32 with
      | .error .EINTR => return .inl ()
      | .error _ => return .inr none
      | .ok bytes => return .inr (some bytes.1)
    let _ ← call (.close fd)
    match bytes with
    | none => return false
    | some buffer => return acceptsText buffer

def runVendorHelper : Prog Unit := do
  match ← fork with
  | .error _ => return ()
  | .ok child =>
    loop () fun _ => do
      match ← waitpid child.pid with
      | .error .EINTR => return .inl ()
      | _ => return .inr ()

def generateMac : Prog (Option Address) := do
  match ← openRead kRandomPath with
  | .error _ => return none
  | .ok fd =>
    let success ← readFully fd 6
    let _ ← call (.close fd)
    match success with
    | none => return none
    | some data =>
      let address : Address := fun index => data.1[index]
      return some address.administered

/-- The part of `StoreMac` in which the new file is open. -/
def writeTemporary (fd : Nat) (text : List UInt8) (uid gid : UInt32) : Prog Bool := do
  let success ← succeeds (.fchmod fd 0o660) <&&> succeeds (.fchown fd uid gid) <&&>
    writeFully fd text <&&> succeeds (.fsync fd)
  let closed ← succeeds (.close fd)
  return success && closed

def storeMac (path : String) (uid gid : UInt32) : Prog Bool := do
  match ← generateMac with
  | none => return false
  | some address =>
    let text := formatMac address
    if text.length ≠ 17 then return false
    let temporary := path ++ ".tmp"
    let removed ← unlink temporary
    if removed ≠ .ok () ∧ removed ≠ .error .ENOENT then return false
    match ← openCreate temporary 0o660 with
    | .error _ => return false
    | .ok (fd, _) =>
      if !(← writeTemporary fd text uid gid) then
        let _ ← unlink temporary
        return false
      if !(← succeeds (.rename temporary path)) then
        let _ ← unlink temporary
        return false
      return true

def ensureMac (path : String) (uid gid : UInt32) : Prog Bool :=
  hasValidMac path <||> storeMac path uid gid

/-- The first half of `main`: the vendor helper, where an address is missing. -/
def helperStep : Prog Unit := do
  if ← not <$> hasValidMac kBluetoothPath <||> not <$> hasValidMac kWifiPath then
    runVendorHelper

/-- The second half of `main`. -/
def ensureBoth : Prog Int := do
  let bluetooth_ok ← ensureMac kBluetoothPath kBluetoothUid kBluetoothGid
  let wifi_ok ← ensureMac kWifiPath kSystemUid kWifiGid
  return if bluetooth_ok && wifi_ok then 0 else 1

def main : Prog Int := do
  helperStep
  ensureBoth

end Mozart.MacAddr

import Mathlib.Data.List.AList
import Mathlib.Data.Vector.Basic
import Mathlib.Tactic

/-!
# Data Types of the Slave API

The messages and enumerations of `slave-api.proto` that the modelled code uses, the
Ethernet address type, and types of the standard library:

- `ByteArray8 n` for `[u8; n]`: a byte list that carries its length.
- `HashMap K V` for `std::collections::HashMap`: an association list without duplicate keys.

`prost` stores an enumeration field as an `i32`. Such a field is an `Int32` here where a
peer chooses its value, and the enumeration itself where only this code writes it.
-/

namespace TsnFieldbus

/-! ## Containers -/

/-- A byte array `[u8; n]`. -/
abbrev ByteArray8 (n : ℕ) := List.Vector UInt8 n

/-- A hash map: finitely many entries, at most one for each key. -/
abbrev HashMap (K V : Type) := AList (fun _ : K => V)

/-- `std::time::Instant`: nanoseconds of the monotonic clock. -/
abbrev Instant := ℕ

/-- `pnet::util::MacAddr`, six octets. -/
structure MacAddr where
  o0 : UInt8
  o1 : UInt8
  o2 : UInt8
  o3 : UInt8
  o4 : UInt8
  o5 : UInt8
deriving DecidableEq, Repr

namespace MacAddr

/-- `MacAddr::octets`. -/
def octets (m : MacAddr) : List UInt8 := [m.o0, m.o1, m.o2, m.o3, m.o4, m.o5]

@[simp] theorem length_octets (m : MacAddr) : m.octets.length = 6 := rfl

/-- `MacAddr::zero`. -/
def zero : MacAddr := ⟨0, 0, 0, 0, 0, 0⟩

end MacAddr

/-! ## Enumerations -/

/-- Lifecycle states of a slave device. -/
inductive DeviceState where
  | init
  | discoverySync
  | preOp
  | safeOp
  | op
  | error
  | shutdown
deriving DecidableEq, Repr

namespace DeviceState

/-- `DeviceState::try_from(i32)`. -/
def tryFrom (value : Int32) : Option DeviceState :=
  match value.toInt with
  | 0 => some .init
  | 1 => some .discoverySync
  | 2 => some .preOp
  | 3 => some .safeOp
  | 4 => some .op
  | 5 => some .error
  | 6 => some .shutdown
  | _ => none

end DeviceState

/-- Result codes shared by all interfaces; the discriminants skip 15. -/
inductive StatusCode where
  | noError
  | errPtpSyncLost
  | errCycleCounter
  | errDeadlineMissed
  | errStreamIdUnknown
  | errInvalidLen
  | errAppNotResponding
  | errPeripheralFault
  | errNotReady
  | errAccessDenied
  | errAuthFailed
  | errStateConflict
  | errParamInvalid
  | errNoMemory
  | errVersionMismatch
  | errNotSupported
  | errAlreadyRunning
  | errOsFailure
  | errIpConflict
  | errFrameParsing
  | errFrameWithErrorStatus
  | errSocketChannel
  | errHardwareAccess
  | errTimeout
  | errInvalidResponse
  | errInvalidEthertype
deriving DecidableEq, Repr

namespace StatusCode

/-- `status_code as u8`. -/
def toU8 : StatusCode → UInt8
  | .noError => 0
  | .errPtpSyncLost => 1
  | .errCycleCounter => 2
  | .errDeadlineMissed => 3
  | .errStreamIdUnknown => 4
  | .errInvalidLen => 5
  | .errAppNotResponding => 6
  | .errPeripheralFault => 7
  | .errNotReady => 8
  | .errAccessDenied => 9
  | .errAuthFailed => 10
  | .errStateConflict => 11
  | .errParamInvalid => 12
  | .errNoMemory => 13
  | .errVersionMismatch => 14
  | .errNotSupported => 16
  | .errAlreadyRunning => 17
  | .errOsFailure => 18
  | .errIpConflict => 19
  | .errFrameParsing => 20
  | .errFrameWithErrorStatus => 21
  | .errSocketChannel => 22
  | .errHardwareAccess => 23
  | .errTimeout => 24
  | .errInvalidResponse => 25
  | .errInvalidEthertype => 26

/-- `StatusCode::try_from(byte as i32)`. -/
def tryFromU8 (byte : UInt8) : Option StatusCode :=
  match byte.toNat with
  | 0 => some .noError
  | 1 => some .errPtpSyncLost
  | 2 => some .errCycleCounter
  | 3 => some .errDeadlineMissed
  | 4 => some .errStreamIdUnknown
  | 5 => some .errInvalidLen
  | 6 => some .errAppNotResponding
  | 7 => some .errPeripheralFault
  | 8 => some .errNotReady
  | 9 => some .errAccessDenied
  | 10 => some .errAuthFailed
  | 11 => some .errStateConflict
  | 12 => some .errParamInvalid
  | 13 => some .errNoMemory
  | 14 => some .errVersionMismatch
  | 16 => some .errNotSupported
  | 17 => some .errAlreadyRunning
  | 18 => some .errOsFailure
  | 19 => some .errIpConflict
  | 20 => some .errFrameParsing
  | 21 => some .errFrameWithErrorStatus
  | 22 => some .errSocketChannel
  | 23 => some .errHardwareAccess
  | 24 => some .errTimeout
  | 25 => some .errInvalidResponse
  | 26 => some .errInvalidEthertype
  | _ => none

/-- A status code survives its trip through one byte. -/
@[simp] theorem tryFromU8_toU8 (code : StatusCode) : tryFromU8 code.toU8 = some code := by
  cases code <;> rfl

theorem toU8_injective {a b : StatusCode} (h : a.toU8 = b.toU8) : a = b := by
  have hcode := congrArg tryFromU8 h
  rw [tryFromU8_toU8, tryFromU8_toU8] at hcode
  exact Option.some.inj hcode

end StatusCode

/-- The error of a hardware access. The hardware traits document `Ok` for success and an error
code for failure; that no implementation returns the success code as an error is assumed. -/
abbrev HardwareError := { code : StatusCode // code ≠ .noError }

/-- Clock synchronisation state. -/
inductive SyncStatus where
  | synced
  | syncing
  | syncLost
deriving DecidableEq, Repr

/-- Why a log entry was written. -/
inductive LogReason where
  | heartbeat
  | stateChange
  | statusCodeChange
  | syncStatusChange
  | missedCycle
  | temperatureChange
deriving DecidableEq, Repr

/-- Direction of a stream, seen from the process image that holds it. -/
inductive Direction where
  | input
  | output
deriving DecidableEq, Repr

namespace Direction

/-- `direction as i32`. -/
def toI32 : Direction → Int32
  | .input => 0
  | .output => 1

/-- `Direction::try_from(i32)`. -/
def tryFrom (value : Int32) : Option Direction :=
  match value.toInt with
  | 0 => some .input
  | 1 => some .output
  | _ => none

end Direction

/-- How a device got its IP address. -/
inductive IpSource where
  | unspecified
  | sdcp
  | dhcp
  | manuell
deriving DecidableEq, Repr

namespace IpSource

/-- `ip_source as i32`. -/
def toI32 : IpSource → Int32
  | .unspecified => 0
  | .sdcp => 1
  | .dhcp => 2
  | .manuell => 3

/-- `ip_source as u8`. -/
def toU8 : IpSource → UInt8
  | .unspecified => 0
  | .sdcp => 1
  | .dhcp => 2
  | .manuell => 3

/-- `IpSource::try_from(i32)`. -/
def tryFrom (value : Int32) : Option IpSource :=
  match value.toInt with
  | 0 => some .unspecified
  | 1 => some .sdcp
  | 2 => some .dhcp
  | 3 => some .manuell
  | _ => none

end IpSource

/-! ## Messages -/

/-- The stored device information (`slave_api::DeviceInfo`). -/
structure DeviceInfo where
  macAddress : List UInt8
  ipAddress : List UInt8
  ipSource : Int32
  netmask : List UInt8
  gateway : List UInt8
  vendorId : UInt32
  deviceId : UInt32
  serialNumber : UInt32
  firmwareVersion : UInt32
  capabilities : UInt32
deriving DecidableEq, Repr

/-- A bit range of a process image. -/
structure Position where
  byteOffset : UInt32
  bitOffset : UInt32
  bitLen : UInt32
deriving DecidableEq, Repr

/-- Configuration of one L2 stream. -/
structure StreamConfig where
  streamId : UInt32
  destinationMac : List UInt8
  vlanIdPcp : UInt32
  cycleTimeNano : UInt32
  direction : Int32
  streamContent : Option Position
deriving DecidableEq, Repr

/-- A variable of the process data layout. -/
structure ProcessVariable where
  name : String
  dataType : Int32
  direction : Int32
  byteOffset : UInt32
  bitOffset : UInt32
  bitLen : UInt32
deriving DecidableEq, Repr

/-- The status snapshot of a device. -/
structure DeviceStatus where
  statusCode : StatusCode
  state : DeviceState
  syncStatus : SyncStatus
  missedCycles : UInt32
  minCycleTime : UInt32
  maxCycleTime : UInt32
  temperature : Int32
  timestamp : UInt64
  receiveCycleMinNs : UInt64
  receiveCycleMaxNs : UInt64
  receiveCycleAvgNs : UInt64
  sendCycleMinNs : UInt64
  sendCycleMaxNs : UInt64
  sendCycleAvgNs : UInt64
deriving DecidableEq, Repr

/-- One entry of the status log. -/
structure LogEntryDeviceStatus where
  logReason : LogReason
  deviceStatus : DeviceStatus
deriving DecidableEq, Repr

end TsnFieldbus

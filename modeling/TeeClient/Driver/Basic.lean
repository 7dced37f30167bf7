import TeeClient.SlotType
import TeeClient.Status

/-!
# What passes between a client and its driver

The values in which a client and the driver of a trusted execution environment talk about
sessions, mapped buffers and failures.
-/

namespace TeeClient

/-- The number under which a driver knows a session. -/
abbrev Handle := UInt32

/-- A failure of a driver primitive. -/
inductive DriverFault
  /-- The session itself reported a condition; its error code says which. -/
  | infoNotification
  | trustedAppNotFound
  | permissionDenied
  | notImplemented
  | serviceBlocked
  | serviceLocked
  | serviceKilled
  | noFreeInstances
  | invalidSession (handle : Handle)
  | mappingFailed (len : Nat)
  | timeout
  /-- Anything else, in the device's words. -/
  | device (text : String)
  deriving DecidableEq, Repr

namespace DriverFault

/-- The name in listings. -/
def name : DriverFault → String
  | infoNotification => "InfoNotification"
  | trustedAppNotFound => "TrustedAppNotFound"
  | permissionDenied => "PermissionDenied"
  | notImplemented => "NotImplemented"
  | serviceBlocked => "ServiceBlocked"
  | serviceLocked => "ServiceLocked"
  | serviceKilled => "ServiceKilled"
  | noFreeInstances => "NoFreeInstances"
  | invalidSession _ => "InvalidSession"
  | mappingFailed _ => "MappingFailed"
  | timeout => "Timeout"
  | device _ => "Device"

/-- The wording. -/
def message : DriverFault → String
  | infoNotification => "Session reported an error notification"
  | trustedAppNotFound => "Trusted application not found"
  | permissionDenied => "Permission denied"
  | notImplemented => "Operation not implemented by the driver"
  | serviceBlocked => "Service blocked"
  | serviceLocked => "Service locked"
  | serviceKilled => "Service killed"
  | noFreeInstances => "No free trusted application instances"
  | invalidSession handle => s!"Invalid session handle {handle.toNat}"
  | mappingFailed len => s!"Mapping of {len} bytes failed"
  | timeout => "Timed out waiting for notification"
  | device text => "Device error: " ++ text

end DriverFault

/-! The error codes that a driver records for a session. -/

namespace ExitCode

/-- Nothing is recorded. -/
def none : Int := 0

/-- The trusted application ended normally, perhaps right after a failed open. -/
def finished : Int := 1

/-- The secure world killed the session. -/
def killed : Int := -2

/-- The secure world does not know the session. -/
def invalidSession : Int := -3

/-- The secure world knows the session as one that is over. -/
def notActive : Int := -4

end ExitCode

/-- Directions in which the secure world may use a buffer, as a set of bits. A set that comes from
outside may hold bits that mean nothing. -/
structure Access where
  /-- The bits. -/
  bits : UInt32
  deriving DecidableEq, Repr

namespace Access

/-- The secure world reads the buffer. -/
def input : Access := ⟨inputBit⟩

/-- The secure world writes the buffer. -/
def output : Access := ⟨outputBit⟩

/-- Both directions. -/
def both : Access := ⟨inputBit ||| outputBit⟩

/-- Whether every bit of `b` is in `a`. -/
def contains (a b : Access) : Bool := a.bits &&& b.bits == b.bits

/-- The bits that mean something. -/
def directionsOnly (a : Access) : Access := ⟨a.bits &&& both.bits⟩

/-- Whether the set names a direction and nothing else. -/
def isProper (a : Access) : Bool := a.bits != 0 && both.contains a

/-- The set spelled out: the names of its directions and what bits are left over. -/
def spelled (a : Access) : String :=
  let names := (if a.contains input then ["INPUT"] else [])
    ++ (if a.contains output then ["OUTPUT"] else [])
  let rest := a.bits &&& ~~~both.bits
  let names := names ++ (if rest != 0 then [Hex.marked rest.toNat] else [])
  if names.isEmpty then "0x0" else String.intercalate " | " names

end Access

/-- A piece of client memory that holds bytes of its own. -/
abbrev BufferId := Nat

/-- A position in client memory. -/
structure Address where
  /-- The piece of memory. -/
  buffer : BufferId
  /-- The distance from its start. -/
  offset : Nat
  deriving DecidableEq, Repr

/-- The answer to a mapping request. -/
structure SecureRange where
  /-- Where the buffer lies in the secure world. -/
  secureVa : UInt32
  /-- How many bytes are mapped. -/
  len : UInt32
  deriving DecidableEq, Repr

/-- The identity that a client binds to a session. -/
structure Login where
  /-- The login method. -/
  method : UInt32
  /-- The group of a group method, zero otherwise. -/
  data : UInt32
  deriving DecidableEq, Repr

/-- Where an operation is in its life. -/
inductive Progress
  | notStarted
  | started
  /-- The call returned or was cancelled. -/
  | finished
  deriving DecidableEq, Repr

/-- The name in listings. -/
def Progress.name : Progress → String
  | notStarted => "NotStarted"
  | started => "Started"
  | finished => "Finished"

end TeeClient

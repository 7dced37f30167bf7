import TeeClient.Config.Document

/-!
# Client configuration

`Config` holds the settings of a context. `Config.check` names the first setting out of range,
`Config.ofText` reads a document and checks it, `Config.load` does the same for the contents of a
file. Every setting is optional in a document and has a default.
-/

namespace TeeClient

/-- Settings of a client context. -/
structure Config where
  /-- The device this client talks to; a context accepts no name or exactly this one. -/
  deviceName : String
  /-- Upper bound on the size of a shared block. -/
  maxSharedMemorySize : Nat
  /-- How often a waiting cancellation looks again whether its operation has started. -/
  cancelPollIntervalMs : Nat
  /-- When a cancellation whose operation does not start is given up. -/
  cancelWaitLimitMs : Option Nat
  deriving DecidableEq, Repr

/-- A setting out of range. -/
inductive ConfigFault
  | emptyDeviceName
  | zeroPollInterval
  | sizeLimitTooLarge
  deriving DecidableEq, Repr

namespace ConfigFault

/-- The key of the setting. -/
def key : ConfigFault → String
  | emptyDeviceName => "device_name"
  | zeroPollInterval => "cancel_poll_interval_ms"
  | sizeLimitTooLarge => "max_shared_memory_size"

/-- What the setting must be. -/
def reason : ConfigFault → String
  | emptyDeviceName => "must not be empty"
  | zeroPollInterval => "must be at least 1"
  | sizeLimitTooLarge => "must fit in 32 bits"

/-- The wording. -/
def message (f : ConfigFault) : String := "Invalid value for " ++ f.key ++ ": " ++ f.reason

end ConfigFault

/-- Why there is no configuration. -/
inductive ConfigRejection
  /-- The file is missing or is no text in UTF-8. -/
  | unreadable
  /-- The text is no document, names an unknown key or one key twice, or has a value of the wrong
  type. -/
  | malformed
  /-- A setting is out of range. -/
  | invalid (fault : ConfigFault)
  deriving DecidableEq, Repr

namespace Config

/-- The settings in force where nothing else is said. -/
def default : Config where
  deviceName := "kaal-tee"
  maxSharedMemorySize := 1024 * 1024
  cancelPollIntervalMs := 10
  cancelWaitLimitMs := none

instance : Inhabited Config := ⟨default⟩

/-- The first setting out of range. -/
def fault? (c : Config) : Option ConfigFault :=
  if c.deviceName = "" then some .emptyDeviceName
  else if c.cancelPollIntervalMs = 0 then some .zeroPollInterval
  else if c.maxSharedMemorySize ≥ UInt32.size then some .sizeLimitTooLarge
  else none

/-- The configuration itself if every setting is in range. -/
def check (c : Config) : Except ConfigRejection Config :=
  match c.fault? with
  | some fault => .error (.invalid fault)
  | none => .ok c

/-- The configuration with one setting changed by an entry of a document. -/
def set? (c : Config) (key : String) (value : Document.Scalar) : Option Config :=
  match key, value with
  | "device_name", .text s => some { c with deviceName := s }
  | "max_shared_memory_size", .integer (.ofNat n) => some { c with maxSharedMemorySize := n }
  | "cancel_poll_interval_ms", .integer (.ofNat n) => some { c with cancelPollIntervalMs := n }
  | "cancel_wait_limit_ms", .integer (.ofNat n) => some { c with cancelWaitLimitMs := some n }
  | _, _ => none

/-- The defaults changed by the entries of a document, no key twice. -/
def ofEntries? (entries : List (String × Document.Scalar)) : Option Config :=
  if (entries.map Prod.fst).Nodup then
    entries.foldlM (fun c entry => c.set? entry.1 entry.2) default
  else none

/-- Read a document and check its settings. -/
def ofText (s : String) : Except ConfigRejection Config :=
  match (Document.read? s).bind ofEntries? with
  | none => .error .malformed
  | some c => c.check

/-- Read the contents of a configuration file, `none` standing for a file that is missing. -/
def load (contents : Option Bytes) : Except ConfigRejection Config :=
  match contents.bind fun b => String.fromUTF8? ⟨b.toArray⟩ with
  | none => .error .unreadable
  | some s => ofText s

end Config

end TeeClient

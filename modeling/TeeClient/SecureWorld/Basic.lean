import TeeClient.Driver
import TeeClient.SecureWorld.Mapping

/-!
# The state of a simulated secure world

`SecureWorld κ` stands in for a device and the trusted applications behind it. Each session has a
worker with an instance of its application; mapped buffers are known by their address in the secure
world; faults can be armed to make primitives fail, to replace the result words of the next run, or
to report an error code after it.
-/

namespace TeeClient

/-- What a worker tells a waiting client about a request it served. -/
inductive Completion
  | served
  /-- The session has an error code to be asked for. -/
  | exited
  deriving DecidableEq, Repr

/-- The secure side of a session. -/
structure Worker (κ : Type) where
  /-- The page shared with the client. -/
  page : PageId
  /-- The application. -/
  app : App κ
  /-- The state of the instance. -/
  state : κ
  /-- The login bound to the session. -/
  login : Login
  /-- The application has not panicked. -/
  alive : Bool
  /-- Completions not yet delivered, oldest first. -/
  completions : List Completion
  /-- The last error code recorded. -/
  errorCode : Int

/-- One run of an entry point of an application. -/
structure Run where
  /-- The session. -/
  handle : Handle
  /-- The instruction that was obeyed. -/
  instruction : Instruction
  /-- The number of the session's page. -/
  pageId : PageId
  /-- The page as the run found it. -/
  page : Page
  deriving DecidableEq, Repr

/-- The faults that are armed. -/
structure ArmedFaults where
  /-- The next opening of the device fails so. -/
  openDevice : Option DriverFault
  /-- The next opening of a session fails so. -/
  openSession : Option DriverFault
  /-- So many more mappings succeed, then all fail. -/
  mapBudget : Option Nat
  /-- Every notification fails. -/
  notify : Bool
  /-- The error code that the next run ends with. -/
  exitCode : Option Int
  /-- The result words that the next run ends with. -/
  forcedResult : Option (UInt32 × UInt32)
  deriving DecidableEq, Repr

/-- How often each primitive was used. -/
structure Usage where
  deviceOpens : Nat
  deviceCloses : Nat
  opens : Nat
  closes : Nat
  maps : Nat
  unmaps : Nat
  notifies : Nat
  waits : Nat
  deriving DecidableEq, Repr

/-- A simulated secure world whose applications keep states of type `κ`. -/
structure SecureWorld (κ : Type) where
  /-- The applications installed. -/
  apps : Table Uuid (App κ)
  /-- The open sessions. -/
  sessions : Table Handle (Worker κ)
  /-- The mapped buffers. -/
  mappings : Mappings
  /-- The number of the next session. -/
  nextHandle : Handle
  /-- The address of the next mapping. -/
  nextVa : UInt32
  /-- The faults that are armed. -/
  faults : ArmedFaults
  /-- The primitives used so far. -/
  usage : Usage
  /-- The runs of entry points so far, the latest first. -/
  runs : List Run

namespace SecureWorld

variable {κ : Type}

/-- The length of a page, in whose multiples addresses are handed out. -/
def pageSize : Nat := 4096

/-- The address of the first mapping. -/
def firstVa : UInt32 := 0x00100000

/-- A secure world with the given applications, in which nothing has happened. -/
def start (apps : Table Uuid (App κ)) : SecureWorld κ where
  apps
  sessions := .empty
  mappings := .empty
  nextHandle := 1
  nextVa := firstVa
  faults := ⟨none, none, none, false, none, none⟩
  usage := ⟨0, 0, 0, 0, 0, 0, 0, 0⟩
  runs := []

/-- Count the use of a primitive. -/
def count (w : SecureWorld κ) (f : Usage → Usage) : SecureWorld κ :=
  { w with usage := f w.usage }

/-- How many buffers are mapped. -/
def liveMappings (w : SecureWorld κ) : Nat := w.mappings.size

/-- How many sessions are open. -/
def openSessions (w : SecureWorld κ) : Nat := w.sessions.size

/-- Change the worker of a session. -/
def onWorker (w : SecureWorld κ) (handle : Handle) (f : Worker κ → Worker κ) : SecureWorld κ :=
  { w with sessions := w.sessions.modify handle f }

end SecureWorld

end TeeClient

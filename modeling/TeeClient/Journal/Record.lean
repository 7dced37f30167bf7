import TeeClient.Config
import TeeClient.Direction
import TeeClient.Page
import TeeClient.Uuid.Text

/-!
# Log records

What the library has to say about its own work. A `Record` is the occasion; `Record.level` and
`Record.message` give its severity and its wording.
-/

namespace TeeClient

/-- Severity of a log record, most severe first. -/
inductive Level
  | error
  | warn
  | info
  | debug
  | trace
  deriving DecidableEq, Repr

namespace Level

/-- The place in the order of severity; zero is the most severe. -/
def rank : Level → Nat
  | error => 0
  | warn => 1
  | info => 2
  | debug => 3
  | trace => 4

/-- The name in listings. -/
def name : Level → String
  | error => "error"
  | warn => "warn"
  | info => "info"
  | debug => "debug"
  | trace => "trace"

/-- Whether a record of severity `l` shows where the least severity shown is `threshold`. -/
def shownAt (l threshold : Level) : Bool := l.rank ≤ threshold.rank

end Level

/-- An occasion for a log record. -/
inductive Record
  -- contexts
  | configRejected (fault : ConfigFault)
  | deviceUnknown (name deviceName : String)
  | deviceNotOpened (deviceName : String) (error : DriverFault)
  | contextInitialized (deviceName : String)
  | deviceNotClosed (deviceName : String) (error : DriverFault)
  | contextFinalized (deviceName : String)
  -- shared blocks
  | registrationRefused (size limit : Nat)
  | allocationRefused (size limit : Nat)
  | blockRegistered (id size : Nat)
  | blockAllocated (id size : Nat)
  | blockReleasedTwice (id : Nat)
  | blockReleased (id : Nat)
  -- sessions
  | loginUnsupported (method : UInt32)
  | openFailed (error : DriverFault)
  | sessionOpened (handle : Handle) (destination : Uuid)
  | openRejected (handle : Handle) (failure : Failure)
  | closeCommandFailed (handle : Handle) (failure : Failure)
  | driverCloseFailed (handle : Handle) (error : DriverFault)
  | sessionClosed (handle : Handle)
  -- cancellation
  | neverStarted
  | alreadyFinished
  | sessionGone
  | cancellationDropped (handle : Handle)
  | wakeFailed (handle : Handle) (error : DriverFault)
  | cancellationSignalled (handle : Handle)
  -- parameters
  | oversize (slot : Nat) (size : Nat)
  | notGranted (slot : Nat) (direction : Direction) (flags : Access)
  | outOfBounds (slot : Nat) (offset size limit : Nat)
  | mappingFailed (slot : Nat) (len : Nat) (error : DriverFault)
  | mapped (slot : Nat) (len : Nat) (secureVa : UInt32)
  | unmapFailed (slot : Nat) (error : DriverFault)
  | markerMismatch (slot : Nat)
  -- calls
  | cancelledWhileFilling
  | published (instruction : Instruction) (command : UInt32) (mapped : Nat)
  | notifyFailed (handle : Handle) (error : DriverFault)
  | waitFailed (handle : Handle) (error : DriverFault)
  | errorCodeUnavailable (handle : Handle) (error : DriverFault)
  | applicationFinished (handle : Handle)
  | applicationKilled (handle : Handle)
  | sessionUnknown (handle : Handle) (code : Int)
  | applicationDied (handle : Handle) (code : Int)
  | inconsistentResult (origin status : UInt32)
  | callFailed (handle : Handle) (instruction : Instruction) (failure : Failure)
  -- the simulated device
  | simulationOpened (handle : Handle) (destination : Uuid)
  | simulationClosed (handle : Handle)
  | workerPanicked (handle : Handle)
  | instructionUnknown (instruction : UInt32)
  deriving DecidableEq, Repr

namespace Record

/-- The severity of a record. -/
def level : Record → Level
  | configRejected .. | deviceNotOpened .. | openFailed .. | mappingFailed .. | unmapFailed ..
  | notifyFailed .. | waitFailed .. | errorCodeUnavailable .. | sessionUnknown ..
  | inconsistentResult .. => .error
  | deviceUnknown .. | deviceNotClosed .. | registrationRefused .. | allocationRefused ..
  | blockReleasedTwice .. | loginUnsupported .. | openRejected .. | closeCommandFailed ..
  | driverCloseFailed .. | wakeFailed .. | oversize .. | notGranted .. | outOfBounds ..
  | markerMismatch .. | applicationKilled .. | applicationDied .. | callFailed ..
  | workerPanicked .. | instructionUnknown .. => .warn
  | contextInitialized .. | contextFinalized .. | sessionOpened .. | sessionClosed .. => .info
  | blockRegistered .. | blockAllocated .. | blockReleased .. | neverStarted | alreadyFinished
  | sessionGone | cancellationDropped .. | cancellationSignalled .. | cancelledWhileFilling
  | applicationFinished .. | simulationOpened .. | simulationClosed .. => .debug
  | mapped .. | published .. => .trace

/-- The wording of a record. -/
def message : Record → String
  | configRejected fault => "rejecting client configuration: " ++ fault.message
  | deviceUnknown name deviceName => "unknown TEE '" ++ name ++ "' (have '" ++ deviceName ++ "')"
  | deviceNotOpened deviceName error => "cannot open " ++ deviceName ++ ": " ++ error.message
  | contextInitialized deviceName => "context initialized on " ++ deviceName
  | deviceNotClosed deviceName error => "closing " ++ deviceName ++ " failed: " ++ error.message
  | contextFinalized deviceName => "context on " ++ deviceName ++ " finalized"
  | registrationRefused size limit => s!"refusing to register {size} bytes (limit {limit})"
  | allocationRefused size limit => s!"refusing to allocate {size} bytes (limit {limit})"
  | blockRegistered id size => s!"registered shared memory block {id} ({size} bytes)"
  | blockAllocated id size => s!"allocated shared memory block {id} ({size} bytes)"
  | blockReleasedTwice id => s!"shared memory block {id} released twice"
  | blockReleased id => s!"released shared memory block {id}"
  | loginUnsupported method => "unsupported login method " ++ Hex.marked method.toNat
  | openFailed error => "driver failed to open session: " ++ error.message
  | sessionOpened handle destination => s!"session {handle}: opened to " ++ destination.text
  | openRejected handle failure => s!"session {handle}: open rejected: " ++ failure.message
  | closeCommandFailed handle failure =>
    s!"session {handle}: close command failed: " ++ failure.message
  | driverCloseFailed handle error => s!"session {handle}: driver close failed: " ++ error.message
  | sessionClosed handle => s!"session {handle}: closed"
  | neverStarted => "operation never started, giving up cancellation"
  | alreadyFinished => "operation already finished, nothing to cancel"
  | sessionGone => "session gone before cancellation could be signalled"
  | cancellationDropped handle => s!"session {handle}: inactive, cancellation dropped"
  | wakeFailed handle error =>
    s!"session {handle}: cancellation notify failed: " ++ error.message
  | cancellationSignalled handle => s!"session {handle}: cancellation signalled"
  | oversize slot size => s!"slot {slot}: {size} bytes do not fit the wire format"
  | notGranted slot direction flags =>
    s!"slot {slot}: " ++ direction.name ++ " reference into a SharedMemoryFlags(" ++ flags.spelled
      ++ ") block"
  | outOfBounds slot offset size limit =>
    s!"slot {slot}: window {offset}+{size} exceeds block of {limit} bytes"
  | mappingFailed slot len error =>
    s!"slot {slot}: mapping {len} bytes failed: " ++ error.message
  | mapped slot len secureVa =>
    s!"slot {slot}: mapped {len} bytes at secure va " ++ Hex.marked secureVa.toNat
  | unmapFailed slot error => s!"slot {slot}: unmap failed: " ++ error.message
  | markerMismatch slot => s!"slot {slot}: mapping marker does not match the mapping table"
  | cancelledWhileFilling => "operation cancelled while marshaling"
  | published instruction command count =>
    instruction.name ++ " " ++ Hex.marked command.toNat
      ++ s!": published, {count} buffer(s) mapped"
  | notifyFailed handle error => s!"session {handle}: notify failed: " ++ error.message
  | waitFailed handle error => s!"session {handle}: wait failed: " ++ error.message
  | errorCodeUnavailable handle error =>
    s!"session {handle}: error code unavailable: " ++ error.message
  | applicationFinished handle => s!"session {handle}: trusted application finished"
  | applicationKilled handle => s!"session {handle}: trusted application killed"
  | sessionUnknown handle code =>
    s!"session {handle}: driver no longer knows the session ({code})"
  | applicationDied handle code => s!"session {handle}: trusted application died ({code})"
  | inconsistentResult origin status =>
    "inconsistent result: origin " ++ Hex.marked origin.toNat ++ ", status " ++ Hex.word status
  | callFailed handle instruction failure =>
    s!"session {handle}: " ++ instruction.name ++ " failed (" ++ failure.message
      ++ "), closing session"
  | simulationOpened handle destination =>
    s!"mock: opened session {handle} to " ++ destination.text
  | simulationClosed handle => s!"mock: closed session {handle}"
  | workerPanicked handle => s!"mock: worker of session {handle} panicked"
  | instructionUnknown instruction => s!"mock: unknown instruction {instruction}"

end Record

end TeeClient

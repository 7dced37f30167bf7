import TeeClient.Bench.DeviceSteps
import TeeClient.Client
import TeeClient.Recorder

/-!
# Steps of a client program

What a client program of a scenario can do, and how each step is answered.
-/

namespace TeeClient.Bench

/-- Where the settings of a context come from. -/
inductive Setup
  /-- The defaults. -/
  | default
  /-- A configuration document. -/
  | document (text : String)
  /-- Given as they are. -/
  | settings (config : Config)

/-- A step of a client program. -/
inductive ScenarioStep
  | openContext (context : String) (name : Option String) (setup : Setup)
  | closeContext (context : String)
  | allocate (context block : String) (size : Nat) (flags : Access)
  | register (context block : String) (data : Bytes) (flags : Access)
  | write (block : String) (offset : Nat) (data : Bytes)
  | read (block : String)
  /-- Release a block, or none. -/
  | release (block : Option String)
  /-- Count the blocks of a context and the sessions of the driver. -/
  | counts (context : String)
  | openSession (context session : String) (destination : Uuid)
      (login : UInt32 × Option UInt32) (operation : Option String)
  | invoke (session : String) (command : UInt32) (operation : Option String)
  /-- Look at a session. -/
  | session (session : String)
  /-- Close a session, or none. -/
  | closeSession (session : Option String)
  | newOperation (operation : String) (params : Slots ParameterSpec)
  /-- Look at an operation. -/
  | operation (operation : String)
  /-- Look at one slot of an operation. -/
  | parameter (operation : String) (slot : Nat)
  | dropOperation (operation : String)
  /-- Name a cancellation token of an operation. -/
  | token (token operation : String)
  | progress (token : String)
  /-- Cancel with the wait limit of a context, or else with the limit given here. -/
  | cancel (token : String) (context : Option String) (limit : Option Nat)
  | fault (fault : FaultStep)
  | override (o : Override)
  | hook (h : Hook)
  | stats
  | listSession (session : String)
  | listBlock (block : String)
  | listToken (token : String)
  | listOperation (operation : String)
  | listContext (context : String)
  /-- A step that means nothing. -/
  | unknown

/-- A parameter as it is shown. -/
structure ParameterInfo where
  type : SlotType
  value : Option (UInt32 × UInt32)
  size : Option Nat
  /-- The direction of a temporary reference. -/
  direction : Option Direction
  /-- The buffer of a temporary reference. -/
  data : Option Bytes

/-- An operation as it is shown. -/
structure OperationInfo where
  progress : Progress
  origin : Option Origin
  types : UInt32
  params : List ParameterInfo

/-- The answer to a step. -/
inductive ScenarioAnswer
  /-- The step names what is not there, or breaks a rule of ownership. -/
  | refused
  | done
  | failed (failure : Failure)
  | configFailed (error : ConfigRejection)
  | config (config : Config)
  | block (size : Nat) (flags : Access) (allocated : Bool)
  | bytes (data : Bytes)
  | counts (registered allocated openSessions : Nat)
  | opened (handle : Handle) (active : Bool)
  | invoked (result : Except Failure Origin) (active : Bool) (operation : Option OperationInfo)
  | session (handle : Handle) (active : Bool) (device : String)
  | operation (info : OperationInfo)
  | parameter (info : ParameterInfo)
  | noSuchSlot
  | buffers (data : List (Option Bytes))
  | progress (progress : Progress)
  | stats (stats : Stats)
  | text (s : String)

end TeeClient.Bench

import TeeClient.Driver.Basic

/-!
# Connection methods

The identity that a client presents when it opens a session, in the client's own terms.
`ConnectionMethod.ofRaw` reads it from a method word and an optional group.
-/

namespace TeeClient

/-- Identity presented when a session is opened. -/
inductive ConnectionMethod
  | everyone
  | user
  /-- Membership of a group. -/
  | group (id : UInt32)
  | application
  | userApplication
  /-- The application's identity and membership of a group. -/
  | groupApplication (id : UInt32)
  deriving DecidableEq, Repr

/-- Why a method word and a group do not make a connection method. -/
inductive ConnectionFault
  /-- The method is unknown. -/
  | unsupported (method : UInt32)
  /-- A group method comes without a group. -/
  | groupMissing
  deriving DecidableEq, Repr

/-- The failure that a caller sees. -/
def ConnectionFault.failure : ConnectionFault → Failure
  | unsupported _ => .api .notImplemented
  | groupMissing => .api .badParameters

namespace ConnectionMethod

/-- Read a method word and an optional group. A method without a group ignores it. -/
def ofRaw (method : UInt32) (data : Option UInt32) : Except ConnectionFault ConnectionMethod :=
  match method.toNat, data with
  | 0, _ => .ok .everyone
  | 1, _ => .ok .user
  | 2, some id => .ok (.group id)
  | 2, none => .error .groupMissing
  | 4, _ => .ok .application
  | 5, _ => .ok .userApplication
  | 6, some id => .ok (.groupApplication id)
  | 6, none => .error .groupMissing
  | _, _ => .error (.unsupported method)

/-- What is bound to the session. -/
def login : ConnectionMethod → Login
  | everyone => ⟨0, 0⟩
  | user => ⟨1, 0⟩
  | group id => ⟨2, id⟩
  | application => ⟨4, 0⟩
  | userApplication => ⟨5, 0⟩
  | groupApplication id => ⟨6, id⟩

/-- The name in listings. -/
def name : ConnectionMethod → String
  | everyone => "Public"
  | user => "User"
  | group _ => "Group"
  | application => "Application"
  | userApplication => "UserApplication"
  | groupApplication _ => "GroupApplication"

end ConnectionMethod

end TeeClient

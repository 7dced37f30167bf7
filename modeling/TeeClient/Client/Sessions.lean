import TeeClient.Client.Operations

/-!
# Sessions and cancellation

Opening sessions, invoking commands on them and closing them, with operations by name; and the
tokens through which an operation is cancelled.
-/

namespace TeeClient.Client

variable {σ : Type} (D : Driver σ)

/-- Open a session in a context. The login is checked before the operation. -/
def openSession (c : Client σ) (context session : String) (destination : Uuid)
    (login : UInt32 × Option UInt32) (operation : Option String) :
    Option (Except Failure ChannelId × Client σ) :=
  if !c.contexts.contains context || c.sessions.contains session then none
  else match c.operation? operation with
  | none => none
  | some op =>
    match ConnectionMethod.ofRaw login.1 login.2 with
    | .error fault =>
      let c := match fault with
        | .unsupported method => c.log (.loginUnsupported method)
        | .groupMissing => c
      some (.error fault.failure, c)
    | .ok method =>
      let opening := c.world.openSession D destination method op
      let c := { c with world := opening.world }.keepOperation operation opening.operation
      match opening.result with
      | .error failure => some (.error failure, c)
      | .ok channel =>
        some (.ok channel, { c with sessions := c.sessions.set session ⟨context, channel⟩ })

/-- Invoke a command on a session. -/
def invoke (c : Client σ) (session : String) (command : UInt32) (operation : Option String) :
    Option (Except Failure Origin × Client σ) :=
  match c.sessions.get? session, c.operation? operation with
  | some s, some op =>
    let e := c.world.invoke D s.channel command op
    some (e.result, { c with world := e.world }.keepOperation operation e.operation)
  | _, _ => none

/-- Close a session. -/
def closeSession (c : Client σ) (session : String) : Option (Client σ) :=
  match c.sessions.get? session with
  | none => none
  | some s =>
    some { c with
      world := c.world.closeSession D s.channel
      sessions := c.sessions.erase session }

/-- Name a cancellation token of an operation. A name in use goes over to the new token. -/
def nameToken (c : Client σ) (token operation : String) : Option (Client σ) :=
  (c.operations.get? operation).map fun op =>
    { c with world := { c.world with tokens := c.world.tokens.set token op.lifecycle } }

/-- Where the operation of a token is in its life. -/
def progressOf? (c : Client σ) (token : String) : Option Progress :=
  (c.world.tokens.get? token).map c.world.progress

/-- Cancel the operation of a token. Without a limit the request waits for the operation to start,
which no one else would do for a client alone. -/
def cancel (c : Client σ) (token : String) (limited : Bool) : Option (Client σ) :=
  match c.world.tokens.get? token with
  | none => none
  | some lifecycle =>
    if !limited && c.world.progress lifecycle == .notStarted then none
    else some { c with world := c.world.cancelCall D lifecycle }

end TeeClient.Client

import TeeClient.Call
import TeeClient.Connection

/-!
# Sessions

Opening a session with a trusted application, invoking commands on it and closing it. A session is
active from the moment the driver opens it until it is closed at the driver; a session that is not
active refuses every call without touching anything.
-/

namespace TeeClient

/-- The failure that a caller sees when the driver does not open a session. -/
def DriverFault.openFailure : DriverFault → Failure
  | trustedAppNotFound => .comms .itemNotFound
  | permissionDenied => .comms .accessDenied
  | notImplemented => .comms .notImplemented
  | noFreeInstances => .comms .busy
  | serviceBlocked => ⟨.sdBlocked, .tee⟩
  | serviceLocked => ⟨.taLocked, .tee⟩
  | serviceKilled => ⟨.targetKilled, .tee⟩
  | _ => .comms .generic

/-- Whether a refusal to open a session has no failure of its own and is reported. -/
def DriverFault.openIsUnclassified (e : DriverFault) : Bool :=
  e.openFailure == .comms .generic

/-- How an attempt to open a session ended. -/
structure Opening (σ : Type) where
  /-- The session, or the failure. -/
  result : Except Failure ChannelId
  /-- The operation as the attempt left it. -/
  operation : Option Operation
  /-- The world after the attempt. -/
  world : World σ

namespace World

variable {σ : Type}

/-- Forget a page. -/
def freePage (id : PageId) (w : World σ) : World σ := { w with pages := w.pages.erase id }

/-- Forget a session and its page. -/
def forget (id : ChannelId) (w : World σ) : World σ :=
  match w.channels.get? id with
  | none => w
  | some channel => { w.freePage channel.page with channels := w.channels.erase id }

variable (D : Driver σ)

/-- Open a session and run the open entry point of the application, with an operation if one is
given. If either fails, no session is left. -/
def openSession (destination : Uuid) (method : ConnectionMethod) (op : Option Operation)
    (w : World σ) : Opening σ :=
  let page := w.pages.fresh
  let w := { w with pages := w.pages.add (Page.blank.setDestination destination) }
  match w.onDesk D (D.openSession destination method.login page) with
  | (.error e, w) =>
    let w := if e.openIsUnclassified then w.log (.openFailed e) else w
    ⟨.error e.openFailure, op, w.freePage page⟩
  | (.ok handle, w) =>
    -- the session is known before its entry point runs: a cancellation may need it
    let id := w.channels.fresh
    let channel : Channel := ⟨handle, page, true⟩
    let e := Call.carry D id channel .openSession 0 op { w with channels := w.channels.add channel }
    match e.result with
    | .ok _ => ⟨.ok id, e.operation, e.world.log (.sessionOpened handle destination)⟩
    | .error failure =>
      let w := (e.world.log (.openRejected handle failure)).teardown D id
      ⟨.error failure, e.operation, (w.log (.sessionClosed handle)).forget id⟩

/-- Invoke a command on a session, with an operation if one is given. -/
def invoke (id : ChannelId) (command : UInt32) (op : Option Operation) (w : World σ) : Call.End σ :=
  match w.channels.get? id with
  | none => ⟨.error (.api .badState), op, w⟩
  | some channel =>
    if channel.active then Call.carry D id channel .invokeCommand command op w
    else ⟨.error (.api .badState), op, w⟩

/-- Close a session. On one that is still active the close entry point of the application runs
first; what goes wrong on the way is only reported. -/
def closeSession (id : ChannelId) (w : World σ) : World σ :=
  match w.channels.get? id with
  | none => w
  | some channel =>
    let w :=
      if channel.active then
        let e := Call.carry D id channel .closeSession 0 none w
        let w := match e.result with
          | .ok _ => e.world
          | .error failure => e.world.log (.closeCommandFailed channel.handle failure)
        w.teardown D id
      else w
    (w.log (.sessionClosed channel.handle)).forget id

end World

end TeeClient

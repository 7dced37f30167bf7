import TeeClient.Driver
import TeeClient.Operation

/-!
# The world of a client

`World σ` is what the client library and a driver with state `σ` change while they work: what the
driver may touch, and beside it the open sessions, the operations' lifecycles and the names of
cancellation tokens, which only the library changes.

`World.settle` runs what a primitive replies and has the cancellations answered that it asks for on
the way. A cancellation that is due notifies the session, which may ask for further ones:
`World.honour` answers them all. Each request that is due ends the start of one operation, so as
many rounds suffice as operations are started.
-/

namespace TeeClient

/-- The client's end of a session. -/
structure Channel where
  /-- The driver's number for it. -/
  handle : Handle
  /-- The page it shares with the secure world. -/
  page : PageId
  /-- It can still carry calls. -/
  active : Bool
  deriving DecidableEq, Repr

/-- Everything that client and driver change while they work. -/
structure World (σ : Type) extends Shared σ where
  /-- The client's ends of the sessions in use. -/
  channels : Arena Channel
  /-- Progress and origin of the operations. -/
  lifecycles : Arena Lifecycle
  /-- The lifecycles that cancellation tokens were handed out for, by the name of the token. -/
  tokens : Table String LifecycleId

namespace World

variable {σ : Type}

/-- The world in which nothing has happened, around a driver. -/
def start (driver : σ) : World σ where
  driver := driver
  journal := []
  pages := .empty
  memory := .empty
  channels := .empty
  lifecycles := .empty
  tokens := .empty

/-- Enter a log record in the journal. -/
def log (w : World σ) (r : Record) : World σ := { w with toShared := w.toShared.log r }

/-- Change a page. -/
def onPage (w : World σ) (id : PageId) (f : Page → Page) : World σ :=
  { w with toShared := w.toShared.onPage id f }

/-- Replace what every primitive may touch. -/
def withDesk (w : World σ) (d : Desk σ) : World σ :=
  { w with toShared := w.toShared.withDesk d }

/-- Replace what the secure world may touch. -/
def withShared (w : World σ) (s : Shared σ) : World σ := { w with toShared := s }

/-- Where an operation is in its life. -/
def progress (w : World σ) (id : LifecycleId) : Progress :=
  ((w.lifecycles.get? id).getD .new).progress

/-- Change a lifecycle. -/
def onLifecycle (w : World σ) (id : LifecycleId) (f : Lifecycle → Lifecycle) : World σ :=
  { w with lifecycles := w.lifecycles.modify id f }

/-- Change a session. -/
def onChannel (w : World σ) (id : ChannelId) (f : Channel → Channel) : World σ :=
  { w with channels := w.channels.modify id f }

/-! ## What a primitive replies -/

/-- How requests to cancel are answered, by the name of a token: with the operation's progress
before and after, or with nothing if no token has that name. -/
abbrev Answers (σ : Type) := String → World σ → Option (Progress × Progress) × World σ

/-- Run a reply about a part of the world. -/
def settle {s α : Type} (answers : Answers σ) (part : World σ → s)
    (update : World σ → s → World σ) : Reply s α → World σ → α × World σ
  | .done value state, w => (value, update w state)
  | .cancel token state resume, w =>
    -- the primitive goes on with what the cancellation left of its part
    let answered := answers token (update w state)
    settle answers part update (resume answered.1 (part answered.2)) answered.2

/-- Run a primitive during which the secure world runs, with requests answered in the given way. -/
def settleShared {α : Type} (answers : Answers σ) (act : Shared σ → Reply (Shared σ) α)
    (w : World σ) : α × World σ :=
  settle answers toShared withShared (act w.toShared) w

/-! ## Cancellation -/

variable (D : Driver σ)

section Answering

variable (answers : Answers σ)

/-- Tell a session to abandon the call under way: raise the flag in its page and notify it. A
session that is no longer active is left alone. -/
def signal (id : ChannelId) (w : World σ) : World σ :=
  match w.channels.get? id with
  | none => w.log .sessionGone
  | some channel =>
    if channel.active then
      -- the flag comes first, so that the application sees it when it is woken
      let w := w.onPage channel.page (·.setCancelled true)
      let (result, w) := w.settleShared answers (D.notify .cancellation channel.handle)
      let w := match result with
        | .ok () => w
        | .error e => w.log (.wakeFailed channel.handle e)
      w.log (.cancellationSignalled channel.handle)
    else w.log (.cancellationDropped channel.handle)

/-- Cancel the call that carries an operation, without waiting for one to start. The first request
during a call signals the session that carries it; all others change nothing. -/
def cancelWith (id : LifecycleId) (w : World σ) : World σ :=
  let (outcome, after) := ((w.lifecycles.get? id).getD .new).cancel
  let w := w.onLifecycle id fun _ => after
  match outcome with
  | .tooEarly => w.log .neverStarted
  | .tooLate => w.log .alreadyFinished
  | .due (some channel) => w.signal D answers channel
  | .due none => w.log .sessionGone

/-- Carry out a request to cancel by the name of a token. -/
def honourWith : Answers σ := fun token w =>
  match w.tokens.get? token with
  | none => (none, w)
  | some id =>
    let after := w.cancelWith D answers id
    (some (w.progress id, after.progress id), after)

end Answering

/-- How many operations are started. -/
def started (w : World σ) : Nat :=
  w.lifecycles.table.entries.countP fun entry => entry.2.progress == .started

/-- Carry out requests to cancel that ask for further ones so many times over. -/
def honourWithin : Nat → Answers σ
  | 0 => honourWith D fun _ w => (none, w)
  | n + 1 => honourWith D (honourWithin n)

/-- Carry out a request to cancel by the name of a token, and what it asks for in turn. -/
def honour : Answers σ := fun token w => honourWithin D w.started token w

/-- Cancel the call that carries an operation, without waiting for one to start. -/
def cancelCall (id : LifecycleId) (w : World σ) : World σ := w.cancelWith D (honour D) id

/-! ## Primitives -/

/-- Run a primitive that sees the driver's state and the journal. -/
def onDesk {α : Type} (act : Desk σ → Reply (Desk σ) α) (w : World σ) : α × World σ :=
  settle (honour D) (fun w => w.desk) withDesk (act w.desk) w

/-- Run a primitive during which the secure world runs. -/
def onShared {α : Type} (act : Shared σ → Reply (Shared σ) α) (w : World σ) : α × World σ :=
  w.settleShared (honour D) act

end World

end TeeClient

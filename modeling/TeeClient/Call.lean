import TeeClient.Call.Collect
import TeeClient.Call.Exchange
import TeeClient.Call.Publish

/-!
# Calls

A call is one round trip with the secure world: publish the request, exchange signals, collect the
result. `Call.carry` makes one on an open session. A failure of the transport or of the secure
system after the request was published takes the session down; one reported by the trusted
application does not.
-/

namespace TeeClient

variable {σ : Type} (D : Driver σ)

/-- Close a session at the driver, unless that has been done. -/
def World.teardown (id : ChannelId) (w : World σ) : World σ :=
  match w.channels.get? id with
  | none => w
  | some channel =>
    if channel.active then
      -- first of all, so that no cancellation reaches the session while it is being closed
      let w := w.onChannel id fun p => { p with active := false }
      match w.onDesk D (D.closeSession channel.handle) with
      | (.ok (), w) => w
      | (.error e, w) => w.log (.driverCloseFailed channel.handle e)
    else w

namespace Call

/-- How a call ended. -/
structure End (σ : Type) where
  /-- The layer that answered, or the failure. -/
  result : Except Failure Origin
  /-- The operation as the call left it. -/
  operation : Option Operation
  /-- The world after the call. -/
  world : World σ

/-- Make one round trip. -/
def roundTrip (id : ChannelId) (channel : Channel) (instruction : Instruction) (command : UInt32)
    (op : Option Operation) (w : World σ) : End σ :=
  match publish D channel instruction command op w with
  | (.error failure, w) => ⟨.error failure, op, w⟩
  | (.ok held, w) =>
    let (exchanged, w) := exchange D channel.handle w
    -- also after an exchange that failed: the mappings have to be given back
    let (collected, op, w) := collect D channel op held exchanged.isOk w
    match exchanged.bind fun _ => collected with
    | .ok origin => ⟨.ok origin, op, w⟩
    | .error failure =>
      if failure.breaksSession then
        ⟨.error failure, op,
          (w.log (.callFailed channel.handle instruction failure)).teardown D id⟩
      else ⟨.error failure, op, w⟩

/-- The layer that a result comes from. -/
def originOf : Except Failure Origin → Origin
  | .ok origin => origin
  | .error failure => failure.origin

/-- Carry an operation, or none, through a round trip on a session. The operation counts as started
from before the request is filled in until the result is known. -/
def carry (id : ChannelId) (channel : Channel) (instruction : Instruction) (command : UInt32)
    (op : Option Operation) (w : World σ) : End σ :=
  match op with
  | none => roundTrip D id channel instruction command none w
  | some op =>
    let w := w.onLifecycle op.lifecycle (·.begin id)
    let e := roundTrip D id channel instruction command (some op) w
    { e with world := e.world.onLifecycle op.lifecycle (·.finish (originOf e.result)) }

end Call

end TeeClient

import TeeClient.Client.Registry
import TeeClient.Session

/-!
# Clients

A `Client σ` is a program that uses the library on one driver: its contexts, sessions, operations,
shared blocks and cancellation tokens, each under a name of the program's choosing.

Ownership is respected: a block that an operation points into is neither written nor released, a
context outlives its sessions, and names are unique. A function answers `none`, and nothing happens,
where a program that keeps these rules could not make the call.
-/

namespace TeeClient

/-- A connection to a trusted execution environment. -/
structure Context where
  /-- Its settings. -/
  config : Config
  /-- The registry of its blocks. -/
  registry : RegistryId

/-- A session of a context. -/
structure Session where
  /-- The name of the context. -/
  context : String
  /-- The session itself. -/
  channel : ChannelId

/-- A program that uses the library on a driver. -/
structure Client (σ : Type) where
  /-- What client and driver share, and what the library keeps. -/
  world : World σ
  /-- The registries of shared blocks. -/
  registries : Arena Registry
  /-- The contexts by name. -/
  contexts : Table String Context
  /-- The sessions by name. -/
  sessions : Table String Session
  /-- The operations by name. -/
  operations : Table String Operation
  /-- The shared blocks by name. -/
  blocks : Table String Block

/-- What a program wants in a slot of an operation; blocks go by name. -/
inductive ParameterSpec
  | unused
  | value (direction : Direction) (a b : UInt32)
  /-- A reference to a buffer that holds these bytes. -/
  | temporary (direction : Direction) (data : Bytes)
  /-- A temporary reference without a buffer. -/
  | query (direction : Direction) (size : Nat)
  /-- A reference to a block as a whole, with a size of its own if one is given. -/
  | whole (block : String) (size : Option Nat)
  | window (direction : Direction) (block : String) (offset size : Nat)

namespace Client

variable {σ : Type}

/-- The client that has done nothing, on a driver. -/
def start (driver : σ) : Client σ where
  world := .start driver
  registries := .empty
  contexts := .empty
  sessions := .empty
  operations := .empty
  blocks := .empty

/-- Enter a log record in the journal. -/
def log (c : Client σ) (r : Record) : Client σ := { c with world := c.world.log r }

end Client

end TeeClient

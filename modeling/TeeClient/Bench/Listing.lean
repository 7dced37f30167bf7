import TeeClient.Client.Basic
import TeeClient.Text.Quoted

/-!
# Listings

One-line texts that show an object of a client with its fields. Temporary references have no
listing, because where their buffer lies is nobody's business.
-/

namespace TeeClient.Listing

/-- An object by its kind and its fields. -/
def object (kind : String) (fields : List (String × String)) : String :=
  kind ++ " \x7b " ++ String.intercalate ", " (fields.map fun f => f.1 ++ ": " ++ f.2) ++ " \x7d"

/-- A truth value. -/
def flag (b : Bool) : String := if b then "true" else "false"

/-- A session. -/
def session (channel : Channel) : String :=
  object "Session" [("id", toString channel.handle.toNat), ("active", flag channel.active)]

/-- A shared block. -/
def block (b : Block) : String :=
  object "SharedMemory" [("id", toString b.id), ("size", toString b.size),
    ("flags", "SharedMemoryFlags(" ++ b.flags.spelled ++ ")"), ("allocated", flag b.allocated)]

/-- A cancellation token. -/
def token (progress : Progress) : String :=
  object "CancellationToken" [("progress", progress.name)]

/-- A parameter; `none` for a temporary reference. -/
def parameter? : Parameter → Option String
  | .unused => some "None"
  | .value direction a b => some <| object "Value"
    [("direction", direction.name), ("a", toString a.toNat), ("b", toString b.toNat)]
  | .temporary .. => none
  | .whole parent size => some <| object "Whole"
    [("parent", block parent), ("size", toString size)]
  | .window direction parent offset size => some <| object "Partial"
    [("direction", direction.name), ("parent", block parent), ("offset", toString offset),
      ("size", toString size)]

/-- An operation; `none` if it has a temporary reference. -/
def operation? (op : Operation) (progress : Progress) : Option String :=
  (op.params.toList.mapM parameter?).map fun params =>
    object "Operation" [("params", "[" ++ String.intercalate ", " params ++ "]"),
      ("progress", progress.name)]

/-- A context with the numbers of its registered and allocated blocks. -/
def context (config : Config) (counts : Nat × Nat) : String :=
  object "Context" [("device", Quoted.text config.deviceName),
    ("registered_blocks", toString counts.1), ("allocated_blocks", toString counts.2)]

end TeeClient.Listing

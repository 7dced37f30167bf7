import TeeClient.Client.Blocks
import TeeClient.Client.Contexts
import TeeClient.Client.Sessions

/-!
# The end of a client program

Whatever a client program leaves behind is given up in a fixed order, so that no object goes before
one that needs it.
-/

namespace TeeClient.Client

variable {σ : Type} (D : Driver σ)

/-- Put a name in front of the first that comes after it. -/
def insertName (name : String) : List String → List String
  | [] => [name]
  | other :: rest => if name < other then name :: other :: rest else other :: insertName name rest

/-- Names in ascending order. -/
def ascending (names : List String) : List String := names.foldr insertName []

/-- Give up everything that is left: sessions, operations, blocks, contexts, each in ascending order
of their names. -/
def finish (c : Client σ) : Client σ :=
  let c := (ascending c.sessions.keys).foldl (fun c s => (c.closeSession D s).getD c) c
  let c := (ascending c.operations.keys).foldl
    (fun c o => ((c.dropOperation o).map Prod.snd).getD c) c
  let c := (ascending c.blocks.keys).foldl (fun c b => ((c.release b).map Prod.snd).getD c) c
  (ascending c.contexts.keys).foldl (fun c x => (c.closeContext D x).getD c) c

end TeeClient.Client

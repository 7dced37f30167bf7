import TeeClient.Parameter
import TeeClient.Table

/-!
# Registries of shared blocks

Each context keeps a `Registry` of the blocks created through it and not yet released. A registry
lives on as long as one of its blocks does, also beyond its context. `Registry.vet` says which
blocks may be created.
-/

namespace TeeClient

/-- What a registry knows of a block. -/
structure BlockEntry where
  /-- The library owns the memory. -/
  allocated : Bool
  /-- The size in bytes. -/
  size : Nat
  deriving DecidableEq, Repr

/-- The blocks of a context by number. -/
abbrev Registry := Arena BlockEntry

namespace Registry

/-- How many blocks over memory of the caller there are. -/
def registered (r : Registry) : Nat := (r.table.values.filter (!·.allocated)).length

/-- How many blocks over memory of the library there are. -/
def allocated (r : Registry) : Nat := (r.table.values.filter (·.allocated)).length

/-- Why a block cannot be created. -/
inductive Fault
  /-- The directions are none, or not only directions. -/
  | badFlags
  /-- The block would be larger than the limit. -/
  | tooLarge
  deriving DecidableEq, Repr

/-- Whether a block may be created; the directions are checked first. -/
def vet (flags : Access) (size limit : Nat) : Except Fault Unit :=
  if !flags.isProper then .error .badFlags
  else if size > limit then .error .tooLarge
  else .ok ()

end Registry

end TeeClient

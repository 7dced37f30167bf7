import TeeClient.Driver.Basic

/-!
# Directions of a parameter

A value or a memory reference goes into the secure world, comes back from it, or does both.
-/

namespace TeeClient

/-- Data flow of a parameter. -/
inductive Direction
  | input
  | output
  | inout
  deriving DecidableEq, Repr

namespace Direction

/-- The direction as a set. -/
def access : Direction → Access
  | input => .input
  | output => .output
  | inout => .both

/-- Whether the secure world receives data. -/
def reads : Direction → Bool
  | input | inout => true
  | output => false

/-- Whether the secure world reports data back. -/
def writes : Direction → Bool
  | input => false
  | output | inout => true

/-- The name in listings and messages. -/
def name : Direction → String
  | input => "Input"
  | output => "Output"
  | inout => "Inout"

end Direction

end TeeClient

import TeeClient.Bytes

/-!
# Excerpts of byte strings

Long byte strings are shown by their length, their first bytes and a checksum that depends on the
position of every byte.
-/

namespace TeeClient.Bench

/-- How a byte string is shown. -/
inductive Excerpt
  /-- In full. -/
  | full (data : Bytes)
  /-- By its length, its first bytes and its checksum. -/
  | digest (length : Nat) (head : Bytes) (sum : UInt32)
  deriving DecidableEq, Repr

namespace Excerpt

/-- The longest byte string that is shown in full. -/
def fullLimit : Nat := 128

/-- How many bytes of a longer one are shown. -/
def headLength : Nat := 32

/-- The sum of every byte times its position, counted from one, modulo 2^32. -/
def checksum (data : Bytes) : UInt32 :=
  (data.foldl (fun (acc : UInt32 × UInt32) byte => (acc.1 + acc.2 * byte.toUInt32, acc.2 + 1))
    (0, 1)).1

/-- The excerpt of a byte string. -/
def of (data : Bytes) : Excerpt :=
  if data.length ≤ fullLimit then .full data
  else .digest data.length (data.take headLength) (checksum data)

end Excerpt

end TeeClient.Bench

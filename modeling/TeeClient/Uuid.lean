import TeeClient.Bytes

/-!
# Destination identities

`Uuid` names a trusted application. It has the field layout under which the identity lies in the
page shared with the secure world, and a form of sixteen bytes in which every field is big-endian.
-/

namespace TeeClient

/-- Identity of a trusted application. -/
structure Uuid where
  /-- The first 32 bits. -/
  timeLow : UInt32
  /-- The next 16 bits. -/
  timeMid : UInt16
  /-- The next 16 bits. -/
  timeHiAndVersion : UInt16
  /-- The last eight bytes, which have no byte order. -/
  node : Vector UInt8 8
  deriving DecidableEq, Repr

namespace Uuid

/-- The identity with every bit zero. -/
def nil : Uuid := ⟨0, 0, 0, Vector.replicate 8 0⟩

instance : Inhabited Uuid := ⟨nil⟩

/-- The identity with the given sixteen big-endian bytes. -/
def ofBytes (b : Vector UInt8 16) : Uuid where
  timeLow :=
    b[0].toUInt32 <<< 24 ||| b[1].toUInt32 <<< 16 ||| b[2].toUInt32 <<< 8 ||| b[3].toUInt32
  timeMid := b[4].toUInt16 <<< 8 ||| b[5].toUInt16
  timeHiAndVersion := b[6].toUInt16 <<< 8 ||| b[7].toUInt16
  node := #v[b[8], b[9], b[10], b[11], b[12], b[13], b[14], b[15]]

/-- The sixteen big-endian bytes. -/
def toBytes (u : Uuid) : Vector UInt8 16 :=
  #v[(u.timeLow >>> 24).toUInt8, (u.timeLow >>> 16).toUInt8, (u.timeLow >>> 8).toUInt8,
    u.timeLow.toUInt8, (u.timeMid >>> 8).toUInt8, u.timeMid.toUInt8,
    (u.timeHiAndVersion >>> 8).toUInt8, u.timeHiAndVersion.toUInt8,
    u.node[0], u.node[1], u.node[2], u.node[3], u.node[4], u.node[5], u.node[6], u.node[7]]

end Uuid

end TeeClient

import TeeClient.Page

/-!
# The bytes of a page

`Page.image` is the page as it lies in memory: 4096 bytes, every word little-endian, each field at
its fixed offset, all other bytes zero. A field is put in place by overlaying it on zeros, so the
offsets alone say where it lies; that they leave the fields disjoint is a property of the table.
-/

namespace TeeClient

namespace Uuid

/-- An identity as it lies in the page: words little-endian, the last eight bytes as they are. -/
def memoryBytes (u : Uuid) : Bytes :=
  Bytes.ofWord u.timeLow ++ Bytes.ofHalf u.timeMid ++ Bytes.ofHalf u.timeHiAndVersion
    ++ u.node.toList

end Uuid

namespace SlotWords

/-- The twelve bytes of a slot. -/
def memoryBytes (w : SlotWords) : Bytes :=
  Bytes.ofWord w.word0 ++ Bytes.ofWord w.word1 ++ Bytes.ofWord w.word2

end SlotWords

namespace Page

/-- Length of a page in bytes. -/
def size : Nat := 4096

/-- Length of the part of a page that has fields. -/
def fieldsEnd : Nat := 100

/-- The word of a flag. -/
def flagWord (b : Bool) : UInt32 := if b then 1 else 0

/-- Every field as its offset and its bytes. -/
def fields (p : Page) : List (Nat × Bytes) :=
  [(0, p.tag.toList),
    (8, p.destination.memoryBytes),
    (24, Bytes.ofWord p.request.instruction),
    (28, Bytes.ofWord p.request.command),
    (32, Bytes.ofWord p.request.types),
    (36, p.request.params.slot0.memoryBytes),
    (48, p.request.params.slot1.memoryBytes),
    (60, p.request.params.slot2.memoryBytes),
    (72, p.request.params.slot3.memoryBytes),
    (84, Bytes.ofWord (flagWord p.request.cancelled)),
    (88, Bytes.ofWord (flagWord p.ready)),
    (92, Bytes.ofWord p.origin),
    (96, Bytes.ofWord p.status)]

/-- The page as it lies in memory. -/
def image (p : Page) : Bytes :=
  p.fields.foldl (fun memory field => memory.overlay field.1 field.2) (List.replicate size 0)

/-- The part of the image that has fields. -/
def head (p : Page) : Bytes := p.image.take fieldsEnd

/-- Whether the image is zero behind its fields. -/
def restIsZero (p : Page) : Bool := (p.image.drop fieldsEnd).all (· == 0)

end Page

end TeeClient

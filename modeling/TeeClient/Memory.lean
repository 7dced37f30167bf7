import TeeClient.Driver.Basic
import TeeClient.Table

/-!
# Client memory

`Memory` holds every piece of memory a client owns: the buffers behind temporary references,
registered blocks and allocated blocks. A piece never changes its length. Main statement:
`bytes_write`, which says that a write through an address reaches no other piece.
-/

namespace TeeClient

/-- The pieces of memory of a client. -/
abbrev Memory := Arena Bytes

namespace Memory

/-- The bytes of a piece; a piece that is gone has none. -/
def bytes (m : Memory) (id : BufferId) : Bytes := (m.get? id).getD []

/-- `len` bytes from an address on, or fewer if the piece ends before. -/
def read (m : Memory) (address : Address) (len : Nat) : Bytes :=
  ((m.bytes address.buffer).drop address.offset).take len

/-- Change the bytes from an address on. Nothing is written beyond the end of the piece. -/
def write (m : Memory) (address : Address) (data : Bytes) : Memory :=
  m.modify address.buffer fun old => old.overlay address.offset data

/-- A write overlays the piece it is addressed to and reaches no other. -/
theorem bytes_write (m : Memory) (address : Address) (data : Bytes) (id : BufferId) :
    (m.write address data).bytes id
      = if id = address.buffer then (m.bytes id).overlay address.offset data else m.bytes id := by
  unfold bytes write
  rw [Arena.get?_modify]
  split
  · cases m.get? id <;> simp [Bytes.overlay]
  · rfl

end Memory

end TeeClient

import TeeClient.Memory
import TeeClient.SecureWorld.App

/-!
# Mapped buffers and what an application reaches through them

`Mappings` are the buffers that the secure world can reach, each under its address there.
`Query.answer` answers what an application asks about the call it serves, from the page of the
session, the mappings and the client's memory.
-/

namespace TeeClient

/-- A buffer mapped into the secure world. -/
structure Mapping where
  /-- Where it lies in client memory. -/
  address : Address
  /-- Its length. -/
  len : Nat
  /-- What the secure world may do with it. -/
  access : Access
  deriving DecidableEq, Repr

/-- The mapped buffers by their address in the secure world. -/
abbrev Mappings := Table UInt32 Mapping

namespace Mappings

/-- At most `len` bytes of a mapped buffer. -/
def read (m : Mappings) (memory : Memory) (secureVa : UInt32) (len : Nat) : Option Bytes :=
  (m.get? secureVa).map fun mapping => memory.read mapping.address (min len mapping.len)

/-- The client's memory after a write to the start of a mapped buffer; `none` if there is no such
buffer, it may not be written, or the bytes do not fit. -/
def write (m : Mappings) (memory : Memory) (secureVa : UInt32) (data : Bytes) : Option Memory :=
  match m.get? secureVa with
  | none => none
  | some mapping =>
    if mapping.access.contains .output && data.length ≤ mapping.len then
      some (memory.write mapping.address data)
    else none

end Mappings

/-- What an application acts on while it serves a call. -/
structure Chamber where
  /-- The page of the session. -/
  page : Page
  /-- The client's memory. -/
  memory : Memory

namespace Chamber

/-- Report a produced size for a slot. -/
def reportSize (c : Chamber) (slot : Slot) (size : UInt32) : Chamber :=
  { c with page := c.page.setParam slot ((c.page.param slot).setOutputSize size) }

/-- Write to the mapped buffer of a slot. The size is reported even if the bytes do not fit. -/
def write (mappings : Mappings) (c : Chamber) (slot : Slot) (data : Bytes) :
    Except Status Unit × Chamber :=
  -- the size is reported first, whatever becomes of the bytes
  let words := c.page.param slot
  let c := c.reportSize slot data.length.toUInt32
  if data.length > words.mappedLen.toNat then (.error FailureKind.shortBuffer.code, c)
  else if data.isEmpty then (.ok (), c)
  else match mappings.write c.memory words.secureVa data with
    | some memory => (.ok (), { c with memory })
    | none => (.error FailureKind.accessDenied.code, c)

end Chamber

/-- The answer to a query, and what the application acts on afterwards; `none` if the query names a
slot that does not exist. -/
def Query.answer (mappings : Mappings) (login : Login) :
    (q : Query) → Chamber → Option (q.Answer × Chamber)
  | .paramType slot, c => (Slot.ofNat? slot).map fun i =>
    (((SlotType.at? c.page.request.types i).elim (.error FailureKind.badParameters.code) .ok :
      Except Status SlotType), c)
  | .value slot, c => (Slot.ofNat? slot).map fun i => (((c.page.param i).a, (c.page.param i).b), c)
  | .setValue slot a b, c => (Slot.ofNat? slot).map fun i =>
    ((), { c with page := c.page.setParam i (.value a b) })
  | .capacity slot, c => (Slot.ofNat? slot).map fun i => ((c.page.param i).outputSize, c)
  | .isMapped slot, c => (Slot.ofNat? slot).map fun i => ((c.page.param i).mappedLen != 0, c)
  | .read slot, c => (Slot.ofNat? slot).map fun i =>
    let words := c.page.param i
    ((if words.mappedLen = 0 then none
      else mappings.read c.memory words.secureVa words.mappedLen.toNat : Option Bytes), c)
  | .write slot data, c => (Slot.ofNat? slot).map fun i => c.write mappings i data
  | .setOutputSize slot size, c => (Slot.ofNat? slot).map fun i => ((), c.reportSize i size)
  | .isCancelled, c => some (c.page.request.cancelled, c)
  | .login, c => some (login, c)
  | .destination, c => some (c.page.destination, c)

end TeeClient

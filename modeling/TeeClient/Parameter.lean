import TeeClient.Direction
import TeeClient.Page

/-!
# Shared blocks and parameters

A `Block` is memory that a client shares with trusted applications over several calls; a `Parameter`
is what one of the four slots of an operation holds. A memory reference keeps a size next to its
buffer: before a call the size declared, after it the size that the application produced, which may
exceed the buffer.
-/

namespace TeeClient

/-- The number of the registry that a context keeps of its blocks. -/
abbrev RegistryId := Nat

/-- A block of memory shared with trusted applications. -/
structure Block where
  /-- The registry the block is entered in. -/
  registry : RegistryId
  /-- The number under which it is entered. -/
  id : Nat
  /-- Its memory; an allocated block of size zero has none. -/
  buffer : Option BufferId
  /-- Its size in bytes. -/
  size : Nat
  /-- The directions in which it may be used. -/
  flags : Access
  /-- The library owns the memory, not the caller. -/
  allocated : Bool
  deriving DecidableEq, Repr

/-- What a slot of an operation holds. -/
inductive Parameter
  /-- Nothing. -/
  | unused
  /-- A pair of words. -/
  | value (direction : Direction) (a b : UInt32)
  /-- A buffer lent for one call. Without a buffer it asks the application what size it needs. -/
  | temporary (direction : Direction) (buffer : Option BufferId) (size : Nat)
  /-- A block as a whole, used in the directions of the block. -/
  | whole (parent : Block) (size : Nat)
  /-- The bytes of a block from `offset` on, `size` of them. -/
  | window (direction : Direction) (parent : Block) (offset size : Nat)
  deriving DecidableEq, Repr

namespace Parameter

instance : Inhabited Parameter := ⟨unused⟩

/-- The type of the slot as the client sees it. -/
def type : Parameter → SlotType
  | unused => .none
  | value .input .. => .valueInput
  | value .output .. => .valueOutput
  | value .inout .. => .valueInout
  | temporary .input .. => .tempInput
  | temporary .output .. => .tempOutput
  | temporary .inout .. => .tempInout
  | whole .. => .whole
  | window .input .. => .partialInput
  | window .output .. => .partialOutput
  | window .inout .. => .partialInout

/-- The type of the slot as it is sent: a whole block goes as a window in the block's directions. -/
def sentType : Parameter → SlotType
  | whole parent _ => .ofAccess parent.flags.bits
  | p => p.type

/-- The pair of a value parameter. -/
def value? : Parameter → Option (UInt32 × UInt32)
  | value _ a b => some (a, b)
  | _ => none

/-- The size of a memory reference. -/
def size? : Parameter → Option Nat
  | temporary _ _ size => some size
  | whole _ size => some size
  | window _ _ _ size => some size
  | _ => none

/-- The direction of a temporary reference. -/
def temporaryDirection? : Parameter → Option Direction
  | temporary direction .. => some direction
  | _ => none

/-- The buffer of a temporary reference. -/
def temporaryBuffer? : Parameter → Option BufferId
  | temporary _ buffer _ => buffer
  | _ => none

/-- The block that a reference points into. -/
def parent? : Parameter → Option Block
  | whole parent _ => some parent
  | window _ parent _ _ => some parent
  | _ => none

/-- Whether the secure world reports data back through the slot. -/
def writesBack : Parameter → Bool
  | unused => false
  | value direction .. => direction.writes
  | temporary direction .. => direction.writes
  | whole parent _ => parent.flags.contains .output
  | window direction .. => direction.writes

/-- The slot after a call that left these words in it. -/
def receive (words : SlotWords) : Parameter → Parameter
  | unused => unused
  | value direction _ _ => value direction words.a words.b
  | temporary direction buffer _ => temporary direction buffer words.outputSize.toNat
  | whole parent _ => whole parent words.outputSize.toNat
  | window direction parent offset _ => window direction parent offset words.outputSize.toNat

end Parameter

end TeeClient

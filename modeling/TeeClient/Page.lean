import TeeClient.SlotType
import TeeClient.Uuid

/-!
# The page shared with the secure world

Each session has one `Page`. The client fills in a request (`Request`: instruction, command, types
and four parameter slots) and sets `ready` last; the secure world consumes `ready`, serves the
request and leaves two result words. Either side may look at `cancelled` in between.

The page is held here as its fields. `TeeClient.Page.Image` gives its bytes.
-/

namespace TeeClient

/-- Three words of a parameter slot: a pair of values, or the description of a mapped buffer. Which
of the two it is, the slot's type says. -/
structure SlotWords where
  /-- The first value, or the address in the secure world. -/
  word0 : UInt32
  /-- The second value, or the mapped length. -/
  word1 : UInt32
  /-- The size of the buffer. -/
  word2 : UInt32
  deriving DecidableEq, Repr

namespace SlotWords

/-- All words zero. -/
def zero : SlotWords := ⟨0, 0, 0⟩

instance : Inhabited SlotWords := ⟨zero⟩

/-- A pair of values. -/
def value (a b : UInt32) : SlotWords := ⟨a, b, 0⟩

/-- The description of a mapped buffer. -/
def memref (secureVa mappedLen outputSize : UInt32) : SlotWords := ⟨secureVa, mappedLen, outputSize⟩

/-- The first value. -/
def a (p : SlotWords) : UInt32 := p.word0

/-- The second value. -/
def b (p : SlotWords) : UInt32 := p.word1

/-- Where the buffer lies in the secure world. -/
def secureVa (p : SlotWords) : UInt32 := p.word0

/-- How many bytes are mapped; zero when the client mapped no buffer. -/
def mappedLen (p : SlotWords) : UInt32 := p.word1

/-- The declared size of the buffer before the call and the produced size after it. -/
def outputSize (p : SlotWords) : UInt32 := p.word2

/-- The slot with another produced size. -/
def setOutputSize (p : SlotWords) (size : UInt32) : SlotWords := { p with word2 := size }

end SlotWords

/-- What a request asks the secure world to do. -/
inductive Instruction
  /-- Run the open entry point of the application. -/
  | openSession
  /-- Run a command. -/
  | invokeCommand
  /-- Run the close entry point. -/
  | closeSession
  deriving DecidableEq, Repr

namespace Instruction

/-- The word of an instruction. -/
def raw : Instruction → UInt32
  | openSession => 1
  | invokeCommand => 2
  | closeSession => 3

/-- The instruction of a word. -/
def ofRaw? (raw : UInt32) : Option Instruction :=
  match raw.toNat with
  | 1 => some openSession
  | 2 => some invokeCommand
  | 3 => some closeSession
  | _ => none

/-- The name in listings and messages. -/
def name : Instruction → String
  | openSession => "OpenSession"
  | invokeCommand => "InvokeCommand"
  | closeSession => "CloseSession"

end Instruction

/-- The request of one call. -/
structure Request where
  /-- The word of the instruction. -/
  instruction : UInt32
  /-- The number of the command. -/
  command : UInt32
  /-- The types of the four slots. -/
  types : UInt32
  /-- The four slots. -/
  params : Slots SlotWords
  /-- The client wants the call abandoned. -/
  cancelled : Bool
  deriving DecidableEq, Repr

/-- The request with every field zero. -/
def Request.zero : Request := ⟨0, 0, 0, .replicate .zero, false⟩

/-- The page shared by a session and the secure world. -/
structure Page where
  /-- Marker of the format. -/
  tag : Vector UInt8 8
  /-- The trusted application the session is with. -/
  destination : Uuid
  /-- The request. -/
  request : Request
  /-- The request is published and not yet consumed. -/
  ready : Bool
  /-- The word of the layer that answered. -/
  origin : UInt32
  /-- The status word of the answer. -/
  status : UInt32
  deriving DecidableEq, Repr

namespace Page

/-- The page with every byte zero. -/
def blank : Page := ⟨Vector.replicate 8 0, .nil, .zero, false, 0, 0⟩

instance : Inhabited Page := ⟨blank⟩

/-- The marker of the format in use: `TCIGP000`. -/
def formatTag : Vector UInt8 8 := #v[0x54, 0x43, 0x49, 0x47, 0x50, 0x30, 0x30, 0x30]

/-- Mark the page with a format. -/
def setTag (p : Page) (tag : Vector UInt8 8) : Page := { p with tag }

/-- Name the trusted application. -/
def setDestination (p : Page) (destination : Uuid) : Page := { p with destination }

/-- Say what is asked. -/
def setInstruction (p : Page) (instruction : UInt32) : Page :=
  { p with request := { p.request with instruction } }

/-- Say which command is asked for. -/
def setCommand (p : Page) (command : UInt32) : Page :=
  { p with request := { p.request with command } }

/-- Say what the four slots hold. -/
def setTypes (p : Page) (types : UInt32) : Page :=
  { p with request := { p.request with types } }

/-- Raise or lower the cancellation flag. -/
def setCancelled (p : Page) (cancelled : Bool) : Page :=
  { p with request := { p.request with cancelled } }

/-- The three words of a slot. -/
def param (p : Page) (slot : Slot) : SlotWords := p.request.params.get slot

/-- Fill a slot. -/
def setParam (p : Page) (slot : Slot) (w : SlotWords) : Page :=
  { p with request := { p.request with params := p.request.params.put slot w } }

/-- Publish the request, or withdraw it. -/
def setReady (p : Page) (ready : Bool) : Page := { p with ready }

/-- Whether a request was published since the last such question, and the page without the mark. -/
def consumeReady (p : Page) : Bool × Page := (p.ready, { p with ready := false })

/-- Leave the two result words. -/
def setResult (p : Page) (origin status : UInt32) : Page := { p with origin, status }

/-- Zero every field of the request. -/
def clearRequest (p : Page) : Page := { p with request := .zero }

/-- A slot reads as it was filled. -/
@[simp] theorem param_setParam_self (p : Page) (slot : Slot) (w : SlotWords) :
    (p.setParam slot w).param slot = w := by
  simp [param, setParam]

/-- Filling a slot leaves the others as they are. -/
theorem param_setParam_ne (p : Page) {slot other : Slot} (w : SlotWords) (h : other ≠ slot) :
    (p.setParam slot w).param other = p.param other := by
  simp [param, setParam, Slots.get_put_ne _ _ h]

end Page

end TeeClient

import TeeClient.Client.Basic

/-!
# Building and dropping operations

An operation owns the buffers behind its temporary references; the program gets them back when it
drops the operation. What it points into otherwise are blocks, which stay where they are.
-/

namespace TeeClient.Client

variable {σ : Type}

/-- The parameter that a program wants, over memory of its own where it needs some. -/
def makeParameter (c : Client σ) : ParameterSpec → Option (Parameter × Client σ)
  | .unused => some (.unused, c)
  | .value direction a b => some (.value direction a b, c)
  | .temporary direction data =>
    some (.temporary direction (some c.world.memory.fresh) data.length,
      { c with world := { c.world with memory := c.world.memory.add data } })
  | .query direction size => some (.temporary direction none size, c)
  | .whole block size => (c.blocks.get? block).map fun b => (.whole b (size.getD b.size), c)
  | .window direction block offset size =>
    (c.blocks.get? block).map fun b => (.window direction b offset size, c)

/-- Build an operation. -/
def newOperation (c : Client σ) (operation : String) (specs : Slots ParameterSpec) :
    Option (Client σ) :=
  if c.operations.contains operation then none
  else do
    let lifecycle := c.world.lifecycles.fresh
    let c := { c with world := { c.world with lifecycles := c.world.lifecycles.add .new } }
    let (p0, c) ← c.makeParameter specs.slot0
    let (p1, c) ← c.makeParameter specs.slot1
    let (p2, c) ← c.makeParameter specs.slot2
    let (p3, c) ← c.makeParameter specs.slot3
    some { c with operations := c.operations.set operation ⟨⟨p0, p1, p2, p3⟩, lifecycle⟩ }

/-- The bytes of the buffer behind a temporary reference. -/
def temporaryBytes? (c : Client σ) (p : Parameter) : Option Bytes :=
  p.temporaryBuffer?.map c.world.memory.bytes

/-- Drop an operation. The caller gets the buffers of its temporary references back. -/
def dropOperation (c : Client σ) (operation : String) :
    Option (Slots (Option Bytes) × Client σ) :=
  match c.operations.get? operation with
  | none => none
  | some op =>
    let memory := op.params.toList.foldl
      (fun memory p => match p.temporaryBuffer? with
        | none => memory
        | some buffer => memory.erase buffer)
      c.world.memory
    some (.ofFn fun slot => c.temporaryBytes? (op.param slot),
      { c with
        world := { c.world with memory }
        operations := c.operations.erase operation })

/-- Whether no temporary reference has outgrown its buffer. -/
def fits (c : Client σ) (op : Operation) : Bool :=
  op.params.toList.all fun p => match p with
    | .temporary _ (some buffer) size => size ≤ (c.world.memory.bytes buffer).length
    | _ => true

/-- The operation of a name, where `none` stands for no operation; fails on an unknown name. -/
def operation? (c : Client σ) : Option String → Option (Option Operation)
  | none => some none
  | some name => (c.operations.get? name).map some

/-- Keep an operation that a call handed back. -/
def keepOperation (c : Client σ) (name : Option String) (op : Option Operation) : Client σ :=
  match name, op with
  | some name, some op => { c with operations := c.operations.set name op }
  | _, _ => c

end TeeClient.Client

import TeeClient.Client.Basic

/-!
# Creating, using and releasing shared blocks

A block is entered in the registry of its context when it is created and struck out when it is
released, also if the context is gone by then.
-/

namespace TeeClient.Client

variable {σ : Type}

/-- Enter a block that was vetted. -/
def addBlock (c : Client σ) (block : String) (registry : RegistryId) (entry : BlockEntry)
    (buffer : Option BufferId) (flags : Access) (record : Nat → Nat → Record) : Client σ :=
  let id := ((c.registries.get? registry).getD .empty).fresh
  let c := c.log (record id entry.size)
  { c with
    registries := c.registries.modify registry (·.add entry)
    blocks := c.blocks.set block ⟨registry, id, buffer, entry.size, flags, entry.allocated⟩ }

/-- Make memory of the caller a shared block of a context. -/
def register (c : Client σ) (context block : String) (data : Bytes) (flags : Access) :
    Option (Except Failure Unit × Client σ) :=
  match c.contexts.get? context with
  | none => none
  | some ctx =>
    if c.blocks.contains block then none
    else match Registry.vet flags data.length ctx.config.maxSharedMemorySize with
    | .error .badFlags => some (.error (.api .badParameters), c)
    | .error .tooLarge =>
      some (.error (.api .badParameters),
        c.log (.registrationRefused data.length ctx.config.maxSharedMemorySize))
    | .ok () =>
      let buffer := c.world.memory.fresh
      let c := { c with world := { c.world with memory := c.world.memory.add data } }
      some (.ok (),
        c.addBlock block ctx.registry ⟨false, data.length⟩ (some buffer) flags .blockRegistered)

/-- Have the library allocate a block of zeros for a context. -/
def allocate (c : Client σ) (context block : String) (size : Nat) (flags : Access) :
    Option (Except Failure Unit × Client σ) :=
  match c.contexts.get? context with
  | none => none
  | some ctx =>
    if c.blocks.contains block then none
    else match Registry.vet flags size ctx.config.maxSharedMemorySize with
    | .error .badFlags => some (.error (.api .badParameters), c)
    | .error .tooLarge =>
      some (.error (.api .outOfMemory),
        c.log (.allocationRefused size ctx.config.maxSharedMemorySize))
    | .ok () =>
      if size = 0 then
        some (.ok (), c.addBlock block ctx.registry ⟨true, 0⟩ none flags .blockAllocated)
      else
        let buffer := c.world.memory.fresh
        let c := { c with
          world := { c.world with memory := c.world.memory.add (List.replicate size 0) } }
        some (.ok (),
          c.addBlock block ctx.registry ⟨true, size⟩ (some buffer) flags .blockAllocated)

/-- Whether an operation points into a block. -/
def isReferenced (c : Client σ) (b : Block) : Bool :=
  c.operations.values.any (·.refersTo b)

/-- The bytes of a block. -/
def contents (c : Client σ) (b : Block) : Bytes :=
  match b.buffer with
  | none => []
  | some buffer => c.world.memory.bytes buffer

/-- Write into a block from `offset` on. -/
def write (c : Client σ) (block : String) (offset : Nat) (data : Bytes) : Option (Client σ) :=
  match c.blocks.get? block with
  | none => none
  | some b =>
    if c.isReferenced b || offset + data.length > b.size then none
    else match b.buffer with
    | none => some c
    | some buffer =>
      some { c with
        world := { c.world with memory := c.world.memory.write ⟨buffer, offset⟩ data } }

/-- Strike a block out of its registry and give its memory up. -/
def dropBlock (c : Client σ) (block : String) (b : Block) : Client σ :=
  let known := (c.registries.get? b.registry).any fun r => (r.get? b.id).isSome
  let c := if known then c else c.log (.blockReleasedTwice b.id)
  let memory := match b.buffer with
    | none => c.world.memory
    | some buffer => c.world.memory.erase buffer
  let c := { c with
    world := { c.world with memory }
    registries := c.registries.modify b.registry (·.erase b.id)
    blocks := c.blocks.erase block }
  c.log (.blockReleased b.id)

/-- Release a block. The caller gets its memory back, if it was the caller's. -/
def release (c : Client σ) (block : String) : Option (Option Bytes × Client σ) :=
  match c.blocks.get? block with
  | none => none
  | some b =>
    if c.isReferenced b then none
    else some (if b.allocated then none else some (c.contents b), c.dropBlock block b)

/-- How many blocks of a context are registered and how many are allocated. -/
def blockCounts (c : Client σ) (ctx : Context) : Nat × Nat :=
  let r := (c.registries.get? ctx.registry).getD .empty
  (r.registered, r.allocated)

end TeeClient.Client

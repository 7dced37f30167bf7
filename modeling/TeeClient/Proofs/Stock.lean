import TeeClient.Proofs.Runs

/-!
# Contexts and blocks of a client

Opening a context gives it a registry of its own, which counts the blocks that are created through
it. A client program notes down what it opens, creates and releases (`BlockNote`).

Main statements:

* `Client.Booked`: what a call can do to contexts, registries and blocks, and what is noted of it;
* `Client.booked_of_perform`: every call does one of these.
-/

namespace TeeClient

variable {σ : Type} {D : Driver σ}

/-- What a client program notes down of its contexts and blocks. -/
inductive BlockNote
  | opened (context : String)
  /-- A block was created through a context, over memory of the library or of the caller. -/
  | created (context block : String) (allocated : Bool)
  | released (block : String)
  deriving DecidableEq, Repr

/-- What is noted down of something that succeeds. -/
def BlockNote.noted (note : BlockNote) : Except Failure Unit → List BlockNote
  | .ok () => [note]
  | .error _ => []

/-- A block that was vetted is no larger than the limit. -/
theorem Registry.size_le_of_vet {flags : Access} {size limit : Nat}
    (h : vet flags size limit = .ok ()) : size ≤ limit := by
  unfold vet at h
  split at h
  · cases h
  split at h
  · cases h
  next hle => exact Nat.le_of_not_lt hle

namespace Client

/-- What is noted down of a call. Only what succeeds is. -/
def blockNotes (D : Driver σ) (c : Client σ) : ClientCall → List BlockNote
  | .openContext context name config =>
    (c.openContext D context name config).elim [] fun r => (BlockNote.opened context).noted r.1
  | .register context block data flags =>
    (c.register context block data flags).elim [] fun r =>
      (BlockNote.created context block false).noted r.1
  | .allocate context block size flags =>
    (c.allocate context block size flags).elim [] fun r =>
      (BlockNote.created context block true).noted r.1
  | .release block => [.released block]
  | _ => []

/-- What a client has of contexts and blocks. -/
def stock (c : Client σ) : Table String Context × Arena Registry × Table String Block :=
  (c.contexts, c.registries, c.blocks)

/-- What a call does to contexts, registries and blocks, and what is noted of it. -/
inductive Booked (c c' : Client σ) : List BlockNote → Prop
  | idle (stock : c'.stock = c.stock) : Booked c c' []
  /-- A context with settings in range gets a registry of its own. -/
  | opened (context : String) (config : Config) (sound : config.fault? = none)
    (new : c.contexts.contains context = false)
    (contexts : c'.contexts = c.contexts.set context ⟨config, c.registries.fresh⟩)
    (registries : c'.registries = c.registries.add .empty) (blocks : c'.blocks = c.blocks) :
    Booked c c' [.opened context]
  /-- The registry of a context that is closed stays. -/
  | closed (context : String) (contexts : c'.contexts = c.contexts.erase context)
    (registries : c'.registries = c.registries) (blocks : c'.blocks = c.blocks) : Booked c c' []
  /-- A block that its context allows is entered in the registry of that. -/
  | created (context block : String) (ctx : Context) (b : Block)
    (held : c.contexts.get? context = some ctx) (new : c.blocks.contains block = false)
    (allowed : b.size ≤ ctx.config.maxSharedMemorySize)
    (registry : b.registry = ctx.registry)
    (id : b.id = ((c.registries.get? ctx.registry).getD .empty).fresh)
    (contexts : c'.contexts = c.contexts)
    (registries : c'.registries
      = c.registries.modify ctx.registry (·.add ⟨b.allocated, b.size⟩))
    (blocks : c'.blocks = c.blocks.set block b) :
    Booked c c' [.created context block b.allocated]
  | released (block : String) (b : Block) (held : c.blocks.get? block = some b)
    (contexts : c'.contexts = c.contexts)
    (registries : c'.registries = c.registries.modify b.registry (·.erase b.id))
    (blocks : c'.blocks = c.blocks.erase block) : Booked c c' [.released block]

variable {c c' : Client σ}

/-- Keeping an operation leaves contexts, registries and blocks. -/
theorem stock_keepOperation (c : Client σ) (name : Option String) (op : Option Operation) :
    (c.keepOperation name op).stock = c.stock := by
  unfold keepOperation
  split <;> rfl

/-- Opening a session leaves contexts, registries and blocks. -/
theorem stock_openSession {context session : String} {destination : Uuid}
    {login : UInt32 × Option UInt32} {operation : Option String}
    {result : Except Failure ChannelId}
    (h : c.openSession D context session destination login operation = some (result, c')) :
    c'.stock = c.stock := by
  obtain ⟨-, op, -, hcase⟩ := openSession_cases h
  split at hcase
  · obtain ⟨-, journal, rfl⟩ := hcase
    rfl
  · obtain ⟨-, rfl⟩ := hcase
    unfold afterOpening
    split <;> exact stock_keepOperation ..

/-- A context that is opened gets a registry; one that is not opened leaves nothing. -/
theorem Opens.booked {context : String} {config : Config} {result : Except Failure Unit}
    (new : c.contexts.contains context = false) (h : Opens D c context config result c') :
    c.Booked c' ((BlockNote.opened context).noted result) := by
  cases h with
  | refused | failed => exact .idle rfl
  | opened journal sound => exact .opened context config sound new rfl rfl rfl

/-- A block that is created is entered; one that is refused is not. -/
theorem Creates.booked {context block : String} {entry : BlockEntry} {flags : Access}
    {result : Except Failure Unit} (h : c.Creates context block entry flags result c') :
    c.Booked c' ((BlockNote.created context block entry.allocated).noted result) := by
  cases h with
  | refused => exact .idle rfl
  | entered ctx memory buffer record held new vetted =>
    exact .created context block ctx
      ⟨ctx.registry, ((c.registries.get? ctx.registry).getD .empty).fresh, buffer, entry.size,
        flags, entry.allocated⟩ held new (Registry.size_le_of_vet vetted) rfl rfl rfl rfl rfl

/-- A block that is released is struck out. -/
theorem booked_release {block : String} {given : Option Bytes}
    (h : c.release block = some (given, c')) : c.Booked c' [.released block] := by
  obtain ⟨b, held, rfl⟩ := release_cases h
  obtain ⟨memory, journal, he⟩ := c.dropBlock_eq block b
  rw [he]
  exact .released block b held rfl rfl rfl

/-- What each call does to contexts, registries and blocks. -/
theorem booked_of_perform {call : ClientCall} (h : c.perform D call = some c') :
    c.Booked c' (c.blockNotes D call) := by
  cases call with
  | openContext =>
    obtain ⟨⟨result, _⟩, hr, rfl⟩ := Option.map_eq_some_iff.1 h
    obtain ⟨hnew, hopens⟩ := openContext_cases hr
    simpa [blockNotes, hr] using hopens.booked hnew
  | closeContext context =>
    obtain ⟨-, -, journal, rfl⟩ := closeContext_cases h
    exact .closed context rfl rfl rfl
  | register =>
    obtain ⟨⟨result, _⟩, hr, rfl⟩ := Option.map_eq_some_iff.1 h
    simpa [blockNotes, hr] using (register_cases hr).booked
  | allocate =>
    obtain ⟨⟨result, _⟩, hr, rfl⟩ := Option.map_eq_some_iff.1 h
    simpa [blockNotes, hr] using (allocate_cases hr).booked
  | write =>
    obtain ⟨memory, rfl⟩ := write_cases h
    exact .idle rfl
  | release =>
    obtain ⟨⟨given, _⟩, hr, rfl⟩ := Option.map_eq_some_iff.1 h
    exact booked_release hr
  -- the calls from here on leave contexts, registries and blocks as they are
  | newOperation =>
    obtain ⟨memory, params, rfl⟩ := newOperation_cases h
    exact .idle rfl
  | dropOperation =>
    obtain ⟨⟨buffers, _⟩, hr, rfl⟩ := Option.map_eq_some_iff.1 h
    obtain ⟨memory, rfl⟩ := dropOperation_cases hr
    exact .idle rfl
  | nameToken =>
    obtain ⟨op, -, rfl⟩ := Option.map_eq_some_iff.1 h
    exact .idle rfl
  | cancel =>
    obtain ⟨id, rfl⟩ := cancel_cases h
    exact .idle rfl
  | openSession =>
    obtain ⟨⟨result, _⟩, hr, rfl⟩ := Option.map_eq_some_iff.1 h
    exact .idle (stock_openSession hr)
  | invoke =>
    obtain ⟨⟨result, _⟩, hr, rfl⟩ := Option.map_eq_some_iff.1 h
    obtain ⟨s, op, -, -, -, rfl⟩ := invoke_cases hr
    exact .idle (stock_keepOperation ..)
  | closeSession =>
    obtain ⟨s, -, rfl⟩ := closeSession_cases h
    exact .idle rfl

end Client

end TeeClient

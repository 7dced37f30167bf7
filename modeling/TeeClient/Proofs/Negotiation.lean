import TeeClient.Proofs.Device
import TeeClient.Proofs.Direct.Runs

/-!
# Asking for a size

A client that does not know how many bytes an application has for it carries a reference without a
buffer first. The application writes its bytes all the same: they do not fit, but their number comes
back in the size of the reference. The client then carries a buffer of that size.

Main statements:

* `Program.direct_of_delivers`: what a direct call of an application that gives out bytes comes to;
* `Client.invoke_delivers`: how a command of such an application ends, by the reference that is
  carried;
* `sizes_are_negotiated`: the two calls, in every run of a client program.
-/

namespace TeeClient

variable {κ : Type} {slot : Slot} {data : Bytes}

/-! ## Applications that give out bytes -/

/-- The query changes nothing, and has an answer where the slot holds a reference. -/
def Query.Looks (slot : Slot) : Query → Prop
  | .paramType i => i < 4
  | .capacity i | .isMapped i | .read i => i = slot.val
  | .isCancelled | .login | .destination => True
  | .value _ | .setValue .. | .write .. | .setOutputSize .. => False

/-- The program looks around, leaves notes and returns the result. -/
inductive Program.Returns (slot : Slot) (result : Except Status Unit) : Program κ → Prop
  | finish (state : κ) : Returns slot result (.finish result state)
  | report {event : Event} {next : Program κ} (rest : Returns slot result next) :
    Returns slot result (.report event next)
  | look {query : Query} {next : query.Answer → Program κ} (looks : query.Looks slot)
    (rest : ∀ answer, Returns slot result (next answer)) : Returns slot result (.ask query next)

/-- The program writes the bytes to the slot, once, and returns the result of that. Before and after
it may look around and leave notes. -/
inductive Program.Delivers (slot : Slot) (data : Bytes) : Program κ → Prop
  | write {next : Except Status Unit → Program κ}
    (rest : ∀ result, (next result).Returns slot result) :
    Delivers slot data (.ask (.write slot.val data) next)
  | report {event : Event} {next : Program κ} (rest : Delivers slot data next) :
    Delivers slot data (.report event next)
  | look {query : Query} {next : query.Answer → Program κ} (looks : query.Looks slot)
    (rest : ∀ answer, Delivers slot data (next answer)) : Delivers slot data (.ask query next)

/-- Looking at a size succeeds in a slot that holds one. -/
theorem Direct.onReference_of_get {α : Type} {d : Direct} {size : UInt32}
    (ha : d.arguments.get slot = .reference size) (look : Slot → UInt32 → α × Direct) :
    d.onReference slot.val look = some (look slot size) := by
  unfold onReference
  rw [Slot.ofNat?_val, Option.bind_some, ha]

/-- A look at a direct call leaves it. -/
theorem Query.direct_of_looks {query : Query} (h : query.Looks slot) (setting : Setting)
    {d : Direct} {size : UInt32} (ha : d.arguments.get slot = .reference size) :
    ∃ answer, query.direct setting d = some (answer, d) := by
  cases query with
  | paramType i =>
    refine ⟨.ok (setting.params.get ⟨i, h⟩).knownType, ?_⟩
    simp only [direct, Slot.ofNat?, show i < 4 from h, dite_true, Option.map_some]
  | capacity i | isMapped i | read i =>
    cases (h : i = slot.val)
    exact ⟨_, Direct.onReference_of_get ha _⟩
  | isCancelled | login | destination => exact ⟨_, rfl⟩
  | value | setValue | write | setOutputSize => cases h

/-- A direct call of a program that returns a result has that result, and leaves the rest. -/
theorem Program.direct_of_returns {result : Except Status Unit} {program : Program κ}
    (h : program.Returns slot result) (setting : Setting) {d : Direct} {size : UInt32}
    (ha : d.arguments.get slot = .reference size) :
    ∃ state, program.direct setting d = some ((result, state), d) := by
  -- notes and looks leave the call as it is, so the slot still holds a reference at the next one
  induction h with
  | finish state => exact ⟨state, rfl⟩
  | report rest ih => exact ih
  | look looks rest ih =>
    obtain ⟨answer, hanswer⟩ := Query.direct_of_looks looks setting ha
    obtain ⟨state, hstate⟩ := ih answer
    refine ⟨state, ?_⟩
    simp only [direct, hanswer, Option.bind_some]
    exact hstate

namespace Direct

variable {params : Slots Parameter} {d : Direct}

/-- A write leaves the number of its bytes in the slot. -/
theorem arguments_write : (d.write params slot data).2.arguments
    = d.arguments.put slot (.reference data.length.toUInt32) := by
  unfold write
  simp only
  split
  · rfl
  · split
    · rfl
    · split
      · rfl
      · split <;> rfl

/-- A write of more bytes than the slot lends writes none. -/
theorem write_of_short (hdata : 1 ≤ data.length)
    (hshort : ∀ bytes, (params.get slot).lent? = some bytes → bytes.2 < data.length) :
    (d.write params slot data).1 = .error FailureKind.shortBuffer.code ∧
      (d.write params slot data).2.memory = d.memory := by
  unfold write
  cases hlent : (params.get slot).lent? with
  | none =>
    cases data with
    | nil => cases hdata
    | cons => exact ⟨rfl, rfl⟩
  | some bytes =>
    simp only [show data.length > bytes.2 from hshort bytes hlent, if_true]
    exact ⟨trivial, rfl⟩

/-- A write of no more bytes than the slot lends writes them all, if data come back through the
slot. -/
theorem write_of_fits (hdata : 1 ≤ data.length) {address : Address} {len : Nat}
    (hlent : (params.get slot).lent? = some (address, len)) (hfits : data.length ≤ len)
    (hwrites : (params.get slot).writesBack = true) :
    (d.write params slot data).1 = .ok () ∧
      (d.write params slot data).2.memory = d.memory.write address data := by
  have hsome : data.isEmpty = false := by
    cases data with
    | nil => cases hdata
    | cons => rfl
  unfold write
  simp only [hlent, Nat.not_lt.2 hfits, hsome, hwrites, if_true, if_false, Bool.false_eq_true]
  exact ⟨trivial, rfl⟩

end Direct

/-- A direct call of a program that gives out bytes writes them to the slot, and has the result of
that. -/
theorem Program.direct_of_delivers {program : Program κ} (h : program.Delivers slot data)
    (setting : Setting) {d : Direct} {size : UInt32} (ha : d.arguments.get slot = .reference size) :
    ∃ state, program.direct setting d = some (((d.write setting.params slot data).1, state),
      (d.write setting.params slot data).2) := by
  induction h with
  | write rest =>
    -- the number of the bytes stands in the slot now, and what follows may look at it
    have hafter : (d.write setting.params slot data).2.arguments.get slot
        = .reference data.length.toUInt32 := by
      rw [Direct.arguments_write, Slots.get_put_self]
    obtain ⟨state, hstate⟩ := Program.direct_of_returns (rest _) setting hafter
    refine ⟨state, ?_⟩
    simp only [direct, Query.direct, Direct.onReference_of_get ha, Option.bind_some]
    exact hstate
  | report rest ih => exact ih
  | look looks rest ih =>
    obtain ⟨answer, hanswer⟩ := Query.direct_of_looks looks setting ha
    obtain ⟨state, hstate⟩ := ih answer
    refine ⟨state, ?_⟩
    simp only [direct, hanswer, Option.bind_some]
    exact hstate

/-! ## References -/

/-- Bytes that are written and fit are read back, with what was behind them. -/
theorem Memory.read_write (m : Memory) (address : Address) {len : Nat} (hdata : 1 ≤ data.length)
    (hlen : (m.read address len).length = len) (hfits : data.length ≤ len) :
    (m.write address data).read address len = data ++ (m.read address len).drop data.length := by
  unfold read at hlen ⊢
  rw [bytes_write, if_pos rfl]
  generalize m.bytes address.buffer = old at hlen ⊢
  -- there are bytes to read, so they are there from the address on
  have hin : address.offset + len ≤ old.length := by
    rw [List.length_take, List.length_drop] at hlen
    omega
  have hlaid : old.overlay address.offset data
      = old.take address.offset ++ (data ++ old.drop (address.offset + data.length)) := by
    unfold Bytes.overlay
    rw [List.append_assoc]
    refine List.take_of_length_le ?_
    simp only [List.length_append, List.length_take, List.length_drop]
    omega
  have htake : (old.take address.offset).length = address.offset := by
    rw [List.length_take]
    omega
  rw [hlaid, List.drop_left' htake, List.take_append, List.take_of_length_le hfits, List.drop_take,
    List.drop_drop]

namespace Parameter

/-- The bytes that a slot lends, as they stand in memory. -/
def contents (memory : Memory) (p : Parameter) : Bytes :=
  p.lent?.elim [] fun bytes => memory.read bytes.1 bytes.2

/-- The contents are what is read at the address that is lent. -/
theorem contents_of_lent? {p : Parameter} {address : Address} {len : Nat}
    (h : p.lent? = some (address, len)) (memory : Memory) :
    p.contents memory = memory.read address len := by
  unfold contents
  rw [h]
  rfl

/-- A reference without a buffer, through which a size may come back. -/
inductive Asks : Parameter → Prop
  | temporary (direction : Direction) (size : Nat) (writes : direction.writes = true)
    (fits : size < UInt32.size) : Asks (.temporary direction none size)

/-- A reference to `len` bytes, be they a buffer, a block or a window of a block, through which data
may come back. -/
inductive Offers : Nat → Parameter → Prop
  | temporary (direction : Direction) (buffer : BufferId) (len : Nat)
    (writes : direction.writes = true) : Offers len (.temporary direction (some buffer) len)
  | whole (parent : Block) (size : Nat) (granted : parent.flags.contains .output = true) :
    Offers parent.size (.whole parent size)
  | window (direction : Direction) (parent : Block) (offset len : Nat)
    (writes : direction.writes = true) (granted : parent.flags.contains direction.access = true)
    (inside : offset + len ≤ parent.size) : Offers len (.window direction parent offset len)

/-- A reference that can be sent by itself, and lets data back. -/
structure Accepts (p : Parameter) : Prop where
  planned : ∃ plan, p.plan = .ok plan
  reach : p.reach < UInt32.size
  reference : ∃ size, p.argument = .reference size
  writes : p.writesBack = true

/-- A reference that asks for a size is one that can be sent, and lends nothing. -/
theorem Asks.accepts {p : Parameter} (h : p.Asks) : p.Accepts ∧ p.lent? = none := by
  cases h with
  | temporary direction size writes fits =>
    refine ⟨⟨⟨.words (.memref 0 0 size.toUInt32), ?_⟩, ?_, ⟨_, rfl⟩, writes⟩, rfl⟩
    · simp only [plan, Plan.reference, fits, if_true]
    · show 0 < UInt32.size
      decide

/-- The plan of a reference that fits a word is no refusal. -/
theorem exists_reference {buffer : Option BufferId} {offset len : Nat} {access : Access}
    (hlen : len < UInt32.size) : ∃ plan, Plan.reference buffer offset len access = .ok plan := by
  have hrefers := Plan.refers buffer offset len access
  generalize Plan.reference buffer offset len access = planned at hrefers
  cases hrefers with
  | mapped | empty => exact ⟨_, rfl⟩
  | oversize large => exact absurd hlen (Nat.not_lt_of_le large)

/-- What a reference offers is what it lends. -/
theorem Offers.lent?_eq {len : Nat} {p : Parameter} (h : p.Offers len) :
    ∃ buffer offset, p.lent? = bytesOf? buffer offset len := by
  cases h with
  | temporary => exact ⟨_, _, rfl⟩
  | whole => exact ⟨_, _, rfl⟩
  | window => exact ⟨_, _, rfl⟩

/-- A reference never lends more bytes than it offers. -/
theorem Offers.eq_of_lent? {len : Nat} {p : Parameter} (h : p.Offers len) {bytes : Address × Nat}
    (hl : p.lent? = some bytes) : bytes.2 = len := by
  obtain ⟨buffer, offset, he⟩ := h.lent?_eq
  rw [he, bytesOf?, Option.bind_eq_some_iff] at hl
  obtain ⟨id, -, hl⟩ := hl
  split at hl
  · cases hl
    rfl
  · cases hl

/-- A reference lends what it offers if there are bytes behind it. -/
theorem Offers.exists_lent? {len : Nat} {p : Parameter} (h : p.Offers len) {memory : Memory}
    (hcontents : (p.contents memory).length = len) (hlen : 0 < len) :
    ∃ address, p.lent? = some (address, len) := by
  cases hl : p.lent? with
  | none =>
    have hnothing : p.contents memory = [] := by
      unfold contents
      rw [hl]
      rfl
    rw [hnothing, List.length_nil] at hcontents
    omega
  | some bytes =>
    obtain rfl : bytes.2 = len := h.eq_of_lent? hl
    exact ⟨bytes.1, rfl⟩

/-- A reference to bytes whose pages fit a word is one that can be sent. -/
theorem Offers.accepts {len : Nat} {p : Parameter} (h : p.Offers len) (hlen : len ≤ 0xFFFFF000) :
    p.Accepts := by
  have hfits : len < UInt32.size := Nat.lt_of_le_of_lt hlen (by decide)
  refine ⟨?_, ?_, ?_, ?_⟩
  · cases h with
    | temporary direction buffer =>
      show ∃ plan, Plan.reference (some buffer) 0 len direction.access = .ok plan
      exact exists_reference hfits
    | whole => exact exists_reference hfits
    | window direction parent offset _ writes granted inside =>
      simp only [plan, granted, Bool.not_true, Bool.false_eq_true, if_false, Nat.not_lt.2 inside]
      exact exists_reference hfits
  · unfold reach
    cases hl : p.lent? with
    | none =>
      show 0 < UInt32.size
      decide
    | some bytes =>
      show SecureWorld.span bytes.2 < 4294967296
      -- the bound is a whole number of pages, so rounding up does not lead past it
      rw [h.eq_of_lent? hl]
      unfold SecureWorld.span SecureWorld.pageSize
      omega
  · cases h with
    | temporary => exact ⟨_, rfl⟩
    | whole => exact ⟨_, rfl⟩
    | window => exact ⟨_, rfl⟩
  · cases h with
    | temporary _ _ _ writes => exact writes
    | whole _ _ granted => exact granted
    | window _ _ _ _ writes => exact writes

/-- A reference that accepts data reports the size that was produced. -/
theorem Accepts.size?_settle {p : Parameter} (h : p.Accepts) (size : UInt32) :
    (p.settle (.reference size)).size? = some size.toNat := by
  obtain ⟨size', harg⟩ := h.reference
  unfold settle
  rw [if_pos h.writes]
  cases p with
  | unused => cases harg
  | value direction =>
    cases direction <;> cases harg
  | temporary | whole | window => rfl

end Parameter

/-- No slot of the operation but this one is used. -/
def Operation.Only (op : Operation) (slot : Slot) : Prop :=
  ∀ other, other ≠ slot → op.param other = .unused

/-- An operation with one reference that can be sent can be sent. -/
theorem Operation.Only.sendable {op : Operation} (h : op.Only slot)
    (ha : (op.param slot).Accepts) : op.params.Sendable where
  planned other := by
    by_cases he : other = slot
    · rw [he]
      exact ha.planned
    · refine ⟨.words .zero, ?_⟩
      rw [show op.params.get other = .unused from h other he]
      rfl
  fits := by
    have hzero : ∀ other, other ≠ slot → (op.params.get other).reach = 0 := by
      intro other he
      rw [show op.params.get other = .unused from h other he]
      rfl
    -- the slots that are not used reach nowhere
    have hsum : op.params.reach Slot.ascending = (op.param slot).reach := by
      show (op.params.get 0).reach + ((op.params.get 1).reach + ((op.params.get 2).reach
        + ((op.params.get 3).reach + 0))) = (op.params.get slot).reach
      match slot, hzero with
      | 0, hzero => rw [hzero 1 (by decide), hzero 2 (by decide), hzero 3 (by decide)]; rfl
      | 1, hzero => rw [hzero 0 (by decide), hzero 2 (by decide), hzero 3 (by decide)]; omega
      | 2, hzero => rw [hzero 0 (by decide), hzero 1 (by decide), hzero 3 (by decide)]; omega
      | 3, hzero => rw [hzero 0 (by decide), hzero 1 (by decide), hzero 2 (by decide)]; omega
    rw [hsum]
    exact ha.reach

/-- An operation with one reference that lends nothing plans no mapping. -/
theorem Operation.Only.not_plans {op : Operation} (h : op.Only slot)
    (hl : (op.param slot).lent? = none) (address : Address) (len : Nat) :
    ¬ op.Plans address len := by
  rintro ⟨other, access, hplan⟩
  by_cases he : other = slot
  · subst he
    rw [(Parameter.serves_of_plan hplan).1] at hl
    cases hl
  · rw [h other he] at hplan
    cases hplan

/-! ## Calls that map nothing -/

/-- Serving requests maps nothing. -/
theorem SecureWorld.overlooks_maps :
    Overlooks fun w w' : SecureWorld κ => w'.usage.maps = w.usage.maps where
  trans h h' := h'.trans h
  onWorker _ _ _ := rfl
  aside _ _ _ _ _ := rfl

/-- A call that plans no mapping does not ask the driver for one. -/
theorem callSafe_maps (n : Nat) : CallSafe SecureWorld.driver (fun _ _ => False)
    fun w : World (SecureWorld κ) => w.driver.usage.maps = n where
  log _ _ h := h
  onPage _ _ _ h := h
  map _ _ _ _ _ hplan := hplan.elim
  unmap w handle address info h := by
    show (SecureWorld.unmap handle address info w.driver).2.usage.maps = n
    obtain ⟨mapping, -, -, he⟩ | ⟨e, -, he⟩ :=
      SecureWorld.unmap_cases handle address info w.driver <;> rw [he] <;> exact h
  notify w handle h := (SecureWorld.overlooks_maps.use_notify handle w).trans h
  wait w handle h := (SecureWorld.overlooks_maps.use_wait handle none w).trans h
  errorCode _ _ h := h
  onLifecycle _ _ _ h := h
  onChannel _ _ _ h := h
  closeSession w handle h := by
    show (SecureWorld.closeSession handle w.desk).2.driver.usage.maps = n
    obtain ⟨worker, -, he⟩ | ⟨-, he⟩ := SecureWorld.closeSession_cases handle w.desk <;> rw [he] <;>
      exact h

/-- A command that plans no mapping does not ask the driver for one. -/
theorem World.maps_invoke (id : ChannelId) (command : UInt32) {op : Operation}
    (hplans : ∀ address len, ¬ op.Plans address len) (w : World (SecureWorld κ)) :
    (w.invoke SecureWorld.driver id command (some op)).world.driver.usage.maps
      = w.driver.usage.maps := by
  obtain ⟨channel, -, -, hcall⟩ | ⟨-, hrefused⟩ :=
    invoke_cases SecureWorld.driver id command (some op) w
  · rw [hcall]
    exact Call.carry_preserves (callSafe_maps w.driver.usage.maps)
      (fun o ho address len hplan => by cases ho; exact hplans address len hplan) id rfl
  · rw [hrefused]

/-! ## Commands -/

namespace Client

/-- The size in a slot of an operation. -/
def sizeOf? {σ : Type} (c : Client σ) (operation : String) (slot : Slot) : Option Nat :=
  (c.operations.get? operation).bind fun op => (op.param slot).size?

/-- A command ended with the answer that a slot has no room for the bytes: their number is reported,
and no memory is written. -/
structure Short (c : Client (SecureWorld κ)) (operation : String) (slot : Slot) (data : Bytes)
    (result : Except Failure Origin) (c' : Client (SecureWorld κ)) : Prop where
  result : result = .error ⟨.shortBuffer, .trustedApp⟩
  size : c'.sizeOf? operation slot = some data.length
  memory : c'.world.memory = c.world.memory

/-- A command gave out the bytes: their number is reported, and the memory that the slot lends holds
them, with what was behind them before. -/
structure Given (c : Client (SecureWorld κ)) (operation : String) (slot : Slot) (data : Bytes)
    (p : Parameter) (result : Except Failure Origin) (c' : Client (SecureWorld κ)) : Prop where
  result : result = .ok .trustedApp
  size : c'.sizeOf? operation slot = some data.length
  contents : p.contents c'.world.memory = data ++ (p.contents c.world.memory).drop data.length

/-- How a command ends whose application gives out bytes: it gives them out if the slot lends memory
for them, and falls short if the slot lends too little. -/
theorem invoke_delivers {c : Client (SecureWorld κ)} {calm : SecureWorld κ} {id : ChannelId}
    {channel : Channel} {worker : Worker κ} {p : Page} {session operation : String} {s : Session}
    {command : UInt32} {op : Operation} (hget : c.world.channels.get? id = some channel)
    (hactive : channel.active = true) (hattended : c.world.Attended channel worker p)
    (hrearmed : SecureWorld.Rearmed c.world.driver calm) (hcalm : calm.Calm)
    (hsession : c.sessions.get? session = some s) (hid : s.channel = id)
    (hop : c.operations.get? operation = some op) (honly : op.Only slot)
    (haccepts : (op.param slot).Accepts)
    (hdelivers : (worker.app.command command worker.state).Delivers slot data)
    (hdata : 1 ≤ data.length) (hfits : data.length < UInt32.size) :
    ∃ result c', (c.withDriver calm).invoke SecureWorld.driver session command (some operation)
        = some (result, c') ∧
      c'.world.channels = c.world.channels ∧
      ((∀ bytes, (op.param slot).lent? = some bytes → bytes.2 < data.length) →
        c.Short operation slot data result c') ∧
      ∀ address len, (op.param slot).lent? = some (address, len) → data.length ≤ len →
        (c.world.memory.read address len).length = len →
        c.Given operation slot data (op.param slot) result c' := by
  -- the direct call
  let setting := Call.setting (some op) p worker
  let d := setting.start c.world.memory
  obtain ⟨size, harg⟩ := haccepts.reference
  have ha : d.arguments.get slot = .reference size := (Slots.get_ofFn _ slot).trans harg
  obtain ⟨state, hdirect⟩ := Program.direct_of_delivers hdelivers setting ha
  -- the command is that call
  have hoperation : c.operation? (some operation) = some (some op) :=
    congrArg (Option.map some) hop
  obtain ⟨result, c', hinvoke, hcalled⟩ := Client.command_direct hget hactive hattended hrearmed
    hcalm hsession hid hoperation (honly.sendable haccepts) hdirect
  -- the number of the bytes comes back in any case
  have hsize : c'.sizeOf? operation slot = some data.length := by
    unfold sizeOf?
    rw [hcalled.operations]
    show ((c.operations.set operation (op.settle _)).get? operation).bind _ = _
    rw [Table.get?_set_self, Option.bind_some]
    show (((op.settle _).params.get slot)).size? = _
    unfold Operation.settle
    rw [Slots.get_ofFn, Direct.arguments_write, Slots.get_put_self, haccepts.size?_settle,
      UInt32.toNat_ofNat_of_lt' hfits]
  refine ⟨result, c', hinvoke, hcalled.channels, fun hshort => ?_,
    fun address len hl hle hlen => ?_⟩
  · obtain ⟨hresult, hmemory⟩ : (d.write setting.params slot data).1
        = .error FailureKind.shortBuffer.code ∧
        (d.write setting.params slot data).2.memory = c.world.memory :=
      Direct.write_of_short hdata hshort
    refine ⟨?_, hsize, hcalled.memory.trans hmemory⟩
    rw [hcalled.result, hresult]
    rfl
  · obtain ⟨hresult, hmemory⟩ : (d.write setting.params slot data).1 = .ok () ∧
        (d.write setting.params slot data).2.memory = c.world.memory.write address data :=
      Direct.write_of_fits hdata hl hle haccepts.writes
    refine ⟨?_, hsize, ?_⟩
    · rw [hcalled.result, hresult]
      rfl
    · rw [Parameter.contents_of_lent? hl, Parameter.contents_of_lent? hl,
        hcalled.memory.trans hmemory]
      exact Memory.read_write _ address hdata hlen hle

/-- A command whose operation plans no mapping does not ask the driver for one. -/
theorem maps_invoke {c c' : Client (SecureWorld κ)} {calm : SecureWorld κ}
    (hrearmed : SecureWorld.Rearmed c.world.driver calm) {session operation : String}
    {command : UInt32} {op : Operation} {result : Except Failure Origin}
    (hop : c.operations.get? operation = some op) (hplans : ∀ address len, ¬ op.Plans address len)
    (h : (c.withDriver calm).invoke SecureWorld.driver session command (some operation)
      = some (result, c')) : c'.world.driver.usage.maps = c.world.driver.usage.maps := by
  obtain ⟨s, op', -, hop', -, rfl⟩ := invoke_cases h
  cases (congrArg (Option.map some) hop).symm.trans hop'
  obtain ⟨faults, rfl⟩ := hrearmed
  rw [(keepOperation_eq _ _ _).1]
  exact World.maps_invoke s.channel command hplans _

end Client

/-- In every run of a client program on the simulated secure world, with faults armed in any way
before each call: if an application gives out bytes on a command, and the command is invoked on a
session with that application, which is still active, without a fault armed, then a reference
without a buffer is answered with the number of the bytes. Nothing is mapped for it, and the session
stays active. Whatever is called then, if the session is still active later and the command is
invoked with a reference to memory, again without a fault armed, the memory receives the bytes if
there is room for them, and otherwise their number is reported once more and no memory is written.
Only when as many sessions were opened as there are handles can the driver have given the handle of
the session to another one; the session must still have it then, both times. -/
theorem sizes_are_negotiated {apps : Table Uuid (App κ)} {c₀ c₁ c : Client (SecureWorld κ)}
    {driver calm : SecureWorld κ} {context name session query : String} {destination : Uuid}
    {login : UInt32 × Option UInt32} {opening : Option String} {id : ChannelId} {channel : Channel}
    {app : App κ} {command : UInt32} {s : Session} {asking : Operation}
    (before : Client.Steps SecureWorld.driver (fun _ => SecureWorld.Rearmed)
      (.start (.start apps)) c₀)
    (armed : SecureWorld.Rearmed c₀.world.driver driver)
    (opened : (c₀.withDriver driver).openSession SecureWorld.driver context name destination login
      opening = some (.ok id, c₁))
    (after : Client.Steps SecureWorld.driver (fun _ => SecureWorld.Rearmed) c₁ c)
    (happ : apps.get? destination = some app)
    (hdelivers : ∀ state, (app.command command state).Delivers slot data)
    (hdata : 1 ≤ data.length) (hsize : data.length ≤ 0xFFFFF000)
    (hget : c.world.channels.get? id = some channel) (hactive : channel.active = true)
    (handles : UInt32.size ≤ c.world.driver.usage.opens → ¬ c.world.Reassigned channel)
    (hrearmed : SecureWorld.Rearmed c.world.driver calm) (hcalm : calm.Calm)
    (hsession : c.sessions.get? session = some s) (hid : s.channel = id)
    (hasking : c.operations.get? query = some asking) (honly : asking.Only slot)
    (hasks : (asking.param slot).Asks) :
    ∃ result c', (c.withDriver calm).invoke SecureWorld.driver session command (some query)
        = some (result, c') ∧
      c.Short query slot data result c' ∧ c'.world.channels.get? id = some channel ∧
      c'.world.driver.usage.maps = c.world.driver.usage.maps ∧
      ∀ later channel' calm' session' s' operation op len,
        Client.Steps SecureWorld.driver (fun _ => SecureWorld.Rearmed) c' later →
        later.world.channels.get? id = some channel' → channel'.active = true →
        (UInt32.size ≤ later.world.driver.usage.opens → ¬ later.world.Reassigned channel') →
        SecureWorld.Rearmed later.world.driver calm' → calm'.Calm →
        later.sessions.get? session' = some s' → s'.channel = id →
        later.operations.get? operation = some op → op.Only slot → (op.param slot).Offers len →
        len ≤ 0xFFFFF000 → ((op.param slot).contents later.world.memory).length = len →
        ∃ result' c'', (later.withDriver calm').invoke SecureWorld.driver session' command
            (some operation) = some (result', c'') ∧
          (len < data.length → later.Short operation slot data result' c'') ∧
          (data.length ≤ len →
            later.Given operation slot data (op.param slot) result' c'') := by
  have hfits : data.length < UInt32.size := Nat.lt_of_le_of_lt hsize (by decide)
  -- wherever the run has led, the worker of the session gives out the bytes
  have hattended : ∀ {c' : Client (SecureWorld κ)} {channel' : Channel},
      Client.Steps SecureWorld.driver (fun _ => SecureWorld.Rearmed) c₁ c' →
      c'.world.channels.get? id = some channel' → channel'.active = true →
      (UInt32.size ≤ c'.world.driver.usage.opens → ¬ c'.world.Reassigned channel') → ∃ worker p,
        c'.world.Attended channel' worker p ∧
        (worker.app.command command worker.state).Delivers slot data := by
    intro c' channel' run hget' hactive' handles'
    obtain ⟨method, -, htending⟩ := World.Tending.of_opened before armed opened run
    obtain ⟨worker, p, hattended, hinstalled, hagreed⟩ := htending.attended hget' hactive' handles'
    rw [(hagreed rfl).2, happ, Option.some.injEq] at hinstalled
    exact ⟨worker, p, hattended, hinstalled ▸ hdelivers worker.state⟩
  obtain ⟨worker, p, hworker, hgives⟩ := hattended after hget hactive handles
  obtain ⟨haccepts, hlent⟩ := hasks.accepts
  -- a reference without a buffer lends nothing, so the bytes cannot fit
  obtain ⟨result, c', hinvoke, hchannels, hshort, -⟩ :=
    Client.invoke_delivers hget hactive hworker hrearmed hcalm hsession hid hasking honly haccepts
      hgives hdata hfits
  have hnothing : ∀ bytes, (asking.param slot).lent? = some bytes → bytes.2 < data.length := by
    intro bytes hl
    rw [hlent] at hl
    cases hl
  refine ⟨result, c', hinvoke, hshort hnothing, hchannels ▸ hget, ?_, ?_⟩
  · exact Client.maps_invoke hrearmed hasking (honly.not_plans hlent) hinvoke
  intro later channel' calm' session' s' operation op len run hget' hactive' handles' hrearmed'
    hcalm' hsession' hid' hop honly' hoffers hlen hcontents
  -- the first command is one of the calls that led there from the opening
  have hasked : Client.Steps SecureWorld.driver (fun _ => SecureWorld.Rearmed) c c' :=
    .call (.invoke session command (some query)) calm .refl hrearmed
      (congrArg (Option.map Prod.snd) hinvoke)
  obtain ⟨worker', p', hworker', hgives'⟩ :=
    hattended (after.trans (hasked.trans run)) hget' hactive' handles'
  obtain ⟨result', c'', hinvoke', -, hshort', hgiven'⟩ :=
    Client.invoke_delivers hget' hactive' hworker' hrearmed' hcalm' hsession' hid' hop honly'
      (hoffers.accepts hlen) hgives' hdata hfits
  refine ⟨result', c'', hinvoke', fun hlt => ?_, fun hle => ?_⟩
  · refine hshort' fun bytes hl => ?_
    rw [hoffers.eq_of_lent? hl]
    exact hlt
  · -- there is room for the bytes, so the slot lends something
    obtain ⟨address, hl⟩ := hoffers.exists_lent? hcontents (Nat.lt_of_lt_of_le hdata hle)
    rw [Parameter.contents_of_lent? hl] at hcontents
    exact hgiven' address len hl hle hcontents

/-! An application that has three bytes to give, and a client that asks for their number and then
brings a buffer of five. -/

namespace Speaker

/-- The application. -/
def app : App Unit where
  initial := ()
  opening _ := .finish (.ok ()) ()
  command _ _ := .ask (.write 2 [1, 2, 3]) fun result => .finish result ()
  closing _ := .finish (.ok ()) ()

/-- The applications installed. -/
def apps : Table Uuid (App Unit) := Table.ofList [(.nil, app)]

/-- A program from a client on, with no faults armed. -/
def program (c : Client (SecureWorld Unit)) (calls : List ClientCall) :
    Option (Client (SecureWorld Unit)) :=
  c.performAll SecureWorld.driver (fun _ driver => driver) calls

/-- The opening of a session. -/
def opening (c : Client (SecureWorld Unit)) :
    Option (Except Failure ChannelId × Client (SecureWorld Unit)) :=
  c.openSession SecureWorld.driver "tee" "session" .nil (0, none) none

/-- The reference that asks, and the one that offers. -/
def slots (p : Parameter) (lifecycle : LifecycleId) : Operation :=
  ⟨⟨.unused, .unused, p, .unused⟩, lifecycle⟩

/-- The client before a session is opened, when it is open, when an operation to ask with is built,
when that was carried, and when an operation with a buffer is built; and the session. -/
structure Stages where
  start : Client (SecureWorld Unit)
  opened : Client (SecureWorld Unit)
  ready : Client (SecureWorld Unit)
  asked : Client (SecureWorld Unit)
  later : Client (SecureWorld Unit)
  id : ChannelId

/-- The stages of the negotiation, if each is reached from the one before it. -/
def stages? : Option Stages :=
  (program (.start (.start apps)) [.openContext "tee" none .default]).bind fun start =>
    (opening start).bind fun answer => match answer with
      | (.error _, _) => none
      | (.ok id, opened) => (program opened [.newOperation "query"
          ⟨.unused, .unused, .query .output 100, .unused⟩]).bind fun ready =>
        (ready.invoke SecureWorld.driver "session" 7 (some "query")).bind fun answer =>
          (program answer.2 [.newOperation "buffer"
            ⟨.unused, .unused, .temporary .inout [9, 9, 9, 9, 9], .unused⟩]).map fun later =>
          ⟨start, opened, ready, answer.2, later, id⟩

/-- The session is active, the operation is built, and no fault is armed. -/
def idle (id : ChannelId) (name : String) (op : Operation) (c : Client (SecureWorld Unit)) : Bool :=
  (c.world.channels.get? id).any Channel.active &&
  (c.sessions.get? "session").map Session.channel == some id &&
  c.operations.get? name == some op && c.world.driver.usage.opens == 1 &&
  c.world.driver.faults == ⟨none, none, none, false, none, none⟩

/-- In an `idle` client the session is active, the operation is built, and no fault is armed. -/
theorem of_idle {id : ChannelId} {name : String} {op : Operation} {c : Client (SecureWorld Unit)}
    (h : idle id name op c = true) : ∃ channel s, c.world.channels.get? id = some channel ∧
      channel.active = true ∧ c.sessions.get? "session" = some s ∧ s.channel = id ∧
      c.operations.get? name = some op ∧
      (UInt32.size ≤ c.world.driver.usage.opens → ¬ c.world.Reassigned channel) ∧
      c.world.driver.Calm := by
  simp only [idle, Bool.and_eq_true, beq_iff_eq] at h
  obtain ⟨⟨⟨⟨hchannel, hsession⟩, hop⟩, hopens⟩, hfaults⟩ := h
  obtain ⟨channel, hget, hactive⟩ := (Option.any_eq_true _ _).1 hchannel
  obtain ⟨s, hnamed, hid⟩ := Option.map_eq_some_iff.1 hsession
  have hfew : c.world.driver.usage.opens < UInt32.size := hopens ▸ (by decide : 1 < UInt32.size)
  exact ⟨channel, s, hget, hactive, hnamed, hid, hop, fun hge => absurd hfew (Nat.not_lt.2 hge),
    hfaults⟩

/-- The stages are reached one after the other. -/
theorem of_stages {st : Stages} (h : stages? = some st) :
    Client.Steps SecureWorld.driver (fun _ => SecureWorld.Rearmed) (.start (.start apps)) st.start ∧
      opening st.start = some (.ok st.id, st.opened) ∧
      Client.Steps SecureWorld.driver (fun _ => SecureWorld.Rearmed) st.opened st.ready ∧
      (∃ result, st.ready.invoke SecureWorld.driver "session" 7 (some "query")
        = some (result, st.asked)) ∧
      Client.Steps SecureWorld.driver (fun _ => SecureWorld.Rearmed) st.asked st.later := by
  obtain ⟨start, h₀, h⟩ := Option.bind_eq_some_iff.1 h
  obtain ⟨⟨e | id, opened⟩, h₁, h⟩ := Option.bind_eq_some_iff.1 h
  · cases h
  obtain ⟨ready, h₂, h⟩ := Option.bind_eq_some_iff.1 h
  obtain ⟨⟨result, asked⟩, h₃, h⟩ := Option.bind_eq_some_iff.1 h
  obtain ⟨later, h₄, he⟩ := Option.map_eq_some_iff.1 h
  cases he
  exact ⟨Client.steps_performAll (fun _ _ => ⟨_, rfl⟩) h₀, h₁,
    Client.steps_performAll (fun _ _ => ⟨_, rfl⟩) h₂, ⟨result, h₃⟩,
    Client.steps_performAll (fun _ _ => ⟨_, rfl⟩) h₄⟩

/-- The operation of `slots` uses no slot but the third. -/
theorem only_slots (p : Parameter) (lifecycle : LifecycleId) : (slots p lifecycle).Only 2 := by
  intro other hne
  match other, hne with
  | 0, _ | 1, _ | 3, _ => rfl

end Speaker

/-- The number comes back first, and then the three bytes, with the two behind them. -/
theorem sizes_are_negotiated_speaker : ∃ st result c', Speaker.stages? = some st ∧
    st.asked.sizeOf? "query" 2 = some 3 ∧
    st.later.invoke SecureWorld.driver "session" 7 (some "buffer") = some (result, c') ∧
    result = .ok .trustedApp ∧ c'.sizeOf? "buffer" 2 = some 3 ∧
    c'.world.memory.read ⟨0, 0⟩ 5 = [1, 2, 3, 9, 9] := by
  obtain ⟨st, hstages⟩ :=
    Option.isSome_iff_exists.1 (show Speaker.stages?.isSome = true by decide +kernel)
  obtain ⟨hready, hlater, hbytes⟩ := (show ∀ st ∈ Speaker.stages?,
    Speaker.idle st.id "query" (Speaker.slots (.temporary .output none 100) 0) st.ready = true ∧
    Speaker.idle st.id "buffer" (Speaker.slots (.temporary .inout (some 0) 5) 1) st.later = true ∧
    st.later.world.memory.read ⟨0, 0⟩ 5 = [9, 9, 9, 9, 9] by decide +kernel) _ hstages
  obtain ⟨before, opened, after, ⟨result₀, hasked⟩, between⟩ := Speaker.of_stages hstages
  obtain ⟨channel, s, hget, hactive, hsession, hid, hop, handles, hcalm⟩ := Speaker.of_idle hready
  obtain ⟨channel', s', hget', hactive', hsession', hid', hop', handles', hcalm'⟩ :=
    Speaker.of_idle hlater
  have hinstalled : Speaker.apps.get? .nil = some Speaker.app := rfl
  have hdelivers : ∀ state, (Speaker.app.command 7 state).Delivers 2 [1, 2, 3] :=
    fun _ => .write fun _ => .finish ()
  obtain ⟨result₁, c₁, hinvoke, hshort, -, -, hthen⟩ := sizes_are_negotiated before ⟨_, rfl⟩ opened
    after hinstalled hdelivers (by decide) (by decide) hget hactive handles ⟨_, rfl⟩ hcalm hsession
    hid hop (Speaker.only_slots _ _) (.temporary .output 100 rfl (by decide))
  -- the client that asked is the one of the stages
  obtain ⟨rfl, rfl⟩ := Prod.mk.inj (Option.some.inj (hasked.symm.trans hinvoke))
  obtain ⟨result, c', hinvoke', -, hgiven⟩ := hthen st.later channel' st.later.world.driver
    "session" s' "buffer" _ 5 between hget' hactive' handles' ⟨_, rfl⟩ hcalm' hsession' hid' hop'
    (Speaker.only_slots _ _) (.temporary .inout 0 5 rfl) (by decide) (congrArg List.length hbytes)
  have hgiven := hgiven (by decide)
  refine ⟨st, result, c', hstages, hshort.size, hinvoke', hgiven.result, hgiven.size, ?_⟩
  refine hgiven.contents.trans ?_
  show [1, 2, 3] ++ (st.later.world.memory.read ⟨0, 0⟩ 5).drop 3 = _
  rw [hbytes]
  rfl

end TeeClient

import TeeClient.Client
import TeeClient.Proofs.SessionCalls

/-!
# Runs of client programs

A client program makes one call of the library after the other; `ClientCall` is such a call, and
`Client.perform` makes it. `Client.Steps` are the runs: any calls in any order, where the driver's
own state may be changed from outside right before each of them, in the ways that a relation allows.

Main statements:

* `Client.openContext_cases`, `Client.register_cases`, `Client.newOperation_cases`,
  `Client.openSession_cases`, `Client.invoke_cases` and the like: what each call comes to when it is
  made;
* `Client.effect_of_perform`: what a call can do to what the client has to do with its driver, said
  once for all calls;
* `Client.driver_effect`: what all calls on sessions preserve of the driver's state, every call
  preserves if the device and cancellations do.
-/

namespace TeeClient

/-- A call that a client program makes of the library; everything goes by name. -/
inductive ClientCall
  | openContext (context : String) (name : Option String) (config : Config)
  | closeContext (context : String)
  | register (context block : String) (data : Bytes) (flags : Access)
  | allocate (context block : String) (size : Nat) (flags : Access)
  | write (block : String) (offset : Nat) (data : Bytes)
  | release (block : String)
  | newOperation (operation : String) (specs : Slots ParameterSpec)
  | dropOperation (operation : String)
  | nameToken (token operation : String)
  /-- Cancel, with a limit to the wait for the operation to start or without one. -/
  | cancel (token : String) (limited : Bool)
  | openSession (context session : String) (destination : Uuid) (login : UInt32 × Option UInt32)
      (operation : Option String)
  | invoke (session : String) (command : UInt32) (operation : Option String)
  | closeSession (session : String)

namespace Client

variable {σ : Type} (D : Driver σ)

/-- Make a call; `none` if a program that respects ownership could not make it. -/
def perform (c : Client σ) : ClientCall → Option (Client σ)
  | .openContext context name config => (c.openContext D context name config).map Prod.snd
  | .closeContext context => c.closeContext D context
  | .register context block data flags => (c.register context block data flags).map Prod.snd
  | .allocate context block size flags => (c.allocate context block size flags).map Prod.snd
  | .write block offset data => c.write block offset data
  | .release block => (c.release block).map Prod.snd
  | .newOperation operation specs => c.newOperation operation specs
  | .dropOperation operation => (c.dropOperation operation).map Prod.snd
  | .nameToken token operation => c.nameToken token operation
  | .cancel token limited => c.cancel D token limited
  | .openSession context session destination login operation =>
    (c.openSession D context session destination login operation).map Prod.snd
  | .invoke session command operation => (c.invoke D session command operation).map Prod.snd
  | .closeSession session => c.closeSession D session

/-- The client with the driver's own state replaced. -/
def withDriver (c : Client σ) (driver : σ) : Client σ :=
  { c with world := { c.world with driver } }

/-- What a client has to do with its driver. -/
structure Affairs (σ : Type) where
  driver : σ
  pages : Arena Page
  channels : Arena Channel
  sessions : Table String Session
  contexts : Table String Context

/-- The affairs of a client. -/
def affairs (c : Client σ) : Affairs σ :=
  ⟨c.world.driver, c.world.pages, c.world.channels, c.sessions, c.contexts⟩

/-- What a call does to the affairs of a client. Any call may do nothing about them. -/
inductive Effect (D : Driver σ) (c c' : Client σ) : ClientCall → Prop
  | idle {call : ClientCall} (affairs : c'.affairs = c.affairs) : Effect D c c' call
  /-- The device was opened, or was to be. -/
  | openContext {context : String} {name : Option String} {config : Config}
    (contexts : Table String Context) (new : c.contexts.contains context = false)
    (affairs : c'.affairs =
      { c.affairs with driver := (D.openDevice c.world.desk).2.driver, contexts })
    (entered : match (D.openDevice c.world.desk).1 with
      | .ok () => ∃ ctx, contexts = c.contexts.set context ctx
      | .error _ => contexts = c.contexts) : Effect D c c' (.openContext context name config)
  | closeContext {context : String} (held : c.contexts.contains context = true)
    (vacant : ∀ name s, c.sessions.get? name = some s → s.context ≠ context)
    (affairs : c'.affairs = { c.affairs with
      driver := (D.closeDevice c.world.desk).2.driver
      contexts := c.contexts.erase context }) : Effect D c c' (.closeContext context)
  | cancel {token : String} {limited : Bool} (id : LifecycleId)
    (world : c'.world = c.world.cancelCall D id)
    (sessions : c'.sessions = c.sessions) (contexts : c'.contexts = c.contexts) :
    Effect D c c' (.cancel token limited)
  | openSession {context session : String} {destination : Uuid} {login : UInt32 × Option UInt32}
    {operation : Option String} (method : ConnectionMethod) (op : Option Operation)
    (held : c.contexts.contains context = true) (new : c.sessions.contains session = false)
    (world : c'.world = (c.world.openSession D destination method op).world)
    (sessions : c'.sessions = match (c.world.openSession D destination method op).result with
      | .ok id => c.sessions.set session ⟨context, id⟩
      | .error _ => c.sessions)
    (contexts : c'.contexts = c.contexts) :
    Effect D c c' (.openSession context session destination login operation)
  | invoke {session : String} {command : UInt32} {operation : Option String} (s : Session)
    (op : Option Operation) (named : c.sessions.get? session = some s)
    (world : c'.world = (c.world.invoke D s.channel command op).world)
    (sessions : c'.sessions = c.sessions) (contexts : c'.contexts = c.contexts) :
    Effect D c c' (.invoke session command operation)
  | closeSession {session : String} (s : Session) (named : c.sessions.get? session = some s)
    (world : c'.world = c.world.closeSession D s.channel)
    (sessions : c'.sessions = c.sessions.erase session) (contexts : c'.contexts = c.contexts) :
    Effect D c c' (.closeSession session)

variable {D}

/-! ## What calls come to -/

/-- What opening a context comes to: it is refused before the device is asked, the device fails, or
the context gets a registry of its own. -/
inductive Opens (D : Driver σ) (c : Client σ) (context : String) (config : Config) :
    Except Failure Unit → Client σ → Prop
  | refused (failure : Failure) (journal : Journal) :
    Opens D c context config (.error failure) { c with world := { c.world with journal } }
  | failed (failure : Failure) (journal : Journal) (e : DriverFault)
    (device : (D.openDevice c.world.desk).1 = .error e) :
    Opens D c context config (.error failure) { c with
      world := { c.world with driver := (D.openDevice c.world.desk).2.driver, journal } }
  | opened (journal : Journal) (sound : config.fault? = none)
    (device : (D.openDevice c.world.desk).1 = .ok ()) :
    Opens D c context config (.ok ()) { c with
      world := { c.world with driver := (D.openDevice c.world.desk).2.driver, journal }
      registries := c.registries.add .empty
      contexts := c.contexts.set context ⟨config, c.registries.fresh⟩ }

/-- What creating a block comes to: it is refused, or entered over some memory. -/
inductive Creates (c : Client σ) (context block : String) (entry : BlockEntry) (flags : Access) :
    Except Failure Unit → Client σ → Prop
  | refused (failure : Failure) (journal : Journal) :
    Creates c context block entry flags (.error failure)
      { c with world := { c.world with journal } }
  | entered (ctx : Context) (memory : Memory) (buffer : Option BufferId)
    (record : Nat → Nat → Record) (held : c.contexts.get? context = some ctx)
    (new : c.blocks.contains block = false)
    (vetted : Registry.vet flags entry.size ctx.config.maxSharedMemorySize = .ok ()) :
    Creates c context block entry flags (.ok ())
      ({ c with world := { c.world with memory } }.addBlock block ctx.registry entry buffer flags
        record)

variable {c c' : Client σ}

/-- What opening a context comes to. -/
theorem openContext_cases {context : String} {name : Option String} {config : Config}
    {result : Except Failure Unit} (h : c.openContext D context name config = some (result, c')) :
    c.contexts.contains context = false ∧ Opens D c context config result c' := by
  unfold openContext at h
  split at h
  · cases h
  next hnew =>
    refine ⟨by simpa using hnew, ?_⟩
    split at h
    · cases h
      exact .refused _ _
    next hsound =>
      split at h
      · cases h
        exact .refused _ _
      simp only at h
      split at h
      next e he =>
        cases h
        exact .failed _ _ e he
      next he =>
        cases h
        exact .opened _ hsound he

/-- What closing a context comes to: how the device takes it is only logged. -/
theorem closeContext_cases {context : String} (h : c.closeContext D context = some c') :
    c.contexts.contains context = true ∧
    (∀ name s, c.sessions.get? name = some s → s.context ≠ context) ∧
    ∃ journal, c' = { c with
      world := { c.world with driver := (D.closeDevice c.world.desk).2.driver, journal }
      contexts := c.contexts.erase context } := by
  unfold closeContext at h
  split at h
  · cases h
  next ctx hget =>
    split at h
    · cases h
    next hvacant =>
      cases h
      refine ⟨Table.contains_iff.2 ⟨ctx, hget⟩, fun name s hs he => hvacant ?_, ?_⟩
      · exact List.any_eq_true.2 ⟨s, Table.mem_values_of_get? hs, beq_iff_eq.2 he⟩
      · split <;> exact ⟨_, rfl⟩

/-- What registering a block comes to. -/
theorem register_cases {context block : String} {data : Bytes} {flags : Access}
    {result : Except Failure Unit} (h : c.register context block data flags = some (result, c')) :
    c.Creates context block ⟨false, data.length⟩ flags result c' := by
  unfold register at h
  split at h
  · cases h
  next ctx held =>
    split at h
    · cases h
    next hnew =>
      split at h
      · cases h
        exact .refused _ _
      · cases h
        exact .refused _ _
      next hvet =>
        cases h
        exact .entered ctx _ _ _ held (by simpa using hnew) hvet

/-- What allocating a block comes to: no memory is needed for one without bytes. -/
theorem allocate_cases {context block : String} {size : Nat} {flags : Access}
    {result : Except Failure Unit} (h : c.allocate context block size flags = some (result, c')) :
    c.Creates context block ⟨true, size⟩ flags result c' := by
  unfold allocate at h
  split at h
  · cases h
  next ctx held =>
    split at h
    · cases h
    next hnew =>
      split at h
      · cases h
        exact .refused _ _
      · cases h
        exact .refused _ _
      next hvet =>
        split at h
        next hzero =>
          subst hzero
          cases h
          exact .entered ctx c.world.memory none .blockAllocated held (by simpa using hnew) hvet
        · cases h
          exact .entered ctx _ _ _ held (by simpa using hnew) hvet

/-- What writing into a block comes to. -/
theorem write_cases {block : String} {offset : Nat} {data : Bytes}
    (h : c.write block offset data = some c') :
    ∃ memory, c' = { c with world := { c.world with memory } } := by
  unfold write at h
  split at h
  · cases h
  split at h
  · cases h
  · split at h <;> cases h <;> exact ⟨_, rfl⟩

/-- What striking a block out comes to. -/
theorem dropBlock_eq (c : Client σ) (block : String) (b : Block) :
    ∃ memory journal, c.dropBlock block b = { c with
      world := { c.world with memory, journal }
      registries := c.registries.modify b.registry (·.erase b.id)
      blocks := c.blocks.erase block } := by
  unfold dropBlock
  simp only
  split <;> exact ⟨_, _, rfl⟩

/-- What releasing a block comes to. -/
theorem release_cases {block : String} {given : Option Bytes}
    (h : c.release block = some (given, c')) :
    ∃ b, c.blocks.get? block = some b ∧ c' = c.dropBlock block b := by
  unfold release at h
  split at h
  · cases h
  next b held =>
    split at h
    · cases h
    · cases h
      exact ⟨b, held, rfl⟩

/-- What building a parameter comes to. -/
theorem makeParameter_cases {spec : ParameterSpec} {p : Parameter}
    (h : c.makeParameter spec = some (p, c')) :
    ∃ memory, c' = { c with world := { c.world with memory } } := by
  cases spec with
  | unused | value | query | temporary =>
    cases h
    exact ⟨_, rfl⟩
  | whole | window =>
    obtain ⟨b, -, hb⟩ := Option.map_eq_some_iff.1 h
    cases hb
    exact ⟨_, rfl⟩

/-- What building an operation comes to: it is entered with the next lifecycle. -/
theorem newOperation_cases {operation : String} {specs : Slots ParameterSpec}
    (h : c.newOperation operation specs = some c') :
    ∃ memory params, c' = { c with
      world := { c.world with memory, lifecycles := c.world.lifecycles.add .new }
      operations := c.operations.set operation ⟨params, c.world.lifecycles.fresh⟩ } := by
  unfold newOperation at h
  split at h
  · cases h
  · simp only [Option.bind_eq_bind, Option.bind_eq_some_iff, Prod.exists] at h
    obtain ⟨p₀, c₀, h₀, p₁, c₁, h₁, p₂, c₂, h₂, p₃, c₃, h₃, he⟩ := h
    cases he
    -- the parameters bring nothing but their buffers
    obtain ⟨_, rfl⟩ := makeParameter_cases h₀
    obtain ⟨_, rfl⟩ := makeParameter_cases h₁
    obtain ⟨_, rfl⟩ := makeParameter_cases h₂
    obtain ⟨_, rfl⟩ := makeParameter_cases h₃
    exact ⟨_, _, rfl⟩

/-- What dropping an operation comes to. -/
theorem dropOperation_cases {operation : String} {buffers : Slots (Option Bytes)}
    (h : c.dropOperation operation = some (buffers, c')) :
    ∃ memory, c' = { c with
      world := { c.world with memory }
      operations := c.operations.erase operation } := by
  unfold dropOperation at h
  split at h
  · cases h
  · cases h
    exact ⟨_, rfl⟩

/-- What a request to cancel comes to. -/
theorem cancel_cases {token : String} {limited : Bool} (h : c.cancel D token limited = some c') :
    ∃ id, c' = { c with world := c.world.cancelCall D id } := by
  unfold cancel at h
  split at h
  · cases h
  · split at h
    · cases h
    · cases h
      exact ⟨_, rfl⟩

/-- Keeping an operation changes neither the world nor the sessions and contexts. -/
theorem keepOperation_eq (c : Client σ) (name : Option String) (op : Option Operation) :
    (c.keepOperation name op).world = c.world ∧ (c.keepOperation name op).sessions = c.sessions ∧
      (c.keepOperation name op).contexts = c.contexts := by
  unfold keepOperation
  split <;> exact ⟨rfl, rfl, rfl⟩

/-- The client after an attempt to open a session: the operation is put back, and the session is
entered if there is one. -/
def afterOpening (c : Client σ) (context session : String) (operation : Option String)
    (opening : Opening σ) : Client σ :=
  let kept := { c with world := opening.world }.keepOperation operation opening.operation
  match opening.result with
  | .ok id => { kept with sessions := kept.sessions.set session ⟨context, id⟩ }
  | .error _ => kept

/-- World, sessions and contexts after an attempt to open a session. -/
theorem afterOpening_eq (c : Client σ) (context session : String) (operation : Option String)
    (opening : Opening σ) :
    (c.afterOpening context session operation opening).world = opening.world ∧
    (c.afterOpening context session operation opening).sessions = (match opening.result with
      | .ok id => c.sessions.set session ⟨context, id⟩
      | .error _ => c.sessions) ∧
    (c.afterOpening context session operation opening).contexts = c.contexts := by
  obtain ⟨hw, hs, hc⟩ := keepOperation_eq { c with world := opening.world } operation
    opening.operation
  unfold afterOpening
  cases opening.result with
  | error failure => exact ⟨hw, hs, hc⟩
  | ok id => exact ⟨hw, congrArg (Table.set · session ⟨context, id⟩) hs, hc⟩

/-- What opening a session comes to: a login that is not supported is refused before anything is
done, and with any other the world makes an attempt. -/
theorem openSession_cases {c c' : Client σ} {context session : String} {destination : Uuid}
    {login : UInt32 × Option UInt32} {operation : Option String}
    {result : Except Failure ChannelId}
    (h : c.openSession D context session destination login operation = some (result, c')) :
    (c.contexts.contains context = true ∧ c.sessions.contains session = false) ∧
    ∃ op, c.operation? operation = some op ∧
      match ConnectionMethod.ofRaw login.1 login.2 with
      | .error fault => result = .error fault.failure ∧
        ∃ journal, c' = { c with world := { c.world with journal } }
      | .ok method => result = (c.world.openSession D destination method op).result ∧
        c' = c.afterOpening context session operation
          (c.world.openSession D destination method op) := by
  unfold openSession at h
  split at h
  · cases h
  next hguard =>
    simp only [Bool.or_eq_true, Bool.not_eq_true', not_or, Bool.not_eq_false,
      Bool.not_eq_true] at hguard
    split at h
    · cases h
    next op hop =>
      refine ⟨hguard, op, hop, ?_⟩
      -- a method that cannot be sent is refused before the driver is asked
      cases hmethod : ConnectionMethod.ofRaw login.1 login.2 with
      | error fault =>
        simp only [hmethod] at h ⊢
        cases fault <;> cases h <;> exact ⟨rfl, _, rfl⟩
      | ok method =>
        simp only [hmethod] at h ⊢
        unfold afterOpening
        split at h
        next failure he =>
          cases h
          simp only [he, and_self]
        next id he =>
          cases h
          simp only [he, and_self]

/-- What invoking a command comes to: the world makes a call, and the operation is put back. -/
theorem invoke_cases {c c' : Client σ} {session : String} {command : UInt32}
    {operation : Option String} {result : Except Failure Origin}
    (h : c.invoke D session command operation = some (result, c')) :
    ∃ s op, c.sessions.get? session = some s ∧ c.operation? operation = some op ∧
      result = (c.world.invoke D s.channel command op).result ∧
      c' = { c with world := (c.world.invoke D s.channel command op).world }.keepOperation
        operation (c.world.invoke D s.channel command op).operation := by
  unfold invoke at h
  split at h
  next s op hs hop =>
    cases h
    exact ⟨s, op, hs, hop, rfl, rfl⟩
  · cases h

/-- What closing a session comes to. -/
theorem closeSession_cases {c c' : Client σ} {session : String}
    (h : c.closeSession D session = some c') :
    ∃ s, c.sessions.get? session = some s ∧ c' = { c with
      world := c.world.closeSession D s.channel
      sessions := c.sessions.erase session } := by
  unfold closeSession at h
  split at h
  · cases h
  next s hs =>
    cases h
    exact ⟨s, hs, rfl⟩

/-- What opening a context does. -/
theorem effect_openContext {c c' : Client σ} {context : String} {name : Option String}
    {config : Config} (h : c.perform D (.openContext context name config) = some c') :
    Effect D c c' (.openContext context name config) := by
  obtain ⟨⟨result, c'⟩, hr, rfl⟩ := Option.map_eq_some_iff.1 h
  obtain ⟨hnew, hopens⟩ := openContext_cases hr
  cases hopens with
  | refused => exact .idle rfl
  | failed failure journal e he => exact .openContext c.contexts hnew rfl (by rw [he])
  | opened journal sound he => exact .openContext _ hnew rfl (by rw [he]; exact ⟨_, rfl⟩)

/-- What opening a session does. -/
theorem effect_openSession {c c' : Client σ} {context session : String} {destination : Uuid}
    {login : UInt32 × Option UInt32} {operation : Option String}
    (h : c.perform D (.openSession context session destination login operation) = some c') :
    Effect D c c' (.openSession context session destination login operation) := by
  obtain ⟨⟨result, c'⟩, hr, rfl⟩ := Option.map_eq_some_iff.1 h
  obtain ⟨⟨held, new⟩, op, -, hcase⟩ := openSession_cases hr
  cases hmethod : ConnectionMethod.ofRaw login.1 login.2 with
  | error fault =>
    simp only [hmethod] at hcase
    obtain ⟨-, journal, rfl⟩ := hcase
    exact .idle rfl
  | ok method =>
    simp only [hmethod] at hcase
    obtain ⟨-, rfl⟩ := hcase
    obtain ⟨hw, hs, hc⟩ := afterOpening_eq c context session operation
      (c.world.openSession D destination method op)
    exact .openSession method op held new hw hs hc

/-- What invoking a command does. -/
theorem effect_invoke {c c' : Client σ} {session : String} {command : UInt32}
    {operation : Option String} (h : c.perform D (.invoke session command operation) = some c') :
    Effect D c c' (.invoke session command operation) := by
  obtain ⟨⟨result, c'⟩, hr, rfl⟩ := Option.map_eq_some_iff.1 h
  obtain ⟨s, op, hs, -, -, rfl⟩ := invoke_cases hr
  obtain ⟨hw, hss, hc⟩ := keepOperation_eq
    { c with world := (c.world.invoke D s.channel command op).world } operation
    (c.world.invoke D s.channel command op).operation
  exact .invoke s op hs hw hss hc

/-- Every call has one of the effects. -/
theorem effect_of_perform {c c' : Client σ} {call : ClientCall} (h : c.perform D call = some c') :
    Effect D c c' call := by
  cases call with
  | openContext => exact effect_openContext h
  | closeContext =>
    obtain ⟨held, vacant, journal, rfl⟩ := closeContext_cases h
    exact .closeContext held vacant rfl
  | openSession => exact effect_openSession h
  | invoke => exact effect_invoke h
  | closeSession session =>
    obtain ⟨s, hs, rfl⟩ := closeSession_cases h
    exact .closeSession s hs rfl rfl rfl
  | cancel =>
    obtain ⟨id, rfl⟩ := cancel_cases h
    exact .cancel id rfl rfl rfl
  -- blocks and operations are no affairs with the driver
  | register =>
    obtain ⟨⟨result, _⟩, hr, rfl⟩ := Option.map_eq_some_iff.1 h
    cases register_cases hr <;> exact .idle rfl
  | allocate =>
    obtain ⟨⟨result, _⟩, hr, rfl⟩ := Option.map_eq_some_iff.1 h
    cases allocate_cases hr <;> exact .idle rfl
  | write =>
    obtain ⟨memory, rfl⟩ := write_cases h
    exact .idle rfl
  | release block =>
    obtain ⟨⟨given, _⟩, hr, rfl⟩ := Option.map_eq_some_iff.1 h
    obtain ⟨b, -, rfl⟩ := release_cases hr
    obtain ⟨memory, journal, he⟩ := c.dropBlock_eq block b
    exact .idle (by rw [he]; rfl)
  | newOperation =>
    obtain ⟨memory, params, rfl⟩ := newOperation_cases h
    exact .idle rfl
  | dropOperation =>
    obtain ⟨⟨buffers, _⟩, hr, rfl⟩ := Option.map_eq_some_iff.1 h
    obtain ⟨memory, rfl⟩ := dropOperation_cases hr
    exact .idle rfl
  | nameToken =>
    obtain ⟨op, -, rfl⟩ := Option.map_eq_some_iff.1 h
    exact .idle rfl

/-- What survives all that calls on sessions do, the device and requests to cancel, survives every
call of a client. -/
theorem driver_effect {Q : σ → Prop} (hs : SessionSafe D Q)
    (hopen : ∀ d, Q d.driver → Q (D.openDevice d).2.driver)
    (hclose : ∀ d, Q d.driver → Q (D.closeDevice d).2.driver)
    (hcancel : ∀ (w : World σ) id, Q w.driver → Q (w.cancelCall D id).driver)
    {c c' : Client σ} {call : ClientCall} (he : Effect D c c' call) (h : Q c.world.driver) :
    Q c'.world.driver := by
  cases he with
  | idle affairs =>
    rw [show c'.world.driver = c.world.driver from congrArg Affairs.driver affairs]
    exact h
  | openContext contexts _ affairs _ =>
    rw [show c'.world.driver = _ from congrArg Affairs.driver affairs]
    exact hopen c.world.desk h
  | closeContext _ _ affairs =>
    rw [show c'.world.driver = _ from congrArg Affairs.driver affairs]
    exact hclose c.world.desk h
  | cancel id world _ _ =>
    rw [world]
    exact hcancel c.world id h
  -- a call on a session is made of what the hypothesis allows for
  | openSession method op _ _ world _ _ =>
    rw [world]
    exact World.openSession_preserves_of (fun w id channel instruction command =>
      hs.carry w id channel instruction command op) hs.closeSession (hs.openSession _ _ _ _ h)
  | invoke s op _ world _ _ =>
    rw [world]
    exact World.invoke_preserves_of (fun w id channel instruction command =>
      hs.carry w id channel instruction command op) s.channel _ h
  | closeSession s _ world _ _ =>
    rw [world]
    exact World.closeSession_preserves_of (fun w id channel =>
      hs.carry w id channel .closeSession 0 none) hs.closeSession s.channel h

variable (D)

/-- Runs from one client to another. Right before each call the driver's own state may change from
outside, as `before` allows. -/
inductive Steps (before : ClientCall → σ → σ → Prop) (c : Client σ) : Client σ → Prop
  /-- No call is made. -/
  | refl : Steps before c c
  /-- One more call is made. -/
  | call {c₁ c₂ : Client σ} (call : ClientCall) (driver : σ) (run : Steps before c c₁)
      (change : before call c₁.world.driver driver)
      (performed : (c₁.withDriver driver).perform D call = some c₂) : Steps before c c₂

variable {D}

/-- Runs follow one another. -/
theorem Steps.trans {before : ClientCall → σ → σ → Prop} {c₁ c₂ c₃ : Client σ}
    (h : Steps D before c₁ c₂) (h' : Steps D before c₂ c₃) : Steps D before c₁ c₃ := by
  induction h' with
  | refl => exact h
  | call call driver _ change performed ih => exact .call call driver ih change performed

/-- Runs in which the driver may change less are runs in which it may change more. -/
theorem Steps.imp {before before' : ClientCall → σ → σ → Prop}
    (h : ∀ call a b, before call a b → before' call a b) {c c' : Client σ}
    (run : Steps D before c c') : Steps D before' c c' := by
  induction run with
  | refl => exact .refl
  | call call driver _ change performed ih =>
    exact .call call driver ih (h call _ _ change) performed

/-- What holds at the start and is preserved by every call holds after every run. -/
theorem Steps.preserves {before : ClientCall → σ → σ → Prop} {P : Client σ → Prop}
    (step : ∀ c c' call driver, P c → before call c.world.driver driver →
      (c.withDriver driver).perform D call = some c' → P c')
    {c c' : Client σ} (run : Steps D before c c') (h : P c) : P c' := by
  induction run with
  | refl => exact h
  | call call driver _ change performed ih => exact step _ _ call driver ih change performed

variable (D)

/-- Make calls one after the other, with the driver's own state changed before each of them. -/
def performAll (change : ClientCall → σ → σ) (c : Client σ) : List ClientCall → Option (Client σ)
  | [] => some c
  | call :: rest =>
    ((c.withDriver (change call c.world.driver)).perform D call).bind fun c' =>
      performAll change c' rest

variable {D}

/-- Calls made one after the other are a run. -/
theorem steps_performAll {before : ClientCall → σ → σ → Prop} {change : ClientCall → σ → σ}
    (hchange : ∀ call driver, before call driver (change call driver)) {calls : List ClientCall}
    {c c' : Client σ} (h : c.performAll D change calls = some c') : Steps D before c c' := by
  induction calls generalizing c with
  | nil =>
    cases h
    exact .refl
  | cons call rest ih =>
    obtain ⟨c₁, h₁, hrest⟩ := Option.bind_eq_some_iff.1 h
    exact .trans (.call call _ .refl (hchange call _) h₁) (ih hrest)

end Client

end TeeClient

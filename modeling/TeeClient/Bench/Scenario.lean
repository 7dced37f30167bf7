import TeeClient.Bench.Listing
import TeeClient.Bench.ScenarioStep

/-!
# Scenarios

A scenario is a client program given step by step, on a simulated secure world behind a recorder.
Each step has an answer and what the journal gained by it. After the last step everything that is
left is given up.

Cancellations come from hooks and applications, while a call is under way. Their notifications are
counted and recorded, and wake no worker here; everything else is the simulated secure world as it
is. A scenario does not send an operation with a temporary reference whose size has outgrown its
buffer.
-/

namespace TeeClient.Bench

/-- The bench's driver: a recorded secure world of scripted applications. -/
abbrev BenchDriver := Recorder (SecureWorld UInt32)

/-- A client program at work. -/
structure Scenario where
  /-- The client. -/
  client : Client BenchDriver

namespace Scenario

/-- The secure world of the bench. A cancellation notifies it like a call, but wakes no worker. -/
def secureSide : Driver (SecureWorld UInt32) :=
  { SecureWorld.driver with
    notify := fun purpose handle s => match purpose with
      | .call => SecureWorld.notify handle s
      | .cancellation =>
        let (result, driver) := SecureWorld.knock s.driver
        .done result { s with driver } }

/-- The recorded driver of the bench. -/
def device : Driver BenchDriver := Recorder.driver secureSide

/-- A client on a fresh secure world. -/
def start (apps : Table Uuid (App UInt32)) : Scenario :=
  ⟨.start (Recorder.start (SecureWorld.start apps))⟩

/-- The secure world of the scenario. -/
def secureWorld (s : Scenario) : SecureWorld UInt32 := s.client.world.driver.inner

/-- Change the recorder. -/
def onRecorder (s : Scenario) (f : BenchDriver → BenchDriver) : Scenario :=
  ⟨{ s.client with world := { s.client.world with driver := f s.client.world.driver } }⟩

/-- A session of the client as the library knows it. -/
def channel? (s : Scenario) (session : String) : Option Channel := do
  s.client.world.channels.get? (← s.client.sessions.get? session).channel

/-- A parameter as it is shown, with the buffer of a temporary reference if that is wanted. -/
def parameterInfo (s : Scenario) (withData : Bool) (p : Parameter) : ParameterInfo where
  type := p.type
  value := p.value?
  size := p.size?
  direction := p.temporaryDirection?
  data := if withData then s.client.temporaryBytes? p else none

/-- An operation as it is shown. -/
def operationInfo (s : Scenario) (op : Operation) : OperationInfo where
  progress := s.client.world.progress op.lifecycle
  origin := ((s.client.world.lifecycles.get? op.lifecycle).getD .new).origin
  types := op.types
  params := op.params.toList.map (s.parameterInfo true)

/-- The answer to a step that may be refused, and otherwise changes the client. -/
def changed (s : Scenario) (c : Option (Client BenchDriver)) : ScenarioAnswer × Scenario :=
  match c with
  | none => (.refused, s)
  | some client => (.done, ⟨client⟩)

/-- The answer to a step that creates a block. -/
def created (s : Scenario) (block : String)
    (c : Option (Except Failure Unit × Client BenchDriver)) : ScenarioAnswer × Scenario :=
  match c with
  | none => (.refused, s)
  | some (.error failure, client) => (.failed failure, ⟨client⟩)
  | some (.ok (), client) =>
    match client.blocks.get? block with
    | none => (.done, ⟨client⟩)
    | some b => (.block b.size b.flags b.allocated, ⟨client⟩)

/-- The answer to a question, refused if it is about nothing. -/
def asked {α : Type} (s : Scenario) (x : Option α) (answer : α → ScenarioAnswer) :
    ScenarioAnswer × Scenario :=
  (x.elim .refused answer, s)

/-- Open a context with the settings of a step. -/
def openContext (s : Scenario) (context : String) (name : Option String) (config : Config) :
    ScenarioAnswer × Scenario :=
  match s.client.openContext device context name config with
  | none => (.refused, s)
  | some (.error failure, client) => (.failed failure, ⟨client⟩)
  | some (.ok (), client) => (.config config, ⟨client⟩)

/-- Whether the operation of a name has a temporary reference that has outgrown its buffer. -/
def outgrown (s : Scenario) (operation : Option String) : Bool :=
  (s.client.operation? operation).any fun op => op.any (!s.client.fits ·)

/-- Carry out one step. -/
def run (s : Scenario) : ScenarioStep → ScenarioAnswer × Scenario
  | .openContext context name setup =>
    if s.client.contexts.contains context then (.refused, s)
    else match setup with
    | .default => s.openContext context name .default
    | .settings config => s.openContext context name config
    | .document text =>
      match Config.ofText text with
      | .error e => (.configFailed e, s)
      | .ok config => s.openContext context name config
  | .closeContext context => s.changed (s.client.closeContext device context)
  | .allocate context block size flags =>
    s.created block (s.client.allocate context block size flags)
  | .register context block data flags =>
    s.created block (s.client.register context block data flags)
  | .write block offset data => s.changed (s.client.write block offset data)
  | .read block => s.asked (s.client.blocks.get? block) fun b => .bytes (s.client.contents b)
  | .release none => (.done, s)
  | .release (some block) =>
    match s.client.release block with
    | none => (.refused, s)
    | some (none, client) => (.done, ⟨client⟩)
    | some (some data, client) => (.bytes data, ⟨client⟩)
  | .counts context => s.asked (s.client.contexts.get? context) fun ctx =>
    let (registered, allocated) := s.client.blockCounts ctx
    .counts registered allocated s.secureWorld.openSessions
  | .openSession context session destination login operation =>
    if (ConnectionMethod.ofRaw login.1 login.2).isOk && s.outgrown operation then (.refused, s)
    else match s.client.openSession device context session destination login operation with
    | none => (.refused, s)
    | some (.error failure, client) => (.failed failure, ⟨client⟩)
    | some (.ok _, client) =>
      let s : Scenario := ⟨client⟩
      s.asked (s.channel? session) fun channel => .opened channel.handle channel.active
  | .invoke session command operation =>
    if s.outgrown operation then (.refused, s)
    else match s.client.invoke device session command operation with
    | none => (.refused, s)
    | some (result, client) =>
      let s : Scenario := ⟨client⟩
      let op := operation.bind client.operations.get?
      (.invoked result ((s.channel? session).any (·.active)) (op.map s.operationInfo), s)
  | .session session => s.asked (s.channel? session) fun channel =>
    let device := do
      let entry ← s.client.sessions.get? session
      (← s.client.contexts.get? entry.context).config.deviceName
    .session channel.handle channel.active (device.getD "")
  | .closeSession none => (.done, s)
  | .closeSession (some session) => s.changed (s.client.closeSession device session)
  | .newOperation operation params =>
    match s.client.newOperation operation params with
    | none => (.refused, s)
    | some client =>
      let s : Scenario := ⟨client⟩
      s.asked (client.operations.get? operation) fun op => .operation (s.operationInfo op)
  | .operation operation => s.asked (s.client.operations.get? operation) fun op =>
    .operation (s.operationInfo op)
  | .parameter operation slot => s.asked (s.client.operations.get? operation) fun op =>
    match Slot.ofNat? slot with
    | none => .noSuchSlot
    | some i => .parameter (s.parameterInfo false (op.param i))
  | .dropOperation operation =>
    match s.client.dropOperation operation with
    | none => (.refused, s)
    | some (data, client) => (.buffers data.toList, ⟨client⟩)
  | .token token operation => s.changed (s.client.nameToken token operation)
  | .progress token => s.asked (s.client.progressOf? token) .progress
  | .cancel token context limit =>
    let limited : Option Bool := match context with
      | none => some limit.isSome
      | some context =>
        (s.client.contexts.get? context).map (·.config.cancelWaitLimitMs.isSome)
    match limited.bind (s.client.cancel device token) with
    | none => (.refused, s)
    | some client =>
      let s : Scenario := ⟨client⟩
      s.asked (client.progressOf? token) .progress
  | .fault fault =>
    (.done, s.onRecorder fun r =>
      { r with inner := { r.inner with faults := fault.arm r.inner.faults } })
  | .override o => (.done, s.onRecorder fun r => { r with overrides := r.overrides ++ [o] })
  | .hook h => (.done, s.onRecorder fun r => { r with hooks := r.hooks ++ [h] })
  | .stats => (.stats (.of s.secureWorld), s)
  | .listSession session => s.asked (s.channel? session) fun channel =>
    .text (Listing.session channel)
  | .listBlock block => s.asked (s.client.blocks.get? block) fun b => .text (Listing.block b)
  | .listToken token => s.asked (s.client.progressOf? token) fun p => .text (Listing.token p)
  | .listOperation operation =>
    s.asked ((s.client.operations.get? operation).bind fun op =>
      Listing.operation? op (s.client.world.progress op.lifecycle)) .text
  | .listContext context => s.asked (s.client.contexts.get? context) fun ctx =>
    .text (Listing.context ctx.config (s.client.blockCounts ctx))
  | .unknown => (.refused, s)

/-- What the journal gained, in order, and the scenario with an empty journal. -/
def drain (s : Scenario) : List Entry × Scenario :=
  (s.client.world.journal.inOrder,
    ⟨{ s.client with world := { s.client.world with journal := [] } }⟩)

end Scenario

/-- What a scenario shows. -/
structure ScenarioReport where
  /-- The answer to each step, and what the journal gained by it. -/
  results : List (ScenarioAnswer × List Entry)
  /-- What the journal gained at the end. -/
  ending : List Entry
  /-- The figures of the secure world at the end. -/
  stats : Stats

/-- Carry out a client program on a fresh secure world. -/
def runScenario (apps : Table Uuid (App UInt32)) (steps : List ScenarioStep) : ScenarioReport :=
  let (results, s) := steps.foldl
    (fun (acc : List (ScenarioAnswer × List Entry) × Scenario) step =>
      let (answer, s) := acc.2.run step
      let (entries, s) := s.drain
      ((answer, entries) :: acc.1, s))
    ([], Scenario.start apps)
  let (ending, s) := Scenario.drain ⟨s.client.finish Scenario.device⟩
  ⟨results.reverse, ending, .of s.secureWorld⟩

end TeeClient.Bench

import TeeClient.SecureWorld

/-!
# Steps on a simulated secure world

The simulated secure world under single primitives, without the client library: pages and buffers go
by names that the steps choose, and the steps publish requests themselves.
-/

namespace TeeClient.Bench

/-- A fault to arm. -/
inductive FaultStep
  | openDevice (error : DriverFault)
  | openSession (error : DriverFault)
  | mapAfter (successes : Nat)
  | notify (on : Bool)
  | exitCode (code : Int)
  | forceResult (origin status : UInt32)

/-- The faults after one more is armed. -/
def FaultStep.arm (f : ArmedFaults) : FaultStep → ArmedFaults
  | openDevice error => { f with openDevice := some error }
  | openSession error => { f with openSession := some error }
  | mapAfter successes => { f with mapBudget := some successes }
  | notify on => { f with notify := on }
  | exitCode code => { f with exitCode := some code }
  | forceResult origin status => { f with forcedResult := some (origin, status) }

/-- The usage of a secure world, and what it holds. -/
structure Stats where
  usage : Usage
  liveMappings : Nat
  openSessions : Nat

/-- The present figures of a secure world. -/
def Stats.of {κ : Type} (w : SecureWorld κ) : Stats :=
  ⟨w.usage, w.liveMappings, w.openSessions⟩

/-- A step. -/
inductive DeviceStep
  | page (name : String)
  | publish (page : String) (instruction command types : UInt32) (params : List SlotWords)
      (cancelled ready : Bool)
  | snapshot (page : String)
  | buffer (name : String) (data : Bytes)
  | read (buffer : String)
  | openDevice
  | closeDevice
  | open (page : String) (destination : Uuid) (login : Login)
  | close (handle : Handle)
  | wait (handle : Handle) (limit : Option Nat)
  | notify (handle : Handle)
  | errorCode (handle : Handle)
  | map (handle : Handle) (buffer : String) (len : Nat) (access : Access)
  | unmap (handle : Handle) (buffer : String) (info : SecureRange)
  | stats
  | fault (fault : FaultStep)

/-- The answer to a step. -/
inductive DeviceAnswer
  | refused
  | done
  | noSuchSlot (slot : Nat)
  | snapshot (p : Page)
  | bytes (data : Bytes)
  | unit (result : Except DriverFault Unit)
  | handle (result : Except DriverFault Handle)
  | code (result : Except DriverFault Int)
  | mapping (result : Except DriverFault SecureRange)
  /-- A result together with what the applications noted since the last such answer. -/
  | drained (result : Except DriverFault Unit) (entries : List Entry)
  | stats (s : Stats)

/-- A secure world with the pages and buffers of the steps. -/
structure DeviceBench where
  /-- The secure world and what it may touch. -/
  shared : Shared (SecureWorld UInt32)
  /-- The pages by name. -/
  pages : Table String PageId
  /-- The buffers by name. -/
  buffers : Table String BufferId

namespace DeviceBench

/-- The buffer that stands for every buffer without bytes: they all have one address. -/
def emptyBuffer : BufferId := 0

/-- A fresh secure world. -/
def start (apps : Table Uuid (App UInt32)) : DeviceBench where
  shared := ⟨.start apps, [], .empty, Arena.empty.add []⟩
  pages := .empty
  buffers := .empty

/-- Fill the slots of a page in order. A slot that does not exist ends it. -/
def fillSlots : Nat → List SlotWords → Page → Option Nat × Page
  | _, [], p => (none, p)
  | slot, w :: rest, p =>
    match Slot.ofNat? slot with
    | none => (some slot, p)
    | some i => fillSlots (slot + 1) rest (p.setParam i w)

/-- Change what the secure world may touch. -/
def withShared (b : DeviceBench) (s : Shared (SecureWorld UInt32)) : DeviceBench :=
  { b with shared := s }

/-- Change the secure world. -/
def onWorld (b : DeviceBench) (f : SecureWorld UInt32 → SecureWorld UInt32) : DeviceBench :=
  b.withShared { b.shared with driver := f b.shared.driver }

/-- Use a primitive that sees the secure world and the journal. -/
def atDesk {α : Type}
    (act : Desk (SecureWorld UInt32) → Reply (Desk (SecureWorld UInt32)) α) (b : DeviceBench) :
    α × DeviceBench :=
  let (value, desk) := (act b.shared.desk).alone
  (value, b.withShared (b.shared.withDesk desk))

/-- Use a primitive during which applications run. -/
def atShared {α : Type}
    (act : Shared (SecureWorld UInt32) → Reply (Shared (SecureWorld UInt32)) α)
    (b : DeviceBench) : α × DeviceBench :=
  let (value, shared) := (act b.shared).alone
  (value, b.withShared shared)

/-- An answer with everything that was noted, which is forgotten then. -/
def drain (result : Except DriverFault Unit) (b : DeviceBench) : DeviceAnswer × DeviceBench :=
  (.drained result b.shared.journal.inOrder, b.withShared { b.shared with journal := [] })

/-- Carry out one step. -/
def run (b : DeviceBench) : DeviceStep → DeviceAnswer × DeviceBench
  | .page name =>
    if b.pages.contains name then (.refused, b)
    else
      let id := b.shared.pages.fresh
      (.done, { b with
        shared := { b.shared with pages := b.shared.pages.add .blank }
        pages := b.pages.set name id })
  | .publish name instruction command types params cancelled ready =>
    match b.pages.get? name with
    | none => (.refused, b)
    | some id =>
      let p := (((b.shared.page id).setTag Page.formatTag).setInstruction instruction)
      let (missing, p) := fillSlots 0 params ((p.setCommand command).setTypes types)
      match missing with
      | some slot => (.noSuchSlot slot, b.withShared (b.shared.onPage id fun _ => p))
      | none =>
        let p := (p.setCancelled cancelled).setReady ready
        (.done, b.withShared (b.shared.onPage id fun _ => p))
  | .snapshot name =>
    match b.pages.get? name with
    | none => (.refused, b)
    | some id => (.snapshot (b.shared.page id), b)
  | .buffer name data =>
    if b.buffers.contains name then (.refused, b)
    else if data.isEmpty then (.done, { b with buffers := b.buffers.set name emptyBuffer })
    else
      let id := b.shared.memory.fresh
      (.done, { b with
        shared := { b.shared with memory := b.shared.memory.add data }
        buffers := b.buffers.set name id })
  | .read name =>
    match b.buffers.get? name with
    | none => (.refused, b)
    | some id => (.bytes (b.shared.memory.bytes id), b)
  | .openDevice =>
    let (result, desk) := SecureWorld.openDevice b.shared.desk
    (.unit result, b.withShared (b.shared.withDesk desk))
  | .closeDevice =>
    let (result, desk) := SecureWorld.closeDevice b.shared.desk
    (.unit result, b.withShared (b.shared.withDesk desk))
  | .open name destination login =>
    match b.pages.get? name with
    | none => (.refused, b)
    | some id =>
      let b := b.withShared (b.shared.onPage id (·.setDestination destination))
      let (result, b) := b.atDesk (SecureWorld.driver.openSession destination login id)
      (.handle result, b)
  | .close handle =>
    let (result, b) := b.atDesk (SecureWorld.driver.closeSession handle)
    drain result b
  | .wait handle limit =>
    let (result, b) := b.atShared (SecureWorld.driver.wait handle limit)
    drain result b
  | .notify handle =>
    let (result, b) := b.atShared (SecureWorld.driver.notify .call handle)
    (.unit result, b)
  | .errorCode handle =>
    let (result, b) := b.atDesk (SecureWorld.driver.errorCode handle)
    (.code result, b)
  | .map handle name len access =>
    match b.buffers.get? name with
    | none => (.refused, b)
    | some id =>
      let (result, b) := b.atDesk (SecureWorld.driver.map handle ⟨id, 0⟩ len access)
      (.mapping result, b)
  | .unmap handle name info =>
    match b.buffers.get? name with
    | none => (.refused, b)
    | some id =>
      let (result, b) := b.atDesk (SecureWorld.driver.unmap handle ⟨id, 0⟩ info)
      (.unit result, b)
  | .stats => (.stats (.of b.shared.driver), b)
  | .fault fault => (.done, b.onWorld fun w => { w with faults := fault.arm w.faults })

end DeviceBench

/-- Carry out steps in turn on a fresh secure world. -/
def runDeviceSteps (apps : Table Uuid (App UInt32)) (steps : List DeviceStep) :
    List DeviceAnswer :=
  (steps.foldl
    (fun (acc : List DeviceAnswer × DeviceBench) step =>
      let (answer, bench) := acc.2.run step
      (answer :: acc.1, bench))
    ([], DeviceBench.start apps)).1.reverse

end TeeClient.Bench

import TeeClient.Parameter

/-!
# Operations

An `Operation` carries four parameters into a call. Its progress, the session that carries it and
the layer that answered last are kept apart from it, in a `Lifecycle`, so that a cancellation token
can reach them while the call is under way and still knows them when the operation is gone.

A lifecycle changes in three ways: a call begins (`begin`), the call returns (`finish`), and someone
wants the call abandoned (`cancel`). Main statement: a target is attached exactly while the
operation is started (`Lifecycle.WellFormed`, kept by all three).
-/

namespace TeeClient

/-- The number of a lifecycle. -/
abbrev LifecycleId := Nat

/-- The number under which a client knows an open session. -/
abbrev ChannelId := Nat

/-- The state that an operation shares with its cancellation tokens. -/
structure Lifecycle where
  /-- Where the operation is in its life. -/
  progress : Progress
  /-- The session that carries it, as long as a cancellation could still reach the call. -/
  target : Option ChannelId
  /-- The layer that produced the result of the last call. -/
  origin : Option Origin
  deriving DecidableEq, Repr

namespace Lifecycle

/-- The lifecycle of an operation that no call has carried. -/
def new : Lifecycle := ⟨.notStarted, none, none⟩

instance : Inhabited Lifecycle := ⟨new⟩

/-- A session takes the operation up. -/
def begin (l : Lifecycle) (target : ChannelId) : Lifecycle :=
  { l with progress := .started, target := some target }

/-- The call that carried the operation returned. -/
def finish (_ : Lifecycle) (origin : Origin) : Lifecycle := ⟨.finished, none, some origin⟩

/-- What a request to cancel comes to. -/
inductive Cancellation
  /-- No call has taken the operation up. -/
  | tooEarly
  /-- The call is over, or was cancelled before. -/
  | tooLate
  /-- The session that carries the operation is to be told. -/
  | due (target : Option ChannelId)
  deriving DecidableEq, Repr

/-- A request to cancel. Only the first during a call is due; it ends the call as far as the
operation is concerned. -/
def cancel (l : Lifecycle) : Cancellation × Lifecycle :=
  match l.progress with
  | .notStarted => (.tooEarly, l)
  | .finished => (.tooLate, l)
  | .started => (.due l.target, { l with progress := .finished, target := none })

/-- A target is attached exactly while the operation is started. -/
def WellFormed (l : Lifecycle) : Prop := l.target.isSome ↔ l.progress = .started

/-- A new lifecycle has no target. -/
theorem wellFormed_new : new.WellFormed := by simp [WellFormed, new]

/-- A call attaches its session as it starts the operation. -/
theorem wellFormed_begin (l : Lifecycle) (target : ChannelId) : (l.begin target).WellFormed := by
  simp [WellFormed, begin]

/-- The target goes when the call returns. -/
theorem wellFormed_finish (l : Lifecycle) (origin : Origin) : (l.finish origin).WellFormed := by
  simp [WellFormed, finish]

/-- A request to cancel takes the target with the progress, or leaves both. -/
theorem WellFormed.cancel {l : Lifecycle} (h : l.WellFormed) : l.cancel.2.WellFormed := by
  unfold Lifecycle.cancel
  split
  · exact h
  · exact h
  · simp [WellFormed]

/-- The origin of the last call survives every request to cancel. -/
theorem origin_cancel (l : Lifecycle) : l.cancel.2.origin = l.origin := by
  unfold cancel
  split <;> rfl

end Lifecycle

/-- Parameters of one call. -/
structure Operation where
  /-- The four slots. -/
  params : Slots Parameter
  /-- Where progress and origin are kept. -/
  lifecycle : LifecycleId
  deriving DecidableEq, Repr

namespace Operation

/-- The slot with the given number. -/
def param (op : Operation) (slot : Slot) : Parameter := op.params.get slot

/-- The operation with one slot replaced. -/
def setParam (op : Operation) (slot : Slot) (p : Parameter) : Operation :=
  { op with params := op.params.put slot p }

/-- The types of the slots as the client sees them. -/
def types (op : Operation) : UInt32 :=
  SlotType.pack (.ofFn fun slot => (op.param slot).type)

/-- The types of the slots as they are sent. -/
def sentTypes (op : Operation) : UInt32 :=
  SlotType.pack (.ofFn fun slot => (op.param slot).sentType)

/-- Whether a slot points into a block. -/
def refersTo (op : Operation) (b : Block) : Bool :=
  op.params.toList.any fun p => p.parent? == some b

end Operation

end TeeClient

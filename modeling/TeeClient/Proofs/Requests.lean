import TeeClient.Proofs.SessionCalls
import TeeClient.Proofs.Trace
import TeeClient.SecureWorld

/-!
# Which bytes a call asks the driver to map

A mapping request is always the plan of one slot of the operation that the call carries. What a slot
may lend was fixed when the operation was built: the bytes of the buffer of a temporary reference,
the bytes of the block of any other reference. Between calls a slot changes only in its values and
sizes (`Operation.shape_eq_of_carriedFrom`).

A reference into a block is checked against the block in every call. The size of a temporary
reference is taken as it is, and it may be one that a trusted application reported in an earlier
call, larger than the buffer.

Main statements:

* `requests_owned_iff`: a request stays inside the buffer of its slot exactly if the slot is not a
  temporary reference whose size has grown since the operation was built;
* `temporary_request_exceeds_buffer`: a request that does not.
-/

namespace TeeClient

/-- The bytes that a use asks to be mapped. -/
def Use.request? : Use → Option (Address × Nat)
  | .map _ address len _ _ => some (address, len)
  | _ => none

/-- The bytes that some uses ask to be mapped. -/
def requests (uses : List Use) : List (Address × Nat) := uses.filterMap Use.request?

/-- From `before` to `after` only bytes that satisfy `P` were asked for. -/
def Issues (P : Address × Nat → Prop) (before after : List Use) : Prop :=
  ∃ new, after = new ++ before ∧ ∀ r ∈ requests new, P r

namespace Issues

variable {P : Address × Nat → Prop} {a b c : List Use}

/-- Nothing need have been asked for. -/
theorem refl (uses : List Use) : Issues P uses uses := ⟨[], rfl, fun _ h => by cases h⟩

/-- More may be asked for later. -/
theorem trans (h : Issues P a b) (h' : Issues P b c) : Issues P a c := by
  obtain ⟨first, rfl, hf⟩ := h
  obtain ⟨second, rfl, hs⟩ := h'
  refine ⟨second ++ first, by simp, fun r hr => ?_⟩
  rw [requests, List.filterMap_append, List.mem_append] at hr
  exact hr.elim (hs r) (hf r)

/-- One more use, which asks for nothing or for bytes that satisfy `P`. -/
theorem cons {use : Use} (hu : ∀ r, use.request? = some r → P r) (uses : List Use) :
    Issues P uses (use :: uses) := by
  refine ⟨[use], rfl, fun r hr => hu r ?_⟩
  obtain ⟨use', hm, hr⟩ := List.mem_filterMap.1 hr
  rwa [List.mem_singleton.1 hm] at hr

end Issues

/-- Waking a session asks for nothing. -/
theorem Woken.issues {awake : Handle → Prop} {P : Address × Nat → Prop} {a b : List Use}
    (h : Woken awake a b) : Issues P a b := by
  obtain ⟨handles, rfl, -⟩ := h
  refine ⟨_, rfl, fun r hr => ?_⟩
  obtain ⟨use, hu, hr⟩ := List.mem_filterMap.1 hr
  obtain ⟨handle, -, rfl⟩ := List.mem_map.1 hu
  cases hr

/-! ## What a slot may lend, and what it asks for -/

namespace Parameter

/-- The slot without what a call may change in it. -/
def shape : Parameter → Parameter
  | unused => unused
  | value direction _ _ => value direction 0 0
  | temporary direction buffer _ => temporary direction buffer 0
  | whole parent _ => whole parent 0
  | window direction parent offset _ => window direction parent offset 0

/-- The bytes that the slot may lend when it is built: those of the buffer of a temporary reference,
whose size is the length of the buffer then, or those of the block. -/
def Owns (p : Parameter) (request : Address × Nat) : Prop :=
  match p with
  | temporary _ buffer size => buffer = some request.1.buffer ∧ request.1.offset + request.2 ≤ size
  | whole parent _ | window _ parent _ _ =>
    parent.buffer = some request.1.buffer ∧ request.1.offset + request.2 ≤ parent.size
  | unused | value .. => False

instance (p : Parameter) (request : Address × Nat) : Decidable (p.Owns request) := by
  unfold Owns
  split <;> infer_instance

/-- A temporary reference whose size has grown since it was built as `built`. -/
def Outgrown (built p : Parameter) : Prop :=
  match built, p with
  | temporary _ _ size, temporary _ _ size' => size < size'
  | _, _ => False

/-- What comes back from a call leaves the shape. -/
@[simp] theorem shape_receive (words : SlotWords) (p : Parameter) :
    (p.receive words).shape = p.shape := by
  cases p <;> rfl

/-- What a slot asks for belongs to it exactly if it has not outgrown its buffer. -/
theorem owns_iff_of_plan {built p : Parameter} (hs : p.shape = built.shape) {address : Address}
    {len : Nat} {access : Access} (hp : p.plan = .ok (.mapping address len access)) :
    built.Owns (address, len) ↔ ¬ Outgrown built p := by
  -- the shapes agree, so both are references of one kind
  cases p with
  | unused => cases hp
  | value direction a b => cases hp
  | temporary direction buffer size =>
    cases built <;> try cases hs
    next size₀ =>
      obtain ⟨hb, ho, rfl, -⟩ := Plan.of_reference_eq_mapping hp
      simp only [Owns, Outgrown, hb, ho, true_and]
      omega
  | whole parent size =>
    cases built <;> try cases hs
    obtain ⟨hb, ho, rfl, -⟩ := Plan.of_reference_eq_mapping hp
    simp only [Owns, Outgrown, hb, ho, true_and, not_false_eq_true, iff_true]
    omega
  | window direction parent offset size =>
    cases built <;> try cases hs
    obtain ⟨-, hin, hreference⟩ := of_plan_window hp
    obtain ⟨hb, ho, rfl, -⟩ := Plan.of_reference_eq_mapping hreference
    simp only [Owns, Outgrown, hb, ho, true_and, not_false_eq_true, iff_true]
    omega

end Parameter

namespace Operation

/-- The operation without what a call may change in it. -/
def shape (op : Operation) (slot : Slot) : Parameter := (op.param slot).shape

/-- What comes back in a slot leaves the shape. -/
theorem shape_setParam_receive (op : Operation) (slot : Slot) (words : SlotWords) :
    (op.setParam slot ((op.param slot).receive words)).shape = op.shape := by
  funext other
  show ((op.params.put slot _).get other).shape = (op.params.get other).shape
  rw [Slots.get_put]
  split
  next h => rw [Parameter.shape_receive, h, Operation.param]
  next => rfl

end Operation

/-! ## What a call asks for -/

section Calls

variable {σ : Type} (D : Driver σ)

/-- Mappings ask for their own bytes, and all else that a call does asks for nothing. -/
theorem driverSafe_issues (plans : Address → Nat → Prop) (before : List Use) :
    DriverSafe (Traced.driver D) plans fun t : Traced σ =>
      Issues (fun r => plans r.1 r.2) before t.uses := by
  -- uses are entered in three ways: with the result, while the secure world runs, and ahead
  have after : ∀ {α : Type} (use : α → Use) (act : Desk σ → Reply (Desk σ) α)
      (w : World (Traced σ)), (∀ result r, (use result).request? = some r → plans r.1 r.2) →
      Issues (fun r => plans r.1 r.2) w.driver.uses
        (w.onDesk (Traced.driver D) (Traced.enterAfter use act)).2.driver.uses := by
    intro α use act w hu
    obtain ⟨uses, hw, he⟩ := Traced.uses_enterAfter D use act w
    rw [he]
    exact hw.issues.trans (.cons (hu _) uses)
  have shared : ∀ {α : Type} (use : α → Use) (act : Shared σ → Reply (Shared σ) α)
      (w : World (Traced σ)), (∀ result, (use result).request? = none) →
      Issues (fun r => plans r.1 r.2) w.driver.uses
        (w.onShared (Traced.driver D) (Traced.enterShared use act)).2.driver.uses := by
    intro α use act w hu
    obtain ⟨uses, hw, he⟩ := Traced.uses_enterShared D use act w
    rw [he]
    exact hw.issues.trans (.cons (fun r hr => by rw [hu] at hr; cases hr) uses)
  have ahead : ∀ {α : Type} (use : Use) (act : Desk σ → Reply (Desk σ) α) (w : World (Traced σ)),
      use.request? = none → Issues (fun r => plans r.1 r.2) w.driver.uses
        (w.onDesk (Traced.driver D) (Traced.enterBefore use act)).2.driver.uses := by
    intro α use act w hu
    refine .trans (.cons (fun r hr => ?_) _) (Traced.uses_enterBefore D use act w).issues
    rw [hu] at hr
    cases hr
  exact {
    log := fun _ _ h => h
    onPage := fun _ _ _ h => h
    onLifecycle := fun _ _ _ h => h
    onChannel := fun _ _ _ h => h
    map := fun w handle address len access hp h =>
      h.trans (after (.map handle address len access) _ w fun _ r hr => by cases hr; exact hp)
    unmap := fun w handle address info h => h.trans (ahead (.unmap handle address info) _ w rfl)
    notify := fun w handle h => h.trans (shared (.notify handle) _ w fun _ => rfl)
    wait := fun w handle h => h.trans (shared (.wait handle) _ w fun _ => rfl)
    errorCode := fun w handle h => h.trans (ahead (.errorCode handle) _ w rfl)
    closeSession := fun w handle h => h.trans (ahead (.closeSession handle) _ w rfl)
    openSession := fun w destination login page h =>
      h.trans (after .openSession (D.openSession destination login page) w
        fun _ r hr => by cases hr) }

end Calls

/-! ## Operations over several calls -/

/-- One call carries an operation, from one world to another, and leaves it as another operation. -/
inductive Carries {σ : Type} (D : Driver σ) (op : Operation) :
    World σ → World σ → Option Operation → Prop
  | openSession (destination : Uuid) (method : ConnectionMethod) (w : World σ) :
    Carries D op w (w.openSession D destination method (some op)).world
      (w.openSession D destination method (some op)).operation
  | invoke (id : ChannelId) (command : UInt32) (w : World σ) :
    Carries D op w (w.invoke D id command (some op)).world
      (w.invoke D id command (some op)).operation

/-- What an operation has become after any calls that carried it, on any sessions of any drivers. -/
inductive CarriedFrom (built : Operation) : Operation → Prop
  | refl : CarriedFrom built built
  | call {op op' : Operation} {σ : Type} (D : Driver σ) {w w' : World σ}
      (earlier : CarriedFrom built op) (call : Carries D op w w' (some op')) : CarriedFrom built op'

section Shapes

variable {σ : Type} {D : Driver σ}

/-- A call leaves the shape of the operation it carries. -/
theorem shape_of_carries {op op' : Operation} {w w' : World σ}
    (h : Carries D op w w' (some op')) : op'.shape = op.shape := by
  have carry : ∀ id channel instruction command (w : World σ),
      (Call.carry D id channel instruction command (some op) w).operation = some op' →
      op'.shape = op.shape := by
    intro id channel instruction command w hop
    obtain ⟨op'', hop', hs⟩ := Call.operation_roundTrip (D := D)
      Operation.shape_setParam_receive id channel instruction command op
      (w.onLifecycle op.lifecycle (·.begin id))
    -- carrying only adds to the round trip what becomes of the lifecycle
    cases hop'.symm.trans hop
    exact hs
  generalize ho : some op' = result at h
  cases h with
  | openSession destination method w =>
    unfold World.openSession at ho
    simp only at ho
    split at ho
    · cases ho; rfl
    · split at ho
      · exact carry _ _ _ _ _ ho.symm
      · exact carry _ _ _ _ _ ho.symm
  | invoke id command w =>
    obtain ⟨channel, -, -, hcall⟩ | ⟨-, hrefused⟩ := World.invoke_cases D id command (some op) w
    · rw [hcall] at ho
      exact carry _ _ _ _ _ ho.symm
    · rw [hrefused] at ho
      cases ho
      rfl

/-- Any calls leave the shape of the operation they carry. -/
theorem Operation.shape_eq_of_carriedFrom {built op : Operation} (h : CarriedFrom built op) :
    op.shape = built.shape := by
  induction h with
  | refl => rfl
  | call D _ call ih => exact (shape_of_carries call).trans ih

end Shapes

/-- Every mapping request of a call that carries an operation is what one of its slots plans. It
stays inside what the slot could lend when the operation was built exactly if the slot is not a
temporary reference whose size has grown since. -/
theorem requests_owned_iff {σ : Type} (D : Driver σ) {built op : Operation}
    (carried : CarriedFrom built op) {w w' : World (Traced σ)} {op' : Option Operation}
    (call : Carries (Traced.driver D) op w w' op') :
    ∃ new, w'.driver.uses = new ++ w.driver.uses ∧ ∀ r ∈ requests new, ∃ slot access,
      (op.param slot).plan = .ok (.mapping r.1 r.2 access) ∧
      ((built.param slot).Owns r ↔ ¬ Parameter.Outgrown (built.param slot) (op.param slot)) := by
  -- the call asks for mappings that its operation plans, and for no others
  have hissues : Issues (fun r => op.Plans r.1 r.2) w.driver.uses w'.driver.uses := by
    have hp : ∀ o, some op = some o → ∀ address len, o.Plans address len →
        op.Plans address len := by
      rintro o ⟨⟩ address len h
      exact h
    have hs := driverSafe_issues D op.Plans w.driver.uses
    cases call with
    | openSession destination method w =>
      exact World.openSession_preserves hs hp destination method (.refl _)
    | invoke id command w => exact World.invoke_preserves hs hp id command (.refl _)
  obtain ⟨new, he, hnew⟩ := hissues
  refine ⟨new, he, fun r hr => ?_⟩
  obtain ⟨slot, access, hplan⟩ := hnew r hr
  -- calls leave the shape of an operation, so each slot lends what it was built to lend
  have hshape := congrFun (Operation.shape_eq_of_carriedFrom carried) slot
  exact ⟨slot, access, hplan, Parameter.owns_iff_of_plan hshape hplan⟩

/-! A buffer of four bytes is lent to an application that reports a size of a hundred. -/

namespace Overstated

/-- An application that reports a hundred bytes in slot 0, whatever it was lent. -/
def app : App Unit where
  initial := ()
  opening _ := .finish (.ok ()) ()
  command _ _ := .ask (.setOutputSize 0 100) fun _ => .finish (.ok ()) ()
  closing _ := .finish (.ok ()) ()

/-- The secure world as a driver that keeps the uses made of it. -/
def device : Driver (Traced (SecureWorld Unit)) := Traced.driver SecureWorld.driver

/-- An operation that lends four bytes for the application to fill. -/
def built : Operation :=
  ⟨⟨.temporary .output (some 0) 4, .unused, .unused, .unused⟩, 0⟩

/-- A world with the application and the buffer, in which a session was opened. -/
def opened : World (Traced (SecureWorld Unit)) :=
  let start : World (Traced (SecureWorld Unit)) :=
    .start ⟨.start (Table.empty.set .nil app), []⟩
  (World.openSession device .nil .everyone none { start with
    memory := Arena.empty.add [0, 0, 0, 0]
    lifecycles := Arena.empty.add .new }).world

/-- The world after a first command. -/
def once : World (Traced (SecureWorld Unit)) := (opened.invoke device 0 7 (some built)).world

/-- The operation after the first command. -/
def reported : Operation :=
  ⟨⟨.temporary .output (some 0) 100, .unused, .unused, .unused⟩, 0⟩

/-- The world after a second command with the same operation. -/
def twice : World (Traced (SecureWorld Unit)) := (once.invoke device 0 7 (some reported)).world

/-- The first command leaves the size that was reported. -/
theorem carriedFrom_reported : CarriedFrom built reported := by
  have call : Carries device built opened once (opened.invoke device 0 7 (some built)).operation :=
    .invoke 0 7 opened
  have hop : (opened.invoke device 0 7 (some built)).operation = some reported := by rfl
  rw [hop] at call
  exact .call device .refl call

end Overstated

/-- The second command on the session asks for a hundred bytes of the four, and its request is
covered by the general statement. -/
theorem requests_owned_iff_overstated :
    CarriedFrom Overstated.built Overstated.reported ∧
    ∃ new, Overstated.twice.driver.uses = new ++ Overstated.once.driver.uses ∧
      ∀ r ∈ requests new, ∃ slot access,
        (Overstated.reported.param slot).plan = .ok (.mapping r.1 r.2 access) ∧
        ((Overstated.built.param slot).Owns r ↔
          ¬ Parameter.Outgrown (Overstated.built.param slot) (Overstated.reported.param slot)) :=
  ⟨Overstated.carriedFrom_reported,
    requests_owned_iff SecureWorld.driver Overstated.carriedFrom_reported (.invoke 0 7 _)⟩

/-- Some request of some call is for bytes that no slot of the operation could lend when it was
built. -/
theorem temporary_request_exceeds_buffer :
    ∃ (op : Operation) (w w' : World (Traced (SecureWorld Unit))) (op' : Option Operation),
      CarriedFrom Overstated.built op ∧ Carries (Traced.driver SecureWorld.driver) op w w' op' ∧
      ∃ new, w'.driver.uses = new ++ w.driver.uses ∧
        ∃ r ∈ requests new, ∀ slot, ¬ (Overstated.built.param slot).Owns r := by
  refine ⟨Overstated.reported, Overstated.once, Overstated.twice, _,
    Overstated.carriedFrom_reported, .invoke 0 7 Overstated.once, ?_⟩
  refine ⟨Overstated.twice.driver.uses.take 4, ?_, (⟨0, 0⟩, 100), ?_, ?_⟩
  · rfl
  · decide
  · decide

end TeeClient

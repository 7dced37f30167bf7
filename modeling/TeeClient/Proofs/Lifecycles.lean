import TeeClient.Proofs.Breakdown

/-!
# The lives of operations

An operation is started when a call takes it up and finished when the call returns, so between the
calls of a client no operation is started (`Client.Rested`), and a call that was carried leaves the
layer that answered it with its operation.

Main statements:

* `World.tolerates_reached`: what requests to cancel do to the lifecycles;
* `Call.records_carry`: a call that returns has recorded its result;
* `Client.rested_steps`: between calls no operation is started.
-/

namespace TeeClient

variable {σ : Type} {D : Driver σ}

/-- A request to cancel that comes after another one changes nothing. -/
theorem Lifecycle.cancel_cancel (l : Lifecycle) : l.cancel.2.cancel.2 = l.cancel.2 := by
  obtain ⟨progress, target, origin⟩ := l
  cases progress <;> rfl

/-- A request to cancel changes nothing in an operation that is not started. -/
theorem Lifecycle.cancel_of_not_started {l : Lifecycle} (h : l.progress ≠ .started) :
    l.cancel.2 = l := by
  obtain ⟨progress, target, origin⟩ := l
  cases progress with
  | started => exact absurd rfl h
  | notStarted | finished => rfl

namespace World

variable {w w' : World σ}

/-- The lifecycle was handed out, and is kept. -/
def Lives (lifecycle : LifecycleId) (w : World σ) : Prop :=
  (w.lifecycles.get? lifecycle).isSome = true

/-- No operation is started but that of a lifecycle, if one is given. -/
def AtRest (but : Option LifecycleId) (w : World σ) : Prop :=
  ∀ id l, w.lifecycles.get? id = some l → l.progress = .started → some id = but

/-! ## Requests to cancel -/

/-- Some of the lifecycles have been reached by requests to cancel, and the others are as they
were. -/
def Reached (w after : World σ) : Prop :=
  ∀ id, after.lifecycles.get? id = w.lifecycles.get? id ∨
    after.lifecycles.get? id = (w.lifecycles.get? id).map fun l => l.cancel.2

/-- What a request to cancel does to a lifecycle. -/
theorem get?_lifecycles_cancelled (id other : LifecycleId) (w : World σ) :
    (w.cancelled id).lifecycles.get? other = if other = id
      then (w.lifecycles.get? other).map fun l => l.cancel.2
      else w.lifecycles.get? other :=
  Arena.get?_modify _ _ _ _

/-- Requests to cancel reach lifecycles, and do nothing else to them. -/
theorem tolerates_reached (D : Driver σ) : Tolerates D Reached := by
  refine tolerates_of_withShared (fun _ _ => .inl rfl) (fun a b c hab hbc id => ?_)
    (fun _ _ _ => .inl rfl) fun w id other => ?_
  · -- reaching a lifecycle twice is reaching it once
    rcases hab id with hb | hb <;> rcases hbc id with hc | hc <;> rw [hb] at hc
    · exact .inl hc
    · exact .inr hc
    · exact .inr hc
    · refine .inr (hc.trans ?_)
      rw [Option.map_map]
      exact congrArg (Option.map · _) (funext Lifecycle.cancel_cancel)
  · rw [get?_lifecycles_cancelled]
    split
    · exact .inr rfl
    · exact .inl rfl

namespace Reached

variable (h : w.Reached w')
include h

/-- A lifecycle that is reached is kept. -/
theorem lives {id : LifecycleId} (hl : w.Lives id) : w'.Lives id := by
  unfold Lives at hl ⊢
  rcases h id with hk | hk <;> rw [hk]
  · exact hl
  · rw [Option.isSome_map]
    exact hl

/-- No operation is started when lifecycles are reached. -/
theorem atRest {but : Option LifecycleId} (hr : w.AtRest but) : w'.AtRest but := by
  intro id l hl hp
  rcases h id with hk | hk <;> rw [hk] at hl
  · exact hr id l hl hp
  · obtain ⟨l', -, rfl⟩ := Option.map_eq_some_iff.1 hl
    exact absurd hp l'.progress_cancel

end Reached

/-! ## The three calls on sessions -/

/-- The result of the last call that carried the operation is recorded. -/
def Records (lifecycle : LifecycleId) (result : Except Failure Origin) (w : World σ) : Prop :=
  w.lifecycles.get? lifecycle = some ⟨.finished, none, some (Call.originOf result)⟩

/-- A property of the world that concerns the lifecycles only, and survives requests to cancel. -/
structure OfLives (D : Driver σ) (P : World σ → Prop) : Prop where
  congr : ∀ w w' : World σ, w'.lifecycles = w.lifecycles → P w → P w'
  honour : ∀ token w, P w → P (w.honour D token).2

/-- What stays true when lifecycles are `Reached` concerns the lifecycles only, and survives
requests to cancel. -/
theorem OfLives.of_reached {P : World σ → Prop} (h : ∀ w w' : World σ, w.Reached w' → P w → P w') :
    OfLives D P where
  congr w w' hl := h w w' fun id => .inl (by rw [hl])
  honour token w := h w _ ((tolerates_reached D).honour token w)

/-- That a lifecycle is kept concerns the lifecycles only. -/
theorem ofLives_lives (D : Driver σ) (id : LifecycleId) : OfLives D fun w => w.Lives id :=
  .of_reached fun _ _ h => h.lives

/-- That a result is recorded concerns the lifecycles only: once it is, a request to cancel comes
too late. -/
theorem ofLives_records (D : Driver σ) (id : LifecycleId) (result : Except Failure Origin) :
    OfLives D fun w => w.Records id result := by
  refine .of_reached fun w w' h hr => ?_
  unfold Records at hr ⊢
  rcases h id with hk | hk <;> rw [hk, hr]
  rfl

/-- That no operation is started but one concerns the lifecycles only. -/
theorem ofLives_atRest (D : Driver σ) (but : Option LifecycleId) :
    OfLives D fun w => w.AtRest but :=
  .of_reached fun _ _ h => h.atRest

namespace OfLives

variable {P : World σ → Prop} (hP : OfLives D P)
include hP

/-- A property `OfLives` survives log records. -/
theorem log (r : Record) (h : P w) : P (w.log r) := hP.congr w (w.log r) rfl h

/-- A property `OfLives` survives the parts of a call. -/
theorem partSafe (plans : Address → Nat → Prop) : PartSafe D plans P :=
  partSafe_of_honour plans (fun w shared => hP.congr w (w.withShared shared) rfl) hP.honour

/-- A property `OfLives` survives primitives on the desk. -/
theorem onDesk {α : Type} (act : Desk σ → Reply (Desk σ) α) (h : P w) : P (w.onDesk D act).2 :=
  onDesk_preserves (fun w shared => hP.congr w (w.withShared shared) rfl) hP.honour act h

/-- A property `OfLives` survives taking a session down. -/
theorem teardown (id : ChannelId) (h : P w) : P (w.teardown D id) :=
  teardown_preserves_of (fun _ r _ => hP.log r) (fun w id f => hP.congr w (w.onChannel id f) rfl)
    (fun _ _ => hP.onDesk _) id h

/-- A property `OfLives` survives a round trip. -/
theorem roundTrip (id : ChannelId) (channel : Channel) (instruction : Instruction)
    (command : UInt32) (op : Option Operation) (h : P w) :
    P (Call.roundTrip D id channel instruction command op w).world :=
  Call.roundTrip_preserves_of (hP.partSafe fun _ _ => True) (fun _ id => hP.teardown id)
    (fun _ _ _ _ _ => trivial) id channel instruction command h

/-- A property `OfLives` survives forgetting a session. -/
theorem forget (id : ChannelId) (h : P w) : P (w.forget id) := by
  refine hP.congr w _ ?_ h
  unfold World.forget
  split <;> rfl

variable (hcarry : ∀ id channel instruction command op w, P w →
  P (Call.carry D id channel instruction command op w).world)
include hcarry

/-- What survives calls survives the opening of a session. -/
theorem openSession (destination : Uuid) (method : ConnectionMethod) (op : Option Operation)
    (h : P w) : P (w.openSession D destination method op).world :=
  openSession_induction (fun _ r => hP.log r) (fun w page => hP.congr w (w.freePage page) rfl)
    (fun w handle page => hP.congr w (w.adopt handle page) rfl)
    (fun w id channel => hcarry id channel .openSession 0 op w)
    (fun _ id => hP.teardown id) (fun _ id => hP.forget id)
    (hP.onDesk (D.openSession destination method.login w.pages.fresh)
      (hP.congr w (w.offer destination) rfl h))

omit hP in
/-- What survives calls survives an invocation. -/
theorem invoke (id : ChannelId) (command : UInt32) (op : Option Operation) (h : P w) :
    P (w.invoke D id command op).world := by
  obtain ⟨channel, -, -, hcall⟩ | ⟨-, hrefused⟩ := invoke_cases D id command op w
  · rw [hcall]
    exact hcarry id channel .invokeCommand command op w h
  · rw [hrefused]
    exact h

/-- What survives calls survives the closing of a session. -/
theorem closeSession (id : ChannelId) (h : P w) : P (w.closeSession D id) :=
  closeSession_induction (fun _ r => hP.log r)
    (fun channel => hcarry id channel .closeSession 0 none w)
    (fun _ => hP.teardown id) (fun _ => hP.forget id) h

end OfLives

end World

namespace Call

variable {w : World σ} {op : Operation}

/-- Changing a lifecycle gives none up. -/
theorem lives_onLifecycle {id other : LifecycleId} (h : w.Lives id) (f : Lifecycle → Lifecycle) :
    (w.onLifecycle other f).Lives id := by
  show ((w.lifecycles.modify other f).get? id).isSome = true
  rw [Arena.get?_modify]
  split
  · rw [Option.isSome_map]
    exact h
  · exact h

/-- A call gives no lifecycle up. -/
theorem lives_carry {other : LifecycleId} (id : ChannelId) (channel : Channel)
    (instruction : Instruction) (command : UInt32) (op : Option Operation) (w : World σ)
    (h : w.Lives other) : (carry D id channel instruction command op w).world.Lives other := by
  have hlives := World.ofLives_lives D other
  cases op with
  | none => exact hlives.roundTrip id channel instruction command none h
  | some op =>
    exact lives_onLifecycle (hlives.roundTrip id channel instruction command (some op)
      (lives_onLifecycle h _)) _

/-- A call that returns leaves no operation started if none was. -/
theorem atRest_carry (id : ChannelId) (channel : Channel) (instruction : Instruction)
    (command : UInt32) (op : Option Operation) (w : World σ) (h : w.AtRest none) :
    (carry D id channel instruction command op w).world.AtRest none := by
  cases op with
  | none => exact (World.ofLives_atRest D none).roundTrip id channel instruction command none h
  | some op =>
    -- while it is under way, the operation that it carries is the only one
    have hbegun : (w.onLifecycle op.lifecycle (·.begin id)).AtRest (some op.lifecycle) := by
      intro other l hl hp
      rw [World.onLifecycle, Arena.get?_modify] at hl
      split at hl
      next he => rw [he]
      next => cases h other l hl hp
    have htrip := (World.ofLives_atRest D (some op.lifecycle)).roundTrip id channel instruction
      command (some op) hbegun
    intro other l hl hp
    unfold carry at hl
    simp only [World.onLifecycle, Arena.get?_modify] at hl
    split at hl
    · obtain ⟨l', -, rfl⟩ := Option.map_eq_some_iff.1 hl
      cases hp
    next hne => exact absurd (Option.some.inj (htrip other l hl hp)) hne

/-- The operation that a call hands back has the lifecycle of the one it carried. -/
theorem lifecycle_carry (id : ChannelId) (channel : Channel) (instruction : Instruction)
    (command : UInt32) (op : Option Operation) (w : World σ) :
    (carry D id channel instruction command op w).operation.map Operation.lifecycle
      = op.map Operation.lifecycle := by
  rw [carry_eq]
  cases op with
  | none => exact congrArg _ (operation_roundTrip_none id channel instruction command w)
  | some op =>
    obtain ⟨op', hop', hl⟩ := operation_roundTrip (D := D) (F := Operation.lifecycle)
      (fun _ _ _ => rfl) id channel instruction command op (begun id (some op) w)
    simp only [hop', Option.map_some, hl]

/-- A call that returns has recorded its result with the operation that it carried. -/
theorem records_carry (id : ChannelId) (channel : Channel) (instruction : Instruction)
    (command : UInt32) (h : w.Lives op.lifecycle) :
    let e := carry D id channel instruction command (some op) w
    e.world.Records op.lifecycle e.result := by
  have hbegun : (w.onLifecycle op.lifecycle (·.begin id)).Lives op.lifecycle :=
    lives_onLifecycle h _
  have htrip := (World.ofLives_lives D op.lifecycle).roundTrip id channel instruction command
    (some op) hbegun
  obtain ⟨l, hl⟩ := Option.isSome_iff_exists.1 htrip
  show (Arena.modify _ _ _).get? _ = _
  rw [Arena.get?_modify, if_pos rfl, hl]
  rfl

end Call

namespace World

/-- Opening a session hands back an operation with the lifecycle of the one it was given. -/
theorem lifecycle_openSession (destination : Uuid) (method : ConnectionMethod)
    (op : Option Operation) (w : World σ) :
    (w.openSession D destination method op).operation.map Operation.lifecycle
      = op.map Operation.lifecycle := by
  unfold openSession
  simp only
  split
  · rfl
  · split <;> exact Call.lifecycle_carry _ _ .openSession 0 op _

/-- Invoking a command hands back an operation with the lifecycle of the one it was given. -/
theorem lifecycle_invoke (id : ChannelId) (command : UInt32) (op : Option Operation)
    (w : World σ) : (w.invoke D id command op).operation.map Operation.lifecycle
      = op.map Operation.lifecycle := by
  obtain ⟨channel, -, -, hcall⟩ | ⟨-, hrefused⟩ := invoke_cases D id command op w
  · rw [hcall]
    exact Call.lifecycle_carry id channel .invokeCommand command op w
  · rw [hrefused]

end World

/-! ## Clients -/

/-- The call neither builds, carries nor drops an operation, nor cancels one. -/
def ClientCall.LeavesOperations : ClientCall → Prop
  | .openContext .. | .closeContext .. | .register .. | .allocate .. | .write .. | .release ..
  | .nameToken .. => True
  | _ => False

namespace Client

/-- A call that neither builds, carries, drops nor cancels an operation leaves lifecycles and
operations as they are. -/
theorem operations_of_perform {c c' : Client σ} {call : ClientCall}
    (hc : c.perform D call = some c') (h : call.LeavesOperations) :
    c'.world.lifecycles = c.world.lifecycles ∧ c'.operations = c.operations := by
  cases call with
  | nameToken token operation =>
    obtain ⟨op, -, rfl⟩ := Option.map_eq_some_iff.1 hc
    exact ⟨rfl, rfl⟩
  | openContext =>
    obtain ⟨⟨result, _⟩, hr, rfl⟩ := Option.map_eq_some_iff.1 hc
    cases (openContext_cases hr).2 <;> exact ⟨rfl, rfl⟩
  | closeContext =>
    obtain ⟨-, -, journal, rfl⟩ := closeContext_cases hc
    exact ⟨rfl, rfl⟩
  | register =>
    obtain ⟨⟨result, _⟩, hr, rfl⟩ := Option.map_eq_some_iff.1 hc
    cases register_cases hr <;> exact ⟨rfl, rfl⟩
  | allocate =>
    obtain ⟨⟨result, _⟩, hr, rfl⟩ := Option.map_eq_some_iff.1 hc
    cases allocate_cases hr <;> exact ⟨rfl, rfl⟩
  | write =>
    obtain ⟨memory, rfl⟩ := write_cases hc
    exact ⟨rfl, rfl⟩
  | release block =>
    obtain ⟨⟨given, _⟩, hr, rfl⟩ := Option.map_eq_some_iff.1 hc
    obtain ⟨b, -, rfl⟩ := release_cases hr
    obtain ⟨memory, journal, he⟩ := c.dropBlock_eq block b
    exact he ▸ ⟨rfl, rfl⟩
  | newOperation | cancel | closeSession | openSession | invoke | dropOperation => exact h.elim

/-- No operation of the program is without a lifecycle, and none is started. -/
structure Rested (c : Client σ) : Prop where
  lives : ∀ name op, c.operations.get? name = some op → c.world.Lives op.lifecycle
  atRest : c.world.AtRest none

namespace Rested

variable {c c' : Client σ}

/-- The lifecycle of an operation that a program names is kept. -/
theorem lives_of_operation? (h : c.Rested) {name : Option String} {op : Operation}
    (hop : c.operation? name = some (some op)) : c.world.Lives op.lifecycle := by
  cases name with
  | none => cases hop
  | some name =>
    obtain ⟨op', hget, he⟩ := Option.map_eq_some_iff.1 hop
    cases he
    exact h.lives name op hget

/-- What concerns neither the operations nor their lifecycles leaves a client rested. -/
theorem of_same (h : c.Rested) (hl : c'.world.lifecycles = c.world.lifecycles)
    (ho : c'.operations = c.operations) : c'.Rested where
  lives name op hop := by
    unfold World.Lives
    rw [hl]
    exact h.lives name op (ho ▸ hop)
  atRest := by
    unfold World.AtRest
    rw [hl]
    exact h.atRest

/-- An operation that comes back with its lifecycle leaves a client rested, if the call that carried
it gave no lifecycle up and left none started. -/
theorem keepOperation (h : c.Rested) {name : Option String} {op op' : Option Operation}
    (hop : c.operation? name = some op) {world : World σ}
    (hl : op'.map Operation.lifecycle = op.map Operation.lifecycle)
    (hlives : ∀ id, c.world.Lives id → world.Lives id) (hrest : world.AtRest none) :
    ({ c with world }.keepOperation name op').Rested := by
  unfold Client.keepOperation
  split
  next name op' =>
    obtain ⟨op, hget, rfl⟩ := Option.map_eq_some_iff.1 hop
    refine ⟨fun other o hother => ?_, hrest⟩
    rw [Table.get?_set] at hother
    split at hother
    · cases hother
      rw [Option.some.inj hl]
      exact hlives _ (h.lives name op hget)
    · exact hlives _ (h.lives other o hother)
  · exact ⟨fun name op hop => hlives _ (h.lives name op hop), hrest⟩

/-- A new operation is not started. -/
theorem newOperation (h : c.Rested) {operation : String} {specs : Slots ParameterSpec}
    (hc : c.newOperation operation specs = some c') : c'.Rested := by
  obtain ⟨memory, params, rfl⟩ := newOperation_cases hc
  have hget : ∀ id, (c.world.lifecycles.add .new).get? id
      = if id = c.world.lifecycles.fresh then some .new else c.world.lifecycles.get? id :=
    Arena.get?_add _ _
  refine ⟨fun name op hop => ?_, fun id l hl hp => ?_⟩
  · rw [Table.get?_set] at hop
    unfold World.Lives
    rw [hget]
    split at hop
    · cases hop
      rw [if_pos rfl]
      rfl
    · split
      · rfl
      · exact h.lives name op hop
  · rw [hget] at hl
    split at hl
    · cases hl
      cases hp
    · exact h.atRest id l hl hp

/-- Opening a session leaves a client rested. -/
theorem openSession (h : c.Rested) {context session : String} {destination : Uuid}
    {login : UInt32 × Option UInt32} {operation : Option String}
    {result : Except Failure ChannelId}
    (hc : c.openSession D context session destination login operation = some (result, c')) :
    c'.Rested := by
  obtain ⟨-, op, hop, hcase⟩ := openSession_cases hc
  cases hmethod : ConnectionMethod.ofRaw login.1 login.2 with
  | error fault =>
    simp only [hmethod] at hcase
    obtain ⟨-, journal, rfl⟩ := hcase
    exact h.of_same rfl rfl
  | ok method =>
    simp only [hmethod] at hcase
    obtain ⟨-, rfl⟩ := hcase
    have hkept := h.keepOperation hop
      (World.lifecycle_openSession (D := D) destination method op c.world)
      (fun id => (World.ofLives_lives D id).openSession Call.lives_carry destination method op)
      ((World.ofLives_atRest D none).openSession Call.atRest_carry destination method op h.atRest)
    unfold afterOpening
    split
    · exact hkept.of_same rfl rfl
    · exact hkept

/-- Invoking a command leaves a client rested. -/
theorem invoke (h : c.Rested) {session : String} {command : UInt32} {operation : Option String}
    {result : Except Failure Origin}
    (hc : c.invoke D session command operation = some (result, c')) : c'.Rested := by
  obtain ⟨s, op, -, hop, -, rfl⟩ := invoke_cases hc
  exact h.keepOperation hop (World.lifecycle_invoke s.channel command op c.world)
    (fun id => World.OfLives.invoke Call.lives_carry s.channel command op)
    (World.OfLives.invoke Call.atRest_carry s.channel command op h.atRest)

/-- Closing a session leaves a client rested. -/
theorem closeSession (h : c.Rested) {session : String}
    (hc : c.closeSession D session = some c') : c'.Rested := by
  obtain ⟨s, -, rfl⟩ := closeSession_cases hc
  refine ⟨fun name op hop => ?_, ?_⟩
  · exact (World.ofLives_lives D _).closeSession Call.lives_carry s.channel (h.lives name op hop)
  · exact (World.ofLives_atRest D none).closeSession Call.atRest_carry s.channel h.atRest

/-- A request to cancel leaves a client rested. -/
theorem cancel (h : c.Rested) {token : String} {limited : Bool}
    (hc : c.cancel D token limited = some c') : c'.Rested := by
  obtain ⟨id, rfl⟩ := cancel_cases hc
  have hreached := (World.tolerates_reached D).cancelCall id c.world
  exact ⟨fun name op hop => hreached.lives (h.lives name op hop), hreached.atRest h.atRest⟩

/-- Dropping an operation leaves a client rested. -/
theorem dropOperation (h : c.Rested) {operation : String} {buffers : Slots (Option Bytes)}
    (hc : c.dropOperation operation = some (buffers, c')) : c'.Rested := by
  obtain ⟨memory, rfl⟩ := dropOperation_cases hc
  refine ⟨fun name op hop => h.lives name op ?_, h.atRest⟩
  rw [Table.get?_erase] at hop
  split at hop
  · cases hop
  · exact hop

/-- Every call leaves a client rested. -/
theorem perform (h : c.Rested) {call : ClientCall} (hc : c.perform D call = some c') :
    c'.Rested := by
  cases call with
  | newOperation operation specs => exact h.newOperation hc
  | cancel token limited => exact h.cancel hc
  | closeSession session => exact h.closeSession hc
  | openSession context session destination login operation =>
    obtain ⟨⟨result, _⟩, hr, rfl⟩ := Option.map_eq_some_iff.1 hc
    exact h.openSession hr
  | invoke session command operation =>
    obtain ⟨⟨result, _⟩, hr, rfl⟩ := Option.map_eq_some_iff.1 hc
    exact h.invoke hr
  | dropOperation operation =>
    obtain ⟨⟨buffers, _⟩, hr, rfl⟩ := Option.map_eq_some_iff.1 hc
    exact h.dropOperation hr
  -- all other calls leave lifecycles and operations
  | _ =>
    obtain ⟨hl, ho⟩ := operations_of_perform hc trivial
    exact h.of_same hl ho

end Rested

/-- A client that has done nothing is rested. -/
theorem rested_start (driver : σ) : (Client.start driver).Rested where
  lives _ _ hop := by cases hop
  atRest _ _ hl := by cases hl

/-- Between the calls of a client no operation is started. -/
theorem rested_steps {before : ClientCall → σ → σ → Prop} {driver : σ} {c : Client σ}
    (run : Steps D before (.start driver) c) : c.Rested :=
  run.preserves (P := Rested) (fun c _ _ driver h _ hp =>
    Rested.perform (c := c.withDriver driver) (h.of_same rfl rfl) hp) (rested_start driver)

/-- The operation of a name is finished, and the layer that answered is that of the result. -/
def Records (name : String) (result : Except Failure Origin) (c : Client σ) : Prop :=
  ∃ op, c.operations.get? name = some op ∧ c.world.Records op.lifecycle result

variable {c : Client σ} {name : String} {op : Operation}

/-- An operation that is kept is there. -/
theorem records_keepOperation {op' : Option Operation} {world : World σ}
    {result : Except Failure Origin} (hl : op'.map Operation.lifecycle = some op.lifecycle)
    (hr : world.Records op.lifecycle result) :
    ({ c with world }.keepOperation (some name) op').Records name result := by
  obtain ⟨op', rfl, he⟩ := Option.map_eq_some_iff.1 hl
  refine ⟨op', Table.get?_set_self _ name op', ?_⟩
  rw [he]
  exact hr

/-- The operation of a name is the one that a call with the name carries. -/
theorem operation?_some (hop : c.operations.get? name = some op) :
    c.operation? (some name) = some (some op) := by
  simp only [operation?, hop, Option.map_some]

/-- An invocation on an active session records its result. -/
theorem records_invoke (h : c.Rested) (hop : c.operations.get? name = some op) {session : String}
    {s : Session} {channel : Channel} (hs : c.sessions.get? session = some s)
    (hget : c.world.channels.get? s.channel = some channel) (ha : channel.active = true)
    (command : UInt32) : ∃ result c',
      c.invoke D session command (some name) = some (result, c') ∧ c'.Records name result := by
  have hl := World.lifecycle_invoke (D := D) s.channel command (some op) c.world
  refine ⟨_, _, by simp only [invoke, hs, operation?_some hop]; rfl, records_keepOperation hl ?_⟩
  rw [World.invoke_of_active hget ha]
  exact Call.records_carry s.channel channel .invokeCommand command (h.lives name op hop)

/-- An invocation on a session that is not active is refused, and changes nothing. -/
theorem invoke_of_inactive (hop : c.operations.get? name = some op) {session : String}
    {s : Session} {channel : Channel} (hs : c.sessions.get? session = some s)
    (hget : c.world.channels.get? s.channel = some channel) (ha : channel.active = false)
    (command : UInt32) :
    c.invoke D session command (some name) = some (.error (.api .badState), c) := by
  have hspent : c.world.Spent s.channel := ⟨Arena.lt_of_get? hget, fun ch hch => by
    rw [hget] at hch
    cases hch
    exact ha⟩
  exact (retired_of_spent hspent).unchanged session s hs rfl command _ _ (operation?_some hop)

/-- What carrying the open instruction comes to, when the driver has opened the session. -/
def opening (D : Driver σ) (handle : Handle) (page : PageId) (op : Operation) (w : World σ) :
    Call.End σ :=
  Call.carry D w.channels.fresh ⟨handle, page, true⟩ .openSession 0 (some op) (w.adopt handle page)

/-- An attempt to open a session that the driver opens records the result of the open
instruction. -/
theorem records_openSession (h : c.Rested) (hop : c.operations.get? name = some op)
    {context session : String} {destination : Uuid} {login : UInt32 × Option UInt32}
    {method : ConnectionMethod} {handle : Handle} {w₁ : World σ}
    (hcontext : c.contexts.contains context = true) (hnew : c.sessions.contains session = false)
    (hlogin : ConnectionMethod.ofRaw login.1 login.2 = .ok method)
    (ho : (c.world.offer destination).onDesk D
      (D.openSession destination method.login c.world.pages.fresh) = (.ok handle, w₁)) :
    ∃ result c', c.openSession D context session destination login (some name)
        = some (result, c') ∧
      c'.Records name (opening D handle c.world.pages.fresh op w₁).result ∧
      ∀ failure, result = .error failure ↔
        (opening D handle c.world.pages.fresh op w₁).result = .error failure := by
  have hl := World.lifecycle_openSession (D := D) destination method (some op) c.world
  have hlives := (World.ofLives_lives D op.lifecycle).onDesk
    (D.openSession destination method.login c.world.pages.fresh)
    (w := c.world.offer destination) (h.lives name op hop)
  rw [ho] at hlives
  have hcarried := Call.records_carry (D := D) w₁.channels.fresh
    ⟨handle, c.world.pages.fresh, true⟩ .openSession 0
    (w := w₁.adopt handle c.world.pages.fresh) hlives
  have hkept := World.ofLives_records D op.lifecycle
    (opening D handle c.world.pages.fresh op w₁).result
  simp only [openSession, hcontext, hnew, operation?_some hop, hlogin, Bool.not_true,
    Bool.false_or, Bool.false_eq_true, if_false]
  rw [World.openSession_of_ok ho] at hl ⊢
  simp only at hl ⊢
  -- an attempt that failed takes the session down again, which leaves what is recorded
  split at hl
  next answer hanswer =>
    exact ⟨_, _, rfl, records_keepOperation hl (hkept.log _ hcarried),
      fun failure => ⟨fun hf => (by cases hf), fun hf => by cases hanswer.symm.trans hf⟩⟩
  next failure hanswer =>
    refine ⟨_, _, rfl, records_keepOperation hl (hkept.forget _ (hkept.log _
      (hkept.teardown _ (hkept.log _ hcarried)))), fun failure' => ?_⟩
    rw [show (opening D handle c.world.pages.fresh op w₁).result = _ from hanswer]
    simp only [Except.error.injEq]

end Client

/-- Whatever a driver does, in every state of a client program: a call that carries an operation on
a session that the driver has opened, and that is active, finishes the operation and records the
layer that its result comes from, however it ends. An invocation on a session that is not active is
refused, and leaves the operation as it was. -/
theorem calls_record_results {before : ClientCall → σ → σ → Prop} {driver : σ} {c : Client σ}
    (run : Client.Steps D before (.start driver) c) {name : String} {op : Operation}
    (hop : c.operations.get? name = some op) :
    (∀ session s channel command, c.sessions.get? session = some s →
      c.world.channels.get? s.channel = some channel →
      (channel.active = true → ∃ result c',
        c.invoke D session command (some name) = some (result, c') ∧ c'.Records name result) ∧
      (channel.active = false →
        c.invoke D session command (some name) = some (.error (.api .badState), c))) ∧
    ∀ context session destination login method handle w₁,
      c.contexts.contains context = true → c.sessions.contains session = false →
      ConnectionMethod.ofRaw login.1 login.2 = .ok method →
      (c.world.offer destination).onDesk D
        (D.openSession destination method.login c.world.pages.fresh) = (.ok handle, w₁) →
      ∃ result c', c.openSession D context session destination login (some name)
          = some (result, c') ∧
        c'.Records name (Client.opening D handle c.world.pages.fresh op w₁).result ∧
        ∀ failure, result = .error failure ↔
          (Client.opening D handle c.world.pages.fresh op w₁).result = .error failure := by
  have h := Client.rested_steps run
  refine ⟨fun session s channel command hs hget => ⟨fun ha => ?_, fun ha => ?_⟩, ?_⟩
  · exact Client.records_invoke h hop hs hget ha command
  · exact Client.invoke_of_inactive hop hs hget ha command
  · intro context session destination login method handle w₁ hcontext hnew hlogin ho
    exact Client.records_openSession h hop hcontext hnew hlogin ho

/-! A program whose operation is carried, and then is refused twice. -/

namespace Refusal

/-- An application that accepts everything. -/
def app : App Unit where
  initial := ()
  opening _ := .finish (.ok ()) ()
  command _ _ := .finish (.ok ()) ()
  closing _ := .finish (.ok ()) ()

/-- The secure world as the driver of the program. -/
def device : Driver (SecureWorld Unit) := SecureWorld.driver

/-- Command 1 is not delivered. -/
def arm (call : ClientCall) (w : SecureWorld Unit) : SecureWorld Unit :=
  match call with
  | .invoke _ 1 _ => { w with faults := { w.faults with notify := true } }
  | _ => w

/-- The client after some calls, with one application installed. -/
def client? (calls : List ClientCall) : Option (Client (SecureWorld Unit)) :=
  Client.performAll device arm (.start (.start (Table.empty.set .nil app)))
    ([.openContext "tee" none .default, .newOperation "op" (.replicate .unused)] ++ calls)

/-- A program with an open session. -/
def opened : List ClientCall := [.openSession "tee" "session" .nil (0, none) none]

/-- A program whose session has broken in a call without an operation. -/
def broken : List ClientCall := opened ++ [.invoke "session" 1 none]

/-- The operation of the program. -/
def op : Operation := ⟨.replicate .unused, 0⟩

/-- An application that is not installed. -/
def unknown : Uuid := { Uuid.nil with timeLow := 1 }

/-- The result of an attempt to open a session with an application that is unknown, and the client
after it. -/
def refused? : Option (Except Failure ChannelId × Client (SecureWorld Unit)) :=
  (client? []).bind fun c => c.openSession device "tee" "session" unknown (0, none) (some "op")

/-- The client after some calls, if they can be made and leave the session with this channel and the
operation as it was built. -/
theorem exists_client (calls : List ClientCall) (channel : Channel)
    (h : (client? calls).any (fun c => decide (c.operations.get? "op" = some op ∧
      c.world.lifecycles.get? 0 = some .new ∧
      (c.sessions.get? "session").map Session.channel = some 0 ∧
      c.world.channels.get? 0 = some channel)) = true) :
    ∃ c s, client? calls = some c ∧ c.operations.get? "op" = some op ∧
      c.world.lifecycles.get? 0 = some .new ∧ c.sessions.get? "session" = some s ∧
      c.world.channels.get? s.channel = some channel ∧
      Client.Steps device (fun call a b => arm call a = b)
        (.start (.start (Table.empty.set .nil app))) c := by
  obtain ⟨c, hc, hd⟩ := (Option.any_eq_true _ _).1 h
  obtain ⟨hop, hl, hs, hget⟩ := of_decide_eq_true hd
  obtain ⟨s, hs, hid⟩ := Option.map_eq_some_iff.1 hs
  exact ⟨c, s, hc, hop, hl, hs, hid ▸ hget, Client.steps_performAll (fun _ _ => rfl) hc⟩

/-- An operation whose lifecycle is new has no result recorded. -/
theorem not_records {c : Client (SecureWorld Unit)} (hop : c.operations.get? "op" = some op)
    (hl : c.world.lifecycles.get? 0 = some .new) (result : Except Failure Origin) :
    ¬ c.Records "op" result := by
  rintro ⟨op', hop', hr⟩
  rw [hop] at hop'
  cases hop'
  cases hl.symm.trans hr

end Refusal

/-- A program with an open session has the result of its call recorded; one whose session has broken
is refused. -/
theorem calls_record_results_refusal :
    (∃ c result c', Refusal.client? Refusal.opened = some c ∧
      c.invoke Refusal.device "session" 0 (some "op") = some (result, c') ∧
      c'.Records "op" result) ∧
    ∃ c, Refusal.client? Refusal.broken = some c ∧
      c.invoke Refusal.device "session" 0 (some "op") = some (.error (.api .badState), c) := by
  constructor
  · obtain ⟨c, s, hc, hop, -, hs, hget, run⟩ :=
      Refusal.exists_client Refusal.opened ⟨1, 0, true⟩ (by decide +kernel)
    obtain ⟨result, c', hi, hr⟩ :=
      ((calls_record_results run hop).1 "session" s ⟨1, 0, true⟩ 0 hs hget).1 rfl
    exact ⟨c, result, c', hc, hi, hr⟩
  · obtain ⟨c, s, hc, hop, -, hs, hget, run⟩ :=
      Refusal.exists_client Refusal.broken ⟨1, 0, false⟩ (by decide +kernel)
    exact ⟨c, hc, ((calls_record_results run hop).1 "session" s ⟨1, 0, false⟩ 0 hs hget).2 rfl⟩

/-- A refusal is not recorded: neither that of a session which is not active, nor that of a driver
which does not open the session. -/
theorem refusals_not_recorded :
    (∃ c, Refusal.client? Refusal.broken = some c ∧
      c.invoke Refusal.device "session" 0 (some "op") = some (.error (.api .badState), c) ∧
      ¬ c.Records "op" (.error (.api .badState))) ∧
    ∃ c, Refusal.refused? = some (.error (.comms .itemNotFound), c) ∧
      ¬ c.Records "op" (.error (.comms .itemNotFound)) := by
  constructor
  · obtain ⟨c, s, hc, hop, hl, hs, hget, -⟩ :=
      Refusal.exists_client Refusal.broken ⟨1, 0, false⟩ (by decide +kernel)
    exact ⟨c, hc, Client.invoke_of_inactive hop hs hget rfl 0, Refusal.not_records hop hl _⟩
  · obtain ⟨⟨result, c⟩, hc, hresult⟩ := Option.map_eq_some_iff.1
      (show Refusal.refused?.map Prod.fst = some (.error (.comms .itemNotFound)) from rfl)
    cases hresult
    have hnew : c.operations.get? "op" = some Refusal.op ∧
        c.world.lifecycles.get? 0 = some .new :=
      (show ∀ r ∈ Refusal.refused?, r.2.operations.get? "op" = some Refusal.op ∧
        r.2.world.lifecycles.get? 0 = some .new by decide +kernel) _ hc
    exact ⟨c, hc, Refusal.not_records hnew.1 hnew.2 _⟩

end TeeClient

import TeeClient.Proofs.Secrecy.Questions

/-!
# Secrecy of a call

A round trip is made in two worlds that differ only in data that come back: in the pairs of value
slots whose direction is output, and in the bytes of output windows that are no input. As long as
the application reads through buffers that go into the secure world, it asks the same questions and
gets the same answers, and the round trip ends in the same way.

Main statements:

* `Call.roundTrip_apart`: both round trips end in the same way, if the exchange of signals does;
* `carry_apart`: so does what a call does;
* `learned_apart`: the application learns the same.
-/

namespace TeeClient

/-- How far apart two calls end that began with some operations: with the same result, with
operations that differ only if they have been left as they were, and in worlds that are as far apart
as they were. -/
structure EndsApart {α σ : Type} (hidden : BufferId → Nat → Prop)
    (before before' : Option Operation) (r r' : Except Failure α) (op op' : Option Operation)
    (w w' : World σ) : Prop where
  result : r' = r
  operation : Operation.Settled (Replied r) before before' op op'
  world : w.Apart hidden w'

/-- A call that is not the application's to refuse is refused in both worlds. -/
theorem EndsApart.refused {α σ : Type} {hidden : BufferId → Nat → Prop}
    {op op' : Option Operation} {w w' : World σ} {failure : Failure}
    (hop : Option.Rel Operation.Alike op op') (hw : w.Apart hidden w')
    (hfailure : failure.origin ≠ .trustedApp) :
    EndsApart hidden op op' (.error failure : Except Failure α) (.error failure) op op' w w' :=
  ⟨rfl, .unchanged hop (Replied.not_error hfailure), hw⟩

variable {κ : Type} {hidden : BufferId → Nat → Prop} {w w' : World (SecureWorld κ)}

namespace Call

open SecureWorld

/-! ## The exchange of signals -/

/-- The wait for the answer, once the secure world is notified. -/
def await (handle : Handle) (w : World (SecureWorld κ)) :
    Except Failure Unit × World (SecureWorld κ) :=
  match w.onShared SecureWorld.driver (SecureWorld.driver.wait handle none) with
  | (.ok (), w) => (.ok (), w)
  | (.error .infoNotification, w) => classify SecureWorld.driver handle w
  | (.error e, w) => (.error (.comms .communication), w.log (.waitFailed handle e))

/-- The exchange of signals is a notification and a wait. -/
theorem exchange_eq_await (handle : Handle) (w : World (SecureWorld κ)) :
    exchange SecureWorld.driver handle w
      = match w.onShared SecureWorld.driver (SecureWorld.notify handle) with
        | (.error e, w) => (.error (.comms .communication), w.log (.notifyFailed handle e))
        | (.ok (), w) => await handle w := by
  unfold exchange await
  rw [show SecureWorld.driver.notify .call handle = SecureWorld.notify handle from rfl]
  rcases w.onShared SecureWorld.driver (SecureWorld.notify handle) with ⟨e | ⟨⟩, w⟩
  · rfl
  · simp only
    rcases w.onShared SecureWorld.driver (SecureWorld.driver.wait handle none) with ⟨e | ⟨⟩, w⟩
    · cases e <;> rfl
    · rfl

/-- An answer is waited for whatever is in memory. -/
theorem await_withMemory (handle : Handle) (memory : Memory) (w : World (SecureWorld κ)) :
    await handle (w.withMemory memory)
      = ((await handle w).1, (await handle w).2.withMemory memory) := by
  have hwait : (w.withMemory memory).onShared SecureWorld.driver
      (SecureWorld.driver.wait handle none)
      = ((w.onShared SecureWorld.driver (SecureWorld.driver.wait handle none)).1,
        (w.onShared SecureWorld.driver (SecureWorld.driver.wait handle none)).2.withMemory
          memory) := rfl
  unfold await
  rw [hwait]
  rcases w.onShared SecureWorld.driver (SecureWorld.driver.wait handle none) with ⟨e | ⟨⟩, w'⟩
  · cases e with
    | infoNotification => exact classify_withMemory prompt_driver memory handle w'
    | _ => rfl
  · rfl

/-- The exchange of signals has the same outcome in both worlds. -/
theorem exchange_apart {handle : Handle} (hw : w.Apart hidden w')
    (hdiscloses : w.driver.mappings.Discloses hidden)
    (hcase : Idle handle w.toShared ∨ w.Reserved handle ∧
      ∃ worker instruction, Finds handle worker instruction w.toShared)
    (hreads : ∀ q ∈ w.questionsAt handle, ∀ mapping ∈ q.source?,
      mapping.access.contains .input = true) :
    (exchange SecureWorld.driver handle w').1 = (exchange SecureWorld.driver handle w).1 ∧
      (exchange SecureWorld.driver handle w).2.Apart hidden
        (exchange SecureWorld.driver handle w').2 := by
  -- the application runs when it is notified; the wait looks at the driver only
  obtain ⟨hresult, hafter, -⟩ := World.notify_apart hw hdiscloses hcase hreads
  rw [exchange_eq_await, exchange_eq_await]
  generalize w.onShared SecureWorld.driver (SecureWorld.notify handle) = notified at hresult hafter
  generalize w'.onShared SecureWorld.driver (SecureWorld.notify handle) = notified'
    at hresult hafter
  obtain ⟨result, v⟩ := notified
  obtain ⟨result', v'⟩ := notified'
  obtain rfl : result' = result := hresult
  cases result' with
  | error e => exact ⟨rfl, hafter.log _⟩
  | ok => exact hafter.run fun memory u => await_withMemory handle memory u

/-! ## Calls -/

/-- How far apart two round trips end. -/
abbrev End.Apart {σ : Type} (hidden : BufferId → Nat → Prop) (before before' : Option Operation)
    (e e' : End σ) : Prop :=
  EndsApart hidden before before' e.result e'.result e.operation e'.operation e.world e'.world

/-- How a round trip ends whose result is known: a failure of the transport or of the secure system
takes the session down. -/
def conclude (id : ChannelId) (channel : Channel) (instruction : Instruction)
    (result : Except Failure Origin) (op : Option Operation) (w : World (SecureWorld κ)) :
    End (SecureWorld κ) :=
  match result with
  | .ok origin => ⟨.ok origin, op, w⟩
  | .error failure =>
    if failure.breaksSession then
      ⟨.error failure, op,
        (w.log (.callFailed channel.handle instruction failure)).teardown SecureWorld.driver id⟩
    else ⟨.error failure, op, w⟩

/-- A round trip whose request is published ends once its result is collected. -/
theorem roundTrip_eq_conclude {id : ChannelId} {channel : Channel} {instruction : Instruction}
    {command : UInt32} {op : Option Operation} {held : Holdings} {w v : World (SecureWorld κ)}
    (hp : publish SecureWorld.driver channel instruction command op w = (.ok held, v)) :
    roundTrip SecureWorld.driver id channel instruction command op w
      = let exchanged := exchange SecureWorld.driver channel.handle v
        let collected :=
          collect SecureWorld.driver channel op held exchanged.1.isOk exchanged.2
        conclude id channel instruction (exchanged.1.bind fun _ => collected.1) collected.2.1
          collected.2.2 := by
  unfold roundTrip
  rw [hp]
  rfl

/-- A result that is known ends a round trip in the same way in both worlds. -/
theorem conclude_apart {before before' op op' : Option Operation} (hw : w.Apart hidden w')
    (id : ChannelId) (channel : Channel) (instruction : Instruction)
    {result : Except Failure Origin}
    (hop : Operation.Settled (Replied result) before before' op op') :
    (conclude id channel instruction result op w).Apart hidden before before'
      (conclude id channel instruction result op' w') := by
  unfold conclude
  cases result with
  | ok origin => exact ⟨rfl, hop, hw⟩
  | error failure =>
    simp only
    split
    · exact ⟨rfl, hop, (hw.log _).map fun memory u =>
        World.teardown_withMemory memory prompt_driver id u⟩
    · exact ⟨rfl, hop, hw⟩

variable {op op' : Option Operation} (hop : Option.Rel Operation.Alike op op')
include hop

/-- A round trip ends in the same way in both worlds, if the exchange of signals does. -/
theorem roundTrip_apart (hw : w.Apart hidden w') (id : ChannelId) (channel : Channel)
    (instruction : Instruction) (command : UInt32)
    (hexchange : ∀ held v v',
      publish SecureWorld.driver channel instruction command op w = (.ok held, v) →
      v.Apart hidden v' →
      (exchange SecureWorld.driver channel.handle v').1
          = (exchange SecureWorld.driver channel.handle v).1 ∧
        (exchange SecureWorld.driver channel.handle v).2.Apart hidden
          (exchange SecureWorld.driver channel.handle v').2) :
    (roundTrip SecureWorld.driver id channel instruction command op w).Apart hidden op op'
      (roundTrip SecureWorld.driver id channel instruction command op' w') := by
  obtain ⟨hpublished, hfilled⟩ :=
    publish_apart prompt_driver hop hw channel instruction command
  rcases hp : publish SecureWorld.driver channel instruction command op w
      with ⟨failure | held, v⟩ <;>
    rcases hp' : publish SecureWorld.driver channel instruction command op' w'
      with ⟨failure' | held', v'⟩ <;> rw [hp, hp'] at hpublished hfilled <;>
    cases hpublished
  · -- a request that is not published was refused by the client or by the driver
    rw [roundTrip_of_unfilled id hp, roundTrip_of_unfilled id hp']
    exact .refused hop hfilled (publish_origin (congrArg Prod.fst hp))
  · obtain ⟨hexchanged, hu⟩ := hexchange held v v' hp hfilled
    obtain ⟨hcollected, hafter, hsettled⟩ := collect_apart prompt_driver hop hu channel held
      (exchange SecureWorld.driver channel.handle v).1.isOk
    rw [roundTrip_eq_conclude hp, roundTrip_eq_conclude hp']
    simp only [hexchanged, hcollected]
    refine conclude_apart hafter id channel instruction (hsettled.imp fun hreplied => ?_)
    cases he : (exchange SecureWorld.driver channel.handle v).1 with
    | error failure =>
      -- that the exchange of signals fails is not the application's doing
      rw [he] at hreplied
      have hbreaks := (Failure.breaksSession_iff failure).1 (exchange_breaks he)
      rw [hreplied failure rfl] at hbreaks
      rcases hbreaks with h | h <;> cases h
    | ok =>
      rw [he] at hreplied
      exact ⟨rfl, hreplied⟩

/-- A call begins in the same way in both worlds. -/
theorem begun_apart (hw : w.Apart hidden w') (id : ChannelId) :
    (begun id op w).Apart hidden (begun id op' w') := by
  cases hop with
  | none => exact hw
  | @some op op' h =>
    show (w.onLifecycle op.lifecycle _).Apart hidden (w'.onLifecycle op'.lifecycle _)
    rw [h.lifecycle_eq]
    exact hw.map (f := (·.onLifecycle op.lifecycle (·.begin id))) fun _ _ => rfl

/-- A call is over in the same way in both worlds. -/
theorem ended_apart (hw : w.Apart hidden w') {result result' : Except Failure Origin}
    (hresult : result' = result) : (ended op result w).Apart hidden (ended op' result' w') := by
  subst hresult
  cases hop with
  | none => exact hw
  | @some op op' h =>
    show (w.onLifecycle op.lifecycle _).Apart hidden (w'.onLifecycle op'.lifecycle _)
    rw [h.lifecycle_eq]
    exact hw.map (f := (·.onLifecycle op.lifecycle (·.finish (originOf result')))) fun _ _ => rfl

end Call

/-- Where only that is mapped which an operation asks for, no hidden byte goes into the secure
world. -/
theorem World.Windowed.discloses {op : Option Operation} {memory : Memory}
    (h : w.Windowed op memory) : w.driver.mappings.Discloses (Operation.OutputOnly op) := by
  intro secureVa mapping hget hinput i hle hlt hhidden
  obtain ⟨o, slot, ho, hplan⟩ := h.mapped secureVa mapping hget
  obtain ⟨hlent, -⟩ := Parameter.lends_of_plan hplan
  rw [Parameter.sends_of_plan hplan] at hinput
  exact hhidden.2 o slot ho ⟨hinput, mapping.address, mapping.len, hlent, rfl, hle, hlt⟩

/-! ## Round trips -/

/-- The questions that an application asks while it serves the request of a round trip. -/
def Trip.questions (t : Trip (SecureWorld κ)) : List Question :=
  match t.filling SecureWorld.driver with
  | (.error _, _) => []
  | (.ok _, w) => w.questionsAt t.channel.handle

/-- The round trips are the same but for their operations, which are alike, and for bytes that are
hidden. -/
structure Trip.Apart {σ : Type} (hidden : BufferId → Nat → Prop) (t t' : Trip σ) : Prop where
  same : t' = { t with op := t'.op, world := t'.world }
  operation : Option.Rel Operation.Alike t.op t'.op
  world : t.world.Apart hidden t'.world

variable {t t' : Trip (SecureWorld κ)}

/-- What is known when the request of a round trip is filled in: nothing hidden goes into the secure
world, and the notification that comes next finds the request or nothing. -/
theorem filled_of_accorded (hacc : t.world.Accorded id)
    (hget : t.world.channels.get? t.id = some t.channel) (hactive : t.channel.active = true)
    (hbare : t.world.driver.mappings.Covered .none) {held : Holdings} {v : World (SecureWorld κ)}
    (hf : t.filling SecureWorld.driver = (.ok held, v)) :
    v.driver.mappings.Discloses (Operation.OutputOnly t.op) ∧
      (SecureWorld.Idle t.channel.handle v.toShared ∨ v.Reserved t.channel.handle ∧
        ∃ worker instruction, SecureWorld.Finds t.channel.handle worker instruction v.toShared) ∧
      t.questions = v.questionsAt t.channel.handle := by
  have hwindowed := Call.windowed_filling hbare t.id t.channel t.instruction t.command t.op
  rw [show Call.filling SecureWorld.driver t.id t.channel t.instruction t.command t.op
    t.world = _ from hf] at hwindowed
  refine ⟨hwindowed.discloses, ?_, ?_⟩
  · rcases idle_or_finds_of_filling hacc hf with hidle | ⟨worker, instruction, -, -, hfinds⟩
    · exact .inl hidle
    · exact .inr ⟨reserved_of_filling hacc hf hget hactive, worker, instruction, hfinds⟩
  · unfold Trip.questions
    rw [hf]

section Both

variable (ht : t.Apart (Operation.OutputOnly t.op) t') (hacc : t.world.Accorded id)
  (hget : t.world.channels.get? t.id = some t.channel) (hactive : t.channel.active = true)
  (hbare : t.world.driver.mappings.Covered .none)
  (hreads : ∀ q ∈ t.questions, ∀ mapping ∈ q.source?, mapping.access.contains .input = true)
include ht hacc hget hactive hbare hreads

/-- A round trip ends in the same way in both worlds. -/
theorem carry_apart : (t.carry SecureWorld.driver).Apart (Operation.OutputOnly t.op) t.op t'.op
    (t'.carry SecureWorld.driver) := by
  have hround := Call.roundTrip_apart ht.operation (Call.begun_apart ht.operation ht.world t.id)
    t.id t.channel t.instruction t.command fun held v v' hp hv => by
      have hf : t.filling SecureWorld.driver = (.ok held, v) := hp
      obtain ⟨hdiscloses, hcase, hasked⟩ := filled_of_accorded hacc hget hactive hbare hf
      exact Call.exchange_apart hv hdiscloses hcase (hasked ▸ hreads)
  rw [ht.same]
  show (Call.carry _ _ _ _ _ _ _).Apart _ _ _ (Call.carry _ _ _ _ _ _ _)
  rw [Call.carry_eq, Call.carry_eq]
  exact ⟨hround.result, hround.operation,
    Call.ended_apart ht.operation hround.world hround.result⟩

/-- The application learns the same in both worlds. -/
theorem learned_apart :
    t'.questions.map Question.learned = t.questions.map Question.learned := by
  obtain ⟨hpublished, hfilled⟩ := Call.publish_apart SecureWorld.prompt_driver ht.operation
    (Call.begun_apart ht.operation ht.world t.id) t.channel t.instruction t.command
  have hsame : t'.filling SecureWorld.driver
    = Call.filling SecureWorld.driver t.id t.channel t.instruction t.command t'.op t'.world :=
    congrArg (Trip.filling SecureWorld.driver) ht.same
  have hpublished : (t'.filling SecureWorld.driver).1 = (t.filling SecureWorld.driver).1 :=
    (congrArg Prod.fst hsame).trans hpublished
  have hfilled : (t.filling SecureWorld.driver).2.Apart (Operation.OutputOnly t.op)
    (t'.filling SecureWorld.driver).2 := hsame ▸ hfilled
  have hhandle : t'.channel.handle = t.channel.handle := by rw [ht.same]
  rcases hf : t.filling SecureWorld.driver with ⟨failure | held, v⟩ <;>
    rcases hf' : t'.filling SecureWorld.driver with ⟨failure' | held', v'⟩ <;>
    rw [hf, hf'] at hpublished hfilled <;> cases hpublished
  · -- a request that is not filled in is not served
    unfold Trip.questions
    rw [hf, hf']
  · obtain ⟨hdiscloses, hcase, hasked⟩ := filled_of_accorded hacc hget hactive hbare hf
    obtain ⟨-, -, hlearned⟩ := World.notify_apart hfilled hdiscloses hcase (hasked ▸ hreads)
    rw [hasked, ← hlearned]
    unfold Trip.questions
    rw [hf', hhandle]

end Both

end TeeClient

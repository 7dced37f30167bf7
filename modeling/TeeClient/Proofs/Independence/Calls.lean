import TeeClient.Proofs.Cancelling.Calls
import TeeClient.Proofs.Independence

/-!
# The same command in two worlds

A command that is invoked in two worlds which agree on its seat goes through the same steps in both:
it fills in the same request, has it served by the same worker, collects the same result, and takes
the session down in both or in neither. A command lends nothing if it holds no mapping when it has
gone through its slots (`Call.gathered`).

Main statements:

* `World.Alongside.carry`: a round trip ends in the same way in both worlds;
* `World.invoke_comm`: two commands at seats that have nothing in common can be exchanged.
-/

namespace TeeClient

open SecureWorld

variable {σ κ : Type}

/-! ## What a command lends -/

namespace Holdings

/-- Something is held where something was put. -/
theorem put_some_ne_none (held : Holdings) (slot : Slot) (mapping : Held) :
    held.put slot (some mapping) ≠ Holdings.none := by
  intro he
  have hslot := congrArg (fun held : Holdings => held.get slot) he
  rw [Slots.get_put_self, show Holdings.none.get slot = _ from Slots.get_replicate _ slot] at hslot
  cases hslot

variable (D : Driver σ)

/-- Where nothing is held nothing is given back. -/
theorem release_none (handle : Handle) (slot : Slot) (w : World σ) :
    Holdings.none.release D handle slot w = (.none, w) :=
  release_of_none (Slots.get_replicate _ slot) w

/-- Not from any slot. -/
theorem releaseEach_none (handle : Handle) (slots : List Slot) (w : World σ) :
    Holdings.none.releaseEach D handle slots w = w := by
  induction slots with
  | nil => rfl
  | cons slot rest ih =>
    unfold releaseEach
    rw [release_none]
    exact ih

end Holdings

namespace Call

variable (D : Driver σ)

/-- What a call holds when it has gone through the slots of its operation. -/
def gathered (id : ChannelId) (channel : Channel) (op : Option Operation) (w : World σ) :
    Holdings :=
  match op with
  | none => .none
  | some o => (fillEach D channel o Slot.ascending .none (cleared id channel op w)).2.1

variable {D}

/-- A slot that is prepared gives nothing back that is held. -/
theorem eq_none_of_prepare {handle : Handle} {slot : Slot} {p : Parameter} {held : Holdings}
    {w : World σ} (h : (prepare D handle slot p held w).2.1 = .none) : held = .none := by
  have hprepares := prepares D handle slot p held w
  generalize prepare D handle slot p held w = prepared at h hprepares
  cases hprepares with
  | rejected | written | refused => exact h
  | mapped => exact absurd h (held.put_some_ne_none slot _)

/-- Slots that are filled in give nothing back that is held. -/
theorem eq_none_of_fillEach {channel : Channel} {op : Operation} {slots : List Slot}
    {held : Holdings} {w : World σ} (h : (fillEach D channel op slots held w).2.1 = .none) :
    held = .none := by
  induction slots generalizing held w with
  | nil => exact h
  | cons slot rest ih =>
    unfold fillEach at h
    have hprepared := @eq_none_of_prepare _ D channel.handle slot (op.param slot) held w
    rcases hp : prepare D channel.handle slot (op.param slot) held w
      with ⟨failure | words, held₁, w₁⟩ <;> rw [hp] at h hprepared
    · exact hprepared h
    · exact hprepared (ih h)

end Call

namespace World.Alongside

variable {seat : Seat} {start start' w w' : World (SecureWorld κ)} {channel : Channel}

/-! ## Mappings -/

/-- A mapping that is held is given back in both worlds. -/
theorem release (h : Alongside seat start start' w w') (hlends : seat.lends) (handle : Handle)
    (slot : Slot) (held : Holdings) :
    (held.release SecureWorld.driver handle slot w').1
        = (held.release SecureWorld.driver handle slot w).1 ∧
      Alongside seat start start' (held.release SecureWorld.driver handle slot w).2
        (held.release SecureWorld.driver handle slot w').2 := by
  unfold Holdings.release
  cases held.get slot with
  | none => exact ⟨rfl, h⟩
  | some mapping =>
    obtain ⟨hresult, hdriver⟩ := h.driver.unmap hlends handle mapping.address mapping.info
    have hunmap : ∀ w : World (SecureWorld κ), w.onDesk SecureWorld.driver
        (SecureWorld.driver.unmap handle mapping.address mapping.info)
        = ((SecureWorld.unmap handle mapping.address mapping.info w.driver).1, w.withDriver
          (SecureWorld.unmap handle mapping.address mapping.info w.driver).2) := fun _ => rfl
    have hafter := h.withDriver hdriver
    simp only [hunmap, hresult]
    rcases (SecureWorld.unmap handle mapping.address mapping.info w.driver).1 with e | ⟨⟩
    · exact ⟨rfl, hafter.log _⟩
    · exact ⟨rfl, hafter⟩

/-- Everything that is held is given back in both worlds. -/
theorem releaseEach (h : Alongside seat start start' w w') (handle : Handle) (slots : List Slot)
    {held : Holdings} (hheld : ¬ seat.lends → held = .none) :
    Alongside seat start start' (held.releaseEach SecureWorld.driver handle slots w)
      (held.releaseEach SecureWorld.driver handle slots w') := by
  -- a call that lends nothing holds nothing that it could give back
  by_cases hlends : seat.lends
  · induction slots generalizing held w w' with
    | nil => exact h
    | cons slot rest ih =>
      obtain ⟨hsame, hreleased⟩ := h.release hlends handle slot held
      unfold Holdings.releaseEach
      simp only [hsame]
      exact ih hreleased fun hnot => absurd hlends hnot
  · rw [hheld hlends, Holdings.releaseEach_none, Holdings.releaseEach_none]
    exact h

/-! ## The exchange of signals -/

section Exchange

variable (hseat : seat.channel = some channel)
include hseat

/-- The handle of the session is that of the seat. -/
theorem hires : seat.Hires channel.handle := ⟨channel, hseat, rfl⟩

/-- The page of the session is that of the seat. -/
theorem lodges : seat.Lodges channel.page := ⟨channel, hseat, rfl⟩

/-- An error code is judged in the same way in both worlds. -/
theorem classify (h : Alongside seat start start' w w') :
    (Call.classify SecureWorld.driver channel.handle w').1
        = (Call.classify SecureWorld.driver channel.handle w).1 ∧
      Alongside seat start start' (Call.classify SecureWorld.driver channel.handle w).2
        (Call.classify SecureWorld.driver channel.handle w').2 := by
  have hcode : ∀ w : World (SecureWorld κ), w.onDesk SecureWorld.driver
      (SecureWorld.driver.errorCode channel.handle)
      = (SecureWorld.errorCode channel.handle w.driver, w) := fun _ => rfl
  unfold Call.classify
  simp only [hcode, h.driver.errorCode (hires hseat)]
  cases SecureWorld.errorCode channel.handle w.driver with
  | ok code => exact ⟨rfl, h.log _⟩
  | error e => exact ⟨rfl, (h.log _).log _⟩

/-- A wait for the answer ends in the same way in both worlds. -/
theorem await (h : Alongside seat start start' w w') :
    (Call.await channel.handle w').1 = (Call.await channel.handle w).1 ∧
      Alongside seat start start' (Call.await channel.handle w).2
        (Call.await channel.handle w').2 := by
  obtain ⟨hresult, hdriver⟩ := h.driver.wait (hires hseat)
  have hwait : ∀ w : World (SecureWorld κ), w.onShared SecureWorld.driver
      (SecureWorld.driver.wait channel.handle none)
      = ((SecureWorld.wait channel.handle w.driver).1,
        w.withDriver (SecureWorld.wait channel.handle w.driver).2) := fun _ => rfl
  have hafter := h.withDriver hdriver
  unfold Call.await
  simp only [hwait, hresult]
  rcases (SecureWorld.wait channel.handle w.driver).1 with e | ⟨⟩
  · cases e with
    | infoNotification => exact hafter.classify hseat
    | _ => exact ⟨rfl, hafter.log _⟩
  · exact ⟨rfl, hafter⟩

/-- Signals are exchanged with the same outcome in both worlds. -/
theorem exchange (h : Alongside seat start start' w w')
    (hfinds : FindsOnly seat channel.handle w) (hfinds' : FindsOnly seat channel.handle w') :
    (Call.exchange SecureWorld.driver channel.handle w').1
        = (Call.exchange SecureWorld.driver channel.handle w).1 ∧
      Alongside seat start start' (Call.exchange SecureWorld.driver channel.handle w).2
        (Call.exchange SecureWorld.driver channel.handle w').2 := by
  obtain ⟨hresult, hafter⟩ := h.notify (hires hseat) hfinds hfinds'
  rw [Call.exchange_eq_await, Call.exchange_eq_await]
  generalize w.onShared SecureWorld.driver (SecureWorld.notify channel.handle) = notified
    at hresult hafter
  generalize w'.onShared SecureWorld.driver (SecureWorld.notify channel.handle) = notified'
    at hresult hafter
  obtain ⟨result, v⟩ := notified
  obtain ⟨result', v'⟩ := notified'
  obtain rfl : result' = result := hresult
  -- the answer is waited for only if the notification went through
  cases result' with
  | error e => exact ⟨rfl, hafter.log _⟩
  | ok => exact hafter.await hseat

/-! ## Requests -/

/-- A slot is prepared in the same way in both worlds. -/
theorem prepare (h : Alongside seat start start' w w') (slot : Slot) (p : Parameter)
    {held : Holdings} (hheld : ¬ seat.lends →
      (Call.prepare SecureWorld.driver channel.handle slot p held w).2.1 = .none) :
    (Call.prepare SecureWorld.driver channel.handle slot p held w').1
        = (Call.prepare SecureWorld.driver channel.handle slot p held w).1 ∧
      (Call.prepare SecureWorld.driver channel.handle slot p held w').2.1
        = (Call.prepare SecureWorld.driver channel.handle slot p held w).2.1 ∧
      Alongside seat start start'
        (Call.prepare SecureWorld.driver channel.handle slot p held w).2.2
        (Call.prepare SecureWorld.driver channel.handle slot p held w').2.2 := by
  unfold Call.prepare at hheld ⊢
  cases hplan : p.plan with
  | error refusal => exact ⟨rfl, rfl, h.log _⟩
  | ok plan =>
    cases plan with
    | words words => exact ⟨rfl, rfl, h⟩
    | mapping address len access =>
      have hmap : ∀ w : World (SecureWorld κ), w.onDesk SecureWorld.driver
          (SecureWorld.driver.map channel.handle address len access)
          = ((SecureWorld.map channel.handle address len access w.driver).1, w.withDriver
            (SecureWorld.map channel.handle address len access w.driver).2) := fun _ => rfl
      simp only [hplan, Holdings.map, hmap] at hheld ⊢
      -- a mapping that was made would be held from now on
      have hlends : ¬ seat.lends →
          (SecureWorld.map channel.handle address len access w.driver).1.isOk = false := by
        intro hnot
        have hnone := hheld hnot
        cases hr : (SecureWorld.map channel.handle address len access w.driver).1 with
        | error e => rfl
        | ok info =>
          rw [hr] at hnone
          exact absurd hnone (held.put_some_ne_none slot _)
      obtain ⟨hresult, hdriver⟩ := h.driver.map (hires hseat) address len access hlends
      have hafter := h.withDriver hdriver
      rw [hresult]
      cases (SecureWorld.map channel.handle address len access w.driver).1 with
      | error e => exact ⟨rfl, rfl, hafter.log _⟩
      | ok info => exact ⟨rfl, rfl, hafter.log _⟩

/-- The slots are filled in in the same way. -/
theorem fillEach (h : Alongside seat start start' w w') (op : Operation) (slots : List Slot)
    {held : Holdings} (hheld : ¬ seat.lends →
      (Call.fillEach SecureWorld.driver channel op slots held w).2.1 = .none) :
    (Call.fillEach SecureWorld.driver channel op slots held w').1
        = (Call.fillEach SecureWorld.driver channel op slots held w).1 ∧
      (Call.fillEach SecureWorld.driver channel op slots held w').2.1
        = (Call.fillEach SecureWorld.driver channel op slots held w).2.1 ∧
      Alongside seat start start'
        (Call.fillEach SecureWorld.driver channel op slots held w).2.2
        (Call.fillEach SecureWorld.driver channel op slots held w').2.2 := by
  induction slots generalizing held w w' with
  | nil => exact ⟨rfl, rfl, h⟩
  | cons slot rest ih =>
    -- what this slot maps is still held when the last slot is filled in
    have hheld' : ¬ seat.lends →
        (Call.prepare SecureWorld.driver channel.handle slot (op.param slot) held w).2.1
          = .none := by
      intro hnot
      have hnone := hheld hnot
      unfold Call.fillEach at hnone
      rcases hp : Call.prepare SecureWorld.driver channel.handle slot (op.param slot) held w
        with ⟨failure | words, held₁, w₁⟩ <;> rw [hp] at hnone
      · exact hnone
      · exact Call.eq_none_of_fillEach hnone
    have hprepared := h.prepare hseat slot (op.param slot) hheld'
    unfold Call.fillEach at hheld ⊢
    rcases hp : Call.prepare SecureWorld.driver channel.handle slot (op.param slot) held w
      with ⟨result, held₁, w₁⟩
    rcases hp' : Call.prepare SecureWorld.driver channel.handle slot (op.param slot) held w'
      with ⟨result', held₁', w₁'⟩
    rw [hp, hp'] at hprepared
    rw [hp] at hheld
    obtain ⟨rfl, rfl, hw₁⟩ := hprepared
    cases result' with
    | error failure => exact ⟨rfl, rfl, hw₁⟩
    | ok words => exact ih (hw₁.onPage (lodges hseat) _) hheld

/-- All slots are filled in in the same way, unless the operation is cancelled meanwhile. -/
theorem fill (h : Alongside seat start start' w w') {op : Operation}
    (hop : seat.lifecycle = some op.lifecycle) (hheld : ¬ seat.lends →
      (Call.fillEach SecureWorld.driver channel op Slot.ascending .none w).2.1 = .none) :
    (Call.fill SecureWorld.driver channel op w').1
        = (Call.fill SecureWorld.driver channel op w).1 ∧
      (Call.fill SecureWorld.driver channel op w').2.1
        = (Call.fill SecureWorld.driver channel op w).2.1 ∧
      (¬ seat.lends → (Call.fill SecureWorld.driver channel op w).2.1 = .none) ∧
      Alongside seat start start' (Call.fill SecureWorld.driver channel op w).2.2
        (Call.fill SecureWorld.driver channel op w').2.2 := by
  have hfilled := h.fillEach hseat op Slot.ascending hheld
  unfold Call.fill
  rcases hf : Call.fillEach SecureWorld.driver channel op Slot.ascending .none w
    with ⟨result, held, v⟩
  rcases hf' : Call.fillEach SecureWorld.driver channel op Slot.ascending .none w'
    with ⟨result', held', v'⟩
  rw [hf, hf'] at hfilled
  rw [hf] at hheld
  obtain ⟨rfl, rfl, hv⟩ := hfilled
  -- the lifecycle is at the seat, so the check afterwards has the same outcome
  have hprogress : v'.progress op.lifecycle = v.progress op.lifecycle := by
    unfold World.progress
    rw [hv.lifecycles.own hop]
  cases result' with
  | error failure => exact ⟨rfl, rfl, hheld, hv⟩
  | ok =>
    simp only [hprogress]
    split
    · exact ⟨rfl, rfl, hheld, hv.log _⟩
    · exact ⟨rfl, rfl, hheld, hv⟩

/-- A request is published in the same way in both worlds, or given up in both. -/
theorem publish (h : Alongside seat start start' w w') (instruction : Instruction)
    (command : UInt32) {op : Option Operation}
    (hop : seat.lifecycle = op.map Operation.lifecycle)
    (hheld : ¬ seat.lends → ∀ o, op = some o →
      (Call.fillEach SecureWorld.driver channel o Slot.ascending .none
        (w.onPage channel.page fun p => (p.setReady false).clearRequest)).2.1 = .none) :
    (Call.publish SecureWorld.driver channel instruction command op w').1
        = (Call.publish SecureWorld.driver channel instruction command op w).1 ∧
      (∀ held, (Call.publish SecureWorld.driver channel instruction command op w).1 = .ok held →
        ¬ seat.lends → held = .none) ∧
      Alongside seat start start'
        (Call.publish SecureWorld.driver channel instruction command op w).2
        (Call.publish SecureWorld.driver channel instruction command op w').2 := by
  have hcleared := h.onPage (lodges hseat) fun p => (p.setReady false).clearRequest
  unfold Call.publish
  cases op with
  | none =>
    refine ⟨rfl, fun held hok _ => ?_, (hcleared.onPage (lodges hseat) _).log _⟩
    cases hok
    rfl
  | some o =>
    obtain ⟨hresult, hsame, hnone, hfilled⟩ :=
      hcleared.fill hseat hop fun hnot => hheld hnot o rfl
    simp only
    generalize Call.fill SecureWorld.driver channel o (w.onPage channel.page _) = filled
      at hresult hsame hnone hfilled
    generalize Call.fill SecureWorld.driver channel o (w'.onPage channel.page _) = filled'
      at hresult hsame hfilled
    obtain ⟨result, held, v⟩ := filled
    obtain ⟨result', held', v'⟩ := filled'
    obtain rfl : result' = result := hresult
    obtain rfl : held' = held := hsame
    cases result' with
    | error failure =>
      -- the page is cleared, and what was mapped up to the failure is given back
      exact ⟨rfl, nofun, (hfilled.onPage (lodges hseat) _).releaseEach channel.handle _ hnone⟩
    | ok =>
      refine ⟨rfl, fun held hok hnot => ?_, (hfilled.onPage (lodges hseat) _).log _⟩
      cases hok
      exact hnone hnot

/-! ## Results -/

/-- Slots are taken back in the same way in both worlds. -/
theorem takeBackEach (h : Alongside seat start start' w w') (copyBack : Bool) (slots : List Slot)
    (op : Operation) {held : Holdings} (hheld : ¬ seat.lends → held = .none) :
    (Call.takeBackEach SecureWorld.driver channel copyBack slots op held w').1
        = (Call.takeBackEach SecureWorld.driver channel copyBack slots op held w).1 ∧
      (Call.takeBackEach SecureWorld.driver channel copyBack slots op held w').2.1
        = (Call.takeBackEach SecureWorld.driver channel copyBack slots op held w).2.1 ∧
      (¬ seat.lends →
        (Call.takeBackEach SecureWorld.driver channel copyBack slots op held w).2.1 = .none) ∧
      Alongside seat start start'
        (Call.takeBackEach SecureWorld.driver channel copyBack slots op held w).2.2
        (Call.takeBackEach SecureWorld.driver channel copyBack slots op held w').2.2 := by
  induction slots generalizing op held w w' with
  | nil => exact ⟨rfl, rfl, hheld, h⟩
  | cons slot rest ih =>
    unfold Call.takeBackEach
    simp only [h.page_eq (lodges hseat)]
    -- a marker that does not match is only logged
    have hlogged : ∀ mismatch : Bool, Alongside seat start start'
        (if mismatch then w.log (.markerMismatch slot) else w)
        (if mismatch then w'.log (.markerMismatch slot) else w') := by
      intro mismatch
      split
      · exact h.log _
      · exact h
    have hlogged := hlogged ((held.get slot).isSome
      != (((w.page channel.page).param slot).mappedLen != 0))
    have hreleased : ∀ {v v' : World (SecureWorld κ)}, Alongside seat start start' v v' →
        (held.release SecureWorld.driver channel.handle slot v').1
          = (held.release SecureWorld.driver channel.handle slot v).1 ∧
        (¬ seat.lends → (held.release SecureWorld.driver channel.handle slot v).1 = .none) ∧
        Alongside seat start start' (held.release SecureWorld.driver channel.handle slot v).2
          (held.release SecureWorld.driver channel.handle slot v').2 := by
      intro v v' hv
      by_cases hlends : seat.lends
      · obtain ⟨hsame, hafter⟩ := hv.release hlends channel.handle slot held
        exact ⟨hsame, fun hnot => absurd hlends hnot, hafter⟩
      · rw [hheld hlends, Holdings.release_none, Holdings.release_none]
        exact ⟨rfl, fun _ => rfl, hv⟩
    obtain ⟨hsame, hnone, hafter⟩ := hreleased hlogged
    rw [hsame]
    exact ih hafter _ hnone

/-- A result is collected in the same way in both worlds. -/
theorem collect (h : Alongside seat start start' w w') (op : Option Operation) {held : Holdings}
    (hheld : ¬ seat.lends → held = .none) (exchanged : Bool) :
    (Call.collect SecureWorld.driver channel op held exchanged w').1
        = (Call.collect SecureWorld.driver channel op held exchanged w).1 ∧
      (Call.collect SecureWorld.driver channel op held exchanged w').2.1
        = (Call.collect SecureWorld.driver channel op held exchanged w).2.1 ∧
      Alongside seat start start'
        (Call.collect SecureWorld.driver channel op held exchanged w).2.2
        (Call.collect SecureWorld.driver channel op held exchanged w').2.2 := by
  have hlogged : ∀ {v v' : World (SecureWorld κ)} (b : Bool) origin status,
      Alongside seat start start' v v' → Alongside seat start start'
        (if b then v else v.log (.inconsistentResult origin status))
        (if b then v' else v'.log (.inconsistentResult origin status)) := by
    intro v v' b origin status hv
    split
    · exact hv
    · exact hv.log _
  unfold Call.collect
  simp only [h.page_eq (lodges hseat)]
  cases op with
  | none => exact ⟨trivial, rfl, hlogged _ _ _ (h.releaseEach channel.handle _ hheld)⟩
  | some o =>
    -- what is taken back and what is still held is the same in both worlds
    have htaken := h.takeBackEach hseat (exchanged && (Call.speaker?
      (w.page channel.page).origin (w.page channel.page).status).isSome) Slot.ascending o hheld
    simp only
    generalize Call.takeBackEach SecureWorld.driver channel _ Slot.ascending o held w = taken
      at htaken
    generalize Call.takeBackEach SecureWorld.driver channel _ Slot.ascending o held w' = taken'
      at htaken
    obtain ⟨o₁, held₁, v⟩ := taken
    obtain ⟨o₁', held₁', v'⟩ := taken'
    obtain ⟨rfl, rfl, hnone, hv⟩ := htaken
    exact ⟨trivial, rfl, hlogged _ _ _ (hv.releaseEach channel.handle _ hnone)⟩

/-- The session is taken down in both worlds. -/
theorem teardown (h : Alongside seat start start' w w')
    (hown : ∀ ch, w.channels.get? seat.id = some ch → ch.handle = channel.handle) :
    Alongside seat start start' (w.teardown SecureWorld.driver seat.id)
      (w'.teardown SecureWorld.driver seat.id) := by
  unfold World.teardown
  rw [h.channels.own rfl]
  cases hget : w.channels.get? seat.id with
  | none => exact h
  | some ch =>
    simp only
    split
    · have hclose : ∀ w : World (SecureWorld κ), w.onDesk SecureWorld.driver
          (SecureWorld.driver.closeSession ch.handle)
          = ((SecureWorld.closeSession ch.handle w.desk).1,
            w.withDesk (SecureWorld.closeSession ch.handle w.desk).2) := fun _ => rfl
      have hshut := h.onChannel fun ch => { ch with active := false }
      obtain ⟨hresult, hdriver, hjournal⟩ := @SecureWorld.Alongside.closeSession _ _ _ _ ch.handle
        (w.onChannel seat.id _).desk (w'.onChannel seat.id _).desk hshut.driver _ _
        hshut.journal ((hown ch hget).symm ▸ hires hseat)
      simp only [hclose, hresult]
      have hclosed : Alongside seat start start'
          ((w.onChannel seat.id fun ch => { ch with active := false }).withDesk
            (SecureWorld.closeSession ch.handle
              (w.onChannel seat.id fun ch => { ch with active := false }).desk).2)
          ((w'.onChannel seat.id fun ch => { ch with active := false }).withDesk
            (SecureWorld.closeSession ch.handle
              (w'.onChannel seat.id fun ch => { ch with active := false }).desk).2) :=
        { hshut with driver := hdriver, journal := hjournal }
      rcases (SecureWorld.closeSession ch.handle
        (w.onChannel seat.id fun ch => { ch with active := false }).desk).1 with e | ⟨⟩
      · exact hclosed.log _
      · exact hclosed
    · exact h

/-! ## Calls -/

/-- A result that is known ends a round trip in the same way in both worlds. -/
theorem conclude (h : Alongside seat start start' w w') (instruction : Instruction)
    (result : Except Failure Origin) (op : Option Operation)
    (hown : ∀ ch, w.channels.get? seat.id = some ch → ch.handle = channel.handle) :
    let e := Call.conclude seat.id channel instruction result op w
    let e' := Call.conclude seat.id channel instruction result op w'
    e'.result = e.result ∧ e'.operation = e.operation ∧
      Alongside seat start start' e.world e'.world := by
  unfold Call.conclude
  cases result with
  | ok origin => exact ⟨rfl, rfl, h⟩
  | error failure =>
    simp only
    split
    · exact ⟨rfl, rfl, (h.log _).teardown hseat hown⟩
    · exact ⟨rfl, rfl, h⟩

/-- A round trip ends in the same way in both worlds. -/
theorem roundTrip (h : Alongside seat start start' w w') (instruction : Instruction)
    (command : UInt32) {op : Option Operation}
    (hop : seat.lifecycle = op.map Operation.lifecycle)
    (hown : ∀ ch, w.channels.get? seat.id = some ch → ch.handle = channel.handle)
    (hheld : ¬ seat.lends → ∀ o, op = some o →
      (Call.fillEach SecureWorld.driver channel o Slot.ascending .none
        (w.onPage channel.page fun p => (p.setReady false).clearRequest)).2.1 = .none)
    (hfinds : ∀ held v,
      Call.publish SecureWorld.driver channel instruction command op w = (.ok held, v) →
      FindsOnly seat channel.handle v)
    (hfinds' : ∀ held v,
      Call.publish SecureWorld.driver channel instruction command op w' = (.ok held, v) →
      FindsOnly seat channel.handle v) :
    let e := Call.roundTrip SecureWorld.driver seat.id channel instruction command op w
    let e' := Call.roundTrip SecureWorld.driver seat.id channel instruction command op w'
    e'.result = e.result ∧ e'.operation = e.operation ∧
      Alongside seat start start' e.world e'.world := by
  obtain ⟨hresult, hnone, hpublished⟩ := h.publish hseat instruction command hop hheld
  rcases hp : Call.publish SecureWorld.driver channel instruction command op w
    with ⟨result, v⟩
  rcases hp' : Call.publish SecureWorld.driver channel instruction command op w'
    with ⟨result', v'⟩
  rw [hp, hp'] at hresult hpublished
  rw [hp] at hnone
  obtain rfl : result' = result := hresult
  cases result' with
  | error failure =>
    rw [Call.roundTrip_of_unfilled seat.id hp, Call.roundTrip_of_unfilled seat.id hp']
    exact ⟨rfl, rfl, hpublished⟩
  | ok held =>
    rw [Call.roundTrip_eq_conclude hp, Call.roundTrip_eq_conclude hp']
    obtain ⟨hexchanged, hanswered⟩ :=
      World.Alongside.exchange hseat hpublished (hfinds held v hp) (hfinds' held v' hp')
    have hchannels := Call.channels_collected hp
      (Call.exchange SecureWorld.driver channel.handle v).1.isOk
    simp only [hexchanged]
    generalize Call.exchange SecureWorld.driver channel.handle v = exchanged
      at hanswered hchannels
    obtain ⟨hcollected, hsame, hafter⟩ :=
      World.Alongside.collect hseat hanswered op (hnone held rfl) exchanged.1.isOk
    rw [hcollected, hsame]
    -- up to here no part of the call has touched the client's end of the session
    refine hafter.conclude hseat instruction _ _ fun ch hch => hown ch ?_
    rwa [hchannels] at hch

/-- A call that carries an operation, or none, ends in the same way in both worlds. -/
theorem carry (h : Alongside seat start start' w w') (hacc : w.Accorded id)
    (hacc' : w'.Accorded id) (command : UInt32) {op : Option Operation}
    (hop : seat.lifecycle = op.map Operation.lifecycle)
    (hown : ∀ ch, w.channels.get? seat.id = some ch → ch.handle = channel.handle)
    (hlends : ¬ seat.lends → Call.gathered SecureWorld.driver seat.id channel op w = .none) :
    let e := Call.carry SecureWorld.driver seat.id channel .invokeCommand command op w
    let e' := Call.carry SecureWorld.driver seat.id channel .invokeCommand command op w'
    e'.result = e.result ∧ e'.operation = e.operation ∧
      Alongside seat start start' e.world e'.world := by
  have hbegun : Alongside seat start start' (Call.begun seat.id op w)
      (Call.begun seat.id op w') := by
    cases op with
    | none => exact h
    | some o => exact h.onLifecycle hop _
  -- only the worker of the seat may find the request that is published
  have hfinds : ∀ {w : World (SecureWorld κ)}, w.Accorded id → ∀ held v,
      Call.publish SecureWorld.driver channel .invokeCommand command op
        (Call.begun seat.id op w) = (.ok held, v) → FindsOnly seat channel.handle v := by
    intro w hacc held v hp
    rcases idle_or_finds_of_filling (t := ⟨seat.id, channel, .invokeCommand, command, op, w⟩) hacc
      hp with hidle | ⟨worker, instruction, hpage, -, hf⟩
    · exact .inl hidle
    · exact .inr ⟨worker, instruction, hpage ▸ lodges hseat, hf⟩
  obtain ⟨hresult, hsame, hafter⟩ := hbegun.roundTrip hseat .invokeCommand command hop
    (fun ch hch => hown ch (by rwa [Call.channels_begun] at hch)) (fun hnot o ho => by
      have hnone := hlends hnot
      subst ho
      exact hnone) (hfinds hacc) (hfinds hacc')
  rw [Call.carry_eq, Call.carry_eq]
  simp only [hresult, hsame]
  refine ⟨trivial, trivial, ?_⟩
  cases op with
  | none => exact hafter
  | some o => exact hafter.onLifecycle hop _

end Exchange

end World.Alongside

/-! ## Commands -/

namespace World

variable {w : World (SecureWorld κ)}

/-- The client's end of a session, if it is active. -/
def active? (w : World σ) (id : ChannelId) : Option Channel :=
  (w.channels.get? id).filter Channel.active

/-- What belongs to a command on a session. -/
def seat (w : World σ) (id : ChannelId) (op : Option Operation) (lends : Prop) : Seat :=
  ⟨id, w.active? id, op.map Operation.lifecycle, lends⟩

/-- What a command holds when it has gone through the slots of its operation. -/
def gathered (D : Driver σ) (w : World σ) (id : ChannelId) (op : Option Operation) : Holdings :=
  match w.active? id with
  | none => .none
  | some channel => Call.gathered D id channel op w

/-- The application behind the session, if it is active, cancels nothing. -/
def CancelsNothing (w : World (SecureWorld κ)) (id : ChannelId) : Prop :=
  ∀ channel ∈ w.active? id, ∀ worker, w.driver.sessions.get? channel.handle = some worker →
    worker.app.CancelsNothing

/-- No fault is armed, nothing is mapped, and scene and sessions accord. -/
structure Quiet (w : World (SecureWorld κ)) : Prop where
  accorded : w.Accorded id
  bare : w.driver.mappings = .empty
  calm : w.driver.Calm

/-- A command leaves a `Quiet` world quiet, if it leaves no fault armed. -/
theorem Quiet.invoke (h : w.Quiet) {id : ChannelId} {command : UInt32} {op : Option Operation}
    (hcalm : (w.invoke SecureWorld.driver id command op).world.driver.Calm) :
    (w.invoke SecureWorld.driver id command op).world.Quiet where
  accorded := Accorded.moves h.accorded (invoke_once hosts_driver h.accorded .any id command op).2
  bare := by
    have hbare : w.driver.mappings.Covered .none := by
      rw [h.bare]
      exact fun secureVa mapping hget => by cases hget
    exact Table.eq_empty (World.invoke_preserves_of
      (Q := fun driver : SecureWorld κ => driver.mappings.Covered .none)
      (fun w id channel instruction command =>
        keeps_driver.sessionSafe_bare.carry w id channel instruction command op) id command
      hbare).get?_eq_none
  calm := hcalm

/-- A command ends in the same way in both worlds. -/
theorem Alongside.invoke {start start' w w' : World (SecureWorld κ)} {id : ChannelId}
    {op : Option Operation} {lends : Prop}
    (h : Alongside (w.seat id op lends) start start' w w') (hquiet : w.Quiet)
    (hquiet' : w'.Quiet) (command : UInt32)
    (hlends : w.gathered SecureWorld.driver id op ≠ .none → lends) :
    let e := w.invoke SecureWorld.driver id command op
    let e' := w'.invoke SecureWorld.driver id command op
    e'.result = e.result ∧ e'.operation = e.operation ∧
      Alongside (w.seat id op lends) start start' e.world e'.world := by
  have hget : w'.channels.get? id = w.channels.get? id := h.channels.own rfl
  obtain ⟨channel, hch, ha, hcall⟩ | ⟨hinactive, hrefused⟩ :=
    invoke_cases SecureWorld.driver id command op w
  · rw [hcall, invoke_of_active (hget.trans hch) ha]
    have hseat : w.active? id = some channel := Option.filter_eq_some_iff.2 ⟨hch, ha⟩
    refine h.carry hseat hquiet.accorded hquiet'.accorded command rfl (fun ch hget => ?_)
      fun hnot => ?_
    · rw [show w.channels.get? (w.seat id op lends).id = some channel from hch,
        Option.some.injEq] at hget
      rw [hget]
    · have hgathered := Classical.byContradiction fun hheld => hnot (hlends hheld)
      unfold gathered at hgathered
      rwa [hseat] at hgathered
  · rw [hrefused, invoke_of_inactive (hget ▸ hinactive)]
    exact ⟨rfl, rfl, h⟩

/-- Two commands were exchanged: `e` and `e'` is how they end at first, `f` and `f'` how each ends
after the other. -/
structure Exchanged (w : World (SecureWorld κ)) (e e' f f' : Call.End (SecureWorld κ)) : Prop where
  first : f'.result = e.result ∧ f'.operation = e.operation
  second : f.result = e'.result ∧ f.operation = e'.operation
  world : f.world.withoutHistory = f'.world.withoutHistory
  journal : ∃ new new', f.world.journal = new' ++ (new ++ w.journal) ∧
    f'.world.journal = new ++ (new' ++ w.journal)
  runs : ∃ new new', f.world.driver.runs = new' ++ (new ++ w.driver.runs) ∧
    f'.world.driver.runs = new ++ (new' ++ w.driver.runs)

/-- Two commands at seats that have nothing in common can be exchanged. -/
theorem invoke_comm (h : w.Quiet) {id id' : ChannelId} {op op' : Option Operation}
    {lends lends' : Prop} (hapart : (w.seat id op lends).Apart (w.seat id' op' lends'))
    (command command' : UInt32) (hlends : w.gathered SecureWorld.driver id op ≠ .none → lends)
    (hlends' : w.gathered SecureWorld.driver id' op' ≠ .none → lends')
    (hdiscreet : w.CancelsNothing id) (hdiscreet' : w.CancelsNothing id') :
    let e := w.invoke SecureWorld.driver id command op
    let e' := w.invoke SecureWorld.driver id' command' op'
    w.Exchanged e e' (e.world.invoke SecureWorld.driver id' command' op')
      (e'.world.invoke SecureWorld.driver id command op) := by
  intro e e'
  have hseat : ∀ {id : ChannelId} {op : Option Operation} {lends : Prop}, w.CancelsNothing id →
      ∀ handle worker, (w.seat id op lends).Hires handle →
      w.driver.sessions.get? handle = some worker → worker.app.CancelsNothing := by
    rintro id op lends hdiscreet _ worker ⟨channel, hactive, rfl⟩ hworker
    exact hdiscreet channel hactive worker hworker
  -- each command alone, with what it leaves alone
  obtain ⟨-, -, h₁⟩ := (Alongside.refl (w.seat id op lends) h.calm (hseat hdiscreet) h.bare).invoke
    h h command hlends
  obtain ⟨-, -, h₂⟩ := (Alongside.refl (w.seat id' op' lends') h.calm (hseat hdiscreet')
    h.bare).invoke h h command' hlends'
  have hquiet : e.world.Quiet := h.invoke h₁.driver.calm
  have hquiet' : e'.world.Quiet := h.invoke h₂.driver.calm
  -- each after the other
  obtain ⟨hresult, hop, h₂₁⟩ := (h₂.beside hapart.symm h.calm (hseat hdiscreet) h.bare
    hquiet'.bare).invoke h hquiet' command hlends
  obtain ⟨hresult', hop', h₁₂⟩ := (h₁.beside hapart h.calm (hseat hdiscreet') h.bare
    hquiet.bare).invoke h hquiet command' hlends'
  exact ⟨⟨hresult, hop⟩, ⟨hresult', hop'⟩, h₁.comm hapart h₂ h₂₁ h₁₂,
    h₂₁.journal.exchanged h₁₂.journal, h₂₁.driver.runs.exchanged h₁₂.driver.runs⟩

end World

end TeeClient

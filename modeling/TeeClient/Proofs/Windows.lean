import TeeClient.Proofs.Direct.Runs
import TeeClient.Proofs.Ledger
import TeeClient.Proofs.Lending

/-!
# The windows of a call

An application writes to the client's memory through the mapped buffers only. While a call is under
way these are buffers that its operation asks for, each with the access that is asked for; between
two calls no buffer is mapped, whatever became of the calls before. So what a call can change of the
client's memory are the bytes that its operation lets data back into: its output windows.

Main statements:

* `Query.answer_framed`: what an application writes lies in a mapped buffer that may be written;
* `Keeps.sessionSafe_bare`: calls leave no buffer mapped;
* `Call.framed_carry`: a call changes memory in the output windows of its operation only.
-/

namespace TeeClient

variable {σ κ α : Type}

/-! ## Changes to memory -/

namespace Memory

/-- The pieces of memory are the same, each as long as before, and every byte is as before but where
it may have been written. -/
structure Framed (may : BufferId → Nat → Prop) (m m' : Memory) : Prop where
  length_eq : ∀ id, (m'.get? id).map List.length = (m.get? id).map List.length
  byte_eq : ∀ id i, ¬ may id i → (m'.bytes id)[i]? = (m.bytes id)[i]?

variable {may may' : BufferId → Nat → Prop} {m m' m'' : Memory}

namespace Framed

/-- Nothing need be written. -/
theorem refl (m : Memory) : Framed may m m := ⟨fun _ => rfl, fun _ _ _ => rfl⟩

/-- More may be written later. -/
theorem trans (h : Framed may m m') (h' : Framed may m' m'') : Framed may m m'' where
  length_eq id := (h'.length_eq id).trans (h.length_eq id)
  byte_eq id i hi := (h'.byte_eq id i hi).trans (h.byte_eq id i hi)

/-- More bytes may be written than are. -/
theorem imp (hmay : ∀ id i, may id i → may' id i) (h : Framed may m m') : Framed may' m m' where
  length_eq := h.length_eq
  byte_eq id i hi := h.byte_eq id i fun hm => hi (hmay id i hm)

/-- A range in which nothing may be written reads as before. -/
theorem read_eq (h : Framed may m m') {address : Address} {len : Nat}
    (hout : ∀ i, address.offset ≤ i → i < address.offset + len → ¬ may address.buffer i) :
    m'.read address len = m.read address len := by
  refine List.ext_getElem? fun j => ?_
  simp only [read, List.getElem?_take, List.getElem?_drop]
  split
  next hj => exact h.byte_eq _ _ (hout _ (Nat.le_add_right _ _) (by omega))
  next => rfl

end Framed

/-- A write reaches the bytes that it is given, from its address on. -/
theorem framed_write (m : Memory) (address : Address) (data : Bytes) :
    m.Framed (fun id i => id = address.buffer ∧ address.offset ≤ i ∧
      i < address.offset + data.length) (m.write address data) where
  length_eq id := by
    unfold write
    rw [Arena.get?_modify]
    split
    · rw [Option.map_map]
      exact Option.map_congr fun old _ => Bytes.length_overlay old address.offset data
    · rfl
  byte_eq id i hi := by
    rw [bytes_write]
    split
    next hid =>
      have hout : ¬ (address.offset ≤ i ∧ i < address.offset + data.length) :=
        fun hin => hi ⟨hid, hin⟩
      exact Bytes.getElem?_overlay_of_outside (by omega)
    next => rfl

end Memory

/-! ## Mapped buffers -/

namespace Mappings

/-- The byte lies in a mapped buffer that may be written. -/
def Writable (mappings : Mappings) (id : BufferId) (i : Nat) : Prop :=
  ∃ secureVa mapping, mappings.get? secureVa = some mapping ∧
    mapping.access.contains .output = true ∧ id = mapping.address.buffer ∧
    mapping.address.offset ≤ i ∧ i < mapping.address.offset + mapping.len

end Mappings

/-- What an application writes to the buffer of a slot lies in a mapped buffer that may be written,
whatever the words of the slot say. -/
theorem Chamber.write_framed (mappings : Mappings) (c : Chamber) (slot : Slot) (data : Bytes) :
    c.memory.Framed mappings.Writable (c.write mappings slot data).2.memory := by
  have hwrites := writes mappings c slot data
  generalize (c.write mappings slot data).1 = result at hwrites
  generalize (c.write mappings slot data).2.memory = memory at hwrites
  cases hwrites with
  | short | nothing | denied => exact .refl _
  | written mapping _ _ found granted room =>
    refine (c.memory.framed_write mapping.address data).imp fun id i hi => ?_
    obtain ⟨hid, hle, hlt⟩ := hi
    exact ⟨_, mapping, found, granted, hid, hle,
      Nat.lt_of_lt_of_le hlt (Nat.add_le_add_left room _)⟩

/-- Whatever an application asks for, memory changes only in mapped buffers that may be written. -/
theorem Query.answer_framed {mappings : Mappings} {login : Login} {q : Query} {c c' : Chamber}
    {answer : q.Answer} (h : q.answer mappings login c = some (answer, c')) :
    c.memory.Framed mappings.Writable c'.memory := by
  cases q with
  | isCancelled | login | destination =>
    cases h
    exact .refl _
  | paramType slot | value slot | setValue slot | capacity slot | isMapped slot | read slot
  | setOutputSize slot =>
    obtain ⟨i, -, hi⟩ := Option.map_eq_some_iff.1 h
    cases hi
    exact .refl _
  | write slot data =>
    obtain ⟨i, -, hi⟩ := Option.map_eq_some_iff.1 h
    rw [← show (c.write mappings i data).2 = c' from congrArg Prod.snd hi]
    exact c.write_framed mappings i data

/-! ## Serving requests -/

namespace Shared

/-- The mapped buffers stay, and memory changes at most where they may be written. -/
def Confined (s s' : Shared (SecureWorld κ)) : Prop :=
  s'.driver.mappings = s.driver.mappings ∧
    s.memory.Framed s.driver.mappings.Writable s'.memory

/-- More may be served later. -/
theorem Confined.trans (a b c : Shared (SecureWorld κ)) (h : a.Confined b) (h' : b.Confined c) :
    a.Confined c :=
  ⟨h'.1.trans h.1, h.2.trans (h.1 ▸ h'.2)⟩

end Shared

/-- Serving requests is confined to the mapped buffers. -/
theorem SecureWorld.serving_confined : Serving (Shared.Confined (κ := κ)) where
  trans := Shared.Confined.trans
  onWorker _ _ _ := ⟨rfl, .refl _⟩
  aside _ _ _ _ _ := ⟨rfl, .refl _⟩
  entered _ _ _ := ⟨rfl, .refl _⟩
  memory _ _ _ _ _ _ h := ⟨rfl, Query.answer_framed h⟩
  onPage _ _ _ _ := ⟨rfl, .refl _⟩

/-! ## What primitives leave -/

namespace World

/-- Requests to cancel are confined to the mapped buffers. -/
theorem tolerates_confined : Tolerates (SecureWorld.driver : Driver (SecureWorld κ)) fun w after =>
    w.toShared.Confined after.toShared :=
  SecureWorld.serving_confined.tolerates fun _ _ => ⟨rfl, .refl _⟩

/-- A session of the secure world that is taken down writes no memory. -/
@[simp] theorem memory_teardown (id : ChannelId) (w : World (SecureWorld κ)) :
    (w.teardown SecureWorld.driver id).memory = w.memory :=
  teardown_preserves_of (D := SecureWorld.driver) (P := fun w' => w'.memory = w.memory)
    (fun _ _ _ h => h) (fun _ _ _ h => h) (fun _ _ h => h) id rfl

/-- Forgetting a session writes no memory. -/
@[simp] theorem memory_forget (id : ChannelId) (w : World σ) : (w.forget id).memory = w.memory := by
  unfold forget
  split <;> rfl

end World

namespace Keeps

variable {D : Driver σ} {ledger : σ → Ledger} (h : Keeps D ledger)
include h

/-- Requests to cancel leave the ledger. -/
theorem tolerates_ledger : World.Tolerates D fun w after =>
    ledger after.driver = ledger w.driver :=
  @World.tolerates_driver _ D (fun a b => ledger b = ledger a) (fun _ => rfl)
    (fun _ _ _ hab hbc => hbc.trans hab) (h.notify .cancellation)

/-- What a primitive on the desk does to the ledger. -/
theorem ledger_onDesk {act : Desk σ → Reply (Desk σ) α} {effect : Ledger → α → Ledger → Prop}
    (hact : Shows ledger act effect) (w : World σ) :
    effect (ledger w.driver) (w.onDesk D act).1 (ledger (w.onDesk D act).2.driver) :=
  @World.onDesk_driver _ _ D (fun a b => ledger b = ledger a) w h.tolerates_ledger _ _ (hact w.desk)

/-- What a primitive does to the ledger during which the secure world runs. -/
theorem ledger_onShared {act : Shared σ → Reply (Shared σ) α}
    {effect : Ledger → α → Ledger → Prop} (hact : ShowsShared ledger act effect) (w : World σ) :
    effect (ledger w.driver) (w.onShared D act).1 (ledger (w.onShared D act).2.driver) :=
  @World.onShared_driver _ _ D (fun a b => ledger b = ledger a) w h.tolerates_ledger _ _
    (hact w.toShared)

/-- The exchange of signals leaves the ledger. -/
theorem ledger_exchange (handle : Handle) (w : World σ) :
    ledger (Call.exchange D handle w).2.driver = ledger w.driver := by
  refine Call.exchange_preserves (P := fun w' => ledger w'.driver = ledger w.driver)
    (fun _ _ _ h => h) (fun w' hw => ?_) (fun w' hw => ?_) (fun w' hw => ?_) rfl
  · exact (h.ledger_onShared (h.notify .call handle) w').trans hw
  · exact (h.ledger_onShared (h.wait handle none) w').trans hw
  · exact (h.ledger_onDesk (h.errorCode handle) w').trans hw

/-- Taking a session down leaves what is mapped. -/
theorem mappings_teardown (id : ChannelId) (w : World σ) :
    (ledger (w.teardown D id).driver).mappings = (ledger w.driver).mappings :=
  World.teardown_preserves_of
    (P := fun w' => (ledger w'.driver).mappings = (ledger w.driver).mappings)
    (fun _ _ _ hw => hw) (fun _ _ _ hw => hw)
    (fun w' handle hw =>
      (congrArg Ledger.mappings (h.ledger_onDesk (h.closeSession handle) w')).trans hw) id rfl

end Keeps

/-! ## Nothing is mapped between two calls -/

namespace Mappings

/-- Every mapped buffer is one that a call holds, under the address that the driver named. -/
def Covered (held : Holdings) (mappings : Mappings) : Prop :=
  ∀ secureVa mapping, mappings.get? secureVa = some mapping → ∃ slot mapped,
    held.get slot = some mapped ∧ mapped.info.secureVa = secureVa ∧
      mapped.address = mapping.address

variable {held : Holdings} {mappings : Mappings}

/-- Where a call holds nothing, nothing is mapped. -/
theorem Covered.get?_eq_none (h : mappings.Covered .none) (secureVa : UInt32) :
    mappings.get? secureVa = none := by
  cases hget : mappings.get? secureVa with
  | none => rfl
  | some mapping =>
    obtain ⟨slot, mapped, hheld, -⟩ := h secureVa mapping hget
    rw [show Holdings.none.get slot = _ from Slots.get_replicate Option.none slot] at hheld
    cases hheld

/-- A buffer that is mapped anew is held by a slot that held none. -/
theorem Covered.set (h : mappings.Covered held) {slot : Slot} (hslot : held.get slot = none)
    (info : SecureRange) (mapping : Mapping) :
    Covered (held.put slot (some ⟨mapping.address, info⟩))
      (mappings.set info.secureVa mapping) := by
  intro secureVa found hget
  rw [Table.get?_set] at hget
  split at hget
  next hva =>
    cases hget
    exact ⟨slot, _, Slots.get_put_self held slot _, hva.symm, rfl⟩
  next =>
    obtain ⟨other, mapped, hheld, hmapped⟩ := h secureVa found hget
    have hne : other ≠ slot := by
      rintro rfl
      rw [hslot] at hheld
      cases hheld
    exact ⟨other, mapped, (Slots.get_put_ne held _ hne).trans hheld, hmapped⟩

/-- A buffer that is given back is not mapped any more under that address. -/
theorem Covered.strike (h : mappings.Covered held) {slot : Slot} {mapped : Held}
    (hslot : held.get slot = some mapped) :
    Covered (held.put slot Option.none) (mappings.strike mapped.address mapped.info.secureVa) := by
  intro secureVa mapping hget
  -- what is left is held by another slot: the buffer of this one is struck out
  obtain ⟨hget, hnot⟩ := of_get?_strike hget
  obtain ⟨other, mapped', hheld, hmapped⟩ := h secureVa mapping hget
  have hne : other ≠ slot := by
    rintro rfl
    rw [hslot, Option.some.injEq] at hheld
    exact hnot (hheld ▸ ⟨hmapped.1.symm, hmapped.2.symm⟩)
  exact ⟨other, mapped', (Slots.get_put_ne held _ hne).trans hheld, hmapped⟩

end Mappings

namespace Keeps

variable {D : Driver σ} {ledger : σ → Ledger} (h : Keeps D ledger)
include h

/-- A call holds every buffer that is mapped while it is under way. -/
theorem lends_covered (handle : Handle) :
    Lends D handle fun held w => (ledger w.driver).mappings.Covered held where
  log _ hw := hw
  onPage _ _ hw := hw
  refused {held w w' address len access e} hw ho := by
    have hmaps := h.ledger_onDesk (h.map handle address len access) w
    rw [ho] at hmaps
    rw [show ledger w'.driver = _ from hmaps]
    exact hw
  mapped {held w w' slot address len access info} hw hslot ho := by
    have hmaps := h.ledger_onDesk (h.map handle address len access) w
    rw [ho] at hmaps
    rw [show ledger w'.driver = _ from hmaps]
    exact hw.set hslot info ⟨address, len, access⟩
  unmapped {held w slot mapping} hw hslot := by
    rw [h.ledger_onDesk (h.unmap handle mapping.address mapping.info) w]
    exact hw.strike hslot

/-- Calls leave no buffer mapped. -/
theorem sessionSafe_bare :
    SessionSafe D fun driver => (ledger driver).mappings.Covered .none where
  carry w id channel instruction command op hw := by
    have hround : ∀ w : World σ, (ledger w.driver).mappings.Covered .none →
        (ledger (Call.roundTrip D id channel instruction command op
          w).world.driver).mappings.Covered .none := by
      intro w hw
      -- what a call holds covers what is mapped, and in the end it holds nothing
      have hlends := h.lends_covered channel.handle
      refine Call.roundTrip_preserves_from
        (R := fun held w => (ledger w.driver).mappings.Covered held)
        (hlends.publish instruction command op hw) (fun held w' hw => ?_)
        (fun op held exchanged w' => hlends.collect op exchanged) (fun w' r hw => ?_)
      · rw [h.ledger_exchange]
        exact hw
      · rw [h.mappings_teardown]
        exact hw
    rw [Call.carry_eq, Call.driver_ended]
    refine hround _ ?_
    cases op <;> exact hw
  closeSession w handle hw := by
    rw [h.ledger_onDesk (h.closeSession handle) w]
    exact hw
  openSession w destination login page hw := by
    have hopens := h.ledger_onDesk (h.openSession destination login page) w
    cases hr : (w.onDesk D (D.openSession destination login page)).1 with
    | error e =>
      rw [hr] at hopens
      rw [show ledger _ = _ from hopens]
      exact hw
    | ok handle =>
      rw [hr] at hopens
      rw [show ledger _ = _ from hopens.2]
      exact hw

/-- Every call of a client leaves no buffer mapped. -/
theorem bare_effect {c c' : Client σ} {call : ClientCall} (he : Client.Effect D c c' call)
    (hc : (ledger c.world.driver).mappings.Covered .none) :
    (ledger c'.world.driver).mappings.Covered .none := by
  refine Client.driver_effect h.sessionSafe_bare (fun d hd => ?_) (fun d hd => ?_)
    (fun w id hw => ?_) he hc
  · rw [h.openDevice]
    exact hd
  · rw [h.closeDevice]
    exact hd
  · rw [h.tolerates_ledger.cancelCall id w]
    exact hw

end Keeps

/-! ## Calls -/

/-- The byte lies in the bytes that a slot lends, and data come back through the slot. -/
def Parameter.OutputWindow (p : Parameter) (id : BufferId) (i : Nat) : Prop :=
  p.writesBack = true ∧ ∃ address len, p.lent? = some (address, len) ∧ id = address.buffer ∧
    address.offset ≤ i ∧ i < address.offset + len

/-- What a slot asks to have mapped may be written if data come back through the slot. -/
theorem Parameter.lends_of_plan {p : Parameter} {address : Address} {len : Nat} {access : Access}
    (h : p.plan = .ok (.mapping address len access)) :
    p.lent? = some (address, len) ∧ access.contains .output = p.writesBack := by
  obtain ⟨hlent, -, -, hshows⟩ := serves_of_plan h
  refine ⟨hlent, ?_⟩
  -- a secure world with just that mapping shows what the slot is to be used for
  have hget : ((Table.empty : Mappings).set 0 ⟨address, len, access⟩).get? 0
      = some ⟨address, len, access⟩ := Table.get?_set_self _ _ _
  have hs := hshows _ 0 hget
  cases harg : p.argument with
  | none | value =>
    rw [harg] at hs
    cases p <;> first | cases hlent | cases hs
  | reference size =>
    rw [harg] at hs
    obtain ⟨-, -, access', hget', haccess⟩ := hs.of_lent?_eq_some hlent
    rw [show (SlotWords.memref 0 len.toUInt32 len.toUInt32).secureVa = 0 from rfl, hget] at hget'
    cases hget'
    exact haccess

/-- The byte lies in an output window of the operation that a call carries. -/
def Operation.OutputWindow (op : Option Operation) (id : BufferId) (i : Nat) : Prop :=
  ∃ o slot, op = some o ∧ (o.param slot).OutputWindow id i

/-- Whatever is mapped the operation asks for, and memory changed only in its output windows. -/
structure World.Windowed (op : Option Operation) (memory : Memory) (w : World (SecureWorld κ)) :
    Prop where
  mapped : ∀ secureVa mapping, w.driver.mappings.get? secureVa = some mapping →
    ∃ o slot, op = some o ∧
      (o.param slot).plan = .ok (.mapping mapping.address mapping.len mapping.access)
  framed : memory.Framed (Operation.OutputWindow op) w.memory

namespace World.Windowed

variable {op : Option Operation} {memory : Memory} {w w' : World (SecureWorld κ)}

/-- What may be written through the mapped buffers lies in the output windows. -/
theorem outputWindow_of_writable (h : w.Windowed op memory) {id : BufferId} {i : Nat}
    (hi : w.driver.mappings.Writable id i) : Operation.OutputWindow op id i := by
  obtain ⟨secureVa, mapping, hget, haccess, hid, hle, hlt⟩ := hi
  obtain ⟨o, slot, ho, hplan⟩ := h.mapped secureVa mapping hget
  obtain ⟨hlent, houtput⟩ := Parameter.lends_of_plan hplan
  exact ⟨o, slot, ho, houtput ▸ haccess, mapping.address, mapping.len, hlent, hid, hle, hlt⟩

/-- A world stays `Windowed` where nothing more is mapped, and memory is left alone. -/
theorem of_subset (h : w.Windowed op memory)
    (hmapped : ∀ secureVa mapping, w'.driver.mappings.get? secureVa = some mapping →
      w.driver.mappings.get? secureVa = some mapping) (hmemory : w'.memory = w.memory) :
    w'.Windowed op memory where
  mapped secureVa mapping hget := h.mapped secureVa mapping (hmapped secureVa mapping hget)
  framed := hmemory ▸ h.framed

/-- A world stays `Windowed` where the mapped buffers and memory are left alone. -/
theorem of_eq (h : w.Windowed op memory) (hmappings : w'.driver.mappings = w.driver.mappings)
    (hmemory : w'.memory = w.memory) : w'.Windowed op memory :=
  h.of_subset (fun _ _ hget => hmappings ▸ hget) hmemory

/-- What the operation asks for may be mapped. -/
theorem map (h : w.Windowed op memory) {o : Operation} {slot : Slot} {handle : Handle}
    {address : Address} {len : Nat} {access : Access} (ho : op = some o)
    (hplan : (o.param slot).plan = .ok (.mapping address len access)) :
    (w.onDesk SecureWorld.driver
      (SecureWorld.driver.map handle address len access)).2.Windowed op memory := by
  have hmaps := keeps_driver.ledger_onDesk (keeps_driver.map handle address len access) w
  have hmemory : (w.onDesk SecureWorld.driver
      (SecureWorld.driver.map handle address len access)).2.memory = w.memory := rfl
  generalize w.onDesk SecureWorld.driver _ = mapped at hmaps hmemory ⊢
  obtain ⟨e | info, w'⟩ := mapped
  · exact h.of_eq (congrArg Ledger.mappings hmaps) hmemory
  · have hmappings : w'.driver.mappings
        = w.driver.mappings.set info.secureVa ⟨address, len, access⟩ :=
      congrArg Ledger.mappings hmaps
    refine ⟨fun secureVa mapping hget => ?_, hmemory ▸ h.framed⟩
    rw [hmappings, Table.get?_set] at hget
    split at hget
    · cases hget
      exact ⟨o, slot, ho, hplan⟩
    · exact h.mapped secureVa mapping hget

/-- Mappings may be given back. -/
theorem unmap (h : w.Windowed op memory) (handle : Handle) (address : Address)
    (info : SecureRange) : (w.onDesk SecureWorld.driver
      (SecureWorld.driver.unmap handle address info)).2.Windowed op memory := by
  have hunmap := keeps_driver.ledger_onDesk (keeps_driver.unmap handle address info) w
  refine h.of_subset (fun secureVa mapping hget => ?_) rfl
  rw [show (w.onDesk SecureWorld.driver _).2.driver.mappings = _ from
    congrArg Ledger.mappings hunmap] at hget
  exact (Mappings.of_get?_strike hget).1

/-- What is confined to the mapped buffers lies in the output windows. -/
theorem of_confined (h : w.Windowed op memory) (hc : w.toShared.Confined w'.toShared) :
    w'.Windowed op memory where
  mapped secureVa mapping hget := h.mapped secureVa mapping (hc.1 ▸ hget)
  framed := h.framed.trans (hc.2.imp fun _ _ => h.outputWindow_of_writable)

/-- The secure world may be notified, and an application may run. -/
theorem notify (h : w.Windowed op memory) (handle : Handle) :
    (w.onShared SecureWorld.driver (SecureWorld.driver.notify .call handle)).2.Windowed op memory :=
  h.of_confined (World.tolerates_confined.onShared
    (SecureWorld.serving_confined.notify handle w.toShared) fun _ _ hs => hs)

/-- What is changed while signals are exchanged lies in the output windows. -/
theorem exchange (h : w.Windowed op memory) (handle : Handle) :
    (Call.exchange SecureWorld.driver handle w).2.Windowed op memory := by
  refine Call.exchange_preserves (P := World.Windowed op memory) (fun _ _ _ hw => hw.of_eq rfl rfl)
    (fun w hw => hw.notify handle) (fun w hw => ?_) (fun w hw => ?_) h
  · exact hw.of_eq (congrArg Ledger.mappings
      (keeps_driver.ledger_onShared (keeps_driver.wait handle none) w)) rfl
  · exact hw.of_eq (congrArg Ledger.mappings
      (keeps_driver.ledger_onDesk (keeps_driver.errorCode handle) w)) rfl

end World.Windowed

namespace Call

variable {w : World (SecureWorld κ)}

/-- While a call fills in its request, where nothing was mapped before, only that is mapped which
its operation asks for. -/
theorem windowed_filling (hbare : w.driver.mappings.Covered .none) (id : ChannelId)
    (channel : Channel) (instruction : Instruction) (command : UInt32) (op : Option Operation) :
    (filling SecureWorld.driver id channel instruction command op w).2.Windowed op w.memory := by
  have hbegun : (begun id op w).Windowed op w.memory := by
    refine ⟨fun secureVa mapping hget => ?_, ?_⟩
    · have hnone : w.driver.mappings.get? secureVa = some mapping := by cases op <;> exact hget
      rw [hbare.get?_eq_none] at hnone
      cases hnone
    · cases op <;> exact .refl _
  exact publish_preserves_of (P := World.Windowed op w.memory) (fun _ _ _ hw => hw.of_eq rfl rfl)
    (fun _ _ hw => hw.of_eq rfl rfl) (fun _ _ _ _ _ _ ho hplan hw => hw.map ho hplan)
    (fun _ address info hw => hw.unmap channel.handle address info) hbegun

/-- A call that begins where nothing is mapped changes memory in the output windows of its operation
only. -/
theorem framed_carry (hbare : w.driver.mappings.Covered .none) (id : ChannelId) (channel : Channel)
    (instruction : Instruction) (command : UInt32) (op : Option Operation) :
    w.memory.Framed (Operation.OutputWindow op)
      (carry SecureWorld.driver id channel instruction command op w).world.memory := by
  have hround : (roundTrip SecureWorld.driver id channel instruction command op
      (begun id op w)).world.Windowed op w.memory := roundTrip_preserves_from
    (R := fun _ w' => w'.Windowed op w.memory)
    (windowed_filling hbare id channel instruction command op)
    (fun _ _ hw => hw.exchange channel.handle)
    (fun _ _ _ _ => collect_preserves (fun _ _ hw => hw.of_eq rfl rfl)
      (fun _ address info hw => hw.unmap channel.handle address info))
    (fun w' r hw => (hw.of_eq rfl rfl : (w'.log r).Windowed op w.memory).of_eq
      (keeps_driver.mappings_teardown id _) (World.memory_teardown id _))
  rw [carry_eq]
  cases op <;> exact hround.framed

end Call

end TeeClient

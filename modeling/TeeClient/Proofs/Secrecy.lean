import TeeClient.Proofs.Containment
import TeeClient.Proofs.Sparing

/-!
# What a call does not see

Two runs of a call are compared that begin with different data where data only come back: in the
pairs of values with the direction output, and in the bytes of references with that direction. The
client's part of a call does not look at these data, and neither does a driver that does in one go
what it is asked (`Driver.Prompt`), so that the same is done in both runs.

Main statements:

* `Call.publish_alike`: both runs publish the same request;
* `Call.collect_alike`: both runs collect the same result.
-/

namespace TeeClient

variable {σ κ α : Type}

/-! ## Data that only come back -/

namespace Parameter

/-- Whether data go into the secure world through the slot. -/
def sends : Parameter → Bool
  | unused => false
  | value direction .. => direction.reads
  | temporary direction .. => direction.reads
  | whole parent _ => parent.flags.contains .input
  | window direction .. => direction.reads

/-- The byte lies in the bytes that a slot lends, and data go in through the slot. -/
def InputWindow (p : Parameter) (id : BufferId) (i : Nat) : Prop :=
  p.sends = true ∧ ∃ address len, p.lent? = some (address, len) ∧ id = address.buffer ∧
    address.offset ≤ i ∧ i < address.offset + len

/-- The access for a direction lets the secure world read if the direction lets data in. -/
theorem contains_input_access (direction : Direction) :
    direction.access.contains .input = direction.reads := by
  cases direction <;> decide

/-- The directions of a block let the secure world read if the block does. -/
theorem contains_input_directionsOnly (access : Access) :
    access.directionsOnly.contains .input = access.contains .input := by
  show ((access.bits &&& Access.both.bits) &&& inputBit == inputBit) = _
  rw [UInt32.and_assoc]
  rfl

/-- What a slot asks to have mapped may be read if data go in through the slot. -/
theorem sends_of_plan {p : Parameter} {address : Address} {len : Nat} {access : Access}
    (h : p.plan = .ok (.mapping address len access)) : access.contains .input = p.sends := by
  cases p with
  | unused | value => cases h
  | temporary direction buffer size =>
    obtain ⟨-, -, -, rfl⟩ := Plan.of_reference_eq_mapping h
    exact contains_input_access direction
  | whole parent size =>
    obtain ⟨-, -, -, rfl⟩ := Plan.of_reference_eq_mapping h
    exact contains_input_directionsOnly parent.flags
  | window direction parent offset size =>
    obtain ⟨-, -, -, rfl⟩ := Plan.of_reference_eq_mapping (of_plan_window h).2.2
    exact contains_input_access direction

end Parameter

/-- The byte lies in an output window through which no data go in, and in no input window. -/
def Operation.OutputOnly (op : Option Operation) (id : BufferId) (i : Nat) : Prop :=
  (∃ o slot, op = some o ∧ (o.param slot).OutputWindow id i ∧ (o.param slot).sends = false) ∧
    ∀ o slot, op = some o → ¬ (o.param slot).InputWindow id i

/-- The parameters ask for the same and lend the same: they differ at most in the pair of a value
that only comes back. -/
inductive Parameter.Alike : Parameter → Parameter → Prop
  | same (p : Parameter) : Alike p p
  | output (a b a' b' : UInt32) : Alike (.value .output a b) (.value .output a' b')

namespace Parameter.Alike

variable {p p' : Parameter}

/-- Parameters that are alike need the same. -/
theorem plan_eq (h : p.Alike p') : p'.plan = p.plan := by
  cases h <;> rfl

/-- Parameters that are alike are sent under the same type. -/
theorem sentType_eq (h : p.Alike p') : p'.sentType = p.sentType := by
  cases h <;> rfl

/-- Data come back through both of two parameters that are alike, or through none. -/
theorem writesBack_eq (h : p.Alike p') : p'.writesBack = p.writesBack := by
  cases h <;> rfl

/-- What comes back replaces the difference between parameters that are alike. -/
theorem receive_eq (h : p.Alike p') (words : SlotWords) : p'.receive words = p.receive words := by
  cases h <;> rfl

/-- Parameters that are alike are the same where no data come back. -/
theorem eq_of_not_writesBack (h : p.Alike p') (hp : p.writesBack = false) : p' = p := by
  cases h with
  | same => rfl
  | output => cases hp

end Parameter.Alike

namespace Operation

/-- The operations differ at most in the pairs of values that only come back. -/
structure Alike (op op' : Operation) : Prop where
  lifecycle_eq : op'.lifecycle = op.lifecycle
  param : ∀ slot, (op.param slot).Alike (op'.param slot)

/-- The operation with a slot taken back, if anything is. -/
def taken (copyBack : Bool) (slot : Slot) (words : SlotWords) (op : Operation) : Operation :=
  if copyBack && (op.param slot).writesBack then op.setParam slot ((op.param slot).receive words)
  else op

/-- Taking a slot back leaves the others. -/
theorem param_taken_ne {copyBack : Bool} {slot other : Slot} (words : SlotWords) (op : Operation)
    (hne : other ≠ slot) : (op.taken copyBack slot words).param other = op.param other := by
  unfold taken
  split
  · exact Slots.get_put_ne _ _ hne
  · rfl

/-- What a slot holds that is taken back. -/
theorem param_taken_self (copyBack : Bool) (slot : Slot) (words : SlotWords) (op : Operation) :
    (op.taken copyBack slot words).param slot = if copyBack && (op.param slot).writesBack
      then (op.param slot).receive words else op.param slot := by
  unfold taken
  split
  · exact Slots.get_put_self _ _ _
  · rfl

/-- Taking a slot back leaves the lifecycle. -/
@[simp] theorem lifecycle_taken (copyBack : Bool) (slot : Slot) (words : SlotWords)
    (op : Operation) : (op.taken copyBack slot words).lifecycle = op.lifecycle := by
  unfold taken
  split <;> rfl

namespace Alike

variable {op op' : Operation}

/-- An operation is alike to itself. -/
theorem refl (op : Option Operation) : Option.Rel Operation.Alike op op := by
  cases op with
  | none => exact .none
  | some op => exact .some ⟨rfl, fun _ => .same _⟩

/-- Operations that are alike are sent under the same types. -/
theorem sentTypes_eq (h : op.Alike op') : op'.sentTypes = op.sentTypes := by
  unfold sentTypes
  exact congrArg (fun f => SlotType.pack (.ofFn f)) (funext fun slot => (h.param slot).sentType_eq)

/-- Operations that are alike are the same where every slot holds the same. -/
theorem eq_of_param (h : op.Alike op') (hp : ∀ slot, op'.param slot = op.param slot) :
    op' = op := by
  obtain ⟨params, lifecycle⟩ := op
  obtain ⟨params', lifecycle'⟩ := op'
  obtain rfl : params' = params := Slots.ext_get hp
  obtain rfl : lifecycle' = lifecycle := h.lifecycle_eq
  rfl

/-- A slot that is taken back holds the same afterwards, or what it held. -/
theorem taken (h : op.Alike op') (copyBack : Bool) (slot : Slot) (words : SlotWords) :
    (op.taken copyBack slot words).Alike (op'.taken copyBack slot words) ∧
      (copyBack = true → (op'.taken copyBack slot words).param slot
        = (op.taken copyBack slot words).param slot) := by
  -- what comes back replaces the only difference that there can be
  have hself : (op.taken copyBack slot words).param slot
        = (op'.taken copyBack slot words).param slot ∨
      copyBack = false ∧ (op.taken copyBack slot words).param slot = op.param slot ∧
        (op'.taken copyBack slot words).param slot = op'.param slot := by
    rw [param_taken_self, param_taken_self, (h.param slot).writesBack_eq]
    cases copyBack with
    | false => exact .inr ⟨rfl, rfl, rfl⟩
    | true =>
      refine .inl ?_
      cases hw : (op.param slot).writesBack with
      | true => exact ((h.param slot).receive_eq words).symm
      | false => exact ((h.param slot).eq_of_not_writesBack hw).symm
  refine ⟨⟨?_, fun other => ?_⟩, fun hcopied => ?_⟩
  · rw [lifecycle_taken, lifecycle_taken]
    exact h.lifecycle_eq
  · by_cases hother : other = slot
    · subst hother
      rcases hself with hsame | ⟨-, hleft, hleft'⟩
      · rw [hsame]
        exact .same _
      · rw [hleft, hleft']
        exact h.param other
    · rw [param_taken_ne words op hother, param_taken_ne words op' hother]
      exact h.param other
  · rcases hself with hsame | ⟨hnot, -⟩
    · exact hsame.symm
    · rw [hnot] at hcopied
      cases hcopied

end Alike

end Operation

/-- The application has answered: it succeeded, or it reports a failure of its own. -/
def Replied (result : Except Failure α) : Prop :=
  ∀ failure, result = .error failure → failure.origin = .trustedApp

namespace Replied

/-- What a success comes to does not matter. -/
theorem of_map {β : Type} {result : Except Failure α} {f : α → β} (h : Replied (result.map f)) :
    Replied result := by
  rintro failure rfl
  exact h failure rfl

/-- An application answers in its own name. -/
theorem not_error {failure : Failure} (h : failure.origin ≠ .trustedApp) :
    ¬ Replied (.error failure : Except Failure α) :=
  fun hreplied => h (hreplied failure rfl)

end Replied

/-- What two operations come to: they are still alike, and they are the same unless they have been
left as they were, which they are not where the application has replied. -/
structure Operation.Settled (replied : Prop) (before before' after after' : Option Operation) :
    Prop where
  alike : Option.Rel Operation.Alike after after'
  kept : (after = before ∧ after' = before') ∨ after' = after
  same : replied → after' = after

namespace Operation.Settled

variable {replied replied' : Prop} {before before' after after' : Option Operation}

/-- Operations that are alike may be left as they were where there is no reply. -/
theorem unchanged (h : Option.Rel Operation.Alike before before') (hnot : ¬ replied) :
    Settled replied before before' before before' :=
  ⟨h, .inl ⟨rfl, rfl⟩, fun hreplied => absurd hreplied hnot⟩

/-- Operations that are `Settled` are so where there is a reply in fewer cases. -/
theorem imp (himp : replied' → replied) (h : Settled replied before before' after after') :
    Settled replied' before before' after after' :=
  ⟨h.alike, h.kept, fun hreplied => h.same (himp hreplied)⟩

end Operation.Settled

/-! ## Drivers that ask for nothing -/

/-- What a driver is asked for at its desk it does in one go, so that it asks for no cancellation
there. -/
structure Driver.Prompt (D : Driver σ) : Prop extends D.SelfContained where
  openSession : ∀ destination login page d, ∃ result d',
    D.openSession destination login page d = .done result d'
  closeSession : ∀ handle d, ∃ result d', D.closeSession handle d = .done result d'
  errorCode : ∀ handle d, ∃ result d', D.errorCode handle d = .done result d'

/-- The secure world asks for no cancellation at its desk. -/
theorem SecureWorld.prompt_driver : (SecureWorld.driver : Driver (SecureWorld κ)).Prompt where
  map _ _ _ _ _ := ⟨_, _, rfl⟩
  unmap _ _ _ _ := ⟨_, _, rfl⟩
  openSession _ _ _ _ := ⟨_, _, rfl⟩
  closeSession _ _ := ⟨_, _, rfl⟩
  errorCode _ _ := ⟨_, _, rfl⟩

/-! ## Worlds with other bytes in memory -/

namespace World

/-- The world with other bytes in the client's memory. -/
def withMemory (memory : Memory) (w : World σ) : World σ := { w with memory }

variable (memory : Memory)

section Prompt

variable {D : Driver σ} (hD : D.Prompt)

/-- A primitive on the desk that is done in one go does the same whatever is in memory. -/
theorem onDesk_withMemory {act : Desk σ → Reply (Desk σ) α}
    (hact : ∀ d, ∃ value d', act d = .done value d') (w : World σ) :
    (w.withMemory memory).onDesk D act
      = ((w.onDesk D act).1, (w.onDesk D act).2.withMemory memory) := by
  obtain ⟨value, d', h⟩ := hact w.desk
  rw [onDesk_of_done h, onDesk_of_done (w := w.withMemory memory) h]
  rfl

include hD

/-- A session is taken down in the same way whatever is in memory. -/
theorem teardown_withMemory (id : ChannelId) (w : World σ) :
    (w.withMemory memory).teardown D id = (w.teardown D id).withMemory memory := by
  unfold teardown
  simp only [show (w.withMemory memory).channels = w.channels from rfl]
  split
  · rfl
  next channel hget =>
    split
    · rw [show (w.withMemory memory).onChannel id (fun p => { p with active := false })
        = (w.onChannel id fun p => { p with active := false }).withMemory memory from rfl,
        onDesk_withMemory memory (hD.closeSession channel.handle)]
      rcases (w.onChannel id fun p => { p with active := false }).onDesk D
        (D.closeSession channel.handle) with ⟨e | ⟨⟩, w'⟩ <;> rfl
    · rfl

end Prompt

/-- A session is forgotten in the same way. -/
theorem forget_withMemory (id : ChannelId) (w : World σ) :
    (w.withMemory memory).forget id = (w.forget id).withMemory memory := by
  unfold forget
  simp only [show (w.withMemory memory).channels = w.channels from rfl]
  split <;> rfl

/-- The worlds differ at most in bytes that are hidden. -/
structure Apart (hidden : BufferId → Nat → Prop) (w w' : World σ) : Prop where
  framed : w.memory.Framed hidden w'.memory
  eq_withMemory : w' = w.withMemory w'.memory

namespace Apart

variable {hidden : BufferId → Nat → Prop} {w w' v v' : World σ}

/-- Where the bytes that are put into memory differ at most in hidden places. -/
theorem of_framed {memory : Memory} (h : w.memory.Framed hidden memory)
    (he : w' = w.withMemory memory) : w.Apart hidden w' := by
  subst he
  exact ⟨h, rfl⟩

/-- Worlds stay as far apart whose memory is left as it is. -/
theorem of_withMemory (h : w.Apart hidden w') (hmemory : v.memory = w.memory)
    (hv : v' = v.withMemory w'.memory) : v.Apart hidden v' := by
  have hmemory' : v'.memory = w'.memory := congrArg (fun u => u.memory) hv
  refine ⟨?_, ?_⟩
  · rw [hmemory, hmemory']
    exact h.framed
  · rw [hmemory']
    exact hv

/-- What is done to both worlds whatever is in memory has the same result, and keeps them as far
apart as they are. -/
theorem run (h : w.Apart hidden w') {f : World σ → α × World σ}
    (hf : ∀ memory w, f (w.withMemory memory) = ((f w).1, (f w).2.withMemory memory)) :
    (f w').1 = (f w).1 ∧ (f w).2.Apart hidden (f w').2 := by
  have hsame := (congrArg f h.eq_withMemory).trans (hf w'.memory w)
  have hmemory : (f w).2.memory = w.memory := congrArg (fun done => done.2.memory) (hf w.memory w)
  exact ⟨by rw [hsame], h.of_withMemory hmemory (by rw [hsame])⟩

/-- What is done to both worlds whatever is in memory keeps them as far apart as they are. -/
theorem map (h : w.Apart hidden w') {f : World σ → World σ}
    (hf : ∀ memory w, f (w.withMemory memory) = (f w).withMemory memory) :
    (f w).Apart hidden (f w') :=
  (h.run (f := fun w => ((), f w)) fun memory w => congrArg ((), ·) (hf memory w)).2

/-- A record may be entered in the journals of both worlds. -/
theorem log (h : w.Apart hidden w') (r : Record) : (w.log r).Apart hidden (w'.log r) :=
  h.map (f := (·.log r)) fun _ _ => rfl

end Apart

end World

/-! ## The parts of a call -/

namespace Holdings

variable {D : Driver σ} (hD : D.Prompt) (memory : Memory) (handle : Handle)
include hD

/-- A mapping is given back in the same way whatever is in memory. -/
theorem release_withMemory (slot : Slot) (held : Holdings) (w : World σ) :
    held.release D handle slot (w.withMemory memory)
      = ((held.release D handle slot w).1, (held.release D handle slot w).2.withMemory memory) := by
  unfold release
  split
  · rfl
  next mapping hget =>
    rw [World.onDesk_withMemory memory (hD.unmap handle mapping.address mapping.info)]
    rcases w.onDesk D (D.unmap handle mapping.address mapping.info) with ⟨e | ⟨⟩, w'⟩ <;> rfl

/-- All mappings are given back in the same way whatever is in memory. -/
theorem releaseAll_withMemory (held : Holdings) (w : World σ) :
    held.releaseAll D handle (w.withMemory memory)
      = (held.releaseAll D handle w).withMemory memory := by
  unfold releaseAll
  generalize Slot.descending = slots
  induction slots generalizing held w with
  | nil => rfl
  | cons slot rest ih =>
    simp only [releaseEach]
    rw [release_withMemory hD]
    exact ih _ _

end Holdings

namespace Call

variable {D : Driver σ} (hD : D.Prompt) (memory : Memory)
include hD

/-- An error code is asked for in the same way whatever is in memory. -/
theorem classify_withMemory (handle : Handle) (w : World σ) :
    classify D handle (w.withMemory memory)
      = ((classify D handle w).1, (classify D handle w).2.withMemory memory) := by
  unfold classify
  rw [World.onDesk_withMemory memory (hD.errorCode handle)]
  rcases w.onDesk D (D.errorCode handle) with ⟨e | code, w'⟩ <;> rfl

/-- A slot is prepared in the same way for parameters that need the same. -/
theorem prepare_alike (handle : Handle) (slot : Slot) {p p' : Parameter} (h : p.Alike p')
    (held : Holdings) (w : World σ) :
    prepare D handle slot p' held (w.withMemory memory)
      = let prepared := prepare D handle slot p held w
        (prepared.1, prepared.2.1, prepared.2.2.withMemory memory) := by
  unfold prepare Holdings.map
  rw [h.plan_eq]
  split
  · rfl
  · rfl
  next address len access hplan =>
    rw [World.onDesk_withMemory memory (hD.map handle address len access)]
    rcases w.onDesk D (D.map handle address len access) with ⟨e | info, w'⟩ <;> rfl

section Operations

variable {op op' : Operation} (h : op.Alike op')
include h

/-- Slots are filled in one after the other in the same way for operations that are alike. -/
theorem fillEach_alike (channel : Channel) (slots : List Slot) (held : Holdings) (w : World σ) :
    fillEach D channel op' slots held (w.withMemory memory)
      = let filled := fillEach D channel op slots held w
        (filled.1, filled.2.1, filled.2.2.withMemory memory) := by
  induction slots generalizing held w with
  | nil => rfl
  | cons slot rest ih =>
    simp only [fillEach]
    rw [prepare_alike hD memory channel.handle slot (h.param slot)]
    rcases prepare D channel.handle slot (op.param slot) held w with ⟨failure | words, held', w'⟩
    · rfl
    · exact ih held' (w'.onPage channel.page (·.setParam slot words))

/-- All slots are filled in in the same way for operations that are alike. -/
theorem fill_alike (channel : Channel) (w : World σ) :
    fill D channel op' (w.withMemory memory)
      = let filled := fill D channel op w
        (filled.1, filled.2.1, filled.2.2.withMemory memory) := by
  unfold fill
  rw [fillEach_alike hD memory h, h.lifecycle_eq]
  rcases fillEach D channel op Slot.ascending .none w with ⟨failure | ⟨⟩, held, w'⟩
  · rfl
  · simp only [show (w'.withMemory memory).progress op.lifecycle
      = w'.progress op.lifecycle from rfl]
    split <;> rfl

/-- The slots of operations that are alike are taken back in the same way. Where they are copied
nothing differs afterwards, but in slots that were not taken back. -/
theorem takeBackEach_alike (channel : Channel) (copyBack : Bool) (slots : List Slot)
    (held : Holdings) (w : World σ) :
    let taken := takeBackEach D channel copyBack slots op held w
    let taken' := takeBackEach D channel copyBack slots op' held (w.withMemory memory)
    taken.1.Alike taken'.1 ∧ taken'.2 = (taken.2.1, taken.2.2.withMemory memory) ∧
      (copyBack = true → ∀ slot, op'.param slot = op.param slot ∨ slot ∈ slots →
        taken'.1.param slot = taken.1.param slot) := by
  -- the operations change on the way: they stay alike, and agree in more and more slots
  induction slots generalizing op op' held w with
  | nil =>
    refine ⟨h, rfl, fun _ slot hslot => ?_⟩
    rcases hslot with hsame | hm
    · exact hsame
    · cases hm
  | cons slot rest ih =>
    let words := (w.page channel.page).param slot
    let logged := if (held.get slot).isSome != (words.mappedLen != 0) then
      w.log (.markerMismatch slot) else w
    let released := held.release D channel.handle slot logged
    have hreleased : held.release D channel.handle slot
        (if (held.get slot).isSome != (words.mappedLen != 0) then
          (w.withMemory memory).log (.markerMismatch slot) else w.withMemory memory)
        = (released.1, released.2.withMemory memory) := by
      rw [← Holdings.release_withMemory hD]
      show _ = held.release D channel.handle slot (World.withMemory memory (if _ then _ else _))
      split <;> rfl
    -- the rest is taken back from the operations and the world that this slot leaves
    have htake : takeBackEach D channel copyBack (slot :: rest) op' held (w.withMemory memory)
        = takeBackEach D channel copyBack rest (op'.taken copyBack slot words) released.1
          (released.2.withMemory memory) :=
      congrArg (fun left : Holdings × World σ => takeBackEach D channel copyBack rest
        (op'.taken copyBack slot words) left.1 left.2) hreleased
    obtain ⟨htaken, hcopied⟩ := h.taken copyBack slot words
    obtain ⟨halike, hrest, hsame⟩ := ih htaken released.1 released.2
    refine ⟨htake ▸ halike, htake ▸ hrest, fun hc other hother => ?_⟩
    rw [htake]
    refine hsame hc other ?_
    by_cases he : other = slot
    · exact .inl (he ▸ hcopied hc)
    · rcases hother with hbefore | hm
      · rw [Operation.param_taken_ne words op he, Operation.param_taken_ne words op' he]
        exact .inl hbefore
      · exact .inr ((List.mem_cons.1 hm).resolve_left he)

end Operations

variable {op op' : Option Operation} (h : Option.Rel Operation.Alike op op')
include h

/-- The same request is published for operations that are alike. -/
theorem publish_alike (channel : Channel) (instruction : Instruction) (command : UInt32)
    (w : World σ) : publish D channel instruction command op' (w.withMemory memory)
      = let published := publish D channel instruction command op w
        (published.1, published.2.withMemory memory) := by
  let cleared := w.onPage channel.page fun p => (p.setReady false).clearRequest
  cases h with
  | none => rfl
  | @some op op' h =>
    unfold publish
    simp only [show (w.withMemory memory).onPage channel.page
      (fun p => (p.setReady false).clearRequest) = cleared.withMemory memory from rfl,
      fill_alike hD memory h]
    rcases fill D channel op cleared with ⟨failure | ⟨⟩, held, w'⟩
    · exact congrArg (fun w => (Except.error failure, w))
        (Holdings.releaseAll_withMemory hD memory channel.handle held
          (w'.onPage channel.page (·.clearRequest)))
    · simp only [h.sentTypes_eq]
      rfl

/-- The result is collected in the same way for operations that are alike. Where the application has
answered the operations do not differ any more. -/
theorem collect_alike (channel : Channel) (held : Holdings) (exchanged : Bool) (w : World σ) :
    let collected := collect D channel op held exchanged w
    let collected' := collect D channel op' held exchanged (w.withMemory memory)
    collected'.1 = collected.1 ∧ collected'.2.2 = collected.2.2.withMemory memory ∧
      Operation.Settled (exchanged = true ∧ Replied collected.1) op op' collected.2.1
        collected'.2.1 := by
  let origin := (w.page channel.page).origin
  let status := (w.page channel.page).status
  let consistent := (speaker? origin status).isSome
  -- what is still held is given back, and an inconsistent result reported
  let finish (held : Holdings) (w : World σ) : World σ :=
    let w := held.releaseAll D channel.handle w
    if consistent then w else w.log (.inconsistentResult origin status)
  have hfinish : ∀ held w,
      finish held (w.withMemory memory) = (finish held w).withMemory memory := by
    intro held w
    show (if _ then _ else _ : World σ) = World.withMemory memory (if _ then _ else _)
    rw [Holdings.releaseAll_withMemory hD]
    split <;> rfl
  have hconsistent : Replied (verdict origin status) → consistent = true := by
    intro hreplied
    cases hs : speaker? origin status with
    | some o => exact congrArg Option.isSome hs
    | none =>
      have hfailed : verdict origin status = .error (.comms .communication) := by
        unfold verdict
        rw [hs]
      cases hreplied _ hfailed
  cases h with
  | none => exact ⟨rfl, hfinish held w, .none, .inr rfl, fun _ => rfl⟩
  | @some op op' h =>
    obtain ⟨halike, hrest, hsame⟩ := takeBackEach_alike hD memory h channel
      (exchanged && consistent) Slot.ascending held w
    have hcopied (hcopy : (exchanged && consistent) = true) :
        (takeBackEach D channel (exchanged && consistent) Slot.ascending op' held
          (w.withMemory memory)).1
        = (takeBackEach D channel (exchanged && consistent) Slot.ascending op held w).1 :=
      halike.eq_of_param fun slot => hsame hcopy slot (.inr (Slot.mem_ascending slot))
    refine ⟨rfl, ?_, .some halike, ?_, fun ⟨hexchanged, hreplied⟩ => ?_⟩
    · exact (congrArg (fun left : Holdings × World σ => finish left.1 left.2) hrest).trans
        (hfinish _ _)
    · cases hcopy : exchanged && consistent with
      | true => exact .inr (congrArg some (hcopied hcopy))
      | false =>
        refine .inl ⟨congrArg some ?_, congrArg some ?_⟩
        · exact (congrArg (fun copyBack => (takeBackEach D channel copyBack _ op held w).1)
            hcopy).trans (operation_takeBackEach_false D channel Slot.ascending op held w)
        · exact (congrArg (fun copyBack => (takeBackEach D channel copyBack _ op' held _).1)
            hcopy).trans (operation_takeBackEach_false D channel Slot.ascending op' held _)
    · exact congrArg some (hcopied (by rw [hexchanged, hconsistent hreplied]; rfl))

variable {hidden : BufferId → Nat → Prop} {w w' : World σ}

/-- Worlds in which the same request is published stay as far apart as they are. -/
theorem publish_apart (hw : w.Apart hidden w') (channel : Channel) (instruction : Instruction)
    (command : UInt32) :
    (publish D channel instruction command op' w').1
        = (publish D channel instruction command op w).1 ∧
      (publish D channel instruction command op w).2.Apart hidden
        (publish D channel instruction command op' w').2 := by
  have hpublish := publish_alike hD w'.memory h channel instruction command w
  rw [← hw.eq_withMemory] at hpublish
  have hmemory := publish_alike hD w.memory (Operation.Alike.refl op) channel instruction command w
  exact ⟨by rw [hpublish], hw.of_withMemory
    (congrArg (fun published => published.2.memory) hmemory) (by rw [hpublish])⟩

/-- Worlds in which a result is collected stay as far apart as they are. -/
theorem collect_apart (hw : w.Apart hidden w') (channel : Channel) (held : Holdings)
    (exchanged : Bool) :
    let collected := collect D channel op held exchanged w
    let collected' := collect D channel op' held exchanged w'
    collected'.1 = collected.1 ∧ collected.2.2.Apart hidden collected'.2.2 ∧
      Operation.Settled (exchanged = true ∧ Replied collected.1) op op' collected.2.1
        collected'.2.1 := by
  obtain ⟨hresult, hworld, hsettled⟩ := collect_alike hD w'.memory h channel held exchanged w
  rw [← hw.eq_withMemory] at hresult hworld hsettled
  obtain ⟨-, hmemory, -⟩ :=
    collect_alike hD w.memory (Operation.Alike.refl op) channel held exchanged w
  exact ⟨hresult, hw.of_withMemory (congrArg (fun u => u.memory) hmemory) hworld, hsettled⟩

end Call

end TeeClient

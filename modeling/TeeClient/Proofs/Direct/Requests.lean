import TeeClient.Proofs.Direct
import TeeClient.Proofs.Parts

/-!
# Requests that mirror the parameters

Where no fault is armed, the simulated secure world maps whatever the parameters lend, each piece at
an address of its own as long as the pieces fit into the address space. A request that is filled in
then mirrors the parameters of the operation.

Main statements:

* `Parameter.serves_of_plan`: a parameter that can be sent asks for what it lends;
* `Call.publish_direct`: the request is published, and mirrors the parameters.
-/

namespace TeeClient

variable {κ : Type}

/-! ## What parameters ask for -/

/-- How far what a slot lends reaches in the address space of the secure world: whole pages. -/
def Parameter.reach (p : Parameter) : Nat := p.lent?.elim 0 fun bytes => SecureWorld.span bytes.2

/-- The parameters of an operation, or of none. -/
def Operation.paramsOf : Option Operation → Slots Parameter
  | none => .replicate .unused
  | some op => op.params

/-- How far some slots reach together. -/
def Slots.reach (params : Slots Parameter) : List Slot → Nat
  | [] => 0
  | slot :: rest => (params.get slot).reach + params.reach rest

/-- Every parameter can be sent, and what they lend together fits into the address space. -/
structure Slots.Sendable (params : Slots Parameter) : Prop where
  planned : ∀ slot, ∃ plan, (params.get slot).plan = .ok plan
  fits : params.reach Slot.ascending < UInt32.size

/-- A plan asks to have mapped what the parameter lends, and its words show what the slot holds. -/
def Plan.Serves (p : Parameter) : Plan → Prop
  | .words w => p.lent? = none ∧ ∀ mappings, p.Shows mappings w p.argument
  | .mapping address len access => p.lent? = some (address, len) ∧ 0 < len ∧ len < UInt32.size ∧
    ∀ (mappings : Mappings) (secureVa : UInt32),
      mappings.get? secureVa = some ⟨address, len, access⟩ →
      p.Shows mappings (.memref secureVa len.toUInt32 len.toUInt32) p.argument

/-- The plan of a reference asks to have mapped what the reference lends, and its words show what
the slot holds. -/
theorem Plan.reference_serves {p : Parameter} {buffer : Option BufferId} {offset len : Nat}
    {access : Access} {plan : Plan} (h : reference buffer offset len access = .ok plan)
    (hlent : p.lent? = Parameter.bytesOf? buffer offset len)
    (haccess : access.contains .output = p.writesBack)
    (hshows : ∀ (mappings : Mappings) (words : SlotWords), words.outputSize = len.toUInt32 →
      p.Locates mappings words → p.Shows mappings words p.argument) : plan.Serves p := by
  have hrefers := refers buffer offset len access
  rw [h] at hrefers
  cases hrefers with
  | mapped id held fits pos =>
    have hl : p.lent? = some (⟨id, offset⟩, len) := by
      rw [hlent]
      simp [Parameter.bytesOf?, held, pos]
    refine ⟨hl, pos, fits, fun mappings secureVa hm => hshows mappings _ rfl ?_⟩
    unfold Parameter.Locates
    rw [hl]
    exact ⟨UInt32.toNat_ofNat_of_lt fits, pos, access, hm, haccess⟩
  | empty fits nothing =>
    -- an empty reference and one without a buffer tell their size and lend nothing
    have hl : p.lent? = none := by
      rw [hlent]
      rcases nothing with rfl | rfl <;> simp [Parameter.bytesOf?]
    refine ⟨hl, fun mappings => hshows mappings _ rfl ?_⟩
    unfold Parameter.Locates
    rw [hl]
    rfl

namespace Parameter

/-- The access for a direction lets the secure world write if the direction lets data back. -/
theorem contains_output_access (direction : Direction) :
    direction.access.contains .output = direction.writes := by
  cases direction <;> decide

/-- The directions of a block let the secure world write if the block does. -/
theorem contains_output_directionsOnly (access : Access) :
    access.directionsOnly.contains .output = access.contains .output := by
  show ((access.bits &&& Access.both.bits) &&& outputBit == outputBit) = _
  rw [UInt32.and_assoc]
  rfl

/-- A parameter that can be sent asks for what it lends. -/
theorem serves_of_plan {p : Parameter} {plan : Plan} (h : p.plan = .ok plan) : plan.Serves p := by
  cases p with
  | unused =>
    cases h
    exact ⟨rfl, fun _ => trivial⟩
  | value direction a b =>
    cases h
    refine ⟨rfl, fun mappings => ?_⟩
    cases direction <;> exact ⟨rfl, rfl⟩
  | temporary direction buffer size =>
    exact Plan.reference_serves h rfl (contains_output_access direction) fun _ _ hs hl => ⟨hs, hl⟩
  | whole parent size =>
    exact Plan.reference_serves h rfl (contains_output_directionsOnly parent.flags)
      fun _ _ hs hl => ⟨hs, hl⟩
  | window direction parent offset size =>
    exact Plan.reference_serves (of_plan_window h).2.2 rfl (contains_output_access direction)
      fun _ _ hs hl => ⟨hs, hl⟩

end Parameter

/-! ## Mapping in the simulated secure world -/

namespace SecureWorld

/-- No fault is armed. -/
def Calm (w : SecureWorld κ) : Prop := w.faults = ⟨none, none, none, false, none, none⟩

/-- A mapping takes at least one page. -/
theorem span_pos (len : Nat) : 0 < span len := by
  unfold span pageSize
  omega

/-- What mapping a buffer comes to where no fault is armed. -/
theorem map_eq_of_calm {w : SecureWorld κ} (hcalm : w.Calm) (handle : Handle) (address : Address)
    (len : Nat) (access : Access) : map handle address len access w =
      let counted := w.count fun n => { n with maps := n.maps + 1 }
      if w.sessions.contains handle then
        if len < UInt32.size ∧ span len < UInt32.size then
          (.ok ⟨w.nextVa, len.toUInt32⟩, { counted with
            nextVa := w.nextVa + (span len).toUInt32
            mappings := w.mappings.set w.nextVa ⟨address, len, access⟩ })
        else (.error (.mappingFailed len), counted)
      else (.error (.invalidSession handle), counted) := by
  -- without a budget no mapping uses one up
  obtain ⟨apps, sessions, mappings, nextHandle, nextVa, faults, usage, runs⟩ := w
  obtain rfl : faults = ⟨none, none, none, false, none, none⟩ := hcalm
  have hcount : ∀ (w : SecureWorld κ) f, (w.count f).sessions = w.sessions := fun _ _ => rfl
  unfold map
  cases hserved : sessions.contains handle <;> simp only [hcount, hserved] <;> rfl

/-- Where no fault is armed, a buffer is mapped at the next address. -/
theorem map_of_calm {w : SecureWorld κ} (hcalm : w.Calm) {handle : Handle}
    (hserved : w.sessions.contains handle = true) (address : Address) {len : Nat} (access : Access)
    (hlen : len < UInt32.size) (hspan : span len < UInt32.size) :
    ∃ w', map handle address len access w = (.ok ⟨w.nextVa, len.toUInt32⟩, w') ∧
      w'.sessions = w.sessions ∧ w'.faults = w.faults ∧
      w'.nextVa = w.nextVa + (span len).toUInt32 ∧
      w'.mappings = w.mappings.set w.nextVa ⟨address, len, access⟩ := by
  rw [map_eq_of_calm hcalm, if_pos hserved, if_pos ⟨hlen, hspan⟩]
  exact ⟨_, rfl, rfl, rfl, rfl, rfl⟩

end SecureWorld

/-- Between the two worlds no session, fault, lifecycle or byte of memory has changed. -/
structure World.Untouched (w w' : World (SecureWorld κ)) : Prop where
  sessions : w'.driver.sessions = w.driver.sessions
  faults : w'.driver.faults = w.driver.faults
  memory : w'.memory = w.memory
  lifecycles : w'.lifecycles = w.lifecycles

/-- Where two changes follow each other, what each leaves untouched is left untouched. -/
theorem World.Untouched.trans {w w' w'' : World (SecureWorld κ)} (h : w.Untouched w')
    (h' : w'.Untouched w'') : w.Untouched w'' :=
  ⟨h'.sessions.trans h.sessions, h'.faults.trans h.faults, h'.memory.trans h.memory,
    h'.lifecycles.trans h.lifecycles⟩

/-! ## Filling in a request -/

namespace Call

/-- Addresses that lie at different distances below the size of the address space differ. -/
theorem address_ne {base : UInt32} {k n : Nat} (hk : k < n) (hn : n < UInt32.size) :
    base + k.toUInt32 ≠ base + n.toUInt32 := by
  intro he
  have he : k.toUInt32 = n.toUInt32 := UInt32.add_right_inj base |>.1 he
  exact absurd (SecureWorld.eq_of_toUInt32_eq (Nat.lt_trans hk hn) hn he) (Nat.ne_of_lt hk)

variable {channel : Channel} {w : World (SecureWorld κ)}

/-- A parameter that can be sent is prepared: what it lends, if anything, is mapped at the next
address. -/
theorem prepare_direct (handle : Handle) (slot : Slot) {p : Parameter} {plan : Plan}
    (hplan : p.plan = .ok plan) (hreach : p.reach < UInt32.size) (hcalm : w.driver.Calm)
    (hserved : w.driver.sessions.contains handle = true) (held : Holdings) :
    ∃ words held' w', prepare SecureWorld.driver handle slot p held w = (.ok words, held', w') ∧
      w.Untouched w' ∧ w'.pages = w.pages ∧
      w'.driver.nextVa = w.driver.nextVa + p.reach.toUInt32 ∧
      (∀ va, va ≠ w.driver.nextVa → w'.driver.mappings.get? va = w.driver.mappings.get? va) ∧
      p.Shows w'.driver.mappings words p.argument ∧
      (p.reach = 0 → w'.driver.mappings = w.driver.mappings) ∧
      (p.lent?.isSome = true → 0 < p.reach ∧ words.secureVa = w.driver.nextVa) := by
  have hserves := Parameter.serves_of_plan hplan
  unfold prepare
  cases plan with
  | words words =>
    obtain ⟨hlent, hshows⟩ := hserves
    have hzero : p.reach = 0 := by
      unfold Parameter.reach
      rw [hlent]
      rfl
    simp only [hplan]
    refine ⟨words, held, w, rfl, ⟨rfl, rfl, rfl, rfl⟩, rfl, ?_, fun _ _ => rfl, hshows _,
      fun _ => rfl, fun hsome => ?_⟩
    · rw [hzero]
      exact (UInt32.add_zero _).symm
    · rw [hlent] at hsome
      cases hsome
  | mapping address len access =>
    obtain ⟨hlent, -, hlen, hshows⟩ := hserves
    -- the pages that are taken are those that the parameter was reckoned with
    have hspan : p.reach = SecureWorld.span len := by
      unfold Parameter.reach
      rw [hlent]
      rfl
    rw [hspan] at hreach
    obtain ⟨d, hmap, hsessions, hfaults, hnext, hmappings⟩ :=
      SecureWorld.map_of_calm hcalm hserved address access hlen hreach
    have hdesk : w.onDesk SecureWorld.driver (SecureWorld.driver.map handle address len access)
        = (.ok ⟨w.driver.nextVa, len.toUInt32⟩, w.withDesk ⟨d, w.journal⟩) := by
      show ((SecureWorld.map handle address len access w.driver).1,
        w.withDesk ⟨(SecureWorld.map handle address len access w.driver).2, w.journal⟩) = _
      rw [hmap]
    simp only [hplan, Holdings.map, hdesk]
    refine ⟨_, _, _, rfl, ⟨hsessions, hfaults, rfl, rfl⟩, rfl, ?_, ?_, ?_, ?_, ?_⟩
    · rw [hspan]
      exact hnext
    · intro va hne
      show d.mappings.get? va = _
      rw [hmappings, Table.get?_set_ne _ _ hne]
    · refine hshows _ _ ?_
      show d.mappings.get? _ = _
      rw [hmappings, Table.get?_set_self]
    · intro hzero
      rw [hspan] at hzero
      exact absurd hzero (Nat.ne_of_gt (SecureWorld.span_pos len))
    · intro _
      rw [hspan]
      exact ⟨SecureWorld.span_pos len, rfl⟩

/-- Parameters that can be sent are filled in, each in its slot. What was mapped below the next
address stays mapped. -/
theorem fillEach_direct (op : Operation) (slots : List Slot) (hnodup : slots.Nodup)
    (hplans : ∀ slot, ∃ plan, (op.param slot).plan = .ok plan) {base : UInt32} (total : Nat)
    (hfits : total + op.params.reach slots < UInt32.size)
    (hnext : w.driver.nextVa = base + total.toUInt32) (hcalm : w.driver.Calm)
    (hserved : w.driver.sessions.contains channel.handle = true) {p : Page}
    (hpage : w.pages.get? channel.page = some p) (held : Holdings) :
    ∃ held' w' params,
      fillEach SecureWorld.driver channel op slots held w = (.ok (), held', w') ∧
      w.Untouched w' ∧ w'.pages.get? channel.page = some (p.setParams params) ∧
      (∀ k, k < total → w'.driver.mappings.get? (base + k.toUInt32)
        = w.driver.mappings.get? (base + k.toUInt32)) ∧
      (∀ slot, slot ∉ slots → params.get slot = p.request.params.get slot) ∧
      ∀ slot, slot ∈ slots → (op.param slot).Shows w'.driver.mappings (params.get slot)
        (op.param slot).argument := by
  -- `total` is how far the slots before these reach; so no address is handed out twice
  induction slots generalizing held w total p with
  | nil =>
    exact ⟨held, w, p.request.params, rfl, ⟨rfl, rfl, rfl, rfl⟩, hpage, fun _ _ => rfl,
      fun _ _ => rfl, fun _ hm => (by cases hm)⟩
  | cons slot rest ih =>
    obtain ⟨hnew, hrest⟩ := List.nodup_cons.1 hnodup
    rw [show op.params.reach (slot :: rest) = (op.param slot).reach + op.params.reach rest from rfl,
      ← Nat.add_assoc] at hfits
    obtain ⟨plan, hplan⟩ := hplans slot
    have hbelow : total + (op.param slot).reach < UInt32.size :=
      Nat.lt_of_le_of_lt (Nat.le_add_right _ _) hfits
    obtain ⟨words, held₁, w₁, hprepare, huntouched, hpages, hnext₁, hkept, hshows, -, hat⟩ :=
      prepare_direct channel.handle slot hplan (Nat.lt_of_le_of_lt (Nat.le_add_left _ _) hbelow)
        hcalm hserved held
    have hnext₂ : w₁.driver.nextVa = base + (total + (op.param slot).reach).toUInt32 := by
      rw [hnext₁, hnext, UInt32.add_assoc]
      exact congrArg (base + ·) (UInt32.ofNat_add total _).symm
    have hpage₁ : (w₁.onPage channel.page (·.setParam slot words)).pages.get? channel.page
        = some (p.setParam slot words) :=
      Shared.get?_onPage (s := w₁.toShared) (hpages ▸ hpage) _
    obtain ⟨held', w', params, hfill, huntouched', hpage', hkept', hout, hin⟩ :=
      ih (w := w₁.onPage channel.page (·.setParam slot words)) hrest _ hfits hnext₂
        (huntouched.faults.trans hcalm) (huntouched.sessions ▸ hserved) hpage₁ held₁
    refine ⟨held', w', params, ?_, huntouched.trans ⟨huntouched'.sessions, huntouched'.faults,
      huntouched'.memory, huntouched'.lifecycles⟩, hpage', ?_, ?_, ?_⟩
    · simp only [fillEach, hprepare]
      exact hfill
    · intro k hk
      rw [hkept' k (Nat.lt_of_lt_of_le hk (Nat.le_add_right _ _))]
      refine hkept _ ?_
      rw [hnext]
      exact address_ne hk (Nat.lt_of_le_of_lt (Nat.le_add_right _ _) hbelow)
    · intro other hm
      rw [hout other fun hr => hm (List.mem_cons_of_mem _ hr)]
      exact Page.param_setParam_ne p words fun he => hm (List.mem_cons.2 (.inl he))
    · intro other hm
      rcases List.mem_cons.1 hm with rfl | hr
      · -- its own mapping lies below those that were made after it
        have hown : params.get other = words := by
          rw [hout other hnew]
          exact Page.param_setParam_self p other words
        rw [hown]
        refine hshows.of_mappings fun hsome => ?_
        obtain ⟨hpos, hva⟩ := hat hsome
        rw [hva, hnext]
        exact hkept' total (Nat.lt_add_of_pos_right hpos)
      · exact hin other hr

/-- An operation that can be sent is filled in. -/
theorem fill_direct {op : Operation} (hs : op.params.Sendable)
    (hprogress : w.progress op.lifecycle ≠ .finished) (hcalm : w.driver.Calm)
    (hserved : w.driver.sessions.contains channel.handle = true) {p : Page}
    (hpage : w.pages.get? channel.page = some p) :
    ∃ held w' params, fill SecureWorld.driver channel op w = (.ok (), held, w') ∧ w.Untouched w' ∧
      w'.pages.get? channel.page = some (p.setParams params) ∧
      ∀ slot, (op.param slot).Shows w'.driver.mappings (params.get slot)
        (op.param slot).argument := by
  obtain ⟨held, w', params, hfill, huntouched, hpage', -, -, hin⟩ :=
    fillEach_direct op Slot.ascending (by decide) hs.planned 0
      (by rw [Nat.zero_add]; exact hs.fits) (UInt32.add_zero _).symm hcalm hserved hpage .none
  refine ⟨held, w', params, ?_, huntouched, hpage', fun slot => hin slot (Slot.mem_ascending slot)⟩
  -- the operation was not finished meanwhile
  have hstill : w'.progress op.lifecycle ≠ .finished := by
    unfold World.progress
    rw [huntouched.lifecycles]
    exact hprogress
  simp only [fill, hfill, hstill, if_false]

/-- A request without an operation, or with one that can be sent, is published, and mirrors the
parameters. -/
theorem publish_direct (instruction : Instruction) (command : UInt32) {op : Option Operation}
    (login : Login) (hs : (Operation.paramsOf op).Sendable)
    (hprogress : ∀ o, op = some o → w.progress o.lifecycle ≠ .finished) (hcalm : w.driver.Calm)
    (hserved : w.driver.sessions.contains channel.handle = true) {p : Page}
    (hpage : w.pages.get? channel.page = some p) :
    ∃ held w' p', publish SecureWorld.driver channel instruction command op w = (.ok held, w') ∧
      w.Untouched w' ∧ w'.pages.get? channel.page = some p' ∧ p'.ready = true ∧
      p'.request.instruction = instruction.raw ∧ p'.request.command = command ∧
      (⟨p'.setReady false, w.memory⟩ : Chamber).Mirrors
        ⟨Operation.paramsOf op, p.destination, login⟩ w'.driver.mappings
        (Setting.start ⟨Operation.paramsOf op, p.destination, login⟩ w.memory) := by
  -- the request starts from a page that was cleared
  have hcleared := Shared.get?_onPage (s := w.toShared) hpage fun p =>
    (p.setReady false).clearRequest
  cases op with
  | none =>
    have hstamped := Shared.get?_onPage (s := (w.onPage channel.page _).toShared) hcleared
      (stamp instruction command 0)
    refine ⟨.none, _, _, rfl, ⟨rfl, rfl, rfl, rfl⟩, hstamped, rfl, rfl, rfl, rfl, rfl, ?_, rfl, rfl,
      fun slot => ?_⟩
    · -- a request without an operation has four unused slots
      show (0 : UInt32) = SlotType.pack ⟨.none, .none, .none, .none⟩
      decide
    · simp only [Operation.paramsOf, Setting.start, Slots.get_replicate, Slots.get_ofFn]
      trivial
  | some op =>
    obtain ⟨held, w', params, hfill, huntouched, hpage', hshows⟩ :=
      fill_direct (w := w.onPage channel.page fun p => (p.setReady false).clearRequest) hs
        (hprogress op rfl) hcalm hserved hcleared
    have hstamped := Shared.get?_onPage (s := w'.toShared) hpage'
      (stamp instruction command op.sentTypes)
    refine ⟨held, (w'.onPage channel.page (stamp instruction command op.sentTypes)).log
      (.published instruction command held.count), _, ?_,
      ⟨huntouched.sessions, huntouched.faults, huntouched.memory, huntouched.lifecycles⟩, hstamped,
      rfl, rfl, rfl, rfl, rfl, rfl, rfl, rfl, fun slot => ?_⟩
    · simp only [publish, hfill]
    · simp only [Setting.start, Slots.get_ofFn]
      exact hshows slot

end Call

end TeeClient

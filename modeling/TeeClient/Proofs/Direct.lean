import TeeClient.Operation
import TeeClient.SecureWorld

/-!
# Direct calls of an application

A direct call runs an entry point of an application on the parameters of an operation, with no page,
mapping or driver in between: a value is a pair of words, a reference is a piece of the client's
memory with a size. It is what a call through a client is to look like to the application and to the
client program. A direct call has no outcome if the application panics, asks for something that the
slot does not have, or cancels.

Main statements:

* `App.direct`: the direct call of a command;
* `Program.run_of_mirrors`: a program does on a page that mirrors the parameters what it does in a
  direct call.
-/

namespace TeeClient

variable {κ : Type}

/-! ## What an application is given -/

/-- What a slot holds for an application: a pair of values, or a size. The size of a reference is
the declared one until the application reports another. -/
inductive Argument
  | none
  | value (a b : UInt32)
  | reference (size : UInt32)
  deriving DecidableEq, Repr

namespace Parameter

/-- The bytes of a buffer, if there is a buffer and any bytes of it are meant. -/
def bytesOf? (buffer : Option BufferId) (offset len : Nat) : Option (Address × Nat) :=
  buffer.bind fun id => if 0 < len then some (⟨id, offset⟩, len) else none

/-- The bytes that a slot lends to the application. -/
def lent? : Parameter → Option (Address × Nat)
  | unused | value .. => none
  | temporary _ buffer size => bytesOf? buffer 0 size
  | whole parent _ => bytesOf? parent.buffer 0 parent.size
  | window _ parent offset size => bytesOf? parent.buffer offset size

/-- The type under which an application knows a slot. It knows a whole block as a window in the
directions of the block. -/
def knownType : Parameter → SlotType
  | whole parent _ =>
    match parent.flags.contains .input, parent.flags.contains .output with
    | true, false => .partialInput
    | false, true => .partialOutput
    | _, _ => .partialInout
  | p => p.type

/-- What a slot holds when the application is called. -/
def argument : Parameter → Argument
  | unused => .none
  | value direction a b => if direction.reads then .value a b else .value 0 0
  | temporary _ _ size => .reference size.toUInt32
  | whole parent _ => .reference parent.size.toUInt32
  | window _ _ _ size => .reference size.toUInt32

/-- The slot after a direct call that left this in it. Only what the direction lets back comes back:
the pair of a value, or the size of a reference. -/
def settle (p : Parameter) (arg : Argument) : Parameter :=
  if p.writesBack then
    match p, arg with
    | value direction _ _, .value a b => value direction a b
    | temporary direction buffer _, .reference size => temporary direction buffer size.toNat
    | whole parent _, .reference size => whole parent size.toNat
    | window direction parent offset _, .reference size =>
      window direction parent offset size.toNat
    | p, _ => p
  else p

end Parameter

/-- What stays the same during a direct call. -/
structure Setting where
  /-- The parameters. -/
  params : Slots Parameter
  /-- The identity that the session was opened for. -/
  destination : Uuid
  /-- The login bound to the session. -/
  login : Login

/-- What changes during a direct call. -/
structure Direct where
  /-- What the slots hold. -/
  arguments : Slots Argument
  /-- The client's memory. -/
  memory : Memory

/-- A direct call at its start. -/
def Setting.start (setting : Setting) (memory : Memory) : Direct :=
  ⟨.ofFn fun slot => (setting.params.get slot).argument, memory⟩

namespace Direct

/-- Put something else into a slot. -/
def put (d : Direct) (slot : Slot) (arg : Argument) : Direct :=
  { d with arguments := d.arguments.put slot arg }

/-- Look at the pair in a slot, which has to be one of values. -/
def onValue {α : Type} (slot : Nat) (d : Direct) (look : Slot → UInt32 × UInt32 → α × Direct) :
    Option (α × Direct) :=
  (Slot.ofNat? slot).bind fun i => match d.arguments.get i with
    | .value a b => some (look i (a, b))
    | _ => none

/-- Look at the size in a slot, which has to be one of references. -/
def onReference {α : Type} (slot : Nat) (d : Direct) (look : Slot → UInt32 → α × Direct) :
    Option (α × Direct) :=
  (Slot.ofNat? slot).bind fun i => match d.arguments.get i with
    | .reference size => some (look i size)
    | _ => none

/-- Write bytes to the start of what a slot lends. Their number is reported even if they do not
fit. -/
def write (params : Slots Parameter) (d : Direct) (slot : Slot) (data : Bytes) :
    Except Status Unit × Direct :=
  let d := d.put slot (.reference data.length.toUInt32)
  match (params.get slot).lent? with
  | none => (if data.isEmpty then .ok () else .error FailureKind.shortBuffer.code, d)
  | some (address, len) =>
    if data.length > len then (.error FailureKind.shortBuffer.code, d)
    else if data.isEmpty then (.ok (), d)
    else if (params.get slot).writesBack then
      (.ok (), { d with memory := d.memory.write address data })
    else (.error FailureKind.accessDenied.code, d)

end Direct

/-- The answer to a query in a direct call; `none` if the slot is not of the kind asked for. Nobody
wants the call abandoned. -/
def Query.direct (setting : Setting) : (q : Query) → Direct → Option (q.Answer × Direct)
  | .paramType slot, d => (Slot.ofNat? slot).map fun i =>
    (.ok (setting.params.get i).knownType, d)
  | .value slot, d => d.onValue slot fun _ pair => (pair, d)
  | .setValue slot a b, d => d.onValue slot fun i _ => ((), d.put i (.value a b))
  | .capacity slot, d => d.onReference slot fun _ size => (size, d)
  | .isMapped slot, d => d.onReference slot fun i _ => ((setting.params.get i).lent?.isSome, d)
  | .read slot, d => d.onReference slot fun i _ =>
    ((setting.params.get i).lent?.map fun bytes => d.memory.read bytes.1 bytes.2, d)
  | .write slot data, d => d.onReference slot fun i _ => d.write setting.params i data
  | .setOutputSize slot size, d => d.onReference slot fun i _ => ((), d.put i (.reference size))
  | .isCancelled, d => some (false, d)
  | .login, d => some (setting.login, d)
  | .destination, d => some (setting.destination, d)

/-- A direct call: the result, the state in which the instance is left, and what the call left
behind; `none` if the application panics, is at fault or cancels. -/
def Program.direct (setting : Setting) :
    Program κ → Direct → Option ((Except Status Unit × κ) × Direct)
  | .finish result state, d => some ((result, state), d)
  | .panic, _ => none
  | .ask query next, d => (query.direct setting d).bind fun reply =>
    (next reply.1).direct setting reply.2
  | .cancel .., _ => none
  | .report _ next, d => next.direct setting d

/-- A direct call of a command, from this memory. -/
def App.direct (app : App κ) (command : UInt32) (state : κ) (setting : Setting) (memory : Memory) :
    Option ((Except Status Unit × κ) × Direct) :=
  (app.command command state).direct setting (setting.start memory)

/-! ## Pages that mirror parameters -/

/-- The words of a slot tell where in the secure world the bytes are that it lends, if any. -/
def Parameter.Locates (mappings : Mappings) (p : Parameter) (words : SlotWords) : Prop :=
  match p.lent? with
  | none => words.mappedLen = 0
  | some (address, len) => words.mappedLen.toNat = len ∧ 0 < len ∧ ∃ access,
    mappings.get? words.secureVa = some ⟨address, len, access⟩ ∧
    access.contains .output = p.writesBack

/-- The words of a slot, and the mappings, show an application what the slot holds in a direct
call. -/
def Parameter.Shows (mappings : Mappings) (p : Parameter) (words : SlotWords) (arg : Argument) :
    Prop :=
  match p, arg with
  | unused, .none => True
  | value .., .value a b => words.a = a ∧ words.b = b
  | temporary .., .reference size | whole .., .reference size | window .., .reference size =>
    words.outputSize = size ∧ p.Locates mappings words
  | _, _ => False

/-- A chamber in which an application sees what it sees in a direct call. -/
structure Chamber.Mirrors (setting : Setting) (mappings : Mappings) (c : Chamber) (d : Direct) :
    Prop where
  memory : c.memory = d.memory
  ready : c.page.ready = false
  types : c.page.request.types =
    SlotType.pack (.ofFn fun slot => (setting.params.get slot).sentType)
  cancelled : c.page.request.cancelled = false
  destination : c.page.destination = setting.destination
  shows : ∀ slot, (setting.params.get slot).Shows mappings (c.page.param slot)
    (d.arguments.get slot)

/-- A whole block is sent as what an application knows it as. -/
theorem Parameter.sentType_eq_knownType (p : Parameter) : p.sentType = p.knownType := by
  cases p with
  | whole parent size =>
    have hin : parent.flags.contains .input = ((parent.flags.bits &&& 3) &&& 1 == 1) := by
      rw [UInt32.and_assoc]
      rfl
    have hout : parent.flags.contains .output = ((parent.flags.bits &&& 3) &&& 2 == 2) := by
      rw [UInt32.and_assoc]
      rfl
    have hlt : (parent.flags.bits &&& 3).toNat < 4 := by
      rw [UInt32.toNat_and]
      exact Nat.lt_of_le_of_lt Nat.and_le_right (by decide)
    simp only [sentType, knownType, SlotType.ofAccess, hin, hout]
    generalize parent.flags.bits &&& 3 = directions at hlt
    -- the two bits are one of four
    have hcases : directions = 0 ∨ directions = 1 ∨ directions = 2 ∨ directions = 3 := by
      simp only [← UInt32.toNat_inj]
      show directions.toNat = 0 ∨ directions.toNat = 1 ∨ directions.toNat = 2 ∨ directions.toNat = 3
      omega
    rcases hcases with rfl | rfl | rfl | rfl <;> rfl
  | _ => rfl

/-- What a call leaves in a slot is what a direct call leaves there. -/
theorem Parameter.receive_of_shows {mappings : Mappings} {p : Parameter} {words : SlotWords}
    {arg : Argument} (h : p.Shows mappings words arg) :
    (if p.writesBack then p.receive words else p) = p.settle arg := by
  unfold settle
  split
  · cases p <;> cases arg <;> simp only [Shows] at h
    · rfl
    · rw [← h.1, ← h.2]
      rfl
    all_goals
      rw [← h.1]
      rfl
  · rfl

/-- What is mapped elsewhere does not matter to a slot. -/
theorem Parameter.Shows.of_mappings {mappings mappings' : Mappings} {p : Parameter}
    {words : SlotWords} {arg : Argument} (h : p.Shows mappings words arg)
    (hm : p.lent?.isSome = true → mappings'.get? words.secureVa = mappings.get? words.secureVa) :
    p.Shows mappings' words arg := by
  -- only parameters that lend bytes refer to a mapping, and theirs is the same
  have hl : p.Locates mappings words → p.Locates mappings' words := by
    unfold Locates
    intro h
    cases hlent : p.lent? with
    | none =>
      rw [hlent] at h
      exact h
    | some bytes =>
      rw [hlent] at h
      rw [hm (by rw [hlent]; rfl)]
      exact h
  cases p <;> cases arg <;> simp only [Shows] at h ⊢
  · exact h
  all_goals exact ⟨h.1, hl h.2⟩

/-! ## Programs on pages that mirror parameters -/

namespace Direct

variable {α : Type} {d : Direct} {slot : Nat} {reply : α × Direct}

/-- Looking at a pair succeeds in a slot of values. -/
theorem of_onValue {look : Slot → UInt32 × UInt32 → α × Direct}
    (h : d.onValue slot look = some reply) :
    ∃ i a b, Slot.ofNat? slot = some i ∧ d.arguments.get i = .value a b ∧
      look i (a, b) = reply := by
  obtain ⟨i, hi, h⟩ := Option.bind_eq_some_iff.1 h
  split at h
  next a b harg =>
    cases h
    exact ⟨i, a, b, hi, harg, rfl⟩
  · cases h

/-- Looking at a size succeeds in a slot of references. -/
theorem of_onReference {look : Slot → UInt32 → α × Direct}
    (h : d.onReference slot look = some reply) :
    ∃ i size, Slot.ofNat? slot = some i ∧ d.arguments.get i = .reference size ∧
      look i size = reply := by
  obtain ⟨i, hi, h⟩ := Option.bind_eq_some_iff.1 h
  split at h
  next size harg =>
    cases h
    exact ⟨i, size, hi, harg, rfl⟩
  · cases h

end Direct

namespace Parameter.Shows

variable {mappings : Mappings} {p : Parameter} {words : SlotWords} {a b size : UInt32}

/-- The words of a slot of values are its pair, and any pair may take their place. -/
theorem of_value (h : p.Shows mappings words (.value a b)) : words.a = a ∧ words.b = b ∧
    ∀ a' b', p.Shows mappings (.value a' b') (.value a' b') := by
  cases p with
  | value => exact ⟨h.1, h.2, fun _ _ => ⟨rfl, rfl⟩⟩
  | unused | temporary | whole | window => exact absurd h (by simp [Shows])

/-- The words of a reference hold its size, and any size may take its place. -/
theorem of_reference (h : p.Shows mappings words (.reference size)) : words.outputSize = size ∧
    ∀ size', p.Shows mappings (words.setOutputSize size') (.reference size') := by
  cases p with
  | unused | value => exact absurd h (by simp [Shows])
  | temporary | whole | window => exact ⟨h.1, fun _ => ⟨rfl, h.2⟩⟩

/-- The words of a reference tell where the bytes are that it lends. -/
theorem locates (h : p.Shows mappings words (.reference size)) : p.Locates mappings words := by
  cases p with
  | unused | value => exact absurd h (by simp [Shows])
  | temporary | whole | window => exact h.2

/-- A reference that lends nothing is not mapped. -/
theorem of_lent?_eq_none (h : p.Shows mappings words (.reference size)) (hl : p.lent? = none) :
    words.mappedLen = 0 := by
  have h := h.locates
  unfold Locates at h
  rw [hl] at h
  exact h

/-- A reference that lends bytes has them mapped. -/
theorem of_lent?_eq_some {address : Address} {len : Nat}
    (h : p.Shows mappings words (.reference size)) (hl : p.lent? = some (address, len)) :
    words.mappedLen.toNat = len ∧ 0 < len ∧ ∃ access,
      mappings.get? words.secureVa = some ⟨address, len, access⟩ ∧
      access.contains .output = p.writesBack := by
  have h := h.locates
  unfold Locates at h
  rw [hl] at h
  exact h

/-- A reference that lends bytes has a mapped length that is not zero. -/
theorem mappedLen_ne_zero {bytes : Address × Nat}
    (h : p.Shows mappings words (.reference size)) (hl : p.lent? = some bytes) :
    words.mappedLen ≠ 0 := by
  obtain ⟨hlen, hpos, -⟩ := h.of_lent?_eq_some hl
  intro hzero
  rw [hzero] at hlen
  exact absurd hlen (Nat.ne_of_lt hpos)

end Parameter.Shows

namespace Chamber.Mirrors

variable {setting : Setting} {mappings : Mappings} {c : Chamber} {d : Direct}

/-- A slot may be filled anew, with words that show what is put there. -/
theorem put (h : c.Mirrors setting mappings d) (slot : Slot) {words : SlotWords} {arg : Argument}
    (hs : (setting.params.get slot).Shows mappings words arg) :
    ({ c with page := c.page.setParam slot words } : Chamber).Mirrors setting mappings
      (d.put slot arg) where
  memory := h.memory
  ready := h.ready
  types := h.types
  cancelled := h.cancelled
  destination := h.destination
  shows other := by
    simp only [Direct.put]
    by_cases he : other = slot
    · rw [he, Page.param_setParam_self, Slots.get_put_self]
      exact hs
    · rw [Page.param_setParam_ne c.page words he, Slots.get_put_ne _ _ he]
      exact h.shows other

/-- A slot shows what it holds in the direct call. -/
theorem shows_of_get (h : c.Mirrors setting mappings d) {slot : Slot} {arg : Argument}
    (ha : d.arguments.get slot = arg) :
    (setting.params.get slot).Shows mappings (c.page.param slot) arg :=
  ha ▸ h.shows slot

/-- An application writes to the bytes that a slot lends, and to no others. -/
theorem write (h : c.Mirrors setting mappings d) {slot : Slot} {size : UInt32} (data : Bytes)
    (ha : d.arguments.get slot = .reference size) :
    ∃ c', c.write mappings slot data = ((d.write setting.params slot data).1, c') ∧
      c'.Mirrors setting mappings (d.write setting.params slot data).2 := by
  have hshows := h.shows_of_get ha
  -- the size that was produced is reported in any case
  have hreported := h.put slot (hshows.of_reference.2 data.length.toUInt32)
  unfold Chamber.write Direct.write
  simp only
  cases hlent : (setting.params.get slot).lent? with
  | none =>
    have hlen := hshows.of_lent?_eq_none hlent
    simp only [hlen]
    cases data with
    | nil => exact ⟨_, rfl, hreported⟩
    | cons => exact ⟨_, rfl, hreported⟩
  | some bytes =>
    obtain ⟨address, len⟩ := bytes
    obtain ⟨hlen, -, access, hmapping, haccess⟩ := hshows.of_lent?_eq_some hlent
    simp only [hlen]
    split
    · -- data that does not fit is only reported
      exact ⟨_, rfl, hreported⟩
    next hfits =>
      split
      · exact ⟨_, rfl, hreported⟩
      · -- the mapping lets the secure world write if the parameter lets data back
        have hwrite : mappings.write (c.reportSize slot data.length.toUInt32).memory
            (c.page.param slot).secureVa data
              = if (setting.params.get slot).writesBack then some (d.memory.write address data)
                else none := by
          unfold Mappings.write
          rw [hmapping, show (c.reportSize slot _).memory = d.memory from h.memory]
          simp only [haccess, Nat.not_lt.1 hfits, decide_true, Bool.and_true]
        rw [hwrite]
        cases (setting.params.get slot).writesBack with
        | false => exact ⟨_, rfl, hreported⟩
        | true => exact ⟨_, rfl, ⟨rfl, hreported.ready, hreported.types, hreported.cancelled,
            hreported.destination, hreported.shows⟩⟩

end Chamber.Mirrors

/-- A query is answered on a page that mirrors the parameters as it is in a direct call. -/
theorem Query.answer_of_mirrors {setting : Setting} {mappings : Mappings} {c : Chamber} {d : Direct}
    (hm : c.Mirrors setting mappings d) {q : Query} {reply : q.Answer × Direct}
    (h : q.direct setting d = some reply) :
    ∃ c', q.answer mappings setting.login c = some (reply.1, c') ∧
      c'.Mirrors setting mappings reply.2 := by
  cases q with
  | paramType slot =>
    obtain ⟨i, hi, rfl⟩ := Option.map_eq_some_iff.1 h
    refine ⟨c, ?_, hm⟩
    simp only [Query.answer, hi, Option.map_some]
    rw [hm.types, SlotType.at?_pack, Slots.get_ofFn, Parameter.sentType_eq_knownType]
    rfl
  | value slot =>
    obtain ⟨i, a, b, hi, ha, rfl⟩ := Direct.of_onValue (by simpa only [direct] using h)
    obtain ⟨hwa, hwb, -⟩ := (hm.shows_of_get ha).of_value
    refine ⟨c, ?_, hm⟩
    simp only [Query.answer, hi, Option.map_some, hwa, hwb]
  | setValue slot a b =>
    obtain ⟨i, _, _, hi, ha, rfl⟩ := Direct.of_onValue (by simpa only [direct] using h)
    refine ⟨_, ?_, hm.put i ((hm.shows_of_get ha).of_value.2.2 a b)⟩
    simp only [Query.answer, hi, Option.map_some]
  | capacity slot =>
    obtain ⟨i, size, hi, ha, rfl⟩ := Direct.of_onReference (by simpa only [direct] using h)
    refine ⟨c, ?_, hm⟩
    simp only [Query.answer, hi, Option.map_some, (hm.shows_of_get ha).of_reference.1]
  | isMapped slot =>
    obtain ⟨i, size, hi, ha, rfl⟩ := Direct.of_onReference (by simpa only [direct] using h)
    refine ⟨c, ?_, hm⟩
    simp only [Query.answer, hi, Option.map_some]
    -- the application tells by the length that is mapped, which is that of what is lent
    cases hlent : (setting.params.get i).lent? with
    | none => simp [(hm.shows_of_get ha).of_lent?_eq_none hlent]
    | some bytes => simp [(hm.shows_of_get ha).mappedLen_ne_zero hlent]
  | read slot =>
    obtain ⟨i, size, hi, ha, rfl⟩ := Direct.of_onReference (by simpa only [direct] using h)
    refine ⟨c, ?_, hm⟩
    simp only [Query.answer, hi, Option.map_some]
    cases hlent : (setting.params.get i).lent? with
    | none => simp [(hm.shows_of_get ha).of_lent?_eq_none hlent]
    | some bytes =>
      -- the mapping covers the bytes that are lent, so the device does not refuse them
      obtain ⟨hlen, -, access, hmapping, -⟩ := (hm.shows_of_get ha).of_lent?_eq_some hlent
      have hne := (hm.shows_of_get ha).mappedLen_ne_zero hlent
      simp [hne, Mappings.read, hmapping, hlen, hm.memory]
  | write slot data =>
    obtain ⟨i, size, hi, ha, rfl⟩ := Direct.of_onReference (by simpa only [direct] using h)
    obtain ⟨c', hw, hm'⟩ := hm.write data ha
    refine ⟨c', ?_, hm'⟩
    simp only [Query.answer, hi, Option.map_some, hw]
  | setOutputSize slot size =>
    obtain ⟨i, _, hi, ha, rfl⟩ := Direct.of_onReference (by simpa only [direct] using h)
    refine ⟨_, ?_, hm.put i ((hm.shows_of_get ha).of_reference.2 size)⟩
    simp only [Query.answer, hi, Option.map_some]
    rfl
  | isCancelled =>
    cases h
    exact ⟨c, congrArg (fun flag => some (flag, c)) hm.cancelled, hm⟩
  | login =>
    cases h
    exact ⟨c, rfl, hm⟩
  | destination =>
    cases h
    exact ⟨c, congrArg (fun id => some (id, c)) hm.destination, hm⟩

/-- What an application acts on while it serves the session of a page. -/
def Shared.chamber {σ : Type} (s : Shared σ) (page : PageId) : Chamber := ⟨s.page page, s.memory⟩

/-- What stands in a page that is there is what an application acts on. -/
theorem Shared.chamber_of_get? {σ : Type} {s : Shared σ} {page : PageId} {p : Page}
    (h : s.pages.get? page = some p) : s.chamber page = ⟨p, s.memory⟩ := by
  unfold chamber
  rw [page_of_get? h]

/-- A program does on a page that mirrors the parameters what it does in a direct call. The secure
world, the other pages and the result words stay as they are meanwhile. -/
theorem Program.run_of_mirrors {setting : Setting} {page : PageId} {program : Program κ}
    {s : Shared (SecureWorld κ)} {d : Direct} {out : (Except Status Unit × κ) × Direct} {p : Page}
    (hpage : s.pages.get? page = some p)
    (hm : (s.chamber page).Mirrors setting s.driver.mappings d)
    (h : program.direct setting d = some out) :
    ∃ s', program.run page setting.login s = .done (some out.1) s' ∧ s'.driver = s.driver ∧
      (∃ p', s'.pages.get? page = some p') ∧
      (s'.chamber page).Mirrors setting s.driver.mappings out.2 := by
  induction program generalizing s d p with
  | finish result state =>
    cases h
    exact ⟨s, rfl, rfl, ⟨p, hpage⟩, hm⟩
  | panic => cases h
  | cancel => cases h
  | report event next ih => exact ih (s := s.note event) hpage hm h
  | ask query next ih =>
    obtain ⟨reply, hreply, h⟩ := Option.bind_eq_some_iff.1 h
    obtain ⟨c', hanswer, hm'⟩ := Query.answer_of_mirrors hm hreply
    -- the rest of the program runs on the page and the memory that the answer left
    have hpage' := Shared.get?_onPage hpage fun _ => c'.page
    have hchamber : Shared.chamber
        { s.onPage page (fun _ => c'.page) with memory := c'.memory } page = c' :=
      Shared.chamber_of_get? hpage'
    obtain ⟨s', hrun, hdriver, hexists, hm''⟩ := ih reply.1
      (s := { s.onPage page (fun _ => c'.page) with memory := c'.memory }) hpage'
      (by rw [hchamber]; exact hm') h
    refine ⟨s', ?_, hdriver, hexists, hm''⟩
    unfold run
    rw [show query.answer s.driver.mappings setting.login ⟨s.page page, s.memory⟩ = _ from hanswer]
    exact hrun

end TeeClient

import TeeClient.Proofs.Secrecy

/-!
# What an application learns

While it serves a call an application asks questions, and all that it learns of the call are the
answers. `World.questions` are those that a program asks as it runs in a world, with what each is
answered from. Of the client's memory only the bytes of a mapped buffer can be an answer; so as long
as a program reads through buffers that go into the secure world, it cannot tell two worlds apart
whose memory differs elsewhere.

Main statements:

* `Query.answer_alike`: one question is answered in the same way in both worlds;
* `World.play_alike`: a program is answered in the same way in both worlds, and leaves the same
  behind.
-/

namespace TeeClient

variable {σ κ : Type}

/-! ## Questions -/

/-- A question of an application, and what it is answered from. -/
structure Question where
  query : Query
  mappings : Mappings
  login : Login
  chamber : Chamber

namespace Question

/-- What the application learns: the answer, if there is the slot that it asks about. -/
def learned (q : Question) : (query : Query) × Option query.Answer :=
  ⟨q.query, (q.query.answer q.mappings q.login q.chamber).map Prod.fst⟩

/-- The mapped buffer that bytes are read from, where the application asks for some. -/
def source? (q : Question) : Option Mapping :=
  match q.query with
  | .read slot => (Slot.ofNat? slot).bind fun i =>
    let words := q.chamber.page.param i
    if words.mappedLen = 0 then none else q.mappings.get? words.secureVa
  | _ => none

end Question

namespace World

/-- The questions that a program asks while it runs in a world. -/
def questions (page : PageId) (login : Login) :
    Program κ → World (SecureWorld κ) → List Question
  | .finish .., _ => []
  | .panic, _ => []
  | .ask query next, w =>
    ⟨query, w.driver.mappings, login, w.chamber page⟩ ::
      match query.answer w.driver.mappings login (w.chamber page) with
      | none => []
      | some (answer, chamber) => (w.withChamber page chamber).questions page login (next answer)
  | .cancel token next, w =>
    (w.honour SecureWorld.driver token).2.questions page login
      (next (w.honour SecureWorld.driver token).1)
  | .report event next, w => (w.withShared (w.toShared.note event)).questions page login next

end World

/-! ## Memory that is not read -/

/-- Other bytes at some places stay so, where both memories are written alike. -/
theorem Memory.Framed.write {hidden : BufferId → Nat → Prop} {m m' : Memory}
    (h : m.Framed hidden m') (address : Address) (data : Bytes) :
    (m.write address data).Framed hidden (m'.write address data) where
  length_eq id := (((framed_write m' address data).length_eq id).trans (h.length_eq id)).trans
    ((framed_write m address data).length_eq id).symm
  byte_eq id i hi := by
    have length_bytes : ∀ m : Memory,
        (m.bytes id).length = ((m.get? id).map List.length).getD 0 := by
      intro m
      unfold bytes
      cases m.get? id <;> rfl
    have hlength : (m'.bytes id).length = (m.bytes id).length := by
      rw [length_bytes, length_bytes, h.length_eq]
    rw [bytes_write, bytes_write]
    split
    · exact Bytes.getElem?_overlay_congr hlength (h.byte_eq id i hi) address.offset data
    · exact h.byte_eq id i hi

/-- No byte of a mapped buffer that goes into the secure world is hidden. -/
def Mappings.Discloses (mappings : Mappings) (hidden : BufferId → Nat → Prop) : Prop :=
  ∀ secureVa mapping, mappings.get? secureVa = some mapping →
    mapping.access.contains .input = true → ∀ i, mapping.address.offset ≤ i →
    i < mapping.address.offset + mapping.len → ¬ hidden mapping.address.buffer i

/-- What an application acts on, with other bytes in memory. -/
def Chamber.withMemory (memory : Memory) (c : Chamber) : Chamber := { c with memory }

variable {hidden : BufferId → Nat → Prop} {mappings : Mappings} {login : Login}

/-- A write through a mapped buffer is refused in both memories, or in none. -/
theorem Mappings.write_alike (mappings : Mappings) {m m' : Memory} (h : m.Framed hidden m')
    (secureVa : UInt32) (data : Bytes) :
    (mappings.write m secureVa data = none ∧ mappings.write m' secureVa data = none) ∨
      ∃ after after', mappings.write m secureVa data = some after ∧
        mappings.write m' secureVa data = some after' ∧ after.Framed hidden after' := by
  unfold write
  cases mappings.get? secureVa with
  | none => exact .inl ⟨rfl, rfl⟩
  | some mapping =>
    simp only
    split
    · exact .inr ⟨_, _, rfl, rfl, h.write mapping.address data⟩
    · exact .inl ⟨rfl, rfl⟩

/-- A read through a mapped buffer that goes into the secure world finds the same bytes in both
memories. -/
theorem Mappings.read_alike {m m' : Memory} (h : m.Framed hidden m')
    (hdiscloses : mappings.Discloses hidden) {secureVa : UInt32} {len : Nat}
    (hinput : ∀ mapping, mappings.get? secureVa = some mapping →
      mapping.access.contains .input = true) :
    mappings.read m' secureVa len = mappings.read m secureVa len := by
  unfold read
  refine Option.map_congr fun mapping hget => ?_
  refine h.read_eq fun i hle hlt => ?_
  exact hdiscloses secureVa mapping hget (hinput mapping hget) i hle
    (Nat.lt_of_lt_of_le hlt (Nat.add_le_add_left (Nat.min_le_right _ _) _))

/-- A write to the buffer of a slot comes to the same, and leaves the difference as it is. -/
theorem Chamber.write_alike (mappings : Mappings) {c : Chamber} {memory : Memory}
    (hframed : c.memory.Framed hidden memory) (slot : Slot) (data : Bytes) : ∃ memory',
    (c.write mappings slot data).2.memory.Framed hidden memory' ∧
      (c.withMemory memory).write mappings slot data = ((c.write mappings slot data).1,
        (c.write mappings slot data).2.withMemory memory') := by
  unfold write
  simp only [show (c.withMemory memory).page = c.page from rfl]
  split
  · exact ⟨memory, hframed, rfl⟩
  · split
    · exact ⟨memory, hframed, rfl⟩
    · rcases Mappings.write_alike mappings hframed (c.page.param slot).secureVa data
        with ⟨hrefused, hrefused'⟩ | ⟨after, after', hwritten, hwritten', hafter⟩
      · refine ⟨memory, ?_⟩
        simp only [show (c.reportSize slot data.length.toUInt32).memory = c.memory from rfl,
          show ((c.withMemory memory).reportSize slot data.length.toUInt32).memory
            = memory from rfl,
          hrefused, hrefused']
        exact ⟨hframed, rfl⟩
      · refine ⟨after', ?_⟩
        simp only [show (c.reportSize slot data.length.toUInt32).memory = c.memory from rfl,
          show ((c.withMemory memory).reportSize slot data.length.toUInt32).memory
            = memory from rfl,
          hwritten, hwritten']
        exact ⟨hafter, rfl⟩

/-- What is read from the buffer of a slot is the same in both memories, if the buffer goes into the
secure world. -/
theorem Query.answer_read_alike {c : Chamber} {memory : Memory}
    (hframed : c.memory.Framed hidden memory) (hdiscloses : mappings.Discloses hidden) (slot : Nat)
    (hreads : ∀ mapping ∈ (Question.mk (.read slot) mappings login c).source?,
      mapping.access.contains .input = true) :
    (Query.read slot).answer mappings login (c.withMemory memory)
      = ((Query.read slot).answer mappings login c).map fun answered =>
        (answered.1, answered.2.withMemory memory) := by
  cases hslot : Slot.ofNat? slot with
  | none =>
    simp only [Query.answer, hslot]
    rfl
  | some i =>
    simp only [Query.answer, hslot, Option.map_some, Option.some.injEq]
    refine Prod.ext ?_ rfl
    show (if _ then _ else _) = if _ then _ else _
    by_cases hlen : (c.page.param i).mappedLen = 0
    · exact (if_pos hlen).trans (if_pos hlen).symm
    · refine (if_neg hlen).trans (Eq.trans ?_ (if_neg hlen).symm)
      refine Mappings.read_alike hframed hdiscloses fun mapping hget => hreads mapping ?_
      simp only [Question.source?, hslot, Option.bind_some, if_neg hlen]
      exact hget

/-- What a question is answered with, and what it leaves, in both memories. -/
theorem Query.answer_alike {c : Chamber} {memory : Memory} (hframed : c.memory.Framed hidden memory)
    (hdiscloses : mappings.Discloses hidden) (query : Query)
    (hreads : ∀ mapping ∈ (Question.mk query mappings login c).source?,
      mapping.access.contains .input = true) : ∃ memory',
    (∀ answer c', query.answer mappings login c = some (answer, c') →
      c'.memory.Framed hidden memory') ∧
    query.answer mappings login (c.withMemory memory)
      = (query.answer mappings login c).map fun answered =>
        (answered.1, answered.2.withMemory memory') := by
  cases query with
  -- these are answered from the page, or not from the call at all
  | isCancelled | login | destination =>
    refine ⟨memory, fun answer c' h => ?_, rfl⟩
    cases h
    exact hframed
  | paramType slot | value slot | setValue slot | capacity slot | isMapped slot
  | setOutputSize slot =>
    refine ⟨memory, fun answer c' h => ?_, ?_⟩
    · obtain ⟨i, -, hi⟩ := Option.map_eq_some_iff.1 h
      cases hi
      exact hframed
    · simp only [Query.answer, Option.map_map]
      rfl
  | write slot data =>
    cases hslot : Slot.ofNat? slot with
    | none =>
      refine ⟨memory, fun answer c' h => ?_, ?_⟩
      · simp only [Query.answer, hslot] at h
        cases h
      · simp only [Query.answer, hslot]
        rfl
    | some i =>
      obtain ⟨memory', hafter, hsame⟩ := Chamber.write_alike mappings hframed i data
      refine ⟨memory', fun answer c' h => ?_, ?_⟩
      · simp only [Query.answer, hslot, Option.map_some, Option.some.injEq] at h
        rw [← show (c.write mappings i data).2 = c' from congrArg Prod.snd h]
        exact hafter
      · simp only [Query.answer, hslot, Option.map_some, hsame]
  | read slot =>
    refine ⟨memory, fun answer c' h => ?_, ?_⟩
    · obtain ⟨i, -, hi⟩ := Option.map_eq_some_iff.1 h
      cases hi
      exact hframed
    · exact Query.answer_read_alike hframed hdiscloses slot hreads

/-! ## Programs -/

namespace World

variable {page : PageId} {w : World (SecureWorld κ)} {memory : Memory}

/-- A session is told to abandon its call in the same way whatever is in memory, where no worker
finds a request published. -/
theorem signal_withMemory (hu : (w.scene id).Unready) (memory : Memory) (session : ChannelId) :
    (w.withMemory memory).signal SecureWorld.driver (honour SecureWorld.driver) session
      = (w.signal SecureWorld.driver (honour SecureWorld.driver) session).withMemory memory := by
  unfold signal
  simp only [show (w.withMemory memory).channels = w.channels from rfl]
  split
  · rfl
  next channel hget =>
    split
    · -- the notification is only counted, since the flag publishes nothing
      have hnotified : ∀ flagged : World (SecureWorld κ), flagged.scene id = w.scene id →
          flagged.settleShared (honour SecureWorld.driver)
            (SecureWorld.driver.notify .cancellation channel.handle)
          = ((SecureWorld.ring channel.handle flagged.driver).1,
            flagged.withDriver (SecureWorld.ring channel.handle flagged.driver).2) :=
        fun flagged hscene => onShared_notify_of_idle (idle_of_unready (hscene ▸ hu) _)
      rw [hnotified _ (scene_onPage_setCancelled channel.page w),
        hnotified _ (scene_onPage_setCancelled channel.page (w.withMemory memory))]
      simp only [show ((w.withMemory memory).onPage channel.page (·.setCancelled true)).driver
        = (w.onPage channel.page (·.setCancelled true)).driver from rfl]
      rcases (SecureWorld.ring channel.handle
        (w.onPage channel.page (·.setCancelled true)).driver).1 with e | ⟨⟩ <;> rfl
    · rfl

/-- A request to cancel that has nothing served has the same answer whatever is in memory. -/
theorem honour_withMemory (hq : w.Undisturbed) (memory : Memory) (token : String) :
    (w.withMemory memory).honour SecureWorld.driver token
      = ((w.honour SecureWorld.driver token).1,
        (w.honour SecureWorld.driver token).2.withMemory memory) := by
  have hcancel : ∀ lifecycle, (w.withMemory memory).cancelCall SecureWorld.driver lifecycle
      = (w.cancelCall SecureWorld.driver lifecycle).withMemory memory := by
    intro lifecycle
    -- a request that is not due goes by the lifecycles only
    by_cases hp : w.progress lifecycle ≠ .started
    · unfold progress at hp
      unfold cancelCall cancelWith Lifecycle.cancel
      simp only [show (w.withMemory memory).lifecycles = w.lifecycles from rfl]
      cases hc : ((w.lifecycles.get? lifecycle).getD .new).progress with
      | started => exact absurd hc hp
      | notStarted | finished => rfl
    · have hstarted := Classical.not_not.1 hp
      -- an operation is started, so no request is published for any worker
      have hunready : (w.scene id).Unready := hq.resolve_right fun hquiet => by
        have hless := (w.started_cancelled lifecycle).2 hstarted
        omega
      obtain ⟨l, hl, hp⟩ := get?_of_started hstarted
      unfold cancelCall
      rw [cancelWith_of_started SecureWorld.driver _ hl hp,
        cancelWith_of_started SecureWorld.driver _ (w := w.withMemory memory) hl hp]
      cases l.target with
      | none => rfl
      | some session =>
        exact signal_withMemory (w := w.cancelled lifecycle) hunready memory session
  rw [honour_eq]
  unfold honourWith
  simp only [show (w.withMemory memory).tokens = w.tokens from rfl]
  cases w.tokens.get? token with
  | none => rfl
  | some lifecycle =>
    show (some (_, ((w.withMemory memory).cancelCall SecureWorld.driver lifecycle).progress
      lifecycle), (w.withMemory memory).cancelCall SecureWorld.driver lifecycle) = _
    rw [hcancel]
    rfl

/-- A request to cancel that has nothing served writes no memory. -/
theorem memory_honour (hq : w.Undisturbed) (token : String) :
    (w.honour SecureWorld.driver token).2.memory = w.memory :=
  congrArg (fun answered => answered.2.memory) (honour_withMemory hq w.memory token)

/-- A program that reads through buffers that go into the secure world learns the same in both
worlds, comes to the same end, and leaves the worlds apart in the same places, if it is not
disturbed. -/
theorem play_alike (hq : w.Undisturbed) (hframed : w.memory.Framed hidden memory)
    (hdiscloses : w.driver.mappings.Discloses hidden) (program : Program κ)
    (hreads : ∀ q ∈ w.questions page login program, ∀ mapping ∈ q.source?,
      mapping.access.contains .input = true) : ∃ memory',
    (w.play page login program).2.memory.Framed hidden memory' ∧
    (w.withMemory memory).play page login program
      = ((w.play page login program).1, (w.play page login program).2.withMemory memory') ∧
    ((w.withMemory memory).questions page login program).map Question.learned
      = (w.questions page login program).map Question.learned := by
  -- the differences move with every write, so the memory is chosen anew at each step
  induction program generalizing w memory with
  | finish result state => exact ⟨memory, hframed, rfl, rfl⟩
  | panic => exact ⟨memory, hframed, rfl, rfl⟩
  | ask query next ih =>
    simp only [questions, List.forall_mem_cons] at hreads
    obtain ⟨hfirst, hrest⟩ := hreads
    obtain ⟨memory₁, hafter, hanswer⟩ :=
      Query.answer_alike (c := w.chamber page) hframed hdiscloses query hfirst
    rw [show (w.chamber page).withMemory memory = (w.withMemory memory).chamber page from rfl]
      at hanswer
    -- what is learned by this question
    have hlearned : Question.learned ⟨query, w.driver.mappings, login,
        (w.withMemory memory).chamber page⟩
        = Question.learned ⟨query, w.driver.mappings, login, w.chamber page⟩ := by
      simp only [Question.learned, hanswer, Option.map_map]
      rfl
    rw [play_ask, play_ask]
    simp only [questions, List.map_cons]
    rw [show (w.withMemory memory).driver = w.driver from rfl, hlearned]
    simp only [hanswer]
    cases ha : query.answer w.driver.mappings login (w.chamber page) with
    | none => exact ⟨memory, hframed, rfl, rfl⟩
    | some answered =>
      obtain ⟨answer, chamber⟩ := answered
      simp only [ha] at hrest
      obtain ⟨memory', hframed', hplay, hquestions⟩ := ih answer
        (w := w.withChamber page chamber) (hq.withChamber ha) (hafter answer chamber ha) hdiscloses
        hrest
      refine ⟨memory', hframed', hplay, ?_⟩
      simp only [Option.map_some]
      exact congrArg _ hquestions
  | cancel token next ih =>
    have hmappings : (w.honour SecureWorld.driver token).2.driver.mappings = w.driver.mappings :=
      congrArg Ledger.mappings
        (keeps_driver.tolerates_ledger.honour token w)
    have hmemory := memory_honour hq token
    simp only [play_cancel, questions]
    rw [honour_withMemory hq]
    exact ih _ (hq.honour token) (hmemory ▸ hframed) (hmappings ▸ hdiscloses) hreads
  | report event next ih =>
    rw [play_report, play_report]
    exact ih (w := w.withShared (w.toShared.note event)) hq hframed hdiscloses hreads

end World

/-! ## Notifications -/

namespace World

open SecureWorld

variable {handle : Handle} {w w' : World (SecureWorld κ)} {worker : Worker κ}
  {instruction : Instruction}

/-- The worker of a session that finds a request published, and the instruction of the request. -/
def found? (handle : Handle) (w : World (SecureWorld κ)) : Option (Worker κ × Instruction) :=
  if w.driver.faults.notify then none
  else (w.driver.sessions.get? handle).bind fun worker =>
    if worker.alive && (w.page worker.page).ready then
      (Instruction.ofRaw? (w.page worker.page).request.instruction).map (worker, ·)
    else none

/-- The questions that are asked when a session is notified. -/
def questionsAt (handle : Handle) (w : World (SecureWorld κ)) : List Question :=
  match w.found? handle with
  | none => []
  | some (worker, instruction) => (w.takenUp handle worker instruction).questions worker.page
    worker.login (w.due worker instruction)

/-- A worker that finds a request asks what the program of the request asks. -/
theorem questionsAt_of_finds (h : Finds handle worker instruction w.toShared) :
    w.questionsAt handle = (w.takenUp handle worker instruction).questions worker.page
      worker.login (w.due worker instruction) := by
  have hfound : w.found? handle = some (worker, instruction) := by
    unfold found?
    rw [show w.driver.faults.notify = false from h.heard,
      show w.driver.sessions.get? handle = some worker from h.hired]
    simp only [Option.bind_some, h.alive, show (w.page worker.page).ready = true from h.ready]
    rw [show Instruction.ofRaw? (w.page worker.page).request.instruction = some instruction from
      h.known]
    rfl
  unfold questionsAt
  rw [hfound]

/-- Where no worker finds a request nothing is asked. -/
theorem questionsAt_of_idle (h : Idle handle w.toShared) : w.questionsAt handle = [] := by
  have hfound : w.found? handle = none := by
    unfold found?
    cases hheard : w.driver.faults.notify with
    | true => rfl
    | false =>
      cases hworker : w.driver.sessions.get? handle with
      | none => rfl
      | some worker =>
        simp only [Option.bind_some]
        cases halive : worker.alive with
        | false => rfl
        | true =>
          rw [show (w.page worker.page).ready = false from h worker hheard hworker halive]
          rfl
  unfold questionsAt
  rw [hfound]

/-- The bell maps no buffer. -/
theorem mappings_ring (handle : Handle) (driver : SecureWorld κ) :
    (ring handle driver).2.mappings = driver.mappings := by
  rw [ring_snd]
  rfl

/-- A program that ends leaves its worker the same, whatever is in memory. -/
theorem withShared_left_withMemory (page : PageId) (ended : Option (Except Status Unit × κ))
    (memory : Memory) (w : World (SecureWorld κ)) :
    (w.withMemory memory).withShared
        (left handle page instruction ended (w.withMemory memory).toShared)
      = (w.withShared (left handle page instruction ended w.toShared)).withMemory memory := by
  cases ended <;> rfl

/-- A notification has the application ask the same in both worlds, and comes to the same. -/
theorem notify_apart (hw : w.Apart hidden w') (hdiscloses : w.driver.mappings.Discloses hidden)
    (hcase : Idle handle w.toShared ∨ w.Reserved handle ∧
      ∃ worker instruction, Finds handle worker instruction w.toShared)
    (hreads : ∀ q ∈ w.questionsAt handle, ∀ mapping ∈ q.source?,
      mapping.access.contains .input = true) :
    (w'.onShared SecureWorld.driver (SecureWorld.notify handle)).1
        = (w.onShared SecureWorld.driver (SecureWorld.notify handle)).1 ∧
      (w.onShared SecureWorld.driver (SecureWorld.notify handle)).2.Apart hidden
        (w'.onShared SecureWorld.driver (SecureWorld.notify handle)).2 ∧
      (w'.questionsAt handle).map Question.learned
        = (w.questionsAt handle).map Question.learned := by
  obtain ⟨memory, hframed, rfl⟩ :
      ∃ memory, w.memory.Framed hidden memory ∧ w' = w.withMemory memory :=
    ⟨w'.memory, hw.framed, hw.eq_withMemory⟩
  rcases hcase with hidle | ⟨hreserved, worker, instruction, hfinds⟩
  · have hidle' : Idle handle (w.withMemory memory).toShared := hidle
    rw [onShared_notify_of_idle hidle, onShared_notify_of_idle hidle', questionsAt_of_idle hidle,
      questionsAt_of_idle hidle']
    exact ⟨rfl, .of_framed hframed rfl, rfl⟩
  · -- the worker takes up the same request in both worlds, and plays the same program
    have hfinds' : Finds handle worker instruction (w.withMemory memory).toShared :=
      ⟨hfinds.heard, hfinds.hired, hfinds.alive, hfinds.ready, hfinds.known⟩
    have hmappings : (w.takenUp handle worker instruction).driver.mappings = w.driver.mappings :=
      mappings_ring handle w.driver
    rw [questionsAt_of_finds hfinds] at hreads ⊢
    obtain ⟨memory', hframed', hplay, hquestions⟩ :=
      play_alike (w := w.takenUp handle worker instruction)
        (undisturbed_takenUp hfinds hreserved) hframed (hmappings ▸ hdiscloses)
        (w.due worker instruction) hreads
    rw [onShared_notify_of_finds hfinds, onShared_notify_of_finds hfinds',
      questionsAt_of_finds hfinds']
    have hperformed : (w.withMemory memory).performed handle worker instruction
        = ((w.performed handle worker instruction).1,
          (w.performed handle worker instruction).2.withMemory memory') := hplay
    have hserved : (w.withMemory memory).served handle worker instruction
        = (w.served handle worker instruction).withMemory memory' := by
      unfold served
      rw [hperformed]
      exact withShared_left_withMemory worker.page _ memory' _
    -- what the worker leaves in its page when it is done is no memory
    have hmemory : (w.served handle worker instruction).memory
        = (w.performed handle worker instruction).2.memory := by
      unfold served
      generalize w.performed handle worker instruction = ended
      obtain ⟨result | _, w'⟩ := ended <;> rfl
    exact ⟨rfl, .of_framed (hmemory ▸ hframed') hserved, hquestions⟩

end World

end TeeClient

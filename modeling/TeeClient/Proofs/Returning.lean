import TeeClient.Proofs.Publishing
import TeeClient.Proofs.Requests
import TeeClient.Proofs.Secrecy

/-!
# What a call hands back

A call hands the operation back that it carried. If the application has answered, the slots through
which data come back hold what the page of the session says in their words when they are taken back.
These are the words of the answer, unless the page is written to on behalf of a cancellation that
the driver asks for while it unmaps. In every other case, whatever failed and whatever the page
says, the operation is the one that the caller handed in.

Main statements:

* `Call.received_takeBackEach`: what a slot holds that is taken back;
* `operations_come_back`: what the operation of a call has become, for every driver and page.
-/

namespace TeeClient

variable {σ : Type}

/-! ## Slots -/

namespace Parameter

/-- Data come back through the slot: its direction is output, be it alone or next to input. A whole
block has the directions of the block. -/
def Reports : Parameter → Prop
  | unused => False
  | value direction .. | temporary direction .. | window direction .. =>
    direction = .output ∨ direction = .inout
  | whole parent _ => parent.flags.contains .output = true

/-- What the slot held before a call, and after one that left these words. -/
structure Received (words : SlotWords) (before after : Parameter) : Prop where
  /-- Kind, direction, buffer, block and offset stay. -/
  shape : after.shape = before.shape
  /-- All else stays where no data come back. -/
  kept : ¬ before.Reports → after = before
  value : before.Reports → after.value? = before.value?.map fun _ => (words.a, words.b)
  size : before.Reports → after.size? = before.size?.map fun _ => words.outputSize.toNat

/-- The slots through which data come back are those that report. -/
theorem writesBack_iff {p : Parameter} : p.writesBack = true ↔ p.Reports := by
  have hdirection : ∀ direction : Direction,
      direction.writes = true ↔ direction = .output ∨ direction = .inout := by
    intro direction
    cases direction <;> simp [Direction.writes]
  cases p with
  | unused => exact iff_of_false nofun id
  | whole parent size => exact Iff.rfl
  | value direction | temporary direction | window direction => exact hdirection direction

/-- What a slot holds once it is taken back. -/
theorem received (p : Parameter) (words : SlotWords) :
    p.Received words (if p.writesBack then p.receive words else p) := by
  by_cases hw : p.writesBack = true
  · rw [if_pos hw]
    have hr := writesBack_iff.1 hw
    refine ⟨shape_receive words p, fun hn => absurd hr hn, fun _ => ?_, fun _ => ?_⟩
    · cases p <;> rfl
    · cases p <;> rfl
  · rw [if_neg hw]
    have hn : ¬ p.Reports := fun hr => hw (writesBack_iff.2 hr)
    exact ⟨rfl, fun _ => rfl, fun hr => absurd hr hn, fun hr => absurd hr hn⟩

end Parameter

/-! ## Slots that are taken back -/

namespace Call

variable (D : Driver σ) (channel : Channel)

variable {D channel} in
/-- A page that the driver spares while it unmaps is left alone while slots are taken back. -/
theorem unflagged_takeBackEach {P : Page → Prop} (hD : D.SparesUnmapping P) {id : PageId} {p : Page}
    (hP : P p) (copyBack : Bool) (slots : List Slot) (op : Operation) (held : Holdings)
    {w : World σ} (h : w.unflagged id = some p) :
    (takeBackEach D channel copyBack slots op held w).2.2.unflagged id = some p :=
  takeBackEach_preserves copyBack (P := fun w' => w'.unflagged id = some p) (fun _ _ h => h)
    (fun w' address info h => hD channel.handle address info w' id p h hP) slots op held h

variable {D channel} in
/-- A page that the driver spares while it unmaps is left alone while a result is collected. -/
theorem unflagged_collect {P : Page → Prop} (hD : D.SparesUnmapping P) {id : PageId} {p : Page}
    (hP : P p) (op : Option Operation) (held : Holdings) (exchanged : Bool) {w : World σ}
    (h : w.unflagged id = some p) :
    (collect D channel op held exchanged w).2.2.unflagged id = some p :=
  collect_preserves (P := fun w' => w'.unflagged id = some p) (fun _ _ h => h)
    (fun w' address info h => hD channel.handle address info w' id p h hP) h

/-- A slot that is not taken back stays as it is. -/
theorem param_takeBackEach_of_not_mem {slots : List Slot} {slot : Slot} (h : slot ∉ slots)
    (op : Operation) (held : Holdings) (w : World σ) :
    (takeBackEach D channel true slots op held w).1.param slot = op.param slot := by
  induction slots generalizing op held w with
  | nil => rfl
  | cons first rest ih =>
    rw [List.mem_cons, not_or] at h
    have hfirst : (op.taken true first ((w.page channel.page).param first)).param slot
        = op.param slot := Operation.param_taken_ne _ op h.1
    exact (ih h.2 (op.taken true first _) _ _).trans hfirst

/-- A slot that is taken back receives what its words say then, if it receives anything. -/
theorem received_takeBackEach {before after : List Slot} {slot : Slot}
    (hn : (before ++ slot :: after).Nodup) (op : Operation) (held : Holdings) (w : World σ) :
    (takeBackEach D channel true (before ++ slot :: after) op held w).1.param slot =
      if (op.param slot).writesBack then (op.param slot).receive
        (((takeBackEach D channel true before op held w).2.2.page channel.page).param slot)
      else op.param slot := by
  induction before generalizing op held w with
  | nil =>
    -- it is taken back now, and not again
    have hleft := param_takeBackEach_of_not_mem D channel (List.nodup_cons.1 hn).1
      (op.taken true slot ((w.page channel.page).param slot))
    exact (hleft _ _).trans (Operation.param_taken_self true slot _ op)
  | cons first rest ih =>
    obtain ⟨hfirst, hrest⟩ := List.nodup_cons.1 hn
    have hne : slot ≠ first := fun he => hfirst (he ▸ List.mem_append_right rest List.mem_cons_self)
    have hkept : (op.taken true first ((w.page channel.page).param first)).param slot
        = op.param slot := Operation.param_taken_ne _ op hne
    have hlater := ih hrest (op.taken true first ((w.page channel.page).param first))
    rw [hkept] at hlater
    exact hlater _ _

variable {D channel}

/-- The words of a slot in the page of the session when the slot is taken back: the slots before it
were taken back, and the driver was asked to unmap what they held. -/
def wordsTaken (D : Driver σ) (channel : Channel) (op : Operation) (held : Holdings) (w : World σ)
    (slot : Slot) : SlotWords :=
  ((takeBackEach D channel true (Slot.ascending.take slot) op held w).2.2.page
    channel.page).param slot

/-- Where the result words go together after an exchange that went well, every slot receives what it
is to receive. -/
theorem received_collect {w : World σ}
    (hspoken : (speaker? (w.page channel.page).origin (w.page channel.page).status).isSome = true)
    (op : Operation) (held : Holdings) :
    ∃ op', (collect D channel (some op) held true w).2.1 = some op' ∧
      op'.lifecycle = op.lifecycle ∧
      ∀ slot, (op.param slot).Received (wordsTaken D channel op held w slot) (op'.param slot) := by
  refine ⟨(takeBackEach D channel true Slot.ascending op held w).1, ?_,
    operation_takeBackEach (F := Operation.lifecycle) (fun _ _ _ => rfl) channel true
      Slot.ascending op held w, fun slot => ?_⟩
  · simp only [collect, hspoken, Bool.and_true]
  · have hsplit : ∀ slot : Slot, Slot.ascending
        = Slot.ascending.take slot ++ slot :: Slot.ascending.drop (slot + 1) := by decide
    have hnodup : Slot.ascending.Nodup := by decide
    have hreceived := received_takeBackEach D channel (hsplit slot ▸ hnodup) op held w
    rw [← hsplit slot] at hreceived
    rw [hreceived]
    exact Parameter.received _ _

/-- Where the result words do not go together, nothing is received. -/
theorem operation_collect_unspoken {w : World σ}
    (hspoken : (speaker? (w.page channel.page).origin (w.page channel.page).status).isSome = false)
    (op : Option Operation) (held : Holdings) (exchanged : Bool) :
    (collect D channel op held exchanged w).2.1 = op := by
  cases op with
  | none => rfl
  | some op =>
    simp only [collect, hspoken, Bool.and_false]
    exact congrArg some (operation_takeBackEach_false D channel Slot.ascending op held w)

end Call

/-! ## Calls -/

/-- What the operation of a call has become, where the call has this result and such words came
back. -/
structure Operation.Returned {α : Type} (result : Except Failure α)
    (answer : (Slot → SlotWords) → Prop) (op op' : Operation) : Prop where
  lifecycle : op'.lifecycle = op.lifecycle
  /-- Without an answer of the application nothing comes back. -/
  silent : ¬ Replied result → op' = op
  /-- With one, every slot receives what its words say. -/
  replied : Replied result → ∃ words, answer words ∧
    ∀ slot, (op.param slot).Received (words slot) (op'.param slot)

/-- More may be known of the words that came back. -/
theorem Operation.Returned.imp {α β : Type} {result : Except Failure α}
    {result' : Except Failure β} {answer answer' : (Slot → SlotWords) → Prop} {op op' : Operation}
    (h : op.Returned result answer op') (hr : Replied result' ↔ Replied result)
    (hanswer : Replied result → ∀ words, answer words → answer' words) :
    op.Returned result' answer' op' where
  lifecycle := h.lifecycle
  silent hn := h.silent fun hreplied => hn (hr.2 hreplied)
  replied hreplied :=
    have ⟨words, hwords, hreceived⟩ := h.replied (hr.1 hreplied)
    ⟨words, hanswer (hr.1 hreplied) words hwords, hreceived⟩

/-- Without an answer the operation is the one that was handed in. -/
theorem Operation.Returned.of_silence {α : Type} {result : Except Failure α}
    {answer : (Slot → SlotWords) → Prop} {op : Operation} (h : ¬ Replied result) :
    op.Returned result answer op :=
  ⟨rfl, fun _ => rfl, fun hr => absurd hr h⟩

/-- The page of a session when the answer of a round trip is in and nothing is collected yet. -/
def Trip.Answer (D : Driver σ) (t : Trip σ) (page : Page) : Prop :=
  (Call.exchange D t.channel.handle (t.filling D).2).2.pages.get? t.channel.page = some page

/-- These words came back for the slots of an operation in a round trip. They are the words of the
answer, if the page of the answer is one that the driver spares while it unmaps. -/
structure Trip.Answered (D : Driver σ) (t : Trip σ) (op : Operation) (words : Slot → SlotWords) :
    Prop where
  taken : ∃ held w, t.filling D = (.ok held, w) ∧
    words = Call.wordsTaken D t.channel op held (Call.exchange D t.channel.handle w).2
  answer : ∃ page, t.Answer D page ∧ ∀ P : Page → Prop, D.SparesUnmapping P → P page.unflagged →
    ∀ slot, words slot = page.param slot

/-- The page of the answer to a round trip still says the same in a world, if it is one that the
driver spares while it unmaps. -/
def Trip.StandsIn (D : Driver σ) (t : Trip σ) (w : World σ) : Prop :=
  ∀ page, t.Answer D page → ∀ P : Page → Prop, D.SparesUnmapping P → P page.unflagged →
    w.unflagged t.channel.page = some page.unflagged

namespace Call

variable {D : Driver σ} {channel : Channel}

/-- The application has answered exactly if the result words go together. -/
theorem replied_verdict_iff {origin : UInt32} {status : Status} :
    Replied (verdict origin status) ↔ (speaker? origin status).isSome = true := by
  unfold verdict
  cases hs : speaker? origin status with
  | none => exact iff_of_false (Replied.not_error nofun) nofun
  | some layer =>
    refine iff_of_true (fun failure hf => ?_) rfl
    simp only at hf
    split at hf
    · cases hf
    next hfailed =>
      cases hf
      exact (eq_of_speaker?_eq_some hs).2 hfailed

/-- A session that breaks was not answered by the application. -/
theorem not_replied_of_breaks {α : Type} {failure : Failure}
    (h : failure.breaksSession = true) : ¬ Replied (.error failure : Except Failure α) := by
  refine Replied.not_error fun he => ?_
  rw [Failure.breaksSession, he] at h
  cases h

/-- A round trip whose request is published ends in what is collected, and unless the session breaks
nothing else happens. -/
theorem roundTrip_collected (id : ChannelId) {instruction : Instruction} {command : UInt32}
    {op : Option Operation} {held : Holdings} {w w₁ : World σ}
    (hp : publish D channel instruction command op w = (.ok held, w₁)) :
    let e := roundTrip D id channel instruction command op w
    let exchanged := exchange D channel.handle w₁
    let collected := collect D channel op held exchanged.1.isOk exchanged.2
    e.result = answer exchanged.1 collected.1 ∧ e.operation = collected.2.1 ∧
      (Replied e.result → e.world = collected.2.2) := by
  obtain ⟨hresult, hoperation, hcase⟩ := roundTrip_of_filled id hp
  refine ⟨hresult, hoperation, fun hreplied => ?_⟩
  obtain ⟨-, hworld⟩ | ⟨failure, hfailed, hbreaks, -⟩ := hcase
  · exact hworld
  · rw [hfailed] at hreplied
    exact absurd hreplied (not_replied_of_breaks hbreaks)

/-- The words of an answer are those that come back, if the driver spares the page that they are
in. -/
theorem answered_of_filled {t : Trip σ} {op : Operation} {held : Holdings} {w : World σ}
    {page : Page} (hf : t.filling D = (.ok held, w)) (hpage : t.Answer D page) :
    t.Answered D op (wordsTaken D t.channel op held (exchange D t.channel.handle w).2) := by
  refine ⟨⟨held, w, hf, rfl⟩, page, hpage, fun P hD hP slot => ?_⟩
  rw [Trip.Answer, hf] at hpage
  obtain ⟨p, hp, hsame⟩ := Option.map_eq_some_iff.1 (unflagged_takeBackEach hD hP true
    (Slot.ascending.take slot) op held (congrArg (Option.map Page.unflagged) hpage))
  unfold wordsTaken
  rw [Shared.page_of_get? hp]
  exact (congrArg (Page.param · slot) hsame :)

/-- The page of an answer stays while the result is collected, if the driver spares it. -/
theorem standsIn_of_filled {t : Trip σ} {held : Holdings} {w : World σ}
    (hf : t.filling D = (.ok held, w)) (op : Option Operation) (exchanged : Bool) :
    t.StandsIn D (collect D t.channel op held exchanged (exchange D t.channel.handle w).2).2.2 := by
  intro page hpage P hD hP
  rw [Trip.Answer, hf] at hpage
  exact unflagged_collect hD hP op held exchanged (congrArg (Option.map Page.unflagged) hpage)

end Call

/-- What the operation that a round trip carries has become, when the round trip is over, and what
the page of the session says then. -/
theorem Trip.returned (D : Driver σ) (t : Trip σ) {op : Operation} (h : t.op = some op) :
    ∃ op', (t.carry D).operation = some op' ∧ op.Returned (t.carry D).result (fun words =>
      t.Answered D op words ∧ t.StandsIn D (t.carry D).world) op' := by
  obtain ⟨id, channel, instruction, command, _, w₀⟩ := t
  cases h
  let t : Trip σ := ⟨id, channel, instruction, command, some op, w₀⟩
  -- the lifecycle of the operation is all that changes once the round trip is over
  let e := Call.roundTrip D id channel instruction command (some op) (Call.begun id (some op) w₀)
  show ∃ op', e.operation = some op' ∧ op.Returned e.result (fun words =>
    t.Answered D op words ∧ t.StandsIn D e.world) op'
  rcases hf : t.filling D with ⟨failure | held, w⟩
  · -- no request was published, so there is no answer
    rw [show e = ⟨.error failure, some op, w⟩ from Call.roundTrip_of_unfilled id hf]
    exact ⟨op, rfl, .of_silence (Replied.not_error (Call.publish_origin (congrArg Prod.fst hf)))⟩
  have hp : Call.publish D channel instruction command (some op)
    (Call.begun id (some op) w₀) = (.ok held, w) := hf
  obtain ⟨hresult, hoperation, hworld⟩ := Call.roundTrip_collected id hp
  rw [show Call.roundTrip D id channel instruction command (some op) _ = e from rfl]
    at hresult hoperation hworld
  rw [hoperation]
  have hstands := Call.standsIn_of_filled (t := t) hf (some op) true
  rcases hx : Call.exchange D channel.handle w with ⟨failure | ⟨⟩, w₂⟩
  · -- the exchange failed, so nothing is copied
    refine ⟨op, Call.operation_collect_false D channel (some op) held w₂, .of_silence ?_⟩
    rw [hresult, hx]
    exact Call.not_replied_of_breaks (Call.exchange_breaks (congrArg Prod.fst hx))
  rw [show Call.exchange D t.channel.handle w = _ from hx] at hstands
  simp only [hx] at hresult hworld ⊢
  cases hs : (Call.speaker? (w₂.page channel.page).origin
      (w₂.page channel.page).status).isSome with
  | false =>
    -- the result words do not go together, so nothing is copied either
    refine ⟨op, Call.operation_collect_unspoken hs (some op) held true, .of_silence ?_⟩
    rw [hresult]
    exact fun hr => Bool.false_ne_true (hs.symm.trans (Call.replied_verdict_iff.1 hr))
  | true =>
    obtain ⟨op', hop, hlifecycle, hreceived⟩ := Call.received_collect hs op held
    have hreplied : Replied e.result := by
      rw [hresult]
      exact Call.replied_verdict_iff.2 hs
    refine ⟨op', hop, hlifecycle, fun hn => absurd hreplied hn, fun _ => ⟨_, ?_, hreceived⟩⟩
    -- a page that is gone would read as blank, and its result words would not go together
    cases hpage : w₂.pages.get? channel.page with
    | none =>
      unfold Shared.page at hs
      rw [hpage] at hs
      cases hs
    | some page =>
      have hanswer : t.Answer D page := by
        rw [Trip.Answer, hf, hx]
        exact hpage
      have hanswered : t.Answered D op _ := Call.answered_of_filled hf hanswer
      rw [show Call.exchange D t.channel.handle w = _ from hx] at hanswered
      rw [hworld hreplied]
      exact ⟨hanswered, hstands⟩

/-- Whatever a driver does and whatever it leaves in the page: an operation comes back from a call
as it was handed in, unless the call succeeds or fails in the name of the application. Then each
value and each reference through which data come back has the pair, or the size, that the page says
in the words of its slot when it is taken back, and all else in the operation is as before. The
words are those of the page in which the answer stood, and it says the same when the call is over,
as long as there is a session, if cancellations that the driver asks for while it unmaps leave such
a page alone. -/
theorem operations_come_back (D : Driver σ) (op : Operation) (w : World σ) :
    (∀ id command,
      let e := w.invoke D id command (some op)
      ∃ op', e.operation = some op' ∧ op.Returned e.result (fun words =>
        ∃ channel, w.channels.get? id = some channel ∧
          let t : Trip σ := ⟨id, channel, .invokeCommand, command, some op, w⟩
          t.Answered D op words ∧ t.StandsIn D e.world) op') ∧
    ∀ destination method,
      let e := w.openSession D destination method (some op)
      ∃ op', e.operation = some op' ∧ op.Returned e.result (fun words => ∃ handle w₁,
        (w.offer destination).onDesk D (D.openSession destination method.login w.pages.fresh)
          = (.ok handle, w₁) ∧
        let t : Trip σ := ⟨w₁.channels.fresh, ⟨handle, w.pages.fresh, true⟩, .openSession, 0,
          some op, w₁.adopt handle w.pages.fresh⟩
        t.Answered D op words ∧ (e.result.isOk = true → t.StandsIn D e.world)) op' := by
  refine ⟨fun id command => ?_, fun destination method => ?_⟩
  · cases hget : w.channels.get? id with
    -- the session is refused before any round trip
    | none =>
      unfold World.invoke
      simp only [hget]
      exact ⟨op, rfl, .of_silence (Replied.not_error nofun)⟩
    | some channel =>
      cases ha : channel.active with
      -- an inactive session is refused in the same way
      | false =>
        unfold World.invoke
        simp only [hget, ha]
        exact ⟨op, rfl, .of_silence (Replied.not_error nofun)⟩
      | true =>
        rw [World.invoke_of_active hget ha]
        obtain ⟨op', hop, hreturned⟩ :=
          Trip.returned D ⟨id, channel, .invokeCommand, command, some op, w⟩ rfl
        exact ⟨op', hop, hreturned.imp Iff.rfl fun _ words h => ⟨channel, rfl, h⟩⟩
  · rcases ho : (w.offer destination).onDesk D
      (D.openSession destination method.login w.pages.fresh) with ⟨fault | handle, w₁⟩
    · -- the driver did not open the session
      rw [World.openSession_of_error ho]
      exact ⟨op, rfl, .of_silence (Replied.not_error (World.openFailure_origin fault))⟩
    · let t : Trip σ := ⟨w₁.channels.fresh, ⟨handle, w.pages.fresh, true⟩, .openSession, 0, some op,
        w₁.adopt handle w.pages.fresh⟩
      have hcarry : Call.carry D w₁.channels.fresh ⟨handle, w.pages.fresh, true⟩ .openSession 0
        (some op) (w₁.adopt handle w.pages.fresh) = t.carry D := rfl
      obtain ⟨op', hop, hreturned⟩ := Trip.returned D t rfl
      rw [World.openSession_of_ok ho]
      simp only [hcarry]
      rcases hr : (t.carry D).result with failure | origin
      · -- the session is taken down and forgotten with its page
        rw [hr] at hreturned
        exact ⟨op', hop, hreturned.imp ⟨fun h f hf => h f (by cases hf; rfl),
          fun h f hf => h f (by cases hf; rfl)⟩
          fun _ words hwords => ⟨handle, w₁, rfl, hwords.1, nofun⟩⟩
      · -- the session is opened, and its page still stands
        rw [hr] at hreturned
        exact ⟨op', hop, hreturned.imp (iff_of_true nofun nofun)
          fun _ words hwords => ⟨handle, w₁, rfl, hwords.1, fun _ => hwords.2⟩⟩

end TeeClient

import TeeClient.Proofs.Publishing

/-!
# Pages that keep nothing of earlier calls

The same request is published in two worlds, in pages that need have nothing in common but the
trusted application that they are for. The drivers may be different ones, as long as they give the
same answers (`Driver.Matches`); what they have seen before may differ as well. Both pages are the
same afterwards, in every field.

Main statements:

* `World.Twins.onDesk_map`: mapping a buffer keeps the pages alike, also where the driver asks for
  cancellations;
* `Call.twins_fillEach`: filling in slots does the same in both worlds;
* `published_page_keeps_no_residue`: the same page is published.
-/

namespace TeeClient

variable {σ τ α : Type}

/-! ## Drivers that give the same answers -/

/-- The replies ask for the same cancellations and yield the same value, as long as they are told
the same. What they leave stays related by `R`. -/
inductive Reply.Matches {s t : Type} (R : s → t → Prop) : Reply s α → Reply t α → Prop
  | done (value : α) {a : s} {b : t} (related : R a b) :
    Matches R (.done value a) (.done value b)
  | cancel (token : String) {a : s} {b : t} (related : R a b)
    {resume : Option (Progress × Progress) → s → Reply s α}
    {resume' : Option (Progress × Progress) → t → Reply t α}
    (later : ∀ outcome a b, R a b → Matches R (resume outcome a) (resume' outcome b)) :
    Matches R (.cancel token a resume) (.cancel token b resume')

/-- The page with the marker and the result words of a request that has just been published. -/
def Page.renewed (p : Page) : Page :=
  (p.setTag formatTag).setResult 0 FailureKind.badState.code

/-- The desks are related, and a page in which no request is published is the same in both but for
what publishing a request writes in any case. -/
structure Shared.Twins (R : Desk σ → Desk τ → Prop) (page : PageId) (s : Shared σ) (s' : Shared τ) :
    Prop where
  desk : R s.desk s'.desk
  renewed : (s'.pages.get? page).map Page.renewed = (s.pages.get? page).map Page.renewed
  unready : ∀ p, s.pages.get? page = some p → p.ready = false

/-- Both drivers give the same answers when they are asked to map a buffer, wherever their desks are
related. If they may ask for cancellations meanwhile, a session that is notified of one does the
same in both: what it does depends on the desk and on this page, in which no request is published.
-/
structure Driver.Matches (R : Desk σ → Desk τ → Prop) (page : PageId) (D : Driver σ)
    (E : Driver τ) : Prop where
  map : ∀ handle address len access a b, R a b →
    (D.map handle address len access a).Matches R (E.map handle address len access b)
  notify : ¬ D.MapsAtOnce → ∀ handle s s', Shared.Twins R page s s' →
    (D.notify .cancellation handle s).Matches (Shared.Twins R page)
      (E.notify .cancellation handle s')
  /-- Related desks stay related when the library logs a record. -/
  log : ∀ record a b, R a b → R (a.log record) (b.log record)

/-- The client knows the same sessions, lifecycles and tokens in both worlds, and the desks are
related. Nothing is said about pages and memory. -/
structure World.Matches (R : Desk σ → Desk τ → Prop) (w : World σ) (v : World τ) : Prop where
  desk : R w.desk v.desk
  channels : v.channels = w.channels
  lifecycles : v.lifecycles = w.lifecycles
  tokens : v.tokens = w.tokens

/-- A driver that maps in one go gives the same answers when it is asked twice in the same state, so
that what follows holds of every such driver. -/
theorem Driver.MapsAtOnce.matches_self {D : Driver σ} (hD : D.MapsAtOnce) (page : PageId) :
    D.Matches Eq page D where
  map handle address len access a b hab := by
    obtain ⟨result, d', hmap⟩ := hD handle address len access a
    rw [← hab, hmap]
    exact .done result rfl
  notify hasks := absurd hD hasks
  log record a b hab := congrArg (Desk.log · record) hab

/-! ## Two worlds side by side -/

/-- The worlds match, and a page in which no request is published is the same in both but for what
publishing a request writes in any case. -/
structure World.Twins (R : Desk σ → Desk τ → Prop) (page : PageId) (w : World σ) (v : World τ) :
    Prop extends Shared.Twins R page w.toShared v.toShared where
  channels : v.channels = w.channels
  lifecycles : v.lifecycles = w.lifecycles
  tokens : v.tokens = w.tokens

/-- Requests to cancel have the same answers in both worlds. -/
def World.Answers.Match (R : Desk σ → Desk τ → Prop) (page : PageId) (answers : Answers σ)
    (answers' : Answers τ) : Prop :=
  ∀ token (w : World σ) (v : World τ), w.Twins R page v → ∃ answer w' v',
    answers token w = (answer, w') ∧ answers' token v = (answer, v') ∧ w'.Twins R page v'

namespace World.Twins

variable {R : Desk σ → Desk τ → Prop} {D : Driver σ} {E : Driver τ} {page : PageId} {w : World σ}
  {v : World τ}

/-- The same change may be made to a page of both worlds, as long as nothing is published by it. -/
theorem onPage (h : w.Twins R page v) (id : PageId) {f : Page → Page}
    (hf : ∀ p, (f p).renewed = f p.renewed) (hready : ∀ p, (f p).ready = p.ready) :
    (w.onPage id f).Twins R page (v.onPage id f) where
  desk := h.desk
  renewed := by
    show ((v.pages.modify id f).get? page).map Page.renewed
      = ((w.pages.modify id f).get? page).map Page.renewed
    rw [Arena.get?_modify, Arena.get?_modify]
    split
    · -- the change leaves alone what may differ
      have hcomm : Page.renewed ∘ f = f ∘ Page.renewed := funext hf
      rw [Option.map_map, Option.map_map, hcomm, ← Option.map_map, ← Option.map_map, h.renewed]
    · exact h.renewed
  unready p hp := by
    have hp : (w.pages.modify id f).get? page = some p := hp
    rw [Arena.get?_modify] at hp
    split at hp
    · obtain ⟨p', hp', rfl⟩ := Option.map_eq_some_iff.1 hp
      exact (hready p').trans (h.unready p' hp')
    · exact h.unready p hp
  channels := h.channels
  lifecycles := h.lifecycles
  tokens := h.tokens

/-- An operation is equally far in both worlds. -/
theorem progress_eq (h : w.Twins R page v) (id : LifecycleId) : v.progress id = w.progress id := by
  unfold World.progress
  rw [h.lifecycles]

/-- As many operations are started in one world as in the other. -/
theorem started_eq (h : w.Twins R page v) : v.started = w.started := by
  unfold World.started
  rw [h.lifecycles]

/-- What the secure world may touch may be replaced in both worlds. -/
theorem withShared (h : w.Twins R page v) {s : Shared σ} {s' : Shared τ}
    (hs : Shared.Twins R page s s') : (w.withShared s).Twins R page (v.withShared s') :=
  ⟨hs, h.channels, h.lifecycles, h.tokens⟩

/-- The desks of both worlds may be replaced. -/
theorem withDesk (h : w.Twins R page v) {a : Desk σ} {b : Desk τ} (related : R a b) :
    (w.withDesk a).Twins R page (v.withDesk b) :=
  h.withShared ⟨related, h.renewed, h.unready⟩

/-- Replies about parts of the worlds that match are carried out in the same way. -/
theorem settle {s t : Type} {Q : s → t → Prop} {answers : World.Answers σ}
    {answers' : World.Answers τ} {part : World σ → s} {part' : World τ → t}
    {update : World σ → s → World σ} {update' : World τ → t → World τ}
    (hanswers : answers.Match R page answers')
    (hpart : ∀ (w : World σ) (v : World τ), w.Twins R page v → Q (part w) (part' v))
    (hupdate : ∀ (w : World σ) (v : World τ) a b, w.Twins R page v → Q a b →
      (update w a).Twins R page (update' v b))
    {r : Reply s α} {r' : Reply t α} (hr : r.Matches Q r') (h : w.Twins R page v) :
    ∃ value w' v', World.settle answers part update r w = (value, w') ∧
      World.settle answers' part' update' r' v = (value, v') ∧ w'.Twins R page v' := by
  induction hr generalizing w v with
  | done value related => exact ⟨value, _, _, rfl, rfl, hupdate w v _ _ h related⟩
  | @cancel token a b related resume resume' later ih =>
    -- both go on with what the cancellation has left
    obtain ⟨answer, w', v', hw, hv, hworld⟩ := hanswers token _ _ (hupdate w v a b h related)
    simp only [World.settle, hw, hv]
    exact ih answer _ _ (hpart w' v' hworld) hworld

/-- The same record may be logged in both worlds. -/
theorem log (hDE : D.Matches R page E) (h : w.Twins R page v) (record : Record) :
    (w.log record).Twins R page (v.log record) :=
  h.withShared ⟨hDE.log record _ _ h.desk, h.renewed, h.unready⟩

section Asking

variable (hDE : D.Matches R page E) (hasks : ¬ D.MapsAtOnce)
include hDE hasks

section Answering

variable {answers : World.Answers σ} {answers' : World.Answers τ}
  (hanswers : answers.Match R page answers')
include hanswers

/-- A session is told to abandon its call in both worlds. -/
theorem signal (h : w.Twins R page v) (id : ChannelId) :
    (w.signal D answers id).Twins R page (v.signal E answers' id) := by
  unfold World.signal
  rw [h.channels]
  cases w.channels.get? id with
  | none => exact h.log hDE _
  | some channel =>
    dsimp only
    by_cases hactive : channel.active = true
    · have hflag := h.onPage channel.page (f := (·.setCancelled true)) (fun _ => rfl) fun _ => rfl
      obtain ⟨result, w', v', hw, hv, hnotified⟩ := settle hanswers (fun _ _ h => h.toTwins)
        (fun _ _ _ _ h hs => h.withShared hs)
        (hDE.notify hasks channel.handle _ _ hflag.toTwins) hflag
      unfold World.settleShared
      rw [if_pos hactive, if_pos hactive]
      simp only [hw, hv]
      -- the outcome only decides what is logged
      cases result with
      | ok => exact hnotified.log hDE _
      | error fault => exact (hnotified.log hDE _).log hDE _
    · rw [if_neg hactive, if_neg hactive]
      exact h.log hDE _

/-- A call is cancelled in both worlds. -/
theorem cancelWith (h : w.Twins R page v) (id : LifecycleId) :
    (w.cancelWith D answers id).Twins R page (v.cancelWith E answers' id) := by
  unfold World.cancelWith
  rw [h.lifecycles]
  have hafter : (w.onLifecycle id fun _ => ((w.lifecycles.get? id).getD .new).cancel.2).Twins R page
      (v.onLifecycle id fun _ => ((w.lifecycles.get? id).getD .new).cancel.2) :=
    ⟨h.toTwins, h.channels, congrArg (Arena.modify · id _) h.lifecycles, h.tokens⟩
  generalize ((w.lifecycles.get? id).getD .new).cancel = cancelled at hafter
  obtain ⟨outcome, after⟩ := cancelled
  match outcome with
  | .tooEarly => exact hafter.log hDE _
  | .tooLate => exact hafter.log hDE _
  | .due (some channel) => exact hafter.signal hDE hasks hanswers channel
  | .due none => exact hafter.log hDE _

/-- A request to cancel has the same answer in both worlds, if the requests that it gives rise to
have. -/
theorem match_honourWith : (World.honourWith D answers).Match R page
    (World.honourWith E answers') := by
  intro token w v h
  unfold World.honourWith
  rw [h.tokens]
  cases w.tokens.get? token with
  | none => exact ⟨none, w, v, rfl, rfl, h⟩
  | some id =>
    have hcancelled := h.cancelWith hDE hasks hanswers id
    refine ⟨_, _, _, rfl, ?_, hcancelled⟩
    dsimp only
    rw [h.progress_eq, hcancelled.progress_eq]

end Answering

/-- Requests to cancel have the same answers in both worlds, whatever they give rise to. -/
theorem match_honour : (World.honour D).Match R page (World.honour E) := by
  have hwithin : ∀ n, (World.honourWithin D n).Match R page (World.honourWithin E n) := by
    intro n
    induction n with
    | zero => exact match_honourWith hDE hasks fun _ w v h => ⟨none, w, v, rfl, rfl, h⟩
    | succ n ih => exact match_honourWith hDE hasks ih
  intro token w v h
  unfold World.honour
  rw [h.started_eq]
  exact hwithin w.started token w v h

end Asking

/-- A buffer is mapped in the same way in both worlds. -/
theorem onDesk_map (hDE : D.Matches R page E) (h : w.Twins R page v) (handle : Handle)
    (address : Address) (len : Nat) (access : Access) : ∃ result w' v',
      w.onDesk D (D.map handle address len access) = (result, w') ∧
      v.onDesk E (E.map handle address len access) = (result, v') ∧ w'.Twins R page v' := by
  have hreply := hDE.map handle address len access _ _ h.desk
  by_cases honce : D.MapsAtOnce
  · -- no cancellation is asked for, so that no session need be notified
    obtain ⟨result, d, hmap⟩ := honce handle address len access w.desk
    rw [hmap] at hreply
    generalize hmap' : E.map handle address len access v.desk = reply at hreply
    cases hreply with
    | done _ related =>
      exact ⟨result, _, _, World.onDesk_of_done hmap, World.onDesk_of_done hmap',
        h.withDesk related⟩
  · exact settle (match_honour hDE honce) (fun _ _ h => h.desk) (fun _ _ _ _ h => h.withDesk)
      hreply h

end World.Twins

/-! ## Publishing in both worlds -/

namespace Call

variable {R : Desk σ → Desk τ → Prop} {D : Driver σ} {E : Driver τ} {channel : Channel}
  {w : World σ} {v : World τ}

/-- A request is withdrawn in pages that are for the same application: what is left of them is the
same. -/
theorem twins_withdrawn (h : w.Matches R v) {p q : Page} (hp : w.pages.get? channel.page = some p)
    (hq : v.pages.get? channel.page = some q) (hdestination : q.destination = p.destination) :
    (withdrawn channel w).Twins R channel.page (withdrawn channel v) where
  desk := h.desk
  channels := h.channels
  lifecycles := h.lifecycles
  tokens := h.tokens
  unready p' hp' := by
    rw [show (withdrawn channel w).pages.get? channel.page = _ from Shared.get?_onPage hp _,
      Option.some.injEq] at hp'
    rw [← hp']
    rfl
  renewed := by
    rw [show (withdrawn channel w).pages.get? channel.page = _ from Shared.get?_onPage hp _,
      show (withdrawn channel v).pages.get? channel.page = _ from Shared.get?_onPage hq _]
    simp only [Option.map_some, Page.renewed, Page.setTag, Page.setResult, Page.clearRequest,
      Page.setReady, hdestination]

section Matching

variable (hDE : D.Matches R channel.page E)
include hDE

/-- What a slot needs is obtained in the same way, and it gets the same words. -/
theorem twins_prepare (slot : Slot) (p : Parameter) (held : Holdings)
    (h : w.Twins R channel.page v) : ∃ result held' w' v',
      prepare D channel.handle slot p held w = (result, held', w') ∧
      prepare E channel.handle slot p held v = (result, held', v') ∧
      w'.Twins R channel.page v' := by
  unfold prepare
  cases p.plan with
  | error refusal => exact ⟨_, _, _, _, rfl, rfl, h.log hDE _⟩
  | ok plan =>
    cases plan with
    | words words => exact ⟨_, _, _, _, rfl, rfl, h⟩
    | mapping address len access =>
      obtain ⟨result, w', v', hw, hv, hworld⟩ :=
        h.onDesk_map hDE channel.handle address len access
      simp only [Holdings.map, hw, hv]
      cases result with
      | error fault => exact ⟨_, _, _, _, rfl, rfl, hworld.log hDE _⟩
      | ok info => exact ⟨_, _, _, _, rfl, rfl, hworld.log hDE _⟩

/-- Slots are filled in one after the other in the same way in both worlds. -/
theorem twins_fillEach (op : Operation) (slots : List Slot) (held : Holdings)
    (h : w.Twins R channel.page v) : ∃ result held' w' v',
      fillEach D channel op slots held w = (result, held', w') ∧
      fillEach E channel op slots held v = (result, held', v') ∧
      w'.Twins R channel.page v' := by
  induction slots generalizing held w v with
  | nil => exact ⟨_, _, _, _, rfl, rfl, h⟩
  | cons slot rest ih =>
    -- both runs stop at the same slot, or neither does
    obtain ⟨result, held', w', v', hw, hv, hworld⟩ :=
      twins_prepare hDE slot (op.param slot) held h
    simp only [fillEach, hw, hv]
    cases result with
    | error failure => exact ⟨_, _, _, _, rfl, rfl, hworld⟩
    | ok words =>
      exact ih held' (hworld.onPage channel.page (f := (·.setParam slot words)) (fun _ => rfl)
        fun _ => rfl)

end Matching

/-- A page is the same in both worlds when a request has been published in it. -/
theorem get?_onPage_stamp {page : PageId} (h : w.Twins R page v) (instruction : Instruction)
    (command types : UInt32) :
    (v.onPage page (stamp instruction command types)).pages.get? page
      = (w.onPage page (stamp instruction command types)).pages.get? page := by
  -- what may still differ is written anew
  have hstamp : ∀ found : Option Page, found.map (stamp instruction command types)
      = (found.map Page.renewed).map (stamp instruction command types) := by
    intro found
    rw [Option.map_map]
    rfl
  show (v.pages.modify page _).get? page = (w.pages.modify page _).get? page
  rw [Arena.get?_modify, Arena.get?_modify, if_pos rfl, if_pos rfl, hstamp, h.renewed, ← hstamp]

/-- Publishing a request comes to the same, and the page in which it is published is the same. -/
theorem twins_publish (hDE : D.Matches R channel.page E)
    (h : (withdrawn channel w).Twins R channel.page (withdrawn channel v))
    (instruction : Instruction) (command : UInt32) (op : Option Operation) :
    let published := publish D channel instruction command op w
    let published' := publish E channel instruction command op v
    published'.1 = published.1 ∧ ∀ held, published.1 = .ok held →
      published'.2.pages.get? channel.page = published.2.pages.get? channel.page := by
  cases op with
  | none => exact ⟨rfl, fun _ _ => get?_onPage_stamp h instruction command 0⟩
  | some op =>
    obtain ⟨result, held, w', v', hw, hv, hworld⟩ := twins_fillEach hDE op Slot.ascending .none h
    simp only [publish_eq, hw, hv]
    cases result with
    | error failure => exact ⟨rfl, fun _ hok => nomatch hok⟩
    | ok =>
      dsimp only
      rw [hworld.progress_eq]
      by_cases hfinished : w'.progress op.lifecycle = .finished
      · rw [if_pos hfinished, if_pos hfinished]
        exact ⟨rfl, fun _ hok => nomatch hok⟩
      · rw [if_neg hfinished, if_neg hfinished]
        exact ⟨rfl, fun _ _ => get?_onPage_stamp hworld instruction command op.sentTypes⟩

/-- No words are sent in a slot that is unused or only takes values back. -/
theorem param_eq_zero_of_complete {instruction : Instruction} {command : UInt32}
    {op : Option Operation} {page : Page} (h : page.Complete instruction command op) {slot : Slot}
    (hempty : ∀ o, op = some o →
      o.param slot = .unused ∨ ∃ a b, o.param slot = .value .output a b) :
    page.param slot = .zero := by
  have hparams := h.params slot
  cases op with
  | none => exact hparams
  | some o =>
    obtain ⟨plan, hplan, hgives⟩ := hparams
    rcases hempty o rfl with hunused | ⟨a, b, hvalue⟩
    · rw [hunused] at hplan
      cases hplan
      exact hgives
    · rw [hvalue] at hplan
      cases hplan
      exact hgives

end Call

/-- The same request is published with drivers that give the same answers, in two pages that are for
the same application and otherwise hold anything. If it is published in one it is published in the
other, and both pages are the same then, in every field. Unless the page is written to on behalf of
a cancellation that the driver asks for on the way, what is asked is filled in, nothing has
answered, and the slots that are unused or only take values back are all zero. -/
theorem published_page_keeps_no_residue {R : Desk σ → Desk τ → Prop} {D : Driver σ} {E : Driver τ}
    {channel : Channel} (hDE : D.Matches R channel.page E) {w : World σ} {v : World τ}
    (h : w.Matches R v) {p q : Page} (hp : w.pages.get? channel.page = some p)
    (hq : v.pages.get? channel.page = some q) (hdestination : q.destination = p.destination)
    (instruction : Instruction) (command : UInt32) (op : Option Operation) :
    let published := Call.publish D channel instruction command op w
    let published' := Call.publish E channel instruction command op v
    published'.1 = published.1 ∧ ∀ held, published.1 = .ok held →
      published'.2.pages.get? channel.page = published.2.pages.get? channel.page ∧
      (D.SparesMapping (fun p => p.ready = false) →
        ∃ page, published.2.pages.get? channel.page = some page ∧
          page.ready = true ∧ page.destination = p.destination ∧
          page.Complete instruction command op ∧
          ∀ slot, (∀ o, op = some o →
            o.param slot = .unused ∨ ∃ a b, o.param slot = .value .output a b) →
            page.param slot = .zero) := by
  obtain ⟨hresult, hsame⟩ := Call.twins_publish hDE (Call.twins_withdrawn h hp hq hdestination)
    instruction command op
  refine ⟨hresult, fun held hheld => ⟨hsame held hheld, fun hspares => ?_⟩⟩
  obtain ⟨page, hpage, hready, hkept, hcomplete⟩ := Call.publish_complete hspares hp hheld
  exact ⟨page, hpage, hready, hkept, hcomplete,
    fun slot hempty => Call.param_eq_zero_of_complete hcomplete hempty⟩

/-! A page that an earlier call has left full, and one that has never been used. -/

namespace Reused

/-- A driver that numbers its mappings. -/
def device : Driver Nat := .plain fun made len => (.ok ⟨.ofNat made, .ofNat len⟩, made + 1)

/-- The driver answers in the same way whatever has been recorded. -/
theorem matches_device (page : PageId) :
    device.Matches (fun a b => b.driver = a.driver) page device where
  map _ _ _ _ := by
    rintro ⟨driver, journal⟩ ⟨driver', journal'⟩ ⟨⟩
    exact .done _ rfl
  notify _ _ _ _ related := .done _ related
  log _ _ _ related := related

/-- The session. -/
def channel : Channel := ⟨7, 0, true⟩

/-- A page with a foreign marker, a cancelled request that is still published, and a result. -/
def full : Page :=
  ⟨.replicate 8 0xff, .nil, ⟨2, 9, 0x7777, .replicate ⟨1, 2, 3⟩, true⟩, true, 4, 0xffff0009⟩

/-- A world with a page, around a driver that has made three mappings. -/
def world (p : Page) : World Nat :=
  { World.start 3 with
    pages := Arena.empty.add p
    lifecycles := Arena.empty.add (Lifecycle.new.begin 0) }

/-- A buffer to be lent, a value to be taken back, and one to be sent. -/
def operation : Operation :=
  ⟨⟨.temporary .inout (some 0) 8, .value .output 5 6, .unused, .value .input 1 2⟩, 0⟩

/-- What publishing the request comes to. -/
def published (w : World Nat) : Except Failure Holdings × World Nat :=
  Call.publish device channel .invokeCommand 5 (some operation) w

end Reused

/-- The same words are sent in both pages, although something else was recorded before. -/
theorem published_page_keeps_no_residue_reused :
    Reused.full ≠ .blank ∧ ∃ page,
      (Reused.published (Reused.world .blank)).2.pages.get? 0 = some page ∧
      (Reused.published ((Reused.world Reused.full).log .sessionGone)).2.pages.get? 0 = some page ∧
      page.request.params = ⟨⟨3, 8, 8⟩, .zero, .zero, ⟨1, 2, 0⟩⟩ := by
  obtain ⟨hsame, hcomplete⟩ := (published_page_keeps_no_residue
    (Reused.matches_device Reused.channel.page)
    (w := Reused.world .blank) (v := (Reused.world Reused.full).log .sessionGone)
    ⟨rfl, rfl, rfl, rfl⟩ (show (Reused.world .blank).pages.get? Reused.channel.page = _ from rfl)
    (show ((Reused.world Reused.full).log .sessionGone).pages.get? Reused.channel.page = _ from rfl)
    rfl .invokeCommand 5 (some Reused.operation)).2 _ rfl
  obtain ⟨page, hpage, -⟩ := hcomplete (Driver.MapsAtOnce.spares
    (fun _ _ _ _ _ => ⟨_, _, rfl⟩) _)
  refine ⟨by decide, page, hpage, hsame.trans hpage, ?_⟩
  cases hpage
  rfl

end TeeClient

import TeeClient.Proofs.Cancelling.Standing
import TeeClient.Proofs.Endings

/-!
# What a call makes of requests to cancel

The page of a session is cleared when a call begins, so nothing of an earlier call is left. A
request that is due while the slots are filled in finishes the operation; this is checked before the
request of the call is published, and the call is given up. A request that is due after that raises
the flag, which nobody lowers until the next call begins.

Main statements:

* `Call.Ready.standing`: a call begins with its flag lowered;
* `Call.Ready.withdrawn`: a call that is cancelled while it fills in its slots;
* `Call.Ready.heeds`: what becomes of all requests that a call meets.
-/

namespace TeeClient

variable {σ κ : Type} {D : Driver σ}

namespace World

/-- Where no operation is started, giving mappings back changes neither pages nor signals. -/
theorem AtRest.releaseAll {w : World (Traced σ)} (h : w.AtRest none) (handle : Handle)
    (held : Holdings) :
    (held.releaseAll (Traced.driver D) handle w).pages = w.pages ∧
      (held.releaseAll (Traced.driver D) handle w).signals = w.signals := by
  constructor
  · -- at its desk a driver does not see the pages
    have honoured : ∀ token (w' : World (Traced σ)), w'.pages = w.pages ∧ w'.AtRest none →
        (w'.honour (Traced.driver D) token).2.pages = w.pages ∧
          (w'.honour (Traced.driver D) token).2.AtRest none := by
      rintro token w' ⟨hpages, hrest⟩
      obtain ⟨journal, he⟩ := honour_of_not_due (Traced.driver D) (hrest.not_due token)
      rw [he]
      exact ⟨hpages, hrest⟩
    refine (Holdings.releaseEach_preserves (P := fun w' => w'.pages = w.pages ∧ w'.AtRest none)
      (fun _ _ _ hw => hw) (fun w' address info hw => ?_) Slot.descending ⟨rfl, h⟩).1
    unfold onDesk
    refine settle_preserves (P := fun w' => w'.pages = w.pages ∧ w'.AtRest none) ?_ honoured _ hw
    exact fun _ _ hw => hw
  · -- no request on the trail is due, and only such requests change the signals
    refine (Holdings.trail_releaseEach Slot.descending held w).preserves
      (P := fun s => s = w.signals) (fun token w' hw => ?_) rfl
    have hrest : w'.AtRest none := by
      unfold AtRest
      rw [show w'.lifecycles = w.lifecycles from congrArg Signals.lifecycles hw]
      exact h
    exact (signals_honour D (hrest.not_due token)).trans hw

end World

namespace Call

variable {id : ChannelId} {channel : Channel} {instruction : Instruction} {command : UInt32}
  {op : Option Operation}

/-! ## Where a call begins -/

/-- A call can be made on a session: it is active, it has a page, and no operation is started. -/
structure Ready (id : ChannelId) (channel : Channel) (op : Option Operation) (w : World σ) :
    Prop where
  opened : w.channels.get? id = some channel
  active : channel.active = true
  laid : ∃ p, w.pages.get? channel.page = some p
  rest : w.AtRest none
  lives : ∀ o, op = some o → w.Lives o.lifecycle

/-- A call begins with its flag lowered, whatever an earlier call has left. -/
theorem Ready.standing {w : World (Traced σ)} (h : Ready id channel op w) :
    Standing id channel (op.map Operation.lifecycle) (wakings w.driver.uses) false
      (cleared id channel op w).signals := by
  obtain ⟨p, hp⟩ := h.laid
  -- the page was cleared when the call began
  have hflag : (cleared id channel op w).flags channel.page = some false := by
    have hpages : (begun id op w).pages = w.pages := by cases op <;> rfl
    show ((Arena.modify (begun id op w).pages channel.page _).get? channel.page).map _ = _
    rw [hpages, Arena.get?_modify, if_pos rfl, hp]
    rfl
  cases op with
  | none =>
    refine ⟨h.opened, h.active, fun _ he => (by cases he), fun lifecycle l hl hp => ?_, hflag, rfl⟩
    cases h.rest lifecycle l hl hp
  | some o =>
    obtain ⟨l₀, hl₀⟩ := Option.isSome_iff_exists.1 (h.lives o rfl)
    have hget : ∀ other, (w.lifecycles.modify o.lifecycle (·.begin id)).get? other
        = if other = o.lifecycle then (w.lifecycles.get? other).map (·.begin id)
          else w.lifecycles.get? other := fun other => Arena.get?_modify _ _ other _
    refine ⟨h.opened, h.active, fun lifecycle he => ?_, fun lifecycle l hl hp => ?_, hflag, rfl⟩
    · -- the operation of the call was started when it began
      cases he
      refine ⟨l₀.begin id, (hget o.lifecycle).trans ?_, rfl⟩
      rw [if_pos rfl, hl₀]
      rfl
    · -- any other operation is as it was, so it is not started
      have hl := (hget lifecycle).symm.trans hl
      split at hl
      next he =>
        obtain ⟨l', -, rfl⟩ := Option.map_eq_some_iff.1 hl
        exact ⟨congrArg some he.symm, rfl⟩
      · cases h.rest lifecycle l hl hp

/-! ## Until the request is filled in -/

/-- A call with an operation fills in its slots in the page that was cleared. -/
theorem filling_some {D : Driver σ} (o : Operation) (w : World σ) :
    filling D id channel instruction command (some o) w =
      match fill D channel o (cleared id channel (some o) w) with
      | (.error failure, held, w) =>
        (.error failure, held.releaseAll D channel.handle (w.onPage channel.page (·.clearRequest)))
      | (.ok (), held, w) =>
        (.ok held, (w.onPage channel.page (stamp instruction command o.sentTypes)).log
          (.published instruction command held.count)) :=
  rfl

/-- A call whose request is given up led along its requests until it cleared the page again and gave
back what it held. -/
theorem trail_unfilled {w w₁ : World (Traced σ)} {failure : Failure}
    (hf : filling (Traced.driver D) id channel instruction command op w = (.error failure, w₁)) :
    ∃ (o : Operation) (held : Holdings) (w₂ : World (Traced σ)), op = some o ∧
      Trail D (cleared id channel op w)
        ((askedFilling (Traced.driver D) id channel op w).map Prod.snd) w₂ ∧
      w₁ = held.releaseAll (Traced.driver D) channel.handle
        (w₂.onPage channel.page (·.clearRequest)) ∧
      ((fillEach (Traced.driver D) channel o Slot.ascending .none (cleared id channel op w)).1
        = .error failure ∨ failure = .comms .cancel) := by
  cases op with
  -- without an operation there is nothing that could fail
  | none => cases hf
  | some o =>
    have ht := trail_fill (D := D) channel o (cleared id channel (some o) w)
    rw [filling_some] at hf
    rcases hfill : fill (Traced.driver D) channel o (cleared id channel (some o) w) with
      ⟨failure' | ⟨⟩, held, w₂⟩
    · rw [hfill] at hf ht
      cases hf
      exact ⟨o, held, w₂, rfl, ht, rfl, fill_fails (by rw [hfill])⟩
    · rw [hfill] at hf
      cases hf

/-- A call whose request is filled in led along its requests, and its operation is not finished. -/
theorem trail_filled {w w₁ : World (Traced σ)} {held : Holdings}
    (hf : filling (Traced.driver D) id channel instruction command op w = (.ok held, w₁)) :
    ∃ w₂ : World (Traced σ),
      Trail D (cleared id channel op w)
        ((askedFilling (Traced.driver D) id channel op w).map Prod.snd) w₂ ∧
      (∀ o, op = some o → w₂.progress o.lifecycle ≠ .finished) ∧ w₁.signals = w₂.signals := by
  -- what is filled in last leaves the flag
  have stamped : ∀ (w₂ : World (Traced σ)) types (r : Record),
      ((w₂.onPage channel.page (stamp instruction command types)).log r).signals = w₂.signals :=
    fun w₂ types _ => w₂.signals_onPage channel.page (f := stamp instruction command types)
      fun _ => rfl
  cases op with
  | none =>
    cases hf
    exact ⟨cleared id channel none w, .refl D _, by simp, stamped _ _ _⟩
  | some o =>
    have ht := trail_fill (D := D) channel o (cleared id channel (some o) w)
    rw [filling_some] at hf
    rcases hfill : fill (Traced.driver D) channel o (cleared id channel (some o) w) with
      ⟨failure | ⟨⟩, held', w₂⟩
    · rw [hfill] at hf
      cases hf
    · have hunfinished := unfinished_of_fill (congrArg Prod.fst hfill)
      rw [hfill] at hf ht hunfinished
      cases hf
      refine ⟨w₂, ht, fun o' he => ?_, stamped _ _ _⟩
      cases he
      exact hunfinished

/-- What is known of a call when its request is filled in: no request was due. -/
theorem Ready.filled {w w₁ : World (Traced σ)} (h : Ready id channel op w) (hD : Discreet D)
    {held : Holdings}
    (hf : filling (Traced.driver D) id channel instruction command op w = (.ok held, w₁)) :
    Standing id channel (op.map Operation.lifecycle) (wakings w.driver.uses) false w₁.signals ∧
      Trail D (cleared id channel op w)
        ((askedFilling (Traced.driver D) id channel op w).map Prod.snd) w₁ ∧
      ∀ i ∈ (askedFilling (Traced.driver D) id channel op w).map Prod.snd, ¬ i.Due := by
  obtain ⟨w₂, ht, hunfinished, hsame⟩ := trail_filled hf
  obtain ⟨told, hstanding, htold⟩ := h.standing.trail hD ht
  simp only [Bool.false_eq_true, false_or] at htold
  -- had the session been told, the operation would be finished, or there would be none
  have hfalse : told = false := by
    cases htrue : told with
    | false => rfl
    | true =>
      cases op with
      | none =>
        obtain ⟨i, hi, -⟩ := htold.1 htrue
        cases hi
      | some o =>
        obtain ⟨l, hl, hp⟩ := hstanding.carries o.lifecycle rfl
        refine absurd ?_ (hunfinished o rfl)
        unfold World.progress
        rw [show w₂.lifecycles.get? o.lifecycle = some l from hl]
        exact hp.trans (by rw [htrue]; rfl)
  subst hfalse
  refine ⟨hsame ▸ hstanding, ht.to_calm hsame, fun i hi hdue => ?_⟩
  cases htold.2 ⟨i, hi, hdue⟩

/-! ## Until the call returns -/

/-- The world when the result of a call is collected; at most the session is taken down then. -/
theorem carry_of_filled {D : Driver σ} {w w₁ : World σ} {held : Holdings}
    (hf : filling D id channel instruction command op w = (.ok held, w₁)) :
    let exchanged := exchange D channel.handle w₁
    let collected := collect D channel op held exchanged.1.isOk exchanged.2
    let e := carry D id channel instruction command op w
    e.world = ended op e.result collected.2.2 ∨
      ∃ r, e.world = ended op e.result ((collected.2.2.log r).teardown D id) := by
  simp only [carry_eq]
  have hpub : publish D channel instruction command op (begun id op w) = (.ok held, w₁) := hf
  obtain ⟨-, -, ⟨-, hworld⟩ | ⟨failure, -, -, hworld⟩⟩ := roundTrip_of_filled id hpub
  · exact .inl (congrArg (ended op _) hworld)
  · exact .inr ⟨_, congrArg (ended op _) hworld⟩

/-- The end of a call leaves flags and wake-ups, even if it takes the session down. -/
theorem Standing.ended {carried : Option LifecycleId} {before : List Handle} {told : Bool}
    {w₂ w' : World (Traced σ)} {result : Except Failure Origin}
    (h : Standing id channel carried before told w₂.signals)
    (he : w' = Call.ended op result w₂ ∨
      ∃ r, w' = Call.ended op result ((w₂.log r).teardown (Traced.driver D) id)) :
    w'.flags = w₂.flags ∧ wakings w'.driver.uses = wakings w₂.driver.uses := by
  have hflags : ∀ w : World (Traced σ), (Call.ended op result w).flags = w.flags := by
    intro w
    unfold Shared.flags
    rw [pages_ended]
  rcases he with rfl | ⟨r, rfl⟩
  · exact ⟨hflags w₂, by rw [driver_ended]⟩
  · have hlogged : Standing id channel carried before told (w₂.log r).signals := h
    obtain ⟨hdown, hwakings⟩ := hlogged.teardown (D := D)
    exact ⟨(hflags _).trans hdown, by rw [driver_ended]; exact hwakings⟩

/-- A call whose request is given up returns the failure. -/
theorem carry_of_unfilled {D : Driver σ} {w w₁ : World σ} {failure : Failure}
    (hf : filling D id channel instruction command op w = (.error failure, w₁)) :
    carry D id channel instruction command op w
      = ⟨.error failure, op, ended op (.error failure) w₁⟩ := by
  have hpub : publish D channel instruction command op (begun id op w) = (.error failure, w₁) := hf
  rw [carry_eq, roundTrip_of_unfilled id hpub]

/-- A call whose request is filled in leads along its later requests to its result. -/
theorem trail_answering (hD : Discreet D) {w w₁ : World (Traced σ)} {held : Holdings}
    (hf : filling (Traced.driver D) id channel instruction command op w = (.ok held, w₁)) :
    Trail D w₁ (askedAnswering (Traced.driver D) id channel instruction command op w)
      (collect (Traced.driver D) channel op held
        (exchange (Traced.driver D) channel.handle w₁).1.isOk
        (exchange (Traced.driver D) channel.handle w₁).2).2.2 := by
  unfold askedAnswering
  rw [hf]
  exact (trail_exchange hD w₁).append (trail_collect op held _ _)

/-- All requests that a call meets lie on one trail. -/
theorem exists_trail (hD : Discreet D) (instruction : Instruction) (command : UInt32)
    {w : World (Traced σ)} (h : Ready id channel op w) :
    ∃ w', Trail D (cleared id channel op w)
      (asked (Traced.driver D) id channel instruction command op w) w' := by
  unfold asked
  rcases hf : filling (Traced.driver D) id channel instruction command op w with
    ⟨failure | held, w₁⟩
  · obtain ⟨o, held, w₂, -, ht, -, -⟩ := trail_unfilled hf
    have hnone : askedAnswering (Traced.driver D) id channel instruction command op w = [] := by
      unfold askedAnswering
      rw [hf]
    rw [hnone, List.append_nil]
    exact ⟨w₂, ht⟩
  · exact ⟨_, (h.filled hD hf).2.1.append (trail_answering hD hf)⟩

/-! ## What becomes of the requests -/

/-- A call was cancelled while it filled in a slot: it failed, at that slot or a later one or
because it was cancelled; nothing has run, nothing is left in the page, nothing is mapped, and the
session can still carry calls. -/
structure Withdrawn (D : Driver σ) (secure : σ → SecureWorld κ) (id : ChannelId) (channel : Channel)
    (op : Option Operation) (slot : Slot) (w : World σ) (result : Except Failure Origin)
    (w' : World σ) : Prop where
  fails : result = .error (.comms .cancel) ∨ ∃ o later failure, op = some o ∧ slot ≤ later ∧
    FailsAt D channel o later failure (cleared id channel op w) ∧ result = .error failure
  runs : (secure w'.driver).runs = (secure w.driver).runs
  request : (w'.page channel.page).request = .zero
  unready : (w'.page channel.page).ready = false
  unmapped : (secure w'.driver).liveMappings = 0
  opened : w'.channels.get? id = some channel
  active : channel.active = true

/-- What becomes of the requests to cancel that a call meets. -/
structure Heeds (D : Driver (Traced σ)) (secure : Traced σ → SecureWorld κ) (id : ChannelId)
    (channel : Channel) (instruction : Instruction) (command : UInt32) (op : Option Operation)
    (w : World (Traced σ)) (result : Except Failure Origin) (w' : World (Traced σ)) : Prop where
  /-- A request finds the flag raised exactly if an earlier one of the same call was due. -/
  flagged : ∀ first i rest, asked D id channel instruction command op w = first ++ i :: rest →
    ((i.world.page channel.page).request.cancelled = true ↔ ∃ j ∈ first, j.Due)
  /-- Only the first that is due is due, and it tells the session. -/
  told : ∀ first i rest, asked D id channel instruction command op w = first ++ i :: rest → i.Due →
    (∀ j ∈ first, ¬ j.Due) ∧ ∃ lifecycle, i.world.tokens.get? i.token = some lifecycle ∧
      Tells D lifecycle channel i.world (i.after D)
  /-- A request that is due is the only one that wakes a session. -/
  woken : (∃ i ∈ asked D id channel instruction command op w, i.Due) →
    wakings w'.driver.uses = channel.handle :: wakings w.driver.uses
  /-- A request that is due before that of the call is filled in withdraws the call. -/
  withdrawn : ∀ slot i, (slot, i) ∈ askedFilling D id channel op w → i.Due →
    Withdrawn D secure id channel op slot w result w'
  /-- The request is published with the flag lowered, and the flag is raised in the end exactly if
  one was due since. If none was, no session was woken. -/
  published : ∀ held w₁, filling D id channel instruction command op w = (.ok held, w₁) →
    (w₁.page channel.page).request.cancelled = false ∧
    ((w'.page channel.page).request.cancelled = true ↔
      ∃ i ∈ askedAnswering D id channel instruction command op w, i.Due) ∧
    ((w'.page channel.page).request.cancelled = false →
      wakings w'.driver.uses = wakings w.driver.uses)

namespace Ready

variable {w : World (Traced σ)} (h : Ready id channel op w)
include h

/-- The signals when a call whose request was filled in has returned. -/
theorem answered (hD : Discreet D) {held : Holdings} {w₁ : World (Traced σ)}
    (hf : filling (Traced.driver D) id channel instruction command op w = (.ok held, w₁)) :
    let w' := (carry (Traced.driver D) id channel instruction command op w).world
    ∃ told, w'.flags channel.page = some told ∧
      wakings w'.driver.uses = (if told then channel.handle :: wakings w.driver.uses
        else wakings w.driver.uses) ∧
      (told = true ↔
        ∃ i ∈ askedAnswering (Traced.driver D) id channel instruction command op w, i.Due) := by
  obtain ⟨told, hend, htold⟩ := (h.filled hD hf).1.trail hD (trail_answering hD hf)
  simp only [Bool.false_eq_true, false_or] at htold
  have hended := carry_of_filled hf
  simp only at hended
  obtain ⟨hflags, hwakings⟩ := hend.ended hended
  refine ⟨told, ?_, ?_, htold⟩
  · rw [hflags]
    exact hend.flag
  · rw [hwakings]
    exact hend.woken

/-- A call that is cancelled while it fills in its slots clears the page for good. -/
theorem unfilled (hD : Discreet D) {failure : Failure} {w₁ : World (Traced σ)}
    (hf : filling (Traced.driver D) id channel instruction command op w = (.error failure, w₁))
    (hdue : ∃ i ∈ (askedFilling (Traced.driver D) id channel op w).map Prod.snd, i.Due) :
    (w₁.page channel.page).request = .zero ∧
      wakings w₁.driver.uses = channel.handle :: wakings w.driver.uses := by
  obtain ⟨o, held, w₂, -, ht, rfl, -⟩ := trail_unfilled hf
  obtain ⟨told, hstanding, htold⟩ := h.standing.trail hD ht
  rw [htold.2 (.inr hdue)] at hstanding
  -- the operation of the call is finished, so no request is due any more
  have hrest : (w₂.onPage channel.page (·.clearRequest)).AtRest none := by
    intro lifecycle l hl hp
    obtain ⟨hcarried, -⟩ := hstanding.others lifecycle l hl hp
    obtain ⟨l', hl', hp'⟩ := hstanding.carries lifecycle hcarried
    rw [Option.some.inj (hl.symm.trans hl'), hp'] at hp
    cases hp
  obtain ⟨hpages, hsignals⟩ := hrest.releaseAll (D := D) channel.handle held
  obtain ⟨p, hp, -⟩ := Option.map_eq_some_iff.1 hstanding.flag
  constructor
  · have hcleared : (held.releaseAll (Traced.driver D) channel.handle
        (w₂.onPage channel.page (·.clearRequest))).pages.get? channel.page
          = some p.clearRequest := by
      rw [hpages]
      exact Shared.get?_onPage hp (·.clearRequest)
    exact congrArg (·.request) (Shared.page_of_get? hcleared)
  · exact (congrArg Signals.wakings hsignals).trans hstanding.woken

variable {secure : Traced σ → SecureWorld κ} (hosts : Hosts (Traced.driver D) secure)
  (hacc : w.Accorded secure)

include hosts hacc in
/-- A call whose request is given up leaves nothing published. -/
theorem unready {failure : Failure} {w₁ : World (Traced σ)}
    (hf : filling (Traced.driver D) id channel instruction command op w = (.error failure, w₁)) :
    (w₁.page channel.page).ready = false := by
  obtain ⟨p, hp⟩ := h.laid
  have hpub := publish_scene hosts channel instruction command op (begun id op w)
    (by rw [scene_begun]; exact hacc.unready)
  rw [show publish (Traced.driver D) channel instruction command op (begun id op w) = _ from hf,
    scene_begun] at hpub
  obtain ⟨-, f, hready, hscene⟩ := hpub
  have hpage : (w₁.scene secure).pages channel.page = some (f p.unflagged) := by
    rw [hscene]
    show (if channel.page = channel.page then _ else _) = _
    rw [if_pos rfl, show (w.scene secure).pages channel.page = some p.unflagged from
      congrArg (Option.map Page.unflagged) hp]
    rfl
  exact (congrArg Page.ready (World.page_of_scene hpage)).trans (hready p.unflagged).1

variable (hunmapped : (secure
    (carry (Traced.driver D) id channel instruction command op w).world.driver).liveMappings = 0)
include hosts hacc hunmapped

/-- A request that is due while a call fills in its slots withdraws the call. -/
theorem withdrawn (hD : Discreet D) {slot : Slot} {i : Interruption (Traced σ)}
    (hi : (slot, i) ∈ askedFilling (Traced.driver D) id channel op w) (hdue : i.Due) :
    let e := carry (Traced.driver D) id channel instruction command op w
    Withdrawn (Traced.driver D) secure id channel op slot w e.result e.world := by
  have hasked : i ∈ (askedFilling (Traced.driver D) id channel op w).map Prod.snd :=
    List.mem_map.2 ⟨(slot, i), hi, rfl⟩
  rcases hf : filling (Traced.driver D) id channel instruction command op w with
    ⟨failure | held, w₁⟩
  · obtain ⟨hzero, -⟩ := h.unfilled hD hf ⟨i, hasked, hdue⟩
    have hunready := h.unready hosts hacc hf
    have hruns := ((once_of_unfilled hosts hacc .any h.opened hf).1.unfilled failure (by rw [hf])).2
    have hchannels : w₁.channels = w.channels := by
      have := channels_filling (D := Traced.driver D) id channel instruction command op w
      rwa [hf] at this
    -- the call ends with the failure, which changes neither page nor driver
    have hpage : ∀ result, (ended op result w₁).page channel.page = w₁.page channel.page := by
      intro result
      unfold Shared.page
      rw [pages_ended]
    rw [carry_of_unfilled hf] at hunmapped ⊢
    refine ⟨?_, ?_, ?_, ?_, hunmapped, ?_, h.active⟩
    · -- the failure of a later slot comes before the check, but not that of an earlier one
      obtain ⟨o, held, w₂, rfl, -, -, hwhy⟩ := trail_unfilled hf
      rcases hwhy with hfails | rfl
      · obtain ⟨later, hat, hle⟩ := failsAt_of_fillEach hfails
        exact .inr ⟨o, later, failure, rfl, hle (slot, i) hi, hat, rfl⟩
      · exact .inl rfl
    · simp only [driver_ended]
      exact hruns
    · simp only [hpage]
      exact hzero
    · simp only [hpage]
      exact hunready
    · simp only [channels_ended, hchannels]
      exact h.opened
  · exact absurd hdue ((h.filled hD hf).2.2 i hasked)

/-- What becomes of all requests that a call meets. -/
theorem heeds (hD : Discreet D) :
    let e := carry (Traced.driver D) id channel instruction command op w
    Heeds (Traced.driver D) secure id channel instruction command op w e.result e.world := by
  obtain ⟨w', ht⟩ := exists_trail hD instruction command h
  refine ⟨fun first i rest he => ?_, fun first i rest he hdue => ?_, ?_,
    fun slot i hi hdue => h.withdrawn hosts hacc hunmapped hD hi hdue, fun held w₁ hf => ?_⟩
  · rw [he] at ht
    exact (h.standing.found hD ht).1
  · rw [he] at ht
    exact (h.standing.found hD ht).2 hdue
  · rintro ⟨i, hi, hdue⟩
    rcases hf : filling (Traced.driver D) id channel instruction command op w with
      ⟨failure | held, w₁⟩
    · have hnone : askedAnswering (Traced.driver D) id channel instruction command op w = [] := by
        unfold askedAnswering
        rw [hf]
      unfold asked at hi
      rw [hnone, List.append_nil] at hi
      rw [carry_of_unfilled hf, driver_ended]
      exact (h.unfilled hD hf ⟨i, hi, hdue⟩).2
    · obtain ⟨told, -, hwoken, htold⟩ := h.answered hD hf
      -- nothing was due before, so it was due since
      rcases List.mem_append.1 hi with hi | hi
      · exact absurd hdue ((h.filled hD hf).2.2 i hi)
      · rw [hwoken, if_pos (htold.2 ⟨i, hi, hdue⟩)]
  · obtain ⟨told, hflag, hwoken, htold⟩ := h.answered hD hf
    rw [Shared.cancelled_of_flags hflag]
    refine ⟨Shared.cancelled_of_flags (h.filled hD hf).1.flag, htold, fun hlowered => ?_⟩
    rw [hwoken, hlowered]
    rfl

end Ready

end Call

end TeeClient

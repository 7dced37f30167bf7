import TeeClient.Proofs.Cancelling
import TeeClient.Proofs.Once.Calls

/-!
# The requests to cancel that a call meets

Requests are made while a call maps buffers for its slots (`Call.askedFilling`), and when its
request is published, while it waits for the answer and gives the mappings back
(`Call.askedAnswering`). These lists follow the parts of the call; each part leads along its list.

Main statements:

* `Call.trail_fillEach`, `Call.trail_exchange` and `Call.trail_collect`: the parts of a call lead
  along the requests that are listed for them;
* `Call.fillEach_fails`: where filling in ends when it fails.
-/

namespace TeeClient

variable {σ : Type}

/-! ## The lists -/

namespace Holdings

variable (D : Driver σ)

/-- The requests that are made while the mapping of a slot is given back. -/
def releaseAsked (handle : Handle) (slot : Slot) (held : Holdings) (w : World σ) :
    List (Interruption σ) :=
  match held.get slot with
  | Option.none => []
  | some mapping => w.askedOnDesk D (D.unmap handle mapping.address mapping.info)

/-- The requests that are made while the mappings of some slots are given back. -/
def releaseEachAsked (handle : Handle) : List Slot → Holdings → World σ → List (Interruption σ)
  | [], _, _ => []
  | slot :: rest, held, w =>
    held.releaseAsked D handle slot w ++ releaseEachAsked handle rest
      (held.release D handle slot w).1 (held.release D handle slot w).2

end Holdings

namespace Call

variable (D : Driver σ)

/-- The requests that are made while a slot is prepared. -/
def prepareAsked (handle : Handle) (p : Parameter) (w : World σ) : List (Interruption σ) :=
  match p.plan with
  | .ok (.mapping address len access) => w.askedOnDesk D (D.map handle address len access)
  | _ => []

/-- The requests that are made while some slots are filled in, each with its slot. -/
def fillEachAsked (channel : Channel) (op : Operation) :
    List Slot → Holdings → World σ → List (Slot × Interruption σ)
  | [], _, _ => []
  | slot :: rest, held, w =>
    (prepareAsked D channel.handle (op.param slot) w).map (Prod.mk slot) ++
      match prepare D channel.handle slot (op.param slot) held w with
      | (.error _, _, _) => []
      | (.ok words, held, w) =>
        fillEachAsked channel op rest held (w.onPage channel.page (·.setParam slot words))

/-- The requests that are made while a call waits for its answer. -/
def exchangeAsked (handle : Handle) (w : World σ) : List (Interruption σ) :=
  w.askedOnShared D (D.notify .call handle) ++
    match w.onShared D (D.notify .call handle) with
    | (.error _, _) => []
    | (.ok (), w) =>
      w.askedOnShared D (D.wait handle none) ++
        match w.onShared D (D.wait handle none) with
        | (.error .infoNotification, w) => w.askedOnDesk D (D.errorCode handle)
        | _ => []

/-- The requests that are made while some slots are taken back. -/
def takeBackEachAsked (channel : Channel) :
    List Slot → Holdings → World σ → List (Interruption σ)
  | [], _, _ => []
  | slot :: rest, held, w =>
    let words := (w.page channel.page).param slot
    let w :=
      if (held.get slot).isSome != (words.mappedLen != 0) then w.log (.markerMismatch slot) else w
    held.releaseAsked D channel.handle slot w ++ takeBackEachAsked channel rest
      (held.release D channel.handle slot w).1 (held.release D channel.handle slot w).2

/-- The requests that are made while the result is collected. -/
def collectAsked (channel : Channel) (op : Option Operation) (held : Holdings) (exchanged : Bool)
    (w : World σ) : List (Interruption σ) :=
  let consistent := (speaker? (w.page channel.page).origin (w.page channel.page).status).isSome
  match op with
  | none => held.releaseEachAsked D channel.handle Slot.descending w
  | some op =>
    let taken := takeBackEach D channel (exchanged && consistent) Slot.ascending op held w
    takeBackEachAsked D channel Slot.ascending held w ++
      taken.2.1.releaseEachAsked D channel.handle Slot.descending taken.2.2

/-- The world in which a call starts to fill in its slots: the page holds no request. -/
def cleared (id : ChannelId) (channel : Channel) (op : Option Operation) (w : World σ) : World σ :=
  (begun id op w).onPage channel.page fun p => (p.setReady false).clearRequest

/-- The requests that are made while a call fills in its own request, each with the slot that is
being filled. -/
def askedFilling (id : ChannelId) (channel : Channel) (op : Option Operation) (w : World σ) :
    List (Slot × Interruption σ) :=
  match op with
  | none => []
  | some o => fillEachAsked D channel o Slot.ascending .none (cleared id channel op w)

/-- The requests that are made between the publication of a call's own request and its result. -/
def askedAnswering (id : ChannelId) (channel : Channel) (instruction : Instruction)
    (command : UInt32) (op : Option Operation) (w : World σ) : List (Interruption σ) :=
  match filling D id channel instruction command op w with
  | (.error _, _) => []
  | (.ok held, w) =>
    let exchanged := exchange D channel.handle w
    exchangeAsked D channel.handle w ++
      collectAsked D channel op held exchanged.1.isOk exchanged.2

/-- The requests to cancel that a call meets. Those that come too late to withdraw a call that has
failed already, while it gives its mappings back, are not among them: the flag that they raise is
lowered again when the next call begins. -/
def asked (id : ChannelId) (channel : Channel) (instruction : Instruction) (command : UInt32)
    (op : Option Operation) (w : World σ) : List (Interruption σ) :=
  (askedFilling D id channel op w).map Prod.snd ++
    askedAnswering D id channel instruction command op w

/-! ## Where filling in fails -/

/-- The slots before this one are filled in, and the call fails when it prepares this one. -/
def FailsAt (channel : Channel) (op : Operation) (slot : Slot) (failure : Failure) (w : World σ) :
    Prop :=
  ∃ held w', fillEach D channel op (Slot.ascending.take slot) .none w = (.ok (), held, w') ∧
    (prepare D channel.handle slot (op.param slot) held w').1 = .error failure

variable {D} {channel : Channel} {op : Operation}

/-- Where filling in ends when it fails: no request was made in a later slot. -/
theorem fillEach_fails {slots : List Slot} {held : Holdings} {w : World σ} {failure : Failure}
    (h : (fillEach D channel op slots held w).1 = .error failure) :
    ∃ before slot after held' w', slots = before ++ slot :: after ∧
      fillEach D channel op before held w = (.ok (), held', w') ∧
      (prepare D channel.handle slot (op.param slot) held' w').1 = .error failure ∧
      ∀ p ∈ fillEachAsked D channel op slots held w, p.1 ∈ before ++ [slot] := by
  induction slots generalizing held w with
  | nil => cases h
  | cons slot rest ih =>
    -- the requests of one slot carry that slot
    have hhere : ∀ p ∈ (prepareAsked D channel.handle (op.param slot) w).map (Prod.mk slot),
        p.1 = slot := by
      intro p hp
      obtain ⟨i, -, rfl⟩ := List.mem_map.1 hp
      rfl
    unfold fillEach at h
    rcases hprepared : prepare D channel.handle slot (op.param slot) held w with
      ⟨failure' | words, held', w'⟩
    · rw [hprepared] at h
      -- this slot fails, and filling in ends
      cases h
      refine ⟨[], slot, rest, held, w, rfl, rfl, by rw [hprepared], fun p hp => ?_⟩
      simp only [fillEachAsked, hprepared, List.append_nil] at hp
      rw [hhere p hp]
      exact List.mem_singleton_self slot
    · rw [hprepared] at h
      -- this slot is filled in, and a later one fails
      obtain ⟨before, slot', after, held₁, w₁, rfl, hfilled, hfails, hasked⟩ := ih h
      refine ⟨slot :: before, slot', after, held₁, w₁, rfl, ?_, hfails, fun p hp => ?_⟩
      · unfold fillEach
        rw [hprepared]
        exact hfilled
      · simp only [fillEachAsked, hprepared, List.mem_append] at hp
        rcases hp with hp | hp
        · rw [hhere p hp]
          exact List.mem_cons_self
        · exact List.mem_cons_of_mem slot (hasked p hp)

/-- The slots that come before one in ascending order are the smaller ones. -/
theorem before_of_ascending {before after : List Slot} {slot : Slot}
    (h : Slot.ascending = before ++ slot :: after) :
    before = Slot.ascending.take slot ∧ ∀ other ∈ before ++ [slot], other ≤ slot := by
  have hlength : before.length < 4 := by
    have := congrArg List.length h
    rw [List.length_append, List.length_cons] at this
    simp only [Slot.ascending, List.length_cons, List.length_nil] at this
    omega
  -- each slot stands where its number says
  have hplace : ∀ n (hn : n < 4), Slot.ascending[n]? = some ⟨n, hn⟩ := by decide
  have hslot : slot = ⟨before.length, hlength⟩ := by
    have := hplace before.length hlength
    rw [h, List.getElem?_append_right (Nat.le_refl _), Nat.sub_self] at this
    exact Option.some.inj this
  have hbefore : before = Slot.ascending.take slot := by
    rw [hslot, h]
    exact List.take_left.symm
  refine ⟨hbefore, fun other hm => ?_⟩
  rw [hbefore] at hm
  exact (show ∀ slot : Slot, ∀ other ∈ Slot.ascending.take slot ++ [slot], other ≤ slot by decide)
    slot other hm

/-- A failure to fill in all slots is that of some slot, and no request was made in a later one. -/
theorem failsAt_of_fillEach {w : World σ} {failure : Failure}
    (h : (fillEach D channel op Slot.ascending .none w).1 = .error failure) :
    ∃ slot, FailsAt D channel op slot failure w ∧
      ∀ p ∈ fillEachAsked D channel op Slot.ascending .none w, p.1 ≤ slot := by
  obtain ⟨before, slot, after, held, w', hslots, hfilled, hfails, hasked⟩ := fillEach_fails h
  obtain ⟨rfl, hle⟩ := before_of_ascending hslots
  exact ⟨slot, ⟨held, w', hfilled, hfails⟩, fun p hp => hle _ (hasked p hp)⟩

/-- Filling in all slots fails as one of them does, or because the operation is finished. -/
theorem fill_fails {w : World σ} {failure : Failure}
    (h : (fill D channel op w).1 = .error failure) :
    (fillEach D channel op Slot.ascending .none w).1 = .error failure ∨
      failure = .comms .cancel := by
  unfold fill at h
  split at h
  next failure' held w' he =>
    cases h
    exact .inl (by rw [he])
  · split at h
    · cases h
      exact .inr rfl
    · cases h

/-- When all slots are filled in the operation is not finished. -/
theorem unfinished_of_fill {w : World σ} (h : (fill D channel op w).1 = .ok ()) :
    (fill D channel op w).2.2.progress op.lifecycle ≠ .finished := by
  unfold fill at h ⊢
  split at h
  · cases h
  · split at h
    · cases h
    next hnot =>
      rw [if_neg hnot]
      exact hnot

end Call

/-! ## The parts lead along their lists -/

section Trails

variable {D : Driver σ}

/-- Log records are no signals. -/
@[simp] theorem World.signals_log (w : World (Traced σ)) (r : Record) :
    (w.log r).signals = w.signals := rfl

/-- A change to a page that leaves its flag is no signal. -/
theorem World.signals_onPage (w : World (Traced σ)) (id : PageId) {f : Page → Page}
    (hf : ∀ p, (f p).request.cancelled = p.request.cancelled) :
    (w.onPage id f).signals = w.signals :=
  congrArg (Signals.mk w.channels w.lifecycles w.tokens · (wakings w.driver.uses))
    (Shared.flags_onPage fun p _ => hf p)

namespace Holdings

variable {handle : Handle}

/-- Giving a mapping back leads along its requests. -/
theorem trail_release (slot : Slot) (held : Holdings) (w : World (Traced σ)) :
    Trail D w (held.releaseAsked (Traced.driver D) handle slot w)
      (held.release (Traced.driver D) handle slot w).2 := by
  unfold releaseAsked release
  cases held.get slot with
  | none => exact .refl D w
  | some mapping =>
    have ht := trail_unmap D handle w mapping.address mapping.info
    simp only
    generalize w.onDesk (Traced.driver D) _ = unmapped at ht
    obtain ⟨e | ⟨⟩, w'⟩ := unmapped
    · exact ht.to_calm rfl
    · exact ht

/-- Giving several mappings back leads along their requests. -/
theorem trail_releaseEach (slots : List Slot) (held : Holdings) (w : World (Traced σ)) :
    Trail D w (held.releaseEachAsked (Traced.driver D) handle slots w)
      (held.releaseEach (Traced.driver D) handle slots w) := by
  induction slots generalizing held w with
  | nil => exact .refl D w
  | cons slot rest ih => exact (trail_release slot held w).append (ih _ _)

end Holdings

namespace Call

variable {channel : Channel} {handle : Handle}

/-- Preparing a slot leads along its requests. -/
theorem trail_prepare (slot : Slot) (p : Parameter) (held : Holdings) (w : World (Traced σ)) :
    Trail D w (prepareAsked (Traced.driver D) handle p w)
      (prepare (Traced.driver D) handle slot p held w).2.2 := by
  unfold prepareAsked prepare
  rcases p.plan with refusal | words | ⟨address, len, access⟩
  · exact .calm rfl
  · exact .refl D w
  · have ht := trail_map D handle w address len access
    simp only [Holdings.map]
    generalize w.onDesk (Traced.driver D) _ = mapped at ht
    obtain ⟨e | info, w'⟩ := mapped
    · exact ht.to_calm rfl
    · exact ht.to_calm rfl

/-- Filling in slots leads along the requests that are made meanwhile. -/
theorem trail_fillEach (channel : Channel) (op : Operation) (slots : List Slot) (held : Holdings)
    (w : World (Traced σ)) :
    Trail D w ((fillEachAsked (Traced.driver D) channel op slots held w).map Prod.snd)
      (fillEach (Traced.driver D) channel op slots held w).2.2 := by
  induction slots generalizing held w with
  | nil => exact .refl D w
  | cons slot rest ih =>
    unfold fillEachAsked fillEach
    rw [List.map_append, List.map_map,
      show (Prod.snd ∘ Prod.mk slot : Interruption (Traced σ) → _) = id from rfl, List.map_id]
    refine .append (trail_prepare slot (op.param slot) held w) ?_
    generalize prepare (Traced.driver D) channel.handle slot (op.param slot) held w = prepared
    obtain ⟨failure | words, held', w'⟩ := prepared
    · exact .refl D w'
    · have hpage := w'.signals_onPage channel.page (f := (·.setParam slot words)) fun _ => rfl
      exact .of_calm hpage (ih held' _)

/-- Filling in all slots leads along the requests that are made meanwhile. -/
theorem trail_fill (channel : Channel) (op : Operation) (w : World (Traced σ)) :
    Trail D w ((fillEachAsked (Traced.driver D) channel op Slot.ascending .none w).map Prod.snd)
      (fill (Traced.driver D) channel op w).2.2 := by
  have ht := trail_fillEach (D := D) channel op Slot.ascending .none w
  unfold fill
  generalize fillEach (Traced.driver D) channel op Slot.ascending .none w = filled at ht
  obtain ⟨failure | ⟨⟩, held, w'⟩ := filled
  · exact ht
  · simp only
    split
    · exact ht.to_calm rfl
    · exact ht

/-- The exchange leads along the requests that are made meanwhile. -/
theorem trail_exchange (hD : Discreet D) (w : World (Traced σ)) :
    Trail D w (exchangeAsked (Traced.driver D) handle w)
      (exchange (Traced.driver D) handle w).2 := by
  unfold exchangeAsked exchange
  refine .append (trail_notify handle w hD) ?_
  generalize w.onShared (Traced.driver D) ((Traced.driver D).notify .call handle) = notified
  obtain ⟨e | ⟨⟩, w₁⟩ := notified
  · exact .calm (w₁.signals_log _)
  simp only
  -- the notification succeeded, so the call waits
  refine .append (trail_wait handle w₁ hD none) ?_
  generalize w₁.onShared (Traced.driver D) ((Traced.driver D).wait handle none) = waited
  obtain ⟨e | ⟨⟩, w₂⟩ := waited
  · cases e with
    | infoNotification =>
      -- the wait ends with word of an exit, of which the code is asked for
      have hcode := trail_errorCode D handle w₂
      simp only [classify]
      generalize w₂.onDesk (Traced.driver D) _ = answered at hcode
      obtain ⟨e | code, w₃⟩ := answered
      · exact hcode.to_calm rfl
      · exact hcode.to_calm rfl
    | _ => exact .calm (w₂.signals_log _)
  · exact .refl D w₂

/-- Taking slots back leads along the requests that are made meanwhile. -/
theorem trail_takeBackEach (copyBack : Bool) (slots : List Slot) (op : Operation)
    (held : Holdings) (w : World (Traced σ)) :
    Trail D w (takeBackEachAsked (Traced.driver D) channel slots held w)
      (takeBackEach (Traced.driver D) channel copyBack slots op held w).2.2 := by
  induction slots generalizing op held w with
  | nil => exact .refl D w
  | cons slot rest ih =>
    unfold takeBackEachAsked takeBackEach
    simp only
    refine .append (.of_calm ?_ (Holdings.trail_release slot held _)) (ih _ _ _)
    split <;> rfl

/-- Collecting the result leads along the requests that are made meanwhile. -/
theorem trail_collect (op : Option Operation) (held : Holdings) (exchanged : Bool)
    (w : World (Traced σ)) :
    Trail D w (collectAsked (Traced.driver D) channel op held exchanged w)
      (collect (Traced.driver D) channel op held exchanged w).2.2 := by
  unfold collectAsked collect
  cases op with
  | none =>
    refine (Holdings.trail_releaseEach Slot.descending held w).to_calm ?_
    simp only
    split <;> rfl
  | some op =>
    refine .to_calm (.append (trail_takeBackEach _ Slot.ascending op held w)
      (Holdings.trail_releaseEach Slot.descending _ _)) ?_
    simp only
    split <;> rfl

end Call

end Trails

end TeeClient

import TeeClient.Proofs.Once

/-!
# What the parts of a call do to the scene

Up to the moment at which it is published, a request changes nothing but the page of its session:
the mark is taken away first, so that no worker finds a request whoever notifies the session on
behalf of a cancellation. From then on the first notification has it served, that of the call or one
before it, and the wait takes the completion away. If the request was not served, the result words
are still those that the client left, and the session is taken down; so a request that stays
published is never found by a later call.

Main statements:

* `Call.publish_scene`: what is published is complete;
* `Call.exchange_scene`: a request is served once or left as it is;
* `Call.carry_once`: what a round trip has run, and that it makes moves of the stage.
-/

namespace TeeClient

variable {σ κ : Type} {D : Driver σ} {secure : σ → SecureWorld κ}

namespace World

/-- What is changed in a page is seen in the scene, the cancellation flag aside. -/
theorem scene_onPage (w : World σ) (id : PageId) (f : Page → Page)
    (hf : ∀ p : Page, (f p).unflagged = f p.unflagged) :
    (w.onPage id f).scene secure = (w.scene secure).onPage id f :=
  Shared.scene_onPage secure w.toShared id f f hf

/-- A page reads as it stands in the scene, the cancellation flag aside. -/
theorem page_of_scene {w : World σ} {id : PageId} {p : Page}
    (h : (w.scene secure).pages id = some p) : (w.page id).unflagged = p := by
  obtain ⟨p', hp', hu⟩ := Option.map_eq_some_iff.1 h
  rw [Shared.page_of_get? hp']
  exact hu

/-- The sessions after one was taken down. -/
theorem channels_teardown (id : ChannelId) (w : World σ) :
    (w.teardown D id).channels.get? = Channels.shut w.channels.get? id :=
  funext fun other => get?_channels_teardown id other w

/-- Taking a session down hands out no number. -/
theorem fresh_teardown (id : ChannelId) (w : World σ) :
    (w.teardown D id).channels.fresh = w.channels.fresh := by
  obtain ⟨channel, -, -, hdown⟩ | ⟨-, hsame⟩ := teardown_cases D id w
  · have hshut : (w.shutDown D id channel.handle).channels.fresh = w.channels.fresh :=
      (congrArg Arena.fresh (channels_shutDown id channel.handle w) :)
    obtain hdown | ⟨e, hdown⟩ := hdown <;> rw [hdown] <;> exact hshut
  · rw [hsame]

variable (h : Hosts D secure) {w : World σ} {id : ChannelId} {channel : Channel}
include h

/-- Taking down a session that is active dismisses its worker. A request that is still published may
be served before. -/
theorem attended_teardown {handle : Handle} (hget : w.channels.get? id = some channel)
    (hactive : channel.active = true) (hs : (w.scene secure).Exclusive handle) :
    ∃ v, (w.scene secure).Attended handle v ∧
      (w.teardown D id).scene secure = v.dismiss channel.handle := by
  obtain ⟨v, hattended, he⟩ := h.attended_onDesk
    (w := w.onChannel id fun ch => { ch with active := false }) (h.closeSession channel.handle) hs
  refine ⟨v, hattended, ?_⟩
  obtain hdown | ⟨e, hdown⟩ := teardown_of_active (D := D) hget hactive <;> rw [hdown] <;> exact he

/-- Where no worker finds a request, taking down a session only dismisses its worker. -/
theorem scene_teardown (hget : w.channels.get? id = some channel) (hactive : channel.active = true)
    (hu : (w.scene secure).Unready) :
    (w.teardown D id).scene secure = (w.scene secure).dismiss channel.handle := by
  obtain ⟨v, hattended, he⟩ := attended_teardown h hget hactive (hu.exclusive 0)
  rw [he, hattended.eq (hu 0)]

/-- Where no worker finds a request, taking a session down runs nothing. -/
theorem runs_teardown (hu : (w.scene secure).Unready) (id : ChannelId) :
    (secure (w.teardown D id).driver).runs = (secure w.driver).runs := by
  obtain ⟨channel, hget, ha, -⟩ | ⟨-, hsame⟩ := teardown_cases D id w
  · exact (congrArg (fun v : Scene κ => v.runs) (scene_teardown h hget ha hu) :)
  · rw [hsame]

/-- A session that is taken down is dismissed, unless that has been done. -/
theorem moves_teardown (hu : (w.scene secure).Unready) (admitted : Admission κ) (id : ChannelId) :
    Moves admitted (w.stage secure) ((w.teardown D id).stage secure) := by
  obtain ⟨channel, hget, ha, -⟩ | ⟨-, hsame⟩ := teardown_cases D id w
  · unfold stage
    rw [scene_teardown h hget ha hu, channels_teardown, fresh_teardown]
    exact .single (.dismissed hget ha ⟨fun _ _ => rfl, fun _ _ => rfl, rfl⟩)
  · rw [hsame]

end World

namespace Call

variable {channel : Channel} {instruction : Instruction} {command : UInt32}

/-! ## Publishing -/

/-- The words that a slot is prepared with are those that its parameter asks for. -/
theorem prepare_gives {handle : Handle} {slot : Slot} {p : Parameter} {held held' : Holdings}
    {w w' : World σ} {words : SlotWords}
    (h : prepare D handle slot p held w = (.ok words, held', w')) :
    ∃ plan, p.plan = .ok plan ∧ plan.Gives words := by
  have hprepares := prepares D handle slot p held w
  rw [h] at hprepares
  cases hprepares with
  | written plan => exact ⟨_, plan, rfl⟩
  | @mapped _ _ _ info _ plan => exact ⟨_, plan, info, rfl⟩

/-- The application has no part in a failure to prepare a slot. -/
theorem prepare_origin {handle : Handle} {slot : Slot} {p : Parameter} {held : Holdings}
    {w : World σ} {failure : Failure}
    (h : (prepare D handle slot p held w).1 = .error failure) : failure.origin ≠ .trustedApp := by
  have hprepares := prepares D handle slot p held w
  generalize prepare D handle slot p held w = prepared at h hprepares
  cases hprepares with
  | written | mapped => cases h
  | rejected | refused =>
    cases h
    exact nofun

section Scenes

variable (h : Hosts D secure)
include h

/-- Preparing a slot leaves the scene where no worker finds a request. -/
theorem prepare_scene (handle : Handle) (slot : Slot) (p : Parameter) (held : Holdings)
    (w : World σ) (hu : (w.scene secure).Unready) :
    (prepare D handle slot p held w).2.2.scene secure = w.scene secure :=
  prepare_preserves (P := fun w' => w'.scene secure = w.scene secure) (fun _ _ _ hw => hw)
    (fun w' address len access _ hw =>
      (h.scene_map w' (hw ▸ hu) handle address len access).trans hw) rfl

/-- Where no worker finds a request, filling in slots changes only the slots of the page. If it
succeeds, each of them holds what its parameter asks for. -/
theorem fillEach_scene (channel : Channel) (op : Operation) (slots : List Slot) (held : Holdings)
    (w : World σ) (hu : (w.scene secure).Unready) :
    ∃ fill : Slots SlotWords → Slots SlotWords,
      (fillEach D channel op slots held w).2.2.scene secure
        = (w.scene secure).onPage channel.page (fun p => p.setParams (fill p.request.params)) ∧
      ((fillEach D channel op slots held w).1.isOk = true →
        ∀ slot ∈ slots, ∀ params, op.Fills slot ((fill params).get slot)) ∧
      ∀ slot, slot ∉ slots → ∀ params, (fill params).get slot = params.get slot := by
  induction slots generalizing held w with
  | nil =>
    refine ⟨fun params => params, ?_, fun _ slot hs => (by cases hs), fun _ _ _ => rfl⟩
    exact (Scene.onPage_self _ _).symm
  | cons slot rest ih =>
    have hscene := prepare_scene h channel.handle slot (op.param slot) held w hu
    unfold fillEach
    rcases hp : prepare D channel.handle slot (op.param slot) held w with
      ⟨failure | words, held', w'⟩
    · -- the slot fails, so the page stays as it is
      rw [hp] at hscene
      refine ⟨fun params => params, ?_, fun hok => (by cases hok), fun _ _ _ => rfl⟩
      exact hscene.trans (Scene.onPage_self _ _).symm
    · rw [hp] at hscene
      have hwritten : (w'.onPage channel.page (·.setParam slot words)).scene secure
          = (w.scene secure).onPage channel.page (·.setParam slot words) := by
        rw [World.scene_onPage w' channel.page (·.setParam slot words) fun _ => rfl, hscene]
      -- the slot is filled in first, and then the others
      obtain ⟨fill, hfill, hin, hout⟩ := ih held' (w'.onPage channel.page (·.setParam slot words))
        (hwritten ▸ hu.onPage channel.page fun _ hp => hp)
      refine ⟨fun params => fill (params.put slot words), ?_, fun hok other hm params => ?_,
        fun other hm params => ?_⟩
      · rw [hwritten, Scene.onPage_onPage] at hfill
        exact hfill
      · by_cases hr : other ∈ rest
        · exact hin hok other hr _
        · -- the slot is not filled again
          have he : other = slot := (List.mem_cons.1 hm).resolve_right hr
          rw [hout other hr, he, Slots.get_put_self]
          exact prepare_gives hp
      · rw [hout other fun hr => hm (List.mem_cons_of_mem _ hr)]
        exact Slots.get_put_ne _ _ fun he => hm (List.mem_cons.2 (.inl he))

omit h in
/-- The application has no part in a failure to fill in slots. -/
theorem fillEach_origin {op : Operation} (slots : List Slot) {held : Holdings} {w : World σ}
    {failure : Failure} (hf : (fillEach D channel op slots held w).1 = .error failure) :
    failure.origin ≠ .trustedApp := by
  induction slots generalizing held w with
  | nil => cases hf
  | cons slot rest ih =>
    unfold fillEach at hf
    rcases hp : prepare D channel.handle slot (op.param slot) held w with
      ⟨failure' | words, held', w'⟩
    · rw [hp] at hf
      cases hf
      exact prepare_origin (by rw [hp])
    · rw [hp] at hf
      exact ih hf

omit h in
/-- The application has no part in a failure to fill a request in. -/
theorem fill_origin {op : Operation} {w : World σ} {failure : Failure}
    (hf : (Call.fill D channel op w).1 = .error failure) : failure.origin ≠ .trustedApp := by
  unfold Call.fill at hf
  rcases hfill : fillEach D channel op Slot.ascending .none w with ⟨failure' | ⟨⟩, held, w'⟩
  · rw [hfill] at hf
    cases hf
    exact fillEach_origin Slot.ascending (congrArg Prod.fst hfill)
  · -- that the operation is cancelled the library says itself
    simp only [hfill] at hf
    split at hf <;> cases hf
    exact nofun

omit h in
/-- The application has no part in a failure to publish a request. -/
theorem publish_origin {instruction : Instruction} {command : UInt32} {op : Option Operation}
    {w : World σ} {failure : Failure}
    (hp : (publish D channel instruction command op w).1 = .error failure) :
    failure.origin ≠ .trustedApp := by
  cases op with
  | none => cases hp
  | some op =>
    unfold publish at hp
    simp only at hp
    rcases hf : Call.fill D channel op (w.onPage channel.page fun p =>
      (p.setReady false).clearRequest) with ⟨failure' | ⟨⟩, held, w'⟩ <;> rw [hf] at hp <;> cases hp
    exact fill_origin (congrArg Prod.fst hf)

/-- Where no worker finds a request, filling one in changes only the slots of the page. -/
theorem fill_scene (channel : Channel) (op : Operation) (w : World σ)
    (hu : (w.scene secure).Unready) :
    ∃ fill : Slots SlotWords → Slots SlotWords,
      (Call.fill D channel op w).2.2.scene secure
        = (w.scene secure).onPage channel.page (fun p => p.setParams (fill p.request.params)) ∧
      match (Call.fill D channel op w).1 with
      | .error failure => failure.origin ≠ .trustedApp
      | .ok () => ∀ slot params, op.Fills slot ((fill params).get slot) := by
  obtain ⟨fill, hfill, hin, -⟩ := fillEach_scene h channel op Slot.ascending .none w hu
  refine ⟨fill, ?_⟩
  unfold Call.fill
  rcases hf : fillEach D channel op Slot.ascending .none w with ⟨failure | ⟨⟩, held, w'⟩
  · rw [hf] at hfill
    exact ⟨hfill, fillEach_origin Slot.ascending (by rw [hf])⟩
  · rw [hf] at hfill hin
    simp only
    split
    · exact ⟨hfill, fun he => (by cases he)⟩
    · exact ⟨hfill, fun slot => hin rfl slot (Slot.mem_ascending slot)⟩

/-- Giving back what is held leaves the scene where no worker finds a request. -/
theorem releaseAll_scene (handle : Handle) (held : Holdings) (w : World σ)
    (hu : (w.scene secure).Unready) :
    (held.releaseAll D handle w).scene secure = w.scene secure :=
  Holdings.releaseEach_preserves (P := fun w' => w'.scene secure = w.scene secure)
    (fun _ _ _ hw => hw)
    (fun w' address info hw => (h.scene_unmap w' (hw ▸ hu) handle address info).trans hw)
    Slot.descending rfl

/-- A request that is published is complete. One that is given up is not published. Nothing is run
meanwhile: no worker finds a request published before this one is. -/
theorem publish_scene (channel : Channel) (instruction : Instruction) (command : UInt32)
    (op : Option Operation) (w : World σ) (hu : (w.scene secure).Unready) :
    match (publish D channel instruction command op w).1 with
    | .error failure => failure.origin ≠ .trustedApp ∧ ∃ f : Page → Page,
      (∀ p, (f p).ready = false ∧ (f p).destination = p.destination) ∧
      (publish D channel instruction command op w).2.scene secure
        = (w.scene secure).onPage channel.page f
    | .ok _ => ∃ f : Page → Page,
      (∀ p, (f p).ready = true ∧ (f p).destination = p.destination ∧
        (f p).Complete instruction command op) ∧
      (publish D channel instruction command op w).2.scene secure
        = (w.scene secure).onPage channel.page f := by
  have hclear : (w.onPage channel.page fun p => (p.setReady false).clearRequest).scene secure
      = (w.scene secure).onPage channel.page fun p => (p.setReady false).clearRequest :=
    World.scene_onPage w channel.page (fun p => (p.setReady false).clearRequest) fun _ => rfl
  cases op with
  | none =>
    refine ⟨fun p => stamp instruction command 0 (p.setReady false).clearRequest,
      fun p => ⟨rfl, rfl, ?_⟩, ?_⟩
    · exact ⟨rfl, rfl, rfl, rfl, fun slot => Slots.get_replicate _ slot, rfl, rfl⟩
    · show ((w.onPage channel.page fun p => (p.setReady false).clearRequest).onPage channel.page
        (stamp instruction command 0)).scene secure = _
      rw [World.scene_onPage _ channel.page (stamp instruction command 0) fun _ => rfl, hclear]
      exact Scene.onPage_onPage _ _ _ _
  | some op =>
    -- the mark is down while the slots are filled in
    obtain ⟨fill, hfill, hresult⟩ := fill_scene h channel op
      (w.onPage channel.page fun p => (p.setReady false).clearRequest)
      (hclear ▸ hu.onPage channel.page fun _ _ => rfl)
    rw [hclear, Scene.onPage_onPage] at hfill
    -- the page with its slots filled in
    let filled (p : Page) : Page := (p.setReady false).clearRequest.setParams
      (fill (p.setReady false).clearRequest.request.params)
    unfold publish
    simp only
    rcases hf : Call.fill D channel op (w.onPage channel.page fun p =>
      (p.setReady false).clearRequest) with ⟨failure | ⟨⟩, held, w'⟩
    · -- the request is cleared, and stays unpublished
      rw [hf] at hfill hresult
      have hcleared : (w'.onPage channel.page (·.clearRequest)).scene secure
          = (w.scene secure).onPage channel.page fun p => (filled p).clearRequest := by
        rw [World.scene_onPage _ channel.page (·.clearRequest) fun _ => rfl, hfill]
        exact Scene.onPage_onPage _ _ filled _
      refine ⟨hresult, fun p => (filled p).clearRequest, fun _ => ⟨rfl, rfl⟩, ?_⟩
      exact (releaseAll_scene h channel.handle held _
        (hcleared ▸ hu.onPage channel.page fun _ _ => rfl)).trans hcleared
    · rw [hf] at hfill hresult
      refine ⟨fun p => stamp instruction command op.sentTypes (filled p),
        fun p => ⟨rfl, rfl, ?_⟩, ?_⟩
      · exact ⟨rfl, rfl, rfl, rfl, fun slot => hresult slot _, rfl, rfl⟩
      · show (w'.onPage channel.page (stamp instruction command op.sentTypes)).scene secure = _
        rw [World.scene_onPage _ channel.page (stamp instruction command op.sentTypes)
          fun _ => rfl, hfill]
        exact Scene.onPage_onPage _ _ filled _

/-! ## Exchanging -/

/-- Asking for the error code leaves the scene where no worker finds a request. -/
theorem classify_scene (handle : Handle) (w : World σ) (hu : (w.scene secure).Unready) :
    (classify D handle w).2.scene secure = w.scene secure :=
  classify_preserves (P := fun w' => w'.scene secure = w.scene secure) (fun _ _ _ hw => hw)
    (fun w' hw => (h.scene_errorCode w' (hw ▸ hu) handle).trans hw) rfl

/-- What a notification leaves stays when the exchange is over, up to one completion that is taken
away. -/
theorem scene_exchange {handle : Handle} {w w₁ : World σ}
    (hheard : w.onShared D (D.notify .call handle) = (.ok (), w₁))
    (hu : (w₁.scene secure).Unready) :
    (exchange D handle w).2.scene secure = (w₁.scene secure).drain handle := by
  unfold exchange
  rw [hheard]
  -- however the wait ends, it takes at most one completion away
  have hw := h.scene_wait w₁ hu handle none
  have hu' : ((w₁.scene secure).drain handle).Unready :=
    fun other => Scene.unpublished_drain (hu other) handle
  simp only
  rcases hwaited : w₁.onShared D (D.wait handle none) with ⟨e | ⟨⟩, w₂⟩
  · rw [hwaited] at hw
    cases e with
    | infoNotification => exact (classify_scene h handle w₂ (hw ▸ hu')).trans hw
    | _ => exact hw
  · rw [hwaited] at hw
    exact hw

/-- What a published request has come to when the exchange is over. -/
inductive Exchanged (D : Driver σ) (secure : σ → SecureWorld κ) (handle : Handle) (w : World σ) :
    Prop
  /-- The notification failed. The request may have been served before, on behalf of a
  cancellation. -/
  | unheard (failed : (exchange D handle w).1 = .error (.comms .communication))
    (attended : (w.scene secure).Attended handle ((exchange D handle w).2.scene secure))
  /-- No worker found the request. -/
  | unserved (unready : (w.scene secure).Unready)
    (same : (exchange D handle w).2.scene secure = w.scene secure)
  /-- The request was served, and its completion was delivered. -/
  | served {worker : Worker κ} {page : Page} {v : Scene κ}
    (hired : (w.scene secure).workers handle = some worker)
    (found : (w.scene secure).pages worker.page = some page) (ready : page.ready = true)
    (served : Scene.Served handle worker page (w.scene secure) v)
    (notified : (w.onShared D (D.notify .call handle)).2.scene secure = v)
    (drained : (exchange D handle w).2.scene secure = v.drain handle)

/-- A published request is served once or left as it is. -/
theorem exchange_scene (handle : Handle) (w : World σ) (hs : (w.scene secure).Exclusive handle)
    (hdrained : ∀ worker, (w.scene secure).workers handle = some worker →
      worker.completions = []) : Exchanged D secure handle w := by
  obtain ⟨hattended, hleft⟩ := h.attended_notify w hs .call handle
  rcases hnotified : w.onShared D (D.notify .call handle) with ⟨e | ⟨⟩, w₁⟩ <;>
    rw [hnotified] at hattended hleft
  · refine .unheard ?_ ?_ <;> unfold exchange <;> rw [hnotified]
    exact hattended
  · have hunready := (hattended.exclusive hs).unready (hleft rfl)
    have hexchange := scene_exchange h hnotified hunready
    rcases hattended with hsame | ⟨worker, page, hworker, hpage, hready, hserved⟩
    · -- nothing was served, and there is nothing to take away
      rw [hsame] at hexchange hunready
      rw [Scene.drain_eq_self hdrained] at hexchange
      exact .unserved hunready hexchange
    · exact .served hworker hpage hready hserved (by rw [hnotified]) hexchange

omit h in
/-- An exchange that fails breaks the session. -/
theorem exchange_breaks {handle : Handle} {w : World σ} {failure : Failure}
    (hf : (exchange D handle w).1 = .error failure) : failure.breaksSession = true := by
  -- whatever the exit code says, the session is beyond use
  have hjudge : ∀ code, (judge handle code).2 = .error failure → failure.breaksSession = true := by
    intro code hj
    unfold judge at hj
    split at hj
    · cases hj
    · split at hj
      · cases hj; rfl
      · split at hj <;> cases hj <;> rfl
  unfold exchange at hf
  split at hf
  · cases hf; rfl
  · split at hf
    · cases hf
    · exact hjudge _ hf
    · cases hf; rfl

/-! ## Collecting -/

/-- Collecting the result may have a request served that is still published. -/
theorem attended_collect {handle : Handle} (op : Option Operation) (held : Holdings)
    (exchanged : Bool) (w : World σ) (hs : (w.scene secure).Exclusive handle) :
    (w.scene secure).Attended handle
      ((collect D channel op held exchanged w).2.2.scene secure) :=
  collect_preserves (P := fun w' => (w.scene secure).Attended handle (w'.scene secure))
    (fun _ _ hw => hw) (fun w' address info hw =>
      hw.trans (h.attended_unmap w' (hw.exclusive hs) channel.handle address info)) (.refl handle _)

end Scenes

/-- A failure that the result words name breaks the session, or comes from the application. -/
theorem verdict_breaks {origin : UInt32} {status : Status} {failure : Failure}
    (h : verdict origin status = .error failure) :
    failure.breaksSession = true ∨ failure.origin = .trustedApp := by
  unfold verdict at h
  split at h
  · cases h
    exact .inl rfl
  next o ho =>
    split at h
    · cases h
    next hne =>
      cases h
      have hcond := (Option.filter_eq_some_iff.1 ho).2
      rw [Bool.or_eq_true, beq_iff_eq, beq_iff_eq] at hcond
      exact .inr (hcond.resolve_right hne)

/-- What a call learns from the exchange and, if that went well, from the result words. -/
def answer (exchanged : Except Failure Unit) (collected : Except Failure Origin) :
    Except Failure Origin :=
  exchanged.bind fun _ => collected

/-- A failure that a call learns breaks the session, or comes from the application. -/
theorem answer_breaks {handle : Handle} {w : World σ} {origin : UInt32} {status : Status}
    {failure : Failure}
    (h : answer (exchange D handle w).1 (verdict origin status) = .error failure) :
    failure.breaksSession = true ∨ failure.origin = .trustedApp := by
  rcases hx : (exchange D handle w).1 with e | ⟨⟩
  · rw [hx] at h
    cases h
    exact .inl (exchange_breaks hx)
  · rw [hx] at h
    exact verdict_breaks h

/-- Result words that nobody wrote are a failure that breaks the session. -/
theorem answer_unwritten (D : Driver σ) (handle : Handle) (w : World σ) : ∃ failure,
    answer (exchange D handle w).1 (verdict 0 FailureKind.badState.code) = .error failure ∧
      failure.breaksSession = true := by
  rcases hx : (exchange D handle w).1 with e | ⟨⟩
  · exact ⟨e, rfl, exchange_breaks hx⟩
  · exact ⟨.comms .communication, rfl, rfl⟩

/-- How a round trip ends once its request is published. -/
theorem roundTrip_of_published (id : ChannelId) {op : Option Operation} {held : Holdings}
    {w w₁ : World σ} (h : publish D channel instruction command op w = (.ok held, w₁)) :
    ∃ op' after, after.channels = w.channels ∧
      (∀ (secure : σ → SecureWorld κ) handle, Hosts D secure →
        ((exchange D channel.handle w₁).2.scene secure).Exclusive handle →
        ((exchange D channel.handle w₁).2.scene secure).Attended handle (after.scene secure)) ∧
      let page := (exchange D channel.handle w₁).2.page channel.page
      roundTrip D id channel instruction command op w =
        match answer (exchange D channel.handle w₁).1 (verdict page.origin page.status) with
        | .ok origin => ⟨.ok origin, op', after⟩
        | .error failure =>
          if failure.breaksSession then
            ⟨.error failure, op',
              (after.log (.callFailed channel.handle instruction failure)).teardown D id⟩
          else ⟨.error failure, op', after⟩ := by
  -- the parts of a call leave the sessions to the last step
  have hpub : w₁.channels = w.channels := by
    have := channels_publish (D := D) channel instruction command op w
    rw [h] at this
    exact this
  refine ⟨(collect D channel op held (exchange D channel.handle w₁).1.isOk
    (exchange D channel.handle w₁).2).2.1, (collect D channel op held
      (exchange D channel.handle w₁).1.isOk (exchange D channel.handle w₁).2).2.2, ?_,
    fun secure handle hosts => attended_collect hosts _ _ _ _, ?_⟩
  · exact (channels_collect _ _ _ _ _).trans ((channels_exchange _ _).trans hpub)
  · unfold roundTrip
    rw [h]
    rfl

/-! ## Round trips -/

section RoundTrips

variable {id : ChannelId} {op : Option Operation} {w : World σ}

/-- What has run depends on the runs and on the failure of the call only. -/
theorem Once.congr {α β : Type} {result : Except Failure α} {result' : Except Failure β}
    {w' w'' : World σ} (h : Once D secure id channel instruction command op w result w')
    (hruns : (secure w''.driver).runs = (secure w'.driver).runs)
    (hresult : ∀ failure, result' = .error failure ↔ result = .error failure) :
    Once D secure id channel instruction command op w result' w'' where
  atMostOnce := hruns ▸ h.atMostOnce
  exactlyOnce ho := hruns ▸ h.exactlyOnce fun failure hf => ho failure ((hresult failure).2 hf)
  unfilled failure hf :=
    ⟨(hresult failure).2 (h.unfilled failure hf).1, hruns.trans (h.unfilled failure hf).2⟩
  refused hf := hruns.trans (h.refused ((hresult _).1 hf))
  awaited := h.awaited

/-- Beginning an operation leaves the scene. -/
@[simp] theorem scene_begun (id : ChannelId) (op : Option Operation) (w : World σ) :
    (begun id op w).scene secure = w.scene secure := by
  cases op <;> rfl

/-- Filling in a request leaves the sessions as they are. -/
theorem channels_filling {D : Driver σ} (id : ChannelId) (channel : Channel)
    (instruction : Instruction) (command : UInt32) (op : Option Operation) (w : World σ) :
    (filling D id channel instruction command op w).2.channels = w.channels :=
  (channels_publish channel instruction command op (begun id op w)).trans (channels_begun id op w)

/-- A call has published its request: the page of its session was changed as `f` says. -/
structure Posted (D : Driver σ) (secure : σ → SecureWorld κ) (id : ChannelId) (channel : Channel)
    (instruction : Instruction) (command : UInt32) (op : Option Operation) (w : World σ)
    (held : Holdings) (w₁ : World σ) (f : Page → Page) : Prop where
  filled : filling D id channel instruction command op w = (.ok held, w₁)
  complete : ∀ p, (f p).ready = true ∧ (f p).destination = p.destination ∧
    (f p).Complete instruction command op
  scene : w₁.scene secure = (w.scene secure).onPage channel.page f

/-- A call whose request is filled in has published it. -/
theorem exists_posted (h : Hosts D secure) (hu : (w.scene secure).Unready) {held : Holdings}
    {w₁ : World σ} (hf : filling D id channel instruction command op w = (.ok held, w₁)) :
    ∃ f, Posted D secure id channel instruction command op w held w₁ f := by
  have hpub := publish_scene h channel instruction command op (begun id op w)
    (by rwa [scene_begun])
  rw [show publish D channel instruction command op (begun id op w) = _ from hf] at hpub
  obtain ⟨f, hcomplete, hscene⟩ := hpub
  rw [scene_begun] at hscene
  exact ⟨f, hf, hcomplete, hscene⟩

/-- What the exchange leaves in the page of the session, if nobody wrote the result words, says that
the session breaks. -/
theorem answer_of_unwritten {w₁ : World σ} {p : Page}
    (hpage : ((exchange D channel.handle w₁).2.scene secure).pages channel.page = some p)
    (horigin : p.origin = 0) (hstatus : p.status = FailureKind.badState.code) :
    let page := (exchange D channel.handle w₁).2.page channel.page
    ∃ failure, answer (exchange D channel.handle w₁).1 (verdict page.origin page.status)
      = .error failure ∧ failure.breaksSession = true := by
  have hwords := World.page_of_scene hpage
  have horigin : ((exchange D channel.handle w₁).2.page channel.page).origin = 0 :=
    (congrArg Page.origin hwords :).trans horigin
  have hstatus : ((exchange D channel.handle w₁).2.page channel.page).status
      = FailureKind.badState.code :=
    (congrArg Page.status hwords :).trans hstatus
  simp only [horigin, hstatus]
  exact answer_unwritten D channel.handle w₁

variable (h : Hosts D secure) (hacc : w.Accorded secure)
include h hacc

/-- A call whose request is given up has run nothing. -/
theorem once_of_unfilled (admitted : Admission κ) {failure : Failure} {w₁ : World σ}
    (hget : w.channels.get? id = some channel)
    (hf : filling D id channel instruction command op w = (.error failure, w₁)) :
    Once D secure id channel instruction command op w
        (.error failure : Except Failure Origin) w₁ ∧
      Moves admitted (w.stage secure) (w₁.stage secure) := by
  have hpub := publish_scene h channel instruction command op (begun id op w)
    (by rw [scene_begun]; exact hacc.unready)
  have hchannels := channels_publish (D := D) channel instruction command op (begun id op w)
  rw [show publish D channel instruction command op (begun id op w) = _ from hf] at hpub hchannels
  obtain ⟨horigin, f, hready, hscene⟩ := hpub
  rw [scene_begun] at hscene
  have hruns : (secure w₁.driver).runs = (secure w.driver).runs :=
    (congrArg (fun v : Scene κ => v.runs) hscene :)
  refine ⟨⟨.inl hruns, fun ho => absurd (ho failure rfl) horigin, fun failure' he => ?_,
    fun _ => hruns, fun held he => ?_⟩, ?_⟩
  · rw [hf] at he
    cases he
    exact ⟨rfl, hruns⟩
  · rw [hf] at he
    cases he
  · -- all that is left of it is a cleared request in the page
    unfold World.stage
    rw [hscene, show w₁.channels = w.channels from hchannels.trans (channels_begun id op w)]
    exact .single (.withdrawn hget hready)

namespace Posted

variable {held : Holdings} {w₁ : World σ} {f : Page → Page}
  (hp : Posted D secure id channel instruction command op w held w₁ f)
include hp

omit h in
/-- The request that is served is the one that was published. -/
theorem entered {worker : Worker κ} {page : Page} {v : Scene κ}
    (hworker : (w₁.scene secure).workers channel.handle = some worker)
    (hpage : (w₁.scene secure).pages worker.page = some page) (hready : page.ready = true)
    (hserved : Scene.Served channel.handle worker page (w₁.scene secure) v) :
    worker.page = channel.page ∧
      Entered channel instruction command op (secure w.driver).runs v.runs := by
  rw [hp.scene] at hworker hpage hserved
  obtain ⟨hat, p, rfl⟩ := hacc.found hworker hpage hready
  exact ⟨hat, hserved.entered hat (hp.complete p).2.2⟩

variable (hget : w.channels.get? id = some channel) (hactive : channel.active = true)
include hget hactive

omit h in
/-- The request that was published is found by nobody but the worker of its session. -/
theorem exclusive : (w₁.scene secure).Exclusive channel.handle := by
  rw [hp.scene]
  refine hacc.exclusive hget hactive fun p => ⟨instruction, ?_⟩
  rw [(hp.complete p).2.2.instruction, Instruction.ofRaw?_raw]

/-- What the request that was published has come to when the exchange is over. -/
theorem exchanged : Exchanged D secure channel.handle w₁ := by
  refine exchange_scene h channel.handle w₁ (hp.exclusive hacc hget hactive) ?_
  -- nothing is left from before that the wait could take for an answer
  rw [hp.scene]
  exact hacc.drained channel.handle

/-- What the wait of the call finds undelivered was queued by the entry point of this call. -/
theorem awaited : ∀ held, (filling D id channel instruction command op w).1 = .ok held →
    ∀ worker, (secure (waiting D id channel instruction command op w).driver).sessions.get?
      channel.handle = some worker → worker.completions = [] ∨ worker.completions.length = 1 ∧
    Entered channel instruction command op (secure w.driver).runs
      (secure (waiting D id channel instruction command op w).driver).runs := by
  intro _ _ worker
  unfold waiting
  rw [hp.filled]
  intro hworker
  rcases (h.attended_notify w₁ (hp.exclusive hacc hget hactive) .call channel.handle).1 with
    hsame | ⟨before, page, hbefore, hpage, hready, hserved⟩
  · -- nothing was served, and nothing was left from before
    have hrest : (w₁.scene secure).workers channel.handle = some worker := hsame ▸ hworker
    rw [hp.scene] at hrest
    exact .inl (hacc.drained channel.handle worker hrest)
  · obtain ⟨kept, hkept, hcontinues⟩ := hserved.kept
    have hlength := hcontinues.completions
    obtain rfl : worker = kept := Option.some.inj (hworker.symm.trans hkept)
    -- the completion is the only one, as none was left from before
    have hdrained : before.completions = [] := by
      rw [hp.scene] at hbefore
      exact hacc.drained _ _ hbefore
    rw [hdrained] at hlength
    rcases Nat.le_one_iff_eq_zero_or_eq_one.1 hlength with hzero | hone
    · exact .inl (List.eq_nil_of_length_eq_zero hzero)
    · exact .inr ⟨hone, (hp.entered hacc hbefore hpage hready hserved).2⟩

/-- A call that fails so that the session breaks is in order if it has run its entry point at
most. -/
theorem once_of_broken {failure : Failure} {w' : World σ} (hbreaks : failure.breaksSession = true)
    (hruns : (secure w'.driver).runs = (secure w.driver).runs ∨
      Entered channel instruction command op (secure w.driver).runs (secure w'.driver).runs) :
    Once D secure id channel instruction command op w
      (.error failure : Except Failure Origin) w' where
  atMostOnce := hruns
  exactlyOnce ho := by
    unfold Failure.breaksSession at hbreaks
    rw [ho failure rfl] at hbreaks
    cases hbreaks
  unfilled failure' hf := by
    rw [hp.filled] at hf
    cases hf
  refused hbad := by
    cases hbad
    cases hbreaks
  awaited := hp.awaited h hacc hget hactive

/-- A call that had its entry point run is in order if its failure is not one of the client's. -/
theorem once_of_entered {result : Except Failure Origin} {w' : World σ}
    (he : Entered channel instruction command op (secure w.driver).runs (secure w'.driver).runs)
    (hr : ∀ failure, result = .error failure →
      failure.breaksSession = true ∨ failure.origin = .trustedApp) :
    Once D secure id channel instruction command op w result w' where
  atMostOnce := .inr he
  exactlyOnce _ := he
  unfilled failure' hf := by
    rw [hp.filled] at hf
    cases hf
  refused hbad := by
    rcases hr _ hbad with hb | ho
    · cases hb
    · cases ho
  awaited := hp.awaited h hacc hget hactive

omit h hget hactive in
/-- A worker that did not survive a request leaves the result words as they were, and the session
breaks. -/
theorem alive_of_unbroken {worker later : Worker κ} {page : Page} {v : Scene κ}
    {result : Except Failure Origin}
    (hworker : (w₁.scene secure).workers channel.handle = some worker)
    (hpage : (w₁.scene secure).pages worker.page = some page) (hready : page.ready = true)
    (hserved : Scene.Served channel.handle worker page (w₁.scene secure) v)
    (hv : (exchange D channel.handle w₁).2.scene secure = v.drain channel.handle)
    (hlearned : answer (exchange D channel.handle w₁).1
      (verdict ((exchange D channel.handle w₁).2.page channel.page).origin
        ((exchange D channel.handle w₁).2.page channel.page).status) = result)
    (hunbroken : ∀ failure, result = .error failure → failure.breaksSession = false)
    (hlater : v.workers channel.handle = some later) : later.alive = worker.alive := by
  obtain ⟨hat, -⟩ := hp.entered hacc hworker hpage hready hserved
  obtain ⟨page', hpage', -⟩ := hserved.consumed
  -- otherwise the result words are those that the client left, which break the session
  refine (hserved.answered later page' hlater hpage').resolve_right fun hwords => ?_
  rw [hp.scene] at hworker hpage
  obtain ⟨-, p, rfl⟩ := hacc.found hworker hpage hready
  have hleft : ((exchange D channel.handle w₁).2.scene secure).pages channel.page
      = some page' := by
    rw [hv, ← hat]
    exact hpage'
  obtain ⟨failure, hanswer, hbreaks⟩ := answer_of_unwritten hleft
    (hwords.1.trans (hp.complete p).2.2.origin) (hwords.2.trans (hp.complete p).2.2.status)
  rw [hunbroken failure (hlearned.symm.trans hanswer)] at hbreaks
  cases hbreaks

omit h in
/-- Nobody wrote the result words of a request that was not served. -/
theorem answer_of_unserved
    (hsame : (exchange D channel.handle w₁).2.scene secure = w₁.scene secure) :
    let page := (exchange D channel.handle w₁).2.page channel.page
    ∃ failure, answer (exchange D channel.handle w₁).1 (verdict page.origin page.status)
      = .error failure ∧ failure.breaksSession = true := by
  obtain ⟨p, hpage, -⟩ := hacc.idle id channel hget hactive
  have hposted : ((exchange D channel.handle w₁).2.scene secure).pages channel.page
      = some (f p) := by
    rw [hsame, hp.scene]
    show (if channel.page = channel.page then _ else _) = _
    rw [if_pos rfl, hpage]
    rfl
  exact answer_of_unwritten hposted (hp.complete p).2.2.origin (hp.complete p).2.2.status

omit h hget hactive in
/-- What is attended to of the request that was published concerns its session only. -/
theorem unrelated {v : Scene κ} (hv : (w₁.scene secure).Attended channel.handle v) :
    Scene.Unrelated channel (w.scene secure) v ∧ (v.runs = (secure w.driver).runs ∨
      Entered channel instruction command op (secure w.driver).runs v.runs) := by
  rcases hv with rfl | ⟨worker, page, hworker, hpage, hready, hserved⟩
  · rw [hp.scene]
    exact ⟨Scene.unrelated_onPage channel _ f, .inl rfl⟩
  · obtain ⟨hat, hentered⟩ := hp.entered hacc hworker hpage hready hserved
    rw [hp.scene] at hserved
    exact ⟨hserved.unrelated hat, .inr hentered⟩

variable (admitted : Admission κ)

/-- A call that takes its session down dismisses it, whatever has become of its request. -/
theorem once_of_dismissed {failure : Failure} {after : World σ} {v : Scene κ}
    (hbreaks : failure.breaksSession = true) (hchannels : after.channels = w.channels)
    (hscene : (after.teardown D id).scene secure = v.dismiss channel.handle)
    (hunrelated : Scene.Unrelated channel (w.scene secure) v)
    (hruns : v.runs = (secure w.driver).runs ∨
      Entered channel instruction command op (secure w.driver).runs v.runs) :
    Once D secure id channel instruction command op w
        (.error failure : Except Failure Origin) (after.teardown D id) ∧
      Moves admitted (w.stage secure) ((after.teardown D id).stage secure) := by
  have hsame : (secure (after.teardown D id).driver).runs = v.runs :=
    (congrArg (fun v : Scene κ => v.runs) hscene :)
  refine ⟨hp.once_of_broken h hacc hget hactive hbreaks (hsame ▸ hruns), ?_⟩
  unfold World.stage
  rw [hscene, World.channels_teardown, World.fresh_teardown, hchannels]
  exact .single (.dismissed hget hactive hunrelated)

/-- A call whose exchange fails, or whose request nobody answers, takes its session down. The
request may have been served on behalf of a cancellation, and else is left in its page. -/
theorem once_of_unanswered {failure : Failure}
    (hattended : (w₁.scene secure).Attended channel.handle
      ((exchange D channel.handle w₁).2.scene secure))
    (hanswer : answer (exchange D channel.handle w₁).1
      (verdict ((exchange D channel.handle w₁).2.page channel.page).origin
        ((exchange D channel.handle w₁).2.page channel.page).status) = .error failure)
    (hbreaks : failure.breaksSession = true) :
    let e := roundTrip D id channel instruction command op (begun id op w)
    Once D secure id channel instruction command op w e.result e.world ∧
      Moves admitted (w.stage secure) (e.world.stage secure) := by
  obtain ⟨op', after, hchannels, hafter, hrt⟩ := roundTrip_of_published (κ := κ) id hp.filled
  rw [channels_begun] at hchannels
  simp only [hanswer, hbreaks, if_true] at hrt
  rw [hrt]
  -- the request is attended to once at most, up to the end of the session
  have hs := hp.exclusive hacc hget hactive
  have hafter := hattended.trans (hafter secure channel.handle h (hattended.exclusive hs))
  have hget' : after.channels.get? id = some channel := by rw [hchannels]; exact hget
  obtain ⟨v, hdown, hscene⟩ := World.attended_teardown
    (w := after.log (.callFailed channel.handle instruction failure)) h hget' hactive
    (hafter.exclusive hs)
  obtain ⟨hunrelated, hruns⟩ := hp.unrelated hacc (hafter.trans hdown)
  exact hp.once_of_dismissed h hacc hget hactive admitted hbreaks hchannels
    hscene hunrelated hruns

/-- A call whose request is served has run that one entry point. -/
theorem once_of_served {worker : Worker κ} {page : Page} {v : Scene κ}
    (hworker : (w₁.scene secure).workers channel.handle = some worker)
    (hpage : (w₁.scene secure).pages worker.page = some page) (hready : page.ready = true)
    (hserved : Scene.Served channel.handle worker page (w₁.scene secure) v)
    (hv : (exchange D channel.handle w₁).2.scene secure = v.drain channel.handle) :
    let e := roundTrip D id channel instruction command op (begun id op w)
    Once D secure id channel instruction command op w e.result e.world ∧
      Moves admitted (w.stage secure) (e.world.stage secure) := by
  obtain ⟨op', after, hchannels, hafter, hrt⟩ := roundTrip_of_published (κ := κ) id hp.filled
  rw [channels_begun] at hchannels
  -- nothing is published any more, so that nothing else is attended to
  have hunready : (v.drain channel.handle).Unready := fun other =>
    Scene.unpublished_drain (hserved.unready (hp.exclusive hacc hget hactive) other) channel.handle
  have hscene : after.scene secure = v.drain channel.handle := by
    have hafter := hafter secure channel.handle h
    rw [hv] at hafter
    exact (hafter (hunready.exclusive _)).eq (hunready _)
  obtain ⟨hat, hentered⟩ := hp.entered hacc hworker hpage hready hserved
  -- unless the session breaks, the worker has survived
  have hkeep : ∀ result, answer (exchange D channel.handle w₁).1
      (verdict ((exchange D channel.handle w₁).2.page channel.page).origin
        ((exchange D channel.handle w₁).2.page channel.page).status) = result →
      (∀ failure, result = .error failure → failure.breaksSession = false) →
      Moves admitted (w.stage secure) (after.stage secure) := by
    intro result hlearned hunbroken
    have halive : ∀ later, v.workers channel.handle = some later → later.alive = worker.alive :=
      fun later => hp.alive_of_unbroken hacc hworker hpage hready hserved hv hlearned hunbroken
    unfold World.stage
    rw [hp.scene] at hworker hpage hserved
    rw [hscene, hchannels]
    exact .single (.served hget hworker hat (fun p => (hp.complete p).2.1) hpage hserved halive)
  have hruns : (secure after.driver).runs = v.runs :=
    (congrArg (fun v : Scene κ => v.runs) hscene :)
  simp only [hrt]
  rcases hlearned : answer (exchange D channel.handle w₁).1
      (verdict ((exchange D channel.handle w₁).2.page channel.page).origin
        ((exchange D channel.handle w₁).2.page channel.page).status) with failure | origin
  · simp only
    split
    next hbreaks =>
      -- the session breaks, and is taken down whatever became of its worker
      have hget' : after.channels.get? id = some channel := by rw [hchannels]; exact hget
      have hdown := World.scene_teardown
        (w := after.log (.callFailed channel.handle instruction failure)) h hget' hactive
        (show (after.scene secure).Unready from hscene ▸ hunready)
      rw [show World.scene secure (after.log _) = _ from hscene] at hdown
      rw [hp.scene] at hserved
      exact hp.once_of_dismissed h hacc hget hactive admitted hbreaks
        hchannels hdown (hserved.unrelated hat).drain (.inr hentered)
    next hunbroken =>
      refine ⟨hp.once_of_entered h hacc hget hactive (hruns ▸ hentered) fun failure' hf => ?_,
        hkeep _ hlearned fun failure' hf => ?_⟩
      · cases hf
        exact answer_breaks hlearned
      · cases hf
        exact Bool.eq_false_iff.2 hunbroken
  · exact ⟨hp.once_of_entered h hacc hget hactive (hruns ▸ hentered)
      fun failure' hf => (by cases hf), hkeep _ hlearned fun failure' hf => (by cases hf)⟩

end Posted

variable (hget : w.channels.get? id = some channel) (hactive : channel.active = true)
include hget hactive

/-- A round trip on an active session runs at most one entry point, and makes one move at most. -/
theorem roundTrip_once (admitted : Admission κ) (instruction : Instruction) (command : UInt32)
    (op : Option Operation) :
    let e := roundTrip D id channel instruction command op (begun id op w)
    Once D secure id channel instruction command op w e.result e.world ∧
      Moves admitted (w.stage secure) (e.world.stage secure) := by
  rcases hf : filling D id channel instruction command op w with ⟨failure | held, w₁⟩
  · unfold roundTrip
    rw [show publish D channel instruction command op (begun id op w) = _ from hf]
    exact once_of_unfilled h hacc admitted hget hf
  · obtain ⟨f, hp⟩ := exists_posted h hacc.unready hf
    cases hp.exchanged h hacc hget hactive with
    | unheard failed attended =>
      have hanswer : answer (exchange D channel.handle w₁).1
          (verdict ((exchange D channel.handle w₁).2.page channel.page).origin
            ((exchange D channel.handle w₁).2.page channel.page).status)
          = .error (.comms .communication) := by
        rw [failed]
        rfl
      exact hp.once_of_unanswered h hacc hget hactive admitted attended hanswer rfl
    | unserved unready same =>
      obtain ⟨failure, hanswer, hbreaks⟩ := hp.answer_of_unserved hacc hget hactive same
      exact hp.once_of_unanswered h hacc hget hactive admitted (.inl same) hanswer hbreaks
    | served hired found ready served notified drained =>
      exact hp.once_of_served h hacc hget hactive admitted hired found ready served drained

/-- A call with an operation runs at most one entry point, and makes one move at most. -/
theorem carry_once (admitted : Admission κ) (instruction : Instruction) (command : UInt32)
    (op : Option Operation) :
    let e := carry D id channel instruction command op w
    Once D secure id channel instruction command op w e.result e.world ∧
      Moves admitted (w.stage secure) (e.world.stage secure) := by
  have htrip := roundTrip_once h hacc hget hactive admitted instruction command op
  cases op with
  | none => exact htrip
  | some op => exact ⟨htrip.1.congr rfl fun _ => Iff.rfl, htrip.2⟩

end RoundTrips

end Call

end TeeClient

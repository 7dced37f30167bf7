import TeeClient.Proofs.Cancelling.Calls

/-!
# One request to cancel is enough

While a call is under way its session is active, and its operation is started until a request to
cancel finishes it. `Call.Standing` is that invariant; it has two states, told and not told. Only a
request that names the operation of the call is due, and only the first such request is: it raises
the flag in the page of the session and notifies the session, and from then on no request is due,
not even while the session is notified.

Main statements:

* `Call.Standing.honour_of_due`: one request that is due;
* `Call.Standing.trail` and `Call.Standing.found`: all requests of a trail;
* `Call.Standing.teardown`: none changes the flag when the session is being taken down.
-/

namespace TeeClient

variable {σ : Type} {D : Driver σ}

/-- An operation that is started is finished by a request to cancel. -/
theorem Lifecycle.cancel_of_started {l : Lifecycle} (h : l.progress = .started) :
    l.cancel.2.progress = .finished := by
  unfold cancel
  rw [h]

/-- A page reads as its flag says. -/
theorem Shared.cancelled_of_flags {s : Shared σ} {id : PageId} {flag : Bool}
    (h : s.flags id = some flag) : (s.page id).request.cancelled = flag := by
  obtain ⟨p, hp, rfl⟩ := Option.map_eq_some_iff.1 h
  rw [page_of_get? hp]

namespace Call

/-- A request to cancel finishes an operation, raises the flag in the page of a session and notifies
the session once, with the flag raised. What the driver does when it is notified is all that is done
beside it; it raises and lowers no flag. -/
structure Tells (D : Driver (Traced σ)) (lifecycle : LifecycleId) (channel : Channel)
    (w after : World (Traced σ)) : Prop where
  lowered : (w.page channel.page).request.cancelled = false
  raised : (after.page channel.page).request.cancelled = true
  /-- No other session is told. -/
  others : ∀ page, page ≠ channel.page → after.flags page = w.flags page
  notified : ∃ journal, after = { ((w.flagged lifecycle channel).onShared D
    (D.notify .cancellation channel.handle)).2 with journal }
  uses : after.driver.uses = .wake channel.handle :: w.driver.uses
  channels : after.channels = w.channels
  /-- No request is due that is made while the session is notified. -/
  spent : ∀ i ∈ (w.flagged lifecycle channel).askedOnShared D
    (D.notify .cancellation channel.handle), ¬ i.Due

/-- A call on a session is under way, with an operation or none, and its session has been told to
abandon it or not. `before` are the sessions that were woken until it began. -/
structure Standing (id : ChannelId) (channel : Channel) (carried : Option LifecycleId)
    (before : List Handle) (told : Bool) (s : Signals) : Prop where
  opened : s.channels.get? id = some channel
  active : channel.active = true
  carries : ∀ lifecycle, carried = some lifecycle → ∃ l, s.lifecycles.get? lifecycle = some l ∧
    l.progress = if told then .finished else .started
  /-- No other operation is started. -/
  others : ∀ lifecycle l, s.lifecycles.get? lifecycle = some l → l.progress = .started →
    carried = some lifecycle ∧ l.target = some id
  flag : s.flags channel.page = some told
  woken : s.wakings = if told then channel.handle :: before else before

namespace Standing

variable {id : ChannelId} {channel : Channel} {carried : Option LifecycleId} {before : List Handle}
  {told : Bool} {w w' : World (Traced σ)} {token : String}

/-- What a request does that tells the session. -/
theorem tells (hD : Discreet D) (h : Standing id channel carried before false w.signals)
    {lifecycle : LifecycleId} (hcarried : carried = some lifecycle) {l : Lifecycle}
    (hl : w.lifecycles.get? lifecycle = some l) (hp : l.progress = .started)
    {after : World (Traced σ)} (hafter : ∃ journal, after =
      { ((w.flagged lifecycle channel).onShared (Traced.driver D)
        ((Traced.driver D).notify .cancellation channel.handle)).2 with journal }) :
    Tells (Traced.driver D) lifecycle channel w after ∧
      Standing id channel carried before true after.signals := by
  -- the lifecycle of the operation is the one that changes
  have hget : ∀ other, (w.cancelled lifecycle).lifecycles.get? other
      = if other = lifecycle then some l.cancel.2 else w.lifecycles.get? other := by
    intro other
    rw [World.get?_lifecycles_cancelled]
    split
    next heq =>
      rw [heq, hl]
      rfl
    · rfl
  -- it was the only operation that was started
  have hrest : (w.flagged lifecycle channel).AtRest none := by
    intro other l' hl' hp'
    have hl' := (hget other).symm.trans hl'
    split at hl'
    · cases hl'
      exact absurd hp' l.progress_cancel
    next hne =>
      obtain ⟨hother, -⟩ := h.others other l' hl' hp'
      rw [hcarried] at hother
      exact absurd (Option.some.inj hother).symm hne
  obtain ⟨huses, hsignals, hspent⟩ := notified_of_atRest hD hrest channel.handle
  obtain ⟨journal, rfl⟩ := hafter
  -- the flag of the session is the one that changes
  obtain ⟨p, hpage, hflag⟩ := Option.map_eq_some_iff.1 h.flag
  have hflags : ∀ page, (w.flagged lifecycle channel).flags page
      = if page = channel.page then some true else w.flags page := by
    intro page
    show ((w.pages.modify channel.page (·.setCancelled true)).get? page).map _ = _
    rw [Arena.get?_modify]
    split
    next heq =>
      rw [heq, show w.pages.get? channel.page = some p from hpage]
      rfl
    · rfl
  have hafter := congrArg Signals.flags hsignals
  refine ⟨⟨Shared.cancelled_of_flags h.flag, ?_, fun page hne => ?_, ⟨journal, rfl⟩, huses,
    congrArg Signals.channels hsignals, hspent⟩, ?_⟩
  · exact Shared.cancelled_of_flags ((congrFun hafter channel.page).trans
      ((hflags channel.page).trans (if_pos rfl)))
  · exact (congrFun hafter page).trans ((hflags page).trans (if_neg hne))
  · rw [show World.signals { (World.onShared _ _ _).2 with journal } = _ from hsignals]
    refine ⟨h.opened, h.active, fun other hother => ?_, fun other l' hl' hp' => ?_, ?_, ?_⟩
    · rw [hcarried] at hother
      cases hother
      exact ⟨l.cancel.2, (hget lifecycle).trans (if_pos rfl), Lifecycle.cancel_of_started hp⟩
    · cases hrest other l' hl' hp'
    · exact (hflags channel.page).trans (if_pos rfl)
    · exact congrArg (channel.handle :: ·) h.woken

/-- A request that is due is the first one, and tells the session. -/
theorem honour_of_due (hD : Discreet D) (h : Standing id channel carried before told w.signals)
    (hdue : w.Due token) :
    told = false ∧ (∃ lifecycle, w.tokens.get? token = some lifecycle ∧
      Tells (Traced.driver D) lifecycle channel w (w.honour (Traced.driver D) token).2) ∧
      Standing id channel carried before true (w.honour (Traced.driver D) token).2.signals := by
  obtain ⟨lifecycle, l, htoken, hl, hp⟩ := hdue.lifecycle
  obtain ⟨hcarried, htarget⟩ := h.others lifecycle l hl hp
  -- the operation of the call is still started, so its session has not been told
  have htold : told = false := by
    obtain ⟨l', hl', hp'⟩ := h.carries lifecycle hcarried
    rw [show l' = l from Option.some.inj (hl'.symm.trans hl), hp] at hp'
    cases told with
    | false => rfl
    | true => cases hp'
  subst htold
  obtain ⟨htells, hstanding⟩ := h.tells hD hcarried hl hp
    (World.honour_of_due (Traced.driver D) htoken hl hp htarget h.opened h.active)
  exact ⟨rfl, ⟨lifecycle, htoken, htells⟩, hstanding⟩

/-- All requests of a trail: the session is told in the end if it was told in the beginning, or if a
request on the way was due. -/
theorem trail (hD : Discreet D) {rest : List (Interruption (Traced σ))} (t : Trail D w rest w')
    (h : Standing id channel carried before told w.signals) :
    ∃ told', Standing id channel carried before told' w'.signals ∧
      (told' = true ↔ told = true ∨ ∃ i ∈ rest, i.Due) := by
  induction t generalizing told with
  | calm same => exact ⟨told, same ▸ h, by simp⟩
  | @asked w w' i rest same later ih =>
    have hfound : Standing id channel carried before told i.world.signals := same ▸ h
    by_cases hdue : i.Due
    · -- the request tells the session, which has not been told before
      obtain ⟨-, -, hafter⟩ := hfound.honour_of_due hD hdue
      obtain ⟨told', hend, htold'⟩ := ih hafter
      exact ⟨told', hend, by simp [htold', hdue]⟩
    · -- the request changes nothing that matters
      have hsame : (i.after (Traced.driver D)).signals = i.world.signals :=
        World.signals_honour D hdue
      obtain ⟨told', hend, htold'⟩ := ih (hsame ▸ hfound)
      exact ⟨told', hend, by simp [htold', hdue]⟩

/-- What a request of a trail finds. -/
theorem found (hD : Discreet D) {first rest : List (Interruption (Traced σ))}
    {i : Interruption (Traced σ)} (t : Trail D w (first ++ i :: rest) w')
    (h : Standing id channel carried before false w.signals) :
    ((i.world.page channel.page).request.cancelled = true ↔ ∃ j ∈ first, j.Due) ∧
      (i.Due → (∀ j ∈ first, ¬ j.Due) ∧ ∃ lifecycle, i.world.tokens.get? i.token = some lifecycle ∧
        Tells (Traced.driver D) lifecycle channel i.world (i.after (Traced.driver D))) := by
  obtain ⟨told, hfound, htold⟩ := h.trail hD t.split.1
  simp only [Bool.false_eq_true, false_or] at htold
  refine ⟨?_, fun hdue => ?_⟩
  · rw [Shared.cancelled_of_flags hfound.flag]
    exact htold
  · obtain ⟨hfirst, htells, -⟩ := hfound.honour_of_due hD hdue
    refine ⟨fun j hj hjdue => ?_, htells⟩
    rw [hfirst] at htold
    cases htold.2 ⟨j, hj, hjdue⟩

end Standing

/-! ## When the session is taken down -/

/-- The session takes no more calls; its flag and the sessions that were woken are known. -/
structure Shut (id : ChannelId) (flags : PageId → Option Bool) (woken : List Handle) (s : Signals) :
    Prop where
  shut : ∀ channel, s.channels.get? id = some channel → channel.active = false
  others : ∀ lifecycle l, s.lifecycles.get? lifecycle = some l → l.progress = .started →
    l.target = some id
  flags : s.flags = flags
  woken : s.wakings = woken

/-- No request tells a session that takes no more calls. -/
theorem Shut.honour {id : ChannelId} {flags : PageId → Option Bool} {woken : List Handle}
    (token : String) (w : World (Traced σ)) (h : Shut id flags woken w.signals) :
    Shut id flags woken (w.honour (Traced.driver D) token).2.signals := by
  by_cases hdue : w.Due token
  · obtain ⟨lifecycle, l, htoken, hl, hp⟩ := hdue.lifecycle
    obtain ⟨journal, he⟩ := World.honour_of_shut (Traced.driver D) htoken hl hp
      (h.others lifecycle l hl hp) h.shut
    rw [he]
    -- neither flags nor wake-ups depend on the lifecycle that changed
    refine ⟨h.shut, fun other l' hl' hp' => ?_, h.flags, h.woken⟩
    have hl' : (w.cancelled lifecycle).lifecycles.get? other = some l' := hl'
    rw [World.get?_lifecycles_cancelled] at hl'
    split at hl'
    · -- the operation that the request was about is finished
      obtain ⟨l₀, -, rfl⟩ := Option.map_eq_some_iff.1 hl'
      exact absurd hp' l₀.progress_cancel
    · exact h.others other l' hl' hp'
  · rw [World.signals_honour D hdue]
    exact h

/-- Taking the session down leaves the flags, and wakes none. -/
theorem Standing.teardown {id : ChannelId} {channel : Channel} {carried : Option LifecycleId}
    {before : List Handle} {told : Bool} {w : World (Traced σ)}
    (h : Standing id channel carried before told w.signals) :
    (w.teardown (Traced.driver D) id).flags = w.flags ∧
      wakings (w.teardown (Traced.driver D) id).driver.uses = wakings w.driver.uses := by
  -- the session is shut before it is closed at the driver
  let shut := w.onChannel id fun ch => { ch with active := false }
  have hshut : Shut id w.flags (wakings w.driver.uses) shut.signals := by
    refine ⟨fun ch hch => ?_, fun lifecycle l hl hp => (h.others lifecycle l hl hp).2, rfl, rfl⟩
    have hch : (w.channels.modify id fun ch => { ch with active := false }).get? id = some ch := hch
    rw [Arena.get?_modify, if_pos rfl] at hch
    obtain ⟨-, -, rfl⟩ := Option.map_eq_some_iff.1 hch
    rfl
  have hclosed := (trail_closeSession D channel.handle shut).preserves Shut.honour hshut
  obtain hdown | ⟨e, hdown⟩ := World.teardown_of_active (D := Traced.driver D) (w := w) h.opened
    h.active <;> rw [hdown] <;> exact ⟨hclosed.flags, hclosed.woken⟩

end Call

end TeeClient

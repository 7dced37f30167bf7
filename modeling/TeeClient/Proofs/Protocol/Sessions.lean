import TeeClient.Proofs.Protocol.Calls
import TeeClient.Proofs.Requests

/-!
# Opening, using and closing sessions by the protocol

A session that the driver opened in a context stays in the books under that context until it is
closed at the driver, and then it is no longer active (`World.OpenedIn`). `Accounted` is what every
call on a session preserves of that; opening a session adds one, closing it takes one away.

Main statements:

* `Balanced.openSession`, `Balanced.invoke` and `Balanced.closeSession`: what each of the three
  leaves, whatever the driver answers.
-/

namespace TeeClient

open Traced (driver)

variable {σ : Type} {D : Driver σ} {w w' w'' : World (Traced σ)}

/-- The session was opened in a context, and is in the books under it while it is active. -/
def World.OpenedIn (w : World (Traced σ)) (id : ChannelId) (context : String) : Prop :=
  ∃ ch, w.channels.get? id = some ch ∧
    (ch.active = true → (books w.driver.uses).sessions.get? ch.handle = some context)

/-- What a step leaves of the account of all sessions, but for one that it may forget. -/
structure Accounted (gone : Option ChannelId) (w w' : World (Traced σ)) : Prop where
  balanced : Balanced w'
  call : (books w'.driver.uses).call = (books w.driver.uses).call
  devices : (books w'.driver.uses).devices = (books w.driver.uses).devices
  openedIn : ∀ {id : ChannelId} {context : String}, gone ≠ some id →
    w.OpenedIn id context → w'.OpenedIn id context
  absent : ∀ {id : ChannelId}, gone = some id ∨ w.channels.get? id = none →
    w'.channels.get? id = none

/-- What a step leaves that adds one session to the account. -/
structure Enrolled (id : ChannelId) (context : String) (w w' : World (Traced σ)) : Prop where
  balanced : Balanced w'
  call : (books w'.driver.uses).call = (books w.driver.uses).call
  devices : (books w'.driver.uses).devices = (books w.driver.uses).devices
  fresh : w.channels.get? id = none
  enrolled : w'.OpenedIn id context
  openedIn : ∀ {other : ChannelId} {context : String}, w.OpenedIn other context →
    w'.OpenedIn other context
  absent : ∀ {other : ChannelId}, other ≠ id → w.channels.get? other = none →
    w'.channels.get? other = none

namespace Accounted

/-- Nothing need happen. -/
theorem refl (h : Balanced w) : Accounted none w w where
  balanced := h
  call := rfl
  devices := rfl
  openedIn _ ho := ho
  absent hn := hn.resolve_left nofun

/-- Two steps that leave the account of the sessions leave it one after the other. -/
theorem trans {gone : Option ChannelId} (h : Accounted none w w') (h' : Accounted gone w' w'') :
    Accounted gone w w'' where
  balanced := h'.balanced
  call := h'.call.trans h.call
  devices := h'.devices.trans h.devices
  openedIn hne ho := h'.openedIn hne (h.openedIn nofun ho)
  absent hn := h'.absent (hn.imp_right fun hn => h.absent (.inr hn))

/-- What leaves the sessions and what the books say of them leaves the account. -/
theorem of_eq (h : Balanced w') (hc : w'.channels = w.channels)
    (hs : (books w'.driver.uses).standing = (books w.driver.uses).standing) :
    Accounted none w w' where
  balanced := h
  call := congrArg (·.1) hs
  devices := congrArg (·.2.1) hs
  openedIn := by
    rintro id context - ⟨ch, hget, hopen⟩
    refine ⟨ch, by rw [hc]; exact hget, fun ha => ?_⟩
    rw [show (books w'.driver.uses).sessions = _ from congrArg (·.2.2) hs]
    exact hopen ha
  absent hn := by
    rw [hc]
    exact hn.resolve_left nofun

/-- What a call leaves of a session, it leaves of the account of all. -/
theorem of_aftermath {id : ChannelId} {channel : Channel} (hw : Balanced w) (hw' : Balanced w')
    (hget : w.channels.get? id = some channel) (ha : channel.active = true)
    (haft : Aftermath id channel.handle w w') : Accounted none w w' := by
  cases haft with
  | kept channels stands => exact of_eq hw' channels stands
  | closed channels call devices sessions =>
    refine ⟨hw', call, devices, ?_, ?_⟩
    · rintro id' context - ⟨ch, hch, hopen⟩
      by_cases he : id' = id
      · -- the session that was closed is not active
        refine ⟨{ channel with active := false }, ?_, fun h => by cases h⟩
        rw [channels, he, Arena.get?_modify, if_pos rfl, hget]
        rfl
      · refine ⟨ch, ?_, fun hact => ?_⟩
        · rw [channels, Arena.get?_modify, if_neg he]
          exact hch
        · rw [sessions, Table.get?_erase_ne]
          · exact hopen hact
          · exact fun hh => he (hw.unique hch hget hact ha hh)
    · intro id' hn
      rw [channels, Arena.get?_modify, hn.resolve_left nofun]
      split <;> rfl

/-- What changes neither the uses nor the sessions leaves the account. -/
theorem of_same {gone : Option ChannelId} (h : Accounted gone w w')
    (hu : w''.driver.uses = w'.driver.uses) (hc : w''.channels = w'.channels) :
    Accounted gone w w'' where
  balanced := h.balanced.congr hu hc
  call := by rw [hu]; exact h.call
  devices := by rw [hu]; exact h.devices
  openedIn hne ho := by
    obtain ⟨ch, hget, hopen⟩ := h.openedIn hne ho
    exact ⟨ch, by rw [hc]; exact hget, by rw [hu]; exact hopen⟩
  absent hn := by rw [hc]; exact h.absent hn

/-- A log record leaves the account. -/
theorem log {gone : Option ChannelId} (h : Accounted gone w w') (r : Record) :
    Accounted gone w (w'.log r) := h.of_same rfl rfl

end Accounted

namespace Enrolled

variable {id : ChannelId} {context : String}

/-- A session stays enrolled while others are worked on. -/
theorem trans (h : Enrolled id context w w') (h' : Accounted none w' w'') :
    Enrolled id context w w'' where
  balanced := h'.balanced
  call := h'.call.trans h.call
  devices := h'.devices.trans h.devices
  fresh := h.fresh
  enrolled := h'.openedIn nofun h.enrolled
  openedIn ho := h'.openedIn nofun (h.openedIn ho)
  absent hne hn := h'.absent (.inr (h.absent hne hn))

/-- Where a session that was just enrolled is forgotten, nothing has changed. -/
theorem forgotten (h : Enrolled id context w w') (h' : Accounted (some id) w' w'') :
    Accounted none w w'' where
  balanced := h'.balanced
  call := h'.call.trans h.call
  devices := h'.devices.trans h.devices
  openedIn := by
    rintro other context - ho
    refine h'.openedIn ?_ (h.openedIn ho)
    -- the session that was forgotten was not there before
    rintro ⟨⟩
    obtain ⟨ch, hch, -⟩ := ho
    rw [h.fresh] at hch
    cases hch
  absent := by
    intro other hn
    by_cases he : other = id
    · exact h'.absent (.inl (by rw [he]))
    · exact h'.absent (.inr (h.absent he (hn.resolve_left nofun)))

end Enrolled

namespace Balanced

variable {id : ChannelId} {channel : Channel}

/-- Carrying an operation, or none, leaves the account. -/
theorem accounted_carry (h : Balanced w) (hget : w.channels.get? id = some channel)
    (ha : channel.active = true) (instruction : Instruction) (command : UInt32)
    (op : Option Operation) :
    Accounted none w (Call.carry (driver D) id channel instruction command op w).world := by
  obtain ⟨hb, haft⟩ := h.carry (D := D) hget ha instruction command op
  exact .of_aftermath h hb hget ha haft

/-- Taking a session down leaves the account. -/
theorem accounted_teardown (h : Balanced w) (id : ChannelId) :
    Accounted none w (w.teardown (driver D) id) := by
  cases hget : w.channels.get? id with
  | none => simpa only [World.teardown, hget] using Accounted.refl h
  | some channel =>
    cases ha : channel.active with
    | false => simpa [World.teardown, hget, ha] using Accounted.refl h
    | true =>
      obtain ⟨hb, haft⟩ := h.teardown (D := D) hget ha
      exact .of_aftermath h hb hget ha haft

/-- A session that is taken down may be forgotten. -/
theorem accounted_forget (h : Balanced w)
    (hi : ∀ ch, w.channels.get? id = some ch → ch.active = false) :
    Accounted (some id) w (w.forget id) := by
  have hbooks : (w.forget id).driver = w.driver := World.driver_forget id w
  have hget := fun other => World.get?_channels_forget id other w
  -- the sessions that are left were there before
  have hkept : ∀ {other ch}, (w.forget id).channels.get? other = some ch →
      w.channels.get? other = some ch := by
    intro other ch hch
    rw [hget] at hch
    split at hch
    · cases hch
    · exact hch
  refine ⟨⟨by rw [hbooks]; exact h.lawful, by rw [hbooks]; exact h.settled, fun handle => ?_, ?_⟩,
    by rw [hbooks], by rw [hbooks], ?_, ?_⟩
  · rw [hbooks, ← h.hears_iff]
    constructor
    · rintro ⟨other, ch, hch, hact, he⟩
      exact ⟨other, ch, hkept hch, hact, he⟩
    · rintro ⟨other, ch, hch, hact, he⟩
      refine ⟨other, ch, ?_, hact, he⟩
      rw [hget, if_neg]
      · exact hch
      · rintro rfl
        rw [hi ch hch] at hact
        cases hact
  · intro id₁ id₂ ch₁ ch₂ h₁ h₂
    exact h.unique (hkept h₁) (hkept h₂)
  · rintro other context hne ⟨ch, hch, hopen⟩
    refine ⟨ch, ?_, by rw [hbooks]; exact hopen⟩
    rw [hget, if_neg fun he => hne (by rw [he])]
    exact hch
  · intro other hn
    rw [hget]
    split
    · rfl
    next hne => exact hn.resolve_left fun he => hne (Option.some.inj he).symm

/-- Taking a session down and forgetting it leaves the account of the others. -/
theorem accounted_end (h : Balanced w) (id : ChannelId) (r : Record) :
    Accounted (some id) w (((w.teardown (driver D) id).log r).forget id) := by
  have ht := (h.accounted_teardown (D := D) id).log r
  refine ht.trans (ht.balanced.accounted_forget fun ch hch => ?_)
  have hget := World.get?_channels_teardown (D := driver D) id id w
  rw [if_pos rfl] at hget
  obtain ⟨ch', -, rfl⟩ := Option.map_eq_some_iff.1 (hget.symm.trans hch)
  rfl

/-! ## The three calls on sessions -/

/-- Invoking a command leaves the account. -/
theorem invoke (h : Balanced w) (id : ChannelId) (command : UInt32) (op : Option Operation) :
    Accounted none w (w.invoke (driver D) id command op).world := by
  obtain ⟨channel, hget, ha, hcall⟩ | ⟨-, hrefused⟩ :=
    World.invoke_cases (driver D) id command op w
  · rw [hcall]
    exact h.accounted_carry hget ha .invokeCommand command op
  · rw [hrefused]
    exact .refl h

/-- Closing a session leaves the account of the others. -/
theorem closeSession (h : Balanced w) (id : ChannelId) :
    Accounted (some id) w (w.closeSession (driver D) id) := by
  cases hget : w.channels.get? id with
  | none =>
    rw [World.closeSession_of_unknown hget]
    refine ⟨h, rfl, rfl, fun _ ho => ho, fun hn => ?_⟩
    rcases hn with he | hn
    · cases he
      exact hget
    · exact hn
  | some channel =>
    cases ha : channel.active with
    | true =>
      obtain ⟨r, hclosed⟩ := World.closeSession_of_active (D := driver D) hget ha
      have hc := h.accounted_carry (D := D) hget ha .closeSession 0 none
      rw [hclosed]
      cases r with
      | none => exact hc.trans (hc.balanced.accounted_end id _)
      | some r => exact (hc.log r).trans ((hc.log r).balanced.accounted_end id _)
    | false =>
      rw [World.closeSession_of_inactive hget ha]
      have hl := (Accounted.refl h).log (.sessionClosed channel.handle)
      refine hl.trans (hl.balanced.accounted_forget fun ch hch => ?_)
      rw [show (w.log _).channels = w.channels from rfl, hget] at hch
      cases hch
      exact ha

section Opening

variable {context session : String} {destination : Uuid} {login : UInt32 × Option UInt32}
  {operation : Option String} {w₁ : World (Traced σ)}

/-- An attempt to open a session that the driver refused leaves the account. -/
theorem accounted_refused (h : Balanced w) {e : DriverFault} (hc : w₁.channels = w.channels)
    (hl : Lawful w₁.driver.uses)
    (hb : books w₁.driver.uses = (books w.driver.uses).enter (.openSession (.error e))) :
    Accounted none w w₁ := by
  have hs : (books w₁.driver.uses).standing = (books w.driver.uses).standing := by rw [hb]; rfl
  refine .of_eq ⟨hl, ?_, fun handle => ?_, ?_⟩ hc hs
  · rw [hb]; exact h.settled
  · rw [Traced.hears_congr hc, h.hears_iff, hb]; rfl
  · rw [hc]; exact h.unique

/-- The session that was adopted hears, and the others do as before. -/
theorem hears_adopt (handle : Handle) (page : PageId) (other : Handle) :
    (w₁.adopt handle page).Hears other ↔ w₁.Hears other ∨ other = handle := by
  constructor
  · rintro ⟨id, ch, hch, ha, rfl⟩
    rw [World.get?_channels_adopt] at hch
    split at hch
    · cases hch
      exact .inr rfl
    · exact .inl ⟨id, ch, hch, ha, rfl⟩
  · rintro (⟨id, ch, hch, ha, rfl⟩ | rfl)
    · exact ⟨id, ch, World.get?_channels_adopt_of_get? handle page hch, ha, rfl⟩
    · exact ⟨_, _, World.get?_channels_adopt_fresh other page w₁, rfl, rfl⟩

/-- A session that the driver opened under a new handle is enrolled when the client has its end of
it. -/
theorem enrolled_adopt (h : Balanced w) {handle : Handle} (page : PageId)
    (hcall : (books w.driver.uses).call
      = some (.openSession context session destination login operation))
    (hc : w₁.channels = w.channels) (hl : Lawful w₁.driver.uses)
    (hb : books w₁.driver.uses = (books w.driver.uses).enter (.openSession (.ok handle)))
    (hnew : (books w.driver.uses).sessions.contains handle = false) :
    Enrolled w₁.channels.fresh context w (w₁.adopt handle page) := by
  have hsessions : (books w₁.driver.uses).sessions
      = (books w.driver.uses).sessions.set handle context := by
    rw [hb]
    show (books w.driver.uses).sessions.set handle ((books w.driver.uses).context?.getD "") = _
    rw [Books.context?, hcall]
    rfl
  have hget : ∀ id, (w₁.adopt handle page).channels.get? id
      = if id = w₁.channels.fresh then some ⟨handle, page, true⟩ else w.channels.get? id := by
    intro id
    rw [← hc]
    exact World.get?_channels_adopt handle page id w₁
  have hfresh : w.channels.get? w₁.channels.fresh = none := by
    rw [← hc]
    exact Arena.get?_fresh w₁.channels
  -- no session was active under the new handle
  have hne : ∀ {id ch}, w.channels.get? id = some ch → ch.active = true → ch.handle ≠ handle := by
    intro id ch hch ha he
    have hopen := (h.hears_iff ch.handle).1 ⟨id, ch, hch, ha, rfl⟩
    rw [he, hnew] at hopen
    cases hopen
  refine ⟨⟨hl, by rw [World.adopt, hb]; exact h.settled, fun other => ?_, ?_⟩, ?_, ?_, hfresh, ?_,
    ?_, ?_⟩
  · show (w₁.adopt handle page).Hears other ↔ (books w₁.driver.uses).sessions.contains other = true
    rw [hears_adopt, Traced.hears_congr hc, h.hears_iff, hsessions, Table.contains_iff,
      Table.contains_iff, Table.get?_set]
    by_cases he : other = handle
    · simp [he]
    · simp [he]
  · intro id₁ id₂ ch₁ ch₂ h₁ h₂ ha₁ ha₂ he
    rw [hget] at h₁ h₂
    split at h₁ <;> split at h₂
    next e₁ e₂ => rw [e₁, e₂]
    next =>
      cases h₁
      exact absurd he.symm (hne h₂ ha₂)
    next =>
      cases h₂
      exact absurd he (hne h₁ ha₁)
    next => exact h.unique h₁ h₂ ha₁ ha₂ he
  · rw [World.adopt, hb]; rfl
  · show (books w₁.driver.uses).devices = _
    rw [hb]
    rfl
  · refine ⟨_, World.get?_channels_adopt_fresh handle page w₁, fun _ => ?_⟩
    show (books w₁.driver.uses).sessions.get? handle = some context
    rw [hsessions, Table.get?_set_self]
  · rintro other context' ⟨ch, hch, hopen⟩
    refine ⟨ch, World.get?_channels_adopt_of_get? handle page (hc ▸ hch), fun ha => ?_⟩
    · show (books w₁.driver.uses).sessions.get? ch.handle = some context'
      rw [hsessions, Table.get?_set_ne _ _ (hne hch ha)]
      exact hopen ha
  · intro other hother hn
    rw [hget, if_neg hother]
    exact hn

/-- An attempt to open a session enrols one or leaves the account, provided that the driver opens no
session under the handle of one that is open. -/
theorem openSession (h : Balanced w) (method : ConnectionMethod) (op : Option Operation)
    (hcall : (books w.driver.uses).call
      = some (.openSession context session destination login operation))
    (hdevice : context ∈ (books w.driver.uses).devices)
    (hd : DistinctHandles (w.openSession (driver D) destination method op).world.driver.uses) :
    (∀ failure, (w.openSession (driver D) destination method op).result = .error failure →
      Accounted none w (w.openSession (driver D) destination method op).world) ∧
    ∀ id, (w.openSession (driver D) destination method op).result = .ok id →
      Enrolled id context w (w.openSession (driver D) destination method op).world := by
  -- the driver's answer is in the uses; whatever was added since, the handles were distinct then
  have hd₁ : DistinctHandles ((w.offer destination).onDesk (driver D)
      ((driver D).openSession destination method.login w.pages.fresh)).2.driver.uses := by
    have hp : ∀ o, op = some o → ∀ address len, o.Plans address len → True :=
      fun _ _ _ _ _ => trivial
    generalize hu : ((w.offer destination).onDesk (driver D)
      ((driver D).openSession destination method.login w.pages.fresh)).2.driver.uses = uses
    obtain ⟨new, he, -⟩ := World.openSession_preserves_from
      (Q := fun t : Traced σ => Issues (fun _ => True) uses t.uses)
      (driverSafe_issues D (fun _ _ => True) uses).toCallSafe hp
      (show Issues (fun _ => True) uses _ by rw [hu]; exact .refl uses)
    exact .of_suffix ⟨new, he.symm⟩ hd
  obtain ⟨uses, hw, hu⟩ := Traced.uses_enterAfter D .openSession
    (D.openSession destination method.login w.pages.fresh) (w.offer destination)
  have hc := World.channels_onDesk (driver D)
    ((driver D).openSession destination method.login w.pages.fresh) (w.offer destination)
  rcases ho : (w.offer destination).onDesk (driver D)
    ((driver D).openSession destination method.login w.pages.fresh) with ⟨result, w₁⟩
  rw [ho] at hd₁ hc
  rw [show World.onDesk (driver D) (Traced.enterAfter _ _) _ = (result, w₁) from ho] at hu
  simp only at hu hd₁
  rw [hu] at hd₁
  -- wake-ups before the answer leave the books, so the opening is permitted
  obtain ⟨hl, hb⟩ := Midway.books_woken h.lawful hw fun handle => (h.hears_iff handle).1
  have hlawful : Lawful w₁.driver.uses := by
    rw [hu]
    refine ⟨⟨context, session, destination, login, operation, ?_, ?_⟩, hl⟩
    · rw [hb]; exact hcall
    · rw [hb]; exact hdevice
  have hbooks : books w₁.driver.uses = (books w.driver.uses).enter (.openSession result) := by
    rw [hu, ← hb]; rfl
  cases result with
  | error e =>
    have hr : Accounted none w w₁ := h.accounted_refused hc hlawful hbooks
    rw [World.openSession_of_error ho]
    refine ⟨fun _ _ => ?_, fun _ hid => by cases hid⟩
    split
    · exact (hr.log (.openFailed e)).of_same rfl rfl
    · exact hr.of_same rfl rfl
  | ok handle =>
    have hnew : (books w.driver.uses).sessions.contains handle = false := by
      rw [← hb]
      simpa [Use.opened?] using hd₁.1
    have henrolled := h.enrolled_adopt w.pages.fresh hcall hc hlawful hbooks hnew
    have hget : (w₁.adopt handle w.pages.fresh).channels.get? w₁.channels.fresh
        = some ⟨handle, w.pages.fresh, true⟩ :=
      World.get?_channels_adopt_fresh handle w.pages.fresh w₁
    have hcarried := henrolled.trans
      (henrolled.balanced.accounted_carry (D := D) hget rfl .openSession 0 op)
    rw [World.openSession_of_ok ho]
    simp only
    split
    · refine ⟨fun _ hf => (by cases hf), fun id hid => ?_⟩
      cases hid
      exact hcarried.trans ((Accounted.refl hcarried.balanced).log _)
    next failure _ =>
      -- the session was given up again: the client has no trace of it
      refine ⟨fun _ _ => ?_, fun _ hid => by cases hid⟩
      have hl := (Accounted.refl hcarried.balanced).log (.openRejected handle failure)
      exact hcarried.forgotten (hl.trans (hl.balanced.accounted_end _ _))

end Opening

end Balanced

end TeeClient

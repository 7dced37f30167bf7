import TeeClient.Proofs.Lending
import TeeClient.Proofs.Protocol

/-!
# A call keeps to the protocol

Whatever the driver answers, a call on an open session uses the driver as the protocol permits.
While it is under way the mappings in the books are those that the call holds (`Underway`); when it
is over none is in force, and the session is either open as before or closed and no longer active
(`Aftermath`).

Main statements:

* `sessionSafe_settled`: calls give their mappings back;
* `Underway.lends` and `Underway.exchange`: the parts of a call;
* `Balanced.carry` and `Balanced.teardown`: whole calls.
-/

namespace TeeClient

open Traced (driver)

variable {σ : Type} {D : Driver σ} {w w' : World (Traced σ)}

/-- The mappings in the books are those that the call holds. -/
def Lent (handle : Handle) (held : Holdings) (w : World (Traced σ)) : Prop :=
  (books w.driver.uses).mapped.Perm (held.entries handle)

/-- Waking sessions leaves the mappings in the books. -/
theorem mapped_woken {awake : Handle → Prop} {uses uses' : List Use} (hw : Woken awake uses uses') :
    (books uses').mapped = (books uses).mapped :=
  Traced.of_woken (R := fun uses' => (books uses').mapped = (books uses).mapped)
    (fun _ _ h => h) hw rfl

/-- The mappings in the books follow those that the call holds: one that succeeds is entered, and it
is struck out when it is removed. -/
theorem lends_lent (D : Driver σ) (handle : Handle) : Lends (driver D) handle (Lent handle) where
  log _ h := h
  onPage _ _ h := h
  refused {held w w' address len access e} h ho := by
    obtain ⟨uses, hw, hu⟩ := Traced.uses_enterAfter D (.map handle address len access)
      (D.map handle address len access) w
    rw [show w.onDesk (driver D) (Traced.enterAfter _ _) = _ from ho] at hu
    unfold Lent
    rw [hu]
    show (books uses).mapped.Perm _
    rw [mapped_woken hw]
    exact h
  mapped {held w w' slot address len access info} h hslot ho := by
    obtain ⟨uses, hw, hu⟩ := Traced.uses_enterAfter D (.map handle address len access)
      (D.map handle address len access) w
    rw [show w.onDesk (driver D) (Traced.enterAfter _ _) = _ from ho] at hu
    unfold Lent
    rw [hu]
    show ((handle, ⟨address, info⟩) :: (books uses).mapped).Perm _
    rw [mapped_woken hw]
    exact (List.Perm.cons _ h).trans (Holdings.entries_put_some handle _ hslot).symm
  unmapped {held w slot mapping} h hslot := by
    have hu := Traced.uses_enterBefore D (.unmap handle mapping.address mapping.info)
      (D.unmap handle mapping.address mapping.info) w
    -- the mapping was in the books, and is struck out of them
    have := (List.Perm.trans h (Holdings.entries_put_none handle hslot)).erase (handle, mapping)
    rw [List.erase_cons_head] at this
    unfold Lent
    rw [show (driver D).unmap handle mapping.address mapping.info = Traced.enterBefore _ _ from rfl,
      mapped_woken hu]
    exact this

/-! ## Calls give their mappings back -/

section Settled

/-- A primitive during which the secure world runs leaves the mappings if its use does. -/
theorem mapped_enterShared {α : Type} {use : α → Use} (act : Shared σ → Reply (Shared σ) α)
    (huse : ∀ result (b : Books), (b.enter (use result)).mapped = b.mapped) (w : World (Traced σ)) :
    (books (w.onShared (driver D) (Traced.enterShared use act)).2.driver.uses).mapped
      = (books w.driver.uses).mapped := by
  obtain ⟨uses, hw, hu⟩ := Traced.uses_enterShared D use act w
  rw [hu, books, huse, mapped_woken hw]

/-- A primitive that is entered before it runs leaves the mappings if its use does. -/
theorem mapped_enterBefore {α : Type} {use : Use} (act : Desk σ → Reply (Desk σ) α)
    (huse : ∀ b : Books, (b.enter use).mapped = b.mapped) (w : World (Traced σ)) :
    (books (w.onDesk (driver D) (Traced.enterBefore use act)).2.driver.uses).mapped
      = (books w.driver.uses).mapped := by
  rw [mapped_woken (Traced.uses_enterBefore D use act w), books, huse]

/-- The exchange of signals leaves the mappings. -/
theorem mapped_exchange (handle : Handle) (w : World (Traced σ)) :
    (books (Call.exchange (driver D) handle w).2.driver.uses).mapped
      = (books w.driver.uses).mapped := by
  refine Call.exchange_preserves
    (P := fun w' : World (Traced σ) => (books w'.driver.uses).mapped = (books w.driver.uses).mapped)
    (fun _ _ _ h => h) (fun w' h => ?_) (fun w' h => ?_) (fun w' h => ?_) rfl
  · exact (mapped_enterShared (D.notify .call handle) (fun _ _ => rfl) w').trans h
  · exact (mapped_enterShared (D.wait handle none) (fun _ _ => rfl) w').trans h
  · exact (mapped_enterBefore (D.errorCode handle) (fun _ => rfl) w').trans h

/-- Taking a session down leaves the mappings. -/
theorem mapped_teardown (id : ChannelId) (w : World (Traced σ)) :
    (books (w.teardown (driver D) id).driver.uses).mapped = (books w.driver.uses).mapped :=
  World.teardown_preserves_of
    (P := fun w' : World (Traced σ) => (books w'.driver.uses).mapped = (books w.driver.uses).mapped)
    (fun _ _ _ h => h) (fun _ _ _ h => h)
    (fun w' handle h => (mapped_enterBefore (D.closeSession handle) (fun _ => rfl) w').trans h)
    id rfl

/-- A round trip leaves no mapping in force, if none was. -/
theorem settled_roundTrip (id : ChannelId) (channel : Channel) (instruction : Instruction)
    (command : UInt32) (op : Option Operation) (h : (books w.driver.uses).mapped = []) :
    (books (Call.roundTrip (driver D) id channel instruction command op w).world.driver.uses).mapped
      = [] := by
  have hlends := lends_lent D channel.handle
  -- nothing is lent when the call begins, and what it lends it holds
  have hnone : Lent channel.handle .none w := by
    unfold Lent
    rw [h]
    exact .refl _
  refine List.perm_nil.1 (Call.roundTrip_preserves_from (R := Lent channel.handle)
    (hlends.publish instruction command op hnone) (fun held w' h => ?_)
    (fun op held exchanged w' => hlends.collect op exchanged) (fun w' r h => ?_))
  · -- the exchange neither lends nor gives back
    unfold Lent
    rw [mapped_exchange]
    exact h
  · unfold Lent
    rw [mapped_teardown]
    exact h

/-- No call on a session leaves a mapping in force, whatever handles the driver gives out. -/
theorem sessionSafe_settled (D : Driver σ) :
    SessionSafe (driver D) fun t : Traced σ => (books t.uses).mapped = [] where
  carry w id channel instruction command op h := by
    cases op with
    | none => exact settled_roundTrip id channel instruction command none h
    | some op =>
      exact settled_roundTrip (w := w.onLifecycle op.lifecycle (·.begin id)) id channel instruction
        command (some op) h
  closeSession w handle h :=
    (mapped_enterBefore (D.closeSession handle) (fun _ => rfl) w).trans h
  openSession w destination login page h := by
    obtain ⟨uses, hw, hu⟩ :=
      Traced.uses_enterAfter D .openSession (D.openSession destination login page) w
    have hmapped : (books uses).mapped = [] := (mapped_woken hw).trans h
    show (books (w.onDesk (driver D) (Traced.enterAfter .openSession _)).2.driver.uses).mapped = []
    rw [hu]
    cases (w.onDesk (driver D) (Traced.enterAfter .openSession _)).1 with
    | error e => exact hmapped
    | ok handle => exact hmapped

end Settled

/-! ## A call under way -/

/-- A call on a session is under way, and holds some mappings. Only open sessions are active. -/
structure Underway (standing : Option ClientCall × List String × Table Handle String)
    (handle : Handle) (held : Holdings) (w : World (Traced σ)) : Prop where
  midway : Midway standing handle held w.driver.uses
  opened : standing.2.2.contains handle = true
  hears : ∀ h, w.Hears h → standing.2.2.contains h = true

namespace Underway

variable {standing : Option ClientCall × List String × Table Handle String} {handle : Handle}
  {held : Holdings}

/-- What changes neither the uses nor the sessions leaves the call under way. -/
theorem congr (h : Underway standing handle held w) (hu : w'.driver.uses = w.driver.uses)
    (hc : w'.channels = w.channels) : Underway standing handle held w' := by
  refine ⟨by rw [hu]; exact h.midway, h.opened, ?_⟩
  rw [Traced.hears_congr hc]
  exact h.hears

/-- A log record leaves the call under way. -/
theorem log (h : Underway standing handle held w) (r : Record) :
    Underway standing handle held (w.log r) := h.congr rfl rfl

/-- A change to a page leaves the call under way. -/
theorem onPage (h : Underway standing handle held w) (id : PageId) (f : Page → Page) :
    Underway standing handle held (w.onPage id f) := h.congr rfl rfl

/-- The session is open in the books. -/
theorem contains (h : Underway standing handle held w) {uses : List Use}
    (hm : Midway standing handle held uses) : (books uses).sessions.contains handle = true := by
  rw [hm.contains]
  exact h.opened

/-! ### Primitives -/

/-- The books follow what the call holds: a mapping that fails changes nothing, one that succeeds is
held, and it is removed as it was made. -/
theorem lends (D : Driver σ) (standing : Option ClientCall × List String × Table Handle String)
    (handle : Handle) : Lends (driver D) handle (Underway standing handle) := by
  have hlent := lends_lent D handle
  -- a use of the driver leaves the sessions
  have hears : ∀ {held : Holdings} {w w' : World (Traced σ)}, Underway standing handle held w →
      w'.channels = w.channels → ∀ h, w'.Hears h → standing.2.2.contains h = true := by
    intro held w w' h hc
    rw [Traced.hears_congr hc]
    exact h.hears
  -- mapping is permitted on an open session, whatever comes of it
  have hmap : ∀ {held : Holdings} {w w' : World (Traced σ)} {address len access result},
      Underway standing handle held w →
      w.onDesk (driver D) ((driver D).map handle address len access) = (result, w') →
      w'.channels = w.channels ∧ Lawful w'.driver.uses ∧
        (books w'.driver.uses).standing = standing := by
    intro held w w' address len access result h ho
    obtain ⟨uses, hw, hu⟩ := Traced.uses_enterAfter D (.map handle address len access)
      (D.map handle address len access) w
    have hc := World.channels_onDesk (driver D) ((driver D).map handle address len access) w
    rw [ho] at hc
    rw [show w.onDesk (driver D) (Traced.enterAfter _ _) = _ from ho] at hu
    have hm := (h.midway.woken hw h.hears).1
    rw [hu]
    refine ⟨hc, ⟨h.contains hm, hm.lawful⟩, ?_⟩
    cases result <;> exact hm.stands
  refine ⟨fun r h => h.log r, fun id f h => h.onPage id f, fun h ho => ?_, fun h hslot ho => ?_,
    fun {held w slot mapping} h hslot => ?_⟩
  · obtain ⟨hc, lawful, stands⟩ := hmap h ho
    exact ⟨⟨lawful, stands, hlent.refused h.midway.mapped ho⟩, h.opened, hears h hc⟩
  · obtain ⟨hc, lawful, stands⟩ := hmap h ho
    exact ⟨⟨lawful, stands, hlent.mapped h.midway.mapped hslot ho⟩, h.opened, hears h hc⟩
  · have hu := Traced.uses_enterBefore D (.unmap handle mapping.address mapping.info)
      (D.unmap handle mapping.address mapping.info) w
    have hmem : (handle, mapping) ∈ (books w.driver.uses).mapped :=
      h.midway.mapped.mem_iff.2
        ((Holdings.entries_put_none handle hslot).mem_iff.2 List.mem_cons_self)
    -- the use itself is permitted; sessions may be woken after it
    obtain ⟨lawful, hb⟩ := Midway.books_woken
      (show Lawful (.unmap handle mapping.address mapping.info :: w.driver.uses) from
        ⟨⟨h.contains h.midway, hmem⟩, h.midway.lawful⟩) hu
      fun other ho => by
        show (books w.driver.uses).sessions.contains other = true
        rw [h.midway.contains]
        exact h.hears other ho
    refine ⟨⟨lawful, ?_, hlent.unmapped h.midway.mapped hslot⟩, h.opened,
      hears h (World.channels_onDesk (driver D) _ w)⟩
    show (books (w.onDesk (driver D) (Traced.enterBefore _ _)).2.driver.uses).standing = standing
    rw [hb]
    exact h.midway.stands

/-- A primitive during which the secure world runs, as long as it is permitted and leaves the books
as they stand. -/
theorem enterShared {α : Type} (use : α → Use) (act : Shared σ → Reply (Shared σ) α)
    (h : Underway standing handle held w)
    (hp : ∀ result (b : Books), b.sessions.contains handle = true →
      b.last = (books w.driver.uses).last →
      b.Permits (use result) ∧ b.enter (use result) = { b with last := some (use result) }) :
    Underway standing handle held (w.onShared (driver D) (Traced.enterShared use act)).2 ∧
      (books (w.onShared (driver D) (Traced.enterShared use act)).2.driver.uses).last
        = some (use (w.onShared (driver D) (Traced.enterShared use act)).1) := by
  -- sessions may have been woken by the time at which the use is entered
  obtain ⟨uses, hw, hu⟩ := Traced.uses_enterShared D use act w
  obtain ⟨hm, hlast⟩ := h.midway.woken hw h.hears
  generalize ho : w.onShared (driver D) (Traced.enterShared use act) = outcome at hu
  have hc : outcome.2.channels = w.channels := by
    rw [← ho]; exact World.channels_onShared (driver D) _ w
  obtain ⟨hpermit, henter⟩ := hp outcome.1 (books uses) (h.contains hm) hlast
  have hbooks : books outcome.2.driver.uses = { books uses with last := some (use outcome.1) } := by
    rw [hu]
    exact henter
  refine ⟨⟨⟨?_, ?_, ?_⟩, h.opened, ?_⟩, by rw [hbooks]⟩
  · rw [hu]; exact ⟨hpermit, hm.lawful⟩
  · rw [hbooks]; exact hm.stands
  · rw [hbooks]; exact hm.mapped
  · rw [Traced.hears_congr hc]; exact h.hears

/-! ### Parts of a call -/

/-- The error code is asked for after a condition was reported. -/
theorem classify (h : Underway standing handle held w)
    (hlast : (books w.driver.uses).last = some (.wait handle (.error .infoNotification))) :
    Underway standing handle held (Call.classify (driver D) handle w).2 := by
  have hu := Traced.uses_enterBefore D (.errorCode handle) (D.errorCode handle) w
  -- the error code may be asked for, since the wait has just reported an exit
  have hm : Midway standing handle held (.errorCode handle :: w.driver.uses) :=
    ⟨⟨⟨h.contains h.midway, hlast⟩, h.midway.lawful⟩, h.midway.stands, h.midway.mapped⟩
  have hafter : Underway standing handle held
      (w.onDesk (driver D) ((driver D).errorCode handle)).2 := by
    refine ⟨(hm.woken hu h.hears).1, h.opened, ?_⟩
    rw [Traced.hears_congr (World.channels_onDesk (driver D) _ w)]
    exact h.hears
  unfold Call.classify
  generalize w.onDesk (driver D) ((driver D).errorCode handle) = answer at hafter
  obtain ⟨e | code, w'⟩ := answer
  · exact (hafter.log _).log _
  · exact hafter.log _

/-- The exchange of signals waits only after a notification, and asks for the error code only after
a condition was reported. -/
theorem exchange (h : Underway standing handle held w) :
    Underway standing handle held (Call.exchange (driver D) handle w).2 := by
  obtain ⟨hn, hnlast⟩ := h.enterShared (D := D) (Traced.notified .call handle)
    (D.notify .call handle) fun result b hb _ => ⟨hb, rfl⟩
  unfold Call.exchange
  generalize hno : w.onShared (driver D) ((driver D).notify .call handle) = notified
  rw [show w.onShared (driver D) (Traced.enterShared _ _) = notified from hno] at hn hnlast
  obtain ⟨e | _, w₁⟩ := notified
  · exact hn.log _
  -- the notification succeeded, and it is the last use but for wake-ups
  obtain ⟨hw, hwlast⟩ := hn.enterShared (D := D) (.wait handle) (D.wait handle none)
    fun result b hb hl => ⟨⟨hb, hl.trans hnlast⟩, rfl⟩
  simp only
  generalize hwo : w₁.onShared (driver D) ((driver D).wait handle none) = waited
  rw [show w₁.onShared (driver D) (Traced.enterShared _ _) = waited from hwo] at hw hwlast
  obtain ⟨e | _, w₂⟩ := waited
  · cases e with
    | infoNotification => exact hw.classify hwlast
    | _ => exact hw.log _
  · exact hw

end Underway

/-! ## Between the parts of a call -/

/-- The client and its driver agree: nothing was done that was not permitted, no mapping is in
force, and the sessions that are open are those that are active, each under a handle of its own. -/
structure Balanced (w : World (Traced σ)) : Prop where
  lawful : Lawful w.driver.uses
  settled : (books w.driver.uses).mapped = []
  hears_iff : ∀ h, w.Hears h ↔ (books w.driver.uses).sessions.contains h = true
  unique : ∀ {id id' : ChannelId} {ch ch' : Channel}, w.channels.get? id = some ch →
    w.channels.get? id' = some ch' → ch.active = true → ch'.active = true →
    ch.handle = ch'.handle → id = id'

/-- What a call on a session leaves: the session and the books as they stood, or the session closed
and no longer active. -/
inductive Aftermath (id : ChannelId) (handle : Handle) (w w' : World (Traced σ)) : Prop
  /-- The session is as it was. -/
  | kept (channels : w'.channels = w.channels)
    (stands : (books w'.driver.uses).standing = (books w.driver.uses).standing)
  /-- The session was closed. -/
  | closed (channels : w'.channels = w.channels.modify id fun ch => { ch with active := false })
    (call : (books w'.driver.uses).call = (books w.driver.uses).call)
    (devices : (books w'.driver.uses).devices = (books w.driver.uses).devices)
    (sessions : (books w'.driver.uses).sessions = (books w.driver.uses).sessions.erase handle)

/-- What a call leaves does not depend on what happened before to neither books nor sessions. -/
theorem Aftermath.of_kept {id : ChannelId} {handle : Handle} {w₁ : World (Traced σ)}
    (hc : w₁.channels = w.channels)
    (hs : (books w₁.driver.uses).standing = (books w.driver.uses).standing)
    (h : Aftermath id handle w₁ w') : Aftermath id handle w w' := by
  cases h with
  | kept channels stands => exact .kept (channels.trans hc) (stands.trans hs)
  | closed channels call devices sessions =>
    refine .closed (by rw [channels, hc]) (call.trans (congrArg (·.1) hs))
      (devices.trans (congrArg (·.2.1) hs)) ?_
    rw [sessions, show (books w₁.driver.uses).sessions = _ from congrArg (·.2.2) hs]
    rfl

namespace Balanced

variable {id : ChannelId} {channel : Channel}

/-- What changes neither the uses nor the sessions leaves client and driver in agreement. -/
theorem congr (h : Balanced w) (hu : w'.driver.uses = w.driver.uses)
    (hc : w'.channels = w.channels) : Balanced w' where
  lawful := by rw [hu]; exact h.lawful
  settled := by rw [hu]; exact h.settled
  hears_iff := by rw [hu, Traced.hears_congr hc]; exact h.hears_iff
  unique := by rw [hc]; exact h.unique

/-- A call may begin on an active session. -/
theorem underway (h : Balanced w) (hget : w.channels.get? id = some channel)
    (ha : channel.active = true) :
    Underway (books w.driver.uses).standing channel.handle .none w where
  midway := ⟨h.lawful, rfl, by rw [h.settled]; exact .refl _⟩
  opened := (h.hears_iff _).1 ⟨id, channel, hget, ha, rfl⟩
  hears := fun handle => (h.hears_iff handle).1

/-- Where a call has given everything back, client and driver agree again. -/
theorem of_underway (h : Balanced w) {handle : Handle}
    (hu : Underway (books w.driver.uses).standing handle .none w')
    (hc : w'.channels = w.channels) : Balanced w' where
  lawful := hu.midway.lawful
  settled := List.perm_nil.1 hu.midway.mapped
  hears_iff := by
    rw [Traced.hears_congr hc, hu.midway.contains]
    exact h.hears_iff
  unique := by rw [hc]; exact h.unique

/-- A session that is taken down hears nothing any more, the others do as before. -/
theorem hears_deactivate (h : Balanced w) (hget : w.channels.get? id = some channel)
    (ha : channel.active = true) (handle : Handle) :
    (w.onChannel id fun ch => { ch with active := false }).Hears handle ↔
      w.Hears handle ∧ handle ≠ channel.handle := by
  constructor
  · rintro ⟨id', ch, hch, hact, rfl⟩
    rw [show (w.onChannel id _).channels = w.channels.modify id _ from rfl,
      Arena.get?_modify] at hch
    split at hch
    next he =>
      rw [he, hget] at hch
      cases hch
      cases hact
    next hne =>
      -- no other active session has its handle
      refine ⟨⟨id', ch, hch, hact, rfl⟩, fun he => hne ?_⟩
      exact h.unique hch hget hact ha he
  · rintro ⟨⟨id', ch, hch, hact, rfl⟩, hne⟩
    refine ⟨id', ch, ?_, hact, rfl⟩
    rw [show (w.onChannel id _).channels = w.channels.modify id _ from rfl, Arena.get?_modify,
      if_neg]
    · exact hch
    · rintro rfl
      rw [hget] at hch
      cases hch
      exact hne rfl

/-- An active session may be closed. -/
theorem permits_close (h : Balanced w) (hget : w.channels.get? id = some channel)
    (ha : channel.active = true) :
    (books w.driver.uses).Permits (.closeSession channel.handle) := by
  refine ⟨(h.hears_iff _).1 ⟨id, channel, hget, ha, rfl⟩, fun held hm => ?_⟩
  rw [h.settled] at hm
  cases hm

/-- Once a session is closed and no longer active, client and driver agree again. -/
theorem of_closed (h : Balanced w) (hget : w.channels.get? id = some channel)
    (ha : channel.active = true)
    (hc : w'.channels = w.channels.modify id fun ch => { ch with active := false })
    (hl : Lawful w'.driver.uses)
    (hb : books w'.driver.uses = books (.closeSession channel.handle :: w.driver.uses)) :
    Balanced w' ∧ Aftermath id channel.handle w w' := by
  have hsessions : (books w'.driver.uses).sessions
      = (books w.driver.uses).sessions.erase channel.handle := by rw [hb]; rfl
  refine ⟨⟨hl, by rw [hb]; exact h.settled, fun handle => ?_, ?_⟩, .closed hc ?_ ?_ hsessions⟩
  · rw [Traced.hears_congr (show w'.channels = (w.onChannel id _).channels from hc),
      h.hears_deactivate hget ha, h.hears_iff, hsessions, Table.contains_iff, Table.contains_iff,
      Table.get?_erase]
    by_cases he : handle = channel.handle
    · simp [he]
    · simp [he]
  · intro id₁ id₂ ch₁ ch₂ h₁ h₂ ha₁ ha₂ he
    -- what is active now was there before
    have hbefore : ∀ {id' ch}, w'.channels.get? id' = some ch → ch.active = true →
        w.channels.get? id' = some ch := by
      intro id' ch hch hact
      rw [hc, Arena.get?_modify] at hch
      split at hch
      next he =>
        rw [he, hget] at hch
        cases hch
        cases hact
      next => exact hch
    exact h.unique (hbefore h₁ ha₁) (hbefore h₂ ha₂) ha₁ ha₂ he
  · rw [hb]; rfl
  · rw [hb]; rfl

/-- Taking an active session down closes it at the driver. -/
theorem teardown (h : Balanced w) (hget : w.channels.get? id = some channel)
    (ha : channel.active = true) :
    Balanced (w.teardown (driver D) id) ∧
      Aftermath id channel.handle w (w.teardown (driver D) id) := by
  have hu := Traced.uses_enterBefore D (.closeSession channel.handle)
    (D.closeSession channel.handle) (w.onChannel id fun ch => { ch with active := false })
  have hc := World.channels_onDesk (driver D) ((driver D).closeSession channel.handle)
    (w.onChannel id fun ch => { ch with active := false })
  obtain ⟨hl, hb⟩ := Midway.books_woken
    (show Lawful (.closeSession channel.handle :: w.driver.uses) from
      ⟨h.permits_close hget ha, h.lawful⟩) hu fun handle hh => by
    -- the session is not woken any more while it is being closed
    obtain ⟨hheard, hne⟩ := (h.hears_deactivate hget ha handle).1 hh
    obtain ⟨context, hs⟩ := Table.contains_iff.1 ((h.hears_iff handle).1 hheard)
    refine Table.contains_iff.2 ⟨context, ?_⟩
    show ((books w.driver.uses).sessions.erase channel.handle).get? handle = some context
    rw [Table.get?_erase_ne _ hne]
    exact hs
  obtain hdown | ⟨e, hdown⟩ := World.teardown_of_active (D := driver D) hget ha <;> rw [hdown] <;>
    exact h.of_closed hget ha hc hl hb

/-- A round trip leaves client and driver in agreement. -/
theorem roundTrip (h : Balanced w) (hget : w.channels.get? id = some channel)
    (ha : channel.active = true) (instruction : Instruction) (command : UInt32)
    (op : Option Operation) :
    Balanced (Call.roundTrip (driver D) id channel instruction command op w).world ∧
      Aftermath id channel.handle w
        (Call.roundTrip (driver D) id channel instruction command op w).world := by
  have hlends := Underway.lends D (books w.driver.uses).standing channel.handle
  have hpub := hlends.publish instruction command op (h.underway hget ha)
  have hpubc := Call.channels_publish (D := driver D) channel instruction command op w
  rcases hp : Call.publish (driver D) channel instruction command op w with ⟨failure | held, w₁⟩ <;>
    rw [hp] at hpub hpubc
  · -- a request that was given up holds nothing
    rw [Call.roundTrip_of_unfilled id hp]
    exact ⟨h.of_underway hpub hpubc, .kept hpubc hpub.midway.stands⟩
  simp only [Except.toOption, Option.getD] at hpub
  -- the mappings stay in the books during the exchange and go when they are given back
  have hex := Underway.exchange (D := D) hpub
  have hcol := hlends.collect op (Call.exchange (driver D) channel.handle w₁).1.isOk hex
  have hcolc := Call.channels_collected hp (Call.exchange (driver D) channel.handle w₁).1.isOk
  obtain ⟨-, -, hcase⟩ := Call.roundTrip_of_filled id hp
  generalize (Call.collect (driver D) channel op held (Call.exchange (driver D) channel.handle
    w₁).1.isOk (Call.exchange (driver D) channel.handle w₁).2).2.2 = w₃ at hcol hcolc hcase
  have hw₃ := h.of_underway hcol hcolc
  obtain ⟨-, hworld⟩ | ⟨failure, -, -, hworld⟩ := hcase
  · rw [hworld]
    exact ⟨hw₃, .kept hcolc hcol.midway.stands⟩
  · -- the failure breaks the session, and everything was given back before it is closed
    rw [hworld]
    have hlog : Balanced (w₃.log (.callFailed channel.handle instruction failure)) :=
      hw₃.congr rfl rfl
    have hget₃ : w₃.channels.get? id = some channel := by rw [hcolc]; exact hget
    obtain ⟨hb, haft⟩ := hlog.teardown (D := D) hget₃ ha
    refine ⟨hb, .of_kept ?_ ?_ haft⟩
    · exact hcolc
    · exact hcol.midway.stands

/-- Carrying an operation, or none, leaves client and driver in agreement. -/
theorem carry (h : Balanced w) (hget : w.channels.get? id = some channel)
    (ha : channel.active = true) (instruction : Instruction) (command : UInt32)
    (op : Option Operation) :
    Balanced (Call.carry (driver D) id channel instruction command op w).world ∧
      Aftermath id channel.handle w
        (Call.carry (driver D) id channel instruction command op w).world := by
  unfold Call.carry
  cases op with
  | none => exact h.roundTrip hget ha instruction command none
  | some op =>
    have hbegin : Balanced (w.onLifecycle op.lifecycle (·.begin id)) := h.congr rfl rfl
    obtain ⟨hb, haft⟩ := hbegin.roundTrip (D := D) hget ha instruction command (some op)
    refine ⟨hb.congr rfl rfl, ?_⟩
    cases haft with
    | kept channels stands => exact .kept channels stands
    | closed channels call devices sessions => exact .closed channels call devices sessions

end Balanced

end TeeClient

import TeeClient.Proofs.Cancelling
import TeeClient.Proofs.Instances
import TeeClient.Proofs.Performance
import TeeClient.Proofs.Windows.Runs

/-!
# Panics are contained

An application may panic between any two steps of an entry point. The call that is served then
learns nothing and fails in communication: it copies nothing back, gives its mappings back and takes
the session down. What belongs to other sessions is left as it was (`World.Spared`), and so is what
is armed for the end of a run, since the run did not come to its end.

Main statements:

* `World.Spared.served`: a request whose program panics concerns its own session only;
* `World.exchange_of_panic`: the exchange of signals then fails in communication;
* `contained_of_panics`: how a round trip ends in which the application panics.
-/

namespace TeeClient

variable {σ κ : Type}

/-! ## What primitives spare -/

namespace SecureWorld

/-- Every session but one has the worker that it had, and what was armed for the end of a run still
is. -/
structure Spares (handle : Handle) (before after : SecureWorld κ) : Prop where
  workers : ∀ other, other ≠ handle → after.sessions.get? other = before.sessions.get? other
  forcedResult : after.faults.forcedResult = before.faults.forcedResult
  exitCode : after.faults.exitCode = before.faults.exitCode

variable {handle : Handle} {before w w' : SecureWorld κ}

namespace Spares

/-- All may be spared. -/
theorem refl (handle : Handle) (w : SecureWorld κ) : w.Spares handle w := ⟨fun _ _ => rfl, rfl, rfl⟩

/-- More may be done later. -/
theorem trans (h : before.Spares handle w) (h' : w.Spares handle w') : before.Spares handle w' where
  workers other hne := (h'.workers other hne).trans (h.workers other hne)
  forcedResult := h'.forcedResult.trans h.forcedResult
  exitCode := h'.exitCode.trans h.exitCode

end Spares

/-- A change to the worker of the session spares all others. -/
theorem spares_onWorker (handle : Handle) (w : SecureWorld κ) (f : Worker κ → Worker κ) :
    w.Spares handle (w.onWorker handle f) where
  workers other hne := by
    show (w.sessions.modify handle f).get? other = _
    rw [Table.get?_modify, if_neg hne]
  forcedResult := rfl
  exitCode := rfl

/-- Counting uses spares all workers. -/
theorem spares_count (handle : Handle) (w : SecureWorld κ) (f : Usage → Usage) :
    w.Spares handle (w.count f) := ⟨fun _ _ => rfl, rfl, rfl⟩

/-- Ringing the bell of the session spares all others. -/
theorem spares_ring (handle : Handle) (w : SecureWorld κ) : w.Spares handle (ring handle w).2 := by
  rw [ring_snd]
  exact spares_count handle w _

/-- Waiting for the session spares all others. -/
theorem spares_wait (handle : Handle) (w : SecureWorld κ) : w.Spares handle (wait handle w).2 := by
  obtain ⟨_, _, _, -, -, he⟩ | ⟨e, -, he⟩ := wait_cases handle w <;> rw [he]
  · exact (spares_count handle w _).trans (spares_onWorker handle _ _)
  · exact ⟨fun _ _ => rfl, rfl, rfl⟩

/-- Mapping a buffer spares all workers. -/
theorem spares_map (handle handle' : Handle) (address : Address) (len : Nat) (access : Access)
    (w : SecureWorld κ) : w.Spares handle (map handle' address len access w).2 := by
  obtain ⟨-, -, budget, he⟩ | ⟨e, budget, he⟩ := map_cases handle' address len access w <;>
    rw [he] <;> exact ⟨fun _ _ => rfl, rfl, rfl⟩

/-- Removing a mapping spares all workers. -/
theorem spares_unmap (handle handle' : Handle) (address : Address) (info : SecureRange)
    (w : SecureWorld κ) : w.Spares handle (unmap handle' address info w).2 := by
  obtain ⟨mapping, -, -, he⟩ | ⟨e, -, he⟩ := unmap_cases handle' address info w <;> rw [he] <;>
    exact ⟨fun _ _ => rfl, rfl, rfl⟩

/-- Opening the session spares all others. -/
theorem spares_openSession {destination : Uuid} {login : Login} {page : PageId}
    {d d' : Desk (SecureWorld κ)}
    (h : openSession destination login page d = (.ok handle, d')) :
    d.driver.Spares handle d'.driver := by
  obtain ⟨app, -, he⟩ | ⟨e, fault, he⟩ := openSession_cases destination login page d <;>
    rw [he] at h <;> cases h
  exact ⟨fun other hne => Table.get?_set_ne _ _ hne, rfl, rfl⟩

/-- Closing the session spares all others; the session has no worker then. -/
theorem spares_closeSession (handle : Handle) (d : Desk (SecureWorld κ)) :
    d.driver.Spares handle (closeSession handle d).2.driver ∧
      (closeSession handle d).2.driver.sessions.get? handle = none := by
  obtain ⟨worker, -, he⟩ | ⟨hget, he⟩ := closeSession_cases handle d <;> rw [he]
  · exact ⟨⟨fun other hne => Table.get?_erase_ne _ hne, rfl, rfl⟩, Table.get?_erase_self _ _⟩
  · exact ⟨⟨fun _ _ => rfl, rfl, rfl⟩, hget⟩

end SecureWorld

/-! ## What calls spare -/

open SecureWorld

namespace World

/-- What belongs to other sessions than one is as it was, what was armed for the end of a run still
is, and a request to cancel that is due would go to that session. -/
structure Spared (id : ChannelId) (channel : Channel) (w before : World (SecureWorld κ)) :
    Prop where
  own : ∀ ch, w.channels.get? id = some ch → ch.handle = channel.handle ∧ ch.page = channel.page
  aimed : ∀ lifecycle l, w.lifecycles.get? lifecycle = some l → l.progress = .started →
    l.target = some id
  channels : ∀ other, other ≠ id → w.channels.get? other = before.channels.get? other
  pages : ∀ page, page ≠ channel.page → w.pages.get? page = before.pages.get? page
  driver : before.driver.Spares channel.handle w.driver

namespace Spared

variable {id : ChannelId} {channel : Channel} {before w w' : World (SecureWorld κ)}

/-- What is in the journal or in memory does not matter, and the driver may go on. -/
theorem congr (h : w.Spared id channel before) (hchannels : w'.channels = w.channels)
    (hlifecycles : w'.lifecycles = w.lifecycles) (hpages : w'.pages = w.pages)
    (hdriver : w.driver.Spares channel.handle w'.driver) : w'.Spared id channel before where
  own := hchannels ▸ h.own
  aimed := hlifecycles ▸ h.aimed
  channels := hchannels ▸ h.channels
  pages := hpages ▸ h.pages
  driver := h.driver.trans hdriver

/-- A world stays `Spared` where the driver goes on by itself and spares the other workers. -/
theorem withDriver (h : w.Spared id channel before) {driver : SecureWorld κ}
    (hd : w.driver.Spares channel.handle driver) : (w.withDriver driver).Spared id channel before :=
  h.congr rfl rfl rfl hd

/-- A world stays `Spared` where a record is logged. -/
theorem log (h : w.Spared id channel before) (r : Record) : (w.log r).Spared id channel before :=
  h.congr rfl rfl rfl (.refl _ _)

/-- A world stays `Spared` where the page of the session changes. -/
theorem onPage (h : w.Spared id channel before) {page : PageId} (hpage : page = channel.page)
    (f : Page → Page) : (w.onPage page f).Spared id channel before where
  own := h.own
  aimed := h.aimed
  channels := h.channels
  pages other hne := by
    show (w.pages.modify page f).get? other = _
    rw [Arena.get?_modify, if_neg (hpage ▸ hne)]
    exact h.pages other hne
  driver := h.driver

/-- A world stays `Spared` where a lifecycle changes that is not left started for another
session. -/
theorem onLifecycle (h : w.Spared id channel before) (lifecycle : LifecycleId)
    {f : Lifecycle → Lifecycle} (hf : ∀ l, (f l).progress = .started → (f l).target = some id) :
    (w.onLifecycle lifecycle f).Spared id channel before where
  own := h.own
  aimed other l hl hp := by
    have hl : (w.lifecycles.modify lifecycle f).get? other = some l := hl
    rw [Arena.get?_modify] at hl
    split at hl
    · obtain ⟨l', -, rfl⟩ := Option.map_eq_some_iff.1 hl
      exact hf l' hp
    · exact h.aimed other l hl hp
  channels := h.channels
  pages := h.pages
  driver := h.driver

/-- A world stays `Spared` where a call begins on the session. -/
theorem begun (h : w.Spared id channel before) (op : Option Operation) :
    (Call.begun id op w).Spared id channel before := by
  cases op with
  | none => exact h
  | some op => exact h.onLifecycle op.lifecycle fun _ _ => rfl

/-- A world stays `Spared` where a call on the session ends. -/
theorem ended (h : w.Spared id channel before) (op : Option Operation)
    (result : Except Failure Origin) : (Call.ended op result w).Spared id channel before := by
  cases op with
  | none => exact h
  | some op => exact h.onLifecycle op.lifecycle fun _ hp => by cases hp

/-- A world stays `Spared` where requests to cancel are made that have nothing served: one that is
due goes to the session. -/
theorem honour (h : w.Spared id channel before) (hq : w.Undisturbed) (token : String) :
    (w.honour SecureWorld.driver token).2.Spared id channel before := by
  rcases hq.symm with hquiet | hunready
  · -- no operation is started, so the request is only logged
    obtain ⟨journal, he⟩ := honour_of_quiet (D := SecureWorld.driver) hquiet token
    rw [he]
    exact h.congr rfl rfl rfl (.refl _ _)
  rw [honour_eq_cancelCall]
  split
  · exact h
  next lifecycle _ =>
    by_cases hp : w.progress lifecycle ≠ .started
    · obtain ⟨journal, he⟩ := cancelWith_of_not_started SecureWorld.driver _ hp
      rw [World.cancelCall, he]
      exact h.congr rfl rfl rfl (.refl _ _)
    obtain ⟨l, hl, hp⟩ := get?_of_started (Classical.not_not.1 hp)
    -- what is started is carried by the session itself, so the signal goes nowhere else
    have htarget := h.aimed lifecycle l hl hp
    have hcancelled : (w.cancelled lifecycle).Spared id channel before :=
      h.onLifecycle lifecycle fun l' hp' => absurd hp' l'.progress_cancel
    obtain ⟨ch, hget, ha⟩ | hinactive := exists_active_or id w
    · obtain ⟨hhandle, hpage⟩ := h.own ch hget
      obtain ⟨journal, he⟩ := cancelWith_of_unready hunready hl hp htarget hget ha
      rw [he]
      refine (hcancelled.onPage hpage (·.setCancelled true)).congr rfl rfl rfl ?_
      rw [← hhandle]
      exact spares_ring ch.handle w.driver
    · obtain ⟨journal, he⟩ := signal_of_inactive SecureWorld.driver
        (World.honour SecureWorld.driver) (w := w.cancelled lifecycle) hinactive
      rw [World.cancelCall, cancelWith_of_started SecureWorld.driver _ hl hp, htarget]
      simp only
      rw [he]
      exact hcancelled.congr rfl rfl rfl (.refl _ _)

/-- A world stays `Spared` where the session is taken down. -/
theorem teardown (h : w.Spared id channel before) :
    (w.teardown SecureWorld.driver id).Spared id channel before := by
  -- first the session takes no more calls, and then it is closed at the driver
  have hshut : (w.onChannel id fun ch => { ch with active := false }).Spared id channel before := by
    have hget : ∀ other, (w.onChannel id fun ch => { ch with active := false }).channels.get? other
        = if other = id then (w.channels.get? other).map fun ch => { ch with active := false }
          else w.channels.get? other := fun other => Arena.get?_modify _ _ _ _
    refine ⟨fun ch hch => ?_, h.aimed, fun other hne => ?_, h.pages, h.driver⟩
    · rw [hget, if_pos rfl] at hch
      obtain ⟨ch', hch', rfl⟩ := Option.map_eq_some_iff.1 hch
      exact h.own ch' hch'
    · rw [hget, if_neg hne]
      exact h.channels other hne
  obtain ⟨ch, hget, -, hdown⟩ | ⟨-, hsame⟩ := World.teardown_cases SecureWorld.driver id w
  · let shut := w.onChannel id fun ch => { ch with active := false }
    have hdriver := (spares_closeSession ch.handle shut.desk).1
    have hclosed : (w.shutDown SecureWorld.driver id ch.handle).Spared id channel before :=
      hshut.congr rfl rfl rfl ((h.own ch hget).1 ▸ hdriver)
    obtain hdown | ⟨e, hdown⟩ := hdown <;> rw [hdown]
    · exact hclosed
    · exact hclosed.log _
  · rw [hsame]
    exact h

/-- A world stays `Spared` where the session is forgotten with its page. -/
theorem forget (h : w.Spared id channel before) : (w.forget id).Spared id channel before := by
  unfold World.forget
  cases hget : w.channels.get? id with
  | none => exact h
  | some ch =>
    refine ⟨fun ch' hch' => ?_, h.aimed, fun other hne => ?_, fun page hne => ?_, h.driver⟩
    · have hgone : (w.channels.erase id).get? id = none := by rw [Arena.get?_erase, if_pos rfl]
      rw [hgone] at hch'
      cases hch'
    · show (w.channels.erase id).get? other = _
      rw [Arena.get?_erase, if_neg hne]
      exact h.channels other hne
    · show (w.pages.erase ch.page).get? page = _
      rw [Arena.get?_erase, if_neg ((h.own ch hget).2 ▸ hne)]
      exact h.pages page hne

/-- An application may run for the session, if it is not disturbed. -/
theorem play (h : w.Spared id channel before) (hq : w.Undisturbed) (login : Login)
    (program : Program κ) : (w.play channel.page login program).2.Spared id channel before :=
  play_preserves_of_undisturbed (P := fun w => w.Spared id channel before)
    (fun _ _ _ chamber _ hw => (hw.onPage rfl fun _ => chamber.page).congr rfl rfl rfl (.refl _ _))
    (fun _ token hq hw => hw.honour hq token) (fun _ _ hw => hw.congr rfl rfl rfl (.refl _ _)) hq
    program h

/-- A worker of the session may run a program, if it is not disturbed. -/
theorem performed (h : w.Spared id channel before) {worker : Worker κ}
    (hpage : worker.page = channel.page) {instruction : Instruction}
    (hq : (w.takenUp channel.handle worker instruction).Undisturbed) :
    (w.performed channel.handle worker instruction).2.Spared id channel before := by
  have hrung : (w.withDriver (ring channel.handle w.driver).2).Spared id channel before :=
    h.withDriver (spares_ring channel.handle w.driver)
  have hconsumed : (w.consumed channel.handle worker.page).Spared id channel before :=
    hrung.onPage hpage _
  have htaken : (w.takenUp channel.handle worker instruction).Spared id channel before :=
    hconsumed.congr rfl rfl rfl ⟨fun _ _ => rfl, rfl, rfl⟩
  unfold World.performed
  rw [hpage]
  exact htaken.play hq worker.login _

/-- Mappings may be given back, the last ones when the result is collected. -/
theorem collect (h : w.Spared id channel before) (op : Option Operation) (held : Holdings)
    (exchanged : Bool) :
    (Call.collect SecureWorld.driver channel op held exchanged w).2.2.Spared id channel before :=
  Call.collect_preserves (P := fun w => w.Spared id channel before) (fun _ r hw => hw.log r)
    (fun _ _ _ hw => hw.congr rfl rfl rfl (spares_unmap _ _ _ _ _)) h

/-- A request may be published in the page of the session. -/
theorem publish (h : w.Spared id channel before) (instruction : Instruction) (command : UInt32)
    (op : Option Operation) :
    (Call.publish SecureWorld.driver channel instruction command op w).2.Spared id channel
      before :=
  Call.publish_preserves_of (P := fun w => w.Spared id channel before) (fun _ r _ hw => hw.log r)
    (fun _ f hw => hw.onPage rfl f)
    (fun _ _ _ _ _ _ _ _ hw => hw.congr rfl rfl rfl (spares_map _ _ _ _ _ _))
    (fun _ _ _ hw => hw.congr rfl rfl rfl (spares_unmap _ _ _ _ _)) h

/-- A call spares what belongs to others until its request is filled in. -/
theorem filled (h : w.Spared id channel before) {instruction : Instruction} {command : UInt32}
    {op : Option Operation} {filled : Except Failure Holdings}
    (hf : Call.filling SecureWorld.driver id channel instruction command op w = (filled, w')) :
    w'.Spared id channel before := by
  have hpublished := (h.begun op).publish instruction command op
  rwa [show Call.publish SecureWorld.driver channel instruction command op (Call.begun id op w) = _
    from hf] at hpublished

end Spared

end World

/-! ## A panic -/

namespace World

variable {w : World (SecureWorld κ)} {handle : Handle} {worker : Worker κ}
  {instruction : Instruction} {id : ChannelId} {channel : Channel} {before : World (SecureWorld κ)}

/-- A session that is taken down has no worker any more. -/
theorem sessions_teardown (hget : w.channels.get? id = some channel)
    (hactive : channel.active = true) :
    (w.teardown SecureWorld.driver id).driver.sessions.get? channel.handle = none := by
  have hclosed : (w.shutDown SecureWorld.driver id channel.handle).driver.sessions.get?
      channel.handle = none := (spares_closeSession channel.handle _).2
  obtain hdown | ⟨e, hdown⟩ := teardown_of_active (D := SecureWorld.driver) hget hactive <;>
    rw [hdown] <;> exact hclosed

/-- A request concerns its own session only whose program panics. -/
theorem Spared.served (h : w.Spared id channel before) (hpage : worker.page = channel.page)
    (hq : (w.takenUp channel.handle worker instruction).Undisturbed)
    (hpanic : (w.performed channel.handle worker instruction).1 = none) :
    (w.served channel.handle worker instruction).Spared id channel before := by
  have hperformed := h.performed hpage hq
  unfold World.served
  generalize w.performed channel.handle worker instruction = ended at hpanic hperformed
  obtain ⟨result, w'⟩ := ended
  obtain rfl : result = none := hpanic
  exact hperformed.congr rfl rfl rfl (spares_onWorker channel.handle w'.driver _)

/-- The exchange of a call fails in communication whose application panics: there is no answer to
wait for. -/
theorem exchange_of_panic (h : Finds handle worker instruction w.toShared)
    (hr : w.Reserved handle) (hdrained : worker.completions = [])
    (hpanic : (w.performed handle worker instruction).1 = none) :
    Call.exchange SecureWorld.driver handle w = (.error (.comms .communication),
      ((w.served handle worker instruction).withDriver
        (wait handle (w.served handle worker instruction).driver).2).log
          (.waitFailed handle (.invalidSession handle))) := by
  obtain ⟨later, hlater, halive, hcompletions⟩ := alive_served h hr
  -- there is no completion left, and the worker that could send one is dead
  have hwait : (wait handle (w.served handle worker instruction).driver).1
      = .error (.invalidSession handle) := by
    rw [wait_of_nil hlater ((hcompletions hpanic).trans hdrained), halive, hpanic]
    rfl
  have hwaited : (w.served handle worker instruction).onShared SecureWorld.driver
      (SecureWorld.driver.wait handle none) = (.error (.invalidSession handle),
        (w.served handle worker instruction).withDriver
          (wait handle (w.served handle worker instruction).driver).2) :=
    Prod.ext hwait rfl
  unfold Call.exchange
  rw [show w.onShared SecureWorld.driver (SecureWorld.driver.notify .call handle) = _ from
    onShared_notify_of_finds h]
  simp only [hwaited]

end World

namespace Call

variable (D : Driver σ) (channel : Channel)

/-- Nothing is copied into the operation if nothing is to be. -/
theorem operation_takeBackEach_false (slots : List Slot) (op : Operation) (held : Holdings)
    (w : World σ) : (takeBackEach D channel false slots op held w).1 = op := by
  induction slots generalizing held w with
  | nil => rfl
  | cons slot rest ih => exact ih _ _

/-- The operation stays as it is where the exchange failed. -/
theorem operation_collect_false (op : Option Operation) (held : Holdings) (w : World σ) :
    (collect D channel op held false w).2.1 = op := by
  cases op with
  | none => rfl
  | some op => exact congrArg some (operation_takeBackEach_false D channel Slot.ascending op held w)

variable {D channel}

/-- A round trip whose exchange fails in communication leaves the operation as it is, and takes the
session down. -/
theorem roundTrip_of_exchange_error {id : ChannelId} {instruction : Instruction} {command : UInt32}
    {op : Option Operation} {held : Holdings} {w w₁ w₂ : World σ}
    (hp : publish D channel instruction command op w = (.ok held, w₁))
    (he : exchange D channel.handle w₁ = (.error (.comms .communication), w₂)) :
    roundTrip D id channel instruction command op w = ⟨.error (.comms .communication), op,
      ((collect D channel op held false w₂).2.2.log
        (.callFailed channel.handle instruction (.comms .communication))).teardown D id⟩ := by
  have hop := operation_collect_false D channel op held w₂
  unfold roundTrip
  rw [hp]
  simp only [he]
  rw [show (Except.error (.comms .communication) : Except Failure Unit).isOk = false from rfl]
  generalize collect D channel op held false w₂ = collected at hop
  obtain ⟨verdict, op', w₃⟩ := collected
  obtain rfl : op' = op := hop
  rfl

end Call

variable {t : Trip (SecureWorld κ)} {before : World (SecureWorld κ)}

/-- Where a round trip begins on an active session in which the application panics, the application
is alive and due to be told of nothing; its worker finds the request of the call, the only one that
is published, and the program of that request panics. -/
theorem finds_of_panics (hp : t.Panics SecureWorld.driver id) (hacc : t.world.Accorded id)
    (hm : (t.world.stage id).Manned) (hget : t.world.channels.get? t.id = some t.channel)
    (hactive : t.channel.active = true) : ∃ held w₁ worker instruction,
    t.filling SecureWorld.driver = (.ok held, w₁) ∧ worker.page = t.channel.page ∧
    worker.completions = [] ∧ Finds t.channel.handle worker instruction w₁.toShared ∧
    w₁.Reserved t.channel.handle ∧ (w₁.performed t.channel.handle worker instruction).1 = none := by
  obtain ⟨hfilled, dead, hdead, hpanicked⟩ := hp
  rcases hf : t.filling SecureWorld.driver with ⟨failure | held, w₁⟩
  · rw [hf] at hfilled
    cases hfilled
  -- the world that waits is the one in which the session was notified
  have hwaiting : t.waiting SecureWorld.driver
      = (w₁.onShared SecureWorld.driver (SecureWorld.notify t.channel.handle)).2 :=
    congrArg (fun f => (World.onShared SecureWorld.driver
      (SecureWorld.notify t.channel.handle) (Prod.snd f)).2) hf
  rw [hwaiting] at hdead
  rcases idle_or_finds_of_filling hacc hf with
    hidle | ⟨worker, instruction, hpage, hdrained, hfinds⟩
  · -- a notification that finds nothing to do leaves the worker as it was, which was alive
    obtain ⟨f, hposted⟩ := Call.exists_posted hosts_driver hacc.unready hf
    rw [World.onShared_notify_of_idle hidle] at hdead
    have hcounted : w₁.driver.sessions.get? t.channel.handle = some dead := by
      rw [← hdead, ring_snd]
      rfl
    have hbegan := congrFun (congrArg (fun v : Scene κ => v.workers) hposted.scene)
      t.channel.handle
    have hsame : (t.world.scene id).workers t.channel.handle = some dead :=
      hbegan.symm.trans hcounted
    have halive := hm.alive _ _ hsame
    rw [hpanicked] at halive
    cases halive
  · -- otherwise it has run the program of the request
    have hreserved := reserved_of_filling hacc hf hget hactive
    refine ⟨held, w₁, worker, instruction, rfl, hpage, hdrained, hfinds, hreserved, ?_⟩
    rw [World.onShared_notify_of_finds hfinds] at hdead
    obtain ⟨later, hlater, hsurvives, -⟩ := World.alive_served hfinds hreserved
    have hsame : dead = later := Option.some.inj (hdead.symm.trans hlater)
    rw [← hsame, hpanicked] at hsurvives
    exact Option.not_isSome_iff_eq_none.1 (by rw [← hsurvives]; exact Bool.false_ne_true)

/-- How a round trip ends in which the application panics: in communication, with the operation as
it was, the session taken down, and what belongs to others spared. -/
structure Trip.Contained (t : Trip (SecureWorld κ)) (before : World (SecureWorld κ)) : Prop where
  result : (t.carry SecureWorld.driver).result = .error (.comms .communication)
  operation : (t.carry SecureWorld.driver).operation = t.op
  spared : (t.carry SecureWorld.driver).world.Spared t.id t.channel before
  inactive : ∀ ch, (t.carry SecureWorld.driver).world.channels.get? t.id = some ch →
    ch.active = false
  closed : (t.carry SecureWorld.driver).world.driver.sessions.get? t.channel.handle = none

/-- A panic is contained. -/
theorem contained_of_panics (hp : t.Panics SecureWorld.driver id) (hacc : t.world.Accorded id)
    (hm : (t.world.stage id).Manned)
    (hget : t.world.channels.get? t.id = some t.channel) (hactive : t.channel.active = true)
    (hspared : t.world.Spared t.id t.channel before) : t.Contained before := by
  obtain ⟨held, w₁, worker, instruction, hf, hpage, hdrained, hfinds, hreserved, hpanic⟩ :=
    finds_of_panics hp hacc hm hget hactive
  have hfilled : w₁.Spared t.id t.channel before := hspared.filled hf
  -- the exchange fails, and leaves what is to be spared
  have hexchange := World.exchange_of_panic hfinds hreserved hdrained hpanic
  have hserved := hfilled.served hpage (World.undisturbed_takenUp hfinds hreserved) hpanic
  have hexchanged : (Call.exchange SecureWorld.driver t.channel.handle w₁).2.Spared t.id t.channel
      before := by
    rw [hexchange]
    exact (hserved.withDriver (spares_wait t.channel.handle _)).log _
  generalize hw₂ : (Call.exchange SecureWorld.driver t.channel.handle w₁).2 = w₂ at hexchanged
  have he : Call.exchange SecureWorld.driver t.channel.handle w₁
      = (.error (.comms .communication), w₂) :=
    Prod.ext (by rw [hexchange]) hw₂
  -- then the result is collected, and the session taken down
  let collected := (Call.collect SecureWorld.driver t.channel t.op held false w₂).2.2
  have hcollected : collected.Spared t.id t.channel before := hexchanged.collect t.op held false
  have hchannels : collected.channels = t.world.channels := by
    have hkept := Call.channels_collected hf false
    rw [hw₂] at hkept
    exact hkept.trans (Call.channels_begun t.id t.op t.world)
  have hround := @Call.roundTrip_of_exchange_error _ _ _ t.id _ t.command t.op _ _ _ _ hf he
  have hcarry : t.carry SecureWorld.driver = _ :=
    Call.carry_eq SecureWorld.driver t.id t.channel t.instruction t.command t.op t.world
  simp only [show Call.roundTrip SecureWorld.driver t.id t.channel t.instruction t.command t.op
    (Call.begun t.id t.op t.world) = _ from hround] at hcarry
  let failed := collected.log
    (.callFailed t.channel.handle t.instruction (.comms .communication))
  have hopen : failed.channels.get? t.id = some t.channel := by
    rw [show failed.channels = _ from hchannels]
    exact hget
  refine ⟨by rw [hcarry], by rw [hcarry], ?_, fun ch hch => ?_, ?_⟩
  · rw [hcarry]
    exact ((hcollected.log _).teardown).ended t.op _
  · rw [hcarry, Call.channels_ended] at hch
    have hshut : Channels.shut failed.channels.get? t.id t.id = some ch :=
      (congrFun (World.channels_teardown (D := SecureWorld.driver) t.id failed) t.id).symm.trans hch
    exact Bool.eq_false_iff.2 fun ha => ((Channels.of_shut hshut).2 ha).1 rfl
  · rw [hcarry, Call.driver_ended]
    exact World.sessions_teardown hopen hactive

end TeeClient

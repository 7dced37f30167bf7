import TeeClient.Proofs.Once.Calls
import TeeClient.Proofs.Runs

/-!
# Entry points run at most once

What a round trip keeps, the calls of a client keep: opening a session lays out a page and hires a
worker, closing one dismisses the worker and frees the page, and nothing else that a client does
concerns the scene. A recorder may be armed anew before each call, with faults, results to be
replaced and cancellations at the uses of its primitives.

Main statements:

* `Client.moves_effect`: what a client does is a sequence of moves;
* `Client.accorded_steps`: the invariant holds after every run of a client program;
* `entry_points_run_once`: every call on a session runs at most one entry point.
-/

namespace TeeClient

variable {σ κ : Type}

namespace World

variable (D : Driver σ) (secure : σ → SecureWorld κ)

/-- What an invocation of a command has run: nothing, if the session does not take calls. -/
def InvokedOnce (id : ChannelId) (command : UInt32) (op : Option Operation) (w : World σ)
    (result : Except Failure Origin) (w' : World σ) : Prop :=
  (∃ channel, w.channels.get? id = some channel ∧ channel.active = true ∧
    Call.Once D secure id channel .invokeCommand command op w result w') ∨
  result = .error (.api .badState) ∧ (secure w'.driver).runs = (secure w.driver).runs

/-- What the opening of a session has run: nothing, if the driver refuses it. -/
def OpenedOnce (destination : Uuid) (method : ConnectionMethod) (op : Option Operation)
    (w : World σ) (result : Except Failure ChannelId) (w' : World σ) : Prop :=
  match (w.offer destination).onDesk D (D.openSession destination method.login w.pages.fresh) with
  | (.error e, _) => result = .error e.openFailure ∧ e.openFailure.origin ≠ .trustedApp ∧
    (secure w'.driver).runs = (secure w.driver).runs
  | (.ok handle, w₁) =>
    (secure (w₁.adopt handle w.pages.fresh).driver).runs = (secure w.driver).runs ∧
    Call.Once D secure w₁.channels.fresh ⟨handle, w.pages.fresh, true⟩ .openSession 0 op
      (w₁.adopt handle w.pages.fresh) result w'

/-- What the closing of a session has run. -/
def ClosedOnce (id : ChannelId) (w w' : World σ) : Prop :=
  ∀ channel, w.channels.get? id = some channel → channel.active = true →
    Call.Once D secure id channel .closeSession 0 none w
      (Call.carry D id channel .closeSession 0 none w).result w'

end World

/-! ## Sessions -/

namespace World

variable {D : Driver σ} {secure : σ → SecureWorld κ} {w : World σ} {id : ChannelId}

/-- The session that the driver opens next for a destination is admitted. -/
def Admits (D : Driver σ) (secure : σ → SecureWorld κ) (admitted : Admission κ)
    (destination : Uuid) (login : Login) (w : World σ) : Prop :=
  ∀ handle w₁ worker, (w.offer destination).onDesk D
    (D.openSession destination login w.pages.fresh) = (.ok handle, w₁) →
    (w₁.scene secure).workers handle = some worker →
    admitted (w.stage secure) handle worker destination

/-- Any session may be admitted. -/
theorem admits_any (D : Driver σ) (secure : σ → SecureWorld κ) (destination : Uuid) (login : Login)
    (w : World σ) : w.Admits D secure .any destination login :=
  fun _ _ _ _ _ => trivial

/-- Forgetting a session hands out no number. -/
theorem fresh_forget (id : ChannelId) (w : World σ) :
    (w.forget id).channels.fresh = w.channels.fresh := by
  unfold World.forget
  split <;> rfl

/-- A page that is freed is gone from the scene. -/
theorem scene_freePage (secure : σ → SecureWorld κ) (id : PageId) (w : World σ) :
    (w.freePage id).scene secure = (w.scene secure).free id := by
  refine Scene.ext rfl rfl (funext fun other => ?_) rfl
  show ((w.pages.erase id).get? other).map Page.unflagged
    = if other = id then none else (w.pages.get? other).map Page.unflagged
  rw [Arena.get?_erase]
  split <;> rfl

variable {admitted : Admission κ}

/-- A session that is forgotten leaves with its page. -/
theorem moves_forget (secure : σ → SecureWorld κ) (admitted : Admission κ) (id : ChannelId)
    (w : World σ) : Moves admitted (w.stage secure) ((w.forget id).stage secure) := by
  have hchannels : (w.forget id).channels.get? = Channels.without w.channels.get? id :=
    funext fun other => get?_channels_forget id other w
  cases hget : w.channels.get? id with
  | none =>
    unfold World.forget
    rw [hget]
  | some channel =>
    have hscene : (w.forget id).scene secure = (w.scene secure).free channel.page := by
      unfold World.forget
      rw [hget]
      exact scene_freePage secure channel.page w
    unfold stage
    rw [hscene, hchannels, fresh_forget]
    exact .single (.forgotten hget)

variable (h : Hosts D secure)
include h

/-- Invoking a command runs at most one entry point. -/
theorem invoke_once (hacc : w.Accorded secure) (admitted : Admission κ) (id : ChannelId)
    (command : UInt32) (op : Option Operation) :
    InvokedOnce D secure id command op w (w.invoke D id command op).result
        (w.invoke D id command op).world ∧
      Moves admitted (w.stage secure) ((w.invoke D id command op).world.stage secure) := by
  obtain ⟨channel, hget, ha, hcall⟩ | ⟨-, hrefused⟩ := invoke_cases D id command op w
  · obtain ⟨honce, hmoves⟩ := Call.carry_once h hacc hget ha admitted .invokeCommand command op
    rw [hcall]
    exact ⟨.inl ⟨channel, hget, ha, honce⟩, hmoves⟩
  · rw [hrefused]
    exact ⟨.inr ⟨rfl, rfl⟩, .refl⟩

/-- Closing a session runs at most one entry point. -/
theorem closeSession_once (hacc : w.Accorded secure) (admitted : Admission κ) (id : ChannelId) :
    ClosedOnce D secure id w (w.closeSession D id) ∧
      Moves admitted (w.stage secure) ((w.closeSession D id).stage secure) := by
  unfold ClosedOnce
  cases hget : w.channels.get? id with
  | none =>
    refine ⟨fun _ he => (by cases he), ?_⟩
    rw [closeSession_of_unknown hget]
  | some channel =>
    cases ha : channel.active with
    | false =>
      refine ⟨fun channel' he ha' => ?_, ?_⟩
      · cases he
        rw [ha] at ha'
        cases ha'
      · rw [closeSession_of_inactive hget ha]
        exact moves_forget secure admitted id (w.log _)
    | true =>
      obtain ⟨honce, hmoves⟩ := Call.carry_once h hacc hget ha admitted .closeSession 0 none
      obtain ⟨r, he⟩ := closeSession_of_active (D := D) hget ha
      -- whether the close instruction failed is only reported
      generalize hcarried : Call.carry D id channel .closeSession 0 none w = e at he honce hmoves
      rw [he]
      have hlogged : (r.elim e.world e.world.log).stage secure = e.world.stage secure := by
        cases r <;> rfl
      have hunready : ((r.elim e.world e.world.log).scene secure).Unready := by
        rw [show (r.elim e.world e.world.log).scene secure = _ from congrArg Stage.scene hlogged]
        exact (World.Accorded.moves hacc hmoves).unready
      refine ⟨fun channel' hsame _ => ?_, ?_⟩
      · cases hsame
        rw [hcarried]
        refine honce.congr ?_ fun _ => Iff.rfl
        rw [driver_forget]
        refine (runs_teardown h hunready id).trans ?_
        cases r <;> rfl
      · have hdown := moves_teardown h hunready admitted id
        rw [hlogged] at hdown
        exact (hmoves.trans hdown).trans
          (moves_forget secure admitted id ((World.teardown D id _).log _))

omit h in
/-- A page is laid out for a session that is to be opened. -/
theorem scene_offer (destination : Uuid) (w : World σ) : (w.offer destination).scene secure
    = (w.scene secure).lay (Page.blank.setDestination destination) := by
  refine Scene.ext rfl rfl (funext fun other => ?_) rfl
  show ((w.pages.add _).get? other).map Page.unflagged = if other = w.pages.fresh then _
    else (w.pages.get? other).map Page.unflagged
  rw [Arena.get?_add]
  split <;> rfl

omit h in
/-- The application has no part in a refusal of the driver to open a session. -/
theorem openFailure_origin (e : DriverFault) : e.openFailure.origin ≠ .trustedApp := by
  cases e <;> exact fun he => (by cases he)

omit h in
/-- A session that the driver refuses leaves with the page that was laid out for it. -/
theorem moves_refused (admitted : Admission κ) {page : Page} {w₁ : World σ}
    (hscene : w₁.scene secure = (w.scene secure).lay page) (hchannels : w₁.channels = w.channels) :
    Moves admitted (w.stage secure) ((w₁.freePage w.pages.fresh).stage secure) := by
  show Moves admitted _
    ⟨(w₁.freePage w.pages.fresh).scene secure, w₁.channels.get?, w₁.channels.fresh⟩
  rw [scene_freePage, hscene, hchannels]
  exact .single (.refused page)

omit h in
/-- A session that the driver opens is adopted with its page and its worker. -/
theorem moves_adopt {destination : Uuid} {login : Login} {handle : Handle} {worker : Worker κ}
    {w₁ : World σ} (hstarts : worker.Starts (w.scene secure).fresh login)
    (hscene : w₁.scene secure
      = ((w.scene secure).lay (Page.blank.setDestination destination)).hire handle worker)
    (hchannels : w₁.channels = w.channels)
    (hadmitted : admitted (w.stage secure) handle worker destination) :
    Moves admitted (w.stage secure) ((w₁.adopt handle w.pages.fresh).stage secure) := by
  have hget : (w₁.adopt handle w.pages.fresh).channels.get?
      = Channels.adopt w.channels.get? w.channels.fresh ⟨handle, w.pages.fresh, true⟩ := by
    funext other
    rw [← hchannels]
    exact get?_channels_adopt handle w.pages.fresh other w₁
  show Moves admitted _ ⟨w₁.scene secure, (w₁.adopt handle w.pages.fresh).channels.get?,
    w₁.channels.fresh + 1⟩
  rw [hget, hscene, hchannels]
  exact .single (.opened hstarts hadmitted)

/-- What a driver that is asked for a session does to the scene. -/
theorem opened_offer (hacc : w.Accorded secure) (destination : Uuid) (login : Login) :
    Scene.Opened (κ := κ) w.pages.fresh login
      ((w.scene secure).lay (Page.blank.setDestination destination))
      ((w.offer destination).onDesk D (D.openSession destination login w.pages.fresh)).1
      (((w.offer destination).onDesk D
        (D.openSession destination login w.pages.fresh)).2.scene secure) := by
  have hopened := h.onDesk_scene (w := w.offer destination)
    (h.openSession destination login w.pages.fresh)
  rw [scene_offer] at hopened
  exact hopened (hacc.unready_lay _)

/-- What a driver that opens a session does to the scene: it hires a worker for the page. -/
theorem exists_hired (hacc : w.Accorded secure) {destination : Uuid} {login : Login}
    {handle : Handle} {w₁ : World σ}
    (ho : (w.offer destination).onDesk D (D.openSession destination login w.pages.fresh)
      = (.ok handle, w₁)) :
    ∃ worker : Worker κ, worker.Starts (w.scene secure).fresh login ∧ w₁.scene secure
      = ((w.scene secure).lay (Page.blank.setDestination destination)).hire handle worker := by
  have hopened := opened_offer h hacc destination login
  rw [ho] at hopened
  exact hopened

/-- A session that the driver opens is adopted, if it is admitted. -/
theorem moves_opened (hacc : w.Accorded secure) {destination : Uuid} {login : Login}
    {handle : Handle} {w₁ : World σ}
    (ho : (w.offer destination).onDesk D (D.openSession destination login w.pages.fresh)
      = (.ok handle, w₁))
    (hadmits : w.Admits D secure admitted destination login) :
    Moves admitted (w.stage secure) ((w₁.adopt handle w.pages.fresh).stage secure) := by
  obtain ⟨worker, hstarts, hscene⟩ := exists_hired h hacc ho
  have hchannels : w₁.channels = w.channels := by
    have := channels_onDesk D (D.openSession destination login w.pages.fresh) (w.offer destination)
    rw [ho] at this
    exact this
  have hworker : (w₁.scene secure).workers handle = some worker := by
    rw [hscene]
    exact if_pos rfl
  exact moves_adopt hstarts hscene hchannels (hadmits handle w₁ worker ho hworker)

/-- Opening a session runs at most one entry point. -/
theorem openSession_once (hacc : w.Accorded secure) {destination : Uuid}
    {method : ConnectionMethod} (op : Option Operation)
    (hadmits : w.Admits D secure admitted destination method.login) :
    OpenedOnce D secure destination method op w (w.openSession D destination method op).result
        (w.openSession D destination method op).world ∧
      Moves admitted (w.stage secure)
        ((w.openSession D destination method op).world.stage secure) := by
  unfold OpenedOnce
  rcases ho : (w.offer destination).onDesk D (D.openSession destination method.login w.pages.fresh)
    with ⟨e | handle, w₁⟩
  · have hscene := opened_offer h hacc destination method.login
    have hchannels := channels_onDesk D (D.openSession destination method.login w.pages.fresh)
      (w.offer destination)
    rw [ho] at hscene hchannels
    have hscene : w₁.scene secure = _ := hscene
    rw [openSession_of_error ho]
    dsimp only
    -- the refusal may be reported
    have hend : ∃ w₂ : World σ, w₂.scene secure = w₁.scene secure ∧ w₂.channels = w₁.channels ∧
        (if e.openIsUnclassified then w₁.log (.openFailed e) else w₁) = w₂ := by
      refine ⟨_, ?_, ?_, rfl⟩ <;> split <;> rfl
    obtain ⟨w₂, hs₂, hc₂, he₂⟩ := hend
    rw [he₂]
    refine ⟨⟨rfl, openFailure_origin e, ?_⟩, ?_⟩
    · exact (congrArg (fun v : Scene κ => v.runs) (hs₂.trans hscene) :)
    · exact moves_refused admitted (hs₂.trans hscene) (hc₂.trans hchannels)
  · obtain ⟨worker, -, hscene⟩ := exists_hired h hacc ho
    have hadopted := moves_opened h hacc ho hadmits
    rw [openSession_of_ok ho]
    -- from then on the session is one like any other, and carries the open instruction
    have hself : (w₁.adopt handle w.pages.fresh).channels.get? w₁.channels.fresh
        = some ⟨handle, w.pages.fresh, true⟩ :=
      get?_channels_adopt_fresh handle w.pages.fresh w₁
    have hruns : (secure (w₁.adopt handle w.pages.fresh).driver).runs = (secure w.driver).runs :=
      (congrArg (fun v : Scene κ => v.runs) hscene :)
    obtain ⟨honce, hmoves⟩ :=
      Call.carry_once h (Accorded.moves hacc hadopted) hself rfl admitted .openSession 0 op
    generalize hcarried : Call.carry D w₁.channels.fresh ⟨handle, w.pages.fresh, true⟩
      .openSession 0 op (w₁.adopt handle w.pages.fresh) = e at honce hmoves
    obtain ⟨result, op', w'⟩ := e
    simp only [hcarried] at honce hmoves ⊢
    have hmoves := hadopted.trans hmoves
    have hunready : (w'.scene secure).Unready := (World.Accorded.moves hacc hmoves).unready
    cases result with
    | ok origin =>
      refine ⟨⟨hruns, honce.congr rfl fun failure => ⟨fun hf => (by cases hf), fun hf => ?_⟩⟩,
        hmoves⟩
      cases hf
    | error failure =>
      -- the session is taken down again and forgotten, which runs nothing
      refine ⟨⟨hruns, honce.congr ?_ fun failure' => ⟨fun hf => ?_, fun hf => ?_⟩⟩, ?_⟩
      · rw [driver_forget]
        exact runs_teardown (w := w'.log (.openRejected handle failure)) h hunready
          w₁.channels.fresh
      · cases hf
        rfl
      · cases hf
        rfl
      · have hdown := moves_teardown (w := w'.log (.openRejected handle failure)) h hunready
          admitted w₁.channels.fresh
        exact (hmoves.trans hdown).trans
          (moves_forget secure admitted w₁.channels.fresh (((w'.log _).teardown D _).log _))

end World

/-! ## Client programs -/

/-- The recorder armed anew, with faults in the secure world, cancellations and results to be
replaced. -/
def Recorder.Rearmed (before after : Recorder (SecureWorld κ)) : Prop :=
  ∃ faults hooks overrides,
    after = { before with inner := { before.inner with faults }, hooks, overrides }

/-- Arming a recorder anew is not seen by the staff. -/
theorem Recorder.Rearmed.staff_eq {before after : Recorder (SecureWorld κ)}
    (h : Recorder.Rearmed before after) : after.inner.staff = before.inner.staff := by
  obtain ⟨faults, hooks, overrides, rfl⟩ := h
  rfl

namespace Client

variable (D : Driver σ) (secure : σ → SecureWorld κ)

/-- No active session has a request published or a completion undelivered. -/
def Quiet (c : Client σ) : Prop :=
  ∀ id channel, c.world.channels.get? id = some channel → channel.active = true →
    (c.world.page channel.page).ready = false ∧
    ∀ worker, (secure c.world.driver).sessions.get? channel.handle = some worker →
      worker.completions = []

/-- Whichever call the client makes on a session, it runs at most one entry point. -/
structure RunsOnce (c : Client σ) : Prop where
  /-- A login that is not supported is refused before the driver is asked. -/
  openSession : ∀ context session destination login operation result c',
    c.openSession D context session destination login operation = some (result, c') →
    match ConnectionMethod.ofRaw login.1 login.2 with
    | .error fault => result = .error fault.failure ∧ fault.failure.origin ≠ .trustedApp ∧
      (secure c'.world.driver).runs = (secure c.world.driver).runs
    | .ok method => ∃ op, c.operation? operation = some op ∧
      c.world.OpenedOnce D secure destination method op result c'.world
  invoke : ∀ session command operation result c',
    c.invoke D session command operation = some (result, c') →
    ∃ s op, c.sessions.get? session = some s ∧ c.operation? operation = some op ∧
      c.world.InvokedOnce D secure s.channel command op result c'.world
  closeSession : ∀ session c', c.closeSession D session = some c' →
    ∃ s, c.sessions.get? session = some s ∧ c.world.ClosedOnce D secure s.channel c'.world

variable {D secure} {c c' : Client σ}

/-- Scene and sessions do not depend on the rest of the client. -/
theorem stage_of_affairs
    (hstaff : (secure c'.affairs.driver).staff = (secure c.affairs.driver).staff)
    (hpages : c'.affairs.pages = c.affairs.pages)
    (hchannels : c'.affairs.channels = c.affairs.channels) :
    c'.world.stage secure = c.world.stage secure := by
  show Stage.mk ((secure c'.affairs.driver).staff.scene c'.affairs.pages) c'.affairs.channels.get?
    c'.affairs.channels.fresh = _
  rw [hstaff, hpages, hchannels]
  rfl

/-- The next session that the client opens is admitted, whichever it is. -/
def Admits (D : Driver σ) (secure : σ → SecureWorld κ) (admitted : Admission κ) (c : Client σ) :
    Prop :=
  ∀ destination login, c.world.Admits D secure admitted destination login

/-- What a call of a client does to scene and sessions, it does in moves. -/
theorem moves_effect (h : Hosts D secure) (hacc : c.world.Accorded secure) {admitted : Admission κ}
    (hadmits : c.Admits D secure admitted) {call : ClientCall} (he : Effect D c c' call) :
    Moves admitted (c.world.stage secure) (c'.world.stage secure) := by
  cases he with
  | idle affairs =>
    -- what does not concern the driver is not seen in the scene
    rw [stage_of_affairs (by rw [affairs]) (by rw [affairs]) (by rw [affairs])]
  | openContext contexts _ affairs _ =>
    have hstaff : (secure c'.affairs.driver).staff = (secure c.affairs.driver).staff := by
      rw [affairs]
      exact h.openDevice c.world.desk
    rw [stage_of_affairs hstaff (by rw [affairs]) (by rw [affairs])]
  | closeContext _ _ affairs =>
    have hstaff : (secure c'.affairs.driver).staff = (secure c.affairs.driver).staff := by
      rw [affairs]
      exact h.closeDevice c.world.desk
    rw [stage_of_affairs hstaff (by rw [affairs]) (by rw [affairs])]
  | cancel id world _ _ =>
    unfold World.stage
    rw [world, h.scene_cancelCall hacc.unready id,
      (World.tolerates_channels D).cancelCall id c.world]
  | openSession method op _ _ world _ _ =>
    rw [world]
    exact (World.openSession_once h hacc op (hadmits _ method.login)).2
  | invoke s op _ world _ _ =>
    rw [world]
    exact (World.invoke_once h hacc admitted s.channel _ op).2
  | closeSession s _ world _ _ =>
    rw [world]
    exact (World.closeSession_once h hacc admitted s.channel).2

/-- Where the invariant holds no active session has anything left over. -/
theorem quiet_of_accorded (hacc : c.world.Accorded secure) : c.Quiet secure := by
  intro id channel hget ha
  refine ⟨?_, fun worker hworker => ?_⟩
  · obtain ⟨page, hpage, hready⟩ := hacc.idle id channel hget ha
    have hu := World.page_of_scene hpage
    exact (congrArg Page.ready hu).trans hready
  · exact hacc.drained channel.handle worker hworker

/-- Where the invariant holds every call on a session runs at most one entry point. -/
theorem runsOnce_of_accorded (h : Hosts D secure) (hacc : c.world.Accorded secure) :
    c.RunsOnce D secure where
  openSession context session destination login operation result c' hcall := by
    obtain ⟨-, op, hop, hcase⟩ := openSession_cases hcall
    cases hmethod : ConnectionMethod.ofRaw login.1 login.2 with
    | error fault =>
      simp only [hmethod] at hcase ⊢
      obtain ⟨rfl, journal, rfl⟩ := hcase
      -- a login that is not supported is refused at once
      exact ⟨rfl, by cases fault <;> exact fun ho => (by cases ho), rfl⟩
    | ok method =>
      simp only [hmethod] at hcase ⊢
      obtain ⟨rfl, rfl⟩ := hcase
      refine ⟨op, hop, ?_⟩
      rw [(afterOpening_eq c context session operation _).1]
      exact (World.openSession_once h hacc op
        (World.admits_any D secure destination method.login c.world)).1
  invoke session command operation result c' hcall := by
    obtain ⟨s, op, hs, hop, rfl, rfl⟩ := invoke_cases hcall
    refine ⟨s, op, hs, hop, ?_⟩
    rw [(keepOperation_eq _ operation _).1]
    exact (World.invoke_once h hacc .any s.channel command op).1
  closeSession session c' hcall := by
    obtain ⟨s, hs, rfl⟩ := closeSession_cases hcall
    exact ⟨s, hs, (World.closeSession_once h hacc .any s.channel).1⟩

/-- What leaves the staff as it is leaves the invariant, whatever else it does to the driver. -/
theorem accorded_withDriver (hacc : c.world.Accorded secure) {driver : σ}
    (hstaff : (secure driver).staff = (secure c.world.driver).staff) :
    (c.withDriver driver).world.Accorded secure := by
  have hmoves : Moves .any (c.world.stage secure) ((c.withDriver driver).world.stage secure) := by
    rw [show (c.withDriver driver).world.stage secure = _ from stage_of_affairs hstaff rfl rfl]
  exact World.Accorded.moves hacc hmoves

/-- The invariant holds in every run, if the staff is left when a call begins. -/
theorem accorded_steps (h : Hosts D secure) {before : ClientCall → σ → σ → Prop}
    (hbefore : ∀ call t t', before call t t' → (secure t').staff = (secure t).staff)
    (run : Steps D before c c') (hacc : c.world.Accorded secure) : c'.world.Accorded secure := by
  refine run.preserves (P := fun c => c.world.Accorded secure) ?_ hacc
  intro c₁ c₂ call driver h₁ hb hperform
  have hacc₁ := accorded_withDriver h₁ (hbefore call _ _ hb)
  exact World.Accorded.moves hacc₁ (moves_effect h hacc₁
    (fun destination login => World.admits_any _ _ destination login _)
    (effect_of_perform hperform))

/-- A client that has done nothing keeps the invariant. -/
theorem accorded_start (apps : Table Uuid (App κ)) :
    (Client.start (Recorder.start (SecureWorld.start apps))).world.Accorded Recorder.inner where
  drained _ _ hw := by cases hw
  unready _ _ _ hw := by cases hw
  lodged _ _ hw := by cases hw
  housed _ _ hch := by cases hch
  idle _ _ hch := by cases hch
  apart _ _ _ _ hch := by cases hch
  tied _ _ _ _ hch := by cases hch

end Client

/-- In every run of a client program on the recorded secure world, with faults and cancellations
armed in any way before each call, no active session has a request published or a completion
undelivered between two calls, and each call on a session runs at most one entry point: exactly one
if it succeeds or the application reports the failure, and none if its request cannot be filled in
or the session is refused. -/
theorem entry_points_run_once {apps : Table Uuid (App κ)} {c : Client (Recorder (SecureWorld κ))}
    (run : Client.Steps (Recorder.driver SecureWorld.driver) (fun _ => Recorder.Rearmed)
      (.start (.start (.start apps))) c) :
    c.Quiet Recorder.inner ∧ ∀ driver, Recorder.Rearmed c.world.driver driver →
      (c.withDriver driver).RunsOnce (Recorder.driver SecureWorld.driver) Recorder.inner := by
  have hosts : Hosts (Recorder.driver SecureWorld.driver) (Recorder.inner : _ → SecureWorld κ) :=
    hosts_driver.recorder
  have hacc : c.world.Accorded Recorder.inner :=
    Client.accorded_steps hosts (fun _ _ _ hr => hr.staff_eq) run (Client.accorded_start apps)
  refine ⟨Client.quiet_of_accorded hacc, fun driver hrearmed => ?_⟩
  exact Client.runsOnce_of_accorded hosts (Client.accorded_withDriver hacc hrearmed.staff_eq)

/-! A command that has its own call cancelled, with cancellations due around it as well. -/

namespace Restless

/-- An application that cancels the call that it serves, and goes on. -/
def app : App Unit where
  initial := ()
  opening _ := .finish (.ok ()) ()
  command _ _ := .cancel "stop" fun _ => .finish (.ok ()) ()
  closing _ := .finish (.ok ()) ()

/-- Cancellations are due when a command is notified, and when its buffer is unmapped. -/
def arm (call : ClientCall) (r : Recorder (SecureWorld Unit)) : Recorder (SecureWorld Unit) :=
  match call with
  | .invoke .. => { r with hooks := [⟨.notify, 1, 0, "stop"⟩, ⟨.unmap, 1, 0, "stop"⟩] }
  | _ => r

/-- A program that opens a session and invokes a command with a buffer lent. -/
def calls : List ClientCall :=
  [.openContext "tee" none .default, .openSession "tee" "session" .nil (0, none) none,
    .newOperation "op" ⟨.temporary .inout [1, 2], .unused, .unused, .unused⟩,
    .nameToken "stop" "op", .invoke "session" 5 (some "op")]

/-- The client after the program. -/
def client? : Option (Client (Recorder (SecureWorld Unit))) :=
  Client.performAll (Recorder.driver SecureWorld.driver) arm
    (.start (.start (.start (Table.ofList [(.nil, app)])))) calls

/-- The invocation of one more command. -/
def again (c : Client (Recorder (SecureWorld Unit))) :
    Option (Except Failure Origin × Client (Recorder (SecureWorld Unit))) :=
  c.invoke (Recorder.driver SecureWorld.driver) "session" 6 (some "op")

/-- What is armed before a call is armed anew. -/
theorem rearmed_arm (call : ClientCall) (r : Recorder (SecureWorld Unit)) :
    Recorder.Rearmed r (arm call r) := by
  unfold arm
  split
  · exact ⟨_, _, _, rfl⟩
  · exact ⟨_, _, _, rfl⟩

end Restless

/-- After the program the session has nothing left over, and the next command, which succeeds, runs
one more entry point. -/
theorem entry_points_run_once_restless : ∃ c result c', Restless.client? = some c ∧
    Restless.again c = some (result, c') ∧ c.Quiet Recorder.inner ∧ result.isOk = true ∧
    c'.world.driver.inner.runs.length = c.world.driver.inner.runs.length + 1 := by
  obtain ⟨c, hc⟩ := Option.isSome_iff_exists.1
    (show Restless.client?.isSome = true by decide +kernel)
  have hagain : (Restless.again c).any (·.1.isOk) = true :=
    (show ∀ c ∈ Restless.client?, (Restless.again c).any (·.1.isOk) = true by decide +kernel) c hc
  obtain ⟨⟨result, c'⟩, hinvoke, hok⟩ := (Option.any_eq_true _ _).1 hagain
  have run : Client.Steps (Recorder.driver SecureWorld.driver) (fun _ => Recorder.Rearmed)
      (.start (.start (.start (Table.ofList [(.nil, Restless.app)])))) c :=
    Client.steps_performAll Restless.rearmed_arm hc
  obtain ⟨quiet, calls⟩ := entry_points_run_once run
  refine ⟨c, result, c', hc, hinvoke, quiet, hok, ?_⟩
  obtain ⟨s, op, -, -, honce⟩ := (calls c.world.driver ⟨_, _, _, rfl⟩).invoke _ _ _ _ _ hinvoke
  rcases honce with ⟨channel, -, -, honce⟩ | ⟨rfl, -⟩
  · obtain ⟨page, -, -, hruns⟩ := honce.exactlyOnce fun failure hf => (by cases hf; cases hok)
    exact congrArg List.length hruns
  · cases hok

end TeeClient

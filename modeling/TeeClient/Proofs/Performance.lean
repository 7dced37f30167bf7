import TeeClient.Proofs.Hosting
import TeeClient.Proofs.Trips

/-!
# The runs of an application in a world

While an application runs, requests to cancel act on the world around it, and it goes on with what
they leave. `World.play` is a program of an application that runs in a world, step by step; a
notification of the simulated secure world is such a run between two steps of the worker, or it
finds nothing to do (`World.onShared_notify_of_finds` and `World.onShared_notify_of_idle`); that of
a round trip is one or the other (`idle_or_finds_of_filling`).

Main statements:

* `World.play_ask`, `World.play_cancel`, `World.play_report`: what the steps of a program do to the
  world;
* `World.onShared_notify_of_finds`: a notification that finds a request published.
-/

namespace TeeClient

variable {σ κ α β : Type}

namespace World

/-! ## Replies in pieces -/

/-- A reply may start from the world that it finds with its own part replaced. -/
theorem settle_withShared (answers : Answers σ) (r : Reply (Shared σ) α) (w : World σ)
    (s : Shared σ) :
    settle answers toShared withShared r (w.withShared s)
      = settle answers toShared withShared r w := by
  cases r <;> rfl

/-- What comes after a reply goes on in the world that the reply leaves. -/
theorem settle_bind (answers : Answers σ) (r : Reply (Shared σ) α)
    (next : α → Shared σ → Reply (Shared σ) β) (w : World σ) :
    settle answers toShared withShared (r.bind next) w
      = (settle answers toShared withShared r w).2.settleShared answers
        (next (settle answers toShared withShared r w).1) := by
  induction r generalizing w with
  | done value state => exact (settle_withShared answers (next value state) w state).symm
  | cancel token state resume ih => exact ih _ _ _

/-- A primitive that goes on after another, in the world that the first one leaves. -/
theorem onShared_of_eq_bind (D : Driver σ) {act : Shared σ → Reply (Shared σ) β}
    {first : Shared σ → Reply (Shared σ) α} {next : α → Shared σ → Reply (Shared σ) β}
    {w : World σ} {s : Shared σ} (h : act w.toShared = (first s).bind next) :
    w.onShared D act = ((w.withShared s).onShared D first).2.onShared D
      (next ((w.withShared s).onShared D first).1) := by
  unfold onShared settleShared
  rw [h, settle_bind, ← settle_withShared (honour D) (first s) w s]
  rfl

/-- A primitive that begins by changing its own part. -/
theorem onShared_of_eq (D : Driver σ) {act act' : Shared σ → Reply (Shared σ) α} {w : World σ}
    {s : Shared σ} (h : act w.toShared = act' s) :
    w.onShared D act = (w.withShared s).onShared D act' := by
  unfold onShared settleShared
  rw [h, settle_withShared]
  rfl

/-! ## Programs -/

/-- A program of an application runs, on the page of its session. -/
def play (page : PageId) (login : Login) (program : Program κ) (w : World (SecureWorld κ)) :
    Option (Except Status Unit × κ) × World (SecureWorld κ) :=
  w.onShared SecureWorld.driver (program.run page login)

/-- What an application acts on in a world. -/
def chamber (page : PageId) (w : World σ) : Chamber := ⟨w.page page, w.memory⟩

/-- The world in which an application acted on its page and on the memory. -/
def withChamber (page : PageId) (chamber : Chamber) (w : World σ) : World σ :=
  { w.onPage page (fun _ => chamber.page) with memory := chamber.memory }

variable {page : PageId} {login : Login} {w : World (SecureWorld κ)}

/-- A program that returns a result. -/
@[simp] theorem play_finish (result : Except Status Unit) (state : κ) :
    w.play page login (.finish result state) = (some (result, state), w) := rfl

/-- A program that panics. -/
@[simp] theorem play_panic : w.play page login (Program.panic : Program κ) = (none, w) := rfl

/-- A program that asks is answered, and goes on. -/
theorem play_ask (query : Query) (next : query.Answer → Program κ) :
    w.play page login (.ask query next)
      = match query.answer w.driver.mappings login (w.chamber page) with
        | none => (none, w)
        | some (answer, chamber) => (w.withChamber page chamber).play page login (next answer) := by
  unfold play chamber
  cases h : query.answer w.driver.mappings login ⟨w.page page, w.memory⟩ with
  | none =>
    unfold onShared settleShared Program.run
    rw [h]
    rfl
  | some answered =>
    refine onShared_of_eq _ (s := (w.withChamber page answered.2).toShared) ?_
    rw [Program.run, h]
    rfl

/-- A program that cancels goes on in the world that the cancellation leaves. -/
@[simp] theorem play_cancel (token : String) (next : Option (Progress × Progress) → Program κ) :
    w.play page login (.cancel token next)
      = (w.honour SecureWorld.driver token).2.play page login
        (next (w.honour SecureWorld.driver token).1) := rfl

/-- A program that leaves a note goes on. -/
@[simp] theorem play_report (event : Event) (next : Program κ) :
    w.play page login (.report event next)
      = (w.withShared (w.toShared.note event)).play page login next :=
  onShared_of_eq _ rfl

/-- What the steps of a program preserve, and requests to cancel, the program preserves. -/
theorem play_preserves {P : World (SecureWorld κ) → Prop}
    (hask : ∀ w (q : Query) answer chamber,
      q.answer w.driver.mappings login (w.chamber page) = some (answer, chamber) → P w →
      P (w.withChamber page chamber))
    (hcancel : ∀ w token, P w → P (w.honour SecureWorld.driver token).2)
    (hreport : ∀ w event, P w → P (w.withShared (w.toShared.note event)))
    (program : Program κ) (h : P w) : P (w.play page login program).2 := by
  induction program generalizing w with
  | finish result state => exact h
  | panic => exact h
  | ask query next ih =>
    rw [play_ask]
    split
    · exact h
    next answer chamber ha => exact ih answer (hask w query answer chamber ha h)
  | cancel token next ih => exact ih _ (hcancel w token h)
  | report event next ih =>
    rw [play_report]
    exact ih (hreport w event h)

/-- Requests to cancel have nothing served: no worker finds a request published, or no call is under
way that could be cancelled. -/
def Undisturbed (w : World (SecureWorld κ)) : Prop := (w.scene id).Unready ∨ w.started = 0

/-- Requests to cancel have nothing served but the request of a session, if anything. -/
def Reserved (handle : Handle) (w : World (SecureWorld κ)) : Prop :=
  (w.scene id).Exclusive handle ∨ w.started = 0

/-- No request to cancel that an application makes is due where no call is under way. -/
theorem honour_of_quiet {D : Driver σ} {w : World σ} (hq : w.started = 0) (token : String) :
    ∃ journal, (w.honour D token).2 = { w with journal } := by
  rw [honour_eq_cancelCall]
  split
  · exact ⟨w.journal, rfl⟩
  next lifecycle _ =>
    refine cancelWith_of_not_started D (honour D) fun hp => ?_
    have hless := (w.started_cancelled lifecycle).2 hp
    omega

/-- Requests to cancel that have nothing served publish nothing. -/
theorem Undisturbed.honour (hq : w.Undisturbed) (token : String) :
    (w.honour SecureWorld.driver token).2.Undisturbed := by
  refine hq.imp (fun hunready => ?_) fun hquiet => ?_
  · rw [show (w.honour SecureWorld.driver token).2.scene id = _ from
      hosts_driver.scene_honoured hunready token]
    exact hunready
  · exact Nat.le_zero.1 (hquiet ▸ (tolerates_started SecureWorld.driver).honour token w)

/-- An application that acts on its page publishes nothing. -/
theorem Undisturbed.withChamber (hq : w.Undisturbed) {q : Query} {answer : q.Answer}
    {chamber : Chamber}
    (h : q.answer w.driver.mappings login (w.chamber page) = some (answer, chamber)) :
    (w.withChamber page chamber).Undisturbed :=
  hq.imp (Query.touched_answer h).unready fun hquiet => hquiet

/-- What the steps of a program preserve, and requests to cancel that have nothing served, the
program preserves. -/
theorem play_preserves_of_undisturbed {P : World (SecureWorld κ) → Prop}
    (hask : ∀ w (q : Query) answer chamber,
      q.answer w.driver.mappings login (w.chamber page) = some (answer, chamber) → P w →
      P (w.withChamber page chamber))
    (hcancel : ∀ w token, Undisturbed w → P w → P (w.honour SecureWorld.driver token).2)
    (hreport : ∀ w event, P w → P (w.withShared (w.toShared.note event)))
    (hq : w.Undisturbed) (program : Program κ) (h : P w) : P (w.play page login program).2 :=
  (play_preserves (P := fun w => w.Undisturbed ∧ P w)
    (fun w q answer chamber ha hw =>
      ⟨hw.1.withChamber ha, hask w q answer chamber ha hw.2⟩)
    (fun w token hw => ⟨hw.1.honour token, hcancel w token hw.1 hw.2⟩)
    (fun w event hw => ⟨hw.1, hreport w event hw.2⟩) program ⟨hq, h⟩).2

/-- A program writes slots in the page of its session, and nothing else is seen in the scene. -/
theorem touched_play (hq : w.Undisturbed) (program : Program κ) :
    Scene.Touched page (w.scene id) ((w.play page login program).2.scene id) := by
  rcases hq with hunready | hquiet
  · have hmeets : (program.run page login w.toShared).Meets (Shared.Attends id 0) _ :=
      program.run_meets page login w.toShared hunready
    exact (hosts_driver.tolerates_scene 0).onShared_meets hmeets
  · have hmeets : (program.run page login w.toShared).Meets (fun s s' => s'.scene id = s.scene id)
        fun _ s' => Scene.Touched page (w.scene id) (s'.scene id) :=
      Program.run_touches (fun _ _ (_ : True) _ => trivial) (fun _ _ _ hk => hk) login program
        w.toShared trivial
    obtain ⟨w', shared, -, htouched, he⟩ := onShared_meets SecureWorld.driver
      (A := fun w => w.started = 0) hmeets (fun w' shared token hw' => by
        obtain ⟨journal, hsame⟩ := honour_of_quiet (D := SecureWorld.driver)
          (w := w'.withShared shared) hw' token
        rw [hsame]
        exact ⟨hw', rfl⟩) hquiet
    rw [show w.play page login program = w.onShared _ _ from rfl, he]
    exact htouched

end World

/-! ## Notifications -/

namespace SecureWorld

/-- The worker of a session is changed as it is said. -/
theorem get?_onWorker_self {handle : Handle} {w : SecureWorld κ} {worker : Worker κ}
    (h : w.sessions.get? handle = some worker) (f : Worker κ → Worker κ) :
    (w.onWorker handle f).sessions.get? handle = some (f worker) := by
  show (w.sessions.modify handle f).get? handle = _
  rw [Table.get?_modify, if_pos rfl, h]
  rfl

/-- A worker is left by a program that has ended. -/
def left (handle : Handle) (page : PageId) (instruction : Instruction)
    (ended : Option (Except Status Unit × κ)) (s : Shared (SecureWorld κ)) :
    Shared (SecureWorld κ) :=
  match ended with
  | none => { s with driver := s.driver.onWorker handle fun w => { w with alive := false } }
  | some (result, state) =>
    let status := match instruction, result with
      | .closeSession, _ => Status.success
      | _, .ok () => Status.success
      | _, .error code => code
    conclude handle page Origin.trustedApp.code status state s

/-- The worker of a session finds a request published, whose instruction is a known one. -/
structure Finds (handle : Handle) (worker : Worker κ) (instruction : Instruction)
    (s : Shared (SecureWorld κ)) : Prop where
  heard : s.driver.faults.notify = false
  hired : s.driver.sessions.get? handle = some worker
  alive : worker.alive = true
  ready : (s.page worker.page).ready = true
  known : Instruction.ofRaw? (s.page worker.page).request.instruction = some instruction

/-- No worker of the session finds a request published. -/
def Idle (handle : Handle) (s : Shared (SecureWorld κ)) : Prop :=
  ∀ worker, s.driver.faults.notify = false → s.driver.sessions.get? handle = some worker →
    worker.alive = true → (s.page worker.page).ready = false

end SecureWorld

namespace World

open SecureWorld

/-- The world with its driver replaced. -/
def withDriver (w : World σ) (driver : σ) : World σ := { w with driver }

/-- The world in which the worker of a session has heard the bell and consumed the mark. -/
def consumed (handle : Handle) (page : PageId) (w : World (SecureWorld κ)) :
    World (SecureWorld κ) :=
  (w.withDriver (ring handle w.driver).2).onPage page fun p => p.consumeReady.2

/-- The worker of a session takes up the request that it finds: its mark is consumed, and the run
entered. -/
def takenUp (handle : Handle) (worker : Worker κ) (instruction : Instruction)
    (w : World (SecureWorld κ)) : World (SecureWorld κ) :=
  let w := w.consumed handle worker.page
  w.withShared (enter ⟨handle, instruction, worker.page, w.page worker.page⟩ w.toShared)

/-- The program of the request that a worker finds. -/
def due (worker : Worker κ) (instruction : Instruction) (w : World σ) : Program κ :=
  worker.app.entry instruction (w.page worker.page).request.command worker.state

/-- How the program ends that a notification has run, and the world in which it ends. -/
def performed (handle : Handle) (worker : Worker κ) (instruction : Instruction)
    (w : World (SecureWorld κ)) : Option (Except Status Unit × κ) × World (SecureWorld κ) :=
  (w.takenUp handle worker instruction).play worker.page worker.login (w.due worker instruction)

/-- The world after a notification that has run a program: the worker is left by the program. -/
def served (handle : Handle) (worker : Worker κ) (instruction : Instruction)
    (w : World (SecureWorld κ)) : World (SecureWorld κ) :=
  let (ended, w) := w.performed handle worker instruction
  w.withShared (left handle worker.page instruction ended w.toShared)

variable {handle : Handle} {w : World (SecureWorld κ)}

/-- A worker that is not there, is not alive or finds nothing published does nothing. -/
theorem onShared_notify_of_idle (h : Idle handle w.toShared) :
    w.onShared SecureWorld.driver (SecureWorld.notify handle)
      = ((ring handle w.driver).1, w.withDriver (ring handle w.driver).2) := by
  unfold onShared settleShared SecureWorld.notify
  obtain ⟨worker, hworker, halive, hheard, he⟩ | ⟨e, he⟩ := ring_cases handle w.driver <;>
    rw [he]
  · have hunready : (w.page worker.page).ready = false := h worker hheard hworker halive
    simp only
    rw [attend_of_unready (s := { w.toShared with driver := w.driver.count _ }) hworker hunready]
    rfl
  · rfl

/-- Where no worker finds a request published, none has anything to do. -/
theorem idle_of_unready (hu : (w.scene id).Unready) (handle : Handle) :
    Idle handle w.toShared := by
  intro worker _ hworker _
  unfold Shared.page
  cases hp : w.pages.get? worker.page with
  | none => rfl
  | some p => exact hu handle worker p.unflagged hworker (congrArg (Option.map Page.unflagged) hp)

/-- The flag of a cancellation is not seen in the scene. -/
theorem scene_onPage_setCancelled (page : PageId) (w : World (SecureWorld κ)) :
    (w.onPage page (·.setCancelled true)).scene id = w.scene id := by
  have hpages := Shared.scene_onPage id w.toShared page (·.setCancelled true) (fun p => p)
    fun _ => rfl
  rw [Scene.onPage_self] at hpages
  exact hpages

/-- A cancellation of which no worker finds a request published is a request that is flagged,
counted and entered in the journal. -/
theorem cancelWith_of_unready {w : World (SecureWorld κ)} (hu : (w.scene id).Unready)
    {lifecycle : LifecycleId} {session : ChannelId} {l : Lifecycle} {channel : Channel}
    (hl : w.lifecycles.get? lifecycle = some l) (hp : l.progress = .started)
    (htarget : l.target = some session) (hget : w.channels.get? session = some channel)
    (ha : channel.active = true) :
    ∃ journal, w.cancelCall SecureWorld.driver lifecycle =
      { ((w.cancelled lifecycle).onPage channel.page (·.setCancelled true)).withDriver
        (ring channel.handle w.driver).2 with journal } := by
  have hcancel : w.cancelCall SecureWorld.driver lifecycle
      = (w.cancelled lifecycle).signal SecureWorld.driver (honour SecureWorld.driver) session := by
    have := cancelWith_of_started SecureWorld.driver (honour SecureWorld.driver) hl hp
    rwa [htarget] at this
  have hscene := scene_onPage_setCancelled channel.page (w.cancelled lifecycle)
  obtain ⟨journal, hsignal⟩ := signal_of_active SecureWorld.driver (honour SecureWorld.driver)
    (w := w.cancelled lifecycle) hget ha
  have hnotified := onShared_notify_of_idle (idle_of_unready (hscene.symm ▸ hu) channel.handle)
  refine ⟨journal, ?_⟩
  rw [hcancel, hsignal]
  exact congrArg (fun out : _ × World (SecureWorld κ) => { out.2 with journal }) hnotified

variable {worker : Worker κ} {instruction : Instruction}

/-- A page that is published is there. -/
theorem exists_page_of_ready {s : Shared σ} {id : PageId} (h : (s.page id).ready = true) :
    ∃ p, s.pages.get? id = some p ∧ s.page id = p := by
  unfold Shared.page at h ⊢
  cases hp : s.pages.get? id with
  | none =>
    rw [hp] at h
    cases h
  | some p => exact ⟨p, rfl, rfl⟩

/-- A worker that has consumed a mark reads its page as it was published, less the mark. -/
theorem page_consumed (handle : Handle) {page : PageId} (ready : (w.page page).ready = true) :
    (w.consumed handle page).page page = (w.page page).setReady false := by
  obtain ⟨p, hp, hpage⟩ := exists_page_of_ready ready
  rw [show w.page page = p from hpage]
  exact Shared.page_of_get? (Shared.get?_onPage
    (s := (w.withDriver (ring handle w.driver).2).toShared) hp fun p => p.consumeReady.2)

/-- What a worker does that has consumed the mark of a request. -/
theorem onShared_serve (h : Finds handle worker instruction w.toShared) :
    (w.consumed handle worker.page).onShared SecureWorld.driver
      (serve handle worker) = ((), w.served handle worker instruction) := by
  -- the request is as it was found
  have hrequest : ((w.consumed handle worker.page).page worker.page).request
      = (w.page worker.page).request := by
    rw [page_consumed handle h.ready]
    rfl
  have hknown : Instruction.ofRaw?
      ((w.consumed handle worker.page).page worker.page).request.instruction
        = some instruction := by
    rw [hrequest]
    exact h.known
  have hserve : serve handle worker (w.consumed handle worker.page).toShared
      = ((w.due worker instruction).run worker.page worker.login
          (w.takenUp handle worker instruction).toShared).bind fun ended s =>
            .done () (left handle worker.page instruction ended s) := by
    unfold serve due
    simp only [hknown, ← hrequest]
    congr 1
  rw [onShared_of_eq_bind SecureWorld.driver hserve]
  rfl

/-- Consuming a mark is seen in the scene, and counting a notification is not. -/
theorem scene_consumed (handle : Handle) (page : PageId) (w : World (SecureWorld κ)) :
    (w.consumed handle page).scene id = (w.scene id).onPage page (·.setReady false) := by
  have hring : (w.withDriver (ring handle w.driver).2).scene id = w.scene id := by
    rw [ring_snd]
    rfl
  rw [← hring]
  exact Shared.scene_onPage id (w.withDriver (ring handle w.driver).2).toShared page _ _
    fun _ => rfl

/-- A request that is taken up is not disturbed if it was reserved. -/
theorem undisturbed_takenUp (h : Finds handle worker instruction w.toShared)
    (hr : w.Reserved handle) : (w.takenUp handle worker instruction).Undisturbed := by
  refine hr.imp (fun hexclusive => ?_) fun hquiet => hquiet
  have hunready := hexclusive.unready_onPage h.hired (f := (·.setReady false))
    fun _ => rfl
  rw [← scene_consumed handle] at hunready
  exact hunready

/-- What a program changes in the scene that has taken up a request. -/
theorem touched_performed (h : Finds handle worker instruction w.toShared)
    (hr : w.Reserved handle) :
    Scene.Touched worker.page ((w.takenUp handle worker instruction).scene id)
      ((w.performed handle worker instruction).2.scene id) :=
  touched_play (undisturbed_takenUp h hr) _

/-- The worker is as it was when the program has ended. -/
theorem worker_performed (h : Finds handle worker instruction w.toShared)
    (hr : w.Reserved handle) :
    (w.performed handle worker instruction).2.driver.sessions.get? handle = some worker := by
  have hstaff := congrFun (congrArg Staff.workers (touched_performed h hr).staff) handle
  have hring : (ring handle w.driver).2.sessions.get? handle = some worker := by
    rw [ring_snd]
    exact h.hired
  exact hstaff.trans hring

/-- A worker survives a program that returns a result, and no other. -/
theorem alive_served (h : Finds handle worker instruction w.toShared) (hr : w.Reserved handle) :
    ∃ later, (w.served handle worker instruction).driver.sessions.get? handle = some later ∧
      later.alive = (w.performed handle worker instruction).1.isSome ∧
      ((w.performed handle worker instruction).1 = none →
        later.completions = worker.completions) := by
  have hworker := worker_performed h hr
  unfold served left
  rcases hended : w.performed handle worker instruction with ⟨_ | ⟨result, state⟩, w'⟩ <;>
    rw [hended] at hworker
  · exact ⟨_, get?_onWorker_self hworker _, rfl, fun _ => rfl⟩
  · exact ⟨_, get?_onWorker_self (w := { w'.driver with faults := _ }) hworker _, h.alive, nofun⟩

/-- A worker that finds a request published consumes the mark and serves it. -/
theorem onShared_notify_of_serve {after : World (SecureWorld κ)}
    (hheard : w.driver.faults.notify = false)
    (hhired : w.driver.sessions.get? handle = some worker) (halive : worker.alive = true)
    (hready : (w.page worker.page).ready = true)
    (hserve : (w.consumed handle worker.page).onShared SecureWorld.driver (serve handle worker)
      = ((), after)) :
    w.onShared SecureWorld.driver (SecureWorld.notify handle) = (.ok (), after) := by
  have hring := ring_of_alive hheard hhired halive
  have hnotify : SecureWorld.notify handle w.toShared
      = (serve handle worker (w.consumed handle worker.page).toShared).bind
          fun _ s => .done (.ok ()) s := by
    unfold SecureWorld.notify consumed
    rw [hring]
    simp only
    rw [attend_of_ready (s := { w.toShared with driver := w.driver.count _ }) hhired hready]
    rfl
  have hrest := onShared_of_eq_bind SecureWorld.driver hnotify
  rw [show w.withShared (w.consumed handle worker.page).toShared
    = w.consumed handle worker.page from rfl, hserve] at hrest
  exact hrest

/-- A worker that finds a request published runs the entry point, and is left by it. -/
theorem onShared_notify_of_finds (h : Finds handle worker instruction w.toShared) :
    w.onShared SecureWorld.driver (SecureWorld.notify handle)
      = (.ok (), w.served handle worker instruction) :=
  onShared_notify_of_serve h.heard h.hired h.alive h.ready (onShared_serve h)

end World

section Filled

variable {t : Trip (SecureWorld κ)} {held : Holdings} {w : World (SecureWorld κ)}
  (hacc : t.world.Accorded id) (hf : t.filling SecureWorld.driver = (.ok held, w))
include hacc hf

/-- The notification of a round trip finds its request, on the page of its session, or nothing. -/
theorem idle_or_finds_of_filling :
    SecureWorld.Idle t.channel.handle w.toShared ∨ ∃ worker instruction,
      worker.page = t.channel.page ∧ worker.completions = [] ∧
      SecureWorld.Finds t.channel.handle worker instruction w.toShared := by
  obtain ⟨f, hposted⟩ := Call.exists_posted hosts_driver hacc.unready hf
  by_cases hidle : SecureWorld.Idle t.channel.handle w.toShared
  · exact .inl hidle
  · -- if a worker has a request to serve, it is the one that the round trip has published
    obtain ⟨worker, hidle⟩ := Classical.not_forall.1 hidle
    simp only [Classical.not_imp, Bool.not_eq_false] at hidle
    obtain ⟨hheard, hworker, halive, hready⟩ := hidle
    obtain ⟨p, hpage, hread⟩ := World.exists_page_of_ready hready
    have hscene : (w.scene id).pages worker.page = some p.unflagged :=
      congrArg (Option.map Page.unflagged) hpage
    have hfound : (t.world.scene id).workers t.channel.handle = some worker :=
      (congrFun (congrArg (fun v : Scene κ => v.workers) hposted.scene) _).symm.trans hworker
    rw [hposted.scene] at hscene
    obtain ⟨hpage', q, hq⟩ := hacc.found hfound hscene (hread ▸ hready)
    refine .inr ⟨worker, t.instruction, hpage', hacc.drained _ worker hfound, hheard, hworker,
      halive, hready, ?_⟩
    -- the instruction of a page that is published complete is that of the round trip
    have hinstruction : p.request.instruction = t.instruction.raw :=
      (congrArg (fun p : Page => p.request.instruction) hq :).trans
        (hposted.complete q).2.2.instruction
    rw [show w.toShared.page worker.page = p from hread, hinstruction, Instruction.ofRaw?_raw]

/-- A request that a round trip publishes for an active session is the only one that is
published. -/
theorem reserved_of_filling (hget : t.world.channels.get? t.id = some t.channel)
    (hactive : t.channel.active = true) : w.Reserved t.channel.handle := by
  obtain ⟨f, hposted⟩ := Call.exists_posted hosts_driver hacc.unready hf
  exact .inl (hposted.exclusive hacc hget hactive)

end Filled

end TeeClient

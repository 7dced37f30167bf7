import TeeClient.Proofs.Interruption
import TeeClient.Proofs.Primitives

/-!
# How the secure world serves a request

A `Scene` is what decides which entry points run: the workers, the runs so far and the pages,
cancellation flags aside. A notification changes something only if it finds a request published;
then one entry point runs, the request is consumed, and at most one completion is queued
(`Scene.Served`). Whoever notifies the session again finds nothing published. So where requests are
published for one session at most (`Scene.Exclusive`), `Scene.Attended` says what any number of
notifications come to.

Main statements:

* `Scene.Attended.trans`: several notifications come to one at most;
* `Program.run_meets`: a program of an application leaves the scene but for the page of its session;
* `SecureWorld.notify_meets`: a notification runs at most one entry point, and one that succeeds
  leaves no request published for its session.
-/

namespace TeeClient

variable {σ κ : Type}

/-! ## Scenes -/

/-- The page with its cancellation flag aside. -/
def Page.unflagged (p : Page) : Page := p.setCancelled false

/-- The page with its slots aside. -/
def Page.unfilled (p : Page) : Page :=
  { p with request := { p.request with params := .replicate .zero } }

/-- A worker with nothing done so far serves a page for a login. -/
structure Worker.Starts (page : PageId) (login : Login) (worker : Worker κ) : Prop where
  page : worker.page = page
  login : worker.login = login
  alive : worker.alive = true
  completions : worker.completions = []

/-- The worker of the same session later on, with the same application. At most one more completion
is queued. -/
structure Worker.Continues (worker later : Worker κ) : Prop where
  page : later.page = worker.page
  app : later.app = worker.app
  login : later.login = worker.login
  completions : later.completions.length ≤ worker.completions.length + 1

/-- The workers and the runs so far. -/
@[ext] structure Staff (κ : Type) where
  workers : Handle → Option (Worker κ)
  runs : List Run

/-- The workers, the runs so far and the pages. -/
@[ext] structure Scene (κ : Type) extends Staff κ where
  pages : PageId → Option Page
  /-- The number of the next page. -/
  fresh : PageId

/-- The workers and runs of a secure world. -/
def SecureWorld.staff (w : SecureWorld κ) : Staff κ :=
  ⟨w.sessions.get?, w.runs⟩

/-- The scene of some workers and pages. -/
def Staff.scene (staff : Staff κ) (pages : Arena Page) : Scene κ :=
  { staff with pages := fun id => (pages.get? id).map Page.unflagged, fresh := pages.fresh }

/-- The scene as the secure world behind a driver finds it. -/
def Shared.scene (secure : σ → SecureWorld κ) (s : Shared σ) : Scene κ :=
  (secure s.driver).staff.scene s.pages

namespace Staff

/-- The staff with the worker of one session replaced. -/
def assign (staff : Staff κ) (handle : Handle) (worker : Option (Worker κ)) : Staff κ :=
  { staff with workers := fun other => if other = handle then worker else staff.workers other }

/-- The staff with the oldest completion of a session delivered. -/
def drain (staff : Staff κ) (handle : Handle) : Staff κ :=
  staff.assign handle ((staff.workers handle).map fun worker =>
    { worker with completions := worker.completions.tail })

/-- Assigning the worker that a session has changes nothing. -/
theorem assign_eq_self {staff : Staff κ} {handle : Handle} {worker : Option (Worker κ)}
    (h : staff.workers handle = worker) : staff.assign handle worker = staff := by
  refine Staff.ext (funext fun other => ?_) rfl
  simp only [assign]
  split
  next he => rw [he, h]
  next => rfl

end Staff

namespace Scene

/-- The scene with a page changed. -/
def onPage (v : Scene κ) (id : PageId) (f : Page → Page) : Scene κ :=
  { v with pages := fun other => if other = id then (v.pages other).map f else v.pages other }

/-- The scene with a worker for a session. -/
def hire (v : Scene κ) (handle : Handle) (worker : Worker κ) : Scene κ :=
  { v with toStaff := v.toStaff.assign handle (some worker) }

/-- The scene without the worker of a session. -/
def dismiss (v : Scene κ) (handle : Handle) : Scene κ :=
  { v with toStaff := v.toStaff.assign handle none }

/-- The scene with one more run. -/
def enter (v : Scene κ) (run : Run) : Scene κ := { v with runs := run :: v.runs }

/-- The scene with a worker and a page changed. -/
def settle (v : Scene κ) (handle : Handle) (done : Worker κ → Worker κ) (id : PageId)
    (result : Page → Page) : Scene κ :=
  { v.onPage id result with toStaff := v.toStaff.assign handle ((v.workers handle).map done) }

/-- Leaving a page as it is changes nothing. -/
theorem onPage_self (v : Scene κ) (id : PageId) : (v.onPage id fun p => p) = v := by
  refine Scene.ext rfl rfl (funext fun other => ?_) rfl
  simp [onPage]

/-- The scene with the oldest completion of a session delivered. -/
def drain (v : Scene κ) (handle : Handle) : Scene κ := { v with toStaff := v.toStaff.drain handle }

/-- Where the worker of a session finds a request published, its instruction is a known one. -/
def Known (v : Scene κ) (handle : Handle) : Prop :=
  ∀ worker page, v.workers handle = some worker → v.pages worker.page = some page →
    page.ready = true →
    ∃ instruction, Instruction.ofRaw? page.request.instruction = some instruction

/-- At most the slots of one page were written. -/
structure Touched (id : PageId) (v v' : Scene κ) : Prop where
  staff : v'.toStaff = v.toStaff
  unfilled : (v'.pages id).map Page.unfilled = (v.pages id).map Page.unfilled
  others : ∀ other, other ≠ id → v'.pages other = v.pages other
  fresh : v'.fresh = v.fresh

/-- The worker of a session consumed the request in its page and ran an entry point. The run found
the page as it was published. If the worker did not survive it, nothing was answered. -/
structure Served (handle : Handle) (worker : Worker κ) (page : Page) (v v' : Scene κ) : Prop where
  run : ∃ instruction found, Instruction.ofRaw? page.request.instruction = some instruction ∧
    found.unflagged = page.setReady false ∧
    v'.runs = ⟨handle, instruction, worker.page, found⟩ :: v.runs
  kept : ∃ worker', v'.workers handle = some worker' ∧ worker.Continues worker'
  coworkers : ∀ other, other ≠ handle → v'.workers other = v.workers other
  consumed : ∃ page', v'.pages worker.page = some page' ∧ page'.ready = false ∧
    page'.destination = page.destination
  answered : ∀ worker' page', v'.workers handle = some worker' →
    v'.pages worker.page = some page' →
    worker'.alive = worker.alive ∨ page'.origin = page.origin ∧ page'.status = page.status
  others : ∀ other, other ≠ worker.page → v'.pages other = v.pages other
  fresh : v'.fresh = v.fresh

/-- What notifications come to where requests are published for a session only: nothing, or the
request of that session is served. -/
def Attended (handle : Handle) (v v' : Scene κ) : Prop :=
  v' = v ∨ ∃ worker page, v.workers handle = some worker ∧ v.pages worker.page = some page ∧
    page.ready = true ∧ Served handle worker page v v'

/-- The worker of a session finds no request published. -/
def Unpublished (handle : Handle) (v : Scene κ) : Prop :=
  ∀ worker page, v.workers handle = some worker → v.pages worker.page = some page →
    page.ready = false

/-- No worker finds a request published. -/
def Unready (v : Scene κ) : Prop := ∀ handle, v.Unpublished handle

/-- No worker finds a request published but that of a session, and the instruction that it finds is
a known one. -/
structure Exclusive (handle : Handle) (v : Scene κ) : Prop where
  known : v.Known handle
  others : ∀ other, other ≠ handle → v.Unpublished other

namespace Touched

variable {id : PageId} {v v' v'' : Scene κ}

/-- Nothing need be written. -/
theorem refl (v : Scene κ) : Touched id v v := ⟨rfl, rfl, fun _ _ => rfl, rfl⟩

/-- More may be written later. -/
theorem trans (h : Touched id v v') (h' : Touched id v' v'') : Touched id v v'' where
  staff := h'.staff.trans h.staff
  unfilled := h'.unfilled.trans h.unfilled
  others other hne := (h'.others other hne).trans (h.others other hne)
  fresh := h'.fresh.trans h.fresh

end Touched

/-- A run that was entered, the slots that it wrote, and what its end does to the worker and to the
result words. -/
theorem Served.of_touched {handle : Handle} {worker : Worker κ} {page found : Page}
    {instruction : Instruction} {v v' : Scene κ} {done : Worker κ → Worker κ} {result : Page → Page}
    (hworker : v.workers handle = some worker) (hpage : v.pages worker.page = some page)
    (hinstruction : Instruction.ofRaw? page.request.instruction = some instruction)
    (hfound : found.unflagged = page.setReady false)
    (ht : Touched worker.page
      ((v.onPage worker.page (·.setReady false)).enter
        ⟨handle, instruction, worker.page, found⟩) v')
    (hdone : ∀ worker : Worker κ, worker.Continues (done worker))
    (hresult : ∀ p, (result p).ready = p.ready ∧ (result p).destination = p.destination)
    (hanswered : (∀ worker : Worker κ, (done worker).alive = worker.alive) ∨ ∀ p, result p = p) :
    Served handle worker page v (v'.settle handle done worker.page result) := by
  -- the run leaves the worker alone; what becomes of it is up to the end of the run
  have hworkers : v'.workers = v.workers := (congrArg Staff.workers ht.staff :)
  have hkept : (v'.settle handle done worker.page result).workers handle
      = some (done worker) := by
    show (if handle = handle then (v'.workers handle).map done else _) = _
    rw [if_pos rfl, hworkers, hworker]
    rfl
  -- in the page the run may have written slots
  obtain ⟨p, hp, hunfilled⟩ : ∃ p, v'.pages worker.page = some p ∧
      p.unfilled = (page.setReady false).unfilled := by
    have hunfilled := ht.unfilled
    rw [show ((v.onPage worker.page (·.setReady false)).enter _).pages worker.page = _ from
      if_pos rfl, hpage] at hunfilled
    exact Option.map_eq_some_iff.1 hunfilled
  have hleft : (v'.settle handle done worker.page result).pages worker.page = some (result p) := by
    show (if worker.page = worker.page then (v'.pages worker.page).map result else _) = _
    rw [if_pos rfl, hp]
    rfl
  refine ⟨⟨instruction, found, hinstruction, hfound, (congrArg Staff.runs ht.staff :)⟩,
    ⟨done worker, hkept, hdone worker⟩, ?_, ⟨result p, hleft, ?_, ?_⟩, ?_, ?_, ht.fresh⟩
  · intro other hne
    show (if other = handle then _ else v'.workers other) = _
    rw [if_neg hne, hworkers]
  · exact (hresult p).1.trans (congrArg Page.ready hunfilled :)
  · exact (hresult p).2.trans (congrArg Page.destination hunfilled :)
  · intro worker' page' hw' hp'
    rw [hkept, Option.some.injEq] at hw'
    rw [hleft, Option.some.injEq] at hp'
    subst hw' hp'
    refine hanswered.imp (fun halive => halive worker) fun hsame => ?_
    rw [hsame p]
    exact ⟨(congrArg Page.origin hunfilled :), (congrArg Page.status hunfilled :)⟩
  · intro other hne
    show (if other = worker.page then _ else v'.pages other) = _
    rw [if_neg hne, ht.others other hne]
    exact if_neg hne

/-! ### Notifications -/

section Attended

variable {handle : Handle} {v v' v'' : Scene κ}

/-- Where no worker finds a request published, none but that of a session does. -/
theorem Unready.exclusive (h : v.Unready) (handle : Handle) : v.Exclusive handle where
  known worker page hw hp hready := by
    rw [h handle worker page hw hp] at hready
    cases hready
  others other _ := h other

/-- No worker finds a request published if none but that of a session did, and that one does not. -/
theorem Exclusive.unready (h : v.Exclusive handle) (hu : v.Unpublished handle) : v.Unready := by
  intro other
  by_cases he : other = handle
  · rw [he]
    exact hu
  · exact h.others other he

/-- A request that is served is not published any more. -/
theorem Served.unpublished {worker : Worker κ} {page : Page}
    (h : Served handle worker page v v') : v'.Unpublished handle := by
  obtain ⟨worker', hw', hcontinues⟩ := h.kept
  obtain ⟨page', hp', hready, -⟩ := h.consumed
  intro worker'' page'' hw'' hp''
  rw [hw', Option.some.injEq] at hw''
  rw [← hw'', hcontinues.page, hp', Option.some.injEq] at hp''
  exact hp'' ▸ hready

/-- When the one request that is published is served, no worker finds one. -/
theorem Served.unready {worker : Worker κ} {page : Page} (h : Served handle worker page v v')
    (hv : v.Exclusive handle) : v'.Unready := by
  obtain ⟨page', hp', hready, -⟩ := h.consumed
  intro other
  by_cases he : other = handle
  · rw [he]
    exact h.unpublished
  · intro worker'' page'' hw'' hp''
    by_cases hpage : worker''.page = worker.page
    · rw [hpage, hp', Option.some.injEq] at hp''
      exact hp'' ▸ hready
    · rw [h.coworkers other he] at hw''
      rw [h.others _ hpage] at hp''
      exact hv.others other he worker'' page'' hw'' hp''

/-- When the mark in the page of that session is taken away, no worker finds a request published. -/
theorem Exclusive.unready_onPage {worker : Worker κ} (h : v.Exclusive handle)
    (hworker : v.workers handle = some worker) {f : Page → Page} (hf : ∀ p, (f p).ready = false) :
    (v.onPage worker.page f).Unready := by
  intro other worker' page' hw' hp'
  simp only [onPage] at hp'
  split at hp'
  · obtain ⟨p, -, rfl⟩ := Option.map_eq_some_iff.1 hp'
    exact hf p
  next hne =>
    refine h.others other (fun he => hne ?_) worker' page' hw' hp'
    rw [he] at hw'
    exact congrArg Worker.page (Option.some.inj (hw'.symm.trans hworker))

/-- No session need be notified. -/
theorem Attended.refl (handle : Handle) (v : Scene κ) : v.Attended handle v := .inl rfl

/-- A notification that finds no request published changes nothing. -/
theorem Attended.eq (h : v.Attended handle v') (hu : v.Unpublished handle) : v' = v := by
  obtain hsame | ⟨worker, page, hw, hp, hready, -⟩ := h
  · exact hsame
  · rw [hu worker page hw hp] at hready
    cases hready

/-- Several notifications come to one at most: the first that finds a request consumes it, and
nothing publishes another one meanwhile. -/
theorem Attended.trans (h : v.Attended handle v') (h' : v'.Attended handle v'') :
    v.Attended handle v'' := by
  obtain rfl | ⟨worker, page, hw, hp, hready, hserved⟩ := h
  · exact h'
  · rw [h'.eq hserved.unpublished]
    exact .inr ⟨worker, page, hw, hp, hready, hserved⟩

/-- Notifications publish nothing. -/
theorem Attended.exclusive (h : v.Attended handle v') (hv : v.Exclusive handle) :
    v'.Exclusive handle := by
  obtain rfl | ⟨worker, page, -, -, -, hserved⟩ := h
  · exact hv
  · exact (hserved.unready hv).exclusive handle

/-- Changing a page so that it is not published more than before publishes nothing. -/
theorem Unready.onPage (h : v.Unready) (id : PageId) {f : Page → Page}
    (hf : ∀ p, p.ready = false → (f p).ready = false) : (v.onPage id f).Unready := by
  intro handle worker page hw hp
  simp only [Scene.onPage] at hp
  split at hp
  · obtain ⟨p, hget, rfl⟩ := Option.map_eq_some_iff.1 hp
    exact hf p (h handle worker p hw hget)
  · exact h handle worker page hw hp

/-- Delivering a completion publishes nothing. -/
theorem unpublished_drain {other : Handle} (h : v.Unpublished other) (handle : Handle) :
    (v.drain handle).Unpublished other := by
  intro worker page hw hp
  simp only [drain, Staff.drain, Staff.assign] at hw
  split at hw
  next he =>
    obtain ⟨worker', hw', rfl⟩ := Option.map_eq_some_iff.1 hw
    exact h worker' page (he ▸ hw') hp
  · exact h worker page hw hp

/-- Delivering a completion leaves requests published for one session only. -/
theorem Exclusive.drain (h : v.Exclusive handle) (other : Handle) :
    (v.drain other).Exclusive handle where
  known worker page hw hp hready := by
    simp only [Scene.drain, Staff.drain, Staff.assign] at hw
    split at hw
    next he =>
      obtain ⟨worker', hw', rfl⟩ := Option.map_eq_some_iff.1 hw
      exact h.known worker' page (he ▸ hw') hp hready
    · exact h.known worker page hw hp hready
  others third hne := unpublished_drain (h.others third hne) other

/-- To write slots is to publish nothing. -/
theorem Touched.unready {id : PageId} (h : Touched id v v') (hu : v.Unready) : v'.Unready := by
  intro handle worker page hw hp
  have hw : v.workers handle = some worker :=
    (congrFun (congrArg Staff.workers h.staff) _).symm.trans hw
  by_cases he : worker.page = id
  · have hunfilled := h.unfilled
    rw [← he, hp] at hunfilled
    obtain ⟨page', hp', hsame⟩ := Option.map_eq_some_iff.1 hunfilled.symm
    exact (congrArg Page.ready hsame).symm.trans (hu handle worker page' hw hp')
  · rw [h.others _ he] at hp
    exact hu handle worker page hw hp

end Attended

end Scene

namespace Shared

variable (secure : σ → SecureWorld κ)

/-- What is changed in a page is seen in the scene, the cancellation flag aside. -/
theorem scene_onPage (s : Shared σ) (id : PageId) (f g : Page → Page)
    (hf : ∀ p, (f p).unflagged = g p.unflagged) :
    (s.onPage id f).scene secure = (s.scene secure).onPage id g := by
  refine Scene.ext rfl rfl (funext fun other => ?_) rfl
  show ((s.pages.modify id f).get? other).map Page.unflagged
    = if other = id then ((s.pages.get? other).map Page.unflagged).map g
      else (s.pages.get? other).map Page.unflagged
  rw [Arena.get?_modify]
  split
  · cases s.pages.get? other with
    | none => rfl
    | some p => exact congrArg some (hf p)
  · rfl

/-- Where requests are published for a session only, that one may have been served. -/
def Attends (handle : Handle) (s s' : Shared σ) : Prop :=
  (s.scene secure).Exclusive handle → (s.scene secure).Attended handle (s'.scene secure)

end Shared

/-! ## What an application can do -/

/-- A write to a mapped buffer changes nothing in the page but the size in the slot. -/
theorem Chamber.page_write (mappings : Mappings) (c : Chamber) (slot : Slot) (data : Bytes) :
    (c.write mappings slot data).2.page = (c.reportSize slot data.length.toUInt32).page := by
  unfold write
  simp only
  split
  · rfl
  · split
    · rfl
    · split <;> rfl

/-- An answer changes nothing in the page but the slots. -/
theorem Query.page_answer {mappings : Mappings} {login : Login} {q : Query} {c c' : Chamber}
    {answer : q.Answer} (h : q.answer mappings login c = some (answer, c')) :
    ∃ params, c'.page = { c.page with request := { c.page.request with params } } := by
  cases q with
  | isCancelled | login | destination =>
    cases h
    exact ⟨_, rfl⟩
  | paramType slot | value slot | capacity slot | isMapped slot | read slot =>
    obtain ⟨i, -, hi⟩ := Option.map_eq_some_iff.1 h
    cases hi
    exact ⟨_, rfl⟩
  | setValue slot | setOutputSize slot =>
    obtain ⟨i, -, hi⟩ := Option.map_eq_some_iff.1 h
    cases hi
    exact ⟨_, rfl⟩
  | write slot data =>
    obtain ⟨i, -, hi⟩ := Option.map_eq_some_iff.1 h
    rw [← show (c.write mappings i data).2 = c' from congrArg Prod.snd hi, Chamber.page_write]
    exact ⟨_, rfl⟩

/-- An answer is seen in the scene in the slots of the page only. -/
theorem Query.touched_answer {page : PageId} {login : Login} {q : Query}
    {s : Shared (SecureWorld κ)} {chamber : Chamber} {answer : q.Answer}
    (h : q.answer s.driver.mappings login ⟨s.page page, s.memory⟩ = some (answer, chamber)) :
    Scene.Touched page (s.scene id) (({ s.onPage page (fun _ => chamber.page) with
      memory := chamber.memory } : Shared (SecureWorld κ)).scene id) := by
  obtain ⟨params, hp⟩ := Query.page_answer h
  have hpage : ({ s.onPage page (fun _ => chamber.page) with memory := chamber.memory } :
      Shared (SecureWorld κ)).scene id
        = (s.scene id).onPage page fun _ => chamber.page.unflagged :=
    Shared.scene_onPage id s page _ _ fun _ => rfl
  rw [hpage]
  refine ⟨rfl, ?_, fun other hne => if_neg hne, rfl⟩
  show Option.map Page.unfilled (if page = page then _ else _) = _
  rw [if_pos rfl]
  show ((((s.pages.get? page).map Page.unflagged).map fun _ => chamber.page.unflagged).map
    Page.unfilled) = ((s.pages.get? page).map Page.unflagged).map Page.unfilled
  cases hget : s.pages.get? page with
  | none => rfl
  | some p =>
    rw [Shared.page_of_get? hget] at hp
    show some chamber.page.unflagged.unfilled = some p.unflagged.unfilled
    rw [hp]
    rfl

/-- A program of an application leaves the scene but for the slots in the page of its session, if
the scene is one that its requests to cancel leave as it is. -/
theorem Program.run_touches {page : PageId} {calm : Scene κ → Prop}
    {keep : Shared (SecureWorld κ) → Shared (SecureWorld κ) → Prop}
    (hcalm : ∀ v v', calm v → Scene.Touched page v v' → calm v')
    (hkeep : ∀ s after : Shared (SecureWorld κ), calm (s.scene id) → keep s after →
      after.scene id = s.scene id)
    (login : Login) (program : Program κ) (s : Shared (SecureWorld κ)) (hs : calm (s.scene id)) :
    (program.run page login s).Meets keep
      fun _ s' => Scene.Touched page (s.scene id) (s'.scene id) := by
  induction program generalizing s with
  | finish result state => exact .refl _
  | panic => exact .refl _
  | ask query next ih =>
    unfold run
    split
    · exact .refl _
    next answer chamber ha =>
      have htouched := Query.touched_answer ha
      exact .imp (ih answer _ (hcalm _ _ hs htouched)) fun _ s' h => htouched.trans h
  | cancel token next ih =>
    -- the program goes on in a scene that the cancellation left as it was
    intro outcome after hk
    have hsame := hkeep s after hs hk
    rw [← hsame] at hs ⊢
    exact ih outcome after hs
  | report event next ih => exact ih (s.note event) hs

/-- A program of an application leaves the scene but for the slots in the page of its session. No
request is published while it runs, so sessions may be notified meanwhile. -/
theorem Program.run_meets {handle : Handle} (page : PageId) (login : Login) (program : Program κ)
    (s : Shared (SecureWorld κ)) (hu : (s.scene id).Unready) :
    (program.run page login s).Meets (Shared.Attends id handle)
      fun _ s' => Scene.Touched page (s.scene id) (s'.scene id) :=
  run_touches (fun _ _ hu htouched => htouched.unready hu)
    (fun _ _ hu hk => (hk (hu.exclusive handle)).eq (hu handle)) login program s hu

/-! ## Primitives of the secure world -/

namespace SecureWorld

/-- A change to a worker is seen in the staff. -/
theorem staff_onWorker (w : SecureWorld κ) (handle : Handle) (f : Worker κ → Worker κ) :
    (w.onWorker handle f).staff = w.staff.assign handle ((w.staff.workers handle).map f) := by
  refine Staff.ext (funext fun other => ?_) rfl
  show (w.sessions.modify handle f).get? other
    = if other = handle then (w.sessions.get? handle).map f else w.sessions.get? other
  rw [Table.get?_modify]
  split
  next h => rw [h]
  next => rfl

variable {handle : Handle}

/-- Ending a run leaves a result in the page and one more completion. -/
theorem scene_conclude (handle : Handle) (page : PageId) (origin status : UInt32) (state : κ)
    (s : Shared (SecureWorld κ)) : ∃ words : UInt32 × UInt32, ∃ done : Worker κ → Worker κ,
      (∀ worker : Worker κ, worker.Continues (done worker) ∧ (done worker).alive = worker.alive) ∧
      (conclude handle page origin status state s).scene id
        = (s.scene id).settle handle done page (·.setResult words.1 words.2) := by
  let words := s.driver.faults.forcedResult.getD (origin, status)
  let done (worker : Worker κ) : Worker κ := { worker with
    state
    errorCode := s.driver.faults.exitCode.getD worker.errorCode
    completions := worker.completions ++
      [if s.driver.faults.exitCode.isSome then .exited else .served] }
  refine ⟨words, done, fun worker => ⟨⟨rfl, rfl, rfl, by simp [done]⟩, rfl⟩, ?_⟩
  have hpage := Shared.scene_onPage id s page (·.setResult words.1 words.2)
    (·.setResult words.1 words.2) fun _ => rfl
  -- the faults that are disarmed do not show in the staff
  have hstaff := staff_onWorker
    { s.driver with faults := { s.driver.faults with forcedResult := none, exitCode := none } }
    handle done
  refine Scene.ext ?_ ?_ ?_ rfl
  · exact congrArg Staff.workers hstaff
  · exact congrArg Staff.runs hstaff
  · exact (congrArg Scene.pages hpage :)

/-- Serving a request that was just consumed runs its entry point, if no other is published. -/
theorem serve_meets {worker : Worker κ} {page : Page} {instruction : Instruction} {v : Scene κ}
    {s : Shared (SecureWorld κ)} (hworker : v.workers handle = some worker)
    (hpage : v.pages worker.page = some page)
    (hinstruction : Instruction.ofRaw? page.request.instruction = some instruction)
    (hunready : (v.onPage worker.page (·.setReady false)).Unready)
    (hs : s.scene id = v.onPage worker.page (·.setReady false)) :
    (serve handle worker s).Meets (Shared.Attends id handle)
      fun _ s' => v.Served handle worker page (s'.scene id) := by
  -- the page as the run finds it
  have hfound : (s.page worker.page).unflagged = page.setReady false := by
    have hget : (s.pages.get? worker.page).map Page.unflagged = some (page.setReady false) := by
      have := congrFun (congrArg Scene.pages hs) worker.page
      rw [show (v.onPage worker.page _).pages worker.page = _ from if_pos rfl, hpage] at this
      exact this
    obtain ⟨p, hp, hu⟩ := Option.map_eq_some_iff.1 hget
    rw [Shared.page_of_get? hp]
    exact hu
  have hraw : Instruction.ofRaw? (s.page worker.page).request.instruction = some instruction := by
    rw [← hinstruction]
    exact (congrArg (fun p : Page => Instruction.ofRaw? p.request.instruction) hfound :)
  have hentered : ∀ run,
      (enter run s).scene id = (v.onPage worker.page (·.setReady false)).enter run := by
    intro run
    rw [← hs]
    rfl
  unfold serve
  simp only [hraw]
  refine .bind (.imp (Program.run_meets worker.page worker.login _ _ ?_) fun ended s' ht => ?_)
  · rw [hentered]
    exact hunready
  rw [hentered] at ht
  cases ended with
  | none =>
    -- the application panicked: its worker is gone, and the result words stay as they were
    have hstaff := staff_onWorker s'.driver handle fun w => { w with alive := false }
    have hscene : Shared.scene id
        { s' with driver := s'.driver.onWorker handle fun w => { w with alive := false } }
          = (s'.scene id).settle handle (fun w => { w with alive := false }) worker.page
            fun p => p := by
      unfold Scene.settle
      rw [Scene.onPage_self]
      exact Scene.ext (congrArg Staff.workers hstaff :) (congrArg Staff.runs hstaff :) rfl rfl
    show v.Served handle worker page (Shared.scene id _)
    rw [hscene]
    exact .of_touched hworker hpage hinstruction hfound ht
      (fun w => ⟨rfl, rfl, rfl, Nat.le_succ _⟩) (fun _ => ⟨rfl, rfl⟩) (.inr fun _ => rfl)
  | some ended =>
    obtain ⟨result, state⟩ := ended
    simp only
    obtain ⟨words, done, hdone, hscene⟩ := scene_conclude handle worker.page
      Origin.trustedApp.code _ state s'
    show v.Served handle worker page (Shared.scene id _)
    rw [hscene]
    exact .of_touched hworker hpage hinstruction hfound ht (fun w => (hdone w).1)
      (fun _ => ⟨rfl, rfl⟩) (.inl fun w => (hdone w).2)

/-- A page reads as it stands in the scene. -/
theorem ready_page (s : Shared (SecureWorld κ)) (page : PageId) :
    (s.page page).ready = (((s.scene id).pages page).map Page.ready).getD false := by
  show _ = ((((s.pages.get? page).map Page.unflagged)).map Page.ready).getD false
  unfold Shared.page
  cases s.pages.get? page <;> rfl

/-- A worker that looks at its page serves the request that is published there, if there is one, and
leaves none published. -/
theorem attend_meets (notified : Handle) (s : Shared (SecureWorld κ))
    (hs : (s.scene id).Exclusive handle) :
    (attend notified s).Meets (Shared.Attends id handle) fun _ s' =>
      (s.scene id).Attended handle (s'.scene id) ∧ (s'.scene id).Unpublished notified := by
  unfold attend
  split
  next hnone =>
    refine ⟨.refl _ _, fun worker _ hw => ?_⟩
    rw [show (s.scene id).workers notified = none from hnone] at hw
    cases hw
  next worker hworker =>
    have hworker : (s.scene id).workers notified = some worker := hworker
    split
    next hready =>
      obtain ⟨page, hpage, hr⟩ : ∃ page, (s.scene id).pages worker.page = some page ∧
          page.ready = true := by
        rw [ready_page] at hready
        cases hp : (s.scene id).pages worker.page with
        | none => rw [hp] at hready; cases hready
        | some page => rw [hp] at hready; exact ⟨page, rfl, hready⟩
      -- so it is the one session for which a request may be published
      obtain rfl : notified = handle := Classical.not_not.1 fun hne => by
        rw [hs.others notified hne worker page hworker hpage] at hr
        cases hr
      obtain ⟨instruction, hi⟩ := hs.known worker page hworker hpage hr
      refine .imp (serve_meets hworker hpage hi (hs.unready_onPage hworker fun _ => rfl)
        (Shared.scene_onPage id s worker.page _ _ fun _ => rfl)) fun _ s' hserved => ?_
      exact ⟨.inr ⟨worker, page, hworker, hpage, hr, hserved⟩, hserved.unpublished⟩
    next hready =>
      refine ⟨.refl _ _, fun worker' page hw hp => ?_⟩
      rw [hworker, Option.some.injEq] at hw
      rw [ready_page, hw, hp] at hready
      exact Bool.eq_false_iff.2 hready

/-- A notification runs at most one entry point, and leaves no request published for its session if
it succeeds. -/
theorem notify_meets (notified : Handle) (s : Shared (SecureWorld κ))
    (hs : (s.scene id).Exclusive handle) :
    (notify notified s).Meets (Shared.Attends id handle) fun result s' =>
      (s.scene id).Attended handle (s'.scene id) ∧
        (result = .ok () → (s'.scene id).Unpublished notified) := by
  unfold notify
  obtain ⟨worker, -, -, -, he⟩ | ⟨e, he⟩ := ring_cases notified s.driver
  · rw [he]
    exact .bind (.imp (attend_meets notified { s with driver := _ } hs) fun _ s' h =>
      ⟨h.1, fun _ => h.2⟩)
  · rw [he]
    exact ⟨.refl _ _, fun hok => (by cases hok)⟩

/-- A wait delivers the oldest completion of its session. -/
theorem staff_wait (handle : Handle) (w : SecureWorld κ) :
    (wait handle w).2.staff = w.staff.drain handle := by
  unfold Staff.drain
  obtain ⟨worker, completion, rest, hget, hqueued, he⟩ | ⟨e, hdrained, he⟩ := wait_cases handle w
  · -- the oldest completion is taken away
    have hworker : w.staff.workers handle = some worker := hget
    rw [he, staff_onWorker _ handle fun worker => { worker with completions := rest }]
    show w.staff.assign handle _ = w.staff.assign handle _
    rw [show (w.count _).staff.workers handle = _ from hworker, hworker]
    cases worker
    cases hqueued
    rfl
  · -- there is no completion to take away
    have hsame : (w.staff.workers handle).map (fun worker =>
        { worker with completions := worker.completions.tail }) = w.staff.workers handle := by
      show Option.map _ (w.sessions.get? handle) = w.sessions.get? handle
      cases hget : w.sessions.get? handle with
      | none => rfl
      | some worker =>
        have hempty := hdrained worker hget
        cases worker
        cases hempty
        rfl
    rw [he, hsame, Staff.assign_eq_self rfl]
    rfl

/-- Opening a session starts a worker that is alive and has no completions, unless it is refused. -/
theorem staff_openSession (destination : Uuid) (login : Login) (page : PageId)
    (d : Desk (SecureWorld κ)) : match (openSession destination login page d).1 with
      | .error _ => (openSession destination login page d).2.driver.staff = d.driver.staff
      | .ok handle => ∃ worker : Worker κ, worker.Starts page login ∧
        (openSession destination login page d).2.driver.staff
          = d.driver.staff.assign handle (some worker) := by
  obtain ⟨app, -, he⟩ | ⟨e, fault, he⟩ := openSession_cases destination login page d
  · rw [he]
    refine ⟨.fresh page login app, ⟨rfl, rfl, rfl, rfl⟩, ?_⟩
    -- the worker is entered under the next handle
    refine Staff.ext (funext fun other => ?_) rfl
    exact Table.get?_set _ _ _ _
  · rw [he]
    rfl

/-- Closing a session stops its worker. -/
theorem staff_closeSession (d : Desk (SecureWorld κ)) :
    (closeSession handle d).2.driver.staff = d.driver.staff.assign handle none := by
  obtain ⟨worker, -, he⟩ | ⟨hget, he⟩ := closeSession_cases handle d
  · rw [he]
    refine Staff.ext (funext fun other => ?_) rfl
    exact Table.get?_erase _ _ _
  · have hworker : d.driver.staff.workers handle = none := hget
    rw [he, Staff.assign_eq_self hworker]
    rfl

/-- Mapping a buffer concerns no worker. -/
theorem staff_map (address : Address) (len : Nat) (access : Access) (w : SecureWorld κ) :
    (map handle address len access w).2.staff = w.staff := by
  obtain ⟨-, -, budget, he⟩ | ⟨e, budget, he⟩ := map_cases handle address len access w <;>
    rw [he] <;> rfl

/-- Removing a mapping concerns no worker. -/
theorem staff_unmap (address : Address) (info : SecureRange) (w : SecureWorld κ) :
    (unmap handle address info w).2.staff = w.staff := by
  obtain ⟨mapping, -, -, he⟩ | ⟨e, -, he⟩ := unmap_cases handle address info w <;> rw [he] <;> rfl

end SecureWorld

end TeeClient

import TeeClient.Proofs.Service
import TeeClient.Proofs.Trace
import TeeClient.Recorder

/-!
# What is seen of a driver's state

A view is any function of a driver's state. `Shows view act effect` says what a primitive does to
the view, whatever cancellations it asks for, as long as these leave the view; what a driver does to
it, the same driver does with a recorder or a list of uses around it.

Serving requests changes only so much: `SecureWorld.Serving R` are the relations that allow for all
of it, and `SecureWorld.Overlooks R` those among them that are about the secure world alone.

Main statements:

* `Reply.Meets.and`: a reply ends in all that it meets;
* `Recorder.shows_noted`, `Recorder.shows_notedReplaced`, `Traced.shows_enterAfter` and
  `Traced.shows_enterBefore`: what a driver does, it does with something around it;
* `SecureWorld.Serving.notify`: a notification serves requests and does nothing else;
* `World.onDesk_driver` and `World.onShared_driver`: what a primitive meets while cancellations do
  to the driver what they may, it has when the world carries it out.
-/

namespace TeeClient

namespace Reply

variable {s α : Type} {keep keep' : s → s → Prop} {Q R : α → s → Prop}

/-- A reply ends in all that it meets, where cancellations do all that is allowed for. -/
theorem Meets.and {r : Reply s α} (hq : r.Meets keep Q) (hr : r.Meets keep' R) :
    r.Meets (fun a b => keep a b ∧ keep' a b) fun value state => Q value state ∧ R value state := by
  induction r with
  | done value state => exact ⟨hq, hr⟩
  | cancel token state resume ih =>
    intro outcome after hk
    exact ih outcome after (hq outcome after hk.1) (hr outcome after hk.2)

end Reply

variable {σ α V : Type}

/-- What a primitive on the desk does to the view, whatever cancellations it asks for, as long as
they leave the view. -/
def Shows (view : σ → V) (act : Desk σ → Reply (Desk σ) α) (effect : V → α → V → Prop) : Prop :=
  ∀ d, (act d).Meets (fun a b => view b.driver = view a.driver) fun value d' =>
    effect (view d.driver) value (view d'.driver)

/-- What a primitive during which the secure world runs does to the view, whatever cancellations it
asks for, as long as they leave the view. -/
def ShowsShared (view : σ → V) (act : Shared σ → Reply (Shared σ) α)
    (effect : V → α → V → Prop) : Prop :=
  ∀ s, (act s).Meets (fun a b => view b.driver = view a.driver) fun value s' =>
    effect (view s.driver) value (view s'.driver)

/-! ## Recorders -/

namespace Recorder

variable (view : σ → V)

/-- Cancelling the operations of some tokens leaves the view. -/
theorem shows_cancelEach (tokens : List String) :
    Shows (fun r : Recorder σ => view r.inner) (cancelEach tokens) fun v _ v' => v' = v := by
  intro d
  induction tokens generalizing d with
  | nil => rfl
  | cons token rest ih =>
    intro outcome after hk
    exact .imp (ih (after.note (.cancel token outcome))) fun _ d' h => h.trans hk

/-- Hooks leave the view. -/
theorem shows_runHooks (p : Primitive) :
    Shows (fun r : Recorder σ => view r.inner) (runHooks p) fun v _ v' => v' = v := fun d =>
  shows_cancelEach view (d.driver.use p).1 { d with driver := (d.driver.use p).2 }

/-- Hooks that are due while the secure world may run leave the view. -/
theorem showsShared_runHooks (p : Primitive) (s : Shared (Recorder σ)) :
    ((runHooks p s.desk).within Shared.desk Shared.withDesk s).Meets
      (fun a b => view b.driver.inner = view a.driver.inner) fun _ s' =>
        view s'.driver.inner = view s.driver.inner := by
  refine .imp ((shows_runHooks view p s.desk).within (P := fun _ => True) ?_ ?_ trivial) ?_
  · exact fun _ _ _ hk => hk
  · exact fun _ _ _ _ _ => trivial
  · rintro _ _ ⟨around, desk, -, h, rfl⟩
    exact h

/-- Replacing a result leaves the view. -/
theorem view_replaced (p : Primitive) (result : Except DriverFault α) (d : Desk (Recorder σ)) :
    view (replaced p result d).2.driver.inner = view d.driver.inner := by
  unfold replaced
  split <;> rfl

variable {view} {effect : V → α → V → Prop}

/-- What a primitive does, it does behind a recorder. -/
theorem shows_forward {act : Desk σ → Reply (Desk σ) α} (h : Shows view act effect) :
    Shows (fun r : Recorder σ => view r.inner) (forward act) effect := by
  intro d
  refine .imp ((h (innerDesk d)).within (P := fun _ => True) ?_ ?_ trivial) ?_
  · exact fun _ _ _ hk => hk
  · exact fun _ _ _ _ _ => trivial
  · rintro value _ ⟨around, state, -, hq, rfl⟩
    exact hq

/-- What a primitive does during which the secure world runs, it does behind a recorder. -/
theorem showsShared_forward {act : Shared σ → Reply (Shared σ) α}
    (h : ShowsShared view act effect) :
    ShowsShared (fun r : Recorder σ => view r.inner)
      (fun s => (act (innerShared s)).within innerShared withInnerShared s) effect := by
  intro s
  refine .imp ((h (innerShared s)).within (P := fun _ => True) ?_ ?_ trivial) ?_
  · exact fun _ _ _ hk => hk
  · exact fun _ _ _ _ _ => trivial
  · rintro value _ ⟨around, state, -, hq, rfl⟩
    exact hq

/-- A primitive that is noted does what it did. -/
theorem shows_noted {p : Primitive} {event : Except DriverFault α → Event}
    {act : Desk σ → Reply (Desk σ) (Except DriverFault α)}
    {effect : V → Except DriverFault α → V → Prop} (h : Shows view act effect) :
    Shows (fun r : Recorder σ => view r.inner) (noted p event act) effect := by
  intro d
  refine .bind (.imp (shows_runHooks view p d) fun _ d₁ h₁ => ?_)
  refine .bind (.imp (shows_forward h d₁) fun result d₂ h₂ => ?_)
  rw [← h₁]
  exact h₂

/-- A primitive that is noted and whose result may be replaced does what it did, if that does not
depend on the result. -/
theorem shows_notedReplaced {p : Primitive} {event : Except DriverFault α → Event}
    {act : Desk σ → Reply (Desk σ) (Except DriverFault α)} {effect : V → V → Prop}
    (h : Shows view act fun v _ v' => effect v v') :
    Shows (fun r : Recorder σ => view r.inner) (notedReplaced p event act)
      fun v _ v' => effect v v' := by
  intro d
  refine .bind (.imp (shows_runHooks view p d) fun _ d₁ h₁ => ?_)
  refine .bind (.imp (shows_forward h d₁) fun result d₂ h₂ => ?_)
  rw [← h₁]
  show effect _ (view (replaced p result d₂).2.driver.inner)
  rw [view_replaced view]
  exact h₂

end Recorder

/-! ## Lists of uses -/

namespace Traced

variable {view : σ → V} {effect : V → α → V → Prop}

/-- What a primitive does, it does while its uses are listed. -/
theorem shows_forward {act : Desk σ → Reply (Desk σ) α} (h : Shows view act effect) :
    Shows (fun t : Traced σ => view t.inner) (forward act) effect := by
  intro d
  refine .imp ((h (innerDesk d)).within (P := fun _ => True) ?_ ?_ trivial) ?_
  · exact fun _ _ _ hk => hk
  · exact fun _ _ _ _ _ => trivial
  · rintro value _ ⟨around, state, -, hq, rfl⟩
    exact hq

/-- A primitive that is entered with its result does what it did. -/
theorem shows_enterAfter {act : Desk σ → Reply (Desk σ) α} (h : Shows view act effect)
    (use : α → Use) : Shows (fun t : Traced σ => view t.inner) (enterAfter use act) effect :=
  fun d => .bind (.imp (shows_forward h d) fun _ _ hq => hq)

/-- A primitive that is entered before it runs does what it did. -/
theorem shows_enterBefore {act : Desk σ → Reply (Desk σ) α} (h : Shows view act effect)
    (use : Use) : Shows (fun t : Traced σ => view t.inner) (enterBefore use act) effect :=
  fun d => shows_forward h { d with driver := d.driver.enter use }

/-- A primitive during which the secure world runs does what it did when it is entered. -/
theorem showsShared_enterShared {act : Shared σ → Reply (Shared σ) α}
    (h : ShowsShared view act effect) (use : α → Use) :
    ShowsShared (fun t : Traced σ => view t.inner) (enterShared use act) effect := by
  intro s
  refine .bind (.imp ((h (innerShared s)).within (P := fun _ => True) ?_ ?_ trivial) ?_)
  · exact fun _ _ _ hk => hk
  · exact fun _ _ _ _ _ => trivial
  · rintro value _ ⟨around, state, -, hq, rfl⟩
    exact hq

end Traced

/-! ## Serving requests -/

namespace SecureWorld

variable {κ : Type}

/-- The relation holds between what the secure world may touch and what becomes of it while requests
are served: workers change, faults are disarmed, uses are counted, runs are entered, the journal
grows, memory is written and pages change, but for the cancellation flag. -/
structure Serving (R : Shared (SecureWorld κ) → Shared (SecureWorld κ) → Prop) : Prop where
  trans : ∀ s s' s'', R s s' → R s' s'' → R s s''
  onWorker : ∀ s handle f, R s { s with driver := s.driver.onWorker handle f }
  aside : ∀ s faults runs notifies waits, R s { s with
    driver := { s.driver with faults, runs, usage := { s.driver.usage with notifies, waits } } }
  /-- Markers are a matter of the client. -/
  entered : ∀ s entry, entry.mismatch? = .none → R s { s with journal := entry :: s.journal }
  /-- Memory is written by what an application asks for. -/
  memory : ∀ s page login (q : Query) answer chamber,
    q.answer s.driver.mappings login ⟨s.page page, s.memory⟩ = some (answer, chamber) →
    R s { s with memory := chamber.memory }
  onPage : ∀ s id f, (∀ p, s.pages.get? id = some p →
    (f p).request.cancelled = p.request.cancelled) → R s (s.onPage id f)

namespace Serving

variable {R : Shared (SecureWorld κ) → Shared (SecureWorld κ) → Prop} (h : Serving R)
include h

/-- Nothing need be done. -/
theorem refl (s : Shared (SecureWorld κ)) : R s s :=
  h.aside s s.driver.faults s.driver.runs s.driver.usage.notifies s.driver.usage.waits

/-- Notifications are counted. -/
theorem counted (s : Shared (SecureWorld κ)) : R s { s with
    driver := s.driver.count fun n => { n with notifies := n.notifies + 1 } } :=
  h.aside s s.driver.faults s.driver.runs (s.driver.usage.notifies + 1) s.driver.usage.waits

/-- What an application does in one go is allowed. -/
theorem run (page : PageId) (login : Login) (program : Program κ) (s : Shared (SecureWorld κ)) :
    (program.run page login s).Stretches R s := by
  induction program generalizing s with
  | finish | panic => exact h.refl s
  | ask query next ih =>
    unfold Program.run
    split
    · exact h.refl s
    next answer chamber ha =>
      -- an answer changes nothing in the page but the slots
      obtain ⟨params, hp⟩ := Query.page_answer ha
      have hmemory : R s { s with memory := chamber.memory } :=
        h.memory s page login query answer chamber ha
      have hpage : R { s with memory := chamber.memory }
          { s.onPage page (fun _ => chamber.page) with memory := chamber.memory } := by
        refine h.onPage { s with memory := chamber.memory } page _ fun p hget => ?_
        rw [hp, ← Shared.page_of_get? hget]
        rfl
      exact .earlier h.trans (h.trans _ _ _ hmemory hpage) (ih answer _)
  | cancel token next ih => exact ⟨h.refl s, fun outcome after => ih outcome after⟩
  | report event next ih =>
    exact .earlier h.trans (h.entered s (.event event) rfl) (ih (s.note event))

/-- What ends a run is allowed. -/
theorem conclude (handle : Handle) (page : PageId) (origin status : UInt32) (state : κ)
    (s : Shared (SecureWorld κ)) :
    R s (SecureWorld.conclude handle page origin status state s) := by
  let words := s.driver.faults.forcedResult.getD (origin, status)
  have hwords : R s (s.onPage page (·.setResult words.1 words.2)) :=
    h.onPage s page _ fun _ _ => rfl
  have hdisarmed := h.aside (s.onPage page (·.setResult words.1 words.2))
    { s.driver.faults with forcedResult := none, exitCode := none } s.driver.runs
    s.driver.usage.notifies s.driver.usage.waits
  exact h.trans _ _ _ (h.trans _ _ _ hwords hdisarmed) (h.onWorker _ handle _)

/-- Serving a request is allowed. -/
theorem serve (handle : Handle) (worker : Worker κ) (s : Shared (SecureWorld κ)) :
    (SecureWorld.serve handle worker s).Stretches R s := by
  unfold SecureWorld.serve
  simp only
  split
  · exact h.trans _ _ _ (h.entered s (.log _) rfl) (h.conclude handle _ _ _ _ (s.log _))
  next instruction _ =>
    have hentered := h.aside s s.driver.faults
      (⟨handle, instruction, worker.page, s.page worker.page⟩ :: s.driver.runs)
      s.driver.usage.notifies s.driver.usage.waits
    refine .earlier h.trans hentered (.bind h.trans (h.run worker.page worker.login _ _) ?_)
    rintro (_ | ended) s'
    · exact h.onWorker s' handle _
    · exact h.conclude handle _ _ _ _ s'

/-- Looking at the page of a session is allowed. -/
theorem attend (handle : Handle) (s : Shared (SecureWorld κ)) :
    (SecureWorld.attend handle s).Stretches R s := by
  unfold SecureWorld.attend
  split
  · exact h.refl s
  next worker _ =>
    split
    · have hconsumed := h.onPage s worker.page (fun p => p.consumeReady.2) fun _ _ => rfl
      exact .earlier h.trans hconsumed (h.serve handle worker _)
    · exact h.refl s

/-- A notification is allowed. -/
theorem notify (handle : Handle) (s : Shared (SecureWorld κ)) :
    (SecureWorld.notify handle s).Stretches R s := by
  unfold SecureWorld.notify
  obtain ⟨worker, -, -, -, he⟩ | ⟨e, he⟩ := ring_cases handle s.driver
  · rw [he]
    exact .earlier h.trans (h.counted s)
      (.bind h.trans (h.attend handle { s with driver := _ }) fun _ s' => h.refl s')
  · rw [he]
    exact h.counted s

end Serving

/-- The relation holds between a secure world and what becomes of it while requests are served:
workers change, faults are disarmed, uses are counted and runs are entered. -/
structure Overlooks (R : SecureWorld κ → SecureWorld κ → Prop) : Prop where
  trans : ∀ {w w' w''}, R w w' → R w' w'' → R w w''
  onWorker : ∀ w handle f, R w (w.onWorker handle f)
  aside : ∀ w faults runs notifies waits,
    R w { w with faults, runs, usage := { w.usage with notifies, waits } }

namespace Overlooks

variable {R : SecureWorld κ → SecureWorld κ → Prop} (h : Overlooks R)
include h

/-- Seen from outside, it is a relation that allows for all that is done while serving. -/
theorem serving : Serving fun s s' : Shared (SecureWorld κ) => R s.driver s'.driver where
  trans _ _ _ := h.trans
  onWorker s := h.onWorker s.driver
  aside s faults runs notifies waits := h.aside s.driver faults runs notifies waits
  entered s _ _ := h.aside s.driver s.driver.faults s.driver.runs s.driver.usage.notifies
    s.driver.usage.waits
  memory s _ _ _ _ _ _ := h.aside s.driver s.driver.faults s.driver.runs s.driver.usage.notifies
    s.driver.usage.waits
  onPage s _ _ _ := h.aside s.driver s.driver.faults s.driver.runs s.driver.usage.notifies
    s.driver.usage.waits

/-- A notification is overlooked. -/
theorem notify (handle : Handle) (s : Shared (SecureWorld κ)) :
    (SecureWorld.notify handle s).Meets (fun a b => R a.driver b.driver)
      fun _ s' => R s.driver s'.driver :=
  (h.serving.notify handle s).meets h.serving.trans

/-- A wait is overlooked. -/
theorem wait (handle : Handle) (w : SecureWorld κ) : R w (SecureWorld.wait handle w).2 := by
  have hcount := h.aside w w.faults w.runs w.usage.notifies (w.usage.waits + 1)
  obtain ⟨_, _, _, -, -, he⟩ | ⟨e, -, he⟩ := wait_cases handle w <;> rw [he]
  · exact h.trans hcount (h.onWorker _ handle _)
  · exact hcount

end Overlooks

end SecureWorld

/-! ## What a world carries out -/

namespace World

variable {D : Driver σ} {keep : σ → σ → Prop} {w : World σ}

/-- Requests to cancel do to the driver what its notifications do. -/
theorem tolerates_driver (refl : ∀ driver, keep driver driver)
    (trans : ∀ a b c, keep a b → keep b c → keep a c)
    (hnotify : ∀ handle s, (D.notify .cancellation handle s).Meets
      (fun a b => keep a.driver b.driver) fun _ s' => keep s.driver s'.driver) :
    Tolerates D fun w after => keep w.driver after.driver :=
  tolerates_of_shared (R := fun s s' => keep s.driver s'.driver) (fun s => refl s.driver)
    (fun a b c => trans a.driver b.driver c.driver) (fun s _ _ => refl s.driver)
    (fun s _ => refl s.driver) hnotify

variable (htol : Tolerates D fun w after => keep w.driver after.driver)
include htol

/-- A primitive on the desk that meets something has it when the world carries it out, if requests
to cancel do to the driver what is allowed for. -/
theorem onDesk_driver {act : Desk σ → Reply (Desk σ) α} {Q : α → Desk σ → Prop}
    (h : (act w.desk).Meets (fun a b => keep a.driver b.driver) Q) :
    Q (w.onDesk D act).1 (w.onDesk D act).2.desk := by
  obtain ⟨w', desk, -, hq, he⟩ := onDesk_meets D (A := fun _ => True) h
    (fun w' desk token _ => ⟨trivial, htol.honour token (w'.withDesk desk)⟩) trivial
  rw [he]
  exact hq

/-- A primitive during which the secure world runs has what it meets when the world carries it out,
if requests to cancel do to the driver what is allowed for. -/
theorem onShared_driver {act : Shared σ → Reply (Shared σ) α} {Q : α → Shared σ → Prop}
    (h : (act w.toShared).Meets (fun a b => keep a.driver b.driver) Q) :
    Q (w.onShared D act).1 (w.onShared D act).2.toShared :=
  htol.onShared_meets h

end World

/-- Requests to cancel do what is done while requests are served, and raise flags. -/
theorem SecureWorld.Serving.tolerates {κ : Type}
    {R : Shared (SecureWorld κ) → Shared (SecureWorld κ) → Prop} (h : Serving R)
    (hflag : ∀ s id, R s (s.onPage id (·.setCancelled true))) :
    World.Tolerates SecureWorld.driver fun w after => R w.toShared after.toShared :=
  World.tolerates_of_shared h.refl h.trans (fun s r hr => h.entered s (.log r) hr) hflag
    fun handle s => (h.notify handle s).meets h.trans

namespace SecureWorld.Overlooks

variable {κ : Type} {R : SecureWorld κ → SecureWorld κ → Prop}

/-- Requests to cancel are overlooked. -/
theorem tolerates (h : Overlooks R) :
    World.Tolerates SecureWorld.driver fun w after => R w.driver after.driver :=
  World.tolerates_driver (fun w => h.aside w w.faults w.runs w.usage.notifies w.usage.waits)
    (fun _ _ _ => h.trans) h.notify

end SecureWorld.Overlooks

end TeeClient

import TeeClient.Proofs.Device

/-!
# Records that are executed

A worker that is notified and finds a record published in its page consumes the mark and executes
the record: it enters the run of the entry point that the record asks for, or answers a record of no
known instruction itself, and queues one completion. A notification that finds no record is only
counted. No call of a client is under way that an application could cancel, which would notify
sessions as well.

Main statements:

* `World.executed_of_finds` and `World.executed_of_unknown`: how a record is executed;
* `World.notified`: what a notification comes to, at its session and elsewhere.
-/

namespace TeeClient

open SecureWorld

variable {κ : Type}

/-! ## Notifications -/

/-- The run of an entry point that a record asks for, if its instruction is a known one. -/
def Page.run? (record : Page) (handle : Handle) (page : PageId) : Option Run :=
  (Instruction.ofRaw? record.request.instruction).map fun instruction =>
    ⟨handle, instruction, page, record.setReady false⟩

/-- The run that a record asks for is one of its session. -/
theorem Page.filter_run?_self (record : Page) (handle : Handle) (page : PageId) :
    (record.run? handle page).toList.filter (fun run => run.handle = handle)
      = (record.run? handle page).toList := by
  unfold run?
  cases Instruction.ofRaw? record.request.instruction <;> simp

/-- The run that a record asks for is not one of another session. -/
theorem Page.filter_run?_ne (record : Page) {handle other : Handle} (hne : handle ≠ other)
    (page : PageId) :
    (record.run? handle page).toList.filter (fun run => run.handle = other) = [] := by
  unfold run?
  cases Instruction.ofRaw? record.request.instruction <;> simp [hne]

namespace World

/-- The worker of a session took up the record in its page: it entered a run if the record asks for
one, cleared the mark, and queued a completion unless it did not survive the run. -/
structure Executed (handle : Handle) (worker : Worker κ) (w after : World (SecureWorld κ)) :
    Prop where
  runs : after.driver.runs
    = ((w.page worker.page).run? handle worker.page).toList ++ w.driver.runs
  cleared : ∃ p, after.pages.get? worker.page = some p ∧ p.ready = false
  left : ∃ later, after.driver.sessions.get? handle = some later ∧ later.page = worker.page ∧
    (later.alive = true → later.completions = worker.completions ++
      [if w.driver.faults.exitCode.isSome then .exited else .served] ∧
      after.driver.faults.exitCode = none)
  coworkers : ∀ other, other ≠ handle →
    (after.scene id).workers other = (w.scene id).workers other
  others : ∀ other, other ≠ worker.page → (after.scene id).pages other = (w.scene id).pages other

variable {w w' after : World (SecureWorld κ)} {handle : Handle} {worker : Worker κ}
  {instruction : Instruction}

/-- What is armed and what was run so far. -/
def logbook (w : World (SecureWorld κ)) : ArmedFaults × List Run :=
  (w.driver.faults, w.driver.runs)

/-- A program of an application leaves what is armed and what was run, where no call is under
way. -/
theorem logbook_play (quiet : w.started = 0) (page : PageId) (login : Login) (program : Program κ) :
    (w.play page login program).2.logbook = w.logbook := by
  refine (play_preserves (P := fun w' => w'.started = 0 ∧ w'.logbook = w.logbook)
    (fun _ _ _ _ _ h => h) (fun w' token h => ?_) (fun _ _ h => h) program ⟨quiet, rfl⟩).2
  obtain ⟨journal, hsame⟩ := honour_of_quiet (D := SecureWorld.driver) h.1 token
  rw [hsame]
  exact h

/-- Counting a notification and consuming a mark leaves what is armed and what was run. -/
theorem logbook_consumed (handle : Handle) (page : PageId) (w : World (SecureWorld κ)) :
    (w.consumed handle page).logbook = w.logbook := by
  show ((ring handle w.driver).2.faults, (ring handle w.driver).2.runs) = _
  rw [ring_snd]
  rfl

/-- The world in which the worker of a session has consumed the mark of a record, entered the run
that it asks for, and changed at most slots in its page since. -/
structure Underway (handle : Handle) (worker : Worker κ) (w w' : World (SecureWorld κ)) : Prop where
  logbook : w'.logbook = (w.driver.faults,
    ((w.page worker.page).run? handle worker.page).toList ++ w.driver.runs)
  workers : (w'.scene id).workers = (w.scene id).workers
  cleared : ∃ p, w'.pages.get? worker.page = some p ∧ p.ready = false
  others : ∀ other, other ≠ worker.page → (w'.scene id).pages other = (w.scene id).pages other

/-- The worker that is under way is the one that was notified. -/
theorem Underway.kept (h : Underway handle worker w w')
    (hired : w.driver.sessions.get? handle = some worker) :
    w'.driver.sessions.get? handle = some worker :=
  (congrFun h.workers handle).trans hired

/-- A worker that ends its run has executed the record. -/
theorem Underway.conclude (h : Underway handle worker w w')
    (hired : w.driver.sessions.get? handle = some worker) (origin status : UInt32) (state : κ) :
    Executed handle worker w (w'.withShared
      (SecureWorld.conclude handle worker.page origin status state w'.toShared)) := by
  have hworker := h.kept hired
  obtain ⟨p, hp, hready⟩ := h.cleared
  have hfaults : w'.driver.faults = w.driver.faults := congrArg Prod.fst h.logbook
  obtain ⟨words, done, -, hscene⟩ :=
    scene_conclude handle worker.page origin status state w'.toShared
  refine ⟨congrArg Prod.snd h.logbook, ?_, ?_, fun other hne => ?_, fun other hne => ?_⟩
  · refine ⟨_, Shared.get?_onPage hp _, hready⟩
  · refine ⟨_, get?_onWorker_self (w := { w'.driver with faults := _ }) hworker _, rfl,
      fun _ => ⟨?_, rfl⟩⟩
    rw [← hfaults]
  · rw [← h.workers]
    exact (congrFun (congrArg (fun v => v.workers) hscene) other).trans (if_neg hne)
  · rw [← h.others other hne]
    exact (congrFun (congrArg Scene.pages hscene) other).trans (if_neg hne)

/-- A worker that does not survive its run has executed the record. -/
theorem Underway.panicked (h : Underway handle worker w w')
    (hired : w.driver.sessions.get? handle = some worker) :
    Executed handle worker w (w'.withDriver
      (w'.driver.onWorker handle fun worker => { worker with alive := false })) := by
  have hworker := h.kept hired
  refine ⟨congrArg Prod.snd h.logbook, h.cleared, ?_, fun other hne => ?_, h.others⟩
  · exact ⟨_, get?_onWorker_self hworker _, rfl, nofun⟩
  · rw [← h.workers]
    have hstaff := staff_onWorker w'.driver handle fun worker => { worker with alive := false }
    exact (congrFun (congrArg Staff.workers hstaff) other).trans (if_neg hne)

/-- A worker that has consumed a mark is under way, if it entered the run that is asked for. -/
theorem underway_of_touched (ready : (w.page worker.page).ready = true) {v : Scene κ}
    (htouched : Scene.Touched worker.page v (w'.scene id))
    (hworkers : v.workers = ((w.consumed handle worker.page).scene id).workers)
    (hpages : v.pages = ((w.consumed handle worker.page).scene id).pages)
    (hlogbook : w'.logbook = (w.driver.faults,
      ((w.page worker.page).run? handle worker.page).toList ++ w.driver.runs)) :
    Underway handle worker w w' := by
  obtain ⟨p, hp, -⟩ := exists_page_of_ready ready
  rw [scene_consumed] at hworkers hpages
  refine ⟨hlogbook, (congrArg Staff.workers htouched.staff :).trans hworkers, ?_,
    fun other hne => ?_⟩
  · -- the mark is none of the things that a run may write
    have hunfilled : ((w'.scene id).pages worker.page).map Page.unfilled
        = some (p.unflagged.setReady false).unfilled := by
      rw [htouched.unfilled, hpages]
      simp only [Scene.onPage, if_true]
      rw [show (w.scene id).pages worker.page = _ from congrArg (Option.map Page.unflagged) hp]
      rfl
    obtain ⟨u, hu, hsame⟩ := Option.map_eq_some_iff.1 hunfilled
    obtain ⟨q, hq, rfl⟩ := Option.map_eq_some_iff.1 hu
    exact ⟨q, hq, (congrArg Page.ready hsame :)⟩
  · rw [htouched.others other hne, hpages]
    exact if_neg hne

/-- A worker that finds a record of a known instruction executes it. -/
theorem executed_of_finds (h : Finds handle worker instruction w.toShared)
    (quiet : w.started = 0) : Executed handle worker w (w.served handle worker instruction) := by
  have hconsumed := logbook_consumed handle worker.page w
  -- the run that is entered is the one that the record asks for
  have hlogbook : (w.takenUp handle worker instruction).logbook = (w.driver.faults,
      ((w.page worker.page).run? handle worker.page).toList ++ w.driver.runs) := by
    have hrun : (w.page worker.page).run? handle worker.page
        = some ⟨handle, instruction, worker.page, (w.page worker.page).setReady false⟩ := by
      unfold Page.run?
      rw [show Instruction.ofRaw? (w.page worker.page).request.instruction = _ from h.known]
      rfl
    rw [hrun, ← page_consumed handle h.ready]
    exact congrArg (fun l => (l.1, _ :: l.2)) hconsumed
  have hplayed : (w.performed handle worker instruction).2.logbook = _ :=
    (logbook_play (w := w.takenUp handle worker instruction) quiet worker.page worker.login
      (w.due worker instruction)).trans hlogbook
  have hunderway : Underway handle worker w (w.performed handle worker instruction).2 :=
    underway_of_touched h.ready (touched_performed h (.inr quiet)) rfl rfl hplayed
  unfold served left
  rcases hended : w.performed handle worker instruction with ⟨_ | ⟨result, state⟩, w'⟩
  · rw [hended] at hunderway
    exact hunderway.panicked h.hired
  · rw [hended] at hunderway
    exact hunderway.conclude h.hired _ _ state

/-- A worker that finds a record of an unknown instruction executes it by answering it itself. -/
theorem executed_of_unknown (hheard : w.driver.faults.notify = false)
    (hired : w.driver.sessions.get? handle = some worker) (halive : worker.alive = true)
    (hready : (w.page worker.page).ready = true)
    (hunknown : Instruction.ofRaw? (w.page worker.page).request.instruction = none) :
    (w.use (.notify handle)).1 = .ok () ∧ Executed handle worker w (w.use (.notify handle)).2 := by
  let found := w.consumed handle worker.page
  let seen := found.log (.instructionUnknown (found.page worker.page).request.instruction)
  let after := seen.withShared (SecureWorld.conclude handle worker.page Origin.tee.code
    FailureKind.badParameters.code worker.state seen.toShared)
  -- such a record asks for no run
  have hlogbook : seen.logbook = (w.driver.faults,
      ((w.page worker.page).run? handle worker.page).toList ++ w.driver.runs) := by
    unfold Page.run?
    rw [hunknown]
    exact logbook_consumed handle worker.page w
  have hunderway : Underway handle worker w seen :=
    underway_of_touched hready (.refl _) rfl rfl hlogbook
  have hexecuted : Executed handle worker w after := hunderway.conclude hired _ _ _
  have hserve : found.onShared SecureWorld.driver (serve handle worker) = ((), after) := by
    have hunknown' : Instruction.ofRaw? (found.page worker.page).request.instruction = none := by
      rw [show found.page worker.page = _ from page_consumed handle hready]
      exact hunknown
    have hdone : serve handle worker found.toShared = .done () after.toShared := by
      unfold serve
      simp only [show Instruction.ofRaw? (found.toShared.page worker.page).request.instruction = _
        from hunknown']
      rfl
    unfold onShared settleShared
    rw [hdone]
    rfl
  have hnotify : w.use (.notify handle) = (.ok (), after) :=
    onShared_notify_of_serve hheard hired halive hready hserve
  rw [hnotify]
  exact ⟨rfl, hexecuted⟩

/-- What a notification comes to: a worker that is alive and finds a record published executes it,
and otherwise it is only counted. -/
theorem notified (handle : Handle) {w : World (SecureWorld κ)} (quiet : w.started = 0) :
    (Idle handle w.toShared ∧ w.use (.notify handle)
      = ((ring handle w.driver).1, w.withDriver (ring handle w.driver).2)) ∨
    ∃ worker, w.driver.sessions.get? handle = some worker ∧ (w.page worker.page).ready = true ∧
      (w.use (.notify handle)).1 = .ok () ∧
      Executed handle worker w (w.use (.notify handle)).2 := by
  by_cases hidle : Idle handle w.toShared
  · exact .inl ⟨hidle, onShared_notify_of_idle hidle⟩
  · obtain ⟨worker, hidle⟩ := Classical.not_forall.1 hidle
    simp only [Classical.not_imp, Bool.not_eq_false] at hidle
    obtain ⟨hheard, hired, halive, hready⟩ := hidle
    refine .inr ⟨worker, hired, hready, ?_⟩
    cases hknown : Instruction.ofRaw? (w.page worker.page).request.instruction with
    | none => exact executed_of_unknown hheard hired halive hready hknown
    | some instruction =>
      have hfinds : Finds handle worker instruction w.toShared :=
        ⟨hheard, hired, halive, hready, hknown⟩
      have hnotify : w.use (.notify handle) = (.ok (), w.served handle worker instruction) :=
        onShared_notify_of_finds hfinds
      rw [hnotify]
      exact ⟨rfl, executed_of_finds hfinds quiet⟩

/-- No use of the device starts a call of a client. -/
theorem started_use (w : World (SecureWorld κ)) (call : DeviceCall) :
    (w.use call).2.started ≤ w.started := by
  cases call with
  | notify handle | wait handle limit =>
    exact (tolerates_started SecureWorld.driver).onShared (Reply.stretches_true _ _)
      fun _ _ _ => Nat.le_refl _
  | openSession | closeSession | map | unmap | errorCode | publish | arm => exact Nat.le_refl _

end World

/-! ## Completions -/

/-- A wait that delivers a completion does not end by its limit. -/
theorem Completion.answer_ne_timeout (completion : Completion) :
    completion.answer ≠ .error .timeout := by
  cases completion <;> simp [answer]

namespace SecureWorld

/-- The session has a worker that is alive. -/
def serves (handle : Handle) (w : SecureWorld κ) : Bool :=
  (w.sessions.get? handle).any Worker.alive

/-- The completions of a session that were not delivered yet, the oldest first. -/
def outstanding (handle : Handle) (w : SecureWorld κ) : List Completion :=
  ((w.sessions.get? handle).map Worker.completions).getD []

end SecureWorld

end TeeClient

import TeeClient.Proofs.Device.Executions

/-!
# Signals of a session

The user of a session publishes records in its page, notifies the session and waits for
completions. A notification that finds a record published has it executed, and consumes the mark;
every other notification is ignored. Each execution queues one completion, and waits deliver them in
that order.

`SessionLog` is what such a user notes down: the records published, those executed, each with
whether an error code was armed then, and what the waits delivered. What the session has queued is
what is noted as executed and not as delivered (`SessionLog.Hold`), after every use of the device
that leaves the session open. What is noted is what the calls about the session alone let expect
(`Schedule`).

Main statements:

* `SessionLog.hold_use`: each call keeps the notes true;
* `signals_in_order`: after any calls, the records executed are some of those published, waits have
  delivered their completions in order, and what happened at other sessions has no part in either.
-/

namespace TeeClient

open SecureWorld

variable {κ : Type}

/-! ## What the user of a session knows -/

/-- A record that was executed. -/
structure Execution where
  /-- The record, as the notification found it. -/
  record : Page
  /-- An error code was armed then. -/
  armed : Bool
  deriving DecidableEq, Repr

/-- The completion that an execution queues. -/
def Execution.completion (e : Execution) : Completion := if e.armed then .exited else .served

/-- What the user of a session notes down. -/
structure SessionLog where
  /-- The records published in the page of the session, the oldest first. -/
  published : List Page
  /-- The records executed, in the order in which they were. -/
  executed : List Execution
  /-- What the waits answered that did not end by their limit, in order. -/
  delivered : List (Except DriverFault Unit)

namespace SessionLog

/-- Nothing happened since the session was opened on a page. -/
def start (page : Page) : SessionLog := ⟨if page.ready then [page] else [], [], []⟩

/-- What is noted down of a call and its answer by the user of a session on a page. -/
def note (handle : Handle) (page : PageId) : World.Noting κ SessionLog
  | _, .publish id contents, _, notes =>
    if id = page ∧ contents.ready then
      { notes with published := notes.published ++ [contents] }
    else notes
  | w, .notify other, _, notes =>
    if other = handle ∧ (w.page page).ready then
      let execution := ⟨w.page page, w.driver.faults.exitCode.isSome⟩
      { notes with executed := notes.executed ++ [execution] }
    else notes
  | _, .wait other _, answer, notes =>
    match answer with
    | .error .timeout => notes
    | answer =>
      if other = handle then { notes with delivered := notes.delivered ++ [answer] }
      else notes
  | _, _, _, notes => notes

end SessionLog

/-- The call leaves a session open and keeps to the rules for it: it is notified where no fault is
armed for that and its application does not panic, and waited for without a limit only where a
completion is outstanding. -/
def DeviceCall.Proper (handle : Handle) (w : World (SecureWorld κ)) : DeviceCall → Prop
  | .openSession destination login page =>
    (w.use (.openSession destination login page)).1 ≠ .ok handle
  | .closeSession other => other ≠ handle
  | .notify other => other = handle → w.driver.faults.notify = false ∧
    (w.use (.notify other)).2.driver.serves handle = true
  | .wait other none => other = handle → w.driver.outstanding handle ≠ []
  | _ => True

/-- Each of the calls is proper when it is made. -/
def World.Proper (handle : Handle) : List DeviceCall → World (SecureWorld κ) → Prop
  | [], _ => True
  | call :: rest, w => call.Proper handle w ∧ World.Proper handle rest (w.use call).2

namespace SessionLog

/-- The runs of entry points that the records noted as executed ask for. -/
def runs (notes : SessionLog) (handle : Handle) (page : PageId) : List Run :=
  notes.executed.filterMap fun e => e.record.run? handle page

/-- The notes of the user of a session are true, where some runs were entered for its handle before
it was opened. -/
structure Hold (handle : Handle) (page : PageId) (earlier : List Run) (notes : SessionLog)
    (v : Scene κ) : Prop where
  /-- The worker has those completions queued that are noted as executed and not as delivered. -/
  queued : ∃ worker, v.workers handle = some worker ∧ worker.alive = true ∧ worker.page = page ∧
    notes.delivered ++ worker.completions.map Completion.answer
      = notes.executed.map fun e => e.completion.answer
  /-- Of the records published each was executed at most once, but for the one that is in the
  page. -/
  once : ∃ p, v.pages page = some p ∧ List.Sublist
    ((notes.executed.map fun e => e.record.unflagged) ++ if p.ready then [p] else [])
    (notes.published.map Page.unflagged)
  ran : (v.runs.filter fun run => run.handle = handle).reverse
    = earlier ++ notes.runs handle page

variable {handle : Handle} {page : PageId} {earlier : List Run} {notes : SessionLog}
  {v v' : Scene κ} {w : World (SecureWorld κ)}

/-- What leaves the worker and the runs of the session, and the record in its page if it does not
clear it, leaves the notes true. -/
theorem Hold.congr (h : notes.Hold handle page earlier v)
    (hworker : v'.workers handle = v.workers handle)
    (hpage : v'.pages page = v.pages page ∨ ∃ p, v'.pages page = some p ∧ p.ready = false)
    (hruns : (v'.runs.filter fun run => run.handle = handle)
      = v.runs.filter fun run => run.handle = handle) :
    notes.Hold handle page earlier v' := by
  obtain ⟨hqueued, ⟨p, hp, honce⟩, hran⟩ := h
  refine ⟨hworker ▸ hqueued, ?_, hruns ▸ hran⟩
  rcases hpage with hsame | ⟨q, hq, hcleared⟩
  · exact ⟨p, hsame.trans hp, honce⟩
  · refine ⟨q, hq, ?_⟩
    simp only [hcleared, Bool.false_eq_true, if_false, List.append_nil]
    exact (List.sublist_append_left _ _).trans honce

/-- The page as it stands in the scene. -/
theorem Hold.exists_page (h : notes.Hold handle page earlier (w.scene id)) :
    ∃ p, (w.scene id).pages page = some p ∧ (w.page page).unflagged = p ∧
      (w.page page).ready = p.ready := by
  obtain ⟨-, ⟨p, hp, -⟩, -⟩ := h
  obtain ⟨q, hq, rfl⟩ := Option.map_eq_some_iff.1 hp
  have hread : w.page page = q := Shared.page_of_get? hq
  exact ⟨q.unflagged, hp, by rw [hread], by rw [hread]; rfl⟩

/-- The worker as it stands. -/
theorem Hold.exists_worker (h : notes.Hold handle page earlier (w.scene id)) :
    ∃ worker, w.driver.sessions.get? handle = some worker ∧ worker.alive = true ∧
      worker.page = page ∧ notes.delivered ++ worker.completions.map Completion.answer
        = notes.executed.map fun e => e.completion.answer := by
  obtain ⟨⟨worker, hired, halive, hpage, hqueue⟩, -, -⟩ := h
  exact ⟨worker, hired, halive, hpage, hqueue⟩

/-- A record that is published in the page takes the place of the one before. -/
theorem Hold.publish (h : notes.Hold handle page earlier (w.scene id)) (contents : Page) :
    (note handle page w (.publish page contents) () notes).Hold handle page earlier
      ((w.use (.publish page contents)).2.scene id) := by
  have hscene : (w.use (.publish page contents)).2.scene id
      = (w.scene id).onPage page fun _ => contents.unflagged :=
    w.restages_use (.publish page contents)
  rw [hscene]
  obtain ⟨hqueued, ⟨p, hp, honce⟩, hran⟩ := h
  have hpages : ((w.scene id).onPage page fun _ => contents.unflagged).pages page
      = some contents.unflagged := by
    simp [Scene.onPage, hp]
  have hbefore := (List.sublist_append_left _ _).trans honce
  by_cases hready : contents.ready = true
  · simp only [note, hready, and_self, if_true]
    refine ⟨hqueued, ⟨_, hpages, ?_⟩, hran⟩
    rw [show contents.unflagged.ready = true from hready, if_pos rfl, List.map_append]
    exact hbefore.append (.refl _)
  · simp only [note, hready]
    refine ⟨hqueued, ⟨_, hpages, ?_⟩, hran⟩
    rw [show contents.unflagged.ready = false from Bool.eq_false_iff.2 hready]
    simpa using hbefore

/-- A notification has the record executed that is published, if there is one. -/
theorem Hold.notify (h : notes.Hold handle page earlier (w.scene id)) (quiet : w.started = 0)
    (hproper : DeviceCall.Proper handle w (.notify handle)) :
    (note handle page w (.notify handle) (w.use (.notify handle)).1 notes).Hold handle page
      earlier ((w.use (.notify handle)).2.scene id) := by
  obtain ⟨hheard, hserves⟩ := hproper rfl
  obtain ⟨worker, hired, halive, rfl, hqueue⟩ := h.exists_worker
  obtain ⟨p, hp, hunflagged, hready⟩ := h.exists_page
  rcases World.notified handle quiet with ⟨hidle, hnotify⟩ | ⟨found, hfound, hfinds, -, hexecuted⟩
  · -- no mark is found, and nothing is noted down
    have hunready : (w.page worker.page).ready = false := hidle worker hheard hired halive
    rw [hnotify, ring_snd]
    simp only [note, hunready, Bool.false_eq_true, and_false, if_false]
    exact h
  · -- the record in the page is executed and its completion queued last
    obtain rfl : found = worker := Option.some.inj (hfound.symm.trans hired)
    obtain ⟨later, hlater, hpage, hleft⟩ := hexecuted.left
    obtain ⟨q, hq, hcleared⟩ := hexecuted.cleared
    have hlives : later.alive = true := by
      simpa [serves, hlater] using hserves
    obtain ⟨hqueued, -⟩ := hleft hlives
    obtain ⟨-, ⟨p', hp', honce⟩, hran⟩ := h
    obtain rfl : p' = p := Option.some.inj (hp'.symm.trans hp)
    simp only [note, hfinds, and_self, if_true]
    refine ⟨⟨later, hlater, hlives, hpage, ?_⟩,
      ⟨q.unflagged, congrArg (Option.map Page.unflagged) hq, ?_⟩, ?_⟩
    · show notes.delivered ++ later.completions.map Completion.answer = _
      rw [hqueued, List.map_append, List.map_append, ← List.append_assoc, hqueue]
      rfl
    · rw [show q.unflagged.ready = false from hcleared]
      rw [← hready, hfinds, if_pos rfl] at honce
      simpa [hunflagged] using honce
    · show ((w.use (.notify handle)).2.driver.runs.filter _).reverse = _
      rw [hexecuted.runs, List.filter_append, List.reverse_append, Page.filter_run?_self,
        show (w.driver.runs.filter _).reverse = _ from hran, List.append_assoc]
      simp only [runs, List.filterMap_append]
      cases hrun : (w.page found.page).run? handle found.page <;> simp [hrun]

/-- What a wait answers: it ends by its limit if all records executed were delivered, and delivers
the completion of the next one otherwise. -/
theorem Hold.wait_cases (h : notes.Hold handle page earlier (w.scene id)) (limit : Option Nat) :
    (notes.delivered.length = notes.executed.length ∧ w.use (.wait handle limit)
      = (.error .timeout, w.withDriver (w.driver.count fun n => { n with waits := n.waits + 1 }))) ∨
    ∃ e, notes.executed[notes.delivered.length]? = some e ∧
      (w.use (.wait handle limit)).1 = e.completion.answer := by
  obtain ⟨worker, hired, halive, -, hqueue⟩ := h.exists_worker
  cases hqueued : worker.completions with
  | nil =>
    refine .inl ⟨?_, ?_⟩
    · simpa [hqueued] using congrArg List.length hqueue
    · have hwait := wait_of_nil hired hqueued
      rw [if_pos halive] at hwait
      exact Prod.ext (congrArg Prod.fst hwait :) (congrArg (fun r => w.withDriver r.2) hwait :)
  | cons completion rest =>
    have hnext : (notes.executed.map fun e => e.completion.answer)[notes.delivered.length]?
        = some completion.answer := by
      rw [← hqueue, hqueued]
      simp
    rw [List.getElem?_map] at hnext
    obtain ⟨e, he, hanswer⟩ := Option.map_eq_some_iff.1 hnext
    have hwait := congrArg Prod.fst (wait_of_cons hired hqueued)
    exact .inr ⟨e, he, hwait.trans hanswer.symm⟩

/-- A wait that ends by its limit is not noted down. -/
theorem note_wait_timeout (limit : Option Nat) :
    note handle page w (.wait handle limit) (.error .timeout) notes = notes := rfl

/-- A wait that delivers a completion is noted down. -/
theorem note_wait_answer (limit : Option Nat) (completion : Completion) :
    note handle page w (.wait handle limit) completion.answer notes
      = { notes with delivered := notes.delivered ++ [completion.answer] } := by
  cases completion <;> simp [note, Completion.answer]

/-- What is waited for elsewhere is not noted down. -/
theorem note_wait_ne {other : Handle} (hne : other ≠ handle) {limit : Option Nat}
    (answer : Except DriverFault Unit) :
    note handle page w (.wait other limit) answer notes = notes := by
  simp only [note, hne, if_false]
  split <;> rfl

/-- A wait takes the completion off the queue that is noted as delivered. -/
theorem Hold.wait (h : notes.Hold handle page earlier (w.scene id)) (limit : Option Nat) :
    (note handle page w (.wait handle limit) (w.use (.wait handle limit)).1 notes).Hold handle
      page earlier ((w.use (.wait handle limit)).2.scene id) := by
  obtain ⟨worker, hired, halive, hpage, hqueue⟩ := h.exists_worker
  have hdrained : ((w.scene id).drain handle).workers handle
      = some { worker with completions := worker.completions.tail } := by
    simp only [Scene.drain, Staff.drain, Staff.assign, if_true]
    rw [show (w.scene id).workers handle = _ from hired]
    rfl
  rw [show (w.use (.wait handle limit)).2.scene id = (w.scene id).drain handle from
    w.restages_use (.wait handle limit)]
  obtain ⟨-, honce, hran⟩ := h
  cases hqueued : worker.completions with
  | nil =>
    have hwait := wait_of_nil hired hqueued
    rw [if_pos halive] at hwait
    have hanswer : (w.use (.wait handle limit)).1 = .error .timeout := congrArg Prod.fst hwait
    rw [hanswer, note_wait_timeout]
    rw [hqueued] at hqueue hdrained
    exact ⟨⟨_, hdrained, halive, hpage, hqueue⟩, honce, hran⟩
  | cons completion rest =>
    have hanswer : (w.use (.wait handle limit)).1 = completion.answer :=
      congrArg Prod.fst (wait_of_cons hired hqueued)
    rw [hanswer, note_wait_answer]
    rw [hqueued] at hqueue hdrained
    refine ⟨⟨_, hdrained, halive, hpage, ?_⟩, honce, hran⟩
    simpa using hqueue

/-- What is opened, closed or waited for elsewhere leaves the notes true. -/
theorem Hold.assign (h : notes.Hold handle page earlier v) {other : Handle}
    (hne : other ≠ handle) (worker : Option (Worker κ)) :
    notes.Hold handle page earlier { v with toStaff := v.toStaff.assign other worker } :=
  h.congr (if_neg (Ne.symm hne)) (.inl rfl) rfl

/-- What is published elsewhere leaves the notes true. -/
theorem Hold.publish_ne (h : notes.Hold handle page earlier v) {other : PageId}
    (hne : other ≠ page) (f : Page → Page) : notes.Hold handle page earlier (v.onPage other f) :=
  h.congr rfl (.inl (if_neg (Ne.symm hne))) rfl

/-- A notification elsewhere leaves the notes true: it clears at most the mark in a page that is
shared. -/
theorem Hold.notify_ne (h : notes.Hold handle page earlier (w.scene id)) (quiet : w.started = 0)
    {other : Handle} (hne : other ≠ handle) :
    notes.Hold handle page earlier ((w.use (.notify other)).2.scene id) := by
  rcases World.notified other quiet with ⟨-, hnotify⟩ | ⟨found, -, -, -, hexecuted⟩
  · rw [hnotify, ring_snd]
    exact h
  · refine h.congr (hexecuted.coworkers handle (Ne.symm hne)) ?_ ?_
    · by_cases hshared : page = found.page
      · obtain ⟨q, hq, hcleared⟩ := hexecuted.cleared
        exact .inr ⟨q.unflagged, hshared ▸ congrArg (Option.map Page.unflagged) hq, hcleared⟩
      · exact .inl (hexecuted.others page hshared)
    · show (w.use (.notify other)).2.driver.runs.filter _ = _
      rw [hexecuted.runs, List.filter_append, Page.filter_run?_ne _ hne]
      rfl

/-- Every call that is proper keeps the notes true. -/
theorem hold_use (h : notes.Hold handle page earlier (w.scene id)) (quiet : w.started = 0)
    {call : DeviceCall} (hproper : call.Proper handle w) :
    (note handle page w call (w.use call).1 notes).Hold handle page earlier
      ((w.use call).2.scene id) := by
  have hscene := w.restages_use call
  cases call with
  | openSession destination login lodging =>
    have hanswer : (w.use (.openSession destination login lodging)).1 ≠ .ok handle := hproper
    generalize w.use (.openSession destination login lodging) = opened at hscene hanswer ⊢
    obtain ⟨e | other, after⟩ := opened
    · rw [show after.scene id = _ from hscene]
      exact h
    · -- the handle that is given out is another one
      obtain ⟨worker, -, hscene⟩ := hscene
      rw [show after.scene id = _ from hscene]
      exact h.assign (fun he => hanswer (he ▸ rfl)) (some worker)
  | closeSession other =>
    rw [show (w.use (.closeSession other)).2.scene id = _ from hscene]
    exact h.assign hproper none
  | map other address len access =>
    generalize w.use (.map other address len access) = mapped at hscene ⊢
    obtain ⟨e | info, after⟩ := mapped <;>
    · rw [show after.scene id = _ from hscene]
      exact h
  | unmap other address info | errorCode other | arm faults =>
    rw [show (w.use _).2.scene id = w.scene id from hscene]
    exact h
  | publish lodging contents =>
    by_cases hpage : lodging = page
    · rw [hpage]
      exact h.publish contents
    · rw [show (w.use (.publish lodging contents)).2.scene id = _ from hscene]
      simpa [note, hpage] using h.publish_ne hpage _
  -- only a notification or a wait at the session itself is noted down
  | notify other =>
    by_cases hown : other = handle
    · subst hown
      exact h.notify quiet hproper
    · simpa [note, hown] using h.notify_ne quiet hown
  | wait other limit =>
    by_cases hown : other = handle
    · subst hown
      exact h.wait limit
    · rw [note_wait_ne hown, show (w.use (.wait other limit)).2.scene id = _ from hscene]
      exact h.assign hown _

/-- Calls that are proper keep the notes true. -/
theorem hold_useAll (h : notes.Hold handle page earlier (w.scene id)) (quiet : w.started = 0)
    {calls : List DeviceCall} (hproper : World.Proper handle calls w) :
    Hold handle page earlier (World.useAll (note handle page) calls (w, notes)).2
      ((World.useAll (note handle page) calls (w, notes)).1.scene id) := by
  induction calls generalizing w notes with
  | nil => exact h
  | cons call rest ih =>
    exact ih (hold_use h quiet hproper.1) (Nat.le_zero.1 (quiet ▸ w.started_use call)) hproper.2

/-- The notes are true of a session that was just opened. -/
theorem hold_start {opened : World (SecureWorld κ)} {destination : Uuid} {login : Login}
    (hopened : w.use (.openSession destination login page) = (.ok handle, opened))
    (there : (w.pages.get? page).isSome = true) :
    (start (opened.page page)).Hold handle page
      (opened.driver.runs.filter fun run => run.handle = handle).reverse (opened.scene id) := by
  obtain ⟨p, hp⟩ := Option.isSome_iff_exists.1 there
  have hscene := w.restages_use (.openSession destination login page)
  rw [hopened] at hscene
  obtain ⟨worker, hstarts, hscene⟩ := hscene
  have hworker : (opened.scene id).workers handle = some worker := by
    rw [show opened.scene id = _ from hscene]
    exact if_pos rfl
  have hpage : (opened.scene id).pages page = some p.unflagged := by
    rw [show opened.scene id = _ from hscene]
    exact congrArg (Option.map Page.unflagged) hp
  have hready : (opened.page page).ready = p.ready := by
    rw [show opened.page page = opened.toShared.page page from rfl, ready_page,
      show opened.toShared.scene id = opened.scene id from rfl, hpage]
    rfl
  have hread : (opened.page page).unflagged = p.unflagged := by
    obtain ⟨q, hq, hsame⟩ := Option.map_eq_some_iff.1 hpage
    rw [show opened.page page = q from Shared.page_of_get? hq, hsame]
  refine ⟨⟨worker, hworker, hstarts.alive, hstarts.page, ?_⟩, ⟨p.unflagged, hpage, ?_⟩, ?_⟩
  · simp [start, hstarts.completions]
  · rw [show p.unflagged.ready = p.ready from rfl]
    cases hp : p.ready <;> simp [start, hready, hp, hread]
  · exact (List.append_nil _).symm

end SessionLog

/-! ## What other sessions have to do with it -/

/-- The call is about the session: it publishes in its page, notifies it or waits for it. -/
def DeviceCall.concerns (handle : Handle) (page : PageId) : DeviceCall → Bool
  | .publish other _ => other = page
  | .notify other | .wait other _ => other = handle
  | _ => false

/-- The call does not share the page with another session. -/
def DeviceCall.Elsewhere (page : PageId) : DeviceCall → Prop
  | .openSession _ _ lodging => lodging ≠ page
  | _ => True

/-- What is to be expected of a session, from the calls about it alone. -/
structure Schedule where
  /-- The record in the page, if it is published. -/
  pending : Option Page
  /-- The records executed, in order. -/
  executed : List Page
  /-- How many completions were delivered. -/
  delivered : Nat

namespace Schedule

/-- The session was just opened on a page. -/
def start (page : Page) : Schedule := ⟨if page.ready then some page.unflagged else none, [], 0⟩

/-- A call about the session. -/
def step (s : Schedule) : DeviceCall → Schedule
  | .publish _ contents =>
    { s with pending := if contents.ready then some contents.unflagged else none }
  | .notify _ => { s with pending := none, executed := s.executed ++ s.pending.toList }
  | .wait .. =>
    if s.delivered < s.executed.length then { s with delivered := s.delivered + 1 } else s
  | _ => s

end Schedule

namespace SessionLog

/-- The notes are as expected, and no other session has the page. -/
structure Scheduled (handle : Handle) (page : PageId) (schedule : Schedule) (notes : SessionLog)
    (v : Scene κ) : Prop where
  executed : (notes.executed.map fun e => e.record.unflagged) = schedule.executed
  delivered : notes.delivered.length = schedule.delivered
  pending : ∃ p, v.pages page = some p ∧ schedule.pending = if p.ready then some p else none
  sole : ∀ other worker, v.workers other = some worker → worker.page = page → other = handle

variable {handle : Handle} {page : PageId} {earlier : List Run} {notes : SessionLog}
  {schedule : Schedule} {v v' : Scene κ} {w : World (SecureWorld κ)}

/-- What leaves the page and puts no other session behind it leaves what is expected. -/
theorem Scheduled.congr (h : notes.Scheduled handle page schedule v)
    (hpage : v'.pages page = v.pages page)
    (hworkers : ∀ other worker, v'.workers other = some worker → worker.page = page →
      other = handle ∨ ∃ before, v.workers other = some before ∧ before.page = page) :
    notes.Scheduled handle page schedule v' := by
  refine ⟨h.executed, h.delivered, hpage ▸ h.pending, fun other worker hworker hlodged => ?_⟩
  rcases hworkers other worker hworker hlodged with hown | ⟨before, hbefore, hthere⟩
  · exact hown
  · exact h.sole other before hbefore hthere

/-- A record that is published in the page is the one that is pending. -/
theorem Scheduled.publish (h : notes.Scheduled handle page schedule (w.scene id))
    (contents : Page) :
    (note handle page w (.publish page contents) () notes).Scheduled handle page
      (schedule.step (.publish page contents)) ((w.use (.publish page contents)).2.scene id) := by
  have hscene : (w.use (.publish page contents)).2.scene id
      = (w.scene id).onPage page fun _ => contents.unflagged :=
    w.restages_use (.publish page contents)
  obtain ⟨p, hp, -⟩ := h.pending
  have hpages : ((w.use (.publish page contents)).2.scene id).pages page
      = some contents.unflagged := by
    rw [hscene]
    simp [Scene.onPage, hp]
  have hnote :
      (note handle page w (.publish page contents) () notes).executed = notes.executed ∧
      (note handle page w (.publish page contents) () notes).delivered = notes.delivered := by
    simp only [note]
    split <;> exact ⟨rfl, rfl⟩
  refine ⟨?_, ?_, ⟨_, hpages, rfl⟩, fun other worker hworker => ?_⟩
  · rw [hnote.1]
    exact h.executed
  · rw [hnote.2]
    exact h.delivered
  · rw [hscene] at hworker
    exact h.sole other worker hworker

/-- What is pending is executed when the session is notified. -/
theorem Scheduled.notify (h : notes.Scheduled handle page schedule (w.scene id))
    (quiet : w.started = 0)
    (hold : notes.Hold handle page earlier (w.scene id))
    (hproper : DeviceCall.Proper handle w (.notify handle)) :
    (note handle page w (.notify handle) (w.use (.notify handle)).1 notes).Scheduled handle page
      (schedule.step (.notify handle)) ((w.use (.notify handle)).2.scene id) := by
  obtain ⟨hheard, -⟩ := hproper rfl
  obtain ⟨worker, hired, halive, hpage, -⟩ := hold.exists_worker
  obtain ⟨p, hp, hunflagged, hready⟩ := hold.exists_page
  obtain ⟨p', hp', hpending⟩ := h.pending
  obtain rfl : p' = p := Option.some.inj (hp'.symm.trans hp)
  rw [← hready] at hpending
  rcases World.notified handle quiet with ⟨hidle, hnotify⟩ | ⟨found, hfound, hfinds, -, hexecuted⟩
  · -- no record is pending, so none is expected to be executed
    have hunready : (w.page page).ready = false := hpage ▸ hidle worker hheard hired halive
    rw [hunready, if_neg Bool.false_ne_true] at hpending
    rw [hnotify, ring_snd]
    simp only [note, hunready, Schedule.step, hpending]
    refine ⟨?_, h.delivered, ⟨p', hp, ?_⟩, h.sole⟩
    · simpa using h.executed
    · rw [← hready, hunready]
      rfl
  · -- the record that is pending is executed, and none is pending then
    obtain rfl : found = worker := Option.some.inj (hfound.symm.trans hired)
    obtain ⟨later, hlater, hkept, -⟩ := hexecuted.left
    obtain ⟨q, hq, hcleared⟩ := hexecuted.cleared
    rw [hpage] at hfinds hq
    rw [hfinds, if_pos rfl] at hpending
    simp only [note, hfinds, and_self, if_true, Schedule.step, hpending]
    refine ⟨?_, h.delivered, ⟨q.unflagged, congrArg (Option.map Page.unflagged) hq, ?_⟩,
      fun other rested hrested hlodged => ?_⟩
    · simp [h.executed, hunflagged]
    · rw [show q.unflagged.ready = false from hcleared]
      rfl
    · by_cases hown : other = handle
      · exact hown
      · rw [hexecuted.coworkers other hown] at hrested
        exact h.sole other rested hrested hlodged

/-- A wait delivers a completion if one is due. -/
theorem Scheduled.wait (h : notes.Scheduled handle page schedule (w.scene id))
    (hold : notes.Hold handle page earlier (w.scene id)) (limit : Option Nat) :
    (note handle page w (.wait handle limit) (w.use (.wait handle limit)).1 notes).Scheduled
      handle page (schedule.step (.wait handle limit))
      ((w.use (.wait handle limit)).2.scene id) := by
  have hexecuted : notes.executed.length = schedule.executed.length := by
    simpa using congrArg List.length h.executed
  have hscene : (w.use (.wait handle limit)).2.scene id = (w.scene id).drain handle :=
    w.restages_use (.wait handle limit)
  have hsole : ∀ other worker, ((w.scene id).drain handle).workers other = some worker →
      worker.page = page → other = handle := by
    intro other worker hworker hlodged
    by_cases hown : other = handle
    · exact hown
    · exact h.sole other worker ((if_neg hown).symm.trans hworker) hlodged
  rw [hscene]
  rcases hold.wait_cases limit with ⟨hall, hwait⟩ | ⟨e, he, hanswer⟩
  · -- nothing is queued, so nothing is due by the schedule
    have hnone : ¬ schedule.delivered < schedule.executed.length := by
      rw [← h.delivered, ← hexecuted]
      omega
    rw [hwait, note_wait_timeout, Schedule.step, if_neg hnone]
    exact ⟨h.executed, h.delivered, h.pending, hsole⟩
  · -- a completion is queued, so one is due by the schedule
    have hdue : schedule.delivered < schedule.executed.length := by
      rw [← h.delivered, ← hexecuted]
      exact (List.getElem?_eq_some_iff.1 he).1
    rw [hanswer, note_wait_answer, Schedule.step, if_pos hdue]
    refine ⟨h.executed, ?_, h.pending, hsole⟩
    simp [h.delivered]

/-- What is opened elsewhere, if it does not share the page, or closed elsewhere leaves what is
expected. -/
theorem Scheduled.assign (h : notes.Scheduled handle page schedule v) (other : Handle)
    {worker : Option (Worker κ)} (hlodged : ∀ later, worker = some later → later.page = page →
      other = handle ∨ ∃ before, v.workers other = some before ∧ before.page = page) :
    notes.Scheduled handle page schedule { v with toStaff := v.toStaff.assign other worker } := by
  refine h.congr rfl fun another later hlater hthere => ?_
  by_cases hassigned : another = other
  · subst hassigned
    exact hlodged later ((if_pos rfl).symm.trans hlater) hthere
  · exact .inr ⟨later, (if_neg hassigned).symm.trans hlater, hthere⟩

/-- A session that is notified elsewhere has a page of its own to write. -/
theorem Scheduled.notify_ne (h : notes.Scheduled handle page schedule (w.scene id))
    (quiet : w.started = 0) {other : Handle} (hne : other ≠ handle) :
    notes.Scheduled handle page schedule ((w.use (.notify other)).2.scene id) := by
  rcases World.notified other quiet with ⟨-, hnotify⟩ | ⟨found, hfound, -, -, hexecuted⟩
  · rw [hnotify, ring_snd]
    exact h
  · have hapart : page ≠ found.page := fun he => hne (h.sole other found hfound he.symm)
    refine h.congr (hexecuted.others page hapart) fun another later hlater hthere => ?_
    by_cases hnotified : another = other
    · subst hnotified
      obtain ⟨kept, hkept, hpage, -⟩ := hexecuted.left
      obtain rfl : kept = later := Option.some.inj (hkept.symm.trans hlater)
      exact .inr ⟨found, hfound, hpage.symm.trans hthere⟩
    · rw [hexecuted.coworkers another hnotified] at hlater
      exact .inr ⟨later, hlater, hthere⟩

/-- A call about the session does what is expected, and another one has no part in it unless it
shares the page. -/
theorem scheduled_use (h : notes.Scheduled handle page schedule (w.scene id))
    (hold : notes.Hold handle page earlier (w.scene id)) (quiet : w.started = 0)
    {call : DeviceCall} (hproper : call.Proper handle w) (helsewhere : call.Elsewhere page) :
    (note handle page w call (w.use call).1 notes).Scheduled handle page
      (if call.concerns handle page then schedule.step call else schedule)
      ((w.use call).2.scene id) := by
  have hscene := w.restages_use call
  cases call with
  | openSession destination login lodging =>
    generalize w.use (.openSession destination login lodging) = opened at hscene ⊢
    obtain ⟨e | other, after⟩ := opened
    · rw [show after.scene id = _ from hscene]
      exact h
    · obtain ⟨worker, hstarts, hscene⟩ := hscene
      rw [show after.scene id = _ from hscene]
      -- the new worker has a page elsewhere
      refine h.assign other fun later hlater hthere => absurd ?_ helsewhere
      obtain rfl := Option.some.inj hlater
      exact hstarts.page.symm.trans hthere
  | closeSession other =>
    rw [show (w.use (.closeSession other)).2.scene id = _ from hscene]
    exact h.assign other nofun
  | map other address len access =>
    generalize w.use (.map other address len access) = mapped at hscene ⊢
    obtain ⟨e | info, after⟩ := mapped <;>
    · rw [show after.scene id = _ from hscene]
      exact h
  | unmap other address info | errorCode other | arm faults =>
    rw [show (w.use _).2.scene id = w.scene id from hscene]
    exact h
  | publish lodging contents =>
    by_cases hpage : lodging = page
    · subst hpage
      simpa [DeviceCall.concerns] using h.publish contents
    · rw [show (w.use (.publish lodging contents)).2.scene id = _ from hscene]
      have hkept : notes.Scheduled handle page schedule
          ((w.scene id).onPage lodging fun _ => contents.unflagged) :=
        h.congr (if_neg (Ne.symm hpage)) fun other worker hworker hthere =>
          .inr ⟨worker, hworker, hthere⟩
      simpa [note, hpage, DeviceCall.concerns] using hkept
  | notify other =>
    by_cases hown : other = handle
    · subst hown
      simpa [DeviceCall.concerns] using h.notify quiet hold hproper
    · simpa [note, hown, DeviceCall.concerns] using h.notify_ne quiet hown
  | wait other limit =>
    by_cases hown : other = handle
    · subst hown
      simpa [DeviceCall.concerns] using h.wait hold limit
    · -- what another session drains are the completions of its own worker, which keeps its page
      rw [note_wait_ne hown, show (w.use (.wait other limit)).2.scene id = _ from hscene]
      have hkept : notes.Scheduled handle page schedule ((w.scene id).drain other) := by
        refine h.assign other fun later hlater hthere => ?_
        obtain ⟨before, hbefore, rfl⟩ := Option.map_eq_some_iff.1 hlater
        exact .inr ⟨before, hbefore, hthere⟩
      simpa [DeviceCall.concerns, hown] using hkept

/-- Calls that are proper come to what is expected from those about the session. -/
theorem scheduled_useAll (h : notes.Scheduled handle page schedule (w.scene id))
    (hold : notes.Hold handle page earlier (w.scene id)) (quiet : w.started = 0)
    {calls : List DeviceCall} (hproper : World.Proper handle calls w)
    (helsewhere : ∀ call ∈ calls, call.Elsewhere page) :
    Scheduled handle page
      ((calls.filter fun call => call.concerns handle page).foldl Schedule.step schedule)
      (World.useAll (note handle page) calls (w, notes)).2
      ((World.useAll (note handle page) calls (w, notes)).1.scene id) := by
  induction calls generalizing w notes schedule with
  | nil => exact h
  | cons call rest ih =>
    have hcall := scheduled_use h hold quiet hproper.1 (helsewhere call (List.mem_cons_self ..))
    have hrest := ih hcall (hold_use hold quiet hproper.1)
      (Nat.le_zero.1 (quiet ▸ w.started_use call)) hproper.2 fun other hother =>
      helsewhere other (List.mem_cons_of_mem _ hother)
    by_cases hconcerns : call.concerns handle page = true
    · rw [List.filter_cons_of_pos hconcerns, List.foldl_cons]
      rw [if_pos hconcerns] at hrest
      exact hrest
    · rw [List.filter_cons_of_neg hconcerns]
      rw [if_neg hconcerns] at hrest
      exact hrest

/-- Nothing but the record in the page is to be expected of a session that was just opened on a page
of its own. -/
theorem scheduled_start {opened : World (SecureWorld κ)} {destination : Uuid} {login : Login}
    (hopened : w.use (.openSession destination login page) = (.ok handle, opened))
    (there : (w.pages.get? page).isSome = true)
    (hsole : ∀ other worker, w.driver.sessions.get? other = some worker → worker.page = page →
      other = handle) :
    (start (opened.page page)).Scheduled handle page (.start (opened.page page))
      (opened.scene id) := by
  have hold := hold_start hopened there
  obtain ⟨p, hp, hunflagged, hready⟩ := hold.exists_page
  have hscene := w.restages_use (.openSession destination login page)
  rw [hopened] at hscene
  obtain ⟨worker, -, hscene⟩ := hscene
  refine ⟨rfl, rfl, ⟨p, hp, ?_⟩, fun other rested hrested hlodged => ?_⟩
  · rw [Schedule.start, hready, hunflagged]
  · by_cases hown : other = handle
    · exact hown
    · rw [show opened.scene id = _ from hscene] at hrested
      exact hsole other rested ((if_neg hown).symm.trans hrested) hlodged

end SessionLog

/-- A session that was opened keeps notifications and completions in step, whatever is done with it
and elsewhere by calls that are proper. A notification executes the record in the page if, and only
if, it is published, and clears the mark; so of the records published each is executed at most once,
in the order in which they were published, and the entry points that have run for the session are
those that the records executed ask for. The waits have delivered the completions of the records
executed, in that order: each tells of an error code exactly if one was armed when its record was
executed. A wait ends by its limit exactly if all of them were delivered, and then it only counts.
The notifications are those of the device's user: no call of a client is under way that an
application could cancel.

Which records were executed, and how many completions were delivered, is decided by the calls about
the session alone, if no other session has its page. -/
theorem signals_in_order {w opened : World (SecureWorld κ)} {destination : Uuid} {login : Login}
    {page : PageId} {handle : Handle}
    (hopened : w.use (.openSession destination login page) = (.ok handle, opened))
    (there : (w.pages.get? page).isSome = true) (quiet : w.started = 0) {calls : List DeviceCall}
    (proper : World.Proper handle calls opened) {reached : World (SecureWorld κ)}
    {notes : SessionLog} (led : World.useAll (SessionLog.note handle page) calls
      (opened, .start (opened.page page)) = (reached, notes)) :
    -- what was executed and delivered so far
    List.Sublist (notes.executed.map fun e => e.record.unflagged)
      (notes.published.map Page.unflagged) ∧
    (reached.driver.runs.filter fun run => run.handle = handle).reverse
      = (opened.driver.runs.filter fun run => run.handle = handle).reverse
        ++ notes.runs handle page ∧
    notes.delivered <+: (notes.executed.map fun e => e.completion.answer) ∧
    -- the next notification
    (DeviceCall.Proper handle reached (.notify handle) → ∃ worker,
      reached.driver.sessions.get? handle = some worker ∧
      (reached.use (.notify handle)).1 = .ok () ∧
      if (reached.page page).ready then
        World.Executed handle worker reached (reached.use (.notify handle)).2
      else (reached.use (.notify handle)).2
        = reached.withDriver (ring handle reached.driver).2) ∧
    -- the next wait
    (∀ limit, DeviceCall.Proper handle reached (.wait handle limit) →
      ((reached.use (.wait handle limit)).1 = .error .timeout
        ↔ notes.delivered.length = notes.executed.length) ∧
      ((reached.use (.wait handle limit)).1 = .error .timeout →
        (reached.use (.wait handle limit)).2
          = reached.withDriver (reached.driver.count fun n => { n with waits := n.waits + 1 })) ∧
      ∀ e, notes.executed[notes.delivered.length]? = some e →
        (reached.use (.wait handle limit)).1 = e.completion.answer) ∧
    -- the other sessions
    ((∀ other worker, w.driver.sessions.get? other = some worker → worker.page = page →
        other = handle) →
      (∀ call ∈ calls, call.Elsewhere page) →
      let schedule := (calls.filter fun call => call.concerns handle page).foldl Schedule.step
        (.start (opened.page page))
      (notes.executed.map fun e => e.record.unflagged) = schedule.executed ∧
        notes.delivered.length = schedule.delivered) := by
  have hstart := SessionLog.hold_start hopened there
  have hopening : opened.started = 0 := by
    have hle := w.started_use (.openSession destination login page)
    rw [hopened, quiet] at hle
    exact Nat.le_zero.1 hle
  have hquiet : (World.useAll (SessionLog.note handle page) calls
      (opened, .start (opened.page page))).1.started = 0 := by
    refine World.useAll_preserves (P := fun w _ => w.started = 0) (fun w _ call hq => ?_) calls
      hopening
    exact Nat.le_zero.1 (hq ▸ w.started_use call)
  have hhold := SessionLog.hold_useAll hstart hopening proper
  have hscheduled := fun hsole helsewhere => SessionLog.scheduled_useAll
    (SessionLog.scheduled_start hopened there hsole) hstart hopening proper helsewhere
  rw [led] at hquiet hhold hscheduled
  replace hhold : notes.Hold handle page _ (reached.scene id) := hhold
  obtain ⟨worker, hired, halive, hpage, hqueue⟩ := hhold.exists_worker
  refine ⟨?_, hhold.ran, ⟨_, hqueue⟩, fun hproper => ?_, fun limit _ => ?_,
    fun hsole helsewhere => ?_⟩
  · obtain ⟨p, -, honce⟩ := hhold.once
    exact (List.sublist_append_left _ _).trans honce
  · obtain ⟨hheard, -⟩ := hproper rfl
    refine ⟨worker, hired, ?_⟩
    rcases World.notified handle hquiet with
      ⟨hidle, hnotify⟩ | ⟨found, hfound, hready, hok, hexecuted⟩
    · have hunready : (reached.page page).ready = false := hpage ▸ hidle worker hheard hired halive
      rw [hnotify, hunready, if_neg Bool.false_ne_true]
      exact ⟨congrArg Prod.fst (ring_of_alive hheard hired halive), rfl⟩
    · obtain rfl : found = worker := Option.some.inj (hfound.symm.trans hired)
      rw [← hpage, hready, if_pos rfl]
      exact ⟨hok, hexecuted⟩
  · rcases hhold.wait_cases limit with ⟨hall, hwait⟩ | ⟨e, he, hanswer⟩
    · rw [hwait]
      refine ⟨iff_of_true rfl hall, fun _ => rfl, fun e he => ?_⟩
      rw [hall] at he
      simp at he
    · have hdue := (List.getElem?_eq_some_iff.1 he).1
      have hdelivers : e.completion.answer ≠ .error .timeout := e.completion.answer_ne_timeout
      rw [hanswer]
      refine ⟨iff_of_false hdelivers (by omega), fun htimeout => absurd htimeout hdelivers,
        fun other hother => ?_⟩
      rw [Option.some.inj (he.symm.trans hother)]
  · exact ⟨(hscheduled hsole helsewhere).executed, (hscheduled hsole helsewhere).delivered⟩

/-! Two sessions that are notified in turns. -/

namespace Turns

/-- An application that counts its commands. -/
def app : App Nat where
  initial := 0
  opening n := .finish (.ok ()) n
  command _ n := .finish (.ok ()) (n + 1)
  closing n := .finish (.ok ()) n

/-- The application installed, two pages, and one session open on the second of them. -/
def start : World (SecureWorld Nat) :=
  (World.use { World.start (.start (Table.ofList [(.nil, app)])) with
    pages := (Arena.empty.add .blank).add .blank } (.openSession .nil ⟨0, 0⟩ 1)).2

/-- Another session is opened on the first page. -/
def opened : World (SecureWorld Nat) := (start.use (.openSession .nil ⟨0, 0⟩ 0)).2

/-- A record that asks for a command. -/
def record (command : UInt32) : Page :=
  ((Page.blank.setInstruction Instruction.invokeCommand.raw).setCommand command).setReady true

/-- A record of no known instruction. -/
def stray : Page := (Page.blank.setInstruction 9).setReady true

/-- Two records are published for that session and executed, the second while an error code is
armed; there are notifications that find nothing, a record of the other session is executed, and one
completion is delivered. -/
def calls : List DeviceCall :=
  [.publish 0 (record 7), .publish 1 (record 5), .notify 2, .notify 1, .notify 2,
    .publish 0 stray, .arm ⟨none, none, none, false, some 3, none⟩, .notify 2, .wait 2 none]

/-- The calls are proper for that session. -/
theorem proper : World.Proper 2 calls opened :=
  ⟨trivial, trivial, fun _ => ⟨rfl, by decide +kernel⟩, nofun, fun _ => ⟨rfl, by decide +kernel⟩,
    trivial, trivial, fun _ => ⟨rfl, by decide +kernel⟩, fun _ => by decide +kernel, trivial⟩

/-- The world that the calls lead to, and the notes of the session's user. -/
def reached : World (SecureWorld Nat) × SessionLog :=
  World.useAll (SessionLog.note 2 0) calls (opened, .start (opened.page 0))

end Turns

/-- Both records were executed, each once. The completion of the second is delivered next, and tells
of the error code. -/
theorem signals_in_order_turns :
    Turns.reached.2.executed = [⟨Turns.record 7, false⟩, ⟨Turns.stray, true⟩] ∧
    (Turns.reached.1.use (.wait 2 (some 10))).1 = .error .infoNotification := by
  have hexecuted : Turns.reached.2.executed = [⟨Turns.record 7, false⟩, ⟨Turns.stray, true⟩] := by
    decide +kernel
  have hdelivered : Turns.reached.2.delivered.length = 1 := by decide +kernel
  obtain ⟨-, -, -, -, hwait, -⟩ :=
    signals_in_order (show Turns.start.use (.openSession .nil ⟨0, 0⟩ 0) = (.ok 2, Turns.opened)
      from rfl) rfl rfl Turns.proper (show _ = (Turns.reached.1, Turns.reached.2) from rfl)
  refine ⟨hexecuted, (hwait (some 10) trivial).2.2 ⟨Turns.stray, true⟩ ?_⟩
  rw [hexecuted, hdelivered]
  rfl

end TeeClient

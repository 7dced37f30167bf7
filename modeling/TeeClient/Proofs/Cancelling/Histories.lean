import TeeClient.Proofs.Cancelling

/-!
# Histories of an operation

Sessions take an operation up, the calls that carry it return, and holders of its tokens ask for it
to be cancelled. `Happening` is such an event. A `World.Course` leads through events of one
operation in any order, with anything between them that leaves its lifecycle alone: so a request may
be made while sessions are notified on behalf of other operations. The course collects the history
of the operation, the latest event first, and says of each request to cancel which session it
signals.

Main statements:

* `Happening.Orderly`: each signal goes to the session that took the operation up right before it,
  which `orderly_course` proves of every course;
* `World.Course.honoured`: a request by a token of the operation is such an event;
* `Call.course_carry`: a call takes the operation that it carries through such a course;
* `lifecycles_follow_histories`: progress, target and origin of an operation, and the sessions that
  are signalled on its behalf, as its history says.
-/

namespace TeeClient

variable {σ : Type} {D : Driver σ}

/-- Something that happens to an operation. -/
inductive Happening
  /-- A session takes it up. -/
  | begun (session : ChannelId)
  /-- The call that carried it returns. -/
  | finished (origin : Origin)
  /-- The holder of a token asks for it to be cancelled, which signals a session or none. -/
  | cancelled (signalled : Option ChannelId)
  deriving DecidableEq, Repr

namespace Happening

/-- Whether a session takes the operation up. -/
def begins : Happening → Bool
  | begun _ => true
  | _ => false

/-- Whether something that happened is a request to cancel. -/
def cancels : Happening → Bool
  | cancelled _ => true
  | _ => false

/-- The session that is signalled. -/
def signalled? : Happening → Option ChannelId
  | cancelled signalled => signalled
  | _ => none

/-- The layer that answered the call that returns. -/
def origin? : Happening → Option Origin
  | finished origin => some origin
  | _ => none

/-- Whatever signals a session comes right after that session took the operation up. The latest
event comes first. -/
def Orderly : List Happening → Prop
  | [] => True
  | event :: earlier =>
    (∀ session, event.signalled? = some session → earlier.head? = some (.begun session)) ∧
      Orderly earlier

variable {since earlier before : List Happening} {event : Happening} {session : ChannelId}

/-- The part of an orderly history that came earlier is orderly. -/
theorem Orderly.of_append (h : Orderly (since ++ earlier)) : Orderly earlier := by
  induction since with
  | nil => exact h
  | cons event since ih => exact ih h.2

/-- As long as no session takes the operation up, none is signalled, unless one took it up right
before. -/
theorem Orderly.silent (h : Orderly (since ++ earlier))
    (hsince : ∀ event ∈ since, event.begins = false)
    (hearlier : ∀ session, earlier.head? ≠ some (.begun session)) :
    since.filterMap signalled? = [] := by
  induction since with
  | nil => rfl
  | cons event since ih =>
    have hrest : since.filterMap signalled? = [] :=
      ih h.2 fun other hother => hsince other (List.mem_cons_of_mem _ hother)
    cases hsignalled : event.signalled? with
    | none => simpa [hsignalled] using hrest
    | some session =>
      -- the event before is a beginning, which is neither among `since` nor the last before it
      have hbegun : (since ++ earlier).head? = some (.begun session) := h.1 session hsignalled
      cases since with
      | nil => exact absurd hbegun (hearlier session)
      | cons latest since =>
        have hlatest : latest = .begun session := by simpa using hbegun
        have hnot : latest.begins = false := hsince latest (by simp)
        simp [hlatest, begins] at hnot

/-- Since a session took the operation up, at most one signal was sent, and it went to that
session. -/
theorem Orderly.signals_since (h : Orderly (since ++ .begun session :: before))
    (hsince : ∀ event ∈ since, event.begins = false) :
    since.filterMap signalled? = [] ∨ since.filterMap signalled? = [session] := by
  -- only the first event since then can have sent a signal
  rcases List.eq_nil_or_concat since with rfl | ⟨later, first, rfl⟩
  · exact .inl rfl
  rw [List.concat_eq_append] at h hsince ⊢
  have hfirst : first.begins = false := hsince first (by simp)
  have hlater : later.filterMap signalled? = [] := by
    rw [List.append_assoc] at h
    refine h.silent (fun event hevent => hsince event (by simp [hevent])) fun other hother => ?_
    have : first = .begun other := by simpa using hother
    simp [this, begins] at hfirst
  cases hsignalled : first.signalled? with
  | none => simp [hlater, hsignalled]
  | some other =>
    rw [List.append_assoc] at h
    have hbegun : Happening.begun session = .begun other := by
      simpa using h.of_append.1 other hsignalled
    cases hbegun
    simp [hlater, hsignalled]

end Happening

open Happening

namespace World

/-- The session that a request to cancel an operation signals now. -/
def signalled? (w : World σ) (id : LifecycleId) : Option ChannelId :=
  match ((w.lifecycles.get? id).getD .new).cancel.1 with
  | .due target => target
  | _ => none

/-- Courses that the life of an operation may take from a world on, with what happens to it, the
latest event first. -/
inductive Course (id : LifecycleId) (w : World σ) : List Happening → World σ → Prop
  | start : Course id w [] w
  /-- Anything happens that has nothing to do with the operation. -/
  | elsewhere {history : List Happening} {w₁ w₂ : World σ} (course : Course id w history w₁)
    (kept : w₂.lifecycles.get? id = w₁.lifecycles.get? id) : Course id w history w₂
  | begun {history : List Happening} {w₁ : World σ} (course : Course id w history w₁)
    (session : ChannelId) :
    Course id w (.begun session :: history) (w₁.onLifecycle id (·.begin session))
  | finished {history : List Happening} {w₁ : World σ} (course : Course id w history w₁)
    (origin : Origin) :
    Course id w (.finished origin :: history) (w₁.onLifecycle id (·.finish origin))
  /-- A request reaches the operation, by any token of it and whenever it is made. -/
  | cancelled {history : List Happening} {w₁ : World σ} (course : Course id w history w₁) :
    Course id w (.cancelled (w₁.signalled? id) :: history) (w₁.cancelled id)

variable {id : LifecycleId} {w w' : World σ} {history : List Happening}

/-- A lifecycle that is changed stands as it was changed, if it was handed out. -/
theorem get?_onLifecycle {l : Lifecycle} (h : w.lifecycles.get? id = some l)
    (f : Lifecycle → Lifecycle) : (w.onLifecycle id f).lifecycles.get? id = some (f l) := by
  simp [onLifecycle, Arena.get?_modify, h]

/-- A request by a token of an operation does what it does to the lifecycle alone. -/
theorem get?_honour {token : String} (named : w.tokens.get? token = some id) :
    (w.honour D token).2.lifecycles.get? id = (w.cancelled id).lifecycles.get? id := by
  rw [honour_eq_cancelCall, named]
  simp only
  by_cases hp : w.progress id = .started
  · obtain ⟨l, hl, hp⟩ := get?_of_started hp
    have hreached : (w.cancelled id).Reached (w.cancelCall D id) := by
      unfold cancelCall
      rw [cancelWith_of_started D (honour D) hl hp]
      have htol := tolerates_reached D
      cases l.target with
      | none => exact htol.logged _ _ rfl
      | some session => exact htol.signal htol.honour session _
    -- what is asked for while the session is notified comes too late
    rcases hreached id with hsame | hagain
    · exact hsame
    · rw [hagain, get?_lifecycles_cancelled, if_pos rfl, Option.map_map]
      exact congrArg (Option.map · _) (funext Lifecycle.cancel_cancel)
  · obtain ⟨journal, he⟩ := cancelWith_of_not_started D (honour D) hp
    rw [show w.cancelCall D id = _ from he, get?_lifecycles_cancelled, if_pos rfl]
    -- the lifecycle is replaced by itself
    cases hl : w.lifecycles.get? id with
    | none => rfl
    | some l =>
      have hp : l.progress ≠ .started := fun hstarted => hp (by simp [progress, hl, hstarted])
      rw [Option.map_some, Lifecycle.cancel_of_not_started hp]

/-- A request by a token of an operation happens to it. What is asked for in turn, while the session
is notified that carries it, comes too late. -/
theorem Course.honoured {w₁ : World σ} (course : Course id w history w₁) (D : Driver σ)
    {token : String} (named : w₁.tokens.get? token = some id) {signalled : Option ChannelId}
    (hsignalled : w₁.signalled? id = signalled) :
    Course id w (.cancelled signalled :: history) (w₁.honour D token).2 :=
  hsignalled ▸ course.cancelled.elsewhere (get?_honour named)

end World

namespace Lifecycle

/-- A lifecycle stands as its history says. -/
structure Stands (history : List Happening) (l : Lifecycle) : Prop where
  attached : l.WellFormed
  /-- A session that is attached took the operation up, and nothing happened since. -/
  target : ∀ session, l.target = some session → history.head? = some (.begun session)
  /-- The origin is that of the call that returned last. -/
  origin : l.origin = history.findSome? Happening.origin?

variable {history : List Happening} {l : Lifecycle}

/-- A lifecycle that is not started has no target. -/
theorem WellFormed.target_eq_none (h : l.WellFormed) (hp : l.progress ≠ .started) :
    l.target = none := by
  cases ht : l.target with
  | none => rfl
  | some session => exact absurd (h.1 (by simp [ht])) hp

namespace Stands

/-- A lifecycle that is new has no history. -/
theorem new : Lifecycle.new.Stands [] :=
  ⟨wellFormed_new, nofun, rfl⟩

/-- The session that takes the operation up is attached. -/
theorem begin (h : l.Stands history) (session : ChannelId) :
    (l.begin session).Stands (.begun session :: history) where
  attached := wellFormed_begin l session
  target _ hattached := congrArg (Option.map Happening.begun) hattached
  origin := h.origin

/-- The origin of the call that returns is kept, and nothing else. -/
theorem finish (_ : l.Stands history) (origin : Origin) :
    (l.finish origin).Stands (.finished origin :: history) where
  attached := wellFormed_finish l origin
  target := nofun
  origin := rfl

/-- After a request to cancel no session is attached. -/
theorem cancel (h : l.Stands history) (signalled : Option ChannelId) :
    l.cancel.2.Stands (.cancelled signalled :: history) where
  attached := h.attached.cancel
  target session hsession := by
    have hnone : l.cancel.2.target = none := h.attached.cancel.target_eq_none l.progress_cancel
    simp [hnone] at hsession
  origin := by
    rw [origin_cancel, h.origin]
    rfl

end Stands

end Lifecycle

namespace World

variable {id : LifecycleId} {w w' : World σ} {history : List Happening} {l : Lifecycle}

/-- A request to cancel an operation that is not started signals no session. -/
theorem signalled?_of_not_started (hl : w.lifecycles.get? id = some l)
    (hp : l.progress ≠ .started) : w.signalled? id = none := by
  cases hprogress : l.progress with
  | started => exact absurd hprogress hp
  | notStarted | finished => simp [signalled?, hl, Lifecycle.cancel, hprogress]

/-- A request to cancel an operation that is started signals the session that is attached. -/
theorem signalled?_of_started (hl : w.lifecycles.get? id = some l)
    (hp : l.progress = .started) : w.signalled? id = l.target := by
  simp [signalled?, hl, Lifecycle.cancel, hp]

/-- The lifecycle stands as the course says that the world was led through, and that course is
orderly. -/
theorem orderly_course (new : w.lifecycles.get? id = some .new)
    (course : Course id w history w') :
    Orderly history ∧ ∃ l, w'.lifecycles.get? id = some l ∧ l.Stands history := by
  induction course with
  | start => exact ⟨trivial, _, new, .new⟩
  | elsewhere course kept ih =>
    obtain ⟨horderly, l, hl, hstands⟩ := ih
    exact ⟨horderly, l, kept.trans hl, hstands⟩
  | begun course session ih =>
    obtain ⟨horderly, l, hl, hstands⟩ := ih
    exact ⟨⟨nofun, horderly⟩, _, get?_onLifecycle hl _, hstands.begin session⟩
  | finished course origin ih =>
    obtain ⟨horderly, l, hl, hstands⟩ := ih
    exact ⟨⟨nofun, horderly⟩, _, get?_onLifecycle hl _, hstands.finish origin⟩
  | @cancelled history w₁ course ih =>
    obtain ⟨horderly, l, hl, hstands⟩ := ih
    refine ⟨⟨fun session hsession => ?_, horderly⟩, _, get?_onLifecycle hl _, hstands.cancel _⟩
    -- a request that signals a session finds the operation started
    have hsignalled : w₁.signalled? id = some session := hsession
    by_cases hp : l.progress = .started
    · rw [signalled?_of_started hl hp] at hsignalled
      exact hstands.target session hsignalled
    · simp [signalled?_of_not_started hl hp] at hsignalled

end World

namespace Call

/-- A call takes the operation that it carries through a course. A session takes it up first and
the call returns last; in between it may be asked to be cancelled, if its lifecycle is kept. -/
theorem course_carry {op : Operation} {w w₁ : World σ} {history : List Happening}
    (course : World.Course op.lifecycle w history w₁) (id : ChannelId) (channel : Channel)
    (instruction : Instruction) (command : UInt32) :
    let e := carry D id channel instruction command (some op) w₁
    ∃ requests, (∀ event ∈ requests, event.cancels = true) ∧
      World.Course op.lifecycle w
        (.finished (originOf e.result) :: (requests ++ .begun id :: history)) e.world := by
  let Led (w' : World σ) : Prop := ∃ requests, (∀ event ∈ requests, event.cancels = true) ∧
    World.Course op.lifecycle w (requests ++ .begun id :: history) w'
  have hsame : ∀ w₂ w₃ : World σ,
      w₃.lifecycles.get? op.lifecycle = w₂.lifecycles.get? op.lifecycle → Led w₂ → Led w₃ :=
    fun _ _ hsame ⟨requests, hrequests, hcourse⟩ =>
      ⟨requests, hrequests, hcourse.elsewhere hsame⟩
  -- each request is one to the operation, or has nothing to do with it
  have htolerates : World.Tolerates D fun w₂ w₃ => Led w₂ → Led w₃ := by
    refine World.tolerates_of_withShared (fun _ h => h) (fun _ _ _ hab hbc h => hbc (hab h))
      (fun w₂ _ => hsame w₂ _ rfl) fun w₂ other hled => ?_
    by_cases hother : op.lifecycle = other
    · obtain ⟨requests, hrequests, hcourse⟩ := hled
      refine hother ▸ ⟨_ :: requests, ?_, hcourse.cancelled⟩
      simpa [Happening.cancels] using hrequests
    · refine hsame w₂ _ ?_ hled
      rw [World.get?_lifecycles_cancelled, if_neg hother]
  have hlives : World.OfLives D Led :=
    ⟨fun w₂ w₃ hl => hsame w₂ w₃ (by rw [hl]), htolerates.honour⟩
  obtain ⟨requests, hrequests, hcourse⟩ :=
    hlives.roundTrip id channel instruction command (some op) ⟨[], by simp, course.begun id⟩
  exact ⟨requests, hrequests, hcourse.finished _⟩

end Call

/-- Whatever happens to an operation from its making on, in any order and with anything in between
that leaves its lifecycle: a session is attached to it exactly while it is started, and its origin
is that of the call that returned last, if one did, whatever requests to cancel there were. From
when a session takes it up until the next one does, one session at most is signalled, which is that
session; none is between the return of a call and the next beginning, nor before the first.

The next request by any token of it signals the session that is attached, if the operation is
started. If it is not started yet or finished, the request signals none and is entered in the
journal, and that is all. -/
theorem lifecycles_follow_histories {id : LifecycleId} {w w' : World σ} {history : List Happening}
    (new : w.lifecycles.get? id = some .new) (course : World.Course id w history w') :
    ∃ l, w'.lifecycles.get? id = some l ∧
      (l.target.isSome ↔ l.progress = .started) ∧
      l.origin = history.findSome? Happening.origin? ∧
      -- the signals so far
      (∀ later since session before, history = later ++ (since ++ .begun session :: before) →
        (∀ event ∈ since, event.begins = false) →
        since.filterMap signalled? = [] ∨ since.filterMap signalled? = [session]) ∧
      (∀ later since origin before, history = later ++ (since ++ .finished origin :: before) →
        (∀ event ∈ since, event.begins = false) → since.filterMap signalled? = []) ∧
      (∀ later since, history = later ++ since →
        (∀ event ∈ since, event.begins = false) → since.filterMap signalled? = []) ∧
      -- the next request
      ∀ token, w'.tokens.get? token = some id →
        match l.progress with
        | .started => ∃ session, l.target = some session ∧ w'.signalled? id = some session ∧
          (w'.honour D token).2 = (w'.cancelled id).signal D (World.honour D) session
        | .notStarted | .finished => w'.signalled? id = none ∧
          ∃ journal, (w'.honour D token).2 = { w' with journal } := by
  obtain ⟨horderly, l, hl, hstands⟩ := World.orderly_course new course
  refine ⟨l, hl, hstands.attached, hstands.origin, ?_, ?_, ?_, fun token named => ?_⟩
  · rintro later since session before rfl hsince
    exact horderly.of_append.signals_since hsince
  · rintro later since origin before rfl hsince
    exact horderly.of_append.silent hsince (by simp)
  · rintro later since rfl hsince
    have hnone : Orderly (since ++ []) := by simpa using horderly.of_append
    exact hnone.silent hsince (by simp)
  · -- what a request does goes by the progress
    have hidle : l.progress ≠ .started → w'.signalled? id = none ∧
        ∃ journal, (w'.honour D token).2 = { w' with journal } := by
      intro hp
      refine ⟨World.signalled?_of_not_started hl hp, World.honour_of_not_due D ?_⟩
      rintro ⟨other, hother, hstarted⟩
      cases named.symm.trans hother
      exact hp (by simpa [World.progress, hl] using hstarted)
    cases hprogress : l.progress with
    | notStarted => exact hidle (by simp [hprogress])
    | finished => exact hidle (by simp [hprogress])
    | started =>
      obtain ⟨session, htarget⟩ := Option.isSome_iff_exists.1 (hstands.attached.2 hprogress)
      exact ⟨session, htarget, (World.signalled?_of_started hl hprogress).trans htarget,
        World.honour_of_started D named hl hprogress htarget⟩

/-! An operation that two sessions carry in turn, with two tokens of it about. -/

namespace Reused

/-- A world with one operation, which has two tokens. -/
def start : World (SecureWorld Unit) := { World.start (.start .empty) with
  lifecycles := Arena.empty.add .new
  tokens := Table.ofList [("first", 0), ("second", 0)] }

/-- A request by a token. -/
def asked (token : String) (w : World (SecureWorld Unit)) : World (SecureWorld Unit) :=
  (w.honour SecureWorld.driver token).2

/-- The first session takes the operation up, and both tokens ask it to abandon the call. -/
def abandoned : World (SecureWorld Unit) :=
  asked "first" (asked "second" ((asked "first" start).onLifecycle 0 (·.begin 4)))

/-- The call of the first session has returned. -/
def returned : World (SecureWorld Unit) := abandoned.onLifecycle 0 (·.finish .trustedApp)

/-- The second session was asked to abandon the call, after a request that came too late. -/
def reached : World (SecureWorld Unit) :=
  asked "second" ((asked "second" returned).onLifecycle 0 (·.begin 7))

/-- What happened to the operation. -/
def history : List Happening :=
  [.cancelled (some 7), .begun 7, .cancelled none, .finished .trustedApp, .cancelled none,
    .cancelled (some 4), .begun 4, .cancelled none]

/-- The request of a token is an event of the course. -/
theorem course_asked {history : List Happening} {w : World (SecureWorld Unit)}
    (course : World.Course 0 start history w) (token : String) {signalled : Option ChannelId}
    (h : w.tokens.get? token = some 0 ∧ w.signalled? 0 = signalled) :
    World.Course 0 start (.cancelled signalled :: history) (asked token w) :=
  course.honoured SecureWorld.driver h.1 h.2

/-- What happened to the operation is a course. -/
theorem course : World.Course 0 start history reached := by
  have habandoned : World.Course 0 start (history.drop 4) abandoned :=
    course_asked (course_asked (.begun (course_asked .start "first" (by decide +kernel)) 4)
      "second" (by decide +kernel)) "first" (by decide +kernel)
  exact course_asked (.begun (course_asked (w := returned) (.finished habandoned .trustedApp)
    "second" (by decide +kernel)) 7) "second" (by decide +kernel)

end Reused

/-- Since the first session took it up, no session but that one was signalled before the second did.
The operation is finished since the last request, and the next one changes nothing. -/
theorem lifecycles_follow_histories_reused :
    Reused.start.lifecycles.get? 0 = some .new ∧
    World.Course 0 Reused.start Reused.history Reused.reached ∧
    ∃ l, Reused.reached.lifecycles.get? 0 = some l ∧
      l.progress = .finished ∧ l.origin = some .trustedApp ∧
      (Reused.history.drop 2).take 4
        = [.cancelled none, .finished .trustedApp, .cancelled none, .cancelled (some 4)] ∧
      (((Reused.history.drop 2).take 4).filterMap signalled? = [] ∨
        ((Reused.history.drop 2).take 4).filterMap signalled? = [4]) ∧
      ∃ journal, (Reused.reached.honour SecureWorld.driver "first").2
        = { Reused.reached with journal } := by
  have hnew : Reused.start.lifecycles.get? 0 = some .new := by decide +kernel
  have hfinished : Reused.reached.lifecycles.get? 0
      = some ⟨.finished, none, some .trustedApp⟩ := by decide +kernel
  obtain ⟨l, hl, -, -, hsignals, -, -, hnext⟩ :=
    lifecycles_follow_histories (D := SecureWorld.driver) hnew Reused.course
  cases hfinished.symm.trans hl
  refine ⟨hnew, Reused.course, _, hl, rfl, rfl, rfl, ?_, ?_⟩
  · exact hsignals (Reused.history.take 2) _ 4 (Reused.history.drop 7) rfl (by decide)
  · exact (hnext "first" (by decide +kernel)).2

end TeeClient

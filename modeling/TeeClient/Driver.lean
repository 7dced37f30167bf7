import TeeClient.Driver.Basic
import TeeClient.Journal
import TeeClient.Memory

/-!
# Drivers

A `Driver` is what the client library is written against: the primitives that open sessions with a
secure world, map buffers into it and signal it. Its state has a type `σ` of its own; the library
does not look into it.

What a primitive may touch is part of its type. Most see a `Desk`: the driver's own state and the
journal. `notify` and `wait` also see the pages and the client's memory (`Shared`), because the
secure world runs while they do.

Code behind a primitive may hold a cancellation token and use it. It then stops in the middle with
`Reply.cancel` and goes on when the client has carried the request out. To carry it out, the client
may notify the session again, with the pages in reach; a `Purpose` says on whose behalf.
-/

namespace TeeClient

/-- The number of a page. -/
abbrev PageId := Nat

/-- What every primitive of a driver may touch. -/
structure Desk (σ : Type) where
  /-- The driver's own state. -/
  driver : σ
  /-- What happened so far. -/
  journal : Journal

/-- What the secure world may touch when it runs. -/
structure Shared (σ : Type) where
  /-- The driver's own state. -/
  driver : σ
  /-- What happened so far. -/
  journal : Journal
  /-- The pages shared with sessions. -/
  pages : Arena Page
  /-- The client's memory. -/
  memory : Memory

namespace Desk

variable {σ : Type}

/-- Enter a log record in the journal. -/
def log (d : Desk σ) (r : Record) : Desk σ := { d with journal := d.journal.log r }

/-- Enter an event in the journal. -/
def note (d : Desk σ) (e : Event) : Desk σ := { d with journal := d.journal.note e }

end Desk

namespace Shared

variable {σ : Type}

/-- Enter a log record in the journal. -/
def log (s : Shared σ) (r : Record) : Shared σ := { s with journal := s.journal.log r }

/-- Enter an event in the journal. -/
def note (s : Shared σ) (e : Event) : Shared σ := { s with journal := s.journal.note e }

/-- The part that every primitive may touch. -/
def desk (s : Shared σ) : Desk σ := ⟨s.driver, s.journal⟩

/-- The whole with that part replaced. -/
def withDesk (s : Shared σ) (d : Desk σ) : Shared σ :=
  { s with driver := d.driver, journal := d.journal }

/-- A page; one that is gone reads as blank. -/
def page (s : Shared σ) (id : PageId) : Page := (s.pages.get? id).getD .blank

/-- Change a page. -/
def onPage (s : Shared σ) (id : PageId) (f : Page → Page) : Shared σ :=
  { s with pages := s.pages.modify id f }

/-- A page that is there reads as it stands. -/
theorem page_of_get? {s : Shared σ} {id : PageId} {p : Page} (h : s.pages.get? id = some p) :
    s.page id = p := by
  unfold page
  rw [h]
  rfl

/-- A page that is changed stands as it was changed, if it is there. -/
theorem get?_onPage {s : Shared σ} {id : PageId} {p : Page} (h : s.pages.get? id = some p)
    (f : Page → Page) : (s.onPage id f).pages.get? id = some (f p) := by
  show (s.pages.modify id f).get? id = _
  rw [Arena.get?_modify, if_pos rfl, h]
  rfl

end Shared

/-- How a primitive goes on: it is done, or it wants the operation of a token cancelled first. The
answer to such a request is the operation's progress before and after, or nothing if no token has
that name. -/
inductive Reply (s α : Type)
  | done (value : α) (state : s)
  | cancel (token : String) (state : s) (resume : Option (Progress × Progress) → s → Reply s α)

namespace Reply

variable {s t α β : Type}

/-- Go on with what a reply yields. -/
def bind : Reply s α → (α → s → Reply s β) → Reply s β
  | done value state, next => next value state
  | cancel token state resume, next =>
    .cancel token state fun outcome state => (resume outcome state).bind next

/-- A reply about a part of a larger state, as a reply about the whole. Between the steps the whole
may change around the part. -/
def within (part : t → s) (update : t → s → t) : Reply s α → t → Reply t α
  | done value state, whole => .done value (update whole state)
  | cancel token state resume, whole =>
    .cancel token (update whole state) fun outcome whole =>
      (resume outcome (part whole)).within part update whole

/-- Run a reply where no token is known. -/
def alone : Reply s α → α × s
  | done value state => (value, state)
  | cancel _ state resume => (resume none state).alone

end Reply

/-- On whose behalf a session is notified. A driver need not look at it; one that records how it is
used does. -/
inductive Purpose
  /-- A call has published a request. -/
  | call
  /-- The call under way is to be cancelled. -/
  | cancellation
  deriving DecidableEq, Repr

/-- The primitives that a client consumes. -/
structure Driver (σ : Type) where
  /-- Acquire the device of a context. -/
  openDevice : Desk σ → Except DriverFault Unit × Desk σ
  /-- Release the device of a context. -/
  closeDevice : Desk σ → Except DriverFault Unit × Desk σ
  /-- Open a session with a trusted application and share a page with it until it is closed. -/
  openSession : Uuid → Login → PageId → Desk σ → Reply (Desk σ) (Except DriverFault Handle)
  /-- Close a session. -/
  closeSession : Handle → Desk σ → Reply (Desk σ) (Except DriverFault Unit)
  /-- Map a buffer into the secure world of a session. -/
  map : Handle → Address → Nat → Access → Desk σ → Reply (Desk σ) (Except DriverFault SecureRange)
  /-- Remove a mapping. -/
  unmap : Handle → Address → SecureRange → Desk σ → Reply (Desk σ) (Except DriverFault Unit)
  /-- Wake the secure side of a session. -/
  notify : Purpose → Handle → Shared σ → Reply (Shared σ) (Except DriverFault Unit)
  /-- Wait until the secure side signals back, at most so many milliseconds if a limit is given. -/
  wait : Handle → Option Nat → Shared σ → Reply (Shared σ) (Except DriverFault Unit)
  /-- The last error code recorded for a session. -/
  errorCode : Handle → Desk σ → Reply (Desk σ) (Except DriverFault Int)

end TeeClient

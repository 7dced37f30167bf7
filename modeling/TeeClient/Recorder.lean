import TeeClient.Driver
import TeeClient.Page.Image

/-!
# Recorded drivers

`Recorder.driver D` serves every primitive by `D` and notes each in the journal, after it returned.
What happens in the secure world during a notification is noted after the notification.

Two things can be armed. An `Override` lets a wait or a primitive that gives something back run in
full and then replaces its result. A `Hook` cancels an operation when a primitive is used for the
so-manieth time: before the primitive runs, or, for a wait, after it was noted.
-/

namespace TeeClient

/-- The primitives of a driver that hooks and overrides can name. -/
inductive Primitive
  | closeDevice
  | openSession
  | closeSession
  | map
  | unmap
  | notify
  | wait
  | errorCode
  deriving DecidableEq, Repr

/-- A result to be replaced. -/
structure Override where
  /-- The primitive. -/
  primitive : Primitive
  /-- The failure that its caller gets. -/
  error : DriverFault
  /-- For how many uses of it. -/
  times : Nat

/-- A cancellation to be requested. -/
structure Hook where
  /-- The primitive. -/
  primitive : Primitive
  /-- At which use of it, counted from one. -/
  nth : Nat
  /-- How often it was used since the hook was armed. -/
  seen : Nat
  /-- The token of the operation to cancel. -/
  token : String

/-- The state of a recorded driver. -/
structure Recorder (σ : Type) where
  /-- The state of the driver itself. -/
  inner : σ
  /-- The pages of the open sessions. -/
  pages : Table Handle PageId
  /-- The overrides that are armed, oldest first. -/
  overrides : List Override
  /-- The hooks that are armed, oldest first. -/
  hooks : List Hook

namespace Recorder

variable {σ : Type}

/-- A recorder around a driver with nothing armed. -/
def start (inner : σ) : Recorder σ := ⟨inner, .empty, [], []⟩

/-- The hook after one more use of a primitive, and whether it is due then. -/
def Hook.use (p : Primitive) (h : Hook) : Hook × Bool :=
  if h.primitive = p then ({ h with seen := h.seen + 1 }, h.seen + 1 == h.nth) else (h, false)

/-- The tokens whose hooks are due at a use of a primitive, and the recorder after that use. A hook
that is due is disarmed. -/
def use (p : Primitive) (r : Recorder σ) : List String × Recorder σ :=
  let used := r.hooks.map (Hook.use p)
  ((used.filter Prod.snd).map fun u => u.1.token,
    { r with hooks := (used.filter fun u => !u.2).map Prod.fst })

/-- The error that the oldest override of a primitive puts in place of a result. -/
def override? (p : Primitive) : List Override → Option (DriverFault × List Override)
  | [] => none
  | o :: rest =>
    if o.primitive = p ∧ 0 < o.times then
      -- one that is used up is dropped
      some (o.error, if o.times = 1 then rest else { o with times := o.times - 1 } :: rest)
    else (override? p rest).map fun found => (found.1, o :: found.2)

/-- The result that the caller of a primitive gets. -/
def replaced {α : Type} (p : Primitive) (result : Except DriverFault α)
    (d : Desk (Recorder σ)) : Except DriverFault α × Desk (Recorder σ) :=
  match override? p d.driver.overrides with
  | none => (result, d)
  | some (e, overrides) => (.error e, { d with driver := { d.driver with overrides } })

/-- Cancel the operations of some tokens in turn and note each request. -/
def cancelEach : List String → Desk (Recorder σ) → Reply (Desk (Recorder σ)) Unit
  | [], d => .done () d
  | token :: rest, d => .cancel token d fun outcome d =>
    cancelEach rest (d.note (.cancel token outcome))

/-- Run the hooks that are due at a use of a primitive. -/
def runHooks (p : Primitive) (d : Desk (Recorder σ)) : Reply (Desk (Recorder σ)) Unit :=
  let (due, driver) := d.driver.use p
  cancelEach due { d with driver }

/-- The desk of the driver itself. -/
def innerDesk (d : Desk (Recorder σ)) : Desk σ := ⟨d.driver.inner, d.journal⟩

/-- The recorder's desk after the driver itself changed its own. -/
def withInnerDesk (d : Desk (Recorder σ)) (inner : Desk σ) : Desk (Recorder σ) :=
  ⟨{ d.driver with inner := inner.driver }, inner.journal⟩

/-- What the secure world of the driver itself may touch. -/
def innerShared (s : Shared (Recorder σ)) : Shared σ :=
  ⟨s.driver.inner, s.journal, s.pages, s.memory⟩

/-- What the secure world may touch, after that of the driver itself has changed. -/
def withInnerShared (s : Shared (Recorder σ)) (inner : Shared σ) : Shared (Recorder σ) :=
  ⟨{ s.driver with inner := inner.driver }, inner.journal, inner.pages, inner.memory⟩

/-- Have a primitive served by the driver itself. -/
def forward {α : Type} (act : Desk σ → Reply (Desk σ) α) (d : Desk (Recorder σ)) :
    Reply (Desk (Recorder σ)) α :=
  (act (innerDesk d)).within innerDesk withInnerDesk d

/-- Have a primitive of the device served by the driver itself. -/
def forwardNow {α : Type} (act : Desk σ → α × Desk σ) (d : Desk (Recorder σ)) :
    α × Desk (Recorder σ) :=
  let (value, inner) := act (innerDesk d)
  (value, withInnerDesk d inner)

/-- Hooks first, then the primitive, then its note. -/
def noted {α : Type} (p : Primitive) (event : Except DriverFault α → Event)
    (act : Desk σ → Reply (Desk σ) (Except DriverFault α)) (d : Desk (Recorder σ)) :
    Reply (Desk (Recorder σ)) (Except DriverFault α) :=
  (runHooks p d).bind fun _ d => (forward act d).bind fun result d =>
    .done result (d.note (event result))

/-- Hooks first, then a primitive whose result an override may replace, then its note. -/
def notedReplaced {α : Type} (p : Primitive) (event : Except DriverFault α → Event)
    (act : Desk σ → Reply (Desk σ) (Except DriverFault α)) (d : Desk (Recorder σ)) :
    Reply (Desk (Recorder σ)) (Except DriverFault α) :=
  (runHooks p d).bind fun _ d => (forward act d).bind fun result d =>
    let (result, d) := replaced p result d
    .done result (d.note (event result))

variable (D : Driver σ)

/-- Serve and note the acquisition of the device. -/
def openDevice (d : Desk (Recorder σ)) : Except DriverFault Unit × Desk (Recorder σ) :=
  let (result, d) := forwardNow D.openDevice d
  (result, d.note (.openDevice result))

/-- Serve and note the release of the device. -/
def closeDevice (d : Desk (Recorder σ)) : Except DriverFault Unit × Desk (Recorder σ) :=
  let (result, d) := forwardNow D.closeDevice d
  let (result, d) := replaced .closeDevice result d
  (result, d.note (.closeDevice result))

/-- Remember or forget the page of a session. -/
def onPages (d : Desk (Recorder σ)) (f : Table Handle PageId → Table Handle PageId) :
    Desk (Recorder σ) :=
  { d with driver := { d.driver with pages := f d.driver.pages } }

/-- Serve and note the opening of a session, and remember its page. -/
def openSession (destination : Uuid) (login : Login) (page : PageId) (d : Desk (Recorder σ)) :
    Reply (Desk (Recorder σ)) (Except DriverFault Handle) :=
  (noted .openSession (.openSession destination login) (D.openSession destination login page)
    d).bind fun result d =>
      .done result (match result with
        | .ok handle => onPages d (·.set handle page)
        | .error _ => d)

/-- Serve and note the closing of a session, and forget its page. -/
def closeSession (handle : Handle) (d : Desk (Recorder σ)) :
    Reply (Desk (Recorder σ)) (Except DriverFault Unit) :=
  (notedReplaced .closeSession (.closeSession handle) (D.closeSession handle) d).bind
    fun result d => .done result (onPages d (·.erase handle))

/-- The fields of the page of a session, as they are now. -/
def pageFields (handle : Handle) (s : Shared (Recorder σ)) : Option Bytes :=
  (s.driver.pages.get? handle).map fun id => (s.page id).head

/-- Have a notification served by the driver itself, and note it before everything that happened in
the secure world meanwhile. -/
def notedNotify (purpose : Purpose) (handle : Handle) (event : Except DriverFault Unit → Event)
    (s : Shared (Recorder σ)) : Reply (Shared (Recorder σ)) (Except DriverFault Unit) :=
  -- where the note belongs is taken before anything runs
  let position := s.journal.length
  ((D.notify purpose handle (innerShared s)).within innerShared withInnerShared s).bind
    fun result s => .done result { s with journal := s.journal.noteAt position (event result) }

/-- Serve and note a notification. The hooks are due when a call notifies; the page is read after
them and before the secure world is woken. -/
def notify (purpose : Purpose) (handle : Handle) (s : Shared (Recorder σ)) :
    Reply (Shared (Recorder σ)) (Except DriverFault Unit) :=
  match purpose with
  | .call => ((runHooks .notify s.desk).within Shared.desk Shared.withDesk s).bind fun _ s =>
    notedNotify D purpose handle (.notify handle (pageFields handle s)) s
  | .cancellation => notedNotify D purpose handle (.wake handle) s

/-- Serve and note a wait. Its hooks are due when it is over. -/
def wait (handle : Handle) (limit : Option Nat) (s : Shared (Recorder σ)) :
    Reply (Shared (Recorder σ)) (Except DriverFault Unit) :=
  ((D.wait handle limit (innerShared s)).within innerShared withInnerShared s).bind fun result s =>
    let (result, d) := replaced .wait result s.desk
    let s := s.withDesk (d.note (.wait handle result))
    ((runHooks .wait s.desk).within Shared.desk Shared.withDesk s).bind fun _ s => .done result s

/-- A driver whose every primitive is noted in the journal. -/
def driver : Driver (Recorder σ) where
  openDevice := openDevice D
  closeDevice := closeDevice D
  openSession := openSession D
  closeSession := closeSession D
  map handle address len access :=
    noted .map (.map handle address len access) (D.map handle address len access)
  unmap handle address info :=
    notedReplaced .unmap (.unmap handle address info) (D.unmap handle address info)
  notify := notify D
  wait := wait D
  errorCode handle := notedReplaced .errorCode (.errorCode handle) (D.errorCode handle)

end Recorder

end TeeClient

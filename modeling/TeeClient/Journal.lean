import TeeClient.Journal.Record

/-!
# The journal

Everything observable that happens besides results, in order: the log records of the library, the
primitives a recorded driver served, what a trusted application reports of itself, and requests to
cancel. A `Journal` is kept newest entry first.
-/

namespace TeeClient

/-- An entry point of a trusted application. -/
inductive EntryPoint
  | opening
  | command (id : UInt32)
  | closing
  deriving DecidableEq, Repr

/-- What a step of a scripted application saw. -/
inductive Shown
  /-- Nothing to show. -/
  | nothing
  /-- The step went through. -/
  | accepted
  /-- The step was refused with a status. -/
  | refused (status : Status)
  | number (n : Nat)
  | flag (b : Bool)
  | pair (a b : UInt32)
  | bytes (b : Bytes)
  | text (s : String)
  deriving DecidableEq, Repr

/-- Something that happened. -/
inductive Event
  | openDevice (result : Except DriverFault Unit)
  | closeDevice (result : Except DriverFault Unit)
  | openSession (destination : Uuid) (login : Login) (result : Except DriverFault Handle)
  | closeSession (handle : Handle) (result : Except DriverFault Unit)
  | map (handle : Handle) (address : Address) (len : Nat) (access : Access)
      (result : Except DriverFault SecureRange)
  | unmap (handle : Handle) (address : Address) (info : SecureRange)
      (result : Except DriverFault Unit)
  /-- A notification, with the fields of the session's page as published. -/
  | notify (handle : Handle) (page : Option Bytes) (result : Except DriverFault Unit)
  /-- A notification that a cancellation sends. -/
  | wake (handle : Handle) (result : Except DriverFault Unit)
  | wait (handle : Handle) (result : Except DriverFault Unit)
  | errorCode (handle : Handle) (result : Except DriverFault Int)
  /-- A request to cancel, with the progress before and after it; `none` if the token is unknown. -/
  | cancel (token : String) (outcome : Option (Progress × Progress))
  /-- An entry point of an application began. -/
  | entered (point : EntryPoint)
  /-- An application took a step. -/
  | step (name : String) (shown : Shown)

/-- An entry of the journal. -/
inductive Entry
  | log (record : Record)
  | event (event : Event)

/-- What happened, newest first. -/
abbrev Journal := List Entry

namespace Journal

/-- Enter a log record. -/
def log (j : Journal) (r : Record) : Journal := .log r :: j

/-- Enter an event. -/
def note (j : Journal) (e : Event) : Journal := .event e :: j

/-- Enter an event behind the first `position` entries, before what was entered since. -/
def noteAt (j : Journal) (position : Nat) (e : Event) : Journal :=
  j.take (j.length - position) ++ .event e :: j.drop (j.length - position)

/-- The entries in the order in which they happened. -/
def inOrder (j : Journal) : List Entry := j.reverse

end Journal

end TeeClient

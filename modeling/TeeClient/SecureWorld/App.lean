import TeeClient.Journal
import TeeClient.Page

/-!
# Trusted applications

An `App κ` is a trusted application whose instances keep a state of type `κ`. Its entry points are
programs that ask the secure world about the call they serve (`Query`), step by step, and decide on
each answer how to go on. A program may also cancel an operation whose token it holds, leave a note
in the journal, or panic.
-/

namespace TeeClient

/-- What an application may ask while it serves a call. Slots are numbered from zero; a number
beyond three is a fault of the application. -/
inductive Query
  /-- The type of a slot. -/
  | paramType (slot : Nat)
  /-- The pair in a slot. -/
  | value (slot : Nat)
  /-- Replace the pair in a slot. -/
  | setValue (slot : Nat) (a b : UInt32)
  /-- The size that the client declared for a slot. -/
  | capacity (slot : Nat)
  /-- Whether a slot has a mapped buffer. -/
  | isMapped (slot : Nat)
  /-- The bytes of the mapped buffer of a slot. -/
  | read (slot : Nat)
  /-- Put bytes at the start of the mapped buffer of a slot and report their number. -/
  | write (slot : Nat) (data : Bytes)
  /-- Report a number of bytes without writing any. -/
  | setOutputSize (slot : Nat) (size : UInt32)
  /-- Whether the client wants the call abandoned. -/
  | isCancelled
  /-- The login bound to the session. -/
  | login
  /-- The identity the session was opened for. -/
  | destination

/-- The type of the answer to a query. -/
abbrev Query.Answer : Query → Type
  | paramType _ => Except Status SlotType
  | value _ => UInt32 × UInt32
  | setValue .. => Unit
  | capacity _ => UInt32
  | isMapped _ => Bool
  | read _ => Option Bytes
  | write .. => Except Status Unit
  | setOutputSize .. => Unit
  | isCancelled => Bool
  | login => Login
  | destination => Uuid

/-- What an application does at one entry point. -/
inductive Program (κ : Type)
  /-- Return a result and leave the instance in a state. -/
  | finish (result : Except Status Unit) (state : κ)
  /-- Stop without a result; the instance is lost. -/
  | panic
  /-- Ask, and go on with the answer. -/
  | ask (query : Query) (next : query.Answer → Program κ)
  /-- Cancel the operation of a token, and go on with its progress before and after. -/
  | cancel (token : String) (next : Option (Progress × Progress) → Program κ)
  /-- Leave a note in the journal, and go on. -/
  | report (event : Event) (next : Program κ)

/-- A trusted application. -/
structure App (κ : Type) where
  /-- The state of a new instance. -/
  initial : κ
  /-- What an instance does when its session is opened. -/
  opening : κ → Program κ
  /-- What an instance does on a command. -/
  command : UInt32 → κ → Program κ
  /-- What an instance does when its session is closed. -/
  closing : κ → Program κ

/-- The program of an instruction. -/
def App.entry {κ : Type} (app : App κ) (instruction : Instruction) (command : UInt32) (state : κ) :
    Program κ :=
  match instruction with
  | .openSession => app.opening state
  | .invokeCommand => app.command command state
  | .closeSession => app.closing state

end TeeClient

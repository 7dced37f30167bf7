import TeeClient.Bytes

/-!
# Status codes and failures

`Status` is the word in which a trusted application and the layers around it report an outcome.
`FailureKind` classifies the codes other than success and keeps a code it does not know; `Origin` is
the layer that spoke; a `Failure` is both. Only a failure of the transport or of the secure system
ends a session (`Failure.breaksSession`).
-/

namespace TeeClient

/-- A result word. -/
abbrev Status := UInt32

/-- The result word of a call that went well. -/
def Status.success : Status := 0

/-- What went wrong. -/
inductive FailureKind
  | generic
  | accessDenied
  | cancel
  | accessConflict
  | excessData
  | badFormat
  | badParameters
  | badState
  | itemNotFound
  | notImplemented
  | notSupported
  | noData
  | outOfMemory
  | busy
  | communication
  | security
  | shortBuffer
  | targetDead
  | taLocked
  | sdBlocked
  | targetKilled
  /-- A code of the trusted application's own. -/
  | other (code : Status)
  deriving DecidableEq, Repr

namespace FailureKind

/-- The status word of a kind. The last three of the fixed codes are the vendor's. -/
def code : FailureKind → Status
  | generic => 0xFFFF0000
  | accessDenied => 0xFFFF0001
  | cancel => 0xFFFF0002
  | accessConflict => 0xFFFF0003
  | excessData => 0xFFFF0004
  | badFormat => 0xFFFF0005
  | badParameters => 0xFFFF0006
  | badState => 0xFFFF0007
  | itemNotFound => 0xFFFF0008
  | notImplemented => 0xFFFF0009
  | notSupported => 0xFFFF000A
  | noData => 0xFFFF000B
  | outOfMemory => 0xFFFF000C
  | busy => 0xFFFF000D
  | communication => 0xFFFF000E
  | security => 0xFFFF000F
  | shortBuffer => 0xFFFF0010
  | targetDead => 0xFFFF3024
  | taLocked => 0xFFFF0257
  | sdBlocked => 0xFFFF0258
  | targetKilled => 0xFFFF0259
  | other code => code

/-- The kinds that have a code fixed by the interface. -/
def known : List FailureKind :=
  [generic, accessDenied, cancel, accessConflict, excessData, badFormat, badParameters, badState,
    itemNotFound, notImplemented, notSupported, noData, outOfMemory, busy, communication, security,
    shortBuffer, targetDead, taLocked, sdBlocked, targetKilled]

/-- The kind of a status word other than success. -/
def ofCode (code : Status) : FailureKind :=
  (known.find? fun kind => kind.code == code).getD (other code)

/-- The name in listings; a code of the application's own is left out. -/
def name : FailureKind → String
  | generic => "Generic"
  | accessDenied => "AccessDenied"
  | cancel => "Cancel"
  | accessConflict => "AccessConflict"
  | excessData => "ExcessData"
  | badFormat => "BadFormat"
  | badParameters => "BadParameters"
  | badState => "BadState"
  | itemNotFound => "ItemNotFound"
  | notImplemented => "NotImplemented"
  | notSupported => "NotSupported"
  | noData => "NoData"
  | outOfMemory => "OutOfMemory"
  | busy => "Busy"
  | communication => "Communication"
  | security => "Security"
  | shortBuffer => "ShortBuffer"
  | targetDead => "TargetDead"
  | taLocked => "TaLocked"
  | sdBlocked => "SdBlocked"
  | targetKilled => "TargetKilled"
  | other _ => "Other"

/-- The name with a code of the application's own in parentheses. -/
def nameWithCode : FailureKind → String
  | other code => s!"Other({code.toNat})"
  | kind => kind.name

/-- The wording of a kind. -/
def message : FailureKind → String
  | generic => "generic error"
  | accessDenied => "access denied"
  | cancel => "operation cancelled"
  | accessConflict => "access conflict"
  | excessData => "excess data"
  | badFormat => "bad format"
  | badParameters => "bad parameters"
  | badState => "bad state"
  | itemNotFound => "item not found"
  | notImplemented => "not implemented"
  | notSupported => "not supported"
  | noData => "no data"
  | outOfMemory => "out of memory"
  | busy => "busy"
  | communication => "communication error"
  | security => "security error"
  | shortBuffer => "short buffer"
  | targetDead => "target dead"
  | taLocked => "trusted application locked"
  | sdBlocked => "security domain blocked"
  | targetKilled => "target killed"
  | other code => "error " ++ Hex.word code

/-- Classifying a word and asking for its code gives the word back. -/
theorem code_ofCode (code : Status) : (ofCode code).code = code := by
  unfold ofCode
  cases h : known.find? (fun kind => kind.code == code) with
  | none => rfl
  | some kind => simpa using List.find?_some h

end FailureKind

/-- The layer that produced a result. -/
inductive Origin
  /-- The client interface itself: parameter and state checks. -/
  | api
  /-- Driver and transport. -/
  | comms
  /-- The operating system of the secure world. -/
  | tee
  /-- The trusted application. -/
  | trustedApp
  deriving DecidableEq, Repr

namespace Origin

/-- The word for a layer. -/
def code : Origin → UInt32
  | api => 1
  | comms => 2
  | tee => 3
  | trustedApp => 4

/-- The layer of a word. -/
def ofCode? (code : UInt32) : Option Origin :=
  match code.toNat with
  | 1 => some api
  | 2 => some comms
  | 3 => some tee
  | 4 => some trustedApp
  | _ => none

/-- The name in listings. -/
def name : Origin → String
  | api => "Api"
  | comms => "Comms"
  | tee => "Tee"
  | trustedApp => "TrustedApp"

/-- The wording in messages. -/
def text : Origin → String
  | api => "api"
  | comms => "comms"
  | tee => "tee"
  | trustedApp => "trusted app"

end Origin

/-- A call that did not succeed: what went wrong, and which layer said so. -/
structure Failure where
  /-- What went wrong. -/
  kind : FailureKind
  /-- Which layer said so. -/
  origin : Origin
  deriving DecidableEq, Repr

namespace Failure

/-- A parameter or state check of the client interface. -/
def api (kind : FailureKind) : Failure := ⟨kind, .api⟩

/-- A failure of the driver or the transport. -/
def comms (kind : FailureKind) : Failure := ⟨kind, .comms⟩

/-- The status word. -/
def code (f : Failure) : Status := f.kind.code

/-- The wording. -/
def message (f : Failure) : String :=
  f.kind.message ++ " (origin: " ++ f.origin.text ++ ")"

/-- Whether the session cannot be used after this failure. -/
def breaksSession (f : Failure) : Bool :=
  match f.origin with
  | .comms | .tee => true
  | .api | .trustedApp => false

end Failure

end TeeClient

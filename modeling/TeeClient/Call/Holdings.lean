import TeeClient.Parameter.Plan
import TeeClient.World

/-!
# Mappings held by a call

While a call is under way it holds at most one mapping for each slot. `Holdings` remembers them, so
that each is given back once, with the buffer and the description with which it was obtained.
-/

namespace TeeClient

/-- A mapping in force. -/
structure Held where
  /-- The buffer that was mapped. -/
  address : Address
  /-- The driver's description of the mapping. -/
  info : SecureRange
  deriving DecidableEq, Repr

/-- The mapping of each slot, where there is one. -/
abbrev Holdings := Slots (Option Held)

namespace Holdings

/-- No mapping is held. -/
def none : Holdings := .replicate Option.none

/-- How many mappings are held. -/
def count (held : Holdings) : Nat := (held.toList.filter Option.isSome).length

variable {σ : Type} (D : Driver σ)

/-- Map a buffer for a slot. -/
def map (handle : Handle) (slot : Slot) (address : Address) (len : Nat) (access : Access)
    (held : Holdings) (w : World σ) : Except DriverFault SecureRange × Holdings × World σ :=
  match w.onDesk D (D.map handle address len access) with
  | (.error e, w) => (.error e, held, w)
  | (.ok info, w) =>
    (.ok info, held.put slot (some ⟨address, info⟩), w.log (.mapped slot len info.secureVa))

/-- Give back the mapping of a slot, if there is one. A driver that refuses is only reported. -/
def release (handle : Handle) (slot : Slot) (held : Holdings) (w : World σ) :
    Holdings × World σ :=
  match held.get slot with
  | Option.none => (held, w)
  | some mapping =>
    match w.onDesk D (D.unmap handle mapping.address mapping.info) with
    | (.ok (), w) => (held.put slot Option.none, w)
    | (.error e, w) => (held.put slot Option.none, w.log (.unmapFailed slot e))

/-- Give back the mappings of some slots, in the order of the list. -/
def releaseEach (handle : Handle) : List Slot → Holdings → World σ → World σ
  | [], _, w => w
  | slot :: rest, held, w =>
    let (held, w) := held.release D handle slot w
    releaseEach handle rest held w

/-- Give back everything that is held, last slot first. -/
def releaseAll (handle : Handle) (held : Holdings) (w : World σ) : World σ :=
  held.releaseEach D handle Slot.descending w

end Holdings

end TeeClient

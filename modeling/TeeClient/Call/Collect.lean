import TeeClient.Call.Holdings

/-!
# Collecting the result

`collect` reads the result words of a finished call, copies what came back into the operation and
gives the mappings back. Of the page it trusts only the two result words, and these only if they
agree with each other: a status other than success must come from the trusted application.
-/

namespace TeeClient.Call

/-- The layer that the result words name, if they are consistent. -/
def speaker? (origin : UInt32) (status : Status) : Option Origin :=
  (Origin.ofCode? origin).filter fun o => o == .trustedApp || status == Status.success

/-- What the result words say. -/
def verdict (origin : UInt32) (status : Status) : Except Failure Origin :=
  match speaker? origin status with
  | none => .error (.comms .communication)
  | some o => if status = Status.success then .ok o else .error ⟨.ofCode status, o⟩

variable {σ : Type} (D : Driver σ)

/-- Take back some slots in turn: copy what the secure world reported, if it counts, and give the
mapping back. A slot whose mapped length does not tell whether a mapping is held is reported. -/
def takeBackEach (channel : Channel) (copyBack : Bool) :
    List Slot → Operation → Holdings → World σ → Operation × Holdings × World σ
  | [], op, held, w => (op, held, w)
  | slot :: rest, op, held, w =>
    -- one reading of the slot serves the copy and the check of the marker
    let words := (w.page channel.page).param slot
    let p := op.param slot
    let op := if copyBack && p.writesBack then op.setParam slot (p.receive words) else op
    let w :=
      if (held.get slot).isSome != (words.mappedLen != 0) then w.log (.markerMismatch slot) else w
    let (held, w) := held.release D channel.handle slot w
    takeBackEach channel copyBack rest op held w

/-- Collect the result of a call and give its mappings back. Nothing is copied into the operation
if the exchange failed or the result words are inconsistent. -/
def collect (channel : Channel) (op : Option Operation) (held : Holdings) (exchanged : Bool)
    (w : World σ) : Except Failure Origin × Option Operation × World σ :=
  let origin := (w.page channel.page).origin
  let status := (w.page channel.page).status
  let consistent := (speaker? origin status).isSome
  let (op, held, w) := match op with
    | none => (none, held, w)
    | some op =>
      let (op, held, w) := takeBackEach D channel (exchanged && consistent) Slot.ascending op held w
      (some op, held, w)
  -- where slots were taken back nothing is held any more
  let w := held.releaseAll D channel.handle w
  let w := if consistent then w else w.log (.inconsistentResult origin status)
  (verdict origin status, op, w)

end TeeClient.Call

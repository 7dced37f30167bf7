import TeeClient.Call.Holdings

/-!
# Publishing a request

`publish` fills the page of a session with a request: it maps what the parameters need, writes the
four slots, and then, `ready` last, the fields that say what is asked. If a parameter is refused, a
mapping fails or the operation is cancelled on the way, the request is cleared, the mappings made so
far are given back, last slot first, and `ready` stays unset.
-/

namespace TeeClient.Call

variable {σ : Type} (D : Driver σ)

/-- Obtain what the slot of a parameter needs and say which words it gets. -/
def prepare (handle : Handle) (slot : Slot) (p : Parameter) (held : Holdings) (w : World σ) :
    Except Failure SlotWords × Holdings × World σ :=
  match p.plan with
  | .error refusal => (.error (.api .badParameters), held, w.log (refusal.record slot))
  | .ok (.words words) => (.ok words, held, w)
  | .ok (.mapping address len access) =>
    match held.map D handle slot address len access w with
    | (.ok info, held, w) => (.ok (.memref info.secureVa info.len len.toUInt32), held, w)
    | (.error e, held, w) =>
      (.error (.comms .communication), held, w.log (.mappingFailed slot len e))

/-- Prepare some slots in turn and write their words into the page. The first that fails ends it. -/
def fillEach (channel : Channel) (op : Operation) :
    List Slot → Holdings → World σ → Except Failure Unit × Holdings × World σ
  | [], held, w => (.ok (), held, w)
  | slot :: rest, held, w =>
    match prepare D channel.handle slot (op.param slot) held w with
    | (.error failure, held, w) => (.error failure, held, w)
    | (.ok words, held, w) =>
      fillEach channel op rest held (w.onPage channel.page (·.setParam slot words))

/-- Prepare all slots. An operation that was cancelled meanwhile is given up. -/
def fill (channel : Channel) (op : Operation) (w : World σ) :
    Except Failure Unit × Holdings × World σ :=
  match fillEach D channel op Slot.ascending .none w with
  | (.error failure, held, w) => (.error failure, held, w)
  | (.ok (), held, w) =>
    if w.progress op.lifecycle = .finished then
      (.error (.comms .cancel), held, w.log .cancelledWhileFilling)
    else (.ok (), held, w)

/-- The page with everything but the slots of a request filled in, and published. The result words
are such that they fail the result check unless the secure world writes them. -/
def stamp (instruction : Instruction) (command types : UInt32) (p : Page) : Page :=
  (((((p.setTag Page.formatTag).setInstruction instruction.raw).setCommand command).setTypes
    types).setResult 0 FailureKind.badState.code).setReady true

/-- Fill the page of a session with a request and publish it. The mappings made for it are held by
the call from then on. -/
def publish (channel : Channel) (instruction : Instruction) (command : UInt32)
    (op : Option Operation) (w : World σ) : Except Failure Holdings × World σ :=
  -- the mark is taken away first, so that no wake-up finds a request that is half written
  let w := w.onPage channel.page fun p => (p.setReady false).clearRequest
  let filled : Except Failure Unit × Holdings × World σ := match op with
    | none => (.ok (), .none, w)
    | some op => fill D channel op w
  match filled with
  | (.error failure, held, w) =>
    (.error failure, held.releaseAll D channel.handle (w.onPage channel.page (·.clearRequest)))
  | (.ok (), held, w) =>
    let types := match op with
      | none => 0
      | some op => op.sentTypes
    let w := w.onPage channel.page (stamp instruction command types)
    (.ok held, w.log (.published instruction command held.count))

end TeeClient.Call

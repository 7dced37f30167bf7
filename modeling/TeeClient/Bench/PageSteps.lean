import TeeClient.Page.Image

/-!
# Steps on a page

A page under single operations, each with its answer. Slots are numbers here; one that does not
exist is answered as such and changes nothing.
-/

namespace TeeClient.Bench

/-- An operation on a page. -/
inductive PageStep
  | setTag (tag : Vector UInt8 8)
  | setDestination (destination : Uuid)
  | setInstruction (n : UInt32)
  | setCommand (n : UInt32)
  | setTypes (n : UInt32)
  | setParam (slot : Nat) (words : SlotWords)
  | param (slot : Nat)
  | setCancelled (on : Bool)
  | isCancelled
  | setReady (on : Bool)
  | isReady
  | consumeReady
  | setResult (origin status : UInt32)
  | clear
  | snapshot
  | length
  | bytes

/-- The answer to an operation on a page. -/
inductive PageAnswer
  | done
  | noSuchSlot (slot : Nat)
  | words (w : SlotWords)
  | flag (b : Bool)
  | snapshot (p : Page)
  | length (n : Nat)
  | bytes (head : Bytes) (restIsZero : Bool)

/-- Carry out one operation. -/
def PageStep.run (p : Page) : PageStep → PageAnswer × Page
  | setTag tag => (.done, p.setTag tag)
  | setDestination destination => (.done, p.setDestination destination)
  | setInstruction n => (.done, p.setInstruction n)
  | setCommand n => (.done, p.setCommand n)
  | setTypes n => (.done, p.setTypes n)
  | setParam slot words =>
    match Slot.ofNat? slot with
    | none => (.noSuchSlot slot, p)
    | some i => (.done, p.setParam i words)
  | param slot =>
    match Slot.ofNat? slot with
    | none => (.noSuchSlot slot, p)
    | some i => (.words (p.param i), p)
  | setCancelled on => (.done, p.setCancelled on)
  | isCancelled => (.flag p.request.cancelled, p)
  | setReady on => (.done, p.setReady on)
  | isReady => (.flag p.ready, p)
  | consumeReady => (.flag p.consumeReady.1, p.consumeReady.2)
  | setResult origin status => (.done, p.setResult origin status)
  | clear => (.done, p.clearRequest)
  | snapshot => (.snapshot p, p)
  | length => (.length Page.size, p)
  | bytes => (.bytes p.head p.restIsZero, p)

/-- Carry out operations in turn on a blank page. -/
def runPageSteps (steps : List PageStep) : List PageAnswer :=
  (steps.foldl
    (fun (acc : List PageAnswer × Page) step =>
      let (answer, page) := step.run acc.2
      (answer :: acc.1, page))
    ([], Page.blank)).1.reverse

end TeeClient.Bench

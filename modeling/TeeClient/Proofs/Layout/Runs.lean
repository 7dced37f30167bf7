import TeeClient.Bench.PageSteps
import TeeClient.Proofs.Layout

/-!
# What a page holds

Every operation on a page gives values to fields, one after the other, or only looks at the page.
So a field has the value that it was given last, whatever was given to other fields, and the page
has the bytes that remain when each value is written in its place in turn.

Main statements:

* `Page.get_assigned` and `Page.image_assigned`: the values and the bytes of a page, by what its
  fields were given;
* `Bench.PageStep.run_eq`: what an operation gives and what it answers;
* `page_holds_what_was_given_last`: every page, after any operations.
-/

namespace TeeClient

namespace Page

/-! ## What fields were given -/

/-- A value that is given to a field. -/
abbrev Assignment := (f : Field) × f.Value

/-- The value that a field was given last, and zero if it was given none. The latest comes first. -/
def Field.lastGiven (f : Field) : List Assignment → f.Value
  | [] => f.zero
  | ⟨g, v⟩ :: earlier => if h : g = f then h ▸ v else f.lastGiven earlier

/-- The fields of the request. -/
def Field.ofRequest : List Field :=
  [instruction, command, types] ++ Slot.ascending.map param ++ [cancelled]

/-- A blank page whose fields were given values, the latest first. -/
def assigned (given : List Assignment) : Page := given.foldr (fun a p => a.1.set a.2 p) blank

/-- A page of zeros onto which values were written, each in the place of its field, the latest
first. -/
def written (given : List Assignment) : Bytes :=
  given.foldr (fun a memory => memory.overlay a.1.offset (a.1.bytes a.2)) (List.replicate size 0)

/-- A field has the value that it was given last. -/
theorem get_assigned (given : List Assignment) (f : Field) :
    f.get (assigned given) = f.lastGiven given := by
  induction given with
  | nil =>
    cases f with
    | param slot => exact Slots.get_replicate _ slot
    | _ => rfl
  | cons a earlier ih =>
    obtain ⟨g, v⟩ := a
    simp only [assigned, List.foldr_cons, Field.get_set, Field.lastGiven]
    by_cases h : g = f
    · subst h
      simp
    · rw [Function.update_of_ne (Ne.symm h), dif_neg h]
      exact ih

/-- A page has the bytes that were written. -/
theorem image_assigned (given : List Assignment) : (assigned given).image = written given := by
  induction given with
  | nil =>
    have hzero : (content fun f => f.get blank) = List.replicate fieldsEnd 0 := by decide
    rw [assigned, written, List.foldr_nil, List.foldr_nil, image_eq, hzero,
      List.replicate_append_replicate, size, fieldsEnd]
  | cons a earlier ih =>
    simp only [assigned, written, List.foldr_cons] at ih ⊢
    rw [image_set, ih]

end Page

namespace Bench

open Page (Field Assignment)

namespace PageStep

/-- What an operation gives to fields, in this order. -/
def gives : PageStep → List Assignment
  | setTag tag => [⟨.tag, tag⟩]
  | setDestination destination => [⟨.destination, destination⟩]
  | setInstruction n => [⟨.instruction, n⟩]
  | setCommand n => [⟨.command, n⟩]
  | setTypes n => [⟨.types, n⟩]
  | setParam slot words => match Slot.ofNat? slot with
    | none => []
    | some i => [⟨.param i, words⟩]
  | setCancelled on => [⟨.cancelled, on⟩]
  | setReady on => [⟨.ready, on⟩]
  | consumeReady => [⟨.ready, false⟩]
  | setResult origin status => [⟨.origin, origin⟩, ⟨.status, status⟩]
  | clear => Field.ofRequest.map fun f => ⟨f, f.zero⟩
  | param _ | isCancelled | isReady | snapshot | length | bytes => []

/-- The answer to an operation, where fields have the given values. -/
def answer (value : (f : Field) → f.Value) : PageStep → PageAnswer
  | setParam slot _ => match Slot.ofNat? slot with
    | none => .noSuchSlot slot
    | some _ => .done
  | param slot => match Slot.ofNat? slot with
    | none => .noSuchSlot slot
    | some i => .words (value (.param i))
  | isCancelled => .flag (value .cancelled)
  | isReady | consumeReady => .flag (value .ready)
  | snapshot => .snapshot (.ofFields value)
  | length => .length 4096
  | bytes => .bytes (Page.content value) true
  | setTag _ | setDestination _ | setInstruction _ | setCommand _ | setTypes _ | setCancelled _
  | setReady _ | setResult .. | clear => .done

/-- An operation answers by the values of fields, and gives values to fields. -/
theorem run_eq (p : Page) (step : PageStep) :
    step.run p = (step.answer fun f => f.get p, step.gives.foldl (fun p a => a.1.set a.2 p) p) := by
  cases step with
  | setParam slot words | param slot =>
    simp only [run, answer, gives]
    cases Slot.ofNat? slot <;> rfl
  | clear =>
    -- every field of the request is given zero, so nothing of it is left
    simp only [run, answer, gives, Field.ofRequest, Slot.ascending, List.cons_append,
      List.nil_append, List.map_cons, List.map_nil, List.foldl_cons, List.foldl_nil, Field.set,
      Page.setInstruction, Page.setCommand, Page.setTypes, Page.setParam, Page.setCancelled]
    rfl
  | snapshot =>
    rw [run, answer, Page.ofFields_get]
    rfl
  | bytes =>
    have hhead : p.head = Page.content fun f => f.get p := by
      rw [Page.head, Page.image_eq, List.take_left' (Page.length_content _)]
    have hrest : p.restIsZero = true := by
      rw [Page.restIsZero, Page.image_eq, List.drop_left' (Page.length_content _)]
      simp
    rw [run, answer, hhead, hrest]
    rfl
  | _ => rfl

end PageStep

/-- What operations in turn give to fields, the latest first. -/
def given (steps : List PageStep) : List Assignment := (steps.flatMap PageStep.gives).reverse

/-- The page after operations in turn on a blank one. -/
def pageAfter (steps : List PageStep) : Page :=
  steps.foldl (fun p step => (step.run p).2) .blank

/-- The page after operations is what fields were given. -/
theorem pageAfter_eq (steps : List PageStep) : pageAfter steps = .assigned (given steps) := by
  simp only [pageAfter, Page.assigned, given, List.foldr_reverse, List.foldl_flatMap,
    PageStep.run_eq]

/-- The answers to operations come one after the other, each by what fields were given before. -/
theorem runPageSteps_snoc (steps : List PageStep) (step : PageStep) :
    runPageSteps (steps ++ [step])
      = runPageSteps steps ++ [step.answer fun f => f.lastGiven (given steps)] := by
  -- beside the answers the page is carried along
  have hpage : ∀ answers p, (steps.foldl (fun (acc : List PageAnswer × Page) step =>
      ((step.run acc.2).1 :: acc.1, (step.run acc.2).2)) (answers, p)).2
        = steps.foldl (fun p step => (step.run p).2) p := by
    induction steps with
    | nil => exact fun _ _ => rfl
    | cons first rest ih => exact fun _ _ => ih _ _
  have hanswer : (step.answer fun f => f.lastGiven (given steps))
      = (step.run (pageAfter steps)).1 := by
    rw [PageStep.run_eq, pageAfter_eq]
    simp only [Page.get_assigned]
  rw [hanswer]
  simp only [runPageSteps, List.foldl_append, List.foldl_cons, List.foldl_nil, List.reverse_cons,
    hpage, pageAfter]

end Bench

/-- What a page holds after any operations on a blank one, where each field is given values one
after the other. The page has the bytes that remain when each of them is written in the place of its
field in turn: first come the values that the fields were given last, one behind the other, and then
zeros. Each field is read from its place, and every question is answered, by what the field was
given last. Two such pages have the same bytes exactly if they have the same snapshot. -/
theorem page_holds_what_was_given_last (steps : List Bench.PageStep) :
    (Bench.pageAfter steps).image = Page.written (Bench.given steps) ∧
    (Bench.pageAfter steps).image
      = Page.content (fun f => f.lastGiven (Bench.given steps)) ++ List.replicate 3996 0 ∧
    (Page.content fun f => f.lastGiven (Bench.given steps)).length = 100 ∧
    (∀ f : Page.Field,
      (Bench.pageAfter steps).image.piece f.offset f.width
        = f.bytes (f.lastGiven (Bench.given steps)) ∧
      f.decode ((Bench.pageAfter steps).image.piece f.offset f.width)
        = f.lastGiven (Bench.given steps) ∧
      f.get (Bench.pageAfter steps) = f.lastGiven (Bench.given steps)) ∧
    (∀ step, Bench.runPageSteps (steps ++ [step]) = Bench.runPageSteps steps
      ++ [step.answer fun f => f.lastGiven (Bench.given steps)]) ∧
    (∀ others, (Bench.pageAfter steps).image = (Bench.pageAfter others).image ↔
      (Bench.PageStep.snapshot.run (Bench.pageAfter steps)).1
        = (Bench.PageStep.snapshot.run (Bench.pageAfter others)).1) := by
  have hget : ∀ f : Page.Field,
      f.get (Bench.pageAfter steps) = f.lastGiven (Bench.given steps) := by
    intro f
    rw [Bench.pageAfter_eq, Page.get_assigned]
  have himage : (Bench.pageAfter steps).image
      = Page.content (fun f => f.lastGiven (Bench.given steps)) ++ List.replicate 3996 0 := by
    rw [Page.image_eq]
    simp only [hget]
    rfl
  refine ⟨?_, himage, Page.length_content _, fun f => ⟨?_, ?_, hget f⟩,
    Bench.runPageSteps_snoc steps, fun others => ?_⟩
  · rw [Bench.pageAfter_eq, Page.image_assigned]
  · rw [himage, Page.piece_content]
  · rw [Page.decode_piece_image, hget]
  · -- a snapshot tells the page, and the page its bytes
    simp only [Bench.PageStep.run, Bench.PageAnswer.snapshot.injEq]
    exact ⟨Page.image_injective, fun h => h ▸ rfl⟩

end TeeClient

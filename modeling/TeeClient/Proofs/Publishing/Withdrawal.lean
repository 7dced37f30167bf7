import TeeClient.Proofs.Cancelling.Calls
import TeeClient.Proofs.Publishing

/-!
# Requests that are given up

A request that cannot be published leaves nothing behind, as long as the driver does not come back
to the library while it maps and unmaps: the page holds no request, and every mapping that was made
has been removed, in the reverse order.

Main statements:

* `Call.besides_fillEach`: filling in slots changes the request in one page and nothing else;
* `failed_publication_is_undone`: what a driver sees of a request that is given up, what the page
  holds then, and whose failure it is.
-/

namespace TeeClient

variable {σ : Type}

namespace Traced

variable {α : Type} {act : Desk σ → Reply (Desk σ) α} {d : Desk (Traced σ)} {value : α}
  {d' : Desk σ}

/-- A primitive that is done in one go adds one use, with its result. -/
theorem enterAfter_of_done (use : α → Use) (h : act (innerDesk d) = .done value d') :
    enterAfter use act d = .done value
      ⟨(withInnerDesk d d').driver.enter (use value), d'.journal⟩ := by
  unfold enterAfter forward
  rw [h]
  rfl

/-- A primitive that is done in one go and is entered before it runs adds one use. -/
theorem enterBefore_of_done (use : Use) (h : act (innerDesk d) = .done value d') :
    enterBefore use act d = .done value
      (withInnerDesk { d with driver := d.driver.enter use } d') := by
  unfold enterBefore forward
  rw [show innerDesk { d with driver := d.driver.enter use } = innerDesk d from rfl, h]
  rfl

end Traced

namespace Driver.SelfContained

variable {D : Driver σ} (hD : D.SelfContained)
include hD

/-- A driver that maps and unmaps in one go does so where its uses are listed. -/
theorem traced : (Traced.driver D).SelfContained where
  map handle address len access d := by
    obtain ⟨result, d', hmap⟩ := hD.map handle address len access (Traced.innerDesk d)
    exact ⟨result, _, Traced.enterAfter_of_done (.map handle address len access) hmap⟩
  unmap handle address info d := by
    obtain ⟨result, d', hunmap⟩ := hD.unmap handle address info (Traced.innerDesk d)
    exact ⟨result, _, Traced.enterBefore_of_done (.unmap handle address info) hunmap⟩

/-- No session is woken while a driver maps and unmaps in one go. -/
theorem wakes (handle : Handle) : D.Wakes handle fun _ => False where
  map w address len access := by
    obtain ⟨result, d', hmap⟩ := hD.map handle address len access (Traced.innerDesk w.desk)
    have hdone : w.onDesk (Traced.driver D) ((Traced.driver D).map handle address len access) = _ :=
      World.onDesk_of_done (Traced.enterAfter_of_done (.map handle address len access) hmap)
    rw [hdone]
    exact ⟨w.driver.uses, .refl _, rfl⟩
  unmap w address info := by
    obtain ⟨result, d', hunmap⟩ := hD.unmap handle address info (Traced.innerDesk w.desk)
    have hdone : w.onDesk (Traced.driver D) ((Traced.driver D).unmap handle address info) = _ :=
      World.onDesk_of_done (Traced.enterBefore_of_done (.unmap handle address info) hunmap)
    rw [hdone]
    exact .refl _

end Driver.SelfContained

/-- The page without the request in it. -/
def Page.emptied (p : Page) : Page := { p with ready := false, request := .zero }

/-- The worlds differ at most in the request in one page, which is not published in the second, in
what drivers touch themselves and in what drivers never touch. -/
structure World.Besides (page : PageId) (w w' : World σ) : Prop where
  others : ∀ other, other ≠ page → w'.pages.get? other = w.pages.get? other
  emptied : (w'.pages.get? page).map Page.emptied = (w.pages.get? page).map Page.emptied
  unpublished : ∀ p, w'.pages.get? page = some p → p.ready = false
  lifecycles : w'.lifecycles = w.lifecycles

namespace World.Besides

variable {page : PageId} {w w' : World σ}

/-- The request in the page may change, as long as it is not published. -/
theorem onPage (h : w.Besides page w') {f : Page → Page} (hf : ∀ p, (f p).emptied = p.emptied)
    (hr : ∀ p, p.ready = false → (f p).ready = false) : w.Besides page (w'.onPage page f) where
  others other hne := by
    show (w'.pages.modify page f).get? other = _
    rw [Arena.get?_modify, if_neg hne]
    exact h.others other hne
  emptied := by
    show ((w'.pages.modify page f).get? page).map Page.emptied = _
    rw [Arena.get?_modify, if_pos rfl, Option.map_map, ← h.emptied]
    exact congrArg (Option.map · _) (funext hf)
  unpublished p hp := by
    have hp : (w'.pages.modify page f).get? page = some p := hp
    rw [Arena.get?_modify, if_pos rfl] at hp
    obtain ⟨p', hp', rfl⟩ := Option.map_eq_some_iff.1 hp
    exact hr p' (h.unpublished p' hp')
  lifecycles := h.lifecycles

/-- All else in the world may change. -/
theorem congr (h : w.Besides page w') {w'' : World σ} (hpages : w''.pages = w'.pages)
    (hlifecycles : w''.lifecycles = w'.lifecycles) : w.Besides page w'' where
  others := by rw [hpages]; exact h.others
  emptied := by rw [hpages]; exact h.emptied
  unpublished := by rw [hpages]; exact h.unpublished
  lifecycles := hlifecycles.trans h.lifecycles

end World.Besides

namespace Call

variable {D : Driver σ} (hD : D.SelfContained) {channel : Channel}

/-- Withdrawing a request changes nothing else. -/
theorem besides_withdrawn (channel : Channel) (w : World σ) :
    w.Besides channel.page (withdrawn channel w) where
  others other hne := (Arena.get?_modify ..).trans (if_neg hne)
  emptied := by
    show ((w.pages.modify channel.page _).get? channel.page).map _ = _
    rw [Arena.get?_modify, if_pos rfl, Option.map_map]
    rfl
  unpublished p hp := by
    have hp : (w.pages.modify channel.page _).get? channel.page = some p := hp
    rw [Arena.get?_modify, if_pos rfl] at hp
    obtain ⟨p', -, rfl⟩ := Option.map_eq_some_iff.1 hp
    rfl
  lifecycles := rfl

include hD

/-- Filling in slots changes the request in the page of the session, and nothing else. -/
theorem besides_fillEach (op : Operation) (slots : List Slot) (held : Holdings) {w w' : World σ}
    (h : w.Besides channel.page w') :
    w.Besides channel.page (fillEach D channel op slots held w').2.2 := by
  refine fillEach_preserves (fun _ _ _ h => h.congr rfl rfl)
    (fun _ _ _ h => h.onPage (fun _ => rfl) fun _ hr => hr) (fun w' _ address len access _ h => ?_)
    slots h
  obtain ⟨d', hmap⟩ := hD.onDesk_map w' channel.handle address len access
  rw [hmap]
  exact h.congr rfl rfl

/-- Giving a request up clears the page of the session, and changes nothing else. -/
theorem givenUp_eq (held : Holdings) (w : World σ) :
    (givenUp D channel held w).pages = w.pages.modify channel.page (·.clearRequest) ∧
      (givenUp D channel held w).lifecycles = w.lifecycles := by
  refine Holdings.releaseEach_preserves (P := fun w' : World σ =>
    w'.pages = w.pages.modify channel.page (·.clearRequest) ∧ w'.lifecycles = w.lifecycles)
    (fun _ _ _ h => h) (fun w' address info h => ?_) Slot.descending ⟨rfl, rfl⟩
  obtain ⟨d', hunmap⟩ := hD.onDesk_unmap w' channel.handle address info
  rw [hunmap]
  exact h

omit hD in
/-- The pages when a request is given up that was only begun to be filled in. -/
theorem pages_cleared {w w' : World σ} (h : w.Besides channel.page w') (id : PageId) :
    (w'.pages.modify channel.page (·.clearRequest)).get? id =
      if id = channel.page then (w.pages.get? id).map Page.emptied else w.pages.get? id := by
  rw [Arena.get?_modify]
  split
  next hid =>
    subst hid
    rw [← h.emptied]
    -- the page was not published, so it is enough to clear the request
    refine Option.map_congr fun p hp => ?_
    rw [Page.emptied, ← h.unpublished p hp]
    rfl
  next hid => exact h.others id hid

end Call

/-- With a driver that maps and unmaps in one go, a request that cannot be published leaves the page
as it was, but for the request, which is all zero and not published. All that was asked of the
driver are the mappings that the scan of the slots asked for, and then the removal of those that it
got, the last one first, each with its own address and description. The failure is that of the first
slot that fails; the operation was finished before if no slot fails. -/
theorem failed_publication_is_undone {D : Driver σ} (hD : D.SelfContained) (channel : Channel)
    (instruction : Instruction) (command : UInt32) (op : Option Operation) (w : World (Traced σ))
    {failure : Failure} {w' : World (Traced σ)}
    (h : Call.publish (Traced.driver D) channel instruction command op w = (.error failure, w')) :
    (∀ id, w'.pages.get? id = if id = channel.page
      then (w.pages.get? id).map fun p => { p with ready := false, request := .zero }
      else w.pages.get? id) ∧
    ∃ o uses, op = some o ∧
      w'.driver.uses = (uses ++ undone uses).reverse ++ w.driver.uses ∧
      (∀ use ∈ uses, ∃ address len access result,
        use = .map channel.handle address len access result) ∧
      ((∃ (slot : Slot) (made last : List Use), uses = made ++ last ∧
          Scan Parameter.Unsendable channel.handle o (Slot.ascending.take slot) made (.ok ()) ∧
          (o.param slot).Fails Parameter.Unsendable channel.handle last failure) ∨
        Scan Parameter.Unsendable channel.handle o Slot.ascending uses (.ok ()) ∧
          failure = .comms .cancel ∧ w.progress o.lifecycle = .finished) := by
  cases op with
  -- without an operation nothing can fail
  | none => cases h
  | some o =>
    have hbesides := Call.besides_fillEach hD.traced o Slot.ascending .none
      (Call.besides_withdrawn channel w)
    obtain ⟨uses, hscan, hpublished⟩ :=
      Call.publish_scans (hD.wakes channel.handle) instruction command o w
    simp only [h] at hpublished
    obtain ⟨hcause, hfollows⟩ := hpublished
    refine ⟨?_, o, uses, rfl, hfollows.eq_of_asleep, hscan.isMap, ?_⟩
    · -- it is given up, for whatever reason
      rw [Call.publish_eq] at h
      generalize Call.fillEach (Traced.driver D) channel o Slot.ascending .none _ = filled
        at h hbesides
      obtain ⟨failure' | ⟨⟩, held, w₁⟩ := filled
      · cases h
        rw [(Call.givenUp_eq hD.traced held w₁).1]
        exact Call.pages_cleared hbesides
      · -- all slots were filled in, so the operation was finished meanwhile
        by_cases hfinished : w₁.progress o.lifecycle = .finished
        · simp only [if_pos hfinished] at h
          cases h
          rw [(Call.givenUp_eq hD.traced held _).1]
          exact Call.pages_cleared (hbesides.congr rfl rfl)
        · simp only [if_neg hfinished] at h
          cases h
    · rcases hcause with hfailed | ⟨hdone, rfl, hfinished⟩
      · -- the scan itself failed, at its first failing slot
        rw [hfailed] at hscan
        obtain ⟨before, slot, after, made, last, hslots, rfl, hmade, hlast⟩ := hscan.exists_fails
        rw [(Call.before_of_ascending hslots).1] at hmade
        exact .inl ⟨slot, made, last, rfl, hmade, hlast⟩
      · rw [hdone] at hscan
        refine .inr ⟨hscan, rfl, ?_⟩
        unfold World.progress at hfinished ⊢
        rwa [hbesides.lifecycles] at hfinished

/-! A request that lends three buffers, of which the driver refuses the second. -/

namespace Refusing

/-- A driver that maps no more than four bytes at a time, and refuses to unmap them. -/
def device : Driver Unit :=
  { Driver.plain fun state len =>
      (if len ≤ 4 then .ok ⟨0x1000, .ofNat len⟩ else .error (.mappingFailed len), state) with
    unmap := fun _ _ _ d => .done (.error .timeout) d }

/-- The session. -/
def channel : Channel := ⟨7, 0, true⟩

/-- A page that still holds a request, and the cancellation flag. -/
def full : Page :=
  ⟨Page.formatTag, .nil, ⟨2, 9, 0, .replicate ⟨1, 2, 3⟩, true⟩, true, 4, 0⟩

/-- A world whose only page this is. -/
def world : World (Traced Unit) :=
  { World.start ⟨(), []⟩ with
    pages := Arena.empty.add full
    lifecycles := Arena.empty.add (Lifecycle.new.begin 0) }

/-- Three buffers to be lent, and a value. -/
def operation : Operation :=
  ⟨⟨.temporary .input (some 0) 4, .value .input 1 2, .temporary .output (some 1) 9,
    .temporary .inout (some 2) 3⟩, 0⟩

/-- The driver maps and unmaps in one go. -/
theorem selfContained_device : device.SelfContained where
  map _ _ _ _ _ := ⟨_, _, rfl⟩
  unmap _ _ _ _ := ⟨_, _, rfl⟩

/-- What publishing the request comes to. -/
def published : Except Failure Holdings × World (Traced Unit) :=
  Call.publish (Traced.driver device) channel .invokeCommand 5 (some operation) world

/-- The driver refuses. -/
theorem published_eq : published = (.error (.comms .communication), published.2) :=
  Prod.ext rfl rfl

end Refusing

/-- The first buffer is mapped and unmapped again, the second is refused, and the third is not
tried. -/
theorem failed_publication_is_undone_refusing :
    Refusing.published.2.driver.uses =
      [.unmap 7 ⟨0, 0⟩ ⟨0x1000, 4⟩, .map 7 ⟨1, 0⟩ 9 .output (.error (.mappingFailed 9)),
        .map 7 ⟨0, 0⟩ 4 .input (.ok ⟨0x1000, 4⟩)] ∧
    (∀ id, Refusing.published.2.pages.get? id = if id = 0
      then (Refusing.world.pages.get? id).map fun p => { p with ready := false, request := .zero }
      else Refusing.world.pages.get? id) :=
  ⟨rfl, (failed_publication_is_undone Refusing.selfContained_device Refusing.channel .invokeCommand
    5 (some Refusing.operation) Refusing.world Refusing.published_eq).1⟩

end TeeClient

import Mathlib.Data.List.Basic
import TeeClient.Proofs.Parts
import TeeClient.Proofs.Trace

/-!
# What collecting a result relies on

The secure world may have written anything into the page of a session. `Call.collect` reads its
verdict off the two result words, and it gives back what the call holds, no matter what any word
of the page says. A driver may fail to unmap, and cancellations may come in between.

Main statements:

* `Call.told_verdict`: the verdict for every pair of result words;
* `Holdings.gaveBack_release`: giving a slot back asks for its mapping to be removed, once;
* `collect_trusts_result_words`: the verdict, and every mapping given back once, for every driver.
-/

namespace TeeClient

/-! ## Result words -/

/-- The words that name no layer. -/
theorem Origin.ofCode?_eq_none_iff {word : UInt32} :
    Origin.ofCode? word = none ↔ word < 1 ∨ 4 < word := by
  unfold Origin.ofCode?
  rw [UInt32.lt_iff_toNat_lt, UInt32.lt_iff_toNat_lt]
  split
  case h_5 => simp_all; omega
  all_goals simp_all

/-- A word that names a layer is the word for it. -/
theorem Origin.code_of_ofCode? {word : UInt32} {origin : Origin}
    (h : Origin.ofCode? word = some origin) : origin.code = word := by
  unfold Origin.ofCode? at h
  apply UInt32.toNat_inj.1
  split at h
  case h_5 => cases h
  all_goals
    rename_i hw
    rw [← Option.some.inj h, hw]
    rfl

namespace Call

/-- Two result words do not go together: there is no such layer, or one that is not the trusted
application reports a failure. -/
def Inconsistent (origin : UInt32) (status : Status) : Prop :=
  origin < 1 ∨ 4 < origin ∨ (origin ≠ Origin.trustedApp.code ∧ status ≠ Status.success)

/-- A result is what two result words say. -/
structure Told (origin : UInt32) (status : Status) (result : Except Failure Origin) : Prop where
  /-- Words that do not go together tell of a failure of the transport. -/
  inconsistent : Inconsistent origin status → result = .error (.comms .communication)
  /-- A success comes from the layer that is named. -/
  success : ¬ Inconsistent origin status → status = Status.success →
    ∃ layer : Origin, result = .ok layer ∧ layer.code = origin
  /-- A failure comes from the trusted application and has the code that is given. -/
  failure : ¬ Inconsistent origin status → status ≠ Status.success →
    ∃ failure, result = .error failure ∧ failure.code = status ∧ failure.origin = .trustedApp

/-- Some layer speaks, unless the result words do not go together. -/
theorem speaker?_eq_none_iff {origin : UInt32} {status : Status} :
    speaker? origin status = none ↔ Inconsistent origin status := by
  unfold speaker? Inconsistent
  cases h : Origin.ofCode? origin with
  | none =>
    have hw : origin < 1 ∨ 4 < origin := Origin.ofCode?_eq_none_iff.1 h
    exact ⟨fun _ => hw.imp_right .inl, fun _ => rfl⟩
  | some layer =>
    cases Origin.code_of_ofCode? h
    cases layer <;> simp [Origin.code]

/-- The layer that speaks is the one that is named, and it reports a failure only if it is the
trusted application. -/
theorem eq_of_speaker?_eq_some {origin : UInt32} {status : Status} {layer : Origin}
    (h : speaker? origin status = some layer) :
    layer.code = origin ∧ (status ≠ Status.success → layer = .trustedApp) := by
  obtain ⟨hof, hspeaks⟩ := Option.filter_eq_some_iff.1 h
  refine ⟨Origin.code_of_ofCode? hof, fun hs => ?_⟩
  simpa [hs] using hspeaks

/-- The verdict is what the result words say. -/
theorem told_verdict (origin : UInt32) (status : Status) :
    Told origin status (verdict origin status) := by
  unfold verdict
  cases h : speaker? origin status with
  | none =>
    have hi : Inconsistent origin status := speaker?_eq_none_iff.1 h
    exact ⟨fun _ => rfl, fun hn => absurd hi hn, fun hn => absurd hi hn⟩
  | some layer =>
    obtain ⟨hcode, happ⟩ := eq_of_speaker?_eq_some h
    have hn : ¬ Inconsistent origin status := fun hi => by
      rw [speaker?_eq_none_iff.2 hi] at h
      cases h
    refine ⟨fun hi => absurd hi hn, fun _ hs => ⟨layer, if_pos hs, hcode⟩, fun _ hs => ?_⟩
    exact ⟨⟨.ofCode status, layer⟩, if_neg hs, FailureKind.code_ofCode status, happ hs⟩

end Call

/-! ## Giving back -/

/-- The mapping that a use of the driver asks to be removed, with the session it is removed for. -/
def Use.unmapped? : Use → Option (Handle × Held)
  | .unmap handle address info => some (handle, ⟨address, info⟩)
  | _ => none

/-- Between two lists of uses the driver was asked to remove exactly these mappings of a session,
one after the other. Apart from that only sessions were woken. -/
def GaveBack (handle : Handle) (mappings : List Held) (before after : List Use) : Prop :=
  ∃ made, after = made ++ before ∧
    (∀ use ∈ made, use.unmapped?.isSome ∨ ∃ woken, use = .wake woken) ∧
    made.reverse.filterMap Use.unmapped? = mappings.map (handle, ·)

namespace GaveBack

variable {handle : Handle} {mappings more : List Held} {a b c : List Use}

/-- Nothing need be given back. -/
theorem refl (uses : List Use) : GaveBack handle [] uses uses :=
  ⟨[], rfl, (fun _ h => by cases h), rfl⟩

/-- Waking sessions gives nothing back. -/
theorem of_woken {awake : Handle → Prop} (h : Woken awake a b) : GaveBack handle [] a b := by
  obtain ⟨handles, rfl, -⟩ := h
  refine ⟨_, rfl, fun use hu => ?_, ?_⟩
  · obtain ⟨woken, -, rfl⟩ := List.mem_map.1 hu
    exact .inr ⟨woken, rfl⟩
  · refine List.filterMap_eq_nil_iff.2 fun use hu => ?_
    obtain ⟨woken, -, rfl⟩ := List.mem_map.1 (List.mem_reverse.1 hu)
    rfl

/-- What is given back first comes first. -/
theorem trans (h : GaveBack handle mappings a b) (h' : GaveBack handle more b c) :
    GaveBack handle (mappings ++ more) a c := by
  obtain ⟨made, rfl, hmade, hgiven⟩ := h
  obtain ⟨made', rfl, hmade', hgiven'⟩ := h'
  refine ⟨made' ++ made, by rw [List.append_assoc], fun use hu => ?_, ?_⟩
  · exact (List.mem_append.1 hu).elim (hmade' use) (hmade use)
  · rw [List.reverse_append, List.filterMap_append, hgiven, hgiven', List.map_append]

/-- Asking once for the removal of a mapping gives that back. -/
theorem single (mapping : Held) (uses : List Use) :
    GaveBack handle [mapping] uses (.unmap handle mapping.address mapping.info :: uses) :=
  ⟨[_], rfl, fun use hu => by cases List.mem_singleton.1 hu; exact .inl rfl, rfl⟩

end GaveBack

variable {σ : Type} (D : Driver σ)

namespace Holdings

variable {handle : Handle} {held : Holdings}

/-- A slot holds the buffer that was mapped for it, with the description that the driver gave. -/
theorem get_map {slot : Slot} {address : Address} {len : Nat} {access : Access} {w : World σ}
    {info : SecureRange} (h : (held.map D handle slot address len access w).1 = .ok info) :
    (held.map D handle slot address len access w).2.1.get slot = some ⟨address, info⟩ := by
  unfold map at h ⊢
  split at h
  · cases h
  · cases h
    exact Slots.get_put_self ..

/-- The mappings of some slots, in the order of the slots. -/
def mappingsOf (held : Holdings) (slots : List Slot) : List Held := slots.filterMap held.get

/-- Whatever the driver answers, giving a slot back asks once for its mapping to be removed. -/
theorem gaveBack_release (slot : Slot) (w : World (Traced σ)) :
    GaveBack handle (held.get slot).toList w.driver.uses
      (held.release (Traced.driver D) handle slot w).2.driver.uses := by
  cases hs : held.get slot with
  | none =>
    rw [release_of_none hs]
    exact .refl _
  | some mapping =>
    have hu : Woken w.Hears (.unmap handle mapping.address mapping.info :: w.driver.uses)
        (w.onDesk (Traced.driver D)
          ((Traced.driver D).unmap handle mapping.address mapping.info)).2.driver.uses :=
      Traced.uses_enterBefore D _ _ w
    have hgiven : GaveBack handle [mapping] w.driver.uses _ :=
      (GaveBack.single mapping w.driver.uses).trans (.of_woken hu)
    obtain he | ⟨e, he⟩ := release_of_some (Traced.driver D) handle hs w <;>
      rw [he] <;> exact hgiven

/-- The first slot's mapping comes before those of the other slots. -/
theorem mappingsOf_cons (slot : Slot) (slots : List Slot) :
    held.mappingsOf (slot :: slots) = (held.get slot).toList ++ held.mappingsOf slots := by
  unfold mappingsOf
  cases hget : held.get slot <;> simp [hget]

/-- Where nothing is held there is nothing to give back. -/
theorem mappingsOf_eq_nil {slots : List Slot} (h : ∀ slot ∈ slots, held.get slot = Option.none) :
    held.mappingsOf slots = [] :=
  List.filterMap_eq_nil_iff.2 h

/-- Giving one slot back, and then the mappings that others still hold, gives back what all of them
held. -/
theorem gaveBack_cons {slot : Slot} {slots : List Slot} (h : slot ∉ slots) (w : World (Traced σ))
    {after : List Use}
    (hrest : GaveBack handle
      ((held.release (Traced.driver D) handle slot w).1.mappingsOf slots)
      (held.release (Traced.driver D) handle slot w).2.driver.uses after) :
    GaveBack handle (held.mappingsOf (slot :: slots)) w.driver.uses after := by
  have hstill : (held.release (Traced.driver D) handle slot w).1.mappingsOf slots
      = held.mappingsOf slots := by
    refine List.filterMap_congr fun other ho => ?_
    have hne : other ≠ slot := fun he => h (he ▸ ho)
    rw [get_release, if_neg hne]
  rw [hstill] at hrest
  rw [mappingsOf_cons]
  exact (gaveBack_release D slot w).trans hrest

/-- Giving slots back gives back what they hold, in the order of the slots. -/
theorem gaveBack_releaseEach {slots : List Slot} (hnodup : slots.Nodup) (w : World (Traced σ)) :
    GaveBack handle (held.mappingsOf slots) w.driver.uses
      (held.releaseEach (Traced.driver D) handle slots w).driver.uses := by
  induction slots generalizing held w with
  | nil => exact .refl _
  | cons slot rest ih =>
    obtain ⟨hslot, hrest⟩ := List.nodup_cons.1 hnodup
    exact gaveBack_cons D hslot w (ih hrest _)

end Holdings

namespace Call

/-- The order in which a call gives its slots back: together with the parameters of the operation
it carries, or last slot first. -/
def returnOrder (op : Option Operation) : List Slot :=
  if op.isSome then Slot.ascending else Slot.descending

/-- Every slot is given back once. -/
theorem count_returnOrder (op : Option Operation) (slot : Slot) :
    (returnOrder op).count slot = 1 := by
  match op, slot with
  | none, 0 | none, 1 | none, 2 | none, 3 => rfl
  | some _, 0 | some _, 1 | some _, 2 | some _, 3 => rfl

/-- Slots that are taken back hold nothing any more, and the others nothing new. -/
theorem get_takeBackEach (channel : Channel) (copyBack : Bool) {slots : List Slot} (op : Operation)
    (held : Holdings) (w : World σ) {other : Slot} (h : other ∈ slots ∨ held.get other = none) :
    (takeBackEach D channel copyBack slots op held w).2.1.get other = none := by
  induction slots generalizing op held w with
  | nil => exact h.resolve_left (List.not_mem_nil)
  | cons slot rest ih =>
    simp only [takeBackEach]
    refine ih _ _ _ ?_
    rw [Holdings.get_release]
    split
    next => exact .inr rfl
    next hne => exact h.imp_left fun hmem => (List.mem_cons.1 hmem).resolve_left hne

/-- Taking slots back gives back what they hold, whatever their words in the page are. -/
theorem gaveBack_takeBackEach (channel : Channel) (copyBack : Bool) {slots : List Slot}
    (hnodup : slots.Nodup) (op : Operation) (held : Holdings) (w : World (Traced σ)) :
    GaveBack channel.handle (held.mappingsOf slots) w.driver.uses
      (takeBackEach (Traced.driver D) channel copyBack slots op held w).2.2.driver.uses := by
  induction slots generalizing op held w with
  | nil => exact .refl _
  | cons slot rest ih =>
    obtain ⟨hslot, hrest⟩ := List.nodup_cons.1 hnodup
    -- a marker that does not match is only logged
    have hlogged : ∀ mismatch : Bool,
        (if mismatch then w.log (.markerMismatch slot) else w).driver.uses = w.driver.uses := by
      intro mismatch
      split <;> rfl
    rw [← hlogged]
    exact Holdings.gaveBack_cons D hslot _ (ih hrest _ _ _)

/-- Collecting a result gives back everything that is held. -/
theorem gaveBack_collect (channel : Channel) (op : Option Operation) (held : Holdings)
    (exchanged : Bool) (w : World (Traced σ)) :
    GaveBack channel.handle (held.mappingsOf (returnOrder op)) w.driver.uses
      (collect (Traced.driver D) channel op held exchanged w).2.2.driver.uses := by
  -- inconsistent words are only logged
  have hlogged : ∀ (b : Bool) origin status (w : World (Traced σ)),
      (if b then w else w.log (.inconsistentResult origin status)).driver.uses = w.driver.uses := by
    intro b origin status w
    split <;> rfl
  cases op with
  | none =>
    simp only [collect, hlogged]
    exact Holdings.gaveBack_releaseEach D (show Slot.descending.Nodup by decide) w
  | some op =>
    simp only [collect, hlogged]
    have htaken := gaveBack_takeBackEach D channel (exchanged && (speaker?
      (w.page channel.page).origin (w.page channel.page).status).isSome)
      (show Slot.ascending.Nodup by decide) op held w
    have hget := fun slot => get_takeBackEach (Traced.driver D) channel (exchanged && (speaker?
      (w.page channel.page).origin (w.page channel.page).status).isSome) op held w
      (.inl (Slot.mem_ascending slot))
    generalize takeBackEach (Traced.driver D) channel _ Slot.ascending op held w = taken
      at htaken hget ⊢
    obtain ⟨op', held', w'⟩ := taken
    -- nothing is left for the second round
    have hnothing : held'.mappingsOf Slot.descending = [] :=
      Holdings.mappingsOf_eq_nil fun slot _ => hget slot
    have hlast : GaveBack channel.handle (held'.mappingsOf Slot.descending) w'.driver.uses
        (held'.releaseAll (Traced.driver D) channel.handle w').driver.uses :=
      Holdings.gaveBack_releaseEach D (by decide) w'
    rw [hnothing] at hlast
    rw [← List.append_nil (held.mappingsOf _)]
    exact htaken.trans hlast

end Call

/-- The verdict on a call follows from the two result words of the page, for every driver and
whatever else the page says. Under every driver each slot that holds a mapping is given back once,
with the buffer it was obtained for and the description that the driver gave, in an order that
depends on nothing but whether the call carries an operation. -/
theorem collect_trusts_result_words (D : Driver σ) (channel : Channel) (op : Option Operation)
    (held : Holdings) (copyBack : Bool) :
    (∀ w : World σ, Call.Told (w.page channel.page).origin (w.page channel.page).status
      (Call.collect D channel op held copyBack w).1) ∧
    (∀ slot, (Call.returnOrder op).count slot = 1) ∧
    (∀ slot address len access info (w : World σ),
      (held.map D channel.handle slot address len access w).1 = .ok info →
      (held.map D channel.handle slot address len access w).2.1.get slot = some ⟨address, info⟩) ∧
    ∀ w : World (Traced σ), GaveBack channel.handle (held.mappingsOf (Call.returnOrder op))
      w.driver.uses
      (Call.collect (Traced.driver D) channel op held copyBack w).2.2.driver.uses := by
  refine ⟨fun w => Call.told_verdict _ _, Call.count_returnOrder op, ?_,
    Call.gaveBack_collect D channel op held copyBack⟩
  intro slot address len access info w hmap
  exact Holdings.get_map D hmap

end TeeClient

import TeeClient.Proofs.Parts

/-!
# Mappings that a call holds

While a call is under way it keeps a record of the mappings that it holds. `Lends D handle P` says
that `P`, which relates this record to the world, survives what a call does with mappings on the
session of a handle; then it survives the parts of the call, and the record is empty where nothing
is to be held.

Main statements:

* `Lends.publish`: a request that is given up holds nothing;
* `Lends.collect`: a call that has collected its result holds nothing.
-/

namespace TeeClient

variable {σ : Type} {D : Driver σ} {handle : Handle} {P : Holdings → World σ → Prop}

/-- What is known of the mappings that a call holds survives what the call does with them. -/
structure Lends (D : Driver σ) (handle : Handle) (P : Holdings → World σ → Prop) : Prop where
  log : ∀ {held w} r, P held w → P held (w.log r)
  onPage : ∀ {held w} id f, P held w → P held (w.onPage id f)
  /-- A mapping that fails is not held. -/
  refused : ∀ {held w w' address len access e}, P held w →
    w.onDesk D (D.map handle address len access) = (.error e, w') → P held w'
  /-- A mapping that succeeds is held by a slot that held none. -/
  mapped : ∀ {held w w' slot address len access info}, P held w →
    held.get slot = Option.none →
    w.onDesk D (D.map handle address len access) = (.ok info, w') →
    P (held.put slot (some ⟨address, info⟩)) w'
  /-- A mapping that is removed is not held any more, whatever the driver says. -/
  unmapped : ∀ {held w slot mapping}, P held w → held.get slot = some mapping →
    P (held.put slot Option.none) (w.onDesk D (D.unmap handle mapping.address mapping.info)).2

/-- Preparing a slot holds nothing for another. -/
theorem Call.get_prepare {slot other : Slot} (p : Parameter) (hne : other ≠ slot) (held : Holdings)
    (w : World σ) : (prepare D handle slot p held w).2.1.get other = held.get other := by
  have hprepares := prepares D handle slot p held w
  generalize prepare D handle slot p held w = prepared at hprepares
  cases hprepares with
  | rejected | written | refused => rfl
  | mapped => exact Slots.get_put_ne held _ hne

namespace Lends

variable {held : Holdings} {w : World σ} (hl : Lends D handle P)
include hl

/-- The mapping of a slot is given back. -/
theorem release (slot : Slot) (h : P held w) :
    P (held.release D handle slot w).1 (held.release D handle slot w).2 := by
  cases hslot : held.get slot with
  | none =>
    rw [Holdings.release_of_none hslot]
    exact h
  | some mapping =>
    have hu := hl.unmapped h hslot
    obtain he | ⟨e, he⟩ := Holdings.release_of_some D handle hslot w <;> rw [he]
    · exact hu
    · exact hl.log _ hu

/-- Where all slots that hold a mapping give it back, nothing is held. -/
theorem releaseEach (slots : List Slot) (h : P held w)
    (hall : ∀ slot, slot ∉ slots → held.get slot = Option.none) :
    P .none (held.releaseEach D handle slots w) := by
  induction slots generalizing held w with
  | nil =>
    -- no slot is left that could hold a mapping
    have hnone : held = .none := by
      refine Slots.ext_get fun slot => ?_
      rw [hall slot List.not_mem_nil]
      exact (Slots.get_replicate Option.none slot).symm
    rw [← hnone]
    exact h
  | cons slot rest ih =>
    -- the slot holds nothing once its mapping is given back
    have hrest : ∀ other, other ∉ rest →
        (held.release D handle slot w).1.get other = Option.none := by
      intro other ho
      rw [Holdings.get_release]
      split
      next => rfl
      next hne => exact hall other fun hm => (List.mem_cons.1 hm).elim hne ho
    exact ih (hl.release slot h) hrest

/-- Where everything is given back, nothing is held. -/
theorem releaseAll (h : P held w) : P .none (held.releaseAll D handle w) :=
  hl.releaseEach Slot.descending h fun slot hs => absurd (Slot.mem_descending slot) hs

/-- Preparing a slot holds what it maps. -/
theorem prepare {slot : Slot} (p : Parameter) (h : P held w) (hslot : held.get slot = Option.none) :
    P (Call.prepare D handle slot p held w).2.1 (Call.prepare D handle slot p held w).2.2 := by
  have hprepares := Call.prepares D handle slot p held w
  generalize Call.prepare D handle slot p held w = prepared at hprepares
  cases hprepares with
  | rejected plan => exact hl.log _ h
  | written plan => exact h
  | mapped plan answer => exact hl.log _ (hl.mapped h hslot answer)
  | refused plan answer => exact hl.log _ (hl.refused h answer)

/-- Taking slots back gives their mappings back. -/
theorem takeBackEach {channel : Channel} (hc : channel.handle = handle) (copyBack : Bool)
    (slots : List Slot) (op : Operation) (h : P held w) :
    P (Call.takeBackEach D channel copyBack slots op held w).2.1
      (Call.takeBackEach D channel copyBack slots op held w).2.2 := by
  induction slots generalizing op held w with
  | nil => exact h
  | cons slot rest ih =>
    simp only [Call.takeBackEach, hc]
    refine ih _ (hl.release slot ?_)
    split
    · exact hl.log _ h
    · exact h

end Lends

namespace Lends

variable {held : Holdings} {w : World σ} {channel : Channel} (hl : Lends D channel.handle P)
include hl

/-- Filling in slots holds what they map. -/
theorem fillEach (op : Operation) (slots : List Slot) (hn : slots.Nodup) (h : P held w)
    (hslots : ∀ slot ∈ slots, held.get slot = Option.none) :
    P (Call.fillEach D channel op slots held w).2.1
      (Call.fillEach D channel op slots held w).2.2 := by
  induction slots generalizing held w with
  | nil => exact h
  | cons slot rest ih =>
    obtain ⟨hslot, hrest⟩ := List.nodup_cons.1 hn
    have hp := hl.prepare (op.param slot) h (hslots slot List.mem_cons_self)
    -- no slot is filled twice, so the others are still empty
    have hother : ∀ other ∈ rest,
        (Call.prepare D channel.handle slot (op.param slot) held w).2.1.get other
          = Option.none := by
      intro other ho
      have hne : other ≠ slot := by
        rintro rfl
        exact hslot ho
      rw [Call.get_prepare _ hne]
      exact hslots other (List.mem_cons_of_mem _ ho)
    unfold Call.fillEach
    generalize Call.prepare D channel.handle slot (op.param slot) held w = prepared at hp hother
    obtain ⟨failure | words, held', w'⟩ := prepared
    · exact hp
    · exact ih hrest (hl.onPage _ _ hp) hother

/-- Filling in all slots holds what they map. -/
theorem fill (op : Operation) (h : P .none w) :
    P (Call.fill D channel op w).2.1 (Call.fill D channel op w).2.2 := by
  have hf := hl.fillEach op Slot.ascending (by decide) h fun slot _ =>
    Slots.get_replicate Option.none slot
  unfold Call.fill
  generalize Call.fillEach D channel op Slot.ascending .none w = filled at hf
  obtain ⟨failure | _, held, w'⟩ := filled
  · exact hf
  · simp only
    split
    · exact hl.log _ hf
    · exact hf

/-- Publishing a request holds what it maps, and holds nothing if it fails. -/
theorem publish (instruction : Instruction) (command : UInt32) (op : Option Operation)
    (h : P .none w) :
    P ((Call.publish D channel instruction command op w).1.toOption.getD .none)
      (Call.publish D channel instruction command op w).2 := by
  have hclear := hl.onPage channel.page (fun p => (p.setReady false).clearRequest) h
  unfold Call.publish
  cases op with
  | none => exact hl.log _ (hl.onPage _ _ hclear)
  | some op =>
    have hf := hl.fill op hclear
    simp only
    generalize Call.fill D channel op _ = filled at hf
    obtain ⟨failure | _, held, w'⟩ := filled
    · exact hl.releaseAll (hl.onPage _ _ hf)
    · exact hl.log _ (hl.onPage _ _ hf)

/-- Collecting the result gives every mapping back. -/
theorem collect (op : Option Operation) (exchanged : Bool) (h : P held w) :
    P .none (Call.collect D channel op held exchanged w).2.2 := by
  unfold Call.collect
  cases op with
  | none =>
    simp only
    split
    · exact hl.releaseAll h
    · exact hl.log _ (hl.releaseAll h)
  | some op =>
    have ht := hl.takeBackEach rfl (exchanged && (Call.speaker? (w.page channel.page).origin
      (w.page channel.page).status).isSome) Slot.ascending op h
    simp only
    generalize Call.takeBackEach D channel _ Slot.ascending op held w = taken at ht
    obtain ⟨op', held', w'⟩ := taken
    split
    · exact hl.releaseAll ht
    · exact hl.log _ (hl.releaseAll ht)

end Lends

end TeeClient

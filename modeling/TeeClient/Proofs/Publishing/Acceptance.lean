import TeeClient.Proofs.Publishing
import TeeClient.Proofs.Stock

/-!
# Which parameters can be sent

A temporary reference can be sent if its size fits a word of 32 bits, and a window if the block is
granted in its direction and holds it. Nothing else stands in the way: a block is never too large
for the word, since its size was checked against the limit of its context, and that limit against
the word when the context was opened.

Main statements:

* `Client.Vetted.booked`: which contexts and blocks a call may enter;
* `Parameter.unsendable_iff`: what cannot be sent, for references into blocks that fit a word;
* `Parameter.outputSize_of_gives`: the size that the secure world reads;
* `wellformed_parameters_are_sent`: how far requests over the blocks of a client are sent.
-/

namespace TeeClient

variable {σ : Type}

/-! ## Blocks of a client -/

/-- Settings in range limit the size of blocks to what fits a word of 32 bits. -/
theorem Config.maxSharedMemorySize_lt {config : Config} (h : config.fault? = none) :
    config.maxSharedMemorySize < UInt32.size := by
  unfold fault? at h
  split at h
  · cases h
  split at h
  · cases h
  split at h
  · cases h
  next hlt => exact Nat.lt_of_not_le hlt

namespace Client

variable {D : Driver σ} {c c' : Client σ}

/-- The contexts and blocks of a client are those of before, or were checked: the settings of a
context are in range, and a block is no larger than a context allows. -/
structure Vetted (c c' : Client σ) : Prop where
  context : ∀ name ctx, c'.contexts.get? name = some ctx →
    c.contexts.get? name = some ctx ∨ ctx.config.fault? = none
  block : ∀ name b, c'.blocks.get? name = some b → c.blocks.get? name = some b ∨
    ∃ context ctx, c.contexts.get? context = some ctx ∧ b.size ≤ ctx.config.maxSharedMemorySize

namespace Vetted

/-- A call that leaves contexts and blocks as they are leaves them vetted. -/
theorem of_eq (hcontexts : c'.contexts = c.contexts) (hblocks : c'.blocks = c.blocks) :
    c.Vetted c' where
  context name ctx h := .inl (by rw [← hcontexts]; exact h)
  block name b h := .inl (by rw [← hblocks]; exact h)

/-- What a call does to contexts and blocks was checked. -/
theorem booked {notes : List BlockNote} (h : c.Booked c' notes) : c.Vetted c' := by
  cases h with
  | idle stock =>
    simp only [Client.stock, Prod.mk.injEq] at stock
    exact .of_eq stock.1 stock.2.2
  | opened context config sound _ contexts _ blocks =>
    refine ⟨fun name ctx hctx => ?_, fun name b hb => .inl (blocks ▸ hb)⟩
    rw [contexts, Table.get?_set] at hctx
    split at hctx
    · cases hctx
      exact .inr sound
    · exact .inl hctx
  | closed context contexts _ blocks =>
    refine ⟨fun name ctx hctx => .inl ?_, fun name b hb => .inl (blocks ▸ hb)⟩
    rw [contexts, Table.get?_erase] at hctx
    split at hctx
    · cases hctx
    · exact hctx
  -- a block that is there was there before, or is the one that was just vetted
  | created context block ctx b held _ allowed _ _ contexts _ blocks =>
    refine ⟨fun name ctx hctx => .inl (contexts ▸ hctx), fun name b' hb' => ?_⟩
    rw [blocks, Table.get?_set] at hb'
    split at hb'
    · cases hb'
      exact .inr ⟨context, ctx, held, allowed⟩
    · exact .inl hb'
  | released block b _ contexts _ blocks =>
    refine ⟨fun name ctx hctx => .inl (contexts ▸ hctx), fun name b' hb' => .inl ?_⟩
    rw [blocks, Table.get?_erase] at hb'
    split at hb'
    · cases hb'
    · exact hb'

end Vetted

/-- The limits of a client's contexts and the sizes of its blocks fit a word of 32 bits. -/
structure Limited (c : Client σ) : Prop where
  context : ∀ name ctx, c.contexts.get? name = some ctx →
    ctx.config.maxSharedMemorySize < UInt32.size
  block : ∀ name b, c.blocks.get? name = some b → b.size < UInt32.size

/-- What was checked is limited. -/
theorem Limited.vetted (h : c.Limited) (hc : c.Vetted c') : c'.Limited where
  context name ctx hctx :=
    (hc.context name ctx hctx).elim (h.context name ctx) Config.maxSharedMemorySize_lt
  block name b hb := (hc.block name b hb).elim (h.block name b)
    fun ⟨context, ctx, hctx, hle⟩ => Nat.lt_of_le_of_lt hle (h.context context ctx hctx)

/-- The contexts and blocks that a client has after any calls are limited. -/
theorem limited_steps {before : ClientCall → σ → σ → Prop} {inner : σ}
    (run : Steps D before (.start inner) c) : c.Limited :=
  run.preserves (P := Limited) (fun c _ _ driver h _ hp =>
    Limited.vetted (c := c.withDriver driver) ⟨h.context, h.block⟩ (.booked (booked_of_perform hp)))
    ⟨nofun, nofun⟩

end Client

/-! ## What can be sent -/

namespace Parameter

/-- The parameter cannot be sent: a temporary reference whose size does not fit a word of 32 bits,
or a window into a block that is not granted in its direction or does not hold it. -/
def Malformed : Parameter → Prop
  | temporary _ _ size => UInt32.size ≤ size
  | window direction parent offset size =>
    parent.flags.contains direction.access = false ∨ parent.size < offset + size
  | unused | value .. | whole .. => False

/-- The size of which the secure world is told: for a block as a whole it is that of the block. -/
def extent? : Parameter → Option Nat
  | temporary _ _ size | window _ _ _ size => some size
  | whole parent _ => some parent.size
  | unused | value .. => none

/-- A reference can be planned exactly if its size fits a word. -/
theorem reference_eq_error_iff {buffer : Option BufferId} {offset len : Nat} {access : Access} :
    (∃ refusal, Plan.reference buffer offset len access = .error refusal) ↔ UInt32.size ≤ len := by
  have hrefers := Plan.refers buffer offset len access
  generalize Plan.reference buffer offset len access = planned at hrefers
  cases hrefers with
  | mapped _ _ fits | empty fits => exact iff_of_false nofun (Nat.not_le_of_lt fits)
  | oversize large => exact iff_of_true ⟨_, rfl⟩ large

/-- A reference that is too large for a word is no larger than the block that it points into. -/
theorem of_plan_eq_oversize {p : Parameter} {size : Nat} (h : p.plan = .error (.oversize size)) :
    UInt32.size ≤ size ∧ ∀ b, p.parent? = some b → size ≤ b.size := by
  have hreference : ∀ {buffer : Option BufferId} {offset len : Nat} {access : Access},
      Plan.reference buffer offset len access = .error (.oversize size) →
      UInt32.size ≤ len ∧ size = len := by
    intro buffer offset len access hplan
    have hrefers := Plan.refers buffer offset len access
    rw [hplan] at hrefers
    cases hrefers with
    | oversize large => exact ⟨large, rfl⟩
  cases p with
  | unused | value => cases h
  | temporary direction buffer len =>
    obtain ⟨hlarge, rfl⟩ := hreference h
    exact ⟨hlarge, nofun⟩
  | whole parent len =>
    obtain ⟨hlarge, rfl⟩ := hreference h
    refine ⟨hlarge, fun b hb => ?_⟩
    cases hb
    exact Nat.le_refl _
  | window direction parent offset len =>
    -- only a window that lies in its block gets as far as the check of its size
    obtain ⟨-, he⟩ | ⟨-, he⟩ | ⟨-, hwithin, he⟩ := plan_window_cases direction parent offset len
    · rw [he] at h
      cases h
    · rw [he] at h
      cases h
    · obtain ⟨hlarge, rfl⟩ := hreference (he.symm.trans h)
      refine ⟨hlarge, fun b hb => ?_⟩
      cases hb
      omega

/-- What cannot be sent, where a block that is pointed into fits a word. -/
theorem unsendable_iff {p : Parameter} (h : ∀ b, p.parent? = some b → b.size < UInt32.size) :
    p.Unsendable ↔ p.Malformed := by
  cases p with
  | unused | value => exact iff_of_false (fun ⟨_, hr⟩ => nomatch hr) id
  | temporary direction buffer size => exact reference_eq_error_iff
  | whole parent size =>
    exact iff_of_false (fun hr => Nat.not_le_of_lt (h parent rfl) (reference_eq_error_iff.1 hr)) id
  | window direction parent offset size =>
    obtain ⟨hdenied, he⟩ | ⟨hbeyond, he⟩ | ⟨hgranted, hwithin, he⟩ :=
      plan_window_cases direction parent offset size
    · exact iff_of_true ⟨_, he⟩ (.inl hdenied)
    · exact iff_of_true ⟨_, he⟩ (.inr hbeyond)
    · -- the window is in the block, so its size fits a word as that of the block does
      have hfits : size < UInt32.size := by
        have hblock : parent.size < UInt32.size := h parent rfl
        omega
      refine iff_of_false (fun ⟨refusal, hr⟩ => ?_) fun hm => ?_
      · exact Nat.not_le_of_lt hfits (reference_eq_error_iff.1 ⟨refusal, he.symm.trans hr⟩)
      · rcases hm with hdenied | hbeyond
        · rw [hgranted] at hdenied
          cases hdenied
        · omega

/-- The size that the secure world reads is the size of the reference. -/
theorem outputSize_of_gives {p : Parameter} {plan : Plan} {words : SlotWords} {size : Nat}
    (h : p.plan = .ok plan) (hg : plan.Gives words) (hs : p.extent? = some size) :
    words.outputSize.toNat = size := by
  have hreference : ∀ {buffer : Option BufferId} {offset len : Nat} {access : Access},
      Plan.reference buffer offset len access = .ok plan → words.outputSize.toNat = len := by
    intro buffer offset len access hplan
    have hrefers := Plan.refers buffer offset len access
    rw [hplan] at hrefers
    cases hrefers with
    | mapped id held fits =>
      obtain ⟨info, rfl⟩ := hg
      exact UInt32.toNat_ofNat_of_lt fits
    | empty fits =>
      cases hg
      exact UInt32.toNat_ofNat_of_lt fits
  cases p with
  | unused | value => cases hs
  | temporary | whole => cases hs; exact hreference h
  | window direction parent offset size =>
    cases hs
    exact hreference (of_plan_window h).2.2

end Parameter

/-- The end of a window in words of 64 bits; `none` if there is no such word. -/
def checkedEnd? (offset size : UInt64) : Option UInt64 :=
  if offset + size < offset then none else some (offset + size)

/-- In words of 64 bits a window is in a block exactly if its end is such a word, and not beyond the
block. -/
theorem checkedEnd?_le_iff {offset size limit : UInt64} :
    (∃ last, checkedEnd? offset size = some last ∧ last ≤ limit) ↔
      offset.toNat + size.toNat ≤ limit.toNat := by
  have ho := offset.toNat_lt
  have hs := size.toNat_lt
  have hl := limit.toNat_lt
  unfold checkedEnd?
  split
  next hover =>
    rw [UInt64.lt_iff_toNat_lt, UInt64.toNat_add] at hover
    refine iff_of_false (fun ⟨_, hnone, _⟩ => nomatch hnone) ?_
    omega
  next hover =>
    rw [UInt64.lt_iff_toNat_lt, UInt64.toNat_add] at hover
    simp only [Option.some.injEq, exists_eq_left', UInt64.le_iff_toNat_le, UInt64.toNat_add]
    omega

/-! ## Requests over the blocks of a client -/

namespace Call

/-- A slot is rejected exactly if its parameter cannot be planned. -/
theorem prepare_rejects_iff {D : Driver σ} {handle : Handle} {slot : Slot} {p : Parameter}
    {held : Holdings} {w : World σ} :
    (prepare D handle slot p held w).1 = .error (.api .badParameters) ↔ p.Unsendable := by
  have hprepares := prepares D handle slot p held w
  generalize prepare D handle slot p held w = prepared at hprepares
  cases hprepares with
  | rejected plan => exact iff_of_true rfl ⟨_, plan⟩
  | written plan | mapped plan => exact iff_of_false nofun (Parameter.sendable_of_plan plan)
  | refused plan =>
    -- a mapping that fails is a failure of the transport
    exact iff_of_false nofun (Parameter.sendable_of_plan plan)

/-- Requests for the operation are sent exactly as far as its parameters are well-formed. -/
structure Sifts (D : Driver σ) (channel : Channel) (op : Operation) : Prop where
  /-- A slot is rejected exactly if its parameter is malformed. -/
  rejects : ∀ slot held (w : World σ),
    (prepare D channel.handle slot (op.param slot) held w).1 = .error (.api .badParameters) ↔
      (op.param slot).Malformed
  /-- A reference into a block is never too large for a word. -/
  fits : ∀ slot b size, (op.param slot).parent? = some b →
    (op.param slot).plan ≠ .error (.oversize size)
  /-- The slots are scanned in order, and the scan decides whether the request is published; an
  operation that is finished by then is given up. The driver is asked for the mappings of the scan
  and, if the request is given up, to remove those that it made; beside that, sessions may be woken
  if the driver asks for cancellations. -/
  scans : ∀ instruction command (w : World (Traced σ)),
    let published := publish (Traced.driver D) channel instruction command (some op) w
    ∃ uses result, Scan Parameter.Malformed channel.handle op Slot.ascending uses result ∧
      match published.1 with
      | .ok _ => result = .ok () ∧
        Follows (fun _ => True) uses w.driver.uses published.2.driver.uses
      | .error failure => (result = .error failure ∨ result = .ok () ∧ failure = .comms .cancel) ∧
        Follows (fun _ => True) (uses ++ undone uses) w.driver.uses published.2.driver.uses
  /-- In a request that is published, the size of a reference is exactly the size that it has.
  Cancellations that the driver asks for on the way leave the page alone, since no request is
  published in it yet. -/
  sizes : D.SparesMapping (fun p => p.ready = false) →
    ∀ instruction command (w : World σ) held page, w.pages.get? channel.page = some page →
    (publish D channel instruction command (some op) w).1 = .ok held →
    ∃ page', (publish D channel instruction command (some op) w).2.pages.get? channel.page
        = some page' ∧
      ∀ slot size, (op.param slot).extent? = some size →
        (page'.param slot).outputSize.toNat = size

end Call

/-- Whatever calls a client has made, requests for operations over its blocks are sent exactly as
far as their parameters are well-formed, on every session of every driver. That a window is in its
block is meant for numbers of any size; in words of 64 bits it is the same with an addition that is
checked for overflow. -/
theorem wellformed_parameters_are_sent {τ : Type} {E : Driver τ}
    {before : ClientCall → τ → τ → Prop} {inner : τ} {c : Client τ}
    (run : Client.Steps E before (.start inner) c) (op : Operation)
    (hop : ∀ slot b, (op.param slot).parent? = some b → ∃ name, c.blocks.get? name = some b)
    (D : Driver σ) (channel : Channel) :
    Call.Sifts D channel op ∧
    ∀ direction parent (offset size limit : UInt64), parent.size = limit.toNat →
      ((Parameter.window direction parent offset.toNat size.toNat).Malformed ↔
        parent.flags.contains direction.access = false ∨
          ¬ ∃ last, checkedEnd? offset size = some last ∧ last ≤ limit) := by
  have hlimited := Client.limited_steps run
  have hiff : ∀ slot, (op.param slot).Unsendable ↔ (op.param slot).Malformed := by
    refine fun slot => Parameter.unsendable_iff fun b hb => ?_
    obtain ⟨name, hname⟩ := hop slot b hb
    exact hlimited.block name b hname
  refine ⟨⟨fun slot held w => Call.prepare_rejects_iff.trans (hiff slot), ?_, ?_, ?_⟩, ?_⟩
  · intro slot b size hb hplan
    obtain ⟨hlarge, hinside⟩ := Parameter.of_plan_eq_oversize hplan
    obtain ⟨name, hname⟩ := hop slot b hb
    exact Nat.not_le_of_lt (hlimited.block name b hname) (Nat.le_trans hlarge (hinside b hb))
  · intro instruction command w
    obtain ⟨uses, hscan, hpublished⟩ :=
      Call.publish_scans (D.wakes_any channel.handle) instruction command op w
    refine ⟨uses, _, hscan.congr hiff, ?_⟩
    generalize Call.publish (Traced.driver D) channel instruction command (some op) w = published
      at hpublished
    obtain ⟨failure | held, w'⟩ := published
    · exact ⟨hpublished.1.imp_right fun h => ⟨h.1, h.2.1⟩, hpublished.2⟩
    · exact hpublished
  · intro hspares instruction command w held page hpage hpublished
    obtain ⟨page', hpage', -, -, hcomplete⟩ := Call.publish_complete hspares hpage hpublished
    refine ⟨page', hpage', fun slot size hs => ?_⟩
    obtain ⟨plan, hplan, hgives⟩ := hcomplete.params slot
    exact Parameter.outputSize_of_gives hplan hgives hs
  · intro direction parent offset size limit hlimit
    rw [checkedEnd?_le_iff, ← hlimit, Nat.not_le]
    rfl

/-! An operation over a block of sixteen bytes. -/

namespace Sixteen

/-- A driver that maps everything. -/
def device : Driver Unit := .plain fun state len => (.ok ⟨0x1000, .ofNat len⟩, state)

/-- A program that allocates a block for the secure world to read. -/
def client? : Option (Client Unit) :=
  Client.performAll device (fun _ d => d) (.start ())
    [.openContext "tee" none .default, .allocate "tee" "block" 16 .input]

/-- The block. -/
def block : Block := ⟨0, 0, some 0, 16, .input, true⟩

/-- The block as a whole, its last bytes, and a buffer that is missing; then bytes beyond its
end. -/
def operation : Operation :=
  ⟨⟨.whole block 99, .window .input block 12 4, .temporary .output none 0xffffffff,
    .window .input block 12 0xfffffffffffffff4⟩, 0⟩

end Sixteen

/-- Only the window beyond the end of the block is rejected. -/
theorem wellformed_parameters_are_sent_sixteen :
    ∃ c, Sixteen.client? = some c ∧
      Call.Sifts Sixteen.device ⟨7, 0, true⟩ Sixteen.operation ∧
      ∀ slot, (Sixteen.operation.param slot).Malformed ↔ slot = 3 := by
  obtain ⟨c, hc⟩ := Option.isSome_iff_exists.1
    (show Sixteen.client?.isSome = true by decide +kernel)
  have hblock : c.blocks.get? "block" = some Sixteen.block :=
    (show ∀ c ∈ Sixteen.client?, c.blocks.get? "block" = some Sixteen.block by
      decide +kernel) c hc
  have run : Client.Steps Sixteen.device (fun _ a b => a = b) (.start ()) c :=
    Client.steps_performAll (fun _ _ => rfl) hc
  refine ⟨c, hc, (wellformed_parameters_are_sent run Sixteen.operation (fun slot b hb => ?_)
    Sixteen.device ⟨7, 0, true⟩).1, ?_⟩
  · have hb' : b = Sixteen.block := by
      match slot with
      | 0 | 1 | 3 => exact (Option.some.inj hb).symm
      | 2 => cases hb
    exact ⟨"block", hb' ▸ hblock⟩
  · intro slot
    match slot with
    | 0 => exact iff_of_false id (by decide)
    | 1 => exact iff_of_false (by rintro (h | h) <;> revert h <;> decide) (by decide)
    | 2 => exact iff_of_false (by show ¬ _ ≤ _; decide) (by decide)
    | 3 => exact iff_of_true (.inr (by decide)) rfl

end TeeClient

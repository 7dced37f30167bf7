import Mathlib.Data.List.Nodup
import TeeClient.Proofs.Stock

/-!
# Accounts of shared blocks

The registry of a context counts the blocks that were created through it and are not released yet.
Blocks are numbered by their registry and named by the program that holds them, and both numbers and
names come and go: a block may outlive its context, and the names of both may then be used again.

By the notes of a program alone, `outstanding` is what is left of the blocks of a context.
`Client.Reconciled` says that notes, blocks and registries agree.

Main statements:

* `Client.Reconciled.opened`, `Client.Reconciled.created` and `Client.Reconciled.released`: what
  becomes of the accounts when contexts are opened and blocks come and go;
* `Client.Reconciled.booked`: every call that does no more than it notes down keeps them reconciled.
-/

namespace TeeClient

variable {σ : Type}

/-- What a registry knows of a block, by its number there. -/
def Block.entry (b : Block) : Nat × BlockEntry := (b.id, ⟨b.allocated, b.size⟩)

/-! ## Notes -/

/-- The blocks that were created through a context since it was opened and not released since, by
the notes, the latest first. Each comes with whether the library owns its memory. -/
def outstanding (context : String) : List BlockNote → List (String × Bool)
  | [] => []
  | .opened name :: earlier => if name = context then [] else outstanding context earlier
  | .created name block allocated :: earlier =>
    if name = context then (block, allocated) :: outstanding context earlier
    else outstanding context earlier
  | .released block :: earlier => (outstanding context earlier).filter fun e => e.1 ≠ block

namespace Client

/-- Runs of a client program that notes down what becomes of its blocks, the latest first. Right
before each call the driver's own state may change from outside, as `before` allows. -/
inductive Noted (D : Driver σ) (before : ClientCall → σ → σ → Prop) (c : Client σ) :
    List BlockNote → Client σ → Prop
  | refl : Noted D before c [] c
  | call {notes : List BlockNote} {c₁ c₂ : Client σ} (call : ClientCall) (driver : σ)
    (run : Noted D before c notes c₁) (change : before call c₁.world.driver driver)
    (performed : (c₁.withDriver driver).perform D call = some c₂) :
    Noted D before c ((c₁.withDriver driver).blockNotes D call ++ notes) c₂

variable {c c' : Client σ}

/-! ## Reconciliation -/

/-- The blocks of a registry by name, in the order of their creation. -/
def blocksOf (c : Client σ) (id : RegistryId) : List (String × Block) :=
  c.blocks.entries.filter fun e => e.2.registry = id

/-- The notes of a program agree with its blocks, and its blocks with the registries. -/
structure Reconciled (notes : List BlockNote) (c : Client σ) : Prop where
  /-- A registry has an entry for each of its blocks, and for nothing else. -/
  entered : ∀ id r, c.registries.get? id = some r →
    r.table.entries = (c.blocksOf id).map fun e => e.2.entry
  block : ∀ name b, c.blocks.get? name = some b → (c.registries.get? b.registry).isSome = true
  context : ∀ name ctx, c.contexts.get? name = some ctx →
    (c.registries.get? ctx.registry).isSome = true
  /-- No two contexts have the same registry. -/
  distinct : ∀ name other ctx ctx', c.contexts.get? name = some ctx →
    c.contexts.get? other = some ctx' → ctx.registry = ctx'.registry → name = other
  /-- What is outstanding of a context by the notes are the blocks of its registry. -/
  noted : ∀ name ctx, c.contexts.get? name = some ctx →
    outstanding name notes = ((c.blocksOf ctx.registry).map fun e => (e.1, e.2.allocated)).reverse

variable {notes : List BlockNote}

/-- A client that has done nothing has no blocks. -/
theorem reconciled_start (driver : σ) : (start driver).Reconciled [] where
  entered := nofun
  block := nofun
  context := nofun
  distinct := nofun
  noted := nofun

namespace Reconciled

variable (h : c.Reconciled notes)
include h

/-- The blocks of a registry have numbers of their own. -/
theorem nodup_ids {id : RegistryId} {r : Registry} (hr : c.registries.get? id = some r) :
    ((c.blocksOf id).map fun e => e.2.id).Nodup := by
  have hkeys := r.table.nodup
  rwa [h.entered id r hr, List.map_map] at hkeys

/-- A registry that was not handed out has no blocks. -/
theorem blocksOf_fresh : c.blocksOf c.registries.fresh = [] := by
  refine List.filter_eq_nil_iff.2 fun e he => ?_
  have hblock := h.block e.1 e.2 (Table.get?_eq_some_iff.2 he)
  intro hfresh
  rw [of_decide_eq_true hfresh, Arena.get?_fresh] at hblock
  cases hblock

/-- Reconciliation is a matter of contexts, registries and blocks. -/
theorem congr (stock : c'.stock = c.stock) : c'.Reconciled notes := by
  simp only [Client.stock, Prod.mk.injEq] at stock
  obtain ⟨contexts, registries, blocks⟩ := stock
  obtain ⟨entered, block, context, distinct, noted⟩ := h
  exact {
    entered := by simpa only [blocksOf, blocks, registries] using entered
    block := by simpa only [blocks, registries] using block
    context := by simpa only [contexts, registries] using context
    distinct := by simpa only [contexts] using distinct
    noted := by simpa only [blocksOf, contexts, blocks] using noted }

/-- A context that is opened has no blocks yet, nor has its registry. -/
theorem opened {context : String} {config : Config} (new : c.contexts.contains context = false)
    (contexts : c'.contexts = c.contexts.set context ⟨config, c.registries.fresh⟩)
    (registries : c'.registries = c.registries.add .empty) (blocks : c'.blocks = c.blocks) :
    c'.Reconciled (.opened context :: notes) := by
  have hblocks : ∀ id, c'.blocksOf id = c.blocksOf id := fun id => by simp [blocksOf, blocks]
  -- a registry that was there is not the fresh one, and is there still
  have hkept : ∀ id, (c.registries.get? id).isSome = true →
      id ≠ c.registries.fresh ∧ (c'.registries.get? id).isSome = true := by
    intro id hid
    have hne : id ≠ c.registries.fresh := by
      rintro rfl
      simp at hid
    exact ⟨hne, by simpa [registries, Arena.get?_add, hne] using hid⟩
  have hnew : c.contexts.get? context = none := by simpa [Table.contains] using new
  constructor
  case entered =>
    intro id r hr
    rw [hblocks]
    rw [registries, Arena.get?_add] at hr
    split at hr
    next hid =>
      cases hr
      rw [hid, h.blocksOf_fresh]
      rfl
    next => exact h.entered id r hr
  case block =>
    intro name b hb
    rw [blocks] at hb
    exact (hkept _ (h.block name b hb)).2
  case context =>
    intro name ctx hctx
    rw [contexts, Table.get?_set] at hctx
    split at hctx
    · cases hctx
      simp [registries, Arena.get?_add]
    · exact (hkept _ (h.context name ctx hctx)).2
  case distinct =>
    intro name other ctx ctx' hctx hctx' hsame
    rw [contexts, Table.get?_set] at hctx hctx'
    split at hctx <;> split at hctx'
    next hname hother => rw [hname, hother]
    next =>
      cases hctx
      exact absurd hsame.symm (hkept _ (h.context other ctx' hctx')).1
    next =>
      cases hctx'
      exact absurd hsame (hkept _ (h.context name ctx hctx)).1
    next => exact h.distinct name other ctx ctx' hctx hctx' hsame
  case noted =>
    intro name ctx hctx
    rw [hblocks]
    rw [contexts, Table.get?_set] at hctx
    split at hctx
    next hname =>
      cases hctx
      simp [outstanding, hname, h.blocksOf_fresh]
    next hname =>
      rw [outstanding, if_neg (Ne.symm hname)]
      exact h.noted name ctx hctx

/-- A context that is closed leaves its registry to its blocks. -/
theorem closed {context : String} (contexts : c'.contexts = c.contexts.erase context)
    (registries : c'.registries = c.registries) (blocks : c'.blocks = c.blocks) :
    c'.Reconciled notes := by
  have hblocks : ∀ id, c'.blocksOf id = c.blocksOf id := fun id => by simp [blocksOf, blocks]
  -- the contexts that are left were there before
  have hheld : ∀ name ctx, c'.contexts.get? name = some ctx → c.contexts.get? name = some ctx := by
    intro name ctx hctx
    rw [contexts, Table.get?_erase] at hctx
    split at hctx
    · cases hctx
    · exact hctx
  constructor
  case entered =>
    intro id r hr
    rw [hblocks]
    exact h.entered id r (registries ▸ hr)
  case block =>
    intro name b hb
    rw [registries]
    exact h.block name b (blocks ▸ hb)
  case context =>
    intro name ctx hctx
    rw [registries]
    exact h.context name ctx (hheld name ctx hctx)
  case distinct =>
    intro name other ctx ctx' hctx hctx'
    exact h.distinct name other ctx ctx' (hheld name ctx hctx) (hheld other ctx' hctx')
  case noted =>
    intro name ctx hctx
    rw [hblocks]
    exact h.noted name ctx (hheld name ctx hctx)

/-- A block that is created is entered in the registry of its context, under a number that was not
given before. -/
theorem created {context block : String} {ctx : Context} {b : Block}
    (held : c.contexts.get? context = some ctx) (new : c.blocks.contains block = false)
    (registry : b.registry = ctx.registry)
    (id : b.id = ((c.registries.get? ctx.registry).getD .empty).fresh)
    (contexts : c'.contexts = c.contexts)
    (registries : c'.registries = c.registries.modify ctx.registry (·.add ⟨b.allocated, b.size⟩))
    (blocks : c'.blocks = c.blocks.set block b) :
    c'.Reconciled (.created context block b.allocated :: notes) := by
  -- the new block comes last in its registry, and in no other
  have hblocks : ∀ id, c'.blocksOf id
      = c.blocksOf id ++ if id = ctx.registry then [(block, b)] else [] := by
    intro id
    simp only [blocksOf, blocks, Table.entries_set_of_new b new, List.filter_append]
    by_cases hid : id = ctx.registry
    · simp [hid, registry]
    · simp [hid, registry, Ne.symm hid]
  have hkept : ∀ id, (c'.registries.get? id).isSome = (c.registries.get? id).isSome := by
    intro id
    rw [registries, Arena.isSome_get?_modify]
  constructor
  case entered =>
    intro id' r hr
    rw [hblocks]
    rw [registries, Arena.get?_modify] at hr
    split at hr
    next hid =>
      obtain ⟨r', hr', rfl⟩ := Option.map_eq_some_iff.1 hr
      subst hid
      rw [hr', Option.getD_some] at id
      simp [Arena.entries_add, h.entered _ r' hr', Block.entry, id]
    next hid => simpa [hid] using h.entered id' r hr
  -- the new block is in the registry of its context, which is there
  case block =>
    intro name b' hb'
    rw [hkept]
    rw [blocks, Table.get?_set] at hb'
    split at hb'
    · cases hb'
      rw [registry]
      exact h.context context ctx held
    · exact h.block name b' hb'
  case context =>
    intro name ctx' hctx'
    rw [hkept]
    exact h.context name ctx' (contexts ▸ hctx')
  case distinct =>
    simpa only [contexts] using h.distinct
  case noted =>
    intro name ctx' hctx'
    rw [contexts] at hctx'
    rw [hblocks, outstanding]
    by_cases hname : context = name
    · subst hname
      obtain rfl : ctx = ctx' := Option.some.inj (held.symm.trans hctx')
      simp [h.noted context ctx held]
    · -- another context has another registry
      have hother : ctx'.registry ≠ ctx.registry := fun he =>
        hname (h.distinct context name ctx ctx' held hctx' he.symm)
      simp [hname, hother, h.noted name ctx' hctx']

/-- A block that is released is struck out of its registry, and no other block is. -/
theorem released {block : String} {b : Block} (held : c.blocks.get? block = some b)
    (contexts : c'.contexts = c.contexts)
    (registries : c'.registries = c.registries.modify b.registry (·.erase b.id))
    (blocks : c'.blocks = c.blocks.erase block) : c'.Reconciled (.released block :: notes) := by
  have hblocks : ∀ id, c'.blocksOf id = (c.blocksOf id).filter fun e => e.1 ≠ block := by
    intro id
    simp only [blocksOf, blocks, Table.erase, List.filter_filter, Bool.and_comm]
  have hkept : ∀ id, (c'.registries.get? id).isSome = (c.registries.get? id).isSome := by
    intro id
    rw [registries, Arena.isSome_get?_modify]
  have hmem := Table.get?_eq_some_iff.1 held
  constructor
  case entered =>
    intro id r hr
    rw [hblocks]
    rw [registries, Arena.get?_modify] at hr
    split at hr
    next hid =>
      obtain ⟨r', hr', rfl⟩ := Option.map_eq_some_iff.1 hr
      subst hid
      have hids := h.nodup_ids hr'
      have hin : (block, b) ∈ c.blocksOf b.registry := by simp [blocksOf, hmem]
      -- in its registry a block is known by its number as well as by its name
      have hsame : ∀ e ∈ c.blocksOf b.registry, (e.2.id = b.id ↔ e.1 = block) := by
        intro e he
        refine ⟨fun hid => ?_, fun hname => ?_⟩
        · rw [List.inj_on_of_nodup_map hids he hin hid]
        · rw [Table.value_eq held (List.mem_of_mem_filter he) hname]
      simp only [Arena.erase, Table.erase, h.entered _ r' hr', List.filter_map]
      congr 1
      refine List.filter_congr fun e he => ?_
      simp [Block.entry, hsame e he]
    next hid =>
      rw [h.entered id r hr, List.filter_eq_self.2]
      intro e he
      -- the block that is released belongs to another registry
      have hother : e.1 ≠ block := by
        intro hname
        have hsame := Table.value_eq held (List.mem_of_mem_filter he) hname
        exact hid (by rw [← hsame]; exact (of_decide_eq_true (List.mem_filter.1 he).2).symm)
      simpa using hother
  case block =>
    intro name b' hb'
    rw [hkept]
    rw [blocks, Table.get?_erase] at hb'
    split at hb'
    · cases hb'
    · exact h.block name b' hb'
  case context =>
    intro name ctx' hctx'
    rw [hkept]
    exact h.context name ctx' (contexts ▸ hctx')
  case distinct =>
    simpa only [contexts] using h.distinct
  case noted =>
    intro name ctx hctx
    rw [hblocks, outstanding, h.noted name ctx (contexts ▸ hctx)]
    simp [List.filter_reverse, List.filter_map, Function.comp_def]

/-- What is noted down as it is done keeps the accounts reconciled. -/
theorem booked {added : List BlockNote} (hb : c.Booked c' added) :
    c'.Reconciled (added ++ notes) := by
  cases hb with
  | idle stock => exact h.congr stock
  | opened context config _ new contexts registries blocks =>
    exact h.opened new contexts registries blocks
  | closed context contexts registries blocks => exact h.closed contexts registries blocks
  | created context block ctx b held new _ registry id contexts registries blocks =>
    exact h.created held new registry id contexts registries blocks
  | released block b held contexts registries blocks =>
    exact h.released held contexts registries blocks

end Reconciled

end Client

end TeeClient

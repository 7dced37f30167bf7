import TeeClient.Proofs.Accounting
import TeeClient.SecureWorld

/-!
# Blocks are accounted for in every run

Every call of a client program does to contexts, registries and blocks what it notes down, so the
accounts are reconciled after every run. What the library counts is then what is outstanding by the
notes, and a block that is released is found in its registry.

Main statements:

* `Client.reconciled_noted`: the accounts are reconciled in every run;
* `blocks_are_accounted_for`: counts, failures and releases.
-/

namespace TeeClient

variable {σ : Type} {D : Driver σ}

/-- The numbers of the blocks that were released twice, by the journal, the latest first. -/
def Journal.releasedTwice (j : Journal) : List Nat :=
  j.filterMap fun
    | .log (.blockReleasedTwice id) => some id
    | _ => none

/-- Whether a call creates, changes or releases a block. -/
def ClientCall.onBlock : ClientCall → Bool
  | .register .. | .allocate .. | .write .. | .release _ => true
  | _ => false

namespace Client

variable {c c' : Client σ}

/-- The accounts are reconciled in every run. -/
theorem reconciled_noted {before : ClientCall → σ → σ → Prop} {inner : σ} {notes : List BlockNote}
    (run : Noted D before (.start inner) notes c) : c.Reconciled notes := by
  induction run with
  | refl => exact reconciled_start inner
  | @call notes c₁ c₂ call driver run change performed ih =>
    have hb : (c₁.withDriver driver).Reconciled notes := ih.congr rfl
    exact hb.booked (booked_of_perform performed)

variable (D) in
/-- Make calls one after the other, with the driver's own state changed before each of them, and
note down what becomes of blocks. -/
def noteAll (change : ClientCall → σ → σ) (notes : List BlockNote) (c : Client σ) :
    List ClientCall → Option (List BlockNote × Client σ)
  | [] => some (notes, c)
  | call :: rest =>
    let c := c.withDriver (change call c.world.driver)
    (c.perform D call).bind fun c' => noteAll change (c.blockNotes D call ++ notes) c' rest

/-- Calls made one after the other are a run. -/
theorem noted_noteAll {before : ClientCall → σ → σ → Prop} {change : ClientCall → σ → σ}
    (hchange : ∀ call driver, before call driver (change call driver)) {calls : List ClientCall}
    {notes notes' : List BlockNote} {c₀ : Client σ} (run : Noted D before c₀ notes c)
    (h : noteAll D change notes c calls = some (notes', c')) : Noted D before c₀ notes' c' := by
  induction calls generalizing notes c with
  | nil =>
    cases h
    exact run
  | cons call rest ih =>
    obtain ⟨c₁, h₁, hrest⟩ := Option.bind_eq_some_iff.1 h
    exact ih (.call call _ run (hchange call _) h₁) hrest

/-! ## Counts -/

/-- What is counted of a context is what is outstanding by the notes. -/
theorem Reconciled.blockCounts_eq {notes : List BlockNote} (h : c.Reconciled notes)
    {context : String} {ctx : Context} (hctx : c.contexts.get? context = some ctx) :
    c.blockCounts ctx = ((outstanding context notes).countP (!·.2),
      (outstanding context notes).countP (·.2)) := by
  obtain ⟨r, hr⟩ := Option.isSome_iff_exists.1 (h.context context ctx hctx)
  have hvalues : r.table.values
      = (c.blocksOf ctx.registry).map fun e => ⟨e.2.allocated, e.2.size⟩ := by
    simp [Table.values, h.entered _ r hr, Block.entry]
  simp [blockCounts, Registry.registered, Registry.allocated, hr, hvalues, h.noted context ctx hctx,
    ← List.countP_eq_length_filter, List.countP_map, Function.comp_def]

/-- Where contexts, registries and blocks are the same, so are the counts. -/
theorem blockCounts_congr (stock : c'.stock = c.stock) (ctx : Context) :
    c'.blockCounts ctx = c.blockCounts ctx := by
  have registries : c'.registries = c.registries := congrArg (·.2.1) stock
  rw [blockCounts, blockCounts, registries]

/-! ## Creation -/

/-- Why a block cannot be created, if it cannot: it is to go in no direction, or there are other
bits among its directions; or else it is too large, and `large` says so. -/
def refusal? (flags : Access) (size limit : Nat) (large : FailureKind) : Option FailureKind :=
  if flags.bits = 0 ∨ flags.bits &&& ~~~Access.both.bits ≠ 0 then some .badParameters
  else if limit < size then some large
  else none

/-- The result of a creation that is refused, or is not. -/
def answer : Option FailureKind → Except Failure Unit
  | none => .ok ()
  | some kind => .error (.api kind)

/-- A word has no bits but those of a mask exactly if nothing of it is outside of the mask. -/
theorem and_eq_self_iff (mask word : UInt32) : mask &&& word = word ↔ word &&& ~~~mask = 0 := by
  simp only [← UInt32.toBitVec_inj, UInt32.toBitVec_and, UInt32.toBitVec_not, UInt32.toBitVec_zero]
  constructor <;> intro h <;> ext i hi <;>
    have hbit := congrArg (fun bits : BitVec 32 => bits[i]) h <;>
    simp only [BitVec.getElem_and, BitVec.getElem_not, BitVec.getElem_zero] at hbit ⊢ <;>
    revert hbit <;> cases mask.toBitVec[i] <;> cases word.toBitVec[i] <;> decide

/-- Directions are improper if there are none, or something else is among them. -/
theorem isProper_eq_false_iff {flags : Access} :
    flags.isProper = false ↔ flags.bits = 0 ∨ flags.bits &&& ~~~Access.both.bits ≠ 0 := by
  simp [Access.isProper, Access.contains, and_eq_self_iff, Decidable.imp_iff_not_or]

/-- What is vetted comes to be what is refused. -/
theorem refusal?_eq (flags : Access) (size limit : Nat) (large : FailureKind) :
    refusal? flags size limit large = match Registry.vet flags size limit with
      | .error .badFlags => some .badParameters
      | .error .tooLarge => some large
      | .ok () => none := by
  unfold refusal? Registry.vet
  simp only [← isProper_eq_false_iff]
  cases flags.isProper with
  | false => simp
  | true =>
    by_cases hlarge : limit < size
    · simp [hlarge]
    · simp [hlarge]

/-- A block that a program may register is registered unless it is refused, in which case nothing
becomes of it. -/
theorem register_eq {context block : String} {ctx : Context}
    (held : c.contexts.get? context = some ctx) (new : c.blocks.contains block = false)
    (data : Bytes) (flags : Access) :
    ∃ c', c.register context block data flags = some
        (answer (refusal? flags data.length ctx.config.maxSharedMemorySize .badParameters), c') ∧
      (refusal? flags data.length ctx.config.maxSharedMemorySize .badParameters ≠ none →
        c'.stock = c.stock) := by
  simp only [register, held, new, Bool.false_eq_true, if_false, refusal?_eq]
  cases Registry.vet flags data.length ctx.config.maxSharedMemorySize with
  | error fault => cases fault <;> exact ⟨_, rfl, fun _ => rfl⟩
  | ok => exact ⟨_, rfl, fun hne => absurd rfl hne⟩

/-- A block that a program may allocate is allocated unless it is refused, in which case nothing
becomes of it. -/
theorem allocate_eq {context block : String} {ctx : Context}
    (held : c.contexts.get? context = some ctx) (new : c.blocks.contains block = false)
    (size : Nat) (flags : Access) :
    ∃ c', c.allocate context block size flags = some
        (answer (refusal? flags size ctx.config.maxSharedMemorySize .outOfMemory), c') ∧
      (refusal? flags size ctx.config.maxSharedMemorySize .outOfMemory ≠ none →
        c'.stock = c.stock) := by
  simp only [allocate, held, new, Bool.false_eq_true, if_false, refusal?_eq]
  cases Registry.vet flags size ctx.config.maxSharedMemorySize with
  | error fault => cases fault <;> exact ⟨_, rfl, fun _ => rfl⟩
  | ok =>
    by_cases hsize : size = 0
    · exact ⟨_, by rw [if_pos hsize]; rfl, fun hne => absurd rfl hne⟩
    · exact ⟨_, by rw [if_neg hsize]; rfl, fun hne => absurd rfl hne⟩

/-! ## Release -/

/-- What the registry of a block knows of it. -/
def entryOf? (c : Client σ) (b : Block) : Option BlockEntry :=
  (c.registries.get? b.registry).bind (·.get? b.id)

/-- A registry knows its blocks. -/
theorem Reconciled.entryOf?_eq {notes : List BlockNote} (h : c.Reconciled notes) {block : String}
    {b : Block} (held : c.blocks.get? block = some b) :
    c.entryOf? b = some ⟨b.allocated, b.size⟩ := by
  obtain ⟨r, hr⟩ := Option.isSome_iff_exists.1 (h.block block b held)
  have hin : (block, b) ∈ c.blocksOf b.registry := by
    simp [blocksOf, Table.get?_eq_some_iff.1 held]
  have hentry : (b.id, ⟨b.allocated, b.size⟩) ∈ r.table.entries := by
    rw [h.entered _ r hr]
    exact List.mem_map.2 ⟨(block, b), hin, rfl⟩
  rw [entryOf?, hr]
  exact Table.get?_eq_some_iff.2 hentry

/-- A block that is struck out is found in its registry, so its release is all that is logged. -/
theorem Reconciled.journal_dropBlock {notes : List BlockNote} (h : c.Reconciled notes)
    {block : String} {b : Block} (held : c.blocks.get? block = some b) :
    (c.dropBlock block b).world.journal = c.world.journal.log (.blockReleased b.id) := by
  have hknown : ((c.registries.get? b.registry).any fun r => (r.get? b.id).isSome) = true := by
    obtain ⟨r, hr, hb⟩ := Option.bind_eq_some_iff.1 (h.entryOf?_eq held)
    simp [hr, hb]
  rw [dropBlock, hknown]
  rfl

/-- A release takes the entry of the block that is released, and leaves those of all others. -/
theorem Reconciled.entryOf?_release {notes : List BlockNote} (h : c.Reconciled notes)
    {block : String} {given : Option Bytes} (hr : c.release block = some (given, c'))
    {other : String} {b' : Block} (held' : c.blocks.get? other = some b') :
    c'.entryOf? b' = if other = block then none else some ⟨b'.allocated, b'.size⟩ := by
  have hafter := h.booked (booked_release hr)
  cases booked_release hr with
  | released _ b held contexts registries blocks =>
    split
    next hother =>
      obtain rfl : b = b' := by simpa [hother, held] using held'
      simp [entryOf?, registries, Arena.get?_modify, Arena.get?_erase]
    next hother => exact hafter.entryOf?_eq (by rw [blocks, Table.get?_erase_ne _ hother, held'])

/-- No call that creates, changes or releases a block finds one that was released before. -/
theorem Reconciled.releasedTwice_perform {notes : List BlockNote} (h : c.Reconciled notes)
    {call : ClientCall} (hcall : call.onBlock = true) (hp : c.perform D call = some c') :
    c'.world.journal.releasedTwice = c.world.journal.releasedTwice := by
  cases call with
  | register =>
    obtain ⟨⟨result, _⟩, hr, rfl⟩ := Option.map_eq_some_iff.1 hp
    unfold register at hr
    split at hr
    · cases hr
    split at hr
    · cases hr
    · split at hr <;> cases hr <;> rfl
  | allocate =>
    obtain ⟨⟨result, _⟩, hr, rfl⟩ := Option.map_eq_some_iff.1 hp
    unfold allocate at hr
    split at hr
    · cases hr
    split at hr
    · cases hr
    split at hr
    · cases hr
      rfl
    · cases hr
      rfl
    · split at hr <;> cases hr <;> rfl
  | write =>
    obtain ⟨memory, rfl⟩ := write_cases hp
    rfl
  | release block =>
    obtain ⟨⟨given, _⟩, hr, rfl⟩ := Option.map_eq_some_iff.1 hp
    obtain ⟨b, held, rfl⟩ := release_cases hr
    -- the registry knows the block, so that no second release is reported
    rw [h.journal_dropBlock held]
    rfl
  | _ => cases hcall

end Client

/-- Blocks are accounted for, over any contexts and in any order of calls. What the library counts
of a context are the blocks of either kind that were created through it and not released since. A
creation fails exactly if there is a reason to refuse it, of which the directions are looked at
first, and then no count changes. A release takes the entry of its own block only, and logs only
that it was released, also when the context is closed; so no call on blocks ever logs that one was
released twice. The numbers of blocks are natural numbers, so they do not come round. -/
theorem blocks_are_accounted_for {before : ClientCall → σ → σ → Prop} {inner : σ}
    {notes : List BlockNote} {c : Client σ} (run : Client.Noted D before (.start inner) notes c) :
    (∀ context ctx, c.contexts.get? context = some ctx →
      c.blockCounts ctx = ((outstanding context notes).countP (!·.2),
        (outstanding context notes).countP (·.2))) ∧
    (∀ context ctx block flags, c.contexts.get? context = some ctx →
      c.blocks.contains block = false →
      (∀ data, ∃ c', c.register context block data flags = some (Client.answer
          (Client.refusal? flags data.length ctx.config.maxSharedMemorySize .badParameters), c') ∧
        (Client.refusal? flags data.length ctx.config.maxSharedMemorySize .badParameters ≠ none →
          ∀ any, c'.blockCounts any = c.blockCounts any)) ∧
      (∀ size, ∃ c', c.allocate context block size flags = some (Client.answer
          (Client.refusal? flags size ctx.config.maxSharedMemorySize .outOfMemory), c') ∧
        (Client.refusal? flags size ctx.config.maxSharedMemorySize .outOfMemory ≠ none →
          ∀ any, c'.blockCounts any = c.blockCounts any))) ∧
    (∀ block b, c.blocks.get? block = some b → c.isReferenced b = false →
      ∃ given c', c.release block = some (given, c') ∧
        c'.world.journal = c.world.journal.log (.blockReleased b.id) ∧
        ∀ other b', c.blocks.get? other = some b' →
          c'.entryOf? b' = if other = block then none else some ⟨b'.allocated, b'.size⟩) ∧
    (∀ call c', call.onBlock = true → c.perform D call = some c' →
      c'.world.journal.releasedTwice = c.world.journal.releasedTwice) := by
  have h := Client.reconciled_noted run
  refine ⟨fun context ctx hctx => h.blockCounts_eq hctx, ?_, ?_,
    fun call c' hcall hp => h.releasedTwice_perform hcall hp⟩
  · intro context ctx block flags held new
    refine ⟨fun data => ?_, fun size => ?_⟩
    · obtain ⟨c', hc, hkept⟩ := Client.register_eq held new data flags
      exact ⟨c', hc, fun hrefused _ => Client.blockCounts_congr (hkept hrefused) _⟩
    · obtain ⟨c', hc, hkept⟩ := Client.allocate_eq held new size flags
      exact ⟨c', hc, fun hrefused _ => Client.blockCounts_congr (hkept hrefused) _⟩
  · -- no operation refers to the block, so that its release goes ahead
    intro block b held free
    have hr : c.release block
        = some (if b.allocated then none else some (c.contents b), c.dropBlock block b) := by
      simp only [Client.release, held, free]
      rfl
    exact ⟨_, _, hr, h.journal_dropBlock held, fun other b' held' => h.entryOf?_release hr held'⟩

/-! Two contexts, of which one is closed and opened again before its blocks are released. -/

namespace Reopened

/-- Settings under which blocks have up to 128 bytes. -/
def config : Config := { Config.default with maxSharedMemorySize := 128 }

/-- Names of contexts and blocks are used again. Of the creations at the end one asks for too much,
and one for directions that there are not. -/
def calls : List ClientCall :=
  [.openContext "a" none config, .openContext "b" none config, .allocate "a" "x" 64 .input,
    .register "a" "y" [1, 2, 3] .output, .register "b" "z" [9] .both, .closeContext "a",
    .openContext "a" none config, .allocate "a" "w" 0 .input, .release "x",
    .allocate "b" "x" 16 .output, .allocate "b" "v" 256 .input, .register "b" "u" [] ⟨5⟩]

/-- The client after these calls, with its notes. -/
def noted? : Option (List BlockNote × Client (SecureWorld Unit)) :=
  Client.noteAll SecureWorld.driver (fun _ driver => driver) [] (.start (.start .empty)) calls

deriving instance DecidableEq for Context

/-- The context that was opened again. -/
def again : Context := ⟨config, 2⟩

/-- The context that stayed open. -/
def other : Context := ⟨config, 1⟩

/-- A block of the context that was closed. -/
def left : Block := ⟨0, 1, some 1, 3, .output, false⟩

/-- The block of the context that was opened again, which has the number of the first block of the
context that was closed. -/
def empty : Block := ⟨2, 0, none, 0, .input, true⟩

/-- The contexts and blocks that the program leaves, and what is outstanding by its notes. -/
theorem noted :
    ∃ notes c, noted? = some (notes, c) ∧ c.contexts.get? "a" = some again ∧
      c.contexts.get? "b" = some other ∧ c.blocks.get? "y" = some left ∧
      c.blocks.get? "w" = some empty ∧ c.blocks.contains "v" = false ∧
      c.isReferenced left = false ∧ outstanding "a" notes = [("w", true)] ∧
      outstanding "b" notes = [("x", true), ("z", false)] := by
  obtain ⟨⟨notes, c⟩, hc⟩ := Option.isSome_iff_exists.1
    (show noted?.isSome = true by decide +kernel)
  refine ⟨notes, c, hc, ?_⟩
  exact (show ∀ r ∈ noted?, (r.2.contexts.get? "a" = some again ∧
      r.2.contexts.get? "b" = some other ∧ r.2.blocks.get? "y" = some left ∧
      r.2.blocks.get? "w" = some empty ∧ r.2.blocks.contains "v" = false ∧
      r.2.isReferenced left = false ∧ outstanding "a" r.1 = [("w", true)] ∧
      outstanding "b" r.1 = [("x", true), ("z", false)]) by decide +kernel) (notes, c) hc

end Reopened

/-- The second context of the name has one block, and the other context one of each kind. A block of
129 bytes is one too large, and a block of the context that was closed is released without a
warning. -/
theorem blocks_are_accounted_for_reopened :
    ∃ notes c, Reopened.noted? = some (notes, c) ∧
      c.blockCounts Reopened.again = (0, 1) ∧ c.blockCounts Reopened.other = (1, 1) ∧
      (∃ c', c.allocate "b" "v" 129 .input = some (.error (.api .outOfMemory), c') ∧
        c'.blockCounts Reopened.other = (1, 1)) ∧
      ∃ given c', c.release "y" = some (given, c') ∧
        c'.world.journal = c.world.journal.log (.blockReleased 1) ∧
        c'.entryOf? Reopened.left = none ∧ c'.entryOf? Reopened.empty = some ⟨true, 0⟩ := by
  obtain ⟨notes, c, hc, hagain, hother, hleft, hempty, hnew, hfree, hnotes, hnotes'⟩ :=
    Reopened.noted
  have run : Client.Noted SecureWorld.driver (fun _ a b => a = b) (.start (.start .empty))
      notes c :=
    Client.noted_noteAll (fun _ _ => rfl) .refl hc
  obtain ⟨hcounts, hcreations, hreleases, -⟩ := blocks_are_accounted_for run
  have hcount : c.blockCounts Reopened.other = (1, 1) := by
    simpa [hnotes'] using hcounts "b" Reopened.other hother
  refine ⟨notes, c, hc, by simpa [hnotes] using hcounts "a" Reopened.again hagain, hcount, ?_, ?_⟩
  · obtain ⟨c', hallocate, hkept⟩ := (hcreations "b" Reopened.other "v" .input hother hnew).2 129
    exact ⟨c', hallocate, (hkept (by decide) _).trans hcount⟩
  · obtain ⟨given, c', hrelease, hjournal, hentries⟩ := hreleases "y" Reopened.left hleft hfree
    exact ⟨given, c', hrelease, hjournal, by simpa using hentries "y" Reopened.left hleft,
      hentries "w" Reopened.empty hempty⟩

end TeeClient

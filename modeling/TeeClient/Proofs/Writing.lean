import TeeClient.Proofs.Negotiation
import TeeClient.Proofs.Windows

/-!
# Writing to a mapped buffer

An application writes to the buffer that a slot describes by three words, which it may have put
there itself: they need not say what was mapped. Only in one case does a write change memory, and
then all bytes are written.

Main statement:

* `writes_all_or_nothing`: when a write succeeds, what it changes, and what is read afterwards.
-/

namespace TeeClient

variable {mappings : Mappings} {slot : Slot} {data : Bytes}

namespace Mappings

/-- Every mapped buffer lies within the piece of memory that it is in. -/
def Within (mappings : Mappings) (memory : Memory) : Prop :=
  ∀ secureVa mapping, mappings.get? secureVa = some mapping →
    mapping.address.offset + mapping.len ≤ (memory.bytes mapping.address.buffer).length

/-- A mapped buffer reads in its full length. -/
theorem Within.length_read {memory : Memory} (h : mappings.Within memory) {secureVa : UInt32}
    {mapping : Mapping} (hget : mappings.get? secureVa = some mapping) :
    (memory.read mapping.address mapping.len).length = mapping.len := by
  have hwithin := h secureVa mapping hget
  simp only [Memory.read, List.length_take, List.length_drop]
  omega

end Mappings

/-- Fewer bytes of a buffer are the first ones. -/
theorem Memory.read_min (m : Memory) (address : Address) (len len' : Nat) :
    m.read address (min len len') = (m.read address len').take (min len len') := by
  unfold read
  rw [List.take_take, Nat.min_assoc, Nat.min_self]

/-- A slot whose address names a mapped buffer reads as its first bytes, as many as the slot
describes and the buffer has. -/
theorem Query.answer_read_of_found {c : Chamber} (login : Login) (mapping : Mapping)
    (hmapped : (c.page.param slot).mappedLen ≠ 0)
    (hfound : mappings.get? (c.page.param slot).secureVa = some mapping) :
    (Query.read slot.val).answer mappings login c = some
      (some ((c.memory.read mapping.address mapping.len).take
        (min (c.page.param slot).mappedLen.toNat mapping.len)), c) := by
  simp [answer, hmapped, Mappings.read, hfound, Memory.read_min]

/-- A write of an application reports the number of its bytes, modulo the range of a word, and
changes nothing else in the page. It is refused as too long if there are more bytes than the slot
describes; it succeeds if there is nothing to write; and otherwise it succeeds if, and only if, the
slot's address names a mapped buffer that may be written and is at least as long, and access is
denied if not. If it succeeds and there are bytes, they replace the first bytes of that buffer, and
no other byte of memory changes; in every other case none does. The slot then reads as the first
bytes of the buffer as it stands now, as many as the slot describes and the buffer has. -/
theorem writes_all_or_nothing {c : Chamber} (within : mappings.Within c.memory) (login : Login)
    (slot : Slot) (data : Bytes) : ∃ result c',
    (Query.write slot.val data).answer mappings login c = some (result, c') ∧
    -- the result
    ((c.page.param slot).mappedLen.toNat < data.length →
      result = .error FailureKind.shortBuffer.code) ∧
    (data = [] → result = .ok ()) ∧
    (data ≠ [] → data.length ≤ (c.page.param slot).mappedLen.toNat →
      (result = .ok () ↔ mappings.Takes (c.page.param slot).secureVa data.length) ∧
      (result ≠ .ok () → result = .error FailureKind.accessDenied.code)) ∧
    -- the page
    (c'.page.param slot).outputSize.toNat = data.length % UInt32.size ∧
    (c'.page.param slot).secureVa = (c.page.param slot).secureVa ∧
    (c'.page.param slot).mappedLen = (c.page.param slot).mappedLen ∧
    (∀ other, other ≠ slot → c'.page.param other = c.page.param other) ∧
    (∃ params, c'.page = { c.page with request := { c.page.request with params } }) ∧
    -- the memory
    (data = [] ∨ result ≠ .ok () → c'.memory = c.memory) ∧
    (data ≠ [] → result = .ok () → ∃ mapping,
      mappings.get? (c.page.param slot).secureVa = some mapping ∧
      c'.memory.read mapping.address mapping.len
        = data ++ (c.memory.read mapping.address mapping.len).drop data.length ∧
      c.memory.Framed (fun id i => id = mapping.address.buffer ∧ mapping.address.offset ≤ i ∧
        i < mapping.address.offset + data.length) c'.memory ∧
      (Query.read slot.val).answer mappings login c' = some
        (some ((c'.memory.read mapping.address mapping.len).take
          (min (c.page.param slot).mappedLen.toNat mapping.len)), c')) := by
  have hpage := Chamber.page_write mappings c slot data
  have hwrites := Chamber.writes mappings c slot data
  refine ⟨(c.write mappings slot data).1, (c.write mappings slot data).2,
    by simp [Query.answer], ?_⟩
  generalize c.write mappings slot data = outcome at hpage hwrites ⊢
  obtain ⟨result, page, memory⟩ := outcome
  simp only at hpage hwrites ⊢
  subst hpage
  -- the words of the slot after the write, whatever it comes to
  have hwords : (c.reportSize slot data.length.toUInt32).page.param slot
      = (c.page.param slot).setOutputSize data.length.toUInt32 := by
    simp [Chamber.reportSize]
  have hothers : ∀ other, other ≠ slot →
      (c.reportSize slot data.length.toUInt32).page.param other = c.page.param other :=
    fun other hne => Page.param_setParam_ne _ _ hne
  refine ⟨fun hover => ?_, fun hempty => ?_, fun hfilled hfits => ?_, ?_, by rw [hwords]; rfl,
    by rw [hwords]; rfl, hothers, ⟨_, rfl⟩, fun hidle => ?_, fun hfilled hok => ?_⟩
  · cases hwrites with
    | short => rfl
    | nothing hempty => simp [hempty] at hover
    | written mapping _ hfits => omega
    | denied _ hfits => omega
  · cases hwrites with
    | short hover => simp [hempty] at hover
    | nothing => rfl
    | written mapping hfilled => exact absurd hempty hfilled
    | denied hfilled => exact absurd hempty hfilled
  · cases hwrites with
    | short hover => omega
    | nothing hempty => exact absurd hempty hfilled
    | written mapping _ _ hfound hgranted hroom => simp [Mappings.Takes, hfound, hgranted, hroom]
    | denied _ _ hrefused => simp [hrefused]
  · simp [hwords, SlotWords.setOutputSize, SlotWords.outputSize]
  · cases hwrites with
    | short | nothing | denied => rfl
    | written mapping hfilled =>
      rcases hidle with hempty | hfails
      · exact absurd hempty hfilled
      · exact absurd rfl hfails
  · cases hwrites with
    | short | denied => cases hok
    | nothing hempty => exact absurd hempty hfilled
    | written mapping _ hfits hfound hgranted hroom =>
      have hsome : 1 ≤ data.length := List.length_pos_iff.2 hfilled
      refine ⟨mapping, hfound, ?_, c.memory.framed_write mapping.address data, ?_⟩
      · exact Memory.read_write _ _ hsome (within.length_read hfound) hroom
      · -- the slot describes at least as many bytes as were written, so it is not read as unmapped
        have hmapped : (c.page.param slot).mappedLen ≠ 0 := by
          intro hzero
          rw [hzero] at hfits
          exact absurd hfits (by simpa using hfilled)
        rw [Query.answer_read_of_found login mapping (by rw [hwords]; exact hmapped)
          (by rw [hwords]; exact hfound), hwords]
        rfl

/-! A slot that describes less than was mapped. -/

namespace Forged

/-- Four bytes of a piece of six are mapped. -/
def lent : Mapping := ⟨⟨0, 1⟩, 4, .both⟩

/-- The four bytes are all that is mapped. -/
def table : Mappings := Table.empty.set 0x1000 lent

/-- The slot describes three of the four bytes. -/
def chamber : Chamber where
  page := { Page.blank with
    request := { Request.zero with
      params := { Slots.replicate SlotWords.zero with slot2 := .memref 0x1000 3 9 } } }
  memory := Arena.empty.add [10, 11, 12, 13, 14, 15]

/-- The mapped bytes lie within the piece. -/
theorem within : table.Within chamber.memory := by
  intro secureVa mapping hget
  rw [table, Table.get?_set] at hget
  split at hget
  · cases hget
    decide
  · simp at hget

end Forged

/-- Two bytes are written to the buffer, and one more is read back with them. -/
theorem writes_all_or_nothing_forged : Forged.table.Within Forged.chamber.memory ∧
    ∃ c', (Query.write 2 [7, 8]).answer Forged.table ⟨0, 0⟩ Forged.chamber = some (.ok (), c') ∧
      (Query.read 2).answer Forged.table ⟨0, 0⟩ c' = some (some [7, 8, 13], c') := by
  obtain ⟨result, c', hwrite, -, -, hresult, -, -, -, -, -, -, hmemory⟩ :=
    writes_all_or_nothing Forged.within ⟨0, 0⟩ 2 [7, 8]
  have htakes : Forged.table.Takes 0x1000 2 := ⟨Forged.lent, rfl, rfl, by decide⟩
  obtain rfl : result = .ok () := (hresult (by decide) (by decide)).1.2 htakes
  obtain ⟨mapping, hfound, hread, -, hagain⟩ := hmemory (by decide) rfl
  obtain rfl : Forged.lent = mapping := Option.some.inj hfound
  refine ⟨Forged.within, c', hwrite, hagain.trans ?_⟩
  rw [hread]
  rfl

end TeeClient

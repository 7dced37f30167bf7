import TeeClient.Proofs.Device
import TeeClient.Proofs.Isolation

/-!
# The addresses of mapped buffers

A buffer is mapped at the address at which a counter stands; the counter then moves on by whole
pages. The user of a device can tell from the answers alone what is mapped: `Loans` are the buffers
whose mapping succeeded and has not been removed. The table of the secure world holds exactly these
as long as the counter, which has 32 bits, has not come round; no attempt to map is refused because
it would, and a buffer that is mapped over another takes its place unnoticed.

Main statements:

* `World.tallies_use`: what each call does to the table and to the counter;
* `Loans.Entered`, `World.entered_useAll`: the table against the notes, after all calls;
* `mappings_are_loans`: the table is exact until the counter has come round;
* `live_mapping_replaced`: three buffers are mapped, and two are.
-/

namespace TeeClient

open SecureWorld

variable {κ : Type}

/-- A table in which something is found has an entry. -/
theorem Table.size_pos {ι α : Type} [DecidableEq ι] {t : Table ι α} {key : ι} {value : α}
    (h : t.get? key = some value) : 0 < t.size := by
  refine Nat.pos_of_ne_zero fun hzero => ?_
  have hentries : t.entries = [] := List.length_eq_zero_iff.1 hzero
  simp [Table.get?, hentries, Table.lookup] at h

namespace SecureWorld

/-! ## What the primitives do -/

/-- A buffer fits in front of the next address. -/
theorem le_span (len : Nat) : len ≤ span len := by
  unfold span pageSize
  omega

/-- The mapped buffers, and the address of the next. -/
def addressing (w : SecureWorld κ) : Mappings × UInt32 := (w.mappings, w.nextVa)

/-- Serving requests leaves the `addressing`. -/
theorem overlooks_addressing :
    Overlooks fun w w' : SecureWorld κ => w'.addressing = w.addressing where
  trans h h' := h'.trans h
  onWorker _ _ _ := rfl
  aside _ _ _ _ _ := rfl

/-- Opening a session leaves the `addressing`. -/
theorem addressing_openSession (destination : Uuid) (login : Login) (page : PageId)
    (d : Desk (SecureWorld κ)) :
    (openSession destination login page d).2.driver.addressing = d.driver.addressing := by
  obtain ⟨app, -, he⟩ | ⟨e, fault, he⟩ := openSession_cases destination login page d <;> rw [he] <;>
    rfl

/-- Closing a session leaves the `addressing`, with the buffers that were mapped for it. -/
theorem addressing_closeSession (handle : Handle) (d : Desk (SecureWorld κ)) :
    (closeSession handle d).2.driver.addressing = d.driver.addressing := by
  obtain ⟨worker, -, he⟩ | ⟨-, he⟩ := closeSession_cases handle d <;> rw [he] <;> rfl

end SecureWorld

/-- What a call does to the mapped buffers and to the address of the next, by its answer. -/
def DeviceCall.Tallies (before : SecureWorld κ) :
    (call : DeviceCall) → call.Answer → SecureWorld κ → Prop
  | .map _ address len access, .ok info, after =>
    info = ⟨before.nextVa, len.toUInt32⟩ ∧ after.addressing
      = (before.mappings.set before.nextVa ⟨address, len, access⟩,
        before.nextVa + (span len).toUInt32)
  | .unmap _ address info, .ok (), after =>
    (∃ mapping, before.mappings.get? info.secureVa = some mapping ∧ mapping.address = address) ∧
      after.addressing = (before.mappings.erase info.secureVa, before.nextVa)
  | _, _, after => after.addressing = before.addressing

namespace World

variable {w : World (SecureWorld κ)}

/-- Every call does to the mapped buffers what is said of it. -/
theorem tallies_use (w : World (SecureWorld κ)) (call : DeviceCall) :
    call.Tallies w.driver (w.use call).1 (w.use call).2.driver := by
  cases call with
  | openSession destination login page =>
    exact addressing_openSession destination login page w.desk
  | closeSession handle => exact addressing_closeSession handle w.desk
  | map handle address len access =>
    show DeviceCall.Tallies w.driver (.map handle address len access)
      (map handle address len access w.driver).1 (map handle address len access w.driver).2
    obtain ⟨-, -, budget, he⟩ | ⟨e, budget, he⟩ :=
      map_cases handle address len access w.driver <;> rw [he]
    · exact ⟨rfl, rfl⟩
    · rfl
  | unmap handle address info =>
    show DeviceCall.Tallies w.driver (.unmap handle address info)
      (unmap handle address info w.driver).1 (unmap handle address info w.driver).2
    obtain ⟨mapping, hget, haddress, he⟩ | ⟨e, -, he⟩ :=
      unmap_cases handle address info w.driver <;> rw [he]
    · exact ⟨⟨mapping, hget, haddress⟩, rfl⟩
    · rfl
  | errorCode handle => rfl
  | publish page contents => rfl
  | notify handle => exact overlooks_addressing.use_notify handle w
  | wait handle limit => exact overlooks_addressing.use_wait handle limit w
  | arm faults => rfl

end World

/-! ## What is lent to the secure world -/

/-- A buffer that was mapped. -/
structure Loan where
  /-- Where it lies in the secure world. -/
  secureVa : UInt32
  /-- What was mapped. -/
  mapping : Mapping
  deriving DecidableEq, Repr

namespace Loan

/-- Where the range of a loan begins. -/
def start (loan : Loan) : Nat := loan.secureVa.toNat

/-- Where the range of a loan ends. -/
def stop (loan : Loan) : Nat := loan.secureVa.toNat + loan.mapping.len

/-- The range of a loan ends in front of the next address. -/
theorem stop_le (loan : Loan) :
    loan.stop ≤ loan.secureVa.toNat + span loan.mapping.len :=
  Nat.add_le_add_left (le_span _) _

end Loan

/-- What the user of a device notes down of mapped buffers. -/
structure Loans where
  /-- The buffers whose mapping succeeded and was not removed since, the oldest first. -/
  live : List Loan
  /-- How many addresses were passed over, for all of them. -/
  passed : Nat
  deriving Repr

namespace Loans

/-- Nothing was mapped. -/
def none : Loans := ⟨[], 0⟩

/-- What is noted down of a call and its answer. -/
def note : World.Noting κ Loans
  | _, .map _ address len access, .ok info, loans =>
    ⟨loans.live ++ [⟨info.secureVa, address, len, access⟩], loans.passed + span len⟩
  | _, .unmap _ address info, .ok (), loans =>
    { loans with live := loans.live.eraseP fun loan =>
        loan.secureVa = info.secureVa ∧ loan.mapping.address = address }
  | _, _, _, loans => loans

/-- Where the counter of addresses would stand that has no end. -/
def counter (loans : Loans) : Nat := firstVa.toNat + loans.passed

/-- The table holds the buffers that are noted down and no others; each lies where the ones mapped
before it end, pages and all. -/
structure Entered (loans : Loans) (w : SecureWorld κ) : Prop where
  found : ∀ va mapping, w.mappings.get? va = some mapping ↔ ⟨va, mapping⟩ ∈ loans.live
  counted : w.liveMappings = loans.live.length
  ordered : loans.live.Pairwise fun a b =>
    a.secureVa.toNat + span a.mapping.len ≤ b.secureVa.toNat
  behind : ∀ loan ∈ loans.live, loan.secureVa.toNat + span loan.mapping.len ≤ loans.counter

/-- The counter stands where the notes say, and until it has come round the table is as they
say. -/
structure Hold (loans : Loans) (w : SecureWorld κ) : Prop where
  counter : w.nextVa = loans.counter.toUInt32
  entered : loans.counter ≤ UInt32.size → loans.Entered w

variable {loans : Loans} {w after : SecureWorld κ}

/-- Two buffers that are noted down lie at different addresses. -/
theorem Entered.distinct (h : loans.Entered w) :
    loans.live.Pairwise fun a b => a.secureVa ≠ b.secureVa := by
  refine h.ordered.imp fun {a b} hab he => ?_
  have hpos := span_pos a.mapping.len
  rw [he] at hab
  omega

/-- Nothing is mapped where the counter stands. -/
theorem Entered.vacant (h : loans.Entered w) (hbound : loans.counter < UInt32.size) :
    w.mappings.get? loans.counter.toUInt32 = .none := by
  cases hget : w.mappings.get? loans.counter.toUInt32 with
  | none => rfl
  | some mapping =>
    have hbehind := h.behind _ ((h.found _ _).1 hget)
    have hpos := span_pos mapping.len
    have hstands : loans.counter.toUInt32.toNat = loans.counter := UInt32.toNat_ofNat_of_lt' hbound
    simp only [hstands] at hbehind
    omega

/-- Whether the notes hold depends on addressing alone. -/
theorem Hold.congr (h : loans.Hold w) (hsame : after.addressing = w.addressing) :
    loans.Hold after := by
  have hmappings : after.mappings = w.mappings := congrArg Prod.fst hsame
  have hva : after.nextVa = w.nextVa := congrArg Prod.snd hsame
  refine ⟨hva.trans h.counter, fun hbound => ?_⟩
  obtain ⟨hfound, hcounted, hordered, hbehind⟩ := h.entered hbound
  refine ⟨?_, ?_, hordered, hbehind⟩
  · simpa only [hmappings] using hfound
  · simpa only [liveMappings, hmappings] using hcounted

/-- A buffer is mapped where the counter stands, and noted down. -/
theorem Entered.mapped (h : loans.Entered w) (mapping : Mapping)
    (hbound : loans.counter + span mapping.len ≤ UInt32.size)
    (hset : after.mappings = w.mappings.set loans.counter.toUInt32 mapping) :
    Entered ⟨loans.live ++ [⟨loans.counter.toUInt32, mapping⟩], loans.passed + span mapping.len⟩
      after := by
  have hpos := span_pos mapping.len
  -- the counter has not come round, so it stands where the word says
  have hlt : loans.counter < UInt32.size := by omega
  have hstands : loans.counter.toUInt32.toNat = loans.counter := UInt32.toNat_ofNat_of_lt' hlt
  have hvacant := h.vacant hlt
  refine ⟨fun va other => ?_, ?_, ?_, ?_⟩
  · rw [hset, Table.get?_set, List.mem_append, List.mem_singleton, Loan.mk.injEq]
    by_cases hva : va = loans.counter.toUInt32
    · -- no buffer of before lies there
      subst hva
      have hnew : (⟨loans.counter.toUInt32, other⟩ : Loan) ∉ loans.live := by
        rw [← h.found, hvacant]
        simp
      simp [hnew, eq_comm]
    · simp [hva, h.found]
  · -- one buffer more is mapped, since none was replaced
    have habsent : w.mappings.contains loans.counter.toUInt32 = false := by
      simp [Table.contains, hvacant]
    simp [liveMappings, hset, Table.size_set, habsent, ← h.counted]
  · -- the new range begins where the counter stood, behind all others
    rw [List.pairwise_append]
    refine ⟨h.ordered, List.pairwise_singleton _ _, fun a ha b hb => ?_⟩
    obtain rfl := List.mem_singleton.1 hb
    show _ ≤ loans.counter.toUInt32.toNat
    rw [hstands]
    exact h.behind a ha
  · intro loan hloan
    show _ ≤ firstVa.toNat + (loans.passed + span mapping.len)
    rcases List.mem_append.1 hloan with hold | hnew
    · have hbehind := h.behind loan hold
      unfold counter at hbehind
      omega
    · obtain rfl := List.mem_singleton.1 hnew
      show loans.counter.toUInt32.toNat + span mapping.len ≤ _
      rw [hstands]
      unfold counter
      omega

/-- Striking out one buffer at an address leaves those at the other addresses, where no two lie at
the same. -/
theorem mem_eraseP_iff {live : List Loan} (h : live.Pairwise fun a b => a.secureVa ≠ b.secureVa)
    {struck : Loan → Bool} {va : UInt32} (hat : ∀ loan, struck loan = true → loan.secureVa = va)
    (hany : ∃ loan ∈ live, struck loan = true) (loan : Loan) :
    loan ∈ live.eraseP struck ↔ loan ∈ live ∧ loan.secureVa ≠ va := by
  obtain ⟨gone, hgone, hstruck⟩ := hany
  obtain ⟨found, before, behind, hbefore, hfound, hlive, herased⟩ :=
    List.exists_of_eraseP hgone hstruck
  have hva := hat found hfound
  rw [hlive, List.pairwise_append] at h
  obtain ⟨-, hbehind, hacross⟩ := h
  rw [List.pairwise_cons] at hbehind
  rw [herased, hlive]
  constructor
  · intro hmem
    rcases List.mem_append.1 hmem with hfirst | hlast
    · have hne := hacross loan hfirst found (List.mem_cons_self ..)
      simp [hfirst, ← hva, hne]
    · have hne := hbehind.1 loan hlast
      simp [hlast, ← hva, Ne.symm hne]
  · rintro ⟨hmem, hne⟩
    have hother : loan ≠ found := fun he => hne (he ▸ hva)
    simpa [hother] using hmem

/-- A mapping is removed, and struck out of the notes. -/
theorem Entered.unmapped (h : loans.Entered w) {address : Address} {va : UInt32}
    (hthere : ∃ mapping, w.mappings.get? va = some mapping ∧ mapping.address = address)
    (herased : after.mappings = w.mappings.erase va) :
    Entered { loans with live := loans.live.eraseP fun loan =>
        loan.secureVa = va ∧ loan.mapping.address = address } after := by
  obtain ⟨mapping, hget, rfl⟩ := hthere
  have hmem : (⟨va, mapping⟩ : Loan) ∈ loans.live := (h.found _ _).1 hget
  -- only the buffer that is found there is struck out
  have hkept : ∀ loan, loan ∈ (loans.live.eraseP fun loan =>
      loan.secureVa = va ∧ loan.mapping.address = mapping.address) ↔
        loan ∈ loans.live ∧ loan.secureVa ≠ va :=
    mem_eraseP_iff h.distinct (fun _ hstruck => (of_decide_eq_true hstruck).1) ⟨_, hmem, by simp⟩
  have hsub : (loans.live.eraseP fun loan =>
      loan.secureVa = va ∧ loan.mapping.address = mapping.address).Sublist loans.live :=
    List.eraseP_sublist
  refine ⟨fun other found => ?_, ?_, h.ordered.sublist hsub, fun loan hloan =>
    h.behind loan (hsub.subset hloan)⟩
  · rw [hkept, herased, Table.get?_erase]
    by_cases hva : other = va
    · simp [hva]
    · simp [hva, h.found]
  · have hcontains : w.mappings.contains va = true := by simp [Table.contains, hget]
    have hlength := List.length_eraseP_of_mem hmem
      (p := fun loan => loan.secureVa = va ∧ loan.mapping.address = mapping.address) (by simp)
    rw [hlength, ← h.counted]
    simp [liveMappings, herased, Table.size_erase, hcontains]

/-- Every call keeps the notes true. -/
theorem hold_use {w : World (SecureWorld κ)} (h : loans.Hold w.driver) (call : DeviceCall) :
    (note w call (w.use call).1 loans).Hold (w.use call).2.driver := by
  have htallies := World.tallies_use w call
  generalize w.use call = used at htallies ⊢
  obtain ⟨answer, after⟩ := used
  cases call with
  | openSession | closeSession | errorCode | publish | notify | wait | arm =>
    exact h.congr htallies
  | map handle address len access =>
    obtain e | info := answer
    · exact h.congr htallies
    obtain ⟨rfl, hsame⟩ := htallies
    have hset : after.driver.mappings
        = w.driver.mappings.set loans.counter.toUInt32 ⟨address, len, access⟩ := by
      rw [← h.counter]
      exact congrArg Prod.fst hsame
    refine ⟨?_, fun hbound => ?_⟩
    · -- the counter moves on by the pages of the buffer, in words as in numbers
      calc after.driver.nextVa
        _ = loans.counter.toUInt32 + (span len).toUInt32 := by
          rw [← h.counter]
          exact congrArg Prod.snd hsame
        _ = (loans.counter + span len).toUInt32 := (UInt32.ofNat_add _ _).symm
        _ = (firstVa.toNat + (loans.passed + span len)).toUInt32 := by
          rw [counter, Nat.add_assoc]
    · -- the table is exact as long as the counter has not come round
      have hcounter : loans.counter + span len ≤ UInt32.size := by
        rw [counter, Nat.add_assoc]
        exact hbound
      have hentered := (h.entered (by omega)).mapped ⟨address, len, access⟩ hcounter hset
      rw [← h.counter] at hentered
      exact hentered
  | unmap handle address info =>
    obtain e | ⟨⟩ := answer
    · exact h.congr htallies
    · obtain ⟨hthere, hsame⟩ := htallies
      exact ⟨(congrArg Prod.snd hsame).trans h.counter, fun hbound =>
        (h.entered hbound).unmapped hthere (congrArg Prod.fst hsame)⟩

/-- The loans that are noted while a device is used are those of the driver, from a secure world on
in which nothing has happened. -/
theorem hold_useAll {apps : Table Uuid (App κ)} {w : World (SecureWorld κ)}
    (fresh : w.driver = .start apps) (calls : List DeviceCall) :
    (World.useAll note calls (w, none)).2.Hold (World.useAll note calls (w, none)).1.driver := by
  refine World.useAll_preserves (P := fun w loans => Hold loans w.driver)
    (fun w loans call h => hold_use h call) calls ?_
  rw [fresh]
  refine ⟨by rfl, fun _ => ⟨fun va mapping => ?_, rfl, .nil, nofun⟩⟩
  simp [SecureWorld.start, none]

/-- The table of mapped buffers is exact: it holds the buffers that are noted down, and these lie
beside each other within 32 bits. -/
structure Exact (loans : Loans) (w : SecureWorld κ) : Prop where
  found : ∀ va mapping, w.mappings.get? va = some mapping ↔ ⟨va, mapping⟩ ∈ loans.live
  counted : w.liveMappings = loans.live.length
  distinct : loans.live.Pairwise fun a b => a.secureVa ≠ b.secureVa
  apart : loans.live.Pairwise fun a b => a.stop ≤ b.start ∨ b.stop ≤ a.start
  below : ∀ loan ∈ loans.live, loan.stop ≤ UInt32.size

/-- The table is exact where the notes are entered and the counter has not come round. -/
theorem Entered.exact (h : loans.Entered w) (hbound : loans.counter ≤ UInt32.size) :
    loans.Exact w where
  found := h.found
  counted := h.counted
  distinct := h.distinct
  apart := h.ordered.imp fun {a _} hab => .inl (Nat.le_trans a.stop_le hab)
  below loan hloan := Nat.le_trans loan.stop_le (Nat.le_trans (h.behind loan hloan) hbound)

end Loans

/-- What a call does to the number of mapped buffers, by its answer; most leave all of them. -/
def DeviceCall.Balances (before : SecureWorld κ) :
    (call : DeviceCall) → call.Answer → SecureWorld κ → Prop
  | .map .., .ok info, after => after.liveMappings
      = before.liveMappings + if before.mappings.contains info.secureVa then 0 else 1
  | .unmap .., .ok (), after => after.liveMappings + 1 = before.liveMappings
  | _, _, after => after.mappings = before.mappings

/-- A buffer that is mapped counts for one more, unless it takes the place of another; one that is
removed counts for one less. -/
theorem World.balances_use (w : World (SecureWorld κ)) (call : DeviceCall) :
    call.Balances w.driver (w.use call).1 (w.use call).2.driver := by
  have htallies := tallies_use w call
  generalize w.use call = used at htallies ⊢
  obtain ⟨answer, after⟩ := used
  cases call with
  | openSession | closeSession | errorCode | publish | notify | wait | arm =>
    exact congrArg Prod.fst htallies
  | map handle address len access =>
    obtain e | info := answer
    · exact congrArg Prod.fst htallies
    · obtain ⟨rfl, hsame⟩ := htallies
      have hset : after.driver.mappings = w.driver.mappings.set w.driver.nextVa _ :=
        congrArg Prod.fst hsame
      simp only [DeviceCall.Balances, liveMappings, hset, Table.size_set]
      split <;> rfl
  | unmap handle address info =>
    obtain e | ⟨⟩ := answer
    · exact congrArg Prod.fst htallies
    · obtain ⟨⟨mapping, hget, -⟩, hsame⟩ := htallies
      have herased : after.driver.mappings = w.driver.mappings.erase info.secureVa :=
        congrArg Prod.fst hsame
      have hcontains : w.driver.mappings.contains info.secureVa = true := by
        simp [Table.contains, hget]
      have hpos := Table.size_pos hget
      simp only [DeviceCall.Balances, liveMappings, herased, Table.size_erase, hcontains, if_true]
      omega

/-- Whatever is done with a secure world in which nothing has happened, the table of mapped buffers
is exact until the counter of addresses has come round: it holds the buffers whose mapping succeeded
and was not removed, at addresses of their own and in ranges that are disjoint and end within 32
bits. A buffer is then never mapped where another is, so that each one counts.

Whether or not the counter has come round, a buffer that is removed counts for one less, an attempt
that fails changes nothing, and a buffer that is mapped counts for one more unless the counter has
led it to the address of another. -/
theorem mappings_are_loans {apps : Table Uuid (App κ)} {w : World (SecureWorld κ)}
    (fresh : w.driver = .start apps) (calls : List DeviceCall) :
    let (reached, loans) := World.useAll Loans.note calls (w, Loans.none)
    (loans.counter ≤ UInt32.size → loans.Exact reached.driver) ∧
    (∀ handle address len access info after,
      reached.use (.map handle address len access) = (.ok info, after) →
      loans.counter + span len ≤ UInt32.size →
      reached.driver.mappings.get? info.secureVa = none ∧
        after.driver.liveMappings = reached.driver.liveMappings + 1) ∧
    ∀ call : DeviceCall,
      call.Balances reached.driver (reached.use call).1 (reached.use call).2.driver := by
  have hhold := Loans.hold_useAll fresh calls
  rcases hused : World.useAll Loans.note calls (w, Loans.none) with ⟨reached, loans⟩
  replace hhold : loans.Hold reached.driver := by
    rw [hused] at hhold
    exact hhold
  refine ⟨fun hbound => (hhold.entered hbound).exact hbound, ?_, reached.balances_use⟩
  intro handle address len access info after hmap hbound
  have hpos := span_pos len
  have htallies := reached.tallies_use (.map handle address len access)
  have hbalances := reached.balances_use (.map handle address len access)
  rw [hmap] at htallies hbalances
  obtain ⟨rfl, -⟩ := htallies
  -- the counter stands behind all loans, so nothing is mapped there
  have hvacant : reached.driver.mappings.get? reached.driver.nextVa = none := by
    rw [hhold.counter]
    exact (hhold.entered (by omega)).vacant (by omega)
  refine ⟨hvacant, ?_⟩
  have hcontains : reached.driver.mappings.contains reached.driver.nextVa = false := by
    simp [Table.contains, hvacant]
  simpa [DeviceCall.Balances, hcontains] using hbalances

/-! A device on which buffers of three lengths are mapped. -/

namespace Lengths

/-- An application that does nothing. -/
def app : App Nat where
  initial := 0
  opening n := .finish (.ok ()) n
  command _ n := .finish (.ok ()) n
  closing n := .finish (.ok ()) n

/-- The application installed, and a page. -/
def start : World (SecureWorld Nat) :=
  { World.start (.start (Table.ofList [(.nil, app)])) with pages := Arena.empty.add .blank }

/-- A buffer of 16 bytes is mapped. -/
def short : DeviceCall := .map 1 ⟨0, 0⟩ 16 .both

/-- A buffer is mapped whose pages lead the counter to where it began. -/
def long : DeviceCall := .map 1 ⟨0, 0⟩ 0xFFFFF000 .both

/-- Two buffers are mapped, with a budget that does not allow for a third, and the first of them is
removed. -/
def budgeted : List DeviceCall :=
  [.openSession .nil ⟨0, 0⟩ 0, short, .arm ⟨none, none, some 1, false, none, none⟩, short, short,
    .unmap 1 ⟨0, 0⟩ ⟨firstVa, 16⟩]

/-- Three buffers are mapped. -/
def wrapped : List DeviceCall := [.openSession .nil ⟨0, 0⟩ 0, short, long, short]

/-- Where calls lead, and what is noted down of them. -/
def reached (calls : List DeviceCall) : World (SecureWorld Nat) × Loans :=
  World.useAll Loans.note calls (start, Loans.none)

end Lengths

/-- The second buffer alone is in the table when the first is removed and a third was refused. -/
theorem mappings_are_loans_budgeted :
    (Lengths.reached Lengths.budgeted).2.live = [⟨firstVa + 4096, ⟨0, 0⟩, 16, .both⟩] ∧
    (Lengths.reached Lengths.budgeted).2.Exact (Lengths.reached Lengths.budgeted).1.driver := by
  have hexact := (mappings_are_loans (w := Lengths.start) rfl Lengths.budgeted).1
  exact ⟨by decide +kernel, hexact (by decide +kernel)⟩

/-- Three buffers are mapped, each with success, and none is removed. The second one ends beyond 32
bits; the third takes the address and the place of the first; and two are mapped in the end. -/
theorem live_mapping_replaced :
    (Lengths.reached Lengths.wrapped).2.live = [⟨firstVa, ⟨0, 0⟩, 16, .both⟩,
      ⟨firstVa + 4096, ⟨0, 0⟩, 0xFFFFF000, .both⟩, ⟨firstVa, ⟨0, 0⟩, 16, .both⟩] ∧
    (∃ loan ∈ (Lengths.reached Lengths.wrapped).2.live, UInt32.size < loan.stop) ∧
    (Lengths.reached Lengths.wrapped).1.driver.liveMappings = 2 := by
  decide +kernel

end TeeClient

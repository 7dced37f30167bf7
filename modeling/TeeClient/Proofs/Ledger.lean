import TeeClient.Proofs.Protocol
import TeeClient.Proofs.Endings
import TeeClient.Proofs.Views

/-!
# What a driver has open

`Ledger` is what a driver that numbers its sessions has open and mapped. `Keeps D ledger` says what
the primitives of a driver do to the ledger it keeps, whatever cancellations are requested
meanwhile. It holds of the simulated secure world, and of every recorder around a driver of which it
holds, with any hooks and overrides armed.

`Agreement` compares such a ledger with the uses made of the driver. No use can upset it: neither
the order of the uses nor what they return plays a part.

Main statements:

* `keeps_driver` and `Keeps.recorder`: the two drivers;
* `Keeps.agreement_effect`: every call of a client keeps the agreement;
* `Agreement.distinctHandles`: handles differ as long as the counter has not come round.
-/

namespace TeeClient

variable {σ κ α : Type}

/-- What a driver has open and mapped. -/
structure Ledger where
  /-- Which sessions are open. -/
  sessions : Handle → Bool
  /-- The buffers that are mapped. -/
  mappings : Mappings
  /-- The handle of the next session. -/
  next : Handle

/-- The mapping at an address is removed, if it is of the buffer. -/
def Mappings.strike (m : Mappings) (address : Address) (secureVa : UInt32) : Mappings :=
  match m.get? secureVa with
  | none => m
  | some mapping => if mapping.address = address then m.erase secureVa else m

namespace Mappings

variable {m : Mappings} {address : Address} {secureVa : UInt32}

/-- A mapping of the buffer is removed. -/
theorem strike_of_match {mapping : Mapping} (hget : m.get? secureVa = some mapping)
    (haddress : mapping.address = address) : m.strike address secureVa = m.erase secureVa := by
  unfold strike
  rw [hget]
  exact if_pos haddress

/-- Where the address is not mapped to the buffer, no mapping is removed. -/
theorem strike_of_missed
    (h : ∀ mapping, m.get? secureVa = some mapping → mapping.address ≠ address) :
    m.strike address secureVa = m := by
  unfold strike
  cases hget : m.get? secureVa with
  | none => rfl
  | some mapping => exact if_neg (h mapping hget)

/-- A mapping that is found after one was struck was found before, and is not the one that was
struck. -/
theorem of_get?_strike {va : UInt32} {mapping : Mapping}
    (hget : (m.strike address secureVa).get? va = some mapping) :
    m.get? va = some mapping ∧ ¬ (va = secureVa ∧ mapping.address = address) := by
  by_cases hstruck : ∃ found, m.get? secureVa = some found ∧ found.address = address
  · obtain ⟨found, hfound, haddress⟩ := hstruck
    rw [strike_of_match hfound haddress, Table.get?_erase] at hget
    split at hget
    · cases hget
    next hne => exact ⟨hget, fun hand => hne hand.1⟩
  · rw [strike_of_missed fun found hfound haddress => hstruck ⟨found, hfound, haddress⟩] at hget
    exact ⟨hget, fun hand => hstruck ⟨mapping, hand.1 ▸ hget, hand.2⟩⟩

end Mappings

namespace Ledger

/-- The next session is opened. -/
def opened (l : Ledger) : Ledger :=
  { l with
    sessions := fun other => decide (other = l.next) || l.sessions other
    next := l.next + 1 }

/-- A session is closed. -/
def closed (handle : Handle) (l : Ledger) : Ledger :=
  { l with sessions := fun other => !decide (other = handle) && l.sessions other }

/-- A buffer is mapped. -/
def mapped (secureVa : UInt32) (mapping : Mapping) (l : Ledger) : Ledger :=
  { l with mappings := l.mappings.set secureVa mapping }

/-- What an attempt to open a session enters, by its result. -/
def Opens (l : Ledger) : Except DriverFault Handle → Ledger → Prop
  | .error _, l' => l' = l
  | .ok handle, l' => handle = l.next ∧ l' = l.opened

/-- What an attempt to map a buffer enters, by its result. -/
def Maps (address : Address) (len : Nat) (access : Access) (l : Ledger) :
    Except DriverFault SecureRange → Ledger → Prop
  | .error _, l' => l' = l
  | .ok info, l' => l' = l.mapped info.secureVa ⟨address, len, access⟩

/-- A buffer is unmapped. -/
def unmapped (address : Address) (secureVa : UInt32) (l : Ledger) : Ledger :=
  { l with mappings := l.mappings.strike address secureVa }

end Ledger

/-- The driver keeps a ledger, to which its primitives do these things. -/
structure Keeps (D : Driver σ) (ledger : σ → Ledger) : Prop where
  openDevice : ∀ d, ledger (D.openDevice d).2.driver = ledger d.driver
  closeDevice : ∀ d, ledger (D.closeDevice d).2.driver = ledger d.driver
  openSession : ∀ destination login page,
    Shows ledger (D.openSession destination login page) Ledger.Opens
  closeSession : ∀ handle, Shows ledger (D.closeSession handle) fun l _ l' => l' = l.closed handle
  map : ∀ handle address len access,
    Shows ledger (D.map handle address len access) (Ledger.Maps address len access)
  unmap : ∀ handle address info, Shows ledger (D.unmap handle address info)
    fun l _ l' => l' = l.unmapped address info.secureVa
  errorCode : ∀ handle, Shows ledger (D.errorCode handle) fun l _ l' => l' = l
  notify : ∀ purpose handle, ShowsShared ledger (D.notify purpose handle) fun l _ l' => l' = l
  wait : ∀ handle limit, ShowsShared ledger (D.wait handle limit) fun l _ l' => l' = l

/-! ## The secure world -/

namespace SecureWorld

/-- What the secure world has open and mapped. -/
def ledger (w : SecureWorld κ) : Ledger := ⟨w.sessions.contains, w.mappings, w.nextHandle⟩

/-- A worker that changes stays under its handle. -/
theorem ledger_onWorker (w : SecureWorld κ) (handle : Handle) (f : Worker κ → Worker κ) :
    (w.onWorker handle f).ledger = w.ledger := by
  have hsessions : (w.sessions.modify handle f).contains = w.sessions.contains := by
    funext other
    unfold Table.contains
    rw [Table.get?_modify]
    split
    · exact Option.isSome_map
    · rfl
  unfold ledger
  rw [show (w.onWorker handle f).sessions.contains = _ from hsessions]
  rfl

/-- Serving requests leaves the ledger. -/
theorem overlooks_ledger :
    Overlooks fun w w' : SecureWorld κ => w'.ledger = w.ledger where
  trans h h' := h'.trans h
  onWorker := ledger_onWorker
  aside _ _ _ _ _ := rfl

/-- What opening a session enters. -/
theorem ledger_openSession (destination : Uuid) (login : Login) (page : PageId)
    (d : Desk (SecureWorld κ)) :
    d.driver.ledger.Opens (openSession destination login page d).1
      (openSession destination login page d).2.driver.ledger := by
  obtain ⟨app, -, he⟩ | ⟨e, fault, he⟩ := openSession_cases destination login page d <;> rw [he]
  · refine ⟨rfl, ?_⟩
    simp only [ledger, Ledger.opened, Desk.log, count, Ledger.mk.injEq, and_true]
    exact funext fun other => Table.contains_set _ _ _ _
  · rfl

/-- What closing a session strikes out. -/
theorem ledger_closeSession (handle : Handle) (d : Desk (SecureWorld κ)) :
    (closeSession handle d).2.driver.ledger = d.driver.ledger.closed handle := by
  obtain ⟨worker, -, he⟩ | ⟨hnone, he⟩ := closeSession_cases handle d <;> rw [he]
  · simp only [ledger, Ledger.closed, count, Ledger.mk.injEq, and_true]
    exact funext fun other => Table.contains_erase _ _ _
  · -- a session that is not open need not be struck out
    simp only [ledger, Ledger.closed, count, Ledger.mk.injEq, and_true]
    funext other
    by_cases he : other = handle
    · rw [he]
      simp only [decide_true, Bool.not_true, Bool.false_and]
      exact Option.isSome_eq_false_iff.2 (Option.isNone_iff_eq_none.2 hnone)
    · simp [he]

/-- What mapping a buffer enters. -/
theorem ledger_map (handle : Handle) (address : Address) (len : Nat) (access : Access)
    (w : SecureWorld κ) :
    Ledger.Maps address len access w.ledger (map handle address len access w).1
      (map handle address len access w).2.ledger := by
  obtain ⟨-, -, budget, he⟩ | ⟨e, budget, he⟩ := map_cases handle address len access w <;>
    rw [he] <;> rfl

/-- What unmapping a buffer strikes out. -/
theorem ledger_unmap (handle : Handle) (address : Address) (info : SecureRange)
    (w : SecureWorld κ) :
    (unmap handle address info w).2.ledger = w.ledger.unmapped address info.secureVa := by
  unfold Ledger.unmapped
  obtain ⟨mapping, hget, haddress, he⟩ | ⟨e, hmissed, he⟩ := unmap_cases handle address info w <;>
    rw [he]
  · rw [show w.ledger.mappings.strike address info.secureVa = _ from
      Mappings.strike_of_match hget haddress]
    rfl
  · rw [show w.ledger.mappings.strike address info.secureVa = _ from
      Mappings.strike_of_missed hmissed]
    rfl

end SecureWorld

/-- The secure world keeps its ledger. -/
theorem keeps_driver : Keeps (SecureWorld.driver : Driver (SecureWorld κ)) SecureWorld.ledger where
  openDevice d := by
    show (SecureWorld.openDevice d).2.driver.ledger = d.driver.ledger
    unfold SecureWorld.openDevice
    simp only
    split
    · rfl
    · rfl
  closeDevice _ := rfl
  openSession destination login page d := SecureWorld.ledger_openSession destination login page d
  closeSession handle d := SecureWorld.ledger_closeSession handle d
  map handle address len access d := SecureWorld.ledger_map handle address len access d.driver
  unmap handle address info d := SecureWorld.ledger_unmap handle address info d.driver
  errorCode _ _ := rfl
  notify _ handle s := SecureWorld.overlooks_ledger.notify handle s
  wait handle _ s := SecureWorld.overlooks_ledger.wait handle s.driver

/-- A recorder keeps the ledger that the driver behind it keeps. -/
theorem Keeps.recorder {D : Driver σ} {ledger : σ → Ledger} (h : Keeps D ledger) :
    Keeps (Recorder.driver D) fun r => ledger r.inner where
  openDevice d := h.openDevice (Recorder.innerDesk d)
  closeDevice d := (Recorder.view_replaced ledger .closeDevice _ _).trans
    (h.closeDevice (Recorder.innerDesk d))
  openSession destination login page d := by
    refine .bind (.imp (Recorder.shows_noted (h.openSession destination login page) d)
      fun result d' hr => ?_)
    -- the note of the recorder is entered in the journal only
    cases result with
    | error e => exact hr
    | ok handle => exact hr
  closeSession handle d :=
    .bind (.imp (Recorder.shows_notedReplaced (h.closeSession handle) d) fun _ _ hr => hr)
  map handle address len access := Recorder.shows_noted (h.map handle address len access)
  unmap handle address info := Recorder.shows_notedReplaced (h.unmap handle address info)
  errorCode handle := Recorder.shows_notedReplaced (h.errorCode handle)
  notify purpose handle s := by
    have hnoted : ∀ s event, (Recorder.notedNotify D purpose handle event s).Meets
        (fun a b => ledger b.driver.inner = ledger a.driver.inner)
        fun _ s' => ledger s'.driver.inner = ledger s.driver.inner := fun s _ =>
      .bind (.imp (Recorder.showsShared_forward (h.notify purpose handle) s) fun _ _ h₁ => h₁)
    cases purpose with
    | cancellation => exact hnoted s _
    | call =>
      -- hooks come before a notification of the client
      refine .bind (.imp (Recorder.showsShared_runHooks ledger .notify s) fun _ s₁ h₁ => ?_)
      exact .imp (hnoted s₁ _) fun _ _ h₂ => h₂.trans h₁
  wait handle limit s := by
    refine .bind (.imp (Recorder.showsShared_forward (h.wait handle limit) s)
      fun result s₁ h₁ => ?_)
    refine .bind (.imp (Recorder.showsShared_runHooks ledger .wait _) fun _ s₂ h₂ => ?_)
    exact h₂.trans ((Recorder.view_replaced ledger .wait result s₁.desk).trans h₁)

/-! ## Ledger and uses -/

/-- The handles that sessions were opened under, the latest first. -/
def handedOut (uses : List Use) : List Handle := uses.filterMap Use.opened?

/-- A handle occurs among those handed out as often as a session was opened under it. -/
theorem countP_opens_eq_count (uses : List Use) (handle : Handle) :
    uses.countP (Use.opens handle) = (handedOut uses).count handle := by
  rw [handedOut, List.count_filterMap]
  refine List.countP_congr fun use _ => ?_
  simp [Use.opens]

/-- The first handles that a counter gives out, the latest first. -/
def firstHandles : Nat → List Handle
  | 0 => []
  | n + 1 => (n.toUInt32 + 1) :: firstHandles n

/-- Every one of the first handles has its number. -/
theorem mem_firstHandles {n : Nat} {handle : Handle} (h : handle ∈ firstHandles n) :
    ∃ k, k < n ∧ handle = k.toUInt32 + 1 := by
  induction n with
  | zero => cases h
  | succ n ih =>
    rcases List.mem_cons.1 h with rfl | h
    · exact ⟨n, Nat.lt_succ_self n, rfl⟩
    · obtain ⟨k, hk, he⟩ := ih h
      exact ⟨k, Nat.lt_succ_of_lt hk, he⟩

/-- The first handles differ, until the counter comes round. -/
theorem nodup_firstHandles {n : Nat} (h : n < UInt32.size) : (firstHandles n).Nodup := by
  induction n with
  | zero => exact List.nodup_nil
  | succ n ih =>
    have hn : n < UInt32.size := Nat.lt_of_succ_lt h
    refine List.nodup_cons.2 ⟨fun hmem => ?_, ih hn⟩
    obtain ⟨k, hk, he⟩ := mem_firstHandles hmem
    have hsame : n.toUInt32 = k.toUInt32 := (UInt32.add_left_inj 1).1 he
    have := SecureWorld.eq_of_toUInt32_eq hn (Nat.lt_trans hk hn) hsame
    omega

/-- The sessions in the books were opened some time. -/
theorem mem_handedOut_of_contains {uses : List Use} {handle : Handle}
    (h : (books uses).sessions.contains handle = true) : handle ∈ handedOut uses := by
  induction uses with
  | nil => cases h
  | cons use earlier ih =>
    cases use with
    | call | closeDevice | unmap | notify | wait | errorCode | wake => exact ih h
    | openDevice result | map _ _ _ _ result => cases result <;> exact ih h
    | openSession result =>
      cases result with
      | error e => exact ih h
      | ok opened =>
        have h : ((books earlier).sessions.set opened _).contains handle = true := h
        rw [Table.contains_set, Bool.or_eq_true, decide_eq_true_eq] at h
        -- the session is the one that was opened, or was open before
        rcases h with rfl | h
        · exact List.mem_cons_self
        · exact List.mem_cons_of_mem _ (ih h)
    | closeSession closed =>
      have h : ((books earlier).sessions.erase closed).contains handle = true := h
      rw [Table.contains_erase, Bool.and_eq_true] at h
      -- a session that is still open was opened before
      exact ih h.2

/-- Handles that are never given out twice are not given out while they are in use. -/
theorem distinctHandles_of_nodup {uses : List Use} (h : (handedOut uses).Nodup) :
    DistinctHandles uses := by
  induction uses with
  | nil => trivial
  | cons use earlier ih =>
    cases ho : use.opened? with
    | none =>
      rw [handedOut, List.filterMap_cons_none ho] at h
      exact ⟨by rw [ho]; rfl, ih h⟩
    | some handle =>
      rw [handedOut, List.filterMap_cons_some ho] at h
      obtain ⟨hnew, hrest⟩ := List.nodup_cons.1 h
      refine ⟨?_, ih hrest⟩
      rw [ho, Option.all_some, Bool.not_eq_true']
      exact Bool.eq_false_iff.2 fun hc => hnew (mem_handedOut_of_contains hc)

/-- A ledger agrees with the uses that were made of the driver. -/
structure Agreement (l : Ledger) (uses : List Use) : Prop where
  sessions : ∀ handle, l.sessions handle = (books uses).sessions.contains handle
  /-- Whatever is mapped is in the books, under the address that the driver named. -/
  mapped : ∀ secureVa mapping, l.mappings.get? secureVa = some mapping → ∃ handle info,
    (handle, ⟨mapping.address, info⟩) ∈ (books uses).mapped ∧ info.secureVa = secureVa
  numbered : handedOut uses = firstHandles (handedOut uses).length
  next : l.next = (handedOut uses).length.toUInt32 + 1

namespace Agreement

variable {l : Ledger} {uses : List Use}

/-- Nothing is open where nothing was done. -/
theorem empty : Agreement ⟨fun _ => false, .empty, 1⟩ [] where
  sessions _ := rfl
  mapped _ _ h := by cases h
  numbered := rfl
  next := rfl

/-- A use that opens, closes, maps and unmaps nothing leaves the agreement. -/
theorem cons (h : Agreement l uses) {use : Use} (opened : use.opened? = none)
    (sessions : (books (use :: uses)).sessions = (books uses).sessions)
    (mapped : (books (use :: uses)).mapped = (books uses).mapped) : Agreement l (use :: uses) := by
  have handed : handedOut (use :: uses) = handedOut uses := List.filterMap_cons_none opened
  refine ⟨?_, ?_, ?_, ?_⟩
  · rw [sessions]; exact h.sessions
  · rw [mapped]; exact h.mapped
  · rw [handed]; exact h.numbered
  · rw [handed]; exact h.next

/-- Waking sessions leaves the agreement. -/
theorem woken (h : Agreement l uses) {awake : Handle → Prop} {uses' : List Use}
    (hw : Woken awake uses uses') : Agreement l uses' :=
  Traced.of_woken (R := Agreement l) (fun _ _ hu => hu.cons rfl rfl rfl) hw h

/-- An attempt to open a session keeps the agreement. -/
theorem openSession (h : Agreement l uses) {result : Except DriverFault Handle} {l' : Ledger}
    (hl : l.Opens result l') : Agreement l' (.openSession result :: uses) := by
  cases result with
  | error e =>
    obtain rfl := hl
    exact h.cons rfl rfl rfl
  | ok handle =>
    obtain ⟨rfl, rfl⟩ := hl
    have handed : handedOut (.openSession (.ok l.next) :: uses) = l.next :: handedOut uses := rfl
    refine ⟨fun handle => ?_, h.mapped, ?_, ?_⟩
    · -- the session is entered on both sides
      show _ = ((books uses).sessions.set l.next _).contains handle
      rw [Table.contains_set, ← h.sessions]
      rfl
    · -- the handle is the next of the numbers that were handed out
      rw [handed, List.length_cons, firstHandles, ← h.next, ← h.numbered]
    · rw [handed, List.length_cons]
      show l.next + 1 = _
      rw [h.next]
      exact congrArg (· + 1) (UInt32.ofNat_add _ 1).symm

/-- Closing a session keeps the agreement. -/
theorem closeSession (h : Agreement l uses) (handle : Handle) :
    Agreement (l.closed handle) (.closeSession handle :: uses) := by
  refine ⟨fun other => ?_, h.mapped, h.numbered, h.next⟩
  show _ = ((books uses).sessions.erase handle).contains other
  rw [Table.contains_erase, ← h.sessions]
  rfl

/-- An attempt to map a buffer keeps the agreement. -/
theorem map (h : Agreement l uses) (handle : Handle) {address : Address} {len : Nat}
    {access : Access} {result : Except DriverFault SecureRange} {l' : Ledger}
    (hl : l.Maps address len access result l') :
    Agreement l' (.map handle address len access result :: uses) := by
  cases result with
  | error e =>
    obtain rfl := hl
    exact h.cons rfl rfl rfl
  | ok info =>
    obtain rfl := hl
    refine ⟨h.sessions, fun secureVa mapping hget => ?_, h.numbered, h.next⟩
    have hget : (l.mappings.set info.secureVa ⟨address, len, access⟩).get? secureVa
      = some mapping := hget
    show ∃ _ _, _ ∈ (handle, ⟨address, info⟩) :: (books uses).mapped ∧ _
    rw [Table.get?_set] at hget
    split at hget
    -- the mapping is the new one, or one that was there
    next he =>
      cases hget
      exact ⟨handle, info, List.mem_cons_self, he.symm⟩
    next =>
      obtain ⟨other, range, hmem, hva⟩ := h.mapped secureVa mapping hget
      exact ⟨other, range, List.mem_cons_of_mem _ hmem, hva⟩

/-- Unmapping a buffer keeps the agreement. -/
theorem unmap (h : Agreement l uses) (handle : Handle) (address : Address) (info : SecureRange) :
    Agreement (l.unmapped address info.secureVa) (.unmap handle address info :: uses) := by
  refine ⟨h.sessions, fun secureVa mapping hget => ?_, h.numbered, h.next⟩
  obtain ⟨hbefore, hnot⟩ : l.mappings.get? secureVa = some mapping ∧
    ¬ (secureVa = info.secureVa ∧ mapping.address = address) := Mappings.of_get?_strike hget
  obtain ⟨other, range, hmem, hva⟩ := h.mapped secureVa mapping hbefore
  refine ⟨other, range, (List.mem_erase_of_ne ?_).2 hmem, hva⟩
  rintro he
  cases he
  exact hnot ⟨hva.symm, rfl⟩

/-- As long as fewer sessions were opened than there are handles, no handle was given out twice. -/
theorem nodup (h : Agreement l uses) (few : (handedOut uses).length < UInt32.size) :
    (handedOut uses).Nodup := by
  rw [h.numbered]
  exact nodup_firstHandles few

/-- As long as fewer sessions were opened than there are handles, no session was opened under the
handle of one that was open. -/
theorem distinctHandles (h : Agreement l uses) (few : (handedOut uses).length < UInt32.size) :
    DistinctHandles uses :=
  distinctHandles_of_nodup (h.nodup few)

/-- Where no mapping is in force nothing is mapped. -/
theorem size_mappings (h : Agreement l uses) (settled : (books uses).mapped = []) :
    l.mappings.size = 0 := by
  refine Table.size_eq_zero fun secureVa => ?_
  cases hget : l.mappings.get? secureVa with
  | none => rfl
  | some mapping =>
    obtain ⟨handle, info, hmem, -⟩ := h.mapped secureVa mapping hget
    rw [settled] at hmem
    cases hmem

end Agreement

/-! ## What the calls on sessions keep -/

namespace Keeps

variable {D : Driver σ} {ledger : σ → Ledger} (h : Keeps D ledger)

/-- The ledger stays, and sessions may have been woken. -/
def Follows (ledger : σ → Ledger) (t t' : Traced σ) : Prop :=
  ledger t'.inner = ledger t.inner ∧ Woken (fun _ => True) t.uses t'.uses

include h

/-- Requests to cancel leave the ledger, and only wake sessions. -/
theorem tolerates_follows :
    World.Tolerates (Traced.driver D) fun w after => Follows ledger w.driver after.driver := by
  refine World.tolerates_driver (fun _ => ⟨rfl, .refl _⟩)
    (fun _ _ _ hab hbc => ⟨hbc.1.trans hab.1, hab.2.trans hbc.2⟩) fun handle s => ?_
  have hledger := Traced.showsShared_enterShared (h.notify .cancellation handle)
    (Traced.notified .cancellation handle) s
  refine .imp (hledger.and (Traced.enterShared_meets _ _ s)) ?_
  rintro _ s' ⟨hsame, uses, hwoken, huses⟩
  refine ⟨hsame, ?_⟩
  rw [huses]
  exact hwoken.trans ⟨[handle], rfl, fun _ _ => trivial⟩

/-- A primitive that is entered with its result keeps the agreement, if what it does to the ledger
agrees with its result. -/
theorem agreement_enterAfter {use : α → Use} {act : Desk σ → Reply (Desk σ) α}
    {effect : Ledger → α → Ledger → Prop} (hact : Shows ledger act effect)
    (huse : ∀ {l : Ledger} {uses : List Use} {value : α} {l' : Ledger}, effect l value l' →
      Agreement l uses → Agreement l' (use value :: uses)) {w : World (Traced σ)}
    (hw : Agreement (ledger w.driver.inner) w.driver.uses) :
    let after := (w.onDesk (Traced.driver D) (Traced.enterAfter use act)).2
    Agreement (ledger after.driver.inner) after.driver.uses := by
  have hledger := Traced.shows_enterAfter hact use w.desk
  obtain ⟨heffect, uses, hwoken, hentered⟩ :=
    World.onDesk_driver h.tolerates_follows (hledger.and (Traced.enterAfter_meets use act w.desk))
  exact (congrArg (Agreement _) hentered).mpr (huse heffect (hw.woken hwoken))

/-- A primitive that is entered before it runs keeps the agreement, if what it does to the ledger
agrees with the use. -/
theorem agreement_enterBefore {use : Use} {act : Desk σ → Reply (Desk σ) α}
    {effect : Ledger → α → Ledger → Prop} (hact : Shows ledger act effect)
    (huse : ∀ {l : Ledger} {uses : List Use} {value : α} {l' : Ledger}, effect l value l' →
      Agreement l uses → Agreement l' (use :: uses)) {w : World (Traced σ)}
    (hw : Agreement (ledger w.driver.inner) w.driver.uses) :
    let after := (w.onDesk (Traced.driver D) (Traced.enterBefore use act)).2
    Agreement (ledger after.driver.inner) after.driver.uses := by
  have hledger := Traced.shows_enterBefore hact use w.desk
  obtain ⟨heffect, hwoken⟩ :=
    World.onDesk_driver h.tolerates_follows (hledger.and (Traced.enterBefore_meets use act w.desk))
  exact (huse heffect hw).woken hwoken

/-- A primitive during which the secure world runs keeps the agreement, if it leaves the ledger. -/
theorem agreement_enterShared {use : α → Use} {act : Shared σ → Reply (Shared σ) α}
    (hact : ShowsShared ledger act fun l _ l' => l' = l)
    (huse : ∀ {l : Ledger} {uses : List Use} {value : α}, Agreement l uses →
      Agreement l (use value :: uses)) {w : World (Traced σ)}
    (hw : Agreement (ledger w.driver.inner) w.driver.uses) :
    let after := (w.onShared (Traced.driver D) (Traced.enterShared use act)).2
    Agreement (ledger after.driver.inner) after.driver.uses := by
  have hledger := Traced.showsShared_enterShared hact use w.toShared
  obtain ⟨hsame, uses, hwoken, hentered⟩ :=
    World.onShared_driver h.tolerates_follows
      (hledger.and (Traced.enterShared_meets use act w.toShared))
  exact (congrArg₂ Agreement hsame hentered).mpr (huse (hw.woken hwoken))

/-- The calls on sessions keep the agreement. -/
theorem driverSafe_agreement : DriverSafe (Traced.driver D) (fun _ _ => True)
    fun t : Traced σ => Agreement (ledger t.inner) t.uses where
  log _ _ hw := hw
  onPage _ _ _ hw := hw
  onLifecycle _ _ _ hw := hw
  onChannel _ _ _ hw := hw
  map _ handle address len access _ hw :=
    h.agreement_enterAfter (h.map handle address len access) (fun hl ha => ha.map handle hl) hw
  unmap _ handle address info hw :=
    h.agreement_enterBefore (h.unmap handle address info)
      (fun hl ha => hl ▸ ha.unmap handle address info) hw
  notify _ handle hw :=
    h.agreement_enterShared (h.notify .call handle) (fun ha => ha.cons rfl rfl rfl) hw
  wait _ handle hw :=
    h.agreement_enterShared (h.wait handle none) (fun ha => ha.cons rfl rfl rfl) hw
  errorCode _ handle hw :=
    h.agreement_enterBefore (h.errorCode handle) (fun hl ha => hl ▸ ha.cons rfl rfl rfl) hw
  closeSession _ handle hw :=
    h.agreement_enterBefore (h.closeSession handle) (fun hl ha => hl ▸ ha.closeSession handle) hw
  openSession _ destination login page hw :=
    h.agreement_enterAfter (h.openSession destination login page) (fun hl ha => ha.openSession hl)
      hw

/-- Every call of a client keeps the agreement. -/
theorem agreement_effect {c c' : Client (Traced σ)} {call : ClientCall}
    (he : Client.Effect (Traced.driver D) c c' call)
    (hc : Agreement (ledger c.world.driver.inner) c.world.driver.uses) :
    Agreement (ledger c'.world.driver.inner) c'.world.driver.uses := by
  refine Client.driver_effect h.driverSafe_agreement.sessionSafe (fun d hd => ?_) (fun d hd => ?_)
    (fun w id hw => ?_) he hc
  · -- whether the device was opened or not, no session was
    show Agreement (ledger (D.openDevice (Traced.innerDesk d)).2.driver)
      (.openDevice (D.openDevice (Traced.innerDesk d)).1 :: d.driver.uses)
    rw [h.openDevice]
    cases (D.openDevice (Traced.innerDesk d)).1 with
    | ok _ => exact hd.cons rfl rfl rfl
    | error e => exact hd.cons rfl rfl rfl
  · show Agreement (ledger (D.closeDevice (Traced.innerDesk d)).2.driver)
      (.closeDevice :: d.driver.uses)
    rw [h.closeDevice]
    exact hd.cons rfl rfl rfl
  · obtain ⟨hledger, hwoken⟩ := h.tolerates_follows.cancelCall id w
    rw [hledger]
    exact Agreement.woken hw hwoken

end Keeps

end TeeClient

import TeeClient.Proofs.Device.Addresses
import TeeClient.Proofs.Direct.Calls
import TeeClient.Proofs.Publishing

/-!
# Slots that are reported

When a call takes a slot back, it compares the mapping that it holds for the slot with the second
word that it finds there, and reports the slot where one of the two is nothing and the other is not.
In the slot of a memory reference the word is the mapped length. In any other slot no mapping is
held, and the word is the second of a pair of values: a pair is reported for what it holds, also
where nothing was written to the page.

Main statements:

* `Call.marked_publish`: a published request holds a mapping for a slot exactly if the slot is a
  memory reference with a mapped length;
* `Call.mismatches_takeBackEach`: the slots that are reported, one after the other;
* `marker_reports`: what a call on the simulated secure world reports of its slots.
-/

namespace TeeClient

variable {σ κ : Type}

/-! ## What the journal reports -/

namespace Journal

/-- The slots that were reported, the first report first. -/
def mismatches (j : Journal) : List Nat := j.inOrder.filterMap Entry.mismatch?

/-- Another entry reports a slot, or none. -/
theorem mismatches_cons (e : Entry) (j : Journal) :
    mismatches (e :: j) = j.mismatches ++ e.mismatch?.toList := by
  unfold mismatches inOrder
  rw [List.reverse_cons, List.filterMap_append]
  cases h : e.mismatch? <;> simp [h]

/-- An entry that reports no slot. -/
theorem mismatches_cons_of_none {e : Entry} (h : e.mismatch? = none) (j : Journal) :
    mismatches (e :: j) = j.mismatches := by
  rw [mismatches_cons, h]
  exact List.append_nil _

end Journal

/-- Between the two no slot was reported. -/
def World.Silent (w w' : World σ) : Prop := w'.journal.mismatches = w.journal.mismatches

/-- A record that reports no slot. -/
theorem World.Silent.log {w w' : World σ} (h : w.Silent w') {r : Record} (hr : r.mismatch? = none) :
    w.Silent (w'.log r) :=
  (Journal.mismatches_cons_of_none (e := .log r) hr w'.journal).trans h

/-! ## What the secure world reports -/

/-- Serving requests reports no slot. -/
theorem SecureWorld.serving_silent : Serving fun s s' : Shared (SecureWorld κ) =>
    s'.journal.mismatches = s.journal.mismatches where
  trans _ _ _ h h' := h'.trans h
  onWorker _ _ _ := rfl
  aside _ _ _ _ _ := rfl
  entered s _ h := Journal.mismatches_cons_of_none h s.journal
  memory _ _ _ _ _ _ _ := rfl
  onPage _ _ _ _ := rfl

namespace World

/-- Requests to cancel report no slot. -/
theorem tolerates_silent : Tolerates (SecureWorld.driver : Driver (SecureWorld κ)) Silent :=
  SecureWorld.serving_silent.tolerates fun _ _ => rfl

/-- A notification reports no slot. -/
theorem silent_notify (handle : Handle) (w : World (SecureWorld κ)) :
    w.Silent (w.onShared SecureWorld.driver (SecureWorld.driver.notify .call handle)).2 :=
  tolerates_silent.onShared (SecureWorld.serving_silent.notify handle w.toShared) fun _ _ h => h

/-- Closing a session at the driver reports no slot. -/
theorem silent_closeSession (handle : Handle) (w : World (SecureWorld κ)) :
    w.Silent (w.onDesk SecureWorld.driver (SecureWorld.driver.closeSession handle)).2 := by
  show Journal.mismatches (SecureWorld.closeSession handle w.desk).2.journal = _
  obtain ⟨worker, -, he⟩ | ⟨-, he⟩ := SecureWorld.closeSession_cases handle w.desk <;> rw [he]
  · refine (Journal.mismatches_cons_of_none rfl _).trans ?_
    cases worker.alive with
    | true => rfl
    | false => exact Journal.mismatches_cons_of_none rfl _
  · rfl

/-- Taking a session down reports no slot. -/
theorem silent_teardown (id : ChannelId) {w w' : World (SecureWorld κ)} (h : w.Silent w') :
    w.Silent (w'.teardown SecureWorld.driver id) :=
  teardown_preserves_of (P := w.Silent) (fun _ _ hr h => h.log hr) (fun _ _ _ h => h)
    (fun w' handle h => (silent_closeSession handle w').trans h) id h

end World

namespace Call

variable {channel : Channel} {w : World (SecureWorld κ)}

/-! ## Before the slots are taken back -/

/-- Publishing a request reports no slot. -/
theorem silent_publish (channel : Channel) (instruction : Instruction) (command : UInt32)
    (op : Option Operation) (w : World (SecureWorld κ)) :
    w.Silent (publish SecureWorld.driver channel instruction command op w).2 :=
  publish_preserves_of (P := w.Silent) (fun _ _ hr h => h.log hr) (fun _ _ h => h)
    (fun _ _ _ _ _ _ _ _ h => h) (fun _ _ _ h => h) rfl

/-- The exchange of signals reports no slot. -/
theorem silent_exchange (handle : Handle) (w : World (SecureWorld κ)) :
    w.Silent (exchange SecureWorld.driver handle w).2 :=
  exchange_preserves (P := w.Silent) (fun _ _ hr h => h.log hr)
    (fun w' h => (World.silent_notify handle w').trans h) (fun _ h => h) (fun _ h => h) rfl

/-- For a slot of the operation a mapping is held exactly if the slot is a memory reference and has
a mapped length. -/
def Marked (op : Operation) (held : Holdings) (p : Page) (slot : Slot) : Prop :=
  (held.get slot).isSome = true ↔
    (op.param slot).type.isMemref = true ∧ (p.param slot).mappedLen ≠ 0

/-- The slot of a parameter is a memory reference exactly if that is what it is for an
application. -/
theorem isMemref_iff (p : Parameter) :
    p.type.isMemref = true ↔ ∃ size, p.argument = .reference size := by
  rcases p with _ | ⟨_ | _ | _, a, b⟩ | ⟨_ | _ | _, buffer, size⟩ | ⟨parent, size⟩ |
    ⟨_ | _ | _, parent, offset, size⟩ <;> simp [Parameter.type, Parameter.argument,
      SlotType.isMemref, Direction.reads]

/-- What asks for a mapping is a memory reference. -/
theorem isMemref_of_lent? {p : Parameter} (h : p.lent?.isSome = true) :
    p.type.isMemref = true := by
  cases p with
  | unused | value => cases h
  | temporary | whole | window => exact (isMemref_iff _).2 ⟨_, rfl⟩

/-- A slot that is prepared is marked, the other slots hold what they held, and the pages stay. -/
theorem marked_prepare {handle : Handle} {slot : Slot} {p : Parameter} {held held' : Holdings}
    {w' : World (SecureWorld κ)} {words : SlotWords}
    (h : prepare SecureWorld.driver handle slot p held w = (.ok words, held', w'))
    (hfree : held.get slot = none) :
    ((held'.get slot).isSome = true ↔ p.type.isMemref = true ∧ words.mappedLen ≠ 0) ∧
      (∀ other, other ≠ slot → held'.get other = held.get other) ∧ w'.pages = w.pages := by
  have hprepares := prepares SecureWorld.driver handle slot p held w
  rw [h] at hprepares
  cases hprepares with
  | written plan =>
    refine ⟨?_, fun _ _ => rfl, rfl⟩
    rw [hfree]
    -- words that are written at once tell of no mapping where they are those of a reference
    refine iff_of_false Bool.false_ne_true fun ⟨href, hne⟩ => hne ?_
    obtain ⟨size, harg⟩ := (isMemref_iff p).1 href
    obtain ⟨hlent, hshows⟩ := Parameter.serves_of_plan plan
    exact (harg ▸ hshows .empty).of_lent?_eq_none hlent
  | @mapped address len access info w₁ plan answer =>
    obtain ⟨hlent, hpos, hlen, -⟩ := Parameter.serves_of_plan plan
    have href : p.type.isMemref = true := isMemref_of_lent? (by rw [hlent]; rfl)
    have hpages : w₁.pages = w.pages := (congrArg (fun a => a.2.pages) answer).symm
    refine ⟨?_, fun other hne => Slots.get_put_ne _ _ hne, hpages⟩
    -- the mapped length is that of the parameter, which is not zero and fits a word
    have hinfo : info.len = len.toUInt32 := by
      have hmap : (SecureWorld.map handle address len access w.driver).1 = .ok info :=
        congrArg Prod.fst answer
      obtain ⟨-, -, budget, he⟩ | ⟨e, budget, he⟩ :=
        SecureWorld.map_cases handle address len access w.driver <;> rw [he] at hmap <;> cases hmap
      rfl
    rw [Slots.get_put_self]
    refine iff_of_true rfl ⟨href, fun hzero => ?_⟩
    have hlen' : len.toUInt32.toNat = 0 := congrArg UInt32.toNat (hinfo.symm.trans hzero)
    rw [UInt32.toNat_ofNat_of_lt' hlen] at hlen'
    omega

/-- Slots that are filled in are marked, and the others stay as they were. -/
theorem marked_fillEach {op : Operation} {slots : List Slot} (hn : slots.Nodup)
    {held held' : Holdings} {w w' : World (SecureWorld κ)} {p : Page}
    (hpage : w.pages.get? channel.page = some p) (hfree : ∀ slot ∈ slots, held.get slot = none)
    (h : fillEach SecureWorld.driver channel op slots held w = (.ok (), held', w')) :
    ∃ p', w'.pages.get? channel.page = some p' ∧ (∀ slot ∈ slots, Marked op held' p' slot) ∧
      ∀ slot, slot ∉ slots → held'.get slot = held.get slot ∧ p'.param slot = p.param slot := by
  induction slots generalizing held w p with
  | nil =>
    cases h
    exact ⟨p, hpage, fun _ hm => absurd hm List.not_mem_nil, fun _ _ => ⟨rfl, rfl⟩⟩
  | cons slot rest ih =>
    obtain ⟨hslot, hrest⟩ := List.nodup_cons.1 hn
    unfold fillEach at h
    rcases hp : prepare SecureWorld.driver channel.handle slot (op.param slot) held w with
      ⟨failure | words, held₁, w₁⟩
    · rw [hp] at h
      cases h
    rw [hp] at h
    -- the slot is marked now, and the others are filled in after it
    obtain ⟨hmarked, hother, hpages⟩ := marked_prepare hp (hfree slot (List.mem_cons_self ..))
    have hfilled : (w₁.onPage channel.page (·.setParam slot words)).pages.get? channel.page
        = some (p.setParam slot words) := Shared.get?_onPage (hpages ▸ hpage) _
    obtain ⟨p', hpage', hin, hout⟩ := ih hrest hfilled (fun other hm => by
      rw [hother other fun he => hslot (he ▸ hm)]
      exact hfree other (List.mem_cons_of_mem _ hm)) h
    refine ⟨p', hpage', fun other hm => ?_, fun other hm => ?_⟩
    · by_cases he : other = slot
      · -- the slot is not filled again
        subst he
        unfold Marked
        rw [(hout other hslot).1, (hout other hslot).2, Page.param_setParam_self]
        exact hmarked
      · exact hin other ((List.mem_cons.1 hm).resolve_left he)
    · have hne : other ≠ slot := fun he => hm (List.mem_cons.2 (.inl he))
      obtain ⟨hheld, hwords⟩ := hout other fun hr => hm (List.mem_cons_of_mem _ hr)
      exact ⟨hheld.trans (hother other hne), hwords.trans (Page.param_setParam_ne p words hne)⟩

/-- Every slot of a request that is published is marked. -/
theorem marked_publish {instruction : Instruction} {command : UInt32} {op : Operation}
    {held : Holdings} {w w' : World (SecureWorld κ)} {p : Page}
    (hpage : w.pages.get? channel.page = some p)
    (h : publish SecureWorld.driver channel instruction command (some op) w = (.ok held, w')) :
    ∀ slot, Marked op held (w'.page channel.page) slot := by
  have hempty : (withdrawn channel w).pages.get? channel.page
      = some (p.setReady false).clearRequest := Shared.get?_onPage hpage _
  rw [publish_eq] at h
  rcases hfilled : fillEach SecureWorld.driver channel op Slot.ascending .none (withdrawn channel w)
    with ⟨failure | ⟨⟩, held', w₁⟩
  · rw [hfilled] at h
    cases h
  by_cases hfinished : w₁.progress op.lifecycle = .finished
  · simp only [hfilled, if_pos hfinished] at h
    cases h
  simp only [hfilled, if_neg hfinished] at h
  cases h
  obtain ⟨p', hpage', hmarked, -⟩ := marked_fillEach (by decide : Slot.ascending.Nodup) hempty
    (fun slot _ => Slots.get_replicate _ slot) hfilled
  -- what is filled in last leaves the slots
  intro slot
  have hstamped : (w₁.onPage channel.page (stamp instruction command op.sentTypes)).page
      channel.page = stamp instruction command op.sentTypes p' :=
    Shared.page_of_get? (Shared.get?_onPage hpage' _)
  show Marked op held ((w₁.onPage channel.page _).page channel.page) slot
  rw [hstamped]
  exact hmarked slot (Slot.mem_ascending slot)

/-! ## Taking the slots back -/

/-- Giving a mapping back reports no slot and leaves the pages. -/
theorem silent_release (handle : Handle) (held : Holdings) (slot : Slot)
    (w : World (SecureWorld κ)) :
    w.Silent (held.release SecureWorld.driver handle slot w).2 ∧
      (held.release SecureWorld.driver handle slot w).2.pages = w.pages := by
  refine Holdings.release_preserves (P := fun w' => w.Silent w' ∧ w'.pages = w.pages)
    (fun _ _ hr h => ⟨h.1.log hr, h.2⟩) (fun _ _ _ h => ?_) slot ⟨rfl, rfl⟩
  exact h

/-- The slot is reported when it is taken back. -/
def reports (held : Holdings) (p : Page) (slot : Slot) : Bool :=
  (held.get slot).isSome != ((p.param slot).mappedLen != 0)

/-- Of the slots that are taken back those are reported, in their order, where what is held for a
slot does not go with its second word. -/
theorem mismatches_takeBackEach (channel : Channel) (copyBack : Bool) {slots : List Slot}
    (hn : slots.Nodup) (op : Operation) (held : Holdings) (w : World (SecureWorld κ)) :
    (takeBackEach SecureWorld.driver channel copyBack slots op held w).2.2.journal.mismatches
      = w.journal.mismatches
        ++ (slots.filter (reports held (w.page channel.page))).map Fin.val := by
  induction slots generalizing op held w with
  | nil => exact (List.append_nil _).symm
  | cons slot rest ih =>
    obtain ⟨hslot, hrest⟩ := List.nodup_cons.1 hn
    simp only [takeBackEach]
    -- the world in which the rest is taken back
    let logged :=
      if reports held (w.page channel.page) slot then w.log (.markerMismatch slot) else w
    let w₁ := (held.release SecureWorld.driver channel.handle slot logged).2
    have hlogged : logged.journal.mismatches = w.journal.mismatches
        ++ (if reports held (w.page channel.page) slot then [slot.val] else []) ∧
        logged.pages = w.pages := by
      show Journal.mismatches (if _ then _ else _ : World (SecureWorld κ)).journal = _ ∧
        (if _ then _ else _ : World (SecureWorld κ)).pages = _
      split
      · exact ⟨Journal.mismatches_cons _ _, rfl⟩
      · exact ⟨(List.append_nil _).symm, rfl⟩
    obtain ⟨hsilent, hpages⟩ := silent_release channel.handle held slot logged
    have hpage : w₁.page channel.page = w.page channel.page := by
      show (w₁.pages.get? channel.page).getD .blank = (w.pages.get? channel.page).getD .blank
      rw [hpages, hlogged.2]
    -- giving one slot back leaves what is held for the others
    have hrest' : rest.filter (reports (held.release SecureWorld.driver channel.handle slot
        logged).1 (w.page channel.page)) = rest.filter (reports held (w.page channel.page)) := by
      refine List.filter_congr fun other hm => ?_
      have hne : other ≠ slot := fun he => hslot (he ▸ hm)
      unfold reports
      rw [Holdings.get_release, if_neg hne]
    refine (ih hrest _ (held.release SecureWorld.driver channel.handle slot logged).1 w₁).trans ?_
    rw [hpage, hrest', hsilent, hlogged.1, List.append_assoc, List.filter_cons]
    split <;> rfl

/-- Collecting the result of a call reports what taking the slots back reports. -/
theorem mismatches_collect (channel : Channel) (op : Operation) (held : Holdings) (exchanged : Bool)
    (w : World (SecureWorld κ)) :
    (collect SecureWorld.driver channel (some op) held exchanged w).2.2.journal.mismatches
      = w.journal.mismatches
        ++ (Slot.ascending.filter (reports held (w.page channel.page))).map Fin.val := by
  have htaken := mismatches_takeBackEach channel
    (exchanged && (speaker? (w.page channel.page).origin (w.page channel.page).status).isSome)
    (by decide : Slot.ascending.Nodup) op held w
  -- what is left to give back, and inconsistent result words, report no slot
  have hreleased : ∀ (held : Holdings) (w' : World (SecureWorld κ)),
      w'.Silent (held.releaseAll SecureWorld.driver channel.handle w') := by
    intro held w'
    refine Holdings.releaseEach_preserves (P := w'.Silent) (fun _ _ hr h => h.log hr)
      (fun _ _ _ h => ?_) Slot.descending rfl
    exact h
  unfold collect
  simp only
  split
  · exact (hreleased _ _).trans htaken
  · exact ((hreleased _ _).log rfl).trans htaken

/-- A round trip whose request is published reports what taking the slots back reports. -/
theorem mismatches_roundTrip {instruction : Instruction} {command : UInt32} {op : Operation}
    {w w₁ w₂ : World (SecureWorld κ)} {held : Holdings} {exchanged : Except Failure Unit}
    (hpublish : publish SecureWorld.driver channel instruction command (some op) w
      = (.ok held, w₁))
    (hexchange : exchange SecureWorld.driver channel.handle w₁ = (exchanged, w₂)) (id : ChannelId) :
    (roundTrip SecureWorld.driver id channel instruction command (some op)
        w).world.journal.mismatches
      = w.journal.mismatches
        ++ (Slot.ascending.filter (reports held (w₂.page channel.page))).map Fin.val := by
  have h₁ := silent_publish channel instruction command (some op) w
  have h₂ := silent_exchange channel.handle w₁
  have h₃ := mismatches_collect channel op held exchanged.isOk w₂
  rw [hpublish] at h₁
  rw [hexchange] at h₂
  have h₁₂ : w₂.journal.mismatches = w.journal.mismatches := h₂.trans h₁
  rw [h₁₂] at h₃
  obtain ⟨-, -, hcase⟩ := roundTrip_of_filled id hpublish
  simp only [hexchange] at hcase
  generalize (collect SecureWorld.driver channel (some op) held exchanged.isOk w₂).2.2 = w₃
    at h₃ hcase
  obtain ⟨-, hworld⟩ | ⟨failure, -, -, hworld⟩ := hcase
  · rw [hworld]
    exact h₃
  · -- the failure that takes the session down is only logged
    rw [hworld]
    exact (World.silent_teardown id (.log (show w₃.Silent w₃ from rfl) rfl)).trans h₃

end Call

/-- A call on the simulated secure world that publishes its request, whatever operation it carries
and whatever the application does, reports each slot at most once, in ascending order. A memory
reference is reported exactly if its mapped length went from zero to something else, or to zero,
since the request was published. Any other slot is reported exactly if its second word is not zero
when the call takes it back, also if nobody wrote to it. -/
theorem marker_reports {id : ChannelId} {channel : Channel} {instruction : Instruction}
    {command : UInt32} {op : Operation} {w w₁ w₂ : World (SecureWorld κ)} {p : Page}
    {held : Holdings} {exchanged : Except Failure Unit}
    (hpage : w.pages.get? channel.page = some p)
    (hpublish : Call.publish SecureWorld.driver channel instruction command (some op)
      (Call.begun id (some op) w) = (.ok held, w₁))
    (hexchange : Call.exchange SecureWorld.driver channel.handle w₁ = (exchanged, w₂)) :
    ∃ reported : List Slot, reported.Sublist Slot.ascending ∧
      (Call.carry SecureWorld.driver id channel instruction command (some op)
        w).world.journal.mismatches = w.journal.mismatches ++ reported.map Fin.val ∧
      ∀ slot, slot ∈ reported ↔
        if (op.param slot).type.isMemref then
          ¬ (((w₂.page channel.page).param slot).mappedLen = 0 ↔
            ((w₁.page channel.page).param slot).mappedLen = 0)
        else ((w₂.page channel.page).param slot).b ≠ 0 := by
  refine ⟨Slot.ascending.filter (Call.reports held (w₂.page channel.page)), List.filter_sublist,
    Call.mismatches_roundTrip hpublish hexchange id, fun slot => ?_⟩
  -- a mapping is held where a reference was marked when it was published
  have hmarked : (held.get slot).isSome = true ↔ (op.param slot).type.isMemref = true ∧
      ((w₁.page channel.page).param slot).mappedLen ≠ 0 :=
    Call.marked_publish (w := Call.begun id (some op) w) hpage hpublish slot
  -- a slot is reported where its marker now says otherwise
  have hin : slot ∈ Slot.ascending.filter (Call.reports held (w₂.page channel.page)) ↔
      ((held.get slot).isSome != (((w₂.page channel.page).param slot).mappedLen != 0)) = true :=
    List.mem_filter.trans (and_iff_right (Slot.mem_ascending slot))
  rw [hin, bne_iff_ne, ne_eq, Bool.eq_iff_iff, bne_iff_ne, hmarked]
  by_cases href : (op.param slot).type.isMemref = true
  · simp only [href, true_and, if_true]
    exact not_congr (not_iff_not.trans Iff.comm)
  · -- nothing is held for the slot, so its second word alone decides
    simp only [href, Bool.false_eq_true, false_and, false_iff, not_not, if_false]
    rfl

/-! Two commands on one operation, a reference and two pairs: the first writes nothing, and the
second puts a pair of nothing over the description of the reference. -/

namespace Overwriting

/-- The application. -/
def app : App Unit where
  initial := ()
  opening _ := .finish (.ok ()) ()
  command id _ :=
    if id = 0 then .finish (.ok ()) ()
    else .ask (.setValue 0 0 0) fun _ => .finish (.ok ()) ()
  closing _ := .finish (.ok ()) ()

/-- A world with a session of the application. -/
def world : World (SecureWorld Unit) :=
  ((World.start (.start (.ofList [(.nil, app)]))).openSession SecureWorld.driver .nil .everyone
    none).world

/-- The session. -/
def channel : Channel := ⟨1, 0, true⟩

/-- The operation. -/
def op : Operation :=
  ⟨⟨.temporary .inout (some 0) 4, .value .inout 0 1, .value .inout 1 0, .unused⟩, 0⟩

/-- Publishing a command. -/
def published (command : UInt32) : Except Failure Holdings × World (SecureWorld Unit) :=
  Call.publish SecureWorld.driver channel .invokeCommand command (some op)
    (Call.begun 0 (some op) world)

/-- The page when the exchange of signals is over. -/
def found (command : UInt32) : Page :=
  (Call.exchange SecureWorld.driver channel.handle (published command).2).2.page channel.page

/-- The world after the call. -/
def after (command : UInt32) : World (SecureWorld Unit) :=
  (Call.carry SecureWorld.driver 0 channel .invokeCommand command (some op) world).world

end Overwriting

/-- The reference is reported, since its mapped length is gone, and the pair whose second value is
one, though that is the value that was sent. -/
theorem marker_reports_overwriting : ∃ reported : List Slot,
    (Overwriting.after 1).journal.mismatches
      = Overwriting.world.journal.mismatches ++ reported.map Fin.val ∧
    0 ∈ reported ∧ 1 ∈ reported ∧ 2 ∉ reported ∧ 3 ∉ reported := by
  rcases hpublish : Overwriting.published 1 with ⟨failure | held, w₁⟩
  · have hok : (Overwriting.published 1).1.isOk = true := by decide +kernel
    rw [hpublish] at hok
    cases hok
  obtain ⟨reported, -, hreports, hiff⟩ :=
    marker_reports (p := Overwriting.world.page 0) (by decide +kernel) hpublish rfl
  have hsent : w₁ = (Overwriting.published 1).2 := by rw [hpublish]
  subst hsent
  refine ⟨reported, hreports, ?_, ?_, ?_, ?_⟩ <;> rw [hiff] <;> decide +kernel

/-- A pair that nobody writes to is reported, though no slot has other words than it was sent
with. -/
theorem untouched_pair_reported :
    (Overwriting.published 0).1.isOk = true ∧
      (∀ slot, (Overwriting.found 0).param slot
        = ((Overwriting.published 0).2.page Overwriting.channel.page).param slot) ∧
      (Overwriting.op.param 1).type = .valueInout ∧
      (Overwriting.after 0).journal.mismatches
        = Overwriting.world.journal.mismatches ++ [1] := by
  decide +kernel

end TeeClient

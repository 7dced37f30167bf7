import TeeClient.Proofs.Collecting
import TeeClient.Proofs.Direct.Requests
import TeeClient.Proofs.Once.Calls
import TeeClient.Proofs.Sparing

/-!
# How the slots of a request are scanned

Publishing a request scans the slots of its operation in order. `Scan` says what may happen on the
way: a parameter that cannot be sent ends the scan, one that lends bytes has them mapped, and a
driver that refuses a mapping ends the scan as well. What a scan asks of the driver it asks one
after the other (`Follows`), where a driver that asks for cancellations may have sessions woken in
between.

Main statements:

* `Call.fillEach_scans`: filling in slots is a scan of them, and holds what the scan had mapped;
* `Call.publish_scans`: publishing a request is a scan of its slots; if it fails, what was mapped is
  given back, the last mapping first;
* `Call.publish_complete`: what the page holds when a request is published by a driver that spares
  pages without a request.
-/

namespace TeeClient

variable {σ α : Type}

/-! ## What is asked of the driver -/

/-- The uses are made one after the other, and before, between and after them some sessions may be
woken that are among the `awake`. -/
def Follows (awake : Handle → Prop) : List Use → List Use → List Use → Prop
  | [], before, after => Woken awake before after
  | use :: rest, before, after =>
    ∃ uses, Woken awake before uses ∧ Follows awake rest (use :: uses) after

namespace Follows

variable {awake : Handle → Prop} {uses more : List Use} {a b c : List Use}

/-- Sessions may be woken first. -/
theorem of_woken (h : Woken awake a b) (h' : Follows awake uses b c) : Follows awake uses a c := by
  cases uses with
  | nil => exact h.trans h'
  | cons use rest =>
    obtain ⟨between, hwoken, hrest⟩ := h'
    exact ⟨between, h.trans hwoken, hrest⟩

/-- More uses may be made later. -/
theorem append (h : Follows awake uses a b) (h' : Follows awake more b c) :
    Follows awake (uses ++ more) a c := by
  induction uses generalizing a with
  | nil => exact h'.of_woken h
  | cons use rest ih =>
    obtain ⟨between, hwoken, hrest⟩ := h
    exact ⟨between, hwoken, ih hrest⟩

/-- Where no session is ever woken the uses are all that is made. -/
theorem eq_of_asleep (h : Follows (fun _ => False) uses a b) : b = uses.reverse ++ a := by
  have hasleep : ∀ {a b : List Use}, Woken (fun _ => False) a b → b = a := by
    rintro a b ⟨handles, rfl, hall⟩
    rw [List.eq_nil_iff_forall_not_mem.2 hall]
    rfl
  induction uses generalizing a with
  | nil => exact hasleep h
  | cons use rest ih =>
    obtain ⟨between, hwoken, hrest⟩ := h
    rw [ih hrest, hasleep hwoken]
    simp

end Follows

/-- While mappings are made and removed on the session of a handle, at most these sessions are
woken. -/
structure Driver.Wakes (D : Driver σ) (handle : Handle) (awake : Handle → Prop) : Prop where
  map : ∀ (w : World (Traced σ)) address len access,
    let mapped := w.onDesk (Traced.driver D) ((Traced.driver D).map handle address len access)
    ∃ uses, Woken awake w.driver.uses uses ∧
      mapped.2.driver.uses = .map handle address len access mapped.1 :: uses
  unmap : ∀ (w : World (Traced σ)) address info,
    Woken awake (.unmap handle address info :: w.driver.uses)
      (w.onDesk (Traced.driver D) ((Traced.driver D).unmap handle address info)).2.driver.uses

/-- Every driver wakes some sessions at most. -/
theorem Driver.wakes_any (D : Driver σ) (handle : Handle) : D.Wakes handle fun _ => True where
  map w address len access := by
    obtain ⟨uses, ⟨handles, hwoken, -⟩, huses⟩ := Traced.uses_enterAfter D
      (.map handle address len access) (D.map handle address len access) w
    exact ⟨uses, ⟨handles, hwoken, fun _ _ => trivial⟩, huses⟩
  unmap w address info := by
    obtain ⟨handles, hwoken, -⟩ := Traced.uses_enterBefore D (.unmap handle address info)
      (D.unmap handle address info) w
    exact ⟨handles, hwoken, fun _ _ => trivial⟩

/-- A driver that does in one go what it is asked, and maps what `answer` says. -/
def Driver.plain (answer : σ → Nat → Except DriverFault SecureRange × σ) : Driver σ where
  openDevice d := (.ok (), d)
  closeDevice d := (.ok (), d)
  openSession _ _ _ d := .done (.ok 7) d
  closeSession _ d := .done (.ok ()) d
  map _ _ len _ d := .done (answer d.driver len).1 { d with driver := (answer d.driver len).2 }
  unmap _ _ _ d := .done (.ok ()) d
  notify _ _ s := .done (.ok ()) s
  wait _ _ s := .done (.ok ()) s
  errorCode _ d := .done (.ok ExitCode.none) d

/-- What takes a use back: a mapping that was obtained is removed, with its own address and the
description that the driver gave. -/
def Use.undo? : Use → Option Use
  | .map handle address _ _ (.ok info) => some (.unmap handle address info)
  | _ => none

/-- What takes some uses back, the last of them first. -/
def undone (uses : List Use) : List Use := uses.reverse.filterMap Use.undo?

/-! ## Scans -/

/-- A parameter fails to be sent, after these uses of the driver and with this failure. Which
parameters cannot be sent is left to say. -/
inductive Parameter.Fails (bad : Parameter → Prop) (handle : Handle) (p : Parameter) :
    List Use → Failure → Prop
  /-- The parameter cannot be sent, and the driver is not asked. -/
  | rejected (unsendable : bad p) : Fails bad handle p [] (.api .badParameters)
  /-- The driver refuses to map what it lends. -/
  | refused {address : Address} {len : Nat} (sendable : ¬ bad p)
    (lent : p.lent? = some (address, len)) (access : Access) (fault : DriverFault) :
    Fails bad handle p [.map handle address len access (.error fault)] (.comms .communication)

/-- Slots are scanned in turn, up to the first that fails. The scan makes these uses of the driver,
and it ends with this result. -/
inductive Scan (bad : Parameter → Prop) (handle : Handle) (op : Operation) :
    List Slot → List Use → Except Failure Unit → Prop
  | done : Scan bad handle op [] [] (.ok ())
  | failed {slot : Slot} {rest : List Slot} {uses : List Use} {failure : Failure}
    (fails : (op.param slot).Fails bad handle uses failure) :
    Scan bad handle op (slot :: rest) uses (.error failure)
  /-- The parameter lends no bytes. -/
  | unlent {slot : Slot} {rest : List Slot} {uses : List Use} {result : Except Failure Unit}
    (sendable : ¬ bad (op.param slot)) (lent : (op.param slot).lent? = none)
    (later : Scan bad handle op rest uses result) : Scan bad handle op (slot :: rest) uses result
  /-- What the parameter lends is mapped. -/
  | mapped {slot : Slot} {rest : List Slot} {uses : List Use} {result : Except Failure Unit}
    {address : Address} {len : Nat} (sendable : ¬ bad (op.param slot))
    (lent : (op.param slot).lent? = some (address, len)) (access : Access) (info : SecureRange)
    (later : Scan bad handle op rest uses result) :
    Scan bad handle op (slot :: rest) (.map handle address len access (.ok info) :: uses) result

/-- A scan asks for mappings and for nothing else. -/
theorem Scan.isMap {bad : Parameter → Prop} {handle : Handle} {op : Operation}
    {slots : List Slot} {uses : List Use} {result : Except Failure Unit}
    (h : Scan bad handle op slots uses result) :
    ∀ use ∈ uses, ∃ address len access result, use = .map handle address len access result := by
  induction h with
  | done => exact fun use hu => absurd hu List.not_mem_nil
  | failed fails =>
    intro use hu
    cases fails with
    | rejected unsendable => exact absurd hu List.not_mem_nil
    | refused sendable lent access fault =>
      cases List.mem_singleton.1 hu
      exact ⟨_, _, _, _, rfl⟩
  | unlent sendable lent later ih => exact ih
  | mapped sendable lent access info later ih =>
    intro use hu
    rcases List.mem_cons.1 hu with rfl | hu
    · exact ⟨_, _, _, _, rfl⟩
    · exact ih use hu

/-- A `Scan` depends only on which parameters of the operation cannot be sent. -/
theorem Scan.congr {bad bad' : Parameter → Prop} {handle : Handle} {op : Operation}
    {slots : List Slot} {uses : List Use} {result : Except Failure Unit}
    (hbad : ∀ slot, bad (op.param slot) ↔ bad' (op.param slot))
    (h : Scan bad handle op slots uses result) : Scan bad' handle op slots uses result := by
  induction h with
  | done => exact .done
  | @failed slot rest uses failure fails =>
    cases fails with
    | rejected unsendable => exact .failed (.rejected ((hbad slot).1 unsendable))
    | refused sendable lent access fault =>
      exact .failed (.refused (fun h => sendable ((hbad slot).2 h)) lent access fault)
  | @unlent slot rest uses result sendable lent later ih =>
    exact .unlent (fun h => sendable ((hbad slot).2 h)) lent ih
  | @mapped slot rest uses result address len sendable lent access info later ih =>
    exact .mapped (fun h => sendable ((hbad slot).2 h)) lent access info ih

/-- A scan that fails does so in one slot; those before it are through, and those after it are not
looked at. -/
theorem Scan.exists_fails {bad : Parameter → Prop} {handle : Handle} {op : Operation}
    {slots : List Slot} {uses : List Use} {failure : Failure}
    (h : Scan bad handle op slots uses (.error failure)) :
    ∃ before slot after made last, slots = before ++ slot :: after ∧ uses = made ++ last ∧
      Scan bad handle op before made (.ok ()) ∧
      (op.param slot).Fails bad handle last failure := by
  generalize hresult : (Except.error failure : Except Failure Unit) = result at h
  induction h with
  | done => cases hresult
  | @failed slot rest uses _ fails =>
    cases hresult
    exact ⟨[], slot, rest, [], uses, rfl, rfl, .done, fails⟩
  | @unlent slot rest uses _ sendable lent later ih =>
    obtain ⟨before, slot', after, made, last, rfl, rfl, hmade, hlast⟩ := ih hresult
    exact ⟨slot :: before, slot', after, made, last, rfl, rfl, .unlent sendable lent hmade, hlast⟩
  | @mapped slot rest uses _ address len sendable lent access info later ih =>
    obtain ⟨before, slot', after, made, last, rfl, rfl, hmade, hlast⟩ := ih hresult
    exact ⟨slot :: before, slot', after, _ :: made, last, rfl, rfl,
      .mapped sendable lent access info hmade, hlast⟩

/-- The parameter is refused before anything is asked of the driver. -/
def Parameter.Unsendable (p : Parameter) : Prop := ∃ refusal, p.plan = .error refusal

/-- A parameter that is planned is not refused. -/
theorem Parameter.sendable_of_plan {p : Parameter} {plan : Plan} (h : p.plan = .ok plan) :
    ¬ p.Unsendable := by
  rintro ⟨refusal, hrefused⟩
  rw [h] at hrefused
  cases hrefused

namespace Call

variable {D : Driver σ} {channel : Channel} {awake : Handle → Prop}

/-- The removal of a mapping on the session of a handle. -/
def unmapUse (handle : Handle) (mapping : Held) : Use :=
  .unmap handle mapping.address mapping.info

/-- Filling in slots that hold nothing is a scan of them. It holds what the scan had mapped. -/
theorem fillEach_scans (hD : D.Wakes channel.handle awake) (op : Operation) {slots : List Slot}
    (hn : slots.Nodup) (held : Holdings) (hempty : ∀ slot ∈ slots, held.get slot = none)
    (w : World (Traced σ)) :
    let filled := fillEach (Traced.driver D) channel op slots held w
    ∃ uses, Scan Parameter.Unsendable channel.handle op slots uses filled.1 ∧
      Follows awake uses w.driver.uses filled.2.2.driver.uses ∧
      (filled.2.1.mappingsOf slots).map (unmapUse channel.handle) = uses.filterMap Use.undo? ∧
      ∀ slot, slot ∉ slots → filled.2.1.get slot = held.get slot := by
  induction slots generalizing held w with
  | nil => exact ⟨[], .done, .refl _, rfl, fun _ _ => rfl⟩
  | cons slot rest ih =>
    obtain ⟨hslot, hrest⟩ := List.nodup_cons.1 hn
    have hfree : held.get slot = none := hempty slot List.mem_cons_self
    have hothers : ∀ other ∈ rest, held.get other = none :=
      fun other ho => hempty other (List.mem_cons_of_mem _ ho)
    -- where the slot fails nothing is held
    have hnothing : held.mappingsOf (slot :: rest) = [] := Holdings.mappingsOf_eq_nil hempty
    simp only [fillEach]
    have hprepares := prepares (Traced.driver D) channel.handle slot (op.param slot) held w
    generalize prepare (Traced.driver D) channel.handle slot (op.param slot) held w = prepared
      at hprepares
    cases hprepares with
    | rejected plan =>
      refine ⟨[], .failed (.rejected ⟨_, plan⟩), .refl _, ?_, fun _ _ => rfl⟩
      simp only [hnothing]
      rfl
    | @written words plan =>
      obtain ⟨uses, hscan, hfollows, hheld, hleft⟩ := ih hrest held hothers
        (w.onPage channel.page (·.setParam slot words))
      refine ⟨uses, .unlent (Parameter.sendable_of_plan plan) (Parameter.serves_of_plan plan).1
        hscan, hfollows, ?_, fun other ho => hleft other fun hm => ho (List.mem_cons_of_mem _ hm)⟩
      rw [Holdings.mappingsOf_cons, hleft slot hslot, hfree]
      exact hheld
    | @refused address len access fault w' plan answer =>
      obtain ⟨uses, hwoken, huses⟩ := hD.map w address len access
      rw [answer] at huses
      refine ⟨_, .failed (.refused (Parameter.sendable_of_plan plan)
        (Parameter.serves_of_plan plan).1 access fault), ⟨uses, hwoken, ?_⟩, ?_, fun _ _ => rfl⟩
      · show Woken awake _ w'.driver.uses
        rw [huses]
        exact .refl _
      · simp only [hnothing]
        rfl
    | @mapped address len access info w' plan answer =>
      obtain ⟨uses, hwoken, huses⟩ := hD.map w address len access
      rw [answer] at huses
      let given : Holdings := held.put slot (some ⟨address, info⟩)
      obtain ⟨later, hscan, hfollows, hheld, hleft⟩ := ih hrest given
        (fun other ho => (Slots.get_put_ne held _ fun (he : other = slot) =>
          hslot (he ▸ ho)).trans (hothers other ho))
        ((w'.log (.mapped slot len info.secureVa)).onPage channel.page
          (·.setParam slot (.memref info.secureVa info.len len.toUInt32)))
      refine ⟨_, .mapped (Parameter.sendable_of_plan plan) (Parameter.serves_of_plan plan).1 access
        info hscan, ⟨uses, hwoken, ?_⟩, ?_, fun other ho => ?_⟩
      · rw [← huses]
        exact hfollows
      · rw [Holdings.mappingsOf_cons, hleft slot hslot, Slots.get_put_self]
        exact congrArg (Use.unmap channel.handle address info :: ·) hheld
      · refine (hleft other fun hm => ho (List.mem_cons_of_mem _ hm)).trans ?_
        exact Slots.get_put_ne held _ fun he => ho (List.mem_cons.2 (.inl he))

/-- Giving slots back asks for the removal of what they hold, in the order of the slots. -/
theorem releaseEach_follows (hD : D.Wakes channel.handle awake) {slots : List Slot}
    (hn : slots.Nodup) (held : Holdings) (w : World (Traced σ)) :
    Follows awake ((held.mappingsOf slots).map (unmapUse channel.handle)) w.driver.uses
      (held.releaseEach (Traced.driver D) channel.handle slots w).driver.uses := by
  induction slots generalizing held w with
  | nil => exact .refl _
  | cons slot rest ih =>
    obtain ⟨hslot, hrest⟩ := List.nodup_cons.1 hn
    -- giving the slot back leaves what the others hold
    have hstill : (held.release (Traced.driver D) channel.handle slot w).1.mappingsOf rest
        = held.mappingsOf rest := by
      refine List.filterMap_congr fun other ho => ?_
      rw [Holdings.get_release, if_neg fun (he : other = slot) => hslot (he ▸ ho)]
    have hlater := ih hrest (held.release (Traced.driver D) channel.handle slot w).1
      (held.release (Traced.driver D) channel.handle slot w).2
    rw [hstill] at hlater
    rw [Holdings.mappingsOf_cons, List.map_append]
    refine .append ?_ hlater
    cases hs : held.get slot with
    | none =>
      rw [Holdings.release_of_none hs]
      exact .refl _
    | some mapping =>
      have hunmapped := hD.unmap w mapping.address mapping.info
      refine ⟨w.driver.uses, .refl _, ?_⟩
      obtain he | ⟨e, he⟩ := Holdings.release_of_some (Traced.driver D)
        channel.handle hs w <;> rw [he] <;> exact hunmapped

/-- The world in which the slots of a request are filled in: no request is published. -/
def withdrawn (channel : Channel) (w : World σ) : World σ :=
  w.onPage channel.page fun p => (p.setReady false).clearRequest

/-- A request that is given up is cleared, and what is held is given back. -/
def givenUp (D : Driver σ) (channel : Channel) (held : Holdings) (w : World σ) : World σ :=
  held.releaseAll D channel.handle (w.onPage channel.page (·.clearRequest))

/-- Publishing a request for an operation: its slots are filled in, and the request is published or
given up. -/
theorem publish_eq (D : Driver σ) (channel : Channel) (instruction : Instruction)
    (command : UInt32) (op : Operation) (w : World σ) :
    publish D channel instruction command (some op) w =
      match fillEach D channel op Slot.ascending .none (withdrawn channel w) with
      | (.error failure, held, w') => (.error failure, givenUp D channel held w')
      | (.ok (), held, w') =>
        if w'.progress op.lifecycle = .finished then
          (.error (.comms .cancel), givenUp D channel held (w'.log .cancelledWhileFilling))
        else (.ok held, (w'.onPage channel.page (stamp instruction command op.sentTypes)).log
          (.published instruction command held.count)) := by
  show (match fill D channel op (withdrawn channel w) with
    | (.error failure, held, w') => (.error failure, givenUp D channel held w')
    | (.ok (), held, w') =>
      (.ok held, (w'.onPage channel.page (stamp instruction command op.sentTypes)).log
        (.published instruction command held.count)) : Except Failure Holdings × World σ) = _
  unfold fill
  rcases fillEach D channel op Slot.ascending .none (withdrawn channel w) with
    ⟨failure | ⟨⟩, held, w'⟩
  · rfl
  · by_cases hfinished : w'.progress op.lifecycle = .finished
    · simp only [if_pos hfinished]
    · simp only [if_neg hfinished]

/-- Publishing a request for an operation is a scan of its slots. If it fails then because the scan
does, or because the operation is finished afterwards, and what the scan had mapped is given back,
the last mapping first. -/
theorem publish_scans (hD : D.Wakes channel.handle awake) (instruction : Instruction)
    (command : UInt32) (op : Operation) (w : World (Traced σ)) :
    let filled := fillEach (Traced.driver D) channel op Slot.ascending .none (withdrawn channel w)
    let published := publish (Traced.driver D) channel instruction command (some op) w
    ∃ uses, Scan Parameter.Unsendable channel.handle op Slot.ascending uses filled.1 ∧
      match published.1 with
      | .ok _ => filled.1 = .ok () ∧ Follows awake uses w.driver.uses published.2.driver.uses
      | .error failure =>
        (filled.1 = .error failure ∨ filled.1 = .ok () ∧ failure = .comms .cancel ∧
          filled.2.2.progress op.lifecycle = .finished) ∧
        Follows awake (uses ++ undone uses) w.driver.uses published.2.driver.uses := by
  obtain ⟨uses, hscan, hfollows, hheld, -⟩ := fillEach_scans hD op
    (by decide : Slot.ascending.Nodup) .none (fun slot _ => Slots.get_replicate Option.none slot)
    (withdrawn channel w)
  -- where the request is given up, what is held is given back
  have hback : ∀ (held : Holdings) (w' : World (Traced σ)),
      (held.mappingsOf Slot.ascending).map (unmapUse channel.handle) = uses.filterMap Use.undo? →
      Follows awake uses w.driver.uses w'.driver.uses →
      Follows awake (uses ++ undone uses) w.driver.uses
        (held.releaseAll (Traced.driver D) channel.handle w').driver.uses := by
    intro held w' hheld hfollows
    refine hfollows.append ?_
    have hundone :
        (held.mappingsOf Slot.descending).map (unmapUse channel.handle) = undone uses := by
      rw [undone, List.filterMap_reverse, ← hheld, ← List.map_reverse, Holdings.mappingsOf,
        Holdings.mappingsOf, ← List.filterMap_reverse]
      rfl
    rw [← hundone]
    exact releaseEach_follows hD (by decide) held w'
  refine ⟨uses, hscan, ?_⟩
  rw [publish_eq]
  generalize fillEach (Traced.driver D) channel op Slot.ascending .none (withdrawn channel w)
    = filled at hfollows hheld
  obtain ⟨failure | ⟨⟩, held, w'⟩ := filled
  · exact ⟨.inl rfl, hback held (w'.onPage channel.page _) hheld hfollows⟩
  · dsimp only
    by_cases hfinished : w'.progress op.lifecycle = .finished
    · rw [if_pos hfinished]
      exact ⟨.inr ⟨rfl, rfl, hfinished⟩, hback held _ hheld hfollows⟩
    · rw [if_neg hfinished]
      exact ⟨rfl, hfollows⟩

/-! ## What the page holds -/

/-- Filling in slots of a page that the driver spares changes only these slots, the flag aside, and
each of them holds what its parameter asks for. -/
theorem fillEach_fills {D : Driver σ} (hD : D.SparesMapping fun p => p.ready = false)
    (op : Operation) {slots : List Slot} (hn : slots.Nodup) {held : Holdings} {w : World σ}
    {p : Page} (hp : w.unflagged channel.page = some p) (hready : p.ready = false)
    (hfilled : (fillEach D channel op slots held w).1 = .ok ()) :
    ∃ params, (fillEach D channel op slots held w).2.2.unflagged channel.page
        = some (p.setParams params) ∧
      (∀ slot ∈ slots, op.Fills slot (params.get slot)) ∧
      ∀ slot, slot ∉ slots → params.get slot = p.param slot := by
  induction slots generalizing held w p with
  | nil => exact ⟨p.request.params, hp, fun _ hm => absurd hm List.not_mem_nil, fun _ _ => rfl⟩
  | cons slot rest ih =>
    obtain ⟨hslot, hrest⟩ := List.nodup_cons.1 hn
    have hkept : (prepare D channel.handle slot (op.param slot) held w).2.2.unflagged channel.page
        = some p :=
      prepare_preserves (P := fun w' => w'.unflagged channel.page = some p) (fun _ _ _ h => h)
        (fun w' address len access _ h =>
          hD channel.handle address len access w' channel.page p h hready) hp
    unfold fillEach at hfilled ⊢
    rcases hprepared : prepare D channel.handle slot (op.param slot) held w with
      ⟨failure | words, held', w'⟩
    · rw [hprepared] at hfilled
      cases hfilled
    rw [hprepared] at hfilled hkept
    -- the slot is filled in first, and the others after it
    have hput : (w'.onPage channel.page (·.setParam slot words)).unflagged channel.page
        = some (p.setParam slot words) := by
      obtain ⟨p', hp', rfl⟩ := Option.map_eq_some_iff.1 hkept
      exact congrArg (Option.map Page.unflagged) (Shared.get?_onPage hp' _)
    obtain ⟨params, hparams, hin, hout⟩ := ih hrest hput hready hfilled
    refine ⟨params, hparams, fun other hm => ?_, fun other hm => ?_⟩
    · by_cases hother : other = slot
      · subst hother
        rw [hout other hslot, Page.param_setParam_self]
        exact prepare_gives hprepared
      · exact hin other ((List.mem_cons.1 hm).resolve_left hother)
    · rw [hout other fun hr => hm (List.mem_cons_of_mem _ hr)]
      exact Page.param_setParam_ne p words fun he => hm (List.mem_cons.2 (.inl he))

/-- A request that is published in a page that the driver spares is complete, and the page still has
its destination. -/
theorem publish_complete {D : Driver σ} (hD : D.SparesMapping fun p => p.ready = false)
    {instruction : Instruction} {command : UInt32} {op : Option Operation} {w : World σ} {p : Page}
    (hp : w.pages.get? channel.page = some p)
    {held : Holdings} (h : (publish D channel instruction command op w).1 = .ok held) :
    ∃ p', (publish D channel instruction command op w).2.pages.get? channel.page = some p' ∧
      p'.ready = true ∧ p'.destination = p.destination ∧ p'.Complete instruction command op := by
  have hempty : (withdrawn channel w).pages.get? channel.page
      = some (p.setReady false).clearRequest := Shared.get?_onPage hp _
  cases op with
  | none =>
    exact ⟨stamp instruction command 0 (p.setReady false).clearRequest,
      Shared.get?_onPage hempty _, rfl, rfl, rfl, rfl, rfl, rfl,
      fun slot => Slots.get_replicate _ slot, rfl, rfl⟩
  | some op =>
    rw [publish_eq] at h ⊢
    rcases hfilled : fillEach D channel op Slot.ascending .none (withdrawn channel w) with
      ⟨failure | ⟨⟩, held', w'⟩
    · rw [hfilled] at h
      cases h
    by_cases hfinished : w'.progress op.lifecycle = .finished
    · simp only [hfilled, if_pos hfinished] at h
      cases h
    -- the slots hold what is planned, and stamping the page leaves them
    obtain ⟨params, hparams, hin, -⟩ := fillEach_fills hD op (by decide : Slot.ascending.Nodup)
      (congrArg (Option.map Page.unflagged) hempty) rfl (congrArg Prod.fst hfilled)
    simp only [hfilled, if_neg hfinished] at hparams ⊢
    obtain ⟨p', hp', hpage⟩ := Option.map_eq_some_iff.1 hparams
    refine ⟨stamp instruction command op.sentTypes p', Shared.get?_onPage hp' _, rfl,
      (congrArg Page.destination hpage :), rfl, rfl, rfl, rfl, fun slot => ?_, rfl, rfl⟩
    show op.Fills slot (p'.param slot)
    have hwords : p'.request.params = params := (congrArg (·.request.params) hpage :)
    rw [Page.param, hwords]
    exact hin slot (Slot.mem_ascending slot)

end Call

end TeeClient

import TeeClient.Call
import TeeClient.Proofs.Honouring

/-!
# What the parts of a call preserve

A property of the world that survives the primitives which a part of a call uses, and the log
records and page words that it writes, survives the part. There is one theorem for each part, with
the primitives of the part as its hypotheses.

What a part comes to is said once where its definition branches, so that nothing else has to open
it:

* `Call.prepares`: the slot of a parameter is rejected, written, mapped or refused;
* `World.teardown_cases`: a session that is active is shut down, and no other is touched;
* `Call.roundTrip_of_unfilled` and `Call.roundTrip_of_filled`: a round trip ends with the request
  that is given up, or with what is learned of the one that is published.

Giving a mapping back also leaves the record of what is held in a known state:
`Holdings.get_release`.
-/

namespace TeeClient

variable {σ : Type} {D : Driver σ} {P : World σ → Prop} {w : World σ}

/-- The page with all slots filled. -/
def Page.setParams (p : Page) (params : Slots SlotWords) : Page :=
  { p with request := { p.request with params } }

/-- A parameter that is refused is reported otherwise. -/
theorem Refusal.mismatch?_record (refusal : Refusal) (slot : Slot) :
    (refusal.record slot).mismatch? = none := by
  cases refusal <;> rfl

namespace Holdings

variable {handle : Handle} {held : Holdings}

/-- A slot that holds nothing gives nothing back. -/
theorem release_of_none {slot : Slot} (h : held.get slot = Option.none) (w : World σ) :
    held.release D handle slot w = (held, w) := by
  unfold release
  rw [h]

/-- A slot that holds a mapping has the driver remove it, and holds nothing then. That the driver
refuses is only reported. -/
theorem release_of_some (D : Driver σ) (handle : Handle) {slot : Slot} {mapping : Held}
    (h : held.get slot = some mapping) (w : World σ) :
    let given := (w.onDesk D (D.unmap handle mapping.address mapping.info)).2
    held.release D handle slot w = (held.put slot Option.none, given) ∨
      ∃ e, held.release D handle slot w
        = (held.put slot Option.none, given.log (.unmapFailed slot e)) := by
  unfold release
  simp only [h]
  rcases w.onDesk D (D.unmap handle mapping.address mapping.info) with ⟨e | ⟨⟩, w'⟩
  · exact .inr ⟨e, rfl⟩
  · exact .inl rfl

/-- Giving a mapping back leaves the others held. -/
theorem get_release (slot other : Slot) (w : World σ) :
    (held.release D handle slot w).1.get other =
      if other = slot then .none else held.get other := by
  cases hs : held.get slot with
  | none =>
    rw [release_of_none hs]
    by_cases h : other = slot
    · simp [h, hs]
    · simp [h]
  | some mapping =>
    obtain he | ⟨e, he⟩ := release_of_some D handle hs w <;> rw [he] <;>
      exact Slots.get_put held slot other Option.none

/-- What unmapping and the log preserve, giving a mapping back preserves. -/
theorem release_preserves (hlog : ∀ w r, r.mismatch? = .none → P w → P (w.log r))
    (hunmap : ∀ w address info, P w → P (w.onDesk D (D.unmap handle address info)).2)
    (slot : Slot) (h : P w) : P (held.release D handle slot w).2 := by
  cases hs : held.get slot with
  | none =>
    rw [release_of_none hs]
    exact h
  | some mapping =>
    have hu := hunmap w mapping.address mapping.info h
    obtain he | ⟨e, he⟩ := release_of_some D handle hs w <;> rw [he]
    · exact hu
    · exact hlog _ _ rfl hu

/-- What unmapping and the log preserve, giving several mappings back preserves. -/
theorem releaseEach_preserves (hlog : ∀ w r, r.mismatch? = .none → P w → P (w.log r))
    (hunmap : ∀ w address info, P w → P (w.onDesk D (D.unmap handle address info)).2)
    (slots : List Slot) (h : P w) : P (held.releaseEach D handle slots w) := by
  induction slots generalizing held w with
  | nil => exact h
  | cons slot rest ih => exact ih (release_preserves hlog hunmap slot h)

end Holdings

namespace Call

section Publishing

variable {handle : Handle}

/-- What preparing the slot of a parameter comes to: the words that the slot gets or why it gets
none, what is held then, and the world. -/
inductive Prepares (D : Driver σ) (handle : Handle) (slot : Slot) (p : Parameter) (held : Holdings)
    (w : World σ) : Except Failure SlotWords × Holdings × World σ → Prop
  | rejected {refusal : Refusal} (plan : p.plan = .error refusal) :
    Prepares D handle slot p held w
      (.error (.api .badParameters), held, w.log (refusal.record slot))
  | written {words : SlotWords} (plan : p.plan = .ok (.words words)) :
    Prepares D handle slot p held w (.ok words, held, w)
  /-- The driver made the mapping that is planned. -/
  | mapped {address : Address} {len : Nat} {access : Access} {info : SecureRange} {w₁ : World σ}
    (plan : p.plan = .ok (.mapping address len access))
    (answer : w.onDesk D (D.map handle address len access) = (.ok info, w₁)) :
    Prepares D handle slot p held w (.ok (.memref info.secureVa info.len len.toUInt32),
      held.put slot (some ⟨address, info⟩), w₁.log (.mapped slot len info.secureVa))
  | refused {address : Address} {len : Nat} {access : Access} {e : DriverFault} {w₁ : World σ}
    (plan : p.plan = .ok (.mapping address len access))
    (answer : w.onDesk D (D.map handle address len access) = (.error e, w₁)) :
    Prepares D handle slot p held w
      (.error (.comms .communication), held, w₁.log (.mappingFailed slot len e))

/-- Preparing a slot comes to one of the cases of `Prepares`. -/
theorem prepares (D : Driver σ) (handle : Handle) (slot : Slot) (p : Parameter) (held : Holdings)
    (w : World σ) : Prepares D handle slot p held w (prepare D handle slot p held w) := by
  unfold prepare Holdings.map
  rcases hplan : p.plan with refusal | words | ⟨address, len, access⟩
  · exact .rejected hplan
  · exact .written hplan
  · rcases hanswer : w.onDesk D (D.map handle address len access) with ⟨e | info, w₁⟩ <;>
      simp only [hanswer]
    · exact .refused hplan hanswer
    · exact .mapped hplan hanswer

/-- What the log and the mapping that a parameter plans preserve, preparing its slot preserves. -/
theorem prepare_preserves {slot : Slot} {p : Parameter}
    (hlog : ∀ w r, r.mismatch? = .none → P w → P (w.log r))
    (hmap : ∀ w address len access, p.plan = .ok (.mapping address len access) → P w →
      P (w.onDesk D (D.map handle address len access)).2)
    {held : Holdings} (h : P w) : P (prepare D handle slot p held w).2.2 := by
  have hprepares := prepares D handle slot p held w
  generalize prepare D handle slot p held w = prepared at hprepares
  cases hprepares with
  | @rejected refusal plan => exact hlog w _ (refusal.mismatch?_record slot) h
  | written plan => exact h
  | mapped plan answer | refused plan answer =>
    have hasked := hmap w _ _ _ plan h
    rw [answer] at hasked
    exact hlog _ _ rfl hasked

/-- What the log, the mappings that the operation plans and the words of the slots preserve, filling
in slots preserves. -/
theorem fillEach_preserves {channel : Channel} {op : Operation}
    (hlog : ∀ w r, r.mismatch? = .none → P w → P (w.log r))
    (hpage : ∀ w slot words, P w → P (w.onPage channel.page (·.setParam slot words)))
    (hmap : ∀ w slot address len access, (op.param slot).plan = .ok (.mapping address len access) →
      P w → P (w.onDesk D (D.map channel.handle address len access)).2)
    (slots : List Slot) {held : Holdings} (h : P w) :
    P (fillEach D channel op slots held w).2.2 := by
  induction slots generalizing held w with
  | nil => exact h
  | cons slot rest ih =>
    have hp : P (prepare D channel.handle slot (op.param slot) held w).2.2 :=
      prepare_preserves hlog (fun w address len access => hmap w slot address len access) h
    unfold fillEach
    generalize prepare D channel.handle slot (op.param slot) held w = prepared at hp
    obtain ⟨failure | words, held', w'⟩ := prepared
    · exact hp
    · exact ih (hpage w' slot words hp)

/-- What the parts of filling in a slot preserve, filling in all slots preserves. -/
theorem fill_preserves {channel : Channel} {op : Operation}
    (hlog : ∀ w r, r.mismatch? = .none → P w → P (w.log r))
    (hpage : ∀ w slot words, P w → P (w.onPage channel.page (·.setParam slot words)))
    (hmap : ∀ w slot address len access, (op.param slot).plan = .ok (.mapping address len access) →
      P w → P (w.onDesk D (D.map channel.handle address len access)).2) (h : P w) :
    P (fill D channel op w).2.2 := by
  have hf : P (fillEach D channel op Slot.ascending .none w).2.2 :=
    fillEach_preserves hlog hpage hmap Slot.ascending h
  unfold fill
  generalize fillEach D channel op Slot.ascending .none w = filled at hf
  obtain ⟨failure | _, held', w'⟩ := filled
  · exact hf
  · simp only
    split
    · exact hlog w' _ rfl hf
    · exact hf

end Publishing

section Exchanging

variable {handle : Handle}

/-- The record of an error code reports no slot. -/
theorem mismatch?_judge (handle : Handle) (code : Int) :
    (judge handle code).1.mismatch? = none := by
  unfold judge
  split
  · rfl
  · split
    · rfl
    · split <;> rfl

/-- What asking for the error code and the log preserve, classifying it preserves. -/
theorem classify_preserves (hlog : ∀ w r, r.mismatch? = .none → P w → P (w.log r))
    (hcode : ∀ w, P w → P (w.onDesk D (D.errorCode handle)).2) (h : P w) :
    P (classify D handle w).2 := by
  have hc := hcode w h
  unfold classify
  generalize w.onDesk D (D.errorCode handle) = answer at hc
  obtain ⟨e | code, w'⟩ := answer
  · exact hlog _ _ (mismatch?_judge handle _) (hlog w' _ rfl hc)
  · exact hlog w' _ (mismatch?_judge handle _) hc

/-- What the primitives of an exchange and the log preserve, the exchange preserves. -/
theorem exchange_preserves (hlog : ∀ w r, r.mismatch? = .none → P w → P (w.log r))
    (hnotify : ∀ w, P w → P (w.onShared D (D.notify .call handle)).2)
    (hwait : ∀ w, P w → P (w.onShared D (D.wait handle none)).2)
    (hcode : ∀ w, P w → P (w.onDesk D (D.errorCode handle)).2) (h : P w) :
    P (exchange D handle w).2 := by
  have hn := hnotify w h
  unfold exchange
  generalize w.onShared D (D.notify .call handle) = notified at hn
  obtain ⟨e | _, w₁⟩ := notified
  · exact hlog w₁ _ rfl hn
  -- the notification succeeded, so the call waits
  have hw := hwait w₁ hn
  simp only
  generalize w₁.onShared D (D.wait handle none) = waited at hw
  obtain ⟨e | _, w₂⟩ := waited
  · cases e with
    | infoNotification => exact classify_preserves hlog hcode hw
    | _ => exact hlog w₂ _ rfl hw
  · exact hw

end Exchanging

section Collecting

variable {channel : Channel} (copyBack : Bool)

/-- What unmapping and the log preserve, taking slots back preserves. -/
theorem takeBackEach_preserves (hlog : ∀ w r, P w → P (w.log r))
    (hunmap : ∀ w address info, P w → P (w.onDesk D (D.unmap channel.handle address info)).2)
    (slots : List Slot) (op : Operation) (held : Holdings) (h : P w) :
    P (takeBackEach D channel copyBack slots op held w).2.2 := by
  induction slots generalizing op held w with
  | nil => exact h
  | cons slot rest ih =>
    refine ih _ _ (Holdings.release_preserves (fun w r _ => hlog w r) hunmap slot ?_)
    split
    · exact hlog w _ h
    · exact h

/-- What unmapping and the log preserve, collecting the result preserves. -/
theorem collect_preserves (hlog : ∀ w r, P w → P (w.log r))
    (hunmap : ∀ w address info, P w → P (w.onDesk D (D.unmap channel.handle address info)).2)
    {op : Option Operation} {held : Holdings} {exchanged : Bool} (h : P w) :
    P (collect D channel op held exchanged w).2.2 := by
  have hlast : ∀ (held : Holdings) w, P w → P (held.releaseAll D channel.handle w) :=
    fun held w => Holdings.releaseEach_preserves (fun w r _ => hlog w r) hunmap Slot.descending
  cases op with
  | none =>
    simp only [collect]
    split
    · exact hlast held w h
    · exact hlog _ _ (hlast held w h)
  | some op =>
    have ht := takeBackEach_preserves (exchanged && (speaker? (w.page channel.page).origin
      (w.page channel.page).status).isSome) hlog hunmap Slot.ascending op held h
    simp only [collect]
    generalize takeBackEach D channel _ Slot.ascending op held w = taken at ht
    obtain ⟨op', held', w'⟩ := taken
    split
    · exact hlast held' w' ht
    · exact hlog _ _ (hlast held' w' ht)

end Collecting

end Call

/-! ## Whole calls -/

/-- The property survives what the parts of a call do to the world: log records, pages and the
primitives, where `plans` says which bytes may be mapped. -/
structure PartSafe (D : Driver σ) (plans : Address → Nat → Prop) (P : World σ → Prop) : Prop where
  log : ∀ w r, P w → P (w.log r)
  onPage : ∀ w id f, P w → P (w.onPage id f)
  map : ∀ w handle address len access, plans address len → P w →
    P (w.onDesk D (D.map handle address len access)).2
  unmap : ∀ w handle address info, P w → P (w.onDesk D (D.unmap handle address info)).2
  notify : ∀ w handle, P w → P (w.onShared D (D.notify .call handle)).2
  wait : ∀ w handle, P w → P (w.onShared D (D.wait handle none)).2
  errorCode : ∀ w handle, P w → P (w.onDesk D (D.errorCode handle)).2

/-- The property survives what a whole call does: its parts, the life of the operation, and taking
the session down. -/
structure CallSafe (D : Driver σ) (plans : Address → Nat → Prop) (P : World σ → Prop) : Prop
    extends PartSafe D plans P where
  onLifecycle : ∀ w id f, P w → P (w.onLifecycle id f)
  onChannel : ∀ w id f, P w → P (w.onChannel id f)
  closeSession : ∀ w handle, P w → P (w.onDesk D (D.closeSession handle)).2

/-- The bytes that some slot of the operation plans to map. -/
def Operation.Plans (op : Operation) (address : Address) (len : Nat) : Prop :=
  ∃ slot access, (op.param slot).plan = .ok (.mapping address len access)

/-- A property that says nothing of what drivers touch survives the primitives on the desk if it
survives requests to cancel. -/
theorem World.onDesk_preserves {α : Type} (hu : ∀ w shared, P w → P (w.withShared shared))
    (hh : ∀ token w, P w → P (w.honour D token).2) (act : Desk σ → Reply (Desk σ) α) (h : P w) :
    P (w.onDesk D act).2 :=
  settle_preserves (fun w desk => hu w (w.toShared.withDesk desk)) hh (act w.desk) h

/-- A property that says nothing of what drivers touch survives the primitives during which the
secure world runs if it survives requests to cancel. -/
theorem World.onShared_preserves {α : Type} (hu : ∀ w shared, P w → P (w.withShared shared))
    (hh : ∀ token w, P w → P (w.honour D token).2) (act : Shared σ → Reply (Shared σ) α)
    (h : P w) : P (w.onShared D act).2 :=
  settle_preserves hu hh (act w.toShared) h

/-- A property that says nothing of what drivers touch survives the parts of a call if it survives
requests to cancel. -/
theorem partSafe_of_honour (plans : Address → Nat → Prop)
    (hu : ∀ w shared, P w → P (w.withShared shared))
    (hh : ∀ token w, P w → P (w.honour D token).2) : PartSafe D plans P where
  log w r := hu w (w.toShared.log r)
  onPage w id f := hu w (w.toShared.onPage id f)
  map _ _ _ _ _ _ := World.onDesk_preserves hu hh _
  unmap _ _ _ _ := World.onDesk_preserves hu hh _
  notify _ _ := World.onShared_preserves hu hh _
  wait _ _ := World.onShared_preserves hu hh _
  errorCode _ _ := World.onDesk_preserves hu hh _

/-- The parts of a call leave the sessions as they are. -/
theorem partSafe_channels (D : Driver σ) (plans : Address → Nat → Prop) (channels : Arena Channel) :
    PartSafe D plans fun w => w.channels = channels :=
  partSafe_of_honour plans (fun _ _ h => h) fun token w h =>
    (World.channels_honour D token w).trans h

/-! ## Taking a session down -/

/-- The world in which a session was shut, so that it takes no more calls, and then closed at the
driver. -/
def World.shutDown (D : Driver σ) (id : ChannelId) (handle : Handle) (w : World σ) : World σ :=
  ((w.onChannel id fun ch => { ch with active := false }).onDesk D (D.closeSession handle)).2

/-- The driver has no part in who takes calls. -/
theorem World.channels_shutDown (id : ChannelId) (handle : Handle) (w : World σ) :
    (w.shutDown D id handle).channels
      = w.channels.modify id fun ch => { ch with active := false } :=
  World.channels_onDesk D (D.closeSession handle) _

/-- Taking down a session that is active shuts it down. That the driver fails to close it is only
reported. -/
theorem World.teardown_of_active {id : ChannelId} {channel : Channel}
    (hget : w.channels.get? id = some channel) (ha : channel.active = true) :
    w.teardown D id = w.shutDown D id channel.handle ∨
      ∃ e, w.teardown D id
        = (w.shutDown D id channel.handle).log (.driverCloseFailed channel.handle e) := by
  unfold World.teardown World.shutDown
  simp only [hget, ha, if_true]
  rcases World.onDesk D (D.closeSession channel.handle) _ with ⟨e | ⟨⟩, w'⟩
  · exact .inr ⟨e, rfl⟩
  · exact .inl rfl

/-- A session that is not active is not taken down again. -/
theorem World.teardown_of_inactive {id : ChannelId}
    (h : ∀ ch, w.channels.get? id = some ch → ch.active = false) : w.teardown D id = w := by
  unfold World.teardown
  cases hget : w.channels.get? id with
  | none => rfl
  | some channel => simp only [h channel hget, Bool.false_eq_true, if_false]

/-- Taking a session down shuts it down if it is active, and changes nothing otherwise. -/
theorem World.teardown_cases (D : Driver σ) (id : ChannelId) (w : World σ) :
    (∃ channel, w.channels.get? id = some channel ∧ channel.active = true ∧
      (w.teardown D id = w.shutDown D id channel.handle ∨ ∃ e, w.teardown D id
        = (w.shutDown D id channel.handle).log (.driverCloseFailed channel.handle e))) ∨
    ((∀ ch, w.channels.get? id = some ch → ch.active = false) ∧ w.teardown D id = w) := by
  obtain ⟨channel, hget, ha⟩ | hinactive := exists_active_or id w
  · exact .inl ⟨channel, hget, ha, teardown_of_active hget ha⟩
  · exact .inr ⟨hinactive, teardown_of_inactive hinactive⟩

/-- A session that is taken down is not active, and the others are as they were. -/
theorem World.get?_channels_teardown (id other : ChannelId) (w : World σ) :
    (w.teardown D id).channels.get? other = if other = id
      then (w.channels.get? other).map fun ch => { ch with active := false }
      else w.channels.get? other := by
  obtain ⟨channel, -, -, hdown⟩ | ⟨hinactive, hsame⟩ := teardown_cases D id w
  · rw [← Arena.get?_modify w.channels id other, ← channels_shutDown (D := D) id channel.handle w]
    obtain hdown | ⟨e, hdown⟩ := hdown <;> rw [hdown]
    rfl
  · -- it was not active before, so deactivating it changes nothing
    rw [hsame]
    split
    next he =>
      rw [he]
      cases hget : w.channels.get? id with
      | none => rfl
      | some channel =>
        have ha := hinactive channel hget
        cases channel
        cases ha
        rfl
    next => rfl

section WholeCalls

variable {plans : Address → Nat → Prop}

/-- What deactivating a session, closing it at the driver and the log preserve, taking it down
preserves. -/
theorem World.teardown_preserves_of (hlog : ∀ w r, r.mismatch? = .none → P w → P (w.log r))
    (hchannel : ∀ w id f, P w → P (w.onChannel id f))
    (hclose : ∀ w handle, P w → P (w.onDesk D (D.closeSession handle)).2) (id : ChannelId)
    (h : P w) : P (w.teardown D id) := by
  obtain ⟨channel, -, -, hdown⟩ | ⟨-, hsame⟩ := teardown_cases D id w
  · have hshut : P (w.shutDown D id channel.handle) :=
      hclose _ channel.handle (hchannel w id (fun ch => { ch with active := false }) h)
    obtain hdown | ⟨e, hdown⟩ := hdown <;> rw [hdown]
    · exact hshut
    · exact hlog _ _ rfl hshut
  · rw [hsame]
    exact h

/-- What closing a session at the driver preserves, taking it down preserves. -/
theorem World.teardown_preserves (hs : CallSafe D plans P) (id : ChannelId) (h : P w) :
    P (w.teardown D id) :=
  World.teardown_preserves_of (fun w r _ => hs.log w r) hs.onChannel hs.closeSession id h

namespace Call

variable {channel : Channel} {instruction : Instruction} {command : UInt32} {op : Option Operation}

/-- Publishing a request preserves what is preserved by changes to the page of the session, by
mapping what the operation asks for, and by giving mappings back. -/
theorem publish_preserves_of (hlog : ∀ w r, r.mismatch? = .none → P w → P (w.log r))
    (hpage : ∀ w f, P w → P (w.onPage channel.page f))
    (hmap : ∀ w o slot address len access, op = some o →
      (o.param slot).plan = .ok (.mapping address len access) → P w →
      P (w.onDesk D (D.map channel.handle address len access)).2)
    (hunmap : ∀ w address info, P w → P (w.onDesk D (D.unmap channel.handle address info)).2)
    (h : P w) : P (publish D channel instruction command op w).2 := by
  have hclear := hpage w (fun p => (p.setReady false).clearRequest) h
  unfold publish
  cases op with
  | none => exact hlog _ _ rfl (hpage _ _ hclear)
  | some op =>
    have hf : P (fill D channel op _).2.2 := fill_preserves hlog (fun w slot words => hpage w _)
      (fun w slot address len access => hmap w op slot address len access rfl) hclear
    simp only
    generalize fill D channel op (w.onPage channel.page _) = filled at hf
    obtain ⟨failure | _, held, w'⟩ := filled
    · exact Holdings.releaseEach_preserves hlog hunmap _ (hpage w' _ hf)
    · exact hlog _ _ rfl (hpage w' _ hf)

/-- What the primitives of a call preserve, publishing a request preserves. -/
theorem publish_preserves (hs : PartSafe D plans P)
    (hp : ∀ o, op = some o → ∀ address len, o.Plans address len → plans address len) (h : P w) :
    P (publish D channel instruction command op w).2 :=
  publish_preserves_of (fun w r _ => hs.log w r) (fun w => hs.onPage w channel.page)
    (fun w o slot address len access ho hplan => hs.map w _ address len access
      (hp o ho address len ⟨slot, access, hplan⟩))
    (fun w => hs.unmap w channel.handle) h

/-- Publishing a request leaves the sessions as they are. -/
theorem channels_publish (channel : Channel) (instruction : Instruction) (command : UInt32)
    (op : Option Operation) (w : World σ) :
    (publish D channel instruction command op w).2.channels = w.channels :=
  publish_preserves (partSafe_channels D (fun _ _ => True) w.channels) (fun _ _ _ _ _ => trivial)
    rfl

/-- The exchange of signals leaves the sessions as they are. -/
theorem channels_exchange (handle : Handle) (w : World σ) :
    (exchange D handle w).2.channels = w.channels :=
  have hs := partSafe_channels D (fun _ _ => True) w.channels
  exchange_preserves (fun w r _ => hs.log w r) (fun w => hs.notify w handle)
    (fun w => hs.wait w handle) (fun w => hs.errorCode w handle) rfl

/-- Collecting the result leaves the sessions as they are. -/
theorem channels_collect (channel : Channel) (op : Option Operation) (held : Holdings)
    (exchanged : Bool) (w : World σ) :
    (collect D channel op held exchanged w).2.2.channels = w.channels :=
  have hs := partSafe_channels D (fun _ _ => True) w.channels
  collect_preserves hs.log (fun w => hs.unmap w channel.handle) rfl

/-- A round trip does not touch the sessions until it has collected the result of the request that
it published. -/
theorem channels_collected {held : Holdings} {w w₁ : World σ}
    (hp : publish D channel instruction command op w = (.ok held, w₁)) (exchanged : Bool) :
    (collect D channel op held exchanged (exchange D channel.handle w₁).2).2.2.channels
      = w.channels :=
  have hpublished : w₁.channels = w.channels := by
    have := channels_publish (D := D) channel instruction command op w
    rwa [hp] at this
  calc (collect D channel op held exchanged (exchange D channel.handle w₁).2).2.2.channels
      = (exchange D channel.handle w₁).2.channels := channels_collect channel op held exchanged _
    _ = w₁.channels := channels_exchange channel.handle w₁
    _ = w.channels := hpublished

/-- A round trip whose request is given up ends with that. -/
theorem roundTrip_of_unfilled (id : ChannelId) {failure : Failure} {w₁ : World σ}
    (hp : publish D channel instruction command op w = (.error failure, w₁)) :
    roundTrip D id channel instruction command op w = ⟨.error failure, op, w₁⟩ := by
  unfold roundTrip
  rw [hp]

/-- A round trip whose request is published ends with what the exchange of signals and the result
that is collected come to. If that is a failure that breaks the session, the session is taken
down. -/
theorem roundTrip_of_filled (id : ChannelId) {held : Holdings} {w₁ : World σ}
    (hp : publish D channel instruction command op w = (.ok held, w₁)) :
    let exchanged := exchange D channel.handle w₁
    let collected := collect D channel op held exchanged.1.isOk exchanged.2
    let e := roundTrip D id channel instruction command op w
    e.result = (exchanged.1.bind fun _ => collected.1) ∧ e.operation = collected.2.1 ∧
      ((∀ failure, e.result = .error failure → failure.breaksSession = false) ∧
          e.world = collected.2.2 ∨
        ∃ failure, e.result = .error failure ∧ failure.breaksSession = true ∧
          e.world = (collected.2.2.log
            (.callFailed channel.handle instruction failure)).teardown D id) := by
  unfold roundTrip
  simp only [hp]
  split
  next origin hlearned => exact ⟨hlearned.symm, rfl, .inl ⟨nofun, rfl⟩⟩
  next failure hlearned =>
    split
    next hbreaks => exact ⟨hlearned.symm, rfl, .inr ⟨failure, rfl, hbreaks, rfl⟩⟩
    next hkeeps =>
      refine ⟨hlearned.symm, rfl, .inl ⟨fun other hother => ?_, rfl⟩⟩
      cases hother
      exact Bool.eq_false_iff.2 hkeeps

/-- What relates the world to the mappings that a call holds survives a round trip, if it survives
publishing the request, exchanging signals, collecting the result and taking the session down. -/
theorem roundTrip_preserves_from {R : Holdings → World σ → Prop} {id : ChannelId}
    (hpub : R ((publish D channel instruction command op w).1.toOption.getD .none)
      (publish D channel instruction command op w).2)
    (hex : ∀ held w, R held w → R held (exchange D channel.handle w).2)
    (hcol : ∀ op held exchanged w, R held w →
      R .none (collect D channel op held exchanged w).2.2)
    (ht : ∀ w r, R .none w → R .none ((w.log r).teardown D id)) :
    R .none (roundTrip D id channel instruction command op w).world := by
  rcases hp : publish D channel instruction command op w with ⟨failure | held, w₁⟩
  · rw [hp] at hpub
    rw [roundTrip_of_unfilled id hp]
    exact hpub
  · rw [hp] at hpub
    -- the request is published, so there is an exchange, and a result to collect
    have hcollected := hcol op held (exchange D channel.handle w₁).1.isOk _ (hex held w₁ hpub)
    obtain ⟨-, -, ⟨-, hworld⟩ | ⟨failure, -, -, hworld⟩⟩ := roundTrip_of_filled id hp
    · rw [hworld]
      exact hcollected
    · rw [hworld]
      exact ht _ _ hcollected

/-- What the parts of a call and taking a session down preserve, a round trip preserves. -/
theorem roundTrip_preserves_of (hs : PartSafe D plans P)
    (ht : ∀ w id, P w → P (w.teardown D id))
    (hp : ∀ o, op = some o → ∀ address len, o.Plans address len → plans address len)
    (id : ChannelId) (channel : Channel) (instruction : Instruction) (command : UInt32) (h : P w) :
    P (roundTrip D id channel instruction command op w).world :=
  roundTrip_preserves_from (R := fun _ w => P w) (publish_preserves hs hp h)
    (fun _ _ => exchange_preserves (fun w r _ => hs.log w r)
      (fun w => hs.notify w channel.handle)
      (fun w => hs.wait w channel.handle) (fun w => hs.errorCode w channel.handle))
    (fun _ _ _ _ => collect_preserves hs.log (fun w => hs.unmap w channel.handle))
    (fun w r h => ht _ id (hs.log w r h))

variable (hs : CallSafe D plans P)
  (hp : ∀ o, op = some o → ∀ address len, o.Plans address len → plans address len)
include hs hp

/-- What the primitives of a call preserve, a round trip preserves. -/
theorem roundTrip_preserves (id : ChannelId) (h : P w) :
    P (roundTrip D id channel instruction command op w).world :=
  roundTrip_preserves_of hs.toPartSafe (fun _ id => World.teardown_preserves hs id) hp id channel
    instruction command h

/-- What the primitives of a call preserve, carrying an operation preserves. -/
theorem carry_preserves (id : ChannelId) (h : P w) :
    P (carry D id channel instruction command op w).world := by
  unfold carry
  cases op with
  | none => exact roundTrip_preserves hs hp id h
  | some op => exact hs.onLifecycle _ _ _ (roundTrip_preserves hs hp id (hs.onLifecycle w _ _ h))

end Call

end WholeCalls

/-! ## Around a round trip -/

namespace Call

/-- The world in which a call fills in its request. -/
def begun (id : ChannelId) (op : Option Operation) (w : World σ) : World σ :=
  match op with
  | none => w
  | some op => w.onLifecycle op.lifecycle (·.begin id)

/-- The world when the call that carried an operation, or none, has returned. -/
def ended (op : Option Operation) (result : Except Failure Origin) (w : World σ) : World σ :=
  match op with
  | none => w
  | some op => w.onLifecycle op.lifecycle (·.finish (originOf result))

/-- To carry an operation, or none, is to begin, to make a round trip and to end. -/
theorem carry_eq (D : Driver σ) (id : ChannelId) (channel : Channel) (instruction : Instruction)
    (command : UInt32) (op : Option Operation) (w : World σ) :
    carry D id channel instruction command op w =
      let e := roundTrip D id channel instruction command op (begun id op w)
      { e with world := ended op e.result e.world } := by
  cases op <;> rfl

/-- Beginning an operation leaves the sessions. -/
@[simp] theorem channels_begun (id : ChannelId) (op : Option Operation) (w : World σ) :
    (begun id op w).channels = w.channels := by
  cases op <;> rfl

/-- Ending a call leaves the sessions. -/
@[simp] theorem channels_ended (op : Option Operation) (result : Except Failure Origin)
    (w : World σ) : (ended op result w).channels = w.channels := by
  cases op <;> rfl

/-- Ending a call is no business of the driver. -/
@[simp] theorem driver_ended (op : Option Operation) (result : Except Failure Origin)
    (w : World σ) : (ended op result w).driver = w.driver := by
  cases op <;> rfl

/-- Ending a call changes no page. -/
@[simp] theorem pages_ended (op : Option Operation) (result : Except Failure Origin)
    (w : World σ) : (ended op result w).pages = w.pages := by
  cases op <;> rfl

end Call

/-! ## The operation that comes back -/

section Returned

variable {β : Type} {F : Operation → β} (hF : ∀ (op : Operation) slot words,
  F (op.setParam slot ((op.param slot).receive words)) = F op)
include hF

/-- What is the same of an operation whatever comes back in a slot, is the same when some slots are
taken back. -/
theorem Call.operation_takeBackEach (channel : Channel) (copyBack : Bool) (slots : List Slot)
    (op : Operation) (held : Holdings) (w : World σ) :
    F (takeBackEach D channel copyBack slots op held w).1 = F op := by
  induction slots generalizing op held w with
  | nil => rfl
  | cons slot rest ih =>
    simp only [takeBackEach, ih]
    split
    · exact hF op slot _
    · rfl

/-- What is the same of an operation whatever comes back in a slot, is the same after a round
trip. -/
theorem Call.operation_roundTrip (id : ChannelId) (channel : Channel) (instruction : Instruction)
    (command : UInt32) (op : Operation) (w : World σ) :
    ∃ op', (roundTrip D id channel instruction command (some op) w).operation = some op' ∧
      F op' = F op := by
  rcases hp : publish D channel instruction command (some op) w with ⟨failure | held, w₁⟩
  · rw [roundTrip_of_unfilled id hp]
    exact ⟨op, rfl, rfl⟩
  · obtain ⟨-, hoperation, -⟩ := roundTrip_of_filled id hp
    exact ⟨_, hoperation, operation_takeBackEach hF channel _ Slot.ascending op held _⟩

end Returned

/-- A round trip without an operation hands none back. -/
theorem Call.operation_roundTrip_none (id : ChannelId) (channel : Channel)
    (instruction : Instruction) (command : UInt32) (w : World σ) :
    (roundTrip D id channel instruction command none w).operation = none := by
  rcases hp : publish D channel instruction command none w with ⟨failure | held, w₁⟩
  · rw [roundTrip_of_unfilled id hp]
  · obtain ⟨-, hoperation, -⟩ := roundTrip_of_filled id hp
    exact hoperation

end TeeClient

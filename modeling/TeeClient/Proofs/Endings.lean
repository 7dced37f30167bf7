import TeeClient.Proofs.Once.Calls
import TeeClient.Proofs.Trace

/-!
# How calls end

A round trip ends in one of four ways: its request cannot be filled in, it is answered, the
application reports a failure, or the session breaks. `Call.Ending` says what each of them leaves,
and `Call.Breaks` which calls break their session; the sessions after a call follow from it.

Main statements:

* `Call.roundTrip_ending` and `Call.carry_ending`: every call ends in one of the four ways, in a
  world that has whatever its parts preserve;
* `Call.get?_channels_carry`: a call deactivates its session if it breaks it, and leaves all others;
* `Traced.partSafe`: what each use that a call makes preserves, its parts preserve.
-/

namespace TeeClient

variable {σ : Type} {D : Driver σ} {plans : Address → Nat → Prop} {P Q : World σ → Prop}

/-- A session breaks on a failure of the transport or of the secure system. -/
theorem Failure.breaksSession_iff (f : Failure) :
    f.breaksSession = true ↔ f.origin = .comms ∨ f.origin = .tee := by
  unfold breaksSession
  cases f.origin <;> simp

/-- What the parts of a call preserve one by one, they preserve together. -/
theorem PartSafe.and (hp : PartSafe D plans P) (hq : PartSafe D plans Q) :
    PartSafe D plans fun w => P w ∧ Q w where
  log w r h := ⟨hp.log w r h.1, hq.log w r h.2⟩
  onPage w id f h := ⟨hp.onPage w id f h.1, hq.onPage w id f h.2⟩
  map w handle address len access hl h :=
    ⟨hp.map w handle address len access hl h.1, hq.map w handle address len access hl h.2⟩
  unmap w handle address info h :=
    ⟨hp.unmap w handle address info h.1, hq.unmap w handle address info h.2⟩
  notify w handle h := ⟨hp.notify w handle h.1, hq.notify w handle h.2⟩
  wait w handle h := ⟨hp.wait w handle h.1, hq.wait w handle h.2⟩
  errorCode w handle h := ⟨hp.errorCode w handle h.1, hq.errorCode w handle h.2⟩

/-! ## The uses that a call makes -/

/-- The use is one that the parts of a call make. -/
def Use.isPart : Use → Bool
  | .map .. | .unmap .. | .notify .. | .wait .. | .errorCode _ | .wake _ => true
  | _ => false

namespace Traced

variable {R : List Use → Prop}

/-- What each use that a call makes preserves, the parts of a call preserve. -/
theorem partSafe (D : Driver σ) (plans : Address → Nat → Prop)
    (hR : ∀ use uses, use.isPart = true → R uses → R (use :: uses)) :
    PartSafe (driver D) plans fun w => R w.driver.uses := by
  have hwake : ∀ handle uses, R uses → R (.wake handle :: uses) :=
    fun handle uses => hR (.wake handle) uses rfl
  exact {
    log := fun _ _ h => h
    onPage := fun _ _ _ h => h
    map := fun w handle address len access _ h => by
      obtain ⟨uses, hw, he⟩ := uses_enterAfter D (.map handle address len access)
        (D.map handle address len access) w
      exact Eq.mpr (congrArg R he) (hR _ uses rfl (of_woken hwake hw h))
    unmap := fun w handle address info h =>
      of_woken hwake (uses_enterBefore D (.unmap handle address info) _ w) (hR _ _ rfl h)
    notify := fun w handle h => by
      obtain ⟨uses, hw, he⟩ := uses_enterShared D (.notify handle) (D.notify .call handle) w
      exact Eq.mpr (congrArg R he) (hR _ uses rfl (of_woken hwake hw h))
    wait := fun w handle h => by
      obtain ⟨uses, hw, he⟩ := uses_enterShared D (.wait handle) (D.wait handle none) w
      exact Eq.mpr (congrArg R he) (hR _ uses rfl (of_woken hwake hw h))
    errorCode := fun w handle h =>
      of_woken hwake (uses_enterBefore D (.errorCode handle) _ w) (hR _ _ rfl h) }

end Traced

namespace Call

/-! ## The four endings -/

/-- How a round trip ends, where `after` is the world when its parts are done, and the flag tells
whether the request was filled in. -/
inductive Ending (D : Driver σ) (id : ChannelId) (channel : Channel) (instruction : Instruction)
    (after : World σ) : Bool → End σ → Prop
  /-- The request could not be filled in. -/
  | unfilled (failure : Failure) (op : Option Operation) :
    Ending D id channel instruction after false ⟨.error failure, op, after⟩
  | answered (origin : Origin) (op : Option Operation) :
    Ending D id channel instruction after true ⟨.ok origin, op, after⟩
  /-- The application reported a failure. -/
  | reported (failure : Failure) (op : Option Operation) (speaker : failure.origin = .trustedApp) :
    Ending D id channel instruction after true ⟨.error failure, op, after⟩
  /-- The session was taken down. -/
  | broken (failure : Failure) (op : Option Operation) (breaks : failure.breaksSession = true) :
    Ending D id channel instruction after true ⟨.error failure, op,
      (after.log (.callFailed channel.handle instruction failure)).teardown D id⟩

variable {id : ChannelId} {channel : Channel} {instruction : Instruction} {command : UInt32}
  {op : Option Operation} {w : World σ}

/-- A round trip ends in one of the four ways, in a world that has what its parts preserve. -/
theorem roundTrip_ending (hs : PartSafe D plans P)
    (hp : ∀ o, op = some o → ∀ address len, o.Plans address len → plans address len)
    (id : ChannelId) (channel : Channel) (instruction : Instruction) (command : UInt32) (h : P w) :
    ∃ after, P after ∧
      Ending D id channel instruction after (publish D channel instruction command op w).1.isOk
        (roundTrip D id channel instruction command op w) := by
  have hpub : P (publish D channel instruction command op w).2 := publish_preserves hs hp h
  unfold roundTrip
  generalize publish D channel instruction command op w = published at hpub
  obtain ⟨failure | held, w₁⟩ := published
  · exact ⟨w₁, hpub, .unfilled failure op⟩
  have hex : P (exchange D channel.handle w₁).2 :=
    exchange_preserves (fun w r _ => hs.log w r) (fun w => hs.notify w channel.handle)
      (fun w => hs.wait w channel.handle) (fun w => hs.errorCode w channel.handle) hpub
  have hcol : P (collect D channel op held (exchange D channel.handle w₁).1.isOk
      (exchange D channel.handle w₁).2).2.2 :=
    collect_preserves hs.log (fun w => hs.unmap w channel.handle) hex
  refine ⟨_, hcol, ?_⟩
  -- what is learned is a success, breaks the session, or comes from the application
  simp only
  split
  next origin _ => exact .answered origin _
  next failure hanswer =>
    have horigin : failure.breaksSession = true ∨ failure.origin = .trustedApp :=
      answer_breaks (D := D) hanswer
    split
    next hbreaks => exact .broken failure _ hbreaks
    next hkeeps => exact .reported failure _ (horigin.resolve_left hkeeps)

/-- The call breaks its session: its request was filled in, and then the transport or the secure
system failed. -/
def Breaks (D : Driver σ) (id : ChannelId) (channel : Channel) (instruction : Instruction)
    (command : UInt32) (op : Option Operation) (w : World σ) : Prop :=
  (filling D id channel instruction command op w).1.isOk = true ∧
    ∃ failure, (carry D id channel instruction command op w).result = .error failure ∧
      failure.breaksSession = true

/-- A call ends in one of the four ways, in a world that has what its parts preserve. -/
theorem carry_ending (hs : PartSafe D plans P)
    (hp : ∀ o, op = some o → ∀ address len, o.Plans address len → plans address len)
    (id : ChannelId) (channel : Channel) (instruction : Instruction) (command : UInt32)
    (h : P (begun id op w)) : ∃ after e, P after ∧
      after.channels = w.channels ∧
      Ending D id channel instruction after
        (filling D id channel instruction command op w).1.isOk e ∧
      carry D id channel instruction command op w
        = { e with world := ended op e.result e.world } := by
  obtain ⟨after, ⟨hafter, hchannels⟩, hending⟩ :=
    roundTrip_ending (hs.and (partSafe_channels D plans w.channels)) hp id channel instruction
      command ⟨h, channels_begun id op w⟩
  exact ⟨after, _, hafter, hchannels, hending, carry_eq ..⟩

/-- A call whose request was filled in fails for no reason that lies with the client. -/
theorem origin_ne_api {failure : Failure}
    (hfilled : (filling D id channel instruction command op w).1.isOk = true)
    (hf : (carry D id channel instruction command op w).result = .error failure) :
    failure.origin ≠ .api := by
  obtain ⟨after, e, -, -, hending, he⟩ := carry_ending
    (partSafe_channels D (fun _ _ => True) w.channels) (fun _ _ _ _ _ => trivial) id channel
    instruction command (channels_begun id op w)
  rw [hfilled] at hending
  rw [he] at hf
  intro horigin
  -- a failure of the interface would have neither a speaker nor break the session
  cases hending with
  | answered origin op' => cases hf
  | reported failure' op' speaker =>
    cases hf
    rw [speaker] at horigin
    cases horigin
  | broken failure' op' breaks =>
    cases hf
    unfold Failure.breaksSession at breaks
    rw [horigin] at breaks
    cases breaks

/-- The sessions after a call: it deactivates its own if it breaks it, and leaves all others. -/
theorem get?_channels_carry (D : Driver σ) (id : ChannelId) (channel : Channel)
    (instruction : Instruction) (command : UInt32) (op : Option Operation) (w : World σ) :
    (Breaks D id channel instruction command op w →
      (carry D id channel instruction command op w).world.channels.get?
        = Channels.shut w.channels.get? id) ∧
    (¬ Breaks D id channel instruction command op w →
      (carry D id channel instruction command op w).world.channels = w.channels) ∧
    (carry D id channel instruction command op w).world.channels.fresh = w.channels.fresh := by
  obtain ⟨after, e, -, hchannels, hending, he⟩ := carry_ending
    (partSafe_channels D (fun _ _ => True) w.channels) (fun _ _ _ _ _ => trivial) id channel
    instruction command (channels_begun id op w)
  unfold Breaks
  generalize (filling D id channel instruction command op w).1.isOk = filled at hending
  rw [he]
  simp only [channels_ended]
  cases hending with
  | unfilled failure op' =>
    exact ⟨fun hb => (by cases hb.1), fun _ => hchannels, congrArg Arena.fresh hchannels⟩
  | answered origin op' =>
    refine ⟨fun hb => ?_, fun _ => hchannels, congrArg Arena.fresh hchannels⟩
    obtain ⟨-, failure, hf, -⟩ := hb
    cases hf
  | reported failure op' speaker =>
    refine ⟨fun hb => ?_, fun _ => hchannels, congrArg Arena.fresh hchannels⟩
    obtain ⟨-, failure', hf, hbreaks⟩ := hb
    cases hf
    unfold Failure.breaksSession at hbreaks
    rw [speaker] at hbreaks
    cases hbreaks
  -- of the four ways to end this is the one in which the session is taken down
  | broken failure op' breaks =>
    refine ⟨fun _ => ?_, fun hn => absurd ⟨rfl, failure, rfl, breaks⟩ hn, ?_⟩
    · rw [World.channels_teardown]
      show Channels.shut after.channels.get? id = _
      rw [hchannels]
    · rw [World.fresh_teardown]
      show after.channels.fresh = _
      rw [hchannels]

end Call

end TeeClient

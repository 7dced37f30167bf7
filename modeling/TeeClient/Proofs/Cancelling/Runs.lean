import TeeClient.Proofs.Cancelling.Heeds
import TeeClient.Proofs.Ledger.Runs

/-!
# Cancelling the calls of a client

Between two calls of a client no operation is started and nothing is mapped, whatever was cancelled
before. So a request that is made then is entered in the journal, and each call on a session begins
with the flag of the session lowered. A request that is due while the call is under way withdraws
the call or raises the flag, once. Faults, cancellations and results to be replaced may be armed
anew before each call, and applications may cancel the calls that they serve.

Main statements:

* `Client.composed_steps`: what is known of a client between two calls;
* `Client.Composed.heedful`: what becomes of the requests around the next one;
* `requests_heeded`: the requests around every call of every run.
-/

namespace TeeClient

variable {σ κ : Type}

/-- The secure world behind a recorder whose uses are kept. -/
abbrev Traced.secure (t : Traced (Recorder (SecureWorld κ))) : SecureWorld κ := t.inner.inner

/-- A call can be made on an active session when no operation is started. -/
theorem World.Accorded.ready {secure : σ → SecureWorld κ} {w : World σ} (h : w.Accorded secure)
    (hrest : w.AtRest none) {id : ChannelId} {channel : Channel} {op : Option Operation}
    (hget : w.channels.get? id = some channel) (ha : channel.active = true)
    (hlives : ∀ o, op = some o → w.Lives o.lifecycle) : Call.Ready id channel op w where
  opened := hget
  active := ha
  laid := by
    obtain ⟨page, hpage, -⟩ := h.idle id channel hget ha
    obtain ⟨p, hp, -⟩ := Option.map_eq_some_iff.1 hpage
    exact ⟨p, hp⟩
  rest := hrest
  lives := hlives

/-- An attempt to open a session that the driver opens fails as the open instruction does. -/
theorem World.openSession_fails_iff {D : Driver σ} {w w₁ : World σ} {destination : Uuid}
    {method : ConnectionMethod} {op : Option Operation} {handle : Handle}
    (ho : (w.offer destination).onDesk D (D.openSession destination method.login w.pages.fresh)
      = (.ok handle, w₁)) (failure : Failure) :
    (w.openSession D destination method op).result = .error failure ↔
      (Call.carry D w₁.channels.fresh ⟨handle, w.pages.fresh, true⟩ .openSession 0 op
        (w₁.adopt handle w.pages.fresh)).result = .error failure := by
  rw [World.openSession_of_ok ho]
  simp only
  split
  next _ hok => simp [hok]
  next _ hfailed => simp [hfailed]

/-! ## Between two calls -/

/-- Nothing is lent to the secure world: its ledger agrees with the uses, and by these nothing is
mapped. -/
structure Traced.Unlent (t : Traced (Recorder (SecureWorld κ))) : Prop where
  agreement : Agreement t.secure.ledger t.uses
  settled : (books t.uses).mapped = []

/-- Where nothing is lent nothing is mapped. -/
theorem Traced.Unlent.unmapped {t : Traced (Recorder (SecureWorld κ))} (h : t.Unlent) :
    t.secure.liveMappings = 0 :=
  h.agreement.size_mappings h.settled

/-- Calls on sessions leave nothing lent. -/
theorem sessionSafe_unlent : SessionSafe (Client.traced κ) Traced.Unlent := by
  have hledger := (keeps_driver (κ := κ)).recorder.driverSafe_agreement.sessionSafe
  have hbooks := sessionSafe_settled (Recorder.driver (SecureWorld.driver (κ := κ)))
  refine ⟨fun w id channel instruction command op h => ⟨?_, ?_⟩, fun w handle h => ⟨?_, ?_⟩,
    fun w destination login page h => ⟨?_, ?_⟩⟩
  · exact hledger.carry w id channel instruction command op h.agreement
  · exact hbooks.carry w id channel instruction command op h.settled
  · exact hledger.closeSession w handle h.agreement
  · exact hbooks.closeSession w handle h.settled
  · exact hledger.openSession w destination login page h.agreement
  · exact hbooks.openSession w destination login page h.settled

namespace Client

/-- Scene and sessions accord, no operation is started, and nothing is lent. -/
structure Composed (c : Client (Traced (Recorder (SecureWorld κ)))) : Prop where
  accorded : c.world.Accorded Traced.secure
  rested : c.Rested
  unlent : c.world.driver.Unlent

variable {c c' : Client (Traced (Recorder (SecureWorld κ)))}
  {t : Traced (Recorder (SecureWorld κ))} {call : ClientCall}

/-- The recorded secure world is hosted while its uses are kept. -/
theorem hosts_traced : Hosts (traced κ) Traced.secure := hosts_driver.recorder.traced

/-- The recorded secure world leaves the cancellation flags to the client. -/
theorem discreet_recorded :
    Discreet (Recorder.driver (SecureWorld.driver : Driver (SecureWorld κ))) :=
  discreet_driver.recorder

/-- Neither announcing a call nor arming the recorder anew is seen by the staff. -/
theorem staff_rearmed {t t' : Traced (Recorder (SecureWorld κ))} (hr : Traced.Rearmed call t t') :
    t'.secure.staff = t.secure.staff :=
  hr.2.staff_eq

/-- Announcing a call leaves what is mapped by the books. -/
theorem mapped_announced {t t' : Traced σ} (h : Traced.Announced call t t') :
    (books t'.uses).mapped = (books t.uses).mapped := by
  rw [show t'.uses = _ from h]
  rfl

/-- A client is composed whenever a call was announced. -/
theorem composed_steps {apps : Table Uuid (App κ)}
    (run : Steps (traced κ) Traced.Rearmed (.start ⟨.start (.start apps), []⟩) c)
    (hr : Traced.Rearmed call c.world.driver t) : (c.withDriver t).Composed where
  accorded := by
    have hacc := accorded_steps hosts_traced (fun _ _ _ hr => staff_rearmed hr) run
      (accorded_start apps)
    exact accorded_withDriver hacc (staff_rearmed hr)
  rested := (rested_steps run).of_same rfl rfl
  unlent :=
    { agreement := agreement_rearmed (agreement_steps run Agreement.empty) hr
      settled := (mapped_announced hr.1).trans
        (settled_steps (fun _ _ _ hr => mapped_announced hr.1) run rfl) }

/-! ## The next call -/

/-- What becomes of requests to cancel, whichever call the client makes next. -/
structure Heedful (D : Driver (Traced σ)) (secure : Traced σ → SecureWorld κ)
    (c : Client (Traced σ)) : Prop where
  /-- A request that is made between two calls is entered in the journal. -/
  idle : ∀ token limited c', c.cancel D token limited = some c' →
    ∃ journal, c' = { c with world := { c.world with journal } }
  /-- No request is due while the driver opens a session. -/
  opening : ∀ destination login i, i ∈ (c.world.offer destination).askedOnDesk D
    (D.openSession destination login c.world.pages.fresh) → ¬ i.Due
  openSession : ∀ context session destination login operation result c',
    c.openSession D context session destination login operation = some (result, c') →
    ∀ method handle w₁, ConnectionMethod.ofRaw login.1 login.2 = .ok method →
    (c.world.offer destination).onDesk D
      (D.openSession destination method.login c.world.pages.fresh) = (.ok handle, w₁) →
    ∃ op, c.operation? operation = some op ∧
      let channel := ⟨handle, c.world.pages.fresh, true⟩
      let w := w₁.adopt handle c.world.pages.fresh
      let e := Call.carry D w₁.channels.fresh channel .openSession 0 op w
      (∀ failure, result = .error failure ↔ e.result = .error failure) ∧
      Call.Heeds D secure w₁.channels.fresh channel .openSession 0 op w e.result e.world
  invoke : ∀ session command operation result c',
    c.invoke D session command operation = some (result, c') →
    ∃ s op, c.sessions.get? session = some s ∧ c.operation? operation = some op ∧
      ∀ channel, c.world.channels.get? s.channel = some channel → channel.active = true →
        Call.Heeds D secure s.channel channel .invokeCommand command op c.world result c'.world
  closeSession : ∀ session c', c.closeSession D session = some c' →
    ∃ s, c.sessions.get? session = some s ∧
      ∀ channel, c.world.channels.get? s.channel = some channel → channel.active = true →
        let e := Call.carry D s.channel channel .closeSession 0 none c.world
        Call.Heeds D secure s.channel channel .closeSession 0 none c.world e.result e.world

namespace Composed

variable (h : c.Composed)
include h

/-- What becomes of the requests that a call meets on a session that is active. -/
theorem heeds {id : ChannelId} {channel : Channel} (hget : c.world.channels.get? id = some channel)
    (ha : channel.active = true) (instruction : Instruction) (command : UInt32)
    {op : Option Operation} (hlives : ∀ o, op = some o → c.world.Lives o.lifecycle) :
    let e := Call.carry (traced κ) id channel instruction command op c.world
    Call.Heeds (traced κ) Traced.secure id channel instruction command op c.world e.result
      e.world := by
  have hready : Call.Ready id channel op c.world :=
    h.accorded.ready h.rested.atRest hget ha hlives
  refine hready.heeds hosts_traced h.accorded ?_ discreet_recorded
  exact (sessionSafe_unlent.carry c.world id channel instruction command op h.unlent).unmapped

/-- No request is due while the driver opens a session. -/
theorem not_due_opening {destination : Uuid} {login : Login}
    {i : Interruption (Traced (Recorder (SecureWorld κ)))}
    (hi : i ∈ (c.world.offer destination).askedOnDesk (traced κ)
      ((traced κ).openSession destination login c.world.pages.fresh)) : ¬ i.Due := by
  have hof := World.ofLives_atRest (traced κ) none
  have hoffered : (c.world.offer destination).AtRest none := h.rested.atRest
  have hrest : i.world.AtRest none :=
    World.of_mem_asked (fun w desk => hof.congr w (w.withDesk desk) rfl) hof.honour hoffered hi
  exact hrest.not_due i.token

/-- What becomes of the requests that the opening of a session meets. -/
theorem heeds_opening {destination : Uuid} {login : Login} {handle : Handle}
    {w₁ : World (Traced (Recorder (SecureWorld κ)))}
    (ho : (c.world.offer destination).onDesk (traced κ)
      ((traced κ).openSession destination login c.world.pages.fresh) = (.ok handle, w₁))
    {op : Option Operation} (hlives : ∀ o, op = some o → c.world.Lives o.lifecycle) :
    let channel := ⟨handle, c.world.pages.fresh, true⟩
    let w := w₁.adopt handle c.world.pages.fresh
    let e := Call.carry (traced κ) w₁.channels.fresh channel .openSession 0 op w
    Call.Heeds (traced κ) Traced.secure w₁.channels.fresh channel .openSession 0 op w e.result
      e.world := by
  have hacc : (w₁.adopt handle c.world.pages.fresh).Accorded Traced.secure :=
    World.Accorded.moves h.accorded (World.moves_opened hosts_traced h.accorded ho
      (World.admits_any _ _ destination login c.world))
  -- neither the driver nor the requests that it has made start or drop an operation
  have hof : ∀ {P : World (Traced (Recorder (SecureWorld κ))) → Prop},
      World.OfLives (traced κ) P → P c.world → P (w₁.adopt handle c.world.pages.fresh) := by
    intro P hP hw
    have hopened := hP.onDesk ((traced κ).openSession destination login c.world.pages.fresh)
      (hP.congr c.world (c.world.offer destination) rfl hw)
    rw [ho] at hopened
    exact hP.congr w₁ _ rfl hopened
  have hunlent : w₁.driver.Unlent := by
    have := sessionSafe_unlent.openSession (c.world.offer destination) destination login
      c.world.pages.fresh h.unlent
    rw [ho] at this
    exact this
  have hready : Call.Ready w₁.channels.fresh ⟨handle, c.world.pages.fresh, true⟩ op
      (w₁.adopt handle c.world.pages.fresh) :=
    hacc.ready (hof (World.ofLives_atRest _ none) h.rested.atRest)
      (World.get?_channels_adopt_fresh handle _ w₁) rfl
      fun o he => hof (World.ofLives_lives _ o.lifecycle) (hlives o he)
  refine hready.heeds hosts_traced hacc ?_ discreet_recorded
  exact (sessionSafe_unlent.carry (w₁.adopt handle c.world.pages.fresh) _ _ .openSession 0 op
    hunlent).unmapped

/-- What becomes of requests to cancel around the next call. -/
theorem heedful : c.Heedful (traced κ) Traced.secure where
  idle token limited c' hc := by
    unfold cancel at hc
    split at hc
    · cases hc
    next id htoken =>
      split at hc
      · cases hc
      · cases hc
        -- between two calls no operation is started, whichever the token names
        have hnot : c.world.progress id ≠ .started := fun hp =>
          h.rested.atRest.not_due token ⟨id, htoken, hp⟩
        obtain ⟨journal, he⟩ :=
          World.cancelWith_of_not_started (traced κ) (World.honour (traced κ)) hnot
        exact ⟨journal, congrArg (fun world => { c with world }) he⟩
  opening destination login i hi := h.not_due_opening hi
  openSession _ _ destination login operation result c' hc method handle w₁ hlogin ho := by
    obtain ⟨-, op, hop, hcase⟩ := openSession_cases hc
    simp only [hlogin] at hcase
    refine ⟨op, hop, fun failure => ?_, ?_⟩
    · rw [hcase.1]
      exact World.openSession_fails_iff ho failure
    · exact h.heeds_opening ho fun o he => h.rested.lives_of_operation? (he ▸ hop)
  invoke session command operation result c' hc := by
    obtain ⟨s, op, hs, hop, rfl, rfl⟩ := invoke_cases hc
    refine ⟨s, op, hs, hop, fun channel hget ha => ?_⟩
    -- the operation is put back, which the world does not notice
    rw [(keepOperation_eq _ operation _).1, World.invoke_of_active hget ha]
    exact h.heeds hget ha .invokeCommand command fun o he =>
      h.rested.lives_of_operation? (he ▸ hop)
  closeSession session c' hc := by
    obtain ⟨s, hs, -⟩ := closeSession_cases hc
    refine ⟨s, hs, fun channel hget ha => ?_⟩
    exact h.heeds hget ha .closeSession 0 (by simp)

end Composed

end Client

open Client (traced)

/-- In every run of a client program on the recorded secure world, with faults, cancellations and
results to be replaced armed in any way before each call, and applications that may cancel the calls
that they serve: a request to cancel that is not due changes neither pages nor driver, and none is
due between two calls. Of the requests that a call meets the first that is due raises the flag of
the session and notifies it, and neither a later one is due nor one that is made while the session
is notified. If that happens while the slots are filled in the call fails without running anything,
and leaves page and session ready for the next one; otherwise the flag stays. It was lowered when
the call published its request, whatever happened before. -/
theorem requests_heeded {apps : Table Uuid (App κ)}
    {c : Client (Traced (Recorder (SecureWorld κ)))}
    (run : Client.Steps (traced κ) Traced.Rearmed (.start ⟨.start (.start apps), []⟩) c) :
    (∀ (w : World (Traced (Recorder (SecureWorld κ)))) token, ¬ w.Due token →
      ∃ journal, (w.honour (traced κ) token).2 = { w with journal }) ∧
    ∀ call t, Traced.Rearmed call c.world.driver t →
      (c.withDriver t).Heedful (traced κ) Traced.secure :=
  ⟨fun _ _ hnot => World.honour_of_not_due (traced κ) hnot,
    fun _ _ hr => (Client.composed_steps run hr).heedful⟩

/-! A command that is cancelled while its buffer is mapped, and one that is cancelled by the
application that serves it, and once more when its buffer is unmapped. -/

namespace Halted

/-- The application installed cancels every command that it serves. -/
def apps : Table Uuid (App Unit) := Table.ofList [(.nil, Restless.app)]

/-- The first command is cancelled when its buffer is mapped, and others when theirs is unmapped. -/
def arm (call : ClientCall) (t : Traced (Recorder (SecureWorld Unit))) :
    Traced (Recorder (SecureWorld Unit)) :=
  let t := t.enter (.call call)
  match call with
  | .invoke _ 1 _ => { t with inner := { t.inner with hooks := [⟨.map, 1, 0, "stop"⟩] } }
  | .invoke .. => { t with inner := { t.inner with hooks := [⟨.unmap, 1, 0, "stop"⟩] } }
  | _ => t

/-- A program that opens a session and has an operation with a buffer and a token. -/
def calls : List ClientCall :=
  [.openContext "tee" none .default, .openSession "tee" "session" .nil (0, none) none,
    .newOperation "op" ⟨.temporary .inout [1, 2], .unused, .unused, .unused⟩,
    .nameToken "stop" "op"]

/-- The client after the program. -/
def client? : Option (Client (Traced (Recorder (SecureWorld Unit)))) :=
  Client.performAll (traced Unit) arm (.start ⟨.start (.start apps), []⟩) calls

/-- The client that is about to invoke a command. -/
def ready (command : UInt32) (c : Client (Traced (Recorder (SecureWorld Unit)))) :
    Client (Traced (Recorder (SecureWorld Unit))) :=
  c.withDriver (arm (.invoke "session" command (some "op")) c.world.driver)

/-- The invocation of a command with the operation. -/
def invoked (command : UInt32) (c : Client (Traced (Recorder (SecureWorld Unit)))) :
    Option (Except Failure Origin × Client (Traced (Recorder (SecureWorld Unit)))) :=
  (ready command c).invoke (traced Unit) "session" command (some "op")

/-- The session of the program. -/
def channel : Channel := ⟨1, 0, true⟩

/-- The recorder is armed anew, and the call announced. -/
theorem rearmed_arm (call : ClientCall) (t : Traced (Recorder (SecureWorld Unit))) :
    Traced.Rearmed call t (arm call t) := by
  unfold arm
  simp only
  split
  · exact ⟨rfl, _, _, _, rfl⟩
  · exact ⟨rfl, _, _, _, rfl⟩
  · exact ⟨rfl, _, _, _, rfl⟩

/-- An invocation prolongs a run. -/
theorem steps_invoked {command : UInt32} {result : Except Failure Origin}
    {c₀ c c' : Client (Traced (Recorder (SecureWorld Unit)))}
    (run : Client.Steps (traced Unit) Traced.Rearmed c₀ c)
    (h : invoked command c = some (result, c')) :
    Client.Steps (traced Unit) Traced.Rearmed c₀ c' :=
  .call (.invoke "session" command (some "op")) _ run (rearmed_arm _ _)
    (congrArg (Option.map Prod.snd) h)

end Halted

/-- The first command is withdrawn, and runs nothing. The second finds nothing of that; its flag is
raised by the application, once. -/
theorem requests_heeded_halted : ∃ c failure c₁ result c₂, Halted.client? = some c ∧
    Halted.invoked 1 c = some (.error failure, c₁) ∧ Halted.invoked 2 c₁ = some (result, c₂) ∧
    c₁.world.driver.secure.runs = c.world.driver.secure.runs ∧
    (c₁.world.page 0).request = .zero ∧
    wakings c₁.world.driver.uses = 1 :: wakings c.world.driver.uses ∧
    (c₂.world.page 0).request.cancelled = true ∧
    wakings c₂.world.driver.uses = 1 :: wakings c₁.world.driver.uses := by
  obtain ⟨c, hc⟩ := Option.isSome_iff_exists.1
    (show Halted.client?.isSome = true by decide +kernel)
  obtain ⟨⟨r₁, c₁⟩, h₁⟩ := Option.isSome_iff_exists.1
    ((show ∀ c ∈ Halted.client?, (Halted.invoked 1 c).isSome = true by decide +kernel) c hc)
  obtain ⟨⟨r₂, c₂⟩, h₂⟩ := Option.isSome_iff_exists.1
    ((show ∀ c ∈ Halted.client?, ∀ x ∈ Halted.invoked 1 c, (Halted.invoked 2 x.2).isSome = true by
      decide +kernel) c hc _ h₁)
  have run : Client.Steps (traced Unit) Traced.Rearmed
      (.start ⟨.start (.start Halted.apps), []⟩) c :=
    Client.steps_performAll Halted.rearmed_arm hc
  have run₁ := Halted.steps_invoked run h₁
  -- the first command meets a request that is due when its buffer is mapped
  obtain ⟨⟨_, id⟩, op, hs, hop, heeds⟩ :=
    ((requests_heeded run).2 (.invoke "session" 1 (some "op")) _ (Halted.rearmed_arm _ _)).invoke
      _ _ _ _ _ h₁
  obtain ⟨hid, hget, hdue⟩ := (show ∀ c ∈ Halted.client?,
    ∀ s ∈ c.sessions.get? "session", ∀ op ∈ (Halted.ready 1 c).operation? (some "op"),
      s.channel = 0 ∧ c.world.channels.get? 0 = some Halted.channel ∧
      ((Call.askedFilling (traced Unit) 0 Halted.channel op (Halted.ready 1 c).world).any
        fun p => decide p.2.Due) = true by decide +kernel) c hc _ hs op hop
  obtain rfl : id = 0 := hid
  have heeds := heeds Halted.channel hget rfl
  obtain ⟨⟨slot, i⟩, hi, hdue⟩ := List.any_eq_true.1 hdue
  have hdue : i.Due := of_decide_eq_true hdue
  have hwithdrawn := heeds.withdrawn slot i hi hdue
  obtain ⟨failure, rfl⟩ : ∃ failure, r₁ = .error failure := by
    rcases hwithdrawn.fails with he | ⟨-, -, failure, -, -, -, he⟩
    · exact ⟨_, he⟩
    · exact ⟨failure, he⟩
  have hwoken := heeds.woken ⟨i, List.mem_append_left _ (List.mem_map.2 ⟨_, hi, rfl⟩), hdue⟩
  -- the second one is published with its flag lowered, and meets one that is due when it is served
  obtain ⟨⟨_, id⟩, op₂, hs₂, hop₂, heeds₂⟩ :=
    ((requests_heeded run₁).2 (.invoke "session" 2 (some "op")) _ (Halted.rearmed_arm _ _)).invoke
      _ _ _ _ _ h₂
  obtain ⟨hid₂, hget₂, hfilled, hdue₂⟩ := (show ∀ c ∈ Halted.client?, ∀ x ∈ Halted.invoked 1 c,
    ∀ s ∈ x.2.sessions.get? "session", ∀ op ∈ (Halted.ready 2 x.2).operation? (some "op"),
      s.channel = 0 ∧ x.2.world.channels.get? 0 = some Halted.channel ∧
      (Call.filling (traced Unit) 0 Halted.channel .invokeCommand 2 op
        (Halted.ready 2 x.2).world).1.isOk = true ∧
      ((Call.askedAnswering (traced Unit) 0 Halted.channel .invokeCommand 2 op
        (Halted.ready 2 x.2).world).any fun i => decide i.Due) = true by
          decide +kernel) c hc _ h₁ _ hs₂ op₂ hop₂
  obtain rfl : id = 0 := hid₂
  have heeds₂ := heeds₂ Halted.channel hget₂ rfl
  obtain ⟨i₂, hi₂, hdue₂⟩ := List.any_eq_true.1 hdue₂
  have hdue₂ : i₂.Due := of_decide_eq_true hdue₂
  have hwoken₂ := heeds₂.woken ⟨i₂, List.mem_append_right _ hi₂, hdue₂⟩
  rcases hf : Call.filling (traced Unit) 0 Halted.channel .invokeCommand 2 op₂
    (Halted.ready 2 c₁).world with ⟨failure' | held, w₁⟩
  · rw [hf] at hfilled
    cases hfilled
  · have hraised := (heeds₂.published held w₁ hf).2.1.2 ⟨i₂, hi₂, hdue₂⟩
    exact ⟨c, failure, c₁, r₂, c₂, hc, h₁, h₂, hwithdrawn.runs, hwithdrawn.request, hwoken, hraised,
      hwoken₂⟩

end TeeClient

import TeeClient.Proofs.Endings
import TeeClient.Proofs.Once.Runs
import TeeClient.Proofs.Protocol.Runs

/-!
# Sessions that break

A session breaks when the transport or the secure system fails after a request was published, and
not otherwise. From then on it takes no more calls, whatever the client does and whatever becomes of
the driver; and a session that breaks while it is opened is closed at the driver at once.

Main statements:

* `World.invoked`: when an invocation leaves its session inactive;
* `Client.spent_steps`: a session that is not active stays so in every run;
* `World.closedAgain_of_openSession_error`: an attempt that fails leaves none open at the driver;
* `sessions_break_for_good`: the three together.
-/

namespace TeeClient

variable {σ : Type}

namespace World

/-- What an invocation of a command on an active session comes to. -/
structure Invoked (D : Driver σ) (id : ChannelId) (channel : Channel) (command : UInt32)
    (op : Option Operation) (w : World σ) : Prop where
  /-- The session is left inactive exactly if the request was filled in, and the failure is one of
  the transport or of the secure system. -/
  inactive_iff : ∃ channel', (w.invoke D id command op).world.channels.get? id = some channel' ∧
    channel'.handle = channel.handle ∧ channel'.page = channel.page ∧
    (channel'.active = false ↔
      (Call.filling D id channel .invokeCommand command op w).1.isOk = true ∧
        ∃ failure, (w.invoke D id command op).result = .error failure ∧
          (failure.origin = .comms ∨ failure.origin = .tee))
  /-- The client itself has nothing to object to a request that was filled in. -/
  origin_ne_api : (Call.filling D id channel .invokeCommand command op w).1.isOk = true →
    ∀ failure, (w.invoke D id command op).result = .error failure → failure.origin ≠ .api

/-- The session was handed out, and is inactive if it is still there. -/
structure Spent (id : ChannelId) (w : World σ) : Prop where
  lt_fresh : id < w.channels.fresh
  inactive : ∀ channel, w.channels.get? id = some channel → channel.active = false

end World

/-- The session takes no more calls: each is refused and changes nothing, for the operation either,
and closing the session is left to the client alone. -/
structure Client.Retired (D : Driver σ) (id : ChannelId) (c : Client σ) : Prop where
  inactive : ∀ channel, c.world.channels.get? id = some channel → channel.active = false
  /-- The operation comes back as it was, and so does the world, with driver, pages and lifecycles.
  A driver that keeps the uses made of it has no more of them, so none is made. -/
  refused : ∀ command op,
    c.world.invoke D id command op = ⟨.error (.api .badState), op, c.world⟩
  /-- An invocation by the name of a session is refused, and leaves the client as it was. -/
  unchanged : ∀ session s, c.sessions.get? session = some s → s.channel = id →
    ∀ command operation op, c.operation? operation = some op →
      c.invoke D session command operation = some (.error (.api .badState), c)
  /-- No close instruction is carried, and the driver is not asked for anything. -/
  closed : ∀ channel, c.world.channels.get? id = some channel →
    c.world.closeSession D id = (c.world.log (.sessionClosed channel.handle)).forget id ∧
      (c.world.closeSession D id).driver = c.world.driver

/-- What an attempt to open a session asked of the driver, if the attempt failed: the driver refused
it; or it opened a session, which has since been closed, once. Sessions that are `awake` may have
been woken before. -/
inductive ClosedAgain (awake : Handle → Prop) (before after : List Use) : Prop
  | refused (e : DriverFault) (earlier : List Use) (woken : Woken awake before earlier)
    (uses : after = .openSession (.error e) :: earlier)
  | closed (handle : Handle) (earlier later : List Use) (woken : Woken awake before earlier)
    (uses : after = later ++ .openSession (.ok handle) :: earlier)
    (once : later.countP (Use.closes handle) = 1)

namespace World

variable {D : Driver σ} {id : ChannelId} {channel : Channel} {w w' : World σ}

/-! ## One invocation -/

/-- When an invocation leaves its session inactive. -/
theorem invoked (hget : w.channels.get? id = some channel) (ha : channel.active = true)
    (command : UInt32) (op : Option Operation) : w.Invoked D id channel command op := by
  obtain ⟨hbroken, hkept, -⟩ :=
    Call.get?_channels_carry D id channel .invokeCommand command op w
  have heq := invoke_of_active (D := D) hget ha command op
  constructor
  · rw [heq]
    simp only [← Failure.breaksSession_iff]
    -- the session is shut exactly if the call broke it
    by_cases hb : Call.Breaks D id channel .invokeCommand command op w
    · refine ⟨{ channel with active := false }, ?_, rfl, rfl, iff_of_true rfl hb⟩
      rw [hbroken hb, Channels.shut, if_pos rfl, hget]
      rfl
    · refine ⟨channel, ?_, rfl, rfl, iff_of_false ?_ hb⟩
      · rw [hkept hb]
        exact hget
      · rw [ha]
        exact nofun
  · rw [heq]
    exact fun hfilled failure => Call.origin_ne_api hfilled

/-! ## Inactive for good -/

namespace Spent

/-- A session is spent where it was spent before, if no session has come to life. -/
theorem of_get? (h : w.Spent id) (hfresh : w.channels.fresh ≤ w'.channels.fresh)
    (hget : ∀ channel', w'.channels.get? id = some channel' → ∃ channel,
      w.channels.get? id = some channel ∧ (channel.active = false → channel'.active = false)) :
    w'.Spent id where
  lt_fresh := Nat.lt_of_lt_of_le h.lt_fresh hfresh
  inactive channel' hc := by
    obtain ⟨channel, hch, ha⟩ := hget channel' hc
    exact ha (h.inactive channel hch)

/-- What leaves the sessions leaves the spent ones. -/
theorem congr (h : w.Spent id) (hc : w'.channels = w.channels) : w'.Spent id :=
  h.of_get? (Nat.le_of_eq (by rw [hc])) fun channel hch => ⟨channel, hc ▸ hch, fun ha => ha⟩

/-- A log record brings no session to life. -/
theorem log (h : w.Spent id) (r : Record) : (w.log r).Spent id := h.congr rfl

/-- Deactivating a session brings none to life. -/
theorem shut (h : w.Spent id) {other : ChannelId} (hfresh : w'.channels.fresh = w.channels.fresh)
    (hc : w'.channels.get? = Channels.shut w.channels.get? other) : w'.Spent id := by
  refine h.of_get? (Nat.le_of_eq hfresh.symm) fun channel' hch => ?_
  rw [hc] at hch
  unfold Channels.shut at hch
  split at hch
  · obtain ⟨channel, hget, rfl⟩ := Option.map_eq_some_iff.1 hch
    exact ⟨channel, hget, fun _ => rfl⟩
  · exact ⟨channel', hch, fun ha => ha⟩

/-- A call brings no session to life. -/
theorem carry (h : w.Spent id) (D : Driver σ) (other : ChannelId) (channel : Channel)
    (instruction : Instruction) (command : UInt32) (op : Option Operation) :
    (Call.carry D other channel instruction command op w).world.Spent id := by
  obtain ⟨hbroken, hkept, hfresh⟩ :=
    Call.get?_channels_carry D other channel instruction command op w
  by_cases hb : Call.Breaks D other channel instruction command op w
  · exact h.shut hfresh (hbroken hb)
  · exact h.congr (hkept hb)

/-- Taking a session down brings none to life. -/
theorem teardown (h : w.Spent id) (D : Driver σ) (other : ChannelId) :
    (w.teardown D other).Spent id :=
  h.shut (fresh_teardown other w) (channels_teardown other w)

/-- Forgetting a session brings none to life. -/
theorem forget (h : w.Spent id) (other : ChannelId) : (w.forget other).Spent id := by
  refine h.of_get? (Nat.le_of_eq (fresh_forget other w).symm) fun channel' hch => ?_
  rw [get?_channels_forget] at hch
  split at hch
  · cases hch
  · exact ⟨channel', hch, fun ha => ha⟩

/-- A session that the driver has just opened is another one. -/
theorem adopt (h : w.Spent id) (handle : Handle) (page : PageId) :
    (w.adopt handle page).Spent id := by
  refine h.of_get? (Nat.le_succ _) fun channel' hch => ?_
  rw [get?_channels_adopt, if_neg (Nat.ne_of_lt h.lt_fresh)] at hch
  exact ⟨channel', hch, fun ha => ha⟩

/-- Opening a session brings none to life but that one. -/
theorem openSession (h : w.Spent id) (D : Driver σ) (destination : Uuid)
    (method : ConnectionMethod) (op : Option Operation) :
    (w.openSession D destination method op).world.Spent id := by
  have hc := channels_onDesk D (D.openSession destination method.login w.pages.fresh)
    (w.offer destination)
  exact openSession_induction (P := fun w => w.Spent id) (fun _ r h => h.log r)
    (fun _ _ h => h.congr rfl) (fun _ handle page h => h.adopt handle page)
    (fun _ other channel h => h.carry D other channel .openSession 0 op)
    (fun _ other h => h.teardown D other) (fun _ other h => h.forget other) (h.congr hc)

/-- Invoking a command brings no session to life. -/
theorem invoke (h : w.Spent id) (D : Driver σ) (other : ChannelId) (command : UInt32)
    (op : Option Operation) : (w.invoke D other command op).world.Spent id := by
  obtain ⟨channel, -, -, hcall⟩ | ⟨-, hrefused⟩ := invoke_cases D other command op w
  · rw [hcall]
    exact h.carry D other channel .invokeCommand command op
  · rw [hrefused]
    exact h

/-- Closing a session brings none to life. -/
theorem closeSession (h : w.Spent id) (D : Driver σ) (other : ChannelId) :
    (w.closeSession D other).Spent id :=
  closeSession_induction (P := fun w => w.Spent id) (fun _ r h => h.log r)
    (fun channel h => h.carry D other channel .closeSession 0 none)
    (fun _ h => h.teardown D other) (fun _ h => h.forget other) h

end Spent

/-! ## Attempts that fail -/

/-- Some more uses were made, and this many of them close the session of the handle. -/
def Closes (handle : Handle) (before : List Use) (n : Nat) (after : List Use) : Prop :=
  ∃ later, after = later ++ before ∧ later.countP (Use.closes handle) = n

/-- Some more uses close a session once more, if one of them does. -/
theorem Closes.cons {handle : Handle} {before after : List Use} {n : Nat}
    (h : Closes handle before n after) (use : Use) :
    Closes handle before (n + (use.closes handle).toNat) (use :: after) := by
  obtain ⟨later, rfl, rfl⟩ := h
  refine ⟨use :: later, rfl, ?_⟩
  rw [List.countP_cons]
  cases use.closes handle <;> rfl

/-- The parts of a call close no session. -/
theorem partSafe_closes (D : Driver σ) (handle : Handle) (before : List Use) (n : Nat) :
    PartSafe (Traced.driver D) (fun _ _ => True)
      fun w : World (Traced σ) => Closes handle before n w.driver.uses := by
  refine Traced.partSafe D _ fun use uses hpart h => ?_
  have hcons := h.cons use
  cases use with
  | map | unmap | notify | wait | errorCode | wake => exact hcons
  | call | openDevice | closeDevice | openSession | closeSession => cases hpart

/-- Taking down a session that is active closes it at the driver. -/
theorem closes_teardown {D : Driver σ} {w : World (Traced σ)} {before : List Use} {n : Nat}
    (hget : w.channels.get? id = some channel) (ha : channel.active = true)
    (h : Closes channel.handle before n w.driver.uses) :
    Closes channel.handle before (n + 1) (w.teardown (Traced.driver D) id).driver.uses := by
  have hclosed := h.cons (.closeSession channel.handle)
  rw [show (Use.closeSession channel.handle).closes channel.handle = true from
    decide_eq_true rfl] at hclosed
  -- wake-ups while it is being closed close nothing
  have hwoken := Traced.of_woken (R := Closes channel.handle before (n + 1))
    (fun handle uses hu => hu.cons (.wake handle))
    (Traced.uses_enterBefore D (.closeSession channel.handle) (D.closeSession channel.handle)
      (w.onChannel id fun ch => { ch with active := false })) hclosed
  obtain hdown | ⟨e, hdown⟩ := teardown_of_active (D := Traced.driver D) hget ha <;> rw [hdown] <;>
    exact hwoken

/-- A call that fails, and the session taken down after it: it is closed at the driver once. -/
theorem closes_carry_teardown {D : Driver σ} {w : World (Traced σ)} {instruction : Instruction}
    {command : UInt32} {op : Option Operation} {failure : Failure}
    (hget : w.channels.get? id = some channel) (ha : channel.active = true)
    (hf : (Call.carry (Traced.driver D) id channel instruction command op w).result
      = .error failure) (r : Record) :
    Closes channel.handle w.driver.uses 1
      (((Call.carry (Traced.driver D) id channel instruction command op w).world.log r).teardown
        (Traced.driver D) id).driver.uses := by
  have hnone : Closes channel.handle w.driver.uses 0 (Call.begun id op w).driver.uses := by
    cases op <;> exact ⟨[], rfl, rfl⟩
  obtain ⟨after, e, hafter, hchannels, hending, he⟩ :=
    Call.carry_ending (partSafe_closes D channel.handle w.driver.uses 0) (fun _ _ _ _ _ => trivial)
      id channel instruction command hnone
  have hget' : after.channels.get? id = some channel := by rw [hchannels]; exact hget
  generalize (Call.filling _ id channel instruction command op w).1.isOk = filled at hending
  rw [he] at hf ⊢
  simp only at hf ⊢
  generalize hw₁ : (Call.ended op e.result e.world).log r = w₁
  have hd : w₁.driver = e.world.driver := by rw [← hw₁]; exact Call.driver_ended op _ _
  have hc : w₁.channels = e.world.channels := by rw [← hw₁]; exact Call.channels_ended op _ _
  -- it is open at the end of the call, unless the call has taken it down
  have hopen : e.world = after → Closes channel.handle w.driver.uses 1
      (w₁.teardown (Traced.driver D) id).driver.uses := by
    intro hworld
    rw [hworld] at hd hc
    exact closes_teardown (by rw [hc]; exact hget') ha (by rw [hd]; exact hafter)
  cases hending with
  | unfilled failure' op' => exact hopen rfl
  | answered origin op' => cases hf
  | reported failure' op' speaker => exact hopen rfl
  | broken failure' op' breaks =>
    rw [teardown_of_inactive, hd]
    · exact closes_teardown (w := after.log _) hget' ha hafter
    · intro ch hch
      rw [hc, get?_channels_teardown, if_pos rfl] at hch
      obtain ⟨ch', -, rfl⟩ := Option.map_eq_some_iff.1 hch
      rfl

/-- An attempt to open a session that fails leaves none open at the driver. -/
theorem closedAgain_of_openSession_error {D : Driver σ} {w : World (Traced σ)} {destination : Uuid}
    {method : ConnectionMethod} {op : Option Operation} {failure : Failure}
    (hf : (w.openSession (Traced.driver D) destination method op).result = .error failure) :
    ClosedAgain w.Hears w.driver.uses
      (w.openSession (Traced.driver D) destination method op).world.driver.uses := by
  obtain ⟨earlier, hw, hu⟩ := Traced.uses_enterAfter D .openSession
    (D.openSession destination method.login w.pages.fresh) (w.offer destination)
  rcases ho : (w.offer destination).onDesk (Traced.driver D)
    ((Traced.driver D).openSession destination method.login w.pages.fresh) with ⟨result, w₁⟩
  -- what comes after the answer of the driver depends on it
  rw [show World.onDesk _ (Traced.enterAfter _ _) _ = _ from ho] at hu
  cases result with
  | error e =>
    rw [openSession_of_error ho]
    refine .refused e earlier hw ?_
    simp only
    split
    · exact hu
    · exact hu
  | ok handle =>
    rw [openSession_of_ok ho] at hf ⊢
    simp only at hf ⊢
    split at hf
    · cases hf
    next failure' hcarried =>
      -- the session that was opened is closed again, by the call or when it is given up
      have hclosed := closes_carry_teardown (get?_channels_adopt_fresh handle w.pages.fresh w₁) rfl
        hcarried (.openRejected handle failure')
      rw [show (w₁.adopt handle w.pages.fresh).driver.uses = _ from hu] at hclosed
      obtain ⟨later, hlater, honce⟩ := hclosed
      refine .closed handle earlier later hw ?_ honce
      simp only [driver_forget]
      exact hlater

end World

namespace Client

variable {D : Driver σ} {id : ChannelId} {c c' : Client σ}

/-- No call brings a session back to life. -/
theorem spent_effect {call : ClientCall} (h : c.world.Spent id) (he : Effect D c c' call) :
    c'.world.Spent id := by
  cases he with
  | idle affairs => exact h.congr (congrArg Affairs.channels affairs)
  | openContext contexts new affairs entered => exact h.congr (congrArg Affairs.channels affairs)
  | closeContext held vacant affairs => exact h.congr (congrArg Affairs.channels affairs)
  | cancel other world =>
    rw [world]
    exact h.congr ((World.tolerates_channels D).cancelCall other c.world)
  | openSession method op held new world =>
    rw [world]
    exact h.openSession D _ method op
  | invoke s op named world =>
    rw [world]
    exact h.invoke D s.channel _ op
  | closeSession s named world =>
    rw [world]
    exact h.closeSession D s.channel

/-- A session that is not active stays so in every run. -/
theorem spent_steps {before : ClientCall → σ → σ → Prop} (run : Steps D before c c')
    (h : c.world.Spent id) : c'.world.Spent id :=
  run.preserves (P := fun c => c.world.Spent id)
    (fun _ _ _ driver h _ hp => spent_effect (c := Client.withDriver _ driver)
      (h.congr rfl) (effect_of_perform hp)) h

/-- An operation that comes back as it was leaves the client as it was. -/
theorem keepOperation_eq_self {operation : Option String} {op : Option Operation}
    (h : c.operation? operation = some op) : c.keepOperation operation op = c := by
  unfold keepOperation
  cases operation with
  | none => rfl
  | some name =>
    obtain ⟨o, ho, rfl⟩ := Option.map_eq_some_iff.1 h
    simp only [Table.set_eq_self ho]

/-- A spent session takes no more calls. -/
theorem retired_of_spent (h : c.world.Spent id) : c.Retired D id := by
  have refused : ∀ command op,
      c.world.invoke D id command op = ⟨.error (.api .badState), op, c.world⟩ := by
    intro command op
    exact World.invoke_of_inactive h.inactive command op
  refine ⟨h.inactive, refused, ?_, fun channel hget => ?_⟩
  · -- the operation is kept as it came back, which is as it was
    rintro session s hs rfl command operation op hop
    simp only [invoke, hs, hop, refused]
    exact congrArg (fun c => some (_, c)) (keepOperation_eq_self hop)
  · have hclosed := World.closeSession_of_inactive (D := D) hget (h.inactive channel hget)
    refine ⟨hclosed, ?_⟩
    rw [hclosed]
    exact World.driver_forget id _

end Client

/-- Whatever a driver does: a session breaks in exactly those calls in which the transport or the
secure system fails after the request was filled in; a session that is not active is refused every
later call, in every later state, whatever the client does in between and however the driver's own
state is changed before each call; and a session is not left open at the driver by an attempt to
open it that fails. -/
theorem sessions_break_for_good (D : Driver σ) :
    (∀ (w : World σ) (id : ChannelId) (channel : Channel) (command : UInt32)
      (op : Option Operation), w.channels.get? id = some channel → channel.active = true →
      w.Invoked D id channel command op) ∧
    (∀ (before : ClientCall → σ → σ → Prop) (c c' : Client σ) (id : ChannelId) (channel : Channel),
      c.world.channels.get? id = some channel → channel.active = false →
      Client.Steps D before c c' → c'.Retired D id) ∧
    ∀ (w : World (Traced σ)) (destination : Uuid) (method : ConnectionMethod)
      (op : Option Operation) (failure : Failure),
      (w.openSession (Traced.driver D) destination method op).result = .error failure →
      ClosedAgain w.Hears w.driver.uses
        (w.openSession (Traced.driver D) destination method op).world.driver.uses := by
  refine ⟨fun w id channel command op hget ha => World.invoked hget ha command op, ?_,
    fun w destination method op failure => World.closedAgain_of_openSession_error⟩
  intro before c c' id channel hget ha run
  refine Client.retired_of_spent (Client.spent_steps run ⟨Arena.lt_of_get? hget, fun ch hch => ?_⟩)
  rw [hget] at hch
  cases hch
  exact ha

/-! A session whose first command is not answered, beside one that is not opened. -/

namespace Silence

/-- A driver whose secure world answers the first notification only. -/
def device : Driver Nat where
  openDevice d := (.ok (), d)
  closeDevice d := (.ok (), d)
  openSession _ _ _ d := .done (.ok 7) d
  closeSession _ d := .done (.ok ()) d
  map _ _ len _ d := .done (.ok ⟨0, .ofNat len⟩) d
  unmap _ _ _ d := .done (.ok ()) d
  notify _ _ s := .done (.ok ()) ({ s with driver := s.driver + 1 }.onPage 0
    (·.setResult Origin.trustedApp.code Status.success))
  wait _ _ s := .done (if s.driver = 1 then .ok () else .error .timeout) s
  errorCode _ d := .done (.ok ExitCode.none) d

/-- A program that opens a session, where `calls` come next. -/
def client? (calls : List ClientCall) : Option (Client Nat) :=
  Client.performAll device (fun _ n => n) (.start 0)
    ([.openContext "tee" none .default,
      .newOperation "op" ⟨.value .input 1 2, .unused, .unused, .unused⟩,
      .openSession "tee" "session" .nil (0, none) none] ++ calls)

/-- What is tried after the first command. -/
def attempts : List ClientCall :=
  [.openSession "tee" "another" .nil (0, none) none, .invoke "session" 2 (some "op")]

/-- The channel of the session. -/
def channel : Channel := ⟨7, 0, true⟩

/-- A world in which the driver has been notified once. -/
def begun : World (Traced Nat) := .start ⟨1, []⟩

end Silence

/-- The first command breaks the session, the second is refused, and the other session is closed. -/
theorem sessions_break_for_good_silence :
    (∃ c, Silence.client? [] = some c ∧ c.world.channels.get? 0 = some Silence.channel ∧
      c.world.Invoked Silence.device 0 Silence.channel 1 c.operations.values.head?) ∧
    (∃ c c', Silence.client? [.invoke "session" 1 (some "op")] = some c ∧
      c.world.channels.get? 0 = some { Silence.channel with active := false } ∧
      c.performAll Silence.device (fun _ n => n) Silence.attempts = some c' ∧
      c'.Retired Silence.device 0) ∧
    ClosedAgain Silence.begun.Hears [] (Silence.begun.openSession (Traced.driver Silence.device)
      .nil .everyone none).world.driver.uses := by
  obtain ⟨hinvoked, hretired, hclosed⟩ := sessions_break_for_good Silence.device
  refine ⟨?_, ?_, hclosed Silence.begun .nil .everyone none (.comms .communication) ?_⟩
  · obtain ⟨c, hc⟩ := Option.isSome_iff_exists.1
      (show (Silence.client? []).isSome = true by decide +kernel)
    have hget : c.world.channels.get? 0 = some Silence.channel :=
      (show ∀ c ∈ Silence.client? [], c.world.channels.get? 0 = some Silence.channel by
        decide +kernel) c hc
    exact ⟨c, hc, hget, hinvoked c.world 0 Silence.channel 1 _ hget rfl⟩
  · obtain ⟨c, hc⟩ := Option.isSome_iff_exists.1
      (show (Silence.client? [.invoke "session" 1 (some "op")]).isSome = true by decide +kernel)
    have hget : c.world.channels.get? 0 = some { Silence.channel with active := false } :=
      (show ∀ c ∈ Silence.client? [.invoke "session" 1 (some "op")],
        c.world.channels.get? 0 = some { Silence.channel with active := false } by
          decide +kernel) c hc
    obtain ⟨c', hc'⟩ := Option.isSome_iff_exists.1
      ((show ∀ c ∈ Silence.client? [.invoke "session" 1 (some "op")],
        (c.performAll Silence.device (fun _ n => n) Silence.attempts).isSome = true by
          decide +kernel) c hc)
    have run : Client.Steps Silence.device (fun _ a b => a = b) c c' :=
      Client.steps_performAll (fun _ _ => rfl) hc'
    exact ⟨c, c', hc, hget, hc', hretired _ c c' 0 _ hget rfl run⟩
  · rfl

end TeeClient

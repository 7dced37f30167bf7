import TeeClient.Proofs.Containment
import TeeClient.Proofs.Direct.Runs

/-!
# Panics in the runs of a client

In every run of a client program a panic is contained: the call that it strikes fails in
communication and leaves nothing half done, and the other sessions do not notice. The handles of
sessions come from a counter that wraps around; as long as it has not, two active sessions have
different ones.

Main statements:

* `Trip.Leaves.contains`: what becomes of the world after a round trip with a panic;
* `panics_contained`: what is left of a call in which the application panics.
-/

namespace TeeClient

open SecureWorld

variable {κ : Type}

/-! ## Where the round trip begins -/

namespace World.Spared

variable {id : ChannelId} {channel : Channel} {w before : World (SecureWorld κ)}

/-- Where nothing is under way, all is spared by a session as it is. -/
theorem of_known (known : w.channels.get? id = some channel) (hrest : w.AtRest none) :
    w.Spared id channel w where
  own ch hch := by
    rw [known, Option.some.injEq] at hch
    exact hch ▸ ⟨rfl, rfl⟩
  aimed lifecycle l hl hp := by cases hrest lifecycle l hl hp
  channels _ _ := rfl
  pages _ _ := rfl
  driver := .refl _ _

/-- A log record does not matter, if there is one. -/
theorem logged (h : w.Spared id channel before) (r : Option Record) :
    (w.logged r).Spared id channel before := by
  cases r with
  | none => exact h
  | some r => exact h.log r

end World.Spared

namespace Client

variable {c c' : Client (SecureWorld κ)} {call : ClientCall} {t : Trip (SecureWorld κ)}

/-- Until a round trip begins, the call has spared all other sessions. -/
theorem Carries.spared (hc : c.Carries SecureWorld.driver call t) (hrest : c.world.AtRest none) :
    t.world.Spared t.id t.channel c.world := by
  cases hc with
  | @opening context session destination login operation method op handle w held new supported given
      admitted =>
    have hopened : (SecureWorld.openSession destination method.login c.world.pages.fresh
        (c.world.offer destination).desk).1 = .ok handle := congrArg Prod.fst admitted
    obtain rfl : _ = w := congrArg Prod.snd admitted
    refine ⟨fun ch hch => ?_, fun lifecycle l hl hp => ?_, fun other hne => ?_, fun page hne => ?_,
      spares_openSession (Prod.ext hopened rfl)⟩
    · rw [World.get?_channels_adopt_fresh, Option.some.injEq] at hch
      exact hch ▸ ⟨rfl, rfl⟩
    · cases hrest lifecycle l hl hp
    · exact (World.get?_channels_adopt _ _ _ _).trans (if_neg hne)
    · exact (Arena.get?_add _ _ _).trans (if_neg hne)
  | command named given known active => exact .of_known known hrest
  | closing named known active => exact .of_known known hrest

/-- Where a round trip begins, active sessions have their workers, as long as fewer sessions were
opened than there are handles. -/
theorem Carries.tended {apps : Table Uuid (App κ)} (hc : c.Carries SecureWorld.driver call t)
    (h : c.world.Tending apps (Terms.installed apps))
    (hlt : c.world.driver.usage.opens < UInt32.size) :
    (t.world.stage id).Tended := by
  cases hc with
  | opening held new supported given admitted =>
    exact (h.tended hlt).moves h.accorded
      (World.moves_opened hosts_driver h.accorded admitted (h.admits_vacant hlt _ _))
  | command | closing => exact h.tended hlt

/-- Where a client program has come between two calls, every worker is alive. -/
theorem manned_steps {apps : Table Uuid (App κ)}
    (run : Steps SecureWorld.driver (fun _ => SecureWorld.Rearmed) (.start (.start apps)) c) :
    (c.world.stage id).Manned := by
  have hbefore : ∀ (call : ClientCall) (w w' : SecureWorld κ), SecureWorld.Rearmed w w' →
      w'.staff = w.staff := by
    rintro call w w' ⟨faults, rfl⟩
    rfl
  refine (steady_steps hosts_driver hbefore run ⟨?_, ?_, ?_⟩).manned
  · exact (World.Tending.start apps (Terms.installed apps)).accorded
  · exact ⟨fun _ _ hw => (by cases hw), fun _ _ hw => (by cases hw),
      fun _ _ _ _ hw => (by cases hw)⟩
  · exact ⟨fun _ => ⟨0, List.nil_prefix⟩, fun _ _ hget => (by cases hget), fun _ _ => rfl⟩

end Client

/-! ## Where it ends -/

/-- What becomes of the world after a round trip with a panic: the session is closed, whether it is
forgotten or not, and all others are spared. -/
theorem Trip.Leaves.contains {t : Trip (SecureWorld κ)} {before w' : World (SecureWorld κ)}
    (hl : t.Leaves SecureWorld.driver w') (hc : t.Contained before) :
    w'.Spared t.id t.channel before ∧
      (∀ ch, w'.channels.get? t.id = some ch → ch.active = false) ∧
      w'.driver.sessions.get? t.channel.handle = none := by
  cases hl with
  | kept r keeps opens =>
    refine ⟨hc.spared.logged r, ?_, ?_⟩
    · rw [World.channels_logged]
      exact hc.inactive
    · rw [World.driver_logged]
      exact hc.closed
  | gone r r' leaves fails =>
    -- the session was taken down by the call, and is not taken down again
    rw [World.teardown_of_inactive (by rw [World.channels_logged]; exact hc.inactive)]
    refine ⟨((hc.spared.logged r).log r').forget, fun ch hch => ?_, ?_⟩
    · rw [World.get?_channels_forget, if_pos rfl] at hch
      cases hch
    · rw [World.driver_forget]
      show ((t.carry SecureWorld.driver).world.logged r).driver.sessions.get? _ = none
      rw [World.driver_logged]
      exact hc.closed

namespace Client

/-- A call returns in a client: one that opens a session or invokes a command with this failure, and
one that closes a session as ever. -/
inductive Returns {σ : Type} (D : Driver σ) (c : Client σ) (failure : Failure) :
    ClientCall → Client σ → Prop
  | openSession {context session : String} {destination : Uuid} {login : UInt32 × Option UInt32}
    {operation : Option String} {c' : Client σ}
    (fails : c.openSession D context session destination login operation
      = some (.error failure, c')) :
    Returns D c failure (.openSession context session destination login operation) c'
  | invoke {session : String} {command : UInt32} {operation : Option String} {c' : Client σ}
    (fails : c.invoke D session command operation = some (.error failure, c')) :
    Returns D c failure (.invoke session command operation) c'
  | closeSession {session : String} {c' : Client σ} (closes : c.closeSession D session = some c') :
    Returns D c failure (.closeSession session) c'

/-- What is left of a call in whose round trip the application panics. -/
structure Contained (c : Client (SecureWorld κ)) (t : Trip (SecureWorld κ))
    (c' : Client (SecureWorld κ)) : Prop where
  /-- The operations are as they were: their values, their references and their sizes. -/
  operations : c'.operations = c.operations
  /-- Nothing is mapped. -/
  unmapped : c'.world.driver.liveMappings = 0
  /-- The session takes no more calls, if it is left. -/
  inactive : ∀ ch, c'.world.channels.get? t.id = some ch → ch.active = false
  /-- The driver has closed the session. -/
  closed : c'.world.driver.sessions.get? t.channel.handle = none
  /-- What was armed for the end of a run is still to come. -/
  forcedResult : c'.world.driver.faults.forcedResult = c.world.driver.faults.forcedResult
  exitCode : c'.world.driver.faults.exitCode = c.world.driver.faults.exitCode
  /-- The other sessions are there as they were, active or not. -/
  channels : ∀ other, other ≠ t.id → c'.world.channels.get? other = c.world.channels.get? other
  /-- The pages of the other sessions are as they were. -/
  pages : ∀ other ch, other ≠ t.id → c.world.channels.get? other = some ch →
    c'.world.pages.get? ch.page = c.world.pages.get? ch.page
  /-- All workers under other handles are as they were: their instances, completions and error
  codes. -/
  workers : ∀ handle, handle ≠ t.channel.handle →
    c'.world.driver.sessions.get? handle = c.world.driver.sessions.get? handle
  /-- No other active session has the handle of this one, while handles last. -/
  apart : c.world.driver.usage.opens < UInt32.size → ∀ other ch, other ≠ t.id →
    c.world.channels.get? other = some ch → ch.active = true → ch.handle ≠ t.channel.handle

variable {c : Client (SecureWorld κ)} {call : ClientCall} {t : Trip (SecureWorld κ)}

/-- An operation that is put back as it was taken leaves all operations as they were. -/
theorem operations_keepOperation {σ : Type} {c : Client σ} {operation : Option String}
    {op : Option Operation} (world : World σ) (given : c.operation? operation = some op) :
    ({ c with world }.keepOperation operation op).operations = c.operations := by
  have hkept : { c with world }.keepOperation operation op = { c with world } :=
    keepOperation_eq_self given
  rw [hkept]

/-- How a call returns whose round trip fails. The operations are as before if that is how the round
trip left its own, and a call that does not close its session leaves the sessions by name. -/
theorem Carries.returns {failure : Failure} (hc : c.Carries SecureWorld.driver call t)
    (hresult : (t.carry SecureWorld.driver).result = .error failure) : ∃ c',
    c.Returns SecureWorld.driver failure call c' ∧ c.perform SecureWorld.driver call = some c' ∧
      ((t.carry SecureWorld.driver).operation = t.op → c'.operations = c.operations) ∧
      (t.instruction ≠ .closeSession → c'.sessions = c.sessions) := by
  obtain ⟨c', hp⟩ := hc.exists_perform
  have hcarries := hc
  cases hc with
  -- the result of the round trip is the one that the client program is told
  | @opening context session destination login operation method op handle w held new supported given
      admitted =>
    obtain ⟨⟨result, _⟩, hr, rfl⟩ := Option.map_eq_some_iff.1 hp
    obtain ⟨hfailed, hleft⟩ := hcarries.openSession_eq hr
    rw [hresult] at hfailed
    obtain rfl : result = .error failure := hfailed
    refine ⟨_, .openSession hr, hp, fun hop => ?_, fun _ => ?_⟩
    · rw [hleft, hop]
      exact operations_keepOperation _ given
    · rw [hleft]
      exact (afterOpening_eq c context session operation _).2.1
  | @command session command operation s op channel named given known active =>
    obtain ⟨⟨result, _⟩, hr, rfl⟩ := Option.map_eq_some_iff.1 hp
    obtain ⟨hfailed, hleft⟩ := hcarries.invoke_eq hr
    rw [hresult] at hfailed
    obtain rfl : result = .error failure := hfailed
    refine ⟨_, .invoke hr, hp, fun hop => ?_, fun _ => ?_⟩
    · rw [hleft, hop]
      exact operations_keepOperation _ given
    · rw [hleft]
      exact (keepOperation_eq _ operation _).2.1
  | @closing session s channel named known active =>
    obtain ⟨s', -, rfl⟩ := closeSession_cases hp
    exact ⟨_, .closeSession hp, hp, fun _ => rfl, fun h => absurd rfl h⟩

/-- What is left of a call with a panic, where nothing was under way when it began. -/
theorem Carries.contained {apps : Table Uuid (App κ)} (hc : c.Carries SecureWorld.driver call t)
    (htending : c.world.Tending apps (Terms.installed apps)) (hrest : c.world.AtRest none)
    (hmanned : (c.world.stage id).Manned) (hbare : c.world.driver.mappings.Covered .none)
    (hp : t.Panics SecureWorld.driver id) : ∃ c',
    c.Returns SecureWorld.driver (.comms .communication) call c' ∧ c.Contained t c' := by
  have hb := hc.boards hosts_driver htending.accorded
  have hcontained : t.Contained c.world := contained_of_panics hp hb.accorded
    (hmanned.moves hb.moves) hb.known hb.active (hc.spared hrest)
  obtain ⟨c', hreturns, hperform, hoperations, -⟩ := hc.returns hcontained.result
  obtain ⟨hspared, hinactive, hclosed⟩ := (hc.leaves hperform).contains hcontained
  have hunmapped : c'.world.driver.mappings.Covered .none :=
    keeps_driver.bare_effect (effect_of_perform hperform) hbare
  -- the other sessions were there when the round trip began
  have hthere : ∀ other ch, other ≠ t.id → c.world.channels.get? other = some ch →
      t.world.channels.get? other = some ch :=
    fun other ch hne hch => ((hc.spared hrest).channels other hne).trans hch
  refine ⟨c', hreturns, {
    operations := hoperations hcontained.operation
    unmapped := Table.size_eq_zero hunmapped.get?_eq_none
    inactive := hinactive
    closed := hclosed
    forcedResult := hspared.driver.forcedResult
    exitCode := hspared.driver.exitCode
    channels := hspared.channels
    pages := fun other ch hne hch => hspared.pages ch.page fun he => hne ?_
    workers := hspared.driver.workers
    apart := fun hlt other ch hne hch ha he => hne ?_ }⟩
  · exact hb.accorded.apart other t.id ch t.channel (hthere other ch hne hch) hb.known he
  · exact (hc.tended htending hlt).eq_of_handle_eq hb.accorded hb.known hb.active
      (hthere other ch hne hch) ha he

end Client

/-- In every run of a client program, with faults armed in any way before each call, a panic of an
application during a call is contained, at whatever step of whatever entry point: opening a session
or invoking a command fails in communication, and closing a session comes to its end. The operations
are as before the call, nothing is left mapped, and the session is inactive and closed at the
driver. A result or an exit code that is armed for the end of a run still is. Every other session is
as it was, with its page, its instance and its completions. -/
theorem panics_contained {apps : Table Uuid (App κ)} {c : Client (SecureWorld κ)}
    {driver : SecureWorld κ} {call : ClientCall} {t : Trip (SecureWorld κ)}
    (run : Client.Steps SecureWorld.driver (fun _ => SecureWorld.Rearmed) (.start (.start apps)) c)
    (armed : SecureWorld.Rearmed c.world.driver driver)
    (carries : (c.withDriver driver).Carries SecureWorld.driver call t)
    (panics : t.Panics SecureWorld.driver id) : ∃ c',
    (c.withDriver driver).Returns SecureWorld.driver (.comms .communication) call c' ∧
      (c.withDriver driver).Contained t c' := by
  have htending := (World.Tending.steps_installed run).rearmed armed
  have hmanned := Client.manned_steps run
  have hrest := (Client.rested_steps run).atRest
  have hbare := Client.bare_steps run
  obtain ⟨faults, rfl⟩ := armed
  exact carries.contained htending hrest hmanned hbare panics

/-! A panic on one of two sessions, while something is armed for the end of the run. -/

namespace Panicking

/-- An application that counts its commands. One of them it leaves half done: it has written to an
output and changed a value when it panics. -/
def app : App Nat where
  initial := 0
  opening n := .finish (.ok ()) n
  command number n := if number = 13 then
      .ask (.write 0 [7]) fun _ => .ask (.setValue 1 8 9) fun _ => .panic
    else .finish (.ok ()) (n + 1)
  closing n := .finish (.ok ()) n

/-- A program that uses two sessions, and builds an operation. -/
def calls : List ClientCall :=
  [.openContext "tee" none .default, .openSession "tee" "first" .nil (0, none) none,
    .openSession "tee" "second" .nil (0, none) none, .invoke "first" 5 none,
    .newOperation "op" ⟨.temporary .output [1, 2], .value .inout 5 6, .unused, .unused⟩]

/-- The client at the start. -/
def start : Client (SecureWorld Nat) := .start (.start (Table.ofList [(.nil, app)]))

/-- The client after the program. -/
def client? : Option (Client (SecureWorld Nat)) :=
  start.performAll SecureWorld.driver (fun _ driver => driver) calls

/-- A result and an exit code are armed. -/
def arm (w : SecureWorld Nat) : SecureWorld Nat :=
  { w with faults := { w.faults with forcedResult := some (4, 1), exitCode := some 3 } }

/-- The operation. -/
def operation : Operation :=
  ⟨⟨.temporary .output (some 0) 2, .value .inout 5 6, .unused, .unused⟩, 0⟩

/-- The round trip of the command that panics. -/
def trip (c : Client (SecureWorld Nat)) : Trip (SecureWorld Nat) :=
  ⟨1, ⟨2, 1, true⟩, .invokeCommand, 13, some operation, (c.withDriver (arm c.world.driver)).world⟩

end Panicking

/-- The command fails in communication. The operation does not show what was done before the panic,
what was armed still is, and the other session has counted its command. -/
theorem panics_contained_panicking : ∃ c c', Panicking.client? = some c ∧
    (c.withDriver (Panicking.arm c.world.driver)).invoke SecureWorld.driver "second" 13 (some "op")
      = some (.error (.comms .communication), c') ∧
    c'.operations.get? "op" = some Panicking.operation ∧
    c'.world.driver.faults.forcedResult = some (4, 1) ∧
    c'.world.driver.faults.exitCode = some 3 ∧
    (c'.world.driver.sessions.get? 1).map Worker.state = some 1 ∧
    c'.world.driver.sessions.get? 2 = none := by
  obtain ⟨c, hc⟩ := Option.isSome_iff_exists.1
    (show Panicking.client?.isSome = true by decide +kernel)
  obtain ⟨hsession, hop, hget, hcounted, hfilled, hdead⟩ := (show ∀ c ∈ Panicking.client?,
    (c.sessions.get? "second").map Session.channel = some 1 ∧
      c.operations.get? "op" = some Panicking.operation ∧
      c.world.channels.get? 1 = some ⟨2, 1, true⟩ ∧
      (c.world.driver.sessions.get? 1).map Worker.state = some 1 ∧
      ((Panicking.trip c).filling SecureWorld.driver).1.isOk = true ∧
      (((Panicking.trip c).waiting SecureWorld.driver).driver.sessions.get? 2).any
        (fun worker => worker.alive = false) = true by decide +kernel) c hc
  obtain ⟨⟨context, _⟩, hsession, rfl⟩ := Option.map_eq_some_iff.1 hsession
  obtain ⟨worker, hworker, hdead⟩ := (Option.any_eq_true _ _).1 hdead
  let armed := c.withDriver (Panicking.arm c.world.driver)
  have named : armed.sessions.get? "second" = some ⟨context, 1⟩ := hsession
  have given : armed.operation? (some "op") = some (some Panicking.operation) :=
    congrArg (Option.map some) hop
  have carries : armed.Carries SecureWorld.driver (.invoke "second" 13 (some "op"))
    (Panicking.trip c) := .command named given hget rfl
  have run : Client.Steps SecureWorld.driver (fun _ => SecureWorld.Rearmed)
      (.start (.start (Table.ofList [(.nil, Panicking.app)]))) c :=
    Client.steps_performAll (fun _ _ => ⟨_, rfl⟩) hc
  obtain ⟨c', returns, contained⟩ := panics_contained run ⟨_, rfl⟩ carries
    ⟨hfilled, worker, hworker, of_decide_eq_true hdead⟩
  cases returns with
  | invoke fails =>
    refine ⟨c, c', hc, fails, ?_, contained.forcedResult, contained.exitCode, ?_, contained.closed⟩
    · rw [contained.operations]
      exact hop
    · rw [contained.workers 1 (show (1 : Handle) ≠ 2 by decide)]
      exact hcounted

end TeeClient

import TeeClient.Proofs.Collecting
import TeeClient.Proofs.Containment.Runs
import TeeClient.Proofs.Secrecy.Calls

/-!
# Rejections reach the client

An application rejects a request by returning an error code. The code crosses the result words of
the page, the check of these words, and the classification of status codes; what the client is told
has the code that was returned, whichever it is, with the application as its origin. A code that the
layers below use for failures of their own does not break the session. The one code that does not
pass is that of success: an entry point that returns it has not rejected anything.

Main statements:

* `World.exchange_of_rejection`: a worker that rejects a request answers with its code;
* `rejected_of_rejects`: how a round trip ends whose request is rejected;
* `rejections_reach_client`: what the client is told, and what is left of the session.
-/

namespace TeeClient

open SecureWorld

variable {κ : Type}

/-- The application rejects the request of a round trip with a code: its worker finds the request
when it is notified, and the entry point returns the code as an error. An entry point that closes a
session has no result to report. -/
def Trip.Rejects (t : Trip (SecureWorld κ)) (code : Status) : Prop :=
  t.instruction ≠ .closeSession ∧ ∃ held w worker state,
    t.filling SecureWorld.driver = (.ok held, w) ∧
    Finds t.channel.handle worker t.instruction w.toShared ∧
    (w.performed t.channel.handle worker t.instruction).1 = some (.error code, state)

namespace Trip

variable {t : Trip (SecureWorld κ)} {code : Status}

/-- The code with which the application rejects the request of a round trip, if it does. -/
def rejection? (t : Trip (SecureWorld κ)) : Option Status :=
  match t.filling SecureWorld.driver with
  | (.error _, _) => none
  | (.ok _, w) => do
    let worker ← w.driver.sessions.get? t.channel.handle
    let found := !w.driver.faults.notify && worker.alive && (w.page worker.page).ready &&
      Instruction.ofRaw? (w.page worker.page).request.instruction == some t.instruction
    if t.instruction ≠ .closeSession ∧ found then
      match (w.performed t.channel.handle worker t.instruction).1 with
      | some (.error code, _) => some code
      | _ => none
    else none

/-- The code `rejection?` is the one that the entry point returns. -/
theorem rejection?_eq_some_iff : t.rejection? = some code ↔ t.Rejects code := by
  unfold rejection? Rejects
  rcases hf : t.filling SecureWorld.driver with ⟨failure | held, w⟩
  · exact ⟨nofun, fun ⟨_, _, _, _, _, hfilled, _⟩ => by cases hfilled⟩
  constructor
  · intro h
    obtain ⟨worker, hworker, h⟩ := Option.bind_eq_some_iff.1 h
    obtain ⟨⟨hreports, hfound⟩, h⟩ := Option.ite_none_right_eq_some.1 h
    simp only [Bool.and_eq_true, Bool.not_eq_true', beq_iff_eq] at hfound
    refine ⟨hreports, held, w, worker, ?_⟩
    split at h
    next state hends =>
      cases h
      exact ⟨state, rfl, ⟨hfound.1.1.1, hworker, hfound.1.1.2, hfound.1.2, hfound.2⟩, hends⟩
    next => cases h
  · rintro ⟨hreports, held', w', worker, state, hfilled, hfinds, hends⟩
    cases hfilled
    simp only [show w.driver.sessions.get? t.channel.handle = _ from hfinds.hired,
      Option.bind_eq_bind, Option.bind_some, show w.driver.faults.notify = _ from hfinds.heard,
      hfinds.alive, show (w.page worker.page).ready = _ from hfinds.ready,
      show Instruction.ofRaw? (w.page worker.page).request.instruction = _ from hfinds.known,
      hends]
    simp [hreports]

end Trip

/-! ## The answer -/

namespace World

variable {w w' : World (SecureWorld κ)} {handle : Handle} {worker : Worker κ}
  {instruction : Instruction} {code : Status} {state : κ}

/-- A program leaves the page of its session there. -/
theorem exists_page_performed (h : Finds handle worker instruction w.toShared)
    (hr : w.Reserved handle) :
    ∃ p, (w.performed handle worker instruction).2.pages.get? worker.page = some p := by
  obtain ⟨p, hp, -⟩ := exists_page_of_ready h.ready
  have htaken : (w.takenUp handle worker instruction).pages.get? worker.page
      = some p.consumeReady.2 := by
    show (w.pages.modify worker.page _).get? worker.page = _
    rw [Arena.get?_modify, if_pos rfl, show w.pages.get? worker.page = some p from hp]
    rfl
  have hthere : (((w.performed handle worker instruction).2.pages.get? worker.page).map
      Page.unflagged).map Page.unfilled
        = (((w.takenUp handle worker instruction).pages.get? worker.page).map
            Page.unflagged).map Page.unfilled := (touched_performed h hr).unfilled
  rw [htaken] at hthere
  obtain ⟨u, hu, -⟩ := Option.map_eq_some_iff.1 hthere
  obtain ⟨q, hq, -⟩ := Option.map_eq_some_iff.1 hu
  exact ⟨q, hq⟩

/-- A worker whose program returns an error code writes it into the page, unless other words are
armed. -/
theorem served_of_error (hreports : instruction ≠ .closeSession)
    (hended : w.performed handle worker instruction = (some (.error code, state), w')) :
    w.served handle worker instruction = w'.withShared (conclude handle worker.page
      Origin.trustedApp.code code state w'.toShared) := by
  unfold served
  rw [hended]
  cases instruction with
  | closeSession => exact absurd rfl hreports
  | openSession | invokeCommand => rfl

section Ended

variable (h : Finds handle worker instruction w.toShared) (hr : w.Reserved handle)
  (hreports : instruction ≠ .closeSession)
  (hended : w.performed handle worker instruction = (some (.error code, state), w'))
include h hr hreports hended

/-- The code is in the result words, with the application as its origin. -/
theorem page_of_error (hforced : w'.driver.faults.forcedResult = none) : ∃ p : Page,
    (w.served handle worker instruction).page worker.page
      = p.setResult Origin.trustedApp.code code := by
  obtain ⟨p, hp⟩ := exists_page_performed h hr
  rw [hended] at hp
  refine ⟨p, ?_⟩
  have hset : (w.served handle worker instruction).pages.get? worker.page
      = some (p.setResult (w'.driver.faults.forcedResult.getD (Origin.trustedApp.code, code)).1
        (w'.driver.faults.forcedResult.getD (Origin.trustedApp.code, code)).2) := by
    rw [served_of_error hreports hended]
    show (w'.pages.modify worker.page _).get? worker.page = _
    rw [Arena.get?_modify, if_pos rfl, hp]
    rfl
  rw [hforced] at hset
  exact Shared.page_of_get? hset

/-- The worker has one completion to deliver, which tells that the request was served. -/
theorem worker_of_error (hdrained : worker.completions = [])
    (hexit : w'.driver.faults.exitCode = none) : ∃ later,
    (w.served handle worker instruction).driver.sessions.get? handle = some later ∧
      later.alive = true ∧ later.completions = [.served] := by
  have hfound := worker_performed h hr
  rw [hended] at hfound
  rw [served_of_error hreports hended]
  refine ⟨_, get?_onWorker_self (w := { w'.driver with faults := _ }) hfound _, h.alive, ?_⟩
  show worker.completions ++ [if w'.driver.faults.exitCode.isSome then _ else _] = _
  rw [hdrained, hexit]
  rfl

/-- The exchange of a call succeeds whose request is rejected: the page has the code, and the worker
is there. -/
theorem exchange_of_rejection (hdrained : worker.completions = [])
    (hforced : w'.driver.faults.forcedResult = none) (hexit : w'.driver.faults.exitCode = none) :
    ∃ w₂, Call.exchange SecureWorld.driver handle w = (.ok (), w₂) ∧
      (∃ p : Page, w₂.page worker.page = p.setResult Origin.trustedApp.code code) ∧
      ∃ later, w₂.driver.sessions.get? handle = some later ∧ later.alive = true := by
  obtain ⟨later, hlater, halive, hqueued⟩ := worker_of_error h hr hreports hended hdrained hexit
  -- the wait delivers the completion
  have hwait : wait handle (w.served handle worker instruction).driver = (.ok (),
      ((w.served handle worker instruction).driver.count fun n =>
        { n with waits := n.waits + 1 }).onWorker handle
          fun worker => { worker with completions := [] }) := wait_of_cons hlater hqueued
  have hok : (wait handle (w.served handle worker instruction).driver).1 = .ok () :=
    congrArg Prod.fst hwait
  have hwaited : (w.served handle worker instruction).onShared SecureWorld.driver
      (SecureWorld.driver.wait handle none) = (.ok (),
        (w.served handle worker instruction).withDriver
          (wait handle (w.served handle worker instruction).driver).2) := Prod.ext hok rfl
  refine ⟨(w.served handle worker instruction).withDriver
    (wait handle (w.served handle worker instruction).driver).2, ?_,
    page_of_error h hr hreports hended hforced, ?_⟩
  · unfold Call.exchange
    rw [show w.onShared SecureWorld.driver (SecureWorld.driver.notify .call handle) = _ from
      onShared_notify_of_finds h]
    simp only [hwaited]
  · rw [show ((w.served handle worker instruction).withDriver _).driver = _ from
      congrArg Prod.snd hwait]
    exact ⟨_, get?_onWorker_self (w := (w.served handle worker instruction).driver.count _)
      hlater _, halive⟩

end Ended

end World

/-! ## The round trip -/

/-- How a round trip ends whose request is rejected: the failure has the code, with the application
as its origin, and the session is there as it was, at the driver as well. -/
structure Trip.Rejected (t : Trip (SecureWorld κ)) (code : Status) : Prop where
  result : ∃ failure, (t.carry SecureWorld.driver).result = .error failure ∧
    failure.code = code ∧ failure.origin = .trustedApp
  channels : (t.carry SecureWorld.driver).world.channels = t.world.channels
  manned : ∃ worker,
    (t.carry SecureWorld.driver).world.driver.sessions.get? t.channel.handle = some worker ∧
      worker.alive = true

variable {t : Trip (SecureWorld κ)} {code : Status} {before : World (SecureWorld κ)}

/-- A rejection is told, unless its code is that of success or something is armed for the end of the
run. -/
theorem rejected_of_rejects (hr : t.Rejects code) (hfails : code ≠ Status.success)
    (hacc : t.world.Accorded id) (hget : t.world.channels.get? t.id = some t.channel)
    (hactive : t.channel.active = true) (hspared : t.world.Spared t.id t.channel before)
    (hforced : before.driver.faults.forcedResult = none)
    (hexit : before.driver.faults.exitCode = none) : t.Rejected code := by
  obtain ⟨hreports, held, w₁, worker, state, hf, hfinds, hends⟩ := hr
  obtain ⟨hpage, hdrained⟩ : worker.page = t.channel.page ∧ worker.completions = [] := by
    rcases idle_or_finds_of_filling hacc hf with hidle | ⟨found, _, hpage, hdrained, hfound⟩
    · have := hidle worker hfinds.heard hfinds.hired hfinds.alive
      rw [hfinds.ready] at this
      cases this
    · obtain rfl : found = worker := Option.some.inj (hfound.hired.symm.trans hfinds.hired)
      exact ⟨hpage, hdrained⟩
  -- nothing was armed in the meantime
  rcases hended : w₁.performed t.channel.handle worker t.instruction with ⟨ended, w'⟩
  rw [hended] at hends
  obtain rfl : ended = some (.error code, state) := hends
  have hreserved := reserved_of_filling hacc hf hget hactive
  have hfilled : w₁.Spared t.id t.channel before := hspared.filled hf
  have hcalm : before.driver.Spares t.channel.handle w'.driver := by
    have := (hfilled.performed hpage (World.undisturbed_takenUp hfinds hreserved)).driver
    rw [hended] at this
    exact this
  obtain ⟨w₂, he, ⟨p, hp⟩, hworker⟩ := World.exchange_of_rejection hfinds hreserved hreports
    hended hdrained (hcalm.forcedResult.trans hforced) (hcalm.exitCode.trans hexit)
  rw [hpage] at hp
  -- the result that is collected is what the words say
  let collected := Call.collect SecureWorld.driver t.channel t.op held true w₂
  have hverdict : collected.1 = Call.verdict Origin.trustedApp.code code := by
    show Call.verdict (w₂.page t.channel.page).origin (w₂.page t.channel.page).status = _
    rw [hp]
    rfl
  have hconsistent : ¬ Call.Inconsistent Origin.trustedApp.code code := by
    rintro (h | h | h)
    · exact absurd h (by decide)
    · exact absurd h (by decide)
    · exact h.1 rfl
  obtain ⟨failure, hfailure, hcode, horigin⟩ :=
    (Call.told_verdict Origin.trustedApp.code code).failure hconsistent hfails
  have hkept : failure.breaksSession = false := by
    unfold Failure.breaksSession
    rw [horigin]
  have hround : Call.roundTrip SecureWorld.driver t.id t.channel t.instruction t.command t.op
      (Call.begun t.id t.op t.world) = ⟨.error failure, collected.2.1, collected.2.2⟩ := by
    rw [Call.roundTrip_eq_conclude hf, he]
    show Call.conclude t.id t.channel t.instruction collected.1 collected.2.1 collected.2.2 = _
    rw [hverdict, hfailure]
    simp only [Call.conclude, hkept, Bool.false_eq_true, if_false]
  have hcarry : t.carry SecureWorld.driver = _ :=
    Call.carry_eq SecureWorld.driver t.id t.channel t.instruction t.command t.op t.world
  simp only [hround] at hcarry
  refine ⟨⟨failure, by rw [hcarry], hcode, horigin⟩, ?_, ?_⟩
  · have hchannels := Call.channels_collected hf true
    rw [he] at hchannels
    rw [hcarry, Call.channels_ended]
    exact hchannels.trans (Call.channels_begun t.id t.op t.world)
  · rw [hcarry, Call.driver_ended]
    have hretained : Call.Retained w₂ collected.2.2 :=
      Call.collect_preserves (P := Call.Retained w₂) (fun _ _ hw => hw)
        (fun _ address info hw => hw.unmap t.channel.handle address info) ⟨rfl, rfl, rfl⟩
    rw [hretained.1]
    exact hworker

/-- What becomes of the world after a round trip whose request is rejected: a session that could not
be opened is gone, at the driver as well, and one that rejected a command is as it was. -/
theorem Trip.Leaves.rejected {w' : World (SecureWorld κ)} (hl : t.Leaves SecureWorld.driver w')
    (hr : t.Rejected code) (known : t.world.channels.get? t.id = some t.channel)
    (active : t.channel.active = true) :
    (t.instruction = .openSession → w'.driver.sessions.get? t.channel.handle = none ∧
      ∀ id, w'.channels.get? id = if id = t.id then none else t.world.channels.get? id) ∧
    (t.instruction = .invokeCommand → w'.channels = t.world.channels ∧ ∃ worker,
      w'.driver.sessions.get? t.channel.handle = some worker ∧ worker.alive = true) := by
  cases hl with
  | kept r keeps opens =>
    refine ⟨fun hopening => ?_, fun _ => ⟨?_, ?_⟩⟩
    · -- a session that is kept after its opening was not rejected
      obtain ⟨failure, hresult, -⟩ := hr.result
      have hok := opens hopening
      rw [hresult] at hok
      cases hok
    · rw [World.channels_logged, hr.channels]
    · rw [World.driver_logged]
      exact hr.manned
  | gone r r' leaves fails =>
    refine ⟨fun _ => ⟨?_, fun id => ?_⟩, fun h => absurd h leaves⟩
    · rw [World.driver_forget]
      refine World.sessions_teardown ?_ active
      rw [World.channels_logged, hr.channels]
      exact known
    · rw [World.get?_channels_forget]
      split
      · rfl
      · next hne =>
        show (World.teardown _ _ _).channels.get? id = _
        rw [World.get?_channels_teardown, if_neg hne, World.channels_logged, hr.channels]

/-! ## Calls of a client -/

namespace Client

/-- What is left of a call whose request the application rejects. -/
structure Rejected (c : Client (SecureWorld κ)) (t : Trip (SecureWorld κ))
    (c' : Client (SecureWorld κ)) : Prop where
  /-- The client has the sessions that it had, by name. -/
  sessions : c'.sessions = c.sessions
  /-- The client has the sessions that it had, by number: one that could not be opened is gone. -/
  channels : ∀ id, c'.world.channels.get? id = c.world.channels.get? id
  /-- The driver has closed a session that could not be opened. -/
  closed : t.instruction = .openSession →
    c'.world.driver.sessions.get? t.channel.handle = none
  /-- A session that rejected a command is still active. -/
  active : t.instruction = .invokeCommand →
    c'.world.channels.get? t.id = some t.channel ∧ t.channel.active = true
  /-- The driver still has a session that rejected a command, with its instance. -/
  manned : t.instruction = .invokeCommand → ∃ worker,
    c'.world.driver.sessions.get? t.channel.handle = some worker ∧ worker.alive = true

variable {c : Client (SecureWorld κ)} {call : ClientCall} {t : Trip (SecureWorld κ)} {code : Status}

/-- What is left of a call that is rejected, where nothing was under way when it began. -/
theorem Carries.rejected (hc : c.Carries SecureWorld.driver call t)
    (hreports : t.instruction ≠ .closeSession) (hacc : c.world.Accorded id)
    (hr : t.Rejected code) : ∃ failure c',
    c.Returns SecureWorld.driver failure call c' ∧ failure.code = code ∧
      failure.origin = .trustedApp ∧ c.Rejected t c' := by
  obtain ⟨failure, hresult, hcode, horigin⟩ := hr.result
  obtain ⟨c', hreturns, hperform, -, hsessions⟩ := hc.returns hresult
  refine ⟨failure, c', hreturns, hcode, horigin, ?_⟩
  have hb := hc.boards hosts_driver hacc
  obtain ⟨hopening, hcommand⟩ := (hc.leaves hperform).rejected hr hb.known hb.active
  refine ⟨hsessions hreports, fun id => ?_, fun h => (hopening h).1, fun h => ?_,
    fun h => (hcommand h).2⟩
  · cases hc with
    | @opening context session destination login operation method op handle w held new supported
        given admitted =>
      -- the session that was adopted is gone again
      have hadmitted : w.channels = c.world.channels := by
        have := World.channels_onDesk SecureWorld.driver
          (SecureWorld.driver.openSession destination method.login c.world.pages.fresh)
          (c.world.offer destination)
        rw [admitted] at this
        exact this
      rw [(hopening rfl).2 id, World.get?_channels_adopt, hadmitted]
      split
      next h => rw [h, Arena.get?_fresh]
      next => rfl
    | command named given known active => rw [(hcommand rfl).1]
    | closing named known active => exact absurd rfl hreports
  · rw [(hcommand h).1]
    exact ⟨hb.known, hb.active⟩

end Client

/-- In every run of a client program, with faults armed in any way before each call, a rejection by
the trusted application reaches the client if none is armed for the call: opening a session or
invoking a command fails with the code that the entry point returned, whatever code other than
success it is, and with the application as its origin. A session that was not opened is nowhere
left; one that rejected a command is still active. -/
theorem rejections_reach_client {apps : Table Uuid (App κ)} {c : Client (SecureWorld κ)}
    {calm : SecureWorld κ} {call : ClientCall} {t : Trip (SecureWorld κ)} {code : Status}
    (run : Client.Steps SecureWorld.driver (fun _ => SecureWorld.Rearmed) (.start (.start apps)) c)
    (armed : SecureWorld.Rearmed c.world.driver calm) (quiet : calm.Calm)
    (carries : (c.withDriver calm).Carries SecureWorld.driver call t)
    (rejects : t.Rejects code) (fails : code ≠ Status.success) : ∃ failure c',
    (c.withDriver calm).Returns SecureWorld.driver failure call c' ∧ failure.code = code ∧
      failure.origin = .trustedApp ∧ (c.withDriver calm).Rejected t c' := by
  have hacc := ((World.Tending.steps_installed run).rearmed armed).accorded
  have hrest : (c.withDriver calm).world.AtRest none := (Client.rested_steps run).atRest
  have hb := carries.boards hosts_driver hacc
  have hrejected : t.Rejected code := rejected_of_rejects rejects fails hb.accorded hb.known
    hb.active (carries.spared hrest)
    (congrArg ArmedFaults.forcedResult quiet) (congrArg ArmedFaults.exitCode quiet)
  exact carries.rejected rejects.1 hacc hrejected

/-! An application that rejects what it is asked for. -/

namespace Rejecting

/-- An application that returns a code as an error, on commands and, if it is strict, when a session
is opened. -/
def app (isStrict : Bool) (code : Status) : App Nat where
  initial := 0
  opening n := .finish (if isStrict then .error code else .ok ()) n
  command _ n := .finish (.error code) (n + 1)
  closing n := .finish (.ok ()) n

/-- The identity of the application that rejects sessions. -/
def strict : Uuid := { Uuid.nil with timeLow := 1 }

/-- A program that opens a session. -/
def calls : List ClientCall :=
  [.openContext "tee" none .default, .openSession "tee" "first" .nil (0, none) none]

/-- The client at the start, of applications that return a code. -/
def start (code : Status) : Client (SecureWorld Nat) :=
  .start (.start (Table.ofList [(.nil, app false code), (strict, app true code)]))

/-- The client after the program. -/
def client? (code : Status) : Option (Client (SecureWorld Nat)) :=
  (start code).performAll SecureWorld.driver (fun _ driver => driver) calls

/-- A session is opened with the application that rejects it. -/
def opening : ClientCall := .openSession "tee" "second" strict (0, none) none

/-- A command is invoked on the session that is open. -/
def command : ClientCall := .invoke "first" 7 none

end Rejecting

/-- A rejection with the code of a failure in communication is told as one of the application. No
session is opened, and the session that rejects the command is still active. -/
theorem rejections_reach_client_communication : ∃ c,
    Rejecting.client? FailureKind.communication.code = some c ∧
    (∃ failure c', c.openSession SecureWorld.driver "tee" "second" Rejecting.strict (0, none) none
        = some (.error failure, c') ∧ failure.code = FailureKind.communication.code ∧
      failure.origin = .trustedApp ∧ c'.sessions = c.sessions) ∧
    (∃ failure c' t, c.invoke SecureWorld.driver "first" 7 none = some (.error failure, c') ∧
      failure.code = FailureKind.communication.code ∧ failure.origin = .trustedApp ∧
      c.trip? SecureWorld.driver Rejecting.command = some t ∧
      c'.world.channels.get? t.id = some t.channel ∧ t.channel.active = true) := by
  obtain ⟨c, hc⟩ := Option.isSome_iff_exists.1
    (show (Rejecting.client? FailureKind.communication.code).isSome = true by decide +kernel)
  obtain ⟨quiet, hopening, hcommand, hinvokes⟩ := (show
    ∀ c ∈ Rejecting.client? FailureKind.communication.code,
      c.world.driver.faults = ⟨none, none, none, false, none, none⟩ ∧
      (c.trip? SecureWorld.driver Rejecting.opening).bind Trip.rejection?
        = some FailureKind.communication.code ∧
      (c.trip? SecureWorld.driver Rejecting.command).bind Trip.rejection?
        = some FailureKind.communication.code ∧
      ((c.trip? SecureWorld.driver Rejecting.command).map Trip.instruction)
        = some .invokeCommand by decide +kernel) c hc
  have run : Client.Steps SecureWorld.driver (fun _ => SecureWorld.Rearmed)
      (Rejecting.start FailureKind.communication.code) c :=
    Client.steps_performAll (fun _ driver => ⟨driver.faults, rfl⟩) hc
  have armed : SecureWorld.Rearmed c.world.driver c.world.driver := ⟨_, rfl⟩
  obtain ⟨t, hopens, hrejected⟩ := Option.bind_eq_some_iff.1 hopening
  obtain ⟨t', htrip, hrejected'⟩ := Option.bind_eq_some_iff.1 hcommand
  rw [htrip, Option.map_some, Option.some.injEq] at hinvokes
  have carries : c.Carries SecureWorld.driver Rejecting.opening t :=
    Client.trip?_eq_some_iff.1 hopens
  have carries' : c.Carries SecureWorld.driver Rejecting.command t' :=
    Client.trip?_eq_some_iff.1 htrip
  refine ⟨c, hc, ?_, ?_⟩
  · obtain ⟨failure, c', returns, code, origin, rejected⟩ := rejections_reach_client run armed quiet
      carries (Trip.rejection?_eq_some_iff.1 hrejected) (by decide)
    cases returns with
    | openSession fails => exact ⟨failure, c', fails, code, origin, rejected.sessions⟩
  · obtain ⟨failure, c', returns, code, origin, rejected⟩ := rejections_reach_client run armed quiet
      carries' (Trip.rejection?_eq_some_iff.1 hrejected') (by decide)
    cases returns with
    | invoke fails =>
      exact ⟨failure, c', t', fails, code, origin, htrip, rejected.active hinvokes⟩

/-- The code of success is not told as a rejection: a session is opened although the application
returned it as an error, and so does a command succeed. -/
theorem success_rejects_nothing : ∃ c, Rejecting.client? Status.success = some c ∧
    (∃ t id c', c.Carries SecureWorld.driver Rejecting.opening t ∧ t.Rejects Status.success ∧
      c.openSession SecureWorld.driver "tee" "second" Rejecting.strict (0, none) none
        = some (.ok id, c') ∧ c'.sessions.contains "second" = true) ∧
    (∃ t c', c.Carries SecureWorld.driver Rejecting.command t ∧ t.Rejects Status.success ∧
      c.invoke SecureWorld.driver "first" 7 none = some (.ok .trustedApp, c')) := by
  obtain ⟨c, hc⟩ := Option.isSome_iff_exists.1
    (show (Rejecting.client? Status.success).isSome = true by decide +kernel)
  obtain ⟨hopening, hcommand, hopened, hinvoked⟩ := (show
    ∀ c ∈ Rejecting.client? Status.success,
      (c.trip? SecureWorld.driver Rejecting.opening).bind Trip.rejection? = some Status.success ∧
      (c.trip? SecureWorld.driver Rejecting.command).bind Trip.rejection? = some Status.success ∧
      (c.openSession SecureWorld.driver "tee" "second" Rejecting.strict (0, none) none).map
        (fun r => (r.1.isOk, r.2.sessions.contains "second")) = some (true, true) ∧
      (c.invoke SecureWorld.driver "first" 7 none).map Prod.fst = some (.ok .trustedApp)
      by decide +kernel) c hc
  obtain ⟨t, hopens, hrejected⟩ := Option.bind_eq_some_iff.1 hopening
  obtain ⟨t', htrip, hrejected'⟩ := Option.bind_eq_some_iff.1 hcommand
  obtain ⟨⟨result, c₁⟩, hopen, hresult⟩ := Option.map_eq_some_iff.1 hopened
  obtain ⟨⟨_, c₂⟩, hinvoke, rfl⟩ := Option.map_eq_some_iff.1 hinvoked
  obtain ⟨hok, hthere⟩ := Prod.ext_iff.1 hresult
  refine ⟨c, hc, ?_, t', c₂, Client.trip?_eq_some_iff.1 htrip,
    Trip.rejection?_eq_some_iff.1 hrejected', hinvoke⟩
  cases result with
  | error failure => cases hok
  | ok id => exact ⟨t, id, c₁, Client.trip?_eq_some_iff.1 hopens,
      Trip.rejection?_eq_some_iff.1 hrejected, hopen, hthere⟩

end TeeClient

import TeeClient.SecureWorld.Basic

/-!
# Serving requests

A notification makes the worker of a session look at the session's page: if a request is published
there it consumes it, runs the entry point, writes the result words and queues a completion, which a
later wait delivers. A notification without a published request is ignored, whoever sends it.

An application that panics ends its worker: no result is written, no completion queued, and the
session can only be closed.
-/

namespace TeeClient

/-- Run a program of an application that serves the session of a page. The result is `none` if the
program panics. -/
def Program.run {κ : Type} (page : PageId) (login : Login) :
    Program κ → Shared (SecureWorld κ) →
      Reply (Shared (SecureWorld κ)) (Option (Except Status Unit × κ))
  | .finish result state, s => .done (some (result, state)) s
  | .panic, s => .done none s
  | .ask query next, s =>
    match query.answer s.driver.mappings login ⟨s.page page, s.memory⟩ with
    | none => .done none s
    | some (answer, chamber) =>
      (next answer).run page login
        { s.onPage page (fun _ => chamber.page) with memory := chamber.memory }
  | .cancel token next, s => .cancel token s fun outcome s => (next outcome).run page login s
  | .report event next, s => next.run page login (s.note event)

namespace SecureWorld

variable {κ : Type}

/-- End a run: write the result words, or those that are armed in their place, keep the state of the
instance and queue a completion. -/
def conclude (handle : Handle) (page : PageId) (origin status : UInt32) (state : κ)
    (s : Shared (SecureWorld κ)) : Shared (SecureWorld κ) :=
  -- what is armed for the end of a run is armed for one run
  let words := s.driver.faults.forcedResult.getD (origin, status)
  let exit := s.driver.faults.exitCode
  let faults := { s.driver.faults with forcedResult := none, exitCode := none }
  let done (worker : Worker κ) : Worker κ := { worker with
    state
    errorCode := exit.getD worker.errorCode
    completions := worker.completions ++ [if exit.isSome then .exited else .served] }
  let s := s.onPage page (·.setResult words.1 words.2)
  { s with driver := { s.driver with faults }.onWorker handle done }

/-- Enter a run of an entry point in the history. -/
def enter (run : Run) (s : Shared (SecureWorld κ)) : Shared (SecureWorld κ) :=
  { s with driver := { s.driver with runs := run :: s.driver.runs } }

/-- Serve the request that was published in the page of a session. -/
def serve (handle : Handle) (worker : Worker κ) (s : Shared (SecureWorld κ)) :
    Reply (Shared (SecureWorld κ)) Unit :=
  let request := (s.page worker.page).request
  match Instruction.ofRaw? request.instruction with
  | none =>
    .done () (conclude handle worker.page Origin.tee.code FailureKind.badParameters.code
      worker.state (s.log (.instructionUnknown request.instruction)))
  | some instruction =>
    ((worker.app.entry instruction request.command worker.state).run worker.page worker.login
      (enter ⟨handle, instruction, worker.page, s.page worker.page⟩ s)).bind fun ended s =>
        .done () <| match ended with
          | none => { s with driver := s.driver.onWorker handle fun w => { w with alive := false } }
          | some (result, state) =>
            -- the close entry point has no result to report
            let status := match instruction, result with
              | .closeSession, _ => Status.success
              | _, .ok () => Status.success
              | _, .error code => code
            conclude handle worker.page Origin.trustedApp.code status state s

/-- Count a notification, and refuse it if notifications are to fail. -/
def knock (w : SecureWorld κ) : Except DriverFault Unit × SecureWorld κ :=
  let w := w.count fun n => { n with notifies := n.notifies + 1 }
  (if w.faults.notify then .error (.device "notify failed") else .ok (), w)

/-- Count a notification of a session, and refuse it if notifications are to fail or if the session
has no worker that is alive. -/
def ring (handle : Handle) (w : SecureWorld κ) : Except DriverFault Unit × SecureWorld κ :=
  match knock w with
  | (.error e, w) => (.error e, w)
  | (.ok (), w) =>
    (if (w.sessions.get? handle).any (·.alive) then .ok () else .error (.invalidSession handle), w)

/-- The worker of a session looks at the session's page. If a request is published there it consumes
the mark and serves the request; otherwise the wake-up is ignored. A wake-up during a run waits
until the run is over: the mark was consumed before the run, and only the client sets it, so it is
ignored then as it is now. -/
def attend (handle : Handle) (s : Shared (SecureWorld κ)) : Reply (Shared (SecureWorld κ)) Unit :=
  match s.driver.sessions.get? handle with
  | none => .done () s
  | some worker =>
    if (s.page worker.page).ready then
      serve handle worker (s.onPage worker.page fun p => p.consumeReady.2)
    else .done () s

/-- Wake the worker of a session, which looks at the session's page at once. -/
def notify (handle : Handle) (s : Shared (SecureWorld κ)) :
    Reply (Shared (SecureWorld κ)) (Except DriverFault Unit) :=
  match ring handle s.driver with
  | (.error e, driver) => .done (.error e) { s with driver }
  | (.ok (), driver) => (attend handle { s with driver }).bind fun _ s => .done (.ok ()) s

/-- Deliver the oldest completion of a session. Where none is left and the worker is alive, the wait
ends by its limit; a wait without a limit would not end, and is reported in the same way. -/
def wait (handle : Handle) (w : SecureWorld κ) : Except DriverFault Unit × SecureWorld κ :=
  let w := w.count fun n => { n with waits := n.waits + 1 }
  match w.sessions.get? handle with
  | none => (.error (.invalidSession handle), w)
  | some worker =>
    match worker.completions with
    | [] => (.error (if worker.alive then .timeout else .invalidSession handle), w)
    | completion :: rest =>
      let w := w.onWorker handle fun worker => { worker with completions := rest }
      (match completion with
        | .served => .ok ()
        | .exited => .error .infoNotification, w)

end SecureWorld

end TeeClient

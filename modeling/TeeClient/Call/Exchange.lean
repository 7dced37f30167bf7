import TeeClient.World

/-!
# Waiting for the answer

`exchange` wakes the secure world and waits until it signals back. A driver that reports a condition
of the session instead is asked for the session's error code, and the code decides whether the call
may go on.
-/

namespace TeeClient.Call

variable {σ : Type} (D : Driver σ)

/-- What an error code means for the call: the record to enter, and the failure if it is one. -/
def judge (handle : Handle) (code : Int) : Record × Except Failure Unit :=
  -- an application that ended by itself has answered before
  if code = ExitCode.finished then (.applicationFinished handle, .ok ())
  else if code = ExitCode.killed then
    (.applicationKilled handle, .error ⟨.targetKilled, .tee⟩)
  else if code = ExitCode.invalidSession ∨ code = ExitCode.notActive then
    (.sessionUnknown handle code, .error (.comms .communication))
  else (.applicationDied handle code, .error ⟨.targetDead, .tee⟩)

/-- Ask for the session's error code and judge it. Without an answer nothing is taken to be
recorded. -/
def classify (handle : Handle) (w : World σ) : Except Failure Unit × World σ :=
  let (code, w) := match w.onDesk D (D.errorCode handle) with
    | (.ok code, w) => (code, w)
    | (.error e, w) => (ExitCode.none, w.log (.errorCodeUnavailable handle e))
  let (record, verdict) := judge handle code
  (verdict, w.log record)

/-- Wake the secure world and wait for its answer. -/
def exchange (handle : Handle) (w : World σ) : Except Failure Unit × World σ :=
  match w.onShared D (D.notify .call handle) with
  | (.error e, w) => (.error (.comms .communication), w.log (.notifyFailed handle e))
  | (.ok (), w) =>
    match w.onShared D (D.wait handle none) with
    | (.ok (), w) => (.ok (), w)
    | (.error .infoNotification, w) => classify D handle w
    | (.error e, w) => (.error (.comms .communication), w.log (.waitFailed handle e))

end TeeClient.Call

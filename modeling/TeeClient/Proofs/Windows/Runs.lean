import TeeClient.Proofs.Windows

/-!
# Memory in the runs of a client

In every run nothing is mapped when a call begins, so a call that opens a session or invokes a
command changes the client's memory in the output windows of its operation only. Faults may be armed
anew before each call, and applications may do what they like: forge the words of a slot, write
through slots that lend nothing, report sizes that do not fit, cancel, or panic on the way.

Main statements:

* `Client.bare_steps`: nothing is mapped between two calls;
* `memory_changes_in_output_windows`: what a call changes of the client's memory.
-/

namespace TeeClient

variable {κ : Type}

/-- The call opens a session or invokes a command, with the operation of that name or with none. -/
def ClientCall.Brings (operation : Option String) : ClientCall → Prop
  | .openSession _ _ _ _ name | .invoke _ _ name => name = operation
  | _ => False

namespace World

variable {w : World (SecureWorld κ)} {op : Option Operation}

/-- What a command changes. -/
theorem framed_invoke (hbare : w.driver.mappings.Covered .none) (id : ChannelId)
    (command : UInt32) (op : Option Operation) : w.memory.Framed (Operation.OutputWindow op)
      (w.invoke SecureWorld.driver id command op).world.memory := by
  obtain ⟨channel, -, -, hcall⟩ | ⟨-, hrefused⟩ :=
    invoke_cases SecureWorld.driver id command op w
  · rw [hcall]
    exact Call.framed_carry hbare id channel .invokeCommand command op
  · rw [hrefused]
    exact .refl _

/-- Nothing is mapped when the driver has opened a session. -/
theorem bare_adopt (hbare : w.driver.mappings.Covered .none) {destination : Uuid} {login : Login}
    {handle : Handle} {w₁ : World (SecureWorld κ)} (ho : (w.offer destination).onDesk
      SecureWorld.driver (SecureWorld.driver.openSession destination login w.pages.fresh)
        = (.ok handle, w₁)) :
    (w₁.adopt handle w.pages.fresh).driver.mappings.Covered .none := by
  have hopened := keeps_driver.sessionSafe_bare.openSession (w.offer destination) destination
    login w.pages.fresh hbare
  rw [ho] at hopened
  exact hopened

/-- What opening a session changes. -/
theorem framed_openSession (hbare : w.driver.mappings.Covered .none) (destination : Uuid)
    (method : ConnectionMethod) (op : Option Operation) :
    w.memory.Framed (Operation.OutputWindow op)
      (w.openSession SecureWorld.driver destination method op).world.memory := by
  have hmemory : ((w.offer destination).onDesk SecureWorld.driver (SecureWorld.driver.openSession
      destination method.login w.pages.fresh)).2.memory = w.memory := rfl
  cases ho : (w.offer destination).onDesk SecureWorld.driver
    (SecureWorld.driver.openSession destination method.login w.pages.fresh) with
  | mk result w₁ =>
    rw [ho] at hmemory
    rw [← show w₁.memory = w.memory from hmemory]
    cases result with
    | error e =>
      rw [openSession_of_error ho]
      simp only
      split <;> exact .refl _
    | ok handle =>
      have hcarry := Call.framed_carry (w := w₁.adopt handle w.pages.fresh) (bare_adopt hbare ho)
        w₁.channels.fresh ⟨handle, w.pages.fresh, true⟩ .openSession 0 op
      rw [openSession_of_ok ho]
      simp only
      split
      · exact hcarry
      · simp only [memory_forget]
        exact (memory_teardown _ _).symm ▸ hcarry

end World

namespace Client

/-- Nothing is mapped between two calls. -/
theorem bare_steps {apps : Table Uuid (App κ)} {c : Client (SecureWorld κ)}
    (run : Steps SecureWorld.driver (fun _ => SecureWorld.Rearmed) (.start (.start apps)) c) :
    c.world.driver.mappings.Covered .none := by
  refine run.preserves (P := fun c => c.world.driver.mappings.Covered .none) ?_ ?_
  · rintro c₁ c₂ call driver hc ⟨faults, rfl⟩ performed
    exact keeps_driver.bare_effect (effect_of_perform performed) hc
  · exact fun secureVa mapping hget => by cases hget

/-- What a call changes of the memory that begins where nothing is mapped. -/
theorem framed_perform {c c' : Client (SecureWorld κ)} {call : ClientCall}
    {operation : Option String} {op : Option Operation} (brings : call.Brings operation)
    (given : c.operation? operation = some op) (hbare : c.world.driver.mappings.Covered .none)
    (performed : c.perform SecureWorld.driver call = some c') :
    c.world.memory.Framed (Operation.OutputWindow op) c'.world.memory := by
  cases call with
  | openSession context session destination login name =>
    obtain rfl : name = operation := brings
    obtain ⟨⟨result, _⟩, hr, rfl⟩ := Option.map_eq_some_iff.1 performed
    obtain ⟨-, op', hop, hcase⟩ := openSession_cases hr
    rw [given, Option.some.injEq] at hop
    subst hop
    -- a login method that cannot be sent leaves the world with a record
    split at hcase
    · obtain ⟨-, journal, rfl⟩ := hcase
      exact .refl _
    · obtain ⟨-, rfl⟩ := hcase
      rw [(afterOpening_eq c context session name _).1]
      exact World.framed_openSession hbare destination _ op
  | invoke session command name =>
    obtain rfl : name = operation := brings
    obtain ⟨⟨result, _⟩, hr, rfl⟩ := Option.map_eq_some_iff.1 performed
    obtain ⟨s, op', -, hop, -, rfl⟩ := invoke_cases hr
    rw [given, Option.some.injEq] at hop
    subst hop
    rw [(keepOperation_eq _ name _).1]
    exact World.framed_invoke hbare s.channel command op
  | _ => exact brings.elim

end Client

/-- A call that opens a session or invokes a command keeps every piece of the client's memory and
its length. A byte is another after the call only if it lies in the bytes that a slot of the
operation lends, and data come back through that slot; so a range of memory that meets no such bytes
reads as before. -/
theorem memory_changes_in_output_windows {apps : Table Uuid (App κ)}
    {c c' : Client (SecureWorld κ)} {driver : SecureWorld κ} {call : ClientCall}
    {operation : Option String} {op : Option Operation}
    (run : Client.Steps SecureWorld.driver (fun _ => SecureWorld.Rearmed) (.start (.start apps)) c)
    (armed : SecureWorld.Rearmed c.world.driver driver) (brings : call.Brings operation)
    (given : c.operation? operation = some op)
    (performed : (c.withDriver driver).perform SecureWorld.driver call = some c') :
    (∀ id, (c'.world.memory.get? id).map List.length = (c.world.memory.get? id).map List.length) ∧
    (∀ id i, (c'.world.memory.bytes id)[i]? ≠ (c.world.memory.bytes id)[i]? →
      Operation.OutputWindow op id i) ∧
    ∀ address len, (∀ i, address.offset ≤ i → i < address.offset + len →
        ¬ Operation.OutputWindow op address.buffer i) →
      c'.world.memory.read address len = c.world.memory.read address len := by
  obtain ⟨faults, rfl⟩ := armed
  have hbare : c.world.driver.mappings.Covered .none := Client.bare_steps run
  have hframed : c.world.memory.Framed (Operation.OutputWindow op) c'.world.memory :=
    Client.framed_perform (c := c.withDriver { c.world.driver with faults }) brings given hbare
      performed
  refine ⟨hframed.length_eq, fun id i hdiffers => ?_, fun address len => hframed.read_eq⟩
  exact Classical.byContradiction fun hout => hdiffers (hframed.byte_eq id i hout)

/-! An application that forges the words of a slot in order to write to an input, and panics. -/

namespace Forgery

/-- An application that writes to the output in slot 1, and then tries the mapping of slot 0 by way
of slot 2. -/
def app : App Unit where
  initial := ()
  opening _ := .finish (.ok ()) ()
  command _ _ := .ask (.write 1 [7]) fun _ =>
    .ask (.setValue 2 SecureWorld.firstVa 4) fun _ => .ask (.write 2 [9, 9]) fun _ => .panic
  closing _ := .finish (.ok ()) ()

/-- A program that opens a session and builds an operation. -/
def calls : List ClientCall :=
  [.openContext "tee" none .default, .openSession "tee" "session" .nil (0, none) none,
    .newOperation "op" ⟨.temporary .input [1, 2, 3, 4], .temporary .output [0, 0],
      .value .inout 5 6, .unused⟩]

/-- The client after some calls. -/
def after (c : Client (SecureWorld Unit)) (calls : List ClientCall) :
    Option (Client (SecureWorld Unit)) :=
  c.performAll SecureWorld.driver (fun _ driver => driver) calls

/-- The client at the start. -/
def start : Client (SecureWorld Unit) := .start (.start (Table.ofList [(.nil, app)]))

/-- The command that the application serves. -/
def command : ClientCall := .invoke "session" 1 (some "op")

/-- The operation that the command carries. -/
def operation : Operation :=
  ⟨⟨.temporary .input (some 0) 4, .temporary .output (some 1) 2, .value .inout 5 6, .unused⟩, 0⟩

end Forgery

/-- The input reads as before. The output is changed in its first byte, which lies in its window. -/
theorem memory_changes_in_output_windows_forgery : ∃ c c',
    Forgery.after Forgery.start Forgery.calls = some c ∧
    c.operations.get? "op" = some Forgery.operation ∧
    (c.withDriver c.world.driver).perform SecureWorld.driver Forgery.command = some c' ∧
    c.world.memory.bytes 1 = [0, 0] ∧ c'.world.memory.bytes 1 = [7, 0] ∧
    Operation.OutputWindow (some Forgery.operation) 1 0 ∧
    c'.world.memory.read ⟨0, 0⟩ 4 = c.world.memory.read ⟨0, 0⟩ 4 := by
  obtain ⟨c, hc⟩ := Option.isSome_iff_exists.1
    (show (Forgery.after Forgery.start Forgery.calls).isSome = true by decide +kernel)
  obtain ⟨hbefore, hop, hperformed⟩ := (show ∀ c ∈ Forgery.after Forgery.start Forgery.calls,
    c.world.memory.bytes 1 = [0, 0] ∧ c.operations.get? "op" = some Forgery.operation ∧
      ((c.withDriver c.world.driver).perform SecureWorld.driver Forgery.command).any
        (fun c' => c'.world.memory.bytes 1 = [7, 0]) = true by decide +kernel) c hc
  obtain ⟨c', hc', hafter⟩ := (Option.any_eq_true _ _).1 hperformed
  have hafter := of_decide_eq_true hafter
  have run : Client.Steps SecureWorld.driver (fun _ => SecureWorld.Rearmed)
      (.start (.start (Table.ofList [(.nil, Forgery.app)]))) c :=
    Client.steps_performAll (fun _ _ => ⟨_, rfl⟩) hc
  obtain ⟨-, hbytes, hread⟩ := memory_changes_in_output_windows run ⟨_, rfl⟩
    (show Forgery.command.Brings (some "op") from rfl) (congrArg (Option.map some) hop) hc'
  refine ⟨c, c', hc, hop, hc', hbefore, hafter, hbytes 1 0 ?_, hread ⟨0, 0⟩ 4 ?_⟩
  · rw [hbefore, hafter]
    decide
  · -- data come back through slots 1 and 2, of which the one lends another buffer, the other none
    rintro i - - ⟨o, slot, ho, hwrites, address, len, hlent, hbuffer, -⟩
    cases ho
    match slot with
    | 0 => cases hwrites
    | 1 =>
      cases hlent
      cases hbuffer
    | 2 | 3 => cases hlent

end TeeClient

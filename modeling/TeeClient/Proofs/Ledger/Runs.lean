import Mathlib.Data.List.Nodup
import TeeClient.Proofs.Breakdown
import TeeClient.Proofs.Ledger

/-!
# Client and secure world agree on what is open

Between two calls the sessions that are open in the secure world are those that the client program
holds and can use, nothing is mapped, and every other session was closed once. Faults, cancellations
and results to be replaced may be armed anew before each call, and applications may panic.

Main statements:

* `Client.agreement_steps`: the ledger of the secure world agrees with the uses in every run;
* `World.length_handedOut_openSession`: a call hands out one handle at most;
* `client_agrees_with_secure_world`: what follows for the client.
-/

namespace TeeClient

variable {σ κ : Type}

/-- Right before a call the recorder is armed anew, and the call is entered among the uses. -/
def Traced.Rearmed (call : ClientCall) (t t' : Traced (Recorder (SecureWorld κ))) : Prop :=
  Traced.Announced call t t' ∧ Recorder.Rearmed t.inner t'.inner

namespace World

variable {D : Driver σ}

/-- A call on a session hands out no handle. -/
theorem callSafe_handedOut (D : Driver σ) (plans : Address → Nat → Prop) (handles : List Handle) :
    CallSafe (Traced.driver D) plans fun w => handedOut w.driver.uses = handles where
  toPartSafe := by
    refine Traced.partSafe D (R := fun uses => handedOut uses = handles) plans
      fun use uses hpart h => ?_
    cases use with
    | map | unmap | notify | wait | errorCode | wake => exact h
    | call | openDevice | closeDevice | openSession | closeSession => cases hpart
  onLifecycle _ _ _ h := h
  onChannel _ _ _ h := h
  closeSession w handle h :=
    Traced.of_woken (R := fun uses => handedOut uses = handles) (fun _ _ hu => hu)
      (Traced.uses_enterBefore D (.closeSession handle) (D.closeSession handle) w) h

/-- An attempt to open a session hands out one handle at most. -/
theorem length_handedOut_openSession (w : World (Traced σ)) (destination : Uuid)
    (method : ConnectionMethod) (op : Option Operation) :
    (handedOut (w.openSession (Traced.driver D) destination method op).world.driver.uses).length
      ≤ (handedOut w.driver.uses).length + 1 := by
  obtain ⟨uses, hw, hu⟩ := Traced.uses_enterAfter D .openSession
    (D.openSession destination method.login w.pages.fresh) (w.offer destination)
  have hwoken : handedOut uses = handedOut w.driver.uses :=
    Traced.of_woken (R := fun uses => handedOut uses = handedOut w.driver.uses) (fun _ _ h => h) hw
      rfl
  have hp : ∀ o, op = some o → ∀ address len, o.Plans address len → True :=
    fun _ _ _ _ _ => trivial
  generalize hresult : ((w.offer destination).onDesk (Traced.driver D) (Traced.enterAfter
    .openSession (D.openSession destination method.login w.pages.fresh))).1 = result at hu
  -- what comes after the answer hands out nothing
  rw [openSession_preserves_from
    (Q := fun t : Traced σ => handedOut t.uses = handedOut (.openSession result :: uses))
    (callSafe_handedOut D (fun _ _ => True) _) hp (congrArg handedOut hu)]
  cases result with
  | error e =>
    show (handedOut uses).length ≤ _
    rw [hwoken]
    exact Nat.le_succ _
  | ok handle =>
    show (handle :: handedOut uses).length ≤ _
    rw [hwoken]
    exact Nat.le_refl _

/-- The handle that was handed out by an attempt to open a session that failed was closed since. -/
theorem closed_of_openSession_error {w : World (Traced σ)} {destination : Uuid}
    {method : ConnectionMethod} {op : Option Operation} {failure : Failure}
    (hf : (w.openSession (Traced.driver D) destination method op).result = .error failure)
    {handle : Handle} (hnew : handle ∈ handedOut
      (w.openSession (Traced.driver D) destination method op).world.driver.uses)
    (hold : handle ∉ handedOut w.driver.uses) :
    0 < (w.openSession (Traced.driver D) destination method op).world.driver.uses.countP
      (Use.closes handle) := by
  have hclosed := closedAgain_of_openSession_error hf
  have hone := w.length_handedOut_openSession (D := D) destination method op
  have hwoken : ∀ {uses : List Use}, Woken w.Hears w.driver.uses uses →
      handedOut uses = handedOut w.driver.uses := fun hw =>
    Traced.of_woken (R := fun uses => handedOut uses = handedOut w.driver.uses) (fun _ _ h => h) hw
      rfl
  cases hclosed with
  | refused e earlier woken uses =>
    rw [uses] at hnew
    have hnew : handle ∈ handedOut earlier := hnew
    rw [hwoken woken] at hnew
    exact absurd hnew hold
  | closed opened earlier later woken uses once =>
    have handed : handedOut (later ++ .openSession (.ok opened) :: earlier)
        = handedOut later ++ opened :: handedOut w.driver.uses := by
      rw [← hwoken woken]
      exact List.filterMap_append
    rw [uses, handed] at hnew hone
    rw [uses, List.countP_append]
    -- there is room for one handle only
    have hlater : handedOut later = [] := by
      rw [List.length_append, List.length_cons] at hone
      exact List.length_eq_zero_iff.1 (by omega)
    rw [hlater, List.nil_append, List.mem_cons] at hnew
    obtain rfl := hnew.resolve_right hold
    omega

end World

namespace Client

/-- What is open is known on both sides alike, and all else was closed once. -/
structure Agrees (secure : σ → SecureWorld κ) (c : Client (Traced σ)) : Prop where
  /-- The sessions that are open in the secure world are those that the program can use. -/
  contains_iff : ∀ handle,
    (secure c.world.driver.inner).sessions.contains handle = true ↔ c.Holds handle
  unmapped : (secure c.world.driver.inner).liveMappings = 0
  /-- No handle was handed out twice, so each stands for one session. -/
  distinct : (handedOut c.world.driver.uses).Nodup
  closed_le_one : ∀ handle, c.world.driver.uses.countP (Use.closes handle) ≤ 1
  /-- A session was closed unless the program can use it. -/
  closed_iff : ∀ handle ∈ handedOut c.world.driver.uses,
    c.world.driver.uses.countP (Use.closes handle) = 1 ↔ ¬ c.Holds handle

variable {secure : σ → SecureWorld κ} {c : Client (Traced σ)}

/-- Client and secure world agree where the ledger does and the client is orderly. -/
theorem agrees_of_agreement
    (hl : Agreement (secure c.world.driver.inner).ledger c.world.driver.uses) (ho : Orderly c)
    (few : (handedOut c.world.driver.uses).length < UInt32.size) : c.Agrees secure := by
  -- a handle was handed out as often as it was closed, and once more while it is open
  have hcount : ∀ handle, (handedOut c.world.driver.uses).count handle
      = c.world.driver.uses.countP (Use.closes handle)
        + ((books c.world.driver.uses).sessions.contains handle).toNat := by
    intro handle
    rw [← countP_opens_eq_count]
    exact countP_opens ho.balanced.lawful (hl.distinctHandles few) handle
  refine ⟨fun handle => ?_, hl.size_mappings ho.balanced.settled, hl.nodup few, fun handle => ?_,
    fun handle hmem => ?_⟩
  · rw [← ho.contains_iff_holds, ← hl.sessions]
    rfl
  · have := hcount handle
    have := List.nodup_iff_count_le_one.1 (hl.nodup few) handle
    omega
  · -- it was handed out once, so it is open or was closed once
    have hone := hcount handle
    rw [List.count_eq_one_of_mem (hl.nodup few) hmem] at hone
    rw [← ho.contains_iff_holds]
    cases hc : (books c.world.driver.uses).sessions.contains handle with
    | true =>
      rw [hc, Bool.toNat_true] at hone
      simp only [not_true_eq_false, iff_false]
      omega
    | false =>
      rw [hc, Bool.toNat_false] at hone
      simp only [Bool.false_eq_true, not_false_eq_true, iff_true]
      omega

/-- The recorded secure world as a driver that keeps the uses made of it. -/
abbrev traced (κ : Type) : Driver (Traced (Recorder (SecureWorld κ))) :=
  Traced.driver (Recorder.driver SecureWorld.driver)

variable {c₀ c' : Client (Traced (Recorder (SecureWorld κ)))}

/-- The ledger agrees with the uses when a call was announced and the recorder armed anew. -/
theorem agreement_rearmed {call : ClientCall} {t t' : Traced (Recorder (SecureWorld κ))}
    (h : Agreement t.inner.inner.ledger t.uses) (hr : Traced.Rearmed call t t') :
    Agreement t'.inner.inner.ledger t'.uses := by
  obtain ⟨hcall, faults, hooks, overrides, hinner⟩ := hr
  rw [hinner, show t'.uses = _ from hcall]
  exact h.cons rfl rfl rfl

/-- The ledger of the secure world agrees with the uses in every run. -/
theorem agreement_steps (run : Steps (traced κ) Traced.Rearmed c₀ c')
    (h : Agreement c₀.world.driver.inner.inner.ledger c₀.world.driver.uses) :
    Agreement c'.world.driver.inner.inner.ledger c'.world.driver.uses := by
  have keeps := (keeps_driver (κ := κ)).recorder
  refine run.preserves
    (P := fun c => Agreement c.world.driver.inner.inner.ledger c.world.driver.uses) ?_ h
  intro c₁ c₂ call t h₁ hr hp
  exact keeps.agreement_effect (effect_of_perform hp) (agreement_rearmed h₁ hr)

/-- What opening a session comes to when it fails: the driver was not asked, or the attempt
failed. -/
theorem openSession_of_error {D : Driver σ} {c c' : Client σ} {context session : String}
    {destination : Uuid} {login : UInt32 × Option UInt32} {operation : Option String}
    {failure : Failure} (h : c.openSession D context session destination login operation
      = some (.error failure, c')) :
    c'.world.driver = c.world.driver ∨ ∃ method op,
      (c.world.openSession D destination method op).result = .error failure ∧
      c'.world = (c.world.openSession D destination method op).world := by
  obtain ⟨-, op, -, hcase⟩ := openSession_cases h
  cases hmethod : ConnectionMethod.ofRaw login.1 login.2 with
  | error fault =>
    simp only [hmethod] at hcase
    obtain ⟨-, journal, rfl⟩ := hcase
    exact .inl rfl
  | ok method =>
    simp only [hmethod] at hcase
    obtain ⟨hf, rfl⟩ := hcase
    exact .inr ⟨method, op, hf.symm, (afterOpening_eq c context session operation _).1⟩

end Client

open Client (traced)

/-- In every run of a client program on the recorded secure world, with any number of contexts and
sessions, faults and cancellations armed in any way before each call and applications that may fail
or panic, as long as fewer sessions are opened than there are handles: between two calls the
sessions open in the secure world are those that the program can use, no buffer is mapped, and every
session was closed once unless the program can use it. So was, when the call returned, every session
whose opening failed. -/
theorem client_agrees_with_secure_world {apps : Table Uuid (App κ)}
    {c : Client (Traced (Recorder (SecureWorld κ)))}
    (run : Client.Steps (traced κ) Traced.Rearmed (.start ⟨.start (.start apps), []⟩) c)
    (few : (handedOut c.world.driver.uses).length < UInt32.size) :
    c.Agrees Recorder.inner ∧
    ∀ context session destination login operation t failure c',
      Traced.Rearmed (.openSession context session destination login operation) c.world.driver t →
      (c.withDriver t).openSession (traced κ) context session destination login operation
        = some (.error failure, c') →
      (handedOut c'.world.driver.uses).length < UInt32.size →
      ∀ handle ∈ handedOut c'.world.driver.uses, handle ∉ handedOut c.world.driver.uses →
        c'.world.driver.uses.countP (Use.closes handle) = 1 := by
  have agrees : ∀ {c : Client (Traced (Recorder (SecureWorld κ)))},
      Client.Steps (traced κ) Traced.Rearmed (.start ⟨.start (.start apps), []⟩) c →
      (handedOut c.world.driver.uses).length < UInt32.size → c.Agrees Recorder.inner := by
    intro c run few
    have hl := Client.agreement_steps run Agreement.empty
    have ho := (Client.orderly_start _).steps (run.imp fun _ _ _ h => h.1)
      (hl.distinctHandles few)
    exact Client.agrees_of_agreement hl ho few
  refine ⟨agrees run few, ?_⟩
  intro context session destination login operation t failure c' hr hopen few' handle hnew hold
  have run' : Client.Steps (traced κ) Traced.Rearmed (.start ⟨.start (.start apps), []⟩) c' :=
    .call (.openSession context session destination login operation) t run hr
      (congrArg (Option.map Prod.snd) hopen)
  -- it was closed by then, and nothing is closed twice
  have hatMost := (agrees run' few').closed_le_one handle
  have hatLeast : 0 < c'.world.driver.uses.countP (Use.closes handle) := by
    have hold : handle ∉ handedOut t.uses := by
      rw [show t.uses = _ from hr.1]
      exact hold
    rcases Client.openSession_of_error hopen with hsame | ⟨method, op, hf, hworld⟩
    · rw [hsame] at hnew
      exact absurd hnew hold
    · rw [hworld] at hnew ⊢
      exact World.closed_of_openSession_error hf hnew hold
  omega

/-! Two contexts, a session whose application panics with a buffer lent to it, and one that is
rejected. -/

namespace Panic

/-- An application that panics on every command. -/
def fragile : App Unit where
  initial := ()
  opening _ := .finish (.ok ()) ()
  command _ _ := .panic
  closing _ := .finish (.ok ()) ()

/-- An application that accepts no session. -/
def closedShop : App Unit where
  initial := ()
  opening _ := .finish (.error 7) ()
  command _ _ := .finish (.ok ()) ()
  closing _ := .finish (.ok ()) ()

/-- The identity of the application that accepts no session. -/
def shop : Uuid := { Uuid.nil with timeLow := 1 }

/-- The applications installed. -/
def apps : Table Uuid (App Unit) := Table.ofList [(.nil, fragile), (shop, closedShop)]

/-- Before a command the unmapping of its buffer is made to fail, and a cancellation is due then. -/
def arm (call : ClientCall) (t : Traced (Recorder (SecureWorld Unit))) :
    Traced (Recorder (SecureWorld Unit)) :=
  let t := t.enter (.call call)
  match call with
  | .invoke .. => { t with inner := { t.inner with
      hooks := [⟨.unmap, 1, 0, "stop"⟩], overrides := [⟨.unmap, .timeout, 1⟩] } }
  | _ => t

/-- A program that opens two sessions and loses one. -/
def calls : List ClientCall :=
  [.openContext "tee" none .default, .openContext "spare" none .default,
    .newOperation "op" ⟨.temporary .inout [1, 2], .unused, .unused, .unused⟩,
    .nameToken "stop" "op",
    .openSession "tee" "lost" .nil (0, none) none,
    .openSession "spare" "kept" .nil (0, none) none, .invoke "lost" 1 (some "op")]

/-- The client after the program. -/
def client? : Option (Client (Traced (Recorder (SecureWorld Unit)))) :=
  Client.performAll (traced Unit) arm (.start ⟨.start (.start apps), []⟩) calls

/-- The call that comes next. -/
def call : ClientCall := .openSession "tee" "rejected" shop (0, none) none

/-- The result of an attempt to open a session that the application rejects, and the client after
it. -/
def rejected (c : Client (Traced (Recorder (SecureWorld Unit)))) :
    Option (Except Failure ChannelId × Client (Traced (Recorder (SecureWorld Unit)))) :=
  (c.withDriver (arm call c.world.driver)).openSession (traced Unit) "tee" "rejected" shop (0, none)
    none

/-- The recorder is armed anew, and the call announced. -/
theorem rearmed_arm (call : ClientCall) (t : Traced (Recorder (SecureWorld Unit))) :
    Traced.Rearmed call t (arm call t) := by
  unfold arm
  simp only
  split
  · exact ⟨rfl, _, _, _, rfl⟩
  · exact ⟨rfl, _, _, _, rfl⟩

end Panic

/-- The first session was closed when its application had panicked, the second is open and held by
the program, and the third was closed when it was rejected. -/
theorem client_agrees_with_secure_world_panic : ∃ c failure c', Panic.client? = some c ∧
    Panic.rejected c = some (.error failure, c') ∧ c.Agrees Recorder.inner ∧
    handedOut c.world.driver.uses = [2, 1] ∧ c.world.driver.inner.inner.sessions.keys = [2] ∧
    c.Holds 2 ∧ ¬ c.Holds 1 ∧ c'.world.driver.uses.countP (Use.closes 3) = 1 := by
  obtain ⟨c, hc⟩ := Option.isSome_iff_exists.1
    (show Panic.client?.isSome = true by decide +kernel)
  obtain ⟨handed, sessions⟩ := (show ∀ c ∈ Panic.client?,
    handedOut c.world.driver.uses = [2, 1] ∧ c.world.driver.inner.inner.sessions.keys = [2] by
      decide +kernel) c hc
  obtain ⟨hopen₂, hopen₁⟩ := (show ∀ c ∈ Panic.client?,
    c.world.driver.inner.inner.sessions.contains 2 = true ∧
      c.world.driver.inner.inner.sessions.contains 1 = false by decide +kernel) c hc
  have hrejected := (show ∀ c ∈ Panic.client?, (Panic.rejected c).any (fun r =>
    !r.1.isOk && handedOut r.2.world.driver.uses == [3, 2, 1]) = true by decide +kernel) c hc
  obtain ⟨⟨result, c'⟩, hopening, hfailed⟩ := (Option.any_eq_true _ _).1 hrejected
  rw [Bool.and_eq_true, beq_iff_eq] at hfailed
  obtain ⟨hfailed, handed'⟩ := hfailed
  cases result with
  | ok id => cases hfailed
  | error failure =>
    have run : Client.Steps (traced Unit) Traced.Rearmed
        (.start ⟨.start (.start Panic.apps), []⟩) c :=
      Client.steps_performAll Panic.rearmed_arm hc
    obtain ⟨agrees, closed⟩ := client_agrees_with_secure_world run (by rw [handed]; decide)
    have hthird := closed _ _ _ _ _ _ _ _ (Panic.rearmed_arm Panic.call c.world.driver) hopening
      (by rw [handed']; decide) 3 (by rw [handed']; decide) (by rw [handed]; decide)
    refine ⟨c, failure, c', hc, hopening, agrees, handed, sessions,
      (agrees.contains_iff 2).1 hopen₂, fun hheld => ?_, hthird⟩
    rw [(agrees.contains_iff 1).2 hheld] at hopen₁
    cases hopen₁

end TeeClient

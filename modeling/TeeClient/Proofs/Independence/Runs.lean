import TeeClient.Proofs.Direct.Runs
import TeeClient.Proofs.Independence.Calls
import TeeClient.Proofs.Secrecy.Runs

/-!
# Independent commands of a client

Two commands of a client program that go to different sessions, and carry different operations or
none, have no page, no worker and no lifecycle in common. What they do have in common is the driver:
its table of sessions, its table of mappings, the address it maps at next, its faults and what it
counts. If no fault is armed, only one of them maps a buffer, and no application cancels anything,
it does not matter which of them comes first.

Main statements:

* `Client.unshared_steps`: every session of a program has a number of its own, and every operation
  a lifecycle of its own;
* `Client.invoke_comm`: two commands at different seats can be exchanged;
* `independent_commands_commute`: in every run, independent commands can be exchanged.
-/

namespace TeeClient

variable {σ κ : Type} {D : Driver σ}

/-- Values may be replaced in either order. -/
theorem Table.set_comm_of_contains {α ι : Type} [DecidableEq ι] {t : Table ι α} {key other : ι}
    (hne : key ≠ other) (hkey : t.contains key = true) (hother : t.contains other = true)
    (value value' : α) :
    (t.set key value).set other value' = (t.set other value').set key value := by
  have hkeys : ∀ {key other : ι} (value value' : α), t.contains key = true →
      t.contains other = true → ((t.set key value).set other value').keys = t.keys := by
    intro key other value value' hkey hother
    have hstays : (t.set key value).contains other = true := by
      unfold contains at hother ⊢
      rw [get?_set]
      split
      · rfl
      · exact hother
    rw [keys_set_of_contains hstays, keys_set_of_contains hkey]
  -- the keys stay where they are, so only what is found under each counts
  refine eq_of_get?_eq t.nodup (hkeys value value' hkey hother ▸ .refl _)
    (hkeys value' value hother hkey ▸ .refl _) fun name => ?_
  simp only [get?_set]
  by_cases hname : name = other
  · rw [if_pos hname, if_neg fun he : name = key => hne (he.symm.trans hname), if_pos hname]
  · rw [if_neg hname, if_neg hname]

namespace Client

/-! ## Names -/

section Names

variable {c c' : Client σ} {call : ClientCall}

/-- Every session of the program has a number of its own, and every operation a lifecycle of its
own. -/
structure Unshared (c : Client σ) : Prop where
  numbered : ∀ {name s}, c.sessions.get? name = some s → s.channel < c.world.channels.fresh
  sessions : ∀ {name name' s s'}, c.sessions.get? name = some s →
    c.sessions.get? name' = some s' → s.channel = s'.channel → name = name'
  operations : ∀ {name name' op op'}, c.operations.get? name = some op →
    c.operations.get? name' = some op' → op.lifecycle = op'.lifecycle → name = name'

/-- An operation that comes back has the lifecycle of the one that was carried. -/
theorem lifecycle_keepOperation {operation : Option String} {op op₁ : Option Operation}
    {w : World σ} (given : c.operation? operation = some op)
    (hl : op₁.map Operation.lifecycle = op.map Operation.lifecycle) {name : String}
    {kept : Operation}
    (hkept : ({ c with world := w }.keepOperation operation op₁).operations.get? name = some kept) :
    ∃ before, c.operations.get? name = some before ∧ before.lifecycle = kept.lifecycle := by
  unfold keepOperation at hkept
  split at hkept
  next _ _ other back =>
    obtain ⟨before, hget, rfl⟩ := Option.map_eq_some_iff.1 given
    rw [Table.get?_set] at hkept
    split at hkept
    next he =>
      cases hkept
      exact ⟨before, he ▸ hget, (Option.some.inj hl).symm⟩
    · exact ⟨kept, hkept, rfl⟩
  · exact ⟨kept, hkept, rfl⟩

/-- Where an operation of the program comes from: it was there before the call, with its lifecycle,
or the call has built it with the next one. -/
theorem lifecycle_of_perform (hp : c.perform D call = some c') {name : String} {op : Operation}
    (hop : c'.operations.get? name = some op) :
    (∃ before, c.operations.get? name = some before ∧ before.lifecycle = op.lifecycle) ∨
      (∃ specs, call = .newOperation name specs) ∧ op.lifecycle = c.world.lifecycles.fresh := by
  cases call with
  | newOperation operation specs =>
    obtain ⟨memory, params, rfl⟩ := newOperation_cases hp
    rw [Table.get?_set] at hop
    split at hop
    next he =>
      cases hop
      exact .inr ⟨⟨specs, he ▸ rfl⟩, rfl⟩
    · exact .inl ⟨op, hop, rfl⟩
  | cancel =>
    obtain ⟨id, rfl⟩ := cancel_cases hp
    exact .inl ⟨op, hop, rfl⟩
  | closeSession session =>
    obtain ⟨s, -, rfl⟩ := closeSession_cases hp
    exact .inl ⟨op, hop, rfl⟩
  | openSession context session destination login operation =>
    obtain ⟨⟨result, _⟩, hr, rfl⟩ := Option.map_eq_some_iff.1 hp
    obtain ⟨-, given, hgiven, hcase⟩ := openSession_cases hr
    cases hmethod : ConnectionMethod.ofRaw login.1 login.2 with
    | error fault =>
      simp only [hmethod] at hcase
      obtain ⟨-, journal, rfl⟩ := hcase
      exact .inl ⟨op, hop, rfl⟩
    | ok method =>
      simp only [hmethod] at hcase
      obtain ⟨-, rfl⟩ := hcase
      refine .inl (lifecycle_keepOperation (w := (c.world.openSession D destination method
        given).world) hgiven (World.lifecycle_openSession (D := D) destination method given c.world)
        ?_)
      unfold afterOpening at hop
      split at hop <;> exact hop
  | invoke session command operation =>
    obtain ⟨⟨result, _⟩, hr, rfl⟩ := Option.map_eq_some_iff.1 hp
    obtain ⟨s, given, -, hgiven, -, rfl⟩ := invoke_cases hr
    exact .inl (lifecycle_keepOperation hgiven
      (World.lifecycle_invoke (D := D) s.channel command given c.world) hop)
  | dropOperation operation =>
    obtain ⟨⟨buffers, _⟩, hr, rfl⟩ := Option.map_eq_some_iff.1 hp
    obtain ⟨memory, rfl⟩ := dropOperation_cases hr
    rw [Table.get?_erase] at hop
    split at hop
    · cases hop
    · exact .inl ⟨op, hop, rfl⟩
  -- all other calls leave the operations
  | _ => exact .inl ⟨op, (operations_of_perform hp trivial).2 ▸ hop, rfl⟩

/-- Where a session of the program comes from: it was there before the call, or the call has opened
it under the next number. -/
theorem session_of_effect (he : Effect D c c' call) {name : String} {s : Session}
    (hs : c'.sessions.get? name = some s) :
    c.sessions.get? name = some s ∨
      (∃ context destination login operation,
        call = .openSession context name destination login operation) ∧
      s.channel = c.world.channels.fresh ∧ s.channel < c'.world.channels.fresh := by
  have haffair : c'.affairs.sessions = c.affairs.sessions → c.sessions.get? name = some s :=
    fun h => (show c'.sessions = c.sessions from h) ▸ hs
  cases he with
  | idle affairs => exact .inl (haffair (by rw [affairs]))
  | openContext contexts new affairs entered => exact .inl (haffair (by rw [affairs]))
  | closeContext held vacant affairs => exact .inl (haffair (by rw [affairs]))
  | cancel id world sessions contexts => exact .inl (sessions ▸ hs)
  | @openSession context session destination login operation method op held new world sessions _ =>
    rw [sessions] at hs
    split at hs
    next id hresult =>
      rw [Table.get?_set] at hs
      split at hs
      next hname =>
        cases hs
        obtain ⟨hid, hlt⟩ := World.openSession_eq_fresh hresult
        exact .inr ⟨⟨context, destination, login, operation, hname ▸ rfl⟩, hid, world ▸ hlt⟩
      · exact .inl hs
    · exact .inl hs
  | invoke s op named world sessions contexts => exact .inl (sessions ▸ hs)
  | closeSession s named world sessions contexts =>
    -- closing a session takes a name away and adds none
    rw [sessions, Table.get?_erase] at hs
    split at hs
    · cases hs
    · exact .inl hs

/-- Every call leaves the numbers and the lifecycles unshared. -/
theorem Unshared.perform (h : c.Unshared) (hrest : c.Rested) (hp : c.perform D call = some c')
    (hfresh : c.world.channels.fresh ≤ c'.world.channels.fresh) : c'.Unshared where
  numbered hs := by
    rcases session_of_effect (effect_of_perform hp) hs with hs | ⟨-, -, hlt⟩
    · exact Nat.lt_of_lt_of_le (h.numbered hs) hfresh
    · exact hlt
  -- what was there before has a smaller number than what is new, and one call brings one name
  sessions {name name' s s'} hs hs' he := by
    rcases session_of_effect (effect_of_perform hp) hs with hs | ⟨⟨_, _, _, _, hcall⟩, hnew, -⟩ <;>
      rcases session_of_effect (effect_of_perform hp) hs' with
        hs' | ⟨⟨_, _, _, _, hcall'⟩, hnew', -⟩
    · exact h.sessions hs hs' he
    · exact absurd (he.trans hnew') (Nat.ne_of_lt (h.numbered hs))
    · exact absurd (he.symm.trans hnew) (Nat.ne_of_lt (h.numbered hs'))
    · cases hcall.symm.trans hcall'
      rfl
  operations {name name' op op'} hop hop' he := by
    -- the next lifecycle is that of no operation, since each is kept as long as its operation
    have hlt : ∀ {name op}, c.operations.get? name = some op →
        op.lifecycle < c.world.lifecycles.fresh := by
      intro name op hop
      obtain ⟨l, hl⟩ := Option.isSome_iff_exists.1 (hrest.lives name op hop)
      exact Arena.lt_of_get? hl
    rcases lifecycle_of_perform hp hop with ⟨before, hbefore, hl⟩ | ⟨⟨specs, hcall⟩, hnew⟩ <;>
      rcases lifecycle_of_perform hp hop' with ⟨before', hbefore', hl'⟩ | ⟨⟨specs', hcall'⟩, hnew'⟩
    · exact h.operations hbefore hbefore' ((hl.trans he).trans hl'.symm)
    · exact absurd ((hl.trans he).trans hnew') (Nat.ne_of_lt (hlt hbefore))
    · exact absurd ((hl'.trans he.symm).trans hnew) (Nat.ne_of_lt (hlt hbefore'))
    · cases hcall.symm.trans hcall'
      rfl

end Names

/-- Every session of a program has a number of its own, and every operation a lifecycle of its
own. -/
theorem unshared_steps {apps : Table Uuid (App κ)} {c : Client (SecureWorld κ)}
    (run : Steps SecureWorld.driver (fun _ => SecureWorld.Rearmed) (.start (.start apps)) c) :
    c.Unshared := by
  refine (run.preserves (P := fun c => c.world.Accorded id ∧ c.Rested ∧ c.Unshared) ?_
    ⟨(World.Tending.start apps (Terms.installed apps)).accorded, rested_start _,
      fun hs => (by cases hs), fun hs => (by cases hs), fun hop => (by cases hop)⟩).2.2
  rintro c₁ c₂ call driver ⟨hacc, hrest, hunshared⟩ ⟨faults, rfl⟩ hp
  have hrest' : (c₁.withDriver { c₁.world.driver with faults }).Rested := hrest.of_same rfl rfl
  have hmoves := moves_effect (c := c₁.withDriver { c₁.world.driver with faults }) hosts_driver hacc
    (fun destination login => World.admits_any _ _ destination login _) (effect_of_perform hp)
  have hunshared' : (c₁.withDriver { c₁.world.driver with faults }).Unshared :=
    ⟨hunshared.numbered, hunshared.sessions, hunshared.operations⟩
  exact ⟨World.Accorded.moves hacc hmoves, hrest'.perform hp,
    hunshared'.perform hrest' hp hmoves.next_le⟩

/-! ## Two commands -/

section Commands

variable {c c₁ c₂ : Client (SecureWorld κ)} {session session' : String}
  {operation operation' : Option String}

/-- The channel of a session of the program, if it is active. -/
def channel? (c : Client σ) (session : String) : Option Channel :=
  (c.sessions.get? session).bind fun s => c.world.active? s.channel

/-- What a command holds when it has gone through the slots of its operation. -/
def gathered (D : Driver σ) (c : Client σ) (session : String) (operation : Option String) :
    Holdings :=
  match c.sessions.get? session, c.operation? operation with
  | some s, some op => c.world.gathered D s.channel op
  | _, _ => .none

/-- The command maps a buffer. -/
def Maps (D : Driver σ) (c : Client σ) (session : String) (operation : Option String) : Prop :=
  c.gathered D session operation ≠ .none

/-- A command that holds a buffer in the world of the client maps one. -/
theorem maps_of_gathered {D : Driver σ} {c : Client σ} {s : Session} {op : Option Operation}
    (named : c.sessions.get? session = some s) (given : c.operation? operation = some op)
    (hheld : c.world.gathered D s.channel op ≠ .none) : c.Maps D session operation := by
  unfold Maps gathered
  rw [named, given]
  exact hheld

/-- The application behind the session cancels nothing. -/
def CancelsNothing (c : Client (SecureWorld κ)) (session : String) : Prop :=
  ∀ channel ∈ c.channel? session, ∀ worker,
    c.world.driver.sessions.get? channel.handle = some worker → worker.app.CancelsNothing

/-- Where the application behind a session cancels nothing, neither does that behind its channel in
the world of the client. -/
theorem CancelsNothing.world (h : c.CancelsNothing session) {s : Session}
    (named : c.sessions.get? session = some s) : c.world.CancelsNothing s.channel :=
  fun channel hactive => h channel (Option.bind_eq_some_iff.2 ⟨s, named, hactive⟩)

/-- The sessions are active, and the driver knows both under one handle. -/
def ShareHandle (c : Client σ) (session session' : String) : Prop :=
  ∃ channel ∈ c.channel? session, ∃ channel' ∈ c.channel? session',
    channel.handle = channel'.handle

/-- The client without what was recorded of its past. -/
def withoutHistory (c : Client (SecureWorld κ)) : Client (SecureWorld κ) :=
  { c with world := c.world.withoutHistory }

/-- No two sessions share a handle before the handles have come round. -/
theorem not_shareHandle {apps : Table Uuid (App κ)} {terms : Terms κ} (h : c.Unshared)
    (htending : c.world.Tending apps terms) (hlt : c.world.driver.usage.opens < UInt32.size)
    (hne : session ≠ session') : ¬ c.ShareHandle session session' := by
  rintro ⟨channel, hchannel, channel', hchannel', he⟩
  obtain ⟨s, hs, hactive⟩ := Option.bind_eq_some_iff.1 hchannel
  obtain ⟨s', hs', hactive'⟩ := Option.bind_eq_some_iff.1 hchannel'
  obtain ⟨hget, ha⟩ := Option.filter_eq_some_iff.1 hactive
  obtain ⟨hget', ha'⟩ := Option.filter_eq_some_iff.1 hactive'
  exact hne (h.sessions hs hs' ((htending.tended hlt).eq_of_handle_eq htending.accorded hget' ha'
    hget ha he))

/-- That two commands carry different operations, or none, does not depend on their order. -/
theorem different_symm (h : operation = none ∨ operation ≠ operation') :
    operation' = none ∨ operation' ≠ operation := by
  rcases h with hnone | hne
  · exact (Classical.em (operation' = none)).imp_right fun hsome he => hsome (he.trans hnone)
  · exact .inr hne.symm

/-- Operations that are both there have different names. -/
theorem ne_of_different {name name' : String} (h : some name = none ∨ some name ≠ some name') :
    name ≠ name' := by
  rcases h with hnone | hne
  · cases hnone
  · exact fun he => hne (congrArg some he)

/-- Commands on different sessions with different operations, of which at most one maps a buffer,
have nothing in common. -/
theorem Unshared.apart (h : c.Unshared) (hacc : c.world.Accorded id) {s s' : Session}
    {op op' : Option Operation} (named : c.sessions.get? session = some s)
    (named' : c.sessions.get? session' = some s') (given : c.operation? operation = some op)
    (given' : c.operation? operation' = some op') (hsession : session ≠ session')
    (hoperation : operation = none ∨ operation ≠ operation')
    (hhandle : ¬ c.ShareHandle session session')
    (hmaps : ¬ (c.Maps SecureWorld.driver session operation ∧
      c.Maps SecureWorld.driver session' operation')) :
    (c.world.seat s.channel op (c.Maps SecureWorld.driver session operation)).Apart
      (c.world.seat s'.channel op' (c.Maps SecureWorld.driver session' operation')) where
  id he := hsession (h.sessions named named' he)
  page := by
    rintro _ ⟨channel, hactive, rfl⟩ ⟨channel', hactive', hpage⟩
    exact hsession (h.sessions named named' (hacc.apart s.channel s'.channel channel channel'
      (Option.filter_eq_some_iff.1 hactive).1 (Option.filter_eq_some_iff.1 hactive').1 hpage.symm))
  handle := by
    rintro _ ⟨channel, hactive, rfl⟩ ⟨channel', hactive', he⟩
    exact hhandle ⟨channel, Option.bind_eq_some_iff.2 ⟨s, named, hactive⟩, channel',
      Option.bind_eq_some_iff.2 ⟨s', named', hactive'⟩, he.symm⟩
  lifecycle := by
    intro lifecycle hl hl'
    obtain ⟨o, rfl, rfl⟩ := Option.map_eq_some_iff.1 hl
    obtain ⟨o', rfl, he⟩ := Option.map_eq_some_iff.1 hl'
    -- both carry an operation, so these have different names
    cases operation with
    | none => cases given
    | some name =>
      cases operation' with
      | none => cases given'
      | some name' =>
        obtain ⟨o, hget, ho⟩ := Option.map_eq_some_iff.1 given
        obtain ⟨o', hget', ho'⟩ := Option.map_eq_some_iff.1 given'
        cases ho
        cases ho'
        exact ne_of_different hoperation (h.operations hget hget' he.symm)
  lends hl hl' := hmaps ⟨hl, hl'⟩

/-- The client when a command has ended: the operation is put back. -/
def afterCommand (c : Client σ) (operation : Option String) (e : Call.End σ) : Client σ :=
  { c with world := e.world }.keepOperation operation e.operation

section After

variable {c : Client σ} {e e' f f' : Call.End σ}

/-- An invocation, when session and operation are known. -/
theorem invoke_eq {s : Session} {op : Option Operation} (named : c.sessions.get? session = some s)
    (given : c.operation? operation = some op) (command : UInt32) :
    c.invoke D session command operation = some ((c.world.invoke D s.channel command op).result,
      c.afterCommand operation (c.world.invoke D s.channel command op)) := by
  unfold invoke
  rw [named, given]
  rfl

/-- The world is that in which the command has ended. -/
theorem world_afterCommand : (c.afterCommand operation e).world = e.world :=
  (keepOperation_eq { c with world := e.world } operation e.operation).1

/-- A client has the same sessions after a command. -/
theorem sessions_afterCommand : (c.afterCommand operation e).sessions = c.sessions :=
  (keepOperation_eq { c with world := e.world } operation e.operation).2.1

/-- The operation is the one that came back. -/
theorem operation?_afterCommand {op : Option Operation} (given : c.operation? operation = some op)
    (hl : e.operation.map Operation.lifecycle = op.map Operation.lifecycle) :
    (c.afterCommand operation e).operation? operation = some e.operation :=
  operation?_keepOperation given hl

/-- After a command, operations of other names are as they were. -/
theorem operation?_afterCommand_of_ne (hne : operation' = none ∨ operation' ≠ operation) :
    (c.afterCommand operation e).operation? operation' = c.operation? operation' := by
  cases operation' with
  | none => rfl
  | some name =>
    unfold afterCommand keepOperation
    split
    next _ _ other op _ =>
      exact congrArg (Option.map some)
        ((Table.get?_set _ _ _ _).trans (if_neg (ne_of_different hne)))
    · rfl

/-- Operations of different names may be put back in either order. -/
theorem afterCommand_comm {op op' : Option Operation} (given : c.operation? operation = some op)
    (given' : c.operation? operation' = some op')
    (hne : operation = none ∨ operation ≠ operation') (hop : f'.operation = e.operation)
    (hop' : f.operation = e'.operation) (hworld : f.world = f'.world) :
    (c.afterCommand operation e).afterCommand operation' f
      = (c.afterCommand operation' e').afterCommand operation f' := by
  unfold afterCommand
  rw [hop, hop', hworld]
  -- there is something to show only if both put an operation back
  cases operation with
  | none => cases operation' <;> cases e'.operation <;> rfl
  | some name =>
    cases e.operation with
    | none => cases operation' <;> cases e'.operation <;> rfl
    | some o =>
      cases operation' with
      | none => rfl
      | some name' =>
        cases e'.operation with
        | none => rfl
        | some o' =>
          obtain ⟨before, hget, -⟩ := Option.map_eq_some_iff.1 given
          obtain ⟨before', hget', -⟩ := Option.map_eq_some_iff.1 given'
          exact congrArg (fun operations => ({ c with world := f'.world, operations } : Client σ))
            (Table.set_comm_of_contains (ne_of_different hne)
              (Table.contains_iff.2 ⟨before, hget⟩) (Table.contains_iff.2 ⟨before', hget'⟩) o o')

end After

/-- What was recorded of the past is no business of the operations. -/
theorem withoutHistory_afterCommand (c : Client (SecureWorld κ)) (e : Call.End (SecureWorld κ)) :
    (c.afterCommand operation e).withoutHistory
      = c.afterCommand operation { e with world := e.world.withoutHistory } := by
  obtain ⟨result, op, w⟩ := e
  cases operation <;> cases op <;> rfl

/-- Two clients were left by the same commands, made in opposite order: they differ at most in the
order in which the past was recorded since this client. -/
structure Exchanged (c c₁₂ c₂₁ : Client (SecureWorld κ)) : Prop where
  same : c₁₂.withoutHistory = c₂₁.withoutHistory
  journal : ∃ new new', c₁₂.world.journal = new' ++ (new ++ c.world.journal) ∧
    c₂₁.world.journal = new ++ (new' ++ c.world.journal)
  runs : ∃ new new', c₁₂.world.driver.runs = new' ++ (new ++ c.world.driver.runs) ∧
    c₂₁.world.driver.runs = new ++ (new' ++ c.world.driver.runs)

/-- Two commands at seats that have nothing in common can be exchanged. -/
theorem invoke_comm (hquiet : c.world.Quiet) {s s' : Session} {op op' : Option Operation}
    (named : c.sessions.get? session = some s) (named' : c.sessions.get? session' = some s')
    (given : c.operation? operation = some op) (given' : c.operation? operation' = some op')
    (hoperation : operation = none ∨ operation ≠ operation')
    (hapart : (c.world.seat s.channel op (c.Maps SecureWorld.driver session operation)).Apart
      (c.world.seat s'.channel op' (c.Maps SecureWorld.driver session' operation')))
    (hdiscreet : c.CancelsNothing session) (hdiscreet' : c.CancelsNothing session')
    {command command' : UInt32} {result result' : Except Failure Origin}
    (first : c.invoke SecureWorld.driver session command operation = some (result, c₁))
    (second : c.invoke SecureWorld.driver session' command' operation' = some (result', c₂)) :
    ∃ c₁₂ c₂₁,
      c₁.invoke SecureWorld.driver session' command' operation' = some (result', c₁₂) ∧
      c₂.invoke SecureWorld.driver session command operation = some (result, c₂₁) ∧
      c₁₂.operation? operation' = c₂.operation? operation' ∧
      c₂₁.operation? operation = c₁.operation? operation ∧ c.Exchanged c₁₂ c₂₁ := by
  have hexchanged := World.invoke_comm hquiet hapart command command'
    (maps_of_gathered named given) (maps_of_gathered named' given') (hdiscreet.world named)
    (hdiscreet'.world named')
  -- how each command ends at first
  rw [invoke_eq named given, Option.some.injEq, Prod.mk.injEq] at first
  rw [invoke_eq named' given', Option.some.injEq, Prod.mk.injEq] at second
  obtain ⟨rfl, rfl⟩ := first
  obtain ⟨rfl, rfl⟩ := second
  have hl := World.lifecycle_invoke (D := SecureWorld.driver) s.channel command op c.world
  have hl' := World.lifecycle_invoke (D := SecureWorld.driver) s'.channel command' op' c.world
  generalize c.world.invoke SecureWorld.driver s.channel command op = e at hexchanged hl
  generalize c.world.invoke SecureWorld.driver s'.channel command' op' = e' at hexchanged hl'
  -- and how it ends after the other
  have hstays : (c.afterCommand operation e).operation? operation' = some op' :=
    (operation?_afterCommand_of_ne (different_symm hoperation)).trans given'
  have hstays' : (c.afterCommand operation' e').operation? operation = some op :=
    (operation?_afterCommand_of_ne hoperation).trans given
  rw [invoke_eq (sessions_afterCommand ▸ named') hstays, world_afterCommand,
    invoke_eq (sessions_afterCommand ▸ named) hstays', world_afterCommand]
  obtain ⟨⟨hresult, hop⟩, ⟨hresult', hop'⟩, hsame, hjournal, hruns⟩ := hexchanged
  generalize e.world.invoke SecureWorld.driver s'.channel command' op' = f
    at hresult' hop' hsame hjournal hruns
  generalize e'.world.invoke SecureWorld.driver s.channel command op = f'
    at hresult hop hsame hjournal hruns
  refine ⟨_, _, by rw [hresult'], by rw [hresult], ?_, ?_, ?_, ?_, ?_⟩
  · rw [operation?_afterCommand hstays (hop' ▸ hl'), operation?_afterCommand given' hl', hop']
  · rw [operation?_afterCommand hstays' (hop ▸ hl), operation?_afterCommand given hl, hop]
  · rw [withoutHistory_afterCommand, withoutHistory_afterCommand]
    exact afterCommand_comm given given' hoperation hop hop' hsame
  · rw [world_afterCommand, world_afterCommand]
    exact hjournal
  · rw [world_afterCommand, world_afterCommand]
    exact hruns

/-- Where no application that is installed cancels anything, none behind a session does. -/
theorem cancelsNothing_of_installed {apps : Table Uuid (App κ)}
    (htending : c.world.Tending apps (Terms.installed apps))
    (hlt : c.world.driver.usage.opens < UInt32.size)
    (hall : ∀ uuid app, apps.get? uuid = some app → app.CancelsNothing) (session : String) :
    c.CancelsNothing session := by
  intro channel hchannel worker hworker
  obtain ⟨s, -, hactive⟩ := Option.bind_eq_some_iff.1 hchannel
  obtain ⟨hget, ha⟩ := Option.filter_eq_some_iff.1 hactive
  obtain ⟨worker', p, hattended, happ⟩ :=
    htending.attended hget ha fun hge => absurd hlt (Nat.not_lt.2 hge)
  rw [hattended.known, Option.some.injEq] at hworker
  exact hworker ▸ hall p.destination worker'.app happ

end Commands

end Client

/-- In every run of a client program, with faults armed in any way before each call but none now,
two commands that go to different sessions and carry different operations, or none, can be
exchanged, if at most one of them maps a buffer and the applications that serve them cancel nothing:
each ends with the same result and the same operation, whether it comes first or second, and however
it ends, and the client is left in the same state with its world, its pages, its instances, its
sessions, its memory and its counters. What was recorded of the past is the same up to order. Only
when as many sessions were opened as there are handles can the driver have given two of them the
same one, and these cannot count as different. -/
theorem independent_commands_commute {apps : Table Uuid (App κ)}
    {c c₁ c₂ : Client (SecureWorld κ)} {driver : SecureWorld κ} {session session' : String}
    {command command' : UInt32} {operation operation' : Option String}
    {result result' : Except Failure Origin}
    (run : Client.Steps SecureWorld.driver (fun _ => SecureWorld.Rearmed) (.start (.start apps)) c)
    (armed : SecureWorld.Rearmed c.world.driver driver) (calm : driver.Calm)
    (sessions : session ≠ session') (operations : operation = none ∨ operation ≠ operation')
    (handles : UInt32.size ≤ driver.usage.opens →
      ¬ (c.withDriver driver).ShareHandle session session')
    (maps : ¬ ((c.withDriver driver).Maps SecureWorld.driver session operation ∧
      (c.withDriver driver).Maps SecureWorld.driver session' operation'))
    (discreet : (c.withDriver driver).CancelsNothing session)
    (discreet' : (c.withDriver driver).CancelsNothing session')
    (first : (c.withDriver driver).invoke SecureWorld.driver session command operation
      = some (result, c₁))
    (second : (c.withDriver driver).invoke SecureWorld.driver session' command' operation'
      = some (result', c₂)) :
    ∃ c₁₂ c₂₁,
      c₁.invoke SecureWorld.driver session' command' operation' = some (result', c₁₂) ∧
      c₂.invoke SecureWorld.driver session command operation = some (result, c₂₁) ∧
      c₁₂.operation? operation' = c₂.operation? operation' ∧
      c₂₁.operation? operation = c₁.operation? operation ∧
      (c.withDriver driver).Exchanged c₁₂ c₂₁ := by
  have hunshared : (c.withDriver driver).Unshared :=
    have h := Client.unshared_steps run
    ⟨h.numbered, h.sessions, h.operations⟩
  have htending : (c.withDriver driver).world.Tending apps (Terms.installed apps) :=
    (World.Tending.steps_installed run).rearmed armed
  have hbare : c.world.driver.mappings.Covered .none := Client.bare_steps run
  have hquiet : (c.withDriver driver).world.Quiet := by
    refine ⟨htending.accorded, ?_, calm⟩
    obtain ⟨faults, rfl⟩ := armed
    exact Table.eq_empty hbare.get?_eq_none
  -- handles can only coincide when they have come round
  have hhandle : ¬ (c.withDriver driver).ShareHandle session session' := by
    rcases Nat.lt_or_ge driver.usage.opens UInt32.size with hlt | hge
    · exact Client.not_shareHandle hunshared htending hlt sessions
    · exact handles hge
  -- what is known of the two calls settles that their seats are apart
  obtain ⟨s, op, named, given, -, -⟩ := Client.invoke_cases first
  obtain ⟨s', op', named', given', -, -⟩ := Client.invoke_cases second
  exact Client.invoke_comm hquiet named named' given given' operations
    (hunshared.apart htending.accorded named named' given given' sessions operations hhandle maps)
    discreet discreet' first second

/-! Two sessions of one application: a command on one copies a buffer and counts, one on the other
panics. -/

namespace Pair

/-- An application that counts its commands. Command 0 writes two bytes to slot 0 and sets the pair
in slot 1; all others panic. -/
def app : App Nat where
  initial := 0
  opening _ := .finish (.ok ()) 0
  command number count := if number = 0 then
      .ask (.write 0 [7, 8]) fun _ => .ask (.setValue 1 1 2) fun _ => .finish (.ok ()) (count + 1)
    else .panic
  closing count := .finish (.ok ()) count

/-- The application `app` is the only one that is installed. -/
def apps : Table Uuid (App Nat) := Table.empty.set .nil app

/-- A program that opens two sessions and builds an operation. -/
def calls : List ClientCall :=
  [.openContext "tee" none .default, .openSession "tee" "one" .nil (0, none) none,
    .openSession "tee" "other" .nil (0, none) none,
    .newOperation "op" ⟨.temporary .output [1, 2], .value .output 0 0, .unused, .unused⟩]

/-- The client after the program. -/
def client? : Option (Client (SecureWorld Nat)) :=
  Client.performAll SecureWorld.driver (fun _ driver => driver) (.start (.start apps)) calls

/-- The command that maps a buffer. -/
def copying (c : Client (SecureWorld Nat)) :
    Option (Except Failure Origin × Client (SecureWorld Nat)) :=
  c.invoke SecureWorld.driver "one" 0 (some "op")

/-- The command that breaks its session. -/
def breaking (c : Client (SecureWorld Nat)) :
    Option (Except Failure Origin × Client (SecureWorld Nat)) :=
  c.invoke SecureWorld.driver "other" 1 none

/-- The application cancels nothing. -/
theorem cancelsNothing : ∀ uuid app, apps.get? uuid = some app → app.CancelsNothing := by
  intro uuid installed h
  obtain rfl : app = installed := by
    rw [apps, Table.get?_set] at h
    split at h
    · exact Option.some.inj h
    · cases h
  intro instruction number count
  cases instruction with
  | openSession => trivial
  | invokeCommand =>
    unfold App.entry app
    simp only
    split
    · exact fun _ _ => trivial
    · trivial
  | closeSession => trivial

end Pair

/-- In either order the first command succeeds, and the second fails in communication. -/
theorem independent_commands_commute_pair : ∃ c c₁ c₂ c₁₂ c₂₁, Pair.client? = some c ∧
    Pair.copying c = some (.ok .trustedApp, c₁) ∧
    Pair.breaking c = some (.error (.comms .communication), c₂) ∧
    Pair.breaking c₁ = some (.error (.comms .communication), c₁₂) ∧
    Pair.copying c₂ = some (.ok .trustedApp, c₂₁) ∧ c.Exchanged c₁₂ c₂₁ := by
  obtain ⟨c, hc⟩ :=
    Option.isSome_iff_exists.1 (show Pair.client?.isSome = true by decide +kernel)
  have run : Client.Steps SecureWorld.driver (fun _ => SecureWorld.Rearmed)
      (.start (.start Pair.apps)) c := Client.steps_performAll (fun _ _ => ⟨_, rfl⟩) hc
  obtain ⟨calm, hopens, hheld⟩ := (show ∀ c ∈ Pair.client?,
    c.world.driver.faults = ⟨none, none, none, false, none, none⟩ ∧
    c.world.driver.usage.opens = 2 ∧ c.gathered SecureWorld.driver "other" none = .none
    by decide +kernel) c hc
  have hcopying : (Pair.client?.bind fun c => (Pair.copying c).map Prod.fst)
      = some (.ok .trustedApp) := rfl
  have hbreaking : (Pair.client?.bind fun c => (Pair.breaking c).map Prod.fst)
      = some (.error (.comms .communication)) := rfl
  rw [hc] at hcopying hbreaking
  obtain ⟨⟨_, c₁⟩, first, rfl⟩ := Option.map_eq_some_iff.1 hcopying
  obtain ⟨⟨_, c₂⟩, second, rfl⟩ := Option.map_eq_some_iff.1 hbreaking
  have hlt : c.world.driver.usage.opens < UInt32.size := hopens ▸ (by decide : 2 < UInt32.size)
  have hdiscreet := Client.cancelsNothing_of_installed (World.Tending.steps_installed run) hlt
    Pair.cancelsNothing
  obtain ⟨c₁₂, c₂₁, hbroken, hcopied, -, -, hexchanged⟩ :=
    independent_commands_commute run ⟨_, rfl⟩ calm (by decide : "one" ≠ "other")
      (.inr (by decide : some "op" ≠ none)) (fun hge => absurd hlt (Nat.not_lt.2 hge))
      (fun hmaps => hmaps.2 hheld) (hdiscreet "one") (hdiscreet "other") first second
  exact ⟨c, c₁, c₂, c₁₂, c₂₁, hc, first, second, hbroken, hcopied, hexchanged⟩

end TeeClient

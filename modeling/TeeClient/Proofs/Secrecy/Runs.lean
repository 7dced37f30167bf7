import TeeClient.Proofs.Lifecycles
import TeeClient.Proofs.Secrecy.Calls

/-!
# Secrecy in the runs of a client

Two clients make the same call, and differ only in data that come back: in the pairs of value slots
whose direction is output, and in the bytes of output windows that are no input. As long as the
application reads through buffers that go into the secure world, it learns the same from both; the
call returns the same, and leaves both in the same state, up to those data.

Main statements:

* `Client.Apart.trip?`: both clients make the same round trip, or none;
* `Client.Apart.answer?`: they get the same answer, if the round trips end in the same way;
* `output_only_data_stays_out`: what two clients make of the same call.
-/

namespace TeeClient

variable {σ κ : Type} {D : Driver σ} {hidden : BufferId → Nat → Prop}

/-! ## Sessions in two worlds -/

/-- The round trip that opens a session under a handle. -/
def Trip.opening (handle : Handle) (page : PageId) (op : Option Operation) (w : World σ) : Trip σ :=
  ⟨w.channels.fresh, ⟨handle, page, true⟩, .openSession, 0, op, w.adopt handle page⟩

/-- No login is refused in the name of an application. -/
theorem ConnectionFault.origin_failure (fault : ConnectionFault) :
    fault.failure.origin ≠ .trustedApp := by
  cases fault <;> nofun

/-- How far apart two attempts to open a session end. -/
abbrev Opening.Apart (hidden : BufferId → Nat → Prop) (before before' : Option Operation)
    (o o' : Opening σ) : Prop :=
  EndsApart hidden before before' o.result o'.result o.operation o'.operation o.world o'.world

namespace World

variable {op op' : Option Operation} {w w' : World σ}

/-- Worlds that are apart have the same sessions. -/
theorem Apart.channels_eq (hw : w.Apart hidden w') : w'.channels = w.channels := by
  rw [hw.eq_withMemory]
  rfl

/-- Worlds that are apart have the same pages. -/
theorem Apart.pages_eq (hw : w.Apart hidden w') : w'.pages = w.pages := by
  rw [hw.eq_withMemory]
  rfl

/-- A driver admits a session to both worlds or to none. -/
theorem admitted_apart (hD : D.Prompt) (hw : w.Apart hidden w') (destination : Uuid)
    (login : Login) :
    let act := D.openSession destination login w.pages.fresh
    ((w'.offer destination).onDesk D act).1 = ((w.offer destination).onDesk D act).1 ∧
      ((w.offer destination).onDesk D act).2.Apart hidden ((w'.offer destination).onDesk D act).2 :=
  (hw.map (f := (·.offer destination)) fun _ _ => rfl).run
    (f := (·.onDesk D (D.openSession destination login w.pages.fresh)))
    fun memory w => onDesk_withMemory memory (hD.openSession destination login _) w

/-- How an attempt to open a session ends whose round trip is over: if it failed, no session is
left. -/
def concludeOpening (D : Driver σ) (id : ChannelId) (handle : Handle) (destination : Uuid)
    (e : Call.End σ) : Opening σ :=
  match e.result with
  | .ok _ => ⟨.ok id, e.operation, e.world.log (.sessionOpened handle destination)⟩
  | .error failure =>
    let w := (e.world.log (.openRejected handle failure)).teardown D id
    ⟨.error failure, e.operation, (w.log (.sessionClosed handle)).forget id⟩

/-- An attempt ends like this once the driver has opened the session. -/
theorem openSession_eq_conclude {destination : Uuid} {method : ConnectionMethod} {handle : Handle}
    {w₁ : World σ} (ho : (w.offer destination).onDesk D
      (D.openSession destination method.login w.pages.fresh) = (.ok handle, w₁)) :
    w.openSession D destination method op = concludeOpening D w₁.channels.fresh handle destination
      ((Trip.opening handle w.pages.fresh op w₁).carry D) :=
  openSession_of_ok ho

/-- Two attempts to open a session end in the same way if their round trips do. -/
theorem concludeOpening_apart (hD : D.Prompt) {e e' : Call.End σ} (he : e.Apart hidden op op' e')
    (id : ChannelId) (handle : Handle) (destination : Uuid) :
    (concludeOpening D id handle destination e).Apart hidden op op'
      (concludeOpening D id handle destination e') := by
  have hop := he.operation
  cases hr : e.result with
  | ok =>
    rw [hr] at hop
    simp only [Opening.Apart, concludeOpening, he.result, hr]
    exact ⟨rfl, hop.imp fun _ => nofun, he.world.log _⟩
  | error failure =>
    rw [hr] at hop
    simp only [Opening.Apart, concludeOpening, he.result, hr]
    refine ⟨rfl, hop.imp fun h _ hf => h _ (by cases hf; rfl), ?_⟩
    refine he.world.map (f := fun v => (((v.log (.openRejected handle failure)).teardown D id).log
      (.sessionClosed handle)).forget id) fun memory v => ?_
    rw [show (v.withMemory memory).log (.openRejected handle failure)
      = (v.log (.openRejected handle failure)).withMemory memory from rfl,
      teardown_withMemory memory hD]
    exact forget_withMemory memory id (World.log _ (.sessionClosed handle))

section Calls

variable (hop : Option.Rel Operation.Alike op op') (hw : w.Apart hidden w')
include hop hw

/-- The round trips are apart with which a session is opened in both worlds. -/
theorem opening_apart (handle : Handle) (page : PageId) :
    (Trip.opening handle page op w).Apart hidden (Trip.opening handle page op' w') where
  same := by
    unfold Trip.opening
    rw [hw.channels_eq]
  operation := hop
  world := hw.map (f := (·.adopt handle page)) fun _ _ => rfl

/-- An attempt to open a session ends in the same way in both worlds, if the round trip does. -/
theorem openSession_apart (hD : D.Prompt) (destination : Uuid) (method : ConnectionMethod)
    (hcarry : ∀ handle w₁ w₁', (w.offer destination).onDesk D
        (D.openSession destination method.login w.pages.fresh) = (.ok handle, w₁) →
      w₁.Apart hidden w₁' → ((Trip.opening handle w.pages.fresh op w₁).carry D).Apart hidden op op'
        ((Trip.opening handle w.pages.fresh op' w₁').carry D)) :
    (w.openSession D destination method op).Apart hidden op op'
      (w'.openSession D destination method op') := by
  obtain ⟨hadmitted, hafter⟩ := admitted_apart hD hw destination method.login
  rcases ho : (w.offer destination).onDesk D
    (D.openSession destination method.login w.pages.fresh) with ⟨e | handle, w₁⟩ <;>
  rcases ho' : (w'.offer destination).onDesk D
    (D.openSession destination method.login w.pages.fresh) with ⟨e' | handle', w₁'⟩ <;>
  rw [ho, ho'] at hadmitted hafter <;> cases hadmitted
  · -- the driver refuses both attempts for the same reason
    have hopening' : w'.openSession D destination method op' = _ :=
      openSession_of_error (hw.pages_eq.symm ▸ ho')
    rw [openSession_of_error ho, hopening', hw.pages_eq]
    refine .refused hop (hafter.map (f := fun w₁ => freePage w.pages.fresh
      (if e.openIsUnclassified then w₁.log (.openFailed e) else w₁)) fun memory v => ?_)
      (openFailure_origin e)
    split <;> rfl
  · -- both are admitted under one handle, and make their round trips
    have hopening' : w'.openSession D destination method op' = _ :=
      openSession_eq_conclude (hw.pages_eq.symm ▸ ho')
    rw [openSession_eq_conclude ho, hopening', hw.pages_eq, hafter.channels_eq]
    exact concludeOpening_apart hD (hcarry handle w₁ w₁' ho hafter) _ handle destination

/-- A command ends in the same way in both worlds, if the round trip does. -/
theorem invoke_apart (id : ChannelId) (command : UInt32)
    (hcarry : ∀ channel, w.channels.get? id = some channel → channel.active = true →
      (Call.carry D id channel .invokeCommand command op w).Apart hidden op op'
        (Call.carry D id channel .invokeCommand command op' w')) :
    (w.invoke D id command op).Apart hidden op op' (w'.invoke D id command op') := by
  have hrefused : EndsApart hidden op op' (.error (.api .badState) : Except Failure Origin)
      (.error (.api .badState)) op op' w w' := .refused hop hw nofun
  have hchannels := hw.channels_eq
  obtain ⟨channel, hget, ha, hcall⟩ | ⟨hinactive, hstays⟩ := invoke_cases _ id command op w
  · rw [hcall, invoke_of_active (hchannels ▸ hget) ha]
    exact hcarry channel hget ha
  · rw [hstays, invoke_of_inactive (hchannels ▸ hinactive)]
    exact hrefused

end Calls

end World

/-! ## Clients that are apart -/

section Options

variable {α β γ δ : Type} {r : α → β → Prop} {s : γ → δ → Prop}

/-- What follows from values that are related is related. -/
theorem rel_bind {x : Option α} {y : Option β} {f : α → Option γ} {g : β → Option δ}
    (h : Option.Rel r x y) (hfg : ∀ a b, r a b → Option.Rel s (f a) (g b)) :
    Option.Rel s (x.bind f) (y.bind g) := by
  cases h with
  | none => exact .none
  | some h => exact hfg _ _ h

/-- What follows from the same value in two ways is related if it is so for every value. -/
theorem rel_bind_self {x : Option α} {f : α → Option γ} {g : α → Option δ}
    (hfg : ∀ a, Option.Rel s (f a) (g a)) : Option.Rel s (x.bind f) (x.bind g) := by
  cases x with
  | none => exact .none
  | some a => exact hfg a

end Options

namespace Client

/-- The clients differ at most in bytes that are hidden, and in pairs of values that only come
back. -/
structure Apart (hidden : BufferId → Nat → Prop) (c c' : Client σ) : Prop where
  world : c.world.Apart hidden c'.world
  registries : c'.registries = c.registries
  contexts : c'.contexts = c.contexts
  sessions : c'.sessions = c.sessions
  operations : ∀ name, Option.Rel Operation.Alike (c.operations.get? name) (c'.operations.get? name)
  blocks : c'.blocks = c.blocks

/-- What a call answers that opens a session or invokes a command, and the client afterwards. -/
def answer? (D : Driver σ) (c : Client σ) :
    ClientCall → Option (Except Failure (ChannelId ⊕ Origin) × Client σ)
  | .openSession context session destination login operation =>
    (c.openSession D context session destination login operation).map fun r => (r.1.map .inl, r.2)
  | .invoke session command operation =>
    (c.invoke D session command operation).map fun r => (r.1.map .inr, r.2)
  | _ => none

/-- What a call leaves in two clients that bring operations of a name: they are apart, and their
operations are the same unless each has been left as it was, which they are not where the
application has replied. -/
structure LeftApart (hidden : BufferId → Nat → Prop) (operation : Option String) (replied : Prop)
    (c c' c₁ c₂ : Client σ) : Prop where
  apart : c₁.Apart hidden c₂
  kept : (c₁.operation? operation = c.operation? operation ∧
    c₂.operation? operation = c'.operation? operation) ∨
      c₂.operation? operation = c₁.operation? operation
  same : replied → c₂.operation? operation = c₁.operation? operation

variable {c c' c₁ c₂ : Client σ} {call : ClientCall} {operation : Option String}

/-- An operation that a call hands back is there when it is kept. -/
theorem operation?_keepOperation {op op₁ : Option Operation} {w : World σ}
    (given : c.operation? operation = some op)
    (hl : op₁.map Operation.lifecycle = op.map Operation.lifecycle) :
    ({ c with world := w }.keepOperation operation op₁).operation? operation = some op₁ := by
  cases operation with
  | none =>
    cases given
    rw [Option.map_eq_none_iff.1 hl]
    rfl
  | some name =>
    obtain ⟨o, -, rfl⟩ := Option.map_eq_some_iff.1 given
    obtain ⟨o₁, rfl, -⟩ := Option.map_eq_some_iff.1 hl
    exact congrArg (Option.map some) (Table.get?_set_self _ name o₁)

/-- An operation that an attempt to open a session hands back is there when it is kept. -/
theorem operation?_afterOpening {context session : String} {op : Option Operation}
    {opening : Opening σ} (given : c.operation? operation = some op)
    (hl : opening.operation.map Operation.lifecycle = op.map Operation.lifecycle) :
    (c.afterOpening context session operation opening).operation? operation
      = some opening.operation := by
  rw [← operation?_keepOperation (w := opening.world) given hl]
  unfold afterOpening
  cases opening.result <;> rfl

/-- Opening a session with a login that is supported. -/
theorem openSession_of_method {context session : String} {destination : Uuid}
    {login : UInt32 × Option UInt32} {method : ConnectionMethod} {op : Option Operation}
    (held : c.contexts.contains context = true) (new : c.sessions.contains session = false)
    (supported : ConnectionMethod.ofRaw login.1 login.2 = .ok method)
    (given : c.operation? operation = some op) :
    c.openSession D context session destination login operation
      = some ((c.world.openSession D destination method op).result,
        c.afterOpening context session operation
          (c.world.openSession D destination method op)) := by
  simp only [openSession, held, new, given, supported, afterOpening]
  cases (c.world.openSession D destination method op).result <;> rfl

namespace Apart

/-- A name stands for operations that are alike. -/
theorem operation? (h : c.Apart hidden c') (name : Option String) :
    Option.Rel (Option.Rel Operation.Alike) (c.operation? name) (c'.operation? name) := by
  cases name with
  | none => exact .some .none
  | some name =>
    have hop := h.operations name
    simp only [Client.operation?]
    generalize c.operations.get? name = op at hop
    generalize c'.operations.get? name = op' at hop
    cases hop with
    | none => exact .none
    | some hop => exact .some (.some hop)

/-- An operation that is known to one client is known to both. -/
theorem exists_operation? (h : c.Apart hidden c') {op : Option Operation}
    (given : c.operation? operation = some op) :
    ∃ op', c'.operation? operation = some op' ∧ Option.Rel Operation.Alike op op' := by
  have hop := h.operation? operation
  rw [given] at hop
  generalize c'.operation? operation = given' at hop
  cases hop with
  | some hop => exact ⟨_, rfl, hop⟩

/-- Both clients make the same round trip, or none. -/
theorem trip? (h : c.Apart hidden c') (hD : D.Prompt) (call : ClientCall) :
    Option.Rel (Trip.Apart hidden) (c.trip? D call) (c'.trip? D call) := by
  -- what decides whether a round trip is made, the clients have in common
  cases call with
  | openSession context session destination login operation =>
    simp only [Client.trip?, Option.bind_eq_bind, h.contexts, h.sessions, h.world.pages_eq]
    split
    · exact .none
    · refine rel_bind (h.operation? operation) fun op op' hop => rel_bind_self fun method => ?_
      obtain ⟨hadmitted, hafter⟩ := World.admitted_apart hD h.world destination method.login
      rw [hadmitted]
      exact rel_bind_self fun handle => .some (World.opening_apart hop hafter handle _)
  | invoke session command operation =>
    simp only [Client.trip?, Option.bind_eq_bind, h.sessions, h.world.channels_eq]
    refine rel_bind_self fun s => rel_bind (h.operation? operation) fun op op' hop =>
      rel_bind_self fun channel => ?_
    split
    · exact .some ⟨rfl, hop, h.world⟩
    · exact .none
  | closeSession session =>
    simp only [Client.trip?, Option.bind_eq_bind, h.sessions, h.world.channels_eq]
    refine rel_bind_self fun s => rel_bind_self fun channel => ?_
    split
    · exact .some ⟨rfl, .none, h.world⟩
    · exact .none
  | _ => exact .none

/-- Clients that are apart may keep operations that are alike. -/
theorem keepOperation (h : c.Apart hidden c') {op op' : Option Operation} {w w' : World σ}
    (hop : Option.Rel Operation.Alike op op') (hw : w.Apart hidden w') (name : Option String) :
    ({ c with world := w }.keepOperation name op).Apart hidden
      ({ c' with world := w' }.keepOperation name op') := by
  have hkept : Client.Apart hidden { c with world := w } { c' with world := w' } :=
    { h with world := hw }
  cases name with
  | none => exact hkept
  | some name =>
    cases hop with
    | none => exact hkept
    | some hop =>
      refine { hkept with operations := fun other => ?_ }
      simp only [Client.keepOperation, Table.get?_set]
      split
      · exact .some hop
      · exact h.operations other

/-- Clients that are apart enter the same session after attempts to open one that end apart. -/
theorem afterOpening (h : c.Apart hidden c') {before before' : Option Operation}
    {o o' : Opening σ} (he : o.Apart hidden before before' o')
    (context session : String) (operation : Option String) :
    (c.afterOpening context session operation o).Apart hidden
      (c'.afterOpening context session operation o') := by
  have hkept := h.keepOperation he.operation.alike he.world operation
  unfold Client.afterOpening
  rw [he.result]
  cases o.result with
  | error failure => exact hkept
  | ok id => exact { hkept with sessions := by simp only [hkept.sessions] }

end Apart

namespace LeftApart

/-- What operations come to that the clients keep. -/
theorem of_settled {replied : Prop} {op op' op₁ op₂ : Option Operation}
    (hapart : c₁.Apart hidden c₂)
    (given : c.operation? operation = some op) (given' : c'.operation? operation = some op')
    (given₁ : c₁.operation? operation = some op₁) (given₂ : c₂.operation? operation = some op₂)
    (h : Operation.Settled replied op op' op₁ op₂) :
    LeftApart hidden operation replied c c' c₁ c₂ where
  apart := hapart
  kept := by
    rw [given, given', given₁, given₂]
    simpa only [Option.some.injEq] using h.kept
  same hreplied := by
    rw [given₁, given₂, h.same hreplied]

/-- Clients that are `LeftApart` are so where there is a reply in fewer cases. -/
theorem imp {replied replied' : Prop} (himp : replied' → replied)
    (h : LeftApart hidden operation replied c c' c₁ c₂) :
    LeftApart hidden operation replied' c c' c₁ c₂ :=
  { h with same := fun hreplied => h.same (himp hreplied) }

end LeftApart

namespace Apart

variable (h : c.Apart hidden c')
include h

/-- A command is answered in the same way, if the round trips end in the same way. -/
theorem invoke {session : String} {command : UInt32} {result : Except Failure Origin}
    (hcarry : ∀ t t', c.trip? D (.invoke session command operation) = some t → t.Apart hidden t' →
      (t.carry D).Apart hidden t.op t'.op (t'.carry D))
    (hr : c.invoke D session command operation = some (result, c₁)) :
    ∃ c₂, c'.invoke D session command operation = some (result, c₂) ∧
      LeftApart hidden operation (Replied result) c c' c₁ c₂ := by
  obtain ⟨s, op, named, given, rfl, rfl⟩ := invoke_cases hr
  obtain ⟨op', given', hop⟩ := h.exists_operation? given
  have hended := World.invoke_apart hop h.world s.channel command fun channel known active =>
    hcarry _ ⟨s.channel, channel, .invokeCommand, command, op', c'.world⟩
      (trip?_eq_some_iff.2 (.command named given known active)) ⟨rfl, hop, h.world⟩
  refine ⟨_, ?_, .of_settled (h.keepOperation hended.operation.alike hended.world operation) given
    given' (operation?_keepOperation given (World.lifecycle_invoke _ _ _ _))
    (operation?_keepOperation given' (World.lifecycle_invoke _ _ _ _)) hended.operation⟩
  simp only [Client.invoke, h.sessions, named, given', hended.result]

/-- An attempt to open a session is answered in the same way, if the round trips end in the same
way. -/
theorem openSession (hD : D.Prompt) {context session : String} {destination : Uuid}
    {login : UInt32 × Option UInt32} {result : Except Failure ChannelId}
    (hcarry : ∀ t t',
      c.trip? D (.openSession context session destination login operation) = some t →
      t.Apart hidden t' → (t.carry D).Apart hidden t.op t'.op (t'.carry D))
    (hr : c.openSession D context session destination login operation = some (result, c₁)) :
    ∃ c₂, c'.openSession D context session destination login operation = some (result, c₂) ∧
      LeftApart hidden operation (Replied result) c c' c₁ c₂ := by
  obtain ⟨⟨held, new⟩, op, given, hcase⟩ := openSession_cases hr
  obtain ⟨op', given', hop⟩ := h.exists_operation? given
  have held' : c'.contexts.contains context = true := h.contexts ▸ held
  have new' : c'.sessions.contains session = false := h.sessions ▸ new
  cases supported : ConnectionMethod.ofRaw login.1 login.2 with
  | error fault =>
    -- the login is refused before the operation is looked at
    simp only [Client.openSession, held, new, given, supported, Bool.not_true, Bool.or_false,
      Bool.false_eq_true, if_false, Option.some.injEq, Prod.mk.injEq] at hr
    obtain ⟨rfl, rfl⟩ := hr
    simp only [Client.openSession, held', new', given', supported, Bool.not_true, Bool.or_false,
      Bool.false_eq_true, if_false]
    have hunchanged := Operation.Settled.unchanged hop
      (Replied.not_error (α := ChannelId) fault.origin_failure)
    refine ⟨_, rfl, ?_⟩
    cases fault with
    | unsupported method =>
      exact .of_settled { h with world := h.world.log _ } given given' given given' hunchanged
    | groupMissing => exact .of_settled h given given' given given' hunchanged
  | ok method =>
    simp only [supported] at hcase
    obtain ⟨rfl, rfl⟩ := hcase
    have hended := World.openSession_apart hop h.world hD destination method
      fun handle w₁ w₁' ho hw₁ =>
        hcarry _ _ (trip?_eq_some_iff.2 (.opening held new supported given ho))
          (World.opening_apart hop hw₁ handle _)
    have hl := World.lifecycle_openSession (D := D) destination method
    exact ⟨_, hended.result ▸ openSession_of_method held' new' supported given',
      .of_settled (h.afterOpening hended context session operation) given given'
        (operation?_afterOpening given (hl op c.world))
        (operation?_afterOpening given' (hl op' c'.world)) hended.operation⟩

/-- A call that brings an operation is answered in the same way, if the round trips end in the same
way. -/
theorem answer? (hD : D.Prompt) (brings : call.Brings operation)
    (hcarry : ∀ t t', c.trip? D call = some t → t.Apart hidden t' →
      (t.carry D).Apart hidden t.op t'.op (t'.carry D))
    {result : Except Failure (ChannelId ⊕ Origin)} (hr : c.answer? D call = some (result, c₁)) :
    ∃ c₂, c'.answer? D call = some (result, c₂) ∧
      LeftApart hidden operation (Replied result) c c' c₁ c₂ := by
  cases call with
  | openSession context session destination login name =>
    obtain rfl : name = operation := brings
    obtain ⟨⟨r, _⟩, hopened, he⟩ := Option.map_eq_some_iff.1 hr
    cases he
    obtain ⟨c₂, hopened', hleft⟩ := h.openSession hD hcarry hopened
    exact ⟨c₂, Option.map_eq_some_iff.2 ⟨_, hopened', rfl⟩, hleft.imp Replied.of_map⟩
  | invoke session command name =>
    obtain rfl : name = operation := brings
    obtain ⟨⟨r, _⟩, hinvoked, he⟩ := Option.map_eq_some_iff.1 hr
    cases he
    obtain ⟨c₂, hinvoked', hleft⟩ := h.invoke hcarry hinvoked
    exact ⟨c₂, Option.map_eq_some_iff.2 ⟨_, hinvoked', rfl⟩, hleft.imp Replied.of_map⟩
  | _ => exact brings.elim

end Apart

/-! ## What an application learns of a call -/

variable {c : Client (SecureWorld κ)} {t : Trip (SecureWorld κ)} {op : Option Operation}

/-- The questions that an application asks during a call. -/
def questions (c : Client (SecureWorld κ)) (call : ClientCall) : List Question :=
  (c.trip? SecureWorld.driver call).elim [] Trip.questions

/-- A round trip carries the operation that the call brings. -/
theorem Carries.op_eq (hc : c.Carries SecureWorld.driver call t) (brings : call.Brings operation)
    (given : c.operation? operation = some op) : t.op = op := by
  cases hc with
  | opening held new supported given' admitted | command named given' known active =>
    cases brings
    exact Option.some.inj (given'.symm.trans given)
  | closing => exact brings.elim

/-- Nothing is mapped where a round trip begins. -/
theorem Carries.bare (hc : c.Carries SecureWorld.driver call t)
    (hbare : c.world.driver.mappings.Covered .none) :
    t.world.driver.mappings.Covered .none := by
  cases hc with
  | opening held new supported given admitted => exact World.bare_adopt hbare admitted
  | command | closing => exact hbare

end Client

/-- Data that only come back do not go into the secure world. Two clients make the same call with an
operation; they differ only in the pairs of value slots whose direction is output, and in bytes that
lie in an output window of the operation but in no window through which data go in. Faults are armed
in any way. If the application reads through buffers that go into the secure world, then it asks the
same questions during both calls and gets the same answers. The calls return the same, and leave the
clients no further apart than they were. Their operations are the same afterwards, unless nothing
was copied back and each is as it was; that can be only where the call fails, and not because the
application says so. -/
theorem output_only_data_stays_out {apps : Table Uuid (App κ)}
    {c c' c₁ : Client (SecureWorld κ)} {driver : SecureWorld κ} {call : ClientCall}
    {operation : Option String} {op : Option Operation}
    {result : Except Failure (ChannelId ⊕ Origin)}
    (run : Client.Steps SecureWorld.driver (fun _ => SecureWorld.Rearmed) (.start (.start apps)) c)
    (armed : SecureWorld.Rearmed c.world.driver driver) (brings : call.Brings operation)
    (given : c.operation? operation = some op)
    (apart : (c.withDriver driver).Apart (Operation.OutputOnly op) c')
    (reads : ∀ q ∈ (c.withDriver driver).questions call, ∀ mapping ∈ q.source?,
      mapping.access.contains .input = true)
    (answered : (c.withDriver driver).answer? SecureWorld.driver call = some (result, c₁)) :
    (c'.questions call).map Question.learned
        = ((c.withDriver driver).questions call).map Question.learned ∧
      ∃ c₂, c'.answer? SecureWorld.driver call = some (result, c₂) ∧
        Client.LeftApart (Operation.OutputOnly op) operation (Replied result)
          (c.withDriver driver) c' c₁ c₂ := by
  have hacc : (c.withDriver driver).world.Accorded id :=
    ((World.Tending.steps_installed run).rearmed armed).accorded
  have hbare : c.world.driver.mappings.Covered .none := Client.bare_steps run
  obtain ⟨faults, rfl⟩ := armed
  -- what is known where the round trip begins that the call makes
  have hbegins : ∀ t, (c.withDriver { c.world.driver with faults }).trip? SecureWorld.driver call
      = some t → t.op = op ∧ t.world.Accorded id ∧
        (t.world.channels.get? t.id = some t.channel ∧ t.channel.active = true) ∧
        t.world.driver.mappings.Covered .none ∧
        ∀ q ∈ t.questions, ∀ mapping ∈ q.source?, mapping.access.contains .input = true := by
    intro t ht
    have hc := Client.trip?_eq_some_iff.1 ht
    unfold Client.questions at reads
    rw [ht] at reads
    have hb := hc.boards hosts_driver hacc
    exact ⟨hc.op_eq brings given, hb.accorded, ⟨hb.known, hb.active⟩, hc.bare hbare, reads⟩
  constructor
  · have htrip := apart.trip? SecureWorld.prompt_driver call
    unfold Client.questions
    generalize (c.withDriver { c.world.driver with faults }).trip? SecureWorld.driver call = trip
      at hbegins htrip
    generalize c'.trip? SecureWorld.driver call = trip' at htrip
    cases htrip with
    | none => rfl
    | @some t t' hapart =>
      obtain ⟨rfl, hacc, ⟨hget, hactive⟩, hbare, hreads⟩ := hbegins t rfl
      exact learned_apart hapart hacc hget hactive hbare hreads
  · refine apart.answer? SecureWorld.prompt_driver brings (fun t t' ht hapart => ?_) answered
    obtain ⟨rfl, hacc, ⟨hget, hactive⟩, hbare, hreads⟩ := hbegins t ht
    exact carry_apart hapart hacc hget hactive hbare hreads

/-! Two clients that have left other data in their outputs. -/

namespace Residue

/-- On command 1 the application copies an input to an output and sets a value. On any other it
looks at what lies in the output, and fails unless it finds certain bytes. -/
def app : App Unit where
  initial := ()
  opening _ := .finish (.ok ()) ()
  command number _ := if number = 1 then
      .ask (.read 0) fun data => .ask (.write 1 (data.getD [])) fun _ =>
        .ask (.setValue 2 3 4) fun _ => .finish (.ok ()) ()
    else .ask (.read 1) fun data => .finish (if data = some [5, 6] then .ok () else .error 1) ()
  closing _ := .finish (.ok ()) ()

/-- A program that opens a session and builds an operation. -/
def calls : List ClientCall :=
  [.openContext "tee" none .default, .openSession "tee" "session" .nil (0, none) none,
    .newOperation "op" ⟨.temporary .input [1, 2], .temporary .output [5, 6], .value .output 7 8,
      .unused⟩]

/-- The client after the program. -/
def client? : Option (Client (SecureWorld Unit)) :=
  Client.performAll SecureWorld.driver (fun _ driver => driver)
    (.start (.start (Table.ofList [(.nil, app)]))) calls

/-- The operation, with a pair of values. -/
def operation (a b : UInt32) : Operation :=
  ⟨⟨.temporary .input (some 0) 2, .temporary .output (some 1) 2, .value .output a b, .unused⟩, 0⟩

/-- The client with other data in its outputs. -/
def other (c : Client (SecureWorld Unit)) : Client (SecureWorld Unit) := { c with
  world := c.world.withMemory (c.world.memory.write ⟨1, 0⟩ [9, 9])
  operations := c.operations.set "op" (operation 0 1) }

/-- The command that copies. -/
def copy : ClientCall := .invoke "session" 1 (some "op")

/-- The command that looks. -/
def look : ClientCall := .invoke "session" 2 (some "op")

/-- The session is not notified. -/
def deaf (w : SecureWorld Unit) : SecureWorld Unit :=
  { w with faults := { w.faults with notify := true } }

/-- The bytes of the output are output only. -/
theorem outputOnly_operation {i : Nat} (hi : i < 2) :
    Operation.OutputOnly (some (operation 7 8)) 1 i := by
  have hlt : i < 0 + 2 := (Nat.zero_add 2).symm ▸ hi
  refine ⟨⟨_, 1, rfl, ⟨rfl, ⟨1, 0⟩, 2, rfl, rfl, Nat.zero_le _, hlt⟩, rfl⟩, ?_⟩
  rintro o slot ho ⟨hsends, address, len, hlent, hbuffer, -⟩
  cases ho
  match slot with
  | 0 =>
    cases hlent
    cases hbuffer
  | 1 => cases hsends
  | 2 | 3 => cases hlent

/-- The clients differ only in data that come back. -/
theorem apart_other {c : Client (SecureWorld Unit)}
    (hop : c.operations.get? "op" = some (operation 7 8)) :
    c.Apart (Operation.OutputOnly (some (operation 7 8))) (other c) where
  world := by
    refine .of_framed (Memory.Framed.imp ?_ (Memory.framed_write _ ⟨1, 0⟩ [9, 9])) rfl
    rintro id i ⟨rfl, -, hlt⟩
    exact outputOnly_operation hlt
  registries := rfl
  contexts := rfl
  sessions := rfl
  operations name := by
    simp only [other, Table.get?_set]
    split
    next he =>
      rw [he, hop]
      refine .some ⟨rfl, fun slot => ?_⟩
      match slot with
      | 0 | 1 | 3 => exact .same _
      | 2 => exact .output 7 8 0 1
    · exact Operation.Alike.refl _
  blocks := rfl

end Residue

/-- A command that copies an input leaves the same operation in both clients, though one had other
data in its outputs. -/
theorem output_only_data_stays_out_residue : ∃ c result c₁ c₂, Residue.client? = some c ∧
    (Residue.other c).world.memory.bytes 1 ≠ c.world.memory.bytes 1 ∧
    (Residue.other c).operation? (some "op") ≠ c.operation? (some "op") ∧
    c.answer? SecureWorld.driver Residue.copy = some (result, c₁) ∧ result.isOk = true ∧
    (Residue.other c).answer? SecureWorld.driver Residue.copy = some (result, c₂) ∧
    c₂.operation? (some "op") = c₁.operation? (some "op") := by
  obtain ⟨c, hc⟩ := Option.isSome_iff_exists.1
    (show Residue.client?.isSome = true by decide +kernel)
  obtain ⟨hop, hbytes, hdiffers, hreads, hanswer⟩ := (show ∀ c ∈ Residue.client?,
    c.operations.get? "op" = some (Residue.operation 7 8) ∧
      (Residue.other c).world.memory.bytes 1 ≠ c.world.memory.bytes 1 ∧
      (Residue.other c).operation? (some "op") ≠ c.operation? (some "op") ∧
      (∀ q ∈ c.questions Residue.copy, ∀ mapping ∈ q.source?,
        mapping.access.contains .input = true) ∧
      (c.answer? SecureWorld.driver Residue.copy).any (fun r => r.1.isOk) = true
    by decide +kernel) c hc
  obtain ⟨⟨result, c₁⟩, hc₁, hok⟩ := (Option.any_eq_true _ _).1 hanswer
  have run : Client.Steps SecureWorld.driver (fun _ => SecureWorld.Rearmed)
      (.start (.start (Table.ofList [(.nil, Residue.app)]))) c :=
    Client.steps_performAll (fun _ _ => ⟨_, rfl⟩) hc
  obtain ⟨-, c₂, hc₂, hleft⟩ := output_only_data_stays_out run ⟨_, rfl⟩
    (show Residue.copy.Brings (some "op") from rfl) (congrArg (Option.map some) hop)
    (Residue.apart_other hop) hreads hc₁
  refine ⟨c, result, c₁, c₂, hc, hbytes, hdiffers, hc₁, hok, hc₂, hleft.same ?_⟩
  rintro failure rfl
  cases hok

/-- Without these conditions a difference shows. An application that reads an output can tell the
clients apart by what lay in it, and where it can, the same call succeeds for one and fails for the
other. A call that does not get through to the application leaves each client the values it had. -/
theorem output_only_data_flows : ∃ c, Residue.client? = some c ∧
    (∀ driver, (c.withDriver driver).Apart (Operation.OutputOnly (c.operations.get? "op"))
      (Residue.other (c.withDriver driver))) ∧
    (∃ r r', c.answer? SecureWorld.driver Residue.look = some r ∧
      (Residue.other c).answer? SecureWorld.driver Residue.look = some r' ∧
      r.1.isOk = true ∧ r'.1.isOk = false) ∧
    ∃ r r', (c.withDriver (Residue.deaf c.world.driver)).answer? SecureWorld.driver Residue.copy
        = some r ∧
      (Residue.other (c.withDriver (Residue.deaf c.world.driver))).answer? SecureWorld.driver
        Residue.copy = some r' ∧
      r.2.operations.get? "op" ≠ r'.2.operations.get? "op" := by
  obtain ⟨c, hc⟩ := Option.isSome_iff_exists.1
    (show Residue.client?.isSome = true by decide +kernel)
  obtain ⟨hop, hlooked, hlooked', hfailed, hfailed'⟩ := (show ∀ c ∈ Residue.client?,
    c.operations.get? "op" = some (Residue.operation 7 8) ∧
      (c.answer? SecureWorld.driver Residue.look).any (fun r => r.1.isOk) = true ∧
      ((Residue.other c).answer? SecureWorld.driver Residue.look).any (fun r => r.1.isOk = false)
        = true ∧
      ((c.withDriver (Residue.deaf c.world.driver)).answer? SecureWorld.driver Residue.copy).any
        (fun r => r.2.operations.get? "op" = some (Residue.operation 7 8)) = true ∧
      ((Residue.other (c.withDriver (Residue.deaf c.world.driver))).answer? SecureWorld.driver
        Residue.copy).any (fun r => r.2.operations.get? "op" = some (Residue.operation 0 1)) = true
    by decide +kernel) c hc
  obtain ⟨r, hr, hok⟩ := (Option.any_eq_true _ _).1 hlooked
  obtain ⟨r', hr', hnot⟩ := (Option.any_eq_true _ _).1 hlooked'
  obtain ⟨u, hu, hkept⟩ := (Option.any_eq_true _ _).1 hfailed
  obtain ⟨u', hu', hkept'⟩ := (Option.any_eq_true _ _).1 hfailed'
  refine ⟨c, hc, fun driver => hop ▸ Residue.apart_other (c := c.withDriver driver) hop,
    ⟨r, r', hr, hr', hok, of_decide_eq_true hnot⟩, u, u', hu, hu', ?_⟩
  rw [of_decide_eq_true hkept, of_decide_eq_true hkept']
  decide

end TeeClient

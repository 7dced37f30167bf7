import TeeClient.Proofs.Breakdown

/-!
# The round trips of a client

A call of a client makes at most one round trip with the secure world: to open a session, to invoke
a command on one, or to close one that is active. `Trip` is such a round trip, `Client.Carries` says
which call makes it (`Client.trip?` finds it), and `Trip.Leaves` what becomes of the world when it
is over.

Main statements:

* `Client.carries_of_perform`: a call makes a round trip, or the secure world hears nothing of it;
* `Client.Carries.boards`: where a round trip begins, its session is active and nothing is under
  way;
* `Trip.Leaves.moves`: what a round trip does to scene and sessions.
-/

namespace TeeClient

variable {σ κ : Type}

/-- A round trip: the session that makes it, what it carries, and the world in which it begins. -/
structure Trip (σ : Type) where
  id : ChannelId
  channel : Channel
  instruction : Instruction
  command : UInt32
  op : Option Operation
  world : World σ

namespace Channels

/-- The second sessions are among the first: no other is there, and those that are still active are
as they were. -/
def Fewer (channels channels' : Channels) : Prop :=
  ∀ id ch, channels' id = some ch →
    ∃ before, channels id = some before ∧ before.page = ch.page ∧ (ch.active = true → before = ch)

namespace Fewer

variable {channels channels' channels'' : Channels}

/-- All may be left. -/
theorem refl (channels : Channels) : Fewer channels channels :=
  fun _ ch h => ⟨ch, h, rfl, fun _ => rfl⟩

/-- Fewer may be left later. -/
theorem trans (h : Fewer channels channels') (h' : Fewer channels' channels'') :
    Fewer channels channels'' := by
  intro id ch hch
  obtain ⟨between, hbetween, hpage, hactive⟩ := h' id ch hch
  obtain ⟨before, hbefore, hpage', hactive'⟩ := h id between hbetween
  refine ⟨before, hbefore, hpage'.trans hpage, fun ha => ?_⟩
  have hsame := hactive ha
  exact (hactive' (hsame ▸ ha)).trans hsame

/-- One may take no more calls. -/
theorem shut (channels : Channels) (id : ChannelId) : Fewer channels (channels.shut id) := by
  intro other ch hch
  obtain ⟨⟨before, hbefore, hpage⟩, hactive⟩ := of_shut hch
  refine ⟨before, hbefore, hpage, fun ha => ?_⟩
  rw [(hactive ha).2] at hbefore
  exact (Option.some.inj hbefore).symm

/-- One may be gone. -/
theorem without (channels : Channels) (id : ChannelId) : Fewer channels (channels.without id) :=
  fun _ ch hch => ⟨ch, (of_without hch).2, rfl, fun _ => rfl⟩

end Fewer

end Channels

namespace World

/-- The world with a log record, if there is one. -/
def logged (r : Option Record) (w : World σ) : World σ := r.elim w w.log

/-- A log record is not seen in the stage. -/
@[simp] theorem stage_logged (secure : σ → SecureWorld κ) (r : Option Record) (w : World σ) :
    (w.logged r).stage secure = w.stage secure := by
  cases r <;> rfl

/-- A log record is not seen among the sessions. -/
@[simp] theorem channels_logged (r : Option Record) (w : World σ) :
    (w.logged r).channels = w.channels := by
  cases r <;> rfl

/-- A log record is not seen by the driver. -/
@[simp] theorem driver_logged (r : Option Record) (w : World σ) :
    (w.logged r).driver = w.driver := by
  cases r <;> rfl

/-- Closing a session that is not active asks nothing of the driver. At most the session is
forgotten. -/
theorem forgets_closeSession (D : Driver σ) {w : World σ} {id : ChannelId}
    (h : ∀ channel, w.channels.get? id = some channel → channel.active = false) :
    (w.closeSession D id).driver = w.driver ∧
      Channels.Fewer w.channels.get? (w.closeSession D id).channels.get? := by
  cases hget : w.channels.get? id with
  | none =>
    rw [closeSession_of_unknown hget]
    exact ⟨rfl, .refl _⟩
  | some channel =>
    have hleft : ((w.log (.sessionClosed channel.handle)).forget id).channels.get?
        = Channels.without w.channels.get? id := funext fun other => get?_channels_forget id other _
    rw [closeSession_of_inactive hget (h channel hget), driver_forget, hleft]
    exact ⟨rfl, .without _ _⟩

end World

namespace Trip

variable (D : Driver σ) (t : Trip σ)

/-- How the request is filled in, and the world when it is. -/
def filling : Except Failure Holdings × World σ :=
  Call.filling D t.id t.channel t.instruction t.command t.op t.world

/-- The world when the call waits for the answer. -/
def waiting : World σ :=
  Call.waiting D t.id t.channel t.instruction t.command t.op t.world

/-- How the round trip ends. -/
def carry : Call.End σ :=
  Call.carry D t.id t.channel t.instruction t.command t.op t.world

/-- The round trip ends in a world that was left like this: the session is kept, or it is taken down
and forgotten. The client keeps no session that it closes or that it could not open. -/
inductive Leaves : World σ → Prop
  | kept (r : Option Record) (keeps : t.instruction ≠ .closeSession)
    (opens : t.instruction = .openSession → (t.carry D).result.isOk = true) :
    Leaves ((t.carry D).world.logged r)
  | gone (r : Option Record) (r' : Record) (leaves : t.instruction ≠ .invokeCommand)
    (fails : t.instruction = .openSession → (t.carry D).result.isOk = false) :
    Leaves (((((t.carry D).world.logged r).teardown D t.id).log r').forget t.id)

end Trip

/-! ## Which calls make one -/

/-- A result of which there is a value is that value. -/
theorem eq_ok_of_toOption_eq_some {ε α : Type} {result : Except ε α} {value : α}
    (h : result.toOption = some value) : result = .ok value := by
  cases result with
  | error _ => cases h
  | ok _ => rw [Option.some.inj h]

namespace Client

variable {D : Driver σ} {secure : σ → SecureWorld κ} {c c' : Client σ} {call : ClientCall}
  {t : Trip σ}

/-- The call makes the round trip, if it is made. -/
inductive Carries (D : Driver σ) (c : Client σ) : ClientCall → Trip σ → Prop
  /-- The driver opened a session, which carries the open instruction. -/
  | opening {context session : String} {destination : Uuid} {login : UInt32 × Option UInt32}
    {operation : Option String} {method : ConnectionMethod} {op : Option Operation}
    {handle : Handle} {w : World σ} (held : c.contexts.contains context = true)
    (new : c.sessions.contains session = false)
    (supported : ConnectionMethod.ofRaw login.1 login.2 = .ok method)
    (given : c.operation? operation = some op)
    (admitted : (c.world.offer destination).onDesk D
      (D.openSession destination method.login c.world.pages.fresh) = (.ok handle, w)) :
    Carries D c (.openSession context session destination login operation)
      ⟨w.channels.fresh, ⟨handle, c.world.pages.fresh, true⟩, .openSession, 0, op,
        w.adopt handle c.world.pages.fresh⟩
  | command {session : String} {command : UInt32} {operation : Option String} {s : Session}
    {op : Option Operation} {channel : Channel} (named : c.sessions.get? session = some s)
    (given : c.operation? operation = some op)
    (known : c.world.channels.get? s.channel = some channel) (active : channel.active = true) :
    Carries D c (.invoke session command operation)
      ⟨s.channel, channel, .invokeCommand, command, op, c.world⟩
  | closing {session : String} {s : Session} {channel : Channel}
    (named : c.sessions.get? session = some s)
    (known : c.world.channels.get? s.channel = some channel) (active : channel.active = true) :
    Carries D c (.closeSession session) ⟨s.channel, channel, .closeSession, 0, none, c.world⟩

/-- The round trip that a call makes, if it makes one. -/
def trip? (D : Driver σ) (c : Client σ) : ClientCall → Option (Trip σ)
  | .openSession context session destination login operation =>
    if !c.contexts.contains context || c.sessions.contains session then none
    else do
      let op ← c.operation? operation
      let method ← (ConnectionMethod.ofRaw login.1 login.2).toOption
      let page := c.world.pages.fresh
      let admitted := (c.world.offer destination).onDesk D
        (D.openSession destination method.login page)
      let handle ← admitted.1.toOption
      some ⟨admitted.2.channels.fresh, ⟨handle, page, true⟩, .openSession, 0, op,
        admitted.2.adopt handle page⟩
  | .invoke session command operation => do
    let s ← c.sessions.get? session
    let op ← c.operation? operation
    let channel ← c.world.channels.get? s.channel
    if channel.active then some ⟨s.channel, channel, .invokeCommand, command, op, c.world⟩ else none
  | .closeSession session => do
    let s ← c.sessions.get? session
    let channel ← c.world.channels.get? s.channel
    if channel.active then some ⟨s.channel, channel, .closeSession, 0, none, c.world⟩ else none
  | _ => none

/-- The round trip `trip?` of a call is the one that the call makes. -/
theorem trip?_eq_some_iff : c.trip? D call = some t ↔ c.Carries D call t := by
  constructor
  · intro h
    cases call with
    | openSession context session destination login operation =>
      -- each check that passes is one of the facts of the call
      obtain ⟨hguard, h⟩ := Option.ite_none_left_eq_some.1 h
      simp only [Bool.or_eq_true, Bool.not_eq_true', not_or, Bool.not_eq_false,
        Bool.not_eq_true] at hguard
      obtain ⟨op, given, h⟩ := Option.bind_eq_some_iff.1 h
      obtain ⟨method, supported, h⟩ := Option.bind_eq_some_iff.1 h
      obtain ⟨handle, admitted, h⟩ := Option.bind_eq_some_iff.1 h
      cases h
      exact .opening hguard.1 hguard.2 (eq_ok_of_toOption_eq_some supported) given
        (Prod.ext (eq_ok_of_toOption_eq_some admitted) rfl)
    | invoke session command operation =>
      obtain ⟨s, named, h⟩ := Option.bind_eq_some_iff.1 h
      obtain ⟨op, given, h⟩ := Option.bind_eq_some_iff.1 h
      obtain ⟨channel, known, h⟩ := Option.bind_eq_some_iff.1 h
      obtain ⟨active, h⟩ := Option.ite_none_right_eq_some.1 h
      cases h
      exact .command named given known active
    | closeSession session =>
      obtain ⟨s, named, h⟩ := Option.bind_eq_some_iff.1 h
      obtain ⟨channel, known, h⟩ := Option.bind_eq_some_iff.1 h
      obtain ⟨active, h⟩ := Option.ite_none_right_eq_some.1 h
      cases h
      exact .closing named known active
    | _ => cases h
  · intro h
    cases h with
    | opening held new supported given admitted =>
      simp only [trip?, Option.bind_eq_bind, held, new, Bool.not_true, Bool.or_false,
        Bool.false_eq_true, if_false, given, Option.bind_some, supported, Except.toOption, admitted]
    | command named given known active =>
      simp only [trip?, Option.bind_eq_bind, named, given, Option.bind_some, known, active, if_true]
    | closing named known active =>
      simp only [trip?, Option.bind_eq_bind, named, Option.bind_some, known, active, if_true]

/-- A call that would make a round trip can be made. -/
theorem Carries.exists_perform (h : c.Carries D call t) : ∃ c', c.perform D call = some c' := by
  cases h with
  | opening held new supported given admitted =>
    simp only [perform, openSession, held, new, given, supported]
    cases (c.world.openSession D _ _ _).result <;> exact ⟨_, rfl⟩
  | command named given known active =>
    simp only [perform, invoke, named, given]
    exact ⟨_, rfl⟩
  | closing named known active =>
    simp only [perform, closeSession, named]
    exact ⟨_, rfl⟩

/-- What opening a session comes to once the driver has opened it. -/
theorem leaves_openSession {destination : Uuid} {method : ConnectionMethod}
    (op : Option Operation) {handle : Handle} {w w₁ : World σ}
    (ho : (w.offer destination).onDesk D (D.openSession destination method.login w.pages.fresh)
      = (.ok handle, w₁)) :
    let t : Trip σ := ⟨w₁.channels.fresh, ⟨handle, w.pages.fresh, true⟩, .openSession, 0, op,
      w₁.adopt handle w.pages.fresh⟩
    let opening := w.openSession D destination method op
    opening.result = (t.carry D).result.map (fun _ => t.id) ∧
      opening.operation = (t.carry D).operation ∧ t.Leaves D opening.world := by
  intro t opening
  have hopening : opening = _ := World.openSession_of_ok ho
  have hcarry : Call.carry D w₁.channels.fresh ⟨handle, w.pages.fresh, true⟩ .openSession 0 op
    (w₁.adopt handle w.pages.fresh) = t.carry D := rfl
  have hinstruction : t.instruction = .openSession := rfl
  simp only [hcarry] at hopening
  rcases hr : (t.carry D).result with failure | origin
  · -- a session that could not be opened is taken down and forgotten
    simp only [hr] at hopening
    rw [hopening]
    refine ⟨rfl, rfl, .gone (some _) _ (by rw [hinstruction]; exact nofun) fun _ => ?_⟩
    rw [hr]
    rfl
  · simp only [hr] at hopening
    rw [hopening]
    refine ⟨rfl, rfl, .kept (some _) (by rw [hinstruction]; exact nofun) fun _ => ?_⟩
    rw [hr]
    rfl

/-- What a call comes to that makes a round trip. -/
theorem Carries.leaves (h : c.Carries D call t) (hp : c.perform D call = some c') :
    t.Leaves D c'.world := by
  cases h with
  -- the call that is made is the one that carries the round trip
  | @opening context session destination login operation method op handle w held new supported given
      admitted =>
    obtain ⟨⟨result, c'⟩, hr, rfl⟩ := Option.map_eq_some_iff.1 hp
    obtain ⟨-, op', hop, hcase⟩ := openSession_cases hr
    rw [given, Option.some.injEq] at hop
    subst hop
    simp only [supported] at hcase
    obtain ⟨-, rfl⟩ := hcase
    rw [(afterOpening_eq c context session operation _).1]
    exact (leaves_openSession op admitted).2.2
  | @command session command operation s op channel named given known active =>
    obtain ⟨⟨result, c'⟩, hr, rfl⟩ := Option.map_eq_some_iff.1 hp
    obtain ⟨s', op', hs, hop, -, rfl⟩ := invoke_cases hr
    rw [named, Option.some.injEq] at hs
    rw [given, Option.some.injEq] at hop
    subst hs hop
    rw [(keepOperation_eq _ operation _).1]
    show Trip.Leaves D _ (c.world.invoke D s.channel command op).world
    rw [World.invoke_of_active known active]
    exact .kept none nofun nofun
  | @closing session s channel named known active =>
    obtain ⟨s', hs, rfl⟩ := closeSession_cases hp
    rw [named, Option.some.injEq] at hs
    subst hs
    obtain ⟨r, he⟩ := World.closeSession_of_active (D := D) known active
    show Trip.Leaves D _ (c.world.closeSession D s.channel)
    rw [he]
    exact .gone r _ nofun nofun

/-- What a call that opens a session comes to, if it makes a round trip. -/
theorem Carries.openSession_eq {context session : String} {destination : Uuid}
    {login : UInt32 × Option UInt32} {operation : Option String}
    {result : Except Failure ChannelId}
    (h : c.Carries D (.openSession context session destination login operation) t)
    (hr : c.openSession D context session destination login operation = some (result, c')) :
    result = (t.carry D).result.map (fun _ => t.id) ∧
      c' = c.afterOpening context session operation ⟨result, (t.carry D).operation, c'.world⟩ := by
  cases h with
  | @opening _ _ _ _ _ method op handle w held new supported given admitted =>
    obtain ⟨-, op', hop, hcase⟩ := openSession_cases hr
    rw [given, Option.some.injEq] at hop
    subst hop
    simp only [supported] at hcase
    obtain ⟨rfl, rfl⟩ := hcase
    obtain ⟨hresult, hoperation, -⟩ := leaves_openSession op admitted
    refine ⟨hresult, ?_⟩
    rw [(afterOpening_eq c context session operation _).1, ← hoperation]

/-- What a command comes to, if it makes a round trip. -/
theorem Carries.invoke_eq {session : String} {command : UInt32} {operation : Option String}
    {result : Except Failure Origin} (h : c.Carries D (.invoke session command operation) t)
    (hr : c.invoke D session command operation = some (result, c')) :
    result = (t.carry D).result ∧ c' = { c with
      world := (t.carry D).world }.keepOperation operation (t.carry D).operation := by
  cases h with
  | @command _ _ _ s op channel named given known active =>
    obtain ⟨s', op', hs, hop, rfl, rfl⟩ := invoke_cases hr
    rw [named, Option.some.injEq] at hs
    rw [given, Option.some.injEq] at hop
    subst hs hop
    rw [World.invoke_of_active known active]
    exact ⟨rfl, rfl⟩

/-- An attempt that the driver refuses has run nothing, and opens no session. -/
theorem unheard_openSession (h : Hosts D secure) {w : World σ} (hacc : w.Accorded secure)
    {destination : Uuid} {method : ConnectionMethod} (op : Option Operation) {e : DriverFault}
    {w₁ : World σ}
    (ho : (w.offer destination).onDesk D (D.openSession destination method.login w.pages.fresh)
      = (.error e, w₁)) :
    let opening := w.openSession D destination method op
    (secure opening.world.driver).runs = (secure w.driver).runs ∧
      opening.world.channels = w.channels := by
  have hscene := World.opened_offer h hacc destination method.login
  have hchannels := World.channels_onDesk D (D.openSession destination method.login w.pages.fresh)
    (w.offer destination)
  rw [ho] at hscene hchannels
  have hruns : (secure w₁.driver).runs = (secure w.driver).runs :=
    (congrArg (fun v : Scene κ => v.runs) hscene :)
  rw [World.openSession_of_error ho]
  simp only
  -- the refusal may be reported
  split
  · exact ⟨hruns, hchannels⟩
  · exact ⟨hruns, hchannels⟩

/-- A call makes a round trip, or it runs nothing and opens no session. -/
theorem carries_of_perform (h : Hosts D secure) (hacc : c.world.Accorded secure)
    (hp : c.perform D call = some c') :
    (∃ t, c.Carries D call t) ∨
      (secure c'.world.driver).runs = (secure c.world.driver).runs ∧
        Channels.Fewer c.world.channels.get? c'.world.channels.get? := by
  -- what leaves runs and sessions as they are
  have same : ∀ w' : World σ, (secure w'.driver).runs = (secure c.world.driver).runs →
      w'.channels = c.world.channels → (secure w'.driver).runs = (secure c.world.driver).runs ∧
        Channels.Fewer c.world.channels.get? w'.channels.get? :=
    fun w' hruns hchannels => ⟨hruns, by rw [hchannels]; exact .refl _⟩
  have affair : c'.affairs.channels = c.affairs.channels →
      (secure c'.affairs.driver).staff = (secure c.affairs.driver).staff →
      (secure c'.world.driver).runs = (secure c.world.driver).runs ∧
        Channels.Fewer c.world.channels.get? c'.world.channels.get? :=
    fun hchannels hstaff => same c'.world (congrArg Staff.runs hstaff) hchannels
  cases effect_of_perform hp with
  | idle affairs => exact .inr (affair (by rw [affairs]) (by rw [affairs]))
  | openContext contexts new affairs entered =>
    exact .inr (affair (by rw [affairs]) (by rw [affairs]; exact h.openDevice c.world.desk))
  | closeContext held vacant affairs =>
    exact .inr (affair (by rw [affairs]) (by rw [affairs]; exact h.closeDevice c.world.desk))
  | cancel id world =>
    rw [world]
    exact .inr (same _ (congrArg (fun v : Scene κ => v.runs) (h.scene_cancelCall hacc.unready id) :)
      ((World.tolerates_channels D).cancelCall id c.world))
  | @openSession context session destination login operation =>
    obtain ⟨⟨result, c'⟩, hr, rfl⟩ := Option.map_eq_some_iff.1 hp
    obtain ⟨hnamed, op, hop, hcase⟩ := openSession_cases hr
    cases hmethod : ConnectionMethod.ofRaw login.1 login.2 with
    | error fault =>
      simp only [hmethod] at hcase
      obtain ⟨-, journal, rfl⟩ := hcase
      exact .inr (same _ rfl rfl)
    | ok method =>
      simp only [hmethod] at hcase
      obtain ⟨-, rfl⟩ := hcase
      rcases ho : (c.world.offer destination).onDesk D
        (D.openSession destination method.login c.world.pages.fresh) with ⟨e | handle, w₁⟩
      · obtain ⟨hruns, hchannels⟩ := unheard_openSession h hacc op ho
        refine .inr ?_
        rw [(afterOpening_eq c context session operation _).1]
        exact same _ hruns hchannels
      · exact .inl ⟨_, .opening hnamed.1 hnamed.2 hmethod hop ho⟩
  | @invoke session command operation =>
    obtain ⟨⟨result, c'⟩, hr, rfl⟩ := Option.map_eq_some_iff.1 hp
    obtain ⟨s, op, hs, hop, -, rfl⟩ := invoke_cases hr
    obtain ⟨channel, hget, ha, -⟩ | ⟨-, hrefused⟩ :=
      World.invoke_cases D s.channel command op c.world
    · exact .inl ⟨_, .command hs hop hget ha⟩
    · have he : (c.world.invoke D s.channel command op).world = c.world :=
        congrArg Call.End.world hrefused
      refine .inr ?_
      rw [(keepOperation_eq _ operation _).1]
      exact same _ (congrArg (fun w : World σ => (secure w.driver).runs) he)
        (congrArg World.channels he)
  | @closeSession session =>
    obtain ⟨s, hs, rfl⟩ := closeSession_cases hp
    obtain ⟨channel, hget, ha⟩ | hinactive := World.exists_active_or s.channel c.world
    · exact .inl ⟨_, .closing hs hget ha⟩
    · obtain ⟨hdriver, hfewer⟩ := World.forgets_closeSession D hinactive
      exact .inr ⟨congrArg (fun d => (secure d).runs) hdriver, hfewer⟩

/-- A round trip begins where the call is made, unless it opens a session. -/
theorem Carries.begins (hc : c.Carries D call t) :
    (t.instruction = .openSession ∧ t.channel.page = c.world.pages.fresh ∧
      t.world.channels.get? = Channels.adopt c.world.channels.get? t.id t.channel) ∨
    t.instruction ≠ .openSession ∧ t.world = c.world := by
  cases hc with
  | @opening context session destination login operation method op handle w held new supported given
      admitted =>
    have hchannels := World.channels_onDesk D
      (D.openSession destination method.login c.world.pages.fresh) (c.world.offer destination)
    rw [admitted] at hchannels
    refine .inl ⟨rfl, rfl, funext fun other => ?_⟩
    show (w.adopt handle c.world.pages.fresh).channels.get? other = _
    rw [World.get?_channels_adopt, show w.channels = c.world.channels from hchannels]
    rfl
  | command named given known active => exact .inr ⟨nofun, rfl⟩
  | closing named known active => exact .inr ⟨nofun, rfl⟩

/-- Where a round trip begins, its session is active and nothing is under way; nothing has run since
the client made the call. -/
structure Boards (secure : σ → SecureWorld κ) (c : Client σ) (t : Trip σ) : Prop where
  accorded : t.world.Accorded secure
  known : t.world.channels.get? t.id = some t.channel
  active : t.channel.active = true
  runs : (secure t.world.driver).runs = (secure c.world.driver).runs
  moves : Moves .any (c.world.stage secure) (t.world.stage secure)

/-- Where a round trip begins that a call makes. -/
theorem Carries.boards (h : Hosts D secure) (hacc : c.world.Accorded secure)
    (hc : c.Carries D call t) : c.Boards secure t := by
  cases hc with
  | @opening context session destination login operation method op handle w held new supported given
      admitted =>
    have hmoves := World.moves_opened h hacc admitted
      (World.admits_any D secure destination method.login c.world)
    obtain ⟨worker, -, hscene⟩ := World.exists_hired h hacc admitted
    exact ⟨World.Accorded.moves hacc hmoves, World.get?_channels_adopt_fresh handle _ w, rfl,
      (congrArg (fun v : Scene κ => v.runs) hscene :), hmoves⟩
  | command named given known active => exact ⟨hacc, known, active, rfl, .refl⟩
  | closing named known active => exact ⟨hacc, known, active, rfl, .refl⟩

end Client

/-! ## What they leave -/

/-- Numbers of pages are handed out in order. -/
theorem Moves.fresh_le {admitted : Admission κ} {s s' : Stage κ} (hm : Moves admitted s s') :
    s.scene.fresh ≤ s'.scene.fresh := by
  induction hm with
  | refl => exact Nat.le_refl _
  | tail _ hm ih =>
    refine Nat.le_trans ih ?_
    cases hm with
    | withdrawn hget hf => exact Nat.le_refl _
    | served hget hworker hpage hf hfound hserved halive => exact Nat.le_of_eq hserved.fresh.symm
    | dismissed hget hactive hu => exact Nat.le_of_eq hu.fresh.symm
    | forgotten hget => exact Nat.le_refl _
    | refused page => exact Nat.le_succ _
    | opened hstarts hadmitted => exact Nat.le_succ _

namespace Trip

variable {D : Driver σ} {secure : σ → SecureWorld κ} {c c' : Client σ} {call : ClientCall}
  {t : Trip σ} {w' : World σ}

/-- The round trip breaks its session. -/
def Breaks (D : Driver σ) (t : Trip σ) : Prop :=
  Call.Breaks D t.id t.channel t.instruction t.command t.op t.world

/-- The sessions when a round trip is over are those of before, and its own is shut if it broke. -/
theorem channels_carry (D : Driver σ) (t : Trip σ) :
    (t.Breaks D → (t.carry D).world.channels.get? = Channels.shut t.world.channels.get? t.id) ∧
      (¬ t.Breaks D → (t.carry D).world.channels = t.world.channels) :=
  have h := Call.get?_channels_carry D t.id t.channel t.instruction t.command t.op t.world
  ⟨h.1, h.2.1⟩

/-- A round trip opens no session. -/
theorem fewer_carry (D : Driver σ) (t : Trip σ) :
    Channels.Fewer t.world.channels.get? (t.carry D).world.channels.get? := by
  by_cases hb : t.Breaks D
  · rw [(channels_carry D t).1 hb]
    exact .shut _ _
  · rw [(channels_carry D t).2 hb]
    exact .refl _

/-- The sessions when one was taken down and forgotten. -/
theorem channels_gone (D : Driver σ) (r : Option Record) (r' : Record) (id : ChannelId)
    (w : World σ) : ((((w.logged r).teardown D id).log r').forget id).channels.get?
      = Channels.without (Channels.shut w.channels.get? id) id := by
  funext other
  rw [World.get?_channels_forget]
  show (if other = id then none else ((w.logged r).teardown D id).channels.get? other) = _
  rw [World.get?_channels_teardown, World.channels_logged]
  rfl

namespace Leaves

/-- What becomes of the session after a round trip opens no session. -/
theorem fewer (hl : t.Leaves D w') : Channels.Fewer t.world.channels.get? w'.channels.get? := by
  cases hl with
  | kept r keeps opens =>
    rw [World.channels_logged]
    exact fewer_carry D t
  | gone r r' leaves fails =>
    rw [channels_gone D r r' t.id]
    exact ((fewer_carry D t).trans (.shut _ _)).trans (.without _ _)

/-- A session that is closed, or could not be opened, is gone. -/
theorem eq_none (hl : t.Leaves D w') (hgone : t.instruction = .closeSession ∨
    t.instruction = .openSession ∧ (t.carry D).result.isOk = false) :
    w'.channels.get? t.id = none := by
  cases hl with
  | kept r keeps opens =>
    rcases hgone with hclosing | ⟨hopening, hfails⟩
    · exact absurd hclosing keeps
    · rw [opens hopening] at hfails
      cases hfails
  | gone r r' leaves fails =>
    rw [World.get?_channels_forget, if_pos rfl]

/-- A session that broke is not active any more. -/
theorem inactive (hl : t.Leaves D w') (hb : t.Breaks D) {ch : Channel}
    (hch : w'.channels.get? t.id = some ch) : ch.active = false := by
  cases hl with
  | kept r keeps opens =>
    rw [World.channels_logged, (channels_carry D t).1 hb, Channels.shut, if_pos rfl] at hch
    obtain ⟨before, -, rfl⟩ := Option.map_eq_some_iff.1 hch
    rfl
  | gone r r' leaves fails =>
    rw [World.get?_channels_forget, if_pos rfl] at hch
    cases hch

variable (h : Hosts D secure) (hb : c.Boards secure t)
include h hb

/-- When a round trip is over no worker finds a request published. -/
theorem unready_logged (r : Option Record) :
    (((t.carry D).world.logged r).scene secure).Unready := by
  obtain ⟨-, hmoves⟩ := Call.carry_once h hb.accorded hb.known hb.active .any t.instruction
    t.command t.op
  rw [show ((t.carry D).world.logged r).scene secure = (t.carry D).world.scene secure from
    congrArg Stage.scene (World.stage_logged secure r _)]
  exact (World.Accorded.moves hb.accorded hmoves).unready

/-- What a round trip does to scene and sessions, it does in moves. -/
theorem moves (hl : t.Leaves D w') :
    Moves .any (t.world.stage secure) (w'.stage secure) := by
  obtain ⟨-, hmoves⟩ := Call.carry_once h hb.accorded hb.known hb.active .any t.instruction
    t.command t.op
  cases hl with
  | kept r keeps opens =>
    rw [World.stage_logged]
    exact hmoves
  | gone r r' leaves fails =>
    have hdown := World.moves_teardown h (unready_logged h hb r) .any t.id
    rw [World.stage_logged] at hdown
    exact (hmoves.trans hdown).trans (World.moves_forget secure .any t.id (World.log _ r'))

/-- What a round trip has run. -/
theorem once (hl : t.Leaves D w') :
    Call.Once D secure t.id t.channel t.instruction t.command t.op t.world (t.carry D).result
      w' := by
  obtain ⟨honce, -⟩ := Call.carry_once h hb.accorded hb.known hb.active .any t.instruction
    t.command t.op
  refine honce.congr ?_ fun _ => Iff.rfl
  cases hl with
  | kept r keeps opens => rw [World.driver_logged]; rfl
  | gone r r' leaves fails =>
    rw [World.driver_forget]
    refine (World.runs_teardown h (unready_logged h hb r) t.id).trans ?_
    rw [World.driver_logged]
    rfl

end Leaves

end Trip

end TeeClient

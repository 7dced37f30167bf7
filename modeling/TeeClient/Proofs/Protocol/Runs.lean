import TeeClient.Proofs.Protocol.Sessions

/-!
# Client programs keep to the protocol

Whatever a driver answers, a client program asks it for nothing that the protocol does not permit.
`Client.Orderly` is the invariant: the sessions and contexts that the program holds are those in the
books. Every call preserves it, provided that the driver opens no session under the handle of one
that is open.

Main statements:

* `Client.Orderly.perform`: one call;
* `lawful_of_steps`: every run from the start, with what is left in force after it.
-/

namespace TeeClient

open Traced (driver)

variable {σ : Type} {D : Driver σ}

/-- The beginning of a call is entered among the uses; the driver itself may change as it likes. -/
def Traced.Announced (call : ClientCall) (t t' : Traced σ) : Prop := t'.uses = .call call :: t.uses

/-- Entering the beginning of a call announces it. -/
theorem Traced.announced_enter (call : ClientCall) (t : Traced σ) :
    Traced.Announced call t (t.enter (.call call)) := rfl

namespace Client

variable {c c' : Client (Traced σ)} {call : ClientCall}

/-- The client program and the books agree on what is open. -/
structure Orderly (c : Client (Traced σ)) : Prop where
  balanced : Balanced c.world
  owned : ∀ {id : ChannelId} {ch : Channel}, c.world.channels.get? id = some ch →
    ∃ name s, c.sessions.get? name = some s ∧ s.channel = id
  unshared : ∀ {name name' : String} {s s' : Session}, c.sessions.get? name = some s →
    c.sessions.get? name' = some s' → s.channel = s'.channel → name = name'
  opened : ∀ {name : String} {s : Session}, c.sessions.get? name = some s →
    c.world.OpenedIn s.channel s.context ∧ c.contexts.contains s.context = true
  devices : ∀ context, context ∈ (books c.world.driver.uses).devices ↔
    c.contexts.contains context = true

/-- A client that has done nothing is orderly. -/
theorem orderly_start (inner : σ) : Orderly (.start ⟨inner, []⟩) where
  balanced := {
    lawful := trivial
    settled := rfl
    hears_iff := fun handle => by
      constructor
      · rintro ⟨id, ch, ⟨⟩, -⟩
      · intro h
        cases h
    unique := nofun }
  owned := nofun
  unshared := nofun
  opened := nofun
  devices context := by
    constructor
    · intro h
      cases h
    · intro h
      cases h

/-- A call only adds to the uses. -/
theorem Effect.suffix (h : Effect (driver D) c c' call) :
    c.world.driver.uses <:+ c'.world.driver.uses := by
  have hs := driverSafe_issues D (fun _ _ => True) c.world.driver.uses
  -- the calls on sessions only issue uses
  have hsuffix : ∀ {uses : List Use}, Issues (fun _ => True) c.world.driver.uses uses →
      c.world.driver.uses <:+ uses := by
    rintro _ ⟨new, rfl, -⟩
    exact List.suffix_append new _
  cases h with
  | idle affairs =>
    rw [show c'.world.driver = _ from congrArg Affairs.driver affairs]
    exact List.suffix_rfl
  | openContext contexts new affairs entered =>
    rw [show c'.world.driver = _ from congrArg Affairs.driver affairs]
    exact List.suffix_cons _ _
  | closeContext held vacant affairs =>
    rw [show c'.world.driver = _ from congrArg Affairs.driver affairs]
    exact List.suffix_cons _ _
  | cancel id world =>
    obtain ⟨-, handles, he, -⟩ := (Traced.tolerates_woken D).cancelCall id c.world
    rw [world, he]
    exact List.suffix_append _ _
  | openSession method op held new world =>
    rw [world]
    exact hsuffix (World.openSession_preserves hs (fun _ _ _ _ _ => trivial) _ method (.refl _))
  | invoke s op named world =>
    rw [world]
    exact hsuffix (World.invoke_preserves hs (fun _ _ _ _ _ => trivial) _ _ (.refl _))
  | closeSession s named world =>
    rw [world]
    exact hsuffix (World.closeSession_preserves hs _ (.refl _))

/-! ## One call -/

namespace Orderly

/-- A client stays orderly where the account of its sessions is left and the contexts stay. -/
theorem of_accounted (h : Orderly c) (ha : Accounted none c.world c'.world)
    (hs : c'.sessions = c.sessions) (hc : c'.contexts = c.contexts) : Orderly c' where
  balanced := ha.balanced
  owned := by
    intro id ch hch
    rw [hs]
    cases hget : c.world.channels.get? id with
    | none =>
      rw [ha.absent (.inr hget)] at hch
      cases hch
    | some _ => exact h.owned hget
  unshared := by rw [hs]; exact h.unshared
  opened := by
    intro name s hn
    rw [hs] at hn
    rw [hc]
    exact ⟨ha.openedIn nofun (h.opened hn).1, (h.opened hn).2⟩
  devices := by rw [ha.devices, hc]; exact h.devices

/-- A client is orderly when a call begins. -/
theorem announced (h : Orderly c) {t : Traced σ}
    (ht : Traced.Announced call c.world.driver t) : Orderly (c.withDriver t) := by
  -- the books open a new call, and sessions and devices stand as before
  have hb : books t.uses = { books c.world.driver.uses with call := some call, last := none } := by
    rw [show t.uses = _ from ht]
    rfl
  have hbalanced : Balanced (c.withDriver t).world :=
    { lawful := by
        show Lawful t.uses
        rw [show t.uses = _ from ht]
        exact ⟨h.balanced.settled, h.balanced.lawful⟩
      settled := by
        show (books t.uses).mapped = []
        rw [hb]
        exact h.balanced.settled
      hears_iff := fun handle => by
        show _ ↔ (books t.uses).sessions.contains handle = true
        rw [hb]
        exact h.balanced.hears_iff handle
      unique := h.balanced.unique }
  refine ⟨hbalanced, h.owned, h.unshared, fun {name s} hn => ?_, fun context => ?_⟩
  · obtain ⟨⟨ch, hget, hopen⟩, hcontext⟩ := h.opened hn
    refine ⟨⟨ch, hget, fun ha => ?_⟩, hcontext⟩
    show (books t.uses).sessions.get? ch.handle = some s.context
    rw [hb]
    exact hopen ha
  · show context ∈ (books t.uses).devices ↔ _
    rw [hb]
    exact h.devices context

/-- A use of the device that is permitted keeps a client orderly if the contexts stay those that
hold the device open, and the sessions keep their contexts. -/
theorem of_device (h : Orderly c) {use : Use}
    (hu : c'.world.driver.uses = use :: c.world.driver.uses)
    (permitted : (books c.world.driver.uses).Permits use)
    (hmapped : ((books c.world.driver.uses).enter use).mapped = (books c.world.driver.uses).mapped)
    (hsessions : ((books c.world.driver.uses).enter use).sessions
      = (books c.world.driver.uses).sessions)
    (hch : c'.world.channels = c.world.channels) (hs : c'.sessions = c.sessions)
    (hdevices : ∀ context, context ∈ ((books c.world.driver.uses).enter use).devices ↔
      c'.contexts.contains context = true)
    (hheld : ∀ name s, c.sessions.get? name = some s → c'.contexts.contains s.context = true) :
    Orderly c' where
  balanced := {
    lawful := by rw [hu]; exact ⟨permitted, h.balanced.lawful⟩
    settled := by rw [hu]; exact hmapped.trans h.balanced.settled
    hears_iff := fun handle => by
      rw [hu, Traced.hears_congr hch, h.balanced.hears_iff, books, hsessions]
    unique := by rw [hch]; exact h.balanced.unique }
  owned := by rw [hch, hs]; exact h.owned
  unshared := by rw [hs]; exact h.unshared
  opened := by
    intro name s hn
    rw [hs] at hn
    obtain ⟨⟨ch, hget, hopen⟩, -⟩ := h.opened hn
    refine ⟨⟨ch, by rw [hch]; exact hget, ?_⟩, hheld name s hn⟩
    rw [hu, books, hsessions]
    exact hopen
  devices := by rw [hu]; exact hdevices

/-- Opening the device for a new context keeps a client orderly. -/
theorem openContext (h : Orderly c) {context : String} {name : Option String} {config : Config}
    (hcall : (books c.world.driver.uses).call = some (.openContext context name config))
    {contexts : Table String Context} (new : c.contexts.contains context = false)
    (affairs : c'.affairs =
      { c.affairs with driver := ((driver D).openDevice c.world.desk).2.driver, contexts })
    (entered : match ((driver D).openDevice c.world.desk).1 with
      | .ok () => ∃ ctx, contexts = c.contexts.set context ctx
      | .error _ => contexts = c.contexts) : Orderly c' := by
  have hc : c'.contexts = contexts := congrArg Affairs.contexts affairs
  have hu : c'.world.driver.uses
      = .openDevice ((driver D).openDevice c.world.desk).1 :: c.world.driver.uses :=
    congrArg (fun a : Affairs (Traced σ) => a.driver.uses) affairs
  have hnew : context ∉ (books c.world.driver.uses).devices := by
    rw [h.devices, new]
    exact Bool.false_ne_true
  -- the contexts of before are left, whether the device was opened or not
  have hkept : ∀ other, c.contexts.contains other = true → c'.contexts.contains other = true := by
    intro other ho
    rw [hc]
    split at entered
    · obtain ⟨ctx, rfl⟩ := entered
      obtain ⟨value, hv⟩ := Table.contains_iff.1 ho
      rw [Table.contains_iff, Table.get?_set]
      split
      · exact ⟨ctx, rfl⟩
      · exact ⟨value, hv⟩
    · rw [entered]; exact ho
  generalize ((driver D).openDevice c.world.desk).1 = result at entered hu
  refine h.of_device hu ⟨context, name, config, hcall, hnew⟩ ?_ ?_
    (congrArg Affairs.channels affairs) (congrArg Affairs.sessions affairs) (fun other => ?_)
    fun name s hn => hkept _ (h.opened hn).2
  · cases result <;> rfl
  · cases result <;> rfl
  · rw [hc]
    cases result with
    | error e =>
      rw [entered]
      exact h.devices other
    | ok _ =>
      obtain ⟨ctx, rfl⟩ := entered
      show other ∈ (books c.world.driver.uses).context?.toList ++
        (books c.world.driver.uses).devices ↔ _
      rw [Books.context?, hcall, Table.contains_iff, Table.get?_set, List.mem_append, h.devices,
        Table.contains_iff]
      by_cases ho : other = context
      · simp [ho]
      · simp [ho]

/-- Closing the device for a context without sessions keeps a client orderly. -/
theorem closeContext (h : Orderly c) {context : String}
    (hcall : (books c.world.driver.uses).call = some (.closeContext context))
    (held : c.contexts.contains context = true)
    (vacant : ∀ name s, c.sessions.get? name = some s → s.context ≠ context)
    (affairs : c'.affairs = { c.affairs with
      driver := ((driver D).closeDevice c.world.desk).2.driver
      contexts := c.contexts.erase context }) : Orderly c' := by
  have hc : c'.contexts = c.contexts.erase context := congrArg Affairs.contexts affairs
  have hu : c'.world.driver.uses = .closeDevice :: c.world.driver.uses :=
    congrArg (fun a : Affairs (Traced σ) => a.driver.uses) affairs
  -- a session of the context would be held under some name
  have hclosed : ∀ handle, (books c.world.driver.uses).sessions.get? handle ≠ some context := by
    intro handle hs
    obtain ⟨id, ch, hch, ha, rfl⟩ :=
      (h.balanced.hears_iff handle).2 (Table.contains_iff.2 ⟨context, hs⟩)
    obtain ⟨name, s, hn, rfl⟩ := h.owned hch
    obtain ⟨⟨ch', hch', hopen⟩, -⟩ := h.opened hn
    rw [hch] at hch'
    cases hch'
    rw [hopen ha] at hs
    exact vacant name s hn (Option.some.inj hs)
  refine h.of_device hu ⟨context, hcall, (h.devices context).2 held, hclosed⟩ rfl rfl
    (congrArg Affairs.channels affairs) (congrArg Affairs.sessions affairs) (fun other => ?_)
    fun name s hn => ?_
  · rw [hc, Table.contains_iff, Table.get?_erase]
    show other ∈ (books c.world.driver.uses).devices.filter _ ↔ _
    rw [List.mem_filter, h.devices, Books.context?, hcall, Table.contains_iff]
    by_cases ho : other = context
    · simp [ho]
    · simp [ho, Ne.symm ho]
  · obtain ⟨value, hv⟩ := Table.contains_iff.1 (h.opened hn).2
    rw [hc, Table.contains_iff, Table.get?_erase_ne _ (vacant name s hn)]
    exact ⟨value, hv⟩

/-- A session that was enrolled and entered under a new name keeps a client orderly. -/
theorem enrolled (h : Orderly c) {context session : String} {id : ChannelId}
    (held : c.contexts.contains context = true) (new : c.sessions.contains session = false)
    (he : Enrolled id context c.world c'.world)
    (hs : c'.sessions = c.sessions.set session ⟨context, id⟩) (hc : c'.contexts = c.contexts) :
    Orderly c' := by
  have hnew : c.sessions.get? session = none := by
    cases hn : c.sessions.get? session with
    | none => rfl
    | some s =>
      rw [Table.contains_iff.2 ⟨s, hn⟩] at new
      cases new
  have hget : ∀ name, c'.sessions.get? name
      = if name = session then some ⟨context, id⟩ else c.sessions.get? name := by
    intro name
    rw [hs, Table.get?_set]
  -- the number of the session is new, too
  have hother : ∀ {name s}, c.sessions.get? name = some s → s.channel ≠ id := by
    rintro name s hn rfl
    obtain ⟨⟨ch, hch, -⟩, -⟩ := h.opened hn
    rw [he.fresh] at hch
    cases hch
  refine ⟨he.balanced, fun {id' ch} hch => ?_, fun {n n' s s'} hn hn' hcc => ?_,
    fun {name s} hn => ?_, by rw [he.devices, hc]; exact h.devices⟩
  · by_cases hid : id' = id
    · exact ⟨session, _, by rw [hget, if_pos rfl], hid.symm⟩
    · cases hold : c.world.channels.get? id' with
      | none =>
        rw [he.absent hid hold] at hch
        cases hch
      | some _ =>
        obtain ⟨name, s, hn, hch⟩ := h.owned hold
        refine ⟨name, s, ?_, hch⟩
        rw [hget, if_neg]
        · exact hn
        · rintro rfl
          rw [hnew] at hn
          cases hn
  · rw [hget] at hn hn'
    split at hn <;> split at hn'
    next e e' => rw [e, e']
    next =>
      cases hn
      exact absurd hcc.symm (hother hn')
    next =>
      cases hn'
      exact absurd hcc (hother hn)
    next => exact h.unshared hn hn' hcc
  · rw [hget] at hn
    rw [hc]
    split at hn
    · cases hn
      exact ⟨he.enrolled, held⟩
    · exact ⟨he.openedIn (h.opened hn).1, (h.opened hn).2⟩

/-- A session that was closed and given up keeps a client orderly. -/
theorem given_up (h : Orderly c) {session : String} {s : Session}
    (named : c.sessions.get? session = some s)
    (ha : Accounted (some s.channel) c.world c'.world)
    (hs : c'.sessions = c.sessions.erase session) (hc : c'.contexts = c.contexts) : Orderly c' := by
  -- a session that is left has another name, and so another number
  have hget : ∀ {name s'}, c'.sessions.get? name = some s' →
      name ≠ session ∧ c.sessions.get? name = some s' := by
    intro name s' hn
    rw [hs, Table.get?_erase] at hn
    split at hn
    · cases hn
    next hne => exact ⟨hne, hn⟩
  refine ⟨ha.balanced, fun {id ch} hch => ?_, fun hn hn' => h.unshared (hget hn).2 (hget hn').2,
    fun {name s'} hn => ?_, by rw [ha.devices, hc]; exact h.devices⟩
  · by_cases hid : some s.channel = some id
    · rw [ha.absent (.inl hid)] at hch
      cases hch
    · cases hold : c.world.channels.get? id with
      | none =>
        rw [ha.absent (.inr hold)] at hch
        cases hch
      | some _ =>
        obtain ⟨name, s', hn, rfl⟩ := h.owned hold
        refine ⟨name, s', ?_, rfl⟩
        rw [hs, Table.get?_erase, if_neg]
        · exact hn
        · rintro rfl
          rw [named] at hn
          cases hn
          exact hid rfl
  · obtain ⟨hne, hold⟩ := hget hn
    rw [hc]
    refine ⟨ha.openedIn (fun he => hne ?_) (h.opened hold).1, (h.opened hold).2⟩
    exact h.unshared hold named (Option.some.inj he).symm

/-- Every call keeps a client orderly, provided that the driver opens no session under the handle
of one that is open. -/
theorem effect (h : Orderly c) (hcall : (books c.world.driver.uses).call = some call)
    (he : Effect (driver D) c c' call) (hd : DistinctHandles c'.world.driver.uses) :
    Orderly c' := by
  cases he with
  | idle affairs =>
    have hworld : Accounted none c.world c'.world :=
      (Accounted.refl h.balanced).of_same
        (congrArg (fun a : Affairs (Traced σ) => a.driver.uses) affairs)
        (congrArg Affairs.channels affairs)
    exact h.of_accounted hworld (congrArg Affairs.sessions affairs)
      (congrArg Affairs.contexts affairs)
  | openContext contexts new affairs entered => exact h.openContext hcall new affairs entered
  | closeContext held vacant affairs => exact h.closeContext hcall held vacant affairs
  | cancel id world sessions contexts =>
    -- all that the driver sees of it is that open sessions are woken
    obtain ⟨hch, hw⟩ := (Traced.tolerates_woken D).cancelCall id c.world
    rw [← world] at hch hw
    obtain ⟨hl, hb⟩ := Midway.books_woken h.balanced.lawful hw fun handle =>
      (h.balanced.hears_iff handle).1
    have hb' : Balanced c'.world :=
      { lawful := hl
        settled := by rw [hb]; exact h.balanced.settled
        hears_iff := by rw [hb, Traced.hears_congr hch]; exact h.balanced.hears_iff
        unique := by rw [hch]; exact h.balanced.unique }
    exact h.of_accounted (.of_eq hb' hch (by rw [hb])) sessions contexts
  | openSession method op held new world sessions contexts =>
    rw [world] at hd
    obtain ⟨herror, hok⟩ := h.balanced.openSession method op hcall
      ((h.devices _).2 held) hd
    split at sessions
    next id hid => exact h.enrolled held new (world ▸ hok id hid) sessions contexts
    next failure hf => exact h.of_accounted (world ▸ herror failure hf) sessions contexts
  | invoke s op named world sessions contexts =>
    exact h.of_accounted (world ▸ h.balanced.invoke s.channel _ op) sessions contexts
  | closeSession s named world sessions contexts =>
    exact h.given_up named (world ▸ h.balanced.closeSession s.channel) sessions contexts

end Orderly

/-- The program holds a session that is active under the handle. -/
def Holds (c : Client (Traced σ)) (handle : Handle) : Prop :=
  ∃ name s ch, c.sessions.get? name = some s ∧ c.world.channels.get? s.channel = some ch ∧
    ch.active = true ∧ ch.handle = handle

/-- The sessions in the books are those that an orderly program holds. -/
theorem Orderly.contains_iff_holds (h : Orderly c) (handle : Handle) :
    (books c.world.driver.uses).sessions.contains handle = true ↔ c.Holds handle := by
  rw [← h.balanced.hears_iff]
  constructor
  · rintro ⟨id, ch, hch, ha, rfl⟩
    obtain ⟨name, s, hn, rfl⟩ := h.owned hch
    exact ⟨name, s, ch, hn, hch, ha, rfl⟩
  · rintro ⟨name, s, ch, -, hch, ha, rfl⟩
    exact ⟨s.channel, ch, hch, ha, rfl⟩

/-- A client stays orderly in every run in which the driver opens no session under the handle of one
that is open. -/
theorem Orderly.steps (h : Orderly c) (run : Steps (driver D) Traced.Announced c c')
    (hd : DistinctHandles c'.world.driver.uses) : Orderly c' := by
  refine run.preserves (P := fun c => DistinctHandles c.world.driver.uses → Orderly c) ?_
    (fun _ => h) hd
  intro c₁ c₂ call t h₁ ht hp hd₂
  have he : Effect (driver D) (c₁.withDriver t) c₂ call := effect_of_perform hp
  -- the handles were distinct before the call, too
  have hd₁ : DistinctHandles c₁.world.driver.uses := by
    refine .of_suffix ?_ hd₂
    refine List.IsSuffix.trans ?_ he.suffix
    show c₁.world.driver.uses <:+ t.uses
    rw [show t.uses = _ from ht]
    exact List.suffix_cons _ _
  refine ((h₁ hd₁).announced ht).effect ?_ he hd₂
  show (books t.uses).call = some call
  rw [show t.uses = _ from ht]
  rfl

/-- Between two calls no mapping is in force, whatever handles the driver gives out. -/
theorem settled_steps {before : ClientCall → Traced σ → Traced σ → Prop}
    (hbefore : ∀ call t t', before call t t' → (books t'.uses).mapped = (books t.uses).mapped)
    (run : Steps (driver D) before c c') (h : (books c.world.driver.uses).mapped = []) :
    (books c'.world.driver.uses).mapped = [] := by
  refine run.preserves (P := fun c => (books c.world.driver.uses).mapped = []) ?_ h
  intro c₁ c₂ call t h₁ ht hp
  have ht₁ : (books t.uses).mapped = [] := (hbefore call _ _ ht).trans h₁
  refine driver_effect (sessionSafe_settled D) (fun d hd => ?_) (fun d hd => hd)
    (fun w id hw => ?_) (effect_of_perform hp) ht₁
  · -- no mapping is made with the device
    show (books (.openDevice (D.openDevice (Traced.innerDesk d)).1 :: d.driver.uses)).mapped = []
    cases (D.openDevice (Traced.innerDesk d)).1 with
    | ok _ => exact hd
    | error e => exact hd
  · exact (mapped_woken ((Traced.tolerates_woken D).cancelCall id w).2).trans hw

end Client

/-- Whatever a driver answers to the primitives, in every run of a client program every use of the
driver is permitted when it is made. What is mapped is unmapped once before the call returns; a
session is closed once by the time the program gives it up, and the device once for each opening, by
the time that no context is left; provided that the driver opens no session under the handle of one
that is open. -/
theorem uses_lawful {inner : σ} {c : Client (Traced σ)}
    (run : Client.Steps (driver D) Traced.Announced (.start ⟨inner, []⟩) c)
    (distinct : DistinctHandles c.world.driver.uses) :
    Lawful c.world.driver.uses ∧
    (∀ mapping, c.world.driver.uses.countP (Use.makes mapping)
      = c.world.driver.uses.countP (Use.removes mapping)) ∧
    (∀ handle, c.world.driver.uses.countP (Use.opens handle)
      = c.world.driver.uses.countP (Use.closes handle)
        + ((books c.world.driver.uses).sessions.contains handle).toNat) ∧
    (∀ handle, (books c.world.driver.uses).sessions.contains handle = true ↔ c.Holds handle) ∧
    c.world.driver.uses.countP Use.opensDevice
      = c.world.driver.uses.countP Use.closesDevice
        + (books c.world.driver.uses).devices.length ∧
    ∀ context, context ∈ (books c.world.driver.uses).devices ↔
      c.contexts.contains context = true := by
  have h := (Client.orderly_start inner).steps run distinct
  have hl := h.balanced.lawful
  refine ⟨hl, fun mapping => ?_, countP_opens hl distinct, h.contains_iff_holds,
    (countP_opensDevice hl).2, h.devices⟩
  rw [countP_makes hl, h.balanced.settled]
  rfl

/-! A session that breaks down in its first call, with a buffer lent to it. -/

namespace Breakdown

/-- A driver whose sessions are killed while the client waits, and whose device does not close. -/
def device : Driver Unit where
  openDevice d := (.ok (), d)
  closeDevice d := (.error .timeout, d)
  openSession _ _ _ d := .done (.ok 7) d
  closeSession _ d := .done (.ok ()) d
  map _ _ len _ d := .done (.ok ⟨0, .ofNat len⟩) d
  unmap _ _ _ d := .done (.error .timeout) d
  notify _ _ s := .done (.ok ()) s
  wait _ _ s := .done (.error .infoNotification) s
  errorCode _ d := .done (.ok ExitCode.killed) d

/-- A program that opens a session with a buffer lent, and goes. -/
def calls : List ClientCall :=
  [.openContext "tee" none .default,
    .newOperation "op" ⟨.temporary .inout [1, 2], .unused, .unused, .unused⟩,
    .openSession "tee" "session" .nil (0, none) (some "op"), .closeContext "tee"]

/-- The client after the program. -/
def client? : Option (Client (Traced Unit)) :=
  Client.performAll (driver device) (fun call t => t.enter (.call call)) (.start ⟨(), []⟩) calls

end Breakdown

/-- The program that breaks down keeps to the protocol: its buffer is unmapped once, and session and
device are closed. -/
theorem uses_lawful_breakdown : ∃ c, Breakdown.client? = some c ∧
    DistinctHandles c.world.driver.uses ∧ Lawful c.world.driver.uses ∧
    c.world.driver.uses.countP (Use.makes (7, ⟨⟨0, 0⟩, ⟨0, 2⟩⟩)) = 1 ∧
    c.world.driver.uses.countP (Use.removes (7, ⟨⟨0, 0⟩, ⟨0, 2⟩⟩)) = 1 ∧
    c.world.driver.uses.countP (Use.closes 7) = 1 ∧
    c.world.driver.uses.countP Use.closesDevice = 1 := by
  obtain ⟨c, hc⟩ := Option.isSome_iff_exists.1
    (show Breakdown.client?.isSome = true by decide +kernel)
  have run : Client.Steps (driver Breakdown.device) Traced.Announced (.start ⟨(), []⟩) c :=
    Client.steps_performAll Traced.announced_enter hc
  have distinct : DistinctHandles c.world.driver.uses :=
    (show ∀ c ∈ Breakdown.client?, DistinctHandles c.world.driver.uses by decide +kernel) c hc
  have hmade : c.world.driver.uses.countP (Use.makes (7, ⟨⟨0, 0⟩, ⟨0, 2⟩⟩)) = 1 :=
    (show ∀ c ∈ Breakdown.client?, c.world.driver.uses.countP _ = 1 by decide +kernel) c hc
  have hclosed : c.world.driver.uses.countP (Use.closes 7) = 1 :=
    (show ∀ c ∈ Breakdown.client?, c.world.driver.uses.countP _ = 1 by decide +kernel) c hc
  have hdevice : c.world.driver.uses.countP Use.closesDevice = 1 :=
    (show ∀ c ∈ Breakdown.client?, c.world.driver.uses.countP _ = 1 by decide +kernel) c hc
  obtain ⟨lawful, mappings, -⟩ := uses_lawful run distinct
  exact ⟨c, hc, distinct, lawful, hmade, (mappings _).symm.trans hmade, hclosed, hdevice⟩

end TeeClient

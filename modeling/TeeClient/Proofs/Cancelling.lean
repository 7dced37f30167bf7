import TeeClient.Proofs.Lifecycles
import TeeClient.Proofs.Views

/-!
# Requests to cancel and what they find

A request to cancel is due if it names an operation that is started. A request that is not due is
entered in the journal, and that is all. A request that is due finishes the operation, raises the
flag in the page of the session and notifies the session, which may have the request in the page
served; if that asks for further cancellations, these are not due where no other operation is
started.

While a primitive runs any number of requests may be made; `World.asked` lists them, each with the
world that it finds. What requests go by and what they change are the `Signals` of a world: the
flags in the pages and the sessions that were woken, beside sessions, lifecycles and tokens. A
`Trail` leads from one world to another through a list of requests, with nothing done to the signals
but by them.

Main statements:

* `World.honour_of_not_due` and `World.honour_of_due`: what a request does;
* `notified_of_atRest`: what the notification does, where no operation is started any more;
* `discreet_driver` and `Discreet.recorder`: drivers that leave the flags to the client;
* `Trail.append` and `Trail.split`: trails in pieces;
* `trail_settle`: a primitive leads along the requests that are made meanwhile.
-/

namespace TeeClient

variable {σ α : Type}

/-! ## What a request does -/

namespace World

/-- A request to cancel by the name of a token is due: the operation is started. -/
def Due (token : String) (w : World σ) : Prop :=
  ∃ id, w.tokens.get? token = some id ∧ w.progress id = .started

instance (token : String) (w : World σ) : Decidable (w.Due token) :=
  decidable_of_iff ((w.tokens.get? token).any (fun id => w.progress id == .started) = true)
    (by simp only [Option.any_eq_true, beq_iff_eq, Due])

/-- The world in which an operation is finished on request, and the flag of the session raised that
carries it. -/
def flagged (id : LifecycleId) (channel : Channel) (w : World σ) : World σ :=
  (w.cancelled id).onPage channel.page (·.setCancelled true)

variable {w : World σ} {token : String}

/-- A request that is not due is entered in the journal, and changes nothing else. -/
theorem honour_of_not_due (D : Driver σ) (h : ¬ w.Due token) :
    ∃ journal, (w.honour D token).2 = { w with journal } := by
  rw [honour_eq_cancelCall]
  cases htoken : w.tokens.get? token with
  | none => exact ⟨w.journal, rfl⟩
  | some id => exact cancelWith_of_not_started D (honour D) fun hp => h ⟨id, htoken, hp⟩

/-- The operation that a due request names. -/
theorem Due.lifecycle (h : w.Due token) : ∃ id l, w.tokens.get? token = some id ∧
    w.lifecycles.get? id = some l ∧ l.progress = .started := by
  obtain ⟨id, htoken, hp⟩ := h
  obtain ⟨l, hl, hp⟩ := get?_of_started hp
  exact ⟨id, l, htoken, hl, hp⟩

/-- Where no operation is started no request is due. -/
theorem AtRest.not_due (h : w.AtRest none) (token : String) : ¬ w.Due token := by
  intro hdue
  obtain ⟨id, l, -, hl, hp⟩ := hdue.lifecycle
  cases h id l hl hp

variable (D : Driver σ) {id : LifecycleId} {l : Lifecycle} {target : ChannelId}
  (htoken : w.tokens.get? token = some id) (hl : w.lifecycles.get? id = some l)
  (hp : l.progress = .started) (ht : l.target = some target)
include htoken hl hp ht

/-- A request that is due finishes the operation, and signals the session that carries it. -/
theorem honour_of_started :
    (w.honour D token).2 = (w.cancelled id).signal D (honour D) target := by
  rw [honour_eq_cancelCall, htoken]
  simp only
  unfold cancelCall
  rw [cancelWith_of_started D (honour D) hl hp, ht]

/-- A request that is due for a session that is active raises the flag and notifies the session. -/
theorem honour_of_due {channel : Channel} (hget : w.channels.get? target = some channel)
    (ha : channel.active = true) : ∃ journal, (w.honour D token).2 =
      { ((w.flagged id channel).onShared D (D.notify .cancellation channel.handle)).2 with
        journal } := by
  rw [honour_of_started D htoken hl hp ht]
  exact signal_of_active (w := w.cancelled id) D (honour D) hget ha

/-- A request that is due for a session that was taken down is entered in the journal. -/
theorem honour_of_shut (hshut : ∀ channel, w.channels.get? target = some channel →
    channel.active = false) :
    ∃ journal, (w.honour D token).2 = { w.cancelled id with journal } := by
  rw [honour_of_started D htoken hl hp ht]
  exact signal_of_inactive (w := w.cancelled id) D (honour D) hshut

end World

/-! ## The requests that are made while a primitive runs -/

/-- A request to cancel: the token that it names, and the world that it finds. -/
structure Interruption (σ : Type) where
  token : String
  world : World σ

namespace Interruption

/-- The request is due. -/
def Due (i : Interruption σ) : Prop := i.world.Due i.token

instance (i : Interruption σ) : Decidable i.Due := inferInstanceAs (Decidable (i.world.Due i.token))

/-- The world that the request leaves. -/
def after (D : Driver σ) (i : Interruption σ) : World σ := (i.world.honour D i.token).2

end Interruption

namespace World

variable (D : Driver σ)

/-- The requests to cancel that are carried out while a reply runs. -/
def asked {s : Type} (part : World σ → s) (update : World σ → s → World σ) :
    Reply s α → World σ → List (Interruption σ)
  | .done _ _, _ => []
  | .cancel token state resume, w =>
    let answered := (update w state).honour D token
    ⟨token, update w state⟩ :: asked part update (resume answered.1 (part answered.2)) answered.2

/-- The requests that are carried out while a primitive runs at its desk. -/
def askedOnDesk (act : Desk σ → Reply (Desk σ) α) (w : World σ) : List (Interruption σ) :=
  asked D (fun w => w.desk) withDesk (act w.desk) w

/-- The requests that are carried out while a primitive runs during which the secure world runs. -/
def askedOnShared (act : Shared σ → Reply (Shared σ) α) (w : World σ) : List (Interruption σ) :=
  asked D toShared withShared (act w.toShared) w

variable {D}

/-- What replies and requests preserve, each request finds. -/
theorem of_mem_asked {s : Type} {part : World σ → s} {update : World σ → s → World σ}
    {P : World σ → Prop} (hupdate : ∀ w state, P w → P (update w state))
    (hhonour : ∀ token w, P w → P (w.honour D token).2) {r : Reply s α} {w : World σ} (h : P w)
    {i : Interruption σ} (hi : i ∈ asked D part update r w) : P i.world := by
  induction r generalizing w with
  | done value state => cases hi
  | cancel token state resume ih =>
    have hstate : P (update w state) := hupdate w state h
    rcases List.mem_cons.1 hi with rfl | hi
    · exact hstate
    · exact ih _ _ (hhonour token _ hstate) hi

end World

/-! ## Drivers that leave the cancellation flags -/

/-- The cancellation flags, of the pages that are there. -/
def Shared.flags (s : Shared σ) (id : PageId) : Option Bool :=
  (s.pages.get? id).map fun p => p.request.cancelled

/-- The cancellation flags stay. -/
def Shared.SameFlags (s s' : Shared σ) : Prop := s'.flags = s.flags

/-- Cancellation flags that stay and stay on have stayed. -/
theorem Shared.SameFlags.trans (a b c : Shared σ) (h : a.SameFlags b) (h' : b.SameFlags c) :
    a.SameFlags c :=
  Eq.trans h' h

/-- A change to a page that leaves its flag leaves all flags. -/
theorem Shared.flags_onPage {s : Shared σ} {id : PageId} {f : Page → Page}
    (hf : ∀ p, s.pages.get? id = some p → (f p).request.cancelled = p.request.cancelled) :
    (s.onPage id f).flags = s.flags := by
  funext other
  show ((s.pages.modify id f).get? other).map _ = (s.pages.get? other).map _
  rw [Arena.get?_modify]
  split
  next he =>
    subst he
    rw [Option.map_map]
    exact Option.map_congr hf
  · rfl

/-- What runs in the secure world leaves the cancellation flags to the client. -/
structure Discreet (D : Driver σ) : Prop where
  notify : ∀ purpose handle s, (D.notify purpose handle s).Stretches Shared.SameFlags s
  wait : ∀ handle limit s, (D.wait handle limit s).Stretches Shared.SameFlags s

/-- Serving requests leaves the flags. -/
theorem SecureWorld.serving_sameFlags {κ : Type} :
    Serving (Shared.SameFlags (σ := SecureWorld κ)) where
  trans := Shared.SameFlags.trans
  onWorker _ _ _ := rfl
  aside _ _ _ _ _ := rfl
  entered _ _ _ := rfl
  memory _ _ _ _ _ _ _ := rfl
  onPage _ _ _ hf := Shared.flags_onPage hf

/-- The secure world leaves the flags to the client. -/
theorem discreet_driver {κ : Type} : Discreet (SecureWorld.driver : Driver (SecureWorld κ)) where
  notify _ := SecureWorld.serving_sameFlags.notify
  wait _ _ _ := rfl

/-- A recorder leaves the flags to the client if the driver behind it does. -/
theorem Discreet.recorder {D : Driver σ} (h : Discreet D) : Discreet (Recorder.driver D) where
  notify purpose handle s := by
    -- the note is only entered in the journal
    have hnoted : ∀ s event,
        (Recorder.notedNotify D purpose handle event s).Stretches Shared.SameFlags s := fun s _ =>
      .bind Shared.SameFlags.trans
        (.within (h.notify purpose handle (Recorder.innerShared s)) fun _ _ hr => hr)
        fun _ s₂ => (rfl : s₂.flags = s₂.flags)
    cases purpose with
    | cancellation => exact hnoted s _
    | call =>
      -- the hooks are at the desk
      exact .bind Shared.SameFlags.trans (.within (Reply.stretches_true _ _) fun _ _ _ => rfl)
        fun _ s₁ => hnoted s₁ _
  wait handle limit s := by
    refine .bind Shared.SameFlags.trans
      (.within (h.wait handle limit (Recorder.innerShared s)) fun _ _ hr => hr) fun result s₁ => ?_
    -- what may be replaced is the result
    let replaced := Recorder.replaced .wait result s₁.desk
    let noted := s₁.withDesk (replaced.2.note (.wait handle replaced.1))
    refine .earlier Shared.SameFlags.trans (rfl : noted.flags = s₁.flags)
      (.bind Shared.SameFlags.trans (.within (Reply.stretches_true _ _) fun _ _ _ => rfl)
        fun _ s₂ => ?_)
    exact (rfl : s₂.flags = s₂.flags)

/-! ## Signals -/

/-- The session that a use wakes on behalf of a cancellation. -/
def Use.woken? : Use → Option Handle
  | wake handle => some handle
  | _ => none

/-- The sessions that were woken on behalf of cancellations, the latest first. -/
def wakings (uses : List Use) : List Handle := uses.filterMap Use.woken?

/-- A use that wakes no session. -/
theorem wakings_cons {use : Use} (h : use.woken? = none) (uses : List Use) :
    wakings (use :: uses) = wakings uses :=
  List.filterMap_cons_none h

/-- What requests to cancel go by, and what they change. -/
structure Signals where
  channels : Arena Channel
  lifecycles : Arena Lifecycle
  tokens : Table String LifecycleId
  /-- The flags in the pages that are there. -/
  flags : PageId → Option Bool
  /-- The sessions that were woken, the latest first. -/
  wakings : List Handle

/-- The signals of a world. -/
def World.signals (w : World (Traced σ)) : Signals :=
  ⟨w.channels, w.lifecycles, w.tokens, w.flags, TeeClient.wakings w.driver.uses⟩

/-- A request that is not due leaves the signals. -/
theorem World.signals_honour (D : Driver σ) {w : World (Traced σ)} {token : String}
    (h : ¬ w.Due token) : (w.honour (Traced.driver D) token).2.signals = w.signals := by
  obtain ⟨journal, he⟩ := honour_of_not_due (Traced.driver D) h
  rw [he]
  rfl

namespace Traced

/-- No session is woken. -/
def SameWakings (d d' : Desk (Traced σ)) : Prop :=
  wakings d'.driver.uses = wakings d.driver.uses

/-- No session is woken, and the flags stay. -/
def SameSignals (s s' : Shared (Traced σ)) : Prop :=
  s'.flags = s.flags ∧ wakings s'.driver.uses = wakings s.driver.uses

/-- Where no session is woken twice over, none is woken. -/
theorem SameWakings.trans (a b c : Desk (Traced σ)) (h : SameWakings a b) (h' : SameWakings b c) :
    SameWakings a c :=
  Eq.trans h' h

/-- Where no session is woken twice over, none is woken, and the flags stay. -/
theorem SameSignals.trans (a b c : Shared (Traced σ)) (h : SameSignals a b)
    (h' : SameSignals b c) : SameSignals a c :=
  ⟨h'.1.trans h.1, h'.2.trans h.2⟩

/-- A driver at its desk enters no use. -/
theorem stretches_forward (act : Desk σ → Reply (Desk σ) α) (d : Desk (Traced σ)) :
    (forward act d).Stretches SameWakings d :=
  .within (Reply.stretches_true _ _) fun _ _ _ => rfl

/-- A primitive that is entered with its result wakes no session by itself. -/
theorem stretches_enterAfter {use : α → Use} (huse : ∀ result, (use result).woken? = none)
    (act : Desk σ → Reply (Desk σ) α) (d : Desk (Traced σ)) :
    (enterAfter use act d).Stretches SameWakings d :=
  .bind SameWakings.trans (stretches_forward act d) fun result _ => wakings_cons (huse result) _

/-- A primitive that is entered before it runs wakes no session by itself. -/
theorem stretches_enterBefore {use : Use} (huse : use.woken? = none)
    (act : Desk σ → Reply (Desk σ) α) (d : Desk (Traced σ)) :
    (enterBefore use act d).Stretches SameWakings d := by
  have hentered : SameWakings d { d with driver := d.driver.enter use } := wakings_cons huse _
  exact .earlier SameWakings.trans hentered (stretches_forward act _)

/-- A primitive during which the secure world runs wakes no session by itself. It leaves the flags
as well if the driver does. -/
theorem stretches_enterShared {use : α → Use} (huse : ∀ result, (use result).woken? = none)
    {act : Shared σ → Reply (Shared σ) α} {s : Shared (Traced σ)}
    (h : (act (innerShared s)).Stretches Shared.SameFlags (innerShared s)) :
    (enterShared use act s).Stretches SameSignals s :=
  .bind SameSignals.trans (.within h fun _ _ hr => ⟨hr, rfl⟩)
    fun result _ => ⟨rfl, wakings_cons (huse result) _⟩

end Traced

/-- What a notification on behalf of a cancellation does where no operation is started: it is
entered, and the flags, the sessions and the lifecycles stay. Whatever is asked for meanwhile is not
due. -/
theorem notified_of_atRest {D : Driver σ} (hD : Discreet D) {w : World (Traced σ)}
    (h : w.AtRest none) (handle : Handle) :
    let notify := (Traced.driver D).notify .cancellation handle
    let after := (w.onShared (Traced.driver D) notify).2
    after.driver.uses = .wake handle :: w.driver.uses ∧
      after.signals
        = ⟨w.channels, w.lifecycles, w.tokens, w.flags, handle :: wakings w.driver.uses⟩ ∧
      ∀ i ∈ w.askedOnShared (Traced.driver D) notify, ¬ i.Due := by
  -- the driver itself leaves flags and uses, and so do requests that are not due
  have hforward : ((Traced.driver D).notify .cancellation handle w.toShared).Meets
      (fun a b => a.SameFlags b ∧ b.driver.uses = a.driver.uses)
      fun _ s => w.toShared.SameFlags s ∧ s.driver.uses = .wake handle :: w.driver.uses := by
    have hsame : ∀ s s' s'' : Shared (Traced σ), s.SameFlags s' ∧ s'.driver.uses = s.driver.uses →
        s'.SameFlags s'' ∧ s''.driver.uses = s'.driver.uses →
        s.SameFlags s'' ∧ s''.driver.uses = s.driver.uses :=
      fun _ _ _ h h' => ⟨.trans _ _ _ h.1 h'.1, h'.2.trans h.2⟩
    refine .bind (.imp (Reply.Stretches.meets hsame (.within (hD.notify .cancellation handle _)
      fun _ _ hr => ⟨hr, rfl⟩)) ?_)
    exact fun _ s hs => ⟨hs.1, congrArg (Use.wake handle :: ·) hs.2⟩
  obtain ⟨w', shared, ⟨hchannels, hlifecycles, htokens, -⟩, ⟨hflags, huses⟩, he⟩ :=
    World.onShared_meets (Traced.driver D) (A := fun w' => w'.channels = w.channels ∧
      w'.lifecycles = w.lifecycles ∧ w'.tokens = w.tokens ∧ w'.AtRest none) hforward
    (fun w' shared token hw => by
      obtain ⟨hchannels, hlifecycles, htokens, hrest⟩ := hw
      obtain ⟨journal, he⟩ := World.honour_of_not_due (Traced.driver D)
        (World.AtRest.not_due (w := w'.withShared shared) hrest token)
      rw [he]
      exact ⟨⟨hchannels, hlifecycles, htokens, hrest⟩, rfl, rfl⟩) ⟨rfl, rfl, rfl, h⟩
  refine ⟨?_, ?_, fun i hi => ?_⟩
  · rw [he]
    exact huses
  · rw [he]
    show Signals.mk w'.channels w'.lifecycles w'.tokens shared.flags
      (wakings shared.driver.uses) = _
    rw [hchannels, hlifecycles, htokens, hflags, huses]
    rfl
  · have hof := World.ofLives_atRest (Traced.driver D) none
    have hrest : i.world.AtRest none :=
      World.of_mem_asked (fun w s => hof.congr w (w.withShared s) rfl) hof.honour h hi
    exact hrest.not_due i.token

/-! ## Trails -/

/-- From the one world to the other these requests are made, and nothing is done to the signals but
by them. -/
inductive Trail (D : Driver σ) : World (Traced σ) → List (Interruption (Traced σ)) →
    World (Traced σ) → Prop
  /-- No request is made. -/
  | calm {w w' : World (Traced σ)} (same : w'.signals = w.signals) : Trail D w [] w'
  /-- A request is made, and then the others. -/
  | asked {w w' : World (Traced σ)} {i : Interruption (Traced σ)}
    {rest : List (Interruption (Traced σ))} (same : i.world.signals = w.signals)
    (later : Trail D (i.after (Traced.driver D)) rest w') : Trail D w (i :: rest) w'

namespace Trail

variable {D : Driver σ} {w w₁ w' : World (Traced σ)} {first rest : List (Interruption (Traced σ))}
  {i : Interruption (Traced σ)}

/-- Nothing need be done. -/
theorem refl (D : Driver σ) (w : World (Traced σ)) : Trail D w [] w := .calm rfl

/-- A trail may start where the signals are the same. -/
theorem of_calm (same : w₁.signals = w.signals) (t : Trail D w₁ rest w') : Trail D w rest w' := by
  cases t with
  | calm same' => exact .calm (same'.trans same)
  | asked same' later => exact .asked (same'.trans same) later

/-- Trails follow one another. -/
theorem append (t : Trail D w first w₁) (t' : Trail D w₁ rest w') :
    Trail D w (first ++ rest) w' := by
  induction t with
  | calm same => exact t'.of_calm same
  | asked same _ ih => exact .asked same (ih t')

/-- A trail may end where the signals are the same. -/
theorem to_calm (t : Trail D w rest w₁) (same : w'.signals = w₁.signals) : Trail D w rest w' := by
  have := t.append (.calm same)
  rwa [List.append_nil] at this

/-- A trail in two pieces, with a request in between. -/
theorem split (t : Trail D w (first ++ i :: rest) w') :
    Trail D w first i.world ∧ Trail D (i.after (Traced.driver D)) rest w' := by
  induction first generalizing w with
  | nil =>
    cases t with
    | asked same later => exact ⟨.calm same, later⟩
  | cons j first ih =>
    cases t with
    | asked same later =>
      obtain ⟨before, after⟩ := ih later
      exact ⟨.asked same before, after⟩

/-- What requests preserve of the signals, a trail preserves. -/
theorem preserves {P : Signals → Prop}
    (hP : ∀ token (w : World (Traced σ)), P w.signals →
      P (w.honour (Traced.driver D) token).2.signals)
    (t : Trail D w rest w') (h : P w.signals) : P w'.signals := by
  induction t with
  | calm same => exact same ▸ h
  | asked same _ ih => exact ih (hP _ _ (same ▸ h))

end Trail

section Primitives

variable (D : Driver σ) {s : Type} {part : World (Traced σ) → s}
  {update : World (Traced σ) → s → World (Traced σ)}

/-- A reply that a world carries out leads along the requests that are made meanwhile. -/
theorem trail_settle {R : s → s → Prop} {r : Reply s α} {w : World (Traced σ)}
    (hr : r.Stretches R (part w))
    (h : ∀ w state, R (part w) state → (update w state).signals = w.signals) :
    Trail D w (World.asked (Traced.driver D) part update r w)
      (World.settle (World.honour (Traced.driver D)) part update r w).2 := by
  induction r generalizing w with
  | done value state => exact .calm (h w state hr)
  | cancel token state resume ih => exact .asked (h w state hr.1) (ih _ _ (hr.2 _ _))

/-- A primitive at its desk that wakes no session by itself leads along the requests. -/
theorem trail_onDesk {act : Desk (Traced σ) → Reply (Desk (Traced σ)) α} (w : World (Traced σ))
    (h : (act w.desk).Stretches Traced.SameWakings w.desk) :
    Trail D w (w.askedOnDesk (Traced.driver D) act) (w.onDesk (Traced.driver D) act).2 :=
  trail_settle D h fun w _ hr => congrArg (Signals.mk w.channels w.lifecycles w.tokens w.flags) hr

/-- A primitive that is entered with its result leads along the requests. -/
theorem trail_enterAfter {use : α → Use} (huse : ∀ result, (use result).woken? = none)
    (act : Desk σ → Reply (Desk σ) α) (w : World (Traced σ)) :
    Trail D w (w.askedOnDesk (Traced.driver D) (Traced.enterAfter use act))
      (w.onDesk (Traced.driver D) (Traced.enterAfter use act)).2 :=
  trail_onDesk D w (Traced.stretches_enterAfter huse act w.desk)

/-- A primitive that is entered before it runs leads along the requests. -/
theorem trail_enterBefore {use : Use} (huse : use.woken? = none) (act : Desk σ → Reply (Desk σ) α)
    (w : World (Traced σ)) :
    Trail D w (w.askedOnDesk (Traced.driver D) (Traced.enterBefore use act))
      (w.onDesk (Traced.driver D) (Traced.enterBefore use act)).2 :=
  trail_onDesk D w (Traced.stretches_enterBefore huse act w.desk)

/-- A primitive during which the secure world runs leads along the requests. -/
theorem trail_enterShared {use : α → Use} (huse : ∀ result, (use result).woken? = none)
    {act : Shared σ → Reply (Shared σ) α} (w : World (Traced σ))
    (h : ∀ s, (act s).Stretches Shared.SameFlags s) :
    Trail D w (w.askedOnShared (Traced.driver D) (Traced.enterShared use act))
      (w.onShared (Traced.driver D) (Traced.enterShared use act)).2 := by
  refine trail_settle D (R := Traced.SameSignals)
    (Traced.stretches_enterShared huse (h (Traced.innerShared w.toShared))) ?_
  rintro w state ⟨hflags, hwakings⟩
  show Signals.mk w.channels w.lifecycles w.tokens state.flags (wakings state.driver.uses) = _
  rw [hflags, hwakings]
  rfl

variable (handle : Handle) (w : World (Traced σ))

/-- Mapping a buffer leads along the requests that are made meanwhile. -/
theorem trail_map (address : Address) (len : Nat) (access : Access) :
    Trail D w (w.askedOnDesk (Traced.driver D) ((Traced.driver D).map handle address len access))
      (w.onDesk (Traced.driver D) ((Traced.driver D).map handle address len access)).2 :=
  trail_enterAfter D (fun _ => rfl) _ w

/-- Removing a mapping leads along the requests that are made meanwhile. -/
theorem trail_unmap (address : Address) (info : SecureRange) :
    Trail D w (w.askedOnDesk (Traced.driver D) ((Traced.driver D).unmap handle address info))
      (w.onDesk (Traced.driver D) ((Traced.driver D).unmap handle address info)).2 :=
  trail_enterBefore D rfl _ w

/-- Asking for an error code leads along the requests that are made meanwhile. -/
theorem trail_errorCode :
    Trail D w (w.askedOnDesk (Traced.driver D) ((Traced.driver D).errorCode handle))
      (w.onDesk (Traced.driver D) ((Traced.driver D).errorCode handle)).2 :=
  trail_enterBefore D rfl _ w

/-- Closing a session at the driver leads along the requests that are made meanwhile. -/
theorem trail_closeSession :
    Trail D w (w.askedOnDesk (Traced.driver D) ((Traced.driver D).closeSession handle))
      (w.onDesk (Traced.driver D) ((Traced.driver D).closeSession handle)).2 :=
  trail_enterBefore D rfl _ w

variable {D} (hD : Discreet D)
include hD

/-- A notification leads along the requests that are made while the application is at work. -/
theorem trail_notify :
    Trail D w (w.askedOnShared (Traced.driver D) ((Traced.driver D).notify .call handle))
      (w.onShared (Traced.driver D) ((Traced.driver D).notify .call handle)).2 :=
  trail_enterShared D (fun _ => rfl) w (hD.notify .call handle)

/-- A wait leads along the requests that are made meanwhile. -/
theorem trail_wait (limit : Option Nat) :
    Trail D w (w.askedOnShared (Traced.driver D) ((Traced.driver D).wait handle limit))
      (w.onShared (Traced.driver D) ((Traced.driver D).wait handle limit)).2 :=
  trail_enterShared D (fun _ => rfl) w (hD.wait handle limit)

end Primitives

end TeeClient

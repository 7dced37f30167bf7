import TeeClient.Proofs.Direct.Calls
import TeeClient.Proofs.Numbering
import TeeClient.Proofs.Once.Runs

/-!
# Every command is a direct call

Between two calls of a client whoever serves the page of an active session is alive and has the
application, the login and the destination that the session was opened with (`Stage.Agreed`). The
session has such a worker under its handle (`Stage.Tended`), unless the handle was given out again.
So where no fault is armed, a command on an active session is a direct call of that application, if
the direct call has an outcome.

Main statements:

* `Stage.Agreed.move`: a move keeps the terms of the sessions;
* `Stage.Tended.move`: it keeps their workers, if sessions are opened under vacant handles;
* `commands_are_direct_calls`: commands, after every run of a client program.
-/

namespace TeeClient

variable {κ : Type}

/-! ## Sessions and their workers -/

/-- What is known of the application, the login and the destination of a session. -/
abbrev Terms (κ : Type) := ChannelId → App κ → Login → Uuid → Prop

/-- Every active session has a worker under its handle that serves its page. -/
def Stage.Tended (s : Stage κ) : Prop :=
  ∀ id channel, s.channels id = some channel → channel.active = true → ∃ worker,
    s.scene.workers channel.handle = some worker ∧ worker.page = channel.page

/-- Whoever serves the page of an active session is alive and on the terms of the session. -/
def Stage.Agreed (terms : Terms κ) (s : Stage κ) : Prop :=
  ∀ id channel handle worker, s.channels id = some channel → channel.active = true →
    s.scene.workers handle = some worker → worker.page = channel.page →
    worker.alive = true ∧ ∃ page, s.scene.pages channel.page = some page ∧
      terms id worker.app worker.login page.destination

/-- Sessions are opened under vacant handles. -/
def Admission.vacant : Admission κ := fun s handle _ _ => s.scene.workers handle = none

/-- Sessions are opened on the terms. -/
def Terms.admission (terms : Terms κ) : Admission κ := fun s _ worker destination =>
  terms s.next worker.app worker.login destination

namespace Stage.Tended

variable {s s' : Stage κ} {id other : ChannelId} {channel ch : Channel}

/-- Two active sessions with one handle are the same. -/
theorem eq_of_handle_eq (h : s.Tended) (hacc : s.Accorded)
    (hget : s.channels id = some channel) (ha : channel.active = true)
    (hch : s.channels other = some ch) (hact : ch.active = true)
    (he : ch.handle = channel.handle) : other = id := by
  obtain ⟨worker, hworker, hserves⟩ := h id channel hget ha
  obtain ⟨worker', hworker', hserves'⟩ := h other ch hch hact
  rw [he, hworker, Option.some.injEq] at hworker'
  subst hworker'
  exact hacc.apart other id ch channel hch hget (hserves'.symm.trans hserves)

/-- A move keeps the workers of the active sessions, if sessions are opened under vacant handles. -/
theorem move (h : s.Tended) (hacc : s.Accorded) (hm : Move .vacant s s') : s'.Tended := by
  intro other ch hch ha
  cases hm with
  | withdrawn | refused => exact h other ch hch ha
  | @served v id channel f worker page hget hworker hpage hf hfound hserved halive =>
    obtain ⟨before, hbefore, hserves⟩ := h other ch hch ha
    by_cases hhandle : ch.handle = channel.handle
    · -- the worker that has served goes on serving its page
      rw [hhandle, hworker, Option.some.injEq] at hbefore
      subst hbefore
      obtain ⟨later, hlater, hcontinues⟩ := hserved.kept
      refine ⟨{ later with completions := later.completions.tail }, ?_,
        hcontinues.page.trans hserves⟩
      simp only [Scene.drain, Staff.drain, Staff.assign, hhandle, if_true, hlater]
      rfl
    · refine ⟨before, ?_, hserves⟩
      exact (if_neg hhandle).trans ((hserved.coworkers _ hhandle).trans hbefore)
  | @dismissed v id channel hget hactive hu =>
    -- another session has another handle, so its worker is not the one that goes
    obtain ⟨hne, hch⟩ := (Channels.of_shut hch).2 ha
    have hhandle : ch.handle ≠ channel.handle := fun he =>
      hne (h.eq_of_handle_eq hacc hget hactive hch ha he)
    obtain ⟨worker, hworker, hserves⟩ := h other ch hch ha
    exact ⟨worker, (if_neg hhandle).trans ((hu.workers _ hhandle).trans hworker), hserves⟩
  | forgotten => exact h other ch (Channels.of_without hch).2 ha
  | @opened handle worker login destination hstarts hvacant =>
    rcases Channels.of_adopt hch with ⟨rfl, rfl⟩ | hch
    · exact ⟨worker, if_pos rfl, hstarts.page⟩
    · -- the handle was vacant, so no worker was put in the place of another
      obtain ⟨before, hbefore, hserves⟩ := h other ch hch ha
      have hhandle : ch.handle ≠ handle := by
        intro he
        rw [he, show s.scene.workers handle = none from hvacant] at hbefore
        cases hbefore
      exact ⟨before, (if_neg hhandle).trans hbefore, hserves⟩

/-- Moves keep the workers of the active sessions, if sessions are opened under vacant handles. -/
theorem moves (h : s.Tended) (hacc : s.Accorded) (hm : Moves .vacant s s') : s'.Tended := by
  induction hm with
  | refl => exact h
  | tail hms hm ih => exact ih.move (hacc.moves hms) hm

end Stage.Tended

namespace Stage.Agreed

variable {terms terms' : Terms κ} {s s' : Stage κ}

/-- Weaker terms may be put in the place of the terms. -/
theorem mono (h : s.Agreed terms) (hterms : ∀ id app login destination, (s.channels id).isSome →
    terms id app login destination → terms' id app login destination) : s.Agreed terms' := by
  intro id channel handle worker hget ha hworker hserves
  obtain ⟨halive, page, hpage, ht⟩ := h id channel handle worker hget ha hworker hserves
  exact ⟨halive, page, hpage, hterms _ _ _ _ (by rw [hget]; rfl) ht⟩

/-- A move keeps the terms of the active sessions, if sessions are opened on them. -/
theorem move (h : s.Agreed terms) (hacc : s.Accorded) (hm : Move terms.admission s s') :
    s'.Agreed terms := by
  intro other ch handle worker hch ha hworker hserves
  cases hm with
  | @withdrawn id channel f hget hf =>
    obtain ⟨halive, page, hp, ht⟩ := h other ch handle worker hch ha hworker hserves
    refine ⟨halive, ?_⟩
    simp only [Scene.onPage]
    split
    · refine ⟨f page, by rw [hp]; rfl, ?_⟩
      rw [(hf page).2]
      exact ht
    · exact ⟨page, hp, ht⟩
  | @served v id channel f server page hget hserver hpage hf hfound hserved halive =>
    by_cases hhandle : handle = channel.handle
    · -- the worker that has served: its page is the one that it took the request from
      subst hhandle
      obtain ⟨later, hlater, hcontinues⟩ := hserved.kept
      obtain ⟨page', hpage', -, hdestination⟩ := hserved.consumed
      obtain rfl : { later with completions := later.completions.tail } = worker := by
        simp only [Scene.drain, Staff.drain, Staff.assign, if_true, hlater] at hworker
        exact Option.some.inj hworker
      have hsame : server.page = ch.page := hcontinues.page.symm.trans hserves
      obtain ⟨hal, p, hp, ht⟩ := h other ch channel.handle server hch ha hserver hsame
      refine ⟨(halive later hlater).trans hal, page', hsame ▸ hpage', ?_⟩
      have hfp : f p = page := by
        have hfp : (if server.page = channel.page then (s.scene.pages server.page).map f
          else s.scene.pages server.page) = some page := hfound
        rw [if_pos hpage, hsame, hp] at hfp
        exact Option.some.inj hfp
      rw [hdestination, ← hfp, hf p]
      show terms other later.app later.login p.destination
      rw [hcontinues.app, hcontinues.login]
      exact ht
    · have hbefore : s.scene.workers handle = some worker :=
        (hserved.coworkers handle hhandle).symm.trans ((if_neg hhandle).symm.trans hworker)
      obtain ⟨hal, p, hp, ht⟩ := h other ch handle worker hch ha hbefore hserves
      -- no worker but that of a session serves its page
      have hpages : ch.page ≠ server.page := fun he => hhandle <|
        (hacc.tied other ch handle worker hch ha hbefore hserves).trans
          (hacc.tied other ch channel.handle server hch ha hserver he.symm).symm
      refine ⟨hal, p, (hserved.others _ hpages).trans ?_, ht⟩
      exact (if_neg fun he => hpages (he.trans hpage.symm)).trans hp
  | @dismissed v id channel hget hactive hu =>
    obtain ⟨hne, hch⟩ := (Channels.of_shut hch).2 ha
    have hpage : ch.page ≠ channel.page := fun he =>
      hne (hacc.apart other id ch channel hch hget he)
    -- the worker that goes serves no page any more
    have hhandle : handle ≠ channel.handle := by
      intro he
      rw [show (v.dismiss channel.handle).workers handle = none from if_pos he] at hworker
      cases hworker
    have hbefore : s.scene.workers handle = some worker :=
      (hu.workers handle hhandle).symm.trans ((if_neg hhandle).symm.trans hworker)
    obtain ⟨hal, p, hp, ht⟩ := h other ch handle worker hch ha hbefore hserves
    exact ⟨hal, p, (hu.pages _ hpage).trans hp, ht⟩
  | @forgotten id channel hget =>
    obtain ⟨hne, hch⟩ := Channels.of_without hch
    obtain ⟨hal, p, hp, ht⟩ := h other ch handle worker hch ha hworker hserves
    exact ⟨hal, p, (if_neg fun he => hne (hacc.apart other id ch channel hch hget he)).trans hp, ht⟩
  | refused blank =>
    obtain ⟨hal, p, hp, ht⟩ := h other ch handle worker hch ha hworker hserves
    have hne : ch.page ≠ s.scene.fresh := Nat.ne_of_lt (hacc.housed other ch hch)
    exact ⟨hal, p, ((if_neg hne).trans (if_neg hne)).trans hp, ht⟩
  | @opened hired newcomer login destination hstarts hterms =>
    -- the newcomer serves the new page, and all others serve pages of before
    by_cases hhandle : handle = hired
    · obtain rfl : newcomer = worker :=
        Option.some.inj ((if_pos hhandle).symm.trans hworker)
      rcases Channels.of_adopt hch with ⟨rfl, rfl⟩ | hch
      · exact ⟨hstarts.alive, Page.blank.setDestination destination, if_pos rfl, hterms⟩
      · exact absurd (hserves.symm.trans hstarts.page) (Nat.ne_of_lt (hacc.housed other ch hch))
    · have hbefore : s.scene.workers handle = some worker := (if_neg hhandle).symm.trans hworker
      rcases Channels.of_adopt hch with ⟨rfl, rfl⟩ | hch
      · exact absurd hserves (Nat.ne_of_lt (hacc.lodged handle worker hbefore))
      · obtain ⟨hal, p, hp, ht⟩ := h other ch handle worker hch ha hbefore hserves
        exact ⟨hal, p, (if_neg (Nat.ne_of_lt (hacc.housed other ch hch))).trans hp, ht⟩

/-- Moves keep the terms of the active sessions, if sessions are opened on them. -/
theorem moves (h : s.Agreed terms) (hacc : s.Accorded) (hm : Moves terms.admission s s') :
    s'.Agreed terms := by
  induction hm with
  | refl => exact h
  | tail hms hm ih => exact ih.move (hacc.moves hms) hm

end Stage.Agreed

/-- Numbers of sessions are handed out in order. -/
theorem Moves.next_le {admitted : Admission κ} {s s' : Stage κ} (hm : Moves admitted s s') :
    s.next ≤ s'.next := by
  induction hm with
  | refl => exact Nat.le_refl _
  | tail _ hm ih =>
    refine Nat.le_trans ih ?_
    cases hm with
    | opened => exact Nat.le_succ _
    | _ => exact Nat.le_refl _

/-! ## Client programs -/

/-- The secure world with other faults armed. -/
def SecureWorld.Rearmed (before after : SecureWorld κ) : Prop :=
  ∃ faults, after = { before with faults }

/-- What holds between two calls: nothing is under way, handles are numbered, whoever serves the
page of an active session is on its terms, and, unless too many sessions were opened, the sessions
have their workers. -/
structure World.Tending (apps : Table Uuid (App κ)) (terms : Terms κ) (w : World (SecureWorld κ)) :
    Prop where
  accorded : w.Accorded id
  numbered : w.driver.Numbered apps 0
  agreed : (w.stage id).Agreed terms
  tended : w.driver.usage.opens < UInt32.size → (w.stage id).Tended

/-- The handle of a session was given out again: no worker is known under it that serves the page of
the session. -/
def World.Reassigned (w : World (SecureWorld κ)) (channel : Channel) : Prop :=
  ∀ worker, w.driver.sessions.get? channel.handle = some worker → worker.page ≠ channel.page

namespace World.Tending

variable {apps : Table Uuid (App κ)} {terms terms' : Terms κ} {w w' : World (SecureWorld κ)}

/-- In a world in which nothing has happened there are no sessions. -/
theorem start (apps : Table Uuid (App κ)) (terms : Terms κ) :
    World.Tending apps terms (.start (.start apps)) where
  accorded := ⟨fun _ _ hw => (by cases hw), fun _ _ _ hw => (by cases hw),
    fun _ _ hw => (by cases hw), fun _ _ hch => (by cases hch), fun _ _ hch => (by cases hch),
    fun _ _ _ _ hch => (by cases hch), fun _ _ _ _ hch => (by cases hch)⟩
  numbered := SecureWorld.numbered_start apps
  agreed _ _ _ _ hch := by cases hch
  tended _ _ _ hch := by cases hch

/-- Other faults may be armed. -/
theorem rearmed (h : w.Tending apps terms) {driver : SecureWorld κ}
    (hr : SecureWorld.Rearmed w.driver driver) :
    ({ w with driver } : World _).Tending apps terms := by
  obtain ⟨faults, rfl⟩ := hr
  exact ⟨h.accorded, h.numbered.steady ⟨rfl, rfl, rfl, fun _ hc => hc⟩, h.agreed, h.tended⟩

/-- The invariant is kept where sessions are opened on the terms and, as far as handles suffice,
under vacant handles. -/
theorem advance (h : w.Tending apps terms)
    (hnumbered : w'.driver.Numbered apps w.driver.usage.opens)
    (hterms : Moves terms.admission (w.stage id) (w'.stage id))
    (hvacant : w.driver.usage.opens < UInt32.size → Moves .vacant (w.stage id) (w'.stage id)) :
    w'.Tending apps terms where
  accorded := World.Accorded.moves h.accorded hterms
  numbered := ⟨hnumbered.apps, Nat.zero_le _, hnumbered.numbers⟩
  agreed := h.agreed.moves h.accorded hterms
  tended hlt := by
    have hlt := Nat.lt_of_le_of_lt hnumbered.least hlt
    exact (h.tended hlt).moves h.accorded (hvacant hlt)

/-- Handles are numbered by the openings that were attempted. -/
theorem numbered_opens (h : w.Tending apps terms) :
    w.driver.Numbered apps w.driver.usage.opens :=
  ⟨h.numbered.apps, Nat.le_refl _, h.numbered.numbers⟩

/-- The next session gets the next handle, and the application that is installed. -/
theorem worker_opened (h : w.Tending apps terms) {destination : Uuid} {login : Login}
    {handle : Handle} {w₁ : World (SecureWorld κ)} {worker : Worker κ}
    (ho : (w.offer destination).onDesk SecureWorld.driver
      (SecureWorld.driver.openSession destination login w.pages.fresh) = (.ok handle, w₁))
    (hworker : (w₁.scene id).workers handle = some worker) :
    handle = w.driver.nextHandle ∧ ∃ app, apps.get? destination = some app ∧
      worker = .fresh w.pages.fresh login app := by
  -- what the driver answers, and the state that it is left in
  have hresult : (SecureWorld.openSession destination login w.pages.fresh
      (w.offer destination).desk).1 = .ok handle := congrArg Prod.fst ho
  have hdriver : (SecureWorld.openSession destination login w.pages.fresh
      (w.offer destination).desk).2.driver = w₁.driver :=
    congrArg (fun r => r.2.driver) ho
  obtain ⟨app, happ, he⟩ | ⟨e, fault, he⟩ := SecureWorld.openSession_cases destination login
    w.pages.fresh (w.offer destination).desk <;> rw [he] at hresult hdriver <;> cases hresult
  refine ⟨rfl, app, h.numbered.apps ▸ happ, ?_⟩
  have hget : w₁.driver.sessions.get? w.driver.nextHandle
      = some (.fresh w.pages.fresh login app) := by
    rw [← hdriver]
    exact Table.get?_set_self _ _ _
  exact Option.some.inj (hworker.symm.trans hget)

/-- The next session gets a vacant handle, unless handles have come round. -/
theorem admits_vacant (h : w.Tending apps terms) (hlt : w.driver.usage.opens < UInt32.size)
    (destination : Uuid) (login : Login) :
    w.Admits SecureWorld.driver id .vacant destination login := by
  intro handle w₁ worker ho hworker
  obtain ⟨rfl, -⟩ := h.worker_opened ho hworker
  exact h.numbered.vacant hlt

/-- The next session is on the terms, if the application that is installed is. -/
theorem admits_terms (h : w.Tending apps terms) {destination : Uuid} {login : Login}
    (hterms : ∀ app, apps.get? destination = some app →
      terms w.channels.fresh app login destination) :
    w.Admits SecureWorld.driver id terms.admission destination login := by
  intro handle w₁ worker ho hworker
  obtain ⟨-, app, happ, rfl⟩ := h.worker_opened ho hworker
  exact hterms app happ

/-- Every call of a client keeps the invariant, if the next session is on the terms. -/
theorem effect {c c' : Client (SecureWorld κ)} (h : c.world.Tending apps terms)
    (hterms : ∀ app login destination, apps.get? destination = some app →
      terms c.world.channels.fresh app login destination) {call : ClientCall}
    (he : Client.Effect SecureWorld.driver c c' call) : c'.world.Tending apps terms :=
  h.advance (Client.numbered_effect h.numbered_opens he)
    (Client.moves_effect hosts_driver h.accorded
      (fun destination login => h.admits_terms fun app => hterms app login destination) he)
    fun hlt => Client.moves_effect hosts_driver h.accorded (h.admits_vacant hlt) he

/-- The worker of an active session attends to it, on its terms. Only when as many sessions were
opened as there are handles can the handle have been given out again. -/
theorem attended (h : w.Tending apps terms) {id : ChannelId} {channel : Channel}
    (hget : w.channels.get? id = some channel) (ha : channel.active = true)
    (handles : UInt32.size ≤ w.driver.usage.opens → ¬ w.Reassigned channel) :
    ∃ worker p, w.Attended channel worker p ∧ terms id worker.app worker.login p.destination := by
  obtain ⟨worker, hworker, hserves⟩ : ∃ worker,
      w.driver.sessions.get? channel.handle = some worker ∧ worker.page = channel.page := by
    rcases Nat.lt_or_ge w.driver.usage.opens UInt32.size with hlt | hge
    · exact h.tended hlt id channel hget ha
    · obtain ⟨worker, hworker⟩ := Classical.not_forall.1 (handles hge)
      simp only [Classical.not_imp, ne_eq, Classical.not_not] at hworker
      exact ⟨worker, hworker⟩
  obtain ⟨halive, page, hpage, ht⟩ := h.agreed id channel _ worker hget ha hworker hserves
  obtain ⟨p, hp, rfl⟩ := Option.map_eq_some_iff.1 hpage
  exact ⟨worker, p, ⟨hworker, hserves, halive,
    h.accorded.drained channel.handle worker hworker, hp⟩, ht⟩

/-- Opening a session keeps the invariant, if the session is on the terms. -/
theorem openSession (h : w.Tending apps terms) {destination : Uuid} {method : ConnectionMethod}
    (op : Option Operation) (hterms : ∀ app, apps.get? destination = some app →
      terms w.channels.fresh app method.login destination) :
    (w.openSession SecureWorld.driver destination method op).world.Tending apps terms :=
  h.advance
    (World.openSession_preserves (SecureWorld.driverSafe_numbered apps _)
      (fun _ _ _ _ _ => trivial) destination method h.numbered_opens)
    (World.openSession_once hosts_driver h.accorded op (h.admits_terms hterms)).2
    fun hlt => (World.openSession_once hosts_driver h.accorded op
      (h.admits_vacant hlt destination _)).2

end World.Tending

/-- Calls hand out numbers in order. -/
theorem callSafe_fresh {σ : Type} (D : Driver σ) (plans : Address → Nat → Prop) (n : Nat) :
    CallSafe D plans fun w => n ≤ w.channels.fresh :=
  have hsame : ∀ w w' : World σ, w'.channels = w.channels → n ≤ w.channels.fresh →
      n ≤ w'.channels.fresh := fun _ _ he h => he ▸ h
  { log := fun _ _ h => h
    onPage := fun _ _ _ h => h
    map := fun w _ _ _ _ _ => hsame w _ (World.channels_onDesk D _ w)
    unmap := fun w _ _ _ => hsame w _ (World.channels_onDesk D _ w)
    notify := fun w _ => hsame w _ (World.channels_onShared D _ w)
    wait := fun w _ => hsame w _ (World.channels_onShared D _ w)
    errorCode := fun w _ => hsame w _ (World.channels_onDesk D _ w)
    onLifecycle := fun _ _ _ h => h
    onChannel := fun _ _ _ h => h
    closeSession := fun w _ => hsame w _ (World.channels_onDesk D _ w) }

/-- A session that is opened has the next number, which is in use from then on. -/
theorem World.openSession_eq_fresh {σ : Type} {D : Driver σ} {w : World σ} {destination : Uuid}
    {method : ConnectionMethod} {op : Option Operation} {id : ChannelId}
    (h : (w.openSession D destination method op).result = .ok id) : id = w.channels.fresh ∧
      id < (w.openSession D destination method op).world.channels.fresh := by
  have hchannels : ((w.offer destination).onDesk D
      (D.openSession destination method.login w.pages.fresh)).2.channels = w.channels :=
    channels_onDesk D _ _
  rcases ho : (w.offer destination).onDesk D (D.openSession destination method.login w.pages.fresh)
    with ⟨e | handle, w₁⟩
  · rw [openSession_of_error ho] at h
    cases h
  · rw [ho] at hchannels
    -- the number is taken when the session is adopted, and calls hand out no other
    have hcarried : w₁.channels.fresh + 1 ≤ (Call.carry D w₁.channels.fresh
        ⟨handle, w.pages.fresh, true⟩ .openSession 0 op
        (w₁.adopt handle w.pages.fresh)).world.channels.fresh :=
      Call.carry_preserves (callSafe_fresh D (fun _ _ => True) _) (fun _ _ _ _ _ => trivial)
        w₁.channels.fresh (w := w₁.adopt handle w.pages.fresh) (Nat.le_refl _)
    rw [openSession_of_ok ho] at h ⊢
    simp only at h ⊢
    split at h
    · cases h
      exact ⟨congrArg Arena.fresh hchannels, hcarried⟩
    · cases h

namespace Client

variable {σ : Type} {D : Driver σ} {c c' : Client σ}

/-- What the opening of a session comes to where it succeeds. -/
theorem openSession_eq_ok {context session : String} {destination : Uuid}
    {login : UInt32 × Option UInt32} {operation : Option String} {id : ChannelId}
    (h : c.openSession D context session destination login operation = some (.ok id, c')) :
    ∃ method op, ConnectionMethod.ofRaw login.1 login.2 = .ok method ∧
      (c.world.openSession D destination method op).result = .ok id ∧
      c'.world = (c.world.openSession D destination method op).world := by
  obtain ⟨-, op, -, hcase⟩ := openSession_cases h
  cases hmethod : ConnectionMethod.ofRaw login.1 login.2 with
  | error fault =>
    simp only [hmethod] at hcase
    obtain ⟨hf, -⟩ := hcase
    cases hf
  | ok method =>
    simp only [hmethod] at hcase
    obtain ⟨hf, rfl⟩ := hcase
    exact ⟨method, op, rfl, hf.symm, (afterOpening_eq c context session operation _).1⟩

end Client

/-! ## What was agreed on -/

/-- The application of a session is the one installed for its destination. -/
def Terms.installed (apps : Table Uuid (App κ)) : Terms κ := fun _ app _ destination =>
  apps.get? destination = some app

/-- What was agreed on when a session was opened: its application is the one installed for its
destination, and one session has this login and this destination. -/
def Terms.agreed (apps : Table Uuid (App κ)) (opened : ChannelId) (login : Login)
    (destination : Uuid) : Terms κ := fun id app login' destination' =>
  apps.get? destination' = some app ∧ (id = opened → login' = login ∧ destination' = destination)

namespace World.Tending

variable {apps : Table Uuid (App κ)} {id : ChannelId} {login : Login} {destination : Uuid}

/-- In every run of a client program, sessions have the applications of their destinations. -/
theorem steps_installed {c : Client (SecureWorld κ)}
    (run : Client.Steps SecureWorld.driver (fun _ => SecureWorld.Rearmed) (.start (.start apps))
      c) : c.world.Tending apps (Terms.installed apps) := by
  refine run.preserves (P := fun c => c.world.Tending apps (Terms.installed apps)) ?_
    (.start apps _)
  intro c₁ c₂ call driver h hr hperform
  exact World.Tending.effect (c := c₁.withDriver driver) (h.rearmed hr)
    (fun app _ destination happ => happ) (Client.effect_of_perform hperform)

/-- A session that is opened has the login and the destination that were asked for. -/
theorem openSession_agreed {w : World (SecureWorld κ)} (h : w.Tending apps (Terms.installed apps))
    (destination : Uuid) (method : ConnectionMethod) (op : Option Operation)
    (hid : id = w.channels.fresh) :
    (w.openSession SecureWorld.driver destination method op).world.Tending apps
      (Terms.agreed apps id method.login destination) := by
  have hweak : w.Tending apps (Terms.agreed apps id method.login destination) :=
    ⟨h.accorded, h.numbered, h.agreed.mono
      fun other app _ destination' hsome happ => ⟨happ, fun he => ?_⟩, h.tended⟩
  · exact hweak.openSession op fun app happ => ⟨happ, fun _ => ⟨rfl, rfl⟩⟩
  · -- no session had the number so far
    obtain ⟨channel, hchannel⟩ := Option.isSome_iff_exists.1 hsome
    exact absurd (he.trans hid) (Nat.ne_of_lt (Arena.lt_of_get? hchannel))

/-- A session keeps its login and its destination in every run that follows, since later sessions
have other numbers. -/
theorem steps_agreed {c c' : Client (SecureWorld κ)}
    (run : Client.Steps SecureWorld.driver (fun _ => SecureWorld.Rearmed) c c')
    (h : c.world.Tending apps (Terms.agreed apps id login destination))
    (hin : id < c.world.channels.fresh) :
    c'.world.Tending apps (Terms.agreed apps id login destination) := by
  have hboth : c'.world.Tending apps (Terms.agreed apps id login destination) ∧
      id < c'.world.channels.fresh := by
    -- the number stays handed out, so no session that is opened later can have it
    refine run.preserves (P := fun c => c.world.Tending apps
      (Terms.agreed apps id login destination) ∧ id < c.world.channels.fresh) ?_ ⟨h, hin⟩
    intro c₁ c₂ call driver ⟨h, hlt⟩ hr hperform
    have hrearmed := h.rearmed hr
    have heffect := Client.effect_of_perform hperform
    have hmoves := Client.moves_effect hosts_driver hrearmed.accorded
      (fun destination login => World.admits_any _ _ destination login _) heffect
    refine ⟨World.Tending.effect (c := c₁.withDriver driver) hrearmed
      (fun app _ _ happ => ⟨happ, fun he => ?_⟩) heffect, Nat.lt_of_lt_of_le hlt hmoves.next_le⟩
    exact absurd he.symm (Nat.ne_of_lt hlt)
  exact hboth.1

/-- A session that was opened in the run of a client program is attended to on the terms that were
agreed on, wherever the run leads from there. -/
theorem of_opened {c₀ c₁ c : Client (SecureWorld κ)} {driver : SecureWorld κ}
    {context name : String} {login : UInt32 × Option UInt32} {opening : Option String}
    (before : Client.Steps SecureWorld.driver (fun _ => SecureWorld.Rearmed)
      (.start (.start apps)) c₀)
    (armed : SecureWorld.Rearmed c₀.world.driver driver)
    (opened : (c₀.withDriver driver).openSession SecureWorld.driver context name destination login
      opening = some (.ok id, c₁))
    (after : Client.Steps SecureWorld.driver (fun _ => SecureWorld.Rearmed) c₁ c) :
    ∃ method, ConnectionMethod.ofRaw login.1 login.2 = .ok method ∧
      c.world.Tending apps (Terms.agreed apps id method.login destination) := by
  obtain ⟨method, op, hmethod, hresult, hworld⟩ := Client.openSession_eq_ok opened
  obtain ⟨hid, hin⟩ := World.openSession_eq_fresh hresult
  -- up to the opening, at the opening, and after it
  have h₀ := steps_installed before
  have h₁ := (h₀.rearmed armed).openSession_agreed destination method op hid
  exact ⟨method, hmethod, steps_agreed after (hworld ▸ h₁) (hworld ▸ hin)⟩

end World.Tending

/-! ## Commands -/

/-- A client after a command that ended as a direct call did: the caller has the result, the
operation and the memory hold what the direct call left, the session is as active as before, and the
instance of the application is in the state that the direct call left it in. -/
structure Client.CalledDirectly (c : Client (SecureWorld κ)) (channel : Channel) (worker : Worker κ)
    (operation : Option String) (op : Option Operation) (out : (Except Status Unit × κ) × Direct)
    (result : Except Failure Origin) (c' : Client (SecureWorld κ)) : Prop where
  result : result = Call.reported out.1.1
  operations : c'.operations = (c.keepOperation operation (op.map (·.settle out.2))).operations
  memory : c'.world.memory = out.2.memory
  channels : c'.world.channels = c.world.channels
  session : c'.world.driver.sessions.get? channel.handle
    = some { worker with state := out.1.2 }

/-- A command that ends as a direct call did reaches the client program so. -/
theorem Client.invoke_direct {c : Client (SecureWorld κ)} {session : String} {s : Session}
    {command : UInt32} {operation : Option String} {op : Option Operation} {channel : Channel}
    {worker : Worker κ} {out : (Except Status Unit × κ) × Direct}
    (hsession : c.sessions.get? session = some s) (hop : c.operation? operation = some op)
    (hend : Call.EndedDirectly channel worker op c.world.channels out
      (c.world.invoke SecureWorld.driver s.channel command op)) :
    ∃ result c', c.invoke SecureWorld.driver session command operation = some (result, c') ∧
      c.CalledDirectly channel worker operation op out result c' := by
  generalize he : c.world.invoke SecureWorld.driver s.channel command op = e at hend
  have hworld := (keepOperation_eq { c with world := e.world } operation e.operation).1
  refine ⟨e.result, { c with world := e.world }.keepOperation operation e.operation, ?_,
    hend.result, ?_, ?_, ?_, ?_⟩
  · unfold Client.invoke
    simp only [hsession, hop, he]
  · rw [hend.operation]
    unfold keepOperation
    split <;> rfl
  · rw [hworld]
    exact hend.memory
  · rw [hworld]
    exact hend.channels
  · rw [hworld]
    exact hend.session

/-- Where no fault is armed, a command on an active session that a worker attends to is a direct
call of the worker's application. -/
theorem Client.command_direct {c : Client (SecureWorld κ)} {calm : SecureWorld κ} {id : ChannelId}
    {channel : Channel} {worker : Worker κ} {p : Page} {session : String} {s : Session}
    {command : UInt32} {operation : Option String} {op : Option Operation}
    {out : (Except Status Unit × κ) × Direct} (hget : c.world.channels.get? id = some channel)
    (hactive : channel.active = true) (hattended : c.world.Attended channel worker p)
    (hrearmed : SecureWorld.Rearmed c.world.driver calm) (hcalm : calm.Calm)
    (hsession : c.sessions.get? session = some s) (hid : s.channel = id)
    (hop : c.operation? operation = some op) (hs : (Operation.paramsOf op).Sendable)
    (hdirect : worker.app.direct command worker.state (Call.setting op p worker) c.world.memory
      = some out) :
    ∃ result c', (c.withDriver calm).invoke SecureWorld.driver session command operation
        = some (result, c') ∧
      (c.withDriver calm).CalledDirectly channel worker operation op out result c' := by
  have hsessions : calm.sessions = c.world.driver.sessions := by
    obtain ⟨faults, rfl⟩ := hrearmed
    rfl
  have hknown : calm.sessions.get? channel.handle = some worker := hsessions ▸ hattended.known
  refine Client.invoke_direct (c := c.withDriver calm) hsession hop ?_
  rw [hid]
  exact World.invoke_direct (w := (c.withDriver calm).world) command hget hactive
    ⟨hknown, hattended.serves, hattended.alive, hattended.drained, hattended.page⟩ hcalm hs hdirect

/-- In every run of a client program on the simulated secure world, with faults armed in any way
before each call, a session that is still active has a worker with the application installed for the
destination that the session was opened for. Where no fault is armed, a command on the session
behaves as a direct call of that application: on the command, on the parameters of the operation,
and with the login and the destination of the opening. Only when as many sessions were opened as
there are handles can the driver have given the handle of the session to another one; the session
must still have it then. -/
theorem commands_are_direct_calls {apps : Table Uuid (App κ)} {c₀ c₁ c : Client (SecureWorld κ)}
    {driver : SecureWorld κ} {context name : String} {destination : Uuid}
    {login : UInt32 × Option UInt32} {opening : Option String} {id : ChannelId} {channel : Channel}
    (before : Client.Steps SecureWorld.driver (fun _ => SecureWorld.Rearmed)
      (.start (.start apps)) c₀)
    (armed : SecureWorld.Rearmed c₀.world.driver driver)
    (opened : (c₀.withDriver driver).openSession SecureWorld.driver context name destination login
      opening = some (.ok id, c₁))
    (after : Client.Steps SecureWorld.driver (fun _ => SecureWorld.Rearmed) c₁ c)
    (hget : c.world.channels.get? id = some channel) (hactive : channel.active = true)
    (handles : UInt32.size ≤ c.world.driver.usage.opens → ¬ c.world.Reassigned channel) :
    ∃ app method worker, apps.get? destination = some app ∧
      ConnectionMethod.ofRaw login.1 login.2 = .ok method ∧
      c.world.driver.sessions.get? channel.handle = some worker ∧ worker.app = app ∧
      ∀ calm session s command operation op out, SecureWorld.Rearmed c.world.driver calm →
        calm.Calm → c.sessions.get? session = some s → s.channel = id →
        c.operation? operation = some op → (Operation.paramsOf op).Sendable →
        app.direct command worker.state ⟨Operation.paramsOf op, destination, method.login⟩
          c.world.memory = some out →
        ∃ result c', (c.withDriver calm).invoke SecureWorld.driver session command operation
            = some (result, c') ∧
          (c.withDriver calm).CalledDirectly channel worker operation op out result c' := by
  obtain ⟨method, hmethod, htending⟩ := World.Tending.of_opened before armed opened after
  obtain ⟨worker, p, hattended, happ, hagreed⟩ := htending.attended hget hactive handles
  obtain ⟨hlogin, hdestination⟩ := hagreed rfl
  refine ⟨worker.app, method, worker, hdestination ▸ happ, hmethod, hattended.known, rfl, ?_⟩
  intro calm session s command operation op out hrearmed hcalm hsession hid' hop hs hdirect
  -- the worker serves with the login and destination of the opening
  have hsetting : Call.setting op p worker
      = ⟨Operation.paramsOf op, destination, method.login⟩ := by
    unfold Call.setting
    rw [hlogin, hdestination]
  rw [← hsetting] at hdirect
  exact Client.command_direct hget hactive hattended hrearmed hcalm hsession hid' hop hs hdirect

/-! A command of an application that swaps the pair in one slot and reverses the bytes in
another. -/

namespace Swapper

/-- The application. It counts the commands that it served. -/
def app : App Nat where
  initial := 0
  opening state := .finish (.ok ()) state
  command _ state := .ask (.value 0) fun pair => .ask (.setValue 0 pair.2 pair.1) fun _ =>
    .ask (.read 1) fun data => .ask (.write 1 (data.getD []).reverse) fun result =>
      .finish result (state + 1)
  closing state := .finish (.ok ()) state

/-- The applications installed. -/
def apps : Table Uuid (App Nat) := Table.ofList [(.nil, app)]

/-- A program from a client on, with no faults armed. -/
def program (c : Client (SecureWorld Nat)) (calls : List ClientCall) :
    Option (Client (SecureWorld Nat)) :=
  c.performAll SecureWorld.driver (fun _ driver => driver) calls

/-- The opening of a session. -/
def opening (c : Client (SecureWorld Nat)) :
    Option (Except Failure ChannelId × Client (SecureWorld Nat)) :=
  c.openSession SecureWorld.driver "tee" "session" .nil (0, none) none

/-- The client before a session is opened, the session, and the client after that and when an
operation is built. -/
def stages? : Option (Client (SecureWorld Nat) × ChannelId × Client (SecureWorld Nat) ×
    Client (SecureWorld Nat)) :=
  (program (.start (.start apps)) [.openContext "tee" none .default]).bind fun c₀ =>
    (opening c₀).bind fun opened => match opened with
      | (.error _, _) => none
      | (.ok id, c₁) => (program c₁ [.newOperation "op"
          ⟨.value .inout 3 4, .temporary .inout [1, 2, 3, 4], .unused, .unused⟩]).map fun c =>
        (c₀, id, c₁, c)

/-- The operation. -/
def op : Operation :=
  ⟨⟨.value .inout 3 4, .temporary .inout (some 0) 4, .unused, .unused⟩, 0⟩

/-- The direct call of the command, from the memory of a client. -/
def direct (c : Client (SecureWorld Nat)) : Option ((Except Status Unit × Nat) × Direct) :=
  app.direct 9 0 ⟨op.params, .nil, ⟨0, 0⟩⟩ c.world.memory

/-- The session is active, with an instance in its first state, the operation is built, and no fault
is armed. -/
def ready (id : ChannelId) (c : Client (SecureWorld Nat)) : Bool :=
  (c.world.channels.get? id).any (fun channel => channel.active &&
    (c.world.driver.sessions.get? channel.handle).map Worker.state == some 0) &&
  (c.sessions.get? "session").map Session.channel == some id &&
  c.operations.get? "op" == some op && c.world.driver.usage.opens == 1 &&
  c.world.driver.faults == ⟨none, none, none, false, none, none⟩

/-- A direct call that succeeded has swapped the pair and reversed the bytes. -/
def swapped (out : (Except Status Unit × Nat) × Direct) : Bool :=
  out.1.1.isOk && out.1.2 == 1 && out.2.arguments.slot0 == .value 4 3 &&
    out.2.memory.read ⟨0, 0⟩ 4 == [4, 3, 2, 1]

/-- The stages are reached one after the other. -/
theorem of_stages {c₀ c₁ c : Client (SecureWorld Nat)} {id : ChannelId}
    (h : stages? = some (c₀, id, c₁, c)) :
    Client.Steps SecureWorld.driver (fun _ => SecureWorld.Rearmed) (.start (.start apps)) c₀ ∧
      opening c₀ = some (.ok id, c₁) ∧
      Client.Steps SecureWorld.driver (fun _ => SecureWorld.Rearmed) c₁ c := by
  obtain ⟨c₀', h₀, h⟩ := Option.bind_eq_some_iff.1 h
  obtain ⟨⟨e | id', c₁'⟩, h₁, h⟩ := Option.bind_eq_some_iff.1 h
  · cases h
  obtain ⟨c', h₂, he⟩ := Option.map_eq_some_iff.1 h
  cases he
  exact ⟨Client.steps_performAll (fun _ _ => ⟨_, rfl⟩) h₀, h₁,
    Client.steps_performAll (fun _ _ => ⟨_, rfl⟩) h₂⟩

/-- The operation can be sent. -/
theorem sendable_op : op.params.Sendable where
  planned slot := by
    have h : ∀ slot, (op.params.get slot).plan.isOk = true := by decide
    cases hp : (op.params.get slot).plan with
    | ok plan => exact ⟨plan, rfl⟩
    | error refusal =>
      have hs := h slot
      rw [hp] at hs
      cases hs
  fits := by decide

end Swapper

/-- The command succeeds, and the operation, the memory and the instance hold what the direct call
left. -/
theorem commands_are_direct_calls_swapper : ∃ c₀ id c₁ c result c',
    Swapper.stages? = some (c₀, id, c₁, c) ∧
    c.invoke SecureWorld.driver "session" 9 (some "op") = some (result, c') ∧
    result = .ok .trustedApp ∧
    (c'.operations.get? "op").map (·.param 0) = some (.value .inout 4 3) ∧
    c'.world.memory.read ⟨0, 0⟩ 4 = [4, 3, 2, 1] := by
  obtain ⟨⟨c₀, id, c₁, c⟩, hstages⟩ :=
    Option.isSome_iff_exists.1 (show Swapper.stages?.isSome = true by decide +kernel)
  have hready := (show ∀ s ∈ Swapper.stages?, Swapper.ready s.2.1 s.2.2.2 = true ∧
    (Swapper.direct s.2.2.2).any Swapper.swapped = true by decide +kernel) _ hstages
  obtain ⟨hready, hswapped⟩ := hready
  simp only [Swapper.ready, Bool.and_eq_true, beq_iff_eq] at hready
  obtain ⟨⟨⟨⟨hchannel, hsession⟩, hop⟩, hopens⟩, hfaults⟩ := hready
  obtain ⟨channel, hget, hchannel⟩ := (Option.any_eq_true _ _).1 hchannel
  simp only [Bool.and_eq_true, beq_iff_eq] at hchannel
  obtain ⟨hactive, hstate⟩ := hchannel
  obtain ⟨s, hsession, hid⟩ := Option.map_eq_some_iff.1 hsession
  obtain ⟨out, hdirect, hswapped⟩ := (Option.any_eq_true _ _).1 hswapped
  obtain ⟨before, opened, after⟩ := Swapper.of_stages hstages
  obtain ⟨app, method, worker, happ, hmethod, hworker, -, hcommands⟩ :=
    commands_are_direct_calls before ⟨_, rfl⟩ opened after hget hactive
      (fun hge => absurd (hopens ▸ (by decide : 1 < UInt32.size)) (Nat.not_lt.2 hge))
  obtain rfl : Swapper.app = app := Option.some.inj happ
  obtain rfl : ConnectionMethod.everyone = method := Except.ok.inj hmethod
  rw [hworker, Option.map_some, Option.some.injEq] at hstate
  obtain ⟨result, c', hinvoke, hcalled⟩ := hcommands c.world.driver "session" s 9 (some "op")
    (some Swapper.op) out ⟨_, rfl⟩ hfaults hsession hid (congrArg (Option.map some) hop)
    Swapper.sendable_op (by rw [hstate]; exact hdirect)
  simp only [Swapper.swapped, Bool.and_eq_true, beq_iff_eq] at hswapped
  obtain ⟨⟨⟨hok, -⟩, hpair⟩, hbytes⟩ := hswapped
  refine ⟨c₀, id, c₁, c, result, c', hstages, hinvoke, ?_, ?_, hcalled.memory ▸ hbytes⟩
  · rw [hcalled.result]
    cases hresult : out.1.1 with
    | ok _ => rfl
    | error code =>
      rw [hresult] at hok
      cases hok
  · rw [hcalled.operations, show ((c.withDriver _).keepOperation (some "op") _).operations
      = c.operations.set "op" (Swapper.op.settle out.2) from rfl, Table.get?_set_self]
    simp only [Option.map_some, Operation.param, Operation.settle, Slots.get_ofFn]
    show some (Parameter.settle (.value .inout 3 4) out.2.arguments.slot0) = _
    rw [hpair]
    rfl

end TeeClient

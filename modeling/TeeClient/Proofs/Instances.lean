import TeeClient.Proofs.Trips

/-!
# The life of an instance

Each session has an instance of its application behind it, which serves the page of the session and
no other; pages are not handed out twice. So the entry points that ran on an instance are those that
ran on its page. They are those of a whole life or of its beginning (`Instruction.course`): the
session is opened, commands are invoked on it, and it is closed.

Main statements:

* `Stage.Manned.move`: between two calls every worker is alive and has its page for itself;
* `Client.InCourse.perform`: every call adds the entry point that comes next, or none;
* `Client.Over.perform`: on an instance that is over nothing runs any more;
* `instances_run_in_order`: the three together, after every run of a client program.
-/

namespace TeeClient

variable {σ κ : Type}

/-- The entry points of a whole life, with so many commands. -/
def Instruction.course (commands : Nat) : List Instruction :=
  .openSession :: (List.replicate commands .invokeCommand ++ [.closeSession])

namespace Run

/-- The entry points that ran on the instance behind a page, the oldest first. -/
def entries (runs : List Run) (page : PageId) : List Instruction :=
  ((runs.filter fun run => run.pageId = page).map Run.instruction).reverse

/-- One more entry point on an instance. -/
theorem entries_cons_self {run : Run} {page : PageId} (h : run.pageId = page) (runs : List Run) :
    entries (run :: runs) page = entries runs page ++ [run.instruction] := by
  simp [entries, h]

/-- An entry point that is run behind another page is not one of the `Run.entries` of a page. -/
theorem entries_cons_ne {run : Run} {page : PageId} (h : run.pageId ≠ page) (runs : List Run) :
    entries (run :: runs) page = entries runs page := by
  simp [entries, h]

end Run

/-- The beginning of a life that is not over. -/
theorem Instruction.prefix_course (commands : Nat) :
    .openSession :: List.replicate commands .invokeCommand <+: course commands :=
  ⟨[.closeSession], rfl⟩

/-- One more command. -/
theorem Instruction.replicate_concat (commands : Nat) :
    (.openSession :: List.replicate commands .invokeCommand) ++ [Instruction.invokeCommand]
      = .openSession :: List.replicate (commands + 1) .invokeCommand := by
  rw [List.replicate_succ', List.cons_append]

/-! ## Workers -/

/-- Every worker is alive and has a page for itself, one that was handed out. -/
structure Stage.Manned (s : Stage κ) : Prop where
  alive : ∀ handle worker, s.scene.workers handle = some worker → worker.alive = true
  lodged : ∀ handle worker, s.scene.workers handle = some worker → worker.page < s.scene.fresh
  apart : ∀ handle handle' worker worker', s.scene.workers handle = some worker →
    s.scene.workers handle' = some worker' → worker.page = worker'.page → handle = handle'

/-- Every worker is one of before with its instance, or has a page that is new. -/
def Stage.Succeeds (s s' : Stage κ) : Prop :=
  ∀ handle later, s'.scene.workers handle = some later →
    (∃ worker, s.scene.workers handle = some worker ∧ later.page = worker.page ∧
      later.app = worker.app ∧ later.login = worker.login) ∨ s.scene.fresh ≤ later.page

namespace Stage

variable {admitted : Admission κ} {s s' : Stage κ}

/-- Workers that were there before, with their pages and alive, are in order. -/
theorem Manned.of_workers (h : s.Manned) (hfresh : s.scene.fresh ≤ s'.scene.fresh)
    (hw : ∀ handle later, s'.scene.workers handle = some later → ∃ worker,
      s.scene.workers handle = some worker ∧ later.page = worker.page ∧
      later.alive = worker.alive) : s'.Manned where
  alive handle later hl := by
    obtain ⟨worker, hworker, -, halive⟩ := hw handle later hl
    exact halive.trans (h.alive handle worker hworker)
  lodged handle later hl := by
    obtain ⟨worker, hworker, hpage, -⟩ := hw handle later hl
    rw [hpage]
    exact Nat.lt_of_lt_of_le (h.lodged handle worker hworker) hfresh
  apart handle handle' later later' hl hl' he := by
    obtain ⟨worker, hworker, hpage, -⟩ := hw handle later hl
    obtain ⟨worker', hworker', hpage', -⟩ := hw handle' later' hl'
    exact h.apart handle handle' worker worker' hworker hworker'
      (by rw [← hpage, ← hpage', he])

/-- The worker that a session has when a request was served and its completion delivered. -/
theorem worker_of_served {channel : Channel} {worker later : Worker κ} {page : Page}
    {f : Page → Page} {v v' : Scene κ} {handle : Handle}
    (hworker : v.workers channel.handle = some worker)
    (hs : Scene.Served channel.handle worker page (v.onPage channel.page f) v')
    (halive : ∀ later, v'.workers channel.handle = some later → later.alive = worker.alive)
    (hl : (v'.drain channel.handle).workers handle = some later) : ∃ before,
      v.workers handle = some before ∧ later.page = before.page ∧ later.alive = before.alive ∧
      later.app = before.app ∧ later.login = before.login := by
  simp only [Scene.drain, Staff.drain, Staff.assign] at hl
  split at hl
  next he =>
    obtain ⟨kept, hkept, hcontinues⟩ := hs.kept
    rw [hkept, Option.map_some, Option.some.injEq] at hl
    subst hl
    exact ⟨worker, he ▸ hworker, hcontinues.page, halive kept hkept, hcontinues.app,
      hcontinues.login⟩
  next hne => exact ⟨later, (hs.coworkers handle hne).symm.trans hl, rfl, rfl, rfl, rfl⟩

/-- The workers that are left when one was dismissed. -/
theorem worker_of_dismissed {channel : Channel} {later : Worker κ} {v v' : Scene κ}
    {handle : Handle}
    (hu : Scene.Unrelated channel v v')
    (hl : (v'.dismiss channel.handle).workers handle = some later) :
    v.workers handle = some later := by
  simp only [Scene.dismiss, Staff.assign] at hl
  split at hl
  · cases hl
  next hne => exact hu.workers handle hne ▸ hl

/-- Every move keeps the workers in order. -/
theorem Manned.move (h : s.Manned) (hm : Move admitted s s') : s'.Manned := by
  cases hm with
  | withdrawn hget hf => exact h.of_workers (Nat.le_refl _) fun _ later hl => ⟨later, hl, rfl, rfl⟩
  | served hget hworker hpage hf hfound hserved halive =>
    refine h.of_workers (Nat.le_of_eq hserved.fresh.symm) fun handle later hl => ?_
    obtain ⟨before, hbefore, hpage, hal, -⟩ := worker_of_served hworker hserved halive hl
    exact ⟨before, hbefore, hpage, hal⟩
  | dismissed hget hactive hu =>
    exact h.of_workers (Nat.le_of_eq hu.fresh.symm) fun _ later hl =>
      ⟨later, worker_of_dismissed hu hl, rfl, rfl⟩
  | forgotten hget => exact h.of_workers (Nat.le_refl _) fun _ later hl => ⟨later, hl, rfl, rfl⟩
  | refused page => exact h.of_workers (Nat.le_succ _) fun _ later hl => ⟨later, hl, rfl, rfl⟩
  | @opened handle worker login destination hstarts hadmitted =>
    -- each worker is the new one, or one of before
    have hw : ∀ handle' later, ((s.scene.lay (Page.blank.setDestination destination)).hire handle
        worker).workers handle' = some later →
        (handle' = handle ∧ later = worker) ∨ s.scene.workers handle' = some later := by
      intro handle' later hl
      simp only [Scene.hire, Staff.assign] at hl
      split at hl
      next he =>
        cases hl
        exact .inl ⟨he, rfl⟩
      · exact .inr hl
    have hnew := hstarts.page
    refine ⟨fun handle' later hl => ?_, fun handle' later hl => ?_,
      fun handle' handle'' later later' hl hl' he => ?_⟩
    · rcases hw handle' later hl with ⟨-, rfl⟩ | hl
      · exact hstarts.alive
      · exact h.alive handle' later hl
    · show later.page < s.scene.fresh + 1
      rcases hw handle' later hl with ⟨-, rfl⟩ | hl
      · exact hnew ▸ Nat.lt_succ_self _
      · exact Nat.lt_succ_of_lt (h.lodged handle' later hl)
    · rcases hw handle' later hl with ⟨rfl, rfl⟩ | hold <;>
        rcases hw handle'' later' hl' with ⟨rfl, rfl⟩ | hold'
      · rfl
      · exact absurd (he.symm.trans hnew) (Nat.ne_of_lt (h.lodged _ _ hold'))
      · exact absurd (he.trans hnew) (Nat.ne_of_lt (h.lodged _ _ hold))
      · exact h.apart _ _ _ _ hold hold' he

/-- One move after the other keeps the workers in order. -/
theorem Manned.moves (h : s.Manned) (hm : Moves admitted s s') : s'.Manned := by
  induction hm with
  | refl => exact h
  | tail _ hm ih => exact ih.move hm

/-- A move puts no other instance behind a page. -/
theorem succeeds_move (hm : Move admitted s s') : s.Succeeds s' := by
  intro handle later hl
  cases hm with
  | withdrawn | forgotten | refused => exact .inl ⟨later, hl, rfl, rfl, rfl⟩
  | served hget hworker hpage hf hfound hserved halive =>
    obtain ⟨before, hbefore, hpage, -, happ, hlogin⟩ :=
      worker_of_served hworker hserved halive hl
    exact .inl ⟨before, hbefore, hpage, happ, hlogin⟩
  | dismissed hget hactive hu =>
    exact .inl ⟨later, worker_of_dismissed hu hl, rfl, rfl, rfl⟩
  | @opened handle' worker login destination hstarts hadmitted =>
    simp only [Scene.hire, Staff.assign] at hl
    split at hl
    · cases hl
      exact .inr (Nat.le_of_eq hstarts.page.symm)
    · exact .inl ⟨later, hl, rfl, rfl, rfl⟩

/-- One move after the other puts no other instance behind a page. -/
theorem succeeds_moves (hm : Moves admitted s s') : s.Succeeds s' := by
  induction hm with
  | refl => exact fun handle later hl => .inl ⟨later, hl, rfl, rfl, rfl⟩
  | tail hms hm ih =>
    intro handle later hl
    rcases succeeds_move hm handle later hl with ⟨between, hb, hpage, happ, hlogin⟩ | hnew
    · rcases ih handle between hb with ⟨worker, hw, hpage', happ', hlogin'⟩ | hnew
      · exact .inl ⟨worker, hw, hpage.trans hpage', happ.trans happ', hlogin.trans hlogin'⟩
      · exact .inr (hpage ▸ hnew)
    · exact .inr (Nat.le_trans (Moves.fresh_le hms) hnew)

end Stage

/-! ## What a call runs -/

namespace Trip

variable {D : Driver σ} {secure : σ → SecureWorld κ} {c c' : Client σ} {t : Trip σ} {w' : World σ}

/-- What a round trip adds to the life of its own instance, and to no other: its entry point at
most, and exactly that if it succeeds. -/
theorem Leaves.entries (h : Hosts D secure) (hb : c.Boards secure t) (hl : t.Leaves D w') :
    let before := Run.entries (secure c.world.driver).runs
    let after := Run.entries (secure w'.driver).runs
    (∀ page, page ≠ t.channel.page → after page = before page) ∧
      (after t.channel.page = before t.channel.page ∧ (t.carry D).result.isOk = false ∨
        after t.channel.page = before t.channel.page ++ [t.instruction]) := by
  have honce := hl.once h hb
  have hentered : ∀ runs, Entered t.channel t.instruction t.command t.op
      (secure c.world.driver).runs runs →
      (∀ page, page ≠ t.channel.page →
        Run.entries runs page = Run.entries (secure c.world.driver).runs page) ∧
      Run.entries runs t.channel.page
        = Run.entries (secure c.world.driver).runs t.channel.page ++ [t.instruction] := by
    rintro runs ⟨found, -, -, rfl⟩
    exact ⟨fun page hne => Run.entries_cons_ne hne.symm _, Run.entries_cons_self rfl _⟩
  have hone := hb.runs ▸ honce.atMostOnce
  cases hr : (t.carry D).result with
  | ok origin =>
    -- a call that succeeds has had its entry point run
    have hexactly := hb.runs ▸ honce.exactlyOnce fun failure hf => by
      rw [hr] at hf
      cases hf
    obtain ⟨hother, hown⟩ := hentered _ hexactly
    exact ⟨hother, .inr hown⟩
  | error failure =>
    rcases hone with hsame | hran
    · rw [hsame]
      exact ⟨fun _ _ => rfl, .inl ⟨rfl, rfl⟩⟩
    · obtain ⟨hother, hown⟩ := hentered _ hran
      exact ⟨hother, .inr hown⟩

end Trip

namespace Client

variable (secure : σ → SecureWorld κ)

/-- The entry points that ran on the instance behind a page. -/
def entries (c : Client σ) (page : PageId) : List Instruction :=
  Run.entries (secure c.world.driver).runs page

/-- The life of the instance behind a page is over: the page was handed out, and no active session
has it. -/
structure Over (c : Client σ) (page : PageId) : Prop where
  handedOut : page < c.world.pages.fresh
  inactive : ∀ id channel, c.world.channels.get? id = some channel → channel.page = page →
    channel.active = false

/-- The instances of the sessions live in order. -/
structure InCourse (c : Client σ) : Prop where
  /-- Every instance has had a whole life, or the beginning of one. -/
  ordered : ∀ page, ∃ commands, c.entries secure page <+: Instruction.course commands
  /-- The instance of an active session was opened, and not closed. -/
  opened : ∀ id channel, c.world.channels.get? id = some channel → channel.active = true →
    ∃ commands, c.entries secure channel.page
      = .openSession :: List.replicate commands .invokeCommand
  /-- Nothing has run on pages that were not handed out. -/
  unused : ∀ page, c.world.pages.fresh ≤ page → c.entries secure page = []

/-- What a call has run: nothing, or the entry point that its instance is due. -/
inductive Ran (c c' : Client σ) : ClientCall → Prop
  | nothing {call : ClientCall}
    (same : (secure c'.world.driver).runs = (secure c.world.driver).runs) : Ran c c' call
  /-- A session was to be opened, with an instance of its own. -/
  | opened {context session : String} {destination : Uuid} {login : UInt32 × Option UInt32}
    {operation : Option String} {run : Run}
    (entered : (secure c'.world.driver).runs = run :: (secure c.world.driver).runs)
    (instruction : run.instruction = .openSession) (new : run.pageId = c.world.pages.fresh) :
    Ran c c' (.openSession context session destination login operation)
  /-- A command was invoked on an active session that the client has. -/
  | commanded {session : String} {command : UInt32} {operation : Option String} {s : Session}
    {channel : Channel} {run : Run}
    (entered : (secure c'.world.driver).runs = run :: (secure c.world.driver).runs)
    (instruction : run.instruction = .invokeCommand) (named : c.sessions.get? session = some s)
    (known : c.world.channels.get? s.channel = some channel) (active : channel.active = true)
    (own : run.pageId = channel.page) : Ran c c' (.invoke session command operation)
  /-- A session that the client has was closed while it was active. -/
  | closed {session : String} {s : Session} {channel : Channel} {run : Run}
    (entered : (secure c'.world.driver).runs = run :: (secure c.world.driver).runs)
    (instruction : run.instruction = .closeSession) (named : c.sessions.get? session = some s)
    (known : c.world.channels.get? s.channel = some channel) (active : channel.active = true)
    (own : run.pageId = channel.page) (finished : c'.Over channel.page) :
    Ran c c' (.closeSession session)

variable {secure} {D : Driver σ} {c c' : Client σ} {call : ClientCall} {t : Trip σ}

section Steps

variable (h : Hosts D secure) (hacc : c.world.Accorded secure) (hp : c.perform D call = some c')
include h hacc hp

/-- What a call does to scene and sessions, whatever is armed. -/
theorem moves_perform :
    Moves .any (c.world.stage secure) (c'.world.stage secure) :=
  moves_effect h hacc (fun destination login => World.admits_any _ _ destination login _)
    (effect_of_perform hp)

/-- Pages are handed out in order. -/
theorem fresh_perform : c.world.pages.fresh ≤ c'.world.pages.fresh :=
  Moves.fresh_le (moves_perform h hacc hp)

/-- A session that is active after a round trip is its own, or one of before with another page. -/
theorem Carries.apart (hc : c.Carries D call t) {id : ChannelId} {channel : Channel}
    (hget : c'.world.channels.get? id = some channel) (ha : channel.active = true) :
    id = t.id ∧ channel = t.channel ∨
      channel.page ≠ t.channel.page ∧ c.world.channels.get? id = some channel := by
  have hb := hc.boards h hacc
  obtain ⟨before, hbefore, -, hsame⟩ := (hc.leaves hp).fewer id channel hget
  rw [hsame ha] at hbefore
  by_cases hid : id = t.id
  · rw [hid, hb.known, Option.some.injEq] at hbefore
    exact .inl ⟨hid, hbefore.symm⟩
  · refine .inr ⟨fun he => hid (hb.accorded.apart id t.id channel t.channel hbefore hb.known he),
      ?_⟩
    rcases hc.begins with ⟨-, -, hadopted⟩ | ⟨-, hworld⟩
    · rw [hadopted, Channels.adopt, if_neg hid] at hbefore
      exact hbefore
    · rw [← hworld]
      exact hbefore

/-- The page of a round trip was handed out. -/
theorem Carries.page_lt (hc : c.Carries D call t) : t.channel.page < c'.world.pages.fresh := by
  have hb := hc.boards h hacc
  exact Nat.lt_of_lt_of_le (hb.accorded.housed t.id t.channel hb.known)
    (Moves.fresh_le ((hc.leaves hp).moves h hb))

/-- A round trip whose session is inactive or gone afterwards leaves an instance whose life is
over. -/
theorem Carries.finishes (hc : c.Carries D call t)
    (hown : ∀ channel, c'.world.channels.get? t.id = some channel → channel.active = false) :
    c'.Over t.channel.page where
  handedOut := hc.page_lt h hacc hp
  inactive id channel hget hpage := by
    refine Bool.eq_false_iff.2 fun ha => ?_
    rcases hc.apart h hacc hp hget ha with ⟨rfl, -⟩ | ⟨hne, -⟩
    · rw [hown channel hget] at ha
      cases ha
    · exact hne hpage

/-- The session that a call closes was active, and the life of its instance is over. -/
theorem Carries.finishes_of_closing (hc : c.Carries D call t) (hi : t.instruction = .closeSession) :
    c'.Over t.channel.page :=
  hc.finishes h hacc hp fun channel hget => by
    rw [(hc.leaves hp).eq_none (.inl hi)] at hget
    cases hget

/-- Every call runs nothing, or the entry point that its instance is due. -/
theorem ran_of_perform : Ran secure c c' call := by
  rcases carries_of_perform h hacc hp with ⟨t, hc⟩ | ⟨hruns, -⟩
  · have hb := hc.boards h hacc
    have hone := hb.runs ▸ ((hc.leaves hp).once h hb).atMostOnce
    rcases hone with hsame | ⟨found, -, -, hran⟩
    · exact .nothing hsame
    · have hover := hc.finishes_of_closing h hacc hp
      cases hc with
      | opening supported given admitted => exact .opened hran rfl rfl
      | command named given known active => exact .commanded hran rfl named known active rfl
      | closing named known active =>
        exact .closed hran rfl named known active rfl (hover rfl)
  · exact .nothing hruns

/-- Every call keeps the lives of the instances in order. -/
theorem InCourse.perform (ho : c.InCourse secure) : c'.InCourse secure := by
  have hfresh := fresh_perform h hacc hp
  rcases carries_of_perform h hacc hp with ⟨t, hc⟩ | ⟨hruns, hfewer⟩
  · have hb := hc.boards h hacc
    have hl := hc.leaves hp
    obtain ⟨hother, hown⟩ := hl.entries h hb
    -- it is enough to look at the instance of the round trip
    have hall : (∃ commands, c'.entries secure t.channel.page <+: Instruction.course commands) →
        (∀ channel, c'.world.channels.get? t.id = some channel → channel.active = true →
          ∃ commands, c'.entries secure t.channel.page
            = .openSession :: List.replicate commands .invokeCommand) → c'.InCourse secure := by
      intro hordered hopened
      refine ⟨fun page => ?_, fun id channel hget ha => ?_, fun page hpage => ?_⟩
      · by_cases he : page = t.channel.page
        · rw [he]
          exact hordered
        · obtain ⟨commands, hprefix⟩ := ho.ordered page
          refine ⟨commands, ?_⟩
          rw [show c'.entries secure page = c.entries secure page from hother page he]
          exact hprefix
      · rcases hc.apart h hacc hp hget ha with ⟨rfl, rfl⟩ | ⟨hne, hbefore⟩
        · exact hopened _ hget ha
        · obtain ⟨commands, he⟩ := ho.opened id channel hbefore ha
          exact ⟨commands, (hother _ hne).trans he⟩
      · have hne : page ≠ t.channel.page := fun he =>
          absurd (he ▸ hc.page_lt h hacc hp) (Nat.not_lt.2 hpage)
        exact (hother page hne).trans (ho.unused page (Nat.le_trans hfresh hpage))
    have hgone := hl.eq_none
    cases hc with
    | opening supported given admitted =>
      -- nothing has run on the new instance so far
      have hbefore := ho.unused c.world.pages.fresh (Nat.le_refl _)
      rcases hown with ⟨hsame, hfails⟩ | hran
      · refine hall ⟨0, ?_⟩ fun channel hget _ => ?_
        · rw [show c'.entries secure c.world.pages.fresh = [] from hsame.trans hbefore]
          exact List.nil_prefix
        · rw [hgone (.inr ⟨rfl, hfails⟩)] at hget
          cases hget
      · have hafter : c'.entries secure c.world.pages.fresh = [.openSession] :=
          hran.trans (congrArg (· ++ [Instruction.openSession]) hbefore)
        exact hall ⟨0, hafter ▸ Instruction.prefix_course 0⟩ fun _ _ _ => ⟨0, hafter⟩
    | @command _ _ _ s op channel named given known active =>
      obtain ⟨commands, hbefore⟩ := ho.opened s.channel channel known active
      have hafter : ∃ commands, c'.entries secure channel.page
          = .openSession :: List.replicate commands .invokeCommand := by
        rcases hown with ⟨hsame, -⟩ | hran
        · exact ⟨commands, hsame.trans hbefore⟩
        · exact ⟨commands + 1,
            hran.trans ((congrArg (· ++ [Instruction.invokeCommand]) hbefore).trans
              (Instruction.replicate_concat commands))⟩
      refine hall ?_ fun _ _ _ => hafter
      obtain ⟨commands', hafter⟩ := hafter
      exact ⟨commands', hafter ▸ Instruction.prefix_course commands'⟩
    | @closing _ s channel named known active =>
      obtain ⟨commands, hbefore⟩ := ho.opened s.channel channel known active
      refine hall ⟨commands, ?_⟩ fun channel hget _ => ?_
      · rcases hown with ⟨hsame, -⟩ | hran
        · rw [show c'.entries secure channel.page = _ from hsame.trans hbefore]
          exact Instruction.prefix_course commands
        · have hnow : c'.entries secure channel.page = Instruction.course commands :=
            hran.trans (congrArg (· ++ [Instruction.closeSession]) hbefore)
          exact hnow ▸ List.prefix_rfl
      · rw [hgone (.inl rfl)] at hget
        cases hget
  · have hsame : ∀ page, c'.entries secure page = c.entries secure page :=
      fun page => congrArg (Run.entries · page) hruns
    refine ⟨fun page => hsame page ▸ ho.ordered page, fun id channel hget ha => ?_,
      fun page hpage => (hsame page).trans (ho.unused page (Nat.le_trans hfresh hpage))⟩
    obtain ⟨before, hbefore, -, he⟩ := hfewer id channel hget
    rw [he ha] at hbefore
    exact hsame channel.page ▸ ho.opened id channel hbefore ha

/-- On an instance whose life is over nothing runs any more. -/
theorem Over.perform {page : PageId} (ho : c.Over page) :
    c'.Over page ∧ c'.entries secure page = c.entries secure page := by
  have hlt := Nat.lt_of_lt_of_le ho.handedOut (fresh_perform h hacc hp)
  rcases carries_of_perform h hacc hp with ⟨t, hc⟩ | ⟨hruns, hfewer⟩
  · have hb := hc.boards h hacc
    -- the session of the round trip is active, so it has another page
    have hne : page ≠ t.channel.page := by
      rintro rfl
      rcases hc.begins with ⟨-, hnew, -⟩ | ⟨-, hworld⟩
      · exact absurd (hnew ▸ ho.handedOut) (Nat.lt_irrefl _)
      · have hinactive := ho.inactive t.id t.channel (hworld ▸ hb.known) rfl
        rw [hb.active] at hinactive
        cases hinactive
    refine ⟨⟨hlt, fun id channel hget hpage => Bool.eq_false_iff.2 fun ha => ?_⟩,
      ((hc.leaves hp).entries h hb).1 page hne⟩
    rcases hc.apart h hacc hp hget ha with ⟨-, rfl⟩ | ⟨-, hbefore⟩
    · exact hne hpage.symm
    · rw [ho.inactive id channel hbefore hpage] at ha
      cases ha
  · refine ⟨⟨hlt, fun id channel hget hpage => Bool.eq_false_iff.2 fun ha => ?_⟩,
      congrArg (Run.entries · page) hruns⟩
    obtain ⟨before, hbefore, -, he⟩ := hfewer id channel hget
    rw [he ha] at hbefore
    rw [ho.inactive id channel hbefore hpage] at ha
    cases ha

end Steps

/-- A session that could not be opened leaves an instance whose life is over. -/
theorem over_of_openSession_error (h : Hosts D secure) (hacc : c.world.Accorded secure)
    {context session : String} {destination : Uuid} {login : UInt32 × Option UInt32}
    {operation : Option String} {failure : Failure}
    (hr : c.openSession D context session destination login operation = some (.error failure, c'))
    {page : PageId} (hnew : c.world.pages.fresh ≤ page) (hlt : page < c'.world.pages.fresh) :
    c'.Over page := by
  have hp : c.perform D (.openSession context session destination login operation) = some c' :=
    congrArg (Option.map Prod.snd) hr
  refine ⟨hlt, fun id channel hget hpage => Bool.eq_false_iff.2 fun ha => ?_⟩
  -- a session of before has an older page
  have hold : c.world.channels.get? id ≠ some channel := fun hbefore =>
    absurd (hpage ▸ hacc.housed id channel hbefore) (Nat.not_lt.2 hnew)
  rcases carries_of_perform h hacc hp with ⟨t, hc⟩ | ⟨-, hfewer⟩
  · rcases hc.apart h hacc hp hget ha with ⟨rfl, -⟩ | ⟨-, hbefore⟩
    · obtain ⟨hresult, -⟩ := hc.openSession_eq hr
      have hfails : (t.carry D).result.isOk = false := by
        cases hcarried : (t.carry D).result with
        | ok origin =>
          rw [hcarried] at hresult
          cases hresult
        | error failure' => rfl
      have hopening : t.instruction = .openSession := by cases hc; rfl
      rw [(hc.leaves hp).eq_none (.inr ⟨hopening, hfails⟩)] at hget
      cases hget
    · exact hold hbefore
  · obtain ⟨before, hbefore, -, he⟩ := hfewer id channel hget
    exact hold (he ha ▸ hbefore)

/-- A session that the client has was returned by the call that opened it, or was there before. -/
theorem sessions_perform (hp : c.perform D call = some c') {name : String} {s : Session}
    (hs : c'.sessions.get? name = some s) : c.sessions.get? name = some s ∨
      ∃ context destination login operation,
        call = .openSession context name destination login operation ∧
        c.openSession D context name destination login operation = some (.ok s.channel, c') := by
  have left : c'.sessions = c.sessions → c.sessions.get? name = some s := fun he => he ▸ hs
  cases effect_of_perform hp with
  | idle affairs => exact .inl (left (congrArg Affairs.sessions affairs))
  | openContext contexts new affairs => exact .inl (left (congrArg Affairs.sessions affairs))
  | closeContext held vacant affairs => exact .inl (left (congrArg Affairs.sessions affairs))
  | cancel id world sessions => exact .inl (left sessions)
  | invoke s' op named world sessions => exact .inl (left sessions)
  | closeSession s' named world sessions =>
    rw [sessions, Table.get?_erase] at hs
    split at hs
    · cases hs
    · exact .inl hs
  | @openSession context session destination login operation method op held new world sessions =>
    obtain ⟨⟨result, c'⟩, hr, rfl⟩ := Option.map_eq_some_iff.1 hp
    obtain ⟨-, op', -, hcase⟩ := openSession_cases hr
    cases hmethod : ConnectionMethod.ofRaw login.1 login.2 with
    | error fault =>
      simp only [hmethod] at hcase
      obtain ⟨-, journal, rfl⟩ := hcase
      exact .inl hs
    | ok method =>
      simp only [hmethod] at hcase
      obtain ⟨rfl, rfl⟩ := hcase
      -- the attempt enters its session under its own name, if it has opened one
      rw [(afterOpening_eq c context session operation _).2.1] at hs
      cases hresult : (c.world.openSession D destination method op').result with
      | error failure =>
        rw [hresult] at hs
        exact .inl hs
      | ok id =>
        rw [hresult] at hs hr
        simp only [Table.get?_set] at hs
        split at hs
        next hname =>
          cases hs
          rw [hname]
          exact .inr ⟨context, destination, login, operation, rfl, hr⟩
        · exact .inl hs

end Client

/-! ## Panics -/

/-- Ending a call leaves the scene. -/
@[simp] theorem Call.scene_ended (secure : σ → SecureWorld κ) (op : Option Operation)
    (result : Except Failure Origin) (w : World σ) :
    (ended op result w).scene secure = w.scene secure := by
  cases op <;> rfl

namespace Trip

variable {D : Driver σ} {secure : σ → SecureWorld κ} {c : Client σ} {t : Trip σ}

/-- The application panics while it serves the request of the round trip: when the call waits for
the answer, the worker of its session is not alive any more. -/
def Panics (D : Driver σ) (secure : σ → SecureWorld κ) (t : Trip σ) : Prop :=
  (t.filling D).1.isOk = true ∧ ∃ worker,
    (secure (t.waiting D).driver).sessions.get? t.channel.handle = some worker ∧
    worker.alive = false

/-- A round trip that learns of a failure which takes the session down breaks its session. -/
theorem breaks_of_answer {held : Holdings} {w₁ : World σ} (hf : t.filling D = (.ok held, w₁))
    {failure : Failure} (hanswer : Call.answer (Call.exchange D t.channel.handle w₁).1
      (Call.verdict ((Call.exchange D t.channel.handle w₁).2.page t.channel.page).origin
        ((Call.exchange D t.channel.handle w₁).2.page t.channel.page).status) = .error failure)
    (hbreaks : failure.breaksSession = true) : t.Breaks D := by
  obtain ⟨op', after, -, -, hrt⟩ := Call.roundTrip_of_published (κ := Unit) t.id hf
  simp only [hanswer, hbreaks, if_true] at hrt
  refine ⟨?_, failure, ?_, hbreaks⟩
  · rw [show Call.filling D t.id t.channel t.instruction t.command t.op t.world = _ from hf]
    rfl
  · rw [Call.carry_eq, hrt]

/-- A round trip that keeps its session leaves the scene as the exchange left it, if no worker finds
a request published then. -/
theorem scene_of_unbroken (h : Hosts D secure) {held : Holdings} {w₁ : World σ}
    (hf : t.filling D = (.ok held, w₁)) (hb : ¬ t.Breaks D)
    (hu : ((Call.exchange D t.channel.handle w₁).2.scene secure).Unready) :
    (t.carry D).world.scene secure = (Call.exchange D t.channel.handle w₁).2.scene secure := by
  obtain ⟨op', after, -, hafter, hrt⟩ := Call.roundTrip_of_published (κ := κ) t.id hf
  have hafter := (hafter secure t.channel.handle h (hu.exclusive _)).eq (hu _)
  have hcarry : t.carry D = _ :=
    Call.carry_eq D t.id t.channel t.instruction t.command t.op t.world
  rw [hcarry]
  simp only [Call.scene_ended]
  rw [hrt]
  split
  · exact hafter
  next failure he =>
    -- a failure that takes the session down would break it
    split
    next hbreaks => exact absurd (breaks_of_answer hf he hbreaks) hb
    · exact hafter

/-- A panic breaks the session: otherwise the worker would be left dead by the call. -/
theorem Panics.breaks (h : Hosts D secure) (hb : c.Boards secure t)
    (hm : (t.world.stage secure).Manned) (hp : t.Panics D secure) : t.Breaks D := by
  obtain ⟨hfilled, worker, hworker, hdead⟩ := hp
  refine Classical.byContradiction fun hn => ?_
  rcases hf : t.filling D with ⟨failure | held, w₁⟩
  · rw [hf] at hfilled
    cases hfilled
  obtain ⟨f, hposted⟩ := Call.exists_posted h hb.accorded.unready hf
  have hexclusive := hposted.exclusive hb.accorded hb.known hb.active
  cases hposted.exchanged h hb.accorded hb.known hb.active with
  | unheard failed attended =>
    have hanswer : Call.answer (Call.exchange D t.channel.handle w₁).1
        (Call.verdict ((Call.exchange D t.channel.handle w₁).2.page t.channel.page).origin
          ((Call.exchange D t.channel.handle w₁).2.page t.channel.page).status)
          = .error (.comms .communication) := by
      rw [failed]
      rfl
    exact hn (breaks_of_answer hf hanswer rfl)
  | unserved unready same =>
    obtain ⟨failure, hanswer, hbreaks⟩ :=
      hposted.answer_of_unserved hb.accorded hb.known hb.active same
    exact hn (breaks_of_answer hf hanswer hbreaks)
  | served hired found ready served notified drained =>
    have hwaiting : t.waiting D = (w₁.onShared D (D.notify .call t.channel.handle)).2 :=
      congrArg (fun f => (World.onShared D (D.notify .call t.channel.handle) (Prod.snd f)).2) hf
    have hunready := drained ▸ fun other =>
      Scene.unpublished_drain (served.unready hexclusive other) t.channel.handle
    -- the worker is left to the next call, which finds all workers alive
    have hlater : ((t.carry D).world.scene secure).workers t.channel.handle
        = some { worker with completions := worker.completions.tail } := by
      rw [scene_of_unbroken h hf hn hunready, drained, ← notified, ← hwaiting]
      simp only [Scene.drain, Staff.drain, Staff.assign, if_true]
      exact congrArg (Option.map _) hworker
    obtain ⟨-, hmoves⟩ := Call.carry_once h hb.accorded hb.known hb.active .any t.instruction
      t.command t.op
    have hlives := (hm.moves hmoves).alive t.channel.handle _ hlater
    rw [show worker.alive = false from hdead] at hlives
    cases hlives

end Trip

/-! ## Client programs -/

namespace Client

/-- The lives of the instances behind the sessions of a client, which started as `c₀` and may go on
with any calls, where the driver's own state may change before each of them as `before` allows. -/
structure InstancesInOrder (D : Driver σ) (secure : σ → SecureWorld κ)
    (before : ClientCall → σ → σ → Prop) (c₀ c : Client σ) : Prop where
  /-- What ran on an instance is a whole life, or the beginning of one. -/
  ordered : ∀ page, ∃ commands, c.entries secure page <+: Instruction.course commands
  /-- The instance of an active session was opened and is not closed yet. -/
  opened : ∀ id channel, c.world.channels.get? id = some channel → channel.active = true →
    ∃ commands, c.entries secure channel.page
      = .openSession :: List.replicate commands .invokeCommand
  /-- No two sessions share an instance, as the client sees them. -/
  apart : ∀ id id' channel channel', c.world.channels.get? id = some channel →
    c.world.channels.get? id' = some channel' → channel.page = channel'.page → id = id'
  /-- No two sessions share an instance, as the secure world sees them. -/
  workersApart : ∀ handle handle' worker worker',
    (secure c.world.driver).sessions.get? handle = some worker →
    (secure c.world.driver).sessions.get? handle' = some worker' →
    worker.page = worker'.page → handle = handle'
  /-- No instance that panicked is left. -/
  alive : ∀ handle worker, (secure c.world.driver).sessions.get? handle = some worker →
    worker.alive = true
  /-- A session that was taken down leaves an instance whose life is over. -/
  takenDown : ∀ id channel, c.world.channels.get? id = some channel → channel.active = false →
    c.Over channel.page
  /-- The sessions that the client has were returned to it when they were opened. -/
  returned : ∀ session s, c.sessions.get? session = some s →
    ∃ c₁ driver c₂ context destination login operation,
      let call := ClientCall.openSession context session destination login operation
      Steps D before c₀ c₁ ∧ before call c₁.world.driver driver ∧
      (c₁.withDriver driver).openSession D context session destination login operation
        = some (.ok s.channel, c₂) ∧ Steps D before c₂ c
  /-- A call runs nothing, or the entry point that an instance is due. -/
  ran : ∀ call driver c', before call c.world.driver driver →
    (c.withDriver driver).perform D call = some c' → Ran secure (c.withDriver driver) c' call
  /-- No instance is put in the place of another during a call: a worker is one of before, or it
  serves a new page. -/
  lasting : ∀ call driver c', before call c.world.driver driver →
    (c.withDriver driver).perform D call = some c' → ∀ handle later,
    (secure c'.world.driver).sessions.get? handle = some later →
    (∃ worker, (secure c.world.driver).sessions.get? handle = some worker ∧
      later.page = worker.page ∧ later.app = worker.app) ∨ c.world.pages.fresh ≤ later.page
  /-- The life of an instance is over when its session could not be opened. -/
  failed : ∀ context session destination login operation driver failure c',
    before (.openSession context session destination login operation) c.world.driver driver →
    (c.withDriver driver).openSession D context session destination login operation
      = some (.error failure, c') →
    ∀ page, c.world.pages.fresh ≤ page → page < c'.world.pages.fresh → c'.Over page
  /-- The life of an instance is over when it panicked. -/
  panicked : ∀ call driver c' t, before call c.world.driver driver →
    (c.withDriver driver).Carries D call t → t.Panics D secure →
    (c.withDriver driver).perform D call = some c' → c'.Over t.channel.page
  /-- On an instance whose life is over nothing runs any more. -/
  finished : ∀ page, c.Over page → ∀ c', Steps D before c c' →
    c'.Over page ∧ c'.entries secure page = c.entries secure page

/-- What holds between two calls. -/
structure Steady (secure : σ → SecureWorld κ) (c : Client σ) : Prop where
  accorded : c.world.Accorded secure
  manned : (c.world.stage secure).Manned
  course : c.InCourse secure

variable {D : Driver σ} {secure : σ → SecureWorld κ} {before : ClientCall → σ → σ → Prop}
  {c₀ c c' : Client σ} {call : ClientCall} {driver : σ}

/-- A client stays `Steady` whose driver changes in what is not seen of the staff. -/
theorem Steady.withDriver (h : c.Steady secure)
    (hstaff : (secure driver).staff = (secure c.world.driver).staff) :
    (c.withDriver driver).Steady secure where
  accorded := accorded_withDriver h.accorded hstaff
  manned := by
    rw [show (c.withDriver driver).world.stage secure = c.world.stage secure from
      stage_of_affairs hstaff rfl rfl]
    exact h.manned
  course := by
    have hsame : ∀ page, (c.withDriver driver).entries secure page = c.entries secure page :=
      fun page => congrArg (Run.entries · page) (congrArg Staff.runs hstaff)
    exact ⟨fun page => hsame page ▸ h.course.ordered page,
      fun id channel hget ha => hsame channel.page ▸ h.course.opened id channel hget ha,
      fun page hpage => (hsame page).trans (h.course.unused page hpage)⟩

/-- Every call leaves things steady. -/
theorem Steady.perform (h : Hosts D secure) (hs : c.Steady secure)
    (hp : c.perform D call = some c') : c'.Steady secure where
  accorded := World.Accorded.moves hs.accorded (moves_perform h hs.accorded hp)
  manned := hs.manned.moves (moves_perform h hs.accorded hp)
  course := hs.course.perform h hs.accorded hp

section Runs

variable (h : Hosts D secure)
  (hbefore : ∀ call t t', before call t t' → (secure t').staff = (secure t).staff)
include h hbefore

/-- Every run leaves things steady: `Steady` is kept by each call of it. -/
theorem steady_steps (run : Steps D before c₀ c) (hs : c₀.Steady secure) : c.Steady secure :=
  run.preserves (P := fun c => c.Steady secure) (fun _ _ call _ hs hb hp =>
    (hs.withDriver (hbefore call _ _ hb)).perform h hp) hs

/-- A life that is over stays so in every run. -/
theorem over_steps {page : PageId} (run : Steps D before c c') (hs : c.Steady secure)
    (ho : c.Over page) : c'.Over page ∧ c'.entries secure page = c.entries secure page := by
  induction run with
  | refl => exact ⟨ho, rfl⟩
  | @call c₁ c₂ call driver run hb hp ih =>
    obtain ⟨hover, hsame⟩ := ih
    have hstaff := hbefore call _ _ hb
    have hs₁ := (steady_steps h hbefore run hs).withDriver hstaff
    obtain ⟨hover', hsame'⟩ := Over.perform (c := c₁.withDriver driver) h hs₁.accorded hp
      ⟨hover.handedOut, hover.inactive⟩
    refine ⟨hover', hsame'.trans (.trans ?_ hsame)⟩
    exact congrArg (Run.entries · page) (congrArg Staff.runs hstaff)

omit h hbefore in
/-- The sessions that a client has after a run were returned to it in the run. -/
theorem exists_opening (run : Steps D before c₀ c) (hnone : ∀ name, c₀.sessions.get? name = none)
    {name : String} {s : Session} (hs : c.sessions.get? name = some s) :
    ∃ c₁ driver c₂ context destination login operation,
      let call := ClientCall.openSession context name destination login operation
      Steps D before c₀ c₁ ∧ before call c₁.world.driver driver ∧
      (c₁.withDriver driver).openSession D context name destination login operation
        = some (.ok s.channel, c₂) ∧ Steps D before c₂ c := by
  induction run with
  | refl =>
    rw [hnone name] at hs
    cases hs
  | @call c₁ c₂ call driver run hb hp ih =>
    rcases sessions_perform hp hs with hs | ⟨context, destination, login, operation, rfl, hr⟩
    · obtain ⟨c₃, driver₃, c₄, context, destination, login, operation, h₁, h₂, h₃, h₄⟩ := ih hs
      exact ⟨c₃, driver₃, c₄, context, destination, login, operation, h₁, h₂, h₃,
        .call call driver h₄ hb hp⟩
    · exact ⟨c₁, driver, c₂, context, destination, login, operation, run, hb, hr, .refl⟩

end Runs

/-- A client that has done nothing is steady. -/
theorem steady_start (apps : Table Uuid (App κ)) :
    (Client.start (Recorder.start (SecureWorld.start apps))).Steady Recorder.inner where
  accorded := accorded_start apps
  manned := ⟨fun _ _ hw => (by cases hw), fun _ _ hw => (by cases hw),
    fun _ _ _ _ hw => (by cases hw)⟩
  course := ⟨fun _ => ⟨0, List.nil_prefix⟩, fun _ _ hget => (by cases hget), fun _ _ => rfl⟩

end Client

/-- In every run of a client program on the recorded secure world, with faults and cancellations
armed in any way before each call and applications that panic where they like, the entry points that
ran on the instance behind a session are an opening, commands and a closing, or the beginning of
that: the opening comes first, a command only on an active session that was returned to the client,
and the closing only once and on a session that was active. Nothing runs on an instance after that,
nor after it panicked, could not be opened, or had its session taken down; and no two sessions share
one. -/
theorem instances_run_in_order {apps : Table Uuid (App κ)} {c : Client (Recorder (SecureWorld κ))}
    (run : Client.Steps (Recorder.driver SecureWorld.driver) (fun _ => Recorder.Rearmed)
      (.start (.start (.start apps))) c) :
    Client.InstancesInOrder (Recorder.driver SecureWorld.driver) Recorder.inner
      (fun _ => Recorder.Rearmed) (.start (.start (.start apps))) c := by
  have hosts : Hosts (Recorder.driver SecureWorld.driver) (Recorder.inner : _ → SecureWorld κ) :=
    hosts_driver.recorder
  have hbefore : ∀ (call : ClientCall) (r r' : Recorder (SecureWorld κ)), Recorder.Rearmed r r' →
      r'.inner.staff = r.inner.staff := fun _ _ _ hr => hr.staff_eq
  -- the invariant holds after the run, whatever faults and hooks are armed then
  have hs := Client.steady_steps hosts hbefore run (Client.steady_start apps)
  have harmed : ∀ driver, Recorder.Rearmed c.world.driver driver →
      (c.withDriver driver).Steady Recorder.inner := fun driver hr => hs.withDriver hr.staff_eq
  exact {
    ordered := hs.course.ordered
    opened := hs.course.opened
    apart := hs.accorded.apart
    workersApart := fun handle handle' worker worker' hw hw' he =>
      hs.manned.apart handle handle' worker worker' hw hw' he
    alive := fun handle worker hw => hs.manned.alive handle worker hw
    takenDown := fun id channel hget ha => by
      refine ⟨hs.accorded.housed id channel hget, fun id' channel' hget' he => ?_⟩
      obtain rfl := hs.accorded.apart id' id channel' channel hget' hget he
      rw [hget, Option.some.injEq] at hget'
      exact hget' ▸ ha
    returned := fun session s hsession => Client.exists_opening run (fun _ => rfl) hsession
    ran := fun call driver c' hr hp => Client.ran_of_perform hosts (harmed driver hr).accorded hp
    lasting := fun call driver c' hr hp handle later hl => by
      have hmoves := Client.moves_perform hosts (harmed driver hr).accorded hp
      -- a worker of later was there before, or is new with nothing run
      rcases Stage.succeeds_moves hmoves handle later hl with
        ⟨worker, hworker, hpage, happ, -⟩ | hnew
      · obtain ⟨faults, hooks, overrides, rfl⟩ := hr
        exact .inl ⟨worker, hworker, hpage, happ⟩
      · exact .inr hnew
    failed := fun context session destination login operation driver failure c' hr hopen page =>
      Client.over_of_openSession_error hosts (harmed driver hr).accorded hopen
    panicked := fun call driver c' t hr hc hpanics hp => by
      have hacc := (harmed driver hr).accorded
      have hb := hc.boards hosts hacc
      have hbreaks := hpanics.breaks hosts hb ((harmed driver hr).manned.moves hb.moves)
      exact hc.finishes hosts hacc hp fun channel hget => (hc.leaves hp).inactive hbreaks hget
    finished := fun page ho c' run' => Client.over_steps hosts hbefore run' hs ho }

/-! Two sessions, one of which is lost to a panic. -/

namespace Lives

/-- An application that panics on one command. -/
def app : App Unit where
  initial := ()
  opening _ := .finish (.ok ()) ()
  command n _ := if n = 13 then .panic else .finish (.ok ()) ()
  closing _ := .finish (.ok ()) ()

/-- A program that opens two sessions, on one of which the application panics. -/
def calls : List ClientCall :=
  [.openContext "tee" none .default, .openSession "tee" "first" .nil (0, none) none,
    .openSession "tee" "second" .nil (0, none) none, .invoke "first" 5 none,
    .invoke "second" 13 none]

/-- The program goes on: one session refuses a command, and both are closed. -/
def more : List ClientCall :=
  [.invoke "second" 5 none, .closeSession "first", .closeSession "second"]

/-- The client after calls, where nothing is armed before any of them. -/
def after (c : Client (Recorder (SecureWorld Unit))) (calls : List ClientCall) :
    Option (Client (Recorder (SecureWorld Unit))) :=
  c.performAll (Recorder.driver SecureWorld.driver) (fun _ r => r) calls

/-- The client at the start. -/
def start : Client (Recorder (SecureWorld Unit)) :=
  .start (.start (.start (Table.ofList [(.nil, app)])))

/-- Calls before which nothing is armed are a run. -/
theorem steps {c c' : Client (Recorder (SecureWorld Unit))} {calls : List ClientCall}
    (h : after c calls = some c') : Client.Steps (Recorder.driver SecureWorld.driver)
      (fun _ => Recorder.Rearmed) c c' :=
  Client.steps_performAll (fun _ _ => ⟨_, _, _, rfl⟩) h

end Lives

/-- After the panic the life of that instance is over, with one command, and stays so; the other
instance has a whole life. -/
theorem instances_run_in_order_lives : ∃ c c', Lives.after Lives.start Lives.calls = some c ∧
    Lives.after c Lives.more = some c' ∧ c.Over 1 ∧
    c'.entries Recorder.inner 1 = [.openSession, .invokeCommand] ∧
    c'.entries Recorder.inner 0 = Instruction.course 1 := by
  obtain ⟨c, hc⟩ := Option.isSome_iff_exists.1
    (show (Lives.after Lives.start Lives.calls).isSome = true by decide +kernel)
  have hfacts := (show ∀ c ∈ Lives.after Lives.start Lives.calls,
    c.world.channels.get? 1 = some ⟨2, 1, false⟩ ∧
      c.entries Recorder.inner 1 = [.openSession, .invokeCommand] ∧
      (Lives.after c Lives.more).any (fun c' =>
        c'.entries Recorder.inner 0 = Instruction.course 1) = true by decide +kernel) c hc
  obtain ⟨hdown, hpanicked, hmore⟩ := hfacts
  obtain ⟨c', hc', hwhole⟩ := (Option.any_eq_true _ _).1 hmore
  have order := instances_run_in_order (Lives.steps hc)
  have hover : c.Over 1 := order.takenDown 1 _ hdown rfl
  obtain ⟨-, hsame⟩ := order.finished 1 hover c' (Lives.steps hc')
  exact ⟨c, c', hc, hc', hover, hsame.trans hpanicked, of_decide_eq_true hwhole⟩

end TeeClient

import Mathlib.Logic.Relation
import TeeClient.Proofs.Hosting
import TeeClient.Proofs.SessionCalls

/-!
# Requests that are served at most once

Between two calls of a client, the pages of its active sessions hold no published request and no
worker keeps a completion back. `Accord` is the invariant that carries this: beside it, it says that
no worker serves the page of another session, also where the driver gives a handle to two sessions.

A request that is published is found by the worker of its session only, whoever notifies it. A call
makes `Moves` of the `Stage`: it has a request served, takes a session down or lays one out.

Main statements:

* `Once`: what a round trip has run;
* `Accord.exclusive`: a request is found by nobody but the session that it is published for;
* `Accord.dismiss`, `Accord.served`, `Accord.forget`, `Accord.welcome`: what keeps the invariant;
* `Stage.Accorded.move`: each move keeps it.
-/

namespace TeeClient

variable {σ κ : Type}

/-! ## What a run finds in the page -/

/-- The words are those that the plan asks for. -/
def Plan.Gives (plan : Plan) (words : SlotWords) : Prop :=
  match plan with
  | .words w => words = w
  | .mapping _ len _ => ∃ info : SecureRange,
    words = .memref info.secureVa info.len len.toUInt32

/-- The words are those that a slot of the operation asks for. -/
def Operation.Fills (op : Operation) (slot : Slot) (words : SlotWords) : Prop :=
  ∃ plan, (op.param slot).plan = .ok plan ∧ plan.Gives words

/-- Everything that a call fills in is filled in, and nothing has answered yet. -/
structure Page.Complete (instruction : Instruction) (command : UInt32) (op : Option Operation)
    (p : Page) : Prop where
  tag : p.tag = Page.formatTag
  instruction : p.request.instruction = instruction.raw
  command : p.request.command = command
  types : p.request.types = match op with
    | none => 0
    | some op => op.sentTypes
  params : ∀ slot, match op with
    | none => p.param slot = .zero
    | some op => op.Fills slot (p.param slot)
  origin : p.origin = 0
  status : p.status = FailureKind.badState.code

/-- One more entry point has run: that of the instruction, for the session of the channel, on a
request that was complete when it was published. -/
def Entered (channel : Channel) (instruction : Instruction) (command : UInt32)
    (op : Option Operation) (before after : List Run) : Prop :=
  ∃ page : Page, page.ready = false ∧ page.Complete instruction command op ∧
    after = ⟨channel.handle, instruction, channel.page, page⟩ :: before

/-- What the page of a session holds is complete, the cancellation flag aside, if it was when it was
published. -/
theorem Page.Complete.of_unflagged {instruction : Instruction} {command : UInt32}
    {op : Option Operation} {page found : Page} (h : page.Complete instruction command op)
    (hf : found.unflagged = page.setReady false) : found.Complete instruction command op := by
  have hu : (found.unflagged).Complete instruction command op := by
    rw [hf]
    exact ⟨h.tag, h.instruction, h.command, h.types, h.params, h.origin, h.status⟩
  exact ⟨hu.tag, hu.instruction, hu.command, hu.types, hu.params, hu.origin, hu.status⟩

/-- The page is not published once the request is consumed. -/
theorem Page.ready_of_unflagged {page found : Page} (hf : found.unflagged = page.setReady false) :
    found.ready = false :=
  (congrArg Page.ready hf :)

/-- The instruction of a word is that of the instruction whose word it is. -/
@[simp] theorem Instruction.ofRaw?_raw (instruction : Instruction) :
    ofRaw? instruction.raw = some instruction := by
  cases instruction <;> rfl

namespace Call

variable (D : Driver σ)

/-- How a call fills in its request, and the world when it has. -/
def filling (id : ChannelId) (channel : Channel) (instruction : Instruction) (command : UInt32)
    (op : Option Operation) (w : World σ) : Except Failure Holdings × World σ :=
  publish D channel instruction command op (begun id op w)

/-- The world in which a call waits for the answer to its request. -/
def waiting (id : ChannelId) (channel : Channel) (instruction : Instruction) (command : UInt32)
    (op : Option Operation) (w : World σ) : World σ :=
  ((filling D id channel instruction command op w).2.onShared D (D.notify .call channel.handle)).2

/-- What a call on a session has run. -/
structure Once {α : Type} (secure : σ → SecureWorld κ) (id : ChannelId) (channel : Channel)
    (instruction : Instruction) (command : UInt32) (op : Option Operation) (w : World σ)
    (result : Except Failure α) (w' : World σ) : Prop where
  /-- At most one entry point, and on a complete request. -/
  atMostOnce : (secure w'.driver).runs = (secure w.driver).runs ∨
    Entered channel instruction command op (secure w.driver).runs (secure w'.driver).runs
  /-- Exactly one, if the call succeeds or the application reports the failure. -/
  exactlyOnce : (∀ failure, result = .error failure → failure.origin = .trustedApp) →
    Entered channel instruction command op (secure w.driver).runs (secure w'.driver).runs
  /-- None, if the request cannot be filled in. -/
  unfilled : ∀ failure, (filling D id channel instruction command op w).1 = .error failure →
    result = .error failure ∧ (secure w'.driver).runs = (secure w.driver).runs
  /-- None, if the call is refused for the state of the session. -/
  refused : result = .error (.api .badState) → (secure w'.driver).runs = (secure w.driver).runs
  /-- What the call waits for, if anything, is the completion of this one entry point. -/
  awaited : ∀ held, (filling D id channel instruction command op w).1 = .ok held → ∀ worker,
    (secure (waiting D id channel instruction command op w).driver).sessions.get? channel.handle
      = some worker → worker.completions = [] ∨ worker.completions.length = 1 ∧
    Entered channel instruction command op (secure w.driver).runs
      (secure (waiting D id channel instruction command op w).driver).runs

end Call

/-! ## The invariant between calls -/

/-- The client's ends of the sessions, as an invariant sees them. -/
abbrev Channels := ChannelId → Option Channel

namespace Channels

/-- The sessions with one that takes no more calls. -/
def shut (channels : Channels) (id : ChannelId) : Channels := fun other =>
  if other = id then (channels other).map fun ch => { ch with active := false } else channels other

/-- The sessions without one. -/
def without (channels : Channels) (id : ChannelId) : Channels := fun other =>
  if other = id then none else channels other

/-- The sessions with one more. -/
def adopt (channels : Channels) (id : ChannelId) (channel : Channel) : Channels := fun other =>
  if other = id then some channel else channels other

variable {channels : Channels} {id other : ChannelId} {channel ch : Channel}

/-- A session that is still active after one was shut is another one. -/
theorem of_shut (h : channels.shut id other = some ch) :
    (∃ ch', channels other = some ch' ∧ ch'.page = ch.page) ∧
      (ch.active = true → other ≠ id ∧ channels other = some ch) := by
  unfold shut at h
  split at h
  · obtain ⟨ch', hget, rfl⟩ := Option.map_eq_some_iff.1 h
    exact ⟨⟨ch', hget, rfl⟩, fun ha => (by cases ha)⟩
  next hne => exact ⟨⟨ch, h, rfl⟩, fun _ => ⟨hne, h⟩⟩

/-- A session that is left when one is gone is another one. -/
theorem of_without (h : channels.without id other = some ch) :
    other ≠ id ∧ channels other = some ch := by
  unfold without at h
  split at h
  · cases h
  next hne => exact ⟨hne, h⟩

/-- A session is the new one, or one of before. -/
theorem of_adopt (h : channels.adopt id channel other = some ch) :
    (other = id ∧ ch = channel) ∨ channels other = some ch := by
  unfold adopt at h
  split at h
  next he =>
    cases h
    exact .inl ⟨he, rfl⟩
  · exact .inr h

end Channels

/-- The client and the secure world agree on what is under way, which is nothing. -/
structure Accord (v : Scene κ) (channels : Channels) : Prop where
  /-- No completion is kept back. -/
  drained : ∀ handle worker, v.workers handle = some worker → worker.completions = []
  /-- No worker finds a request. -/
  unready : v.Unready
  /-- The pages of workers were handed out. -/
  lodged : ∀ handle worker, v.workers handle = some worker → worker.page < v.fresh
  /-- The pages of sessions were handed out. -/
  housed : ∀ id channel, channels id = some channel → channel.page < v.fresh
  /-- No active session has a request published. -/
  idle : ∀ id channel, channels id = some channel → channel.active = true →
    ∃ page, v.pages channel.page = some page ∧ page.ready = false
  /-- No page is shared by two sessions. -/
  apart : ∀ id id' channel channel', channels id = some channel → channels id' = some channel' →
    channel.page = channel'.page → id = id'
  /-- A worker serves no other session than that of its page. -/
  tied : ∀ id channel handle worker, channels id = some channel → channel.active = true →
    v.workers handle = some worker → worker.page = channel.page → handle = channel.handle

namespace Scene

/-- A page that is changed twice. -/
theorem onPage_onPage (v : Scene κ) (id : PageId) (f g : Page → Page) :
    (v.onPage id f).onPage id g = v.onPage id fun p => g (f p) := by
  refine Scene.ext rfl rfl (funext fun other => ?_) rfl
  simp only [onPage]
  split
  · rw [Option.map_map]
    rfl
  · rfl

/-- The scene without a page. -/
def free (v : Scene κ) (id : PageId) : Scene κ :=
  { v with pages := fun other => if other = id then none else v.pages other }

/-- The scene with one more page. -/
def lay (v : Scene κ) (page : Page) : Scene κ :=
  { v with pages := fun other => if other = v.fresh then some page else v.pages other,
           fresh := v.fresh + 1 }

/-- Nothing has changed but what belongs to a session. -/
structure Unrelated (channel : Channel) (v v' : Scene κ) : Prop where
  workers : ∀ handle, handle ≠ channel.handle → v'.workers handle = v.workers handle
  pages : ∀ id, id ≠ channel.page → v'.pages id = v.pages id
  fresh : v'.fresh = v.fresh

/-- Delivering a completion changes nothing where none is kept back. -/
theorem drain_eq_self {v : Scene κ} {handle : Handle}
    (h : ∀ worker, v.workers handle = some worker → worker.completions = []) :
    v.drain handle = v := by
  -- a wait that finds no completion takes none away
  have hsame : (v.workers handle).map (fun worker =>
      { worker with completions := worker.completions.tail }) = v.workers handle := by
    cases hw : v.workers handle with
    | none => rfl
    | some worker =>
      have hc := h worker hw
      cases worker
      cases hc
      rfl
  have hs : v.toStaff.drain handle = v.toStaff := by
    unfold Staff.drain
    rw [hsame]
    exact Staff.assign_eq_self rfl
  exact Scene.ext (congrArg Staff.workers hs) (congrArg Staff.runs hs) rfl rfl

/-- To serve a complete request is to have its entry point run. -/
theorem Served.entered {channel : Channel} {instruction : Instruction} {command : UInt32}
    {op : Option Operation} {worker : Worker κ} {page : Page} {v v' : Scene κ}
    (h : Served channel.handle worker page v v') (hpage : worker.page = channel.page)
    (hc : page.Complete instruction command op) :
    Entered channel instruction command op v.runs v'.runs := by
  obtain ⟨instruction', found, hraw, hfound, hruns⟩ := h.run
  rw [hc.instruction, Instruction.ofRaw?_raw] at hraw
  cases hraw
  rw [hpage] at hruns
  exact ⟨found, Page.ready_of_unflagged hfound, hc.of_unflagged hfound, hruns⟩

end Scene

namespace Accord

variable {v v' : Scene κ} {channels : Channels} {id : ChannelId} {channel : Channel}

/-- A page may be changed that is not published thereby. -/
theorem onPage (h : Accord v channels) {page : PageId} {f : Page → Page}
    (hf : ∀ p, (f p).ready = false) : Accord (v.onPage page f) channels where
  drained := h.drained
  unready handle worker p hw hp := by
    simp only [Scene.onPage] at hp
    split at hp
    · obtain ⟨p', -, rfl⟩ := Option.map_eq_some_iff.1 hp
      exact hf p'
    · exact h.unready handle worker p hw hp
  lodged := h.lodged
  housed := h.housed
  idle id channel hget ha := by
    obtain ⟨p, hp, hr⟩ := h.idle id channel hget ha
    simp only [Scene.onPage]
    split
    · exact ⟨f p, by rw [hp]; rfl, hf p⟩
    · exact ⟨p, hp, hr⟩
  apart := h.apart
  tied := h.tied

/-- Whatever became of its worker and its page, a session may be taken down. -/
theorem dismiss (h : Accord v channels) (hget : channels id = some channel)
    (hactive : channel.active = true) (hu : Scene.Unrelated channel v v') :
    Accord (v'.dismiss channel.handle) (channels.shut id) := by
  -- the workers that stay, and the sessions that stay, are those of before
  have hworker : ∀ handle worker, (v'.dismiss channel.handle).workers handle = some worker →
      handle ≠ channel.handle ∧ v.workers handle = some worker := by
    intro handle worker hw
    simp only [Scene.dismiss, Staff.assign] at hw
    split at hw
    · cases hw
    next hne => exact ⟨hne, hu.workers handle hne ▸ hw⟩
  refine ⟨fun handle worker hw => h.drained _ _ (hworker _ _ hw).2, ?_,
    fun handle worker hw => hu.fresh ▸ h.lodged _ _ (hworker _ _ hw).2, ?_, ?_, ?_, ?_⟩
  · intro handle worker p hw hp
    obtain ⟨hne, hw⟩ := hworker _ _ hw
    by_cases he : worker.page = channel.page
    · -- the worker of that page is the one that is dismissed
      exact absurd (h.tied id channel handle worker hget hactive hw he) hne
    · exact h.unready handle worker p hw (hu.pages _ he ▸ hp)
  · intro other ch hch
    obtain ⟨ch', hget', hpage⟩ := (Channels.of_shut hch).1
    rw [← hpage]
    exact hu.fresh ▸ h.housed other ch' hget'
  · intro other ch hch ha
    obtain ⟨hne, hget'⟩ := (Channels.of_shut hch).2 ha
    obtain ⟨p, hp, hr⟩ := h.idle other ch hget' ha
    refine ⟨p, ?_, hr⟩
    exact (hu.pages _ fun he => hne (h.apart other id ch channel hget' hget he)).trans hp
  · intro other other' ch ch' hch hch' hpage
    obtain ⟨c, hc, hcp⟩ := (Channels.of_shut hch).1
    obtain ⟨c', hc', hcp'⟩ := (Channels.of_shut hch').1
    exact h.apart other other' c c' hc hc' (by rw [hcp, hcp', hpage])
  · intro other ch handle worker hch ha hw hpage
    exact h.tied other ch handle worker ((Channels.of_shut hch).2 ha).2 ha (hworker _ _ hw).2 hpage

/-- The request that a worker finds when one was published is that one. -/
theorem found {worker : Worker κ} {page : Page} {f : Page → Page} (h : Accord v channels)
    (hworker : v.workers channel.handle = some worker)
    (hpage : (v.onPage channel.page f).pages worker.page = some page) (hready : page.ready = true) :
    worker.page = channel.page ∧ ∃ p, page = f p := by
  simp only [Scene.onPage] at hpage
  split at hpage
  next he =>
    obtain ⟨p, -, hp⟩ := Option.map_eq_some_iff.1 hpage
    exact ⟨he, p, hp.symm⟩
  · rw [h.unready _ _ _ hworker hpage] at hready
    cases hready

/-- A request that is published for an active session is found by the worker of that session
only. -/
theorem exclusive (h : Accord v channels) (hget : channels id = some channel)
    (hactive : channel.active = true) {f : Page → Page}
    (hf : ∀ p, ∃ instruction, Instruction.ofRaw? (f p).request.instruction = some instruction) :
    (v.onPage channel.page f).Exclusive channel.handle where
  known worker page hworker hpage hready := by
    obtain ⟨-, p, rfl⟩ := h.found hworker hpage hready
    exact hf p
  others other hne worker page hworker hpage := by
    simp only [Scene.onPage] at hpage
    split at hpage
    next he => exact absurd (h.tied id channel other worker hget hactive hworker he) hne
    · exact h.unready other worker page hworker hpage

/-- The request that was published in the page of a session may be served and its completion
delivered. -/
theorem served {worker : Worker κ} {page : Page} {f : Page → Page} (h : Accord v channels)
    (hworker : v.workers channel.handle = some worker) (hpage : worker.page = channel.page)
    (hs : Scene.Served channel.handle worker page (v.onPage channel.page f) v') :
    Accord (v'.drain channel.handle) channels := by
  obtain ⟨kept, hkept, hcontinues⟩ := hs.kept
  obtain ⟨consumed, hcp, hcr, -⟩ := hs.consumed
  rw [hpage] at hcp
  -- the worker queued one completion at most, and that is the one that was delivered
  have hw : ∀ handle worker', (v'.drain channel.handle).workers handle = some worker' →
      worker'.completions = [] ∧
        ∃ before, v.workers handle = some before ∧ before.page = worker'.page := by
    intro handle worker' hw'
    simp only [Scene.drain, Staff.drain, Staff.assign] at hw'
    split at hw'
    next he =>
      rw [hkept] at hw'
      cases hw'
      have hkl := hcontinues.completions
      rw [h.drained _ _ hworker] at hkl
      refine ⟨List.eq_nil_of_length_eq_zero ?_, worker, he ▸ hworker, hcontinues.page.symm⟩
      rw [List.length_tail]
      exact Nat.sub_eq_zero_of_le hkl
    next hne =>
      rw [hs.coworkers _ hne] at hw'
      exact ⟨h.drained _ _ hw', worker', hw', rfl⟩
  -- the page of the session is the only one that changed
  have hp : ∀ other, (v'.drain channel.handle).pages other
      = if other = channel.page then some consumed else v.pages other := by
    intro other
    show v'.pages other = _
    split
    next he => rw [he, hcp]
    next hne =>
      rw [hs.others other (by rw [hpage]; exact hne)]
      exact if_neg hne
  refine ⟨fun handle worker' hw' => (hw handle worker' hw').1, ?_, ?_, ?_, ?_, h.apart, ?_⟩
  · intro handle worker' p hw' hp'
    obtain ⟨before, hb, hbp⟩ := (hw handle worker' hw').2
    rw [hp] at hp'
    split at hp'
    · cases hp'
      exact hcr
    · exact h.unready handle before p hb (hbp ▸ hp')
  · intro handle worker' hw'
    obtain ⟨before, hb, hbp⟩ := (hw handle worker' hw').2
    rw [← hbp]
    exact hs.fresh ▸ h.lodged handle before hb
  · intro other ch hch
    exact hs.fresh ▸ h.housed other ch hch
  · intro other ch hch ha
    obtain ⟨p, hpp, hr⟩ := h.idle other ch hch ha
    rw [hp]
    split
    · exact ⟨consumed, rfl, hcr⟩
    · exact ⟨p, hpp, hr⟩
  · intro other ch handle worker' hch ha hw' he
    obtain ⟨before, hb, hbp⟩ := (hw handle worker' hw').2
    exact h.tied other ch handle before hch ha hb (hbp.trans he)

/-- A session may be forgotten with its page. -/
theorem forget (h : Accord v channels) (hget : channels id = some channel) :
    Accord (v.free channel.page) (channels.without id) := by
  refine ⟨h.drained, ?_, h.lodged, fun other ch hch => h.housed _ _ (Channels.of_without hch).2, ?_,
    ?_, ?_⟩
  · intro handle worker p hw hp
    simp only [Scene.free] at hp
    split at hp
    · cases hp
    · exact h.unready handle worker p hw hp
  · intro other ch hch ha
    obtain ⟨hne, hch⟩ := Channels.of_without hch
    obtain ⟨p, hp, hr⟩ := h.idle other ch hch ha
    refine ⟨p, ?_, hr⟩
    simp only [Scene.free]
    -- no two sessions share a page
    rw [if_neg fun he => hne (h.apart other id ch channel hch hget he)]
    exact hp
  · intro other other' ch ch' hch hch' hpage
    exact h.apart other other' ch ch' (Channels.of_without hch).2 (Channels.of_without hch').2 hpage
  · intro other ch handle worker hch ha hw hpage
    exact h.tied other ch handle worker (Channels.of_without hch).2 ha hw hpage

/-- The page that is laid out for a session is found by no worker. -/
theorem unready_lay (h : Accord v channels) (page : Page) : (v.lay page).Unready := by
  intro handle worker p hw hp
  simp only [Scene.lay] at hp
  rw [if_neg (Nat.ne_of_lt (h.lodged handle worker hw))] at hp
  exact h.unready handle worker p hw hp

/-- A page may be laid out for a session that is then refused, and freed again. -/
theorem free_lay (h : Accord v channels) (page : Page) :
    Accord ((v.lay page).free v.fresh) channels := by
  -- pages below the fresh number are not the one that was laid out
  have hp : ∀ other, other < v.fresh → ((v.lay page).free v.fresh).pages other = v.pages other := by
    intro other hlt
    simp only [Scene.free, Scene.lay]
    rw [if_neg (Nat.ne_of_lt hlt), if_neg (Nat.ne_of_lt hlt)]
  refine ⟨h.drained, ?_, fun handle worker hw => Nat.lt_succ_of_lt (h.lodged _ _ hw),
    fun other ch hch => Nat.lt_succ_of_lt (h.housed _ _ hch), ?_, h.apart, h.tied⟩
  · intro handle worker p hw hpage
    rw [hp _ (h.lodged handle worker hw)] at hpage
    exact h.unready handle worker p hw hpage
  · intro other ch hch ha
    rw [hp _ (h.housed other ch hch)]
    exact h.idle other ch hch ha

/-- A session may be opened with a page of its own and a worker without completions. -/
theorem welcome (h : Accord v channels) {page : Page} {worker : Worker κ} {handle : Handle}
    (hready : page.ready = false) (hc : worker.completions = []) (hpage : worker.page = v.fresh) :
    Accord ((v.lay page).hire handle worker) (channels.adopt id ⟨handle, v.fresh, true⟩) := by
  -- each worker is the new one, or one of before
  have hw : ∀ handle' worker', ((v.lay page).hire handle worker).workers handle' = some worker' →
      (handle' = handle ∧ worker' = worker) ∨ v.workers handle' = some worker' := by
    intro handle' worker' hw'
    simp only [Scene.hire, Staff.assign] at hw'
    split at hw'
    next he =>
      cases hw'
      exact .inl ⟨he, rfl⟩
    · exact .inr hw'
  have hp : ∀ other, ((v.lay page).hire handle worker).pages other
      = if other = v.fresh then some page else v.pages other := fun _ => rfl
  refine ⟨?_, ?_, ?_, ?_, ?_, ?_, ?_⟩
  · intro handle' worker' hw'
    rcases hw _ _ hw' with ⟨-, rfl⟩ | hw'
    · exact hc
    · exact h.drained _ _ hw'
  · intro handle' worker' p hw' hpp
    rw [hp] at hpp
    split at hpp
    · cases hpp
      exact hready
    next hne =>
      rcases hw _ _ hw' with ⟨-, rfl⟩ | hw'
      · exact absurd hpage hne
      · exact h.unready _ _ p hw' hpp
  · intro handle' worker' hw'
    show worker'.page < v.fresh + 1
    rcases hw _ _ hw' with ⟨-, rfl⟩ | hw'
    · rw [hpage]
      exact Nat.lt_succ_self _
    · exact Nat.lt_succ_of_lt (h.lodged _ _ hw')
  · intro other ch hget
    show ch.page < v.fresh + 1
    rcases Channels.of_adopt hget with ⟨-, rfl⟩ | hget
    · exact Nat.lt_succ_self _
    · exact Nat.lt_succ_of_lt (h.housed _ _ hget)
  · intro other ch hget ha
    rw [hp]
    rcases Channels.of_adopt hget with ⟨-, rfl⟩ | hget
    · exact ⟨page, if_pos rfl, hready⟩
    · rw [if_neg (Nat.ne_of_lt (h.housed _ _ hget))]
      exact h.idle _ _ hget ha
  · intro other other' ch ch' hget hget' he
    rcases Channels.of_adopt hget with ⟨hid, rfl⟩ | hget <;>
      rcases Channels.of_adopt hget' with ⟨hid', rfl⟩ | hget'
    · exact hid.trans hid'.symm
    · exact absurd he.symm (Nat.ne_of_lt (h.housed _ _ hget'))
    · exact absurd he (Nat.ne_of_lt (h.housed _ _ hget))
    · exact h.apart _ _ _ _ hget hget' he
  · intro other ch handle' worker' hget ha hw' he
    rcases Channels.of_adopt hget with ⟨-, rfl⟩ | hold <;>
      rcases hw _ _ hw' with ⟨rfl, rfl⟩ | hbefore
    · rfl
    · exact absurd he (Nat.ne_of_lt (h.lodged _ _ hbefore))
    · exact absurd (hpage.symm.trans he).symm (Nat.ne_of_lt (h.housed _ _ hold))
    · exact h.tied _ _ _ _ hold ha hbefore he

end Accord

/-! ## What happens to scenes and sessions -/

/-- The scene, the sessions and the number of the next session. -/
structure Stage (κ : Type) where
  scene : Scene κ
  channels : Channels
  next : ChannelId

/-- The scene and the sessions of a world. -/
def World.stage (secure : σ → SecureWorld κ) (w : World σ) : Stage κ :=
  ⟨w.scene secure, w.channels.get?, w.channels.fresh⟩

/-- What is known of the next session when it is opened: the driver's number for it, its worker and
its destination. -/
def Admission (κ : Type) := Stage κ → Handle → Worker κ → Uuid → Prop

/-- Every session is admitted. -/
def Admission.any : Admission κ := fun _ _ _ _ => True

/-- What a step of a call does, if sessions are only opened as admitted. -/
inductive Move (admitted : Admission κ) (s : Stage κ) : Stage κ → Prop
  /-- A request was given up. -/
  | withdrawn {id : ChannelId} {channel : Channel} {f : Page → Page}
      (hget : s.channels id = some channel)
      (hf : ∀ p, (f p).ready = false ∧ (f p).destination = p.destination) :
      Move admitted s { s with scene := s.scene.onPage channel.page f }
  /-- A published request was served by a worker that survived, and its completion delivered. -/
  | served {v : Scene κ} {id : ChannelId} {channel : Channel} {f : Page → Page}
      {worker : Worker κ} {page : Page} (hget : s.channels id = some channel)
      (hworker : s.scene.workers channel.handle = some worker) (hpage : worker.page = channel.page)
      (hf : ∀ p, (f p).destination = p.destination)
      (hfound : (s.scene.onPage channel.page f).pages worker.page = some page)
      (hserved : Scene.Served channel.handle worker page (s.scene.onPage channel.page f) v)
      (halive : ∀ later, v.workers channel.handle = some later → later.alive = worker.alive) :
      Move admitted s { s with scene := v.drain channel.handle }
  /-- A session was taken down, whatever became of its worker and its page. -/
  | dismissed {v : Scene κ} {id : ChannelId} {channel : Channel}
      (hget : s.channels id = some channel) (hactive : channel.active = true)
      (hu : Scene.Unrelated channel s.scene v) :
      Move admitted s
        { s with scene := v.dismiss channel.handle, channels := s.channels.shut id }
  /-- A session was forgotten, and its page freed. -/
  | forgotten {id : ChannelId} {channel : Channel} (hget : s.channels id = some channel) :
      Move admitted s
        { s with scene := s.scene.free channel.page, channels := s.channels.without id }
  /-- A session was not opened, and the page laid out for it was freed. -/
  | refused (page : Page) :
      Move admitted s { s with scene := (s.scene.lay page).free s.scene.fresh }
  /-- A session was opened. -/
  | opened {handle : Handle} {worker : Worker κ} {login : Login} {destination : Uuid}
      (hstarts : worker.Starts s.scene.fresh login)
      (hadmitted : admitted s handle worker destination) :
      Move admitted s ⟨(s.scene.lay (Page.blank.setDestination destination)).hire handle worker,
        s.channels.adopt s.next ⟨handle, s.scene.fresh, true⟩, s.next + 1⟩

/-- Moves that are made one after the other. -/
abbrev Moves (admitted : Admission κ) : Stage κ → Stage κ → Prop :=
  Relation.ReflTransGen (Move admitted)

/-- The invariant, of a stage. -/
abbrev Stage.Accorded (s : Stage κ) : Prop := Accord s.scene s.channels

/-- Every move keeps the invariant. -/
theorem Stage.Accorded.move {admitted : Admission κ} {s s' : Stage κ} (h : s.Accorded)
    (hm : Move admitted s s') : s'.Accorded := by
  cases hm with
  | withdrawn hget hf => exact h.onPage fun p => (hf p).1
  | served hget hworker hpage hf hfound hserved halive => exact h.served hworker hpage hserved
  | dismissed hget hactive hu => exact h.dismiss hget hactive hu
  | forgotten hget => exact h.forget hget
  | refused page => exact h.free_lay page
  | opened hstarts hadmitted => exact h.welcome rfl hstarts.completions hstarts.page

/-- The invariant, of a world. -/
abbrev World.Accorded (secure : σ → SecureWorld κ) (w : World σ) : Prop :=
  Accord (w.scene secure) w.channels.get?

/-- One move after the other keeps the invariant. -/
theorem Stage.Accorded.moves {admitted : Admission κ} {s s' : Stage κ} (h : s.Accorded)
    (hm : Moves admitted s s') : s'.Accorded := by
  induction hm with
  | refl => exact h
  | tail _ hm ih => exact ih.move hm

/-- What makes moves between two worlds keeps the invariant. -/
theorem World.Accorded.moves {admitted : Admission κ} {secure : σ → SecureWorld κ} {w w' : World σ}
    (h : w.Accorded secure) (hm : Moves admitted (w.stage secure) (w'.stage secure)) :
    w'.Accorded secure :=
  Stage.Accorded.moves (s := w.stage secure) h hm

namespace Scene

variable {channel : Channel} {v v' : Scene κ}

/-- A change to the page of a session concerns that session only. -/
theorem unrelated_onPage (channel : Channel) (v : Scene κ) (f : Page → Page) :
    Unrelated channel v (v.onPage channel.page f) where
  workers _ _ := rfl
  pages _ hne := if_neg hne
  fresh := rfl

/-- Serving a request concerns one session only. -/
theorem Served.unrelated {worker : Worker κ} {page : Page} {f : Page → Page}
    (hpage : worker.page = channel.page)
    (h : Served channel.handle worker page (v.onPage channel.page f) v') :
    Unrelated channel v v' where
  workers := h.coworkers
  pages id hne := (h.others id (hpage ▸ hne)).trans (if_neg hne)
  fresh := h.fresh

/-- Delivering a completion concerns one session only. -/
theorem Unrelated.drain (h : Unrelated channel v v') :
    Unrelated channel v (v'.drain channel.handle) where
  workers handle hne := by
    simp only [Scene.drain, Staff.drain, Staff.assign, if_neg hne]
    exact h.workers handle hne
  pages := h.pages
  fresh := h.fresh

end Scene

end TeeClient

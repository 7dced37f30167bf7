import TeeClient.Proofs.Direct.Requests
import TeeClient.Proofs.Once.Calls

/-!
# Commands that are direct calls

A published request that mirrors the parameters is served as a direct call, and what the direct call
leaves in the slots is copied into the operation when the result is collected. So a command that a
client invokes is a direct call of the application.

Main statements:

* `SecureWorld.notify_direct`: the request is served as a direct call;
* `World.invoke_direct`: a command on a session that the secure world knows.
-/

namespace TeeClient

variable {κ : Type}

/-- What the caller of a command is told of the result of the application. The code of success
stands for success. -/
def Call.reported : Except Status Unit → Except Failure Origin
  | .ok () => .ok .trustedApp
  | .error code =>
    if code = Status.success then .ok .trustedApp else .error ⟨.ofCode code, .trustedApp⟩

/-- The operation with what a direct call left in its slots. -/
def Operation.settle (op : Operation) (d : Direct) : Operation :=
  { op with params := .ofFn fun slot => (op.param slot).settle (d.arguments.get slot) }

/-- The status word of a result. -/
def Status.ofResult : Except Status Unit → Status
  | .ok () => success
  | .error code => code

/-! ## Serving -/

namespace SecureWorld

variable {handle : Handle} {worker : Worker κ} {s : Shared (SecureWorld κ)} {p : Page}
  {setting : Setting} {d : Direct} {out : (Except Status Unit × κ) × Direct}

/-- The secure world after a command was served: the result words are those of the application, and
the page and the memory show what the direct call left. -/
structure Answered (handle : Handle) (worker : Worker κ) (setting : Setting)
    (out : (Except Status Unit × κ) × Direct) (mappings : Mappings) (s : Shared (SecureWorld κ)) :
    Prop where
  session : s.driver.sessions.get? handle = some { worker with
    state := out.1.2
    completions := worker.completions ++ [.served] }
  memory : s.memory = out.2.memory
  page : ∃ p, s.pages.get? worker.page = some p ∧ p.ready = false ∧
    p.origin = Origin.trustedApp.code ∧ p.status = Status.ofResult out.1.1 ∧
    ∀ slot, (setting.params.get slot).Shows mappings (p.param slot) (out.2.arguments.get slot)

/-- A request that mirrors the parameters is served as a direct call. -/
theorem serve_direct (hworker : s.driver.sessions.get? handle = some worker)
    (hpage : s.pages.get? worker.page = some p)
    (hinstruction : p.request.instruction = Instruction.invokeCommand.raw) (hcalm : s.driver.Calm)
    (hm : (s.chamber worker.page).Mirrors setting s.driver.mappings d)
    (hlogin : setting.login = worker.login)
    (hdirect : (worker.app.command p.request.command worker.state).direct setting d = some out) :
    ∃ s', serve handle worker s = .done () s' ∧
      Answered handle worker setting out s.driver.mappings s' := by
  have hread : s.page worker.page = p := Shared.page_of_get? hpage
  obtain ⟨s₁, hrun, hdriver, ⟨p₁, hpage₁⟩, hm₁⟩ := Program.run_of_mirrors
    (s := enter ⟨handle, .invokeCommand, worker.page, p⟩ s) hpage hm hdirect
  rw [hlogin] at hrun
  rw [Shared.chamber_of_get? hpage₁] at hm₁
  -- the run changed nothing in the secure world, so no fault replaces the result
  have hcalm₁ : s₁.driver.faults = ⟨none, none, none, false, none, none⟩ := by
    rw [hdriver]
    exact hcalm
  have hworker₁ : s₁.driver.sessions.get? handle = some worker := by
    rw [hdriver]
    exact hworker
  have hconcluded : serve handle worker s = .done () (conclude handle worker.page
      Origin.trustedApp.code (Status.ofResult out.1.1) out.1.2 s₁) := by
    unfold serve
    simp only [hread, hinstruction]
    show Reply.bind (Program.run worker.page worker.login
      (worker.app.command p.request.command worker.state)
      (enter ⟨handle, .invokeCommand, worker.page, p⟩ s)) _ = _
    rw [hrun]
    obtain ⟨⟨result, state⟩, d'⟩ := out
    cases result <;> rfl
  refine ⟨_, hconcluded, ⟨?_, hm₁.memory, (p₁.setResult Origin.trustedApp.code
    (Status.ofResult out.1.1)), ?_, ?_, rfl, rfl, ?_⟩⟩
  · show (s₁.driver.sessions.modify handle _).get? handle = _
    rw [Table.get?_modify, if_pos rfl, hworker₁]
    simp only [hcalm₁]
    rfl
  · have := Shared.get?_onPage hpage₁ fun p =>
      p.setResult Origin.trustedApp.code (Status.ofResult out.1.1)
    unfold conclude
    simp only [hcalm₁]
    exact this
  · exact hm₁.ready
  · exact hm₁.shows

/-- A notification has a published request that mirrors the parameters served as a direct call. -/
theorem notify_direct (hworker : s.driver.sessions.get? handle = some worker)
    (halive : worker.alive = true) (hpage : s.pages.get? worker.page = some p)
    (hready : p.ready = true)
    (hinstruction : p.request.instruction = Instruction.invokeCommand.raw) (hcalm : s.driver.Calm)
    (hm : (⟨p.setReady false, s.memory⟩ : Chamber).Mirrors setting s.driver.mappings d)
    (hlogin : setting.login = worker.login)
    (hdirect : (worker.app.command p.request.command worker.state).direct setting d = some out) :
    ∃ s', notify handle s = .done (.ok ()) s' ∧
      Answered handle worker setting out s.driver.mappings s' := by
  -- the secure world when the notification is counted
  let rung : Shared (SecureWorld κ) := { s with
    driver := s.driver.count fun n => { n with notifies := n.notifies + 1 } }
  have hready₁ : (rung.page worker.page).ready = true := by
    rw [Shared.page_of_get? (s := rung) hpage]
    exact hready
  -- and when the request is consumed
  let taken : Shared (SecureWorld κ) := rung.onPage worker.page fun p => p.consumeReady.2
  have hpage₂ : taken.pages.get? worker.page = some (p.setReady false) :=
    Shared.get?_onPage (s := rung) hpage _
  have hmirrors : (taken.chamber worker.page).Mirrors setting taken.driver.mappings d := by
    rw [Shared.chamber_of_get? hpage₂]
    exact hm
  obtain ⟨s', hserve, hanswered⟩ :=
    serve_direct (s := taken) hworker hpage₂ hinstruction hcalm hmirrors hlogin hdirect
  refine ⟨s', ?_, hanswered⟩
  have hheard : s.driver.faults.notify = false := by rw [hcalm]
  unfold notify
  rw [ring_of_alive hheard hworker halive]
  show Reply.bind (attend handle rung) _ = _
  rw [attend_of_ready (s := rung) hworker hready₁, hserve]
  rfl

end SecureWorld

/-! ## Waiting for the answer and collecting it -/

namespace Call

variable {channel : Channel} {w : World (SecureWorld κ)} {worker : Worker κ} {setting : Setting}
  {out : (Except Status Unit × κ) × Direct} {mappings : Mappings}

/-- The wait of a call delivers the completion of the command that was served. -/
theorem exchange_direct {handle : Handle} {s : Shared (SecureWorld κ)}
    (hdrained : worker.completions = [])
    (hnotify : SecureWorld.notify handle w.toShared = .done (.ok ()) s)
    (hanswered : SecureWorld.Answered handle worker setting out mappings s) :
    ∃ w', exchange SecureWorld.driver handle w = (.ok (), w') ∧ w'.memory = s.memory ∧
      w'.pages = s.pages ∧
      w'.driver.sessions.get? handle = some { worker with state := out.1.2 } := by
  have hserved : w.onShared SecureWorld.driver (SecureWorld.driver.notify .call handle)
      = (.ok (), w.withShared s) := by
    show World.settle _ _ _ (SecureWorld.notify handle w.toShared) w = _
    rw [hnotify]
    rfl
  -- the completion of this request is the only one in the queue
  have hsession := hanswered.session
  rw [hdrained, List.nil_append] at hsession
  obtain ⟨d, hwait, hget⟩ : ∃ d, SecureWorld.wait handle s.driver = (.ok (), d) ∧
      d.sessions.get? handle = some { worker with state := out.1.2 } := by
    refine ⟨_, SecureWorld.wait_of_cons hsession rfl, ?_⟩
    show (s.driver.sessions.modify handle _).get? handle = _
    rw [Table.get?_modify, if_pos rfl, hsession]
    obtain ⟨_, _, _, _, _, completions, _⟩ := worker
    cases hdrained
    rfl
  have hwaited : (w.withShared s).onShared SecureWorld.driver (SecureWorld.driver.wait handle none)
      = (.ok (), (w.withShared s).withShared { s with driver := d }) := by
    show ((SecureWorld.wait handle s.driver).1, (w.withShared s).withShared
      { s with driver := (SecureWorld.wait handle s.driver).2 }) = _
    rw [hwait]
  refine ⟨(w.withShared s).withShared { s with driver := d }, ?_, rfl, rfl, hget⟩
  unfold exchange
  simp only [hserved, hwaited]

/-- Giving a mapping back changes no session, page or byte of memory. -/
theorem unmap_direct (handle : Handle) (address : Address) (info : SecureRange)
    (w : World (SecureWorld κ)) :
    let w' := (w.onDesk SecureWorld.driver (SecureWorld.driver.unmap handle address info)).2
    w'.driver.sessions = w.driver.sessions ∧ w'.pages = w.pages ∧ w'.memory = w.memory := by
  refine ⟨?_, rfl, rfl⟩
  show (SecureWorld.unmap handle address info w.driver).2.sessions = _
  obtain ⟨mapping, -, -, he⟩ | ⟨e, -, he⟩ :=
    SecureWorld.unmap_cases handle address info w.driver <;> rw [he] <;> rfl

/-- Nothing that matters after a call has changed. -/
abbrev Retained (w w' : World (SecureWorld κ)) : Prop :=
  w'.driver.sessions = w.driver.sessions ∧ w'.pages = w.pages ∧ w'.memory = w.memory

/-- Giving a mapping back retains what matters. -/
theorem Retained.unmap {w' : World (SecureWorld κ)} (h : Retained w w') (handle : Handle)
    (address : Address) (info : SecureRange) : Retained w
      (w'.onDesk SecureWorld.driver (SecureWorld.driver.unmap handle address info)).2 := by
  obtain ⟨hsessions, hpages, hmemory⟩ := unmap_direct handle address info w'
  exact ⟨hsessions.trans h.1, hpages.trans h.2.1, hmemory.trans h.2.2⟩

/-- Each slot that is taken back receives what its words say, if it takes anything back, and the
other slots stay as they are. -/
theorem param_takeBackEach (channel : Channel) {slots : List Slot} (hnodup : slots.Nodup)
    (op : Operation) (held : Holdings) (w : World (SecureWorld κ)) :
    let op' := (takeBackEach SecureWorld.driver channel true slots op held w).1
    op'.lifecycle = op.lifecycle ∧ (∀ slot, slot ∉ slots → op'.param slot = op.param slot) ∧
      ∀ slot, slot ∈ slots → op'.param slot = if (op.param slot).writesBack
        then (op.param slot).receive ((w.page channel.page).param slot) else op.param slot := by
  induction slots generalizing op held w with
  | nil => exact ⟨rfl, fun _ _ => rfl, fun _ hm => (by cases hm)⟩
  | cons slot rest ih =>
    obtain ⟨hnew, hrest⟩ := List.nodup_cons.1 hnodup
    let words := (w.page channel.page).param slot
    -- the operation and the world in which the rest is taken back
    let op₁ := if (op.param slot).writesBack then op.setParam slot ((op.param slot).receive words)
      else op
    let logged := if (held.get slot).isSome != (words.mappedLen != 0) then
      w.log (.markerMismatch slot) else w
    let w₁ := (held.release SecureWorld.driver channel.handle slot logged).2
    have hlogged : Retained w logged := by
      show Retained w (if _ then _ else _)
      split <;> exact ⟨rfl, rfl, rfl⟩
    have hpages : w₁.pages = w.pages :=
      (Holdings.release_preserves (P := Retained w) (fun _ _ _ h => h)
        (fun w' address info h => h.unmap channel.handle address info) slot hlogged).2.1
    have hother : ∀ other, other ≠ slot → op₁.param other = op.param other := by
      intro other hne
      show (if _ then _ else _ : Operation).param other = _
      split
      · exact Slots.get_put_ne _ _ hne
      · rfl
    have hself : op₁.param slot = if (op.param slot).writesBack
        then (op.param slot).receive words else op.param slot := by
      show (if _ then _ else _ : Operation).param slot = _
      split
      · exact Slots.get_put_self _ _ _
      · rfl
    obtain ⟨hlifecycle, hout, hin⟩ := ih hrest op₁
      (held.release SecureWorld.driver channel.handle slot logged).1 w₁
    refine ⟨hlifecycle.trans ?_, fun other hm => ?_, fun other hm => ?_⟩
    · show (if _ then _ else _ : Operation).lifecycle = _
      split <;> rfl
    · refine (hout other fun hr => hm (List.mem_cons_of_mem _ hr)).trans ?_
      exact hother other fun he => hm (List.mem_cons.2 (.inl he))
    · by_cases hr : other ∈ rest
      · refine (hin other hr).trans ?_
        rw [hother other fun he => hnew (he ▸ hr)]
        unfold Shared.page
        rw [hpages]
      · have he : other = slot := (List.mem_cons.1 hm).resolve_right hr
        subst he
        exact (hout other hr).trans hself

/-- Result words that an application wrote are reported as its result. -/
theorem verdict_ofResult (result : Except Status Unit) :
    verdict Origin.trustedApp.code (Status.ofResult result) = reported result := by
  cases result with
  | ok _ => rfl
  | error code => rfl

/-- When the result is collected, the operation gets what the direct call left in its slots. -/
theorem collect_direct {op : Option Operation} (held : Holdings) {p : Page} {d : Direct}
    (hpage : w.pages.get? channel.page = some p) (horigin : p.origin = Origin.trustedApp.code)
    {result : Except Status Unit} (hstatus : p.status = Status.ofResult result)
    (hshows : ∀ slot, ((Operation.paramsOf op).get slot).Shows mappings (p.param slot)
      (d.arguments.get slot)) :
    ∃ w', collect SecureWorld.driver channel op held true w
      = (reported result, op.map (·.settle d), w') ∧ Retained w w' := by
  have hread : w.page channel.page = p := Shared.page_of_get? hpage
  refine ⟨(collect SecureWorld.driver channel op held true w).2.2, ?_,
    collect_preserves (P := Retained w) (fun _ _ h => h)
      (fun w' address info h => h.unmap channel.handle address info) ⟨rfl, rfl, rfl⟩⟩
  refine Prod.ext ?_ (Prod.ext ?_ rfl)
  · show verdict (w.page channel.page).origin (w.page channel.page).status = _
    rw [hread, horigin, hstatus, verdict_ofResult]
  · cases op with
    | none => rfl
    | some op =>
      -- the application has answered, so the slots are taken back
      have hspeaks : (speaker? (w.page channel.page).origin (w.page channel.page).status).isSome
          = true := by
        rw [hread, horigin]
        rfl
      show some (takeBackEach SecureWorld.driver channel (true && (speaker? _ _).isSome)
        Slot.ascending op held w).1 = some (op.settle d)
      rw [hspeaks]
      obtain ⟨hlifecycle, -, hin⟩ := param_takeBackEach channel
        (show Slot.ascending.Nodup by decide) op held w
      refine congrArg some ?_
      have hparams : (takeBackEach SecureWorld.driver channel true Slot.ascending op held
          w).1.params = (op.settle d).params := by
        refine Slots.ext_get fun slot => ?_
        refine (hin slot (Slot.mem_ascending slot)).trans ?_
        rw [hread]
        unfold Operation.settle
        rw [Slots.get_ofFn]
        exact Parameter.receive_of_shows (hshows slot)
      show (takeBackEach SecureWorld.driver channel true Slot.ascending op held w).1 = _
      generalize (takeBackEach SecureWorld.driver channel true Slot.ascending op held w).1 = op'
        at hlifecycle hparams
      cases op'
      cases hlifecycle
      cases hparams
      rfl

end Call

/-! ## Commands -/

/-- A worker serves the page of a session, and nothing is under way there. -/
structure World.Attended (w : World (SecureWorld κ)) (channel : Channel) (worker : Worker κ)
    (p : Page) : Prop where
  known : w.driver.sessions.get? channel.handle = some worker
  serves : worker.page = channel.page
  alive : worker.alive = true
  drained : worker.completions = []
  page : w.pages.get? channel.page = some p

namespace Call

variable {channel : Channel} {w : World (SecureWorld κ)} {worker : Worker κ} {p : Page}
  {command : UInt32} {op : Option Operation} {out : (Except Status Unit × κ) × Direct}

/-- The setting of a command. -/
def setting (op : Option Operation) (p : Page) (worker : Worker κ) : Setting :=
  ⟨Operation.paramsOf op, p.destination, worker.login⟩

/-- A command that ended as a direct call did: the caller has the result, the operation and the
memory hold what the direct call left, and so does the worker. -/
structure EndedDirectly (channel : Channel) (worker : Worker κ) (op : Option Operation)
    (channels : Arena Channel) (out : (Except Status Unit × κ) × Direct)
    (e : End (SecureWorld κ)) : Prop where
  result : e.result = reported out.1.1
  operation : e.operation = op.map (·.settle out.2)
  memory : e.world.memory = out.2.memory
  channels : e.world.channels = channels
  session : e.world.driver.sessions.get? channel.handle
    = some { worker with state := out.1.2 }

/-- A failure that the application reports does not break the session. -/
theorem breaksSession_of_reported {result : Except Status Unit} {failure : Failure}
    (h : reported result = .error failure) : failure.breaksSession = false := by
  unfold reported at h
  split at h
  · cases h
  · split at h
    · cases h
    · cases h
      rfl

/-- A round trip that carries a command is a direct call of the application. -/
theorem roundTrip_direct (id : ChannelId) (hattended : w.Attended channel worker p)
    (hcalm : w.driver.Calm) (hs : (Operation.paramsOf op).Sendable)
    (hprogress : ∀ o, op = some o → w.progress o.lifecycle ≠ .finished)
    (hdirect : worker.app.direct command worker.state (setting op p worker) w.memory = some out) :
    EndedDirectly channel worker op w.channels out
      (roundTrip SecureWorld.driver id channel .invokeCommand command op w) := by
  have hserved : w.driver.sessions.contains channel.handle = true :=
    Table.contains_iff.2 ⟨worker, hattended.known⟩
  -- publish the request
  obtain ⟨held, w₁, p₁, hpublish, huntouched, hpage₁, hready, hinstruction, hcommand, hmirrors⟩ :=
    publish_direct .invokeCommand command worker.login hs hprogress hcalm hserved hattended.page
  have hworker₁ : w₁.driver.sessions.get? channel.handle = some worker := by
    rw [huntouched.sessions]
    exact hattended.known
  -- have it served
  unfold App.direct at hdirect
  rw [← huntouched.memory] at hmirrors hdirect
  obtain ⟨s, hnotify, hanswered⟩ := SecureWorld.notify_direct hworker₁ hattended.alive
    (hattended.serves ▸ hpage₁) hready hinstruction (huntouched.faults.trans hcalm) hmirrors rfl
    (hcommand ▸ hdirect)
  -- wait for the completion
  obtain ⟨w₂, hexchange, hmemory, hpages, hsession⟩ :=
    exchange_direct (w := w₁) hattended.drained hnotify hanswered
  -- and collect the result from the page
  obtain ⟨p₂, hpage₂, -, horigin, hstatus, hshows⟩ := hanswered.page
  have hpage₂ : w₂.pages.get? channel.page = some p₂ := by
    rw [hpages, ← hattended.serves]
    exact hpage₂
  obtain ⟨w₃, hcollect, hsessions, -, hmemory'⟩ :=
    collect_direct held hpage₂ horigin hstatus hshows
  have hchannels : w₃.channels = w.channels := by
    have h₁ := channels_publish (D := SecureWorld.driver) channel .invokeCommand command op w
    have h₂ := channels_exchange (D := SecureWorld.driver) channel.handle w₁
    have h₃ := channels_collect (D := SecureWorld.driver) channel op held true w₂
    rw [hpublish] at h₁
    rw [hexchange] at h₂
    rw [hcollect] at h₃
    exact h₃.trans (h₂.trans h₁)
  have htrip : roundTrip SecureWorld.driver id channel .invokeCommand command op w
      = ⟨reported out.1.1, op.map (·.settle out.2), w₃⟩ := by
    have hok : (Except.ok () : Except Failure Unit).isOk = true := rfl
    rcases hr : reported out.1.1 with failure | origin
    · simp only [roundTrip, hpublish, hexchange, hok, hcollect, hr, Except.bind,
        breaksSession_of_reported hr, Bool.false_eq_true, if_false]
    · simp only [roundTrip, hpublish, hexchange, hok, hcollect, hr, Except.bind]
  rw [htrip]
  refine ⟨rfl, rfl, hmemory'.trans (hmemory.trans hanswered.memory), hchannels, ?_⟩
  rw [hsessions]
  exact hsession

end Call

namespace World

variable {id : ChannelId} {channel : Channel} {w : World (SecureWorld κ)} {worker : Worker κ}
  {p : Page} {op : Option Operation} {out : (Except Status Unit × κ) × Direct}

/-- Where no fault is armed, a command on a session whose page the secure world serves is a direct
call of the application on the parameters of the operation. -/
theorem invoke_direct (command : UInt32) (hget : w.channels.get? id = some channel)
    (hactive : channel.active = true) (hattended : w.Attended channel worker p)
    (hcalm : w.driver.Calm) (hs : (Operation.paramsOf op).Sendable)
    (hdirect : worker.app.direct command worker.state (Call.setting op p worker) w.memory
      = some out) :
    Call.EndedDirectly channel worker op w.channels out
      (w.invoke SecureWorld.driver id command op) := by
  rw [invoke_of_active hget hactive]
  cases op with
  | none => exact Call.roundTrip_direct id hattended hcalm hs (fun _ h => (by cases h)) hdirect
  | some op =>
    -- the operation is under way before the round trip, which nothing but its lifecycle shows
    have hbegun : (w.onLifecycle op.lifecycle (·.begin id)).progress op.lifecycle ≠ .finished := by
      unfold progress onLifecycle
      simp only [Arena.get?_modify, if_true]
      cases w.lifecycles.get? op.lifecycle with
      | none => exact fun h => (by cases h)
      | some lifecycle => exact fun h => (by cases h)
    have htrip := Call.roundTrip_direct id (w := w.onLifecycle op.lifecycle (·.begin id))
      ⟨hattended.known, hattended.serves, hattended.alive, hattended.drained, hattended.page⟩
      hcalm hs (fun o ho => by cases ho; exact hbegun) hdirect
    exact ⟨htrip.result, htrip.operation, htrip.memory, htrip.channels, htrip.session⟩

end World

end TeeClient

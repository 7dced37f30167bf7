import TeeClient.Proofs.Views

/-!
# Drivers that keep a secure world

`Hosts D secure` says that a driver with state `σ` keeps a secure world somewhere in its state, and
what its primitives do to the scene of that secure world, whatever cancellations are requested
meanwhile: these notify sessions as calls do, and may have a request served that is published. It
holds of the secure world as a driver, and of every recorder around a driver of which it holds, with
any hooks and overrides armed, also where the uses are listed. What it says of a primitive is true
of the primitive as a world carries it out.

Main statements:

* `hosts_driver`, `Hosts.recorder` and `Hosts.traced`: the three drivers;
* `Hosts.scene_honoured`: a request to cancel leaves the scene where no worker finds a request
  published;
* `Hosts.attended_onDesk` and `Hosts.attended_notify`: where requests are published for one session
  only, that one may be served meanwhile.
-/

namespace TeeClient

variable {σ κ α : Type}

/-- What a primitive does to the scene, whatever cancellations it asks for. Where requests are
published for a session only, that one may be served before, on behalf of a cancellation. -/
def Acts (secure : σ → SecureWorld κ) (act : Shared σ → Reply (Shared σ) α)
    (effect : Scene κ → α → Scene κ → Prop) : Prop :=
  ∀ handle s, (s.scene secure).Exclusive handle → (act s).Meets (Shared.Attends secure handle)
    fun value s' => ∃ v, (s.scene secure).Attended handle v ∧ effect v value (s'.scene secure)

/-- What the opening of a session does to the scene: one that is opened gets a worker. -/
def Scene.Opened (page : PageId) (login : Login) (v : Scene κ) (result : Except DriverFault Handle)
    (v' : Scene κ) : Prop :=
  match result with
  | .error _ => v' = v
  | .ok handle => ∃ worker : Worker κ, worker.Starts page login ∧ v' = v.hire handle worker

/-- The driver keeps a secure world, in which its primitives do these things. -/
structure Hosts (D : Driver σ) (secure : σ → SecureWorld κ) : Prop where
  openDevice : ∀ d, (secure (D.openDevice d).2.driver).staff = (secure d.driver).staff
  closeDevice : ∀ d, (secure (D.closeDevice d).2.driver).staff = (secure d.driver).staff
  openSession : ∀ destination login page,
    Acts secure (Shared.atDesk (D.openSession destination login page)) (Scene.Opened page login)
  closeSession : ∀ handle, Acts secure (Shared.atDesk (D.closeSession handle))
    fun v _ v' => v' = v.dismiss handle
  map : ∀ handle address len access, Acts secure (Shared.atDesk (D.map handle address len access))
    fun v _ v' => v' = v
  unmap : ∀ handle address info, Acts secure (Shared.atDesk (D.unmap handle address info))
    fun v _ v' => v' = v
  errorCode : ∀ handle, Acts secure (Shared.atDesk (D.errorCode handle)) fun v _ v' => v' = v
  /-- A notification that succeeds leaves no request published for its session. -/
  notify : ∀ purpose handle, Acts secure (D.notify purpose handle)
    fun v result v' => v' = v ∧ (result = .ok () → v'.Unpublished handle)
  wait : ∀ waiting limit handle s, (s.scene secure).Exclusive handle →
    (D.wait waiting limit s).Meets (Shared.Attends secure handle) fun _ s' =>
      ((s.scene secure).drain waiting).Attended handle (s'.scene secure)

/-- A primitive that asks for no cancellation and changes the staff. -/
theorem acts_plainly (act : Desk (SecureWorld κ) → α × Desk (SecureWorld κ))
    {effect : Scene κ → α → Scene κ → Prop}
    (h : ∀ s : Shared (SecureWorld κ), effect (s.scene id) (act s.desk).1
      ((act s.desk).2.driver.staff.scene s.pages)) :
    Acts id (Shared.atDesk fun d => SecureWorld.plainly (act d)) effect :=
  fun handle s _ => ⟨_, .refl handle _, h s⟩

/-- The secure world is hosted by itself. -/
theorem hosts_driver : Hosts (SecureWorld.driver : Driver (SecureWorld κ)) id where
  openDevice d := by
    show (SecureWorld.openDevice d).2.driver.staff = d.driver.staff
    unfold SecureWorld.openDevice
    simp only
    split <;> rfl
  closeDevice _ := rfl
  openSession destination login page := acts_plainly _ fun s => by
    have hstaff := SecureWorld.staff_openSession destination login page s.desk
    unfold Scene.Opened
    cases hresult : (SecureWorld.openSession destination login page s.desk).1 with
    | error e =>
      rw [hresult] at hstaff
      exact congrArg (Staff.scene · s.pages) hstaff
    | ok handle =>
      rw [hresult] at hstaff
      obtain ⟨worker, hstarts, hstaff⟩ := hstaff
      exact ⟨worker, hstarts, congrArg (Staff.scene · s.pages) hstaff⟩
  closeSession handle := acts_plainly _ fun s =>
    congrArg (Staff.scene · s.pages) (SecureWorld.staff_closeSession s.desk)
  map handle address len access := acts_plainly _ fun s =>
    congrArg (Staff.scene · s.pages) (SecureWorld.staff_map address len access s.driver)
  unmap handle address info := acts_plainly _ fun s =>
    congrArg (Staff.scene · s.pages) (SecureWorld.staff_unmap address info s.driver)
  errorCode handle := acts_plainly (fun d => (SecureWorld.errorCode handle d.driver, d))
    fun _ => rfl
  notify _ notified handle s hs :=
    .imp (SecureWorld.notify_meets notified s hs) fun _ _ h => ⟨_, h.1, rfl, h.2⟩
  wait waiting limit handle s _ := .inl
    (congrArg (fun staff => Staff.scene staff s.pages) (SecureWorld.staff_wait waiting s.driver))

/-! ## Drivers around drivers -/

/-- What is done to the scene, is done to it seen through a driver around the driver. -/
theorem meets_within_scene {τ : Type} {secure : σ → SecureWorld κ} {outer : τ → SecureWorld κ}
    (part : Shared τ → Shared σ) (update : Shared τ → Shared σ → Shared τ)
    (hpart : ∀ s, (part s).scene secure = s.scene outer)
    (hupdate : ∀ whole s, (update whole s).scene outer = s.scene secure) {handle : Handle}
    {r : Reply (Shared σ) α} {Q : α → Scene κ → Prop} (whole : Shared τ)
    (h : r.Meets (Shared.Attends secure handle) fun value s => Q value (s.scene secure)) :
    (r.within part update whole).Meets (Shared.Attends outer handle)
      fun value s => Q value (s.scene outer) := by
  refine .imp (h.within (P := fun _ => True) (fun whole state after hk => ?_)
    (fun _ _ _ _ _ => trivial) trivial) ?_
  · unfold Shared.Attends at hk ⊢
    rw [hupdate, ← hpart after] at hk
    exact hk
  · rintro value _ ⟨around, state, -, hq, rfl⟩
    rw [hupdate]
    exact hq

namespace Acts

variable {τ : Type} {secure : σ → SecureWorld κ} {outer : τ → SecureWorld κ}
  {effect : Scene κ → α → Scene κ → Prop}

/-- What a primitive does to the scene, it does to the scene seen through a driver around the
driver. -/
theorem within {act : Shared σ → Reply (Shared σ) α} (h : Acts secure act effect)
    (part : Shared τ → Shared σ) (update : Shared τ → Shared σ → Shared τ)
    (hpart : ∀ s, (part s).scene secure = s.scene outer)
    (hupdate : ∀ whole s, (update whole s).scene outer = s.scene secure) :
    Acts outer (fun s => (act (part s)).within part update s) effect := by
  intro handle whole hwhole
  rw [← hpart] at hwhole ⊢
  exact meets_within_scene part update hpart hupdate
    (Q := fun value v' => ∃ v, ((part whole).scene secure).Attended handle v ∧ effect v value v')
    whole (h handle (part whole) hwhole)

/-- What comes after a primitive that leaves the scene. -/
theorem after {β : Type} {first : Shared σ → Reply (Shared σ) α}
    {next : α → Shared σ → Reply (Shared σ) β} {effect : Scene κ → β → Scene κ → Prop}
    (hfirst : Acts secure first fun v _ v' => v' = v)
    (hnext : ∀ value, Acts secure (next value) effect) :
    Acts secure (fun s => (first s).bind (next · ·)) effect := by
  intro handle s hs
  refine .bind (.imp (hfirst handle s hs) ?_)
  rintro value s₁ ⟨_, hattended, rfl⟩
  refine .imp (hnext value handle s₁ (hattended.exclusive hs)) ?_
  rintro value' s₂ ⟨v, hattended', heffect⟩
  exact ⟨v, hattended.trans hattended', heffect⟩

/-- What is done after a primitive and is not seen in the scene. -/
theorem before {β : Type} {act : Shared σ → Reply (Shared σ) α} (h : Acts secure act effect)
    (next : Shared σ → α → Shared σ → Reply (Shared σ) β) {effect' : Scene κ → β → Scene κ → Prop}
    (hnext : ∀ start v value s, effect v value (s.scene secure) → ∃ value' s',
      next start value s = .done value' s' ∧ effect' v value' (s'.scene secure)) :
    Acts secure (fun s => (act s).bind (next s)) effect' := by
  intro handle s hs
  refine .bind (.imp (h handle s hs) ?_)
  rintro value s' ⟨v, hattended, heffect⟩
  obtain ⟨value', s'', he, heffect'⟩ := hnext s v value s' heffect
  rw [he]
  exact ⟨v, hattended, heffect'⟩

end Acts

namespace Shared

/-- A primitive on the desk may find the desk changed before. -/
theorem atDesk_withDesk (act : Desk σ → Reply (Desk σ) α) (s : Shared σ) (d : Desk σ) :
    atDesk act (s.withDesk d) = (act d).within desk withDesk s :=
  Reply.within_update desk withDesk (fun _ _ _ => rfl) (act d) s d

/-- A primitive on the desk goes on at the desk. -/
theorem atDesk_bind {β : Type} (act : Desk σ → Reply (Desk σ) α)
    (next : α → Desk σ → Reply (Desk σ) β) (s : Shared σ) :
    atDesk (fun d => (act d).bind next) s
      = (atDesk act s).bind fun value s => atDesk (next value) s :=
  Reply.within_bind desk withDesk (fun _ _ => rfl) (fun _ _ _ => rfl) (act s.desk) next s

end Shared

namespace Acts

variable {β : Type} {secure : σ → SecureWorld κ} {act : Desk σ → Reply (Desk σ) α}
  {next : α → Desk σ → Reply (Desk σ) β} {effect : Scene κ → α → Scene κ → Prop}
  {effect' : Scene κ → β → Scene κ → Prop}

/-- What comes at the desk after a primitive that leaves the scene. -/
theorem atDesk_after (h : Acts secure (Shared.atDesk act) fun v _ v' => v' = v)
    (hnext : ∀ value, Acts secure (Shared.atDesk (next value)) effect') :
    Acts secure (Shared.atDesk fun d => (act d).bind next) effect' := by
  intro handle s hs
  rw [Shared.atDesk_bind]
  exact h.after hnext handle s hs

/-- What is done at the desk after a primitive and is not seen in the scene. -/
theorem atDesk_before (h : Acts secure (Shared.atDesk act) effect)
    (hnext : ∀ v value (s : Shared σ), effect v value (s.scene secure) → ∃ value' d,
      next value s.desk = .done value' d ∧ effect' v value' ((s.withDesk d).scene secure)) :
    Acts secure (Shared.atDesk fun d => (act d).bind next) effect' := by
  intro handle s hs
  rw [Shared.atDesk_bind]
  refine h.before (fun _ value => Shared.atDesk (next value)) (fun _ v value s' heffect => ?_)
    handle s hs
  obtain ⟨value', d, he, heffect'⟩ := hnext v value s' heffect
  refine ⟨value', s'.withDesk d, ?_, heffect'⟩
  unfold Shared.atDesk
  rw [he]
  rfl

end Acts

namespace Recorder

variable (secure : σ → SecureWorld κ)

/-- The secure world behind a recorder. -/
abbrev behind (r : Recorder σ) : SecureWorld κ := secure r.inner

/-- What is forwarded from the desk is forwarded with the rest in reach. -/
theorem atDesk_forward (act : Desk σ → Reply (Desk σ) α) (s : Shared (Recorder σ)) :
    Shared.atDesk (forward act) s
      = (Shared.atDesk act (innerShared s)).within innerShared withInnerShared s :=
  (Reply.within_within _ _ _ _ (act (innerDesk s.desk)) s).trans
    (Reply.within_within innerShared withInnerShared Shared.desk Shared.withDesk
      (act (innerShared s).desk) s).symm

variable {secure} {effect : Scene κ → Except DriverFault α → Scene κ → Prop}

/-- Cancellations may be asked for at the desk of a recorder. -/
theorem acts_cancelEach (tokens : List String) :
    Acts (behind secure) (Shared.atDesk (cancelEach tokens)) fun v _ v' => v' = v := by
  induction tokens with
  | nil => exact fun handle s _ => ⟨_, .refl handle _, rfl⟩
  | cons token rest ih =>
    intro handle s hs outcome after hk
    have hattended : (s.scene (behind secure)).Attended handle (after.scene (behind secure)) :=
      hk hs
    have hrest := ih handle (after.note (.cancel token outcome)) (hattended.exclusive hs)
    rw [show after.note _ = after.withDesk (after.desk.note (.cancel token outcome)) from rfl,
      Shared.atDesk_withDesk] at hrest
    refine .imp hrest ?_
    rintro _ s' ⟨v, hattended', heffect⟩
    exact ⟨v, hattended.trans hattended', heffect⟩

/-- Hooks cancel what they are to cancel. -/
theorem acts_hooks (p : Primitive) :
    Acts (behind secure) (Shared.atDesk (runHooks p)) fun v _ v' => v' = v := by
  intro handle s hs
  have heach := acts_cancelEach (s.driver.use p).1 handle
    (s.withDesk { s.desk with driver := (s.driver.use p).2 }) hs
  rw [Shared.atDesk_withDesk] at heach
  exact heach

/-- What a primitive does, it does behind a recorder. -/
theorem acts_forward {act : Desk σ → Reply (Desk σ) (Except DriverFault α)}
    (h : Acts secure (Shared.atDesk act) effect) :
    Acts (behind secure) (Shared.atDesk (forward act)) effect := by
  have hwithin : Acts (behind secure) _ effect :=
    h.within innerShared withInnerShared (fun _ => rfl) fun _ _ => rfl
  intro handle s hs
  rw [atDesk_forward]
  exact hwithin handle s hs

/-- A primitive that is noted does what it did. -/
theorem acts_noted (p : Primitive) (event : Except DriverFault α → Event)
    {act : Desk σ → Reply (Desk σ) (Except DriverFault α)}
    (h : Acts secure (Shared.atDesk act) effect) :
    Acts (behind secure) (Shared.atDesk (noted p event act)) effect :=
  (acts_hooks p).atDesk_after fun _ => (acts_forward h).atDesk_before
    fun _ result _ heffect => ⟨result, _, rfl, heffect⟩

/-- Replacing a result leaves the scene. -/
theorem scene_replaced (secure : σ → SecureWorld κ) (p : Primitive) (result : Except DriverFault α)
    (s : Shared (Recorder σ)) :
    (s.withDesk (replaced p result s.desk).2).scene (behind secure) = s.scene (behind secure) :=
  congrArg (Staff.scene · s.pages) (view_replaced (fun w => (secure w).staff) p result s.desk)

/-- A primitive that is noted and whose result may be replaced does what it did, if that does not
depend on the result. -/
theorem acts_notedReplaced (p : Primitive) (event : Except DriverFault α → Event)
    {act : Desk σ → Reply (Desk σ) (Except DriverFault α)} {effect : Scene κ → Scene κ → Prop}
    (h : Acts secure (Shared.atDesk act) fun v _ v' => effect v v') :
    Acts (behind secure) (Shared.atDesk (notedReplaced p event act)) fun v _ v' => effect v v' :=
  (acts_hooks p).atDesk_after fun _ => (acts_forward h).atDesk_before
    fun _ result s heffect => ⟨_, _, rfl, (scene_replaced secure p result s).symm ▸ heffect⟩

/-- What is met in the secure world, is met in the secure world behind a recorder. -/
theorem meets_shared {handle : Handle} {act : Shared σ → Reply (Shared σ) α}
    {Q : α → Scene κ → Prop} (s : Shared (Recorder σ))
    (h : (act (innerShared s)).Meets (Shared.Attends secure handle) fun value s' =>
      Q value (s'.scene secure)) :
    ((act (innerShared s)).within innerShared withInnerShared s).Meets
      (Shared.Attends (behind secure) handle) fun value s' => Q value (s'.scene (behind secure)) :=
  meets_within_scene innerShared withInnerShared (fun _ => rfl) (fun _ _ => rfl) s h

/-- A primitive during which the secure world runs does behind a recorder what it does. -/
theorem acts_shared {act : Shared σ → Reply (Shared σ) α} {effect : Scene κ → α → Scene κ → Prop}
    (h : Acts secure act effect) : Acts (behind secure)
      (fun s => (act (innerShared s)).within innerShared withInnerShared s) effect :=
  h.within innerShared withInnerShared (fun _ => rfl) fun _ _ => rfl

/-- A notification that is noted does what it did. -/
theorem acts_notedNotify {D : Driver σ} {purpose : Purpose} {handle : Handle}
    {effect : Scene κ → Except DriverFault Unit → Scene κ → Prop}
    (h : Acts secure (D.notify purpose handle) effect)
    (event : Shared (Recorder σ) → Except DriverFault Unit → Event) :
    Acts (behind secure) (fun s => notedNotify D purpose handle (event s) s) effect :=
  (acts_shared h).before (fun start result s => .done result { s with
    journal := s.journal.noteAt start.journal.length (event start result) })
    fun _ _ result _ heffect => ⟨result, _, rfl, heffect⟩

end Recorder

namespace Traced

variable {secure : σ → SecureWorld κ} {effect : Scene κ → α → Scene κ → Prop}

/-- What a primitive does, it does where its uses are listed. -/
theorem acts_forward {act : Desk σ → Reply (Desk σ) α}
    (h : Acts secure (Shared.atDesk act) effect) :
    Acts (fun t => secure t.inner) (Shared.atDesk (forward act)) effect := by
  have hforward : ∀ s : Shared (Traced σ), Shared.atDesk (forward act) s
      = (Shared.atDesk act (innerShared s)).within innerShared withInnerShared s := fun s =>
    (Reply.within_within _ _ _ _ (act (innerDesk s.desk)) s).trans
      (Reply.within_within innerShared withInnerShared Shared.desk Shared.withDesk
        (act (innerShared s).desk) s).symm
  have hwithin : Acts (fun t : Traced σ => secure t.inner) _ effect :=
    h.within innerShared withInnerShared (fun _ => rfl) fun _ _ => rfl
  intro handle s hs
  rw [hforward]
  exact hwithin handle s hs

/-- A primitive that is entered with its result does what it did. -/
theorem acts_enterAfter {act : Desk σ → Reply (Desk σ) α}
    (h : Acts secure (Shared.atDesk act) effect) (use : α → Use) :
    Acts (fun t => secure t.inner) (Shared.atDesk (enterAfter use act)) effect :=
  (acts_forward h).atDesk_before fun _ result _ heffect => ⟨result, _, rfl, heffect⟩

/-- A primitive that is entered before it runs does what it did. -/
theorem acts_enterBefore {act : Desk σ → Reply (Desk σ) α}
    (h : Acts secure (Shared.atDesk act) effect) (use : Use) :
    Acts (fun t => secure t.inner) (Shared.atDesk (enterBefore use act)) effect := by
  intro handle s hs
  have hentered := acts_forward h handle
    (s.withDesk { s.desk with driver := s.driver.enter use }) hs
  rw [Shared.atDesk_withDesk] at hentered
  exact hentered

/-- What is met in the secure world, is met where the use is entered. -/
theorem meets_enterShared {handle : Handle} {act : Shared σ → Reply (Shared σ) α}
    {Q : α → Scene κ → Prop} (use : α → Use) (s : Shared (Traced σ))
    (h : (act (innerShared s)).Meets (Shared.Attends secure handle) fun value s' =>
      Q value (s'.scene secure)) :
    (enterShared use act s).Meets (Shared.Attends (fun t : Traced σ => secure t.inner) handle)
      fun value s' => Q value (s'.scene fun t => secure t.inner) :=
  .bind (.imp (meets_within_scene innerShared withInnerShared (fun _ => rfl) (fun _ _ => rfl) s h)
    fun _ _ hq => hq)

/-- A primitive during which the secure world runs does what it did where it is entered. -/
theorem acts_enterShared {act : Shared σ → Reply (Shared σ) α} (h : Acts secure act effect)
    (use : α → Use) : Acts (fun t => secure t.inner) (enterShared use act) effect :=
  fun handle s hs => meets_enterShared
    (Q := fun value v' => ∃ v, ((innerShared s).scene secure).Attended handle v ∧ effect v value v')
    use s (h handle (innerShared s) hs)

end Traced

section Around

variable {D : Driver σ} {secure : σ → SecureWorld κ} (h : Hosts D secure)
include h

/-- A recorder hosts the secure world that the driver behind it hosts. -/
theorem Hosts.recorder : Hosts (Recorder.driver D) (Recorder.behind secure) where
  openDevice d := h.openDevice (Recorder.innerDesk d)
  closeDevice d := (Recorder.view_replaced (fun w => (secure w).staff) .closeDevice _ _).trans
    (h.closeDevice (Recorder.innerDesk d))
  openSession destination login page :=
    -- the page that is remembered does not show in the scene
    (Recorder.acts_noted .openSession (.openSession destination login)
      (h.openSession destination login page)).atDesk_before
        fun _ result _ heffect => ⟨result, _, rfl, by cases result <;> exact heffect⟩
  closeSession handle :=
    (Recorder.acts_notedReplaced .closeSession (.closeSession handle)
      (h.closeSession handle)).atDesk_before fun _ result _ heffect => ⟨result, _, rfl, heffect⟩
  map handle address len access := Recorder.acts_noted _ _ (h.map handle address len access)
  unmap handle address info := Recorder.acts_notedReplaced _ _ (h.unmap handle address info)
  errorCode handle := Recorder.acts_notedReplaced _ _ (h.errorCode handle)
  notify purpose handle := by
    cases purpose with
    | cancellation => exact Recorder.acts_notedNotify (h.notify .cancellation handle) _
    | call =>
      -- hooks come first, and may have the request served that was published
      exact (Recorder.acts_hooks .notify).after fun _ =>
        Recorder.acts_notedNotify (h.notify .call handle) _
  wait waiting limit handle s hs := by
    have hwaited := Recorder.meets_shared
      (Q := fun _ v' => ((s.scene (Recorder.behind secure)).drain waiting).Attended handle v') s
      (h.wait waiting limit handle (Recorder.innerShared s) hs)
    refine .bind (.imp hwaited fun result s₁ h₁ => ?_)
    have hdrained := h₁.exclusive (hs.drain waiting)
    -- its hooks are due when it is over
    refine .bind (.imp (Recorder.acts_hooks .wait handle (s₁.withDesk _) ?_) ?_)
    · exact (Recorder.scene_replaced secure .wait result s₁).symm ▸ hdrained
    · rintro _ s₂ ⟨_, h₂, rfl⟩
      exact h₁.trans ((Recorder.scene_replaced secure .wait result s₁) ▸ h₂)

/-- A driver that keeps the uses made of it hosts the secure world that the driver itself hosts. -/
theorem Hosts.traced : Hosts (Traced.driver D) fun t => secure t.inner where
  openDevice d := h.openDevice (Traced.innerDesk d)
  closeDevice d := h.closeDevice (Traced.innerDesk d)
  openSession destination login page :=
    Traced.acts_enterAfter (h.openSession destination login page) .openSession
  closeSession handle := Traced.acts_enterBefore (h.closeSession handle) (.closeSession handle)
  map handle address len access :=
    Traced.acts_enterAfter (h.map handle address len access) (.map handle address len access)
  unmap handle address info :=
    Traced.acts_enterBefore (h.unmap handle address info) (.unmap handle address info)
  errorCode handle := Traced.acts_enterBefore (h.errorCode handle) (.errorCode handle)
  notify purpose handle := Traced.acts_enterShared (h.notify purpose handle) _
  wait waiting limit handle s hs := Traced.meets_enterShared
    (Q := fun _ v' => (((Traced.innerShared s).scene secure).drain waiting).Attended handle v')
    (.wait waiting) s (h.wait waiting limit handle (Traced.innerShared s) hs)

end Around

/-! ## What a world carries out -/

/-- The scene of a world. -/
def World.scene (secure : σ → SecureWorld κ) (w : World σ) : Scene κ := w.toShared.scene secure

namespace Hosts

variable {D : Driver σ} {secure : σ → SecureWorld κ} (h : Hosts D secure) {w : World σ}
  {handle : Handle}
include h

/-- Where requests are published for one session only, requests to cancel may have that one
served. -/
theorem tolerates_scene (handle : Handle) : World.Tolerates D fun w after =>
    (w.scene secure).Exclusive handle → (w.scene secure).Attended handle (after.scene secure) where
  refl w _ := .refl handle _
  trans a b c hab hbc ha := (hab ha).trans (hbc ((hab ha).exclusive ha))
  logged w _ _ _ := .refl handle _
  cancelled w _ _ := .refl handle _
  flagged w _ channel _ _ _ := by
    -- the flag that is raised is the one that a scene leaves out
    have hpages := Shared.scene_onPage secure w.toShared channel.page (·.setCancelled true)
      (fun p => p) fun _ => rfl
    rw [Scene.onPage_self] at hpages
    exact .inl hpages
  notified answers hanswers w _ channel _ _ hs := by
    obtain ⟨_, hattended, rfl, -⟩ := World.settleShared_meets_of_kept hanswers
      (D.notify .cancellation channel.handle)
      (h.notify .cancellation channel.handle handle w.toShared hs)
    exact hattended

/-- A request to cancel leaves the scene where no worker finds a request published. -/
theorem scene_honoured (hu : (w.scene secure).Unready) (token : String) :
    (w.honour D token).2.scene secure = w.scene secure :=
  ((h.tolerates_scene 0).honour token w (hu.exclusive 0)).eq (hu 0)

/-- A request to cancel a call leaves the scene where no worker finds a request published. -/
theorem scene_cancelCall (hu : (w.scene secure).Unready) (id : LifecycleId) :
    (w.cancelCall D id).scene secure = w.scene secure :=
  ((h.tolerates_scene 0).cancelCall id w (hu.exclusive 0)).eq (hu 0)

section Carried

variable {effect : Scene κ → α → Scene κ → Prop}

/-- What a primitive does to the scene, it does when a world carries it out. -/
theorem attended_onShared {act : Shared σ → Reply (Shared σ) α} (hact : Acts secure act effect)
    (hs : (w.scene secure).Exclusive handle) :
    ∃ v, (w.scene secure).Attended handle v ∧
      effect v (w.onShared D act).1 ((w.onShared D act).2.scene secure) :=
  (h.tolerates_scene handle).onShared_meets (hact handle w.toShared hs)

/-- What a primitive on the desk does to the scene, it does when a world carries it out. -/
theorem attended_onDesk {act : Desk σ → Reply (Desk σ) α}
    (hact : Acts secure (Shared.atDesk act) effect) (hs : (w.scene secure).Exclusive handle) :
    ∃ v, (w.scene secure).Attended handle v ∧
      effect v (w.onDesk D act).1 ((w.onDesk D act).2.scene secure) := by
  rw [World.onDesk_eq_onShared]
  exact h.attended_onShared hact hs

/-- Where no worker finds a request published, nothing is served on behalf of cancellations. -/
theorem onDesk_scene {act : Desk σ → Reply (Desk σ) α}
    (hact : Acts secure (Shared.atDesk act) effect) (hu : (w.scene secure).Unready) :
    effect (w.scene secure) (w.onDesk D act).1 ((w.onDesk D act).2.scene secure) := by
  obtain ⟨v, hattended, heffect⟩ := h.attended_onDesk hact (hu.exclusive 0)
  rw [hattended.eq (hu 0)] at heffect
  exact heffect

end Carried

variable (w)

/-- Mapping a buffer leaves the scene where no worker finds a request published. -/
theorem scene_map (hu : (w.scene secure).Unready) (handle : Handle) (address : Address) (len : Nat)
    (access : Access) :
    (w.onDesk D (D.map handle address len access)).2.scene secure = w.scene secure :=
  h.onDesk_scene (h.map handle address len access) hu

/-- Removing a mapping leaves the scene where no worker finds a request published. -/
theorem scene_unmap (hu : (w.scene secure).Unready) (handle : Handle) (address : Address)
    (info : SecureRange) :
    (w.onDesk D (D.unmap handle address info)).2.scene secure = w.scene secure :=
  h.onDesk_scene (h.unmap handle address info) hu

/-- Removing a mapping may have a request served that is still published. -/
theorem attended_unmap (hs : (w.scene secure).Exclusive handle) (unmapping : Handle)
    (address : Address) (info : SecureRange) : (w.scene secure).Attended handle
      ((w.onDesk D (D.unmap unmapping address info)).2.scene secure) := by
  obtain ⟨v, hattended, he⟩ := h.attended_onDesk (h.unmap unmapping address info) hs
  exact he ▸ hattended

/-- Asking for an error code leaves the scene where no worker finds a request published. -/
theorem scene_errorCode (hu : (w.scene secure).Unready) (handle : Handle) :
    (w.onDesk D (D.errorCode handle)).2.scene secure = w.scene secure :=
  h.onDesk_scene (h.errorCode handle) hu

/-- A wait delivers the oldest completion of its session. -/
theorem scene_wait (hu : (w.scene secure).Unready) (handle : Handle) (limit : Option Nat) :
    (w.onShared D (D.wait handle limit)).2.scene secure = (w.scene secure).drain handle := by
  have hattended := (h.tolerates_scene handle).onShared_meets
    (h.wait handle limit handle w.toShared (hu.exclusive handle))
  exact Scene.Attended.eq hattended (Scene.unpublished_drain (hu handle) handle)

/-- A notification may have the one request served that is published. It leaves none published if it
succeeds. -/
theorem attended_notify (hs : (w.scene secure).Exclusive handle) (purpose : Purpose)
    (notified : Handle) :
    (w.scene secure).Attended handle
        ((w.onShared D (D.notify purpose notified)).2.scene secure) ∧
      ((w.onShared D (D.notify purpose notified)).1 = .ok () →
        ((w.onShared D (D.notify purpose notified)).2.scene secure).Unpublished notified) := by
  obtain ⟨v, hattended, he, hleft⟩ := h.attended_onShared (h.notify purpose notified) hs
  exact ⟨he ▸ hattended, hleft⟩

end Hosts

end TeeClient

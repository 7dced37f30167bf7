import TeeClient.Proofs.Parts
import TeeClient.Session

/-!
# What calls on sessions come to

A session is opened, takes commands and is closed, and each of the three is one call with some steps
around it. What they come to is said here once, and with it what they preserve.

Main statements:

* `World.openSession_of_error` and `World.openSession_of_ok`: opening a session, by what the driver
  answers;
* `World.invoke_cases`: a command is a call on a session that is active, and refused on any other;
* `World.closeSession_of_unknown`, `World.closeSession_of_inactive` and
  `World.closeSession_of_active`: closing a session, by what is known of it;
* `World.openSession_induction` and `World.closeSession_induction`: what survives the steps of
  opening or closing a session survives the whole.
-/

namespace TeeClient

variable {σ : Type} {D : Driver σ} {P : World σ → Prop} {w : World σ}

/-! ## Opening a session -/

namespace World

/-- The world with a fresh page for a session with a trusted application. -/
def offer (destination : Uuid) (w : World σ) : World σ :=
  { w with pages := w.pages.add (Page.blank.setDestination destination) }

/-- The client's end of a session that the driver just opened. -/
def adopt (handle : Handle) (page : PageId) (w : World σ) : World σ :=
  { w with channels := w.channels.add ⟨handle, page, true⟩ }

/-- The sessions of a client that has adopted one. -/
theorem get?_channels_adopt (handle : Handle) (page : PageId) (id : ChannelId) (w : World σ) :
    (w.adopt handle page).channels.get? id
      = if id = w.channels.fresh then some ⟨handle, page, true⟩ else w.channels.get? id :=
  Arena.get?_add w.channels ⟨handle, page, true⟩ id

/-- The session that was adopted. -/
theorem get?_channels_adopt_fresh (handle : Handle) (page : PageId) (w : World σ) :
    (w.adopt handle page).channels.get? w.channels.fresh = some ⟨handle, page, true⟩ :=
  (get?_channels_adopt handle page _ w).trans (if_pos rfl)

/-- The sessions of before are left. -/
theorem get?_channels_adopt_of_get? (handle : Handle) (page : PageId) {id : ChannelId}
    {channel : Channel} {w : World σ} (h : w.channels.get? id = some channel) :
    (w.adopt handle page).channels.get? id = some channel := by
  have hne : id ≠ w.channels.fresh := Nat.ne_of_lt (Arena.lt_of_get? h)
  rw [get?_channels_adopt, if_neg hne]
  exact h

variable {destination : Uuid} {method : ConnectionMethod} {op : Option Operation} {w₁ : World σ}

/-- An attempt that the driver refuses leaves no page. -/
theorem openSession_of_error {e : DriverFault}
    (h : (w.offer destination).onDesk D (D.openSession destination method.login w.pages.fresh)
      = (.error e, w₁)) :
    w.openSession D destination method op = ⟨.error e.openFailure, op,
      (if e.openIsUnclassified then w₁.log (.openFailed e) else w₁).freePage w.pages.fresh⟩ := by
  simp only [offer] at h
  simp only [openSession, h]

/-- A session that the driver opened carries the open instruction; it is given up if that fails. -/
theorem openSession_of_ok {handle : Handle}
    (h : (w.offer destination).onDesk D (D.openSession destination method.login w.pages.fresh)
      = (.ok handle, w₁)) :
    w.openSession D destination method op =
      let id := w₁.channels.fresh
      let e := Call.carry D id ⟨handle, w.pages.fresh, true⟩ .openSession 0 op
        (w₁.adopt handle w.pages.fresh)
      match e.result with
      | .ok _ => ⟨.ok id, e.operation, e.world.log (.sessionOpened handle destination)⟩
      | .error failure => ⟨.error failure, e.operation,
          (((e.world.log (.openRejected handle failure)).teardown D id).log
            (.sessionClosed handle)).forget id⟩ := by
  simp only [offer] at h
  simp only [openSession, h]
  rfl

/-- What survives all that opening a session does from where the driver has answered survives
opening it: a session that was opened is adopted and carries the open instruction, and is taken down
again if that fails. -/
theorem openSession_induction (hlog : ∀ w r, P w → P (w.log r))
    (hfree : ∀ w page, P w → P (w.freePage page))
    (hadopt : ∀ w handle page, P w → P (w.adopt handle page))
    (hcarry : ∀ w id channel, P w → P (Call.carry D id channel .openSession 0 op w).world)
    (hteardown : ∀ w id, P w → P (w.teardown D id)) (hforget : ∀ w id, P w → P (w.forget id))
    (h : P ((w.offer destination).onDesk D
      (D.openSession destination method.login w.pages.fresh)).2) :
    P (w.openSession D destination method op).world := by
  rcases ho : (w.offer destination).onDesk D (D.openSession destination method.login w.pages.fresh)
    with ⟨e | handle, w₁⟩
  · rw [ho] at h
    rw [openSession_of_error ho]
    refine hfree _ _ ?_
    split
    · exact hlog _ _ h
    · exact h
  · rw [ho] at h
    rw [openSession_of_ok ho]
    have hcarried := hcarry _ w₁.channels.fresh ⟨handle, w.pages.fresh, true⟩
      (hadopt _ handle w.pages.fresh h)
    simp only
    split
    · exact hlog _ _ hcarried
    · exact hforget _ _ (hlog _ _ (hteardown _ _ (hlog _ _ hcarried)))

/-! ## Invoking a command -/

variable {id : ChannelId} {channel : Channel}

/-- An invocation on an active session is a call. -/
theorem invoke_of_active (hget : w.channels.get? id = some channel) (ha : channel.active = true)
    (command : UInt32) (op : Option Operation) :
    w.invoke D id command op = Call.carry D id channel .invokeCommand command op w := by
  unfold invoke
  simp only [hget, ha, if_true]

/-- An invocation on a session that is not active is refused. -/
theorem invoke_of_inactive
    (h : ∀ channel, w.channels.get? id = some channel → channel.active = false)
    (command : UInt32) (op : Option Operation) :
    w.invoke D id command op = ⟨.error (.api .badState), op, w⟩ := by
  unfold invoke
  cases hget : w.channels.get? id with
  | none => rfl
  | some channel => simp only [h channel hget, Bool.false_eq_true, if_false]

/-- An invocation is a call, or it is refused. -/
theorem invoke_cases (D : Driver σ) (id : ChannelId) (command : UInt32) (op : Option Operation)
    (w : World σ) :
    (∃ channel, w.channels.get? id = some channel ∧ channel.active = true ∧
      w.invoke D id command op = Call.carry D id channel .invokeCommand command op w) ∨
    ((∀ channel, w.channels.get? id = some channel → channel.active = false) ∧
      w.invoke D id command op = ⟨.error (.api .badState), op, w⟩) := by
  obtain ⟨channel, hget, ha⟩ | hinactive := exists_active_or id w
  · exact .inl ⟨channel, hget, ha, invoke_of_active hget ha command op⟩
  · exact .inr ⟨hinactive, invoke_of_inactive hinactive command op⟩

/-! ## Closing a session -/

/-- A session that is forgotten is gone, and the others are as they were. -/
theorem get?_channels_forget (id other : ChannelId) (w : World σ) :
    (w.forget id).channels.get? other = if other = id then none else w.channels.get? other := by
  unfold forget
  cases hget : w.channels.get? id with
  | none =>
    by_cases he : other = id
    · rw [if_pos he, he]; exact hget
    · rw [if_neg he]
  | some channel => exact Arena.get?_erase w.channels id other

/-- Forgetting a session is no business of the driver. -/
@[simp] theorem driver_forget (id : ChannelId) (w : World σ) : (w.forget id).driver = w.driver := by
  unfold forget
  split <;> rfl

/-- A session that is not known cannot be closed. -/
theorem closeSession_of_unknown (hget : w.channels.get? id = none) :
    w.closeSession D id = w := by
  unfold closeSession
  rw [hget]

/-- A session that is not active is only forgotten when it is closed. -/
theorem closeSession_of_inactive (hget : w.channels.get? id = some channel)
    (ha : channel.active = false) :
    w.closeSession D id = (w.log (.sessionClosed channel.handle)).forget id := by
  unfold closeSession
  simp only [hget, ha, Bool.false_eq_true, if_false]

/-- An active session carries the close instruction before it is taken down and forgotten. -/
theorem closeSession_of_active (hget : w.channels.get? id = some channel)
    (ha : channel.active = true) : ∃ r : Option Record,
      let e := Call.carry D id channel .closeSession 0 none w
      w.closeSession D id = ((r.elim e.world e.world.log).teardown D id |>.log
        (.sessionClosed channel.handle)).forget id := by
  unfold closeSession
  simp only [hget, ha, if_true]
  cases (Call.carry D id channel .closeSession 0 none w).result with
  | ok _ => exact ⟨none, rfl⟩
  | error failure => exact ⟨some (.closeCommandFailed channel.handle failure), rfl⟩

/-- What survives all that closing a session does survives closing it. -/
theorem closeSession_induction (hlog : ∀ w r, P w → P (w.log r))
    (hcarry : ∀ channel, P w → P (Call.carry D id channel .closeSession 0 none w).world)
    (hteardown : ∀ w, P w → P (w.teardown D id)) (hforget : ∀ w, P w → P (w.forget id))
    (h : P w) : P (w.closeSession D id) := by
  cases hget : w.channels.get? id with
  | none =>
    rw [closeSession_of_unknown hget]
    exact h
  | some channel =>
    cases ha : channel.active with
    | false =>
      rw [closeSession_of_inactive hget ha]
      exact hforget _ (hlog _ _ h)
    | true =>
      -- whether the close instruction fails is only reported
      obtain ⟨r, hclosed⟩ := closeSession_of_active (D := D) hget ha
      have hcarried := hcarry channel h
      have hreported : P (r.elim (Call.carry D id channel .closeSession 0 none w).world
          (Call.carry D id channel .closeSession 0 none w).world.log) := by
        cases r with
        | none => exact hcarried
        | some r => exact hlog _ r hcarried
      rw [hclosed]
      exact hforget _ (hlog _ _ (hteardown _ hreported))

end World

/-! ## Calls on sessions -/

/-- The property of the driver's state survives all that calls on sessions do. -/
structure DriverSafe (D : Driver σ) (plans : Address → Nat → Prop) (Q : σ → Prop) : Prop
    extends CallSafe D plans fun w : World σ => Q w.driver where
  openSession : ∀ (w : World σ) destination login page, Q w.driver →
    Q (w.onDesk D (D.openSession destination login page)).2.driver

/-- The property of the driver's state survives calls as a whole, and the opening and closing of
sessions at the driver. -/
structure SessionSafe (D : Driver σ) (Q : σ → Prop) : Prop where
  carry : ∀ (w : World σ) id channel instruction command op, Q w.driver →
    Q (Call.carry D id channel instruction command op w).world.driver
  closeSession : ∀ (w : World σ) handle, Q w.driver →
    Q (w.onDesk D (D.closeSession handle)).2.driver
  openSession : ∀ (w : World σ) destination login page, Q w.driver →
    Q (w.onDesk D (D.openSession destination login page)).2.driver

namespace World

variable {plans : Address → Nat → Prop} {Q : σ → Prop} {op : Option Operation}

section Whole

variable (hcarry : ∀ (w : World σ) id channel instruction command, Q w.driver →
  Q (Call.carry D id channel instruction command op w).world.driver)
include hcarry

/-- What calls preserve, invoking a command preserves. -/
theorem invoke_preserves_of (id : ChannelId) (command : UInt32) (h : Q w.driver) :
    Q (w.invoke D id command op).world.driver := by
  obtain ⟨channel, -, -, hcall⟩ | ⟨-, hrefused⟩ := invoke_cases D id command op w
  · rw [hcall]
    exact hcarry w id channel .invokeCommand command h
  · rw [hrefused]
    exact h

variable (hclose : ∀ (w : World σ) handle, Q w.driver →
  Q (w.onDesk D (D.closeSession handle)).2.driver)
include hclose

/-- What calls and closing preserve from where the driver has answered, opening a session
preserves. -/
theorem openSession_preserves_of {destination : Uuid} {method : ConnectionMethod}
    (h : Q ((w.offer destination).onDesk D
      (D.openSession destination method.login w.pages.fresh)).2.driver) :
    Q (w.openSession D destination method op).world.driver :=
  openSession_induction (P := fun w => Q w.driver) (fun _ _ h => h) (fun _ _ h => h)
    (fun _ _ _ h => h) (fun w id channel => hcarry w id channel .openSession 0)
    (fun _ id h => teardown_preserves_of (P := fun w => Q w.driver) (fun _ _ _ h => h)
      (fun _ _ _ h => h) hclose id h)
    (fun w id h => (congrArg Q (driver_forget id w)).mpr h) h

end Whole

/-- What calls and closing preserve, closing a session preserves. -/
theorem closeSession_preserves_of
    (hcarry : ∀ (w : World σ) id channel, Q w.driver →
      Q (Call.carry D id channel .closeSession 0 none w).world.driver)
    (hclose : ∀ (w : World σ) handle, Q w.driver → Q (w.onDesk D (D.closeSession handle)).2.driver)
    (id : ChannelId) (h : Q w.driver) : Q (w.closeSession D id).driver :=
  closeSession_induction (P := fun w => Q w.driver) (fun _ _ h => h) (hcarry w id)
    (fun _ h => teardown_preserves_of (P := fun w => Q w.driver) (fun _ _ _ h => h)
      (fun _ _ _ h => h) hclose id h)
    (fun w h => (congrArg Q (driver_forget id w)).mpr h) h

/-- What the primitives preserve from where the driver has answered, opening a session preserves. -/
theorem openSession_preserves_from (hs : CallSafe D plans fun w : World σ => Q w.driver)
    (hp : ∀ o, op = some o → ∀ address len, o.Plans address len → plans address len)
    {destination : Uuid} {method : ConnectionMethod}
    (h : Q ((w.offer destination).onDesk D
      (D.openSession destination method.login w.pages.fresh)).2.driver) :
    Q (w.openSession D destination method op).world.driver :=
  openSession_preserves_of (fun _ id _ _ _ => Call.carry_preserves hs hp id) hs.closeSession h

variable (hs : DriverSafe D plans Q)
include hs

/-- What the primitives preserve, closing a session preserves. -/
theorem closeSession_preserves (id : ChannelId) (h : Q w.driver) :
    Q (w.closeSession D id).driver :=
  closeSession_preserves_of
    (fun _ id _ => Call.carry_preserves hs.toCallSafe (fun _ ho => (by cases ho)) id)
    hs.closeSession id h

variable (hp : ∀ o, op = some o → ∀ address len, o.Plans address len → plans address len)
include hp

/-- What the primitives preserve, invoking a command preserves. -/
theorem invoke_preserves (id : ChannelId) (command : UInt32) (h : Q w.driver) :
    Q (w.invoke D id command op).world.driver :=
  invoke_preserves_of (fun _ id _ _ _ => Call.carry_preserves hs.toCallSafe hp id) id command h

/-- What the primitives preserve, opening a session preserves. -/
theorem openSession_preserves (destination : Uuid) (method : ConnectionMethod) (h : Q w.driver) :
    Q (w.openSession D destination method op).world.driver :=
  openSession_preserves_from hs.toCallSafe hp (hs.openSession (w.offer destination) _ _ _ h)

end World

/-- What the primitives preserve of any operation, calls preserve as a whole. -/
theorem DriverSafe.sessionSafe {Q : σ → Prop} (hs : DriverSafe D (fun _ _ => True) Q) :
    SessionSafe D Q where
  carry _ id _ _ _ _ := Call.carry_preserves hs.toCallSafe (fun _ _ _ _ _ => trivial) id
  closeSession := hs.closeSession
  openSession := hs.openSession

end TeeClient

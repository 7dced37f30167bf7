import TeeClient.Proofs.Runs

/-!
# What a driver is asked for

`Traced.driver D` serves every primitive by `D` and keeps a list of the uses that are made of it,
the latest first. Nothing that `D` does reaches the list. What gives something back is entered
before `D` sees it, everything else with its result when `D` is done; a wake-up on behalf of a
cancellation may come in between.

Main statements:

* `Traced.uses_enterAfter` and `Traced.uses_enterBefore`: what one primitive adds to the list,
  whatever `D` answers and whichever cancellations it asks for;
* `Traced.tolerates_woken`: a cancellation adds nothing but wake-ups of sessions that are active.
-/

namespace TeeClient

/-- One use of a driver. The beginning of a client call is entered among the uses. -/
inductive Use
  /-- A client call begins. -/
  | call (call : ClientCall)
  | openDevice (result : Except DriverFault Unit)
  | closeDevice
  | openSession (result : Except DriverFault Handle)
  | closeSession (handle : Handle)
  | map (handle : Handle) (address : Address) (len : Nat) (access : Access)
      (result : Except DriverFault SecureRange)
  | unmap (handle : Handle) (address : Address) (info : SecureRange)
  | notify (handle : Handle) (result : Except DriverFault Unit)
  | wait (handle : Handle) (result : Except DriverFault Unit)
  | errorCode (handle : Handle)
  /-- A notification on behalf of a cancellation. -/
  | wake (handle : Handle)

/-- A driver's state with the uses made of the driver. -/
structure Traced (σ : Type) where
  /-- The state of the driver itself. -/
  inner : σ
  /-- The uses, the latest first. -/
  uses : List Use

/-- Between `before` and `after` some sessions were woken, all of them among the `awake`. -/
def Woken (awake : Handle → Prop) (before after : List Use) : Prop :=
  ∃ handles : List Handle, after = handles.map Use.wake ++ before ∧ ∀ h ∈ handles, awake h

/-- No session need have been woken. -/
theorem Woken.refl {awake : Handle → Prop} (uses : List Use) : Woken awake uses uses :=
  ⟨[], rfl, fun _ h => by cases h⟩

/-- Sessions may be woken later as well. -/
theorem Woken.trans {awake : Handle → Prop} {a b c : List Use} (h : Woken awake a b)
    (h' : Woken awake b c) : Woken awake a c := by
  obtain ⟨first, rfl, hf⟩ := h
  obtain ⟨second, rfl, hs⟩ := h'
  refine ⟨second ++ first, by simp, fun handle hm => ?_⟩
  rcases List.mem_append.1 hm with hm | hm
  · exact hs handle hm
  · exact hf handle hm

/-- What every wake-up preserves, waking some sessions preserves. -/
theorem Traced.of_woken {R : List Use → Prop}
    (hwake : ∀ handle uses, R uses → R (.wake handle :: uses)) {awake : Handle → Prop}
    {uses uses' : List Use} (hw : Woken awake uses uses') (h : R uses) : R uses' := by
  obtain ⟨handles, rfl, -⟩ := hw
  induction handles with
  | nil => exact h
  | cons handle rest ih => exact hwake handle _ ih

/-- A session of the world is active under this handle. -/
def World.Hears {σ : Type} (w : World σ) (handle : Handle) : Prop :=
  ∃ id channel, w.channels.get? id = some channel ∧ channel.active = true ∧ channel.handle = handle

namespace Traced

variable {σ α : Type}

/-- The desk of the driver itself. -/
def innerDesk (d : Desk (Traced σ)) : Desk σ := ⟨d.driver.inner, d.journal⟩

/-- The desk with that of the driver itself replaced. -/
def withInnerDesk (d : Desk (Traced σ)) (inner : Desk σ) : Desk (Traced σ) :=
  ⟨{ d.driver with inner := inner.driver }, inner.journal⟩

/-- What the secure world of the driver itself may touch. -/
def innerShared (s : Shared (Traced σ)) : Shared σ :=
  ⟨s.driver.inner, s.journal, s.pages, s.memory⟩

/-- What the secure world may touch, after that of the driver itself has changed. -/
def withInnerShared (s : Shared (Traced σ)) (inner : Shared σ) : Shared (Traced σ) :=
  ⟨{ s.driver with inner := inner.driver }, inner.journal, inner.pages, inner.memory⟩

/-- Enter a use. -/
def enter (use : Use) (t : Traced σ) : Traced σ := { t with uses := use :: t.uses }

/-- Have a primitive served by the driver itself. -/
def forward (act : Desk σ → Reply (Desk σ) α) (d : Desk (Traced σ)) : Reply (Desk (Traced σ)) α :=
  (act (innerDesk d)).within innerDesk withInnerDesk d

/-- A primitive that is entered with its result. -/
def enterAfter (use : α → Use) (act : Desk σ → Reply (Desk σ) α) (d : Desk (Traced σ)) :
    Reply (Desk (Traced σ)) α :=
  (forward act d).bind fun result d => .done result { d with driver := d.driver.enter (use result) }

/-- A primitive that is entered before it runs. -/
def enterBefore (use : Use) (act : Desk σ → Reply (Desk σ) α) (d : Desk (Traced σ)) :
    Reply (Desk (Traced σ)) α :=
  forward act { d with driver := d.driver.enter use }

/-- A primitive during which the secure world runs, entered with its result. -/
def enterShared (use : α → Use) (act : Shared σ → Reply (Shared σ) α) (s : Shared (Traced σ)) :
    Reply (Shared (Traced σ)) α :=
  ((act (innerShared s)).within innerShared withInnerShared s).bind fun result s =>
    .done result { s with driver := s.driver.enter (use result) }

/-- The use that a notification is entered as. -/
def notified (purpose : Purpose) (handle : Handle) (result : Except DriverFault Unit) : Use :=
  match purpose with
  | .call => .notify handle result
  | .cancellation => .wake handle

/-- A primitive that asks for no cancellation, entered with its result. -/
def enterNow (use : α → Use) (act : Desk σ → α × Desk σ) (d : Desk (Traced σ)) :
    α × Desk (Traced σ) :=
  let (result, inner) := act (innerDesk d)
  let d := withInnerDesk d inner
  (result, { d with driver := d.driver.enter (use result) })

variable (D : Driver σ)

/-- A driver that keeps the uses made of it. -/
def driver : Driver (Traced σ) where
  openDevice := enterNow .openDevice D.openDevice
  closeDevice := enterNow (fun _ => .closeDevice) D.closeDevice
  openSession destination login page :=
    enterAfter .openSession (D.openSession destination login page)
  closeSession handle := enterBefore (.closeSession handle) (D.closeSession handle)
  map handle address len access :=
    enterAfter (.map handle address len access) (D.map handle address len access)
  unmap handle address info :=
    enterBefore (.unmap handle address info) (D.unmap handle address info)
  notify purpose handle := enterShared (notified purpose handle) (D.notify purpose handle)
  wait handle limit := enterShared (.wait handle) (D.wait handle limit)
  errorCode handle := enterBefore (.errorCode handle) (D.errorCode handle)

section Primitives

variable {awake : Handle → Prop}

/-- Nothing is entered while the driver itself is at its desk, but sessions may be woken. -/
theorem forward_meets (act : Desk σ → Reply (Desk σ) α) (d : Desk (Traced σ)) :
    (forward act d).Meets (fun a b => Woken awake a.driver.uses b.driver.uses)
      fun _ after => Woken awake d.driver.uses after.driver.uses := by
  refine .imp ((act (innerDesk d)).meets_within
    (P := fun whole => Woken awake d.driver.uses whole.driver.uses) ?_ (.refl _)) ?_
  · exact fun whole _ _ h hk => h.trans hk
  · rintro _ _ ⟨whole, state, h, rfl⟩
    exact h

/-- What a primitive that is entered with its result adds, when sessions may be woken meanwhile. -/
theorem enterAfter_meets (use : α → Use) (act : Desk σ → Reply (Desk σ) α) (d : Desk (Traced σ)) :
    (enterAfter use act d).Meets (fun a b => Woken awake a.driver.uses b.driver.uses)
      fun result after => ∃ uses, Woken awake d.driver.uses uses ∧
        after.driver.uses = use result :: uses :=
  .bind (.imp (forward_meets act d) fun _ after h => ⟨after.driver.uses, h, rfl⟩)

/-- What a primitive that is entered before it runs adds, when sessions may be woken meanwhile. -/
theorem enterBefore_meets (use : Use) (act : Desk σ → Reply (Desk σ) α) (d : Desk (Traced σ)) :
    (enterBefore use act d).Meets (fun a b => Woken awake a.driver.uses b.driver.uses)
      fun _ after => Woken awake (use :: d.driver.uses) after.driver.uses :=
  forward_meets act { d with driver := d.driver.enter use }

/-- What a primitive during which the secure world runs adds, when sessions may be woken
meanwhile. -/
theorem enterShared_meets (use : α → Use) (act : Shared σ → Reply (Shared σ) α)
    (s : Shared (Traced σ)) :
    (enterShared use act s).Meets (fun a b => Woken awake a.driver.uses b.driver.uses)
      fun result after => ∃ uses, Woken awake s.driver.uses uses ∧
        after.driver.uses = use result :: uses := by
  refine .bind (.imp (Reply.meets_within
    (P := fun whole => Woken awake s.driver.uses whole.driver.uses) _ ?_ (.refl _)) ?_)
  · exact fun whole _ _ h hk => h.trans hk
  · rintro result _ ⟨whole, state, h, rfl⟩
    exact ⟨whole.driver.uses, h, rfl⟩

end Primitives

/-- The same sessions stay active under the same handles while a primitive is under way. -/
theorem hears_congr {w w' : World (Traced σ)} (h : w'.channels = w.channels) :
    w'.Hears = w.Hears := by
  unfold World.Hears
  rw [h]

/-- Some active sessions were woken, and nothing else was entered. -/
def Roused (w after : World (Traced σ)) : Prop :=
  after.channels = w.channels ∧ Woken w.Hears w.driver.uses after.driver.uses

/-- Requests that rouse sessions may be answered while a reply is under way. -/
theorem keeps_roused {answers : World.Answers (Traced σ)}
    (hanswers : ∀ token w, Roused w (answers token w).2) {w : World (Traced σ)}
    (w' : World (Traced σ)) (token : String) (h : w'.channels = w.channels) :
    (answers token w').2.channels = w.channels ∧
      Woken w.Hears w'.driver.uses (answers token w').2.driver.uses := by
  obtain ⟨hchannels, hwoken⟩ := hanswers token w'
  rw [hears_congr h] at hwoken
  exact ⟨hchannels.trans h, hwoken⟩

/-- A request to cancel wakes sessions that are active, and nothing else is entered for it. -/
theorem tolerates_woken : World.Tolerates (driver D) Roused where
  refl _ := ⟨rfl, .refl _⟩
  trans a b c := by
    rintro ⟨hab, huses⟩ ⟨hbc, huses'⟩
    rw [hears_congr hab] at huses'
    exact ⟨hbc.trans hab, huses.trans huses'⟩
  logged _ _ _ := ⟨rfl, .refl _⟩
  cancelled _ _ := ⟨rfl, .refl _⟩
  flagged _ _ _ _ _ := ⟨rfl, .refl _⟩
  notified answers hanswers w id channel hget ha := by
    obtain ⟨w', shared, hchannels, ⟨uses, hwoken, huses⟩, he⟩ := World.settleShared_meets
      (A := fun w' => w'.channels = w.channels) ((driver D).notify .cancellation channel.handle)
      (enterShared_meets _ _ w.toShared)
      (fun w' shared token => keeps_roused hanswers (w'.withShared shared) token) rfl
    -- the session that is notified comes last
    have hlast : Woken w.Hears uses (.wake channel.handle :: uses) := by
      refine ⟨[channel.handle], rfl, fun handle hm => ?_⟩
      rw [List.mem_singleton.1 hm]
      exact ⟨id, channel, hget, ha, rfl⟩
    rw [he]
    refine ⟨hchannels, ?_⟩
    rw [show (w'.withShared shared).driver.uses = _ from huses]
    exact hwoken.trans hlast

/-- A reply on the desk of a world meets what it meets while active sessions may be woken. -/
theorem onDesk_meets {Q : α → Desk (Traced σ) → Prop}
    {act : Desk (Traced σ) → Reply (Desk (Traced σ)) α} {w : World (Traced σ)}
    (h : (act w.desk).Meets (fun a b => Woken w.Hears a.driver.uses b.driver.uses) Q) :
    Q (w.onDesk (driver D) act).1 (w.onDesk (driver D) act).2.desk := by
  obtain ⟨w', desk, -, hq, he⟩ := World.onDesk_meets (driver D)
    (A := fun w' => w'.channels = w.channels) h (fun w' desk token =>
      keeps_roused (tolerates_woken D).honour (w'.withDesk desk) token) rfl
  rw [he]
  exact hq

/-- A reply on what the secure world may touch meets what it meets while active sessions may be
woken. -/
theorem onShared_meets {Q : α → Shared (Traced σ) → Prop}
    {act : Shared (Traced σ) → Reply (Shared (Traced σ)) α} {w : World (Traced σ)}
    (h : (act w.toShared).Meets (fun a b => Woken w.Hears a.driver.uses b.driver.uses) Q) :
    Q (w.onShared (driver D) act).1 (w.onShared (driver D) act).2.toShared := by
  obtain ⟨w', shared, -, hq, he⟩ := World.onShared_meets (driver D)
    (A := fun w' => w'.channels = w.channels) h (fun w' shared token =>
      keeps_roused (tolerates_woken D).honour (w'.withShared shared) token) rfl
  rw [he]
  exact hq

/-- What a primitive that is entered with its result adds to the uses. -/
theorem uses_enterAfter (use : α → Use) (act : Desk σ → Reply (Desk σ) α) (w : World (Traced σ)) :
    ∃ uses, Woken w.Hears w.driver.uses uses ∧
      (w.onDesk (driver D) (enterAfter use act)).2.driver.uses
        = use (w.onDesk (driver D) (enterAfter use act)).1 :: uses :=
  onDesk_meets D (enterAfter_meets use act w.desk)

/-- What a primitive that is entered before it runs adds to the uses. -/
theorem uses_enterBefore (use : Use) (act : Desk σ → Reply (Desk σ) α) (w : World (Traced σ)) :
    Woken w.Hears (use :: w.driver.uses)
      (w.onDesk (driver D) (enterBefore use act)).2.driver.uses :=
  onDesk_meets D (enterBefore_meets use act w.desk)

/-- What a primitive during which the secure world runs adds to the uses. -/
theorem uses_enterShared (use : α → Use) (act : Shared σ → Reply (Shared σ) α)
    (w : World (Traced σ)) :
    ∃ uses, Woken w.Hears w.driver.uses uses ∧
      (w.onShared (driver D) (enterShared use act)).2.driver.uses
        = use (w.onShared (driver D) (enterShared use act)).1 :: uses :=
  onShared_meets D (enterShared_meets use act w.toShared)

end Traced

end TeeClient

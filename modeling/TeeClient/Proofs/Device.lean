import TeeClient.Proofs.Performance

/-!
# Using a device without a client

A driver's primitives may also be called by themselves, in any order and with any arguments: the
same session may be notified twice, a page filled with anything, faults armed at any time.
`DeviceCall` is one such call on the simulated secure world, `World.use` what it answers and leaves
behind, and `World.useAll` takes one after the other while their user keeps notes.

Main statements:

* `World.useAll_preserves`: what each call preserves, all of them do;
* `World.restages_use`: what each call but a notification does to the scene;
* `SecureWorld.Overlooks.use_notify`: what is overlooked while requests are served, is overlooked
  when a call has them served.
-/

namespace TeeClient

open SecureWorld

variable {κ σ α N : Type}

/-- What can be done with a device. -/
inductive DeviceCall
  | openSession (destination : Uuid) (login : Login) (page : PageId)
  | closeSession (handle : Handle)
  | map (handle : Handle) (address : Address) (len : Nat) (access : Access)
  | unmap (handle : Handle) (address : Address) (info : SecureRange)
  | errorCode (handle : Handle)
  /-- Fill a page with anything. -/
  | publish (page : PageId) (contents : Page)
  | notify (handle : Handle)
  | wait (handle : Handle) (limit : Option Nat)
  /-- Arm these faults, and no others. -/
  | arm (faults : ArmedFaults)

/-- What a call of the device answers. -/
abbrev DeviceCall.Answer : DeviceCall → Type
  | openSession .. => Except DriverFault Handle
  | closeSession _ | unmap .. | notify _ | wait .. => Except DriverFault Unit
  | map .. => Except DriverFault SecureRange
  | errorCode _ => Except DriverFault Int
  | publish .. | arm _ => Unit

namespace World

/-- Do something with the simulated secure world. -/
def use (w : World (SecureWorld κ)) : (call : DeviceCall) → call.Answer × World (SecureWorld κ)
  | .openSession destination login page =>
    w.onDesk SecureWorld.driver (SecureWorld.driver.openSession destination login page)
  | .closeSession handle => w.onDesk SecureWorld.driver (SecureWorld.driver.closeSession handle)
  | .map handle address len access =>
    w.onDesk SecureWorld.driver (SecureWorld.driver.map handle address len access)
  | .unmap handle address info =>
    w.onDesk SecureWorld.driver (SecureWorld.driver.unmap handle address info)
  | .errorCode handle => w.onDesk SecureWorld.driver (SecureWorld.driver.errorCode handle)
  | .publish page contents => ((), w.onPage page fun _ => contents)
  | .notify handle => w.onShared SecureWorld.driver (SecureWorld.driver.notify .call handle)
  | .wait handle limit => w.onShared SecureWorld.driver (SecureWorld.driver.wait handle limit)
  | .arm faults => ((), w.withDriver { w.driver with faults })

/-- What a user notes down who knows the world before a call, the call and its answer. -/
abbrev Noting (κ N : Type) :=
  World (SecureWorld κ) → (call : DeviceCall) → call.Answer → N → N

/-- Do one thing after the other, and keep notes. -/
def useAll (note : Noting κ N) : List DeviceCall → World (SecureWorld κ) × N →
    World (SecureWorld κ) × N
  | [], s => s
  | call :: rest, (w, notes) =>
    let (answer, after) := w.use call
    useAll note rest (after, note w call answer notes)

variable {note : Noting κ N}

/-- What each call preserves together with what is noted of it, all of them do. -/
theorem useAll_preserves {P : World (SecureWorld κ) → N → Prop}
    (hcall : ∀ w notes call, P w notes → P (w.use call).2 (note w call (w.use call).1 notes))
    (calls : List DeviceCall) {s : World (SecureWorld κ) × N} (h : P s.1 s.2) :
    P (useAll note calls s).1 (useAll note calls s).2 := by
  induction calls generalizing s with
  | nil => exact h
  | cons call rest ih => exact ih (hcall s.1 s.2 call h)

end World

/-- What a call does to the scene, by its answer. A notification is left out. -/
def DeviceCall.Restages (before : Scene κ) : (call : DeviceCall) → call.Answer → Scene κ → Prop
  | .openSession _ login page, .ok handle, after => ∃ worker : Worker κ, worker.Starts page login ∧
    after = { before with toStaff := before.toStaff.assign handle (some worker) }
  | .closeSession handle, _, after =>
    after = { before with toStaff := before.toStaff.assign handle none }
  | .publish page contents, _, after => after = before.onPage page fun _ => contents.unflagged
  | .notify _, _, _ => True
  | .wait handle _, _, after => after = before.drain handle
  | _, _, after => after = before

/-- Every call does to the scene what is said of it. -/
theorem World.restages_use (w : World (SecureWorld κ)) (call : DeviceCall) :
    call.Restages (w.scene id) (w.use call).1 ((w.use call).2.scene id) := by
  cases call with
  | openSession destination login page =>
    have hopens := staff_openSession destination login page w.desk
    show DeviceCall.Restages (w.scene id) (.openSession destination login page)
      (SecureWorld.openSession destination login page w.desk).1 { w.scene id with
        toStaff := (SecureWorld.openSession destination login page w.desk).2.driver.staff }
    generalize SecureWorld.openSession destination login page w.desk = opened at hopens ⊢
    obtain ⟨e | handle, d⟩ := opened
    · show { w.scene id with toStaff := d.driver.staff } = w.scene id
      rw [show d.driver.staff = (w.scene id).toStaff from hopens]
    · obtain ⟨worker, hstarts, hstaff⟩ := hopens
      refine ⟨worker, hstarts, ?_⟩
      rw [show d.driver.staff = (w.scene id).toStaff.assign handle (some worker) from hstaff]
  | closeSession handle =>
    exact congrArg (fun staff => Staff.scene staff w.pages) (staff_closeSession w.desk)
  | map handle address len access =>
    have hscene : (w.use (.map handle address len access)).2.scene id = w.scene id :=
      congrArg (Staff.scene · w.pages) (staff_map address len access w.driver)
    generalize w.use (.map handle address len access) = mapped at hscene ⊢
    obtain ⟨e | info, after⟩ := mapped <;> exact hscene
  | unmap handle address info =>
    exact congrArg (Staff.scene · w.pages) (staff_unmap address info w.driver)
  | errorCode handle => rfl
  -- the cancellation flag of a page is not part of the scene
  | publish page contents => exact Shared.scene_onPage id w.toShared page _ _ fun _ => rfl
  | notify handle => trivial
  | wait handle limit => exact congrArg (Staff.scene · w.pages) (staff_wait handle w.driver)
  | arm faults => rfl

namespace SecureWorld.Overlooks

variable {R : SecureWorld κ → SecureWorld κ → Prop} (h : Overlooks R)
include h

/-- All that happens when a session is notified is overlooked. -/
theorem use_notify (handle : Handle) (w : World (SecureWorld κ)) :
    R w.driver (w.use (.notify handle)).2.driver :=
  World.onShared_driver h.tolerates (h.notify handle w.toShared)

/-- The delivery of a completion is overlooked. -/
theorem use_wait (handle : Handle) (limit : Option Nat) (w : World (SecureWorld κ)) :
    R w.driver (w.use (.wait handle limit)).2.driver := h.wait handle w.driver

end SecureWorld.Overlooks

end TeeClient

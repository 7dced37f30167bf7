import TeeClient.SecureWorld.Basic

/-!
# Devices, sessions and mappings of the secure world

The primitives that run no application. Handles and addresses are handed out by counters; an address
counter moves on by whole pages.
-/

namespace TeeClient.SecureWorld

variable {κ : Type}

/-- A counter that has not come round has not taken a value twice. -/
theorem eq_of_toUInt32_eq {k n : Nat} (hk : k < UInt32.size) (hn : n < UInt32.size)
    (h : k.toUInt32 = n.toUInt32) : k = n := by
  rw [← UInt32.toNat_ofNat_of_lt' hk, ← UInt32.toNat_ofNat_of_lt' hn]
  exact congrArg UInt32.toNat h

/-! ## Devices and sessions -/

/-- Acquire the device. -/
def openDevice (d : Desk (SecureWorld κ)) : Except DriverFault Unit × Desk (SecureWorld κ) :=
  let w := d.driver.count fun n => { n with deviceOpens := n.deviceOpens + 1 }
  match w.faults.openDevice with
  | none => (.ok (), { d with driver := w })
  | some e =>
    (.error e, { d with driver := { w with faults := { w.faults with openDevice := none } } })

/-- Release the device. -/
def closeDevice (d : Desk (SecureWorld κ)) : Except DriverFault Unit × Desk (SecureWorld κ) :=
  (.ok (), { d with
    driver := d.driver.count fun n => { n with deviceCloses := n.deviceCloses + 1 } })

/-- Start a worker with a fresh instance of the application. -/
def openSession (destination : Uuid) (login : Login) (page : PageId) (d : Desk (SecureWorld κ)) :
    Except DriverFault Handle × Desk (SecureWorld κ) :=
  let w := d.driver.count fun n => { n with opens := n.opens + 1 }
  match w.faults.openSession with
  | some e =>
    (.error e, { d with driver := { w with faults := { w.faults with openSession := none } } })
  | none =>
    match w.apps.get? destination with
    | none => (.error .trustedAppNotFound, { d with driver := w })
    | some app =>
      let handle := w.nextHandle
      let worker : Worker κ := ⟨page, app, app.initial, login, true, [], ExitCode.none⟩
      let w := { w with
        nextHandle := w.nextHandle + 1
        sessions := w.sessions.set handle worker }
      (.ok handle, { d with driver := w }.log (.simulationOpened handle destination))

/-- Stop the worker of a session; this works also if its application has panicked. -/
def closeSession (handle : Handle) (d : Desk (SecureWorld κ)) :
    Except DriverFault Unit × Desk (SecureWorld κ) :=
  let w := d.driver.count fun n => { n with closes := n.closes + 1 }
  match w.sessions.get? handle with
  | none => (.error (.invalidSession handle), { d with driver := w })
  | some worker =>
    let d := { d with driver := { w with sessions := w.sessions.erase handle } }
    let d := if worker.alive then d else d.log (.workerPanicked handle)
    (.ok (), d.log (.simulationClosed handle))

/-- The last error code of a session. -/
def errorCode (handle : Handle) (w : SecureWorld κ) : Except DriverFault Int :=
  match w.sessions.get? handle with
  | none => .error (.invalidSession handle)
  | some worker => .ok worker.errorCode

/-! ## Mappings -/

/-- The distance to the address of the next mapping: whole pages, at least one. -/
def span (len : Nat) : Nat := max ((len + (pageSize - 1)) / pageSize) 1 * pageSize

/-- Map a buffer at the next address. -/
def map (handle : Handle) (address : Address) (len : Nat) (access : Access) (w : SecureWorld κ) :
    Except DriverFault SecureRange × SecureWorld κ :=
  let w := w.count fun n => { n with maps := n.maps + 1 }
  if !w.sessions.contains handle then (.error (.invalidSession handle), w)
  else if w.faults.mapBudget = some 0 then (.error (.mappingFailed len), w)
  else
    -- an attempt uses up the budget even if the length is refused then
    let w := { w with
      faults := { w.faults with mapBudget := w.faults.mapBudget.map (· - 1) } }
    if len < UInt32.size ∧ span len < UInt32.size then
      let secureVa := w.nextVa
      (.ok ⟨secureVa, len.toUInt32⟩, { w with
        nextVa := secureVa + (span len).toUInt32
        mappings := w.mappings.set secureVa ⟨address, len, access⟩ })
    else (.error (.mappingFailed len), w)

/-- Remove the mapping at an address, if it is of the buffer that the caller names. -/
def unmap (handle : Handle) (address : Address) (info : SecureRange) (w : SecureWorld κ) :
    Except DriverFault Unit × SecureWorld κ :=
  let w := w.count fun n => { n with unmaps := n.unmaps + 1 }
  let place := Hex.marked info.secureVa.toNat
  match w.mappings.get? info.secureVa with
  | none => (.error (.device (s!"session {handle}: no mapping at " ++ place)), w)
  | some mapping =>
    if mapping.address = address then
      (.ok (), { w with mappings := w.mappings.erase info.secureVa })
    else
      (.error (.device (s!"session {handle}: buffer does not match mapping " ++ place)), w)

end TeeClient.SecureWorld

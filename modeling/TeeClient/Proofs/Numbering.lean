import TeeClient.Proofs.Views

/-!
# Handles of the simulated secure world

Sessions get their handles from a counter that wraps around. Only the opening of a session moves it
and enters a worker; so as long as fewer sessions were opened than there are handles, the next
handle is vacant. The applications stay the installed ones.

Main statements:

* `SecureWorld.overlooks_steady`: serving requests opens no session;
* `Client.numbered_effect`: how far the numbering is kept by the calls of a client;
* `SecureWorld.Numbered.vacant`: the next handle is vacant.
-/

namespace TeeClient

variable {κ : Type}

namespace SecureWorld

/-- From the one secure world to the other, no session was opened and no application replaced. -/
structure Steady (w w' : SecureWorld κ) : Prop where
  apps : w'.apps = w.apps
  nextHandle : w'.nextHandle = w.nextHandle
  opens : w'.usage.opens = w.usage.opens
  sessions : ∀ handle, w'.sessions.contains handle = true → w.sessions.contains handle = true

namespace Steady

variable {w w' w'' : SecureWorld κ}

/-- Nothing need happen. -/
theorem refl (w : SecureWorld κ) : w.Steady w := ⟨rfl, rfl, rfl, fun _ h => h⟩

/-- More may happen later. -/
theorem trans (h : w.Steady w') (h' : w'.Steady w'') : w.Steady w'' where
  apps := h'.apps.trans h.apps
  nextHandle := h'.nextHandle.trans h.nextHandle
  opens := h'.opens.trans h.opens
  sessions handle hc := h.sessions handle (h'.sessions handle hc)

/-- A worker may change. -/
theorem onWorker (h : w.Steady w') (handle : Handle) (f : Worker κ → Worker κ) :
    w.Steady (w'.onWorker handle f) where
  apps := h.apps
  nextHandle := h.nextHandle
  opens := h.opens
  sessions other hc := by
    -- a worker that changes stays under its handle
    refine h.sessions other ?_
    unfold Table.contains at hc ⊢
    rw [show (w'.onWorker handle f).sessions.get? other = _ from Table.get?_modify _ _ _ _] at hc
    split at hc
    · rw [Option.isSome_map] at hc
      exact hc
    · exact hc

end Steady

/-- Serving requests opens no session. -/
theorem overlooks_steady : Overlooks (Steady (κ := κ)) where
  trans := Steady.trans
  onWorker w handle f := (Steady.refl w).onWorker handle f
  aside _ _ _ _ _ := ⟨rfl, rfl, rfl, fun _ h => h⟩

/-! ## The other primitives -/

/-- Mapping a buffer opens no session. -/
theorem map_steady (handle : Handle) (address : Address) (len : Nat) (access : Access)
    (w : SecureWorld κ) : w.Steady (map handle address len access w).2 := by
  obtain ⟨-, -, budget, he⟩ | ⟨e, budget, he⟩ := map_cases handle address len access w <;>
    rw [he] <;> exact ⟨rfl, rfl, rfl, fun _ h => h⟩

/-- Removing a mapping opens no session. -/
theorem unmap_steady (handle : Handle) (address : Address) (info : SecureRange)
    (w : SecureWorld κ) : w.Steady (unmap handle address info w).2 := by
  obtain ⟨mapping, -, -, he⟩ | ⟨e, -, he⟩ := unmap_cases handle address info w <;> rw [he] <;>
    exact ⟨rfl, rfl, rfl, fun _ h => h⟩

/-- Closing a session opens none. -/
theorem closeSession_steady (handle : Handle) (d : Desk (SecureWorld κ)) :
    d.driver.Steady (closeSession handle d).2.driver := by
  obtain ⟨worker, -, he⟩ | ⟨-, he⟩ := closeSession_cases handle d <;> rw [he]
  · refine ⟨rfl, rfl, rfl, fun other hc => ?_⟩
    rw [show (Table.erase _ handle).contains other = _ from Table.contains_erase _ _ _] at hc
    exact (Bool.and_eq_true_iff.1 hc).2
  · exact ⟨rfl, rfl, rfl, fun _ h => h⟩

/-- What survives whatever opens no session, and the opening of a session, survives all that calls
on sessions do. -/
theorem driverSafe_of_steady {Q : SecureWorld κ → Prop}
    (hsteady : ∀ w w' : SecureWorld κ, w.Steady w' → Q w → Q w')
    (hopen : ∀ destination login page (d : Desk (SecureWorld κ)), Q d.driver →
      Q (openSession destination login page d).2.driver) :
    DriverSafe driver (fun _ _ => True) Q where
  log _ _ h := h
  onPage _ _ _ h := h
  map w handle address len access _ h := hsteady _ _ (map_steady handle address len access _) h
  unmap w handle address info h := hsteady _ _ (unmap_steady handle address info _) h
  notify w handle h := by
    -- what is served may ask for cancellations, and each may have a request served
    have hs := World.onShared_driver overlooks_steady.tolerates
      (overlooks_steady.notify handle w.toShared)
    exact hsteady _ _ hs h
  wait w handle h := hsteady _ _ (overlooks_steady.wait handle _) h
  errorCode _ _ h := h
  onLifecycle _ _ _ h := h
  onChannel _ _ _ h := h
  closeSession w handle h := hsteady _ _ (closeSession_steady handle w.desk) h
  openSession w destination login page h := hopen destination login page w.desk h

/-! ## The numbering -/

/-- The applications are the installed ones, at least so many openings were attempted, and the
handles in use were handed out by the counter. -/
structure Numbered (apps : Table Uuid (App κ)) (least : Nat) (w : SecureWorld κ) : Prop where
  apps : w.apps = apps
  least : least ≤ w.usage.opens
  numbers : ∃ n, n ≤ w.usage.opens ∧ w.nextHandle = n.toUInt32 + 1 ∧
    ∀ handle, w.sessions.contains handle = true → ∃ k, k < n ∧ handle = k.toUInt32 + 1

variable {apps : Table Uuid (App κ)} {least : Nat} {w w' : SecureWorld κ}

/-- Where no session is opened, the numbering is kept. -/
theorem Numbered.steady (h : Numbered apps least w) (hs : w.Steady w') :
    Numbered apps least w' := by
  obtain ⟨n, hle, hnext, hin⟩ := h.numbers
  refine ⟨hs.apps.trans h.apps, hs.opens ▸ h.least, n, hs.opens ▸ hle, hs.nextHandle.trans hnext,
    fun handle hc => hin handle (hs.sessions handle hc)⟩

/-- A session that is opened gets the next number. -/
theorem Numbered.openSession (h : Numbered apps least w) (destination : Uuid) (login : Login)
    (page : PageId) {d : Desk (SecureWorld κ)} (hd : d.driver = w) :
    Numbered apps least (SecureWorld.openSession destination login page d).2.driver := by
  subst hd
  obtain ⟨n, hle, hnext, hin⟩ := h.numbers
  obtain ⟨app, -, he⟩ | ⟨e, fault, he⟩ := openSession_cases destination login page d <;> rw [he]
  · refine ⟨h.apps, Nat.le_succ_of_le h.least, n + 1, Nat.succ_le_succ hle, ?_,
      fun handle hc => ?_⟩
    · -- one more number is handed out
      show d.driver.nextHandle + 1 = (n + 1).toUInt32 + 1
      rw [hnext]
      exact congrArg (· + 1) (UInt32.ofNat_add n 1).symm
    · have hc : (d.driver.sessions.set d.driver.nextHandle _).contains handle = true := hc
      unfold Table.contains at hc
      rw [Table.get?_set] at hc
      split at hc
      next he =>
        exact ⟨n, Nat.lt_succ_self n, he.trans hnext⟩
      · obtain ⟨k, hk, he⟩ := hin handle hc
        exact ⟨k, Nat.lt_succ_of_lt hk, he⟩
  · -- an opening that is refused counts as attempted, and hands out nothing
    exact ⟨h.apps, Nat.le_succ_of_le h.least, n, Nat.le_succ_of_le hle, hnext, hin⟩

/-- The numbering survives all that calls on sessions do. -/
theorem driverSafe_numbered (apps : Table Uuid (App κ)) (least : Nat) :
    DriverSafe driver (fun _ _ => True) (Numbered apps least) :=
  driverSafe_of_steady (fun _ _ hsteady h => h.steady hsteady)
    fun destination login page _ h => h.openSession destination login page rfl

/-- Unless as many sessions were opened as there are handles, the next handle is vacant. -/
theorem Numbered.vacant (h : Numbered apps least w) (hlt : w.usage.opens < UInt32.size) :
    w.sessions.get? w.nextHandle = none := by
  obtain ⟨n, hle, hnext, hin⟩ := h.numbers
  cases hget : w.sessions.get? w.nextHandle with
  | none => rfl
  | some worker =>
    obtain ⟨k, hk, he⟩ := hin w.nextHandle (Table.contains_iff.2 ⟨_, hget⟩)
    -- both numbers are below the size of the type, so their handles differ
    have hsame : k.toUInt32 = n.toUInt32 := (UInt32.add_left_inj 1).1 (he.symm.trans hnext)
    have hnlt : n < UInt32.size := Nat.lt_of_le_of_lt hle hlt
    exact absurd (eq_of_toUInt32_eq (Nat.lt_trans hk hnlt) hnlt hsame) (Nat.ne_of_lt hk)

/-- A secure world in which nothing has happened is numbered. -/
theorem numbered_start (apps : Table Uuid (App κ)) : Numbered apps 0 (start apps) :=
  ⟨rfl, Nat.le_refl 0, 0, Nat.le_refl 0, rfl, fun _ hc => (by cases hc)⟩

end SecureWorld

/-! ## Client programs -/

namespace Client

variable {apps : Table Uuid (App κ)} {least : Nat} {c c' : Client (SecureWorld κ)}

/-- Every call of a client keeps the numbering. -/
theorem numbered_effect (h : SecureWorld.Numbered apps least c.world.driver) {call : ClientCall}
    (he : Effect SecureWorld.driver c c' call) :
    SecureWorld.Numbered apps least c'.world.driver := by
  refine driver_effect (SecureWorld.driverSafe_numbered apps least).sessionSafe (fun d hd => ?_)
    (fun d hd => hd.steady ⟨rfl, rfl, rfl, fun _ hc => hc⟩) (fun w lifecycle hw => ?_) he h
  · refine hd.steady ?_
    show d.driver.Steady (SecureWorld.openDevice d).2.driver
    unfold SecureWorld.openDevice
    simp only
    split <;> exact ⟨rfl, rfl, rfl, fun _ hc => hc⟩
  · exact hw.steady (SecureWorld.overlooks_steady.tolerates.cancelCall lifecycle w)

end Client

end TeeClient

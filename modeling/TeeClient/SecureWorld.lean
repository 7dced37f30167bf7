import TeeClient.SecureWorld.Primitives
import TeeClient.SecureWorld.Service

/-!
# The simulated secure world as a driver

`SecureWorld.driver` serves a client from a simulated secure world. It asks for a cancellation only
where an application does, and a worker attends to a notification in the same way whether a call or
a cancellation sends it.
-/

namespace TeeClient.SecureWorld

variable {κ : Type}

/-- A primitive that needs the secure world alone, on a desk. -/
def atDesk {α : Type} (act : SecureWorld κ → α × SecureWorld κ) (d : Desk (SecureWorld κ)) :
    α × Desk (SecureWorld κ) :=
  let (value, w) := act d.driver
  (value, { d with driver := w })

/-- A primitive that asks for no cancellation. -/
def plainly {s α : Type} (r : α × s) : Reply s α := .done r.1 r.2

/-- The secure world as a driver. -/
def driver : Driver (SecureWorld κ) where
  openDevice := openDevice
  closeDevice := closeDevice
  openSession destination login page d := plainly (openSession destination login page d)
  closeSession handle d := plainly (closeSession handle d)
  map handle address len access d := plainly (atDesk (map handle address len access) d)
  unmap handle address info d := plainly (atDesk (unmap handle address info) d)
  notify _ := notify
  wait handle _ s :=
    let (result, w) := wait handle s.driver
    .done result { s with driver := w }
  errorCode handle d := .done (errorCode handle d.driver) d

end TeeClient.SecureWorld

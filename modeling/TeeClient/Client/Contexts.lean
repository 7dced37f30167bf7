import TeeClient.Client.Basic

/-!
# Opening and closing contexts

A context holds the device open from its opening to its closing. Settings out of range and an
unknown device name are refused before the driver is asked.
-/

namespace TeeClient.Client

variable {σ : Type} (D : Driver σ)

/-- Open a context. Its name for the device must be that of the settings, if it gives one. -/
def openContext (c : Client σ) (context : String) (name : Option String) (config : Config) :
    Option (Except Failure Unit × Client σ) :=
  if c.contexts.contains context then none
  else match config.fault? with
  | some fault => some (.error (.api .badParameters), c.log (.configRejected fault))
  | none =>
    if name.any (· ≠ config.deviceName) then
      some (.error (.api .itemNotFound),
        c.log (.deviceUnknown (name.getD config.deviceName) config.deviceName))
    else
      let (result, desk) := D.openDevice c.world.desk
      let c := { c with world := c.world.withDesk desk }
      match result with
      | .error e =>
        some (.error (.comms .communication), c.log (.deviceNotOpened config.deviceName e))
      | .ok () =>
        let opened : Context := ⟨config, c.registries.fresh⟩
        let c := c.log (.contextInitialized config.deviceName)
        some (.ok (), { c with
          registries := c.registries.add .empty
          contexts := c.contexts.set context opened })

/-- Close a context that has no sessions. -/
def closeContext (c : Client σ) (context : String) : Option (Client σ) :=
  match c.contexts.get? context with
  | none => none
  | some ctx =>
    if c.sessions.values.any (·.context == context) then none
    else
      let (result, desk) := D.closeDevice c.world.desk
      let c := { c with
        world := c.world.withDesk desk
        contexts := c.contexts.erase context }
      let c := match result with
        | .ok () => c
        | .error e => c.log (.deviceNotClosed ctx.config.deviceName e)
      some (c.log (.contextFinalized ctx.config.deviceName))

end TeeClient.Client

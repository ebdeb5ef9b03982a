import PanelScript.Capacity
import PanelScript.Environment
import PanelScript.Text.Blank

/-!
# Settings of the gateway

Where the gateway is, how many calls it takes at once, how long a call may take, and how its process
is started.

* `GatewaySettings` holds the settings, with defaults for a gateway on this host;
* `GatewaySettings.ofEnvironment` takes them from environment variables;
* `GatewaySettings.capacity` says whether a link can be had with them.
-/

namespace PanelScript

/-- Settings of the gateway. Times are in milliseconds. -/
structure GatewaySettings where
  /-- The address of the gateway. -/
  url : String := "ws://127.0.0.1:25333"
  /-- The number of connections, and so of calls at once. -/
  poolSize : Nat := 2
  /-- How long a call may take, a second attempt included. -/
  callTimeout : Nat := 10000
  /-- The command that starts the process of the gateway, if it is started here. -/
  command : Option (List String) := none
  /-- How long the process is given before the first connection. -/
  startupDelay : Nat := 500
  /-- The module search path for the process. -/
  pythonPath : Option String := none
  deriving DecidableEq

namespace GatewaySettings

/-- A command line is split at blanks; one without a word is no command. -/
def command? (line : String) : Option (List String) :=
  match words line.toList with
  | [] => none
  | ws => some (ws.map String.ofList)

/-- The settings in the environment. -/
def ofEnvironment (env : Environment) : Except SettingFault GatewaySettings := do
  let poolSize ← env.number "GATEWAY_POOL_SIZE" true 2
  let callTimeout ← env.number "GATEWAY_CALL_TIMEOUT_MS" false 10000
  let startupDelay ← env.number "GATEWAY_STARTUP_DELAY_MS" false 500
  .ok {
    url := (env.get? "GATEWAY_WS_URL").getD "ws://127.0.0.1:25333"
    poolSize := max poolSize 1
    callTimeout
    command := (env.get? "GATEWAY_COMMAND").bind command?
    startupDelay }

/-- The same settings for another address. -/
def withUrl (s : GatewaySettings) (url : String) : GatewaySettings := { s with url }

/-- The same settings with another module search path. -/
def withPythonPath (s : GatewaySettings) (pythonPath : Option String) : GatewaySettings :=
  { s with pythonPath }

/-- The memory that one connection takes where it is kept, in bytes. -/
def slotBytes : Nat := 8

/-- Whether a link can be had with these settings: every connection has a slot. -/
def capacity (s : GatewaySettings) : Except CapacityFault Unit :=
  if maxBytes < s.poolSize * slotBytes then .error .tooLarge else .ok ()

end GatewaySettings

end PanelScript

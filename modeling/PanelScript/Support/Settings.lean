import PanelScript.Capacity
import PanelScript.Environment

/-!
# Settings of the script support

How many scripts run at once, and how long a shutdown waits for those that do.

* `SupportSettings` holds the settings;
* `SupportSettings.ofEnvironment` takes them from environment variables;
* `SupportSettings.capacity` says whether a support can be had with them.
-/

namespace PanelScript

/-- Settings of the script support. -/
structure SupportSettings where
  /-- How many scripts run at once, at least one. -/
  poolSize : Nat
  /-- How long a shutdown waits for scripts that run, in milliseconds. -/
  drainTimeout : Nat := 5000
  deriving DecidableEq

namespace SupportSettings

/-- The settings in the environment; unless said otherwise, one script runs per processor. -/
def ofEnvironment (processors : Nat) (env : Environment) : Except SettingFault SupportSettings := do
  let poolSize ← env.number "SCRIPT_POOL_SIZE" true processors
  let drainTimeout ← env.number "SCRIPT_DRAIN_TIMEOUT_MS" false 5000
  .ok { poolSize := max poolSize 1, drainTimeout }

/-- The same settings for another number of scripts at once, at least one. -/
def withPoolSize (s : SupportSettings) (poolSize : Nat) : SupportSettings :=
  { s with poolSize := max poolSize 1 }

/-- The same settings with another bound for a shutdown. -/
def withDrainTimeout (s : SupportSettings) (drainTimeout : Nat) : SupportSettings :=
  { s with drainTimeout }

/-- Whether a support can be had with these settings: every script that runs holds a permit. -/
def capacity (s : SupportSettings) : Except CapacityFault Unit :=
  if maxPermits < s.poolSize then .error .tooManyPermits else .ok ()

end SupportSettings

end PanelScript

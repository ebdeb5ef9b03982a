import PanelScript.Outcome
import PanelScript.Wire.Message

/-!
# Why a call of the gateway fails

A call fails if the gateway cannot be reached, if it answers with something that is no answer, if it
takes too long, if its process cannot be started, or if this side was closed.

* `GatewayError` lists the causes, `GatewayError.message` gives their words;
* `GatewayError.isRetryable` says after which cause the call is tried again;
* `GatewayError.failure` is what the cause means for the script.
-/

namespace PanelScript

/-- Why a call of the gateway fails. -/
inductive GatewayError where
  /-- The connection could not be opened, or was lost. -/
  | connection (message : String)
  /-- The gateway answered with something that is no answer. -/
  | protocol (message : String)
  /-- The call took too long. -/
  | timeout (elapsed : Nat)
  /-- The process of the gateway could not be started. -/
  | launch (message : String)
  /-- This side was closed. -/
  | closed
  deriving DecidableEq

namespace GatewayError

/-- The words for a cause. -/
def message : GatewayError → String
  | .connection m => s!"Connection error: {m}"
  | .protocol m => s!"Protocol error: {m}"
  | .timeout elapsed => s!"Gateway call timed out after {elapsed}ms"
  | .launch m => s!"Cannot launch gateway process: {m}"
  | .closed => "Gateway is closed"

/-- Whether the call took too long. -/
def isTimeout : GatewayError → Bool
  | .timeout _ => true
  | _ => false

/-- Whether a new connection may do where this one failed. -/
def isRetryable : GatewayError → Bool
  | .connection _ => true
  | _ => false

/-- The failure of the script: a timeout stays one, all else is a failure of the way to the
interpreter. -/
def failure : GatewayError → ScriptFailure
  | .timeout elapsed => .timeout elapsed
  | e => .transport e.message

/-- A response that answers something else is no answer. -/
def ofMismatch (m : ResponseMismatch) : GatewayError := .protocol m.message

@[simp] theorem isTransport_failure (e : GatewayError) : e.failure.isTransport = true := by
  cases e <;> rfl

end GatewayError

end PanelScript

import PanelScript.Script.Bindings
import PanelScript.Uuid

/-!
# Messages of the gateway

An interpreter outside the program is asked to run a script by an *invoke* message and answers with
a *result* message. Both carry a version and the identifier of the call.

* `InvokeRequest` and `InvokeResponse` are the two messages, `WireMessage` is either;
* `InvokeRequest.ofBindings` is the request for a run;
* `InvokeResponse.check` tells the answer to a request from any other.
-/

namespace PanelScript

/-- The version of the messages. -/
def protocolVersion : UInt32 := 1

/-- A widget as the interpreter sees it. Its token stands for it during one call. -/
structure WireWidget where
  token : Uuid
  name : String
  type : String
  deriving DecidableEq

/-- A declared input with its live value; `pv` is the name of the source. -/
structure WireBinding where
  name : String
  pv : String
  value : Json
  timestamp : Timestamp
  quality : Quality
  deriving DecidableEq

/-- A request to run a script. -/
structure InvokeRequest where
  version : UInt32
  callId : Uuid
  scriptPath : String
  widget : WireWidget
  /-- The declared name of the input that changed. -/
  trigger : Option String
  bindings : List WireBinding
  deriving DecidableEq

/-- Whether a script ran to its end. -/
inductive ResponseStatus where
  | ok | error
  deriving DecidableEq

/-- The name of a status. -/
def ResponseStatus.name : ResponseStatus → String
  | .ok => "ok"
  | .error => "error"

/-- A property that the script wrote. -/
structure PropertyUpdate where
  property : String
  value : Json
  deriving DecidableEq

/-- The answer to a request. -/
structure InvokeResponse where
  version : UInt32
  callId : Uuid
  status : ResponseStatus
  value : Option Json
  error : Option String
  updates : List PropertyUpdate
  deriving DecidableEq

/-- Either message. -/
inductive WireMessage where
  | invoke (request : InvokeRequest)
  | result (response : InvokeResponse)
  deriving DecidableEq

namespace InvokeRequest

/-- An input with its live value, for the wire. -/
def binding (name : String) (v : LiveValue) : WireBinding :=
  ⟨name, v.name, v.value, v.timestamp, v.quality⟩

/-- The request to run the script at a path with the given bindings. -/
def ofBindings (callId token : Uuid) (path : String) (b : Bindings) : InvokeRequest where
  version := protocolVersion
  callId
  scriptPath := path
  widget := ⟨token, b.widget.name, b.widget.type⟩
  trigger := b.triggerName
  bindings := b.inputs.map fun (name, v) => binding name v

@[simp] theorem version_ofBindings (callId token : Uuid) (path : String) (b : Bindings) :
    (ofBindings callId token path b).version = protocolVersion := rfl

@[simp] theorem callId_ofBindings (callId token : Uuid) (path : String) (b : Bindings) :
    (ofBindings callId token path b).callId = callId := rfl

end InvokeRequest

/-- Why a response is not the answer to a request. -/
inductive ResponseMismatch where
  | version (found : UInt32)
  | callId (found expected : Uuid)
  deriving DecidableEq

/-- The words for a response that answers something else. -/
def ResponseMismatch.message : ResponseMismatch → String
  | .version found => s!"Unsupported protocol version {found} (expected {protocolVersion})"
  | .callId found expected => s!"Response for call {found.text} while waiting for {expected.text}"

namespace InvokeResponse

/-- The answer of a script that ran to its end. -/
def ofValue (callId : Uuid) (value : Option Json) : InvokeResponse :=
  ⟨protocolVersion, callId, .ok, value, none, []⟩

/-- The answer of a script that failed. -/
def ofError (callId : Uuid) (message : String) : InvokeResponse :=
  ⟨protocolVersion, callId, .error, none, some message, []⟩

/-- Add a property that the script wrote. -/
def withUpdate (r : InvokeResponse) (property : String) (value : Json) : InvokeResponse :=
  { r with updates := r.updates ++ [⟨property, value⟩] }

/-- The response answers the call with the given identifier, in this version. -/
def check (r : InvokeResponse) (callId : Uuid) : Except ResponseMismatch Unit :=
  if r.version ≠ protocolVersion then .error (.version r.version)
  else if r.callId ≠ callId then .error (.callId r.callId callId)
  else .ok ()

theorem check_eq_ok_iff {r : InvokeResponse} {callId : Uuid} :
    r.check callId = .ok () ↔ r.version = protocolVersion ∧ r.callId = callId := by
  unfold check
  by_cases hv : r.version = protocolVersion <;> by_cases hc : r.callId = callId <;> simp [hv, hc]

end InvokeResponse

end PanelScript

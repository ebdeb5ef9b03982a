import PanelScript.Gateway.Error
import PanelScript.Wire.Codec

/-!
# A call over a connection

A call writes one request and reads what arrives. What only keeps the connection alive is passed
over; the first thing else decides the call.

* `Arrival` is what can arrive on a connection;
* `InvokeRequest.verdict?` is what an arrival means for a request;
* `InvokeResponse.outcome` is what the response says about the script, `Verdict.answer` what the end
  of a call means for the run.
-/

namespace PanelScript

/-- What arrives on a connection. -/
inductive Arrival where
  | text (frame : String)
  | binary
  | ping
  | pong
  /-- The gateway says that it closes. -/
  | close
  /-- The gateway has closed. -/
  | ended
  /-- The connection is lost. -/
  | broken (message : String)
  deriving DecidableEq

/-- Whether an arrival only keeps the connection alive. -/
def Arrival.isControl : Arrival → Bool
  | .ping | .pong => true
  | _ => false

/-- How an attempt at a call ends. -/
abbrev Verdict := Except GatewayError InvokeResponse

namespace InvokeRequest

/-- The frame of a request. -/
def frame (r : InvokeRequest) : String := (WireMessage.invoke r).text

/-- What a text means for a request. -/
def verdictOfText (r : InvokeRequest) (frame : String) : Verdict :=
  match WireMessage.parse frame with
  | .ok (.result response) =>
    match response.check r.callId with
    | .ok _ => .ok response
    | .error m => .error (.ofMismatch m)
  | .ok (.invoke _) => .error (.protocol "Unexpected invoke from gateway")
  | .error f => .error (.protocol s!"Malformed response: {f.message frame}")

/-- What an arrival means for a request; none if the call goes on. -/
def verdict? (r : InvokeRequest) : Arrival → Option Verdict
  | .text frame => some (r.verdictOfText frame)
  | .binary => some (.error (.protocol "Unexpected binary frame"))
  | .ping | .pong => none
  | .close | .ended => some (.error (.connection "Gateway closed the connection"))
  | .broken message => some (.error (.connection s!"Receive failed: {message}"))

theorem verdict?_eq_none_iff {r : InvokeRequest} {a : Arrival} :
    r.verdict? a = none ↔ a.isControl = true := by
  cases a <;> simp [verdict?, Arrival.isControl]

theorem verdictOfText_eq_ok {r : InvokeRequest} {frame : String} {response : InvokeResponse}
    (h : r.verdictOfText frame = .ok response) :
    WireMessage.parse frame = .ok (.result response) ∧ response.version = protocolVersion ∧
      response.callId = r.callId := by
  unfold verdictOfText at h
  split at h
  · rename_i response' parsed
    split at h
    · rename_i checked
      obtain rfl := Except.ok.inj h
      exact ⟨parsed, InvokeResponse.check_eq_ok_iff.1 checked⟩
    · simp at h
  · simp at h
  · simp at h

end InvokeRequest

/-- What the response says about the script. -/
def InvokeResponse.outcome (r : InvokeResponse) : Outcome :=
  match r.status with
  | .ok => .ok r.value
  | .error => .error (.script (r.error.getD "Script failed without a message"))

/-- The properties that the script wrote, in order. -/
def InvokeResponse.writes (r : InvokeResponse) : List (String × Json) :=
  r.updates.map fun u => (u.property, u.value)

/-- What a verdict means for a run: its outcome, and what it writes to the widget. -/
def Verdict.answer : Verdict → Outcome × List (String × Json)
  | .ok r => (r.outcome, r.writes)
  | .error e => (.error e.failure, [])

end PanelScript

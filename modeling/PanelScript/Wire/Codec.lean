import PanelScript.Json.Decode
import PanelScript.Json.Typed
import PanelScript.LiveValue.Codec
import PanelScript.Wire.Message

/-!
# Messages as text

A message is a JSON object that a member `type` tells apart. It is written with the members in the
order of the message. On reading, members may stand in any order and unknown ones are passed over;
the whole object is read first, then its members are taken in document order.

* `WireMessage.text` writes a message as a frame;
* `WireMessage.parse` reads a frame.
-/

namespace PanelScript

/-! ### Writing -/

/-- The object of a widget. -/
def WireWidget.toJson (w : WireWidget) : Json :=
  .obj [("token", .str w.token.text), ("name", .str w.name), ("widget_type", .str w.type)]

/-- The object of a binding. -/
def WireBinding.toJson (b : WireBinding) : Json :=
  .obj [("name", .str b.name), ("pv", .str b.pv), ("value", b.value),
    ("timestamp", .str b.timestamp.text), ("quality", .str b.quality.name)]

/-- A number of 32 bits. -/
def wordJson (n : UInt32) : Json := .ofNat n.toNat

/-- The members of a request. -/
def InvokeRequest.members (r : InvokeRequest) : List (String × Json) :=
  [("version", wordJson r.version), ("call_id", .str r.callId.text),
    ("script_path", .str r.scriptPath), ("widget", r.widget.toJson),
    ("trigger", .ofText? r.trigger), ("bindings", .arr (r.bindings.map WireBinding.toJson))]

/-- The object of an update. -/
def PropertyUpdate.toJson (u : PropertyUpdate) : Json :=
  .obj [("property", .str u.property), ("value", u.value)]

/-- The members of a response. -/
def InvokeResponse.members (r : InvokeResponse) : List (String × Json) :=
  [("version", wordJson r.version), ("call_id", .str r.callId.text),
    ("status", .str r.status.name), ("value", r.value.getD .null), ("error", .ofText? r.error),
    ("updates", .arr (r.updates.map PropertyUpdate.toJson))]

namespace WireMessage

/-- The name that tells the messages apart. -/
def tag : WireMessage → String
  | .invoke _ => "invoke"
  | .result _ => "result"

/-- The members of a message behind its tag. -/
def members : WireMessage → List (String × Json)
  | .invoke r => r.members
  | .result r => r.members

/-- The object of a message. -/
def toJson (m : WireMessage) : Json := .obj (("type", .str m.tag) :: m.members)

/-- The frame of a message. -/
def text (m : WireMessage) : String := m.toJson.text

end WireMessage

/-! ### Reading -/

open Json

/-- An identifier. -/
def Uuid.decode : Decoder Uuid := fun v => do
  let s ← asString "a formatted UUID string" v
  match Uuid.parse? s with
  | some u => .ok u
  | none => mismatch .malformedUuid

/-- A timestamp. -/
def Timestamp.decode : Decoder Timestamp := fun v => do
  let s ← asString "an RFC 3339 formatted date and time string" v
  match Timestamp.parse? s with
  | some t => .ok t
  | none => mismatch .malformedTimestamp

/-- A quality, by its name. -/
def Quality.decode : Decoder Quality := fun v => do
  let s ← asVariant Quality.names v
  .ok ((Quality.ofName? s).getD .good)

/-- A status, by its name. -/
def ResponseStatus.decode : Decoder ResponseStatus := fun v => do
  let s ← asVariant ["ok", "error"] v
  .ok (if s = "ok" then .ok else .error)

/-- A text. -/
def asText : Decoder String := asString "a string"

namespace WireWidget

/-- The members that were taken so far. -/
structure Members where
  token : Option Uuid
  name : Option String
  type : Option String

/-- Take the next member. -/
def Members.step (m : Members) (name : String) (v : Json) : Except Failure Members :=
  if name = "token" then
    (decodeOnce name m.token Uuid.decode v).map fun x => { m with token := x }
  else if name = "name" then
    (decodeOnce name m.name asText v).map fun x => { m with name := x }
  else if name = "widget_type" then
    (decodeOnce name m.type asText v).map fun x => { m with type := x }
  else .ok m

/-- A widget from the members of an object. -/
def ofMembers (ms : List (String × Json)) : Except Failure WireWidget := do
  let m ← decodeMembers Members.step ⟨none, none, none⟩ ms
  let token ← need "token" m.token
  let name ← need "name" m.name
  let type ← need "widget_type" m.type
  .ok ⟨token, name, type⟩

/-- A widget from the places of a list. -/
def ofElements (items : List Json) : Except Failure WireWidget := do
  let expected := "struct WidgetRef with 3 elements"
  let token ← element items 0 expected Uuid.decode
  let name ← element items 1 expected asText
  let type ← element items 2 expected asText
  noMore items 3
  .ok ⟨token, name, type⟩

/-- A widget. -/
def decode : Decoder WireWidget := asRecord "struct WidgetRef" ofMembers ofElements

end WireWidget

namespace WireBinding

/-- The members that were taken so far. -/
structure Members where
  name : Option String
  pv : Option String
  value : Option Json
  timestamp : Option Timestamp
  quality : Option Quality

/-- Take the next member. -/
def Members.step (m : Members) (name : String) (v : Json) : Except Failure Members :=
  if name = "name" then
    (decodeOnce name m.name asText v).map fun x => { m with name := x }
  else if name = "pv" then
    (decodeOnce name m.pv asText v).map fun x => { m with pv := x }
  else if name = "value" then
    (decodeOnce name m.value asValue v).map fun x => { m with value := x }
  else if name = "timestamp" then
    (decodeOnce name m.timestamp Timestamp.decode v).map fun x => { m with timestamp := x }
  else if name = "quality" then
    (decodeOnce name m.quality Quality.decode v).map fun x => { m with quality := x }
  else .ok m

/-- A binding from the members of an object. -/
def ofMembers (ms : List (String × Json)) : Except Failure WireBinding := do
  let m ← decodeMembers Members.step ⟨none, none, none, none, none⟩ ms
  let name ← need "name" m.name
  let value ← need "value" m.value
  let timestamp ← need "timestamp" m.timestamp
  let quality ← need "quality" m.quality
  .ok ⟨name, m.pv.getD "", value, timestamp, quality⟩

/-- A binding from the places of a list. -/
def ofElements (items : List Json) : Except Failure WireBinding := do
  let expected := "struct WireBinding with 5 elements"
  let name ← element items 0 expected asText
  let pv ← element? items 1 asText
  let value ← element items 2 expected asValue
  let timestamp ← element items 3 expected Timestamp.decode
  let quality ← element items 4 expected Quality.decode
  noMore items 5
  .ok ⟨name, pv.getD "", value, timestamp, quality⟩

/-- A binding. -/
def decode : Decoder WireBinding := asRecord "struct WireBinding" ofMembers ofElements

end WireBinding

namespace InvokeRequest

/-- The members that were taken so far. -/
structure Members where
  version : Option UInt32
  callId : Option Uuid
  scriptPath : Option String
  widget : Option WireWidget
  trigger : Option (Option String)
  bindings : Option (List WireBinding)

/-- Take the next member. -/
def Members.step (m : Members) (name : String) (v : Json) : Except Failure Members :=
  if name = "version" then
    (decodeOnce name m.version asWord32 v).map fun x => { m with version := x }
  else if name = "call_id" then
    (decodeOnce name m.callId Uuid.decode v).map fun x => { m with callId := x }
  else if name = "script_path" then
    (decodeOnce name m.scriptPath asText v).map fun x => { m with scriptPath := x }
  else if name = "widget" then
    (decodeOnce name m.widget WireWidget.decode v).map fun x => { m with widget := x }
  else if name = "trigger" then
    (decodeOnce name m.trigger (asOption asText) v).map fun x => { m with trigger := x }
  else if name = "bindings" then
    (decodeOnce name m.bindings (asList WireBinding.decode) v).map fun x =>
      { m with bindings := x }
  else .ok m

/-- A request from the members of an object. -/
def ofMembers (ms : List (String × Json)) : Except Failure InvokeRequest := do
  let m ← decodeMembers Members.step ⟨none, none, none, none, none, none⟩ ms
  let version ← need "version" m.version
  let callId ← need "call_id" m.callId
  let scriptPath ← need "script_path" m.scriptPath
  let widget ← need "widget" m.widget
  let bindings ← need "bindings" m.bindings
  .ok ⟨version, callId, scriptPath, widget, m.trigger.getD none, bindings⟩

/-- A request from the places of a list. -/
def ofElements (items : List Json) : Except Failure InvokeRequest := do
  let expected := "struct InvokeRequest with 6 elements"
  let version ← element items 0 expected asWord32
  let callId ← element items 1 expected Uuid.decode
  let scriptPath ← element items 2 expected asText
  let widget ← element items 3 expected WireWidget.decode
  let trigger ← element? items 4 (asOption asText)
  let bindings ← element items 5 expected (asList WireBinding.decode)
  noMore items 6
  .ok ⟨version, callId, scriptPath, widget, trigger.getD none, bindings⟩

/-- A request, read behind its tag. -/
def decode : Decoder InvokeRequest := asRecord "struct InvokeRequest" ofMembers ofElements

end InvokeRequest

namespace PropertyUpdate

/-- The members that were taken so far. -/
structure Members where
  property : Option String
  value : Option Json

/-- Take the next member. -/
def Members.step (m : Members) (name : String) (v : Json) : Except Failure Members :=
  if name = "property" then
    (decodeOnce name m.property asText v).map fun x => { m with property := x }
  else if name = "value" then
    (decodeOnce name m.value asValue v).map fun x => { m with value := x }
  else .ok m

/-- An update from the members of an object. -/
def ofMembers (ms : List (String × Json)) : Except Failure PropertyUpdate := do
  let m ← decodeMembers Members.step ⟨none, none⟩ ms
  let property ← need "property" m.property
  let value ← need "value" m.value
  .ok ⟨property, value⟩

/-- An update from the places of a list. -/
def ofElements (items : List Json) : Except Failure PropertyUpdate := do
  let expected := "struct PropertyUpdate with 2 elements"
  let property ← element items 0 expected asText
  let value ← element items 1 expected asValue
  noMore items 2
  .ok ⟨property, value⟩

/-- An update. -/
def decode : Decoder PropertyUpdate := asRecord "struct PropertyUpdate" ofMembers ofElements

end PropertyUpdate

namespace InvokeResponse

/-- The members that were taken so far. -/
structure Members where
  version : Option UInt32
  callId : Option Uuid
  status : Option ResponseStatus
  value : Option (Option Json)
  error : Option (Option String)
  updates : Option (List PropertyUpdate)

/-- Take the next member. -/
def Members.step (m : Members) (name : String) (v : Json) : Except Failure Members :=
  if name = "version" then
    (decodeOnce name m.version asWord32 v).map fun x => { m with version := x }
  else if name = "call_id" then
    (decodeOnce name m.callId Uuid.decode v).map fun x => { m with callId := x }
  else if name = "status" then
    (decodeOnce name m.status ResponseStatus.decode v).map fun x => { m with status := x }
  else if name = "value" then
    (decodeOnce name m.value (asOption asValue) v).map fun x => { m with value := x }
  else if name = "error" then
    (decodeOnce name m.error (asOption asText) v).map fun x => { m with error := x }
  else if name = "updates" then
    (decodeOnce name m.updates (asList PropertyUpdate.decode) v).map fun x =>
      { m with updates := x }
  else .ok m

/-- A response from the members of an object. -/
def ofMembers (ms : List (String × Json)) : Except Failure InvokeResponse := do
  let m ← decodeMembers Members.step ⟨none, none, none, none, none, none⟩ ms
  let version ← need "version" m.version
  let callId ← need "call_id" m.callId
  let status ← need "status" m.status
  .ok ⟨version, callId, status, m.value.getD none, m.error.getD none, m.updates.getD []⟩

/-- A response from the places of a list; the last three may be left out. -/
def ofElements (items : List Json) : Except Failure InvokeResponse := do
  let expected := "struct InvokeResponse with 6 elements"
  let version ← element items 0 expected asWord32
  let callId ← element items 1 expected Uuid.decode
  let status ← element items 2 expected ResponseStatus.decode
  let value ← element? items 3 (asOption asValue)
  let error ← element? items 4 (asOption asText)
  let updates ← element? items 5 (asList PropertyUpdate.decode)
  noMore items 6
  .ok ⟨version, callId, status, value.getD none, error.getD none, updates.getD []⟩

/-- A response, read behind its tag. -/
def decode : Decoder InvokeResponse := asRecord "struct InvokeResponse" ofMembers ofElements

end InvokeResponse

namespace WireMessage

/-- The names that tell the messages apart. -/
def tags : List String := ["invoke", "result"]

/-- Read the tag. -/
def readTag : Reader String := fun cs => do
  let (s, cs) ← readStringAs "variant identifier" cs
  let s ← checkVariant tags s cs
  .ok (s, cs)

/-- Read the next member of a message: its tag, or a member that belongs to it. -/
def step (s : Option String × List (String × Json)) (name : String) :
    Reader (Option String × List (String × Json)) := fun cs => do
  if name = "type" then
    let (tag, cs) ← readOnce name s.1 readTag cs
    .ok ((tag, s.2), cs)
  else
    let cs ← readColon cs
    let (v, cs) ← value (maxDepth - 1) cs
    .ok ((s.1, s.2 ++ [(name, v)]), cs)

/-- Read an open object: its tag, and its other members as an object. -/
def readMembers : Reader (String × Json) := fun cs => do
  let ((tag, members), cs) ← foldMembers step (cs.length + 1) true (none, []) cs
  let tag ← required "type" tag cs
  .ok ((tag, .obj members), cs)

/-- Read an open list: its tag, which stands first, and its other places as a list. -/
def readElements : Reader (String × Json) := fun cs => do
  let (tag, cs) ← readElement? 0 readTag cs
  let tag ← required "type" tag cs
  let (items, cs) ← readItems (value (maxDepth - 1)) (cs.length + 1) false cs
  .ok ((tag, .arr items), cs)

/-- The message with a tag. -/
def ofTagged (tag : String) (content : Json) : Except Failure WireMessage :=
  if tag = "invoke" then (InvokeRequest.decode content).map .invoke
  else (InvokeResponse.decode content).map .result

/-- Read a message. -/
def read : Reader WireMessage := fun cs => do
  let ((tag, content), cs) ←
    readRecord "internally tagged enum GatewayMessage" readMembers readElements cs
  let m ← ofTagged tag content
  .ok (m, cs)

/-- The message of a frame. -/
def parse (frame : String) : Except Failure WireMessage := readAll read frame

end WireMessage

end PanelScript

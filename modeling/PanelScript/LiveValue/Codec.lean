import PanelScript.Json.Printer
import PanelScript.Json.Typed
import PanelScript.LiveValue.Basic

/-!
# Live values as text

A live value is written as an object with four members, the timestamp in RFC 3339 form. It is read
back from an object with its members in any order, or from a list of the four in order.

* `LiveValue.toJson` and `LiveValue.text` write;
* `LiveValue.read` and `LiveValue.parse` read, and report the first fault in document order.
-/

namespace PanelScript

/-- The names of the qualities. -/
def Quality.names : List String := Quality.all.map Quality.name

/-- Read a timestamp. -/
def Timestamp.read : Json.Reader Timestamp := fun cs => do
  let (s, rest) ← Json.readStringAs "an RFC 3339 formatted date and time string" cs
  match Timestamp.parse? s with
  | some t => .ok (t, rest)
  | none => Json.mismatchAt .malformedTimestamp rest

/-- Read a quality by its name. -/
def Quality.read : Json.Reader Quality := fun cs => do
  let (s, rest) ← Json.readVariant Quality.names cs
  .ok ((Quality.ofName? s).getD .good, rest)

namespace LiveValue

/-- The object of a live value, its members in order. -/
def toJson (v : LiveValue) : Json :=
  .obj [("name", .str v.name), ("value", v.value), ("timestamp", .str v.timestamp.text),
    ("quality", .str v.quality.name)]

/-- The text of a live value. -/
def text (v : LiveValue) : String := v.toJson.text

/-- The members that were read so far. -/
structure Members where
  name : Option String
  value : Option Json
  timestamp : Option Timestamp
  quality : Option Quality

/-- The value member: a tree inside the one bracket of the live value. -/
def readValue : Json.Reader Json := fun cs =>
  (Json.value (Json.maxDepth - 1) cs).map fun (v, rest) => (v.canonical, rest)

/-- Read the next member. -/
def Members.step (m : Members) (name : String) : Json.Reader Members := fun cs => do
  if name = "name" then
    let (v, cs) ← Json.readOnce name m.name (Json.readStringAs "a string") cs
    .ok ({ m with name := v }, cs)
  else if name = "value" then
    let (v, cs) ← Json.readOnce name m.value readValue cs
    .ok ({ m with value := v }, cs)
  else if name = "timestamp" then
    let (v, cs) ← Json.readOnce name m.timestamp Timestamp.read cs
    .ok ({ m with timestamp := v }, cs)
  else if name = "quality" then
    let (v, cs) ← Json.readOnce name m.quality Quality.read cs
    .ok ({ m with quality := v }, cs)
  else
    let cs ← Json.skipMember cs
    .ok (m, cs)

/-- Read the members of an open object. -/
def readMembers : Json.Reader LiveValue := fun cs => do
  let (m, cs) ← Json.foldMembers Members.step (cs.length + 1) true ⟨none, none, none, none⟩ cs
  let name ← Json.required "name" m.name cs
  let value ← Json.required "value" m.value cs
  let timestamp ← Json.required "timestamp" m.timestamp cs
  let quality ← Json.required "quality" m.quality cs
  .ok (⟨name, value, timestamp, quality⟩, cs)

/-- Read the places of an open list. -/
def readElements : Json.Reader LiveValue := fun cs => do
  let expected := "struct LiveValue with 4 elements"
  let (name, cs) ← Json.readElement 0 expected (Json.readStringAs "a string") cs
  let (value, cs) ← Json.readElement 1 expected readValue cs
  let (timestamp, cs) ← Json.readElement 2 expected Timestamp.read cs
  let (quality, cs) ← Json.readElement 3 expected Quality.read cs
  .ok (⟨name, value, timestamp, quality⟩, cs)

/-- Read a live value. -/
def read : Json.Reader LiveValue := Json.readRecord "struct LiveValue" readMembers readElements

/-- The live value of a whole text. -/
def parse (text : String) : Except Json.Failure LiveValue := Json.readAll read text

end LiveValue

end PanelScript

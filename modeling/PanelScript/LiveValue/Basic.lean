import PanelScript.Json.Basic
import PanelScript.Time.Timestamp

/-!
# Live values

A live value is the snapshot of one named input at the moment a script is triggered: the value, when
it was taken, and how far it can be trusted.

* `Quality` is the alarm severity of a value, from good to disconnected;
* `LiveValue` is the snapshot, `LiveValue.disconnected` a placeholder for an input without one.
-/

namespace PanelScript

/-- How far a value can be trusted. A disconnected value was never received, or its source is
gone. -/
inductive Quality where
  | good | minor | major | invalid | disconnected
  deriving DecidableEq, Inhabited

namespace Quality

/-- All qualities, from the best to the worst. -/
def all : List Quality := [.good, .minor, .major, .invalid, .disconnected]

/-- The name of a quality. -/
def name : Quality → String
  | .good => "good"
  | .minor => "minor"
  | .major => "major"
  | .invalid => "invalid"
  | .disconnected => "disconnected"

/-- The quality with a name. -/
def ofName? (s : String) : Option Quality := all.find? fun q => q.name = s

@[simp] theorem ofName?_name (q : Quality) : ofName? q.name = some q := by
  cases q <;> decide

end Quality

/-- The snapshot of one named input. -/
structure LiveValue where
  /-- The name of the source. -/
  name : String
  value : Json
  timestamp : Timestamp
  quality : Quality
  deriving DecidableEq

namespace LiveValue

/-- A good value. -/
def ofValue (name : String) (value : Json) (timestamp : Timestamp) : LiveValue :=
  ⟨name, value, timestamp, .good⟩

/-- The placeholder for an input that has no value. -/
def disconnected (name : String) (timestamp : Timestamp) : LiveValue :=
  ⟨name, .null, timestamp, .disconnected⟩

/-- Whether there is a source behind the value. -/
def isConnected (v : LiveValue) : Bool := v.quality ≠ .disconnected

@[simp] theorem isConnected_ofValue (name : String) (value : Json) (t : Timestamp) :
    (ofValue name value t).isConnected = true := rfl

@[simp] theorem isConnected_disconnected (name : String) (t : Timestamp) :
    (disconnected name t).isConnected = false := rfl

end LiveValue

end PanelScript

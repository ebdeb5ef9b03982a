import PanelScript.Outcome

/-!
# Events

What happens to submissions and to the connections of the gateway is told to observers as events.

* `EventKind` says what happened, `Event` to which unit, for which widget and with which error.
-/

namespace PanelScript

/-- What happened. -/
inductive EventKind where
  | scheduled | skipped | rejected | completed | failed | gatewayConnected | gatewayDisconnected
  deriving DecidableEq

namespace EventKind

/-- The name of a kind. -/
def name : EventKind → String
  | .scheduled => "scheduled"
  | .skipped => "skipped"
  | .rejected => "rejected"
  | .completed => "completed"
  | .failed => "failed"
  | .gatewayConnected => "gateway_connected"
  | .gatewayDisconnected => "gateway_disconnected"

/-- The name of a kind with the part of the program it belongs to. -/
def path : EventKind → String
  | .gatewayConnected => "gateway.connected"
  | .gatewayDisconnected => "gateway.disconnected"
  | kind => "script." ++ kind.name

/-- All kinds. -/
def all : List EventKind :=
  [.scheduled, .skipped, .rejected, .completed, .failed, .gatewayConnected, .gatewayDisconnected]

/-- The kind with a name. -/
def ofName? (s : String) : Option EventKind := all.find? fun k => k.name = s

/-- Whether the event ends an execution. -/
def isTerminal : EventKind → Bool
  | .completed | .failed => true
  | _ => false

end EventKind

/-- Something that happened. -/
structure Event where
  kind : EventKind
  unit : Option UnitId
  /-- Where the unit comes from, or the address of the gateway. -/
  source : Option String
  widget : Option String
  error : Option String
  /-- The failure is one of the way to the interpreter. -/
  transport : Bool
  deriving DecidableEq

namespace Event

/-- An event that says no more than its kind. -/
def ofKind (kind : EventKind) : Event := ⟨kind, none, none, none, none, false⟩

/-- Name the unit and its source. -/
def withUnit (e : Event) (unit : UnitId) (source : String) : Event :=
  { e with unit := some unit, source := some source }

/-- Name a source without a unit. -/
def withSource (e : Event) (source : String) : Event := { e with source := some source }

/-- Name the widget. -/
def withWidget (e : Event) (widget : String) : Event := { e with widget := some widget }

/-- Give the error, and whether it is one of the way to the interpreter. -/
def withError (e : Event) (error : String) (transport : Bool) : Event :=
  { e with error := some error, transport }

/-- The object of an event. -/
def toJson (e : Event) : Json :=
  .object [("kind", .str e.kind.name), ("unit", (e.unit.map Json.ofNat).getD .null),
    ("source", .ofText? e.source), ("widget", .ofText? e.widget), ("error", .ofText? e.error),
    ("transport", .bool e.transport)]

/-- The event that ends an execution: completed, or failed with the words of the failure. -/
def ofOutcome (unit : UnitId) (source widget : String) : Outcome → Event
  | .ok _ => ((ofKind .completed).withUnit unit source).withWidget widget
  | .error failure =>
    (((ofKind .failed).withUnit unit source).withWidget widget).withError failure.message
      failure.isTransport

@[simp] theorem isTerminal_ofOutcome (unit : UnitId) (source widget : String) (o : Outcome) :
    (ofOutcome unit source widget o).kind.isTerminal = true := by
  cases o <;> rfl

end Event

end PanelScript

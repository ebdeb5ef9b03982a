import PanelScript.LiveValue.Basic
import PanelScript.Text.Quoted

/-!
# What a script is given

A submission names the widget it is for, the live values of the script's inputs, and what triggered
it. For a run, the values are bound to the names that the script declares for its inputs.

* `Trigger` is an input that changed, or an explicit request;
* `Context` is what a submission carries, `Bindings` what a run sees;
* `Bindings.bind` pairs declared names with values in order.
-/

namespace PanelScript

/-- What requested a run. -/
inductive Trigger where
  /-- The input with this number changed. -/
  | input (index : Nat)
  /-- A request of its own, such as an action of the user. -/
  | explicit
  deriving DecidableEq

namespace Trigger

/-- The object of a trigger. -/
def toJson : Trigger → Json
  | .input index => .obj [("input", .ofNat index)]
  | .explicit => .str "explicit"

/-- The trigger for a log. -/
def describe : Trigger → String
  | .input index => s!"Input({index})"
  | .explicit => "Explicit"

end Trigger

/-- A widget as a script holds it: where it is kept, and its name and type. -/
structure WidgetHandle where
  /-- The number of the widget on the panel. -/
  slot : Nat
  name : String
  type : String
  deriving DecidableEq

/-- What a submission carries. -/
structure Context where
  widget : WidgetHandle
  values : List LiveValue
  trigger : Trigger
  deriving DecidableEq

/-- What a run sees: the widget, each declared input with its value, the trigger, and whether it
has been asked to stop. -/
structure Bindings where
  widget : WidgetHandle
  inputs : List (String × LiveValue)
  trigger : Trigger
  isCancelled : Bool
  deriving DecidableEq

namespace Bindings

/-- Pair the declared inputs with the values in order. What is left over on either side is
ignored. -/
def bind (inputs : List String) (context : Context) : Bindings :=
  ⟨context.widget, inputs.zip context.values, context.trigger, false⟩

/-- Ask the run to stop. -/
def cancel (b : Bindings) : Bindings := { b with isCancelled := true }

/-- The declared name of the input that changed. -/
def triggerName (b : Bindings) : Option String :=
  match b.trigger with
  | .input index => (b.inputs[index]?).map Prod.fst
  | .explicit => none

/-- The value of a declared input; of those with one name the first. -/
def get? (b : Bindings) (name : String) : Option LiveValue := b.inputs.lookup name

/-- The bindings for a log, as far as they do not show a value. -/
def describe (b : Bindings) : Option String :=
  if b.inputs.isEmpty then
    some <| "ScriptBindings \x7b widget: " ++ quoted b.widget.name ++ ", inputs: [], trigger: " ++
      b.trigger.describe ++ " \x7d"
  else none

@[simp] theorem triggerName_explicit (inputs : List String) (w : WidgetHandle)
    (values : List LiveValue) : (bind inputs ⟨w, values, .explicit⟩).triggerName = none := rfl

@[simp] theorem length_bind (inputs : List String) (context : Context) :
    (bind inputs context).inputs.length = min inputs.length context.values.length := by
  simp [bind]

end Bindings

/-- The context for a log, as far as it does not show a value. -/
def Context.describe (c : Context) : Option String :=
  if c.values.isEmpty then
    some <| "SubmissionContext \x7b widget: " ++ quoted c.widget.name ++
      ", values: [], trigger: " ++ c.trigger.describe ++ " \x7d"
  else none

end PanelScript

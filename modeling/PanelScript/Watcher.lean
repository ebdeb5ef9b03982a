import PanelScript.LiveValue.Basic
import PanelScript.Support.Error

/-!
# Watchers

A widget declares inputs for its script. Some of them run the script when their value changes,
others are only read. A watcher keeps the latest value of every input and says when the script is to
run, and with which values.

* `WatchedInput` is a declared input, `Watcher` the watcher;
* `Watcher.record` takes in a new value, `Watcher.context?` says whether it runs the script;
* `Watcher.change` does both, `Watcher.request` is an explicit request to run the script.
-/

namespace PanelScript

/-- A declared input of a script. -/
structure WatchedInput where
  name : String
  /-- A change of the input runs the script. -/
  triggers : Bool
  deriving DecidableEq

/-- A watcher. -/
structure Watcher where
  unit : ScriptUnit
  widget : WidgetHandle
  inputs : List WatchedInput
  /-- A change runs the script only if every input has a connected value. -/
  checksConnections : Bool
  /-- The latest value of every input that has reported one. -/
  latest : List (Option LiveValue)
  deriving DecidableEq

namespace Watcher

/-- A watcher that has seen no values. There have to be as many inputs as the unit declares. -/
def ofUnit (unit : ScriptUnit) (widget : WidgetHandle) (inputs : List WatchedInput)
    (checksConnections : Bool) : Except SupportError Watcher :=
  if inputs.length ≠ unit.inputs.length then
    .error (.inputCountMismatch unit.source unit.inputs.length inputs.length)
  else .ok ⟨unit, widget, inputs, checksConnections, List.replicate inputs.length none⟩

/-- Take in the value of an input; there may be no input with that number. -/
def record (w : Watcher) (index : Nat) (value : LiveValue) : Watcher :=
  { w with latest := w.latest.set index (some value) }

/-- Every input has a connected value. -/
def isConnected (w : Watcher) : Bool :=
  w.latest.all fun v => (v.map LiveValue.isConnected).getD false

/-- The values that a run is given now: for an input without one a placeholder with its name. -/
def values (w : Watcher) (now : Timestamp) : List LiveValue :=
  List.zipWith (fun v (i : WatchedInput) => v.getD (.disconnected i.name now)) w.latest w.inputs

/-- What a run is given now. -/
def context (w : Watcher) (trigger : Trigger) (now : Timestamp) : Context :=
  ⟨w.widget, w.values now, trigger⟩

/-- What the run is given that a change of an input sets off, if it sets one off. -/
def context? (w : Watcher) (index : Nat) (now : Timestamp) : Option Context :=
  match w.inputs[index]? with
  | none => none
  | some input =>
    if !input.triggers then none
    else if w.checksConnections && !w.isConnected then none
    else some (w.context (.input index) now)

/-- An input has changed: what the run is given that this sets off, if it sets one off. -/
def change (w : Watcher) (index : Nat) (value : LiveValue) (now : Timestamp) :
    Option Context × Watcher :=
  ((w.record index value).context? index now, w.record index value)

/-- What the run is given that is requested explicitly. -/
def request (w : Watcher) (now : Timestamp) : Context := w.context .explicit now

@[simp] theorem length_latest_record (w : Watcher) (index : Nat) (value : LiveValue) :
    (w.record index value).latest.length = w.latest.length := by
  simp [record]

theorem length_latest_ofUnit {unit : ScriptUnit} {widget : WidgetHandle}
    {inputs : List WatchedInput} {checks : Bool} {w : Watcher}
    (h : ofUnit unit widget inputs checks = .ok w) :
    w.latest.length = unit.inputs.length ∧ w.inputs.length = unit.inputs.length := by
  unfold ofUnit at h
  split at h
  · simp at h
  · rename_i hl
    obtain rfl := Except.ok.inj h
    simpa using hl

@[simp] theorem length_values (w : Watcher) (now : Timestamp) :
    (w.values now).length = min w.latest.length w.inputs.length := by
  simp [values]

end Watcher

end PanelScript

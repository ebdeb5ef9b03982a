import PanelScript.LiveValue.Reading
import PanelScript.Outcome
import PanelScript.Script.Bindings
import PanelScript.Widget

/-!
# Embedded scripts

A script that runs inside the program is a list of actions on its bindings and its widget. The value
of the last action that yields one is the value of the script. An action may wait at a gate until it
is opened from outside, or until the run is asked to stop.

* `Action` is one action, `Program` a script;
* `Program.move` is what an action comes to, `Program.run` runs a script to its end or to the next
  closed gate;
* `Ending.outcome` is what the run of a script counts as.
-/

namespace PanelScript

/-- A reading of an input that a script can ask for. -/
inductive InputReading where
  | number | integer | string | numbers | labels
  deriving DecidableEq

/-- What a script panics with: a message, or something that has none. -/
inductive PanicPayload where
  | text (message : String)
  | other
  deriving DecidableEq

/-- The words for a panic. -/
def PanicPayload.message : PanicPayload → String
  | .text m => m
  | .other => "unknown panic payload"

/-- One action of a script. -/
inductive Action where
  /-- Yield a given value, or none. -/
  | yield (value : Option Json)
  /-- Yield the value of the first input. -/
  | echo
  /-- Yield the sum of the inputs that read as numbers. -/
  | sum
  /-- Yield name, source, value and quality of every input. -/
  | inputs
  /-- Yield a reading of an input. -/
  | get (input : String) (reading : InputReading)
  /-- Yield the trigger and the name of the input that changed. -/
  | trigger
  /-- Yield whether the run was asked to stop. -/
  | cancelled
  /-- Yield name and type of the widget. -/
  | widget
  /-- Yield a property of the widget. -/
  | property (name : String)
  /-- Write a property of the widget. -/
  | set (name : String) (value : Json)
  /-- Write the text reading of an input to a property of the widget. -/
  | setInput (name input : String)
  /-- Wait until a gate is open. -/
  | gate (name : String)
  | fail (failure : ScriptFailure)
  | panic (payload : PanicPayload)
  deriving DecidableEq

/-- A script. -/
abbrev Program := List Action

/-- How a script ended: by itself, or by a panic. -/
inductive Ending where
  | returned (outcome : Outcome)
  | panicked (payload : PanicPayload)
  deriving DecidableEq

/-- What the end of a script counts as: a panic is a failure. -/
def Ending.outcome : Ending → Outcome
  | .returned o => o
  | .panicked p => .error (.panicked p.message)

/-- What an action of a script comes to. -/
inductive Move where
  /-- The script goes on with a value. -/
  | yields (value : Option Json)
  /-- A property is written, and the script goes on with the value it had. -/
  | writes (name : String) (value : Json)
  /-- The script waits. -/
  | waits
  | ends (ending : Ending)
  deriving DecidableEq

namespace Program

/-- A binary fraction by its bits; all that are no numbers are alike. -/
def bitsJson (x : Binary64) : Json := .str (if x.isNaN then "nan" else x.hex)

/-- A reading of a live value, as a value. Fractions are shown by their bits. -/
def readingJson (v : LiveValue) : InputReading → Json
  | .number => (v.number?.map bitsJson).getD .null
  | .integer => (v.integer?.map Json.ofInt).getD .null
  | .string => .str v.string
  | .numbers => .arr (v.numbers.map bitsJson)
  | .labels => (v.labels?.map fun ls => Json.arr (ls.map Json.str)).getD .null

/-- An input as a value: declared name, source, value and quality. -/
def inputJson (name : String) (v : LiveValue) : Json :=
  .arr [.str name, .str v.name, v.value, .str v.quality.name]

/-- The sum of the numeric readings, in the order of the inputs. -/
def sum (b : Bindings) : Binary64 :=
  b.inputs.foldl (fun s (_, v) => match v.number? with
    | some x => s.add x
    | none => s) (.zero false)

/-- The failure of a script that asks for an input it does not have. -/
def noInput (input : String) : Ending := .returned (.error (.script s!"no input {input}"))

/-- What comes of writing a property: a refusal ends the script. -/
def write (w : Widget) (name : String) (value : Json) : Move :=
  match w.setProperty name value with
  | .ok _ => .writes name value
  | .error e => .ends (.returned (.error (.script e.message)))

/-- What an action comes to, for the bindings, the widget as it is, and the value so far. A run that
was asked to stop ends at a closed gate. -/
def move (isOpen : String → Bool) (b : Bindings) (w : Widget) (value : Option Json) : Action → Move
  | .yield v => .yields v
  | .echo => .yields ((b.inputs.head?).map fun (_, v) => v.value)
  | .sum => .yields (some (.ofReal (sum b)))
  | .inputs => .yields (some (.arr (b.inputs.map fun (name, v) => inputJson name v)))
  | .get input reading =>
    match b.get? input with
    | some v => .yields (some (readingJson v reading))
    | none => .ends (noInput input)
  | .trigger => .yields (some (.arr [b.trigger.toJson, Json.ofText? b.triggerName]))
  | .cancelled => .yields (some (.bool b.isCancelled))
  | .widget => .yields (some (.arr [.str b.widget.name, .str b.widget.type]))
  | .property name => .yields (w.property? name)
  | .set name v => write w name v
  | .setInput name input =>
    match b.get? input with
    | some v => write w name (.str v.string)
    | none => .ends (noInput input)
  | .gate name =>
    if isOpen name then .yields value
    else if b.isCancelled then .ends (.returned (.error .cancelled))
    else .waits
  | .fail failure => .ends (.returned (.error failure))
  | .panic payload => .ends (.panicked payload)

/-- Run a script until it ends or waits: how it ended, if it did, and the widget it leaves. -/
def run (isOpen : String → Bool) (b : Bindings) (w : Widget) (value : Option Json) :
    Program → Option Ending × Widget
  | [] => (some (.returned (.ok value)), w)
  | action :: rest =>
    match move isOpen b w value action with
    | .yields value => run isOpen b w value rest
    | .writes name v => run isOpen b (w.trySetProperty name v) value rest
    | .waits => (none, w)
    | .ends ending => (some ending, w)

end Program

end PanelScript

import PanelScript.Script.Program

/-!
# Executable units

A script is compiled once into a unit, which every trigger of it then shares. A unit is identified
by its number and not by its content.

* `Backend` says which kind of interpreter runs a unit;
* `ScriptUnit` is a unit, `ScriptUnit.describe` its name in messages.
-/

namespace PanelScript

/-- Which kind of interpreter runs a unit: one inside the program, or one behind the gateway. -/
inductive Backend where
  | inProcess | gateway
  deriving DecidableEq

/-- The name of a kind of interpreter. -/
def Backend.name : Backend → String
  | .inProcess => "in_process"
  | .gateway => "gateway"

/-- What a unit is compiled to: a script to be run inside the program, or the path of a script for
the interpreter behind the gateway. -/
inductive Payload where
  | program (p : Program)
  | file (path : String)
  deriving DecidableEq

/-- The interpreter that a payload is for. -/
def Payload.backend : Payload → Backend
  | .program _ => .inProcess
  | .file _ => .gateway

/-- The payload for a log. -/
def Payload.describe : Payload → String
  | .program _ => "InProcess(..)"
  | .file path => "Gateway \x7b script_path: " ++ quoted path ++ " \x7d"

/-- A compiled script with its declared inputs. -/
structure ScriptUnit where
  id : UnitId
  /-- Where the script comes from, for messages. -/
  source : String
  inputs : List String
  payload : Payload
  deriving DecidableEq

namespace ScriptUnit

/-- A unit that runs inside the program. -/
def ofProgram (id : UnitId) (source : String) (inputs : List String) (p : Program) : ScriptUnit :=
  ⟨id, source, inputs, .program p⟩

/-- A unit for the interpreter behind the gateway; its path is its source. -/
def ofFile (id : UnitId) (path : String) (inputs : List String) : ScriptUnit :=
  ⟨id, path, inputs, .file path⟩

/-- The interpreter that runs the unit. -/
def backend (u : ScriptUnit) : Backend := u.payload.backend

/-- The name of a unit number. -/
def idText (id : UnitId) : String := s!"unit-{id}"

/-- Source and number of the unit. -/
def describe (u : ScriptUnit) : String := s!"{u.source} ({idText u.id})"

@[simp] theorem backend_ofProgram (id : UnitId) (source : String) (inputs : List String)
    (p : Program) : (ofProgram id source inputs p).backend = .inProcess := rfl

@[simp] theorem backend_ofFile (id : UnitId) (path : String) (inputs : List String) :
    (ofFile id path inputs).backend = .gateway := rfl

end ScriptUnit

end PanelScript

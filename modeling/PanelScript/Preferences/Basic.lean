import PanelScript.Json.Octets
import PanelScript.Json.Printer

/-!
# Preferences

Settings for the interpreters, kept in a JSON text. What the text does not give stands at its
default.

* `Preferences` holds the settings;
* `Preferences.parse` reads the octets of a text, `Preferences.text` writes one;
* `Preferences.searchPath?` is the module search path for a process.
-/

namespace PanelScript

-- Powers are those of the core library.
attribute [local instance (2000)] instPowNat

/-- Settings for the interpreters. -/
structure Preferences where
  /-- Directories in which the interpreter looks for modules. -/
  pythonPath : List String := []
  /-- How long reading the preferences may take, in milliseconds. -/
  readTimeout : Nat := 5000
  deriving DecidableEq

namespace Preferences

/-- The settings if nothing was said. -/
def default : Preferences := {}

/-- The module search path for a process; none if no directory is given. -/
def searchPath? (p : Preferences) : Option String :=
  if p.pythonPath.isEmpty then none else some (":".intercalate p.pythonPath)

/-- The object of the preferences. -/
def toJson (p : Preferences) : Json :=
  .obj [("python_path", .arr (p.pythonPath.map .str)), ("read_timeout_ms", .ofNat p.readTimeout)]

/-- The text of the preferences. -/
def text (p : Preferences) : String := p.toJson.text

/-! ### Reading -/

open Json

/-- A list of directories. -/
def readPath : Reader (List String) := readListAs "a sequence" (readEncodedAs "a string")

/-- A number of milliseconds. -/
def readTime : Reader Nat := readNatBelow (2 ^ (64 : Nat)) "u64"

/-- The members that were read so far. -/
structure Members where
  pythonPath : Option (List String)
  readTimeout : Option Nat

/-- The preferences with what was read; the rest stands at its default. -/
def Members.complete (m : Members) : Preferences :=
  ⟨m.pythonPath.getD default.pythonPath, m.readTimeout.getD default.readTimeout⟩

/-- Read the next member. -/
def Members.step (m : Members) (name : String) : Reader Members := fun cs => do
  if name = "python_path" then
    let (v, cs) ← readOnce name m.pythonPath readPath cs
    .ok ({ m with pythonPath := v }, cs)
  else if name = "read_timeout_ms" then
    let (v, cs) ← readOnce name m.readTimeout readTime cs
    .ok ({ m with readTimeout := v }, cs)
  else
    let cs ← skipMember cs
    .ok (m, cs)

/-- Read the members of an open object. -/
def readMembers : Reader Preferences := fun cs => do
  let (m, cs) ← foldMembersBy readEncoded Members.step (cs.length + 1) true ⟨none, none⟩ cs
  .ok (m.complete, cs)

/-- Read the places of an open list. -/
def readElements : Reader Preferences := fun cs => do
  let (pythonPath, cs) ← readElement? 0 readPath cs
  if pythonPath.isNone then .ok (default, cs)
  else
    let (readTimeout, cs) ← readElement? 1 readTime cs
    .ok (Members.complete ⟨pythonPath, readTimeout⟩, cs)

/-- Read preferences. -/
def read : Reader Preferences := readRecord "struct ScriptPreferences" readMembers readElements

/-- The preferences in the octets of a whole text. What is passed over need not be encoded well. -/
def parse (bytes : List UInt8) : Except Failure Preferences := readOctets read bytes

end Preferences

end PanelScript

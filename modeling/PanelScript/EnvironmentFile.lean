import PanelScript.Environment
import PanelScript.Files
import PanelScript.Text.Blank
import PanelScript.Text.Wordlike

/-!
# Files of environment variables

A file `.env` in the working directory, or in a directory above it, supplies variables that are not
set: one `NAME=value` in a line. A value may be quoted, may go over several lines inside quotes, and
may refer to other variables. What follows a line that cannot be read is not looked at.

* `EnvironmentFile.entries` takes a text apart into the lines of its variables;
* `EnvironmentFile.parseLine` reads such a line, `EnvironmentFile.parseValue` a value;
* `EnvironmentFile.supply` supplies the variables of a text, `EnvironmentFile.load` those of the
  file;
* `EnvironmentFile.candidates` are the paths, `EnvironmentFile.names` the names it may refer to.
-/

namespace PanelScript.EnvironmentFile

/-! ### Lines -/

/-- Where a line that may go on stands. -/
inductive LineState where
  | plain | blank | escaped | double | doubleEscaped | single | singleEscaped
  deriving DecidableEq

/-- What a character of a line leads to; none if a comment begins with it. -/
def LineState.next (s : LineState) (c : Char) : Option LineState :=
  let outside : LineState :=
    if c = '\\' then .escaped else if c = '"' then .double else if c = '\'' then .single else .plain
  match s with
  | .blank => if c = '#' then none else some outside
  | .plain => some (if isBlank c ∧ c ≠ '\n' ∧ c ≠ '\r' then .blank else outside)
  | .escaped => some .plain
  | .double => some (if c = '\\' then .doubleEscaped else if c = '"' then .plain else .double)
  | .doubleEscaped => some .double
  | .single => some (if c = '\\' then .singleEscaped else if c = '\'' then .plain else .single)
  | .singleEscaped => some .single

/-- Go through a line: what stands before a comment, and the state behind it; none if a comment ends
the line. -/
def scan (s : LineState) : List Char → List Char × Option LineState
  | [] => ([], some s)
  | c :: rest =>
    match s.next c with
    | none => ([], none)
    | some t =>
      let (kept, last) := scan t rest
      (c :: kept, last)

/-- A line without the end of line. -/
def chomp (line : List Char) : List Char :=
  match line.reverse with
  | '\n' :: '\r' :: rest => rest.reverse
  | '\n' :: rest => rest.reverse
  | _ => line

/-- The lines of a text, each with its end of line. -/
def lines (cs : List Char) : List (List Char) :=
  cs.foldr (fun c ls =>
    match c, ls with
    | '\n', ls => ['\n'] :: ls
    | c, l :: ls => (c :: l) :: ls
    | c, [] => [[c]]) []

/-- Put lines together that belong together. `open?` is what was read of an entry that goes on. The
last entry is none if it is not closed. -/
def gather (open? : Option (List Char × LineState)) : List (List Char) → List (Option (List Char))
  | [] =>
    match open? with
    | none => []
    | some _ => [none]
  | line :: rest =>
    let (front, state) := open?.getD ([], .plain)
    if (trimBlankLeft (front ++ line)).head? = some '#' then some [] :: gather none rest
    else
      match scan state line with
      | (kept, none) => some (front ++ kept) :: gather none rest
      | (kept, some .plain) => some (chomp (front ++ kept)) :: gather none rest
      | (kept, some state) => gather (some (front ++ kept, state)) rest

/-- The entries of a text. -/
def entries (text : String) : List (Option (List Char)) := gather none (lines text.toList)

/-! ### Values -/

/-- A reference to a variable that is being read. -/
inductive Reference where
  | none
  | plain (name : List Char)
  | braced (name : List Char)
  deriving DecidableEq

/-- A value that is being read. -/
structure Value where
  /-- What was read, the last character first. -/
  output : List Char := []
  single : Bool := false
  double : Bool := false
  escaped : Bool := false
  /-- Only blanks and a comment may follow. -/
  ended : Bool := false
  /-- A comment follows. -/
  commented : Bool := false
  reference : Reference := .none

namespace Value

/-- Put a character behind the value. -/
def push (v : Value) (c : Char) : Value := { v with output := c :: v.output }

/-- Put the value of a variable behind the value. -/
def substitute (v : Value) (env : Environment) (name : List Char) : Value :=
  let text := (env.get? (String.ofList name)).getD ""
  { v with output := text.toList.reverse ++ v.output, reference := .none }

/-- Take the next character; none if it cannot stand there. -/
def step (env : Environment) (v : Value) (c : Char) : Option Value :=
  if v.commented then some v
  else if v.ended then
    if c = ' ' ∨ c = '\t' then some v
    else if c = '#' then some { v with commented := true }
    else none
  else if v.escaped then
    if c ∈ ['\\', '\'', '"', '$', ' '] then some { v.push c with escaped := false }
    else if c = 'n' then some { v.push '\n' with escaped := false }
    else none
  else if v.single then some (if c = '\'' then { v with single := false } else v.push c)
  else
    match v.reference with
    | .plain name =>
      if isWordlike c then some { v with reference := .plain (name ++ [c]) }
      else if c = '\x7b' ∧ name = [] then some { v with reference := .braced [] }
      else if c = '$' then some { v.substitute env name with reference := .plain [] }
      else some ((v.substitute env name).push c)
    | .braced name =>
      if c = '\x7d' then some (v.substitute env name)
      else some { v with reference := .braced (name ++ [c]) }
    | .none =>
      some <| if c = '$' then { v with reference := .plain [] }
        else if c = '\\' then { v with escaped := true }
        else if v.double then if c = '"' then { v with double := false } else v.push c
        else if c = '\'' then { v with single := true }
        else if c = '"' then { v with double := true }
        else if c = ' ' ∨ c = '\t' then { v with ended := true }
        else v.push c

/-- The text of a value whose end was reached; none if something is not closed. -/
def finish (v : Value) (env : Environment) : Option String :=
  if v.single ∨ v.double then none
  else
    match v.reference with
    | .braced _ => none
    | .plain name => some (String.ofList (v.substitute env name).output.reverse)
    | .none => some (String.ofList v.output.reverse)

end Value

/-- Read a value. -/
def parseValue (env : Environment) (cs : List Char) : Option String :=
  (cs.foldlM (Value.step env) {}).bind fun v => v.finish env

/-! ### Entries -/

/-- The name at the start of an entry, and the rest. -/
def parseName (cs : List Char) : Option (String × List Char) :=
  match cs with
  | c :: _ =>
    if c.isAlpha ∨ c = '_' then
      let (name, rest) := cs.span fun c => c.isAlphanum || c = '_' || c = '.'
      some (String.ofList name, trimBlankLeft rest)
    else none
  | [] => none

/-- The name that an entry gives a value, and what follows the equals sign. The word `export` may
stand in front. -/
def parseHead (cs : List Char) : Option (String × List Char) := do
  let (name, rest) ← parseName cs
  match rest with
  | '=' :: rest => some (name, trimBlankLeft rest)
  | _ =>
    if name = "export" then do
      let (name, rest) ← parseName rest
      match rest with
      | '=' :: rest => some (name, trimBlankLeft rest)
      | _ => none
    else none

/-- Read an entry: a variable with its value, or nothing in an empty line. None if it cannot be
read. -/
def parseLine (env : Environment) (line : List Char) : Option (Option (String × String)) :=
  let cs := trimBlank line
  if cs = [] ∨ cs.head? = some '#' then some none
  else do
    let (name, rest) ← parseHead cs
    if rest = [] ∨ rest.head? = some '#' then some (some (name, ""))
    else do
      let value ← parseValue env rest
      some (some (name, value))

/-- Supply the variables of some entries, up to the first that cannot be read. A variable that is
not set is refused a value with a zero character. -/
def supplyEntries (env : Environment) :
    List (Option (List Char)) → Except UnsettableVariable Environment
  | some line :: rest =>
    match parseLine env line with
    | some (some (name, value)) => do
      let env ← env.supply name value
      supplyEntries env rest
    | some none => supplyEntries env rest
    | none => .ok env
  | _ => .ok env

/-- Supply the variables of a text; a byte order mark in front is passed over. -/
def supply (env : Environment) (text : String) : Except UnsettableVariable Environment :=
  match text.toList with
  | '\ufeff' :: rest => supplyEntries env (entries (String.ofList rest))
  | _ => supplyEntries env (entries text)

/-- Where the file may be: in a directory, or in one above it, the nearest first. -/
def candidates (directory : Place) : List String :=
  (List.range (directory.length + 1)).map fun up =>
    joinPath (Place.text (directory.take (directory.length - up))) ".env"

/-- The path of the file, if there is one. -/
def path? (files : FileTree) : Option String :=
  (candidates files.workingDirectory).find? fun path => (files.isFile path).toOption = some true

/-- The words of a text that may be names of variables. -/
def names (text : String) : List String :=
  let isPart (c : Char) : Bool := isWordlike c || c = '_' || c = '.'
  ((text.toList.splitBy fun a b => isPart a == isPart b).filter (·.all isPart)).map String.ofList

/-- Supply the variables of the file, if there is one. -/
def load (files : FileTree) (env : Environment) : Except UnsettableVariable Environment :=
  match (path? files).bind fun path => (files.read path).toOption with
  | some text => supply env text
  | none => .ok env

end PanelScript.EnvironmentFile

import PanelScript.Files
import PanelScript.Macro
import PanelScript.Script.Unit

/-!
# The compiler of script files

A script file becomes a unit for the interpreter behind the gateway. The file is only looked for;
the interpreter reads it on each call. The same file with the same inputs is compiled once, so that
all widgets which share it share its unit.

* `CompileError` lists why a script cannot be compiled;
* `Compiler` holds the units made so far;
* `Compiler.compile` compiles a file, `Compiler.compileTemplate` one whose path has macros.
-/

namespace PanelScript

/-- Why a script cannot be compiled. -/
inductive CompileError where
  | notFound (path : String)
  | notAFile (path : String)
  /-- The script is no script. -/
  | malformed (source message : String)
  /-- The path cannot be made out. -/
  | unresolved (cause : PanelError)
  | io (cause : IoError)
  deriving DecidableEq

/-- The words for a script that cannot be compiled. -/
def CompileError.message : CompileError → String
  | .notFound path => s!"Script file {path} does not exist"
  | .notAFile path => s!"Script path {path} is not a file"
  | .malformed source m => s!"Cannot compile {source}: {m}"
  | .unresolved cause => s!"Cannot resolve script path: {cause.message}"
  | .io cause => s!"I/O error reading script: {cause.message}"

/-- A file system that does not find the path says so; any other refusal is its own. -/
def CompileError.ofIo (path : String) : IoError → CompileError
  | .notFound => .notFound path
  | e => .io e

/-- The compiler: the units made so far, and the number of the next. -/
structure Compiler where
  units : List ScriptUnit
  next : UnitId
  deriving DecidableEq

namespace Compiler

/-- A compiler that has made no unit; its first has the given number. -/
def ofNext (next : UnitId) : Compiler := ⟨[], next⟩

/-- The number of units made so far. -/
def size (c : Compiler) : Nat := c.units.length

/-- The canonical path of a script file. -/
def scriptPath (files : FileTree) (source : String) : Except CompileError String :=
  match files.isFile source with
  | .error e => .error (.ofIo source e)
  | .ok false => .error (.notAFile source)
  | .ok true => (files.canonical source).mapError .io

/-- The unit that was made of a file with the given inputs. -/
def find? (c : Compiler) (path : String) (inputs : List String) : Option ScriptUnit :=
  c.units.find? fun u => u.source = path ∧ u.inputs = inputs

/-- The unit of a file with the given inputs, made now if it was not made before. -/
def supply (c : Compiler) (path : String) (inputs : List String) : ScriptUnit × Compiler :=
  match c.find? path inputs with
  | some u => (u, c)
  | none =>
    let u := ScriptUnit.ofFile c.next path inputs
    (u, ⟨c.units ++ [u], c.next + 1⟩)

/-- Compile a script file. -/
def compile (c : Compiler) (files : FileTree) (source : String) (inputs : List String) :
    Except CompileError ScriptUnit × Compiler :=
  match scriptPath files source with
  | .error e => (.error e, c)
  | .ok path =>
    let (u, c) := c.supply path inputs
    (.ok u, c)

/-- Compile a script file whose path has macros and starts from a directory. -/
def compileTemplate (c : Compiler) (files : FileTree) (directory template : String)
    (definitions : Macro.Definitions) (inputs : List String) :
    Except CompileError ScriptUnit × Compiler :=
  match Macro.expand definitions template with
  | .error e => (.error (.unresolved e), c)
  | .ok path => c.compile files (joinPath directory path) inputs

theorem compile_of_error {c : Compiler} {files : FileTree} {source : String}
    {inputs : List String} {e : CompileError} (h : scriptPath files source = .error e) :
    c.compile files source inputs = (.error e, c) := by
  simp [compile, h]

end Compiler

end PanelScript

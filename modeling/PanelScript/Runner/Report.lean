import PanelScript.Capacity
import PanelScript.Compiler
import PanelScript.Environment
import PanelScript.Outcome
import PanelScript.Runner.Arguments
import PanelScript.Support.Error
import PanelScript.Widget

/-!
# What a run of the command shows

The command prints what became of the script and of the widget. If something failed, it says so with
the causes, and its exit status tells which kind of failure it was.

* `RunnerError` lists what can fail, with `RunnerError.exitStatus` and `RunnerError.text?`;
* `RunReport` is what a run shows, `RunReport.ofResult` the report of a run that came to its end.
-/

namespace PanelScript

/-- Why a run of the command fails. -/
inductive RunnerError where
  /-- The words of the command line are no arguments. -/
  | usage (e : UsageError)
  /-- A variable of the environment file cannot be set. -/
  | unsettable (fault : UnsettableVariable)
  | setting (fault : SettingFault)
  | capacity (fault : CapacityFault)
  | compile (path : String) (cause : CompileError)
  | support (cause : SupportError)
  /-- The script was not scheduled. -/
  | notScheduled
  | script (failure : ScriptFailure)
  deriving DecidableEq

namespace RunnerError

/-- The exit status: that of a panic for a setting that cannot be used. Help is no failure. -/
def exitStatus : RunnerError → Nat
  | .usage .helpRequested => 0
  | .usage _ => 2
  | .unsettable _ | .setting _ | .capacity _ => 101
  | _ => 1

/-- The words for a failure, without its causes. -/
def message? : RunnerError → Option String
  | .usage _ | .unsettable _ | .setting _ | .capacity _ => none
  | .compile path _ => some s!"cannot compile {path}"
  | .support cause => some cause.message
  | .notScheduled => some "script was not scheduled"
  | .script failure => some s!"script failed: {failure.message}"

/-- The causes of a failure, each the cause of the one before. -/
def causes : RunnerError → List String
  | .compile _ cause =>
    match cause with
    | .unresolved e => [cause.message, e.message]
    | .io e => [cause.message, e.message]
    | _ => [cause.message]
  | _ => []

/-- A text behind a heading; its later lines are indented as far as the heading reaches. -/
def hanging (heading text : String) : String :=
  heading ++ ("\n" ++ "".pushn ' ' heading.length).intercalate (text.splitOn "\n")

/-- A number, to the right of five columns, as a heading. -/
def numberHeading (n : Nat) : String :=
  let digits := toString n
  "".pushn ' ' (5 - digits.length) ++ digits ++ ": "

/-- The list of causes; several are numbered. -/
def causeLines : List String → List String
  | [] => []
  | [cause] => [hanging "    " cause]
  | causes => causes.mapIdx fun n cause => hanging (numberHeading n) cause

/-- The whole text for a failure. -/
def text? (e : RunnerError) : Option String :=
  e.message?.map fun m =>
    let list := causeLines e.causes
    let behind := if list.isEmpty then "" else "\n\nCaused by:\n" ++ "\n".intercalate list
    "Error: " ++ m ++ behind ++ "\n"

end RunnerError

/-- What a run of the command shows. -/
structure RunReport where
  /-- What is printed. -/
  output : String
  failure : Option RunnerError
  deriving DecidableEq

namespace RunReport

/-- The report of a run that fails before it prints anything. -/
def ofError (e : RunnerError) : RunReport := ⟨"", some e⟩

/-- The exit status of a run. -/
def exitStatus (r : RunReport) : Nat := (r.failure.map RunnerError.exitStatus).getD 0

/-- The object that a run prints. -/
def resultJson (result : ScriptResult) (properties : List (String × Json)) : Json :=
  .object [("result", result.toJson), ("widget", .object properties)]

/-- The report of a run that came to its end. -/
def ofResult (result : ScriptResult) (properties : List (String × Json)) : RunReport :=
  ⟨(resultJson result properties).pretty ++ "\n", result.failure.map .script⟩

end RunReport

end PanelScript

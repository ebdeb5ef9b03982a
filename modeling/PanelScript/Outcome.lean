import PanelScript.Json.Basic

/-!
# Outcomes of a run

A run of a script ends with a value, with none, or with a failure. What is reported about a
submission adds which unit was to run.

* `ScriptFailure` keeps a faulty script apart from an interpreter that cannot be reached;
* `Outcome` is how a run ended, `ScriptResult` the report about one submission.
-/

namespace PanelScript

/-- Names one compiled script; two scripts compiled from the same source have different ones. -/
abbrev UnitId := Nat

/-- Why a run failed. -/
inductive ScriptFailure where
  | script (message : String)
  | panicked (message : String)
  | transport (message : String)
  | timeout (elapsed : Nat)
  | cancelled
  deriving DecidableEq

namespace ScriptFailure

/-- The words for a failure. -/
def message : ScriptFailure → String
  | .script m => s!"Script error: {m}"
  | .panicked m => s!"Script panicked: {m}"
  | .transport m => s!"Gateway transport error: {m}"
  | .timeout elapsed => s!"Gateway call timed out after {elapsed}ms"
  | .cancelled => "Execution cancelled"

/-- Whether the way to the interpreter failed and not the script. -/
def isTransport : ScriptFailure → Bool
  | .transport _ | .timeout _ => true
  | _ => false

/-- The object of a failure. -/
def toJson : ScriptFailure → Json
  | .script m => .object [("kind", .str "script"), ("message", .str m)]
  | .panicked m => .object [("kind", .str "panicked"), ("message", .str m)]
  | .transport m => .object [("kind", .str "transport"), ("message", .str m)]
  | .timeout elapsed => .object [("kind", .str "timeout"), ("elapsed_ms", .ofNat elapsed)]
  | .cancelled => .object [("kind", .str "cancelled")]

end ScriptFailure

/-- How a run ended: with a value or none, or with a failure. -/
abbrev Outcome := Except ScriptFailure (Option Json)

instance : DecidableEq Outcome
  | .ok a, .ok b => if h : a = b then isTrue (h ▸ rfl) else isFalse (by simpa using h)
  | .error a, .error b => if h : a = b then isTrue (h ▸ rfl) else isFalse (by simpa using h)
  | .ok _, .error _ | .error _, .ok _ => isFalse (by simp)

/-- What became of a submission. -/
inductive Status where
  | completed | failed | skippedDuplicate
  deriving DecidableEq

/-- The name of a status. -/
def Status.name : Status → String
  | .completed => "completed"
  | .failed => "failed"
  | .skippedDuplicate => "skipped_duplicate"

/-- The report about one submission. -/
structure ScriptResult where
  unit : UnitId
  source : String
  status : Status
  value : Option Json
  failure : Option ScriptFailure
  elapsed : Nat
  deriving DecidableEq

namespace ScriptResult

/-- A run that ended with a value or none. -/
def completed (unit : UnitId) (source : String) (value : Option Json) (elapsed : Nat) :
    ScriptResult :=
  ⟨unit, source, .completed, value, none, elapsed⟩

/-- A run that failed. -/
def failed (unit : UnitId) (source : String) (failure : ScriptFailure) (elapsed : Nat) :
    ScriptResult :=
  ⟨unit, source, .failed, none, some failure, elapsed⟩

/-- A submission that was dropped, since the unit was pending. -/
def skipped (unit : UnitId) (source : String) : ScriptResult :=
  ⟨unit, source, .skippedDuplicate, none, none, 0⟩

/-- The report about a run with the given outcome. -/
def ofOutcome (unit : UnitId) (source : String) (elapsed : Nat) : Outcome → ScriptResult
  | .ok value => completed unit source value elapsed
  | .error failure => failed unit source failure elapsed

/-- Whether the run ended with a value or none. -/
def isCompleted (r : ScriptResult) : Bool := r.status = .completed

/-- Whether the run failed. -/
def isFailed (r : ScriptResult) : Bool := r.status = .failed

/-- The object of a report. -/
def toJson (r : ScriptResult) : Json :=
  .object [("unit", .ofNat r.unit), ("source", .str r.source), ("status", .str r.status.name),
    ("value", r.value.getD .null), ("error", (r.failure.map ScriptFailure.toJson).getD .null),
    ("elapsed_ms", .ofNat r.elapsed)]

@[simp] theorem isCompleted_completed (unit : UnitId) (source : String) (value : Option Json)
    (elapsed : Nat) : (completed unit source value elapsed).isCompleted = true := rfl

@[simp] theorem isFailed_failed (unit : UnitId) (source : String) (failure : ScriptFailure)
    (elapsed : Nat) : (failed unit source failure elapsed).isFailed = true := rfl

end ScriptResult

end PanelScript

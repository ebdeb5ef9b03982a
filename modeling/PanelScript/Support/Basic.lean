import PanelScript.Event.Basic
import PanelScript.Lane
import PanelScript.Script.Unit
import PanelScript.Support.Error
import PanelScript.Support.Settings
import PanelScript.Widget

/-!
# The script support

Scripts are submitted from anywhere. A unit that is pending is not admitted again; what is admitted
becomes a job, and jobs run on a bounded number of places. A shutdown lets no more in and waits for
the jobs, or cancels them.

* `Submission`, `Job` and `Shutdown` are what goes on, each with the stage it is in;
* `Support` is the support, `Support.ofSettings` a new one;
* `Support.outstanding`, `Support.isPending` are what callers see.
-/

namespace PanelScript

/-- How a registered interpreter runs a unit. -/
inductive Engine where
  /-- On a thread of its own, which goes on when its job is cancelled. -/
  | worker
  /-- Within the job. -/
  | inline
  deriving DecidableEq

/-- A value for each kind of interpreter. -/
structure PerBackend (α : Type) where
  inProcess : α
  gateway : α
  deriving DecidableEq

namespace PerBackend

variable {α : Type}

/-- The value for a kind. -/
def get (p : PerBackend α) : Backend → α
  | .inProcess => p.inProcess
  | .gateway => p.gateway

/-- Change the value for a kind. -/
def set (p : PerBackend α) (b : Backend) (a : α) : PerBackend α :=
  match b with
  | .inProcess => { p with inProcess := a }
  | .gateway => { p with gateway := a }

@[simp] theorem get_set_self (p : PerBackend α) (b : Backend) (a : α) : (p.set b a).get b = a := by
  cases b <;> rfl

theorem get_set_of_ne {p : PerBackend α} {b c : Backend} {a : α} (h : c ≠ b) :
    (p.set b a).get c = p.get c := by
  cases b <;> cases c <;> first | rfl | exact absurd rfl h

end PerBackend

/-- What a submission is answered. -/
inductive SubmitAnswer where
  /-- It became the job with this number. -/
  | scheduled (job : Nat)
  /-- The unit was pending. -/
  | skipped (r : ScriptResult)
  /-- A shutdown had begun. -/
  | rejected
  | refused (e : SupportError)
  deriving DecidableEq

/-- Where a submission stands. -/
inductive SubmitStage where
  /-- A shutdown had begun; it is about to say so. -/
  | rejecting
  /-- It is about to ask for admission. -/
  | entering
  /-- It was not admitted and is about to say so. -/
  | skipping
  /-- It was admitted and is about to say so. -/
  | announcing
  /-- It is about to become a job. -/
  | spawning
  | returned (answer : SubmitAnswer)
  deriving DecidableEq

/-- A submission. -/
structure Submission where
  unit : ScriptUnit
  context : Context
  stage : SubmitStage
  deriving DecidableEq

/-- Whether a submission is in progress. No shutdown begins meanwhile. -/
def Submission.isActive (s : Submission) : Bool :=
  match s.stage with
  | .returned _ => false
  | _ => true

/-- Where a job stands. -/
inductive JobStage where
  /-- It waits for a place. -/
  | waiting
  /-- It has a place, and its unit runs. -/
  | running
  /-- Its outcome is known, after so many milliseconds, and its place given back; it is about to
  tell observers. -/
  | concluding (o : Outcome) (elapsed : Nat)
  /-- It is about to let the unit be admitted again. -/
  | releasing (o : Outcome) (elapsed : Nat)
  /-- It is about to send its result. -/
  | delivering (o : Outcome) (elapsed : Nat)
  /-- It has sent its result and is about to end. -/
  | leaving
  | ended
  /-- It vanished with all that runs. -/
  | lost
  deriving DecidableEq

/-- Where the thread of a job is. -/
inductive WorkerStage where
  | none
  | executing
  | done (o : Outcome)
  deriving DecidableEq

/-- A job. -/
structure Job where
  unit : ScriptUnit
  context : Context
  stage : JobStage
  worker : WorkerStage
  /-- How often its interpreter was started. -/
  runs : Nat
  /-- The outcomes that its interpreter returned to it. -/
  returned : List Outcome
  /-- The results it has sent. -/
  sent : List ScriptResult
  deriving DecidableEq

namespace Job

/-- A new job. -/
def new (unit : ScriptUnit) (context : Context) : Job := ⟨unit, context, .waiting, .none, 0, [], []⟩

/-- Whether the job is outstanding. -/
def isOutstanding (j : Job) : Bool :=
  match j.stage with
  | .ended | .lost => false
  | _ => true

/-- Whether the job has a place. -/
def hasPlace (j : Job) : Bool := j.stage = .running

/-- Whether the unit of the job counts as pending by it. -/
def isPending (j : Job) : Bool :=
  match j.stage with
  | .waiting | .running | .concluding _ _ | .releasing _ _ => true
  | _ => false

/-- Whether the script runs on its thread. -/
def isExecuting (j : Job) : Bool := j.worker = .executing

end Job

/-- How a shutdown treats the jobs: it lets them end, or asks them to stop. -/
inductive ShutdownMode where
  | drain | cancel
  deriving DecidableEq

/-- What a shutdown reports. -/
structure ShutdownReport where
  timedOut : Bool
  outstanding : Nat
  alreadyShutDown : Bool
  deriving DecidableEq

/-- Where a shutdown stands. -/
inductive ShutdownStage where
  /-- It waits for the submissions in progress. -/
  | entering
  /-- Nothing is let in any more. -/
  | flipped
  /-- It is about to ask the jobs to stop, if that is its mode. -/
  | signalling
  /-- It waits for the jobs. -/
  | draining
  /-- It closes the interpreters that are left. -/
  | closing (left : List Backend) (timedOut : Bool)
  | returned (report : ShutdownReport)
  deriving DecidableEq

/-- A shutdown. -/
structure Shutdown where
  mode : ShutdownMode
  stage : ShutdownStage
  deriving DecidableEq

/-- The script support. -/
structure Support where
  settings : SupportSettings
  /-- The interpreters that were registered, and how each runs a unit. -/
  engines : PerBackend (Option Engine)
  accepting : Bool
  /-- No job is added any more. -/
  trackerClosed : Bool
  /-- The jobs were asked to stop. -/
  cancelled : Bool
  /-- What runs was torn down; a job that is added vanishes. -/
  tornDown : Bool
  lanes : PerBackend Lane
  /-- The places that are free. -/
  free : Nat
  widgets : List Widget
  submissions : List Submission
  jobs : List Job
  shutdowns : List Shutdown
  /-- How often each interpreter was closed. -/
  closings : PerBackend Nat
  /-- What was told to observers. -/
  events : List Event

namespace Support

/-- A new support. -/
def ofSettings (settings : SupportSettings) (engines : PerBackend (Option Engine))
    (widgets : List Widget) : Support where
  settings
  engines
  accepting := true
  trackerClosed := false
  cancelled := false
  tornDown := false
  lanes := ⟨.empty, .empty⟩
  free := settings.poolSize
  widgets
  submissions := []
  jobs := []
  shutdowns := []
  closings := ⟨0, 0⟩
  events := []

/-- The kinds of interpreters that were registered. -/
def backends (s : Support) : List Backend :=
  [Backend.inProcess, Backend.gateway].filter fun b => (s.engines.get b).isSome

/-- The number of jobs that have not ended. -/
def outstanding (s : Support) : Nat := s.jobs.countP Job.isOutstanding

/-- Whether a unit has an execution that has not ended. -/
def isPending (s : Support) (u : ScriptUnit) : Bool := (s.lanes.get u.backend).contains u.id

/-- The kind of an interpreter for a log. -/
def backendLabel : Backend → String
  | .inProcess => "InProcess"
  | .gateway => "Gateway"

/-- The support for a log. -/
def describe (s : Support) : String :=
  s!"ScriptSupport \x7b pool_size: {s.settings.poolSize}, backends: [" ++
    ", ".intercalate (s.backends.map backendLabel) ++
    s!"], outstanding: {s.outstanding}, accepting: {s.accepting} \x7d"

/-- Whether no submission is in progress. -/
def isQuiet (s : Support) : Bool := s.submissions.all fun c => !c.isActive

/-- Put a submission at a stage. -/
def setSubmission (s : Support) (submission : Nat) (stage : SubmitStage) : Support :=
  match s.submissions[submission]? with
  | some c => { s with submissions := s.submissions.set submission { c with stage } }
  | none => s

/-- Replace a job. -/
def setJob (s : Support) (job : Nat) (j : Job) : Support := { s with jobs := s.jobs.set job j }

/-- Put a shutdown at a stage. -/
def setShutdown (s : Support) (shutdown : Nat) (stage : ShutdownStage) : Support :=
  match s.shutdowns[shutdown]? with
  | some c => { s with shutdowns := s.shutdowns.set shutdown { c with stage } }
  | none => s

/-- Replace the lane of a kind of interpreter. -/
def setLane (s : Support) (b : Backend) (l : Lane) : Support :=
  { s with lanes := s.lanes.set b l }

/-- Let a unit be admitted again. -/
def release (s : Support) (u : ScriptUnit) : Support :=
  s.setLane u.backend ((s.lanes.get u.backend).release u.id)

/-- Tell observers. -/
def tell (s : Support) (e : Event) : Support := { s with events := s.events ++ [e] }

/-- Write a property of a widget; a write that is refused changes nothing. -/
def writeWidget (s : Support) (slot : Nat) (name : String) (value : Json) : Support :=
  match s.widgets[slot]? with
  | some w => { s with widgets := s.widgets.set slot (w.trySetProperty name value) }
  | none => s

/-- Write several properties of a widget. -/
def writeWidgets (s : Support) (slot : Nat) (updates : List (String × Json)) : Support :=
  match s.widgets[slot]? with
  | some w => { s with widgets := s.widgets.set slot (w.applyUpdates updates) }
  | none => s

/-- The report of a submission or job about a unit and a widget. -/
def eventOf (kind : EventKind) (u : ScriptUnit) (c : Context) : Event :=
  ((Event.ofKind kind).withUnit u.id u.source).withWidget c.widget.name

@[simp] theorem jobs_tell (s : Support) (e : Event) : (s.tell e).jobs = s.jobs := rfl

@[simp] theorem lanes_tell (s : Support) (e : Event) : (s.tell e).lanes = s.lanes := rfl

@[simp] theorem outstanding_tell (s : Support) (e : Event) :
    (s.tell e).outstanding = s.outstanding := rfl

end Support

end PanelScript

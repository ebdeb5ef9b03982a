import PanelScript.Machine
import PanelScript.Support.Basic

/-!
# What happens in the script support

Submissions, jobs, the threads of scripts and shutdowns act one after the other, in any order. How
long something took, and what an interpreter makes of a unit, comes with the action.

* `SupportAction` lists the actions, `Support.step` says what they do;
* `Support.submit`, `Support.proceedSubmission` are the steps of a submission;
* `Support.start`, `finish`, `conclude`, `reply`, `abandon`, `proceedJob` are the steps of a job;
* `Support.proceedShutdown` and `expire` are the steps of a shutdown.
-/

namespace PanelScript

/-- What happens in the script support. -/
inductive SupportAction where
  /-- A unit is submitted. -/
  | submit (unit : ScriptUnit) (context : Context)
  /-- A submission takes its next step. -/
  | proceedSubmission (submission : Nat)
  /-- A job gets a place, and its interpreter begins. -/
  | start (job : Nat)
  /-- The script of a job writes a property. -/
  | write (job : Nat) (name : String) (value : Json)
  /-- The script of a job ends on its thread. -/
  | finish (job : Nat) (o : Outcome)
  /-- A job takes over the outcome of its thread. -/
  | conclude (job : Nat) (elapsed : Nat)
  /-- An interpreter that runs within the job returns, after it has written properties. -/
  | reply (job : Nat) (o : Outcome) (updates : List (String × Json)) (elapsed : Nat)
  /-- A job notices that it was asked to stop. -/
  | abandon (job : Nat) (elapsed : Nat)
  /-- A job whose outcome is known takes its next step. -/
  | proceedJob (job : Nat)
  /-- A shutdown begins. -/
  | shutdown (mode : ShutdownMode)
  /-- A shutdown takes its next step. -/
  | proceedShutdown (shutdown : Nat)
  /-- A shutdown has waited long enough. -/
  | expire (shutdown : Nat)
  /-- All that runs is torn down. -/
  | tearDown

namespace Support

/-! ### Submissions -/

/-- The first step of a submission: it is rejected once a shutdown has begun, and refused if the
number of values or the kind of the unit is wrong. -/
def admission (s : Support) (u : ScriptUnit) (c : Context) : SubmitStage :=
  if !s.accepting then .rejecting
  else if c.values.length ≠ u.inputs.length then
    .returned (.refused (.inputCountMismatch u.source u.inputs.length c.values.length))
  else if (s.engines.get u.backend).isNone then
    .returned (.refused (.backendUnavailable u.backend))
  else .entering

/-- A unit is submitted. -/
def submit (s : Support) (u : ScriptUnit) (c : Context) : Support :=
  { s with submissions := s.submissions ++ [⟨u, c, s.admission u c⟩] }

/-- An admitted submission becomes a job. If all was torn down, the job vanishes at once. -/
def spawn (s : Support) (u : ScriptUnit) (c : Context) : Support :=
  if s.tornDown then
    ({ s with jobs := s.jobs ++ [{ Job.new u c with stage := .lost }] } : Support).release u
  else { s with jobs := s.jobs ++ [.new u c] }

/-- A submission takes its next step. -/
def proceedSubmission (s : Support) (submission : Nat) : Option Support :=
  match s.submissions[submission]? with
  | some ⟨u, c, .rejecting⟩ =>
    some ((s.tell (eventOf .rejected u c)).setSubmission submission (.returned .rejected))
  | some ⟨u, _, .entering⟩ =>
    match (s.lanes.get u.backend).enter? u.id with
    | some l => some ((s.setLane u.backend l).setSubmission submission .announcing)
    | none => some (s.setSubmission submission .skipping)
  | some ⟨u, c, .skipping⟩ =>
    some ((s.tell (eventOf .skipped u c)).setSubmission submission
      (.returned (.skipped (.skipped u.id u.source))))
  | some ⟨u, c, .announcing⟩ =>
    some ((s.tell (eventOf .scheduled u c)).setSubmission submission .spawning)
  | some ⟨u, c, .spawning⟩ =>
    some ((s.spawn u c).setSubmission submission (.returned (.scheduled s.jobs.length)))
  | _ => none

/-! ### Jobs -/

/-- A job gets a place, and its interpreter begins. A job that was asked to stop gets none. -/
def start (s : Support) (job : Nat) : Option Support :=
  match s.jobs[job]? with
  | some j =>
    if j.stage = .waiting ∧ ¬ s.cancelled ∧ 0 < s.free then
      some <| { s with free := s.free - 1 }.setJob job { j with
        stage := .running
        runs := j.runs + 1
        worker := if s.engines.get j.unit.backend = some Engine.worker then .executing else .none }
    else none
  | none => none

/-- The script of a job writes a property. -/
def write (s : Support) (job : Nat) (name : String) (value : Json) : Option Support :=
  match s.jobs[job]? with
  | some j => if j.isExecuting then some (s.writeWidget j.context.widget.slot name value) else none
  | none => none

/-- The script of a job ends on its thread. -/
def finish (s : Support) (job : Nat) (o : Outcome) : Option Support :=
  match s.jobs[job]? with
  | some j => if j.isExecuting then some (s.setJob job { j with worker := .done o }) else none
  | none => none

/-- A running job takes over an outcome and gives its place back. -/
def takeOver (s : Support) (job : Nat) (j : Job) (o : Outcome) (elapsed : Nat) : Support :=
  { s with free := s.free + 1 }.setJob job { j with
    stage := .concluding o elapsed
    returned := j.returned ++ [o] }

/-- A job takes over the outcome of its thread, unless it was asked to stop. -/
def conclude (s : Support) (job : Nat) (elapsed : Nat) : Option Support :=
  match s.jobs[job]? with
  | some j =>
    match j.stage, j.worker, s.cancelled with
    | .running, .done o, false => some (s.takeOver job j o elapsed)
    | _, _, _ => none
  | none => none

/-- An interpreter that runs within the job returns, after it has written properties. -/
def reply (s : Support) (job : Nat) (o : Outcome) (updates : List (String × Json))
    (elapsed : Nat) : Option Support :=
  match s.jobs[job]? with
  | some j =>
    match j.stage, j.worker, s.cancelled with
    | .running, .none, false =>
      some ((s.writeWidgets j.context.widget.slot updates).takeOver job j o elapsed)
    | _, _, _ => none
  | none => none

/-- A job notices that it was asked to stop. Its thread, if it has one, goes on. -/
def abandon (s : Support) (job : Nat) (elapsed : Nat) : Option Support :=
  match s.jobs[job]? with
  | some j =>
    match j.stage, s.cancelled with
    | .waiting, true =>
      some (s.setJob job { j with stage := .concluding (.error .cancelled) elapsed })
    | .running, true =>
      some <| { s with free := s.free + 1 }.setJob job { j with
        stage := .concluding (.error .cancelled) elapsed }
    | _, _ => none
  | none => none

/-- A job whose outcome is known takes its next step: it tells observers, lets the unit be admitted
again, sends its result, and ends. -/
def proceedJob (s : Support) (job : Nat) : Option Support :=
  match s.jobs[job]? with
  | some j =>
    match j.stage with
    | .concluding o elapsed =>
      some ((s.tell (.ofOutcome j.unit.id j.unit.source j.context.widget.name o)).setJob job
        { j with stage := .releasing o elapsed })
    | .releasing o elapsed =>
      some ((s.release j.unit).setJob job { j with stage := .delivering o elapsed })
    | .delivering o elapsed =>
      some (s.setJob job { j with
        stage := .leaving
        sent := j.sent ++ [.ofOutcome j.unit.id j.unit.source elapsed o] })
    | .leaving => some (s.setJob job { j with stage := .ended })
    | _ => none
  | none => none

/-! ### Shutdowns -/

/-- A shutdown begins. -/
def beginShutdown (s : Support) (mode : ShutdownMode) : Support :=
  { s with shutdowns := s.shutdowns ++ [⟨mode, .entering⟩] }

/-- A shutdown takes its next step. Only the first lets nothing in any more; it waits until no
submission is in progress. -/
def proceedShutdown (s : Support) (shutdown : Nat) : Option Support :=
  match s.shutdowns[shutdown]? with
  | some ⟨_, .entering⟩ =>
    if ¬ s.isQuiet then none
    else if s.accepting then
      some ({ s with accepting := false }.setShutdown shutdown .flipped)
    else some (s.setShutdown shutdown (.returned ⟨false, s.outstanding, true⟩))
  | some ⟨_, .flipped⟩ => some ({ s with trackerClosed := true }.setShutdown shutdown .signalling)
  | some ⟨mode, .signalling⟩ =>
    let cancelled := s.cancelled || decide (mode = ShutdownMode.cancel)
    some ({ s with cancelled }.setShutdown shutdown .draining)
  | some ⟨_, .draining⟩ =>
    if s.outstanding = 0 then some (s.setShutdown shutdown (.closing s.backends false)) else none
  | some ⟨_, .closing (b :: left) timedOut⟩ =>
    some ({ s with closings := s.closings.set b (s.closings.get b + 1) }.setShutdown shutdown
      (.closing left timedOut))
  | some ⟨_, .closing [] timedOut⟩ =>
    some (s.setShutdown shutdown (.returned ⟨timedOut, s.outstanding, false⟩))
  | _ => none

/-- A shutdown has waited long enough; it asks the jobs to stop and waits no longer. -/
def expire (s : Support) (shutdown : Nat) : Option Support :=
  match s.shutdowns[shutdown]? with
  | some ⟨_, .draining⟩ =>
    if s.outstanding = 0 then none
    else some ({ s with cancelled := true }.setShutdown shutdown (.closing s.backends true))
  | _ => none

/-! ### Teardown -/

/-- A job vanishes. -/
def vanish (s : Support) (job : Nat) : Support :=
  match s.jobs[job]? with
  | some j =>
    if j.isOutstanding then
      let freed : Support := if j.hasPlace then { s with free := s.free + 1 } else s
      (if j.isPending then freed.release j.unit else freed).setJob job { j with stage := .lost }
    else s
  | none => s

/-- All that runs is torn down: every job vanishes, without a result. -/
def tearDown (s : Support) : Support :=
  (List.range s.jobs.length).foldl vanish { s with tornDown := true }

/-- What an action does; none if it cannot be taken. -/
def step (a : SupportAction) (s : Support) : Option Support :=
  match a with
  | .submit unit context => some (s.submit unit context)
  | .proceedSubmission submission => s.proceedSubmission submission
  | .start job => s.start job
  | .write job name value => s.write job name value
  | .finish job o => s.finish job o
  | .conclude job elapsed => s.conclude job elapsed
  | .reply job o updates elapsed => s.reply job o updates elapsed
  | .abandon job elapsed => s.abandon job elapsed
  | .proceedJob job => s.proceedJob job
  | .shutdown mode => some (s.beginShutdown mode)
  | .proceedShutdown shutdown => s.proceedShutdown shutdown
  | .expire shutdown => s.expire shutdown
  | .tearDown => some s.tearDown

/-- The states that a new support can come to. -/
def Reachable (settings : SupportSettings) (engines : PerBackend (Option Engine))
    (widgets : List Widget) (s : Support) : Prop :=
  Machine.Reaches step (ofSettings settings engines widgets) s

end Support

end PanelScript

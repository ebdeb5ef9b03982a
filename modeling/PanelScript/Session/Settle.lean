import PanelScript.Proofs.Session.Effort

/-!
# Letting a session run

A session is let run until every job has ended, waits at a gate, or waits for a place, and every
call is over or waits for a reply that is held back. Those who wait are served in the order in which
they came; time goes by only when nothing else can happen. Somebody who waits for a result lets time
go by for every call, until the result is there.

* `Session.wishes` lists what could happen next, and `nears_of_wish` says that each of it leaves
  less to be done;
* `Session.patient` and `Session.awaiting` are the schedulers that let a session run, `settle` and
  `await` let them do so;
* `Session.doing` takes one action and lets the session run;
* `Session.submit`, `Session.shutDown`, `Session.call` and `Session.runDirectly` are what callers
  do.
-/

namespace PanelScript

namespace Session

/-- What could happen to a job. -/
def jobWishes (s : Session) (job : Nat) : List SessionAction :=
  match s.support.jobs[job]? with
  | some j =>
    if j.isOutstanding ∨ j.isExecuting then
      [.abandon job, .proceedJob job, .answer job, .conclude job, .act job, .begin job]
    else []
  | none => []

/-- The numbers of the members with some property. -/
def indices {α : Type} (l : List α) (p : α → Bool) : List Nat :=
  (l.zipIdx.filter fun (a, _) => p a).map Prod.snd

/-- What could happen next, most wanted first. -/
def wishes (s : Session) : List SessionAction :=
  let calls := indices s.link.calls LinkCall.isActive
  (indices s.support.submissions Submission.isActive).map .proceedSubmission ++
    (List.range s.support.jobs.length).flatMap s.jobWishes ++
    calls.map .proceedCall ++
    (indices s.requests fun r => !r.answered).map .serve ++
    (List.range s.link.closers.length).map .sweep ++
    (List.range s.support.shutdowns.length).map .proceedShutdown ++
    calls.map .elapse

/-- Whatever could happen leaves less to be done. -/
theorem nears_of_wish {o : Outside} {a : SessionAction} {s t : Session} (ha : a ∈ s.wishes)
    (h : step o a s = some t) : Nears s t := by
  simp only [wishes, List.mem_append, List.mem_map, List.mem_flatMap] at ha
  rcases ha with (((((⟨n, -, rfl⟩ | ⟨job, -, ha⟩) | ⟨n, -, rfl⟩) | ⟨n, -, rfl⟩) | ⟨n, -, rfl⟩) |
    ⟨n, -, rfl⟩) | ⟨n, -, rfl⟩
  · exact nears_of_support h fun _ hp => Support.effort_of_submission hp _
  · unfold jobWishes at ha
    split at ha
    · split at ha
      · simp only [List.mem_cons, List.not_mem_nil, or_false] at ha
        rcases ha with rfl | rfl | rfl | rfl | rfl | rfl
        · exact nears_of_abandon h
        · exact nears_of_support h fun _ hp =>
            Support.effort_of_concludes (a := .proceedJob job) hp rfl _
        · exact nears_of_answer h
        · exact nears_of_support h fun _ hp =>
            Support.effort_of_concludes (a := .conclude job 0) hp rfl _
        · exact nears_of_act h
        · exact nears_of_begin h
      · cases ha
    · cases ha
  · exact (advances_of_proceedCall h).nears
  · exact nears_of_serve h
  · exact nears_of_sweep h
  · exact nears_of_proceedShutdown h
  · exact (advances_of_elapse h).nears

/-- Whether a call waits for a reply that the gateway holds back until a gate is open. -/
def isHeldBack (o : Outside) (s : Session) (call : Nat) : Bool :=
  match s.link.calls[call]? with
  | some ⟨request, _, .receiving _ _, _⟩ =>
    (s.requests.zipIdx).any fun (r, i) =>
      r.request.callId = request.callId && !r.answered &&
        !(o.reply i r.request).gate.all s.isOpen
  | _ => false

/-- Whether it is time for something to happen: the time of a call does not go by while its reply is
held back. -/
def isTimely (o : Outside) (s : Session) : SessionAction → Bool
  | .elapse call => !isHeldBack o s call
  | _ => true

/-- Nobody waits for anything. -/
def patient (o : Outside) : Machine.Scheduler (step o) (Nat × Nat × Nat) where
  wishes s := s.wishes.filter (isTimely o s)
  left := left
  lowers ha h := nears_of_wish (List.mem_filter.1 ha).1 h

/-- Whether the holder of a handle has nothing to wait for. -/
def isReady (s : Session) (handle : Nat) : Bool :=
  match (s.runs[handle]?).bind Run.handle with
  | some h => h.delivery ≠ .pending
  | none => true

/-- Somebody waits for the result of a job. -/
def awaiting (o : Outside) (handle : Nat) : Machine.Scheduler (step o) (Nat × Nat × Nat) where
  wishes s := if s.isReady handle then [] else s.wishes
  left := left
  lowers {a s t} ha h := by
    split at ha
    · cases ha
    · exact nears_of_wish ha h

/-- Let a session run until it stands still. -/
def settle (o : Outside) (s : Session) : Session := (patient o).exhaust s

/-- Let a session run until there is a result to be read, or nothing can happen any more. -/
def await (o : Outside) (s : Session) (handle : Nat) : Session := (awaiting o handle).exhaust s

/-- Take an action, if it can be taken, and let the session run. -/
def doing (o : Outside) (s : Session) (a : SessionAction) : Session :=
  settle o ((step o a s).getD s)

/-- The answer to a submission that has returned. -/
def submitAnswer? (s : Session) (submission : Nat) : Option SubmitAnswer :=
  match s.support.submissions[submission]? with
  | some ⟨_, _, .returned a⟩ => some a
  | _ => none

/-- Submit a unit and let the session run: what the submission was answered. -/
def submit (o : Outside) (s : Session) (u : ScriptUnit) (c : Context) :
    Option SubmitAnswer × Session :=
  let t := s.doing o (.submit u c)
  (t.submitAnswer? s.support.submissions.length, t)

/-- Submit what a watcher has taken last, and let the session run; none if it has taken nothing. -/
def submitTaken (o : Outside) (s : Session) (a : SessionAction) : Option SubmitAnswer × Session :=
  match step o a s with
  | none => (none, s)
  | some t =>
    if t.taken.length = s.taken.length then (none, t)
    else
      let t := t.doing o (.handIn s.taken.length)
      (t.submitAnswer? s.support.submissions.length, t)

/-- Submit a unit several times at once: how many submissions became jobs, and how many were
skipped. -/
def race (o : Outside) (s : Session) (u : ScriptUnit) (c : Context) (times : Nat) :
    Nat × Nat × Session :=
  let t := settle o <| (List.range times).foldl (fun s _ => (step o (.submit u c) s).getD s) s
  let answers := (List.range times).filterMap fun i =>
    t.submitAnswer? (s.support.submissions.length + i)
  let scheduled := answers.countP fun
    | .scheduled _ => true
    | _ => false
  let skipped := answers.countP fun
    | .skipped _ => true
    | _ => false
  (scheduled, skipped, t)

/-- The report of a shutdown that has returned. -/
def report? (s : Session) (shutdown : Nat) : Option ShutdownReport :=
  match s.support.shutdowns[shutdown]? with
  | some ⟨_, .returned r⟩ => some r
  | _ => none

/-- Wait for a shutdown. If it does not return by itself, its time runs out. -/
def awaitShutdown (o : Outside) (s : Session) (shutdown : Nat) : Option ShutdownReport × Session :=
  match s.report? shutdown with
  | some r => (some r, s)
  | none =>
    let t := s.doing o (.expire shutdown)
    (t.report? shutdown, t)

/-- Shut the support down and wait for the report. -/
def shutDown (o : Outside) (s : Session) (mode : ShutdownMode) :
    Option ShutdownReport × Session :=
  (s.doing o (.shutdown mode)).awaitShutdown o s.support.shutdowns.length

/-- Call the gateway outside of any job: the verdict. -/
def call (o : Outside) (s : Session) (path : String) (b : Bindings) : Option Verdict × Session :=
  let t := s.doing o (.invoke (s.requestFor path b))
  (t.link.verdict? s.link.calls.length, t)

/-- Write properties of a widget. -/
def writeWidget (s : Session) (slot : Nat) (updates : List (String × Json)) : Session :=
  { s with support := s.support.writeWidgets slot updates }

/-- Put up another watcher. -/
def addWatcher (s : Session) (w : Watcher) : Session := { s with watchers := s.watchers ++ [w] }

/-- Run a unit on an interpreter without the support: the outcome, unless the script waits at a
gate. -/
def runDirectly (o : Outside) (s : Session) (interpreter : Interpreter) (u : ScriptUnit)
    (c : Context) : Option Outcome × Session :=
  let b := Bindings.bind u.inputs c
  match interpreter, u.payload with
  | .embedded, .program script =>
    let (ending, w) := Program.run s.isOpen b (s.widget c.widget) none script
    (ending.map Ending.outcome,
      { s with support := { s.support with widgets := s.support.widgets.set c.widget.slot w } })
  | .embedded, .file _ => (some (.error (.script s!"{u.describe} is not an in-process unit")), s)
  | .crashing message, _ => (some (.error (.panicked message)), s)
  | .remote, .file path =>
    let (verdict, t) := s.call o path b
    match verdict with
    | some v => (some (Verdict.answer v).1, t.writeWidget c.widget.slot (Verdict.answer v).2)
    | none => (none, t)
  | .remote, .program _ => (some (.error (.script s!"{u.describe} is not a gateway unit")), s)

/-! ### Handles -/

/-- Look at a handle, and put it back as the look leaves it. -/
def look {α : Type} (s : Session) (handle : Nat) (f : Handle → α × Handle) : Option α × Session :=
  match (s.runs[handle]?).bind Run.handle with
  | some h => (some (f h).1, s.setRun handle fun r => { r with handle := some (f h).2 })
  | none => (none, s)

/-- Take the result of a job if it is there. -/
def tryResult (s : Session) (handle : Nat) : Option ScriptResult × Session :=
  let (r, t) := s.look handle Handle.tryResult
  (r.join, t)

/-- Look once while waiting for the result of a job. -/
def awaitResult (s : Session) (handle : Nat) : Reading × Session :=
  let (r, t) := s.look handle Handle.await
  (r.getD .waiting, t)

/-- Drop a handle. -/
def dropHandle (s : Session) (handle : Nat) : Session :=
  s.setRun handle fun r => { r with handle := none }

/-- Give a handle away for the result of its job, and wait for it. -/
def redeem (o : Outside) (s : Session) (handle : Nat) : Reading × Session :=
  let (r, t) := (await o s handle).awaitResult handle
  (r, t.dropHandle handle)

/-- A session that is let run takes only actions that can be taken. -/
theorem reachable_settle (o : Outside) (s : Session) : Reachable o s (settle o s) :=
  (patient o).reaches_exhaust s

end Session

end PanelScript

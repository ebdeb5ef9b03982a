import PanelScript.Session.Basic

/-!
# What happens in a session

The actions of the support and of the link, tied together: a job whose interpreter is behind the
gateway begins a call and takes over its verdict, a script moves action by action, and a shutdown
closes the link.

* `SessionAction` lists the actions, `Session.step` says what they do;
* `Session.begin`, `Session.act`, `Session.answer`, `Session.abandon` are the steps of a run;
* `Session.serve` is what the gateway does about a request;
* `Session.Reachable` are the sessions that can be come to.
-/

namespace PanelScript

/-- What happens in a session. -/
inductive SessionAction where
  /-- A unit is submitted. -/
  | submit (unit : ScriptUnit) (context : Context)
  /-- A watcher takes in a value; if that runs the script, what the run is given is taken. -/
  | change (watcher index : Nat) (value : LiveValue) (now : Timestamp)
  /-- A watcher is asked to run the script; what the run is given is taken. -/
  | request (watcher : Nat) (now : Timestamp)
  /-- What was taken is submitted. -/
  | handIn (index : Nat)
  | proceedSubmission (submission : Nat)
  /-- A job gets a place, and its interpreter begins. -/
  | begin (job : Nat)
  /-- The script of a job takes its next action. -/
  | act (job : Nat)
  /-- A job takes over the outcome of its thread. -/
  | conclude (job : Nat)
  /-- A job takes over what its interpreter answers. -/
  | answer (job : Nat)
  /-- A job notices that it was asked to stop. -/
  | abandon (job : Nat)
  | proceedJob (job : Nat)
  | shutdown (mode : ShutdownMode)
  | proceedShutdown (shutdown : Nat)
  | expire (shutdown : Nat)
  | tearDown
  | openGate (gate : String)
  | closeGate (gate : String)
  /-- A call begins that no job waits for. -/
  | invoke (request : InvokeRequest)
  /-- A call takes its next step. -/
  | proceedCall (call : Nat)
  /-- The time that a process was given for a call is over, or the time of the call is. -/
  | elapse (call : Nat)
  /-- The gateway does what it does about a request. -/
  | serve (request : Nat)
  | closeLink
  | sweep (closer : Nat)
  /-- Something happens on the link that nobody in the session does. -/
  | happen (a : LinkAction)

/-- Whether an action can happen without anybody in the session: in the network or in the gateway,
to the process, or because the time of a call is over. -/
def LinkAction.isForeign : LinkAction → Bool
  | .invoke _ | .abandon _ none | .close => false
  | _ => true

namespace Session

/-! ### Runs -/

/-- A job gets a place, and its interpreter begins: a script on its thread, or a call of the
gateway. -/
def begin (s : Session) (job : Nat) : Option Session := do
  let p ← s.support.start job
  let j ← s.support.jobs[job]?
  let t := s.withSupport p
  match s.interpreters.get j.unit.backend, j.unit.payload with
  | some .embedded, .program script =>
    some (t.setRun job fun r => { r with thread := some ⟨script, none⟩ })
  | some .remote, .file path =>
    let request := s.requestFor path (s.bindings j.unit j.context)
    some ((t.withLink (s.link.invoke request)).setRun job fun r =>
      { r with call := some s.link.calls.length })
  | _, _ => some t

/-- The script of a job takes its next action. -/
def act (s : Session) (job : Nat) : Option Session := do
  let j ← s.support.jobs[job]?
  let thread ← (s.runs[job]?).bind Run.thread
  let goOn (t : Session) (thread : Option Thread) : Session :=
    t.setRun job fun r => { r with thread }
  match thread.rest with
  | [] => (s.support.finish job (.ok thread.value)).map fun p => goOn (s.withSupport p) none
  | action :: rest =>
    match Program.move s.isOpen (s.bindings j.unit j.context) (s.widget j.context.widget)
        thread.value action with
    | .yields value => some (goOn s (some ⟨rest, value⟩))
    | .writes name value =>
      (s.support.write job name value).map fun p =>
        goOn (s.withSupport p) (some ⟨rest, thread.value⟩)
    | .waits => none
    | .ends ending =>
      (s.support.finish job ending.outcome).map fun p => goOn (s.withSupport p) none

/-- What the interpreter of a running job answers, if it has: the verdict of the call, or the panic
of an interpreter that crashes. -/
def answer? (s : Session) (job : Nat) : Option (Outcome × List (String × Json)) := do
  let j ← s.support.jobs[job]?
  match s.interpreters.get j.unit.backend with
  | some (.crashing message) => some (.error (.panicked message), [])
  | some .remote => do
    let call ← s.callOf? job
    let verdict ← s.link.verdict? call
    some (Verdict.answer verdict)
  | _ => none

/-- A job takes over what its interpreter answers. -/
def answer (s : Session) (job : Nat) : Option Session := do
  let (outcome, updates) ← s.answer? job
  let p ← s.support.reply job outcome updates 0
  some (s.withSupport p)

/-- A job notices that it was asked to stop; nobody waits for its call any more. -/
def abandon (s : Session) (job : Nat) : Option Session := do
  let p ← s.support.abandon job 0
  let t := s.withSupport p
  match s.callOf? job with
  | none => some t
  | some call =>
    if s.link.isFinished call then some t
    else (s.link.abandon call none).map t.withLink

/-! ### Shutdowns -/

/-- A shutdown takes its next step. The interpreter behind the gateway is closed by closing the
link. -/
def proceedShutdown (s : Session) (shutdown : Nat) : Option Session :=
  match s.support.shutdowns[shutdown]? with
  | some ⟨_, .closing (.gateway :: _) _⟩ =>
    match s.closer with
    | none =>
      some { s.withLink s.link.beginClose with closer := some s.link.closers.length }
    | some closer =>
      match s.link.closers[closer]? with
      | some .returned => (s.support.proceedShutdown shutdown).map s.withSupport
      | _ => none
  | _ => (s.support.proceedShutdown shutdown).map s.withSupport

/-! ### Calls -/

/-- A call looks after the process of the gateway. -/
def launch (o : Outside) (s : Session) (call : Nat) : Option Session := do
  let c ← s.link.calls[call]?
  let launcher ← s.link.launcher
  let l ← s.link.launch call ((o.start call c.attempt launcher.command).map fun _ => ())
  some (s.withLink l)

/-- A call opens a connection. -/
def connect (o : Outside) (s : Session) (call : Nat) : Option Session := do
  let c ← s.link.calls[call]?
  let l ← s.link.connect call (o.open call c.attempt s.link.settings.url)
  some (s.withLink l)

/-- A call writes its request. If it is written, the gateway has it. -/
def write (o : Outside) (s : Session) (call : Nat) : Option Session := do
  let c ← s.link.calls[call]?
  let outcome := o.send call c.attempt
  let l ← s.link.write call outcome
  match outcome, c.stage with
  | .ok _, .sending _ connection =>
    some { s.withLink l with requests := s.requests ++ [⟨connection, c.request, false⟩] }
  | _, _ => some (s.withLink l)

/-- A call takes its next step, whatever that depends on. -/
def proceedCall (o : Outside) (s : Session) (call : Nat) : Option Session :=
  match s.link.stage? call with
  | some .launching =>
    if s.link.launcher.isNone then (s.link.proceed call).map s.withLink else launch o s call
  | some (.connecting _) => connect o s call
  | some (.sending _ _) => write o s call
  | some (.receiving _ _) => (s.link.read call).map s.withLink
  | some (.hangingUp _ _ _) => (s.link.hangUp call).map s.withLink
  | _ => (s.link.proceed call).map s.withLink

/-- The gateway does what it does about a request, once the gate is open. -/
def serve (o : Outside) (s : Session) (request : Nat) : Option Session := do
  let r ← s.requests[request]?
  let reply := o.reply request r.request
  if r.answered ∨ ¬ reply.gate.all s.isOpen then none
  else
    let l := reply.arrivals.foldl (fun l a => (l.arrive r.connection a).getD l) s.link
    some { s.withLink l with requests := s.requests.set request { r with answered := true } }

/-- A process that was started for an attempt of a call has ended if it runs no longer than it is
given to come up. -/
def settleProcess (o : Outside) (l : Link) (call attempt : Nat) : Link :=
  match l.launcher with
  | some launcher =>
    match o.start call attempt launcher.command with
    | .ok lifetime =>
      if lifetime ≤ l.settings.startupDelay then { l with launcher := some launcher.exitHeld }
      else l
    | .error _ => l
  | none => l

/-- Time goes by: a process has come up for a call, or the call has taken too long. -/
def elapse (o : Outside) (s : Session) (call : Nat) : Option Session := do
  let c ← s.link.calls[call]?
  let limit := s.link.settings.callTimeout
  match c.stage with
  | .starting =>
    let waited := s.waitedBy call + s.link.settings.startupDelay
    if waited < limit then do
      let l ← s.link.comeUp call
      some { s.withLink (settleProcess o l call c.attempt) with
        waited := (call, waited) :: s.waited }
    else (s.link.abandon call (some limit)).map s.withLink
  | .receiving _ _ => (s.link.abandon call (some limit)).map s.withLink
  | _ => none

/-! ### All actions -/

/-- Change a watcher, and keep what it takes. -/
def watch (s : Session) (watcher : Nat) (f : Watcher → Option Context × Watcher) :
    Option Session := do
  let w ← s.watchers[watcher]?
  let (taken, w') := f w
  some { s with
    watchers := s.watchers.set watcher w'
    taken := s.taken ++ (taken.map fun c => (w.unit, c)).toList }

/-- What was taken is submitted. -/
def handIn (s : Session) (index : Nat) : Option Session := do
  let (u, c) ← s.taken[index]?
  some { s.withSupport (s.support.submit u c) with taken := s.taken.eraseIdx index }

/-- What an action does; none if it cannot be taken. -/
def step (o : Outside) (a : SessionAction) (s : Session) : Option Session :=
  match a with
  | .submit u c => some (s.withSupport (s.support.submit u c))
  | .change watcher index value now => s.watch watcher fun w => w.change index value now
  | .request watcher now => s.watch watcher fun w => (some (w.request now), w)
  | .handIn index => s.handIn index
  | .proceedSubmission submission => (s.support.proceedSubmission submission).map s.withSupport
  | .begin job => s.begin job
  | .act job => s.act job
  | .conclude job => (s.support.conclude job 0).map s.withSupport
  | .answer job => s.answer job
  | .abandon job => s.abandon job
  | .proceedJob job => (s.support.proceedJob job).map s.withSupport
  | .shutdown mode => some (s.withSupport (s.support.beginShutdown mode))
  | .proceedShutdown shutdown => s.proceedShutdown shutdown
  | .expire shutdown => (s.support.expire shutdown).map s.withSupport
  | .tearDown => some (s.withSupport s.support.tearDown)
  | .openGate gate => some { s with gates := gate :: s.gates }
  | .closeGate gate => some { s with gates := s.gates.filter (· ≠ gate) }
  | .invoke request => some (s.withLink (s.link.invoke request))
  | .proceedCall call => proceedCall o s call
  | .elapse call => elapse o s call
  | .serve request => serve o s request
  | .closeLink => some (s.withLink s.link.beginClose)
  | .sweep closer => (s.link.sweep closer).map s.withLink
  | .happen a => if a.isForeign then (Link.step a s.link).map s.withLink else none

/-- A session can be come to from another. -/
def Reachable (o : Outside) : Session → Session → Prop := Machine.Reaches (step o)

end Session

end PanelScript

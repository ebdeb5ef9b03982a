import PanelScript.Gateway.Address
import PanelScript.Gateway.Link.Step
import PanelScript.Support.Handle
import PanelScript.Support.Step
import PanelScript.Watcher

/-!
# Sessions

In a session the script support, the scripts that it runs, the link to the gateway and those who
submit scripts come together.

* `Outside` is what a session depends on: the process, the network and the gateway;
* `Interpreter` is what runs the units of a kind;
* `Run` is what the session keeps for a job: its handle, its script or its call;
* `Session` is the session, `Session.start` a new one.
-/

namespace PanelScript

/-- What the gateway does about a request: what it sends, once a gate is open. -/
structure Reply where
  gate : Option String
  arrivals : List Arrival
  deriving DecidableEq

/-- What a session depends on. What becomes of an attempt of a call is told by the number of the
call and that of the attempt. -/
structure Outside where
  /-- How long, in milliseconds, the process runs that is started for a call, or why there is
  none. -/
  start : (call attempt : Nat) → Command → Except String Nat
  /-- Whether a connection to an address is opened for a call. -/
  connect : (call attempt : Nat) → Address → Except String Unit
  /-- Whether the request of a call is written. -/
  send : (call attempt : Nat) → Except String Unit
  /-- What the gateway does about its requests, by their number. -/
  reply : Nat → InvokeRequest → Reply

/-- Whether a connection to what a text names is opened for a call. -/
def Outside.open (o : Outside) (call attempt : Nat) (url : String) : Except String Unit :=
  match Address.ofText url with
  | .ok a => o.connect call attempt a
  | .error e => .error e.message

/-- What runs the units of a kind. -/
inductive Interpreter where
  /-- An interpreter inside the program, which runs each script on a thread. -/
  | embedded
  /-- An interpreter inside the program that panics instead of running a script. -/
  | crashing (message : String)
  /-- The interpreter behind the gateway. -/
  | remote
  deriving DecidableEq

namespace Interpreter

/-- The kind of units that an interpreter runs. -/
def backend : Interpreter → Backend
  | .embedded | .crashing _ => .inProcess
  | .remote => .gateway

/-- How an interpreter runs a unit. -/
def engine : Interpreter → Engine
  | .embedded => .worker
  | .crashing _ | .remote => .inline

/-- The interpreters by kind; of those of one kind the last counts. -/
def register (interpreters : List Interpreter) : PerBackend (Option Interpreter) :=
  interpreters.foldl (fun p i => p.set i.backend (some i)) ⟨none, none⟩

end Interpreter

/-- A script on its thread: the actions that are left, and the value so far. -/
structure Thread where
  rest : Program
  value : Option Json
  deriving DecidableEq

/-- What the session keeps for a job. -/
structure Run where
  /-- The handle, unless its holder has dropped it. -/
  handle : Option Handle
  thread : Option Thread
  /-- The call of the gateway that the job waits for. -/
  call : Option Nat
  deriving DecidableEq

namespace Run

/-- What is kept for a new job. -/
def new (j : Job) : Run := ⟨some (.new j.unit.id j.unit.source), none, none⟩

/-- The handle learns what has become of the job. -/
def hear (r : Run) (j : Job) : Run :=
  match j.sent, j.stage with
  | result :: _, _ => { r with handle := r.handle.map (·.deliver result) }
  | [], .lost => { r with handle := r.handle.map Handle.abandon }
  | _, _ => r

end Run

/-- A request that was written. -/
structure WrittenRequest where
  connection : Nat
  request : InvokeRequest
  /-- The gateway has done what it does about it. -/
  answered : Bool
  deriving DecidableEq

/-- A session. -/
structure Session where
  interpreters : PerBackend (Option Interpreter)
  support : Support
  link : Link
  /-- What is kept for each job. -/
  runs : List Run
  /-- How long calls have waited for a process to come up, in milliseconds. -/
  waited : List (Nat × Nat)
  requests : List WrittenRequest
  /-- The attempt to close the link that a shutdown waits for. -/
  closer : Option Nat
  /-- The gates that are open. -/
  gates : List String
  watchers : List Watcher
  /-- What watchers have asked for and was not submitted yet. -/
  taken : List (ScriptUnit × Context)
  /-- What was told to observers. -/
  log : List Event

namespace Session

/-- A new session. -/
def start (settings : SupportSettings) (gateway : GatewaySettings)
    (interpreters : List Interpreter) (widgets : List Widget) : Session :=
  let registered := Interpreter.register interpreters
  { interpreters := registered
    support := .ofSettings settings
      ⟨registered.inProcess.map Interpreter.engine, registered.gateway.map Interpreter.engine⟩
      widgets
    link := .ofSettings gateway
    runs := []
    waited := []
    requests := []
    closer := none
    gates := []
    watchers := []
    taken := []
    log := [] }

/-- The support has moved: its events are told, and handles learn of their jobs. -/
def withSupport (s : Session) (p : Support) : Session :=
  { s with
    support := p
    runs := List.zipWith Run.hear (s.runs ++ (p.jobs.drop s.runs.length).map Run.new) p.jobs
    log := s.log ++ p.events.drop s.support.events.length }

/-- The link has moved: its events are told. -/
def withLink (s : Session) (l : Link) : Session :=
  { s with link := l, log := s.log ++ l.events.drop s.link.events.length }

/-- Whether a gate is open. -/
def isOpen (s : Session) (gate : String) : Bool := gate ∈ s.gates

/-- A widget of the panel, as scripts and submitters hold it. -/
def handleOf (s : Session) (slot : Nat) : WidgetHandle :=
  match s.support.widgets[slot]? with
  | some w => ⟨slot, w.name, w.type⟩
  | none => ⟨slot, "", ""⟩

/-- A widget as it is now. -/
def widget (s : Session) (h : WidgetHandle) : Widget :=
  (s.support.widgets[h.slot]?).getD ⟨h.name, h.type, []⟩

/-- What the run of a unit sees. -/
def bindings (s : Session) (u : ScriptUnit) (c : Context) : Bindings :=
  { Bindings.bind u.inputs c with isCancelled := s.support.cancelled }

/-- The request to run a file with the given bindings. -/
def requestFor (s : Session) (path : String) (b : Bindings) : InvokeRequest :=
  .ofBindings (.nth (2 * s.link.calls.length + 1)) (.nth (2 * s.link.calls.length + 2)) path b

/-- Change what is kept for a job. -/
def setRun (s : Session) (job : Nat) (f : Run → Run) : Session :=
  match s.runs[job]? with
  | some r => { s with runs := s.runs.set job (f r) }
  | none => s

/-- The call of the gateway that a job waits for. -/
def callOf? (s : Session) (job : Nat) : Option Nat := (s.runs[job]?).bind Run.call

/-- How long a call has waited for a process to come up. -/
def waitedBy (s : Session) (call : Nat) : Nat := (s.waited.lookup call).getD 0

end Session

end PanelScript

import PanelScript.EnvironmentFile
import PanelScript.Preferences.Service
import PanelScript.Runner.Report
import PanelScript.Session.Settle

/-!
# Running a script from the command line

The command compiles a script, binds the inputs that it is given to a widget of its own, runs the
script once behind the gateway and prints the result and the properties of the widget. Whatever
happens, the support is shut down.

* `Runner.prepare` takes arguments and settings from the command line and the environment;
* `Runner.runOnce` compiles, binds and runs the script;
* `Runner.run` does all of it;
* `Runner.variableNames` and `Runner.pathsOf` are the variables and files that it looks at.
-/

namespace PanelScript.Runner

/-- Where the command is run. -/
structure Site where
  files : FileTree
  outside : Outside
  environment : Environment
  processors : Nat
  now : Timestamp

/-- What a run needs to begin. -/
structure Preparation where
  arguments : Arguments
  gateway : GatewaySettings
  support : SupportSettings
  deriving DecidableEq

/-- The preferences that are loaded from a file. -/
def preferencesOf (files : FileTree) (path : String) : Preferences :=
  let source : LoadSource := match files.read path with
    | .ok text => .ofText text
    | .error _ => .unreadable
  (({} : PreferenceService).load.finish 0 source).get

/-- The preferences: those of the file that the environment names, else the defaults. -/
def preferences (files : FileTree) (env : Environment) : Preferences :=
  match env.get? "SCRIPT_PREFERENCES" with
  | some path => preferencesOf files path
  | none => .default

/-- Arguments and settings from the command line and the environment. -/
def prepare (p : Site) (words : List String) : Except RunnerError Preparation := do
  let env ← (EnvironmentFile.load p.files p.environment).mapError .unsettable
  let arguments ← (Arguments.parse words).mapError .usage
  let gateway ← (GatewaySettings.ofEnvironment env).mapError .setting
  gateway.capacity.mapError .capacity
  let support ← (SupportSettings.ofEnvironment p.processors env).mapError .setting
  support.capacity.mapError .capacity
  .ok ⟨arguments, gateway.withPythonPath (preferences p.files env).searchPath?, support⟩

/-- The names of the variables that settings come from. -/
def variableNames : List String :=
  ["GATEWAY_WS_URL", "GATEWAY_POOL_SIZE", "GATEWAY_CALL_TIMEOUT_MS", "GATEWAY_STARTUP_DELAY_MS",
    "GATEWAY_COMMAND", "SCRIPT_POOL_SIZE", "SCRIPT_DRAIN_TIMEOUT_MS", "SCRIPT_PREFERENCES"]

/-- The paths of the files that a run looks at, once the variables are supplied. -/
def pathsOf (env : Environment) (words : List String) : List String :=
  let script := match Arguments.parse words with
    | .ok a => (Macro.expand (fun name => a.macroTable.lookup name) a.script).toOption
    | .error _ => none
  (env.get? "SCRIPT_PREFERENCES").toList ++ script.toList

/-- The widget of a run, with the properties of the command line. -/
def widgetOf (a : Arguments) : Widget := .ofProperties "runner" "label" a.properties

/-- The session of a run. -/
def sessionOf (r : Preparation) : Session :=
  .start r.support r.gateway [.embedded, .remote] [widgetOf r.arguments]

/-- The inputs of the script; none of them runs it. -/
def inputsOf (a : Arguments) : List WatchedInput := a.inputs.map fun (name, _) => ⟨name, false⟩

/-- Compile the script. -/
def compile (p : Site) (a : Arguments) : Except RunnerError ScriptUnit :=
  ((Compiler.ofNext 1).compileTemplate p.files p.files.workingDirectory.text a.script
    (fun name => a.macroTable.lookup name) (a.inputs.map Prod.fst)).1.mapError (.compile a.script)

/-- Give the first watcher of a session the values of the command line. -/
def giveValues (p : Site) (a : Arguments) (s : Session) : Session :=
  (a.inputs.zipIdx).foldl (fun s ((name, value), index) =>
    (s.submitTaken p.outside (.change 0 index (.ofValue name value p.now) p.now)).2) s

/-- The properties of the widget that the command line names, as they are at the end. -/
def propertiesOf (a : Arguments) (s : Session) : List (String × Json) :=
  let w := s.widget (s.handleOf 0)
  a.properties.map fun (name, _) => (name, (w.property? name).getD .null)

/-- Run a compiled script once, and wait for its result; none if the result never comes. -/
def runUnit (p : Site) (a : Arguments) (u : ScriptUnit) (s : Session) :
    Option (RunReport × Session) :=
  match Watcher.ofUnit u (s.handleOf 0) (inputsOf a) false with
  | .error e => some (.ofError (.support e), s)
  | .ok w =>
    let s := giveValues p a (s.addWatcher w)
    match s.submitTaken p.outside (.request 0 p.now) with
    | (some (.scheduled job), s) =>
      match (s.await p.outside job).awaitResult job with
      | (.result result, s) => some (.ofResult result (propertiesOf a s), s)
      | (_, _) => none
    | (some (.refused e), s) => some (.ofError (.support e), s)
    | (_, s) => some (.ofError .notScheduled, s)

/-- Compile, bind and run the script once. -/
def runOnce (p : Site) (a : Arguments) (s : Session) : Option (RunReport × Session) :=
  match compile p a with
  | .error e => some (.ofError e, s)
  | .ok u => runUnit p a u s

/-- Run the command: its report, and the session behind it, if it came to one; none if the result of
the script never comes. -/
def runWith (p : Site) (words : List String) : Option (RunReport × Option Session) :=
  match prepare p words with
  | .error e => some (.ofError e, none)
  | .ok r => (runOnce p r.arguments (sessionOf r)).map fun (report, s) =>
    (report, some (s.shutDown p.outside .drain).2)

/-- Run the command. -/
def run (p : Site) (words : List String) : Option RunReport := (runWith p words).map Prod.fst

end PanelScript.Runner

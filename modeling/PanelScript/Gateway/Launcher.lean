import PanelScript.Gateway.Error

/-!
# The process of the gateway

The gateway can be started here, by a command. The launcher holds the process that it started last,
notices when it has ended, and starts another when one is needed.

* `Command` is what is started;
* `Launcher` is the launcher with the processes it has started, `Launcher.command` its command;
* `Launcher.ensure` starts a process unless the held one is alive;
* `Launcher.bringUp` does so and waits for the process to come up;
* `Launcher.isRunning` looks, `Launcher.shutdown` ends the held process;
* `Launcher.exit` is the end of a process by itself.
-/

namespace PanelScript

/-- A program with its arguments, and the variables that it is given beyond the common ones. -/
structure Command where
  program : String
  arguments : List String
  extraVariables : List (String × String)
  deriving DecidableEq

/-- A launcher. -/
structure Launcher where
  program : String
  arguments : List String
  /-- The module search path for the process. -/
  pythonPath : Option String
  /-- How long a new process is given to come up, in milliseconds. -/
  startupDelay : Nat
  /-- For each process that was started, whether it is alive. -/
  processes : List Bool := []
  /-- The number of the process that is held. -/
  held : Option Nat := none
  deriving DecidableEq

namespace Launcher

/-- The launcher for a command; none for an empty one. -/
def ofCommand? (command : List String) (pythonPath : Option String) (startupDelay : Nat) :
    Option Launcher :=
  match command with
  | [] => none
  | program :: arguments => some { program, arguments, pythonPath, startupDelay }

/-- What is started. -/
def command (l : Launcher) : Command where
  program := l.program
  arguments := l.arguments
  extraVariables := (l.pythonPath.map fun path => ("PYTHONPATH", path)).toList

/-- Whether a process is alive. -/
def isAlive (l : Launcher) (process : Nat) : Bool := (l.processes[process]?).getD false

/-- Whether the held process is alive. -/
def isRunning (l : Launcher) : Bool :=
  match l.held with
  | some process => l.isAlive process
  | none => false

/-- The number of processes that are alive. -/
def alive (l : Launcher) : Nat := l.processes.count true

/-- A process ends by itself. -/
def exit (l : Launcher) (process : Nat) : Launcher :=
  { l with processes := l.processes.set process false }

/-- A process is started and held. -/
def started (l : Launcher) : Launcher :=
  { l with processes := l.processes ++ [true], held := some l.processes.length }

/-- See to it that the held process is alive: whether a new one was started. `spawn` is what becomes
of the attempt to start one. -/
def ensure (l : Launcher) (spawn : Except String Unit) : Except GatewayError Bool × Launcher :=
  if l.isRunning then (.ok false, l)
  else
    match spawn with
    | .ok _ => (.ok true, l.started)
    | .error message => (.error (.launch s!"{l.program}: {message}"), l)

/-- See to it that the held process is alive, and give a new one time to come up: whether one was
started, and the launcher at the end of that time. `start` is what becomes of an attempt to start
one: how long it will run, in milliseconds, or why there is none. -/
def bringUp (l : Launcher) (start : Except String Nat) : Except GatewayError Bool × Launcher :=
  match l.ensure (start.map fun _ => ()) with
  | (.ok true, started) =>
    match start with
    | .ok lifetime =>
      (.ok true, if lifetime ≤ l.startupDelay then started.exit l.processes.length else started)
    | .error _ => (.ok true, started)
  | other => other

/-- The held process ends by itself. -/
def exitHeld (l : Launcher) : Launcher :=
  match l.held with
  | some process => l.exit process
  | none => l

/-- Hold no process, whatever becomes of the one that was held. -/
def release (l : Launcher) : Launcher := { l with held := none }

/-- End the held process, and hold none. -/
def shutdown (l : Launcher) : Launcher :=
  match l.held with
  | some process => { l.exit process with held := none }
  | none => l

@[simp] theorem isRunning_shutdown (l : Launcher) : l.shutdown.isRunning = false := by
  unfold shutdown
  split
  · rfl
  · rename_i h; simp [isRunning, h]

@[simp] theorem isRunning_started (l : Launcher) : l.started.isRunning = true := by
  simp [isRunning, started, isAlive]

theorem error_of_ensure {l : Launcher} {spawn : Except String Unit} {e : GatewayError}
    (h : (l.ensure spawn).1 = .error e) : ∃ message, e = .launch message := by
  unfold ensure at h
  split at h
  · cases h
  · split at h
    · cases h
    · exact ⟨_, (Except.error.inj h).symm⟩

end Launcher

end PanelScript

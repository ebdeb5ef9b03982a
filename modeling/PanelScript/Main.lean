import PanelScript.Runner.Run
import Std.Time.Format

/-!
# The command

Gathers what the command looks at, the variables, the files, the processors and the time, runs it
and shows the report. It has no network and starts no process: the gateway is never reached.

* `probe` looks at a path in the file system, `gather` collects what a run looks at;
* `main` is the command.
-/

namespace PanelScript.Runner

/-- Look at the names of a path from a place on, and keep what stands there in a tree. -/
def probe (files : FileTree) (here : PanelScript.Place) : List String → IO FileTree
  | [] => return files
  | name :: rest => do
    if name = "." then probe files here rest
    else if name = ".." then probe files here.dropLast rest
    else
      let place := here ++ [name]
      let path := (← IO.currentDir) / place.text
      if ← path.isDir then
        let real := pathNames (← IO.FS.realPath path).toString
        if real = place then probe (files.plant place .directory) place rest
        else probe ((files.plant place (.link (Place.text real))).plant real .directory) real rest
      else if ← path.pathExists then
        let real := pathNames (← IO.FS.realPath path).toString
        let content ← try IO.FS.readFile path catch _ => pure ""
        let files := files.plant real (.file content)
        return if real = place then files else files.plant place (.link (Place.text real))
      else return files

/-- Look at a path in the file system. -/
def probePath (files : FileTree) (path : String) : IO FileTree :=
  probe files (files.origin path) (pathNames path)

/-- The variables of some names that are set. -/
def environmentOf (names : List String) : IO Environment := do
  let found ← names.filterMapM fun name => do
    return (← IO.getEnv name).map fun value => (name, value)
  return ⟨found⟩

/-- What surrounds the command: no program can be started, and no address can be reached. -/
def surroundings : Outside where
  start _ _ _ := .error "Operation not supported (os error 95)"
  connect _ _ _ := .error "IO error: Network is unreachable (os error 101)"
  send _ _ := .ok ()
  reply _ _ := ⟨none, []⟩

/-- How many digits `1` numbers have in binary that are written in hexadecimal digits. -/
def onesIn (hexadecimal : String) : Nat :=
  let ones (n : Nat) : Nat := (List.range 4).countP n.testBit
  hexadecimal.foldl (fun n c => n + ((Json.hexValue c).elim 0 ones)) 0

/-- The number of processors that the command may use, one for each bit of a mask that the system
tells; one if it tells none. -/
def availableProcessors : IO Nat := do
  let status ← try IO.FS.readFile "/proc/self/status" catch _ => pure ""
  let heading := "Cpus_allowed:"
  let mask := (status.splitOn "\n").find? (·.startsWith heading)
  return max 1 (onesIn ((mask.getD "").drop heading.length).toString)

/-- Collect what a run looks at. -/
def gather (words : List String) : IO Site := do
  let here := pathNames (← IO.FS.realPath (← IO.currentDir)).toString
  let empty : FileTree := ⟨[], here⟩
  let files ← (EnvironmentFile.candidates here).foldlM probePath (empty.plant here .directory)
  let text := ((EnvironmentFile.path? files).bind fun p => (files.read p).toOption).getD ""
  let environment ← environmentOf (variableNames ++ EnvironmentFile.names text).eraseDups
  let supplied := (EnvironmentFile.load files environment).toOption.getD environment
  let files ← (pathsOf supplied words).foldlM probePath files
  let now := (← Std.Time.Timestamp.now).toNanosecondsSinceUnixEpoch.val
  return {
    files
    outside := surroundings
    environment
    processors := ← availableProcessors
    now := ⟨now / 1000000000, (now % 1000000000).toNat⟩ }

end PanelScript.Runner

/-- The command: runs a script once and prints the result. -/
def main (words : List String) : IO UInt32 := do
  let some report := PanelScript.Runner.run (← PanelScript.Runner.gather words) words
    | throw (.userError "the result of the script does not come")
  IO.print report.output
  if let some text := report.failure.bind PanelScript.RunnerError.text? then IO.eprint text
  return UInt32.ofNat report.exitStatus

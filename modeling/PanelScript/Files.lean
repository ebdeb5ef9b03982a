/-!
# Files

A tree of directories, files, symbolic links and devices. A path is followed name by name; a link is
replaced by its target where it stands.

* `FileTree` is the tree with the directory that relative paths start from;
* `FileTree.walk` follows names, `FileTree.locate` a path;
* `FileTree.isFile`, `FileTree.canonical`, `FileTree.read` look, `FileTree.write` and
  `FileTree.remove` change the tree;
* `joinPath` puts a path behind a directory.
-/

namespace PanelScript

/-- Why the file system refuses. -/
inductive IoError where
  | notFound | notADirectory | isADirectory | permissionDenied | nameTooLong | tooManyLinks
  | nulInName
  deriving DecidableEq

/-- The words of the operating system for a refusal. -/
def IoError.message : IoError → String
  | .notFound => "No such file or directory (os error 2)"
  | .notADirectory => "Not a directory (os error 20)"
  | .isADirectory => "Is a directory (os error 21)"
  | .permissionDenied => "Permission denied (os error 13)"
  | .nameTooLong => "File name too long (os error 36)"
  | .tooManyLinks => "Too many levels of symbolic links (os error 40)"
  | .nulInName => "file name contained an unexpected NUL byte"

/-- What stands at a place. -/
inductive FileNode where
  | file (content : String)
  | directory
  | link (target : String)
  | device
  deriving DecidableEq

/-- A place in the tree: the names on the way from the root. -/
abbrev Place := List String

/-- The path that names a place. -/
def Place.text (p : Place) : String := "/" ++ "/".intercalate p

/-- A tree of files, and the directory that relative paths start from. -/
structure FileTree where
  nodes : List (Place × FileNode)
  workingDirectory : Place
  deriving DecidableEq

/-- Whether a path starts from the root. -/
def isAbsolutePath (path : String) : Bool := path.startsWith "/"

/-- The names of a path. A slash at its end asks for a directory, as a last name `.` does. -/
def pathNames (path : String) : List String :=
  (path.splitOn "/").filter (· ≠ "") ++ if path.endsWith "/" then ["."] else []

/-- A path behind a directory; a path from the root stays as it is. -/
def joinPath (directory path : String) : String :=
  if isAbsolutePath path ∨ directory = "" then path
  else if directory.endsWith "/" then directory ++ path
  else directory ++ "/" ++ path

namespace FileTree

/-- What stands at a place; at the root stands a directory. -/
def node? (t : FileTree) (p : Place) : Option FileNode :=
  if p = [] then some .directory else t.nodes.lookup p

/-- How many links may be followed on one way. -/
def maxLinks : Nat := 40

/-- How many bytes a name may have. -/
def maxName : Nat := 255

/-- How many bytes a path may have. -/
def maxPath : Nat := 4095

/-- Follow names from a place. If a file is to be made, the last name may be missing. -/
def walk (t : FileTree) (making : Bool) (links : Nat) (here : Place) :
    List String → Except IoError Place
  | [] => .ok here
  | name :: rest =>
    if t.node? here = some .directory then
      if name = "." then walk t making links here rest
      else if name = ".." then walk t making links here.dropLast rest
      else if name.utf8ByteSize > maxName then .error .nameTooLong
      else
        match t.node? (here ++ [name]) with
        | none => if making ∧ rest = [] then .ok (here ++ [name]) else .error .notFound
        | some (.link target) =>
          match links with
          | 0 => .error .tooManyLinks
          | links + 1 =>
            walk t making links (if isAbsolutePath target then [] else here)
              (pathNames target ++ rest)
        | some _ => walk t making links (here ++ [name]) rest
    else .error .notADirectory
termination_by names => (links, names.length)

/-- Where a path starts. -/
def origin (t : FileTree) (path : String) : Place :=
  if isAbsolutePath path then [] else t.workingDirectory

/-- Follow a path. -/
def follow (t : FileTree) (making : Bool) (path : String) : Except IoError Place :=
  if path.contains '\x00' then .error .nulInName
  else if path = "" then .error .notFound
  else if path.utf8ByteSize > maxPath then .error .nameTooLong
  else t.walk making maxLinks (t.origin path) (pathNames path)

/-- The place that a path leads to. -/
def locate (t : FileTree) (path : String) : Except IoError Place := t.follow false path

/-- Whether a path leads to a file. -/
def isFile (t : FileTree) (path : String) : Except IoError Bool := do
  let p ← t.locate path
  match t.node? p with
  | some (.file _) => .ok true
  | some _ => .ok false
  | none => .error .notFound

/-- The canonical path to the same place: from the root, without links and detours. -/
def canonical (t : FileTree) (path : String) : Except IoError String :=
  (t.locate path).map Place.text

/-- The content of a file. -/
def read (t : FileTree) (path : String) : Except IoError String := do
  let p ← t.locate path
  match t.node? p with
  | some (.file content) => .ok content
  | some .device => .ok ""
  | some _ => .error .isADirectory
  | none => .error .notFound

/-- Put a node at a place. -/
def put (t : FileTree) (p : Place) (n : FileNode) : FileTree :=
  { t with nodes := (p, n) :: t.nodes.filter fun (q, _) => q ≠ p }

/-- The directories on the way to a place. -/
def ancestors : Place → List Place
  | [] => []
  | p => (List.range (p.length - 1)).map fun i => p.take (i + 1)

/-- Put a node at a place, and make the directories on the way. -/
def plant (t : FileTree) (p : Place) (n : FileNode) : FileTree :=
  ((ancestors p).foldl (fun t d => if (t.node? d).isSome then t else t.put d .directory) t).put p n

/-- Write a file, through links. -/
def write (t : FileTree) (path content : String) : Except IoError FileTree := do
  let p ← t.follow true path
  match t.node? p with
  | some .directory => .error .isADirectory
  | some .device => .ok t
  | _ => .ok (t.put p (.file content))

/-- Remove what a path names, and all below it; a link is removed and not its target. -/
def remove (t : FileTree) (path : String) : Except IoError FileTree := do
  let names := pathNames path
  let parent ← t.walk false maxLinks (t.origin path) names.dropLast
  let p := parent ++ names.getLast?.toList
  if (t.node? p).isSome then
    .ok { t with nodes := t.nodes.filter fun (q, _) => ¬ p.isPrefixOf q }
  else .error .notFound

@[simp] theorem node?_root (t : FileTree) : t.node? [] = some .directory := rfl

end FileTree

end PanelScript

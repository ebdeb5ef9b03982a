import PanelScript.Json.Reader
import PanelScript.Text.Quoted

/-!
# The command line

A script is run from the command line with macros for its path, properties of its widget and values
of its inputs, each as a pair `NAME=VALUE`.

* `Arguments` is what a command line says;
* `splitPair`, `pairValue` read a pair;
* `Arguments.parse` reads a command line: options may stand anywhere before `--`, an option takes
  its value from the same word or from the next.

The value of an option or the values of the inputs are read when the next word that belongs to
something else comes, so that a word which nobody knows is reported before them.
-/

namespace PanelScript

/-- What a command line says. -/
structure Arguments where
  macros : List (String × String)
  properties : List (String × Json)
  script : String
  inputs : List (String × Json)
  deriving DecidableEq

/-- Why a command line is refused. -/
inductive UsageError where
  /-- A word that has to be a pair is none. -/
  | notAPair (word : String)
  | unknownOption
  | missingScript
  /-- An option or the script stands without a value. -/
  | missingValue
  /-- A value stands with an option that takes none. -/
  | unneededValue
  | helpRequested
  deriving DecidableEq

/-- The words for a refused word. -/
def UsageError.message? : UsageError → Option String
  | .notAPair word => some s!"expected NAME=VALUE, got {quoted word}"
  | _ => none

/-- Split a pair at its first `=`. The name must not be empty. -/
def splitPair (word : String) : Except UsageError (String × String) :=
  let cs := word.toList
  let name := cs.takeWhile (· ≠ '=')
  match cs.dropWhile (· ≠ '=') with
  | _ :: value =>
    if name.isEmpty then .error (.notAPair word)
    else .ok (String.ofList name, String.ofList value)
  | [] => .error (.notAPair word)

/-- The value of a text: as JSON if it is JSON, else the text itself. -/
def pairValue (text : String) : Json :=
  match Json.parseValue text with
  | .ok v => v
  | .error _ => .str text

/-- A pair of a name and a value. -/
def bindingPair (word : String) : Except UsageError (String × Json) :=
  (splitPair word).map fun (name, text) => (name, pairValue text)

namespace Arguments

/-- The options that take a value. -/
inductive ValueOption where
  | defineMacro | setProperty
  deriving DecidableEq

/-- An option by its long name. -/
def ValueOption.ofLong? (name : List Char) : Option ValueOption :=
  if name = "macro".toList then some .defineMacro
  else if name = "property".toList then some .setProperty
  else none

/-- An option by its short name. -/
def ValueOption.ofShort? (name : Char) : Option ValueOption :=
  if name = 'm' then some .defineMacro else if name = 'p' then some .setProperty else none

/-- Words that were seen and are not read yet. -/
inductive Pending where
  | option (o : ValueOption) (value : Option String)
  | script (word : String)
  | inputs (words : List String)
  deriving DecidableEq

/-- What was read so far. -/
structure Draft where
  macros : List (String × String) := []
  properties : List (String × Json) := []
  script : Option String := none
  inputs : List (String × Json) := []
  pending : Option Pending := none
  /-- A script was seen. -/
  hasScript : Bool := false
  /-- The next word is the value of an option. -/
  awaitsValue : Bool := false
  /-- No options come any more. -/
  trailing : Bool := false
  deriving DecidableEq

namespace Draft

/-- Read the value of an option. -/
def takeOption (d : Draft) (o : ValueOption) (value : String) : Except UsageError Draft :=
  match o with
  | .defineMacro => (splitPair value).map fun p => { d with macros := d.macros ++ [p] }
  | .setProperty => (bindingPair value).map fun p => { d with properties := d.properties ++ [p] }

/-- Read the words that are not read yet. -/
def settle (d : Draft) : Except UsageError Draft :=
  let d' := { d with pending := none }
  match d.pending with
  | none => .ok d'
  | some (.option _ none) => .error .missingValue
  | some (.option o (some value)) => d'.takeOption o value
  | some (.script word) =>
    if word = "" then .error .missingValue else .ok { d' with script := some word }
  | some (.inputs words) =>
    (words.mapM bindingPair).map fun ps => { d' with inputs := d'.inputs ++ ps }

/-- An option with the value that stands in its word, if one does. -/
def option (d : Draft) (o : ValueOption) (attached : Option String) : Except UsageError Draft := do
  let d ← d.settle
  match attached with
  | some value =>
    let d ← d.takeOption o value
    .ok { d with awaitsValue := false }
  | none => .ok { d with pending := some (.option o none), awaitsValue := true }

/-- Show the help, once all words before it are read. -/
def help (d : Draft) : Except UsageError Draft := d.settle.bind fun _ => .error .helpRequested

/-- A long option: its name, and the value behind `=`. -/
def longOption (d : Draft) (name : List Char) (attached : Option String) :
    Except UsageError Draft :=
  match ValueOption.ofLong? name with
  | some o => d.option o attached
  | none =>
    if name = "help".toList then
      match attached with
      | some _ => .error .unneededValue
      | none => d.help
    else .error .unknownOption

/-- Short options: the value of the first may stand behind it, with or without `=`. -/
def shortOptions (d : Draft) : List Char → Except UsageError Draft
  | [] => .ok d
  | c :: rest =>
    match ValueOption.ofShort? c with
    | some o =>
      d.option o <| match rest with
        | [] => none
        | '=' :: value => some (String.ofList value)
        | value => some (String.ofList value)
    | none => if c = 'h' then d.help else .error .unknownOption

/-- A word that is no option: the value of the option before it, the script, or an input. -/
def word (d : Draft) (w : String) : Except UsageError Draft :=
  if d.awaitsValue ∧ ¬ d.trailing then
    match d.pending with
    | some (.option o none) =>
      .ok { d with pending := some (.option o (some w)), awaitsValue := false }
    | _ => .ok { d with awaitsValue := false }
  else if ¬ d.hasScript then do
    let d ← d.settle
    .ok { d with pending := some (.script w), hasScript := true, awaitsValue := false }
  else
    match d.pending with
    | some (.inputs ws) => .ok { d with pending := some (.inputs (ws ++ [w])) }
    | _ => do
      let d ← d.settle
      .ok { d with pending := some (.inputs [w]), awaitsValue := false }

/-- The next word of the command line. -/
def step (d : Draft) (w : String) : Except UsageError Draft :=
  if d.trailing then d.word w
  else
    match w.toList with
    | ['-', '-'] => .ok { d with trailing := true }
    | '-' :: '-' :: rest =>
      let name := rest.takeWhile (· ≠ '=')
      d.longOption name <| match rest.dropWhile (· ≠ '=') with
        | _ :: value => some (String.ofList value)
        | [] => none
    | '-' :: c :: rest => d.shortOptions (c :: rest)
    | _ => d.word w

/-- The arguments, once all words are read. -/
def finish (d : Draft) : Except UsageError Arguments := do
  let d ← d.settle
  match d.script with
  | some script => .ok ⟨d.macros, d.properties, script, d.inputs⟩
  | none => .error .missingScript

end Draft

/-- Read a command line. -/
def parse (words : List String) : Except UsageError Arguments :=
  (words.foldlM Draft.step {}).bind Draft.finish

/-- The macro definitions; of those with one name the last counts. -/
def macroTable (a : Arguments) : List (String × String) :=
  a.macros.foldl (fun table (name, value) =>
    (name, value) :: table.filter fun (n, _) => n ≠ name) []

end Arguments

theorem splitPair_eq_ok {word name value : String} (h : splitPair word = .ok (name, value)) :
    name ≠ "" ∧ '=' ∉ name.toList ∧ word = name ++ "=" ++ value := by
  have parts := List.takeWhile_append_dropWhile (p := (· ≠ '=')) (l := word.toList)
  have first := List.head?_dropWhile_not (· ≠ '=') word.toList
  have before := List.all_takeWhile (p := (· ≠ '=')) (l := word.toList)
  unfold splitPair at h
  dsimp only at h
  generalize word.toList.takeWhile (· ≠ '=') = front at h parts before
  generalize word.toList.dropWhile (· ≠ '=') = tail at h parts first
  cases tail with
  | nil => simp at h
  | cons c rest =>
    obtain rfl : c = '=' := by simpa using first
    by_cases nonempty : front.isEmpty
    · simp [nonempty] at h
    · simp only [nonempty, Bool.false_eq_true, if_false, Except.ok.injEq, Prod.mk.injEq] at h
      obtain ⟨rfl, rfl⟩ := h
      refine ⟨fun e => nonempty ?_, fun hm => ?_, ?_⟩
      · simpa using congrArg String.toList e
      · rw [String.toList_ofList] at hm
        simpa using List.all_eq_true.1 before _ hm
      · apply String.toList_injective
        simpa using parts.symm

end PanelScript

import PanelScript.Json.Basic
import PanelScript.Json.Numeral
import PanelScript.Text.Quoted

/-!
# Why a JSON text was refused

A text can be refused because it is no JSON, because it ends too early, or because what it says has
the wrong shape. Each refusal keeps the number of bytes that were unread when it was found, so that
a place in the text can be named.

* `Json.Syntax` lists the ways in which a text is no JSON, `Json.Mismatch` the wrong shapes;
* `Json.Failure` is a refusal with its place, `Json.Failure.message` its text.
-/

namespace PanelScript.Json

/-- A text that is no JSON. The first four say that it ended too early. -/
inductive Syntax where
  | endInList | endInObject | endInString | endInValue
  | expectedColon | expectedListEnd | expectedObjectEnd | expectedIdent | expectedValue
  | invalidEscape | invalidNumber | numberOutOfRange | controlCharacter | keyMustBeString
  | loneSurrogate | trailingComma | trailingCharacters | endOfHexEscape | tooDeep
  /-- A string is not encoded well. -/
  | invalidCodePoint
  deriving DecidableEq

/-- Whether the text only ended too early. -/
def Syntax.isEnd : Syntax → Bool
  | .endInList | .endInObject | .endInString | .endInValue => true
  | _ => false

/-- The words for a text that is no JSON. -/
def Syntax.message : Syntax → String
  | .endInList => "EOF while parsing a list"
  | .endInObject => "EOF while parsing an object"
  | .endInString => "EOF while parsing a string"
  | .endInValue => "EOF while parsing a value"
  | .expectedColon => "expected `:`"
  | .expectedListEnd => "expected `,` or `]`"
  | .expectedObjectEnd => "expected `,` or `\x7d`"
  | .expectedIdent => "expected ident"
  | .expectedValue => "expected value"
  | .invalidEscape => "invalid escape"
  | .invalidNumber => "invalid number"
  | .numberOutOfRange => "number out of range"
  | .controlCharacter => "control character (\\u0000-\\u001F) found while parsing a string"
  | .keyMustBeString => "key must be a string"
  | .loneSurrogate => "lone leading surrogate in hex escape"
  | .trailingComma => "trailing comma"
  | .trailingCharacters => "trailing characters"
  | .endOfHexEscape => "unexpected end of hex escape"
  | .tooDeep => "recursion limit exceeded"
  | .invalidCodePoint => "invalid unicode code point"

/-- What stood in a place where something else was expected. -/
inductive Found where
  | null
  | bool (b : Bool)
  | integer (n : Int)
  | real (x : Binary64)
  | str (s : String)
  | sequence
  | map
  deriving DecidableEq

/-- What a tree is found to be. -/
def found : Json → Found
  | .null => .null
  | .bool b => .bool b
  | .num (.int n) => .integer n
  | .num (.real x) => .real x
  | .str s => .str s
  | .arr _ => .sequence
  | .obj _ => .map

/-- The words for what was found. -/
def Found.message : Found → String
  | .null => "null"
  | .bool b => s!"boolean `{b}`"
  | .integer n => s!"integer `{n}`"
  | .real x => s!"floating point `{realText x}`"
  | .str s => s!"string {quoted s}"
  | .sequence => "sequence"
  | .map => "map"

/-- Well-formed JSON of the wrong shape. -/
inductive Mismatch where
  | invalidType (found : Found) (expected : String)
  | invalidValue (found : Found) (expected : String)
  | invalidLength (length : Nat) (expected : String)
  | missingField (name : String)
  | duplicateField (name : String)
  | unknownVariant (found : String) (expected : List String)
  | malformedUuid
  | malformedTimestamp
  deriving DecidableEq

/-- The choices that a variant has, in words. -/
def alternatives : List String → String
  | [] => "there are no variants"
  | [a] => s!"expected `{a}`"
  | [a, b] => s!"expected `{a}` or `{b}`"
  | names => "expected one of " ++ ", ".intercalate (names.map fun n => s!"`{n}`")

/-- The words for a wrong shape. -/
def Mismatch.message : Mismatch → String
  | .invalidType found expected => s!"invalid type: {found.message}, expected {expected}"
  | .invalidValue found expected => s!"invalid value: {found.message}, expected {expected}"
  | .invalidLength length expected => s!"invalid length {length}, expected {expected}"
  | .missingField name => s!"missing field `{name}`"
  | .duplicateField name => s!"duplicate field `{name}`"
  | .unknownVariant found expected => s!"unknown variant `{found}`, {alternatives expected}"
  | .malformedUuid => "UUID parsing failed"
  | .malformedTimestamp => "invalid timestamp"

/-- Why a text was refused. -/
inductive Cause where
  | ill (reason : Syntax)
  | mismatch (reason : Mismatch)
  deriving DecidableEq

/-- A refusal, with the number of bytes unread when it was found. A refusal found in a tree that
was read before has no place. -/
structure Failure where
  cause : Cause
  unread : Option Nat
  deriving DecidableEq

/-- The three kinds of refusal. -/
inductive Category where
  | ill | ended | shape
  deriving DecidableEq

/-- The kind of a refusal. -/
def Failure.category (f : Failure) : Category :=
  match f.cause with
  | .mismatch _ => .shape
  | .ill reason => if reason.isEnd then .ended else .ill

/-- The words for a refusal, without its place. -/
def Failure.reason (f : Failure) : String :=
  match f.cause with
  | .ill reason => reason.message
  | .mismatch reason => reason.message

/-- The size of a text in bytes. -/
def byteCount (cs : List Char) : Nat := cs.foldl (fun n c => n + c.utf8Size) 0

/-- A refusal at the next character. -/
def refuse {α : Type} (reason : Syntax) (rest : List Char) : Except Failure α :=
  .error ⟨.ill reason, some (byteCount rest)⟩

/-- A refusal that points behind the next byte. -/
def refuseNext {α : Type} (reason : Syntax) (rest : List Char) : Except Failure α :=
  .error ⟨.ill reason, some (byteCount rest - 1)⟩

/-- A wrong shape, found when `rest` was unread. -/
def mismatchAt {α : Type} (reason : Mismatch) (rest : List Char) : Except Failure α :=
  .error ⟨.mismatch reason, some (byteCount rest)⟩

/-- A wrong shape of a tree that was read before. -/
def mismatch {α : Type} (reason : Mismatch) : Except Failure α := .error ⟨.mismatch reason, none⟩

/-- Line and column of the byte after which a refusal was found: lines from one, columns the bytes
of the line so far. -/
def Failure.place (f : Failure) (text : String) : Option (Nat × Nat) :=
  f.unread.map fun unread =>
    let bytes := text.toUTF8.toList.take (text.utf8ByteSize - unread)
    let line := bytes.reverse.takeWhile (· != 10)
    (bytes.count 10 + 1, line.length)

/-- The words for a refusal of `text`, with its place. -/
def Failure.message (f : Failure) (text : String) : String :=
  match f.place text with
  | some (line, column) => s!"{f.reason} at line {line} column {column}"
  | none => f.reason

end PanelScript.Json

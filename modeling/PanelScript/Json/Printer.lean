import PanelScript.Json.Numeral

/-!
# Writing a JSON text

Trees are written compactly, or over several lines with an indentation of two. Only quotes,
backslashes and control characters are escaped in a string.

* `Json.escapeChar` and `Json.writeString` write strings;
* `Json.write` is the compact text of a tree, `Json.text` the same as a string;
* `Json.pretty` is the text over several lines.
-/

namespace PanelScript.Json

/-- The lower-case hexadecimal digit of a value below sixteen. -/
def hexDigit (n : Nat) : Char :=
  if n < 10 then Char.ofNat ('0'.toNat + n) else Char.ofNat ('a'.toNat + (n - 10))

/-- How a character is written inside a string. -/
def escapeChar (c : Char) : List Char :=
  if c = '"' then ['\\', '"']
  else if c = '\\' then ['\\', '\\']
  else if c = '\x08' then ['\\', 'b']
  else if c = '\x0c' then ['\\', 'f']
  else if c = '\n' then ['\\', 'n']
  else if c = '\r' then ['\\', 'r']
  else if c = '\t' then ['\\', 't']
  else if c.toNat < 0x20 then
    ['\\', 'u', '0', '0', hexDigit (c.toNat / 16), hexDigit (c.toNat % 16)]
  else [c]

/-- A string in quotes. -/
def writeString (s : String) : List Char := '"' :: s.toList.flatMap escapeChar ++ ['"']

/-- Texts with a separator between them. -/
def separated (separator : List Char) : List (List Char) → List Char
  | [] => []
  | [t] => t
  | t :: ts => t ++ separator ++ separated separator ts

mutual

/-- The compact text of a tree. -/
def write : Json → List Char
  | .null => "null".toList
  | .bool b => if b then "true".toList else "false".toList
  | .num n => n.text
  | .str s => writeString s
  | .arr items => '[' :: separated [','] (writeItems items) ++ [']']
  | .obj members => '\x7b' :: separated [','] (writeMembers members) ++ ['\x7d']

/-- The compact texts of the items of a list. -/
def writeItems : List Json → List (List Char)
  | [] => []
  | v :: rest => write v :: writeItems rest

/-- The compact texts of the members of an object. -/
def writeMembers : List (String × Json) → List (List Char)
  | [] => []
  | (name, v) :: rest => (writeString name ++ ':' :: write v) :: writeMembers rest

end

/-- The compact text of a tree. -/
def text (v : Json) : String := String.ofList v.write

/-! ### Several lines -/

/-- A bracket over several lines, its parts indented one level deeper than the bracket. -/
def block (level : Nat) (opening closing : Char) (parts : List (List Char)) : List Char :=
  if parts.isEmpty then [opening, closing]
  else
    let line (level : Nat) := '\n' :: List.replicate (2 * level) ' '
    opening :: line (level + 1) ++ separated (',' :: line (level + 1)) parts ++ line level ++
      [closing]

mutual

/-- The text of a tree over several lines, inside `level` brackets. -/
def prettyAt (level : Nat) : Json → List Char
  | .arr items => block level '[' ']' (prettyItems (level + 1) items)
  | .obj members => block level '\x7b' '\x7d' (prettyMembers (level + 1) members)
  | .null => write .null
  | .bool b => write (.bool b)
  | .num n => write (.num n)
  | .str s => write (.str s)

@[inherit_doc prettyAt] def prettyItems (level : Nat) : List Json → List (List Char)
  | [] => []
  | v :: rest => prettyAt level v :: prettyItems level rest

@[inherit_doc prettyAt] def prettyMembers (level : Nat) : List (String × Json) → List (List Char)
  | [] => []
  | (name, v) :: rest =>
    (writeString name ++ ": ".toList ++ prettyAt level v) :: prettyMembers level rest

end

/-- The text of a tree over several lines. -/
def pretty (v : Json) : String := String.ofList (prettyAt 0 v)

end PanelScript.Json

import PanelScript.PanelError

/-!
# Macros

A text may refer to macros by `$(NAME)` or `${NAME}`. A reference to a defined macro is replaced by
its value, which may refer to further macros; one to an undefined macro is left as it stands.

* `Macro.pieces` splits a text into characters and references;
* `Macro.expandOnce` replaces the references of a text once;
* `Macro.expand` repeats this until nothing changes, at most `Macro.maxDepth` levels deep.
-/

namespace PanelScript.Macro

/-- The definitions in force: the value of a name, if it has one. -/
abbrev Definitions := String → Option String

/-- How deep macros may be nested in the values of macros. -/
def maxDepth : Nat := 8

/-- The characters that begin a name. -/
def isNameStart (c : Char) : Bool := c.isAlpha || c = '_'

/-- The characters that continue a name. -/
def isNamePart (c : Char) : Bool := c.isAlphanum || c = '_'

/-- A part of a text: a character that stands for itself, or a reference in round or curly
brackets. -/
inductive Piece where
  | char (c : Char)
  | reference (round : Bool) (name : List Char)
  deriving DecidableEq

/-- The text of a piece. -/
def Piece.text : Piece → List Char
  | .char c => [c]
  | .reference true name => '$' :: '(' :: name ++ [')']
  | .reference false name => '$' :: '\x7b' :: name ++ ['\x7d']

/-- The name at the front of a text, if a given bracket closes it. -/
def closedName? (closing : Char) (cs : List Char) : Option (List Char) :=
  match cs with
  | c :: rest =>
    if isNameStart c then
      match rest.dropWhile isNamePart with
      | d :: _ => if d = closing then some (c :: rest.takeWhile isNamePart) else none
      | [] => none
    else none
  | [] => none

/-- The reference at the front of a text. -/
def reference? : List Char → Option Piece
  | '$' :: '(' :: rest => (closedName? ')' rest).map (.reference true)
  | '$' :: '\x7b' :: rest => (closedName? '\x7d' rest).map (.reference false)
  | _ => none

/-- The pieces of a text behind its first `skip` characters, which belong to a reference that was
found before. -/
def piecesFrom : Nat → List Char → List Piece
  | _, [] => []
  | skip + 1, _ :: rest => piecesFrom skip rest
  | 0, c :: rest =>
    match reference? (c :: rest) with
    | some r => r :: piecesFrom (r.text.length - 1) rest
    | none => .char c :: piecesFrom 0 rest

/-- The pieces of a text: every reference, and the characters between them. -/
def pieces (cs : List Char) : List Piece := piecesFrom 0 cs

/-- What a piece is replaced by. -/
def Piece.expand (definitions : Definitions) (p : Piece) : List Char :=
  match p with
  | .char c => [c]
  | .reference _ name => ((definitions (String.ofList name)).map String.toList).getD p.text

/-- Replace every reference to a defined macro by its value. -/
def expandOnce (definitions : Definitions) (cs : List Char) : List Char :=
  (pieces cs).flatMap (Piece.expand definitions)

/-- Replace references until nothing changes; `none` if the passes run out before. -/
def settle (definitions : Definitions) : Nat → List Char → Option (List Char)
  | 0, _ => none
  | passes + 1, current =>
    let next := expandOnce definitions current
    if next = current then some next else settle definitions passes next

/-- The text with all its macros expanded. The last pass finds that nothing changes. -/
def expand (definitions : Definitions) (text : String) : Except PanelError String :=
  match settle definitions (maxDepth + 1) text.toList with
  | some cs => .ok (String.ofList cs)
  | none => .error (.validation s!"Macro expansion of '{text}' exceeds {maxDepth} levels")

@[simp] theorem expandOnce_nil (definitions : Definitions) : expandOnce definitions [] = [] := rfl

@[simp] theorem Piece.expand_char (definitions : Definitions) (c : Char) :
    (Piece.char c).expand definitions = [c] := rfl

end PanelScript.Macro

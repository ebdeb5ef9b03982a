import PanelScript.Json.Literal

/-!
# Reading a JSON text

A tree is read off the front of a text by recursion on the number of brackets that may still be
opened. The loops over the items of a list and the members of an object are told apart from what
they read, so that typed readers share them.

* `Json.nextItem` and `Json.nextMember` find the next item or member of an open bracket;
* `Json.value` reads a tree, `Json.skipValue` passes over one;
* `Json.parse` reads a whole text, `Json.parseValue` its canonical form.
-/

namespace PanelScript.Json

/-- The number of brackets that may be open at once. -/
def maxDepth : Nat := 127

/-- The rest of a word such as `null`, behind its first letter. -/
def readIdent : List Char → List Char → Except Failure (List Char)
  | [], cs => .ok cs
  | _ :: _, [] => refuse .endInValue []
  | w :: ws, c :: cs => if w = c then readIdent ws cs else refuse .expectedIdent cs

/-! ### Lists and objects -/

/-- Whether an open list has another item, and the text from there. At the end the closing bracket
is left standing. -/
def nextItem (first : Bool) : Reader Bool := fun cs =>
  match skipSpace cs with
  | [] => refuse .endInList []
  | ']' :: rest => .ok (false, ']' :: rest)
  | c :: rest =>
    if first then .ok (true, c :: rest)
    else if c = ',' then
      match skipSpace rest with
      | [] => refuse .endInValue []
      | ']' :: rest => refuseNext .trailingComma (']' :: rest)
      | rest => .ok (true, rest)
    else refuseNext .expectedListEnd (c :: rest)

/-- Whether an open object has another member, and the text behind the quote of its name. At the
end the closing bracket is left standing. -/
def nextMember (first : Bool) : Reader Bool := fun cs =>
  match skipSpace cs with
  | [] => refuse .endInObject []
  | '\x7d' :: rest => .ok (false, '\x7d' :: rest)
  | c :: rest =>
    if first then
      if c = '"' then .ok (true, rest) else refuseNext .keyMustBeString (c :: rest)
    else if c = ',' then
      match skipSpace rest with
      | [] => refuse .endInValue []
      | '"' :: rest => .ok (true, rest)
      | '\x7d' :: rest => refuseNext .trailingComma ('\x7d' :: rest)
      | rest => refuseNext .keyMustBeString rest
    else refuseNext .expectedObjectEnd (c :: rest)

/-- The colon behind the name of a member. -/
def readColon (cs : List Char) : Except Failure (List Char) :=
  match skipSpace cs with
  | [] => refuse .endInObject []
  | ':' :: rest => .ok rest
  | rest => refuseNext .expectedColon rest

/-- The closing bracket of a list. -/
def endList (cs : List Char) : Except Failure (List Char) :=
  match skipSpace cs with
  | [] => refuse .endInList []
  | ']' :: rest => .ok rest
  | ',' :: rest =>
    match skipSpace rest with
    | ']' :: rest => refuseNext .trailingComma (']' :: rest)
    | rest => refuseNext .trailingCharacters rest
  | rest => refuseNext .trailingCharacters rest

/-- The closing bracket of an object. -/
def endObject (cs : List Char) : Except Failure (List Char) :=
  match skipSpace cs with
  | [] => refuse .endInObject []
  | '\x7d' :: rest => .ok rest
  | ',' :: rest => refuseNext .trailingComma (',' :: rest)
  | rest => refuseNext .trailingCharacters rest

/-- The items of an open list, at most `fuel` of them, up to its closing bracket. -/
def readItems {α : Type} (read : Reader α) : Nat → Bool → Reader (List α)
  | 0, _, cs => refuse .endInList cs
  | fuel + 1, first, cs => do
    let (more, cs) ← nextItem first cs
    if more then
      let (v, cs) ← read cs
      let (vs, cs) ← readItems read fuel false cs
      .ok (v :: vs, cs)
    else .ok ([], cs)

/-- The members of an open object, at most `fuel` of them, up to its closing bracket. -/
def readMembers {α : Type} (read : Reader α) : Nat → Bool → Reader (List (String × α))
  | 0, _, cs => refuse .endInObject cs
  | fuel + 1, first, cs => do
    let (more, cs) ← nextMember first cs
    if more then
      let (name, cs) ← readString cs
      let cs ← readColon cs
      let (v, cs) ← read cs
      let (vs, cs) ← readMembers read fuel false cs
      .ok ((name, v) :: vs, cs)
    else .ok ([], cs)

/-- A list, behind its opening bracket. Each item takes a character off the text. -/
def readList {α : Type} (read : Reader α) : Reader (List α) := fun cs => do
  let (items, cs) ← readItems read (cs.length + 1) true cs
  let cs ← endList cs
  .ok (items, cs)

/-- An object, behind its opening bracket. -/
def readObject {α : Type} (read : Reader α) : Reader (List (String × α)) := fun cs => do
  let (members, cs) ← readMembers read (cs.length + 1) true cs
  let cs ← endObject cs
  .ok (members, cs)

/-! ### Trees -/

/-- A tree in which at most `depth` brackets are open at once. -/
def value (depth : Nat) : Reader Json := fun cs =>
  match skipSpace cs with
  | [] => refuse .endInValue []
  | c :: rest =>
    if c = 'n' then (readIdent "ull".toList rest).map fun cs => (.null, cs)
    else if c = 't' then (readIdent "rue".toList rest).map fun cs => (.bool true, cs)
    else if c = 'f' then (readIdent "alse".toList rest).map fun cs => (.bool false, cs)
    else if c = '-' then (readNumber true rest).map fun (n, cs) => (.num n, cs)
    else if c.isDigit then (readNumber false (c :: rest)).map fun (n, cs) => (.num n, cs)
    else if c = '"' then (readString rest).map fun (s, cs) => (.str s, cs)
    else if c = '[' then
      match depth with
      | 0 => refuseNext .tooDeep (c :: rest)
      | depth + 1 => (readList (value depth) rest).map fun (items, cs) => (.arr items, cs)
    else if c = '\x7b' then
      match depth with
      | 0 => refuseNext .tooDeep (c :: rest)
      | depth + 1 => (readObject (value depth) rest).map fun (members, cs) => (.obj members, cs)
    else refuseNext .expectedValue (c :: rest)

/-- Nothing but blanks may follow. -/
def endOfText (cs : List Char) : Except Failure Unit :=
  match skipSpace cs with
  | [] => .ok ()
  | rest => refuseNext .trailingCharacters rest

/-- All characters, read by one reader. -/
def readWhole {α : Type} (read : Reader α) (cs : List Char) : Except Failure α := do
  let (v, rest) ← read cs
  endOfText rest
  .ok v

/-- The whole text, read by one reader. -/
def readAll {α : Type} (read : Reader α) (text : String) : Except Failure α :=
  readWhole read text.toList

/-- The tree of a text. -/
def parse (text : String) : Except Failure Json := readAll (value maxDepth) text

/-- The value that a text denotes. -/
def parseValue (text : String) : Except Failure Json := (parse text).map canonical

/-! ### Values passed over

A member that nobody asked for is passed over without being built: its brackets may be nested to any
depth, its numerals may be of any size, and its escapes need not pair up. -/

/-- A bracket that is open while values are passed over. -/
inductive Bracket where
  | list | object
  deriving DecidableEq

/-- The refusal when the text ends inside a bracket. -/
def Bracket.ended : Bracket → Syntax
  | .list => .endInList
  | .object => .endInObject

/-- The refusal when neither comma nor closing bracket stands behind a value. -/
def Bracket.unclosed : Bracket → Syntax
  | .list => .expectedListEnd
  | .object => .expectedObjectEnd

/-- The character that closes the bracket. -/
def Bracket.closing : Bracket → Char
  | .list => ']'
  | .object => '\x7d'

/-- Pass over the name of a member and its colon. -/
def skipName (cs : List Char) : Except Failure (List Char) :=
  match skipSpace cs with
  | [] => refuse .endInObject []
  | '"' :: rest => do
    let rest ← skipString rest
    readColon rest
  | rest => refuseNext .keyMustBeString rest

/-- Pass over a value that opens no bracket. -/
def skipScalar (c : Char) (rest : List Char) : Except Failure (List Char) :=
  if c = 'n' then readIdent "ull".toList rest
  else if c = 't' then readIdent "rue".toList rest
  else if c = 'f' then readIdent "alse".toList rest
  else if c = '-' then skipNumber rest
  else if c.isDigit then skipNumber (c :: rest)
  else if c = '"' then skipString rest
  else refuseNext .expectedValue (c :: rest)

/-- Close as many of the open brackets as the text closes, then pass the comma before the next
value. The result is the brackets that are still open, and none at the end of the whole value. -/
def skipClosing : List Bracket → Bool → Nat → Reader (List Bracket)
  | [], _, _, cs => .ok ([], cs)
  | _ :: _, _, 0, cs => refuse .endInValue cs
  | b :: bs, comma, fuel + 1, cs =>
    match skipSpace cs with
    | [] => refuse b.ended []
    | c :: rest =>
      if comma ∧ c = ',' then .ok (b :: bs, rest)
      else if c = b.closing then skipClosing bs true fuel rest
      else if comma then refuseNext b.unclosed (c :: rest)
      else .ok (b :: bs, c :: rest)

/-- Pass over values until every open bracket is closed, in at most `fuel` steps. -/
def skipLoop : Nat → List Bracket → List Char → Except Failure (List Char)
  | 0, _, cs => refuse .endInValue cs
  | fuel + 1, bs, cs =>
    match skipSpace cs with
    | [] => refuse .endInValue []
    | c :: rest => do
      let (bs, opened, cs) ←
        if c = '[' then .ok (.list :: bs, true, rest)
        else if c = '\x7b' then .ok (.object :: bs, true, rest)
        else (skipScalar c rest).map fun cs => (bs, false, cs)
      let (bs, cs) ← skipClosing bs (!opened) (cs.length + 1) cs
      match bs with
      | [] => .ok cs
      | .list :: _ => skipLoop fuel bs cs
      | .object :: _ => do
        let cs ← skipName cs
        skipLoop fuel bs cs

/-- Pass over one value. Each step takes a character off the text. -/
def skipValue (cs : List Char) : Except Failure (List Char) := skipLoop (cs.length + 1) [] cs

end PanelScript.Json

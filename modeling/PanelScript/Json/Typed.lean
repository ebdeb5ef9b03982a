import PanelScript.Json.Reader

/-!
# Typed readers

A record is read from a text without building a tree first, so that a wrong shape is reported where
it stands, even if the text behind it is no JSON.

* `Json.readStringAs`, `Json.readUnit`, `Json.readVariant` read the leaves;
* `Json.foldMembers` reads the members of a record one after the other, in document order;
* `Json.readElement` reads one place of a record that is written as a list.
-/

namespace PanelScript.Json

/-- Refuse the value at the front of the text, which is not what was expected. A scalar is read
first, since its text may be no JSON. -/
def wrongType {α : Type} (expected : String) (cs : List Char) : Except Failure α :=
  let report (found : Found) (rest : List Char) : Except Failure α :=
    mismatchAt (.invalidType found expected) rest
  match cs with
  | [] => refuse .expectedValue []
  | c :: rest =>
    if c = 'n' then readIdent "ull".toList rest >>= report .null
    else if c = 't' then readIdent "rue".toList rest >>= report (.bool true)
    else if c = 'f' then readIdent "alse".toList rest >>= report (.bool false)
    else if c = '-' then readNumber true rest >>= fun (n, rest) => report (found (.num n)) rest
    else if c.isDigit then
      readNumber false (c :: rest) >>= fun (n, rest) => report (found (.num n)) rest
    else if c = '"' then readString rest >>= fun (s, rest) => report (.str s) rest
    else if c = '[' then report .sequence (c :: rest)
    else if c = '\x7b' then report .map (c :: rest)
    else refuseNext .expectedValue (c :: rest)

/-- A string. -/
def readStringAs (expected : String) : Reader String := fun cs =>
  match skipSpace cs with
  | [] => refuse .endInValue []
  | '"' :: rest => readString rest
  | rest => wrongType expected rest

/-- A `null`. -/
def readUnit (cs : List Char) : Except Failure (List Char) :=
  match skipSpace cs with
  | [] => refuse .endInValue []
  | 'n' :: rest => readIdent "ull".toList rest
  | rest => wrongType "unit" rest

/-- A natural number below a bound. -/
def readNatBelow (bound : Nat) (expected : String) : Reader Nat := fun cs =>
  let check : Number × List Char → Except Failure (Nat × List Char)
    | (.int n, rest) =>
      if 0 ≤ n ∧ n < bound then .ok (n.toNat, rest)
      else mismatchAt (.invalidValue (.integer n) expected) rest
    | (.real x, rest) => mismatchAt (.invalidType (.real x) expected) rest
  match skipSpace cs with
  | [] => refuse .endInValue []
  | c :: rest =>
    if c = '-' then readNumber true rest >>= check
    else if c.isDigit then readNumber false (c :: rest) >>= check
    else wrongType expected (c :: rest)

/-- A list of things that one reader reads. -/
def readListAs {α : Type} (expected : String) (read : Reader α) : Reader (List α) := fun cs =>
  match skipSpace cs with
  | [] => refuse .endInValue []
  | '[' :: rest => readList read rest
  | rest => wrongType expected rest

/-- One of the given names. -/
def checkVariant (names : List String) (name : String) (rest : List Char) :
    Except Failure String :=
  if name ∈ names then .ok name else mismatchAt (.unknownVariant name names) rest

/-- One of the given names: as a string, or as the only member of an object, with `null`. -/
def readVariant (names : List String) : Reader String := fun cs =>
  match skipSpace cs with
  | [] => refuse .endInValue []
  | '"' :: rest => do
    let (s, rest) ← readString rest
    let s ← checkVariant names s rest
    .ok (s, rest)
  | '\x7b' :: rest => do
    let (s, rest) ← readStringAs "variant identifier" rest
    let s ← checkVariant names s rest
    let rest ← readColon rest
    let rest ← readUnit rest
    match skipSpace rest with
    | '\x7d' :: rest => .ok (s, rest)
    | [] => refuse .endInObject []
    | rest => refuse .expectedValue rest
  | rest => refuseNext .expectedValue rest

/-! ### Records -/

/-- Read the members of an open object, at most `fuel` of them: `readName` reads the name of a
member behind its quote, `step` takes what was read so far and the name, and reads colon and
value. -/
def foldMembersBy {σ : Type} (readName : Reader String) (step : σ → String → Reader σ) :
    Nat → Bool → σ → Reader σ
  | 0, _, _, cs => refuse .endInObject cs
  | fuel + 1, first, s, cs => do
    let (more, cs) ← nextMember first cs
    if more then
      let (name, cs) ← readName cs
      let (s, cs) ← step s name cs
      foldMembersBy readName step fuel false s cs
    else .ok (s, cs)

/-- Read the members of an open object of a text. -/
def foldMembers {σ : Type} (step : σ → String → Reader σ) : Nat → Bool → σ → Reader σ :=
  foldMembersBy readString step

/-- A member that may stand once: its value, unless it was read before. -/
def readOnce {α : Type} (name : String) (before : Option α) (read : Reader α) :
    Reader (Option α) := fun cs =>
  if before.isSome then mismatchAt (.duplicateField name) cs
  else do
    let cs ← readColon cs
    let (v, cs) ← read cs
    .ok (some v, cs)

/-- Pass over the colon and the value of a member. -/
def skipMember (cs : List Char) : Except Failure (List Char) := do
  let cs ← readColon cs
  skipValue cs

/-- A member that has to stand. -/
def required {α : Type} (name : String) (v : Option α) (rest : List Char) : Except Failure α :=
  match v with
  | some v => .ok v
  | none => mismatchAt (.missingField name) rest

/-- The place with a given number in a record that is written as a list; `none` if the list is
shorter. -/
def readElement? {α : Type} (index : Nat) (read : Reader α) : Reader (Option α) := fun cs => do
  let (more, cs) ← nextItem (index == 0) cs
  if more then
    let (v, cs) ← read cs
    .ok (some v, cs)
  else .ok (none, cs)

/-- A place that has to be there. -/
def readElement {α : Type} (index : Nat) (expected : String) (read : Reader α) : Reader α :=
  fun cs => do
    let (v, cs) ← readElement? index read cs
    match v with
    | some v => .ok (v, cs)
    | none => mismatchAt (.invalidLength index expected) cs

/-- A record: an object read by `members`, or a list read by `elements`. -/
def readRecord {α : Type} (expected : String) (members elements : Reader α) : Reader α := fun cs =>
  match skipSpace cs with
  | [] => refuse .endInValue []
  | '\x7b' :: rest => do
    let (v, rest) ← members rest
    let rest ← endObject rest
    .ok (v, rest)
  | '[' :: rest => do
    let (v, rest) ← elements rest
    let rest ← endList rest
    .ok (v, rest)
  | rest => wrongType expected rest

end PanelScript.Json

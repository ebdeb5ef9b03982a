import PanelScript.Json.Failure

/-!
# Numerals and strings of a JSON text

The two kinds of JSON tokens that carry data, read off the front of a text. A reader takes the text
and gives what it read with the rest of the text.

* `Json.readNumber` reads an integer of 64 bits exactly and any other numeral as a fraction;
* `Json.readString` reads up to the closing quote, with its escapes resolved;
* `Json.skipNumber` and `Json.skipString` pass over a numeral or a string without its value.
-/

namespace PanelScript.Json

-- Powers are those of the core library.
attribute [local instance (2000)] instPowNat

/-- A reader takes something off the front of a text. -/
abbrev Reader (α : Type) := List Char → Except Failure (α × List Char)

/-- The four blanks that may stand between tokens. -/
def isSpace (c : Char) : Bool := c = ' ' || c = '\n' || c = '\t' || c = '\r'

/-- The text behind its leading blanks. -/
def skipSpace (cs : List Char) : List Char := cs.dropWhile isSpace

/-- The value of a digit. -/
def digitValue (c : Char) : Nat := c.toNat - '0'.toNat

/-- Whether a text goes on with a digit. -/
def startsWithDigit : List Char → Bool
  | c :: _ => c.isDigit
  | [] => false

/-! ### Numerals -/

/-- Digits taken as long as the number they form with those before fits a word: the number, how
many digits were taken, and the rest. -/
def gather (significand : Nat) : List Char → Nat × Nat × List Char
  | [] => (significand, 0, [])
  | c :: rest =>
    if c.isDigit ∧ significand * 10 + digitValue c ≤ maxWord then
      let (n, taken, rest) := gather (significand * 10 + digitValue c) rest
      (n, taken + 1, rest)
    else (significand, 0, c :: rest)

/-- The length of the digits at the front, and the rest. -/
def passDigits (cs : List Char) : Nat × List Char :=
  ((cs.takeWhile Char.isDigit).length, cs.dropWhile Char.isDigit)

/-- The fraction with the given digits and exponent, refused past the greatest number. -/
def fraction (negative : Bool) (significand : Nat) (exponent : Int) : Reader Number := fun cs =>
  match realOfDecimal negative significand exponent with
  | some x => .ok (.real x, cs)
  | none => refuse .numberOutOfRange cs

/-- The greatest value that an exponent may be written with. -/
def maxExponent : Nat := 2 ^ (31 : Nat) - 1

/-- The digits of an exponent behind its first: the exponent, or `none` past the greatest one. -/
def exponentDigits (value : Nat) : List Char → Option Nat × List Char
  | [] => (some value, [])
  | c :: rest =>
    if c.isDigit then
      if maxExponent < value * 10 + digitValue c then (none, rest)
      else exponentDigits (value * 10 + digitValue c) rest
    else (some value, c :: rest)

/-- The sign of an exponent, true if it is negative. -/
def exponentSign : List Char → Bool × List Char
  | '+' :: rest => (false, rest)
  | '-' :: rest => (true, rest)
  | cs => (false, cs)

/-- The exponent of a numeral, behind its mark. -/
def readExponent (negative : Bool) (significand : Nat) (start : Int) : Reader Number := fun cs =>
  let (downwards, cs) := exponentSign cs
  match cs with
  | [] => refuse .endInValue []
  | c :: rest =>
    if c.isDigit then
      match exponentDigits (digitValue c) rest with
      | (some value, rest) =>
        fraction negative significand (if downwards then start - value else start + value) rest
      | (none, rest) =>
        if significand ≠ 0 ∧ !downwards then refuse .numberOutOfRange rest
        else .ok (.real (.zero negative), (passDigits rest).2)
    else refuse .invalidNumber rest

/-- What may follow the digits of a fraction: an exponent. -/
def fractionTail (negative : Bool) (significand : Nat) (exponent : Int) : Reader Number := fun cs =>
  match cs with
  | 'e' :: rest | 'E' :: rest => readExponent negative significand exponent rest
  | _ => fraction negative significand exponent cs

/-- The digits behind the point. Digits that no longer fit the word are passed over. -/
def readFraction (negative : Bool) (significand : Nat) (exponent : Int) : Reader Number := fun cs =>
  let (n, taken, rest) := gather significand cs
  if startsWithDigit rest then
    fractionTail negative n (exponent - taken) (passDigits rest).2
  else if taken = 0 then
    if rest.isEmpty then refuse .endInValue [] else refuseNext .invalidNumber rest
  else fractionTail negative n (exponent - taken) rest

/-- An integer that stands alone. A negative one below the range, and `-0`, are fractions. -/
def wholeNumber (negative : Bool) (significand : Nat) : Number :=
  if !negative then .int significand
  else if significand = 0 then .real (.zero true)
  else if significand ≤ 2 ^ (63 : Nat) then .int (-significand)
  else .real (Binary64.ofNat significand).neg

/-- What may follow the digits of an integer. -/
def readTail (negative : Bool) (significand : Nat) : Reader Number := fun cs =>
  match cs with
  | '.' :: rest => readFraction negative significand 0 rest
  | 'e' :: rest | 'E' :: rest => readExponent negative significand 0 rest
  | _ => .ok (wholeNumber negative significand, cs)

/-- What may follow an integer whose last `extra` digits no longer fitted the word. -/
def readLongTail (negative : Bool) (significand extra : Nat) : Reader Number := fun cs =>
  match cs with
  | '.' :: rest => readFraction negative significand extra rest
  | _ => fractionTail negative significand extra cs

/-- A numeral, behind its sign. -/
def readNumber (negative : Bool) : Reader Number := fun cs =>
  match cs with
  | [] => refuse .endInValue []
  | '0' :: rest =>
    if startsWithDigit rest then refuseNext .invalidNumber rest else readTail negative 0 rest
  | c :: rest =>
    if c.isDigit then
      let (n, _, rest) := gather (digitValue c) rest
      if startsWithDigit rest then
        let (extra, rest) := passDigits rest
        readLongTail negative n extra rest
      else readTail negative n rest
    else refuse .invalidNumber rest

/-- Pass over an exponent, behind its mark. -/
def skipExponent (cs : List Char) : Except Failure (List Char) :=
  let rest := (exponentSign cs).2
  if startsWithDigit rest then .ok (passDigits rest).2 else refuse .invalidNumber (rest.drop 1)

/-- Pass over what may follow the digits of an integer. -/
def skipTail (cs : List Char) : Except Failure (List Char) :=
  match cs with
  | '.' :: rest =>
    match passDigits rest with
    | (0, rest) => refuseNext .invalidNumber rest
    | (_, 'e' :: rest) | (_, 'E' :: rest) => skipExponent rest
    | (_, rest) => .ok rest
  | 'e' :: rest | 'E' :: rest => skipExponent rest
  | _ => .ok cs

/-- Pass over a numeral, behind its sign. -/
def skipNumber (cs : List Char) : Except Failure (List Char) :=
  match cs with
  | '0' :: rest => if startsWithDigit rest then refuseNext .invalidNumber rest else skipTail rest
  | c :: rest =>
    if c.isDigit then skipTail (passDigits rest).2 else refuse .invalidNumber rest
  | [] => refuse .invalidNumber []

/-! ### Strings -/

/-- The value of a hexadecimal digit. -/
def hexValue (c : Char) : Option Nat :=
  if c.isDigit then some (digitValue c)
  else if 'a' ≤ c ∧ c ≤ 'f' then some (c.toNat - 'a'.toNat + 10)
  else if 'A' ≤ c ∧ c ≤ 'F' then some (c.toNat - 'A'.toNat + 10)
  else none

/-- Four hexadecimal digits. -/
def readHex (cs : List Char) : Except Failure (Nat × List Char) :=
  if byteCount (cs.take 4) < 4 then refuse .endInString []
  else
    match cs with
    | a :: b :: c :: d :: rest =>
      match hexValue a, hexValue b, hexValue c, hexValue d with
      | some a, some b, some c, some d => .ok (((a * 16 + b) * 16 + c) * 16 + d, rest)
      | _, _, _, _ => .error ⟨.ill .invalidEscape, some (byteCount cs - 4)⟩
    | _ => .error ⟨.ill .invalidEscape, some (byteCount cs - 4)⟩

/-- The first half of a pair of surrogates. -/
def isHighSurrogate (n : Nat) : Bool := 0xd800 ≤ n && n ≤ 0xdbff

/-- The second half of a pair of surrogates. -/
def isLowSurrogate (n : Nat) : Bool := 0xdc00 ≤ n && n ≤ 0xdfff

/-- A character given by number. Two surrogates make one character; one alone is refused. -/
def readUnicode : Reader Char := fun cs => do
  let (n, cs) ← readHex cs
  if isLowSurrogate n then refuse .loneSurrogate cs
  else if isHighSurrogate n then
    match cs with
    | [] => refuse .endInString []
    | '\\' :: [] => refuse .endInString []
    | '\\' :: 'u' :: rest =>
      let (m, rest) ← readHex rest
      if isLowSurrogate m then
        .ok (Char.ofNat ((n - 0xd800) * 0x400 + (m - 0xdc00) + 0x10000), rest)
      else refuse .loneSurrogate rest
    | '\\' :: rest => refuseNext .endOfHexEscape rest
    | rest => refuseNext .endOfHexEscape rest
  else .ok (Char.ofNat n, cs)

/-- The escapes of one letter. -/
def shortEscape : Char → Option Char
  | '"' => some '"'
  | '\\' => some '\\'
  | '/' => some '/'
  | 'b' => some '\x08'
  | 'f' => some '\x0c'
  | 'n' => some '\n'
  | 'r' => some '\r'
  | 't' => some '\t'
  | _ => none

/-- An escaped character, behind the backslash. -/
def readEscape : Reader Char := fun cs =>
  match cs with
  | [] => refuse .endInString []
  | 'u' :: rest => readUnicode rest
  | c :: rest =>
    match shortEscape c with
    | some c => .ok (c, rest)
    | none => refuse .invalidEscape rest

/-- The characters up to the closing quote, in at most `fuel` of them. -/
def stringBody : Nat → Reader (List Char)
  | 0, cs => refuse .endInString cs
  | fuel + 1, cs =>
    match cs with
    | [] => refuse .endInString []
    | '"' :: rest => .ok ([], rest)
    | '\\' :: rest => do
      let (c, rest) ← readEscape rest
      let (s, rest) ← stringBody fuel rest
      .ok (c :: s, rest)
    | c :: rest =>
      if c.toNat < 0x20 then refuse .controlCharacter rest
      else do
        let (s, rest) ← stringBody fuel rest
        .ok (c :: s, rest)

/-- A string, behind its opening quote. Each character read takes one off the text, so that the
length of the text bounds their number. -/
def readString : Reader String := fun cs => do
  let (s, rest) ← stringBody (cs.length + 1) cs
  .ok (String.ofList s, rest)

/-- Pass over an escaped character, behind the backslash. Any four hexadecimal digits will do. -/
def skipEscape (cs : List Char) : Except Failure (List Char) :=
  match cs with
  | [] => refuse .endInString []
  | 'u' :: rest => (readHex rest).map (·.2)
  | c :: rest => if (shortEscape c).isSome then .ok rest else refuse .invalidEscape rest

/-- Pass over the characters up to the closing quote, at most `fuel` of them. -/
def skipBody : Nat → List Char → Except Failure (List Char)
  | 0, cs => refuse .endInString cs
  | fuel + 1, cs =>
    match cs with
    | [] => refuse .endInString []
    | '"' :: rest => .ok rest
    | '\\' :: rest => skipEscape rest >>= skipBody fuel
    | c :: rest =>
      if c.toNat < 0x20 then refuse .controlCharacter (c :: rest) else skipBody fuel rest

/-- Pass over a string, behind its opening quote. -/
def skipString (cs : List Char) : Except Failure (List Char) := skipBody (cs.length + 1) cs

end PanelScript.Json

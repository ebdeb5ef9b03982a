import PanelScript.Decimal.Binary64

/-!
# Reading a decimal

The text of a number as people write it: a sign, digits with a point, an exponent, or a name for an
infinity or for no number at all. The result is the nearest number to the decimal, computed exactly.

* `Binary64.ofDecimal` is the number nearest to a decimal;
* `Binary64.parse?` reads a whole text.
-/

namespace PanelScript.Binary64

-- Powers are those of the core library.
attribute [local instance (2000)] instPowNat

/-- The number nearest to `± coefficient · 10 ^ exponent`. Decimals of a size far outside the range
are decided by their size alone. -/
def ofDecimal (negative : Bool) (coefficient : Nat) (exponent : Int) : Binary64 :=
  let lead := exponent + (Nat.toDigits 10 coefficient).length
  if coefficient = 0 ∨ lead < -400 then zero negative
  else if 400 < lead then infinity negative
  else ofRatio negative (coefficient * 10 ^ exponent.toNat) (10 ^ (-exponent).toNat)

/-- The number that digits form behind those before. -/
def appendDigits (n : Nat) (digits : List Char) : Nat :=
  digits.foldl (fun n c => n * 10 + (c.toNat - '0'.toNat)) n

/-- An exponent's value. Past a bound that no digits can make up for, further digits do not
count. -/
def exponentValue (digits : List Char) : Nat :=
  digits.foldl (fun n c => if n < 0x10000 then n * 10 + (c.toNat - '0'.toNat) else n) 0

/-- The names that stand for no finite number, in any case. -/
def ofName? (negative : Bool) (cs : List Char) : Option Binary64 :=
  let name := String.ofList (cs.map Char.toLower)
  if name = "inf" ∨ name = "infinity" then some (infinity negative)
  else if name = "nan" then some nan
  else none

/-- The exponent behind the digits: a mark, perhaps a sign, and at least one digit. -/
def readExponent : List Char → Option Int
  | [] => some 0
  | mark :: rest =>
    if mark = 'e' ∨ mark = 'E' then
      let (negative, digits) := match rest with
        | '-' :: digits => (true, digits)
        | '+' :: digits => (false, digits)
        | digits => (false, digits)
      if !digits.isEmpty ∧ digits.all Char.isDigit then
        let n : Int := exponentValue digits
        some (if negative then -n else n)
      else none
    else none

/-- A decimal without its sign: digits on at least one side of the point, then an exponent. -/
def readUnsigned (negative : Bool) (cs : List Char) : Option Binary64 :=
  let whole := cs.takeWhile Char.isDigit
  let (places, rest) := match cs.dropWhile Char.isDigit with
    | '.' :: rest => (rest.takeWhile Char.isDigit, rest.dropWhile Char.isDigit)
    | rest => ([], rest)
  if whole.isEmpty ∧ places.isEmpty then ofName? negative cs
  else
    (readExponent rest).map fun exponent =>
      ofDecimal negative (appendDigits (appendDigits 0 whole) places) (exponent - places.length)

/-- Read a number from a whole text. -/
def parse? (cs : List Char) : Option Binary64 :=
  match cs with
  | '-' :: rest => readUnsigned true rest
  | '+' :: rest => readUnsigned false rest
  | rest => readUnsigned false rest

end PanelScript.Binary64

import PanelScript.Decimal.Shortest
import PanelScript.Json.Basic

/-!
# Numerals

The text of a number. An integer of 64 bits is written in decimal; any other number is a fraction,
written with the fewest digits that read back. A fraction is read by its first digits, as many as
fit a word, which are rounded and then scaled by one power of ten.

* `Json.realText` and `Json.Number.text` write a number;
* `Json.scaleByTen` is the scaling of the digits that were read.
-/

namespace PanelScript.Json

-- Powers are those of the core library.
attribute [local instance (2000)] instPowNat

/-- The decimal exponents that are written positionally; others are written with an exponent. -/
def positional (exponent : Int) : Bool := -5 ≤ exponent && exponent ≤ 15

/-- Digits with a point after the first `whole` of them, at least one digit on either side. -/
def pointed (digits : List Char) (whole : Int) : List Char :=
  if whole ≤ 0 then ['0', '.'] ++ List.replicate (-whole).toNat '0' ++ digits
  else
    let n := whole.toNat
    let front := digits.take n ++ List.replicate (n - digits.length) '0'
    front ++ '.' :: (if digits.length ≤ n then ['0'] else digits.drop n)

/-- Digits with a point after the first and an exponent with its sign. -/
def scientific (digits : List Char) (exponent : Int) : List Char :=
  digits.take 1 ++ (if digits.length ≤ 1 then [] else '.' :: digits.drop 1) ++
    ['e', if exponent < 0 then '-' else '+'] ++ Nat.toDigits 10 exponent.natAbs

/-- The shortest text of a fraction that reads back; what is not finite has a name. -/
def realText (x : Binary64) : String :=
  match x.view with
  | .nan => "NaN"
  | .infinite negative => if negative then "-inf" else "inf"
  | .finite negative significand exponent =>
    let sign := if negative then ['-'] else []
    if significand = 0 then String.ofList (sign ++ "0.0".toList)
    else
      let d := Shortest.digits significand exponent
      let digits := Nat.toDigits 10 d.coefficient
      let lead := d.exponent + digits.length - 1
      String.ofList <| sign ++
        if positional lead then pointed digits (lead + 1) else scientific digits lead

/-- An integer in decimal. -/
def intText (n : Int) : List Char :=
  (if n < 0 then ['-'] else []) ++ Nat.toDigits 10 n.natAbs

/-- The text of a number. -/
def Number.text : Number → List Char
  | .int n => intText n
  | .real x => (realText x).toList

/-! ### The value of a fraction that was read -/

/-- The greatest word. -/
def maxWord : Nat := 2 ^ (64 : Nat) - 1

/-- A power of ten, rounded. -/
def powerOfTen (n : Nat) : Binary64 := .ofNat (10 ^ n)

/-- `f` times a power of ten, in steps of at most `10 ^ 308`; `none` past the greatest number. The
steps downwards end in zero at the latest with the third. -/
def scaleByTen : Nat → Binary64 → Int → Option Binary64
  | 0, f, _ => some f
  | fuel + 1, f, exponent =>
    if exponent.natAbs ≤ 308 then
      if 0 ≤ exponent then
        let g := f.mul (powerOfTen exponent.natAbs)
        if g.isInfinite then none else some g
      else some (f.div (powerOfTen exponent.natAbs))
    else if f.isZero then some f
    else if 0 ≤ exponent then none
    else scaleByTen fuel (f.div (powerOfTen 308)) (exponent + 308)

/-- `± significand · 10 ^ exponent`, the significand rounded before it is scaled; `none` past the
greatest number. -/
def realOfDecimal (negative : Bool) (significand : Nat) (exponent : Int) : Option Binary64 :=
  (scaleByTen 4 (.ofNat significand) exponent).map fun f => if negative then f.neg else f

end PanelScript.Json

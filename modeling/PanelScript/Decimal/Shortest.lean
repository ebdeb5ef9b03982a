import PanelScript.Decimal.Binary64

/-!
# The shortest decimal that reads back

Among all decimals that round to a given finite number there is one with the fewest digits, and of
those the nearest to the number itself.

* `Shortest.Interval` is the set of reals that round to a number, in exact arithmetic;
* `Shortest.candidate` is the better of the two neighbours of the number on a decimal grid;
* `Shortest.digits` takes the coarsest grid that has a candidate.
-/

namespace PanelScript.Shortest

-- Powers are those of the core library.
attribute [local instance (2000)] instPowNat

/-- A positive decimal `coefficient · 10 ^ exponent`. -/
structure Decimal where
  coefficient : Nat
  exponent : Int
  deriving DecidableEq

/-- The reals that round to one number, all over a common denominator: from `low / den` to
`high / den` around `mid / den`, the ends included when `closed`. -/
structure Interval where
  low : Nat
  mid : Nat
  high : Nat
  den : Nat
  closed : Bool

/-- The reals that round to `significand · 2 ^ exponent`. Below a power of two the neighbours are
half as far apart, save at the bottom of the range. -/
def Interval.around (significand : Nat) (exponent : Int) : Interval :=
  let below := if significand = 2 ^ (52 : Nat) ∧ Binary64.minExponent < exponent then 1 else 2
  let (unit, den) := Binary64.scale 1 1 (exponent - 2)
  { low := (4 * significand - below) * unit
    mid := 4 * significand * unit
    high := (4 * significand + 2) * unit
    den
    closed := significand % 2 = 0 }

/-- Whether `num / den`, over the interval's own denominator, lies in the interval. -/
def Interval.contains (i : Interval) (num : Nat) : Bool :=
  if i.closed then i.low ≤ num && num ≤ i.high else i.low < num && num < i.high

/-- The interval with all reals multiplied by `10 ^ power`. -/
def Interval.shift (i : Interval) (power : Int) : Interval :=
  let up := 10 ^ power.toNat
  { i with low := i.low * up, mid := i.mid * up, high := i.high * up,
           den := i.den * 10 ^ (-power).toNat }

/-- The multiple of `10 ^ exponent` in the interval that is nearest to its middle, among the two
neighbours of the middle; the even one of two that are equally near. -/
def candidate (i : Interval) (exponent : Int) : Option Decimal :=
  let j := i.shift (-exponent)
  let down := j.mid / j.den
  let up := down + 1
  let toDown := j.mid - down * j.den
  let toUp := up * j.den - j.mid
  let downIn := j.contains (down * j.den)
  let upIn := j.contains (up * j.den)
  if downIn && upIn then
    if toDown < toUp then some ⟨down, exponent⟩
    else if toUp < toDown then some ⟨up, exponent⟩
    else some ⟨if down % 2 = 0 then down else up, exponent⟩
  else if downIn then some ⟨down, exponent⟩
  else if upIn then some ⟨up, exponent⟩
  else none

/-- The greatest `e` with `10 ^ e ≤ num / den`, searched downwards from `guess` for `fuel` steps. -/
def floorLog10 (num den : Nat) : Nat → Int → Int
  | 0, guess => guess
  | fuel + 1, guess =>
    if 10 ^ guess.toNat * den ≤ num * 10 ^ (-guess).toNat then guess
    else floorLog10 num den fuel (guess - 1)

/-- The first candidate on the grids from `exponent` downwards. -/
def search (i : Interval) : Nat → Int → Option Decimal
  | 0, _ => none
  | fuel + 1, exponent =>
    match candidate i exponent with
    | some d => some d
    | none => search i fuel (exponent - 1)

/-- Move factors of ten from the coefficient to the exponent. -/
def Decimal.normalize : Nat → Decimal → Decimal
  | 0, d => d
  | fuel + 1, d =>
    if d.coefficient ≠ 0 ∧ d.coefficient % 10 = 0 then
      normalize fuel ⟨d.coefficient / 10, d.exponent + 1⟩
    else d

/-- The shortest decimal that rounds to `significand · 2 ^ exponent`, for a positive significand.
Seventeen digits always suffice; one more grid is tried above the leading digit. -/
def digits (significand : Nat) (exponent : Int) : Decimal :=
  let i := Interval.around significand exponent
  let lead := floorLog10 i.mid i.den 700 310
  match search i 19 (lead + 1) with
  | some d => d.normalize 20
  | none => ⟨0, 0⟩

end PanelScript.Shortest

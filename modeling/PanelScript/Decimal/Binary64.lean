/-!
# Binary64 numbers

A binary floating-point number of 64 bits is kept as its bit pattern, and every operation on it is
exact arithmetic on integers followed by one rounding, so that each result can be computed inside a
proof.

* `Binary64` is the bit pattern; `Binary64.view` reads it as a NaN, an infinity, or `± m · 2 ^ q`;
* `Binary64.ofRatio` rounds a quotient of natural numbers to the nearest number, ties to even;
* `Binary64.add`, `Binary64.mul`, `Binary64.div` are the correctly rounded operations;
* `Binary64.toInt64` truncates toward zero and saturates, with NaN read as zero.
-/

namespace PanelScript

-- Powers are those of the core library.
attribute [local instance (2000)] instPowNat

/-- A floating-point number, as its 64 bits: sign, eleven bits of exponent, 52 of fraction. -/
structure Binary64 where
  /-- The bit pattern. -/
  bits : UInt64
  deriving DecidableEq, Inhabited

namespace Binary64

/-- What a bit pattern stands for. A finite number is `± significand · 2 ^ exponent`. -/
inductive View where
  | nan
  | infinite (negative : Bool)
  | finite (negative : Bool) (significand : Nat) (exponent : Int)
  deriving DecidableEq

/-- The bits below the sign, as a number. -/
def magnitude (x : Binary64) : Nat := x.bits.toNat % 2 ^ (63 : Nat)

/-- The sign bit. -/
def negative (x : Binary64) : Bool := 2 ^ (63 : Nat) ≤ x.bits.toNat

/-- The number with the given sign and the given bits below it. -/
def ofMagnitude (negative : Bool) (magnitude : Nat) : Binary64 :=
  ⟨UInt64.ofNat (if negative then 2 ^ (63 : Nat) + magnitude else magnitude)⟩

/-- The bits of an infinity below its sign; all greater ones are NaNs. -/
def infinityMagnitude : Nat := 2047 * 2 ^ (52 : Nat)

/-- The exponent of the least positive numbers. -/
def minExponent : Int := -1074

/-- Read the bit pattern. -/
def view (x : Binary64) : View :=
  let field : Nat := x.magnitude / 2 ^ (52 : Nat)
  let fraction : Nat := x.magnitude % 2 ^ (52 : Nat)
  if infinityMagnitude < x.magnitude then .nan
  else if x.magnitude = infinityMagnitude then .infinite x.negative
  else if field = 0 then .finite x.negative fraction minExponent
  else .finite x.negative (2 ^ (52 : Nat) + fraction) ((field : Int) + minExponent - 1)

/-- The NaN that operations return. -/
def nan : Binary64 := ofMagnitude false (infinityMagnitude + 2 ^ (51 : Nat))

/-- The infinity of the given sign. -/
def infinity (negative : Bool) : Binary64 := ofMagnitude negative infinityMagnitude

/-- The zero of the given sign. -/
def zero (negative : Bool) : Binary64 := ofMagnitude negative 0

/-- True of every NaN. -/
def isNaN (x : Binary64) : Bool := infinityMagnitude < x.magnitude

/-- Neither a NaN nor an infinity. -/
def isFinite (x : Binary64) : Bool := x.magnitude < infinityMagnitude

/-- True of both infinities. -/
def isInfinite (x : Binary64) : Bool := x.magnitude = infinityMagnitude

/-- True of both zeros. -/
def isZero (x : Binary64) : Bool := x.magnitude = 0

/-- The number with the opposite sign. -/
def neg (x : Binary64) : Binary64 := ofMagnitude (!x.negative) x.magnitude

/-- A quotient rounded to the nearest integer, a tie to the even one. -/
def roundDiv (num den : Nat) : Nat :=
  let quotient := num / den
  let twice := 2 * (num % den)
  if twice < den then quotient
  else if den < twice then quotient + 1
  else if quotient % 2 = 0 then quotient else quotient + 1

/-- `num / den · 2 ^ shift` as a quotient of natural numbers. -/
def scale (num den : Nat) (shift : Int) : Nat × Nat :=
  (num * 2 ^ shift.toNat, den * 2 ^ (-shift).toNat)

/-- The greatest `e` with `2 ^ e ≤ num / den`, for positive `num` and `den`. -/
def floorLog2 (num den : Nat) : Int :=
  let guess : Int := (Nat.log2 num : Int) - Nat.log2 den
  let (n, d) := scale num den (-guess)
  if n < d then guess - 1 else guess

/-- The number nearest to `± num / den`, a tie to the even significand. Quotients past the greatest
finite number become infinite. -/
def ofRatio (negative : Bool) (num den : Nat) : Binary64 :=
  if num = 0 then zero negative
  else
    let exponent := max (floorLog2 num den - 52) minExponent
    let (n, d) := scale num den (-exponent)
    let rounded := (exponent - minExponent).toNat * 2 ^ (52 : Nat) + roundDiv n d
    ofMagnitude negative (min rounded infinityMagnitude)

/-- The number nearest to `± significand · 2 ^ exponent`. -/
def ofScaled (negative : Bool) (significand : Nat) (exponent : Int) : Binary64 :=
  let (n, d) := scale significand 1 exponent
  ofRatio negative n d

/-- The number nearest to a natural number. -/
def ofNat (n : Nat) : Binary64 := ofRatio false n 1

/-- The number nearest to an integer. -/
def ofInt (n : Int) : Binary64 := ofRatio (n < 0) n.natAbs 1

/-- A signed integer `± significand · 2 ^ (exponent - base)`, for `base ≤ exponent`. -/
def alignedTo (base : Int) (negative : Bool) (significand : Nat) (exponent : Int) : Int :=
  let n : Int := significand * 2 ^ (exponent - base).toNat
  if negative then -n else n

/-- The rounded sum. Two zeros keep a common sign; any other zero sum is positive. -/
def add (x y : Binary64) : Binary64 :=
  match x.view, y.view with
  | .nan, _ | _, .nan => nan
  | .infinite s, .infinite t => if s = t then infinity s else nan
  | .infinite s, _ | _, .infinite s => infinity s
  | .finite s m p, .finite t n q =>
    let base := min p q
    let sum := alignedTo base s m p + alignedTo base t n q
    if sum = 0 then zero (s && t) else ofScaled (sum < 0) sum.natAbs base

/-- The rounded product. -/
def mul (x y : Binary64) : Binary64 :=
  match x.view, y.view with
  | .nan, _ | _, .nan => nan
  | .infinite s, .infinite t => infinity (s != t)
  | .infinite s, .finite t m _ | .finite t m _, .infinite s =>
    if m = 0 then nan else infinity (s != t)
  | .finite s m p, .finite t n q => ofScaled (s != t) (m * n) (p + q)

/-- The rounded quotient. -/
def div (x y : Binary64) : Binary64 :=
  match x.view, y.view with
  | .nan, _ | _, .nan => nan
  | .infinite _, .infinite _ => nan
  | .infinite s, .finite t _ _ => infinity (s != t)
  | .finite s _ _, .infinite t => zero (s != t)
  | .finite s m p, .finite t n q =>
    if n = 0 then (if m = 0 then nan else infinity (s != t))
    else
      let (a, b) := scale m n (p - q)
      ofRatio (s != t) a b

/-- The least and the greatest signed integer of 64 bits. -/
def int64Min : Int := -2 ^ (63 : Nat)

@[inherit_doc int64Min] def int64Max : Int := 2 ^ (63 : Nat) - 1

/-- The integer part, toward zero, brought into the range of 64 signed bits; NaN reads as zero. -/
def toInt64 (x : Binary64) : Int :=
  match x.view with
  | .nan => 0
  | .infinite negative => if negative then int64Min else int64Max
  | .finite negative significand exponent =>
    let (n, d) := scale significand 1 exponent
    let whole : Int := n / d
    max int64Min (min int64Max (if negative then -whole else whole))

/-- The sixteen lower-case hexadecimal digits of the bit pattern. -/
def hex (x : Binary64) : String :=
  let digits := Nat.toDigits 16 x.bits.toNat
  String.ofList (List.replicate (16 - digits.length) '0' ++ digits)

end Binary64

end PanelScript

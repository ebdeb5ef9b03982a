import PanelScript.Json.Printer
import PanelScript.Json.Literal

/-!
# Universally unique identifiers

Identifiers of 128 bits, written as 32 hexadecimal digits in five groups with dashes.

* `Uuid.text` writes the grouped form in lower case;
* `Uuid.parse?` reads the plain, the grouped, the braced and the `urn` form, in either case;
* `Uuid.nth` is a supply of distinct identifiers.
-/

namespace PanelScript

-- Powers are those of the core library.
attribute [local instance (2000)] instPowNat

/-- An identifier of 128 bits. -/
structure Uuid where
  bits : BitVec 128
  deriving DecidableEq, Inhabited

namespace Uuid

/-- The 32 hexadecimal digits, the highest first. -/
def digits (u : Uuid) : List Char :=
  (List.range 32).map fun i => Json.hexDigit (u.bits.toNat / 16 ^ (31 - i) % 16)

/-- Put dashes behind the eighth, twelfth, sixteenth and twentieth digit. -/
def group (ds : List Char) : List Char :=
  ds.take 8 ++ '-' :: (ds.drop 8).take 4 ++ '-' :: (ds.drop 12).take 4 ++
    '-' :: (ds.drop 16).take 4 ++ '-' :: ds.drop 20

/-- The grouped form. -/
def write (u : Uuid) : List Char := group u.digits

@[inherit_doc write] def text (u : Uuid) : String := String.ofList u.write

/-- The plain form: 32 digits. -/
def ofDigits? (ds : List Char) : Option Uuid :=
  if ds.length = 32 then
    (ds.mapM Json.hexValue).map fun values =>
      ⟨BitVec.ofNat 128 (values.foldl (fun n d => n * 16 + d) 0)⟩
  else none

/-- The grouped form: 36 characters with dashes in their places. -/
def ofGrouped? (cs : List Char) : Option Uuid :=
  if cs.length = 36 ∧ cs[8]? = some '-' ∧ cs[13]? = some '-' ∧ cs[18]? = some '-' ∧
      cs[23]? = some '-' then
    ofDigits? (cs.take 8 ++ (cs.drop 9).take 4 ++ (cs.drop 14).take 4 ++ (cs.drop 19).take 4 ++
      cs.drop 24)
  else none

/-- Read an identifier in any of its forms. -/
def read? (cs : List Char) : Option Uuid :=
  if cs.length = 32 then ofDigits? cs
  else if cs.length = 36 then ofGrouped? cs
  else if cs.length = 38 ∧ cs.head? = some '\x7b' ∧ cs.getLast? = some '\x7d' then
    ofGrouped? ((cs.drop 1).take 36)
  else if cs.length = 45 ∧ cs.take 9 = "urn:uuid:".toList then ofGrouped? (cs.drop 9)
  else none

@[inherit_doc read?] def parse? (text : String) : Option Uuid := read? text.toList

/-- The identifier with a number. -/
def nth (n : Nat) : Uuid := ⟨BitVec.ofNat 128 n⟩

end Uuid

end PanelScript

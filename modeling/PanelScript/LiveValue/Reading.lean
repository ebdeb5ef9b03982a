import PanelScript.Decimal.Reader
import PanelScript.Json.Printer
import PanelScript.LiveValue.Basic

/-!
# Readings of a live value

A script may read a value as a number, an integer, a text or an array of numbers, whatever it is:
numbers read as numbers, enumerated values as their label, arrays by their elements.

* `Json.enum?` recognises an enumerated value, an object with an index and labels;
* `Json.numeric?` and `Json.reading` are the readings as a number and as a text;
* `LiveValue.number?`, `integer?`, `string`, `numbers` and `labels?` are the readings of a script.
-/

namespace PanelScript

namespace Json

/-- The number as a signed integer of 64 bits, if it is one. -/
def Number.int64? : Number → Option Int
  | .int n => if n ≤ Binary64.int64Max then some n else none
  | .real _ => none

/-- The binary number nearest to a number. -/
def Number.toBinary64 : Number → Binary64
  | .int n => .ofInt n
  | .real x => x

/-- The index and the labels of an enumerated value, `{"index": n, "labels": [...]}`. -/
def enum? (v : Json) : Option (Int × List Json) :=
  match v.member? "index", v.member? "labels" with
  | some (.num n), some (.arr labels) => n.int64?.map fun index => (index, labels)
  | _, _ => none

/-- The numeric reading: a number as itself, a truth value as 0 or 1, a text as the number it
spells, an array as its first element, an enumerated value as its index. -/
def numeric? : Json → Option Binary64
  | .num n => some n.toBinary64
  | .bool b => some (.ofNat b.toNat)
  | .str s => Binary64.parse? (trimBlank s.toList)
  | .arr (v :: _) => numeric? v
  | .arr [] => none
  | .obj members => (enum? (.obj members)).map fun (index, _) => .ofInt index
  | .null => none

/-- The place of an index in a list. -/
def at? {α : Type} (items : List α) (index : Int) : Option α :=
  if 0 ≤ index then items[index.toNat]? else none

mutual

/-- The text reading: nothing for a missing value, a text as itself, an array as its elements in
brackets, an enumerated value as the label at its index, or as the index if no label is there. -/
def reading : Json → List Char
  | .null => []
  | .str s => s.toList
  | .arr items => '[' :: separated ", ".toList (readings items) ++ [']']
  | .obj members =>
    match enum? (.obj members) with
    | some (index, _) => (at? (labelReadings members) index).getD (intText index)
    | none => write (.obj members)
  | .bool b => write (.bool b)
  | .num n => write (.num n)

/-- The text readings of the elements of an array. -/
def readings : List Json → List (List Char)
  | [] => []
  | v :: rest => reading v :: readings rest

/-- The text readings of the labels among the members of an enumerated value. -/
def labelReadings : List (String × Json) → List (List Char)
  | [] => []
  | (name, v) :: rest => if name = "labels" then arrayReadings v else labelReadings rest

/-- The text readings of the elements, if the value is an array. -/
def arrayReadings : Json → List (List Char)
  | .arr items => readings items
  | _ => []

end

/-- A label in words: a text as itself, anything else as its JSON text. -/
def labelText : Json → String
  | .str s => s
  | v => v.text

end Json

namespace LiveValue

/-- The reading as a number. -/
def number? (v : LiveValue) : Option Binary64 := v.value.numeric?

/-- The reading as an integer of 64 bits. An integer is read exactly, any other number is
truncated. -/
def integer? (v : LiveValue) : Option Int :=
  match v.value with
  | .num n => some (n.int64?.getD n.toBinary64.toInt64)
  | _ => v.number?.map Binary64.toInt64

/-- The reading as a text. -/
def string (v : LiveValue) : String := String.ofList v.value.reading

/-- The reading as an array: the numeric readings of the elements that have one. A single value is
an array of one element. -/
def numbers (v : LiveValue) : List Binary64 :=
  match v.value with
  | .arr items => items.filterMap Json.numeric?
  | other => other.numeric?.toList

/-- The labels of an enumerated value. -/
def labels? (v : LiveValue) : Option (List String) :=
  v.value.enum?.map fun (_, labels) => labels.map Json.labelText

/-- The time of the value, for people. -/
def timeText (v : LiveValue) : String := v.timestamp.display

end LiveValue

end PanelScript

import PanelScript.Json.Failure

/-!
# Decoding a tree

A record is taken out of a tree that was read before. The members of an object are looked at in
document order; members with unknown names are passed over, a known name may stand once.

* `Json.asString`, `Json.asWord32`, `Json.asVariant`, `Json.asList` decode the leaves;
* `Json.decodeMembers` folds over the members of a record, `Json.decodeOnce` takes one of them;
* `Json.element` and `Json.noMore` decode a record that is written as a list.
-/

namespace PanelScript.Json

-- Powers are those of the core library.
attribute [local instance (2000)] instPowNat

/-- A decoder takes something out of a tree. -/
abbrev Decoder (α : Type) := Json → Except Failure α

/-- Refuse a tree that is not what was expected. -/
def notA {α : Type} (expected : String) (v : Json) : Except Failure α :=
  mismatch (.invalidType v.found expected)

/-- A string. -/
def asString (expected : String) : Decoder String
  | .str s => .ok s
  | v => notA expected v

/-- A number of 32 bits. -/
def asWord32 : Decoder UInt32
  | .num (.int n) =>
    if 0 ≤ n ∧ n < 2 ^ (32 : Nat) then .ok (UInt32.ofNat n.toNat)
    else mismatch (.invalidValue (.integer n) "u32")
  | v => notA "u32" v

/-- A `null`, or an empty object in its place. -/
def asUnit : Decoder Unit
  | .null => .ok ()
  | .obj [] => .ok ()
  | v => notA "unit" v

/-- One of the given names. -/
def asName (names : List String) (name : String) : Except Failure String :=
  if name ∈ names then .ok name else mismatch (.unknownVariant name names)

/-- One of the given names: as a string, or as the only member of an object. -/
def asVariant (names : List String) : Decoder String
  | .str s => asName names s
  | .obj [(name, v)] => do
    let name ← asName names name
    asUnit v
    .ok name
  | .obj _ => mismatch (.invalidValue .map "map with a single key")
  | v => notA "string or map" v

/-- A value or `null`. -/
def asOption {α : Type} (decode : Decoder α) : Decoder (Option α)
  | .null => .ok none
  | v => (decode v).map some

/-- A list of things that one decoder takes. -/
def asList {α : Type} (decode : Decoder α) : Decoder (List α)
  | .arr items => items.mapM decode
  | v => notA "a sequence" v

/-- A value as such. -/
def asValue : Decoder Json := fun v => .ok v.canonical

/-! ### Records -/

/-- Take the members of a record one after the other. -/
def decodeMembers {σ : Type} (step : σ → String → Json → Except Failure σ) :
    σ → List (String × Json) → Except Failure σ
  | s, [] => .ok s
  | s, (name, v) :: rest => do
    let s ← step s name v
    decodeMembers step s rest

/-- A member that may stand once: its value, unless it was taken before. -/
def decodeOnce {α : Type} (name : String) (before : Option α) (decode : Decoder α) (v : Json) :
    Except Failure (Option α) :=
  if before.isSome then mismatch (.duplicateField name) else (decode v).map some

/-- A member that has to stand. -/
def need {α : Type} (name : String) : Option α → Except Failure α
  | some v => .ok v
  | none => mismatch (.missingField name)

/-- The place with a given number in a record that is written as a list; `none` if the list is
shorter. -/
def element? {α : Type} (items : List Json) (index : Nat) (decode : Decoder α) :
    Except Failure (Option α) :=
  match items[index]? with
  | some v => (decode v).map some
  | none => .ok none

/-- A place that has to be there. -/
def element {α : Type} (items : List Json) (index : Nat) (expected : String) (decode : Decoder α) :
    Except Failure α :=
  match items[index]? with
  | some v => decode v
  | none => mismatch (.invalidLength index expected)

/-- The list has no more than the given number of places. -/
def noMore (items : List Json) (count : Nat) : Except Failure Unit :=
  if items.length ≤ count then .ok ()
  else mismatch (.invalidLength items.length
    (if count = 1 then "1 element in sequence" else s!"{count} elements in sequence"))

/-- A record: an object or a list. -/
def asRecord {α : Type} (expected : String) (members : List (String × Json) → Except Failure α)
    (elements : List Json → Except Failure α) : Decoder α
  | .obj ms => members ms
  | .arr items => elements items
  | v => notA expected v

end PanelScript.Json

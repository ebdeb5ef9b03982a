/-!
# Environment variables

Settings come from environment variables. A value that is no text counts as unset.

* `Environment` holds the variables that are set, `Environment.get?` looks one up;
* `Environment.number` reads a variable that has to be a number of 64 bits.
-/

namespace PanelScript

-- Powers are those of the core library.
attribute [local instance (2000)] instPowNat

/-- The variables that are set, each with its value. -/
structure Environment where
  assignments : List (String × String)
  deriving DecidableEq

/-- The value of a variable has to be a number and is none. -/
structure SettingFault where
  name : String
  /-- What the number is for: a size, or a time. -/
  isSize : Bool
  deriving DecidableEq

/-- A variable cannot be given a value, which has a zero character. -/
structure UnsettableVariable where
  name : String
  deriving DecidableEq

/-- The words for a value that is no number. -/
def SettingFault.message (f : SettingFault) : String :=
  f.name ++ " must be a valid " ++ if f.isSize then "usize" else "u64"

/-- The number that a text of decimal digits denotes, if it has 64 bits; one `+` may stand in
front. -/
def word64? (text : String) : Option Nat :=
  let digits := match text.toList with
    | '+' :: rest => rest
    | cs => cs
  if digits.isEmpty ∨ ¬ digits.all Char.isDigit then none
  else
    let n := digits.foldl (fun n d => n * 10 + (d.toNat - '0'.toNat)) 0
    if n < 2 ^ (64 : Nat) then some n else none

namespace Environment

/-- The empty environment. -/
def empty : Environment := ⟨[]⟩

/-- The value of a variable. -/
def get? (env : Environment) (name : String) : Option String := env.assignments.lookup name

/-- Set a variable. -/
def set (env : Environment) (name value : String) : Environment :=
  ⟨(name, value) :: env.assignments⟩

/-- Unset a variable. -/
def unset (env : Environment) (name : String) : Environment :=
  ⟨env.assignments.filter fun (n, _) => n ≠ name⟩

/-- Set a variable unless it is set. -/
def supply (env : Environment) (name value : String) : Except UnsettableVariable Environment :=
  if (env.get? name).isSome then .ok env
  else if value.contains '\x00' then .error ⟨name⟩
  else .ok (env.set name value)

/-- The number in a variable, or `fallback` if it is unset. -/
def number (env : Environment) (name : String) (isSize : Bool) (fallback : Nat) :
    Except SettingFault Nat :=
  match env.get? name with
  | none => .ok fallback
  | some text =>
    match word64? text with
    | some n => .ok n
    | none => .error ⟨name, isSize⟩

@[simp] theorem get?_set (env : Environment) (name value : String) :
    (env.set name value).get? name = some value := by
  simp [get?, set]

end Environment

end PanelScript

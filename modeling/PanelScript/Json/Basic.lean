import PanelScript.Decimal.Binary64

/-!
# JSON trees

A JSON text denotes a tree. Integers are kept apart from fractions, since an integer of 64 bits is
carried exactly. A tree as written keeps the members of an object in document order, repetitions
included; its *canonical* form has them sorted by name, of a repeated name the last one.

* `Json` is the tree, `Json.Number` a number in it;
* `Json.canonical` is the value that a tree denotes;
* `Json.depth` counts the brackets around the innermost value;
* `Json.HasOnlyIntegers` says that every number is an integer of 64 bits.
-/

namespace PanelScript

-- Powers are those of the core library.
attribute [local instance (2000)] instPowNat

/-- A number of a JSON tree: an integer of 64 bits, signed or unsigned, or a binary fraction. -/
inductive Json.Number where
  | int (n : Int)
  | real (x : Binary64)
  deriving DecidableEq

/-- A JSON tree, the members of its objects in the order in which they stand. -/
inductive Json where
  | null
  | bool (b : Bool)
  | num (n : Json.Number)
  | str (s : String)
  | arr (items : List Json)
  | obj (members : List (String × Json))
  deriving Inhabited

namespace Json

mutual

/-- Equality of trees is decidable. -/
def decEq : (a b : Json) → Decidable (a = b)
  | .null, .null => isTrue rfl
  | .bool a, .bool b =>
    if h : a = b then isTrue (h ▸ rfl) else isFalse (fun e => h (Json.bool.inj e))
  | .num a, .num b =>
    if h : a = b then isTrue (h ▸ rfl) else isFalse (fun e => h (Json.num.inj e))
  | .str a, .str b =>
    if h : a = b then isTrue (h ▸ rfl) else isFalse (fun e => h (Json.str.inj e))
  | .arr a, .arr b =>
    match decEqItems a b with
    | isTrue h => isTrue (h ▸ rfl)
    | isFalse h => isFalse (fun e => h (Json.arr.inj e))
  | .obj a, .obj b =>
    match decEqMembers a b with
    | isTrue h => isTrue (h ▸ rfl)
    | isFalse h => isFalse (fun e => h (Json.obj.inj e))
  | .null, .bool _ | .null, .num _ | .null, .str _ | .null, .arr _ | .null, .obj _
  | .bool _, .null | .bool _, .num _ | .bool _, .str _ | .bool _, .arr _ | .bool _, .obj _
  | .num _, .null | .num _, .bool _ | .num _, .str _ | .num _, .arr _ | .num _, .obj _
  | .str _, .null | .str _, .bool _ | .str _, .num _ | .str _, .arr _ | .str _, .obj _
  | .arr _, .null | .arr _, .bool _ | .arr _, .num _ | .arr _, .str _ | .arr _, .obj _
  | .obj _, .null | .obj _, .bool _ | .obj _, .num _ | .obj _, .str _ | .obj _, .arr _ =>
    isFalse (by simp)

@[inherit_doc decEq] def decEqItems : (a b : List Json) → Decidable (a = b)
  | [], [] => isTrue rfl
  | [], _ :: _ => isFalse (by simp)
  | _ :: _, [] => isFalse (by simp)
  | a :: as, b :: bs =>
    match decEq a b, decEqItems as bs with
    | isTrue h, isTrue t => isTrue (h ▸ t ▸ rfl)
    | isFalse h, _ => isFalse (fun e => h (List.cons.inj e).1)
    | _, isFalse t => isFalse (fun e => t (List.cons.inj e).2)

@[inherit_doc decEq] def decEqMembers : (a b : List (String × Json)) → Decidable (a = b)
  | [], [] => isTrue rfl
  | [], _ :: _ => isFalse (by simp)
  | _ :: _, [] => isFalse (by simp)
  | (m, a) :: as, (n, b) :: bs =>
    if k : m = n then
      match decEq a b, decEqMembers as bs with
      | isTrue h, isTrue t => isTrue (k ▸ h ▸ t ▸ rfl)
      | isFalse h, _ => isFalse (fun e => h (Prod.mk.inj (List.cons.inj e).1).2)
      | _, isFalse t => isFalse (fun e => t (List.cons.inj e).2)
    else isFalse (fun e => k (Prod.mk.inj (List.cons.inj e).1).1)

end

instance : DecidableEq Json := decEq

/-- An integer as a tree. -/
def ofInt (n : Int) : Json := .num (.int n)

/-- A natural number as a tree. -/
def ofNat (n : Nat) : Json := ofInt n

/-- A binary fraction as a tree; what is not finite has no numeral and becomes `null`. -/
def ofReal (x : Binary64) : Json := if x.isFinite then .num (.real x) else .null

/-- A text or `null`. -/
def ofText? : Option String → Json
  | some s => .str s
  | none => .null

/-! ### Objects -/

/-- Put a member in its place by name, instead of any member of that name. -/
def insertMember (name : String) (value : Json) :
    List (String × Json) → List (String × Json)
  | [] => [(name, value)]
  | (n, v) :: rest =>
    if name < n then (name, value) :: (n, v) :: rest
    else if name = n then (name, value) :: rest
    else (n, v) :: insertMember name value rest

/-- The members sorted by name; of those with one name the last is kept. -/
def sortMembers (members : List (String × Json)) : List (String × Json) :=
  members.foldl (fun sorted (name, value) => insertMember name value sorted) []

mutual

/-- The value that a tree denotes: every object has its members sorted, and each name once. -/
def canonical : Json → Json
  | .arr items => .arr (canonicalItems items)
  | .obj members => .obj (sortMembers (canonicalMembers members))
  | .null => .null
  | .bool b => .bool b
  | .num n => .num n
  | .str s => .str s

@[inherit_doc canonical] def canonicalItems : List Json → List Json
  | [] => []
  | v :: rest => canonical v :: canonicalItems rest

@[inherit_doc canonical] def canonicalMembers : List (String × Json) → List (String × Json)
  | [] => []
  | (name, v) :: rest => (name, canonical v) :: canonicalMembers rest

end

/-- A value: a tree in canonical form. -/
def IsCanonical (v : Json) : Prop := v.canonical = v

instance (v : Json) : Decidable v.IsCanonical := inferInstanceAs (Decidable (_ = _))

/-- An object with the given members, in canonical order. -/
def object (members : List (String × Json)) : Json := .obj (sortMembers members)

/-- The member of that name, if the tree is an object that has one. -/
def member? (name : String) : Json → Option Json
  | .obj members => members.lookup name
  | _ => none

mutual

/-- A tree with every text in it changed, the names of members too. -/
def mapTexts (f : String → String) : Json → Json
  | .str s => .str (f s)
  | .arr items => .arr (mapItemTexts f items)
  | .obj members => .obj (mapMemberTexts f members)
  | .null => .null
  | .bool b => .bool b
  | .num n => .num n

@[inherit_doc mapTexts] def mapItemTexts (f : String → String) : List Json → List Json
  | [] => []
  | v :: rest => mapTexts f v :: mapItemTexts f rest

@[inherit_doc mapTexts] def mapMemberTexts (f : String → String) :
    List (String × Json) → List (String × Json)
  | [] => []
  | (name, v) :: rest => (f name, mapTexts f v) :: mapMemberTexts f rest

end

/-! ### Measures -/

mutual

/-- The number of brackets around the innermost value. -/
def depth : Json → Nat
  | .arr items => depthItems items + 1
  | .obj members => depthMembers members + 1
  | .null | .bool _ | .num _ | .str _ => 0

@[inherit_doc depth] def depthItems : List Json → Nat
  | [] => 0
  | v :: rest => max (depth v) (depthItems rest)

@[inherit_doc depth] def depthMembers : List (String × Json) → Nat
  | [] => 0
  | (_, v) :: rest => max (depth v) (depthMembers rest)

end

/-- The integers that a numeral carries exactly: those of 64 bits, signed or unsigned. -/
def IsWord (n : Int) : Prop := -2 ^ (63 : Nat) ≤ n ∧ n < 2 ^ (64 : Nat)

instance (n : Int) : Decidable (IsWord n) := inferInstanceAs (Decidable (_ ∧ _))

mutual

/-- Every number of the tree is an integer of 64 bits. -/
def HasOnlyIntegers : Json → Prop
  | .num (.int n) => IsWord n
  | .num (.real _) => False
  | .arr items => ItemsHaveOnlyIntegers items
  | .obj members => MembersHaveOnlyIntegers members
  | .null | .bool _ | .str _ => True

@[inherit_doc HasOnlyIntegers] def ItemsHaveOnlyIntegers : List Json → Prop
  | [] => True
  | v :: rest => HasOnlyIntegers v ∧ ItemsHaveOnlyIntegers rest

@[inherit_doc HasOnlyIntegers] def MembersHaveOnlyIntegers : List (String × Json) → Prop
  | [] => True
  | (_, v) :: rest => HasOnlyIntegers v ∧ MembersHaveOnlyIntegers rest

end

@[simp] theorem canonical_null : canonical .null = .null := by simp [canonical]

@[simp] theorem canonical_str (s : String) : canonical (.str s) = .str s := by simp [canonical]

@[simp] theorem canonical_num (n : Number) : canonical (.num n) = .num n := by simp [canonical]

@[simp] theorem canonical_bool (b : Bool) : canonical (.bool b) = .bool b := by simp [canonical]

@[simp] theorem sortMembers_nil : sortMembers [] = [] := rfl

end Json

end PanelScript

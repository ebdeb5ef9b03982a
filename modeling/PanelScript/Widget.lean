import PanelScript.Json.Basic
import PanelScript.PanelError

/-!
# Widgets

A script reads and writes the properties of the widget that triggered it. Which properties a widget
has is fixed when it is made; writing any other is refused.

* `Widget` is a widget with its properties;
* `Widget.property?` reads a property, `Widget.setProperty` writes one;
* `Widget.applyUpdates` writes several and passes over those that are refused.
-/

namespace PanelScript

/-- Values by name; of two entries with one name the first counts. -/
abbrev Properties := List (String × Json)

namespace Properties

/-- Give a property a value, in its place if it is there, else at the end. -/
def put (name : String) (value : Json) : Properties → Properties
  | [] => [(name, value)]
  | (n, v) :: rest => if n = name then (n, value) :: rest else (n, v) :: put name value rest

/-- The names of the properties. -/
def names (ps : Properties) : List String := ps.map Prod.fst

theorem lookup_put (ps : Properties) (name other : String) (value : Json) :
    (ps.put name value).lookup other = if other = name then some value else ps.lookup other := by
  have lookup_cons (n : String) (v : Json) (rest : Properties) :
      List.lookup other ((n, v) :: rest) = if other = n then some v else rest.lookup other := by
    by_cases h : other = n
    · simp [h]
    · have hb : (other == n) = false := by simp [h]
      simp only [List.lookup_cons, hb, h, if_false]
  induction ps with
  | nil => simp [put, lookup_cons]
  | cons p rest ih =>
    obtain ⟨n, v⟩ := p
    by_cases hn : n = name
    · subst hn
      by_cases h : other = n <;> simp [put, lookup_cons, h]
    · by_cases h : other = n
      · subst h; simp [put, lookup_cons, hn]
      · simp [put, lookup_cons, hn, h, ih]

end Properties

/-- A widget: its name as operators see it, its type, and its properties. -/
structure Widget where
  name : String
  type : String
  properties : Properties
  deriving DecidableEq

namespace Widget

/-- A widget with the given properties; of those with one name the last counts. -/
def ofProperties (name type : String) (properties : List (String × Json)) : Widget :=
  ⟨name, type, properties.foldl (fun ps (n, v) => Properties.put n v ps) []⟩

/-- The value of a property, if the widget has it. -/
def property? (w : Widget) (name : String) : Option Json := w.properties.lookup name

/-- Write a property that the widget has. -/
def setProperty (w : Widget) (name : String) (value : Json) : Except PanelError Widget :=
  if (w.property? name).isSome then
    .ok { w with properties := Properties.put name value w.properties }
  else .error (.unknownProperty w.name name)

/-- Write a property if the widget has it. -/
def trySetProperty (w : Widget) (name : String) (value : Json) : Widget :=
  match w.setProperty name value with
  | .ok w => w
  | .error _ => w

/-- Write properties in order, passing over those that the widget does not have. -/
def applyUpdates (w : Widget) (updates : List (String × Json)) : Widget :=
  updates.foldl (fun w (name, value) => w.trySetProperty name value) w

/-- The properties as an object. -/
def toJson (w : Widget) : Json := Json.object w.properties

end Widget

end PanelScript

import PanelScript.Outcome

/-!
# Lanes

A unit is pending from its admission until its execution ends. A lane is the set of pending units;
admission to it is the only gate, and whoever was admitted holds a guard that takes the unit out
again when it is let go.

* `Lane` is the set, with `Lane.enter?` and `Lane.release`;
* `LaneBoard` is any number of lanes with the guards that were given out.
-/

namespace PanelScript

/-- A lane: the pending units, in the order of their admission. -/
structure Lane where
  pending : List UnitId
  deriving DecidableEq

namespace Lane

/-- A lane in which nothing is pending. -/
def empty : Lane := ⟨[]⟩

/-- Whether a unit is pending. -/
def contains (l : Lane) (unit : UnitId) : Bool := unit ∈ l.pending

/-- The number of pending units. -/
def size (l : Lane) : Nat := l.pending.length

/-- Whether nothing is pending. -/
def isEmpty (l : Lane) : Bool := l.pending.isEmpty

/-- Admit a unit unless it is pending. -/
def enter? (l : Lane) (unit : UnitId) : Option Lane :=
  if l.contains unit then none else some ⟨l.pending ++ [unit]⟩

/-- Take a unit out. -/
def release (l : Lane) (unit : UnitId) : Lane := ⟨l.pending.filter (· ≠ unit)⟩

@[simp] theorem contains_empty (unit : UnitId) : empty.contains unit = false := rfl

theorem enter?_eq_none_iff {l : Lane} {unit : UnitId} :
    l.enter? unit = none ↔ l.contains unit = true := by
  simp [enter?]

theorem contains_of_enter? {l l' : Lane} {unit : UnitId} (h : l.enter? unit = some l')
    (other : UnitId) : l'.contains other = (l.contains other || other == unit) := by
  unfold enter? at h
  split at h
  · simp at h
  · obtain rfl := Option.some.inj h
    by_cases e : other = unit <;> simp [contains, e]

@[simp] theorem contains_release (l : Lane) (unit other : UnitId) :
    (l.release unit).contains other = (l.contains other && other != unit) := by
  by_cases e : other = unit <;> simp [release, contains, e]

end Lane

/-- The right to run a unit of a lane. -/
structure Guard where
  lane : Nat
  unit : UnitId
  deriving DecidableEq

/-- Any number of lanes, and the guards that were given out; one that was let go leaves its place
empty. -/
structure LaneBoard where
  lanes : List Lane
  guards : List (Option Guard)
  deriving DecidableEq

namespace LaneBoard

/-- Lanes in which nothing is pending. -/
def ofCount (lanes : Nat) : LaneBoard := ⟨List.replicate lanes .empty, []⟩

/-- A lane of the board. -/
def lane (b : LaneBoard) (lane : Nat) : Lane := (b.lanes[lane]?).getD .empty

/-- Ask for admission: the number of the new guard, unless the unit is pending in the lane. -/
def enter (b : LaneBoard) (lane : Nat) (unit : UnitId) : Option Nat × LaneBoard :=
  match b.lanes[lane]? with
  | none => (none, b)
  | some l =>
    match l.enter? unit with
    | none => (none, b)
    | some l => (some b.guards.length, ⟨b.lanes.set lane l, b.guards ++ [some ⟨lane, unit⟩]⟩)

/-- Let a guard go, at the end of its scope or by a panic that leaves it: whether it was still
held. -/
def letGo (b : LaneBoard) (guard : Nat) : Bool × LaneBoard :=
  match b.guards[guard]? with
  | some (some g) =>
    (true, ⟨b.lanes.set g.lane ((b.lane g.lane).release g.unit), b.guards.set guard none⟩)
  | _ => (false, b)

/-- The guards that are held. -/
def held (b : LaneBoard) : List Guard := b.guards.filterMap id

end LaneBoard

end PanelScript

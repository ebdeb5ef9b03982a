import PanelScript.Json.Printer

/-!
# JSON trees by items and members

A tree contains lists of trees. What is defined for trees and such lists together is said here of
the members of the lists, so that proofs need no recursion of their own.

* `Json.induction` is the induction over trees;
* `depthItems_le_iff` and `depthMembers_le_iff` say how deep a list of trees is;
* `itemsHaveOnlyIntegers_iff` and `membersHaveOnlyIntegers_iff` the same of its numbers;
* `writeItems_eq_map` and `writeMembers_eq_map` the same of its texts.
-/

namespace PanelScript.Json

/-- What holds of a list or an object if it holds of all that is in it, and of everything else,
holds of every tree. -/
@[induction_eliminator]
theorem induction {motive : Json → Prop} (null : motive .null) (bool : ∀ b, motive (.bool b))
    (num : ∀ n, motive (.num n)) (str : ∀ s, motive (.str s))
    (arr : ∀ items, (∀ v ∈ items, motive v) → motive (.arr items))
    (obj : ∀ members, (∀ p ∈ members, motive p.2) → motive (.obj members)) (v : Json) :
    motive v :=
  @Json.rec motive (fun items => ∀ v ∈ items, motive v) (fun members => ∀ p ∈ members, motive p.2)
    (fun p => motive p.2) null bool num str arr obj nofun
    (fun _ _ head tail => List.forall_mem_cons.2 ⟨head, tail⟩) nofun
    (fun _ _ head tail => List.forall_mem_cons.2 ⟨head, tail⟩) (fun _ _ h => h) v

theorem depthItems_le_iff {items : List Json} {d : Nat} :
    depthItems items ≤ d ↔ ∀ v ∈ items, v.depth ≤ d := by
  induction items with
  | nil => simp [depthItems]
  | cons v items ih => rw [depthItems, Nat.max_le, ih, List.forall_mem_cons]

theorem depthMembers_le_iff {members : List (String × Json)} {d : Nat} :
    depthMembers members ≤ d ↔ ∀ p ∈ members, p.2.depth ≤ d := by
  induction members with
  | nil => simp [depthMembers]
  | cons p members ih =>
    obtain ⟨name, v⟩ := p
    rw [depthMembers, Nat.max_le, ih, List.forall_mem_cons]

theorem depth_arr_le_iff {items : List Json} {d : Nat} :
    (arr items).depth ≤ d + 1 ↔ ∀ v ∈ items, v.depth ≤ d := by
  rw [depth, Nat.add_le_add_iff_right, depthItems_le_iff]

theorem depth_obj_le_iff {members : List (String × Json)} {d : Nat} :
    (obj members).depth ≤ d + 1 ↔ ∀ p ∈ members, p.2.depth ≤ d := by
  rw [depth, Nat.add_le_add_iff_right, depthMembers_le_iff]

theorem itemsHaveOnlyIntegers_iff {items : List Json} :
    ItemsHaveOnlyIntegers items ↔ ∀ v ∈ items, v.HasOnlyIntegers := by
  induction items with
  | nil => simp [ItemsHaveOnlyIntegers]
  | cons v items ih => rw [ItemsHaveOnlyIntegers, ih, List.forall_mem_cons]

theorem membersHaveOnlyIntegers_iff {members : List (String × Json)} :
    MembersHaveOnlyIntegers members ↔ ∀ p ∈ members, p.2.HasOnlyIntegers := by
  induction members with
  | nil => simp [MembersHaveOnlyIntegers]
  | cons p members ih =>
    obtain ⟨name, v⟩ := p
    rw [MembersHaveOnlyIntegers, ih, List.forall_mem_cons]

theorem writeItems_eq_map (items : List Json) : writeItems items = items.map write := by
  induction items with
  | nil => rfl
  | cons v items ih => rw [writeItems, ih, List.map_cons]

/-- The text of a member. -/
def writeMember (p : String × Json) : List Char := writeString p.1 ++ ':' :: p.2.write

theorem writeMembers_eq_map (members : List (String × Json)) :
    writeMembers members = members.map writeMember := by
  induction members with
  | nil => rfl
  | cons p members ih =>
    obtain ⟨name, v⟩ := p
    rw [writeMembers, ih, List.map_cons, writeMember]

/-- Behind the first of several texts each one follows a separator. -/
theorem separated_cons (separator t : List Char) (ts : List (List Char)) :
    separated separator (t :: ts) = t ++ ts.flatMap (separator ++ ·) := by
  induction ts generalizing t with
  | nil => simp [separated]
  | cons u ts ih =>
    show t ++ separator ++ separated separator (u :: ts) = _
    rw [ih, List.flatMap_cons, List.append_assoc, List.append_assoc]

end PanelScript.Json

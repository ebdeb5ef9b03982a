/-!
# Lists of participants

The participants of a machine are kept in lists: one is added at the end, and a step replaces one.

* `countP_set_add` and `countP_concat`: how a count changes by it, `sum_map_set_add`: how a sum over
  the participants does, `length_flatMap_set_add`: how the number of what they have does;
* `two_le_countP`: two participants at different places are counted twice;
* `getElem?_set_ite` and `getElem?_concat_ite`: who is at a place afterwards;
* `getElem?_set_eq_some` and `getElem?_concat`: where a participant comes from;
* `prefix_concat_of_getElem?`: a beginning of a list that goes one further.
-/

namespace PanelScript

-- The zero of a sum is that of the core library.
attribute [local instance (2000)] Zero.ofOfNat0

theorem countP_set_add {α : Type} {l : List α} {i : Nat} {x : α} (h : l[i]? = some x) (y : α)
    (p : α → Bool) : (l.set i y).countP p + (p x).toNat = l.countP p + (p y).toNat := by
  induction l generalizing i with
  | nil => simp at h
  | cons z l ih =>
    cases i with
    | zero =>
      obtain rfl : z = x := by simpa using h
      cases hz : p z <;> cases hy : p y <;> simp [hz, hy]
    | succ i =>
      have := ih (by simpa using h)
      simp only [List.set_cons_succ, List.countP_cons]
      omega

theorem countP_concat {α : Type} (l : List α) (x : α) (p : α → Bool) :
    (l ++ [x]).countP p = l.countP p + (p x).toNat := by
  rw [List.countP_append, List.countP_singleton]
  cases p x <;> rfl

theorem length_flatMap_set_add {α β : Type} {l : List α} {i : Nat} {x : α} (h : l[i]? = some x)
    (y : α) (f : α → List β) :
    ((l.set i y).flatMap f).length + (f x).length = (l.flatMap f).length + (f y).length := by
  induction l generalizing i with
  | nil => cases h
  | cons z l ih =>
    cases i with
    | zero =>
      obtain rfl : z = x := by simpa using h
      simp only [List.set_cons_zero, List.flatMap_cons, List.length_append]
      omega
    | succ i =>
      have := ih (by simpa using h)
      simp only [List.set_cons_succ, List.flatMap_cons, List.length_append]
      omega

theorem sum_map_set_add {α : Type} {l : List α} {i : Nat} {x : α} (h : l[i]? = some x) (y : α)
    (f : α → Nat) : ((l.set i y).map f).sum + f x = (l.map f).sum + f y := by
  induction l generalizing i with
  | nil => cases h
  | cons z l ih =>
    cases i with
    | zero =>
      obtain rfl : z = x := by simpa using h
      simp only [List.set_cons_zero, List.map_cons, List.sum_cons]
      omega
    | succ i =>
      have := ih (by simpa using h)
      simp only [List.set_cons_succ, List.map_cons, List.sum_cons]
      omega

/-- Two members of a list have a property if one has it at each of two places. -/
theorem two_le_countP {α : Type} {l : List α} {p : α → Bool} {i k : Nat} {x y : α}
    (hx : l[i]? = some x) (hy : l[k]? = some y) (ne : i ≠ k) (px : p x = true) (py : p y = true) :
    2 ≤ l.countP p := by
  induction l generalizing i k with
  | nil => cases hx
  | cons z l ih =>
    have rest {j : Nat} {w : α} (hw : l[j]? = some w) (pw : p w = true) : 0 < l.countP p :=
      List.countP_pos_iff.2 ⟨w, List.mem_of_getElem? hw, pw⟩
    rw [List.countP_cons]
    match i, k with
    | 0, 0 => exact absurd rfl ne
    | 0, k + 1 =>
      obtain rfl : z = x := by simpa using hx
      have := rest (by simpa using hy) py
      rw [if_pos px]
      omega
    | i + 1, 0 =>
      obtain rfl : z = y := by simpa using hy
      have := rest (by simpa using hx) px
      rw [if_pos py]
      omega
    | i + 1, k + 1 =>
      exact Nat.le_add_right_of_le
        (ih (by simpa using hx) (by simpa using hy) (fun e => ne (congrArg Nat.succ e)))

theorem getElem?_set_ite {α : Type} {l : List α} {i : Nat} (hi : i < l.length) (a : α) (k : Nat) :
    (l.set i a)[k]? = if k = i then some a else l[k]? := by
  split
  · rename_i e
    rw [e, List.getElem?_set_self hi]
  · rename_i e
    rw [List.getElem?_set_ne fun h => e h.symm]

theorem getElem?_concat_ite {α : Type} (l : List α) (a : α) (k : Nat) :
    (l ++ [a])[k]? = if k = l.length then some a else l[k]? := by
  split
  · rename_i e
    rw [e, List.getElem?_concat_length]
  · rename_i e
    rcases Nat.lt_or_gt_of_ne e with lt | gt
    · rw [List.getElem?_append_left lt]
    · rw [List.getElem?_eq_none (by simp; omega), List.getElem?_eq_none (by omega)]

theorem getElem?_concat {α : Type} {l : List α} {a x : α} {i : Nat}
    (h : (l ++ [a])[i]? = some x) : l[i]? = some x ∨ i = l.length ∧ x = a := by
  rw [getElem?_concat_ite] at h
  split at h
  · rename_i e
    exact .inr ⟨e, (Option.some.inj h).symm⟩
  · exact .inl h

theorem getElem?_set_eq_some {α : Type} {l : List α} {a x : α} {i k : Nat}
    (h : (l.set i a)[k]? = some x) : k = i ∧ x = a ∨ k ≠ i ∧ l[k]? = some x := by
  by_cases e : k = i
  · subst e
    rw [List.getElem?_set_self'] at h
    obtain ⟨_, -, rfl⟩ := Option.map_eq_some_iff.1 h
    exact .inl ⟨rfl, rfl⟩
  · rw [List.getElem?_set_ne (fun h => e h.symm)] at h
    exact .inr ⟨e, h⟩

theorem prefix_concat_of_getElem? {α : Type} {l l' : List α} {x : α} (h : l <+: l')
    (hx : l'[l.length]? = some x) : l ++ [x] <+: l' := by
  obtain ⟨rest, rfl⟩ := h
  rw [List.getElem?_append_right (Nat.le_refl _), Nat.sub_self] at hx
  cases rest with
  | nil => cases hx
  | cons y rest =>
    obtain rfl : y = x := Option.some.inj hx
    exact ⟨rest, by rw [List.append_assoc, List.singleton_append]⟩

end PanelScript

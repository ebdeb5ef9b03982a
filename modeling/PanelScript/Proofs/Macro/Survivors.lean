import PanelScript.Proofs.Macro.Pieces

/-!
# Macros that survive their expansion

Passes end when the text stays the same, and not when nothing is left to be replaced. What is
replaced can come back, and so a stable text can mention macros that have a value.

* `exists_inside`: if the replacements of pieces make up the same text as the pieces do, then a
  replaced piece lies within its own replacement;
* `Piece.Recurs`: a reference occurs in the value that it stands for; `HasRecurring`: such a one
  occurs in a text;
* `IsReached`, `LeadsBack`: the macros that the passes over a text come to, and those whose
  expansion comes back to them;
* `survivors_recur`: a text that was expanded mentions unknown macros only, or has a reference that
  recurs; and a macro that leads back to itself makes the text be refused, or stays in it together
  with such a reference.
-/

namespace PanelScript.Macro

variable {definitions : Definitions} {cs : List Char} {name other text r : String}

/-! ### Stable texts -/

/-- A piece that is replaced: a reference to a defined macro. -/
def Piece.IsReplaced (definitions : Definitions) : Piece → Prop
  | .char _ => False
  | .reference _ name => (definitions (String.ofList name)).isSome = true

theorem Piece.expand_of_not_isReplaced {p : Piece} (h : ¬ p.IsReplaced definitions) :
    p.expand definitions = p.text := by
  cases p with
  | char => rfl
  | reference round name =>
    have none : definitions (String.ofList name) = none := by
      simpa [Piece.IsReplaced] using h
    simp [Piece.expand, none]

/-- Let the replacements of some pieces make up what the pieces do, behind a text by which they are
late. If they are late or a piece is replaced, then a replaced piece lies within its own
replacement: the one at which they are not late any more. -/
theorem exists_inside {ps : List Piece} {late : List Char}
    (h : ps.flatMap (Piece.expand definitions) = late ++ ps.flatMap Piece.text)
    (some : late ≠ [] ∨ ∃ p ∈ ps, p.IsReplaced definitions) :
    ∃ p ∈ ps, p.IsReplaced definitions ∧ p.text <:+: p.expand definitions := by
  induction ps generalizing late with
  | nil =>
    rcases some with late_ne | ⟨p, hp, -⟩
    · exact absurd (by simpa using h.symm) late_ne
    · cases hp
  | cons p ps ih =>
    rw [List.flatMap_cons, List.flatMap_cons, ← List.append_assoc] at h
    by_cases caught : p.IsReplaced definitions ∧
        (late ++ p.text).length ≤ (p.expand definitions).length
    · -- The replacement goes beyond the end of the piece, which it began before.
      obtain ⟨rest, more⟩ := List.prefix_of_prefix_length_le ⟨_, h.symm⟩
        (List.prefix_append (p.expand definitions) _) caught.2
      exact ⟨p, List.mem_cons_self, caught.1, late, rest, more⟩
    · have le : (p.expand definitions).length ≤ (late ++ p.text).length := by
        by_cases replaced : p.IsReplaced definitions
        · exact Nat.le_of_not_le fun long => caught ⟨replaced, long⟩
        · rw [Piece.expand_of_not_isReplaced replaced, List.length_append]
          omega
      obtain ⟨late', split⟩ := List.prefix_of_prefix_length_le ⟨_, h⟩
        (List.prefix_append (late ++ p.text) _) le
      have rest : ps.flatMap (Piece.expand definitions) = late' ++ ps.flatMap Piece.text := by
        rw [← split, List.append_assoc] at h
        exact List.append_cancel_left h
      have still : late' ≠ [] ∨ ∃ q ∈ ps, q.IsReplaced definitions := by
        by_contra! none
        obtain ⟨rfl, none⟩ := none
        rw [List.append_nil] at split
        by_cases replaced : p.IsReplaced definitions
        · exact caught ⟨replaced, by rw [split]⟩
        · rw [Piece.expand_of_not_isReplaced replaced] at split
          have late_nil : late = [] := by simpa using split
          rcases some with ne | ⟨q, hq, hr⟩
          · exact ne late_nil
          · rcases List.mem_cons.1 hq with rfl | hq
            · exact replaced hr
            · exact none q hq hr
      obtain ⟨q, hq, inside⟩ := ih rest still
      exact ⟨q, List.mem_cons_of_mem p hq, inside⟩

/-- A reference occurs in the value of the macro that it refers to. -/
def Piece.Recurs (definitions : Definitions) (p : Piece) : Prop :=
  ∃ round name v, p = .reference round (String.toList name) ∧ IsName name.toList ∧
    definitions name = some v ∧ p.text <:+: v.toList

/-- A reference that recurs occurs in a text. -/
def HasRecurring (definitions : Definitions) (cs : List Char) : Prop :=
  ∃ p : Piece, p.Recurs definitions ∧ p.text <:+: cs

/-- A stable text that mentions a defined macro has a reference that recurs. -/
theorem IsStable.hasRecurring (stable : IsStable definitions cs) (h : Mentions cs name)
    (defined : (definitions name).isSome = true) : HasRecurring definitions cs := by
  obtain ⟨round, hp⟩ := mentions_iff.1 h
  have same : (pieces cs).flatMap (Piece.expand definitions) =
      [] ++ (pieces cs).flatMap Piece.text := by
    rw [List.nil_append, text_pieces]
    exact stable
  obtain ⟨p, hp, replaced, inside⟩ := exists_inside same
    (.inr ⟨_, hp, by simpa [Piece.IsReplaced] using defined⟩)
  cases p with
  | char => exact replaced.elim
  | reference round name =>
    obtain ⟨name, rfl⟩ := exists_string name
    have isName := isReference_of_mem_pieces hp
    obtain ⟨v, value⟩ := Option.isSome_iff_exists.1 replaced
    rw [String.ofList_toList] at value
    rw [Piece.expand_of_some value] at inside
    exact ⟨_, ⟨round, name, v, rfl, isName, value, inside⟩,
      (mem_pieces_iff (p := .reference round name.toList) isName).1 hp⟩

/-! ### Macros that lead back to themselves -/

/-- A macro is reached from a text: a pass over it comes to a reference to the macro, or the value
of a macro that is reached mentions it. -/
inductive IsReached (definitions : Definitions) (cs : List Char) : String → Prop
  | mentioned {name : String} (passes : Nat)
      (h : Mentions ((expandOnce definitions)^[passes] cs) name) : IsReached definitions cs name
  | used {name other : String} (h : IsReached definitions cs name)
      (uses : Uses definitions name other) : IsReached definitions cs other

/-- The expansion of a macro leads back to it, directly or through others. -/
def LeadsBack (definitions : Definitions) (name : String) : Prop :=
  Relation.TransGen (Uses definitions) name name

theorem LeadsBack.isSome (h : LeadsBack definitions name) : (definitions name).isSome = true := by
  obtain ⟨-, ⟨v, value, -⟩, -⟩ := Relation.TransGen.head'_iff.1 h
  exact Option.isSome_iff_exists.2 ⟨v, value⟩

theorem Mentions.succ_pass {passes : Nat} (uses : Uses definitions name other)
    (h : Mentions ((Macro.expandOnce definitions)^[passes] cs) name) :
    Mentions ((Macro.expandOnce definitions)^[passes + 1] cs) other := by
  rw [Function.iterate_succ_apply']
  exact h.expandOnce uses

/-- What is reached is mentioned at some pass. -/
theorem IsReached.exists_pass (h : IsReached definitions cs name) :
    ∃ passes, Mentions ((expandOnce definitions)^[passes] cs) name := by
  induction h with
  | mentioned passes h => exact ⟨passes, h⟩
  | used _ uses ih =>
    obtain ⟨passes, h⟩ := ih
    exact ⟨passes + 1, h.succ_pass uses⟩

theorem exists_later_pass {passes : Nat} (leads : Relation.TransGen (Uses definitions) name other)
    (h : Mentions ((expandOnce definitions)^[passes] cs) name) :
    ∃ later, passes < later ∧ Mentions ((expandOnce definitions)^[later] cs) other := by
  induction leads with
  | single uses => exact ⟨passes + 1, Nat.lt_succ_self _, h.succ_pass uses⟩
  | tail _ uses ih =>
    obtain ⟨later, lt, found⟩ := ih
    exact ⟨later + 1, Nat.lt_succ_of_lt lt, found.succ_pass uses⟩

/-- A macro that leads back to itself is mentioned at passes as late as one likes. -/
theorem IsReached.exists_pass_ge (h : IsReached definitions cs name)
    (back : LeadsBack definitions name) (passes : Nat) :
    ∃ later, passes ≤ later ∧ Mentions ((expandOnce definitions)^[later] cs) name := by
  induction passes with
  | zero =>
    obtain ⟨later, found⟩ := h.exists_pass
    exact ⟨later, Nat.zero_le _, found⟩
  | succ passes ih =>
    obtain ⟨later, le, found⟩ := ih
    obtain ⟨still, lt, found⟩ := exists_later_pass back found
    exact ⟨still, Nat.lt_of_le_of_lt le lt, found⟩

/-- It is mentioned in the text that the passes settle on. -/
theorem IsReached.mentions_of_isStable {passes : Nat} (h : IsReached definitions cs name)
    (back : LeadsBack definitions name)
    (stable : IsStable definitions ((expandOnce definitions)^[passes] cs)) :
    Mentions ((expandOnce definitions)^[passes] cs) name := by
  obtain ⟨later, le, found⟩ := h.exists_pass_ge back passes
  obtain ⟨more, rfl⟩ := Nat.exists_eq_add_of_le' le
  rwa [Function.iterate_add_apply, stable.iterate] at found

/-- **What survives its expansion.** An expanded text mentions no macro that has a value, unless it
has a reference that occurs in its own value. A macro that is reached from the text and leads back
to itself makes the text be refused, or it is left in the text, which then has such a reference. And
a reference to a macro whose value is that reference is left as it is. -/
theorem survivors_recur (definitions : Definitions) (text : String) :
    (∀ r, expand definitions text = .ok r →
      (∀ name, Mentions r.toList name → definitions name = none) ∨
        HasRecurring definitions r.toList) ∧
    (∀ name, IsReached definitions text.toList name → LeadsBack definitions name →
      expand definitions text =
          .error (.validation s!"Macro expansion of '{text}' exceeds {maxDepth} levels") ∨
        ∃ r, expand definitions text = .ok r ∧ Mentions r.toList name ∧
          HasRecurring definitions r.toList) ∧
    ∀ round name, IsName name.toList →
      definitions name = some (String.ofList (Piece.reference round name.toList).text) →
      text.toList = (Piece.reference round name.toList).text →
      expand definitions text = .ok text := by
  refine ⟨fun r h => ?_, fun name reached back => ?_, fun round name isName value same => ?_⟩
  · obtain ⟨stable, result⟩ := expand_eq_ok_iff.1 h
    by_cases unknown : ∀ name, Mentions r.toList name → definitions name = none
    · exact .inl unknown
    · push Not at unknown
      obtain ⟨name, found, defined⟩ := unknown
      rw [result] at found ⊢
      exact .inr (stable.hasRecurring found (Option.isSome_iff_ne_none.2 defined))
  · by_cases stable : IsStable definitions ((expandOnce definitions)^[maxDepth] text.toList)
    · have found := reached.mentions_of_isStable back stable
      refine .inr ⟨String.ofList ((expandOnce definitions)^[maxDepth] text.toList), ?_, ?_, ?_⟩
      · exact expand_eq_ok_iff.2 ⟨stable, by simp⟩
      · simpa using found
      · simpa using stable.hasRecurring found back.isSome
    · exact .inl (expand_of_not_isStable stable)
  · have stable : IsStable definitions text.toList := by
      rw [IsStable, same]
      have once : expandOnce definitions ((Piece.reference round name.toList).text ++ []) = _ :=
        expandOnce_reference (p := .reference round name.toList) isName []
      rwa [expandOnce_nil, List.append_nil, List.append_nil, Piece.expand_of_some value,
        String.toList_ofList] at once
    rw [expand_eq_ok_iff, stable.iterate]
    exact ⟨stable, rfl⟩

/-! ### Macros that are left -/

/-- A macro that brings another back, which has no text. -/
def sampleDefinitions : Definitions := fun name => [("A", "$(A)$(B)"), ("B", "")].lookup name

theorem survivors_recur_sample :
    (∃ r, expand sampleDefinitions "$(A)" = .ok r ∧ Mentions r.toList "B" ∧
      (sampleDefinitions "B").isSome = true ∧ HasRecurring sampleDefinitions r.toList) ∧
    ∃ r, expand sampleDefinitions "$(A)" = .ok r ∧ Mentions r.toList "A" ∧
      HasRecurring sampleDefinitions r.toList := by
  have run : expand sampleDefinitions "$(A)" = .ok "$(A)$(B)" := by decide
  have left : Mentions "$(A)$(B)".toList "B" := by decide
  have reached : IsReached sampleDefinitions "$(A)".toList "A" := .mentioned 0 (by decide)
  have back : LeadsBack sampleDefinitions "A" := .single ⟨"$(A)$(B)", rfl, by decide⟩
  obtain ⟨results, loops, -⟩ := survivors_recur sampleDefinitions "$(A)"
  constructor
  · rcases results _ run with unknown | recurs
    · cases unknown "B" left
    · exact ⟨_, run, left, rfl, recurs⟩
  · rcases loops "A" reached back with refused | left
    · rw [run] at refused
      cases refused
    · exact left

/-- A macro that refers to itself is reached from a text, and is left in it. -/
theorem defined_macro_survives :
    ∃ (definitions : Definitions) (text r name : String), expand definitions text = .ok r ∧
      Mentions r.toList name ∧ (definitions name).isSome = true ∧
      IsReached definitions text.toList name ∧ LeadsBack definitions name :=
  ⟨fun name => [("A", "$(A)")].lookup name, "$(A)", "$(A)", "A", by decide, by decide, rfl,
    .mentioned 0 (by decide), .single ⟨"$(A)", rfl, by decide⟩⟩

end PanelScript.Macro

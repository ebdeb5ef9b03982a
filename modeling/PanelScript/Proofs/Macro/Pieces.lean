import Mathlib.Data.List.Infix
import Mathlib.Data.List.TakeWhile
import Mathlib.Logic.Relation
import PanelScript.Macro

/-!
# The references of a text

Only the first character of a reference is a `$`. So two references never overlap, and a text is
taken apart in one way only.

* `IsName` and `Piece.IsReference` say what a reference is;
* `text_induction`: a text is empty, begins with a reference, or with a character that begins none;
* `mem_pieces_iff`: the references that a text is taken apart into are all that occur in it;
* `Mentions`: a reference to a macro occurs in a text;
* `expandOnce_eq_self`: what mentions no defined macro is not changed;
* `Uses`: the value of one macro mentions another, which is then mentioned after the next pass;
* `expand_eq_ok_iff`: a text has an expansion if its eighth pass leaves a stable text.
-/

namespace PanelScript.Macro

/-- A name: it begins with a letter or `_`, and digits may follow. -/
def IsName : List Char → Prop
  | [] => False
  | c :: rest => isNameStart c = true ∧ ∀ d ∈ rest, isNamePart d = true

instance : DecidablePred IsName
  | [] => inferInstanceAs (Decidable False)
  | _ :: _ => inferInstanceAs (Decidable (_ ∧ _))

/-- A reference to a name. -/
def Piece.IsReference : Piece → Prop
  | .char _ => False
  | .reference _ name => IsName name

/-! ### Names -/

theorem exists_string (name : List Char) : ∃ s : String, name = s.toList :=
  ⟨String.ofList name, by simp⟩

theorem isNamePart_of_isNameStart {c : Char} (h : isNameStart c = true) : isNamePart c = true := by
  simp only [isNameStart, isNamePart, Char.isAlphanum, Bool.or_eq_true] at h ⊢
  tauto

theorem IsName.isNamePart {name : List Char} (h : IsName name) {c : Char} (hc : c ∈ name) :
    isNamePart c = true := by
  cases name with
  | nil => cases hc
  | cons d rest =>
    rcases List.mem_cons.1 hc with rfl | hc
    · exact isNamePart_of_isNameStart h.1
    · exact h.2 c hc

/-- A name at the front of a text is found if the bracket that closes it is part of no name. -/
theorem closedName?_eq_some_iff {closing : Char} (hc : isNamePart closing = false)
    {cs name : List Char} :
    closedName? closing cs = some name ↔ IsName name ∧ name ++ [closing] <+: cs := by
  constructor
  · intro h
    unfold closedName? at h
    split at h
    · rename_i c rest
      split_ifs at h with start
      split at h
      · rename_i d tail found
        split_ifs at h with closes
        subst closes
        obtain rfl := Option.some.inj h
        refine ⟨⟨start, fun _ hx => List.mem_takeWhile_imp hx⟩, tail, ?_⟩
        have split := List.takeWhile_append_dropWhile (p := Macro.isNamePart) (l := rest)
        rw [found] at split
        simpa using split
      · cases h
    · cases h
  · rintro ⟨isName, tail, rfl⟩
    cases name with
    | nil => exact isName.elim
    | cons c rest =>
      have rest_done :
          (rest ++ (closing :: tail)).dropWhile Macro.isNamePart = closing :: tail := by
        rw [List.dropWhile_append_of_pos isName.2, List.dropWhile_cons_of_neg (by simp [hc])]
      have name_done : (rest ++ (closing :: tail)).takeWhile Macro.isNamePart = rest := by
        rw [List.takeWhile_append_of_pos isName.2, List.takeWhile_cons_of_neg (by simp [hc]),
          List.append_nil]
      simp [closedName?, isName.1, rest_done, name_done]

/-! ### References -/

/-- What is found at the front of a text is the reference that stands there. -/
theorem reference?_eq_some_iff {cs : List Char} {p : Piece} :
    reference? cs = some p ↔ p.IsReference ∧ p.text <+: cs := by
  constructor
  · intro h
    unfold reference? at h
    split at h
    · obtain ⟨name, found, rfl⟩ := Option.map_eq_some_iff.1 h
      obtain ⟨isName, front⟩ := (closedName?_eq_some_iff rfl).1 found
      exact ⟨isName, by simpa [Piece.text] using front⟩
    · obtain ⟨name, found, rfl⟩ := Option.map_eq_some_iff.1 h
      obtain ⟨isName, front⟩ := (closedName?_eq_some_iff rfl).1 found
      exact ⟨isName, by simpa [Piece.text] using front⟩
    · cases h
  · rintro ⟨isReference, tail, rfl⟩
    cases p with
    | char => exact isReference.elim
    | reference round name =>
      cases round
      · have found : closedName? '\x7d' (name ++ '\x7d' :: tail) = some name :=
          (closedName?_eq_some_iff rfl).2 ⟨isReference, tail, by simp⟩
        simp [Piece.text, reference?, found]
      · have found : closedName? ')' (name ++ ')' :: tail) = some name :=
          (closedName?_eq_some_iff rfl).2 ⟨isReference, tail, by simp⟩
        simp [Piece.text, reference?, found]

/-- A reference is a `$` with more characters behind it, none of which is a `$`. -/
theorem Piece.IsReference.text_eq {p : Piece} (h : p.IsReference) :
    ∃ inner, p.text = '$' :: inner ∧ '$' ∉ inner := by
  have dollar : isNamePart '$' = false := rfl
  cases p with
  | char => exact h.elim
  | reference round name =>
    have outside : '$' ∉ name := fun hc => by simp [h.isNamePart hc] at dollar
    cases round
    · exact ⟨'\x7b' :: (name ++ ['\x7d']), rfl, by simp [outside]⟩
    · exact ⟨'(' :: (name ++ [')']), rfl, by simp [outside]⟩

/-- A text begins with one reference at most. -/
theorem Piece.IsReference.eq_of_append {p q : Piece} (hp : p.IsReference) (hq : q.IsReference)
    {cs ds : List Char} (h : p.text ++ cs = q.text ++ ds) : p = q ∧ cs = ds := by
  have found : reference? (q.text ++ ds) = some p :=
    reference?_eq_some_iff.2 ⟨hp, cs, h⟩
  have found' : reference? (q.text ++ ds) = some q :=
    reference?_eq_some_iff.2 ⟨hq, List.prefix_append _ _⟩
  obtain rfl := Option.some.inj (found.symm.trans found')
  exact ⟨rfl, List.append_cancel_left h⟩

/-! ### Pieces -/

theorem piecesFrom_eq (skip : Nat) (cs : List Char) :
    piecesFrom skip cs = pieces (cs.drop skip) := by
  induction cs generalizing skip with
  | nil => cases skip <;> rfl
  | cons c cs ih =>
    cases skip with
    | zero => rfl
    | succ skip => exact ih skip

@[simp] theorem pieces_nil : pieces [] = [] := rfl

/-- A character that begins no reference stands for itself. -/
theorem pieces_cons {c : Char} {cs : List Char} (h : reference? (c :: cs) = none) :
    pieces (c :: cs) = .char c :: pieces cs := by
  simp only [pieces, piecesFrom, h]

theorem pieces_reference {p : Piece} (hp : p.IsReference) (cs : List Char) :
    pieces (p.text ++ cs) = p :: pieces cs := by
  obtain ⟨inner, text, -⟩ := hp.text_eq
  have found : reference? ('$' :: (inner ++ cs)) = some p :=
    reference?_eq_some_iff.2 ⟨hp, cs, by simp [text]⟩
  rw [text, List.cons_append, pieces, piecesFrom, found]
  simp [piecesFrom_eq, text]

/-- A text is empty, begins with a character that begins no reference, or with a reference. -/
@[elab_as_elim] theorem text_induction {motive : List Char → Prop} (nil : motive [])
    (char : ∀ c cs, reference? (c :: cs) = none → motive cs → motive (c :: cs))
    (reference : ∀ p cs, Piece.IsReference p → motive cs → motive (p.text ++ cs)) (cs : List Char) :
    motive cs := by
  -- A reference is passed over as a whole, so the induction is on the length.
  induction length : cs.length using Nat.strong_induction_on generalizing cs with
  | _ n ih =>
    subst length
    cases cs with
    | nil => exact nil
    | cons c cs =>
      cases found : reference? (c :: cs) with
      | none => exact char c cs found (ih cs.length (by simp) cs rfl)
      | some p =>
        obtain ⟨hp, rest, text⟩ := reference?_eq_some_iff.1 found
        obtain ⟨inner, start, -⟩ := hp.text_eq
        have shorter : rest.length < (c :: cs).length := by
          rw [← text, start, List.length_append, List.length_cons]
          omega
        exact text ▸ reference p rest hp (ih rest.length shorter rest rfl)

/-- The pieces of a text make it up. -/
theorem text_pieces (cs : List Char) : (pieces cs).flatMap Piece.text = cs := by
  induction cs using text_induction with
  | nil => rfl
  | char c cs none ih => rw [pieces_cons none, List.flatMap_cons, ih]; rfl
  | reference p cs hp ih => rw [pieces_reference hp, List.flatMap_cons, ih]

theorem isReference_of_mem_pieces {cs : List Char} {round : Bool} {name : List Char}
    (h : .reference round name ∈ pieces cs) : IsName name := by
  induction cs using text_induction with
  | nil => cases h
  | char c cs none ih =>
    rw [pieces_cons none] at h
    exact ih (List.mem_of_ne_of_mem Piece.noConfusion h)
  | reference p cs hp ih =>
    rw [pieces_reference hp] at h
    rcases List.mem_cons.1 h with rfl | h
    · exact hp
    · exact ih h

/-- No reference begins where there is no `$`. -/
theorem Piece.IsReference.infix_of_append {p : Piece} (hp : p.IsReference) {inner cs : List Char}
    (outside : '$' ∉ inner) (h : p.text <:+: inner ++ cs) : p.text <:+: cs := by
  induction inner with
  | nil => exact h
  | cons c inner ih =>
    rw [List.mem_cons, not_or] at outside
    rcases List.infix_cons_iff.1 h with front | h
    · obtain ⟨tail, text, -⟩ := hp.text_eq
      rw [text] at front
      exact absurd (List.cons_prefix_cons.1 front).1 outside.1
    · exact ih outside.2 h

/-- The references that a text is taken apart into are all that occur in it. -/
theorem mem_pieces_iff {p : Piece} (hp : p.IsReference) {cs : List Char} :
    p ∈ pieces cs ↔ p.text <:+: cs := by
  obtain ⟨inner, text, -⟩ := hp.text_eq
  induction cs using text_induction with
  | nil => simp [text]
  | char c cs none ih =>
    have other : p ≠ .char c := by
      rintro rfl
      exact hp
    have front : ¬ p.text <+: c :: cs := fun h => by
      simp [reference?_eq_some_iff.2 ⟨hp, h⟩] at none
    rw [pieces_cons none, List.mem_cons, List.infix_cons_iff, ih]
    tauto
  | reference q cs hq ih =>
    rw [pieces_reference hq, List.mem_cons, ih]
    constructor
    · rintro (rfl | h)
      · exact (List.prefix_append _ _).isInfix
      · exact h.trans (List.suffix_append _ _).isInfix
    · intro h
      -- Behind the `$` of `q` no reference begins before `q` ends.
      obtain ⟨inner, start, outside⟩ := hq.text_eq
      rw [start, List.cons_append] at h
      rcases List.infix_cons_iff.1 h with front | h
      · obtain ⟨rest, same⟩ := front
        have both : p.text ++ rest = q.text ++ cs := by rw [same, start, List.cons_append]
        exact .inl (hp.eq_of_append hq both).1
      · exact .inr (hp.infix_of_append outside h)

/-! ### What a text mentions -/

/-- A reference to a macro occurs in a text, in round or in curly brackets. -/
def Mentions (cs : List Char) (name : String) : Prop :=
  IsName name.toList ∧ ∃ round, (Piece.reference round name.toList).text <:+: cs

theorem mentions_iff {cs : List Char} {name : String} :
    Mentions cs name ↔ ∃ round, .reference round name.toList ∈ pieces cs := by
  constructor
  · rintro ⟨isName, round, h⟩
    exact ⟨round, (mem_pieces_iff (p := .reference round _) isName).2 h⟩
  · rintro ⟨round, h⟩
    have isName := isReference_of_mem_pieces h
    exact ⟨isName, round, (mem_pieces_iff (p := .reference round _) isName).1 h⟩

instance (cs : List Char) (name : String) : Decidable (Mentions cs name) :=
  decidable_of_iff (∃ round, Piece.reference round name.toList ∈ pieces cs) mentions_iff.symm

theorem Mentions.mono {cs ds : List Char} {name : String} (h : Mentions cs name) (le : cs <:+: ds) :
    Mentions ds name :=
  ⟨h.1, h.2.imp fun _ found => found.trans le⟩

variable {definitions : Definitions} {cs : List Char} {name : String}

/-! ### One pass -/

theorem expandOnce_cons {c : Char} (h : reference? (c :: cs) = none) :
    expandOnce definitions (c :: cs) = c :: expandOnce definitions cs := by
  simp [expandOnce, pieces_cons h]

theorem expandOnce_reference {p : Piece} (hp : p.IsReference) (cs : List Char) :
    expandOnce definitions (p.text ++ cs) = p.expand definitions ++ expandOnce definitions cs := by
  simp [expandOnce, pieces_reference hp]

theorem Piece.expand_of_some {round : Bool} {v : String} (h : definitions name = some v) :
    (Piece.reference round name.toList).expand definitions = v.toList := by
  simp [Piece.expand, h]

theorem Piece.expand_of_none {round : Bool} (h : definitions name = none) :
    (Piece.reference round name.toList).expand definitions =
      (Piece.reference round name.toList).text := by
  simp [Piece.expand, h]

/-- What a piece of a text is replaced by stands in the text after the pass. -/
theorem expand_infix {p : Piece} (h : p ∈ pieces cs) :
    p.expand definitions <:+: expandOnce definitions cs := by
  obtain ⟨before, after, split⟩ := List.append_of_mem h
  refine ⟨before.flatMap (Piece.expand definitions), after.flatMap (Piece.expand definitions), ?_⟩
  simp [expandOnce, split]

/-- What mentions no defined macro is not changed. -/
theorem expandOnce_eq_self (h : ∀ name, Mentions cs name → definitions name = none) :
    expandOnce definitions cs = cs := by
  calc expandOnce definitions cs = (pieces cs).flatMap Piece.text := by
        refine List.flatMap_congr fun p hp => ?_
        cases p with
        | char => rfl
        | reference round name =>
          obtain ⟨name, rfl⟩ := exists_string name
          exact Piece.expand_of_none (h name (mentions_iff.2 ⟨round, hp⟩))
    _ = cs := text_pieces cs

/-- The value of one macro mentions another. -/
def Uses (definitions : Definitions) (name other : String) : Prop :=
  ∃ v, definitions name = some v ∧ Mentions v.toList other

/-- What the value of a mentioned macro mentions is mentioned after the pass. -/
theorem Mentions.expandOnce {other : String} (h : Mentions cs name)
    (uses : Uses definitions name other) : Mentions (expandOnce definitions cs) other := by
  obtain ⟨v, value, hv⟩ := uses
  obtain ⟨round, hp⟩ := mentions_iff.1 h
  exact hv.mono (Piece.expand_of_some value ▸ expand_infix hp)

/-! ### All passes -/

/-- A pass does not change the text. -/
def IsStable (definitions : Definitions) (cs : List Char) : Prop := expandOnce definitions cs = cs

theorem IsStable.iterate (h : IsStable definitions cs) (k : Nat) :
    (expandOnce definitions)^[k] cs = cs :=
  Function.iterate_fixed h k

/-- Passes settle a text if the one after them changes nothing. -/
theorem settle_eq_some_iff {passes : Nat} {r : List Char} :
    settle definitions (passes + 1) cs = some r ↔
      IsStable definitions ((expandOnce definitions)^[passes] cs) ∧
        r = (expandOnce definitions)^[passes] cs := by
  induction passes generalizing cs with
  | zero =>
    simp only [settle, IsStable, Function.iterate_zero, id]
    grind
  | succ passes ih =>
    rw [settle, Function.iterate_succ_apply]
    by_cases stable : expandOnce definitions cs = cs
    · have fixed : (expandOnce definitions)^[passes] cs = cs := IsStable.iterate stable passes
      simp only [stable, if_true, fixed, IsStable, Option.some.injEq, true_and]
      exact eq_comm
    · simp only [stable, if_false]
      exact ih

variable {text r : String}

/-- A text has an expansion if the ninth pass changes nothing; it is what the eighth leaves. -/
theorem expand_eq_ok_iff : expand definitions text = .ok r ↔
    IsStable definitions ((expandOnce definitions)^[maxDepth] text.toList) ∧
      r.toList = (expandOnce definitions)^[maxDepth] text.toList := by
  rw [← settle_eq_some_iff, expand]
  cases settle definitions (maxDepth + 1) text.toList with
  | none => simp
  | some cs =>
    simp only [Except.ok.injEq, Option.some.injEq]
    constructor
    · rintro rfl
      simp
    · rintro rfl
      simp

/-- Otherwise the text is refused. -/
theorem expand_of_not_isStable
    (h : ¬ IsStable definitions ((expandOnce definitions)^[maxDepth] text.toList)) :
    expand definitions text =
      .error (.validation s!"Macro expansion of '{text}' exceeds {maxDepth} levels") := by
  have none : settle definitions (maxDepth + 1) text.toList = none :=
    Option.eq_none_iff_forall_ne_some.2 fun cs found => h (settle_eq_some_iff.1 found).1
  simp only [expand, none]

end PanelScript.Macro

import Mathlib.Data.ENat.Lattice
import Mathlib.Order.CompletePartialOrder
import PanelScript.Proofs.Macro.Survivors

/-!
# Expansion as substitution

A text is clean if every `$` in it begins a reference. Replacements that are clean never join their
neighbours to new references, so each pass goes one level down in the graph of the macros.

* `IsClean`, `clean_induction`: clean texts, and that they are empty, or begin with a reference or
  with a character other than `$`;
* `pieces_expandOnce`: the pieces of a clean text are replaced one by one;
* `Substitutes`: what comes of a text when all references to defined macros are replaced, and those
  in their values;
* `IsChain`, `depth`: macros of which each mentions the next, and how many there can be in a chain;
* `isChain_iterate`: the chains of a pass are those of the text without their first macros;
* `expand_of_acyclic`: if no chain comes to a macro twice, then a text is expanded exactly if it is
  no deeper than the passes, and what comes out is the substituted text.
-/

namespace PanelScript.Macro

variable {definitions : Definitions} {cs ds : List Char} {name other text : String}

/-! ### Clean texts -/

/-- Every `$` of a text begins a reference. -/
def IsClean (cs : List Char) : Prop :=
  ∀ before after, cs = before ++ '$' :: after →
    ∃ p : Piece, p.IsReference ∧ p.text <+: '$' :: after

theorem isClean_cons_iff {c : Char} (none : reference? (c :: cs) = none) :
    IsClean (c :: cs) ↔ c ≠ '$' ∧ IsClean cs := by
  constructor
  · intro clean
    refine ⟨?_, fun before after split => clean (c :: before) after (by rw [split]; rfl)⟩
    rintro rfl
    obtain ⟨p, hp, front⟩ := clean [] cs rfl
    rw [reference?_eq_some_iff.2 ⟨hp, front⟩] at none
    cases none
  · rintro ⟨other, clean⟩ before after split
    cases before with
    | nil => exact absurd (List.cons.inj split).1 other
    | cons b before => exact clean before after (List.cons.inj split).2

theorem isClean_reference_iff {p : Piece} (hp : p.IsReference) :
    IsClean (p.text ++ cs) ↔ IsClean cs := by
  constructor
  · intro clean before after split
    exact clean (p.text ++ before) after (by rw [split, List.append_assoc])
  · intro clean before after split
    obtain ⟨inner, start, outside⟩ := hp.text_eq
    cases before with
    | nil => exact ⟨p, hp, cs, split⟩
    | cons b before =>
      rw [start] at split
      -- The `$` stands behind the reference, since it is not its first character.
      rcases List.append_eq_append_iff.1 (List.cons.inj split).2 with
        ⟨gap, -, split⟩ | ⟨gap, e, split⟩
      · exact clean gap after split
      · cases gap with
        | nil => exact clean [] after split.symm
        | cons d gap =>
          obtain ⟨rfl, -⟩ := List.cons.inj split
          exact absurd (e ▸ List.mem_append_right before List.mem_cons_self) outside

/-- A text is clean if no `$` is left over when it is taken apart. -/
theorem isClean_iff : IsClean cs ↔ .char '$' ∉ pieces cs := by
  induction cs using text_induction with
  | nil => simp [IsClean]
  | char c cs none ih =>
    rw [isClean_cons_iff none, pieces_cons none, List.mem_cons, not_or, ih, ne_comm]
    simp
  | reference p cs hp ih =>
    have other : .char '$' ≠ p := by
      rintro rfl
      exact hp
    rw [isClean_reference_iff hp, pieces_reference hp, List.mem_cons, not_or, ih]
    exact (and_iff_right other).symm

instance : DecidablePred IsClean := fun _ => decidable_of_iff _ isClean_iff.symm

/-- A character other than `$` begins no reference. -/
theorem reference?_cons_of_ne {c : Char} (h : c ≠ '$') (cs : List Char) :
    reference? (c :: cs) = none := by
  refine Option.eq_none_iff_forall_ne_some.2 fun p found => ?_
  obtain ⟨hp, front⟩ := reference?_eq_some_iff.1 found
  obtain ⟨inner, start, -⟩ := hp.text_eq
  rw [start] at front
  exact h (List.cons_prefix_cons.1 front).1.symm

theorem IsClean.nil : IsClean [] := isClean_iff.2 List.not_mem_nil

theorem IsClean.cons {c : Char} (other : c ≠ '$') (clean : IsClean cs) : IsClean (c :: cs) :=
  (isClean_cons_iff (reference?_cons_of_ne other cs)).2 ⟨other, clean⟩

theorem IsClean.reference {round : Bool} (isName : IsName name.toList) (clean : IsClean cs) :
    IsClean ((Piece.reference round name.toList).text ++ cs) :=
  (isClean_reference_iff (p := .reference round name.toList) isName).2 clean

/-- A clean text is empty, or begins with a character other than `$` or with a reference. -/
@[elab_as_elim] theorem clean_induction {motive : ∀ cs, IsClean cs → Prop} (nil : motive [] .nil)
    (char : ∀ c cs (other : c ≠ '$') (clean : IsClean cs), motive cs clean →
      motive (c :: cs) (clean.cons other))
    (reference : ∀ round name cs (isName : IsName (String.toList name)) (clean : IsClean cs),
      motive cs clean → motive ((Piece.reference round name.toList).text ++ cs)
        (clean.reference isName))
    {cs : List Char} (clean : IsClean cs) : motive cs clean := by
  induction cs using text_induction with
  | nil => exact nil
  | char c cs none ih =>
    obtain ⟨other, rest⟩ := (isClean_cons_iff none).1 clean
    exact char c cs other rest (ih rest)
  | reference p cs hp ih =>
    have rest := (isClean_reference_iff hp).1 clean
    cases p with
    | char => exact hp.elim
    | reference round name =>
      obtain ⟨name, rfl⟩ := exists_string name
      exact reference round name cs hp rest (ih rest)

/-- Behind a clean text the pieces begin anew. -/
theorem pieces_append (clean : IsClean cs) (ds : List Char) :
    pieces (cs ++ ds) = pieces cs ++ pieces ds := by
  induction clean using clean_induction with
  | nil => rfl
  | char c cs other _ ih =>
    rw [List.cons_append, pieces_cons (reference?_cons_of_ne other _),
      pieces_cons (reference?_cons_of_ne other _), ih, List.cons_append]
  | reference round name cs isName _ ih =>
    rw [List.append_assoc, pieces_reference (p := .reference round name.toList) isName,
      pieces_reference (p := .reference round name.toList) isName, ih, List.cons_append]

/-! ### Passes over clean texts -/

/-- The values of all macros are clean. -/
def HasCleanValues (definitions : Definitions) : Prop :=
  ∀ name v, definitions name = some v → IsClean v.toList

/-- What a piece of a clean text is replaced by is clean. -/
theorem isClean_expand (values : HasCleanValues definitions) (clean : IsClean cs) {p : Piece}
    (h : p ∈ pieces cs) : IsClean (p.expand definitions) := by
  cases p with
  | char c =>
    have other : c ≠ '$' := by
      rintro rfl
      exact isClean_iff.1 clean h
    exact .cons other .nil
  | reference round name =>
    obtain ⟨name, rfl⟩ := exists_string name
    cases value : definitions name with
    | none =>
      rw [Piece.expand_of_none value, ← List.append_nil (Piece.text _)]
      exact .reference (isReference_of_mem_pieces h) .nil
    | some v =>
      rw [Piece.expand_of_some value]
      exact values name v value

/-- The pieces of a clean text are replaced one by one. -/
theorem pieces_expandOnce (values : HasCleanValues definitions) (clean : IsClean cs) :
    pieces (expandOnce definitions cs) =
      (pieces cs).flatMap fun p => pieces (p.expand definitions) := by
  have each : ∀ p ∈ pieces cs, IsClean (p.expand definitions) := fun p hp =>
    isClean_expand values clean hp
  unfold expandOnce
  generalize pieces cs = ps at each
  induction ps with
  | nil => rfl
  | cons p ps ih =>
    rw [List.flatMap_cons, List.flatMap_cons, pieces_append (each p List.mem_cons_self),
      ih fun q hq => each q (List.mem_cons_of_mem p hq)]

theorem isClean_expandOnce (values : HasCleanValues definitions) (clean : IsClean cs) :
    IsClean (expandOnce definitions cs) := by
  rw [isClean_iff, pieces_expandOnce values clean, List.mem_flatMap]
  rintro ⟨p, hp, h⟩
  exact isClean_iff.1 (isClean_expand values clean hp) h

/-- A defined macro that is mentioned after a pass was mentioned by the value of another. -/
theorem exists_uses_of_mentions (values : HasCleanValues definitions) (clean : IsClean cs)
    (h : Mentions (expandOnce definitions cs) other) (defined : definitions other ≠ none) :
    ∃ name, Mentions cs name ∧ Uses definitions name other := by
  obtain ⟨round, h⟩ := mentions_iff.1 h
  rw [pieces_expandOnce values clean, List.mem_flatMap] at h
  obtain ⟨p, hp, h⟩ := h
  cases p with
  | char c =>
    have other : c ≠ '$' := by
      rintro rfl
      exact isClean_iff.1 clean hp
    rw [Piece.expand_char, pieces_cons (reference?_cons_of_ne other [])] at h
    simp at h
  | reference round' name =>
    obtain ⟨name, rfl⟩ := exists_string name
    cases value : definitions name with
    | none =>
      -- It would be an unknown macro itself.
      rw [Piece.expand_of_none value, ← List.append_nil (Piece.text _),
        pieces_reference (p := .reference round' name.toList) (isReference_of_mem_pieces hp)] at h
      obtain ⟨-, same⟩ := Piece.reference.inj (List.mem_singleton.1 h)
      rw [String.toList_inj.1 same] at defined
      exact absurd value defined
    | some v =>
      rw [Piece.expand_of_some value] at h
      exact ⟨name, mentions_iff.2 ⟨round', hp⟩, v, value, mentions_iff.2 ⟨round, h⟩⟩

/-! ### Substitution -/

/-- The second text comes of the first by replacing every reference to a defined macro by what comes
of its value. References to other macros and all other characters are kept. -/
inductive Substitutes (definitions : Definitions) : List Char → List Char → Prop
  | nil : Substitutes definitions [] []
  | char {c : Char} {cs r : List Char} (other : c ≠ '$') (rest : Substitutes definitions cs r) :
      Substitutes definitions (c :: cs) (c :: r)
  | unknown {round : Bool} {name : String} {cs r : List Char} (isName : IsName name.toList)
      (value : definitions name = none) (rest : Substitutes definitions cs r) :
      Substitutes definitions ((Piece.reference round name.toList).text ++ cs)
        ((Piece.reference round name.toList).text ++ r)
  | known {round : Bool} {name v : String} {w cs r : List Char} (isName : IsName name.toList)
      (value : definitions name = some v) (inner : Substitutes definitions v.toList w)
      (rest : Substitutes definitions cs r) :
      Substitutes definitions ((Piece.reference round name.toList).text ++ cs) (w ++ r)

namespace Substitutes

variable {r r' : List Char}

theorem eq_nil (h : Substitutes definitions [] r) : r = [] := by
  generalize e : ([] : List Char) = cs at h
  cases h with
  | nil => rfl
  | char => cases e
  | @unknown round | @known round => cases round <;> cases e

/-- What comes of a text that begins with a character other than `$`. -/
theorem of_cons {c : Char} (other : c ≠ '$') (h : Substitutes definitions (c :: cs) r) :
    ∃ r', r = c :: r' ∧ Substitutes definitions cs r' := by
  generalize e : c :: cs = ds at h
  cases h with
  | nil => cases e
  | char _ rest =>
    obtain ⟨rfl, rfl⟩ := List.cons.inj e
    exact ⟨_, rfl, rest⟩
  | @unknown round | @known round =>
    exact absurd (by cases round <;> exact (List.cons.inj e).1) other

/-- What comes of a text that begins with a reference. -/
theorem of_reference {round : Bool} (isName : IsName name.toList)
    (h : Substitutes definitions ((Piece.reference round name.toList).text ++ cs) r) :
    ∃ w r', r = w ++ r' ∧ Substitutes definitions cs r' ∧
      ((definitions name = none ∧ w = (Piece.reference round name.toList).text) ∨
        ∃ v, definitions name = some v ∧ Substitutes definitions v.toList w) := by
  have same {round' : Bool} {name' : String} {cs' : List Char} (isName' : IsName name'.toList)
      (e : (Piece.reference round name.toList).text ++ cs =
        (Piece.reference round' name'.toList).text ++ cs') :
      round = round' ∧ name = name' ∧ cs = cs' := by
    obtain ⟨p, rest⟩ := Piece.IsReference.eq_of_append (p := .reference round name.toList)
      (q := .reference round' name'.toList) isName isName' e
    obtain ⟨same, names⟩ := Piece.reference.inj p
    exact ⟨same, String.toList_inj.1 names, rest⟩
  generalize e : (Piece.reference round name.toList).text ++ cs = ds at h
  cases h with
  | nil => cases round <;> cases e
  | char other => exact absurd (by cases round <;> exact (List.cons.inj e).1.symm) other
  | unknown isName' value rest =>
    obtain ⟨rfl, rfl, rfl⟩ := same isName' e
    exact ⟨_, _, rfl, rest, .inl ⟨value, rfl⟩⟩
  | known isName' value inner rest =>
    obtain ⟨rfl, rfl, rfl⟩ := same isName' e
    exact ⟨_, _, rfl, rest, .inr ⟨_, value, inner⟩⟩

/-- Only one text comes of a text. -/
theorem unique (h : Substitutes definitions cs r) (h' : Substitutes definitions cs r') :
    r' = r := by
  induction h generalizing r' with
  | nil => exact h'.eq_nil
  | char other _ ih =>
    obtain ⟨r', rfl, rest⟩ := h'.of_cons other
    rw [ih rest]
  | unknown isName value _ ih =>
    obtain ⟨w, r', rfl, rest, ⟨-, rfl⟩ | ⟨v, value', -⟩⟩ := h'.of_reference isName
    · rw [ih rest]
    · rw [value] at value'
      cases value'
  | known isName value _ _ inner ih =>
    obtain ⟨w, r', rfl, rest, ⟨value', -⟩ | ⟨v, value', h⟩⟩ := h'.of_reference isName
    · rw [value] at value'
      cases value'
    · obtain rfl := Option.some.inj (value.symm.trans value')
      rw [ih rest, inner h]

/-- Behind a clean text the substitution begins anew. -/
theorem of_append (clean : IsClean cs) (h : Substitutes definitions (cs ++ ds) r) :
    ∃ w r', r = w ++ r' ∧ Substitutes definitions cs w ∧ Substitutes definitions ds r' := by
  induction clean using clean_induction generalizing r with
  | nil => exact ⟨[], r, rfl, .nil, h⟩
  | char c cs other _ ih =>
    obtain ⟨r', rfl, rest⟩ := of_cons other h
    obtain ⟨w, r', rfl, front, back⟩ := ih rest
    exact ⟨c :: w, r', rfl, .char other front, back⟩
  | reference round name cs isName _ ih =>
    rw [List.append_assoc] at h
    obtain ⟨u, r', rfl, rest, found⟩ := of_reference isName h
    obtain ⟨w, r', rfl, front, back⟩ := ih rest
    refine ⟨u ++ w, r', (List.append_assoc u w r').symm, ?_, back⟩
    rcases found with ⟨value, rfl⟩ | ⟨v, value, inner⟩
    · exact .unknown isName value front
    · exact .known isName value inner front

/-- A text of which nothing can be replaced stays as it is. -/
theorem refl (clean : IsClean cs) (h : ∀ name, Mentions cs name → definitions name = none) :
    Substitutes definitions cs cs := by
  induction clean using clean_induction with
  | nil => exact .nil
  | char c cs other _ ih =>
    exact .char other (ih fun name found => h name (found.mono (List.suffix_cons c cs).isInfix))
  | reference round name cs isName _ ih =>
    refine .unknown isName (h name ⟨isName, round, (List.prefix_append _ _).isInfix⟩) (ih ?_)
    exact fun name found => h name (found.mono (List.suffix_append _ _).isInfix)

/-- What comes of a text after a pass comes of it before. -/
theorem of_expandOnce (values : HasCleanValues definitions) (clean : IsClean cs)
    (h : Substitutes definitions (expandOnce definitions cs) r) : Substitutes definitions cs r := by
  induction clean using clean_induction generalizing r with
  | nil => exact h
  | char c cs other _ ih =>
    rw [expandOnce_cons (reference?_cons_of_ne other cs)] at h
    obtain ⟨r', rfl, rest⟩ := of_cons other h
    exact .char other (ih rest)
  | reference round name cs isName _ ih =>
    rw [expandOnce_reference (p := .reference round name.toList) isName] at h
    cases value : definitions name with
    | none =>
      rw [Piece.expand_of_none value] at h
      obtain ⟨w, r', rfl, rest, ⟨-, rfl⟩ | ⟨v, value', -⟩⟩ := of_reference isName h
      · exact .unknown isName value (ih rest)
      · rw [value] at value'
        cases value'
    | some v =>
      rw [Piece.expand_of_some value] at h
      obtain ⟨w, r', rfl, inner, rest⟩ := of_append (values name v value) h
      exact .known isName value inner (ih rest)

theorem of_iterate (values : HasCleanValues definitions) (clean : IsClean cs) (passes : ℕ)
    (h : Substitutes definitions ((expandOnce definitions)^[passes] cs) r) :
    Substitutes definitions cs r := by
  induction passes generalizing cs with
  | zero => exact h
  | succ passes ih => exact of_expandOnce values clean (ih (isClean_expandOnce values clean) h)

end Substitutes

/-! ### Chains of macros -/

/-- A chain of defined macros: a text mentions the first, and the value of each the next. -/
def IsChain (definitions : Definitions) : List Char → List String → Prop
  | _, [] => True
  | cs, name :: names =>
    Mentions cs name ∧ ∃ v, definitions name = some v ∧ IsChain definitions v.toList names

theorem IsChain.of_append {names more : List String} (h : IsChain definitions cs (names ++ more)) :
    IsChain definitions cs names := by
  induction names generalizing cs with
  | nil => trivial
  | cons name names ih =>
    obtain ⟨found, v, value, rest⟩ := h
    exact ⟨found, v, value, ih rest⟩

/-- No chain comes to a macro twice. -/
def IsAcyclic (definitions : Definitions) (cs : List Char) : Prop :=
  ∀ names, IsChain definitions cs names → names.Nodup

/-- The length of the longest chain; it is infinite if there are longer and longer ones. -/
noncomputable def depth (definitions : Definitions) (cs : List Char) : ℕ∞ :=
  ⨆ (names : List String) (_ : IsChain definitions cs names), (names.length : ℕ∞)

theorem depth_le_iff {n : ℕ} :
    depth definitions cs ≤ n ↔ ∀ names, IsChain definitions cs names → names.length ≤ n := by
  simp only [depth, iSup_le_iff, Nat.cast_le]

/-- The chains of a text after a pass are those before without the first macro. -/
theorem isChain_expandOnce_iff (values : HasCleanValues definitions) (clean : IsClean cs)
    {names : List String} :
    IsChain definitions (expandOnce definitions cs) (name :: names) ↔
      ∃ first, IsChain definitions cs (first :: name :: names) := by
  constructor
  · rintro ⟨found, v, value, rest⟩
    obtain ⟨first, mentions, u, value', uses⟩ :=
      exists_uses_of_mentions values clean found (by simp [value])
    exact ⟨first, mentions, u, value', uses, v, value, rest⟩
  · rintro ⟨first, mentions, u, value', uses, rest⟩
    exact ⟨mentions.expandOnce ⟨u, value', uses⟩, rest⟩

/-- The chains after some passes are those of the text without as many macros. -/
theorem isChain_iterate (values : HasCleanValues definitions) (clean : IsClean cs)
    {names : List String} (passes : ℕ) :
    IsChain definitions ((expandOnce definitions)^[passes] cs) (name :: names) ↔
      ∃ firsts : List String, firsts.length = passes ∧
        IsChain definitions cs (firsts ++ name :: names) := by
  induction passes generalizing cs with
  | zero => simp
  | succ passes ih =>
    rw [Function.iterate_succ_apply, ih (isClean_expandOnce values clean)]
    constructor
    · rintro ⟨firsts, length, chain⟩
      obtain ⟨next, rest, split⟩ :=
        List.exists_cons_of_ne_nil (l := firsts ++ name :: names) (by simp)
      rw [split, isChain_expandOnce_iff values clean, ← split] at chain
      obtain ⟨first, chain⟩ := chain
      exact ⟨first :: firsts, by simp [length], chain⟩
    · rintro ⟨firsts, length, chain⟩
      obtain ⟨first, firsts, rfl⟩ := List.exists_cons_of_length_eq_add_one length
      obtain ⟨next, rest, split⟩ :=
        List.exists_cons_of_ne_nil (l := firsts ++ name :: names) (by simp)
      refine ⟨firsts, by simpa using length, ?_⟩
      rw [split, isChain_expandOnce_iff values clean, ← split]
      exact ⟨first, chain⟩

theorem isClean_iterate (values : HasCleanValues definitions) (clean : IsClean cs) (passes : ℕ) :
    IsClean ((expandOnce definitions)^[passes] cs) := by
  induction passes with
  | zero => exact clean
  | succ passes ih =>
    rw [Function.iterate_succ_apply']
    exact isClean_expandOnce values ih

/-- A defined macro is mentioned after some passes exactly if the text is deeper than that. -/
theorem exists_mentions_iff (values : HasCleanValues definitions) (clean : IsClean cs)
    (passes : ℕ) :
    (∃ name, Mentions ((expandOnce definitions)^[passes] cs) name ∧ definitions name ≠ none) ↔
      (passes : ℕ∞) < depth definitions cs := by
  have chains (name : String) :
      Mentions ((expandOnce definitions)^[passes] cs) name ∧ definitions name ≠ none ↔
        IsChain definitions ((expandOnce definitions)^[passes] cs) [name] :=
    and_congr_right fun _ => by simp [IsChain, Option.ne_none_iff_exists']
  rw [← not_le, depth_le_iff]
  push Not
  simp only [chains, isChain_iterate values clean]
  constructor
  · rintro ⟨name, firsts, rfl, chain⟩
    exact ⟨_, chain, by simp⟩
  · rintro ⟨names, chain, longer⟩
    refine ⟨names[passes], names.take passes, List.length_take_of_le longer.le, ?_⟩
    rw [← List.take_succ_eq_append_getElem longer]
    rw [← List.take_append_drop (passes + 1) names] at chain
    exact chain.of_append

/-- Without cycles the passes leave a stable text exactly if there are as many as the text is
deep. -/
theorem isStable_iterate_iff (values : HasCleanValues definitions) (clean : IsClean cs)
    (acyclic : IsAcyclic definitions cs) (passes : ℕ) :
    IsStable definitions ((expandOnce definitions)^[passes] cs) ↔
      depth definitions cs ≤ passes := by
  rw [← not_lt, ← exists_mentions_iff values clean passes]
  constructor
  · rintro stable ⟨name, found, defined⟩
    obtain ⟨p, ⟨round, self, v, rfl, isName, value, inside⟩, outside⟩ :=
      stable.hasRecurring found (Option.isSome_iff_ne_none.2 defined)
    -- A reference that recurs would be twice in one chain.
    have twice : IsChain definitions ((expandOnce definitions)^[passes] cs) [self, self] :=
      ⟨⟨isName, round, outside⟩, v, value, ⟨isName, round, inside⟩, v, value, trivial⟩
    obtain ⟨firsts, -, chain⟩ := (isChain_iterate values clean passes).1 twice
    have nodup := (acyclic _ chain).of_append_right
    simp at nodup
  · intro none
    exact expandOnce_eq_self fun name found => by
      by_contra defined
      exact none ⟨name, found, defined⟩

/-- What the passes leave of a text that is not deeper comes of it by substitution. -/
theorem substitutes_iterate (values : HasCleanValues definitions) (clean : IsClean cs)
    {passes : ℕ} (le : depth definitions cs ≤ passes) :
    Substitutes definitions cs ((expandOnce definitions)^[passes] cs) := by
  refine .of_iterate values clean passes
    (.refl (isClean_iterate values clean passes) fun name found => ?_)
  by_contra defined
  exact not_lt.2 le ((exists_mentions_iff values clean passes).1 ⟨name, found, defined⟩)

/-- **Expansion is substitution.** Let a text and the values of all macros be clean, and no chain of
macros that begins in the text have a cycle. Then the text has an expansion exactly if no chain has
more than eight macros. The expansion is the one text that comes of it by substitution, and is its
own expansion. A deeper text is refused, with its words. -/
theorem expand_of_acyclic (clean : IsClean text.toList) (values : HasCleanValues definitions)
    (acyclic : IsAcyclic definitions text.toList) :
    ((∃ r, expand definitions text = .ok r) ↔ depth definitions text.toList ≤ 8) ∧
    (∀ r, expand definitions text = .ok r → Substitutes definitions text.toList r.toList ∧
      (∀ r', Substitutes definitions text.toList r' → r' = r.toList) ∧
      expand definitions r = .ok r) ∧
    (8 < depth definitions text.toList → expand definitions text =
      .error (.validation s!"Macro expansion of '{text}' exceeds {maxDepth} levels")) := by
  have stable_iff : IsStable definitions ((expandOnce definitions)^[maxDepth] text.toList) ↔
      depth definitions text.toList ≤ 8 := isStable_iterate_iff values clean acyclic maxDepth
  refine ⟨⟨?_, fun le => ?_⟩, fun r h => ?_, fun deeper => ?_⟩
  · rintro ⟨r, h⟩
    exact stable_iff.1 (expand_eq_ok_iff.1 h).1
  · exact ⟨String.ofList ((expandOnce definitions)^[maxDepth] text.toList),
      expand_eq_ok_iff.2 ⟨stable_iff.2 le, by simp⟩⟩
  · obtain ⟨stable, result⟩ := expand_eq_ok_iff.1 h
    have comes : Substitutes definitions text.toList r.toList :=
      result ▸ substitutes_iterate values clean (stable_iff.1 stable)
    refine ⟨comes, fun r' h' => comes.unique h', expand_eq_ok_iff.2 ?_⟩
    rw [result, stable.iterate]
    exact ⟨stable, rfl⟩
  · exact expand_of_not_isStable fun stable => not_lt.2 (stable_iff.1 stable) deeper

/-! ### Nine macros in a row -/

/-- Macros whose values mention later macros only have no cycle. -/
theorem isAcyclic_of_lt (h : ∀ name other, Uses definitions name other →
    definitions other ≠ none → name < other) : IsAcyclic definitions cs := by
  have ascending (names : List String) (chain : IsChain definitions cs names) :
      names.Pairwise (· < ·) := by
    induction names generalizing cs with
    | nil => exact .nil
    | cons name names ih =>
      obtain ⟨-, v, value, chain⟩ := chain
      have later := ih chain
      refine later.cons fun other member => ?_
      cases names with
      | nil => cases member
      | cons next names =>
        have lt : name < next := by
          obtain ⟨found, w, value', -⟩ := chain
          exact h name next ⟨v, value, found⟩ (by simp [value'])
        rcases List.mem_cons.1 member with rfl | member
        · exact lt
        · exact String.lt_trans lt (List.rel_of_pairwise_cons later member)
  have apart {name other : String} (lt : name < other) : name ≠ other := by
    rintro rfl
    exact String.lt_irrefl _ lt
  exact fun names chain => (ascending names chain).imp apart

/-- Nine macros, each of which mentions the next. -/
def sampleTable : List (String × String) :=
  [("A", "<$(B)>"), ("B", "$\x7bC\x7d"), ("C", "$(D)$(D)"), ("D", "$(E)"), ("E", "$(F)"),
    ("F", "$(G)"), ("G", "$(H)"), ("H", "$(I)$(X)"), ("I", "/")]

/-- The macros of a table. -/
def ofTable (table : List (String × String)) : Definitions := fun name => table.lookup name

theorem mem_of_ofTable {table : List (String × String)} {v : String}
    (h : ofTable table name = some v) : (name, v) ∈ table := by
  obtain ⟨before, after, rfl, -⟩ := List.lookup_eq_some_iff.1 h
  simp

theorem expand_of_acyclic_sample :
    expand (ofTable sampleTable) "x$(B)" = .ok "x/$(X)/$(X)" ∧
      depth (ofTable sampleTable) "x$(B)".toList ≤ 8 ∧
      Substitutes (ofTable sampleTable) "x$(B)".toList "x/$(X)/$(X)".toList ∧
    8 < depth (ofTable sampleTable) "$(A)".toList ∧
      expand (ofTable sampleTable) "$(A)" =
        .error (.validation "Macro expansion of '$(A)' exceeds 8 levels") := by
  have values : HasCleanValues (ofTable sampleTable) := fun name v value =>
    (by decide +kernel : ∀ entry ∈ sampleTable, IsClean entry.2.toList) _ (mem_of_ofTable value)
  have ascending : ∀ name other, Uses (ofTable sampleTable) name other →
      ofTable sampleTable other ≠ none → name < other := by
    rintro name other ⟨v, value, uses⟩ defined
    obtain ⟨w, value'⟩ := Option.ne_none_iff_exists'.1 defined
    exact (by decide +kernel : ∀ entry ∈ sampleTable, ∀ later ∈ sampleTable,
      Mentions entry.2.toList later.1 → entry.1 < later.1) _ (mem_of_ofTable value) _
        (mem_of_ofTable value') uses
  have run : expand (ofTable sampleTable) "x$(B)" = .ok "x/$(X)/$(X)" := by decide +kernel
  have refused : ¬ ∃ r, expand (ofTable sampleTable) "$(A)" = .ok r := by
    rintro ⟨r, h⟩
    have : (expand (ofTable sampleTable) "$(A)").toOption = none := by decide +kernel
    rw [h] at this
    cases this
  have clean : IsClean "x$(B)".toList := by decide
  have clean' : IsClean "$(A)".toList := by decide
  obtain ⟨ok, result, -⟩ := expand_of_acyclic clean values (isAcyclic_of_lt ascending)
  obtain ⟨ok', -, deeper⟩ := expand_of_acyclic clean' values (isAcyclic_of_lt ascending)
  have deep := not_le.1 (mt ok'.2 refused)
  exact ⟨run, ok.1 ⟨_, run⟩, (result _ run).1, deep, deeper deep⟩

end PanelScript.Macro

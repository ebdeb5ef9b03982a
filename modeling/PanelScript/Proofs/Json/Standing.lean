import Mathlib.Data.List.DropRight
import PanelScript.Proofs.Json.ReadBack

/-!
# What stands in a text that was read

A reader that gives something has found it in the text: behind blanks a word, a number, a string, or
a bracket with what is in it.

* `nextItem_eq_ok_iff`, `nextMember_eq_ok_iff` and the like say when the marks between values are
  read;
* `Stands` is how a tree stands in a text, `stands_of_value` says that it does if it was read;
* `ItemsStand` and `MembersStand` are the same of what is in brackets.
-/

namespace PanelScript.Json

variable {cs rest : List Char}

/-! ### Marks -/

theorem skipSpace_idem (cs : List Char) : skipSpace (skipSpace cs) = skipSpace cs :=
  List.dropWhile_idempotent _ _

theorem readIdent_eq_ok_iff {word : List Char} :
    readIdent word cs = .ok rest ↔ cs = word ++ rest := by
  induction word generalizing cs with
  | nil => simp [readIdent]
  | cons w word ih =>
    cases cs with
    | nil => simp [readIdent, refuse]
    | cons c cs =>
      rw [readIdent, List.cons_append, List.cons.injEq]
      by_cases same : w = c
      · rw [if_pos same, ih]
        simp [same]
      · rw [if_neg same]
        simp [refuse, Ne.symm same]

theorem readColon_eq_ok_iff : readColon cs = .ok rest ↔ skipSpace cs = ':' :: rest := by
  unfold readColon
  split
  · simp [refuse, *]
  · simp [*]
  · simp_all [refuseNext]

theorem endList_eq_ok_iff : endList cs = .ok rest ↔ skipSpace cs = ']' :: rest := by
  unfold endList
  split
  · simp [refuse, *]
  · simp [*]
  · split <;> simp [refuseNext, *]
  · simp_all [refuseNext]

theorem endObject_eq_ok_iff : endObject cs = .ok rest ↔ skipSpace cs = '\x7d' :: rest := by
  unfold endObject
  split
  · simp [refuse, *]
  · simp [*]
  · simp [refuseNext, *]
  · simp_all [refuseNext]

theorem endOfText_eq_ok_iff : endOfText cs = .ok () ↔ skipSpace cs = [] := by
  unfold endOfText
  split
  · simp [*]
  · simp_all [refuseNext]

/-- Whether an open list has another item, and what stands from there. -/
inductive NextItem : Bool → List Char → Bool → List Char → Prop
  | none {first : Bool} {cs rest : List Char} (space : skipSpace cs = ']' :: rest) :
      NextItem first cs false (']' :: rest)
  | first {cs rest : List Char} {c : Char} (space : skipSpace cs = c :: rest) (other : c ≠ ']') :
      NextItem true cs true (c :: rest)
  | behind {cs tail rest : List Char} {c : Char} (comma : skipSpace cs = ',' :: tail)
      (space : skipSpace tail = c :: rest) (other : c ≠ ']') : NextItem false cs true (c :: rest)

theorem nextItem_eq_ok_iff {first more : Bool} :
    nextItem first cs = .ok (more, rest) ↔ NextItem first cs more rest := by
  constructor
  · intro h
    unfold nextItem at h
    split at h
    · cases h
    · rename_i space
      cases h
      exact .none space
    · rename_i c r bracket space
      cases first with
      | true =>
        cases h
        exact .first space bracket
      | false =>
        simp only [Bool.false_eq_true, if_false] at h
        split_ifs at h with comma
        · subst comma
          split at h
          · cases h
          · cases h
          · rename_i tail empty bracket
            cases h
            cases e : skipSpace r with
            | nil => exact absurd e empty
            | cons c r' => exact .behind space e fun same => bracket r' (by rw [e, same])
        · cases h
  · intro h
    cases h with
    | none space => simp [nextItem, space]
    | first space => simp [nextItem, space]
    | behind comma space other => simp [nextItem, comma, space, other]

/-- Whether an open object has another member, and what stands behind the quote of its name. -/
inductive NextMember : Bool → List Char → Bool → List Char → Prop
  | none {first : Bool} {cs rest : List Char} (space : skipSpace cs = '\x7d' :: rest) :
      NextMember first cs false ('\x7d' :: rest)
  | first {cs rest : List Char} (space : skipSpace cs = '"' :: rest) : NextMember true cs true rest
  | behind {cs tail rest : List Char} (comma : skipSpace cs = ',' :: tail)
      (space : skipSpace tail = '"' :: rest) : NextMember false cs true rest

theorem nextMember_eq_ok_iff {first more : Bool} :
    nextMember first cs = .ok (more, rest) ↔ NextMember first cs more rest := by
  constructor
  · intro h
    unfold nextMember at h
    split at h
    · cases h
    · rename_i space
      cases h
      exact .none space
    · rename_i c r bracket space
      cases first with
      | true =>
        simp only [if_true] at h
        split_ifs at h with quote
        · cases h
          exact .first (quote ▸ space)
        · cases h
      | false =>
        simp only [Bool.false_eq_true, if_false] at h
        split_ifs at h with comma
        · subst comma
          split at h
          · cases h
          · rename_i tail
            cases h
            exact .behind space tail
          · cases h
          · cases h
        · cases h
  · intro h
    cases h with
    | none space => simp [nextMember, space]
    | first space => simp [nextMember, space]
    | behind comma space => simp [nextMember, comma, space]

/-! ### Trees -/

/-- A tree stands in a text that begins with a character, and something is left. -/
inductive Stands : Nat → Json → Char → List Char → List Char → Prop
  | null {d : Nat} {rest : List Char} : Stands d .null 'n' ("ull".toList ++ rest) rest
  | true {d : Nat} {rest : List Char} : Stands d (.bool true) 't' ("rue".toList ++ rest) rest
  | false {d : Nat} {rest : List Char} : Stands d (.bool false) 'f' ("alse".toList ++ rest) rest
  | negative {d : Nat} {n : Number} {cs rest : List Char}
      (read : readNumber true cs = .ok (n, rest)) : Stands d (.num n) '-' cs rest
  | number {d : Nat} {n : Number} {c : Char} {cs rest : List Char} (digit : c.isDigit = Bool.true)
      (read : readNumber false (c :: cs) = .ok (n, rest)) : Stands d (.num n) c cs rest
  | str {d : Nat} {s : String} {cs rest : List Char} (read : readString cs = .ok (s, rest)) :
      Stands d (.str s) '"' cs rest
  | arr {d : Nat} {items : List Json} {cs rest : List Char}
      (read : readList (value d) cs = .ok (items, rest)) : Stands (d + 1) (.arr items) '[' cs rest
  | obj {d : Nat} {members : List (String × Json)} {cs rest : List Char}
      (read : readObject (value d) cs = .ok (members, rest)) :
      Stands (d + 1) (.obj members) '\x7b' cs rest

theorem ne_of_isDigit {c d : Char} (digit : c.isDigit = true) (other : d.isDigit = false) :
    c ≠ d := by
  rintro rfl
  rw [digit] at other
  cases other

/-- A tree that was read stands behind the blanks. -/
theorem stands_of_value {d : Nat} {v : Json} (h : value d cs = .ok (v, rest)) :
    ∃ c cs', skipSpace cs = c :: cs' ∧ Stands d v c cs' rest := by
  unfold value at h
  split at h
  · cases h
  · rename_i c cs' space
    refine ⟨c, cs', space, ?_⟩
    split_ifs at h with null true false negative digit quote list object
    · obtain ⟨cs₁, read, e⟩ := map_eq_ok_iff.1 h
      cases e
      rw [null, readIdent_eq_ok_iff.1 read]
      exact .null
    · obtain ⟨cs₁, read, e⟩ := map_eq_ok_iff.1 h
      cases e
      rw [true, readIdent_eq_ok_iff.1 read]
      exact .true
    · obtain ⟨cs₁, read, e⟩ := map_eq_ok_iff.1 h
      cases e
      rw [false, readIdent_eq_ok_iff.1 read]
      exact .false
    · obtain ⟨⟨n, cs₁⟩, read, e⟩ := map_eq_ok_iff.1 h
      cases e
      exact negative ▸ .negative read
    · obtain ⟨⟨n, cs₁⟩, read, e⟩ := map_eq_ok_iff.1 h
      cases e
      exact .number digit read
    · obtain ⟨⟨s, cs₁⟩, read, e⟩ := map_eq_ok_iff.1 h
      cases e
      exact quote ▸ .str read
    · cases d with
      | zero => cases h
      | succ d =>
        obtain ⟨⟨items, cs₁⟩, read, e⟩ := map_eq_ok_iff.1 h
        cases e
        exact list ▸ .arr read
    · cases d with
      | zero => cases h
      | succ d =>
        obtain ⟨⟨members, cs₁⟩, read, e⟩ := map_eq_ok_iff.1 h
        cases e
        exact object ▸ .obj read
    · cases h

/-! ### What is in brackets -/

section Brackets

variable {α : Type} {read : Reader α}

/-- Items stand in an open list, and something is left behind its closing bracket. -/
inductive ItemsStand (read : Reader α) : Bool → List Char → List α → List Char → Prop
  | nil {first : Bool} {cs rest : List Char} (closes : skipSpace cs = ']' :: rest) :
      ItemsStand read first cs [] rest
  | cons {first : Bool} {cs cs₁ cs₂ rest : List Char} {v : α} {vs : List α}
      (next : NextItem first cs true cs₁) (item : read cs₁ = .ok (v, cs₂))
      (others : ItemsStand read false cs₂ vs rest) : ItemsStand read first cs (v :: vs) rest

theorem itemsStand_of_readItems {fuel : Nat} {first : Bool} {items : List α}
    (h : readItems read fuel first cs = .ok (items, rest)) :
    items.length < fuel ∧ ∃ r, rest = ']' :: r ∧ ItemsStand read first cs items r := by
  induction fuel generalizing first cs items with
  | zero => cases h
  | succ fuel ih =>
    obtain ⟨⟨more, cs₁⟩, next, h⟩ := bind_eq_ok_iff.1 h
    have next := nextItem_eq_ok_iff.1 next
    cases more with
    | true =>
      obtain ⟨⟨v, cs₂⟩, item, h⟩ := bind_eq_ok_iff.1 h
      obtain ⟨⟨vs, cs₃⟩, others, h⟩ := bind_eq_ok_iff.1 h
      cases h
      obtain ⟨lt, r, e, others⟩ := ih others
      exact ⟨Nat.succ_lt_succ lt, r, e, .cons next item others⟩
    | false =>
      cases h
      cases next with
      | none closes => exact ⟨Nat.succ_pos fuel, _, rfl, .nil closes⟩

/-- The items of a list that was read. -/
theorem itemsStand_of_readList {items : List α} (h : readList read cs = .ok (items, rest)) :
    items.length ≤ cs.length ∧ ItemsStand read true cs items rest := by
  obtain ⟨⟨vs, cs₁⟩, items, h⟩ := bind_eq_ok_iff.1 h
  obtain ⟨cs₂, ends, h⟩ := bind_eq_ok_iff.1 h
  cases h
  obtain ⟨lt, r, rfl, stand⟩ := itemsStand_of_readItems items
  cases endList_eq_ok_iff.1 ends
  exact ⟨Nat.le_of_lt_succ lt, stand⟩

/-- Members stand in an open object, and something is left behind its closing bracket. -/
inductive MembersStand (read : Reader α) :
    Bool → List Char → List (String × α) → List Char → Prop
  | nil {first : Bool} {cs rest : List Char} (closes : skipSpace cs = '\x7d' :: rest) :
      MembersStand read first cs [] rest
  | cons {first : Bool} {cs cs₁ cs₂ cs₃ cs₄ rest : List Char} {name : String} {v : α}
      {members : List (String × α)} (next : NextMember first cs true cs₁)
      (named : readString cs₁ = .ok (name, cs₂)) (colon : skipSpace cs₂ = ':' :: cs₃)
      (member : read cs₃ = .ok (v, cs₄)) (others : MembersStand read false cs₄ members rest) :
      MembersStand read first cs ((name, v) :: members) rest

theorem membersStand_of_readMembers {fuel : Nat} {first : Bool} {members : List (String × α)}
    (h : readMembers read fuel first cs = .ok (members, rest)) :
    members.length < fuel ∧ ∃ r, rest = '\x7d' :: r ∧ MembersStand read first cs members r := by
  induction fuel generalizing first cs members with
  | zero => cases h
  | succ fuel ih =>
    obtain ⟨⟨more, cs₁⟩, next, h⟩ := bind_eq_ok_iff.1 h
    have next := nextMember_eq_ok_iff.1 next
    cases more with
    | true =>
      obtain ⟨⟨name, cs₂⟩, named, h⟩ := bind_eq_ok_iff.1 h
      obtain ⟨cs₃, colon, h⟩ := bind_eq_ok_iff.1 h
      obtain ⟨⟨v, cs₄⟩, member, h⟩ := bind_eq_ok_iff.1 h
      obtain ⟨⟨others, cs₅⟩, more, h⟩ := bind_eq_ok_iff.1 h
      cases h
      obtain ⟨lt, r, e, others⟩ := ih more
      exact ⟨Nat.succ_lt_succ lt, r, e,
        .cons next named (readColon_eq_ok_iff.1 colon) member others⟩
    | false =>
      cases h
      cases next with
      | none closes => exact ⟨Nat.succ_pos fuel, _, rfl, .nil closes⟩

/-- The members of an object that was read. -/
theorem membersStand_of_readObject {members : List (String × α)}
    (h : readObject read cs = .ok (members, rest)) :
    members.length ≤ cs.length ∧ MembersStand read true cs members rest := by
  obtain ⟨⟨vs, cs₁⟩, members, h⟩ := bind_eq_ok_iff.1 h
  obtain ⟨cs₂, ends, h⟩ := bind_eq_ok_iff.1 h
  cases h
  obtain ⟨lt, r, rfl, stand⟩ := membersStand_of_readMembers members
  cases endObject_eq_ok_iff.1 ends
  exact ⟨Nat.le_of_lt_succ lt, stand⟩

end Brackets

end PanelScript.Json

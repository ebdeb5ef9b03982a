import PanelScript.Proofs.Json.Skipping

/-!
# Typed readers and trees

A typed reader that runs on octets gives what a function makes of the tree that is read from the
text, and refuses the octets if the function makes nothing of it.

* `Agrees` says this of a reader and a function;
* `agrees_text`, `agrees_nat` and `agrees_list`: strings, numbers and lists;
* `foldMembersBy_agrees` and `readElement?_agrees`: the members of an object and the places of a
  list, one by one.
-/

namespace PanelScript.Json

variable {cs cs' rest : List Char} {c : Char}

/-- Wherever a tree is read, the reader gives what the function makes of it. -/
def Agrees {β : Type} (read : Reader β) (f : Json → Option β) : Prop :=
  ∀ d cs v rest, value d cs = .ok (v, rest) →
    (read (inOctets cs)).toOption = (f v).map (·, inOctets rest)

theorem Stands.ascii {d : Nat} {v : Json} (h : Stands d v c cs rest) : c.toNat < 0x80 := by
  cases h with
  | number digit => exact isAscii_isDigit c digit
  | null | true | false | negative | str | arr | obj => decide

/-! ### Strings, numbers and lists -/

/-- The text that a tree denotes. -/
def textOf? : Json → Option String
  | .str s => some s
  | _ => none

theorem toOption_readEncodedAs_other (space : skipSpace cs = c :: cs') (h : c ≠ '"')
    (expected : String) : (readEncodedAs expected cs).toOption = none := by
  rw [readEncodedAs, space]
  split
  · contradiction
  · rename_i e
    exact absurd (List.cons.inj e).1 h
  · exact toOption_wrongType expected _

theorem agrees_text (expected : String) : Agrees (readEncodedAs expected) textOf? := by
  intro d cs v rest h
  obtain ⟨c, cs', space, stands⟩ := stands_of_value h
  have space := skipSpace_inOctets_cons stands.ascii space
  cases stands with
  | str read =>
    rw [readEncodedAs, space]
    exact congrArg _ (readEncoded_inOctets read).1
  | number digit => exact toOption_readEncodedAs_other space (ne_of_isDigit digit rfl) expected
  | null | true | false | negative | arr | obj =>
    exact toOption_readEncodedAs_other space (by decide) expected

/-- The number below a bound that a tree denotes. -/
def natOf? (bound : Nat) : Json → Option Nat
  | .num (.int n) => if 0 ≤ n ∧ n < bound then some n.toNat else none
  | _ => none

theorem toOption_readNatBelow_other (space : skipSpace cs = c :: cs') (sign : c ≠ '-')
    (digit : c.isDigit = false) (bound : Nat) (expected : String) :
    (readNatBelow bound expected cs).toOption = none := by
  rw [readNatBelow, space]
  simp only [sign, digit, if_false, Bool.false_eq_true]
  exact toOption_wrongType expected _

theorem toOption_readNatBelow_number {n : Number} (space : skipSpace cs = c :: cs')
    (read : c = '-' ∧ readNumber true cs' = .ok (n, rest) ∨
      c.isDigit = true ∧ readNumber false (c :: cs') = .ok (n, rest))
    (bound : Nat) (expected : String) :
    (readNatBelow bound expected cs).toOption = (natOf? bound (.num n)).map (·, rest) := by
  rw [readNatBelow, space]
  rcases read with ⟨rfl, read⟩ | ⟨digit, read⟩
  · simp only [if_true, read, ok_bind]
    cases n with
    | real => rfl
    | int n =>
      rw [natOf?]
      dsimp only
      split_ifs <;> rfl
  · simp only [ne_of_isDigit digit (show '-'.isDigit = false from rfl), digit, if_false, if_true,
      read, ok_bind]
    cases n with
    | real => rfl
    | int n =>
      rw [natOf?]
      dsimp only
      split_ifs <;> rfl

theorem agrees_nat (bound : Nat) (expected : String) :
    Agrees (readNatBelow bound expected) (natOf? bound) := by
  intro d cs v rest h
  obtain ⟨c, cs', space, stands⟩ := stands_of_value h
  have ascii := stands.ascii
  have space := skipSpace_inOctets_cons ascii space
  cases stands with
  | negative read =>
    exact toOption_readNatBelow_number space (.inl ⟨rfl, readNumber_inOctets read⟩) bound expected
  | number digit read =>
    have read := readNumber_inOctets read
    rw [inOctets_cons ascii] at read
    exact toOption_readNatBelow_number space (.inr ⟨digit, read⟩) bound expected
  | null | true | false | str | arr | obj =>
    exact toOption_readNatBelow_other space (by decide) (by decide) bound expected

section Lists

variable {β : Type} {read : Reader β} {f : Json → Option β}

/-- What a function makes of each item of a list. -/
def listOf? (f : Json → Option β) : Json → Option (List β)
  | .arr items => items.mapM f
  | _ => none

theorem readItems_agrees (each : Agrees read f) {d : Nat} {first : Bool} {items : List Json}
    (h : ItemsStand (value d) first cs items rest) {fuel : Nat} (lt : items.length < fuel) :
    (readItems read fuel first (inOctets cs)).toOption =
      (items.mapM f).map (·, ']' :: inOctets rest) := by
  induction h generalizing fuel with
  | nil closes =>
    obtain ⟨fuel, rfl⟩ := Nat.exists_eq_succ_of_ne_zero (Nat.ne_of_gt lt)
    have closes := skipSpace_inOctets_cons (by decide) closes
    rw [readItems, nextItem_eq_ok_iff.2 (.none closes)]
    rfl
  | cons next item others ih =>
    obtain ⟨fuel, rfl⟩ := Nat.exists_eq_succ_of_ne_zero (Nat.ne_of_gt (Nat.zero_lt_of_lt lt))
    have tail := ih (Nat.lt_of_succ_lt_succ lt)
    rw [readItems, nextItem_eq_ok_iff.2 next.inOctets]
    show (read _ >>= fun p => readItems read fuel false p.2 >>= fun q => _).toOption = _
    rw [toOption_bind, each _ _ _ _ item, List.mapM_cons]
    cases f _ with
    | none => rfl
    | some a =>
      simp only [Option.map_some, Option.bind_some, toOption_bind, tail]
      cases List.mapM f _ <;> rfl

theorem readList_agrees (each : Agrees read f) {d : Nat} {items : List Json}
    (h : readList (value d) cs = .ok (items, rest)) :
    (readList read (inOctets cs)).toOption = (items.mapM f).map (·, inOctets rest) := by
  obtain ⟨le, stand⟩ := itemsStand_of_readList h
  have fuel : items.length < (inOctets cs).length + 1 :=
    Nat.lt_succ_of_le (Nat.le_trans le (length_le_inOctets cs))
  have taken := readItems_agrees each stand fuel
  rw [readList, toOption_bind, taken]
  cases items.mapM f <;> rfl

theorem toOption_readListAs_other (space : skipSpace cs = c :: cs') (h : c ≠ '[')
    (expected : String) (read : Reader β) : (readListAs expected read cs).toOption = none := by
  rw [readListAs, space]
  split
  · contradiction
  · rename_i e
    exact absurd (List.cons.inj e).1 h
  · exact toOption_wrongType expected _

theorem agrees_list (each : Agrees read f) (expected : String) :
    Agrees (readListAs expected read) (listOf? f) := by
  intro d cs v rest h
  obtain ⟨c, cs', space, stands⟩ := stands_of_value h
  have space := skipSpace_inOctets_cons stands.ascii space
  cases stands with
  | arr list =>
    rw [readListAs, space]
    exact readList_agrees each list
  | number digit => exact toOption_readListAs_other space (ne_of_isDigit digit rfl) expected read
  | null | true | false | negative | str | obj =>
    exact toOption_readListAs_other space (by decide) expected read

/-! ### Places -/

variable {d : Nat} {v : Json}

/-- The list has no such place. -/
theorem readElement?_end (closes : skipSpace cs = ']' :: rest) (index : Nat) (read : Reader β) :
    readElement? index read cs = .ok (none, ']' :: rest) := by
  rw [readElement?, nextItem_eq_ok_iff.2 (.none closes)]
  rfl

/-- A place of a list. -/
theorem readElement?_agrees (each : Agrees read f) (index : Nat)
    (next : NextItem (index == 0) cs true cs') (item : value d cs' = .ok (v, rest)) :
    (readElement? index read (inOctets cs)).toOption =
      (f v).map fun a => (some a, inOctets rest) := by
  rw [readElement?, nextItem_eq_ok_iff.2 next.inOctets]
  show (read _ >>= fun p => _).toOption = _
  rw [toOption_bind, each _ _ _ _ item]
  cases f v <;> rfl

/-- Behind the last place that is asked for the list has to end. -/
theorem toOption_endList_item (next : NextItem false cs true cs') :
    (endList cs).toOption = none := by
  refine Option.eq_none_iff_forall_ne_some.2 fun rest e => ?_
  have ends := endList_eq_ok_iff.1 (toOption_eq_some_iff.1 e)
  cases next with
  | behind comma =>
    rw [comma] at ends
    cases ends

end Lists

/-! ### Members -/

section Members

variable {σ : Type} {step : σ → String → Reader σ} {take : σ → String × Json → Option σ} {d : Nat}

/-- A typed reader takes a member from its octets, behind its name. -/
def TakesMemberAs (step : σ → String → Reader σ) (take : σ → String × Json → Option σ) : Prop :=
  ∀ d s name cs cs' v rest, skipSpace cs = ':' :: cs' → value d cs' = .ok (v, rest) →
    (step s name (inOctets cs)).toOption = (take s (name, v)).map (·, inOctets rest)

theorem foldMembersBy_agrees (each : TakesMemberAs step take) {first : Bool}
    {members : List (String × Json)} (h : MembersStand (value d) first cs members rest)
    {fuel : Nat} (lt : members.length < fuel) (s : σ) :
    (foldMembersBy readEncoded step fuel first s (inOctets cs)).toOption =
      (members.foldlM take s).map (·, '\x7d' :: inOctets rest) := by
  induction h generalizing fuel s with
  | nil closes =>
    obtain ⟨fuel, rfl⟩ := Nat.exists_eq_succ_of_ne_zero (Nat.ne_of_gt lt)
    have closes := skipSpace_inOctets_cons (by decide) closes
    rw [foldMembersBy, nextMember_eq_ok_iff.2 (.none closes)]
    rfl
  | cons next named colon member others ih =>
    obtain ⟨fuel, rfl⟩ := Nat.exists_eq_succ_of_ne_zero (Nat.ne_of_gt (Nat.zero_lt_of_lt lt))
    have tail := ih (Nat.lt_of_succ_lt_succ lt)
    rw [foldMembersBy, nextMember_eq_ok_iff.2 next.inOctets]
    show (readEncoded _ >>= fun p => step s p.1 p.2 >>= fun q => _).toOption = _
    rw [(readEncoded_inOctets named).1, ok_bind]
    show (step s _ _ >>= fun q => foldMembersBy readEncoded step fuel false q.1 q.2).toOption = _
    rw [toOption_bind, each _ _ _ _ _ _ _ colon member, List.foldlM_cons]
    cases take s _ with
    | none => rfl
    | some s => exact tail s

theorem readColon_inOctets (colon : skipSpace cs = ':' :: cs') :
    readColon (inOctets cs) = .ok (inOctets cs') :=
  readColon_eq_ok_iff.2 (skipSpace_inOctets_cons (by decide) colon)

/-- A member that nobody asked for. -/
theorem skipMember_inOctets {v : Json} (colon : skipSpace cs = ':' :: cs')
    (member : value d cs' = .ok (v, rest)) :
    skipMember (inOctets cs) = .ok (inOctets rest) := by
  rw [skipMember, readColon_inOctets colon, ok_bind, skipValue_inOctets member]

end Members

end PanelScript.Json

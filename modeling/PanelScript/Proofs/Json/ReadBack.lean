import PanelScript.Json.Typed
import PanelScript.Proofs.Json.Tokens
import PanelScript.Proofs.Json.Trees

/-!
# Trees read back

The compact text of a tree is read back as the tree, whatever follows it, exactly if no more
brackets are open at once than may be.

* `value_write` says this of every tree whose numbers are integers of 64 bits;
* `readList_written` and `foldMembers_written`: what is read from the items of a list and the
  members of an object, one by one.
-/

namespace PanelScript.Json

variable {rest : List Char}

/-! ### Readers that give something -/

section ToOption

variable {ε α β : Type} {x : Except ε α}

@[simp] theorem toOption_ok (a : α) : (Except.ok a : Except ε α).toOption = some a := rfl

@[simp] theorem toOption_error (e : ε) : (Except.error e : Except ε α).toOption = none := rfl

theorem ok_bind (a : α) (f : α → Except ε β) : (Except.ok a >>= f) = f a := rfl

theorem toOption_bind (f : α → Except ε β) :
    (x >>= f).toOption = x.toOption.bind fun a => (f a).toOption := by
  cases x <;> rfl

theorem toOption_map (f : α → β) : (x.map f).toOption = x.toOption.map f := by
  cases x <;> rfl

theorem toOption_eq_some_iff {a : α} : x.toOption = some a ↔ x = .ok a := by
  cases x <;> simp

theorem bind_eq_ok_iff {f : α → Except ε β} {b : β} :
    (x >>= f) = .ok b ↔ ∃ a, x = .ok a ∧ f a = .ok b := by
  rw [← toOption_eq_some_iff, toOption_bind, Option.bind_eq_some_iff]
  simp only [toOption_eq_some_iff]

theorem map_eq_ok_iff {f : α → β} {b : β} : x.map f = .ok b ↔ ∃ a, x = .ok a ∧ f a = b := by
  rw [← toOption_eq_some_iff, toOption_map, Option.map_eq_some_iff]
  simp only [toOption_eq_some_iff]

end ToOption

/-- A wrong type is refused, whatever it is. -/
theorem wrongType_ne_ok {α : Type} {expected : String} {cs : List Char} {a : α} :
    wrongType expected cs ≠ .ok a := by
  intro h
  unfold wrongType at h
  dsimp only at h
  split at h
  · cases h
  · split_ifs at h
    iterate 6
      · obtain ⟨b, -, h⟩ := bind_eq_ok_iff.1 h
        cases h
    all_goals cases h

theorem toOption_wrongType {α : Type} (expected : String) (cs : List Char) :
    (wrongType expected cs : Except Failure α).toOption = none :=
  Option.eq_none_iff_forall_ne_some.2 fun _ e => wrongType_ne_ok (toOption_eq_some_iff.1 e)

/-! ### Between the tokens -/

theorem skipSpace_cons {c : Char} (h : isSpace c = false) (cs : List Char) :
    skipSpace (c :: cs) = c :: cs := by
  simp [skipSpace, h]

theorem isSpace_of_isDigit {c : Char} (h : c.isDigit = true) : isSpace c = false := by
  refine Bool.eq_false_iff.2 fun space => ?_
  simp only [isSpace, Bool.or_eq_true, decide_eq_true_eq] at space
  rcases space with ((rfl | rfl) | rfl) | rfl <;> cases h

theorem write_str_append (s : String) (rest : List Char) :
    write (.str s) ++ rest = '"' :: (s.toList.flatMap escapeChar ++ '"' :: rest) := by
  simp [write, writeString]

/-- A text that begins a value: not with a blank, and not with a closing bracket. -/
def BeginsValue : List Char → Prop
  | [] => False
  | c :: _ => isSpace c = false ∧ c ≠ ']'

/-- The text of an integer begins with a sign or a digit. -/
theorem intText_cases (n : Int) :
    n < 0 ∧ intText n = '-' :: Nat.toDigits 10 n.natAbs ∨
      ¬ n < 0 ∧ ∃ c ds, intText n = Nat.toDigits 10 n.natAbs ∧
        Nat.toDigits 10 n.natAbs = c :: ds ∧ c.isDigit = true := by
  unfold intText
  by_cases neg : n < 0
  · exact .inl ⟨neg, by rw [if_pos neg]; rfl⟩
  · rw [if_neg neg]
    cases e : Nat.toDigits 10 n.natAbs with
    | nil => exact absurd e Nat.toDigits_ne_nil
    | cons c ds =>
      refine .inr ⟨neg, c, ds, rfl, rfl, ?_⟩
      exact Nat.isDigit_of_mem_toDigits (b := 10) (n := n.natAbs) (by decide) (by decide)
        (e ▸ List.mem_cons_self)

theorem beginsValue_write {v : Json} (h : v.HasOnlyIntegers) (rest : List Char) :
    BeginsValue (v.write ++ rest) := by
  cases v with
  | bool b => cases b <;> exact ⟨by decide, by decide⟩
  | num n =>
    cases n with
    | real => exact absurd h (by simp [HasOnlyIntegers])
    | int n =>
      show BeginsValue (intText n ++ rest)
      rcases intText_cases n with ⟨-, e⟩ | ⟨-, c, ds, e, e', digit⟩
      · rw [e]
        exact ⟨by decide, by decide⟩
      · rw [e, e']
        refine ⟨isSpace_of_isDigit digit, ?_⟩
        rintro rfl
        cases digit
  | null | str | arr | obj => exact ⟨by decide, by decide⟩

theorem length_write_pos {v : Json} (h : v.HasOnlyIntegers) : 0 < v.write.length := by
  have begins := beginsValue_write h []
  rw [List.append_nil] at begins
  exact List.length_pos_iff.2 fun e => by rw [e] at begins; exact begins

/-! ### Numbers and items -/

/-- An integer of 64 bits is read back. -/
theorem value_int {n : Int} (h : IsWord n) (d : Nat) (ends : EndsNumeral rest) :
    value d (intText n ++ rest) = .ok (.num (.int n), rest) := by
  obtain ⟨le, whole⟩ := wholeNumber_natAbs h
  rcases intText_cases n with ⟨neg, e⟩ | ⟨neg, c, ds, e, e', hc⟩
  · have read := readNumber_toDigits true le ends
    rw [decide_eq_true neg] at whole
    rw [e, value, List.cons_append, skipSpace_cons (by decide)]
    show (readNumber true (Nat.toDigits 10 n.natAbs ++ rest)).map _ = _
    rw [read, whole]
    rfl
  · have read := readNumber_toDigits false le ends
    rw [decide_eq_false neg] at whole
    have other : c ≠ 'n' ∧ c ≠ 't' ∧ c ≠ 'f' ∧ c ≠ '-' := by
      refine ⟨?_, ?_, ?_, ?_⟩ <;> rintro rfl <;> cases hc
    rw [e' , List.cons_append] at read
    rw [e, e', value, List.cons_append, skipSpace_cons (isSpace_of_isDigit hc)]
    simp only [other, if_false, hc, if_true, read, whole]
    rfl

theorem nextItem_beginsValue {cs : List Char} (h : BeginsValue cs) :
    nextItem true cs = .ok (true, cs) := by
  cases cs with
  | nil => exact h.elim
  | cons c cs =>
    obtain ⟨space, bracket⟩ := h
    unfold nextItem
    rw [skipSpace_cons space]
    split
    · contradiction
    · rename_i e
      exact absurd (List.cons.inj e).1 bracket
    · rename_i e
      cases e
      rfl

theorem nextItem_comma {cs : List Char} (h : BeginsValue cs) :
    nextItem false (',' :: cs) = .ok (true, cs) := by
  cases cs with
  | nil => exact h.elim
  | cons c cs =>
    obtain ⟨space, bracket⟩ := h
    rw [nextItem, skipSpace_cons (by decide)]
    split
    · contradiction
    · rename_i e
      exact absurd (List.cons.inj e).1 (by decide)
    · rename_i e
      cases e
      simp only [Bool.false_eq_true, if_false, if_true, skipSpace_cons space]
      split
      · contradiction
      · rename_i e
        exact absurd (List.cons.inj e).1 bracket
      · rfl

/-- A reader reads each of the trees back that satisfies a condition, and refuses the others. -/
def ReadsBack (read : Reader Json) (fits : Json → Prop) [DecidablePred fits] (v : Json) : Prop :=
  v.HasOnlyIntegers ∧ ∀ rest, EndsNumeral rest →
    (read (v.write ++ rest)).toOption = if fits v then some (v, rest) else none

/-- What follows the first item of a list, and its closing bracket. -/
def itemsTail (items : List Json) (rest : List Char) : List Char :=
  items.flatMap (fun v => ',' :: v.write) ++ ']' :: rest

theorem itemsTail_cons (v : Json) (items : List Json) (rest : List Char) :
    itemsTail (v :: items) rest = ',' :: (v.write ++ itemsTail items rest) := by
  simp [itemsTail]

theorem separated_items (v : Json) (items : List Json) (rest : List Char) :
    separated [','] ((v :: items).map write) ++ ']' :: rest =
      v.write ++ itemsTail items rest := by
  simp [separated_cons, itemsTail, List.flatMap_map]

theorem endsNumeral_itemsTail (items : List Json) (rest : List Char) :
    EndsNumeral (itemsTail items rest) := by
  cases items <;> exact ⟨by decide, by decide, by decide, by decide⟩

theorem length_le_itemsTail (items : List Json) (rest : List Char) :
    items.length ≤ (itemsTail items rest).length := by
  induction items with
  | nil => exact Nat.zero_le _
  | cons v items ih =>
    simp only [itemsTail, List.flatMap_cons, List.length_append, List.length_cons] at ih ⊢
    omega

variable {read : Reader Json} {fits : Json → Prop} [DecidablePred fits]

theorem readItems_itemsTail {items : List Json} (each : ∀ v ∈ items, ReadsBack read fits v)
    {fuel : Nat} (le : items.length < fuel) (rest : List Char) :
    (readItems read fuel false (itemsTail items rest)).toOption =
      if ∀ v ∈ items, fits v then some (items, ']' :: rest) else none := by
  induction items generalizing fuel with
  | nil =>
    cases fuel with
    | zero => cases le
    | succ fuel =>
      rw [if_pos (List.forall_mem_nil _)]
      rfl
  | cons v items ih =>
    cases fuel with
    | zero => cases le
    | succ fuel =>
      obtain ⟨integers, reads⟩ := each v List.mem_cons_self
      have tail := ih (fun w hw => each w (List.mem_cons_of_mem _ hw)) (Nat.lt_of_succ_lt_succ le)
      rw [itemsTail_cons, readItems, nextItem_comma (beginsValue_write integers _)]
      show (read _ >>= fun p => readItems read fuel false p.2 >>= fun q => _).toOption = _
      rw [toOption_bind, reads _ (endsNumeral_itemsTail items rest)]
      by_cases hv : fits v
      · simp only [hv, if_true, Option.bind_some, toOption_bind, tail, List.forall_mem_cons,
          true_and]
        split <;> rfl
      · simp [hv]

/-- A list is read back behind its opening bracket. -/
theorem readList_written {items : List Json} (each : ∀ v ∈ items, ReadsBack read fits v)
    (rest : List Char) :
    (readList read (separated [','] (items.map write) ++ ']' :: rest)).toOption =
      if ∀ v ∈ items, fits v then some (items, rest) else none := by
  have closes : ∀ vs : List Json, (endList (']' :: rest) >>= fun cs =>
      (.ok (vs, cs) : Except Failure _)).toOption = some (vs, rest) := fun _ => rfl
  cases items with
  | nil =>
    rw [if_pos (List.forall_mem_nil _)]
    exact closes []
  | cons v items =>
    obtain ⟨integers, reads⟩ := each v List.mem_cons_self
    have fuel : items.length < (v.write ++ itemsTail items rest).length := by
      have := length_le_itemsTail items rest
      have := length_write_pos integers
      simp only [List.length_append] at *
      omega
    have tail := readItems_itemsTail (fun w hw => each w (List.mem_cons_of_mem _ hw)) fuel rest
    rw [separated_items, readList, readItems, nextItem_beginsValue (beginsValue_write integers _)]
    show ((read _ >>= fun p => readItems read _ false p.2 >>= fun q => _) >>=
      fun p => _).toOption = _
    rw [toOption_bind, toOption_bind, reads _ (endsNumeral_itemsTail items rest)]
    by_cases hv : fits v
    · simp only [hv, if_true, Option.bind_some, toOption_bind, tail, List.forall_mem_cons,
        true_and]
      split
      · exact closes (v :: items)
      · rfl
    · simp [hv]

/-! ### Members -/

/-- What follows the first member of an object, and its closing bracket. -/
def membersTail (members : List (String × Json)) (rest : List Char) : List Char :=
  members.flatMap (fun p => ',' :: writeMember p) ++ '\x7d' :: rest

theorem membersTail_cons (p : String × Json) (members : List (String × Json)) (rest : List Char) :
    membersTail (p :: members) rest = ',' :: '"' :: (p.1.toList.flatMap escapeChar ++
      '"' :: ':' :: (p.2.write ++ membersTail members rest)) := by
  simp [membersTail, writeMember, writeString]

theorem separated_members (p : String × Json) (members : List (String × Json))
    (rest : List Char) :
    separated [','] ((p :: members).map writeMember) ++ '\x7d' :: rest =
      '"' :: (p.1.toList.flatMap escapeChar ++
        '"' :: ':' :: (p.2.write ++ membersTail members rest)) := by
  simp [separated_cons, membersTail, writeMember, writeString, List.flatMap_map]

theorem endsNumeral_membersTail (members : List (String × Json)) (rest : List Char) :
    EndsNumeral (membersTail members rest) := by
  cases members <;> exact ⟨by decide, by decide, by decide, by decide⟩

theorem length_le_membersTail (members : List (String × Json)) (rest : List Char) :
    members.length ≤ (membersTail members rest).length := by
  induction members with
  | nil => exact Nat.zero_le _
  | cons p members ih =>
    simp only [membersTail, List.flatMap_cons, List.length_append, List.length_cons] at ih ⊢
    omega

/-- What is taken from a member that may stand once. -/
def takeOnce {α : Type} (before taken : Option α) : Option (Option α) :=
  if before.isSome then none else taken.map some

section Members

variable {σ : Type} {step : σ → String → Reader σ} {take : σ → String → Json → Option σ}

theorem readColon_written (cs : List Char) : readColon (':' :: cs) = .ok cs := rfl

/-- A member that may stand once is taken as its value is read. -/
theorem toOption_readOnce {α : Type} {read : Reader α} {before a : Option α}
    {cs cs' rest : List Char} (colon : readColon cs = .ok cs')
    (h : (read cs').toOption = a.map (·, rest)) (name : String) (put : Option α → σ) :
    (readOnce name before read cs >>= fun p =>
      (.ok (put p.1, p.2) : Except Failure _)).toOption =
      ((takeOnce before a).map put).map (·, rest) := by
  unfold readOnce takeOnce
  split_ifs
  · rfl
  · rw [colon]
    show ((read cs' >>= fun p => _) >>= fun p => _ : Except Failure _).toOption = _
    rw [toOption_bind, toOption_bind, h]
    cases a <;> rfl

/-- A typed reader takes a member from its text, behind its name. -/
def TakesMember (step : σ → String → Reader σ) (take : σ → String → Json → Option σ)
    (p : String × Json) : Prop :=
  ∀ s rest, EndsNumeral rest →
    (step s p.1 (':' :: (p.2.write ++ rest))).toOption = (take s p.1 p.2).map (·, rest)

/-- A member that begins is read name first. -/
theorem foldMembers_member {fuel : Nat} {first : Bool} {s : σ} {p : String × Json}
    {cs tail : List Char}
    (next : nextMember first cs = .ok (true, p.1.toList.flatMap escapeChar ++
      '"' :: ':' :: (p.2.write ++ tail)))
    (takes : TakesMember step take p) (ends : EndsNumeral tail) :
    (foldMembers step (fuel + 1) first s cs).toOption =
      (take s p.1 p.2).bind fun s => (foldMembers step fuel false s tail).toOption := by
  rw [foldMembers, foldMembersBy, next]
  show (readString _ >>= fun q => step s q.1 q.2 >>= fun q => _).toOption = _
  rw [readString_escaped]
  show (step s p.1 _ >>= fun q => foldMembers step fuel false q.1 q.2).toOption = _
  rw [toOption_bind, takes s tail ends]
  cases take s p.1 p.2 <;> rfl

theorem foldMembers_membersTail {members : List (String × Json)}
    (each : ∀ p ∈ members, TakesMember step take p) {fuel : Nat} (le : members.length < fuel)
    (s : σ) (rest : List Char) :
    (foldMembers step fuel false s (membersTail members rest)).toOption =
      (members.foldlM (fun s p => take s p.1 p.2) s).map (·, '\x7d' :: rest) := by
  induction members generalizing fuel s with
  | nil =>
    cases fuel with
    | zero => cases le
    | succ fuel => rfl
  | cons p members ih =>
    cases fuel with
    | zero => cases le
    | succ fuel =>
      rw [membersTail_cons, foldMembers_member rfl (each p List.mem_cons_self)
        (endsNumeral_membersTail members rest), List.foldlM_cons]
      cases take s p.1 p.2 with
      | none => rfl
      | some s =>
        exact ih (fun q hq => each q (List.mem_cons_of_mem _ hq)) (Nat.lt_of_succ_lt_succ le) s

/-- The members of an object are taken one by one, behind its opening bracket. -/
theorem foldMembers_written {members : List (String × Json)}
    (each : ∀ p ∈ members, TakesMember step take p) (s : σ) (rest : List Char) {cs : List Char}
    (hcs : cs = separated [','] (members.map writeMember) ++ '\x7d' :: rest) :
    (foldMembers step (cs.length + 1) true s cs).toOption =
      (members.foldlM (fun s p => take s p.1 p.2) s).map (·, '\x7d' :: rest) := by
  cases members with
  | nil =>
    subst hcs
    rfl
  | cons p members =>
    rw [separated_members] at hcs
    have fuel : members.length < cs.length := by
      have := length_le_membersTail members rest
      rw [hcs]
      simp only [List.length_append, List.length_cons]
      omega
    rw [foldMembers_member (by rw [hcs]; rfl) (each p List.mem_cons_self)
      (endsNumeral_membersTail members rest), List.foldlM_cons]
    cases take s p.1 p.2 with
    | none => rfl
    | some s =>
      exact foldMembers_membersTail (fun q hq => each q (List.mem_cons_of_mem _ hq)) fuel s rest

end Members

/-! ### Trees -/

/-- Take a member as a tree, behind those taken before. -/
def addMember (read : Reader Json) (s : List (String × Json)) (name : String) :
    Reader (List (String × Json)) := fun cs => do
  let cs ← readColon cs
  let (v, cs) ← read cs
  .ok (s ++ [(name, v)], cs)

/-- To read members as trees is to take them one by one. -/
theorem foldMembers_addMember (read : Reader Json) (fuel : Nat) (first : Bool)
    (s : List (String × Json)) (cs : List Char) :
    foldMembers (addMember read) fuel first s cs =
      (readMembers read fuel first cs).map fun (members, rest) => (s ++ members, rest) := by
  induction fuel generalizing first s cs with
  | zero => rfl
  | succ fuel ih =>
    rw [foldMembers, foldMembersBy, readMembers]
    cases nextMember first cs with
    | error => rfl
    | ok next =>
      obtain ⟨more, cs⟩ := next
      cases more with
      | false => exact congrArg (fun s => Except.ok (s, cs)) (List.append_nil s).symm
      | true =>
        show (readString cs >>= fun _ => _) = (readString cs >>= fun _ => _).map _
        cases readString cs with
        | error => rfl
        | ok named =>
          obtain ⟨name, cs⟩ := named
          show (addMember read s name cs >>= fun _ => _) = (readColon cs >>= fun _ => _).map _
          unfold addMember
          cases readColon cs with
          | error => rfl
          | ok cs =>
            show ((read cs >>= fun _ => _) >>= fun _ => _) = (read cs >>= fun _ => _).map _
            cases read cs with
            | error => rfl
            | ok taken =>
              obtain ⟨v, cs⟩ := taken
              show foldMembers (addMember read) fuel false (s ++ [(name, v)]) cs = _
              rw [ih]
              show _ = (readMembers read fuel false cs >>= fun _ => _).map _
              cases readMembers read fuel false cs with
              | error => rfl
              | ok r =>
                exact congrArg (fun s => Except.ok (s, r.2)) (List.append_assoc s [(name, v)] r.1)

theorem takesMember_addMember {p : String × Json} (h : ReadsBack read fits p.2) :
    TakesMember (addMember read)
      (fun s name v => if fits v then some (s ++ [(name, v)]) else none) p := by
  intro s rest ends
  show (read (p.2.write ++ rest) >>= fun q => _).toOption = _
  rw [toOption_bind, h.2 rest ends]
  by_cases hp : fits p.2 <;> simp [hp]

/-- What is gathered one by one is gathered in whole, if each of it fits. -/
theorem foldlM_gather {α τ : Type} {fits : α → Prop} [DecidablePred fits] {take : τ → α → Option τ}
    (into : List α → τ) {xs : List α}
    (each : ∀ x ∈ xs, ∀ taken,
      take (into taken) x = if fits x then some (into (taken ++ [x])) else none)
    (taken : List α) :
    xs.foldlM take (into taken) =
      if ∀ x ∈ xs, fits x then some (into (taken ++ xs)) else none := by
  induction xs generalizing taken with
  | nil => simp
  | cons x xs ih =>
    have tail := ih fun y hy => each y (List.mem_cons_of_mem _ hy)
    rw [List.foldlM_cons, each x List.mem_cons_self]
    by_cases hx : fits x
    · simp only [hx, if_true, Option.bind_eq_bind, Option.bind_some, tail, List.forall_mem_cons,
        true_and, List.append_assoc, List.singleton_append]
    · simp [hx]

/-- An object is read back behind its opening bracket. -/
theorem readObject_written {members : List (String × Json)}
    (each : ∀ p ∈ members, ReadsBack read fits p.2) (rest : List Char) :
    (readObject read (separated [','] (members.map writeMember) ++ '\x7d' :: rest)).toOption =
      if ∀ p ∈ members, fits p.2 then some (members, rest) else none := by
  have taken := foldMembers_written (fun p hp => takesMember_addMember (each p hp)) [] rest rfl
  have gathered :
      members.foldlM (fun s p => if fits p.2 then some (s ++ [(p.1, p.2)]) else none) [] =
        if ∀ p ∈ members, fits p.2 then some ([] ++ members) else none :=
    foldlM_gather id (fun _ _ _ => rfl) []
  rw [foldMembers_addMember, toOption_map, gathered] at taken
  have none : (fun p : List (String × Json) × List Char => ([] ++ p.1, p.2)) = id := rfl
  rw [none, Option.map_id, id, List.nil_append] at taken
  rw [readObject, toOption_bind, taken]
  split <;> rfl

/-- **A tree is read back.** The text of a tree whose numbers are integers of 64 bits is read back
as the tree if no more brackets are open at once than may be, and refused if there are more. -/
theorem value_write (v : Json) (h : v.HasOnlyIntegers) (d : Nat) {rest : List Char}
    (ends : EndsNumeral rest) :
    (value d (v.write ++ rest)).toOption = if v.depth ≤ d then some (v, rest) else none := by
  induction v generalizing d rest with
  | null =>
    rw [value, depth, if_pos (Nat.zero_le d)]
    rfl
  | bool b =>
    rw [value, depth, if_pos (Nat.zero_le d)]
    cases b <;> rfl
  | num n =>
    cases n with
    | real x => exact absurd h (by simp [HasOnlyIntegers])
    | int n =>
      have read : value d (write (.num (.int n)) ++ rest) = .ok (.num (.int n), rest) :=
        value_int h d ends
      rw [read, depth, if_pos (Nat.zero_le d)]
      rfl
  | str s =>
    rw [write_str_append, value, skipSpace_cons (by decide), depth, if_pos (Nat.zero_le d)]
    show ((readString _).map _).toOption = _
    rw [readString_escaped]
    rfl
  | arr items ih =>
    have e : write (.arr items) ++ rest =
        '[' :: (separated [','] (items.map write) ++ ']' :: rest) := by
      simp [write, writeItems_eq_map]
    rw [e, value, skipSpace_cons (by decide)]
    rw [HasOnlyIntegers, itemsHaveOnlyIntegers_iff] at h
    cases d with
    | zero =>
      rw [depth, if_neg (Nat.not_succ_le_zero _)]
      rfl
    | succ d =>
      have each : ∀ v ∈ items, ReadsBack (value d) (fun v => v.depth ≤ d) v := fun v hv =>
        ⟨h v hv, fun rest ends => ih v hv (h v hv) d ends⟩
      have read := readList_written each rest
      show ((readList (value d) _).map _).toOption = _
      simp only [toOption_map, read, depth_arr_le_iff]
      split <;> rfl
  | obj members ih =>
    have e : write (.obj members) ++ rest =
        '\x7b' :: (separated [','] (members.map writeMember) ++ '\x7d' :: rest) := by
      simp [write, writeMembers_eq_map]
    rw [e, value, skipSpace_cons (by decide)]
    rw [HasOnlyIntegers, membersHaveOnlyIntegers_iff] at h
    cases d with
    | zero =>
      rw [depth, if_neg (Nat.not_succ_le_zero _)]
      rfl
    | succ d =>
      have each : ∀ p ∈ members, ReadsBack (value d) (fun v => v.depth ≤ d) p.2 := fun p hp =>
        ⟨h p hp, fun rest ends => ih p hp (h p hp) d ends⟩
      have read := readObject_written each rest
      show ((readObject (value d) _).map _).toOption = _
      simp only [toOption_map, read, depth_obj_le_iff]
      split <;> rfl

end PanelScript.Json

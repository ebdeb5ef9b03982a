import PanelScript.Proofs.Json.Numerals
import PanelScript.Proofs.Json.Strings

/-!
# Values passed over

A value that nobody asked for is passed over up to its end, in the octets of its text as well,
whatever is in it and however deep its brackets are nested.

* `goOn` is what follows a value inside open brackets;
* `Passes`: to pass over a value takes some steps, and what follows it comes next;
* `skipValue_inOctets`: a value that is read is passed over in its octets.
-/

namespace PanelScript.Json

variable {cs rest : List Char}

/-! ### What is left is shorter -/

section Lengths

variable {first more : Bool} {c : Char}

theorem length_skipSpace_le (cs : List Char) : (skipSpace cs).length ≤ cs.length :=
  List.length_dropWhile_le _ _

theorem length_lt_of_skipSpace (h : skipSpace cs = c :: rest) : rest.length < cs.length := by
  have le := length_skipSpace_le cs
  rw [h, List.length_cons] at le
  exact le

theorem NextItem.length_le (h : NextItem first cs more rest) : rest.length ≤ cs.length := by
  have le := length_skipSpace_le cs
  cases h with
  | none space => exact space ▸ le
  | first space => exact space ▸ le
  | @behind _ tail _ _ comma space =>
    have lt := length_lt_of_skipSpace comma
    have := length_skipSpace_le tail
    rw [space] at this
    omega

theorem NextMember.length_lt (h : NextMember first cs true rest) : rest.length < cs.length := by
  cases h with
  | first space => exact length_lt_of_skipSpace space
  | behind comma space =>
    exact Nat.lt_trans (length_lt_of_skipSpace space) (length_lt_of_skipSpace comma)

end Lengths

/-! ### Brackets -/

/-- What follows inside open brackets, behind a value or at the first: brackets are closed, and if
one is left open another value is passed over. -/
def goOn (fuel : Nat) (comma : Bool) (bs : List Bracket) (cs : List Char) :
    Except Failure (List Char) :=
  skipClosing bs comma (cs.length + 1) cs >>= fun p =>
    match p.1 with
    | [] => .ok p.2
    | .list :: _ => skipLoop fuel p.1 p.2
    | .object :: _ => skipName p.2 >>= skipLoop fuel p.1

/-- To pass over the value at the front takes at most as many steps as it has characters; then comes
what follows it. -/
def Passes (cs rest : List Char) : Prop :=
  ∃ n, n + rest.length < cs.length ∧ ∀ fuel bs,
    skipLoop (n + 1 + fuel) bs cs = goOn fuel true bs rest

section Brackets

variable {bs : List Bracket} {comma : Bool} {first : Bool}

/-- Each bracket that is closed takes a character off the text, so that its length bounds the
steps. -/
theorem skipClosing_fuel {f g : Nat} (hf : cs.length < f) (hg : cs.length < g) :
    skipClosing bs comma f cs = skipClosing bs comma g cs := by
  induction bs generalizing comma f g cs with
  | nil => rfl
  | cons b bs ih =>
    cases f with
    | zero => cases hf
    | succ f =>
      cases g with
      | zero => cases hg
      | succ g =>
        rw [skipClosing, skipClosing]
        cases e : skipSpace cs with
        | nil => rfl
        | cons c rest =>
          have lt := length_lt_of_skipSpace e
          have tail : skipClosing bs true f rest = skipClosing bs true g rest :=
            ih (by omega) (by omega)
          dsimp only
          rw [tail]

theorem goOn_nil (fuel : Nat) (cs : List Char) : goOn fuel comma [] cs = .ok cs := rfl

/-- A bracket is closed. -/
theorem goOn_closing {b : Bracket} (closes : skipSpace cs = b.closing :: rest) (fuel : Nat) :
    goOn fuel comma (b :: bs) cs = goOn fuel true bs rest := by
  have other : ¬ (comma = true ∧ b.closing = ',') := by
    rintro ⟨-, e⟩
    cases b <;> cases e
  have lt := length_lt_of_skipSpace closes
  rw [goOn, skipClosing, closes]
  dsimp only
  rw [if_neg other, if_pos rfl, skipClosing_fuel lt (Nat.lt_succ_self _)]
  rfl

theorem skipLoop_congr {cs' : List Char} (h : skipSpace cs = skipSpace cs') (fuel : Nat) :
    skipLoop (fuel + 1) bs cs = skipLoop (fuel + 1) bs cs' := by
  rw [skipLoop, skipLoop, h]

theorem goOn_item {cs₁ : List Char} (next : NextItem first cs true cs₁) (fuel : Nat) :
    goOn (fuel + 1) (!first) (.list :: bs) cs = skipLoop (fuel + 1) (.list :: bs) cs₁ := by
  cases next with
  | first space other =>
    rw [goOn, skipClosing, space]
    simp only [Bracket.closing, other, Bool.not_true, Bool.false_eq_true, false_and, if_false]
    rfl
  | behind comma space other =>
    rw [goOn, skipClosing, comma, ← space, skipLoop_congr (skipSpace_idem _)]
    rfl

theorem skipName_eq (h : skipSpace cs = '"' :: rest) :
    skipName cs = skipString rest >>= readColon := by
  rw [skipName, h]
  rfl

theorem goOn_member {cs₁ : List Char} (next : NextMember first cs true cs₁) (fuel : Nat) :
    goOn fuel (!first) (.object :: bs) cs =
      (skipString cs₁ >>= readColon) >>= skipLoop fuel (.object :: bs) := by
  cases next with
  | first space =>
    have again : skipSpace ('"' :: cs₁) = '"' :: cs₁ := skipSpace_cons (by decide) _
    rw [goOn, skipClosing, space, ← skipName_eq again]
    rfl
  | behind comma space =>
    rw [goOn, skipClosing, comma, ← skipName_eq space]
    rfl

end Brackets

/-! ### Trees -/

section Trees

variable {read : Reader Json} {first : Bool}

/-- A value without brackets is passed over in one step. -/
theorem passes_scalar {c : Char} {cs' : List Char} (space : skipSpace cs = c :: cs')
    (list : c ≠ '[') (object : c ≠ '\x7b') (skips : skipScalar c cs' = .ok rest)
    (le : rest.length ≤ cs'.length) : Passes cs rest := by
  have lt := length_lt_of_skipSpace space
  refine ⟨0, by omega, fun fuel bs => ?_⟩
  rw [Nat.zero_add, Nat.add_comm, skipLoop, space]
  dsimp only
  rw [if_neg list, if_neg object, skips]
  rfl

/-- A bracket is opened in one step. -/
theorem skipLoop_opening {b : Bracket} {c : Char} {cs' : List Char}
    (opens : c = '[' ∧ b = .list ∨ c = '\x7b' ∧ b = .object) (space : skipSpace cs = c :: cs')
    (fuel : Nat) (bs : List Bracket) :
    skipLoop (fuel + 1) bs cs = goOn fuel false (b :: bs) cs' := by
  rw [skipLoop, space]
  rcases opens with ⟨rfl, rfl⟩ | ⟨rfl, rfl⟩ <;> rfl

/-- The items of a list are passed over, up to what follows the list. -/
theorem passes_items
    (each : ∀ cs v rest, read cs = .ok (v, rest) → Passes (inOctets cs) (inOctets rest))
    {items : List Json} (h : ItemsStand read first cs items rest) :
    ∃ n, n + (inOctets rest).length < (inOctets cs).length ∧ ∀ fuel bs,
      goOn (n + fuel) (!first) (.list :: bs) (inOctets cs) = goOn fuel true bs (inOctets rest) := by
  induction h with
  | nil closes =>
    have closes := skipSpace_inOctets_cons (by decide) closes
    refine ⟨0, ?_, fun fuel bs => ?_⟩
    · rw [Nat.zero_add]
      exact length_lt_of_skipSpace closes
    · rw [Nat.zero_add]
      exact goOn_closing (b := .list) closes fuel
  | cons next item _ ih =>
    obtain ⟨n, lt, passes⟩ := each _ _ _ item
    obtain ⟨m, lt', others⟩ := ih
    have le := next.inOctets.length_le
    refine ⟨n + 1 + m, by omega, fun fuel bs => ?_⟩
    have steps : n + 1 + m + fuel = n + m + fuel + 1 := by omega
    have steps' : n + m + fuel + 1 = n + 1 + (m + fuel) := by omega
    rw [steps, goOn_item next.inOctets, steps', passes]
    exact others fuel bs

/-- The members of an object are passed over, up to what follows the object. -/
theorem passes_members
    (each : ∀ cs v rest, read cs = .ok (v, rest) → Passes (inOctets cs) (inOctets rest))
    {members : List (String × Json)} (h : MembersStand read first cs members rest) :
    ∃ n, n + (inOctets rest).length < (inOctets cs).length ∧ ∀ fuel bs,
      goOn (n + fuel) (!first) (.object :: bs) (inOctets cs) =
        goOn fuel true bs (inOctets rest) := by
  induction h with
  | nil closes =>
    have closes := skipSpace_inOctets_cons (by decide) closes
    refine ⟨0, ?_, fun fuel bs => ?_⟩
    · rw [Nat.zero_add]
      exact length_lt_of_skipSpace closes
    · rw [Nat.zero_add]
      exact goOn_closing (b := .object) closes fuel
  | cons next named colon member _ ih =>
    obtain ⟨n, lt, passes⟩ := each _ _ _ member
    obtain ⟨m, lt', others⟩ := ih
    have skips := (readEncoded_inOctets named).2
    have colon := skipSpace_inOctets_cons (by decide) colon
    have first := next.inOctets.length_lt
    have second := length_lt_of_skipBody skips
    have third := length_lt_of_skipSpace colon
    refine ⟨n + 1 + m, by omega, fun fuel bs => ?_⟩
    rw [goOn_member next.inOctets, skips, ok_bind, readColon_eq_ok_iff.2 colon, ok_bind,
      Nat.add_assoc, passes]
    exact others fuel bs

/-- A word is passed over. -/
theorem passes_word {c : Char} {word : List Char} (ascii : allAscii (c :: word) = true)
    (space : skipSpace cs = c :: (word ++ rest)) (list : c ≠ '[') (object : c ≠ '\x7b')
    (skips : ∀ cs, skipScalar c cs = readIdent word cs) : Passes (inOctets cs) (inOctets rest) := by
  obtain ⟨first, others⟩ := List.forall_mem_cons.1 (allAscii_iff.1 ascii)
  have space := skipSpace_inOctets_cons first space
  refine passes_scalar space list object ?_ ?_
  · rw [skips, readIdent_eq_ok_iff, inOctets_append others]
  · rw [inOctets_append others, List.length_append]
    omega

/-- A value that is read is passed over. By induction on the number of brackets that may be open:
what is in brackets is read one bracket deeper. -/
theorem passes_of_value {d : Nat} {v : Json} (h : value d cs = .ok (v, rest)) :
    Passes (inOctets cs) (inOctets rest) := by
  induction d using Nat.strongRecOn generalizing cs v rest with
  | ind d ih =>
    obtain ⟨c, cs', space, stands⟩ := stands_of_value h
    cases stands with
    | null | true | false =>
      exact passes_word rfl space (by decide) (by decide) fun _ => rfl
    | negative read =>
      have skips := skipNumber_of_readNumber (readNumber_inOctets read)
      exact passes_scalar (skipSpace_inOctets_cons (by decide) space) (by decide) (by decide) skips
        (Nat.le_of_lt (length_lt_of_skipNumber skips))
    | number digit read =>
      have ascii := isAscii_isDigit c digit
      have skips := skipNumber_of_readNumber (readNumber_inOctets read)
      rw [inOctets_cons ascii] at skips
      have other {d : Char} (h : d.isDigit = false) : c ≠ d := ne_of_isDigit digit h
      refine passes_scalar (skipSpace_inOctets_cons ascii space) (other rfl) (other rfl) ?_
        (Nat.le_of_lt_succ (length_lt_of_skipNumber skips))
      rw [skipScalar, if_neg (other rfl), if_neg (other rfl), if_neg (other rfl),
        if_neg (other rfl), if_pos digit, skips]
    | str read =>
      have skips := (readEncoded_inOctets read).2
      exact passes_scalar (skipSpace_inOctets_cons (by decide) space) (by decide) (by decide) skips
        (Nat.le_of_lt (length_lt_of_skipBody skips))
    | @arr d _ _ _ read =>
      have space := skipSpace_inOctets_cons (by decide) space
      obtain ⟨n, lt, passes⟩ := passes_items (fun _ _ _ => ih d (Nat.lt_succ_self d))
        (itemsStand_of_readList read).2
      have lt' := length_lt_of_skipSpace space
      refine ⟨n, by omega, fun fuel bs => ?_⟩
      rw [Nat.add_right_comm, skipLoop_opening (.inl ⟨rfl, rfl⟩) space]
      exact passes fuel bs
    | @obj d _ _ _ read =>
      have space := skipSpace_inOctets_cons (by decide) space
      obtain ⟨n, lt, passes⟩ := passes_members (fun _ _ _ => ih d (Nat.lt_succ_self d))
        (membersStand_of_readObject read).2
      have lt' := length_lt_of_skipSpace space
      refine ⟨n, by omega, fun fuel bs => ?_⟩
      rw [Nat.add_right_comm, skipLoop_opening (.inr ⟨rfl, rfl⟩) space]
      exact passes fuel bs

/-- **A value that is read is passed over in its octets**, however deep it is. -/
theorem skipValue_inOctets {d : Nat} {v : Json} (h : value d cs = .ok (v, rest)) :
    skipValue (inOctets cs) = .ok (inOctets rest) := by
  obtain ⟨n, lt, passes⟩ := passes_of_value h
  obtain ⟨fuel, e⟩ : ∃ fuel, (inOctets cs).length + 1 = n + 1 + fuel :=
    ⟨(inOctets cs).length - n, by omega⟩
  rw [skipValue, e, passes, goOn_nil]

end Trees

end PanelScript.Json

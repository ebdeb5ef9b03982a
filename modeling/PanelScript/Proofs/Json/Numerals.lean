import PanelScript.Proofs.Json.Octets

/-!
# Numerals in octets

A numeral is read from the octets of a text as it is read from the text, and if it is read it can be
passed over.

* `readNumber_inOctets`: a numeral is read from octets;
* `skipNumber_of_readNumber`: a numeral that is read is passed over;
* `length_lt_of_skipNumber`: what is left is shorter.
-/

namespace PanelScript.Json

/-! ### Numerals from octets -/

theorem gather_inOctets (n : Nat) (cs : List Char) :
    gather n (inOctets cs) = ((gather n cs).1, (gather n cs).2.1, inOctets (gather n cs).2.2) := by
  induction cs generalizing n with
  | nil => rfl
  | cons c cs ih =>
    rcases inOctets_cases c cs with ⟨-, e⟩ | ⟨high, d, ds, e, high'⟩
    · rw [e, gather, gather]
      split_ifs
      · rw [ih]
      · rw [← e]
    · have none := isAscii_isDigit.eq_false high
      have none' := isAscii_isDigit.eq_false high'
      simp [e, gather, none, none']

theorem exponentDigits_inOctets (n : Nat) (cs : List Char) :
    exponentDigits n (inOctets cs) =
      ((exponentDigits n cs).1, inOctets (exponentDigits n cs).2) := by
  induction cs generalizing n with
  | nil => rfl
  | cons c cs ih =>
    rcases inOctets_cases c cs with ⟨-, e⟩ | ⟨high, d, ds, e, high'⟩
    · rw [e, exponentDigits, exponentDigits]
      split_ifs
      · rfl
      · exact ih _
      · rw [← e]
    · have none := isAscii_isDigit.eq_false high
      have none' := isAscii_isDigit.eq_false high'
      simp [e, exponentDigits, none, none']

theorem exponentSign_other {c : Char} (plus : c ≠ '+') (minus : c ≠ '-') (cs : List Char) :
    exponentSign (c :: cs) = (false, c :: cs) := by
  unfold exponentSign
  split
  · rename_i e
    exact absurd (List.cons.inj e).1 plus
  · rename_i e
    exact absurd (List.cons.inj e).1 minus
  · rfl

theorem exponentSign_inOctets (cs : List Char) :
    exponentSign (inOctets cs) = ((exponentSign cs).1, inOctets (exponentSign cs).2) := by
  cases cs with
  | nil => rfl
  | cons c cs =>
    by_cases plus : c = '+'
    · subst plus
      rw [inOctets_cons (by decide)]
      rfl
    by_cases minus : c = '-'
    · subst minus
      rw [inOctets_cons (by decide)]
      rfl
    rw [exponentSign_other plus minus]
    rcases inOctets_cases c cs with ⟨-, e⟩ | ⟨-, d, ds, e, high⟩
    · rw [e, exponentSign_other plus minus]
    · rw [e, exponentSign_other (ne_of_high high (by decide)) (ne_of_high high (by decide))]

section Numerals

variable {negative : Bool} {significand : Nat} {exponent : Int} {cs rest : List Char} {n : Number}

theorem fraction_inOctets (h : fraction negative significand exponent cs = .ok (n, rest)) :
    fraction negative significand exponent (inOctets cs) = .ok (n, inOctets rest) := by
  unfold fraction at h ⊢
  split at h
  · cases h
    rfl
  · cases h

theorem readExponent_inOctets (h : readExponent negative significand exponent cs = .ok (n, rest)) :
    readExponent negative significand exponent (inOctets cs) = .ok (n, inOctets rest) := by
  unfold readExponent at h ⊢
  rw [exponentSign_inOctets]
  generalize exponentSign cs = sign at h ⊢
  obtain ⟨down, cs'⟩ := sign
  dsimp only at h ⊢
  cases cs' with
  | nil => cases h
  | cons c cs' =>
    dsimp only at h
    by_cases digit : c.isDigit = true
    · rw [inOctets_cons (isAscii_isDigit c digit)]
      dsimp only
      rw [if_pos digit] at h ⊢
      rw [exponentDigits_inOctets]
      generalize exponentDigits (digitValue c) cs' = digits at h ⊢
      obtain ⟨value, cs''⟩ := digits
      cases value with
      | some value => exact fraction_inOctets h
      | none =>
        dsimp only at h ⊢
        rw [passDigits_inOctets]
        by_cases large : significand ≠ 0 ∧ (!down) = true
        · rw [if_pos large] at h
          cases h
        · rw [if_neg large] at h ⊢
          cases h
          rfl
    · rw [if_neg digit] at h
      cases h

/-- Behind digits stands a mark that a reader looks for, or none of those. -/
theorem mark_cases (marks : List Char) (h : allAscii marks = true) (cs : List Char) :
    (∃ c cs', cs = c :: cs' ∧ c ∈ marks ∧ inOctets cs = c :: inOctets cs') ∨
      (∀ c cs', cs = c :: cs' → c ∉ marks) ∧ ∀ c cs', inOctets cs = c :: cs' → c ∉ marks := by
  have ascii := allAscii_iff.1 h
  cases cs with
  | nil =>
    refine .inr ⟨fun _ _ e => ?_, fun _ _ e => ?_⟩
    · cases e
    · cases e
  | cons c cs =>
    by_cases mark : c ∈ marks
    · exact .inl ⟨c, cs, rfl, mark, inOctets_cons (ascii c mark) cs⟩
    · refine .inr ⟨fun c' cs' e => (List.cons.inj e).1 ▸ mark, fun c' cs' e => ?_⟩
      rcases inOctets_cases c cs with ⟨-, e'⟩ | ⟨-, d, ds, e', high⟩
      · exact (List.cons.inj (e'.symm.trans e)).1 ▸ mark
      · intro mem
        have := ascii c' mem
        obtain rfl := (List.cons.inj (e'.symm.trans e)).1
        omega

theorem fractionTail_other (h : ∀ c cs', cs = c :: cs' → c ∉ ['e', 'E']) :
    fractionTail negative significand exponent cs = fraction negative significand exponent cs := by
  unfold fractionTail
  split
  · exact absurd (by decide) (h _ _ rfl)
  · exact absurd (by decide) (h _ _ rfl)
  · rfl

theorem fractionTail_inOctets (h : fractionTail negative significand exponent cs = .ok (n, rest)) :
    fractionTail negative significand exponent (inOctets cs) = .ok (n, inOctets rest) := by
  rcases mark_cases ['e', 'E'] rfl cs with ⟨c, cs', rfl, mark, e⟩ | ⟨other, other'⟩
  · rw [e]
    rcases List.mem_cons.1 mark with rfl | mark
    · exact readExponent_inOctets h
    · obtain rfl := List.mem_singleton.1 mark
      exact readExponent_inOctets h
  · rw [fractionTail_other other] at h
    rw [fractionTail_other other']
    exact fraction_inOctets h

theorem readFraction_inOctets (h : readFraction negative significand exponent cs = .ok (n, rest)) :
    readFraction negative significand exponent (inOctets cs) = .ok (n, inOctets rest) := by
  unfold readFraction at h ⊢
  rw [gather_inOctets]
  generalize gather significand cs = taken at h ⊢
  obtain ⟨m, count, cs'⟩ := taken
  dsimp only at h ⊢
  rw [startsWithDigit_inOctets, passDigits_inOctets]
  by_cases digit : startsWithDigit cs' = true
  · rw [if_pos digit] at h ⊢
    exact fractionTail_inOctets h
  rw [if_neg digit] at h ⊢
  by_cases none : count = 0
  · rw [if_pos none] at h
    split_ifs at h <;> cases h
  · rw [if_neg none] at h ⊢
    exact fractionTail_inOctets h

theorem readTail_other (h : ∀ c cs', cs = c :: cs' → c ∉ ['.', 'e', 'E']) :
    readTail negative significand cs = .ok (wholeNumber negative significand, cs) := by
  unfold readTail
  split
  · exact absurd (by decide) (h _ _ rfl)
  · exact absurd (by decide) (h _ _ rfl)
  · exact absurd (by decide) (h _ _ rfl)
  · rfl

theorem readTail_inOctets (h : readTail negative significand cs = .ok (n, rest)) :
    readTail negative significand (inOctets cs) = .ok (n, inOctets rest) := by
  rcases mark_cases ['.', 'e', 'E'] rfl cs with ⟨c, cs', rfl, mark, e⟩ | ⟨other, other'⟩
  · rw [e]
    simp only [List.mem_cons, List.not_mem_nil, or_false] at mark
    rcases mark with rfl | rfl | rfl
    · exact readFraction_inOctets h
    · exact readExponent_inOctets h
    · exact readExponent_inOctets h
  · rw [readTail_other other] at h
    rw [readTail_other other']
    cases h
    rfl

theorem readLongTail_other {extra : Nat} (h : ∀ c cs', cs = c :: cs' → c ∉ ['.']) :
    readLongTail negative significand extra cs = fractionTail negative significand extra cs := by
  unfold readLongTail
  split
  · exact absurd (by decide) (h _ _ rfl)
  · rfl

theorem readLongTail_inOctets {extra : Nat}
    (h : readLongTail negative significand extra cs = .ok (n, rest)) :
    readLongTail negative significand extra (inOctets cs) = .ok (n, inOctets rest) := by
  rcases mark_cases ['.'] rfl cs with ⟨c, cs', rfl, mark, e⟩ | ⟨other, other'⟩
  · rw [e]
    obtain rfl := List.mem_singleton.1 mark
    exact readFraction_inOctets h
  · rw [readLongTail_other other] at h
    rw [readLongTail_other other']
    exact fractionTail_inOctets h

theorem readNumber_zero (cs : List Char) :
    readNumber negative ('0' :: cs) =
      if startsWithDigit cs then refuseNext .invalidNumber cs else readTail negative 0 cs := rfl

theorem readNumber_nonzero {c : Char} (h : c ≠ '0') (cs : List Char) :
    readNumber negative (c :: cs) =
      if c.isDigit then
        if startsWithDigit (gather (digitValue c) cs).2.2 then
          readLongTail negative (gather (digitValue c) cs).1
            (passDigits (gather (digitValue c) cs).2.2).1
            (passDigits (gather (digitValue c) cs).2.2).2
        else readTail negative (gather (digitValue c) cs).1 (gather (digitValue c) cs).2.2
      else refuse .invalidNumber cs := by
  unfold readNumber
  split
  · contradiction
  · rename_i e
    exact absurd (List.cons.inj e).1 h
  · rename_i e
    cases e
    rfl

/-- A numeral is read from the octets as it is from the text. -/
theorem readNumber_inOctets (h : readNumber negative cs = .ok (n, rest)) :
    readNumber negative (inOctets cs) = .ok (n, inOctets rest) := by
  cases cs with
  | nil => cases h
  | cons c cs =>
    by_cases zero : c = '0'
    · subst zero
      rw [inOctets_cons (by decide), readNumber_zero, startsWithDigit_inOctets]
      rw [readNumber_zero] at h
      by_cases digit : startsWithDigit cs = true
      · rw [if_pos digit] at h
        cases h
      · rw [if_neg digit] at h ⊢
        exact readTail_inOctets h
    · rw [readNumber_nonzero zero] at h
      by_cases digit : c.isDigit = true
      · rw [inOctets_cons (isAscii_isDigit c digit), readNumber_nonzero zero, gather_inOctets,
          startsWithDigit_inOctets, passDigits_inOctets]
        rw [if_pos digit] at h ⊢
        by_cases long : startsWithDigit (gather (digitValue c) cs).2.2 = true
        · rw [if_pos long] at h ⊢
          exact readLongTail_inOctets h
        · rw [if_neg long] at h ⊢
          exact readTail_inOctets h
      · rw [if_neg digit] at h
        cases h

end Numerals

/-! ### Numerals passed over -/

section Numerals

variable {negative : Bool} {significand : Nat} {exponent : Int} {n : Number} {c : Char}

theorem passDigits_digit (h : c.isDigit = true) (cs : List Char) :
    passDigits (c :: cs) = ((passDigits cs).1 + 1, (passDigits cs).2) := by
  simp [passDigits, h]

theorem passDigits_other (h : startsWithDigit cs = false) : passDigits cs = (0, cs) := by
  cases cs with
  | nil => rfl
  | cons c cs =>
    have other : c.isDigit = false := h
    simp [passDigits, other]

/-- What is gathered, and what else there is, are the digits at the front. -/
theorem passDigits_eq_gather (m : Nat) (cs : List Char) :
    passDigits cs = ((gather m cs).2.1 + (passDigits (gather m cs).2.2).1,
      (passDigits (gather m cs).2.2).2) := by
  induction cs generalizing m with
  | nil => rfl
  | cons c cs ih =>
    rw [gather]
    split_ifs with digit
    · rw [passDigits_digit digit.1, ih (m * 10 + digitValue c)]
      simp only [Nat.add_right_comm]
    · simp

/-- Behind the digits of an exponent stands what is behind all digits, or more digits if the
exponent is too great. -/
theorem passDigits_exponentDigits (m : Nat) (cs : List Char) :
    (passDigits (exponentDigits m cs).2).2 = (passDigits cs).2 ∧
      ((exponentDigits m cs).1.isSome → startsWithDigit (exponentDigits m cs).2 = false) := by
  induction cs generalizing m with
  | nil => exact ⟨rfl, fun _ => rfl⟩
  | cons c cs ih =>
    rw [exponentDigits]
    split_ifs with digit large
    · rw [passDigits_digit digit]
      exact ⟨rfl, fun h => by cases h⟩
    · rw [passDigits_digit digit]
      exact ih _
    · exact ⟨rfl, fun _ => Bool.eq_false_iff.2 digit⟩

theorem eq_of_fraction (h : fraction negative significand exponent cs = .ok (n, rest)) :
    cs = rest := by
  unfold fraction at h
  split at h <;> cases h
  rfl

theorem skipExponent_of_readExponent
    (h : readExponent negative significand exponent cs = .ok (n, rest)) :
    skipExponent cs = .ok rest := by
  unfold readExponent at h
  unfold skipExponent
  generalize exponentSign cs = sign at h ⊢
  obtain ⟨down, cs'⟩ := sign
  dsimp only at h ⊢
  cases cs' with
  | nil => cases h
  | cons c cs' =>
    dsimp only at h
    by_cases digit : c.isDigit = true
    · rw [if_pos digit] at h
      obtain ⟨passed, ends⟩ := passDigits_exponentDigits (digitValue c) cs'
      rw [if_pos (show startsWithDigit (c :: cs') = true from digit), passDigits_digit digit,
        ← passed]
      generalize exponentDigits (digitValue c) cs' = digits at h ends ⊢
      obtain ⟨value, cs''⟩ := digits
      cases value with
      | some value =>
        rw [passDigits_other (ends rfl), eq_of_fraction h]
      | none =>
        dsimp only at h
        by_cases large : significand ≠ 0 ∧ (!down) = true
        · rw [if_pos large] at h
          cases h
        · rw [if_neg large] at h
          cases h
          rfl
    · rw [if_neg digit] at h
      cases h

/-- The digits behind a point are passed over with an exponent. -/
theorem skipTail_of_fractionTail {ds : List Char} {count : Nat}
    (passed : passDigits ds = (count + 1, cs))
    (h : fractionTail negative significand exponent cs = .ok (n, rest)) :
    skipTail ('.' :: ds) = .ok rest := by
  rw [skipTail, passed]
  unfold fractionTail at h
  split at h
  · exact skipExponent_of_readExponent h
  · exact skipExponent_of_readExponent h
  · rename_i small large
    rw [← eq_of_fraction h]
    split
    · rename_i e
      cases e
    · rename_i e
      cases e
      exact absurd rfl (small _)
    · rename_i e
      cases e
      exact absurd rfl (large _)
    · rename_i e
      cases e
      rfl

theorem skipTail_of_readFraction
    (h : readFraction negative significand exponent cs = .ok (n, rest)) :
    skipTail ('.' :: cs) = .ok rest := by
  have passed := passDigits_eq_gather significand cs
  unfold readFraction at h
  generalize gather significand cs = taken at h passed
  obtain ⟨m, count, cs'⟩ := taken
  dsimp only at h passed
  by_cases digit : startsWithDigit cs' = true
  -- Digits are left that no longer fit the word; so there is a digit even if none was gathered.
  · rw [if_pos digit] at h
    cases cs' with
    | nil => cases digit
    | cons c cs' =>
      rw [passDigits_digit digit] at h passed
      exact skipTail_of_fractionTail passed h
  · rw [if_neg digit] at h
    rw [passDigits_other (Bool.eq_false_iff.2 digit)] at passed
    cases count with
    | zero =>
      rw [if_pos rfl] at h
      split_ifs at h <;> cases h
    | succ count =>
      rw [if_neg (Nat.succ_ne_zero count)] at h
      exact skipTail_of_fractionTail passed h

theorem skipTail_other (point : ∀ r, cs = '.' :: r → False) (small : ∀ r, cs = 'e' :: r → False)
    (large : ∀ r, cs = 'E' :: r → False) : skipTail cs = .ok cs := by
  unfold skipTail
  split
  · exact (point _ rfl).elim
  · exact (small _ rfl).elim
  · exact (large _ rfl).elim
  · rfl

theorem skipTail_of_readTail (h : readTail negative significand cs = .ok (n, rest)) :
    skipTail cs = .ok rest := by
  unfold readTail at h
  split at h
  · exact skipTail_of_readFraction h
  · exact skipExponent_of_readExponent h
  · exact skipExponent_of_readExponent h
  · rename_i point small large
    cases h
    exact skipTail_other point small large

theorem skipTail_of_readLongTail {extra : Nat}
    (h : readLongTail negative significand extra cs = .ok (n, rest)) :
    skipTail cs = .ok rest := by
  unfold readLongTail at h
  split at h
  · exact skipTail_of_readFraction h
  · rename_i point
    unfold fractionTail at h
    split at h
    · exact skipExponent_of_readExponent h
    · exact skipExponent_of_readExponent h
    · rename_i small large
      rw [← eq_of_fraction h]
      exact skipTail_other point small large

/-- A numeral that is read is passed over. -/
theorem skipNumber_of_readNumber (h : readNumber negative cs = .ok (n, rest)) :
    skipNumber cs = .ok rest := by
  cases cs with
  | nil => cases h
  | cons c cs =>
    by_cases zero : c = '0'
    · subst zero
      rw [readNumber_zero] at h
      show (if startsWithDigit cs then _ else skipTail cs) = _
      by_cases digit : startsWithDigit cs = true
      · rw [if_pos digit] at h
        cases h
      · rw [if_neg digit] at h ⊢
        exact skipTail_of_readTail h
    · have skips : skipNumber (c :: cs) =
          if c.isDigit then skipTail (passDigits cs).2 else refuse .invalidNumber cs := by
        unfold skipNumber
        split
        · rename_i e
          exact absurd (List.cons.inj e).1 zero
        · rename_i e
          cases e
          rfl
        · contradiction
      rw [readNumber_nonzero zero] at h
      by_cases digit : c.isDigit = true
      · rw [if_pos digit] at h
        rw [skips, if_pos digit, passDigits_eq_gather (digitValue c)]
        by_cases long : startsWithDigit (gather (digitValue c) cs).2.2 = true
        · rw [if_pos long] at h
          exact skipTail_of_readLongTail h
        · rw [if_neg long] at h
          rw [passDigits_other (Bool.eq_false_iff.2 long)]
          exact skipTail_of_readTail h
      · rw [if_neg digit] at h
        cases h

/-! ### What is left -/

theorem length_passDigits_le (cs : List Char) : (passDigits cs).2.length ≤ cs.length :=
  List.length_dropWhile_le _ _

theorem length_exponentSign_le (cs : List Char) : (exponentSign cs).2.length ≤ cs.length := by
  unfold exponentSign
  split
  · exact Nat.le_succ _
  · exact Nat.le_succ _
  · exact Nat.le_refl _

theorem length_le_of_skipExponent (h : skipExponent cs = .ok rest) :
    rest.length ≤ cs.length := by
  unfold skipExponent at h
  dsimp only at h
  split_ifs at h
  · cases h
    exact Nat.le_trans (length_passDigits_le _) (length_exponentSign_le cs)
  · cases h

theorem length_le_of_skipTail (h : skipTail cs = .ok rest) : rest.length ≤ cs.length := by
  unfold skipTail at h
  split at h
  · rename_i cs'
    have le := length_passDigits_le cs'
    split at h <;> rename_i passed
    · cases h
    · have shorter := length_le_of_skipExponent h
      rw [passed] at le
      simp only [List.length_cons] at le ⊢
      omega
    · have shorter := length_le_of_skipExponent h
      rw [passed] at le
      simp only [List.length_cons] at le ⊢
      omega
    · cases h
      rw [passed] at le
      exact Nat.le_succ_of_le le
  · exact Nat.le_succ_of_le (length_le_of_skipExponent h)
  · exact Nat.le_succ_of_le (length_le_of_skipExponent h)
  · cases h
    exact Nat.le_refl _

theorem length_lt_of_skipNumber (h : skipNumber cs = .ok rest) : rest.length < cs.length := by
  unfold skipNumber at h
  split at h
  · split_ifs at h
    · cases h
    · exact Nat.lt_succ_of_le (length_le_of_skipTail h)
  · split_ifs at h
    · exact Nat.lt_succ_of_le (Nat.le_trans (length_le_of_skipTail h) (length_passDigits_le _))
    · cases h
  · cases h

end Numerals

end PanelScript.Json

import Mathlib.Tactic.SplitIfs
import PanelScript.Json.Literal
import PanelScript.Json.Printer

/-!
# Numerals and strings read back

An integer of 64 bits and a string are read back from their text, whatever follows, as long as it
does not go on with the numeral.

* `EndsNumeral` says that a text does not go on with a numeral;
* `readNumber_toDigits` and `wholeNumber_natAbs`: the digits of an integer are read back;
* `stringBody_escapeChar`: an escaped character is read back, and so `readString_escaped` a string.
-/

namespace PanelScript.Json

-- Powers are those of the core library.
attribute [local instance (2000)] instPowNat

/-! ### Numerals -/

/-- No digit, point or exponent follows. -/
def EndsNumeral : List Char → Prop
  | [] => True
  | c :: _ => c.isDigit = false ∧ c ≠ '.' ∧ c ≠ 'e' ∧ c ≠ 'E'

instance : DecidablePred EndsNumeral
  | [] => inferInstanceAs (Decidable True)
  | _ :: _ => inferInstanceAs (Decidable (_ ∧ _ ∧ _ ∧ _))

variable {rest : List Char}

theorem EndsNumeral.startsWithDigit (h : EndsNumeral rest) : startsWithDigit rest = false := by
  cases rest with
  | nil => rfl
  | cons c rest => exact h.1

theorem le_ofDigitChars (ds : List Char) (n : Nat) : n ≤ Nat.ofDigitChars 10 ds n := by
  induction ds generalizing n with
  | nil => exact Nat.le_refl n
  | cons c ds ih =>
    rw [Nat.ofDigitChars_cons]
    exact Nat.le_trans (by omega) (ih _)

/-- Digits are gathered as long as their number fits a word. -/
theorem gather_append {ds : List Char} {n : Nat} (digits : ∀ c ∈ ds, c.isDigit = true)
    (le : Nat.ofDigitChars 10 ds n ≤ maxWord) (ends : startsWithDigit rest = false) :
    gather n (ds ++ rest) = (Nat.ofDigitChars 10 ds n, ds.length, rest) := by
  induction ds generalizing n with
  | nil =>
    cases rest with
    | nil => rfl
    | cons c rest =>
      have hc : c.isDigit = false := ends
      simp [gather, hc]
  | cons c ds ih =>
    rw [Nat.ofDigitChars_cons] at le ⊢
    have same : n * 10 + digitValue c = 10 * n + (c.toNat - '0'.toNat) := by
      rw [digitValue, Nat.mul_comm]
    have hc : c.isDigit = true := digits c List.mem_cons_self
    have fits : n * 10 + digitValue c ≤ maxWord := by
      rw [same]
      exact Nat.le_trans (le_ofDigitChars ds _) le
    rw [List.cons_append, gather, if_pos ⟨hc, fits⟩, same,
      ih (fun c hc => digits c (List.mem_cons_of_mem _ hc)) le]
    rfl

/-- The digits of a positive number do not begin with zero. -/
theorem head?_toDigits_ne_zero {n : Nat} (hn : 0 < n) :
    ∀ c, (Nat.toDigits 10 n).head? = some c → c ≠ '0' := by
  induction n using Nat.strongRecOn with
  | _ n ih =>
    by_cases lt : n < 10
    · rw [Nat.toDigits_of_lt_base lt]
      rintro c ⟨⟩
      have : ∀ m, m < 10 → 0 < m → m.digitChar ≠ '0' := by decide
      exact this n lt hn
    · rw [Nat.toDigits_of_base_le (by decide) (Nat.le_of_not_lt lt)]
      intro c hc
      refine ih (n / 10) (by omega) (by omega) c ?_
      cases e : Nat.toDigits 10 (n / 10) with
      | nil => exact absurd e Nat.toDigits_ne_nil
      | cons d ds =>
        rw [e] at hc
        exact hc

/-- The digits of a positive number: the first is not zero, and with the others it denotes the
number. -/
theorem toDigits_pos {n : Nat} (hn : 0 < n) :
    ∃ c ds, Nat.toDigits 10 n = c :: ds ∧ c.isDigit = true ∧ c ≠ '0' ∧
      Nat.ofDigitChars 10 ds (digitValue c) = n ∧ ∀ d ∈ ds, d.isDigit = true := by
  have digits : ∀ c ∈ Nat.toDigits 10 n, c.isDigit = true := fun c hc =>
    Nat.isDigit_of_mem_toDigits (by decide) (by decide) hc
  have value : Nat.ofDigitChars 10 (Nat.toDigits 10 n) 0 = n := Nat.ofDigitChars_ten_toDigits
  have head := head?_toDigits_ne_zero hn
  cases e : Nat.toDigits 10 n with
  | nil => exact absurd e Nat.toDigits_ne_nil
  | cons c ds =>
    rw [e] at digits value head
    refine ⟨c, ds, rfl, digits c List.mem_cons_self, head c rfl, ?_,
      fun d hd => digits d (List.mem_cons_of_mem _ hd)⟩
    rwa [Nat.ofDigitChars_cons, Nat.mul_zero, Nat.zero_add] at value

/-- A number that fits a word is read back from its digits. -/
theorem readNumber_toDigits {n : Nat} (negative : Bool) (le : n ≤ maxWord)
    (ends : EndsNumeral rest) :
    readNumber negative (Nat.toDigits 10 n ++ rest) = .ok (wholeNumber negative n, rest) := by
  have tail : ∀ m, readTail negative m rest = .ok (wholeNumber negative m, rest) := by
    intro m
    cases rest with
    | nil => rfl
    | cons c rest =>
      obtain ⟨-, point, e, E⟩ := ends
      unfold readTail
      split <;> simp_all
  rcases Nat.eq_zero_or_pos n with rfl | hn
  · rw [show Nat.toDigits 10 0 = ['0'] by decide]
    simp only [List.cons_append, List.nil_append, readNumber, ends.startsWithDigit]
    exact tail 0
  · obtain ⟨c, ds, e, hc, nonzero, value, digits⟩ := toDigits_pos hn
    rw [e, List.cons_append]
    have gathered := gather_append (n := digitValue c) digits (by rw [value]; exact le)
      ends.startsWithDigit
    unfold readNumber
    split
    · contradiction
    · rename_i h
      cases h
      exact absurd rfl nonzero
    · rename_i h
      cases h
      rw [if_pos hc, gathered]
      simp only [ends.startsWithDigit]
      rw [value]
      exact tail n

/-- An integer of 64 bits is its sign and its absolute value. -/
theorem wholeNumber_natAbs {n : Int} (h : IsWord n) :
    n.natAbs ≤ maxWord ∧ wholeNumber (decide (n < 0)) n.natAbs = .int n := by
  obtain ⟨lo, hi⟩ := h
  unfold wholeNumber maxWord
  by_cases neg : n < 0
  · have pos : n.natAbs ≠ 0 := by omega
    have le : n.natAbs ≤ 2 ^ (63 : Nat) := by omega
    have back : -(n.natAbs : Int) = n := by omega
    simp only [neg, decide_true, Bool.not_true, Bool.false_eq_true, if_false, pos, le, if_true,
      back]
    exact ⟨by omega, trivial⟩
  · have back : (n.natAbs : Int) = n := by omega
    simp only [neg, decide_false, Bool.not_false, if_true, back]
    exact ⟨by omega, trivial⟩

/-! ### Strings -/

theorem hexValue_hexDigit : ∀ d, d < 16 → hexValue (hexDigit d) = some d := by decide

/-- The number of a control character is read back. -/
theorem readHex_hexDigit {n : Nat} (h : n < 0x20) (rest : List Char) :
    readHex ('0' :: '0' :: hexDigit (n / 16) :: hexDigit (n % 16) :: rest) = .ok (n, rest) := by
  have high := hexValue_hexDigit (n / 16) (by omega)
  have low := hexValue_hexDigit (n % 16) (by omega)
  have zero : hexValue '0' = some 0 := by decide
  have size (a b : Char) : ¬ byteCount ['0', '0', a, b] < 4 := by
    have := a.utf8Size_pos
    have := b.utf8Size_pos
    have : '0'.utf8Size = 1 := by decide
    simp only [byteCount, List.foldl_cons, List.foldl_nil]
    omega
  have number : ((0 * 16 + 0) * 16 + n / 16) * 16 + n % 16 = n := by omega
  simp only [readHex, List.take_succ_cons, List.take_zero, if_neg (size _ _), zero, high, low,
    number]

/-- A character that is escaped by its number is read back. -/
theorem readEscape_hex {c : Char} (h : c.toNat < 0x20) (rest : List Char) :
    readEscape ('u' :: '0' :: '0' :: hexDigit (c.toNat / 16) :: hexDigit (c.toNat % 16) :: rest) =
      .ok (c, rest) := by
  have notLow : isLowSurrogate c.toNat = false := by simp [isLowSurrogate]; omega
  have notHigh : isHighSurrogate c.toNat = false := by simp [isHighSurrogate]; omega
  show readUnicode _ = _
  unfold readUnicode
  rw [readHex_hexDigit h]
  show (if isLowSurrogate c.toNat then _ else _) = _
  rw [notLow, notHigh]
  exact congrArg (fun d => Except.ok (d, rest)) (Char.ofNat_toNat c)

/-- A character stands for itself, or is written behind a backslash. -/
theorem escapeChar_cases (c : Char) :
    (escapeChar c = [c] ∧ c ≠ '"' ∧ c ≠ '\\' ∧ ¬ c.toNat < 0x20) ∨
      ∃ cs, escapeChar c = '\\' :: cs ∧ ∀ rest, readEscape (cs ++ rest) = .ok (c, rest) := by
  unfold escapeChar
  split_ifs with quote backslash b f n r t control
  iterate 7
    · subst c
      exact .inr ⟨_, rfl, fun _ => rfl⟩
  · exact .inr ⟨_, rfl, readEscape_hex control⟩
  · exact .inl ⟨rfl, quote, backslash, control⟩

theorem stringBody_backslash {fuel : Nat} {c : Char} {cs cs' : List Char}
    (h : readEscape cs' = .ok (c, cs)) : stringBody (fuel + 1) ('\\' :: cs') =
      (stringBody fuel cs).map fun (s, rest) => (c :: s, rest) := by
  rw [stringBody, h]
  show (stringBody fuel cs >>= fun _ => _) = _
  cases stringBody fuel cs <;> rfl

theorem stringBody_plain {fuel : Nat} {c : Char} {cs : List Char} (quote : c ≠ '"')
    (backslash : c ≠ '\\') (control : ¬ c.toNat < 0x20) : stringBody (fuel + 1) (c :: cs) =
      (stringBody fuel cs).map fun (s, rest) => (c :: s, rest) := by
  rw [stringBody.eq_def]
  split
  · contradiction
  · rename_i h
    cases h
    split
    · contradiction
    · rename_i h
      exact absurd (List.cons.inj h).1 quote
    · rename_i h
      exact absurd (List.cons.inj h).1 backslash
    · rename_i h
      cases h
      rw [if_neg control]
      cases stringBody fuel cs <;> rfl

/-- An escaped character is read back. -/
theorem stringBody_escapeChar (fuel : Nat) (c : Char) (cs : List Char) :
    stringBody (fuel + 1) (escapeChar c ++ cs) =
      (stringBody fuel cs).map fun (s, rest) => (c :: s, rest) := by
  rcases escapeChar_cases c with ⟨e, quote, backslash, control⟩ | ⟨ds, e, reads⟩
  · rw [e]
    exact stringBody_plain quote backslash control
  · rw [e]
    exact stringBody_backslash (reads cs)

/-- The characters of a string are read back. -/
theorem stringBody_escaped {fuel : Nat} {s : List Char} (h : s.length < fuel) (rest : List Char) :
    stringBody fuel (s.flatMap escapeChar ++ '"' :: rest) = .ok (s, rest) := by
  induction s generalizing fuel with
  | nil =>
    cases fuel with
    | zero => cases h
    | succ fuel => rfl
  | cons c s ih =>
    cases fuel with
    | zero => cases h
    | succ fuel =>
      rw [List.flatMap_cons, List.append_assoc, stringBody_escapeChar,
        ih (Nat.lt_of_succ_lt_succ h)]
      rfl

theorem length_le_escaped (s : List Char) : s.length ≤ (s.flatMap escapeChar).length := by
  induction s with
  | nil => exact Nat.le_refl 0
  | cons c s ih =>
    have : 1 ≤ (escapeChar c).length := by
      unfold escapeChar
      split_ifs <;> simp
    rw [List.flatMap_cons, List.length_append, List.length_cons]
    omega

/-- A string is read back. -/
theorem readString_escaped (s : String) (rest : List Char) :
    readString (s.toList.flatMap escapeChar ++ '"' :: rest) = .ok (s, rest) := by
  have fuel : s.toList.length < (s.toList.flatMap escapeChar ++ '"' :: rest).length + 1 := by
    have := length_le_escaped s.toList
    simp only [List.length_append, List.length_cons]
    omega
  unfold readString
  rw [stringBody_escaped fuel]
  show Except.ok (String.ofList s.toList, rest) = _
  rw [String.ofList_toList]

end PanelScript.Json

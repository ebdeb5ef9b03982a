import PanelScript.Json.Octets
import PanelScript.Proofs.Json.Standing

/-!
# Texts as octets

What JSON gives a meaning to is ASCII. So the blanks and the marks between values stand in the
octets of a text as they stand in the text.

* `encoded` are the octets of a character, `inOctets` those of a text, each as a character;
* `inOctets_cases`: a text and its octets begin with the same ASCII character, or with none;
* `skipSpace_inOctets`, `NextItem.inOctets` and `NextMember.inOctets`: blanks and marks.
-/

namespace PanelScript.Json

/-! ### Octets in UTF-8 -/

theorem toList_loop (b : ByteArray) (i : Nat) (taken : List UInt8) :
    ByteArray.toList.loop b i taken = taken.reverse ++ b.data.toList.drop i := by
  induction hn : b.size - i generalizing i taken with
  | zero =>
    have le : b.data.toList.length ≤ i := by
      rw [Array.length_toList, ByteArray.size_data]
      omega
    rw [ByteArray.toList.loop, if_neg (by omega), List.drop_of_length_le le, List.append_nil]
  | succ n ih =>
    have lt : i < b.data.toList.length := by
      rw [Array.length_toList, ByteArray.size_data]
      omega
    have first : b.get! i = b.data.toList[i] := by
      rw [Array.getElem_toList]
      exact getElem!_pos b.data i (by omega)
    rw [ByteArray.toList.loop, if_pos (by omega), ih (i + 1) _ (by omega),
      List.drop_eq_getElem_cons lt, first, List.reverse_cons, List.append_assoc,
      List.singleton_append]

theorem toList_eq (b : ByteArray) : b.toList = b.data.toList := by
  rw [ByteArray.toList, toList_loop, List.drop_zero, List.reverse_nil, List.nil_append]

theorem utf8_eq (c : Char) : utf8 c = String.utf8EncodeChar c := by
  show (String.singleton c).toByteArray.toList = _
  rw [toList_eq, String.toByteArray_singleton, List.utf8Encode, List.toList_data_toByteArray]
  simp

theorem toUTF8_toList (s : String) : s.toUTF8.toList = s.toList.flatMap utf8 := by
  show s.toByteArray.toList = _
  rw [toList_eq, ← String.ofList_toList (s := s), String.toByteArray_ofList, List.utf8Encode,
    List.toList_data_toByteArray, String.toList_ofList]
  exact congrArg (s.toList.flatMap ·) (funext fun c => (utf8_eq c).symm)

theorem utf8_ascii {c : Char} (h : c.toNat < 0x80) : utf8 c = [UInt8.ofNat c.toNat] := by
  have le : c.val.toNat ≤ 127 := Nat.le_of_lt_succ h
  rw [utf8_eq, String.utf8EncodeChar, if_pos le]
  rfl

/-- Outside ASCII no octet is that of an ASCII character. -/
theorem le_of_mem_utf8 {c : Char} (h : 0x80 ≤ c.toNat) : ∀ b ∈ utf8 c, 0x80 ≤ b.toNat := by
  have gt : ¬ c.val.toNat ≤ 127 := Nat.not_le_of_lt h
  intro b hb
  rw [utf8_eq, String.utf8EncodeChar] at hb
  simp only [gt, if_false] at hb
  split_ifs at hb <;> simp only [List.mem_cons, List.not_mem_nil, or_false] at hb
  · rcases hb with rfl | rfl <;> simp only [UInt8.toNat_ofNat'] <;> omega
  · rcases hb with rfl | rfl | rfl <;> simp only [UInt8.toNat_ofNat'] <;> omega
  · rcases hb with rfl | rfl | rfl | rfl <;> simp only [UInt8.toNat_ofNat'] <;> omega

theorem toNat_ofNat_octet (b : UInt8) : (Char.ofNat b.toNat).toNat = b.toNat := by
  have valid : b.toNat.isValidChar := .inl (Nat.lt_trans b.toNat_lt (by decide))
  rw [Char.ofNat, dif_pos valid]
  rfl

theorem ofNat_toNat_octet (b : UInt8) : UInt8.ofNat (Char.ofNat b.toNat).toNat = b := by
  rw [toNat_ofNat_octet, UInt8.ofNat_toNat]

/-! ### Octets as characters -/

/-- The octets of a character, each as a character. -/
def encoded (c : Char) : List Char := octets (utf8 c)

/-- The octets of a text, each as a character. -/
def inOctets (cs : List Char) : List Char := cs.flatMap encoded

theorem octets_toUTF8 (s : String) : octets s.toUTF8.toList = inOctets s.toList := by
  rw [toUTF8_toList, octets, List.map_flatMap]
  rfl

theorem encoded_ascii {c : Char} (h : c.toNat < 0x80) : encoded c = [c] := by
  rw [encoded, utf8_ascii h, octets, List.map_singleton, UInt8.toNat_ofNat',
    Nat.mod_eq_of_lt (by omega), Char.ofNat_toNat]

theorem le_of_mem_encoded {c : Char} (h : 0x80 ≤ c.toNat) : ∀ d ∈ encoded c, 0x80 ≤ d.toNat := by
  intro d hd
  obtain ⟨b, hb, rfl⟩ := List.mem_map.1 hd
  rw [toNat_ofNat_octet]
  exact le_of_mem_utf8 h b hb

theorem encoded_ne_nil (c : Char) : encoded c ≠ [] := by
  intro e
  have none := List.map_eq_nil_iff.1 e
  rw [utf8_eq] at none
  exact String.utf8EncodeChar_ne_nil none

theorem inOctets_cons {c : Char} (h : c.toNat < 0x80) (cs : List Char) :
    inOctets (c :: cs) = c :: inOctets cs := by
  rw [inOctets, List.flatMap_cons, encoded_ascii h]
  rfl

theorem inOctets_append {front : List Char} (h : ∀ d ∈ front, d.toNat < 0x80) (cs : List Char) :
    inOctets (front ++ cs) = front ++ inOctets cs := by
  induction front with
  | nil => rfl
  | cons c front ih =>
    obtain ⟨first, others⟩ := List.forall_mem_cons.1 h
    rw [List.cons_append, inOctets_cons first, ih others, List.cons_append]

/-- A text begins with an ASCII character, and its octets begin so; or neither does. -/
theorem inOctets_cases (c : Char) (cs : List Char) :
    c.toNat < 0x80 ∧ inOctets (c :: cs) = c :: inOctets cs ∨
      0x80 ≤ c.toNat ∧ ∃ d ds, inOctets (c :: cs) = d :: ds ∧ 0x80 ≤ d.toNat := by
  by_cases ascii : c.toNat < 0x80
  · exact .inl ⟨ascii, inOctets_cons ascii cs⟩
  · have high := Nat.le_of_not_lt ascii
    refine .inr ⟨high, ?_⟩
    cases e : encoded c with
    | nil => exact absurd e (encoded_ne_nil c)
    | cons d ds =>
      refine ⟨d, ds ++ inOctets cs, ?_, le_of_mem_encoded high d (e ▸ List.mem_cons_self)⟩
      rw [inOctets, List.flatMap_cons, e, List.cons_append]
      rfl

theorem ne_of_high {c d : Char} (h : 0x80 ≤ d.toNat) (hc : c.toNat < 0x80) : d ≠ c := by
  rintro rfl
  omega

theorem length_le_inOctets (cs : List Char) : cs.length ≤ (inOctets cs).length := by
  induction cs with
  | nil => exact Nat.zero_le _
  | cons c cs ih =>
    have pos := List.length_pos_iff.2 (encoded_ne_nil c)
    rw [inOctets, List.flatMap_cons, List.length_append, List.length_cons]
    rw [inOctets] at ih
    omega

/-- Whether all characters are ASCII. -/
def allAscii (cs : List Char) : Bool := cs.all fun c => c.toNat < 0x80

theorem allAscii_iff {cs : List Char} : allAscii cs = true ↔ ∀ c ∈ cs, c.toNat < 0x80 := by
  simp [allAscii]

/-! ### Characters of a kind -/

/-- The test passes for ASCII characters only. -/
def IsAscii (p : Char → Bool) : Prop := ∀ c, p c = true → c.toNat < 0x80

theorem isAscii_isDigit : IsAscii Char.isDigit := by
  intro c h
  have range : 48 ≤ c.toNat ∧ c.toNat ≤ 57 := Char.isDigit_iff_toNat.1 h
  omega

theorem isAscii_isSpace : IsAscii isSpace := by
  intro c h
  simp only [isSpace, Bool.or_eq_true, decide_eq_true_eq] at h
  rcases h with ((rfl | rfl) | rfl) | rfl <;> decide

theorem IsAscii.eq_false {p : Char → Bool} (hp : IsAscii p) {c : Char} (h : 0x80 ≤ c.toNat) :
    p c = false := by
  refine Bool.eq_false_iff.2 fun pass => ?_
  have := hp c pass
  omega

theorem span_inOctets {p : Char → Bool} (hp : IsAscii p) (cs : List Char) :
    (inOctets cs).takeWhile p = cs.takeWhile p ∧
      (inOctets cs).dropWhile p = inOctets (cs.dropWhile p) := by
  induction cs with
  | nil => exact ⟨rfl, rfl⟩
  | cons c cs ih =>
    rcases inOctets_cases c cs with ⟨ascii, e⟩ | ⟨high, d, ds, e, high'⟩
    · rw [e, List.takeWhile_cons, List.takeWhile_cons, List.dropWhile_cons, List.dropWhile_cons]
      by_cases pass : p c
      · simp [pass, ih]
      · simp [pass, e]
    · simp [hp.eq_false high, hp.eq_false high', e]

theorem skipSpace_inOctets (cs : List Char) : skipSpace (inOctets cs) = inOctets (skipSpace cs) :=
  (span_inOctets isAscii_isSpace cs).2

theorem passDigits_inOctets (cs : List Char) :
    passDigits (inOctets cs) = ((passDigits cs).1, inOctets (passDigits cs).2) := by
  obtain ⟨take, drop⟩ := span_inOctets isAscii_isDigit cs
  rw [passDigits, take, drop]
  rfl

theorem startsWithDigit_inOctets (cs : List Char) :
    startsWithDigit (inOctets cs) = startsWithDigit cs := by
  cases cs with
  | nil => rfl
  | cons c cs =>
    rcases inOctets_cases c cs with ⟨-, e⟩ | ⟨high, d, ds, e, high'⟩
    · rw [e]
      rfl
    · rw [e]
      show d.isDigit = c.isDigit
      rw [isAscii_isDigit.eq_false high, isAscii_isDigit.eq_false high']

/-! ### Marks -/

section Marks

variable {first more : Bool} {cs rest : List Char}

theorem skipSpace_inOctets_cons {c : Char} (h : c.toNat < 0x80) (space : skipSpace cs = c :: rest) :
    skipSpace (inOctets cs) = c :: inOctets rest := by
  rw [skipSpace_inOctets, space, inOctets_cons h]

theorem NextItem.inOctets (h : NextItem first cs more rest) :
    NextItem first (inOctets cs) more (inOctets rest) := by
  have begins {cs rest : List Char} {c : Char} (space : skipSpace cs = c :: rest)
      (other : c ≠ ']') : ∃ d ds, Json.inOctets (c :: rest) = d :: ds ∧ d ≠ ']' ∧
        skipSpace (Json.inOctets cs) = d :: ds := by
    rw [skipSpace_inOctets, space]
    rcases inOctets_cases c rest with ⟨-, e⟩ | ⟨-, d, ds, e, high⟩
    · exact ⟨c, _, e, other, e⟩
    · exact ⟨d, ds, e, ne_of_high high (by decide), e⟩
  cases h with
  | none space =>
    rw [inOctets_cons (by decide)]
    exact .none (skipSpace_inOctets_cons (by decide) space)
  | first space other =>
    obtain ⟨d, ds, e, other, space⟩ := begins space other
    rw [e]
    exact .first space other
  | behind comma space other =>
    obtain ⟨d, ds, e, other, space⟩ := begins space other
    rw [e]
    exact .behind (skipSpace_inOctets_cons (by decide) comma) space other

theorem NextMember.inOctets (h : NextMember first cs more rest) :
    NextMember first (inOctets cs) more (inOctets rest) := by
  cases h with
  | none space =>
    rw [inOctets_cons (by decide)]
    exact .none (skipSpace_inOctets_cons (by decide) space)
  | first space => exact .first (skipSpace_inOctets_cons (by decide) space)
  | behind comma space =>
    exact .behind (skipSpace_inOctets_cons (by decide) comma)
      (skipSpace_inOctets_cons (by decide) space)

end Marks

end PanelScript.Json

import PanelScript.Proofs.Json.Octets

/-!
# Strings in octets

A string that is read from a text is decoded from the octets of the text, and can be passed over in
them.

* `Takes`: an escape is taken off a text, whatever follows it;
* `body_inOctets`: the characters of a string, one by one;
* `readEncoded_inOctets`: the string as a whole.
-/

namespace PanelScript.Json

/-! ### Escapes -/

theorem hexValue_ascii {c : Char} {n : Nat} (h : hexValue c = some n) : c.toNat < 0x80 := by
  unfold hexValue at h
  split_ifs at h with digit small large
  · exact isAscii_isDigit c digit
  · exact Nat.lt_of_le_of_lt small.2 (by decide)
  · exact Nat.lt_of_le_of_lt large.2 (by decide)

/-- The reader takes some ASCII characters off a text, whatever follows them. -/
def Takes {α : Type} (read : Reader α) (front : List Char) (a : α) : Prop :=
  (∀ d ∈ front, d.toNat < 0x80) ∧ ∀ rest, read (front ++ rest) = .ok (a, rest)

section Escapes

variable {cs rest : List Char} {n : Nat} {c : Char}

/-- Four hexadecimal digits. -/
theorem takes_of_readHex (h : readHex cs = .ok (n, rest)) :
    ∃ front, cs = front ++ rest ∧ Takes readHex front n := by
  unfold readHex at h
  split_ifs at h with few
  · cases h
  split at h
  · rename_i a b c d rest
    split at h
    · rename_i ha hb hc hd
      cases h
      refine ⟨[a, b, c, d], rfl, ?_, fun rest' => ?_⟩
      · simp only [List.forall_mem_cons]
        exact ⟨hexValue_ascii ha, hexValue_ascii hb, hexValue_ascii hc, hexValue_ascii hd,
          List.forall_mem_nil _⟩
      · have enough : ¬ byteCount [a, b, c, d] < 4 := few
        simp only [List.cons_append, List.nil_append, readHex, List.take_succ_cons, List.take_zero,
          if_neg enough, ha, hb, hc, hd]
    · cases h
  · cases h

/-- A character given by number, and what is passed over for it: one number or two. -/
theorem takes_of_readUnicode (h : readUnicode cs = .ok (c, rest)) :
    ∃ front, cs = front ++ rest ∧ Takes readUnicode front c ∧
      ((∃ n, Takes readHex front n) ∨ ∃ first second n m, front = first ++ '\\' :: 'u' :: second ∧
        Takes readHex first n ∧ Takes readHex second m) := by
  obtain ⟨⟨n, cs₁⟩, first, tail⟩ := bind_eq_ok_iff.1 h
  obtain ⟨front, rfl, takes⟩ := takes_of_readHex first
  dsimp only at tail
  split_ifs at tail with low high
  · cases tail
  · split at tail
    · cases tail
    · cases tail
    · rename_i rest'
      obtain ⟨⟨m, cs₂⟩, second, last⟩ := bind_eq_ok_iff.1 tail
      obtain ⟨front', rfl, takes'⟩ := takes_of_readHex second
      dsimp only at last
      split_ifs at last with low'
      · obtain ⟨rfl, rfl⟩ := Prod.mk.inj (Except.ok.inj last)
        refine ⟨front ++ '\\' :: 'u' :: front', by simp, ⟨?_, fun rest' => ?_⟩,
          .inr ⟨front, front', n, m, rfl, takes, takes'⟩⟩
        · refine List.forall_mem_append.2 ⟨takes.1, ?_⟩
          exact List.forall_mem_cons.2 ⟨by decide, List.forall_mem_cons.2 ⟨by decide, takes'.1⟩⟩
        · rw [List.append_assoc, readUnicode, takes.2, ok_bind, List.cons_append, List.cons_append]
          simp only [low, high, Bool.false_eq_true, if_false, if_true, takes'.2, low', ok_bind]
      · cases last
    · cases tail
    · cases tail
  · cases tail
    refine ⟨front, rfl, ⟨takes.1, fun rest' => ?_⟩, .inl ⟨n, takes⟩⟩
    rw [readUnicode, takes.2, ok_bind]
    simp only [low, high, Bool.false_eq_true, if_false]

theorem skipBody_hex {front : List Char} (takes : Takes readHex front n) (fuel : Nat)
    (rest : List Char) :
    skipBody (fuel + 1) ('\\' :: 'u' :: (front ++ rest)) = skipBody fuel rest := by
  show ((readHex (front ++ rest)).map (·.2) >>= skipBody fuel) = _
  rw [takes.2]
  rfl

theorem shortEscape_ascii {d : Char} (h : shortEscape d = some c) : d.toNat < 0x80 := by
  unfold shortEscape at h
  split at h
  iterate 8 decide
  cases h

theorem readEscape_short {d : Char} (h : shortEscape d = some c) (rest : List Char) :
    readEscape (d :: rest) = .ok (c, rest) ∧ skipEscape (d :: rest) = .ok rest := by
  have other : d ≠ 'u' := by
    rintro rfl
    cases h
  constructor
  · unfold readEscape
    split
    · contradiction
    · rename_i e
      exact absurd (List.cons.inj e).1 other
    · rename_i e
      cases e
      rw [h]
  · unfold skipEscape
    split
    · contradiction
    · rename_i e
      exact absurd (List.cons.inj e).1 other
    · rename_i e
      cases e
      rw [h]
      rfl

/-- An escape is passed over in one step, or in two if it is a pair of surrogates. -/
theorem takes_of_readEscape (h : readEscape cs = .ok (c, rest)) :
    ∃ front, cs = front ++ rest ∧ Takes readEscape front c ∧
      ∃ k ≤ front.length, ∀ fuel rest,
        skipBody (fuel + (k + 1)) ('\\' :: (front ++ rest)) = skipBody fuel rest := by
  unfold readEscape at h
  split at h
  · cases h
  · obtain ⟨front, rfl, takes, skips⟩ := takes_of_readUnicode h
    refine ⟨'u' :: front, rfl, ⟨List.forall_mem_cons.2 ⟨by decide, takes.1⟩, takes.2⟩, ?_⟩
    rcases skips with ⟨n, one⟩ | ⟨first, second, n, m, rfl, one, two⟩
    · exact ⟨0, Nat.zero_le _, fun fuel rest => skipBody_hex one fuel rest⟩
    · refine ⟨1, by simp, fun fuel rest => ?_⟩
      rw [List.cons_append, List.append_assoc, List.cons_append, List.cons_append]
      exact (skipBody_hex one (fuel + 1) _).trans (skipBody_hex two fuel rest)
  · rename_i d rest' _
    split at h
    · rename_i short
      cases h
      refine ⟨[d], rfl, ⟨List.forall_mem_singleton.2 (shortEscape_ascii short),
        fun rest => (readEscape_short short rest).1⟩, 0, Nat.zero_le _, fun fuel rest => ?_⟩
      show (skipEscape (d :: rest) >>= skipBody fuel) = _
      rw [(readEscape_short short rest).2]
      rfl
    · cases h

theorem length_lt_of_skipEscape (h : skipEscape cs = .ok rest) : rest.length < cs.length := by
  unfold skipEscape at h
  split at h
  · cases h
  · obtain ⟨⟨m, cs'⟩, hex, rfl⟩ := map_eq_ok_iff.1 h
    obtain ⟨front, rfl, -⟩ := takes_of_readHex hex
    simp only [List.length_cons, List.length_append]
    omega
  · split_ifs at h
    · cases h
      exact Nat.lt_succ_self _
    · cases h

end Escapes

/-! ### Strings -/

section Strings

variable {cs rest : List Char}

/-- A character that stands for itself. -/
def IsPlain (c : Char) : Prop := c ≠ '"' ∧ c ≠ '\\' ∧ ¬ c.toNat < 0x20

theorem IsPlain.encoded {c : Char} (h : IsPlain c) : ∀ d ∈ encoded c, IsPlain d := by
  by_cases ascii : c.toNat < 0x80
  · rw [encoded_ascii ascii]
    exact List.forall_mem_singleton.2 h
  · intro d hd
    have high := le_of_mem_encoded (Nat.le_of_not_lt ascii) d hd
    exact ⟨ne_of_high high (by decide), ne_of_high high (by decide), by omega⟩

theorem stringBody_cases {fuel : Nat} {s : List Char}
    (h : stringBody (fuel + 1) cs = .ok (s, rest)) :
    s = [] ∧ cs = '"' :: rest ∨
      ∃ c s' cs₁, s = c :: s' ∧ stringBody fuel cs₁ = .ok (s', rest) ∧
        (IsPlain c ∧ cs = c :: cs₁ ∨ ∃ cs', cs = '\\' :: cs' ∧ readEscape cs' = .ok (c, cs₁)) := by
  rw [stringBody.eq_def] at h
  dsimp only at h
  split at h
  · cases h
  · cases h
    exact .inl ⟨rfl, rfl⟩
  · obtain ⟨⟨c, cs₁⟩, escape, h⟩ := bind_eq_ok_iff.1 h
    obtain ⟨⟨s', cs₂⟩, body, h⟩ := bind_eq_ok_iff.1 h
    cases h
    exact .inr ⟨c, s', cs₁, rfl, body, .inr ⟨_, rfl, escape⟩⟩
  · rename_i c cs₁ quote backslash
    split_ifs at h with control
    · cases h
    · obtain ⟨⟨s', cs₂⟩, body, h⟩ := bind_eq_ok_iff.1 h
      cases h
      exact .inr ⟨c, s', cs₁, rfl, body, .inl ⟨⟨fun e => quote (e ▸ rfl),
        fun e => backslash (e ▸ rfl), control⟩, rfl⟩⟩

theorem encodedBody_plain {ds : List Char} (h : ∀ d ∈ ds, IsPlain d) (fuel : Nat)
    (cs : List Char) :
    encodedBody (fuel + ds.length) (ds ++ cs) = (encodedBody fuel cs).map
      fun (bytes, rest) => (ds.map (fun d => UInt8.ofNat d.toNat) ++ bytes, rest) := by
  induction ds with
  | nil => cases e : encodedBody fuel cs <;> simp [Except.map, e]
  | cons d ds ih =>
    obtain ⟨⟨quote, backslash, control⟩, others⟩ := List.forall_mem_cons.1 h
    rw [List.length_cons, ← Nat.add_assoc, List.cons_append, encodedBody.eq_def]
    dsimp only
    split
    · contradiction
    · rename_i e
      exact absurd (List.cons.inj e).1 quote
    · rename_i e
      exact absurd (List.cons.inj e).1 backslash
    · rename_i e
      cases e
      rw [if_neg control, ih others]
      cases encodedBody fuel cs <;> rfl

theorem skipBody_plain {ds : List Char} (h : ∀ d ∈ ds, IsPlain d) (fuel : Nat)
    (cs : List Char) : skipBody (fuel + ds.length) (ds ++ cs) = skipBody fuel cs := by
  induction ds with
  | nil => rfl
  | cons d ds ih =>
    obtain ⟨⟨quote, backslash, control⟩, others⟩ := List.forall_mem_cons.1 h
    rw [List.length_cons, ← Nat.add_assoc, List.cons_append, skipBody.eq_def]
    dsimp only
    split
    · contradiction
    · rename_i e
      exact absurd (List.cons.inj e).1 quote
    · rename_i e
      exact absurd (List.cons.inj e).1 backslash
    · rename_i e
      cases e
      rw [if_neg control, ih others]

theorem map_encoded (c : Char) : (encoded c).map (fun d => UInt8.ofNat d.toNat) = utf8 c := by
  rw [encoded, octets, List.map_map]
  exact (List.map_congr_left fun b _ => ofNat_toNat_octet b).trans (List.map_id _)

/-- The characters of a string, from its octets: read, and passed over. A character that is not
ASCII takes as many steps as it has octets, and a pair of surrogates is passed over in two. -/
theorem body_inOctets {fuel f : Nat} {s : List Char} (h : stringBody fuel cs = .ok (s, rest))
    (lt : (inOctets cs).length < f) :
    encodedBody f (inOctets cs) = .ok (s.flatMap utf8, inOctets rest) ∧
      skipBody f (inOctets cs) = .ok (inOctets rest) := by
  induction fuel generalizing cs s f with
  | zero => cases h
  | succ fuel ih =>
    rcases stringBody_cases h with ⟨rfl, rfl⟩ | ⟨c, s', cs₁, rfl, body, plain | escape⟩
    · cases f with
      | zero => cases lt
      | succ f =>
        rw [inOctets_cons (by decide)]
        exact ⟨rfl, rfl⟩
    · obtain ⟨plain, rfl⟩ := plain
      have e : inOctets (c :: cs₁) = encoded c ++ inOctets cs₁ := List.flatMap_cons
      rw [e, List.length_append] at lt
      obtain ⟨g, rfl⟩ := Nat.exists_eq_add_of_lt lt
      obtain ⟨reads, skips⟩ := ih (f := (inOctets cs₁).length + g + 1) body (by omega)
      have fuel : (encoded c).length + (inOctets cs₁).length + g + 1 =
        (inOctets cs₁).length + g + 1 + (encoded c).length := by omega
      rw [e, fuel, encodedBody_plain plain.encoded, skipBody_plain plain.encoded, reads, skips,
        map_encoded]
      exact ⟨rfl, rfl⟩
    · obtain ⟨cs', rfl, escape⟩ := escape
      obtain ⟨front, rfl, takes, k, le, passes⟩ := takes_of_readEscape escape
      rw [inOctets_cons (by decide), inOctets_append takes.1] at lt ⊢
      simp only [List.length_cons, List.length_append] at lt
      constructor
      · obtain ⟨g, rfl⟩ : ∃ g, f = g + 1 := ⟨f - 1, by omega⟩
        obtain ⟨reads, -⟩ := ih (f := g) body (by omega)
        rw [encodedBody, takes.2, ok_bind]
        dsimp only
        rw [reads]
        rfl
      · obtain ⟨g, rfl⟩ : ∃ g, f = g + (k + 1) := ⟨f - (k + 1), by omega⟩
        rw [passes, (ih body (by omega)).2]

theorem fromUTF8?_toUTF8 (s : String) :
    String.fromUTF8? (ByteArray.mk s.toUTF8.toList.toArray) = some s := by
  have bytes : ByteArray.mk s.toUTF8.toList.toArray = s.toByteArray := by
    show ByteArray.mk s.toByteArray.toList.toArray = _
    rw [toList_eq, Array.toArray_toList]
  rw [bytes, String.fromUTF8?, dif_pos s.isValidUTF8]
  rfl

/-- **A string is decoded from the octets of its text**, and passed over in them. -/
theorem readEncoded_inOctets {s : String} (h : readString cs = .ok (s, rest)) :
    readEncoded (inOctets cs) = .ok (s, inOctets rest) ∧
      skipString (inOctets cs) = .ok (inOctets rest) := by
  obtain ⟨⟨s, cs₁⟩, body, h⟩ := bind_eq_ok_iff.1 h
  cases h
  obtain ⟨reads, skips⟩ := body_inOctets body (Nat.lt_succ_self _)
  refine ⟨?_, skips⟩
  have bytes : s.flatMap utf8 = (String.ofList s).toUTF8.toList := by
    rw [toUTF8_toList, String.toList_ofList]
  rw [readEncoded, reads, bytes]
  simp only [bind, Except.bind, fromUTF8?_toUTF8]

theorem length_lt_of_skipBody {fuel : Nat} (h : skipBody fuel cs = .ok rest) :
    rest.length < cs.length := by
  induction fuel generalizing cs with
  | zero => cases h
  | succ fuel ih =>
    rw [skipBody.eq_def] at h
    dsimp only at h
    split at h
    · cases h
    · cases h
      exact Nat.lt_succ_self _
    · obtain ⟨cs', escape, h⟩ := bind_eq_ok_iff.1 h
      exact Nat.lt_succ_of_lt (Nat.lt_trans (ih h) (length_lt_of_skipEscape escape))
    · split_ifs at h
      · cases h
      · exact Nat.lt_succ_of_lt (ih h)

end Strings

end PanelScript.Json

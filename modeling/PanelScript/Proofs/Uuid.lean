import PanelScript.Proofs.Json.Tokens
import PanelScript.Uuid

/-!
# Identifiers read back

An identifier is read back from its grouped form.

* `foldl_hexDigits`: the digits of a number denote it;
* `Uuid.ofGrouped?_group`: dashes in their places change nothing;
* `Uuid.parse?_text`: the identifier is read back.
-/

namespace PanelScript

-- Powers are those of the core library.
attribute [local instance (2000)] instPowNat

/-- The lowest digits of a number to the base sixteen, the highest first, denote what is left of the
number beyond them. -/
theorem foldl_hexDigits (k n : Nat) :
    ((List.range k).map fun i => n / 16 ^ (k - 1 - i) % 16).foldl (fun m d => m * 16 + d) 0 =
      n % 16 ^ k := by
  induction k generalizing n with
  | zero => simp [Nat.mod_one]
  | succ k ih =>
    -- All digits but the last are those of a sixteenth.
    have upper : (List.range k).map (fun i => n / 16 ^ (k + 1 - 1 - i) % 16) =
        (List.range k).map fun i => n / 16 / 16 ^ (k - 1 - i) % 16 := by
      refine List.map_congr_left fun i hi => ?_
      have lt : i < k := List.mem_range.1 hi
      rw [Nat.div_div_eq_div_mul, ← Nat.pow_succ', show (k - 1 - i).succ = k + 1 - 1 - i by omega]
    rw [List.range_succ, List.map_append, List.foldl_append, upper, ih]
    simp only [List.map_cons, List.map_nil, List.foldl_cons, List.foldl_nil, Nat.add_sub_cancel,
      Nat.sub_self, Nat.pow_zero, Nat.div_one]
    rw [Nat.pow_succ', Nat.mod_mul, Nat.add_comm, Nat.mul_comm]

namespace Uuid

theorem length_digits (u : Uuid) : u.digits.length = 32 := by simp [digits]

/-- The digits are read back. -/
theorem ofDigits?_digits (u : Uuid) : ofDigits? u.digits = some u := by
  have values : u.digits.mapM Json.hexValue =
      some ((List.range 32).map fun i => u.bits.toNat / 16 ^ (32 - 1 - i) % 16) := by
    have each : (Json.hexValue ∘ fun i => Json.hexDigit (u.bits.toNat / 16 ^ (31 - i) % 16)) =
        fun i => pure (u.bits.toNat / 16 ^ (31 - i) % 16) :=
      funext fun i => Json.hexValue_hexDigit _ (Nat.mod_lt _ (by decide))
    rw [digits, List.mapM_map, each, List.mapM_pure]
    rfl
  rw [ofDigits?, if_pos u.length_digits, values, Option.map_some, foldl_hexDigits]
  have lt : u.bits.toNat < 16 ^ 32 := u.bits.isLt
  rw [Nat.mod_eq_of_lt lt, BitVec.ofNat_toNat, BitVec.setWidth_eq]

/-- A grouped form is the plain form with dashes. -/
theorem ofGrouped?_eq {cs ds : List Char} (len : cs.length = 36)
    (dashes : cs[8]? = some '-' ∧ cs[13]? = some '-' ∧ cs[18]? = some '-' ∧ cs[23]? = some '-')
    (plain : cs.take 8 ++ (cs.drop 9).take 4 ++ (cs.drop 14).take 4 ++ (cs.drop 19).take 4 ++
      cs.drop 24 = ds) : ofGrouped? cs = ofDigits? ds := by
  rw [ofGrouped?, if_pos ⟨len, dashes⟩, plain]

theorem ofGrouped?_groups {a b c d e : List Char} (ha : a.length = 8) (hb : b.length = 4)
    (hc : c.length = 4) (hd : d.length = 4) (he : e.length = 12) :
    ofGrouped? (a ++ '-' :: b ++ '-' :: c ++ '-' :: d ++ '-' :: e) =
      ofDigits? (a ++ b ++ c ++ d ++ e) := by
  refine ofGrouped?_eq (by simp [ha, hb, hc, hd, he]) ?_ ?_
  · simp [List.getElem?_append, ha, hb, hc, hd]
  · simp (disch := omega) [List.drop_append, List.drop_eq_nil_of_le, ha, hb, hc, hd]

/-- Dashes in their places change nothing. -/
theorem ofGrouped?_group {ds : List Char} (h : ds.length = 32) :
    ofGrouped? (group ds) = ofDigits? ds := by
  have next (n k : Nat) : (ds.drop n).take k ++ ds.drop (n + k) = ds.drop n := by
    rw [← List.drop_drop, List.take_append_drop]
  have whole : ds.take 8 ++ (ds.drop 8).take 4 ++ (ds.drop 12).take 4 ++ (ds.drop 16).take 4 ++
      ds.drop 20 = ds := by
    rw [List.append_assoc, next 16 4, List.append_assoc, next 12 4, List.append_assoc, next 8 4,
      List.take_append_drop]
  unfold group
  rw [ofGrouped?_groups (by simp [h]) (by simp [h]) (by simp [h]) (by simp [h]) (by simp [h]),
    whole]

theorem length_group {ds : List Char} (h : ds.length = 32) : (group ds).length = 36 := by
  simp [group, h]

/-- **An identifier is read back.** -/
theorem parse?_text (u : Uuid) : parse? u.text = some u := by
  have len := length_group u.length_digits
  rw [parse?, text, String.toList_ofList, write, read?, if_neg (by omega), if_pos len,
    ofGrouped?_group u.length_digits, ofDigits?_digits]

end Uuid

end PanelScript

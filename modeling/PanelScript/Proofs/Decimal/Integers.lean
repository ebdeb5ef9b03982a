import Mathlib
import PanelScript.Decimal.Binary64

/-!
# Integers as binary64 numbers

An integer of 64 bits has more bits than a binary64 number keeps. From `2 ^ 53` on the numbers lie
further apart than the integers, and an integer between two of them is lost to one of them.

* `view_ofMagnitude` reads a bit pattern that was put together from a place and a significand;
* `roundDiv` is off by half at most, and is exact for a multiple;
* `toInt64_ofRatio` is a natural number, rounded and read as an integer again;
* `toInt64_ofInt`: how far off an integer of 64 bits then is, and which of them come back.
-/

namespace PanelScript.Binary64

-- Powers are those of the core library.
attribute [local instance (2000)] instPowNat

/-! ### Bit patterns -/

theorem magnitude_ofMagnitude (negative : Bool) {m : Nat} (h : m < 2 ^ 63) :
    (ofMagnitude negative m).magnitude = m := by
  unfold magnitude ofMagnitude
  rw [UInt64.toNat_ofNat']
  cases negative <;> simp only [Bool.false_eq_true, if_true, if_false] <;> omega

theorem negative_ofMagnitude (negative : Bool) {m : Nat} (h : m < 2 ^ 63) :
    (ofMagnitude negative m).negative = negative := by
  unfold Binary64.negative ofMagnitude
  rw [UInt64.toNat_ofNat']
  cases negative <;>
    simp only [Bool.false_eq_true, if_true, if_false, decide_eq_true_eq, decide_eq_false_iff_not] <;>
    omega

theorem view_ofMagnitude (negative : Bool) {place significand : Nat} (low : 2 ^ 52 ≤ significand)
    (high : significand < 2 ^ 53) (le : place ≤ 2045) :
    (ofMagnitude negative (place * 2 ^ 52 + significand)).view =
      .finite negative significand (place + minExponent) := by
  have bounded : place * 2 ^ 52 + significand < infinityMagnitude := by
    unfold infinityMagnitude
    omega
  have small : place * 2 ^ 52 + significand < 2 ^ 63 := by
    unfold infinityMagnitude at bounded
    omega
  unfold view
  rw [magnitude_ofMagnitude negative small, negative_ofMagnitude negative small]
  dsimp only
  rw [if_neg (Nat.lt_asymm bounded), if_neg (Nat.ne_of_lt bounded), if_neg (by omega)]
  congr 1 <;> omega

/-! ### Integer parts -/

theorem scale_natCast (num den k : Nat) : scale num den k = (num * 2 ^ k, den) := by
  simp [scale]

theorem scale_neg_natCast (num den k : Nat) : scale num den (-k) = (num, den * 2 ^ k) := by
  simp [scale]

/-- The integer part of `significand · 2 ^ exponent`. -/
def wholePart (significand : Nat) (exponent : Int) : Nat :=
  (scale significand 1 exponent).1 / (scale significand 1 exponent).2

theorem wholePart_succ (significand : Nat) (exponent : Int) :
    wholePart significand (exponent + 1) = wholePart (2 * significand) exponent := by
  unfold wholePart
  rcases Int.lt_or_le exponent 0 with neg | nonneg
  · obtain ⟨k, rfl⟩ : ∃ k : Nat, exponent = -(k + 1 : Nat) := ⟨(-exponent).toNat - 1, by omega⟩
    have e : -((k + 1 : Nat) : Int) + 1 = -(k : Nat) := by omega
    rw [e, scale_neg_natCast, scale_neg_natCast, Nat.one_mul, Nat.one_mul, Nat.pow_succ,
      Nat.mul_comm (2 ^ k), Nat.mul_div_mul_left _ _ (by decide)]
  · obtain ⟨k, rfl⟩ : ∃ k : Nat, exponent = k := ⟨exponent.toNat, by omega⟩
    have e : (k : Int) + 1 = (k + 1 : Nat) := by omega
    rw [e, scale_natCast, scale_natCast, Nat.pow_succ, Nat.mul_comm 2, Nat.mul_assoc,
      Nat.mul_comm 2]

/-- An integer brought into the range of 64 signed bits. -/
def saturated (n : Int) : Int := max int64Min (min int64Max n)

/-- A natural number with a sign. -/
def signed (negative : Bool) (n : Nat) : Int := if negative then -n else n

theorem toInt64_of_view {x : Binary64} {negative : Bool} {significand : Nat} {exponent : Int}
    (h : x.view = .finite negative significand exponent) :
    x.toInt64 = saturated (signed negative (wholePart significand exponent)) := by
  unfold toInt64
  rw [h]
  simp only [saturated, signed, wholePart, Int.natCast_ediv]

/-- Rounding may have brought the significand up to the next power of two, which stands in the bit
pattern one place higher. -/
theorem toInt64_ofMagnitude (negative : Bool) {place significand : Nat}
    (low : 2 ^ 52 ≤ significand) (high : significand ≤ 2 ^ 53) (le : place ≤ 2044) :
    (ofMagnitude negative (place * 2 ^ 52 + significand)).toInt64 =
      saturated (signed negative (wholePart significand (place + minExponent))) := by
  rcases Nat.lt_or_eq_of_le high with lt | rfl
  · exact toInt64_of_view (view_ofMagnitude negative low lt (by omega))
  · have e : place * 2 ^ 52 + 2 ^ 53 = (place + 1) * 2 ^ 52 + 2 ^ 52 := by omega
    rw [e, toInt64_of_view (view_ofMagnitude negative (Nat.le_refl _) (by decide) (by omega)),
      show (2 : Nat) ^ 53 = 2 * 2 ^ 52 from rfl, ← wholePart_succ]
    congr 3
    omega

/-! ### Rounded quotients -/

section Quotients

variable {n d q : Nat}

theorem roundDiv_cases (n d : Nat) :
    2 * (n % d) ≤ d ∧ roundDiv n d = n / d ∨ d ≤ 2 * (n % d) ∧ roundDiv n d = n / d + 1 := by
  unfold roundDiv
  dsimp only
  split_ifs <;> omega

/-- A rounded quotient is off by half at most. -/
theorem two_mul_natAbs_roundDiv_sub (pos : 0 < d) :
    2 * ((roundDiv n d * d : Nat) - n : Int).natAbs ≤ d := by
  have whole := Nat.div_add_mod' n d
  have lt := Nat.mod_lt n pos
  rcases roundDiv_cases n d with ⟨le, e⟩ | ⟨le, e⟩
  · rw [e]
    omega
  · rw [e, Nat.add_mul, Nat.one_mul]
    generalize n / d * d = m at *
    omega

theorem roundDiv_mul_eq_iff (pos : 0 < d) : roundDiv n d * d = n ↔ d ∣ n := by
  refine ⟨fun e => ⟨_, ((Nat.mul_comm _ _).trans e).symm⟩, ?_⟩
  rintro ⟨q, rfl⟩
  have exact : roundDiv (d * q) d = q := by
    unfold roundDiv
    simp [Nat.mul_div_cancel_left q pos, pos]
  rw [exact, Nat.mul_comm]

theorem roundDiv_one (n : Nat) : roundDiv n 1 = n := by
  rw [← Nat.mul_one (roundDiv n 1), roundDiv_mul_eq_iff Nat.one_pos]
  exact Nat.one_dvd n

theorem le_roundDiv (pos : 0 < d) (h : q * d ≤ n) : q ≤ roundDiv n d := by
  have := (Nat.le_div_iff_mul_le pos).2 h
  rcases roundDiv_cases n d with ⟨-, e⟩ | ⟨-, e⟩ <;> omega

theorem roundDiv_le (pos : 0 < d) (h : n ≤ q * d) : roundDiv n d ≤ q := by
  rcases Nat.lt_or_eq_of_le h with lt | rfl
  · have := (Nat.div_lt_iff_lt_mul pos).2 lt
    rcases roundDiv_cases n d with ⟨-, e⟩ | ⟨-, e⟩ <;> omega
  · exact Nat.le_of_eq (Nat.eq_of_mul_eq_mul_right pos
      ((roundDiv_mul_eq_iff pos).2 (Nat.dvd_mul_left d q)))

end Quotients

/-! ### Integers -/

/-- How far apart the numbers are that lie around a natural number, where they are integers. -/
def spacing (m : Nat) : Nat := 2 ^ (Nat.log2 m - 52)

theorem floorLog2_one {m : Nat} (pos : m ≠ 0) : floorLog2 m 1 = Nat.log2 m := by
  have le := Nat.log2_self_le pos
  have one : Nat.log2 1 = 0 := by decide
  unfold floorLog2
  simp only [one, Int.natCast_zero, Int.sub_zero, scale_neg_natCast, Nat.one_mul]
  rw [if_neg (Nat.not_lt.2 le)]

/-- The rounding of a natural number whose bits reach down to the place `exponent`. -/
theorem toInt64_ofRatio_of_bits (negative : Bool) (exponent : Int) (num den : Nat) {m : Nat}
    (pos : m ≠ 0) (bits : (Nat.log2 m : Int) - 52 = exponent) (low : -52 ≤ exponent)
    (high : exponent ≤ 12)
    (scaled : scale m 1 (-exponent) = (num, den)) (least : 2 ^ 52 ≤ roundDiv num den)
    (greatest : roundDiv num den ≤ 2 ^ 53) :
    (ofRatio negative m 1).toInt64 =
      saturated (signed negative (wholePart (roundDiv num den) exponent)) := by
  obtain ⟨place, rfl⟩ : ∃ place : Nat, exponent = place + minExponent :=
    ⟨(exponent - minExponent).toNat, by unfold minExponent; omega⟩
  have kept : max ((Nat.log2 m : Int) - 52) minExponent = place + minExponent := by omega
  have up : ((place : Int) + minExponent - minExponent).toNat = place := by omega
  have le : place ≤ 1086 := by
    unfold minExponent at high
    omega
  have bounded : place * 2 ^ 52 + roundDiv num den ≤ infinityMagnitude := by
    unfold infinityMagnitude
    omega
  rw [ofRatio, if_neg pos, floorLog2_one pos]
  simp only [kept, up, scaled]
  rw [Nat.min_eq_left bounded, toInt64_ofMagnitude negative least greatest (by omega)]

/-- A natural number of 64 bits, rounded and read as an integer again. -/
theorem toInt64_ofRatio (negative : Bool) {m : Nat} (h : m < 2 ^ 64) :
    (ofRatio negative m 1).toInt64 =
      saturated (signed negative (roundDiv m (spacing m) * spacing m)) := by
  by_cases zero : m = 0
  · subst zero
    cases negative <;> decide +kernel
  have least := Nat.log2_self_le zero
  have greatest := Nat.lt_log2_self (n := m)
  have bits : Nat.log2 m < 64 := (Nat.log2_lt zero).2 h
  unfold spacing
  rcases Nat.lt_or_ge (Nat.log2 m) 52 with lt | ge
  · -- All bits are kept, and some more are there.
    obtain ⟨j, hj⟩ : ∃ j, Nat.log2 m + j = 52 := ⟨52 - Nat.log2 m, by omega⟩
    have low := Nat.mul_le_mul_right (2 ^ j) least
    have high := Nat.mul_lt_mul_of_pos_right greatest (Nat.two_pow_pos j)
    rw [← Nat.pow_add, hj] at low
    rw [← Nat.pow_add, Nat.add_right_comm, hj] at high
    rw [toInt64_ofRatio_of_bits negative (-j) (m * 2 ^ j) 1 zero
      (by omega) (by omega) (by omega) (by rw [Int.neg_neg, scale_natCast])
      (by rwa [roundDiv_one]) (by rw [roundDiv_one]; exact Nat.le_of_lt high),
      roundDiv_one, wholePart, scale_neg_natCast, Nat.one_mul,
      Nat.mul_div_cancel _ (Nat.two_pow_pos j), Nat.sub_eq_zero_of_le (Nat.le_of_lt lt),
      Nat.pow_zero, roundDiv_one, Nat.mul_one]
  · obtain ⟨k, hk⟩ : ∃ k, Nat.log2 m = 52 + k := ⟨Nat.log2 m - 52, by omega⟩
    have low : 2 ^ 52 * 2 ^ k ≤ m := by rwa [← Nat.pow_add, ← hk]
    have high : m < 2 ^ 53 * 2 ^ k := by rwa [← Nat.pow_add, Nat.add_right_comm 52 1, ← hk]
    have pos := Nat.two_pow_pos k
    rw [toInt64_ofRatio_of_bits negative k m (1 * 2 ^ k) zero
      (by omega) (by omega) (by omega) (scale_neg_natCast m 1 k)
      (by rw [Nat.one_mul]; exact le_roundDiv pos low)
      (by rw [Nat.one_mul]; exact roundDiv_le pos (Nat.le_of_lt high)),
      wholePart, scale_natCast, Nat.div_one, Nat.one_mul, hk, Nat.add_sub_cancel_left]

/-- Rounding does not lead past `2 ^ 63`. -/
theorem roundDiv_mul_spacing_le {m : Nat} (h : m ≤ 2 ^ 63) :
    roundDiv m (spacing m) * spacing m ≤ 2 ^ 63 := by
  have bits : Nat.log2 m < 64 := by
    by_cases zero : m = 0
    · subst zero
      decide
    · exact (Nat.log2_lt zero).2 (by omega)
  have split : 2 ^ (63 - (Nat.log2 m - 52)) * spacing m = 2 ^ 63 := by
    rw [spacing, ← Nat.pow_add, show 63 - (Nat.log2 m - 52) + (Nat.log2 m - 52) = 63 by omega]
  rw [← split] at h ⊢
  exact Nat.mul_le_mul_right _ (roundDiv_le (Nat.two_pow_pos _) h)

/-- **An integer of 64 bits that is rounded and read as an integer again** is off by at most half
the distance of the numbers around it. It comes back exactly if it is a multiple of that distance,
or is the greatest of all, to which everything beyond is brought back. -/
theorem toInt64_ofInt {n : Int} (low : int64Min ≤ n) (high : n ≤ int64Max) :
    2 * ((ofInt n).toInt64 - n).natAbs ≤ spacing n.natAbs ∧
      ((ofInt n).toInt64 = n ↔ (spacing n.natAbs : Int) ∣ n ∨ n = int64Max) := by
  by_cases greatest : n = int64Max
  · subst greatest
    decide +kernel
  unfold int64Min at low
  unfold int64Max at high greatest
  have near := two_mul_natAbs_roundDiv_sub (n := n.natAbs) (Nat.two_pow_pos (n.natAbs.log2 - 52))
  have exact := roundDiv_mul_eq_iff (n := n.natAbs) (Nat.two_pow_pos (n.natAbs.log2 - 52))
  have le := roundDiv_mul_spacing_le (m := n.natAbs) (by omega)
  rw [Int.ofNat_dvd_left, ofInt, toInt64_ofRatio _ (by omega)]
  rw [← spacing] at near exact
  rw [← exact]
  unfold saturated signed int64Min int64Max
  generalize roundDiv n.natAbs (spacing n.natAbs) * spacing n.natAbs = m at *
  by_cases neg : n < 0
  · simp only [neg, decide_true, if_true]
    omega
  · simp only [neg, decide_false, Bool.false_eq_true, if_false]
    omega

end PanelScript.Binary64

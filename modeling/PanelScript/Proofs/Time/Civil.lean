import PanelScript.Time.Civil

/-!
# Dates and their numbers

Every number is the number of a date that the calendar has.

* `Date.yearStart` is the number of days before a year from March, `Date.yearAt` the year of a cycle
  that a day of it is in;
* `Date.ofDays_eq` takes a number apart into year and day of the year, both from March;
* `Date.days_ofDays`: the date with a number has that number;
* `Date.ofYmd?_ofDays`: the calendar has it, and `Date.year_ofDays` bounds its year.
-/

namespace PanelScript.Date

/-! ### Years from March -/

/-- The days from the beginning of the cycles to the beginning of a year from March. -/
def yearStart (y : Int) : Int := 365 * y + y / 4 - y / 100 + y / 400

/-- The year of a cycle that a day of the cycle is in. -/
def yearAt (day : Int) : Int := (day - day / 1460 + day / 36524 - day / 146096) / 365

theorem yearStart_eq (y : Int) : yearStart y =
    y / 400 * cycle + (y % 400 * 365 + y % 400 / 4 - y % 400 / 100) := by
  unfold yearStart cycle
  omega

theorem yearStart_add (era y : Int) : yearStart (y + era * 400) = yearStart y + era * cycle := by
  unfold yearStart cycle
  omega

/-- A year from March has as many days as the calendar year that it ends in. -/
theorem yearStart_succ (y : Int) :
    yearStart (y + 1) = yearStart y + if isLeap (y + 1) then 366 else 365 := by
  unfold yearStart isLeap
  split
  · rename_i leap
    simp at leap
    omega
  · rename_i common
    simp at common
    omega

theorem yearStart_mono {y z : Int} (h : y ≤ z) : yearStart y ≤ yearStart z := by
  unfold yearStart
  omega

theorem yearAt_succ (day : Int) : yearAt day ≤ yearAt (day + 1) := by
  have quads : (day + 1) / 1460 ≤ day / 1460 + 1 := by omega
  have centuries :
      (day + 1) / 146096 - day / 146096 ≤ (day + 1) / 36524 - day / 36524 := by
    have split (d : Int) : d / 146096 = d / 36524 / 4 := by omega
    have : day / 36524 ≤ (day + 1) / 36524 := Int.ediv_le_ediv (by decide) (by omega)
    rw [split, split]
    generalize day / 36524 = j at *
    generalize (day + 1) / 36524 = j' at *
    omega
  unfold yearAt
  refine Int.ediv_le_ediv (by decide) ?_
  generalize (day + 1) / 1460 = a, day / 1460 = b, (day + 1) / 146096 = c, day / 146096 = d,
    (day + 1) / 36524 = e, day / 36524 = f at *
  omega

theorem yearAt_mono {day day' : Int} (h : day ≤ day') : yearAt day ≤ yearAt day' := by
  obtain ⟨n, rfl⟩ := Int.le.dest h
  clear h
  induction n with
  | zero => simp
  | succ n ih =>
    refine Int.le_trans ih ?_
    have := yearAt_succ (day + n)
    rwa [Int.add_assoc] at this

/-- The first and the last day of each year of a cycle are in it. -/
theorem yearAt_ends : ∀ y : Nat, y < 400 →
    yearAt (yearStart y) = y ∧ yearAt (yearStart (y + 1) - 1) = y := by
  decide +kernel

/-- A day of a cycle is in the year that it is said to be in. -/
theorem yearAt_spec {day : Int} (h : 0 ≤ day) (h' : day < cycle) :
    (0 ≤ yearAt day ∧ yearAt day < 400) ∧
      yearStart (yearAt day) ≤ day ∧ day < yearStart (yearAt day + 1) := by
  have low : 0 ≤ yearAt day := yearAt_mono h
  have high : yearAt day ≤ 399 := show _ ≤ yearAt (cycle - 1) from yearAt_mono (by omega)
  refine ⟨⟨low, by omega⟩, ?_, ?_⟩
  · -- A day before the year would be in an earlier one.
    refine Int.not_lt.1 fun before => ?_
    obtain ⟨y, hy⟩ := Int.eq_ofNat_of_zero_le low
    cases y with
    | zero =>
      rw [hy] at before
      exact absurd before (Int.not_lt.2 h)
    | succ y =>
      have last := (yearAt_ends y (by omega)).2
      have := yearAt_mono (Int.le_sub_one_of_lt before)
      rw [show yearAt day = (y : Int) + 1 from hy, last] at this
      omega
  · -- A day behind the year would be in a later one.
    refine Int.not_le.1 fun behind => ?_
    obtain ⟨y, hy⟩ := Int.eq_ofNat_of_zero_le low
    rcases Int.lt_or_eq_of_le high with lt | eq
    · have first := (yearAt_ends (y + 1) (by omega)).1
      have := yearAt_mono behind
      rw [hy, show (y : Int) + 1 = (y + 1 : Nat) from rfl, first] at this
      omega
    · rw [eq] at behind
      exact absurd h' (Int.not_lt.2 behind)

/-! ### Dates from March -/

/-- The date of a day, from zero, of a year from March. -/
def ofMarch (y doy : Int) : Date :=
  let fromMarch := (5 * doy + 2) / 153
  let day := doy - (153 * fromMarch + 2) / 5 + 1
  let month := if fromMarch < 10 then fromMarch + 3 else fromMarch - 9
  ⟨if month ≤ 2 then y + 1 else y, month.toNat, day.toNat⟩

/-- The date with a number is found by its year from March and its day there. -/
theorem ofDays_eq (n : Int) : ∃ y doy, ofDays n = ofMarch y doy ∧ n + epoch = yearStart y + doy ∧
    0 ≤ doy ∧ yearStart y + doy < yearStart (y + 1) := by
  have pos : (0 : Int) < cycle := by decide
  obtain ⟨⟨low, high⟩, first, last⟩ :=
    yearAt_spec (Int.emod_nonneg (n + epoch) (Int.ne_of_gt pos)) (Int.emod_lt_of_pos _ pos)
  have whole := Int.mul_ediv_add_emod (n + epoch) cycle
  have year : ofDays n = ofMarch (yearAt ((n + epoch) % cycle) + (n + epoch) / cycle * 400)
      ((n + epoch) % cycle - yearStart (yearAt ((n + epoch) % cycle))) := by
    generalize e : yearAt ((n + epoch) % cycle) = y at *
    have inCycle : 365 * y + y / 4 - y / 100 = yearStart y := by
      unfold yearStart
      omega
    rw [← inCycle, ← e]
    rfl
  refine ⟨_, _, year, ?_, by omega, ?_⟩
  · rw [yearStart_add]
    rw [Int.mul_comm] at whole
    omega
  · rw [yearStart_add, Int.add_right_comm (yearAt _), yearStart_add]
    omega

/-- The months from March begin where the calendar has them. -/
theorem march_spec {doy : Int} (h : 0 ≤ doy) (h' : doy < 366) {m : Int}
    (hm : m = (5 * doy + 2) / 153) :
    0 ≤ m ∧ m ≤ 11 ∧ (153 * m + 2) / 5 ≤ doy ∧ doy < (153 * (m + 1) + 2) / 5 := by
  omega

/-- What `ofMarch` gives, by the number of the month from March. -/
theorem ofMarch_eq {doy : Int} (h : 0 ≤ doy) (h' : doy < 366) (y : Int) : ∃ m day : Nat,
    (153 * m + 2) / 5 + day = doy + 1 ∧ 1 ≤ day ∧ doy < (153 * (m + 1) + 2) / 5 ∧
      (m < 10 ∧ ofMarch y doy = ⟨y, m + 3, day⟩ ∨
        10 ≤ m ∧ m < 12 ∧ ofMarch y doy = ⟨y + 1, m - 9, day⟩) := by
  obtain ⟨low, high, first, last⟩ := march_spec h h' rfl
  unfold ofMarch
  generalize (5 * doy + 2) / 153 = k at *
  obtain ⟨m, rfl⟩ := Int.eq_ofNat_of_zero_le low
  obtain ⟨day, hday⟩ :=
    Int.eq_ofNat_of_zero_le (show 0 ≤ doy - (153 * (m : Int) + 2) / 5 + 1 by omega)
  refine ⟨m, day, by omega, by omega, last, ?_⟩
  dsimp only
  rw [hday]
  by_cases hm : m < 10
  · refine .inl ⟨hm, ?_⟩
    rw [if_pos (show (m : Int) < 10 by omega), if_neg (show ¬ (m : Int) + 3 ≤ 2 by omega)]
    rfl
  · have month : ((m : Int) - 9).toNat = m - 9 := by omega
    refine .inr ⟨by omega, by omega, ?_⟩
    rw [if_neg (show ¬ (m : Int) < 10 by omega), if_pos (show (m : Int) - 9 ≤ 2 by omega), month]
    rfl

theorem days_ofMarch {y doy : Int} (h : 0 ≤ doy) (h' : doy < 366) :
    (ofMarch y doy).days = yearStart y + doy - epoch := by
  obtain ⟨m, day, hday, one, last, ⟨lt, e⟩ | ⟨ge, lt, e⟩⟩ := ofMarch_eq h h' y
  · have month : ((((m + 3 : Nat) : Int) + 9) % 12) = m := by omega
    rw [e, days, dayOfYear, month, yearStart_eq, if_neg (show ¬ m + 3 ≤ 2 by omega)]
    dsimp only
    omega
  · have month : ((((m - 9 : Nat) : Int) + 9) % 12) = m := by omega
    rw [e, days, dayOfYear, month, yearStart_eq, if_pos (show m - 9 ≤ 2 by omega)]
    dsimp only
    rw [Int.add_sub_cancel]
    omega

/-- A year from March has no day behind its 366th. -/
theorem lt_of_yearStart {y doy : Int} (h : yearStart y + doy < yearStart (y + 1)) : doy < 366 := by
  rw [yearStart_succ] at h
  split at h <;> omega

theorem ofYmd?_eq {d : Date} (month : 1 ≤ d.month ∧ d.month ≤ 12)
    (day : 1 ≤ d.day ∧ d.day ≤ daysInMonth d.year d.month) :
    ofYmd? d.year d.month d.day = some d := by
  rw [ofYmd?, if_pos ⟨month.1, month.2, day⟩]

/-- The months from March to December, in days. -/
theorem daysInMonth_march (year : Int) {m : Nat} (h : m < 10) :
    (daysInMonth year (m + 3) : Int) = (153 * (m + 1) + 2) / 5 - (153 * m + 2) / 5 := by
  unfold daysInMonth
  rw [if_neg (by omega)]
  rcases Nat.lt_or_ge m 5 with early | late <;> split <;> omega

/-- The calendar has the date of a day of a year from March. -/
theorem ofYmd?_ofMarch {y doy : Int} (h : 0 ≤ doy)
    (h' : yearStart y + doy < yearStart (y + 1)) :
    ofYmd? (ofMarch y doy).year (ofMarch y doy).month (ofMarch y doy).day =
      some (ofMarch y doy) := by
  obtain ⟨m, day, hday, one, last, ⟨lt, e⟩ | ⟨ge, lt, e⟩⟩ := ofMarch_eq h (lt_of_yearStart h') y
  · rw [e]
    refine ofYmd?_eq ⟨by simp, by simp; omega⟩ ⟨one, ?_⟩
    have := daysInMonth_march y lt
    dsimp only
    omega
  · rw [e]
    refine ofYmd?_eq ⟨by simp; omega, by simp; omega⟩ ⟨one, ?_⟩
    rw [yearStart_succ] at h'
    obtain rfl | rfl : m = 10 ∨ m = 11 := by omega
    · show day ≤ 31
      omega
    · show day ≤ if isLeap (y + 1) then 29 else 28
      split at h' <;> simp_all <;> omega

/-- A date of a calendar year lies between its new year and the next. -/
theorem ofMarch_year {y doy : Int} (h : 0 ≤ doy) (h' : yearStart y + doy < yearStart (y + 1)) :
    yearStart ((ofMarch y doy).year - 1) + 306 ≤ yearStart y + doy ∧
      yearStart y + doy < yearStart (ofMarch y doy).year + 306 := by
  have succ := yearStart_succ (y - 1)
  rw [Int.sub_add_cancel] at succ
  have : yearStart (y - 1) + 365 ≤ yearStart y := by
    rw [succ]
    split <;> omega
  obtain ⟨m, day, hday, one, last, ⟨lt, e⟩ | ⟨ge, lt, e⟩⟩ := ofMarch_eq h (lt_of_yearStart h') y
  · rw [e]
    dsimp only
    omega
  · rw [e]
    dsimp only
    rw [Int.add_sub_cancel]
    omega

/-! ### Numbers of days -/

/-- **The date with a number has that number.** -/
theorem days_ofDays (n : Int) : (ofDays n).days = n := by
  obtain ⟨y, doy, e, number, low, high⟩ := ofDays_eq n
  rw [e, days_ofMarch low (lt_of_yearStart high)]
  omega

/-- **The calendar has the date with a number.** -/
theorem ofYmd?_ofDays (n : Int) :
    ofYmd? (ofDays n).year (ofDays n).month (ofDays n).day = some (ofDays n) := by
  obtain ⟨y, doy, e, -, low, high⟩ := ofDays_eq n
  rw [e]
  exact ofYmd?_ofMarch low high

/-- The number of a new year. -/
theorem days_newYear (year : Int) : days ⟨year, 1, 1⟩ = yearStart (year - 1) + 306 - epoch := by
  rw [days, dayOfYear, if_pos (show 1 ≤ 2 by decide), yearStart_eq]
  dsimp only
  omega

/-- **The date with a number between two new years is of one of the years between them.** -/
theorem year_ofDays {n year year' : Int} (h : days ⟨year, 1, 1⟩ ≤ n) (h' : n < days ⟨year', 1, 1⟩) :
    year ≤ (ofDays n).year ∧ (ofDays n).year < year' := by
  obtain ⟨y, doy, e, number, low, high⟩ := ofDays_eq n
  obtain ⟨first, last⟩ := ofMarch_year low high
  rw [days_newYear] at h h'
  rw [e]
  refine ⟨Int.not_lt.1 fun before => ?_, Int.not_le.1 fun behind => ?_⟩
  · have := yearStart_mono (Int.le_sub_one_of_lt before)
    omega
  · have := yearStart_mono (Int.sub_le_sub_right behind 1)
    omega

end PanelScript.Date

import PanelScript.Proofs.Time.Civil
import PanelScript.Time.Timestamp

/-!
# Timestamps read back

A moment in the years that are kept is read back from its RFC 3339 form, a leap second and a year
of more than four digits too. Only a second that was inserted within a minute has no form of its own:
it is written, and so read back, as the second behind it.

* `readDigits_append`: digits are read up to a width, or to where they end;
* `read?_write` takes the written form apart into year, month, day, time of day and fraction;
* `ofParts?_parts` puts the moment together again;
* `Timestamp.settled` is a moment as it is read back, `text_settled` says that it is written alike;
* `Timestamp.parse?_text`: what is read back, and by `Timestamp.isValid_of_parse?` no other moment
  is read from any text.
-/

namespace PanelScript.Timestamp

-- Powers are those of the core library.
attribute [local instance (2000)] instPowNat

/-! ### Digits -/

theorem isBlank_of_isDigit {c : Char} (h : c.isDigit = true) : isBlank c = false := by
  have range : 48 ≤ c.toNat ∧ c.toNat ≤ 57 := Char.isDigit_iff_toNat.1 h
  simp [isBlank]
  omega

theorem trimBlankLeft_cons {c : Char} (h : isBlank c = false) (cs : List Char) :
    trimBlankLeft (c :: cs) = c :: cs := by
  rw [trimBlankLeft, List.dropWhile_cons_of_neg (by simp [h])]

theorem isDigit_of_mem_padded {width n : Nat} : ∀ c ∈ padded width n, c.isDigit = true := by
  intro c hc
  rcases List.mem_append.1 hc with zero | digit
  · rw [List.eq_of_mem_replicate zero]
    rfl
  · exact Nat.isDigit_of_mem_toDigits (by decide) (by decide) digit

/-- Zeros in front change nothing. -/
theorem ofDigitChars_padded (width n : Nat) : Nat.ofDigitChars 10 (padded width n) 0 = n := by
  rw [padded, Nat.ofDigitChars_append, Nat.ofDigitChars_replicate_zero, Nat.mul_zero,
    Nat.ofDigitChars_ten_toDigits]

theorem length_padded {width n : Nat} (pos : 0 < width) (h : n < 10 ^ width) :
    (padded width n).length = width := by
  have := (Nat.length_toDigits_le_iff (by decide) pos).2 h
  rw [padded, List.length_append, List.length_replicate]
  omega

/-- What is padded begins with a digit. -/
theorem padded_cases (width n : Nat) : ∃ c ds, padded width n = c :: ds ∧ c.isDigit = true := by
  cases e : padded width n with
  | nil => exact absurd (List.append_eq_nil_iff.1 e).2 Nat.toDigits_ne_nil
  | cons c ds => exact ⟨c, ds, rfl, isDigit_of_mem_padded c (e ▸ List.mem_cons_self)⟩

/-- What is padded begins with no sign. -/
theorem padded_append_ne {width n : Nat} {sign : Char} (h : sign.isDigit = false)
    {rest cs : List Char} : padded width n ++ rest ≠ sign :: cs := by
  obtain ⟨c, ds, e, digit⟩ := padded_cases width n
  intro same
  rw [e] at same
  rw [(List.cons.inj same).1, h] at digit
  cases digit

theorem trimBlankLeft_padded (width n : Nat) (rest : List Char) :
    trimBlankLeft (padded width n ++ rest) = padded width n ++ rest := by
  obtain ⟨c, ds, e, digit⟩ := padded_cases width n
  rw [e]
  exact trimBlankLeft_cons (isBlank_of_isDigit digit) _

/-- Digits are taken up to a width, or to where they end. -/
theorem takeWhile_take_append {width : Nat} {ds rest : List Char}
    (digits : ∀ c ∈ ds, c.isDigit = true) (le : ds.length ≤ width)
    (ends : ds.length = width ∨ ∀ c ∈ rest.head?, c.isDigit = false) :
    ((ds ++ rest).take width).takeWhile Char.isDigit = ds := by
  rw [List.take_append, List.take_of_length_le le, List.takeWhile_append_of_pos digits]
  have nothing : (rest.take (width - ds.length)).takeWhile Char.isDigit = [] := by
    rcases ends with rfl | ends
    · simp
    · cases rest with
      | nil => simp
      | cons c rest =>
        cases width - ds.length with
        | zero => rfl
        | succ k => simp [ends c rfl]
  rw [nothing, List.append_nil]

theorem readDigits_append {width : Nat} {ds rest : List Char} (nonempty : ds ≠ [])
    (digits : ∀ c ∈ ds, c.isDigit = true) (le : ds.length ≤ width)
    (ends : ds.length = width ∨ ∀ c ∈ rest.head?, c.isDigit = false) :
    readDigits width (ds ++ rest) = some (Nat.ofDigitChars 10 ds 0, rest) := by
  have empty : ds.isEmpty = false := by
    cases ds with
    | nil => exact absurd rfl nonempty
    | cons => rfl
  have value : ds.foldl (fun n c => n * 10 + (c.toNat - '0'.toNat)) 0 =
      Nat.ofDigitChars 10 ds 0 := by
    simp only [Nat.ofDigitChars_eq_foldl, Nat.mul_comm]
  unfold readDigits
  rw [takeWhile_take_append digits le ends]
  simp only [empty, Bool.false_eq_true, if_false, value, List.drop_left]

/-- A number that is padded is read back. -/
theorem readDigits_padded {width w n : Nat} {rest : List Char}
    (le : (padded w n).length ≤ width)
    (ends : (padded w n).length = width ∨ ∀ c ∈ rest.head?, c.isDigit = false) :
    readDigits width (padded w n ++ rest) = some (n, rest) := by
  obtain ⟨c, ds, e, -⟩ := padded_cases w n
  rw [readDigits_append (by simp [e]) isDigit_of_mem_padded le ends, ofDigitChars_padded]

/-! ### Parts -/

theorem readPart_padded {n : Nat} (h : n < 100) (rest : List Char) :
    readPart (padded 2 n ++ rest) = some (n, rest) := by
  have length : (padded 2 n).length = 2 := length_padded (by decide) h
  rw [readPart, trimBlankLeft_padded, readDigits_padded (by omega) (.inl length)]

/-- A number behind a sign is read to its end. -/
theorem readDigits_signed (n : Nat) (rest : List Char) :
    readDigits (padded 4 n ++ '-' :: rest).length (padded 4 n ++ '-' :: rest) =
      some (n, '-' :: rest) := by
  refine readDigits_padded (by simp) (.inr ?_)
  rintro c ⟨⟩
  rfl

theorem readYear_yearText (year : Int) (rest : List Char) :
    readYear (yearText year ++ '-' :: rest) = some (year, '-' :: rest) := by
  unfold yearText
  split
  · rename_i range
    have length : (padded 4 year.toNat).length = 4 := length_padded (by decide) (by omega)
    have read : readDigits 4 (padded 4 year.toNat ++ '-' :: rest) =
        some (year.toNat, '-' :: rest) := readDigits_padded (by omega) (.inl length)
    have back : (year.toNat : Int) = year := Int.toNat_of_nonneg range.1
    rw [readYear, trimBlankLeft_padded]
    split
    · rename_i same
      exact absurd same (padded_append_ne (by decide))
    · rename_i same
      exact absurd same (padded_append_ne (by decide))
    · rw [read]
      exact congrArg (fun y => some (y, '-' :: rest)) back
  · rename_i range
    split
    · rename_i negative
      have back : -(year.natAbs : Int) = year := by omega
      rw [List.cons_append, readYear, trimBlankLeft_cons (by decide)]
      show (readDigits _ _).map _ = _
      rw [readDigits_signed]
      exact congrArg (fun y => some (y, '-' :: rest)) back
    · rename_i positive
      have back : (year.natAbs : Int) = year := by omega
      rw [List.cons_append, readYear, trimBlankLeft_cons (by decide)]
      show (readDigits _ _).map _ = _
      rw [readDigits_signed]
      exact congrArg (fun y => some (y, '-' :: rest)) back

theorem readFraction_padded {w k : Nat} (pos : 0 < w) (le : w ≤ 9) (h : k < 10 ^ w) :
    readFraction ('.' :: padded w k ++ ['Z']) = some (k * 10 ^ (9 - w), ['Z']) := by
  have length : (padded w k).length = w := length_padded pos h
  have ends : ∀ c ∈ ['Z'].head?, c.isDigit = false := by
    rintro c ⟨⟩
    rfl
  rw [List.cons_append, readFraction, readDigits_padded (by omega) (.inr ends),
    takeWhile_take_append isDigit_of_mem_padded (by omega) (.inr ends), length]
  rfl

/-- Cut-off zeros of a fraction come back. -/
theorem readFraction_fractionText (t : Timestamp) :
    readFraction (t.fractionText ++ ['Z']) = some (t.nanos % nanosPerSecond, ['Z']) := by
  have lt : t.nanos % nanosPerSecond < 1000000000 := Nat.mod_lt _ (by decide)
  unfold fractionText
  generalize t.nanos % nanosPerSecond = n at *
  dsimp only
  split
  · rename_i zero
    rw [zero]
    rfl
  · split
    · rw [readFraction_padded (by decide) (by decide) (by omega)]
      congr 2
      omega
    · split
      · rw [readFraction_padded (by decide) (by decide) (by omega)]
        congr 2
        omega
      · rw [readFraction_padded (by decide) (by decide) (by omega)]
        congr 2
        omega

/-! ### The whole -/

variable {t : Timestamp}

theorem secondOfDay_lt (t : Timestamp) : t.secondOfDay < 86400 := by
  have : t.seconds % secondsPerDay < 86400 := Int.emod_lt_of_pos _ (by decide)
  unfold secondOfDay
  omega

/-- The second of the day is what the days leave of the seconds. -/
theorem seconds_eq (t : Timestamp) :
    t.seconds / secondsPerDay * secondsPerDay + t.secondOfDay = t.seconds := by
  unfold secondOfDay secondsPerDay
  omega

/-- The number of the second in its minute, as it is written. -/
def shownSecond (t : Timestamp) : Nat := t.secondOfDay % 60 + t.nanos / nanosPerSecond

/-- The sixtieth second is a leap second, and no other one is. -/
theorem shownSecond_cases (h : t.IsValid) (regular : t.IsRegular) :
    (t.shownSecond = t.secondOfDay % 60 ∧ t.nanos % nanosPerSecond = t.nanos) ∨
      t.shownSecond = 60 ∧ t.secondOfDay % 60 = 59 ∧
        t.nanos % nanosPerSecond + nanosPerSecond = t.nanos := by
  have minute : (t.secondOfDay % 60 : Int) = t.seconds % 60 := by
    unfold secondOfDay secondsPerDay
    omega
  have below := h.2.2
  unfold IsRegular at regular
  unfold shownSecond nanosPerSecond at *
  omega

/-- The calendar has the date of a moment. -/
theorem date_spec (t : Timestamp) : 1 ≤ t.date.month ∧ t.date.month ≤ 12 ∧ 1 ≤ t.date.day ∧
    t.date.day ≤ Date.daysInMonth t.date.year t.date.month := by
  have calendar := Date.ofYmd?_ofDays (t.seconds / secondsPerDay)
  unfold Date.ofYmd? at calendar
  split at calendar
  · assumption
  · cases calendar

theorem readMark_cons {mark : Char} (h : isBlank mark = false) (rest : List Char) :
    readMark mark (trimBlankLeft (mark :: rest)) = some rest := by
  rw [trimBlankLeft_cons h, readMark, if_pos rfl]

/-- The written form is taken apart. -/
theorem read?_write (h : t.IsValid) (regular : t.IsRegular) :
    read? t.write = ofParts? t.date.year t.date.month t.date.day (t.secondOfDay / 3600)
      (t.secondOfDay / 60 % 60) t.shownSecond (t.nanos % nanosPerSecond) 0 := by
  obtain ⟨-, months, -, days⟩ := t.date_spec
  have month : t.date.month < 100 := Nat.lt_of_le_of_lt months (by decide)
  have day : t.date.day < 100 := by
    unfold Date.daysInMonth at days
    split at days <;> split at days <;> omega
  have hour : t.secondOfDay / 3600 < 100 := by
    have := t.secondOfDay_lt
    omega
  have minute : t.secondOfDay / 60 % 60 < 100 := by omega
  have second : t.shownSecond < 100 := by
    rcases shownSecond_cases h regular with ⟨e, -⟩ | ⟨e, -⟩ <;> omega
  have parts : t.write = yearText t.date.year ++ '-' :: (padded 2 t.date.month ++ '-' ::
      (padded 2 t.date.day ++ 'T' :: (padded 2 (t.secondOfDay / 3600) ++ ':' ::
        (padded 2 (t.secondOfDay / 60 % 60) ++ ':' ::
          (padded 2 t.shownSecond ++ (t.fractionText ++ ['Z'])))))) := by
    simp [write, dateText, clockText, shownSecond]
  have dash (cs : List Char) : readMark '-' (trimBlankLeft ('-' :: cs)) = some cs :=
    readMark_cons (by decide) cs
  have colon (cs : List Char) : readMark ':' (trimBlankLeft (':' :: cs)) = some cs :=
    readMark_cons (by decide) cs
  have separator (cs : List Char) : readSeparator ('T' :: cs) = some cs := rfl
  have offset : readOffset (trimBlankLeft ['Z']) = some (0, []) := rfl
  have go_on {α : Type} {x : Option α} {a : α} (e : x = some a) (f : α → Option Timestamp) :
      (x >>= f) = f a := by
    rw [e]
    rfl
  rw [parts, read?]
  refine (go_on (readYear_yearText ..) _).trans ?_
  refine (go_on (dash _) _).trans <| (go_on (readPart_padded month ..) _).trans ?_
  refine (go_on (dash _) _).trans <| (go_on (readPart_padded day ..) _).trans ?_
  refine (go_on (separator _) _).trans <| (go_on (readPart_padded hour ..) _).trans ?_
  refine (go_on (colon _) _).trans <| (go_on (readPart_padded minute ..) _).trans ?_
  refine (go_on (colon _) _).trans <| (go_on (readPart_padded second ..) _).trans ?_
  refine (go_on (readFraction_fractionText t) _).trans <| (go_on offset _).trans ?_
  rfl

/-- The parts of a moment are put together to it. -/
theorem ofParts?_parts (h : t.IsValid) (regular : t.IsRegular) :
    ofParts? t.date.year t.date.month t.date.day (t.secondOfDay / 3600)
      (t.secondOfDay / 60 % 60) t.shownSecond (t.nanos % nanosPerSecond) 0 = some t := by
  have calendar : Date.ofYmd? t.date.year t.date.month t.date.day = some t.date :=
    Date.ofYmd?_ofDays _
  have number : t.date.days = t.seconds / secondsPerDay := Date.days_ofDays _
  have years : Date.minYear ≤ t.date.year ∧ t.date.year < Date.maxYear + 1 := by
    obtain ⟨low, high, -⟩ := h
    exact Date.year_ofDays (Int.le_ediv_of_mul_le (by decide) low)
      (Int.ediv_lt_of_lt_mul (by decide) high)
  have clock := t.secondOfDay_lt
  -- The sixtieth second is kept as the one before it.
  have moment : (⟨t.date.days * secondsPerDay + (t.secondOfDay / 3600 : Nat) * 3600 +
      (t.secondOfDay / 60 % 60 : Nat) * 60 + (min t.shownSecond 59 : Nat) - 0,
      t.nanos % nanosPerSecond + if t.shownSecond = 60 then nanosPerSecond else 0⟩ : Timestamp) =
      t := by
    have seconds := t.seconds_eq
    rw [number]
    rcases shownSecond_cases h regular with ⟨shown, nanos⟩ | ⟨shown, last, nanos⟩
    · rw [shown, if_neg (by omega), Nat.add_zero, nanos]
      congr 1
      omega
    · rw [shown, if_pos rfl, nanos]
      congr 1
      omega
  rw [ofParts?, calendar]
  show (if _ then some _ else none) = _
  rw [moment, if_pos]
  refine ⟨years.1, Int.le_of_lt_add_one years.2, by omega, by omega, ?_,
    Nat.mod_lt _ (by decide), by decide, h⟩
  rcases shownSecond_cases h regular with ⟨e, -⟩ | ⟨e, -⟩ <;> omega

/-! ### What is read back -/

theorem parse?_text_of_isRegular (h : t.IsValid) (regular : t.IsRegular) :
    parse? t.text = some t := by
  rw [parse?, text, String.toList_ofList, read?_write h regular, ofParts?_parts h regular]

/-- A moment as it is read back: a second that was inserted within a minute is the next one. -/
def settled (t : Timestamp) : Timestamp :=
  if t.IsRegular then t else ⟨t.seconds + 1, t.nanos - nanosPerSecond⟩

theorem isRegular_settled (h : t.IsValid) : t.settled.IsRegular := by
  have below := h.2.2
  unfold settled
  split
  · assumption
  · left
    show t.nanos - nanosPerSecond < nanosPerSecond
    omega

/-- The next second is in the same minute, and so in the years that are kept. -/
theorem isValid_settled (h : t.IsValid) : t.settled.IsValid := by
  obtain ⟨low, high, below⟩ := h
  unfold settled
  split
  · exact ⟨low, high, below⟩
  · rename_i inserted
    have last : t.seconds % 60 ≠ 59 := fun e => inserted (.inr e)
    -- A year begins with a minute.
    have minute : (Date.days ⟨Date.maxYear + 1, 1, 1⟩ * secondsPerDay) % 60 = 0 := by
      unfold secondsPerDay
      omega
    refine ⟨Int.le_add_one low, ?_, ?_⟩
    · show t.seconds + 1 < _
      omega
    · show t.nanos - nanosPerSecond < _
      omega

/-- It is written alike. -/
theorem text_settled (h : t.IsValid) : t.settled.text = t.text := by
  obtain ⟨-, -, below⟩ := h
  unfold settled
  split
  · rfl
  · rename_i inserted
    have last : t.seconds % 60 ≠ 59 := fun e => inserted (.inr e)
    have past : nanosPerSecond ≤ t.nanos := Nat.le_of_not_lt fun e => inserted (.inl e)
    let next : Timestamp := ⟨t.seconds + 1, t.nanos - nanosPerSecond⟩
    have fraction : (t.nanos - nanosPerSecond) % nanosPerSecond = t.nanos % nanosPerSecond :=
      (Nat.mod_eq_sub_mod past).symm
    have day : (t.seconds + 1) / secondsPerDay = t.seconds / secondsPerDay := by
      unfold secondsPerDay
      omega
    have second : next.secondOfDay = t.secondOfDay + 1 := by
      show ((t.seconds + 1) % secondsPerDay).toNat = (t.seconds % secondsPerDay).toNat + 1
      unfold secondsPerDay
      omega
    have minute : (t.secondOfDay % 60 : Int) = t.seconds % 60 := by
      unfold secondOfDay secondsPerDay
      omega
    have hour : (t.secondOfDay + 1) / 3600 = t.secondOfDay / 3600 := by omega
    have minutes : (t.secondOfDay + 1) / 60 % 60 = t.secondOfDay / 60 % 60 := by omega
    have shown : (t.secondOfDay + 1) % 60 + (t.nanos - nanosPerSecond) / nanosPerSecond =
        t.secondOfDay % 60 + t.nanos / nanosPerSecond := by
      unfold nanosPerSecond at *
      omega
    have clock : clockText next = clockText t := by
      show padded 2 (next.secondOfDay / 3600) ++ ':' :: padded 2 (next.secondOfDay / 60 % 60) ++
        ':' :: padded 2 (next.secondOfDay % 60 + (t.nanos - nanosPerSecond) / nanosPerSecond) = _
      rw [second, hour, minutes, shown]
      rfl
    have rest : fractionText next = fractionText t := by
      unfold fractionText
      show (let n := (t.nanos - nanosPerSecond) % nanosPerSecond; _) = _
      rw [fraction]
    have date : next.date = t.date := congrArg Date.ofDays day
    show text next = text t
    rw [text, write, date, clock, rest]
    rfl

/-- **A moment is read back from its RFC 3339 form**, a second that was inserted within a minute as
the next one. -/
theorem parse?_text (h : t.IsValid) : parse? t.text = some t.settled := by
  rw [← text_settled h]
  exact parse?_text_of_isRegular (isValid_settled h) (isRegular_settled h)

/-! ### What can be read -/

section Parts

variable {year : Int} {month day hour minute second nanos : Nat} {offset : Int}

theorem isValid_of_ofParts?
    (h : ofParts? year month day hour minute second nanos offset = some t) : t.IsValid := by
  obtain ⟨date, -, h⟩ := Option.bind_eq_some_iff.1 h
  obtain ⟨fits, e⟩ := Option.ite_none_right_eq_some.1 h
  obtain rfl := Option.some.inj e
  exact fits.2.2.2.2.2.2.2

/-- An offset of whole minutes leaves a sixtieth second at the end of its minute. -/
theorem isRegular_of_ofParts? (minutes : offset % 60 = 0)
    (h : ofParts? year month day hour minute second nanos offset = some t) : t.IsRegular := by
  obtain ⟨date, -, h⟩ := Option.bind_eq_some_iff.1 h
  obtain ⟨fits, e⟩ := Option.ite_none_right_eq_some.1 h
  obtain rfl := Option.some.inj e
  by_cases last : second = 60
  · right
    show (date.days * secondsPerDay + hour * 3600 + minute * 60 + (min second 59 : Nat) - offset) %
      60 = 59
    unfold secondsPerDay
    omega
  · left
    show nanos + (if second = 60 then nanosPerSecond else 0) < nanosPerSecond
    rw [if_neg last]
    exact fits.2.2.2.2.2.1

end Parts

/-- An offset has whole minutes. -/
theorem readOffset_minutes {cs rest : List Char} {offset : Int}
    (h : readOffset cs = some (offset, rest)) : offset % 60 = 0 := by
  unfold readOffset at h
  extract_lets signed at h
  have whole {negative : Bool} {cs : List Char} (h : signed negative cs = some (offset, rest)) :
      offset % 60 = 0 := by
    obtain ⟨⟨hours, cs'⟩, -, h⟩ := Option.bind_eq_some_iff.1 h
    obtain ⟨⟨minutes, cs''⟩, -, h⟩ := Option.bind_eq_some_iff.1 h
    obtain ⟨rfl, -⟩ := Prod.mk.inj (Option.some.inj h)
    split <;> omega
  split at h
  · cases h
    rfl
  · cases h
    rfl
  · exact whole h
  · exact whole h
  · exact whole h
  · split at h <;> cases h
    rfl
  · cases h

/-- No other moments are read. -/
theorem isValid_of_parse? {text : String} (h : parse? text = some t) :
    t.IsValid ∧ t.IsRegular := by
  have h : read? text.toList = some t := h
  unfold read? at h
  -- One part after the other has to be there.
  iterate 12 obtain ⟨_, -, h⟩ := Option.bind_eq_some_iff.1 h
  obtain ⟨⟨offset, rest⟩, zone, h⟩ := Option.bind_eq_some_iff.1 h
  obtain ⟨-, parts⟩ := Option.ite_none_right_eq_some.1 h
  exact ⟨isValid_of_ofParts? parts, isRegular_of_ofParts? (readOffset_minutes zone) parts⟩

/-- **The moments that are read back are those that can be read at all.** -/
theorem parse?_text_eq_some_iff : parse? t.text = some t ↔ t.IsValid ∧ t.IsRegular :=
  ⟨isValid_of_parse?, fun h => parse?_text_of_isRegular h.1 h.2⟩

end PanelScript.Timestamp

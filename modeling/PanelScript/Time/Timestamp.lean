import PanelScript.Text.Blank
import PanelScript.Time.Civil

/-!
# Timestamps

A moment in universal time, to the nanosecond. A second that was inserted at the end of a minute is
kept as a fraction of a second or more in the second before it.

* `Timestamp.text` writes the RFC 3339 form in UTC, `Timestamp.display` a form for people;
* `Timestamp.parse?` reads the RFC 3339 form with any offset, and tolerates blanks between its
  parts;
* `Timestamp.IsValid` says that a moment lies in the years that are kept, `Timestamp.IsRegular` that
  it is in an inserted second only at the end of a minute.
-/

namespace PanelScript

-- Powers are those of the core library.
attribute [local instance (2000)] instPowNat

/-- A moment: seconds since 1970 and nanoseconds, which reach a second or more in a leap second. -/
structure Timestamp where
  seconds : Int
  nanos : Nat
  deriving DecidableEq, Inhabited

namespace Timestamp

/-- The seconds of a day. -/
def secondsPerDay : Int := 86400

/-- The nanoseconds of a second. -/
def nanosPerSecond : Nat := 1000000000

/-- Within the years that are kept, and not past the second that may be inserted behind any. -/
def IsValid (t : Timestamp) : Prop :=
  Date.days ⟨Date.minYear, 1, 1⟩ * secondsPerDay ≤ t.seconds ∧
    t.seconds < Date.days ⟨Date.maxYear + 1, 1, 1⟩ * secondsPerDay ∧
    t.nanos < 2 * nanosPerSecond

instance (t : Timestamp) : Decidable t.IsValid := inferInstanceAs (Decidable (_ ∧ _ ∧ _))

/-- In an inserted second only at the end of a minute. -/
def IsRegular (t : Timestamp) : Prop := t.nanos < nanosPerSecond ∨ t.seconds % 60 = 59

instance (t : Timestamp) : Decidable t.IsRegular := inferInstanceAs (Decidable (_ ∨ _))

/-- The date in UTC. -/
def date (t : Timestamp) : Date := .ofDays (t.seconds / secondsPerDay)

/-- The second of the day in UTC, a leap second counted as the one before it. -/
def secondOfDay (t : Timestamp) : Nat := (t.seconds % secondsPerDay).toNat

/-! ### Writing -/

/-- A number in decimal, filled up with zeros to a width. -/
def padded (width n : Nat) : List Char :=
  let digits := Nat.toDigits 10 n
  List.replicate (width - digits.length) '0' ++ digits

/-- A year: four digits, with a sign outside the years 0 to 9999. -/
def yearText (year : Int) : List Char :=
  if 0 ≤ year ∧ year ≤ 9999 then padded 4 year.toNat
  else (if year < 0 then '-' else '+') :: padded 4 year.natAbs

/-- Year, month and day with dashes. -/
def dateText (d : Date) : List Char :=
  yearText d.year ++ '-' :: padded 2 d.month ++ '-' :: padded 2 d.day

/-- Hour, minute and second with colons; a leap second is the sixtieth. -/
def clockText (t : Timestamp) : List Char :=
  let s := t.secondOfDay
  padded 2 (s / 3600) ++ ':' :: padded 2 (s / 60 % 60) ++
    ':' :: padded 2 (s % 60 + t.nanos / nanosPerSecond)

/-- The fraction of the second in as few of 0, 3, 6 and 9 digits as show it exactly. -/
def fractionText (t : Timestamp) : List Char :=
  let n := t.nanos % nanosPerSecond
  if n = 0 then []
  else if n % 1000000 = 0 then '.' :: padded 3 (n / 1000000)
  else if n % 1000 = 0 then '.' :: padded 6 (n / 1000)
  else '.' :: padded 9 n

/-- The RFC 3339 form in UTC. -/
def write (t : Timestamp) : List Char :=
  dateText t.date ++ 'T' :: clockText t ++ fractionText t ++ ['Z']

@[inherit_doc write] def text (t : Timestamp) : String := String.ofList t.write

/-- Date and time of day to the millisecond, cut off. -/
def display (t : Timestamp) : String :=
  String.ofList <| dateText t.date ++ ' ' :: clockText t ++
    '.' :: padded 3 (t.nanos % nanosPerSecond / 1000000)

/-! ### Reading -/

/-- One to `width` digits. -/
def readDigits (width : Nat) (cs : List Char) : Option (Nat × List Char) :=
  let digits := (cs.take width).takeWhile Char.isDigit
  if digits.isEmpty then none
  else
    some (digits.foldl (fun n c => n * 10 + (c.toNat - '0'.toNat)) 0, cs.drop digits.length)

/-- One or two digits behind blanks. -/
def readPart (cs : List Char) : Option (Nat × List Char) := readDigits 2 (trimBlankLeft cs)

/-- A year behind blanks: up to four digits, or any number of them behind a sign. -/
def readYear (cs : List Char) : Option (Int × List Char) :=
  match trimBlankLeft cs with
  | '-' :: rest => (readDigits rest.length rest).map fun (n, rest) => (-n, rest)
  | '+' :: rest => (readDigits rest.length rest).map fun (n, rest) => (n, rest)
  | rest => (readDigits 4 rest).map fun (n, rest) => (n, rest)

/-- A given character. -/
def readMark (mark : Char) : List Char → Option (List Char)
  | c :: rest => if c = mark then some rest else none
  | [] => none

/-- A fraction of a second, in nanoseconds. Digits past the ninth are passed over. -/
def readFraction (cs : List Char) : Option (Nat × List Char) :=
  match cs with
  | '.' :: rest =>
    let digits := (rest.take 9).takeWhile Char.isDigit
    (readDigits 9 rest).map fun (n, rest) =>
      (n * 10 ^ (9 - digits.length), rest.dropWhile Char.isDigit)
  | _ => some (0, cs)

/-- Two digits, the first at most `top`. -/
def readPair (top : Char) : List Char → Option (Nat × List Char)
  | a :: b :: rest =>
    if a.isDigit ∧ a ≤ top ∧ b.isDigit then
      some ((a.toNat - '0'.toNat) * 10 + (b.toNat - '0'.toNat), rest)
    else none
  | _ => none

/-- An offset from UTC in seconds: `Z`, `UTC`, or hours and minutes behind a sign, with colons or
blanks between them. -/
def readOffset (cs : List Char) : Option (Int × List Char) :=
  let signed (negative : Bool) (rest : List Char) : Option (Int × List Char) := do
    let (hours, rest) ← readPair '9' rest
    let (minutes, rest) ← readPair '5' (rest.dropWhile fun c => c = ':' || isBlank c)
    let offset : Int := hours * 3600 + minutes * 60
    some (if negative then -offset else offset, rest)
  match cs with
  | 'Z' :: rest | 'z' :: rest => some (0, rest)
  | '+' :: rest => signed false rest
  | '-' :: rest => signed true rest
  | '\u2212' :: rest => signed true rest
  | u :: t :: c :: rest =>
    if u.toUpper = 'U' ∧ t.toUpper = 'T' ∧ c.toUpper = 'C' then some (0, rest) else none
  | _ => none

/-- The separator between date and time. -/
def readSeparator : List Char → Option (List Char)
  | 'T' :: rest | 't' :: rest | ' ' :: rest => some rest
  | _ => none

/-- The moment with a date, a time of day and an offset, if calendar, clock and range have it. The
sixtieth second is a leap second. -/
def ofParts? (year : Int) (month day hour minute second nanos : Nat) (offset : Int) :
    Option Timestamp := do
  let date ← Date.ofYmd? year month day
  let shown := min second 59
  let t : Timestamp := {
    seconds := date.days * secondsPerDay + hour * 3600 + minute * 60 + shown - offset
    nanos := nanos + if second = 60 then nanosPerSecond else 0 }
  if Date.minYear ≤ year ∧ year ≤ Date.maxYear ∧ hour ≤ 23 ∧ minute ≤ 59 ∧ second ≤ 60 ∧
      nanos < nanosPerSecond ∧ offset.natAbs < 86400 ∧ t.IsValid then some t else none

/-- Read the RFC 3339 form. -/
def read? (cs : List Char) : Option Timestamp := do
  let (year, cs) ← readYear cs
  let cs ← readMark '-' (trimBlankLeft cs)
  let (month, cs) ← readPart cs
  let cs ← readMark '-' (trimBlankLeft cs)
  let (day, cs) ← readPart cs
  let cs ← readSeparator cs
  let (hour, cs) ← readPart cs
  let cs ← readMark ':' (trimBlankLeft cs)
  let (minute, cs) ← readPart cs
  let cs ← readMark ':' (trimBlankLeft cs)
  let (second, cs) ← readPart cs
  let (nanos, cs) ← readFraction cs
  let (offset, cs) ← readOffset (trimBlankLeft cs)
  if (trimBlankLeft cs).isEmpty then ofParts? year month day hour minute second nanos offset
  else none

@[inherit_doc read?] def parse? (text : String) : Option Timestamp := read? text.toList

end Timestamp

end PanelScript

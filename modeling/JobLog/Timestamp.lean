import JobLog.Text.Blank
import JobLog.Text.Digit
import JobLog.Text.Padded

/-!
# Timestamps

A date of the proleptic Gregorian calendar with a time of day, without a zone.

* `Timestamp.read?` reads `YYYY-MM-DD HH:MM:SS` with an optional fraction. A number may have
  fewer digits than its width and white space in front of it; the year may carry a sign, and then
  it may be longer. Digits of the fraction behind the ninth are dropped. Second 60 is a leap second
  and is accepted at any minute.
* `Timestamp.write` writes the fraction with none, three, six or nine digits, the fewest that are
  exact.
* `Timestamp.microsSince?` is the difference in whole microseconds. A leap second counts as part of
  the second before it, so it shows in a difference only across its end.
-/

namespace JobLog

namespace Timestamp

/-- The year has a 29th of February. -/
def isLeapYear (year : Int) : Bool := year % 4 == 0 && (year % 100 != 0 || year % 400 == 0)

/-- The number of days of a month. -/
def daysInMonth (year : Int) (month : Nat) : Nat :=
  if month = 2 then (if isLeapYear year then 29 else 28)
  else if month = 4 ∨ month = 6 ∨ month = 9 ∨ month = 11 then 30
  else 31

/-- The numbers are a date of the calendar's range and a time of day. -/
def Valid (year : Int) (month day hour minute second nanos : Nat) : Prop :=
  (-262143 ≤ year ∧ year ≤ 262142) ∧ (1 ≤ month ∧ month ≤ 12) ∧
    (1 ≤ day ∧ day ≤ daysInMonth year month) ∧ hour < 24 ∧ minute < 60 ∧ second ≤ 60 ∧
    nanos < 1000000000

instance (year : Int) (month day hour minute second nanos : Nat) :
    Decidable (Valid year month day hour minute second nanos) :=
  inferInstanceAs (Decidable (_ ∧ _))

end Timestamp

/-- A point in time. -/
structure Timestamp where
  year : Int
  month : Nat
  day : Nat
  hour : Nat
  minute : Nat
  second : Nat
  /-- The fraction of the second, in nanoseconds. -/
  nanos : Nat
  valid : Timestamp.Valid year month day hour minute second nanos
  deriving DecidableEq

namespace Timestamp

/-- The timestamp of valid numbers. -/
def ofNumbers? (year : Int) (month day hour minute second nanos : Nat) : Option Timestamp :=
  if h : Valid year month day hour minute second nanos then
    some ⟨year, month, day, hour, minute, second, nanos, h⟩
  else none

/-! ### Reading -/

/-- Reads at most `width` digits behind white space. -/
def readField? (width : Nat) (s : List Char) : Option (Nat × List Char) :=
  match (((Text.trimStart s).take width).takeWhile Text.isAsciiDigit) with
  | [] => none
  | ds => some (Text.digitsValue ds, (Text.trimStart s).drop ds.length)

/-- Reads the year: four digits, or a sign and any number of digits. -/
def readYear? (s : List Char) : Option (Int × List Char) :=
  match Text.trimStart s with
  | '-' :: r => (signed r).map fun (n, r) => (-(n : Int), r)
  | '+' :: r => (signed r).map fun (n, r) => ((n : Int), r)
  | r => (readField? 4 r).map fun (n, r) => ((n : Int), r)
where
  /-- Reads any number of digits, without white space in front. -/
  signed (r : List Char) : Option (Nat × List Char) :=
    match r.takeWhile Text.isAsciiDigit with
    | [] => none
    | ds => some (Text.digitsValue ds, r.drop ds.length)

/-- Reads one character. -/
def readMark? (c : Char) : List Char → Option (List Char)
  | [] => none
  | d :: r => if d = c then some r else none

/-- The digits of a fraction with zeros behind them, nine in all. -/
def nineDigits (ds : List Char) : List Char := (ds ++ List.replicate 9 '0').take 9

/-- Reads the fraction, in nanoseconds; it may be missing. -/
def readFraction? : List Char → Option (Nat × List Char)
  | '.' :: r =>
    match r.takeWhile Text.isAsciiDigit with
    | [] => none
    | ds => some (Text.digitsValue (nineDigits ds), r.dropWhile Text.isAsciiDigit)
  | r => some (0, r)

/-- Reads a timestamp from the characters of a whole text. -/
def ofChars? (s : List Char) : Option Timestamp := do
  let (year, s) ← readYear? s
  let s ← readMark? '-' s
  let (month, s) ← readField? 2 s
  let s ← readMark? '-' s
  let (day, s) ← readField? 2 s
  let (hour, s) ← readField? 2 s
  let s ← readMark? ':' s
  let (minute, s) ← readField? 2 s
  let s ← readMark? ':' s
  let (second, s) ← readField? 2 s
  let (nanos, s) ← readFraction? s
  if s.isEmpty then ofNumbers? year month day hour minute second nanos else none

/-- Reads a timestamp. -/
def read? (s : String) : Option Timestamp := ofChars? s.toList

/-! ### Writing -/

/-- The year with four digits, or with a sign and at least four where it has more or is negative. -/
def writeYear (year : Int) : List Char :=
  if 0 ≤ year ∧ year ≤ 9999 then Text.padded 4 year.toNat
  else (if year < 0 then '-' else '+') :: Text.padded 4 year.natAbs

/-- The fraction with the fewest digits, in threes, that are exact. -/
def writeFraction (nanos : Nat) : List Char :=
  if nanos = 0 then []
  else if nanos % 1000000 = 0 then '.' :: Text.padded 3 (nanos / 1000000)
  else if nanos % 1000 = 0 then '.' :: Text.padded 6 (nanos / 1000)
  else '.' :: Text.padded 9 nanos

/-- The written form. -/
def write (t : Timestamp) : String :=
  String.ofList <|
    writeYear t.year ++ '-' :: Text.padded 2 t.month ++ '-' :: Text.padded 2 t.day ++
      ' ' :: Text.padded 2 t.hour ++ ':' :: Text.padded 2 t.minute ++
      ':' :: Text.padded 2 t.second ++ writeFraction t.nanos

/-! ### Differences -/

/-- The number of days in the first months of a year. -/
def daysBefore (year : Int) : Nat → Nat
  | 0 => 0
  | month + 1 => daysBefore year month + daysInMonth year (month + 1)

/-- The number of days up to the date, from a fixed day on. -/
def dayNumber (t : Timestamp) : Int :=
  let y := t.year - 1
  365 * y + y / 4 - y / 100 + y / 400
    + (daysBefore t.year (t.month - 1) + t.day : Nat)

/-- The second of the day; a leap second belongs to the second before it. -/
def secondOfDay (t : Timestamp) : Nat := 3600 * t.hour + 60 * t.minute + min t.second 59

/-- The timestamp lies in a leap second. -/
def isLeap (t : Timestamp) : Bool := t.second == 60

/-- The nanoseconds since the start of the second; a leap second goes past one second. -/
def fraction (t : Timestamp) : Nat := t.nanos + if t.isLeap then 1000000000 else 0

/-- The leap second between two times of day, one second or none. -/
def leapBetween (later earlier : Timestamp) : Int :=
  if earlier.secondOfDay < later.secondOfDay then (if earlier.isLeap then 1 else 0)
  else if later.secondOfDay < earlier.secondOfDay then (if later.isLeap then -1 else 0)
  else 0

/-- The nanoseconds from the second timestamp to the first. -/
def nanosSince (later earlier : Timestamp) : Int :=
  (86400 * (later.dayNumber - earlier.dayNumber)
    + ((later.secondOfDay : Int) - earlier.secondOfDay) + leapBetween later earlier) * 1000000000
    + ((later.fraction : Int) - earlier.fraction)

/-- The greatest number of a word of 63 bits and a sign. -/
def maxMicros : Int := 0x7fffffffffffffff

/-- The whole microseconds from the second timestamp to the first, cut toward zero, if a word of 63
bits and a sign holds them. -/
def microsSince? (later earlier : Timestamp) : Option Int :=
  let us := (nanosSince later earlier).tdiv 1000
  if -maxMicros ≤ us + 1 ∧ us ≤ maxMicros then some us else none

end Timestamp
end JobLog

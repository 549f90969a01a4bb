import Mathlib.Data.Nat.Digits.Defs
import Mathlib.Data.List.Basic

/-!
# Gregorian dates

Days of the proleptic Gregorian calendar from 0001-01-01 to 9999-12-31, represented by their
ordinal, and moments within a day. **A date is its day number**: order, successor and weekday are
arithmetic on it, and year, month and day are read from it by the calendar's cycles.
-/

namespace DirtyDataOlap

def maxOrdinal : Nat := 3652059

/-- A day, by its proleptic Gregorian ordinal. -/
structure Date where
  ordinal : Nat
  bounds : 1 ≤ ordinal ∧ ordinal ≤ maxOrdinal
deriving DecidableEq

namespace Date

theorem ordinal_injective : Function.Injective Date.ordinal := by
  rintro ⟨a, ha⟩ ⟨b, hb⟩ h
  subst h
  rfl

instance : LinearOrder Date := LinearOrder.lift' ordinal ordinal_injective

def isLeap (year : Nat) : Bool := year % 4 = 0 && (year % 100 ≠ 0 || year % 400 = 0)

def daysInMonth (year month : Nat) : Nat :=
  match month with
  | 2 => if isLeap year then 29 else 28
  | 4 | 6 | 9 | 11 => 30
  | _ => 31

/-- The number of days in the years before `year`. -/
def daysBeforeYear (year : Nat) : Nat :=
  let y := year - 1
  y * 365 + y / 4 - y / 100 + y / 400

/-- The number of days in the year before the first of `month`. -/
def daysBeforeMonth (year month : Nat) : Nat :=
  ((List.range (month - 1)).map fun m => daysInMonth year (m + 1)).sum

/-- The day with an ordinal, if it is in the calendar. -/
def ofOrdinal (n : Nat) : Option Date :=
  if h : 1 ≤ n ∧ n ≤ maxOrdinal then some ⟨n, h⟩ else none

/-- `date(year, month, day)`. -/
def ofYmd (year month day : Nat) : Option Date :=
  if 1 ≤ year ∧ year ≤ 9999 ∧ 1 ≤ month ∧ month ≤ 12 ∧ 1 ≤ day ∧ day ≤ daysInMonth year month then
    ofOrdinal (daysBeforeYear year + daysBeforeMonth year month + day)
  else none

/-- Month and day of the `n`-th day of a year, counted from zero. -/
def monthDay (year : Nat) : (month fuel : Nat) → (n : Nat) → Nat × Nat
  | month, 0, n => (month, n + 1)
  | month, fuel + 1, n =>
    if n < daysInMonth year month then (month, n + 1)
    else monthDay year (month + 1) fuel (n - daysInMonth year month)

section

variable (d : Date)

/-- Year, month and day of an ordinal, through the cycles of 400, 100, 4 and 1 years. -/
def ymd : Nat × Nat × Nat :=
  let n := d.ordinal - 1
  let n400 := n / 146097
  let n := n % 146097
  let n100 := n / 36524
  let n := n % 36524
  let n4 := n / 1461
  let n := n % 1461
  let n1 := n / 365
  let n := n % 365
  let year := n400 * 400 + n100 * 100 + n4 * 4 + n1 + 1
  -- The last day of a cycle falls after its last full year.
  if n1 = 4 ∨ n100 = 4 then (year - 1, 12, 31)
  else (year, monthDay year 1 11 n)

def year : Nat := d.ymd.1

def month : Nat := d.ymd.2.1

def day : Nat := d.ymd.2.2

/-- Monday is 1 and Sunday is 7. -/
def isoweekday : Nat := (d.ordinal + 6) % 7 + 1

/-- `d + timedelta(days=1)`, which overflows after the last day of the calendar. -/
def tomorrow : Option Date := ofOrdinal (d.ordinal + 1)

/-- A number in decimal, with leading zeros up to `width` digits. -/
def padded (width n : Nat) : String :=
  let digits := toString n
  String.ofList (List.replicate (width - digits.length) '0') ++ digits

/-- `YYYY-MM-DD`. -/
def isoformat : String :=
  padded 4 d.year ++ "-" ++ padded 2 d.month ++ "-" ++ padded 2 d.day

end

/-- The number written by ASCII digits. -/
def number (cs : List Char) : Option Nat :=
  if cs.all Char.isDigit then some (cs.foldl (fun n c => 10 * n + (c.toNat - 48)) 0) else none

def isoWeek1Monday (year : Nat) : Int :=
  let firstday : Int := daysBeforeYear year + 1
  let firstweekday := (firstday + 6) % 7
  let week1monday := firstday - firstweekday
  if 3 < firstweekday then week1monday + 7 else week1monday

def ofIsoWeek (year week weekday : Nat) : Option Date :=
  let firstWeekday := (daysBeforeYear year + 7) % 7
  -- A year has a week 53 when it starts on a Thursday, or on a Wednesday of a leap year.
  let long := firstWeekday = 3 || (firstWeekday = 2 && isLeap year)
  if 1 ≤ year ∧ year ≤ 9999 ∧ 1 ≤ week ∧ (week ≤ 52 ∨ week = 53 ∧ long) ∧
      1 ≤ weekday ∧ weekday ≤ 7 then
    ofOrdinal (isoWeek1Monday year + (week - 1) * 7 + (weekday - 1)).toNat
  else none

/-- `date.fromisoformat(text)`: calendar dates and week dates, with or without separators. -/
def fromisoformat (text : String) : Option Date := do
  match text.toList with
  | [a, b, c, d, '-', 'W', w, x, '-', y] =>
    ofIsoWeek (← number [a, b, c, d]) (← number [w, x]) (← number [y])
  | [a, b, c, d, '-', m, n, '-', x, y] =>
    ofYmd (← number [a, b, c, d]) (← number [m, n]) (← number [x, y])
  | [a, b, c, d, '-', 'W', w, x] => ofIsoWeek (← number [a, b, c, d]) (← number [w, x]) 1
  | [a, b, c, d, 'W', w, x, y] =>
    ofIsoWeek (← number [a, b, c, d]) (← number [w, x]) (← number [y])
  | [a, b, c, d, 'W', w, x] => ofIsoWeek (← number [a, b, c, d]) (← number [w, x]) 1
  | [a, b, c, d, m, n, x, y] =>
    ofYmd (← number [a, b, c, d]) (← number [m, n]) (← number [x, y])
  | _ => none

example : ((fromisoformat "2024-02-29").map isoformat) = some "2024-02-29" := by decide +kernel

end Date

/-- A moment; one with an offset from UTC, in microseconds, is aware of its time zone. -/
structure DateTime where
  date : Date
  micros : Nat
  offset : Option Int
deriving DecidableEq

namespace DateTime

/-- `HH:MM:SS`, with the microseconds when there are any. -/
def clock (micros : Nat) : String :=
  let seconds := micros / 1000000
  let fraction := micros % 1000000
  Date.padded 2 (seconds / 3600) ++ ":" ++ Date.padded 2 (seconds / 60 % 60) ++ ":" ++
    Date.padded 2 (seconds % 60) ++ (if fraction = 0 then "" else "." ++ Date.padded 6 fraction)

/-- `+HH:MM`, with seconds and microseconds when there are any. -/
def zone (offset : Int) : String :=
  let micros := offset.natAbs
  let seconds := micros / 1000000
  let sign := if offset < 0 then "-" else "+"
  if micros % 60000000 = 0 then
    sign ++ Date.padded 2 (seconds / 3600) ++ ":" ++ Date.padded 2 (seconds / 60 % 60)
  else sign ++ clock micros

/-- `isoformat(sep)`. -/
def isoformat (separator : String) (t : DateTime) : String :=
  t.date.isoformat ++ separator ++ clock t.micros ++ (t.offset.map zone).getD ""

/-- The instant of an aware moment, in microseconds of UTC. -/
def instant (t : DateTime) : Int :=
  t.date.ordinal * 86400000000 + t.micros - t.offset.getD 0

end DateTime

end DirtyDataOlap

import AgentPulse.Text.Decimal

/-!
# Calendar

Seconds since the start of 1970 as a date and a time of day, and back. A year is counted from March
on, so that the odd day of a leap year is its last one; four hundred years always have the same
number of days.
-/

namespace AgentPulse.Text

/-- A date and a time of day. -/
structure Moment where
  year : Int
  /-- From 1 to 12. -/
  month : Nat
  day : Nat
  hour : Nat := 0
  minute : Nat := 0
  second : Nat := 0
  deriving Repr, Inhabited, DecidableEq

namespace Moment

/-- The days of four hundred years. -/
def eraDays : Int := 146097

/-- The days from the start of a year in March of the year 0 to the start of 1970. -/
def daysBefore1970 : Int := 719468

/-- The number of a date among all days; the first day of 1970 is day 0. -/
def dayNumber (year : Int) (month day : Nat) : Int :=
  let year := if month ≤ 2 then year - 1 else year
  let era := year.fdiv 400
  let yearOfEra := year - era * 400
  let dayOfYear : Int := (153 * ((month + 9) % 12) + 2) / 5 + (day - 1 : Nat)
  era * eraDays + yearOfEra * 365 + yearOfEra / 4 - yearOfEra / 100 + dayOfYear - daysBefore1970

/-- The year, the month and the day of the month of a day. -/
def dateOf (number : Int) : Int × Nat × Nat :=
  let n := number + daysBefore1970
  let era := n.fdiv eraDays
  let dayOfEra := (n - era * eraDays).toNat
  let yearOfEra := (dayOfEra - dayOfEra / 1460 + dayOfEra / 36524 - dayOfEra / 146096) / 365
  let dayOfYear := dayOfEra - (365 * yearOfEra + yearOfEra / 4 - yearOfEra / 100)
  let m := (5 * dayOfYear + 2) / 153
  let day := dayOfYear - (153 * m + 2) / 5 + 1
  let month := if m < 10 then m + 3 else m - 9
  (yearOfEra + era * 400 + (if month ≤ 2 then 1 else 0), month, day)

/-- The seconds of a day. -/
def daySeconds : Int := 86400

/-- The moment of a number of seconds since the start of 1970. -/
def ofSeconds (n : Int) : Moment :=
  let days := n.fdiv daySeconds
  let rest := (n - days * daySeconds).toNat
  let (year, month, day) := dateOf days
  { year, month, day, hour := rest / 3600, minute := rest / 60 % 60, second := rest % 60 }

/-- The number of the day of a moment. -/
def dayOf (m : Moment) : Int := dayNumber m.year m.month m.day

/-- The seconds since the start of 1970. -/
def toSeconds (m : Moment) : Int :=
  m.dayOf * daySeconds + (3600 * m.hour + 60 * m.minute + m.second : Nat)

/-- The day of the week, from Sunday on, which is day 0. -/
def weekday (m : Moment) : Nat := ((m.dayOf + 4).fmod 7).toNat

/-- The day of the year; the first one is day 1. -/
def dayOfYear (m : Moment) : Nat := (m.dayOf - dayNumber m.year 1 1).toNat + 1

/-- The names of the days of the week. -/
def weekdays : List String :=
  ["Sunday", "Monday", "Tuesday", "Wednesday", "Thursday", "Friday", "Saturday"]

/-- The names of the months. -/
def months : List String := [
  "January", "February", "March", "April", "May", "June", "July", "August", "September",
  "October", "November", "December"]

/-- The week of the year by days of the week: weeks start on the given one. -/
def week (m : Moment) (start : Nat) : Nat := (m.dayOfYear + 6 - (m.weekday + 7 - start) % 7) / 7

/-- The year and the number of the week that has most of its days in that year. -/
def isoWeek (m : Moment) : Int × Nat :=
  let thursday := m.dayOf + 3 - ((m.weekday + 6) % 7 : Nat)
  let (year, _, _) := dateOf thursday
  (year, ((thursday - dayNumber year 1 1).toNat) / 7 + 1)

/-! ## Formats -/

/-- A number of at least so many digits, filled up with a character. -/
def padded (fill : Char) (size n : Nat) : List Char :=
  let ds := Decimal.digits n
  List.replicate (size - ds.length) fill ++ ds

/-- What a letter in a format stands for. -/
def part (m : Moment) (nanoseconds : Nat) (pad : Option Char) (c : Char) : Option (List Char) :=
  let two (n : Nat) : List Char := padded (pad.getD '0') 2 n
  let blank (n : Nat) : List Char := padded (pad.getD ' ') 2 n
  let name (names : List String) (i : Nat) : List Char := (names.getD i "").toList
  let hour12 := (m.hour + 11) % 12 + 1
  let year := m.year.toNat
  match c with
  | 'Y' => some (Decimal.digits year)
  | 'C' => some (two (year / 100))
  | 'y' => some (two (year % 100))
  | 'm' => some (two m.month)
  | 'd' => some (two m.day)
  | 'e' => some (blank m.day)
  | 'H' => some (two m.hour)
  | 'k' => some (blank m.hour)
  | 'I' => some (two hour12)
  | 'l' => some (blank hour12)
  | 'M' => some (two m.minute)
  | 'S' => some (two m.second)
  | 'N' => some (padded '0' 9 nanoseconds)
  | 'j' => some (padded '0' 3 m.dayOfYear)
  | 'a' => some ((name weekdays m.weekday).take 3)
  | 'A' => some (name weekdays m.weekday)
  | 'b' | 'h' => some ((name months (m.month - 1)).take 3)
  | 'B' => some (name months (m.month - 1))
  | 'p' => some (if m.hour < 12 then ['A', 'M'] else ['P', 'M'])
  | 'P' => some (if m.hour < 12 then ['a', 'm'] else ['p', 'm'])
  | 'u' => some (Decimal.digits ((m.weekday + 6) % 7 + 1))
  | 'w' => some (Decimal.digits m.weekday)
  | 'U' => some (two (m.week 0))
  | 'W' => some (two (m.week 1))
  | 'V' => some (two m.isoWeek.2)
  | 'G' => some (Decimal.digits m.isoWeek.1.toNat)
  | 's' => some (Decimal.ofInt m.toSeconds).toList
  | 'q' => some (Decimal.digits ((m.month + 2) / 3))
  | 'z' => some "+0000".toList
  | 'Z' => some "UTC".toList
  | 'n' => some ['\n']
  | 't' => some ['\t']
  | '%' => some ['%']
  | _ => none

/-- Formats that letters stand for. -/
def compositions : List (Char × String) := [
  ('F', "%Y-%m-%d"), ('T', "%H:%M:%S"), ('R', "%H:%M"), ('D', "%m/%d/%y"), ('x', "%m/%d/%y"),
  ('X', "%H:%M:%S"), ('r', "%I:%M:%S %p"), ('c', "%a %b %e %H:%M:%S %Y")]

/-- A format filled in. Its compositions are resolved first. -/
def filled (m : Moment) (nanoseconds : Nat) : Nat → List Char → List Char
  | 0, _ => []
  | fuel + 1, cs =>
    match cs with
    | '%' :: rest =>
      let (pad, after) : Option Char × List Char := match rest with
        | '_' :: more => (some ' ', more)
        | '0' :: more => (some '0', more)
        | '-' :: more => (some '-', more)
        | more => (none, more)
      match after with
      | [] => ['%']
      | c :: more =>
        match compositions.lookup c with
        | some format => filled m nanoseconds fuel (format.toList ++ more)
        | none =>
          match m.part nanoseconds (if pad = some '-' then some ' ' else pad) c with
          | none => '%' :: filled m nanoseconds fuel rest
          | some text =>
            let text := if pad = some '-' then
                let bare := text.dropWhile fun d => d == ' ' || d == '0'
                if bare.isEmpty then ['0'] else bare
              else text
            text ++ filled m nanoseconds fuel more
    | c :: rest => c :: filled m nanoseconds fuel rest
    | [] => []

/-- A format filled in. -/
def formatted (m : Moment) (format : List Char) (nanoseconds : Nat := 0) : List Char :=
  filled m nanoseconds (25 * format.length + 1) format

/-- The day before or after by months, which goes on into the next month where there is none. -/
def addMonths (m : Moment) (n : Int) : Moment :=
  let all := m.year * 12 + (m.month - 1 : Nat) + n
  let year := all.fdiv 12
  let month := (all - year * 12).toNat + 1
  let day := dayNumber year month 1 + (m.day - 1 : Nat)
  let (year, month, day) := dateOf day
  { m with year, month, day }

end Moment

end AgentPulse.Text

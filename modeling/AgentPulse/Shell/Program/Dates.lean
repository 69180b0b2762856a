import AgentPulse.Shell.Program.Basic
import AgentPulse.Text.Calendar

/-!
# Dates

Texts for moments as they are given to programs, and the program that shows them. All times are
those of the zone that is the same all over the world.
-/

namespace AgentPulse.Shell.Program

open Text (Moment)

/-! ## Reading -/

/-- What has been read of a text for a moment. -/
structure Wanted where
  year : Option Nat := none
  month : Option Nat := none
  day : Option Nat := none
  /-- The seconds of the day. -/
  time : Option Nat := none
  /-- What is added to the moment: months, and seconds. -/
  months : Int := 0
  seconds : Int := 0
  /-- The last thing that was added, which a word may turn around. -/
  last : Int × Int := (0, 0)
  /-- A number for which a unit has yet to come. -/
  count : Option Int := none

/-- The months and seconds of a unit of time. -/
def unit? (cs : Raw) : Option (Int × Int) :=
  let word := if cs.getLast? = some 's' ∧ 3 < cs.length then cs.dropLast else cs
  match String.ofList word with
  | "sec" | "second" => some (0, 1)
  | "min" | "minute" => some (0, 60)
  | "hour" => some (0, 3600)
  | "day" => some (0, 86400)
  | "week" => some (0, 604800)
  | "fortnight" => some (0, 1209600)
  | "month" => some (1, 0)
  | "year" => some (12, 0)
  | _ => none

/-- The number of a month by its name, of which three letters are enough. -/
def month? (cs : Raw) : Option Nat :=
  if cs.length < 3 then none
  else (Moment.months.findIdx? fun m => cs.isPrefixOf (m.toList.map Char.toLower)).map (· + 1)

/-- A time of day. -/
def timeOfDay? (cs : Raw) : Option Nat :=
  let parts := partsOf ':' (cs.takeWhile (· != '.'))
  let number (p : Raw) : Option Nat :=
    if !p.isEmpty && p.length ≤ 2 && p.all Char.isDigit then some (Text.Decimal.value p) else none
  match parts.mapM number with
  | some [h, m] => if h < 24 ∧ m < 60 then some (3600 * h + 60 * m) else none
  | some [h, m, s] => if h < 24 ∧ m < 60 ∧ s < 61 then some (3600 * h + 60 * m + s) else none
  | _ => none

/-- A date in three numbers. -/
def dateNumbers? (cs : Raw) : Option (Nat × Nat × Nat) :=
  let isGood (y m d : Nat) : Option (Nat × Nat × Nat) :=
    if 1 ≤ m ∧ m ≤ 12 ∧ 1 ≤ d ∧ d ≤ 31 then
      let day := Moment.dayNumber y m d
      if (Moment.dateOf day).2 = (m, d) then some (y, m, d) else none
    else none
  let numbers (separator : Char) : Option (List Nat) :=
    (partsOf separator cs).mapM fun p =>
      if !p.isEmpty && p.all Char.isDigit then some (Text.Decimal.value p) else none
  match numbers '-', numbers '/' with
  | some [y, m, d], _ => isGood y m d
  | _, some [m, d, y] => if 31 < m then isGood m d y else isGood y m d
  | _, _ =>
    if cs.length = 8 ∧ cs.all Char.isDigit then
      isGood (Text.Decimal.value (cs.take 4)) (Text.Decimal.value ((cs.drop 4).take 2))
        (Text.Decimal.value (cs.drop 6))
    else none

/-- Add some time to what is wanted. -/
def Wanted.add (w : Wanted) (n : Int) (unit : Int × Int) : Wanted :=
  { w with
    months := w.months + n * unit.1
    seconds := w.seconds + n * unit.2
    last := (n * unit.1, n * unit.2)
    count := none }

/-- One word more of a text for a moment. -/
def Wanted.read (w : Wanted) (cs : Raw) : Option Wanted :=
  match dateNumbers? cs, timeOfDay? cs, unit? cs, month? cs with
  | some (y, m, d), _, _, _ => some { w with year := some y, month := some m, day := some d }
  | none, some t, _, _ => some { w with time := some t }
  | none, none, some u, _ => some (w.add (w.count.getD 1) u)
  | none, none, none, some m =>
    some { w with month := some m, day := (w.count.map Int.toNat).or w.day, count := none }
  | none, none, none, none =>
    match String.ofList cs with
    | "now" | "today" | "utc" | "gmt" | "z" | "+0000" | "+00:00" => some w
    | "yesterday" => some (w.add (-1) (0, 86400))
    | "tomorrow" => some (w.add 1 (0, 86400))
    | "next" => some { w with count := some 1 }
    | "last" => some { w with count := some (-1) }
    | "ago" =>
      some { w with months := w.months - 2 * w.last.1, seconds := w.seconds - 2 * w.last.2 }
    | _ =>
      let (sign, ds) : Int × Raw := match cs with
        | '-' :: rest => (-1, rest)
        | '+' :: rest => (1, rest)
        | rest => (1, rest)
      let digits := ds.takeWhile Char.isDigit
      let rest := ds.drop digits.length
      if digits.isEmpty then none
      else
        let n := sign * (Text.Decimal.value digits : Int)
        if rest.isEmpty then
          if w.month.isSome ∧ digits.length = 4 then some { w with year := some n.toNat }
          else if w.month.isSome ∧ w.day.isNone then some { w with day := some n.toNat }
          else some { w with count := some n }
        else (unit? rest).map fun u => w.add n u

/-- The words of a text for a moment. -/
def momentWords (cs : Raw) : List Raw :=
  let cs := cs.map fun c => if c = ',' ∨ c = '\t' then ' ' else c.toLower
  let words := (partsOf ' ' cs).filter fun w => !w.isEmpty
  words.flatMap fun w =>
    -- A letter parts a date from a time, and the zone may stand right behind that.
    let w := if w.getLast? = some 'z' ∧ w.head?.any Char.isDigit then w.dropLast else w
    if w.head?.any Char.isDigit ∧ w.contains 't' ∧ w.contains ':' then partsOf 't' w else [w]

/-- The moment that a text is for, in seconds. -/
def moment? (now : Int) (cs : Raw) : Option Int := do
  match cs with
  | '@' :: rest =>
    let (sign, ds) : Int × Raw := match rest with
      | '-' :: ds => (-1, ds)
      | ds => (1, ds)
    let whole := ds.takeWhile (· != '.')
    if !whole.isEmpty && whole.all Char.isDigit then return sign * Text.Decimal.value whole
    else none
  | cs =>
    let w ← (momentWords cs).foldlM Wanted.read {}
    if w.count.isSome then none
    let here := Moment.ofSeconds now
    let hasDate := w.year.isSome || w.month.isSome || w.day.isSome || (momentWords cs).isEmpty
    let seconds : Nat := match w.time with
      | some t => t
      | none => if hasDate then 0 else 3600 * here.hour + 60 * here.minute + here.second
    let m : Moment := {
      year := (w.year.map Int.ofNat).getD here.year
      month := w.month.getD here.month
      day := w.day.getD here.day }
    let m := m.addMonths w.months
    return m.toSeconds + seconds + w.seconds

/-- The moment of digits: month, day, hour and minute, a year in front, and seconds behind a
point. -/
def stamp? (now : Int) (cs : Raw) : Option Int :=
  let digits := cs.takeWhile (· != '.')
  let second := match cs.drop digits.length with
    | '.' :: ds => Text.Decimal.value ds
    | _ => 0
  let here := Moment.ofSeconds now
  let number (start size : Nat) : Nat := Text.Decimal.value ((digits.drop start).take size)
  let front := digits.length - 8
  let year : Option Int := match front with
    | 0 => some here.year
    | 2 => some (if number 0 2 < 69 then 2000 + number 0 2 else 1900 + number 0 2)
    | 4 => some (number 0 4)
    | _ => none
  let m : Moment := {
    year := year.getD 0
    month := number front 2
    day := number (front + 2) 2
    hour := number (front + 4) 2
    minute := number (front + 6) 2
    second }
  let isGood := 8 ≤ digits.length && digits.all Char.isDigit && 1 ≤ m.month && m.month ≤ 12 &&
    1 ≤ m.day && m.day ≤ 31 && m.hour < 24 && m.minute < 60 && second < 61
  if isGood then year.map fun _ => m.toSeconds else none

/-! ## Showing -/

/-- The format that is used where none is given. -/
def usualDate : String := "%a %b %e %H:%M:%S %Z %Y"

/-- The format of the standard for dates, with as much of the time as is asked for. -/
def standardDate (precision : Raw) : String :=
  match String.ofList precision with
  | "hours" => "%FT%H+00:00"
  | "minutes" => "%FT%H:%M+00:00"
  | "seconds" => "%FT%T+00:00"
  | "ns" => "%FT%T,%N+00:00"
  | _ => "%F"

/-- Show a date. -/
def date (args : List Raw) : Act Nat :=
  let names := [("date", 'd'), ("utc", 'u'), ("universal", 'u'), ("reference", 'r'),
    ("rfc-email", 'R'), ("set", 's')]
  let standard := (args.find? fun arg => (raw "-I").isPrefixOf arg ||
    (raw "--iso-8601").isPrefixOf arg)
  let args := args.filter fun arg => some arg != standard
  working "date" (Flags.of "d:ur:Rs:" names) args fun a => do
    let s ← get
    let now : Int := s.tree.now / 1000
    let time : Except String (Int × Nat) := match a.value? 'd', a.value? 'r' with
      | some text, _ =>
        match moment? now text with
        | some n => .ok (n, 0)
        | none => .error ("date: invalid date " ++ quoted text)
      | none, some path =>
        match Files.fileAt s.tree s.folder path.toBytes with
        | .ok id =>
          let t := (s.tree.file id).time
          .ok (t / 1000, t % 1000 * 1000000)
        | .error f => .error ("date: " ++ named path ++ ": " ++ f.words)
      | none, none => .ok (now, s.tree.now % 1000 * 1000000)
    match time, a.operands with
    | .error message, _ => failed message
    | _, _ :: extra :: _ => misused "date" ("extra operand " ++ quoted extra)
    | .ok (n, nanoseconds), operands =>
      let m := Moment.ofSeconds n
      match operands with
      | ('+' :: format) :: _ =>
        Act.outLine (m.formatted format nanoseconds)
        return 0
      | wrong :: _ => failed ("date: invalid date " ++ quoted wrong)
      | [] =>
        let format : String := match standard with
          | some arg => standardDate (if (raw "-I").isPrefixOf arg then arg.drop 2 else arg.drop 11)
          | none => if a.has 'R' then "%a, %d %b %Y %H:%M:%S +0000" else usualDate
        Act.outLine (m.formatted format.toList nanoseconds)
        return 0

end AgentPulse.Shell.Program

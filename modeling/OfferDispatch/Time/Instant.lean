import OfferDispatch.Power
import OfferDispatch.Text.Blank
import OfferDispatch.Text.Natural

/-!
# Instants

An instant is a point in time, counted in seconds from the beginning of 1970 and nanoseconds within
the second; a leap second belongs to the second before it and has a nanosecond count of a billion
or more. Instants are ordered by seconds, then by nanoseconds.

Their text is RFC 3339. It is read with some freedom (blanks between the parts, a space for the
`T`, a sign in front of the year) and written in one way: in UTC with a `Z`, and with no fraction or
one of three, six or nine digits, the fewest that lose nothing.
-/

namespace OfferDispatch

structure Instant where
  seconds : Int
  nanos : Nat
  deriving DecidableEq, Repr, Inhabited

namespace Instant

def before (a b : Instant) : Bool :=
  decide (a.seconds < b.seconds) || (a.seconds == b.seconds && decide (a.nanos < b.nanos))

/-! ## The calendar -/

structure Day where
  year : Int
  month : Nat
  day : Nat
  deriving DecidableEq, Repr

/-- Years divisible by four are leap years, except centuries not divisible by four hundred. -/
def isLeap (year : Int) : Bool := year % 4 == 0 && (year % 100 != 0 || year % 400 == 0)

def daysInMonth (year : Int) (month : Nat) : Nat :=
  match month with
  | 2 => if isLeap year then 29 else 28
  | 4 | 6 | 9 | 11 => 30
  | _ => 31

/-- Days from the beginning of 1970 to a day. Years are counted from March, so that a leap day is
the last of its year, in eras of four hundred years. -/
def Day.number (d : Day) : Int :=
  let year := if d.month ≤ 2 then d.year - 1 else d.year
  let era := year / 400
  let yearOfEra := year % 400
  let dayOfYear : Int := (153 * ((d.month + 9) % 12) + 2) / 5 + d.day - 1
  let dayOfEra := yearOfEra * 365 + yearOfEra / 4 - yearOfEra / 100 + dayOfYear
  era * 146097 + dayOfEra - 719468

def Day.ofNumber (n : Int) : Day :=
  let shifted := n + 719468
  let era := shifted / 146097
  let dayOfEra := shifted % 146097
  let yearOfEra := (dayOfEra - dayOfEra / 1460 + dayOfEra / 36524 - dayOfEra / 146096) / 365
  let dayOfYear := dayOfEra - (365 * yearOfEra + yearOfEra / 4 - yearOfEra / 100)
  let monthFromMarch := (5 * dayOfYear + 2) / 153
  let day := dayOfYear - (153 * monthFromMarch + 2) / 5 + 1
  let month := if monthFromMarch < 10 then monthFromMarch + 3 else monthFromMarch - 9
  let year := yearOfEra + era * 400
  ⟨if month ≤ 2 then year + 1 else year, month.toNat, day.toNat⟩

/-- The years that instants can fall into. -/
def yearRange : Int × Int := (-262143, 262142)

/-- The days that instants can fall on, by number. -/
def dayRange : Int × Int := (Day.number ⟨yearRange.1, 1, 1⟩, Day.number ⟨yearRange.2, 12, 31⟩)

/-! ## Reading -/

/-- Up to `width` digits: their value, how many there were, and what follows. -/
def takeDigits : Nat → Nat → Nat → List Char → Nat × Nat × List Char
  | 0, n, count, cs => (n, count, cs)
  | _, n, count, [] => (n, count, [])
  | width + 1, n, count, c :: cs =>
    match Text.digit? c with
    | some d => takeDigits width (n * 10 + d) (count + 1) cs
    | none => (n, count, c :: cs)

/-- A number of one to `width` digits, after any blanks. -/
def number? (width : Nat) (cs : List Char) : Option (Nat × List Char) :=
  match takeDigits width 0 0 (Text.trimStart cs) with
  | (_, 0, _) => none
  | (n, _, rest) => some (n, rest)

/-- A year: up to four digits, or any number of them after a sign. -/
def year? (cs : List Char) : Option (Int × List Char) :=
  match Text.trimStart cs with
  | '-' :: rest => match takeDigits rest.length 0 0 rest with
    | (_, 0, _) => none
    | (n, _, after) => some (-n, after)
  | '+' :: rest => match takeDigits rest.length 0 0 rest with
    | (_, 0, _) => none
    | (n, _, after) => some (n, after)
  | rest => (number? 4 rest).map fun r => (r.1, r.2)

/-- A mark after any blanks. -/
def mark? (c : Char) (cs : List Char) : Option (List Char) :=
  match Text.trimStart cs with
  | d :: rest => if d = c then some rest else none
  | [] => none

/-- The fraction of a second in nanoseconds: nothing without a point, and digits beyond the ninth
are passed over. -/
def fraction? : List Char → Option (Nat × List Char)
  | '.' :: cs => match takeDigits 9 0 0 cs with
    | (_, 0, _) => none
    | (n, count, rest) => some (n * 10 ^ (9 - count), rest.dropWhile Text.isDigit)
  | cs => some (0, cs)

/-- The hours and minutes of an offset from UTC, in seconds; colons and blanks may separate them. -/
def offsetAmount? (cs : List Char) : Option (Int × List Char) :=
  match takeDigits 2 0 0 cs with
  | (hours, 2, rest) =>
    match takeDigits 2 0 0 (rest.dropWhile fun c => c == ':' || Text.isBlank c) with
    | (minutes, 2, after) =>
      if minutes < 60 then some (hours * 3600 + minutes * 60, after) else none
    | _ => none
  | _ => none

/-- An offset from UTC in seconds: `Z`, `UTC`, or an amount after a sign. -/
def offset? (cs : List Char) : Option (Int × List Char) :=
  match cs with
  | [] => none
  | c :: rest =>
    if (cs.take 3).map Char.toUpper = ['U', 'T', 'C'] then some (0, cs.drop 3)
    else if c = 'Z' ∨ c = 'z' then some (0, rest)
    else if c = '+' then offsetAmount? rest
    else if c = '-' ∨ c = '\u2212' then (offsetAmount? rest).map fun r => (-r.1, r.2)
    else none

/-- The instant at a time of day in a zone, if there is such a day and such a time. Second sixty is
the leap second after second fifty-nine. -/
def ofParts? (day : Day) (hour minute second nanos : Nat) (offset : Int) : Option Instant :=
  let inCalendar := yearRange.1 ≤ day.year ∧ day.year ≤ yearRange.2 ∧ 1 ≤ day.month ∧
    day.month ≤ 12 ∧ 1 ≤ day.day ∧ day.day ≤ daysInMonth day.year day.month
  let onClock := hour < 24 ∧ minute < 60 ∧ second ≤ 60 ∧ -86400 < offset ∧ offset < 86400
  if inCalendar ∧ onClock then
    let leap := second = 60
    let seconds := day.number * 86400 + hour * 3600 + minute * 60 +
      (if leap then 59 else second : Nat) - offset
    let onDay := seconds / 86400
    if dayRange.1 ≤ onDay ∧ onDay ≤ dayRange.2 then
      some ⟨seconds, if leap then nanos + 1000000000 else nanos⟩
    else none
  else none

def read? (s : String) : Option Instant := do
  let (year, cs) ← year? s.toList
  let cs ← mark? '-' cs
  let (month, cs) ← number? 2 cs
  let cs ← mark? '-' cs
  let (day, cs) ← number? 2 cs
  let cs ← match cs with
    | c :: rest => if c = 'T' ∨ c = 't' ∨ c = ' ' then some rest else none
    | [] => none
  let (hour, cs) ← number? 2 cs
  let cs ← mark? ':' cs
  let (minute, cs) ← number? 2 cs
  let cs ← mark? ':' cs
  let (second, cs) ← number? 2 cs
  let (nanos, cs) ← fraction? cs
  let (offset, cs) ← offset? (Text.trimStart cs)
  if (Text.trimStart cs).isEmpty then
    ofParts? ⟨year, month, day⟩ hour minute second nanos offset
  else none

/-! ## Writing -/

/-- A year in four digits, or with its sign when four are not enough. -/
def yearText (year : Int) : List Char :=
  if 0 ≤ year ∧ year ≤ 9999 then Text.padded 4 year.toNat
  else (if year < 0 then '-' else '+') :: Text.padded 4 year.natAbs

/-- The fraction of a second in the fewest of none, three, six or nine digits. -/
def fractionText (nanos : Nat) : List Char :=
  if nanos = 0 then []
  else if nanos % 1000000 = 0 then '.' :: Text.padded 3 (nanos / 1000000)
  else if nanos % 1000 = 0 then '.' :: Text.padded 6 (nanos / 1000)
  else '.' :: Text.padded 9 nanos

/-- The text of an instant, in UTC. -/
def text (t : Instant) : String :=
  let day := Day.ofNumber (t.seconds / 86400)
  let clock := (t.seconds % 86400).toNat
  let leap := 1000000000 ≤ t.nanos
  let second := clock % 60 + if leap then 1 else 0
  let nanos := if leap then t.nanos - 1000000000 else t.nanos
  String.ofList (yearText day.year ++ ['-'] ++ Text.padded 2 day.month ++ ['-'] ++
    Text.padded 2 day.day ++ ['T'] ++ Text.padded 2 (clock / 3600) ++ [':'] ++
    Text.padded 2 (clock / 60 % 60) ++ [':'] ++ Text.padded 2 second ++ fractionText nanos ++ ['Z'])

end Instant

end OfferDispatch

/-!
# Instants and their stamps

An instant is a second of the proleptic Gregorian calendar in universal time. Its stamp writes the
date and the time of day without separators, `YYYYMMDDHHmmss`. Fractions of a second are left out:
a shift is by whole seconds, so that it keeps the fraction, fails or not for the seconds alone, and
a stamp does not show what is beyond the second.
-/

namespace DomainModel

/-- A second, counted from the start of 1970. -/
structure Instant where
  seconds : Int
  /-- The first instant is the start of the year -262143. -/
  lower : -8334601228800 ≤ seconds := by decide
  /-- The last instant is the end of the year 262142. -/
  upper : seconds ≤ 8210266876799 := by decide
  deriving DecidableEq, Repr

/-- Why an instant cannot be shifted. -/
inductive ShiftError where
  /-- The shift is longer than any span of time that can be measured. -/
  | span
  /-- There is no instant that far away. -/
  | instant
  deriving DecidableEq, Repr

/-- The message of a shift that fails. -/
def ShiftError.message : ShiftError → String
  | span => "TimeDelta::seconds out of bounds"
  | instant => "`DateTime + TimeDelta` overflowed"

namespace Instant

def maxSpan : Nat := 9223372036854775

/-- The instant of a count of seconds, if it is one. -/
def ofSeconds? (seconds : Int) : Option Instant :=
  if h : -8334601228800 ≤ seconds ∧ seconds ≤ 8210266876799 then some ⟨seconds, h.1, h.2⟩ else none

/-- The instant a number of seconds later. -/
def shift (t : Instant) (seconds : Int) : Except ShiftError Instant :=
  if maxSpan < seconds.natAbs then .error .span
  else
    match ofSeconds? (t.seconds + seconds) with
    | some t' => .ok t'
    | none => .error .instant

end Instant

/-- A day of the calendar. -/
structure Date where
  year : Int
  month : Int
  day : Int
  deriving DecidableEq, Repr

namespace Date

/-- The day a number of days after the start of 1970. Years are taken to begin in March, so that
the leap day is the last of its year; a cycle of 400 years has 146097 days. -/
def ofDays (days : Int) : Date :=
  let shifted := days + 719468
  let cycle := shifted / 146097
  let dayOfCycle := shifted % 146097
  let yearOfCycle :=
    (dayOfCycle - dayOfCycle / 1460 + dayOfCycle / 36524 - dayOfCycle / 146096) / 365
  let dayOfYear := dayOfCycle - (365 * yearOfCycle + yearOfCycle / 4 - yearOfCycle / 100)
  -- from March on, five months in a row have 153 days
  let marchMonth := (5 * dayOfYear + 2) / 153
  let month := if marchMonth < 10 then marchMonth + 3 else marchMonth - 9
  { year := yearOfCycle + cycle * 400 + if month ≤ 2 then 1 else 0
    month := month
    day := dayOfYear - (153 * marchMonth + 2) / 5 + 1 }

end Date

namespace Instant

/-- At least `width` digits of a number, with zeros in front. -/
def padded (width n : Nat) : List Char :=
  let digits := Nat.toDigits 10 n
  List.replicate (width - digits.length) '0' ++ digits

/-- A year in four digits; one before year 0 or after year 9999 has a sign as well. -/
def yearText (year : Int) : List Char :=
  if 0 ≤ year ∧ year ≤ 9999 then padded 4 year.natAbs
  else (if year < 0 then '-' else '+') :: padded 4 year.natAbs

/-- The stamp of an instant, as a list of characters. -/
def stampChars (t : Instant) : List Char :=
  let date := Date.ofDays (t.seconds / 86400)
  let time := t.seconds % 86400
  yearText date.year ++ padded 2 date.month.natAbs ++ padded 2 date.day.natAbs
    ++ padded 2 (time / 3600).natAbs ++ padded 2 (time / 60 % 60).natAbs
    ++ padded 2 (time % 60).natAbs

/-- The stamp of an instant: its date and time of day, `YYYYMMDDHHmmss`. -/
def stamp (t : Instant) : String := String.ofList t.stampChars

/-- The stamp of the instant a number of seconds later. -/
def changelogStamp (t : Instant) (seconds : Int) : Except ShiftError String :=
  stamp <$> t.shift seconds

end Instant

end DomainModel

/-!
# Points in time

An instant counts microseconds from the start of 1970. Its texts use the calendar of
the Gregorian rules; all of them are in UTC.
-/

namespace ChatService

/-- A point in time, in microseconds since 1970-01-01T00:00:00 UTC. -/
structure Instant where
  micros : Int
deriving DecidableEq, Repr

namespace Instant

structure Date where
  year : Int
  month : Nat
  day : Nat
deriving DecidableEq, Repr

/-- The date that lies a number of days after 1970-01-01. Years are counted from March, so that the leap
day is the last one. -/
def Date.ofDays (days : Int) : Date :=
  let z := days + 719468
  let era := z.fdiv 146097
  let dayOfEra := (z - era * 146097).toNat
  let yearOfEra := (dayOfEra - dayOfEra / 1460 + dayOfEra / 36524 - dayOfEra / 146096) / 365
  let dayOfYear := dayOfEra - (365 * yearOfEra + yearOfEra / 4 - yearOfEra / 100)
  let monthFromMarch := (5 * dayOfYear + 2) / 153
  let month := if monthFromMarch < 10 then monthFromMarch + 3 else monthFromMarch - 9
  { year := yearOfEra + era * 400 + (if month ≤ 2 then 1 else 0)
    month := month
    day := dayOfYear - (153 * monthFromMarch + 2) / 5 + 1 }

/-- Whole seconds since the start of 1970. -/
def seconds (t : Instant) : Int := t.micros.fdiv 1000000

def subsecond (t : Instant) : Nat := (t.micros - t.seconds * 1000000).toNat

def date (t : Instant) : Date := Date.ofDays (t.seconds.fdiv 86400)

def secondOfDay (t : Instant) : Nat := (t.seconds - t.seconds.fdiv 86400 * 86400).toNat

def padded (width n : Nat) : String :=
  let digits := Nat.toDigits 10 n
  String.ofList (List.replicate (width - digits.length) '0' ++ digits)

/-- The date as year, month and day. -/
def dateText (t : Instant) : String :=
  padded 4 t.date.year.toNat ++ "-" ++ padded 2 t.date.month ++ "-" ++ padded 2 t.date.day

def minuteText (t : Instant) : String :=
  padded 2 (t.secondOfDay / 3600) ++ ":" ++ padded 2 (t.secondOfDay / 60 % 60)

def clockText (t : Instant) : String := t.minuteText ++ ":" ++ padded 2 (t.secondOfDay % 60)

/-- Date and time without a zone. Microseconds are written only when there are some. -/
def localText (t : Instant) : String :=
  t.dateText ++ "T" ++ t.clockText ++ (if t.subsecond = 0 then "" else "." ++ padded 6 t.subsecond)

/-- Date and time with the zone. -/
def text (t : Instant) : String := t.localText ++ "+00:00"

/-- The date and the minute, for sentences. -/
def spokenText (t : Instant) : String := t.dateText ++ " " ++ t.minuteText

/-- The seconds that a steady clock shows which was started with the year 1970 and ticks once a second. -/
def uptime (t : Instant) : Float := Float.ofInt t.seconds

/-- The instant some microseconds later. -/
def after (t : Instant) (micros : Nat) : Instant := ⟨t.micros + micros⟩

def addHours (t : Instant) (hours : Int) : Instant := ⟨t.micros + hours * 3600000000⟩

/-- Whether the calendar has the instant: its years are those from 1 to 9999. -/
def isDated (t : Instant) : Bool := -62135596800000000 ≤ t.micros && t.micros < 253402300800000000

end Instant

end ChatService

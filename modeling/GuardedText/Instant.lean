import GuardedText.Number

/-! Points in time, in milliseconds from the start of 1970 in universal time, and their texts. Years
follow the Gregorian rule without end in both directions. -/

namespace GuardedText

/-- A time within a hundred million days of the start of 1970. -/
structure Instant where
  millis : Int
  deriving DecidableEq, Repr

namespace Instant

/-- The instant a number of milliseconds names, fractions dropped; `none` beyond the range. -/
def ofMillis? (x : Number) : Option Instant :=
  x.truncate?.bind fun n => if n.natAbs ≤ 8640000000000000 then some ⟨n⟩ else none

def daysOf (t : Instant) : Int :=
  t.millis.fdiv 86400000

/-- Milliseconds since midnight. -/
def timeOfDay (t : Instant) : Nat :=
  (t.millis.fmod 86400000).toNat

/-- Year, month and day of month of a day counted from 1 January 1970. Eras of 400 years begin on
1 March, so that a leap day is the last of its year. -/
def civil (days : Int) : Int × Nat × Nat :=
  let shifted := days + 719468
  let era := shifted.fdiv 146097
  let doe := (shifted.fmod 146097).toNat
  let yoe := (doe - doe / 1460 + doe / 36524 - doe / 146096) / 365
  let doy := doe - (365 * yoe + yoe / 4 - yoe / 100)
  let mp := (5 * doy + 2) / 153
  let day := doy - (153 * mp + 2) / 5 + 1
  let month := if mp < 10 then mp + 3 else mp - 9
  let year := (yoe : Int) + era * 400 + if month ≤ 2 then 1 else 0
  (year, month, day)

def padDigits (width n : Nat) : String :=
  let s := toString n
  String.ofList (List.replicate (width - s.length) '0') ++ s

/-- Four digits from year 0 to 9999, else a sign and six. -/
def yearText (year : Int) : String :=
  if 0 ≤ year ∧ year ≤ 9999 then padDigits 4 year.toNat
  else (if year < 0 then "-" else "+") ++ padDigits 6 year.natAbs

def clockText (ms : Nat) : String :=
  padDigits 2 (ms / 3600000) ++ ":" ++ padDigits 2 (ms / 60000 % 60) ++ ":" ++
    padDigits 2 (ms / 1000 % 60)

/-- The ISO 8601 text with milliseconds, in universal time. -/
def isoText (t : Instant) : String :=
  let (year, month, day) := civil t.daysOf
  yearText year ++ "-" ++ padDigits 2 month ++ "-" ++ padDigits 2 day ++ "T" ++
    clockText t.timeOfDay ++ "." ++ padDigits 3 (t.timeOfDay % 1000) ++ "Z"

def weekdays : List String := ["Thu", "Fri", "Sat", "Sun", "Mon", "Tue", "Wed"]

def months : List String :=
  ["Jan", "Feb", "Mar", "Apr", "May", "Jun", "Jul", "Aug", "Sep", "Oct", "Nov", "Dec"]

/-- The text with weekday and zone, in universal time. -/
def longText (t : Instant) : String :=
  let (year, month, day) := civil t.daysOf
  weekdays.getD (t.daysOf.fmod 7).toNat "" ++ " " ++ months.getD (month - 1) "" ++ " " ++
    padDigits 2 day ++ " " ++ (if year < 0 then "-" else "") ++ padDigits 4 year.natAbs ++ " " ++
    clockText t.timeOfDay ++ " GMT+0000 (Coordinated Universal Time)"

end Instant

end GuardedText

import GuardedText.Instant
import GuardedText.Text.Blank

/-! Times that are written down. The standard form is `2024-03-01T12:00:00.000Z`, of which a day
or a month and the parts after them can be left out. Any other text is read loosely: numbers before
colons are hours and minutes, names of months, halves of the day and zones are known, words before
the first number and texts in parentheses count for nothing, and what is left are the numbers of
the day. Without a zone a time is in universal time. -/

namespace GuardedText.Instant

namespace Written

/-- A piece of a written time. Numbers and zones come with the count of their characters. -/
inductive Token where
  | number (n length : Nat)
  | sign (c : Char)
  | month (n : Nat)
  /-- The half of the day that begins after so many hours. -/
  | half (hours : Nat)
  /-- A zone that is so many hours ahead. -/
  | zone (hours : Int) (length : Nat)
  /-- What stands before the clock in the standard form. -/
  | separator
  | word
  | blank
  | other
  deriving DecidableEq, Repr

def monthNames : List String :=
  ["jan", "feb", "mar", "apr", "may", "jun", "jul", "aug", "sep", "oct", "nov", "dec"]

/-- The words that count if nothing follows them. -/
def shortWords : List (String × Token) := [
  ("am", .half 0), ("pm", .half 12), ("t", .separator),
  ("ut", .zone 0 2), ("utc", .zone 0 3), ("z", .zone 0 1), ("gmt", .zone 0 3),
  ("cdt", .zone (-5) 3), ("cst", .zone (-6) 3), ("edt", .zone (-4) 3), ("est", .zone (-5) 3),
  ("mdt", .zone (-6) 3), ("mst", .zone (-7) 3), ("pdt", .zone (-7) 3), ("pst", .zone (-8) 3)]

/-- A word in any letter case. The first three letters of a month are enough. -/
def wordToken (word : List Char) : Token :=
  let start := String.ofList ((word.take 3).map Char.toLower)
  match monthNames.idxOf? start with
  | some i => .month (i + 1)
  | none => if word.length ≤ 3 then (shortWords.lookup start).getD .word else .word

/-- The number that digits write, of which nine count after the zeros in front. -/
def numberToken (digits : List Char) : Token :=
  let counting := (digits.dropWhile (· = '0')).take 9
  .number (counting.foldl (fun n d => 10 * n + (d.toNat - '0'.toNat)) 0) digits.length

/-- What a reader of tokens is in the middle of. Digits and words are reversed. -/
inductive Run where
  | nothing
  | digits (before : List Char)
  | word (before : List Char)
  | parentheses (depth : Nat)

def Run.tokens : Run → List Token
  | .nothing => []
  | .digits before => [numberToken before.reverse]
  | .word before => [wordToken before.reverse]
  | .parentheses _ => [.other]

def isWordChar (c : Char) : Bool :=
  'A' ≤ c && !Text.isBlank c

/-- A character outside digits, words and parentheses. -/
def charToken (c : Char) : Token :=
  match Text.isBlank c, [':', '-', '+', '.', ')'].contains c with
  | true, _ => .blank
  | false, true => .sign c
  | false, false => .other

/-- The tokens of a text, of which the first has been begun. -/
def scan (run : Run) : List Char → List Token
  | [] => run.tokens
  | c :: rest =>
    match run, c.isDigit, isWordChar c with
    | .parentheses depth, _, _ =>
      if c = '(' then scan (.parentheses (depth + 1)) rest
      else if c ≠ ')' then scan run rest
      else if 1 < depth then scan (.parentheses (depth - 1)) rest
      else run.tokens ++ scan .nothing rest
    | .digits before, true, _ => scan (.digits (c :: before)) rest
    | run, true, _ => run.tokens ++ scan (.digits [c]) rest
    | .word before, false, true => scan (.word (c :: before)) rest
    | run, false, true => run.tokens ++ scan (.word [c]) rest
    | run, false, false =>
      run.tokens ++
        if c = '(' then scan (.parentheses 1) rest else charToken c :: scan .nothing rest

/-- What is known of a time: up to three numbers of the day and up to four of the clock, the month
if it has been named, whether the form is the standard one, the half of the day, and the distance
from universal time. -/
structure Parts where
  day : List Int
  clock : List Nat
  month : Option Nat
  standard : Bool
  half : Option Nat
  behind : Bool
  hours : Option Nat
  minutes : Option Nat

namespace Parts

def ofDay (day : List Int) : Parts :=
  ⟨day, [], none, false, none, false, none, none⟩

def addDay? (p : Parts) (n : Int) : Option Parts :=
  if p.day.length < 3 then some { p with day := p.day ++ [n] } else none

def addClock? (p : Parts) (n : Nat) : Option Parts :=
  if p.clock.length < 4 then some { p with clock := p.clock ++ [n] } else none

/-- The four numbers of the clock, with zeros for what is missing. What there is no place for counts
for nothing. -/
def fullClock (clock : List Nat) : List Nat :=
  (clock ++ List.replicate 4 0).take 4

/-- The clock is complete with these numbers. -/
def closeClock (p : Parts) (last : List Nat) : Parts :=
  { p with clock := fullClock (p.clock ++ last) }

/-- Whether a number can go on a clock that has been begun. -/
def clockTakes (p : Parts) (n : Nat) : Bool :=
  match p.clock.length with
  | 1 | 2 => n < 60
  | 3 => n < 1000
  | _ => false

/-- Whether a number can be the minutes of a distance whose hours are known. -/
def zoneTakes (p : Parts) (n : Nat) : Bool :=
  p.hours.isSome && p.minutes.isNone && n < 60

def setZone (p : Parts) (behind : Bool) (hours : Nat) (minutes : Option Nat) : Parts :=
  { p with behind, hours := some hours, minutes }

def inZone (p : Parts) (hours : Int) : Parts :=
  p.setZone (hours < 0) hours.natAbs (some 0)

def isUniversal (p : Parts) : Bool :=
  p.hours == some 0 && p.minutes == some 0

def isDay (n : Int) : Bool :=
  1 ≤ n && n ≤ 31

/-- Year, month and day. Three numbers that do not begin with a day begin with the year. -/
def date (p : Parts) (a b c : Int) : Int × Int × Int :=
  match p.month, isDay a with
  | some month, true => (b, month, a)
  | some month, false => (a, month, b)
  | none, first => if p.standard || !first then (a, b, c) else (c, a, b)

/-- Loosely written years below 50 are in this century and those below 100 in the last. -/
def fullYear (p : Parts) (year : Int) : Int :=
  if p.standard || year < 0 || 100 ≤ year then year
  else if year < 50 then year + 2000
  else year + 1900

/-- Milliseconds since midnight. The day may end with the hour 24. -/
def clockMillis? (p : Parts) : Option Nat :=
  match fullClock p.clock with
  | [hour, minute, second, milli] =>
    let inHalf := p.half.all fun _ => hour ≤ 12
    let hour := p.half.elim hour fun half => hour % 12 + half
    let inDay := hour < 24 && minute < 60 && second < 60 && milli < 1000
    if inHalf && (inDay || [hour, minute, second, milli] == [24, 0, 0, 0]) then
      some (((hour * 60 + minute) * 60 + second) * 1000 + milli)
    else none
  | _ => none

/-- The days from 1 January 1970 to a day of a month, which may lie behind its end. -/
def daysTo (year month day : Int) : Int :=
  let year := if month ≤ 2 then year - 1 else year
  let era := year.fdiv 400
  let yearOfEra := year - era * 400
  let dayOfYear := (153 * ((month + 9) % 12) + 2) / 5 + day - 1
  era * 146097 + yearOfEra * 365 + yearOfEra / 4 - yearOfEra / 100 + dayOfYear - 719468

/-- The distance of the zone from universal time in milliseconds. Its seconds are counted in 32
bits, of which the first is not used. -/
def distance? (p : Parts) : Option Int :=
  let seconds := (p.hours.getD 0 * 3600 + p.minutes.getD 0 * 60) % 0x100000000
  if seconds < 0x80000000 then some (if p.behind then -1000 * seconds else 1000 * seconds)
  else none

/-- The milliseconds since 1970. Numbers of the day that are missing are one. -/
def millis? (p : Parts) : Option Int :=
  match p.day, p.day ++ List.replicate (3 - p.day.length) 1, p.clockMillis?, p.distance? with
  | _ :: _, [a, b, c], some clock, some distance =>
    let (year, month, day) := p.date a b c
    if isDay day && 1 ≤ month && month ≤ 12 then
      some (daysTo (p.fullYear year) month day * 86400000 + clock - distance)
    else none
  | _, _, _, _ => none

end Parts

/-- The thousandths that the digits after a point write, of which the first three count. -/
def thousandths (n length : Nat) : Nat :=
  match length with
  | 1 => n * 100
  | 2 => n * 10
  | length => n / Nat.pow 10 (min length 9 - 3)

/-- The tokens without a sign at the beginning, if it is this one. -/
def dropSign (c : Char) : List Token → List Token
  | .sign d :: rest => if c = d then rest else .sign d :: rest
  | rest => rest

/-- Whether a clock that has just been completed can end before these tokens. -/
def endsClock : List Token → Bool
  | [] | .blank :: _ | .zone _ 1 :: _ | .sign '+' :: _ | .sign '-' :: _ => true
  | _ => false

/-- Takes a number that no colon follows. -/
def takeNumber (p : Parts) (n : Nat) (rest : List Token) : Option (Parts × List Token) :=
  match p.clockTakes n, rest with
  | true, .sign '.' :: .number m length :: rest =>
    some (p.closeClock [n, thousandths m length], rest)
  | true, .sign '.' :: _ => none
  | clockTakes, rest =>
    let rest := dropSign '.' rest
    if p.zoneTakes n then some ({ p with minutes := some n }, rest)
    else if clockTakes then
      match endsClock rest with
      | true => some (p.closeClock [n], rest)
      | false => none
    else (p.addDay? n).map fun p => (p, dropSign '-' rest)

/-- Takes a distance from universal time: hours before a colon, hours, or hours and minutes. -/
def takeDistance (p : Parts) (behind : Bool) (rest : List Token) : Option (Parts × List Token) :=
  let (n, length, rest) := match rest with
    | .number n length :: rest => (n, length, rest)
    | rest => (0, 0, rest)
  match length, rest with
  | _, .sign ':' :: _ => some (p.setZone behind n none, rest)
  | 1, _ | 2, _ => some (p.setZone behind n (some 0), rest)
  | 3, _ | 4, _ => some (p.setZone behind (n / 100) (some (n % 100)), rest)
  | _, _ => none

/-- Takes a word that says nothing. It stands before the first number and apart from it. -/
def takeWord (p : Parts) (hasNumber : Bool) (rest : List Token) :
    Option (Parts × Bool × List Token) :=
  match hasNumber, rest with
  | true, _ | false, .number _ _ :: _ => none
  | false, _ => some (p, false, rest)

/-- Takes the first of the tokens, with those that belong to it. The flag says whether there has
been a number. -/
def takeToken (p : Parts) (hasNumber : Bool) (first : Token) (rest : List Token) :
    Option (Parts × Bool × List Token) :=
  match first, rest with
  | .number n _, .sign ':' :: .sign ':' :: rest =>
    match p.clock with
    | [] => some ({ p with clock := [n, 0] }, true, rest)
    | _ => none
  | .number n _, .sign ':' :: rest => (p.addClock? n).map fun p => (p, true, dropSign '.' rest)
  | .number n _, rest => (takeNumber p n rest).map fun (p, rest) => (p, true, rest)
  | .month n, rest => some ({ p with month := some n }, hasNumber, dropSign '-' rest)
  | .half hours, rest =>
    match p.clock with
    | [] => takeWord p hasNumber rest
    | _ => some ({ p with half := some hours }, hasNumber, rest)
  | .zone hours _, rest =>
    match hasNumber with
    | true => some (p.inZone hours, true, rest)
    | false => takeWord p false rest
  | .separator, rest | .word, rest => takeWord p hasNumber rest
  | .blank, rest | .other, rest => some (p, hasNumber, rest)
  | .sign c, rest =>
    let isDirection := c == '+' || c == '-'
    let begins := isDirection && (p.isUniversal || p.clock != [])
    match begins, (isDirection || c == ')') && hasNumber with
    | true, _ => (takeDistance p (c == '-') rest).map fun (p, rest) => (p, true, rest)
    | false, true => none
    | false, false => some (p, hasNumber, rest)

/-- The parts that tokens add, taken in at most so many steps. -/
def readLoosely : (steps : Nat) → Parts → (hasNumber : Bool) → List Token → Option Parts
  | 0, p, _, _ => some p
  | _, p, _, [] => some p
  | steps + 1, p, hasNumber, first :: rest =>
    (takeToken p hasNumber first rest).bind fun (p, hasNumber, rest) =>
      readLoosely steps p hasNumber rest

/-- The day at the beginning of the standard form, after its year, and whether nothing is wrong with
it so far. -/
def takeDay (year : Int) : List Token → Parts × Bool × List Token
  | .sign '-' :: .number month 2 :: rest =>
    match decide (1 ≤ month ∧ month ≤ 12), rest with
    | false, _ => (.ofDay [year], false, .number month 2 :: rest)
    | true, .sign '-' :: .number day 2 :: rest =>
      if 1 ≤ day ∧ day ≤ 31 then (.ofDay [year, month, day], true, rest)
      else (.ofDay [year, month], false, .number day 2 :: rest)
    | true, .sign '-' :: rest => (.ofDay [year, month], false, rest)
    | true, rest => (.ofDay [year, month], true, rest)
  | .sign '-' :: rest => (.ofDay [year], false, rest)
  | rest => (.ofDay [year], true, rest)

/-- The zone at the end of the standard form. -/
def takeZone? (p : Parts) : List Token → Option Parts
  | [] => some p
  | [.zone 0 1] => some (p.inZone 0)
  | [.sign c, .number n 4] => offset? c (n / 100) (n % 100)
  | [.sign c, .number hours 2, .sign ':', .number minutes 2] => offset? c hours minutes
  | _ => none
where
  /-- A distance in whole minutes of less than a day. -/
  offset? (c : Char) (hours minutes : Nat) : Option Parts :=
    if (c = '+' ∨ c = '-') ∧ hours < 24 ∧ minutes < 60 then
      some (p.setZone (c == '-') hours (some minutes))
    else none

/-- Puts hour, minute, second and a fraction of a second on the clock, and reads the zone. Of the
hour 24 there is only the beginning. -/
def takeClockOf (p : Parts) (hour minute second fraction milli : Nat) (rest : List Token) :
    Option Parts :=
  let inDay := hour < 24 && minute < 60 && second < 60
  match inDay || [hour, minute, second, fraction] == [24, 0, 0, 0] with
  | true => takeZone? { p with clock := [hour, minute, second, milli] } rest
  | false => none

/-- The clock and the zone of the standard form. -/
def takeClock? (p : Parts) : List Token → Option Parts
  | .number hour 2 :: .sign ':' :: .number minute 2 :: .sign ':' :: .number second 2 ::
      .sign '.' :: .number n length :: rest =>
    takeClockOf p hour minute second n (thousandths n length) rest
  | .number hour 2 :: .sign ':' :: .number minute 2 :: .sign ':' :: .number second 2 :: rest =>
    takeClockOf p hour minute second 0 0 rest
  | .number hour 2 :: .sign ':' :: .number minute 2 :: rest => takeClockOf p hour minute 0 0 0 rest
  | _ => none

/-- Reads a time whose year is known, in the standard form as far as possible. What has a clock in
that form is read in no other. -/
def readFromYear (year : Int) (tokens : List Token) : Option Parts :=
  match takeDay year tokens with
  | (p, true, []) => some ({ p with standard := true }.inZone 0)
  | (p, true, .separator :: rest) => takeClock? { p with standard := true } rest
  | (p, _, rest) => readLoosely rest.length p true rest

def readTokens (tokens : List Token) : Option Parts :=
  match tokens with
  | .number n 4 :: rest => readFromYear n rest
  | .sign '+' :: .number n 6 :: rest => readFromYear n rest
  | .sign '-' :: .number 0 6 :: rest =>
    readLoosely tokens.length (.ofDay []) false (.sign '-' :: rest)
  | .sign '-' :: .number n 6 :: rest => readFromYear (-n) rest
  | _ => readLoosely tokens.length (.ofDay []) false tokens

end Written

/-- The time that a text writes before its end or the first NUL. -/
def ofText? (s : String) : Option Instant :=
  let tokens := Written.scan .nothing (s.toList.takeWhile (· ≠ Char.ofNat 0))
  ((Written.readTokens tokens).bind Written.Parts.millis?).bind fun n =>
    if n.natAbs ≤ 8640000000000000 then some ⟨n⟩ else none

end GuardedText.Instant

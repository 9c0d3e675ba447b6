import GuardedText.Text.Lines
import GuardedText.Text.Units

/-! A text between quotes, as a message shows one it was given. Controls and the backslash are
escaped, and a long text is quoted line by line and cut. -/

namespace GuardedText.Text.Quoted

/-- The backward quote. -/
def backwardQuote : Char := Char.ofNat 0x60

/-- Whether a text holds a dollar sign before an opening brace. -/
def hasInsertion : List Char → Bool
  | '$' :: '\x7b' :: _ => true
  | _ :: rest => hasInsertion rest
  | [] => false

/-- The quote around a text: the single one, or the first other one that is fit if the text holds
that one. -/
def mark (s : List Char) : Char :=
  match s.contains '\'', s.contains '"', s.contains backwardQuote || hasInsertion s with
  | false, _, _ => '\''
  | true, false, _ => '"'
  | true, true, false => backwardQuote
  | true, true, true => '\''

def capitalHexDigit (n : Nat) : Char :=
  if n < 10 then Char.ofNat (0x30 + n) else Char.ofNat (0x37 + n)

def escape (mark c : Char) : List Char :=
  let n := c.toNat
  if c = '\\' ∨ (c = '\'' ∧ mark = '\'') then ['\\', c]
  else if c = '\n' then ['\\', 'n']
  else if c = '\r' then ['\\', 'r']
  else if c = '\t' then ['\\', 't']
  else if c = '\x08' then ['\\', 'b']
  else if c = '\x0c' then ['\\', 'f']
  else if n < 0x20 ∨ (0x7F ≤ n ∧ n < 0xA0) then
    ['\\', 'x', capitalHexDigit (n / 16), capitalHexDigit (n % 16)]
  else [c]

def quote (s : List Char) : List Char :=
  mark s :: s.flatMap (escape (mark s)) ++ [mark s]

/-- The lines of a text with the line feeds that end them. Nothing is left after the last. -/
def wholeLines (s : List Char) : List (List Char) :=
  match (splitFrom '\n' [] s).reverse with
  | [] => []
  | last :: before =>
    (before.reverse.map (· ++ ['\n'])) ++ if last = [] then [] else [last]

/-- The text on one line, or if that has more than 124 units, line by line. -/
def lines (s : List Char) : String :=
  if (s.flatMap unitsOf).length ≤ 124 then String.ofList (quote s)
  else " +\n  ".intercalate ((wholeLines s).map fun line => String.ofList (quote line))

/-- The quoted text, cut after 128 units. -/
def shown (s : String) : String :=
  let whole := lines s.toList
  if (units whole).length ≤ 128 then whole
  else String.ofList (charsOfUnits ((units whole).take 128)) ++ "..."

end GuardedText.Text.Quoted

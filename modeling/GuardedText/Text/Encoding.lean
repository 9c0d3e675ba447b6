import GuardedText.Text.Case
import GuardedText.Text.Units
import GuardedText.Text.Utf8

/-! Ways to see bytes as text, by their customary names. None of them fails: UTF-8 and UTF-16 have
a replacement character for what encodes nothing, and the others have a text for all bytes. The
bytes behind digits of base 64 and of base 16 are read from texts that may hold other characters. -/

namespace GuardedText.Text

inductive Encoding where
  | utf8 | utf16 | latin1 | ascii | base64 | base64Url | hexadecimal
  deriving DecidableEq, Repr

namespace Encoding

/-- The encoding of a name, in any letter case. -/
def ofName? (name : String) : Option Encoding :=
  [("utf8", utf8), ("utf-8", utf8), ("ucs2", utf16), ("ucs-2", utf16), ("utf16le", utf16),
    ("utf-16le", utf16), ("latin1", latin1), ("binary", latin1), ("ascii", ascii),
    ("base64", base64), ("base64url", base64Url), ("hex", hexadecimal)].lookup (lower name)

/-- The 16-bit units in bytes, the low byte of each first. A byte left over counts for nothing. -/
def pairUnits : List UInt8 → List Nat
  | low :: high :: rest => (low.toNat + 0x100 * high.toNat) :: pairUnits rest
  | _ => []

def hexDigits (b : UInt8) : List Char :=
  [Nat.digitChar (b.toNat / 16), Nat.digitChar (b.toNat % 16)]

/-- The digit for the last six bits: the capital letters, the small letters, the decimal digits,
`+` and `/`. -/
def sextet (n : Nat) : Char :=
  let n := n % 64
  if n < 26 then Char.ofNat (n + 0x41)
  else if n < 52 then Char.ofNat (n + 0x47)
  else if n < 62 then Nat.digitChar (n - 52)
  else if n = 62 then '+'
  else '/'

/-- Three bytes as four digits; at the end, two as three and one as two, filled up with `=`. -/
def sextets : List UInt8 → List Char
  | a :: b :: c :: rest =>
    let n := (a.toNat * 0x100 + b.toNat) * 0x100 + c.toNat
    sextet (n / 0x40000) :: sextet (n / 0x1000) :: sextet (n / 0x40) :: sextet n :: sextets rest
  | [a, b] =>
    let n := (a.toNat * 0x100 + b.toNat) * 4
    [sextet (n / 0x1000), sextet (n / 0x40), sextet n, '=']
  | [a] => [sextet (a.toNat / 4), sextet (a.toNat * 16), '=', '=']
  | [] => []

/-- The digit for six bits that needs no escape in an address, nothing for what fills up. -/
def addressDigit? : Char → Option Char
  | '+' => some '-'
  | '/' => some '_'
  | '=' => none
  | c => some c

/-- The text that bytes stand for. -/
def decode (e : Encoding) (bytes : List UInt8) : String :=
  match e with
  | utf8 => Utf8.decode bytes
  | utf16 => String.ofList (charsOfUnits (pairUnits bytes))
  | latin1 => String.ofList (bytes.map fun b => Char.ofNat b.toNat)
  | ascii => String.ofList (bytes.map fun b => Char.ofNat (b.toNat % 0x80))
  | base64 => String.ofList (sextets bytes)
  | base64Url => String.ofList ((sextets bytes).filterMap addressDigit?)
  | hexadecimal => String.ofList (bytes.flatMap hexDigits)

/-- What a digit stands for; the last two have two forms. -/
def sextetValue? (c : Char) : Option Nat :=
  let n := c.toNat
  if 0x41 ≤ n ∧ n ≤ 0x5A then some (n - 0x41)
  else if 0x61 ≤ n ∧ n ≤ 0x7A then some (n - 0x47)
  else if 0x30 ≤ n ∧ n ≤ 0x39 then some (n + 4)
  else if c = '+' ∨ c = '-' then some 62
  else if c = '/' ∨ c = '_' then some 63
  else none

/-- The whole bytes in groups of six bits. -/
def bytesOfSextets : List Nat → List UInt8
  | a :: b :: c :: d :: rest =>
    UInt8.ofNat (4 * a + b / 0x10) :: UInt8.ofNat (0x10 * b + c / 4) ::
      UInt8.ofNat (0x40 * c + d) :: bytesOfSextets rest
  | [a, b, c] => [UInt8.ofNat (4 * a + b / 0x10), UInt8.ofNat (0x10 * b + c / 4)]
  | [a, b] => [UInt8.ofNat (4 * a + b / 0x10)]
  | _ => []

/-- The bytes of the digits before the first `=`. What is no digit counts for nothing. -/
def bytesOfBase64 (s : List Char) : List UInt8 :=
  bytesOfSextets ((s.takeWhile (· ≠ '=')).filterMap sextetValue?)

def hexValue? (c : Char) : Option Nat :=
  let n := c.toNat
  if 0x30 ≤ n ∧ n ≤ 0x39 then some (n - 0x30)
  else if 0x41 ≤ n ∧ n ≤ 0x46 then some (n - 0x37)
  else if 0x61 ≤ n ∧ n ≤ 0x66 then some (n - 0x57)
  else none

/-- The byte that two digits write. -/
def hexByte? (high low : Char) : Option UInt8 :=
  match hexValue? high, hexValue? low with
  | some high, some low => some (UInt8.ofNat (0x10 * high + low))
  | _, _ => none

/-- The bytes of the pairs of digits that a text begins with. -/
def bytesOfHex : List Char → List UInt8
  | high :: low :: rest =>
    match hexByte? high low with
    | some b => b :: bytesOfHex rest
    | none => []
  | _ => []

end Encoding

end GuardedText.Text

/-! Blank characters, and cutting them off both ends of a text. Texts are lists of characters
here; the modules that hold `String`s convert at their border. -/

namespace GuardedText.Text

/-- The 25 blanks: the five controls from tab to carriage return, the space separators, the line
and paragraph separators and the zero-width no-break space. U+0085 and U+200B are not blank. -/
def isBlank (c : Char) : Bool :=
  let n := c.toNat
  (0x09 ≤ n && n ≤ 0x0D) || n == 0x20 || n == 0xA0 || n == 0x1680 ||
    (0x2000 ≤ n && n ≤ 0x200A) || n == 0x2028 || n == 0x2029 || n == 0x202F ||
    n == 0x205F || n == 0x3000 || n == 0xFEFF

/-- The text without its last characters, as many as satisfy `p` one after the other. -/
def dropEndWhile (p : Char → Bool) (s : List Char) : List Char :=
  (s.reverse.dropWhile p).reverse

def trim (s : List Char) : List Char :=
  dropEndWhile isBlank (s.dropWhile isBlank)

end GuardedText.Text

import GuardedText.Text.Blank

/-! Documents as lines. A document is cut at every line feed; a line loses the run of carriage
returns and line feeds at its end; and a rendered document loses one final line feed, the one that
its last line did not have in the source. -/

namespace GuardedText.Text

/-- The pieces between the separators, the first of them begun by `piece`, which is reversed. -/
def splitFrom (separator : Char) (piece : List Char) : List Char → List (List Char)
  | [] => [piece.reverse]
  | c :: rest =>
    if c = separator then piece.reverse :: splitFrom separator [] rest
    else splitFrom separator (c :: piece) rest

/-- The pieces of a text, one more than it has separators, so one of the empty text. -/
def split (separator : Char) (s : String) : List String :=
  (splitFrom separator [] s.toList).map String.ofList

def splitLines (s : String) : List String :=
  split '\n' s

theorem splitFrom_ne_nil (separator : Char) (piece s : List Char) :
    splitFrom separator piece s ≠ [] := by
  induction s generalizing piece with
  | nil => simp [splitFrom]
  | cons c rest ih =>
    rw [splitFrom]
    split
    · simp
    · exact ih _

theorem splitLines_ne_nil (s : String) : splitLines s ≠ [] := by
  simp [splitLines, split, splitFrom_ne_nil]

def isLineEnd (c : Char) : Bool :=
  c = '\r' || c = '\n'

/-- The four characters that begin a new line where text is shown. -/
def isBreak (c : Char) : Bool :=
  isLineEnd c || c.toNat == 0x2028 || c.toNat == 0x2029

def dropLineEnd (line : String) : String :=
  String.ofList (dropEndWhile isLineEnd line.toList)

/-- The text without its last character if that is a line feed. -/
def dropFinalBreak (s : String) : String :=
  match s.toList.reverse with
  | '\n' :: rest => String.ofList rest.reverse
  | _ => s

/-- What ends every stored line. -/
def lineBreak : String := "\n"

end GuardedText.Text

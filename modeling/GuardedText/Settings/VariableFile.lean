import GuardedText.Text.Lines

/-! Files of variables. Each setting, `NAME=value` or `NAME: value` with or without `export` in
front, begins on a line of its own; lines that set nothing are passed over. A value goes to the next
line feed or to a comment, which `#` begins, and is trimmed; between quotes it can hold `#` and go
on over several lines. -/

namespace GuardedText.VariableFile

/-- The text with a line feed for each line end. -/
def unifyLineEnds : List Char → List Char
  | [] => []
  | '\r' :: '\n' :: rest => '\n' :: unifyLineEnds rest
  | c :: rest => (if c = '\r' then '\n' else c) :: unifyLineEnds rest

def isNameChar (c : Char) : Bool :=
  c.isAlphanum || c = '_' || c = '.' || c = '-'

/-- The single, the double and the backward quote. -/
def quotes : List Char := ['\'', '"', Char.ofNat 0x60]

/-- Nothing but a comment follows before the line ends. -/
def endsLine (rest : List Char) : Bool :=
  match rest.dropWhile Text.isBlank with
  | [] => true
  | c :: _ => c == '#' || (rest.takeWhile Text.isBlank).any Text.isBreak

/-- The ways to close a quotation, each with the text inside and the text after it. The first quote
without a backslash before it is preferred, then those with one, the last of them first. -/
def closings (quote : Char) : List Char → List (List Char × List Char)
  | [] => []
  | '\\' :: c :: rest =>
    if c = quote then
      (closings quote rest).map (fun x => ('\\' :: c :: x.1, x.2)) ++ [(['\\'], rest)]
    else (closings quote (c :: rest)).map fun x => ('\\' :: x.1, x.2)
  | c :: rest =>
    if c = quote then [([], rest)]
    else (closings quote rest).map fun x => (c :: x.1, x.2)

/-- A quotation at the start of a text, with its quotes, and what follows it. -/
def quotation? (s : List Char) : Option (List Char × List Char) :=
  match s.dropWhile Text.isBlank with
  | [] => none
  | quote :: rest =>
    if quote ∈ quotes then
      ((closings quote rest).find? fun x => endsLine x.2).map fun x =>
        (quote :: x.1 ++ [quote], x.2)
    else none

/-- A value as it is written at the start of a text, and what follows it. -/
def written (s : List Char) : List Char × List Char :=
  (quotation? s).getD (s.span fun c => c ≠ '#' && c ≠ '\n')

/-- The text with line ends for the pairs of characters that stand for them. -/
def unescape : List Char → List Char
  | '\\' :: 'n' :: rest => '\n' :: unescape rest
  | '\\' :: 'r' :: rest => '\r' :: unescape rest
  | c :: rest => c :: unescape rest
  | [] => []

def startsBreak (s : List Char) : Bool :=
  match s with
  | [] => true
  | c :: _ => Text.isBreak c

/-- The text before the last quote that ends a line, and what follows it. -/
def lastClosing? (quote : Char) : List Char → Option (List Char × List Char)
  | [] => none
  | c :: rest =>
    match lastClosing? quote rest with
    | some (inner, after) => some (c :: inner, after)
    | none => if c = quote ∧ startsBreak rest then some ([], rest) else none

/-- The text without the quotes around it, or around those of its lines, at most as many as `lines`,
that begin with a quote up to the last that ends with the same. -/
def unquote : (lines : Nat) → List Char → List Char
  | 0, s => s
  | lines + 1, s =>
    let (inner, after) :=
      match s with
      | [] => ([], [])
      | c :: rest => ((if c ∈ quotes then lastClosing? c rest else none).getD ([], s))
    inner ++ after.takeWhile (!Text.isBreak ·) ++
      match after.dropWhile (!Text.isBreak ·) with
      | [] => []
      | c :: rest => c :: unquote lines rest

/-- What a written value says: no quotes around it and, if it begins with a double quote, line ends
for escapes. -/
def valueOf (written : List Char) : List Char :=
  let inner := unquote (written.countP Text.isBreak + 1) written
  if written.head? = some '"' then unescape inner else inner

/-- What follows the sign between a name and its value. -/
def afterSign? (s : List Char) : Option (List Char) :=
  match s, s.dropWhile Text.isBlank with
  | _, '=' :: rest => some rest
  | ':' :: c :: rest, _ => if Text.isBlank c then some rest else none
  | _, _ => none

/-- The variable that a text sets at its start, and what follows. -/
def setting? (s : List Char) : Option ((String × String) × List Char) :=
  match s.span isNameChar with
  | ([], _) => none
  | (name, rest) =>
    (afterSign? rest).map fun rest =>
      ((String.ofList name, String.ofList (valueOf (Text.trim (written rest).1))),
        (written rest).2)

/-- What follows the word `export` and blanks. -/
def afterExport? (s : List Char) : Option (List Char) :=
  match s with
  | 'e' :: 'x' :: 'p' :: 'o' :: 'r' :: 't' :: c :: rest =>
    if Text.isBlank c then some (rest.dropWhile Text.isBlank) else none
  | _ => none

/-- The variable that is set on the line at the start of a text, and what follows. -/
def lineSetting? (s : List Char) : Option ((String × String) × List Char) :=
  let s := s.dropWhile Text.isBlank
  match (afterExport? s).bind setting? with
  | some found => some found
  | none => setting? s

def dropLine (s : List Char) : List Char :=
  (s.dropWhile (!Text.isBreak ·)).drop 1

/-- The variables that are set on the lines of a text, at most as many as `lines`. -/
def settings : (lines : Nat) → List Char → List (String × String)
  | 0, _ => []
  | lines + 1, s =>
    match lineSetting? s with
    | none => settings lines (dropLine s)
    | some (found, rest) => found :: settings lines (dropLine rest)

/-- The variables that a text sets, each of which takes a line at least. `__proto__` names none. -/
def read (text : String) : List (String × String) :=
  let s := unifyLineEnds text.toList
  (settings (s.countP Text.isBreak + 1) s).filter (·.1 ≠ "__proto__")

end GuardedText.VariableFile

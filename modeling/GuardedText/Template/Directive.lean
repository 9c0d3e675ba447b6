import GuardedText.Text.Blank
import GuardedText.Text.Case

/-! Directive lines. A line is a directive iff, trimmed, it starts with the directive prefix. Its
first word, up to the first blank, must then be the prefix followed by one of four keywords, in any
letter case of the whole; what remains, trimmed, is the argument. -/

namespace GuardedText.Template

/-- The keywords `if`, `elif`, `else` and `endif`. -/
inductive Keyword where
  | start | elif | otherwise | finish
  deriving DecidableEq, Repr

namespace Keyword

def text : Keyword → String
  | .start => "if"
  | .elif => "elif"
  | .otherwise => "else"
  | .finish => "endif"

/-- The argument of `if` and `elif` is a guard and must not be blank. -/
def takesGuard : Keyword → Bool
  | .start | .elif => true
  | .otherwise | .finish => false

def all : List Keyword := [.start, .elif, .otherwise, .finish]

/-- A keyword as it is written under a prefix. -/
def spelling (directivePrefix : String) (k : Keyword) : String :=
  directivePrefix ++ k.text

/-- The keyword that a word stands for under a prefix, letter case aside. -/
def ofWord? (directivePrefix word : String) : Option Keyword :=
  all.find? fun k => Text.lower word == Text.lower (k.spelling directivePrefix)

end Keyword

/-- `ν` is what lines are numbered with. -/
structure Directive (ν : Type) where
  keyword : Keyword
  argument : String
  lineNumber : ν
  deriving DecidableEq, Repr

namespace Directive

variable {ν : Type}

/-- What is wrong with a directive, or with its place among the others. Words are as written in
the document, spellings those of the prefix in force. -/
inductive Reason (ν : Type) where
  | keywordMissing (directivePrefix : String)
  | unknown (word : String)
  | guardMissing (spelling : String)
  | unmatched (spelling : String) (needed : String)
  | misplaced (spelling : String) (after : String)
  | unclosed (needed : String) (spelling : String) (openedAt : ν)
  | reported (text : Option String)
  deriving DecidableEq, Repr

/-- A rejected directive line; `line` is the whole line without its line end, or empty where the
document ended too early. -/
structure Error (ν : Type) where
  lineNumber : ν
  line : String
  reason : Reason ν
  deriving DecidableEq, Repr

def Error.message [ToString ν] (e : Error ν) : String :=
  let place := "Line " ++ toString e.lineNumber ++ ": "
  match e.reason with
  | .keywordMissing p => place ++ "directive keyword missing after \"" ++ p ++ "\""
  | .unknown word => place ++ "unknown directive \"" ++ word ++ "\""
  | .guardMissing s => place ++ "\"" ++ s ++ "\" requires an expression"
  | .unmatched s needed =>
    place ++ "unexpected \"" ++ s ++ "\" without a matching \"" ++ needed ++ "\""
  | .misplaced s after => place ++ "unexpected \"" ++ s ++ "\" after \"" ++ after ++ "\""
  | .unclosed needed s openedAt =>
    "Missing \"" ++ needed ++ "\" for \"" ++ s ++ "\" on line " ++ toString openedAt
  | .reported (some text) => text
  | .reported none => "Invalid directive on line " ++ toString e.lineNumber ++ ": " ++ e.line

/-- The first word of a trimmed line and the trimmed rest. -/
def splitWord (trimmed : List Char) : List Char × List Char :=
  (trimmed.takeWhile (!Text.isBlank ·), Text.trim (trimmed.dropWhile (!Text.isBlank ·)))

/-- The directive that the first word and the rest of a line make, or what is wrong with them. -/
def ofWords (directivePrefix line : String) (lineNumber : ν) (word argument : List Char) :
    Except (Error ν) (Directive ν) :=
  match Keyword.ofWord? directivePrefix (String.ofList word) with
  | none =>
    .error ⟨lineNumber, line,
      if String.ofList word = directivePrefix then .keywordMissing directivePrefix
      else .unknown (String.ofList word)⟩
  | some k =>
    match k.takesGuard, argument with
    | true, [] => .error ⟨lineNumber, line, .guardMissing (k.spelling directivePrefix)⟩
    | _, _ => .ok ⟨k, String.ofList argument, lineNumber⟩

/-- The directive in a line that has lost its line end; `none` for a line of text. -/
def ofLine (directivePrefix line : String) (lineNumber : ν) :
    Except (Error ν) (Option (Directive ν)) :=
  let trimmed := Text.trim line.toList
  match directivePrefix.toList.isPrefixOf trimmed with
  | false => .ok none
  | true =>
    (ofWords directivePrefix line lineNumber (splitWord trimmed).1 (splitWord trimmed).2).map some

end Directive

end GuardedText.Template

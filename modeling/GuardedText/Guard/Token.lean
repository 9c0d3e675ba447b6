import GuardedText.Text.Case

/-! Tokens of the guard language. Only the space U+0020 separates; each parenthesis is a token of
its own; every other character, a tab included, belongs to a word. The words `and`, `or` and `not`
are keywords in any letter case. -/

namespace GuardedText.Guard

inductive Keyword where
  | and | or | not
  deriving DecidableEq, Repr

def Keyword.text : Keyword → String
  | .and => "and"
  | .or => "or"
  | .not => "not"

def Keyword.ofText? (word : List Char) : Option Keyword :=
  if word = ['a', 'n', 'd'] then some .and
  else if word = ['o', 'r'] then some .or
  else if word = ['n', 'o', 't'] then some .not
  else none

inductive Token where
  | name (s : String)
  | keyword (k : Keyword)
  | opening
  | closing
  deriving DecidableEq, Repr

namespace Token

/-- The source text of a token, keywords in lower case. -/
def text : Token → String
  | .name s => s
  | .keyword k => k.text
  | .opening => "("
  | .closing => ")"

def ofWord (word : List Char) : Token :=
  match Keyword.ofText? (Text.lowerChars word) with
  | some k => .keyword k
  | none => .name (String.ofList word)

/-- Puts the word whose reversed characters are `word`, if it has any, before the tokens. -/
def endWord (word : List Char) (rest : List Token) : List Token :=
  match word with
  | [] => rest
  | _ => ofWord word.reverse :: rest

/-- The tokens from within a word whose reversed characters so far are `word`. -/
def scan (word : List Char) : List Char → List Token
  | [] => endWord word []
  | c :: rest =>
    if c = ' ' then endWord word (scan [] rest)
    else if c = '(' then endWord word (.opening :: scan [] rest)
    else if c = ')' then endWord word (.closing :: scan [] rest)
    else scan (c :: word) rest

end Token

def lex (text : String) : List Token :=
  Token.scan [] text.toList

end GuardedText.Guard

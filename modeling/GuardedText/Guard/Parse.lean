import GuardedText.Guard.Error
import GuardedText.Guard.Expr

/-! Reading guard expressions by recursive descent:

    disjunction := conjunction ("or" disjunction)?
    conjunction := factor ("and" factor)*
    factor      := "not" primary | primary
    primary     := NAME | "(" disjunction ")"

So `or` nests to the right, `and` to the left and binds tighter, and `not` takes one primary. Each
reader returns the tokens it leaves with the proof that they are fewer, which is why all end. -/

namespace GuardedText.Guard

/-- An expression read off the front of `tokens` and what remains. -/
structure Parsed (tokens : List Token) where
  expr : Expr
  rest : List Token
  shorter : rest.length < tokens.length

/-- A parenthesised expression: the token after it must close it. -/
def Parsed.close {tokens : List Token} (inner : Parsed tokens) (paren : Token) :
    Except Fault (Parsed (paren :: tokens)) :=
  match h : inner.rest with
  | [] => .error .unexpectedEnd
  | .closing :: rest =>
    .ok ⟨inner.expr, rest, by have := inner.shorter; simp [h] at this; simp; omega⟩
  | t :: _ => .error (.unclosed t)

mutual

def primary (tokens : List Token) : Except Fault (Parsed tokens) :=
  match tokens with
  | [] => .error .unexpectedEnd
  | .name s :: rest => .ok ⟨.name s, rest, by simp⟩
  | .opening :: rest =>
    match disjunction rest with
    | .error f => .error f
    | .ok inner => inner.close .opening
  | t :: _ => .error (.unexpected t)
termination_by (tokens.length, 0)

def factor (tokens : List Token) : Except Fault (Parsed tokens) :=
  match tokens with
  | .keyword .not :: rest =>
    match primary rest with
    | .error f => .error f
    | .ok p => .ok ⟨.not p.expr, p.rest, by have := p.shorter; simp; omega⟩
  | tokens => primary tokens
termination_by (tokens.length, 1)

/-- The factors that `and` joins to the expression `left`, which is read already. -/
def conjuncts (left : Expr) (tokens : List Token) :
    Except Fault { p : Expr × List Token // p.2.length ≤ tokens.length } :=
  match tokens with
  | .keyword .and :: rest =>
    match factor rest with
    | .error f => .error f
    | .ok p =>
      have := p.shorter
      match conjuncts (.and left p.expr) p.rest with
      | .error f => .error f
      | .ok ⟨q, hq⟩ => .ok ⟨q, by simp; omega⟩
  | tokens => .ok ⟨(left, tokens), Nat.le_refl _⟩
termination_by (tokens.length, 2)

def conjunction (tokens : List Token) : Except Fault (Parsed tokens) :=
  match factor tokens with
  | .error f => .error f
  | .ok p =>
    have := p.shorter
    match conjuncts p.expr p.rest with
    | .error f => .error f
    | .ok ⟨q, hq⟩ => .ok ⟨q.1, q.2, by omega⟩
termination_by (tokens.length, 3)

def disjunction (tokens : List Token) : Except Fault (Parsed tokens) :=
  match conjunction tokens with
  | .error f => .error f
  | .ok left =>
    match h : left.rest with
    | .keyword .or :: rest =>
      have : rest.length < tokens.length := by have := left.shorter; simp [h] at this; omega
      match disjunction rest with
      | .error f => .error f
      | .ok right => .ok ⟨.or left.expr right.expr, right.rest, by have := right.shorter; omega⟩
    | _ => .ok left
termination_by (tokens.length, 4)

end

/-- The tree of a token sequence that is one expression as a whole. -/
def parseTokens (tokens : List Token) : Except Fault Expr :=
  match tokens with
  | [] => .error .empty
  | tokens =>
    match disjunction tokens with
    | .error f => .error f
    | .ok p =>
      match p.rest with
      | [] => .ok p.expr
      | t :: _ => .error (.trailing t)

/-- `parseTokens` with the text that an error shows: the tokens' own, spaced, if none is given. -/
def parseFrom (source : Option String) (tokens : List Token) : Except Error Expr :=
  (parseTokens tokens).mapError fun f =>
    ⟨source.getD (" ".intercalate (tokens.map Token.text)), .fault f⟩

def parse (text : String) : Except Error Expr :=
  parseFrom (some text) (lex text)

end GuardedText.Guard

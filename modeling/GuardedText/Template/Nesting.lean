import GuardedText.Guard.Parse
import GuardedText.Template.Basic
import GuardedText.Template.Directive

/-! Compiling lines to blocks, in one pass from front to back that stops at the first error. A
nesting level is read by a call of its own, which returns at a directive that may end the level, so
no level sees the directives of a deeper one. -/

namespace GuardedText.Template

inductive CompileError where
  | directive (e : Directive.Error Nat)
  | guard (lineNumber : Nat) (e : Guard.Error)
  deriving DecidableEq, Repr

/-- Reading that ended with an error, before the lines `rest`. -/
structure Stopped where
  error : CompileError
  rest : List String

/-- What surrounds a nesting level: the document, a branch with a guard, or one after `else`. -/
inductive Scope where
  | document | guarded | fallback
  deriving DecidableEq, Repr

/-- The directives that end a level in its scope. -/
def Scope.endedBy : Scope → Keyword → Bool
  | .document, _ => false
  | .guarded, k => k != .start
  | .fallback, k => k == .finish

/-- Why a directive that neither opens a conditional nor ends the level cannot stand in it. -/
def Scope.complaint (scope : Scope) (p : String) (k : Keyword) :
    Directive.Reason Nat :=
  match scope with
  | .document => .unmatched (k.spelling p) (Keyword.start.spelling p)
  | _ => .misplaced (k.spelling p) (Keyword.otherwise.spelling p)

/-- A level read from at most `n` lines: ended by a directive before the lines `rest`, or open at
the end of the document. -/
inductive Level (n : Nat) where
  | ended (blocks : List Block) (last : Directive Nat) (rest : List String)
      (shorter : rest.length < n)
  | unended (blocks : List Block)

/-- The branches of a conditional read from at most `n` lines, through its `endif` on line
`last`. -/
structure Branches (n : Nat) where
  branches : List Branch
  last : Nat
  rest : List String
  shorter : rest.length < n

/-- The pending text as a block, if there is any, before the blocks that follow it. -/
def flush (text : String) (blocks : List Block) : List Block :=
  if text = "" then blocks else .text text :: blocks

def Level.mapBlocks {n : Nat} (f : List Block → List Block) : Level n → Level n
  | .ended blocks d rest h => .ended (f blocks) d rest h
  | .unended blocks => .unended (f blocks)

/-- The document ends at line `lineNumber` with a branch open that `d` began. -/
def unclosed (p : String) (d : Directive Nat) (lineNumber : Nat) : CompileError :=
  .directive ⟨lineNumber, "",
    .unclosed (Keyword.finish.spelling p) (d.keyword.spelling p) d.lineNumber⟩

mutual

/-- Reads a level from the lines after line `n`, with `text` pending from the lines before. -/
def level (p : String) (scope : Scope) (text : String) (n : Nat) (lines : List String)
    (bound : Nat) (fits : lines.length ≤ bound) : Except Stopped (Level bound) :=
  match lines with
  | [] => .ok (.unended (flush text []))
  | raw :: lines =>
    have fewer : lines.length < bound := fits
    let line := Text.dropLineEnd raw
    match Directive.ofLine p line (n + 1) with
    | .error e => .error ⟨.directive e, lines⟩
    | .ok none =>
      level p scope (text ++ line ++ Text.lineBreak) (n + 1) lines bound (Nat.le_of_lt fewer)
    | .ok (some d) =>
      if scope.endedBy d.keyword then .ok (.ended (flush text []) d lines fewer)
      else if d.keyword = .start then
        match conditional p d lines lines.length (Nat.le_refl _) with
        | .error stop => .error stop
        | .ok c =>
          have := c.shorter
          match level p scope "" c.last c.rest bound (by omega) with
          | .error stop => .error stop
          | .ok l => .ok (l.mapBlocks fun bs => flush text (.conditional c.branches :: bs))
      else .error ⟨.directive ⟨n + 1, line, scope.complaint p d.keyword⟩, lines⟩
termination_by (lines.length, 0)

/-- Reads the branches of a conditional from the lines after `d`, the directive that begins the
first of them. -/
def conditional (p : String) (d : Directive Nat) (lines : List String)
    (bound : Nat) (fits : lines.length ≤ bound) : Except Stopped (Branches bound) :=
  match Guard.parse d.argument with
  | .error e => .error ⟨.guard d.lineNumber e, lines⟩
  | .ok guard =>
    match level p .guarded "" d.lineNumber lines lines.length (Nat.le_refl _) with
    | .error stop => .error stop
    | .ok (.unended _) => .error ⟨unclosed p d (d.lineNumber + lines.length), []⟩
    | .ok (.ended body next rest fewer) =>
      match next.keyword with
      | .elif =>
        match conditional p next rest bound (by omega) with
        | .error stop => .error stop
        | .ok c => .ok { c with branches := (guard, body) :: c.branches }
      | .otherwise =>
        match level p .fallback "" next.lineNumber rest rest.length (Nat.le_refl _) with
        | .error stop => .error stop
        | .ok (.unended _) => .error ⟨unclosed p next (next.lineNumber + rest.length), []⟩
        | .ok (.ended final last rest' fewer') =>
          .ok ⟨[(guard, body), (.always, final)], last.lineNumber, rest', by omega⟩
      | _ => .ok ⟨[(guard, body)], next.lineNumber, rest, by omega⟩
termination_by (lines.length, 1)

end

def Level.blocks {n : Nat} : Level n → List Block
  | .ended blocks .. => blocks
  | .unended blocks => blocks

/-- The lines behind a level. -/
def Level.rest {n : Nat} : Level n → List String
  | .ended _ _ rest _ => rest
  | .unended _ => []

/-- The template of a sequence of lines under a directive prefix, and the lines that are left unread.
Nothing ends the level of the document but its last line. -/
def readLines (p : String) (lines : List String) : Except CompileError Template × List String :=
  match level p .document "" 0 lines lines.length (Nat.le_refl _) with
  | .error stop => (.error stop.error, stop.rest)
  | .ok l => (.ok ⟨l.blocks⟩, l.rest)

def compileLines (p : String) (lines : List String) : Except CompileError Template :=
  (readLines p lines).1

/-- The template of a document held in one text. -/
def compileText (p : String) (text : String) : Except CompileError Template :=
  compileLines p (Text.splitLines text)

end GuardedText.Template

import GuardedText.Guard.Expr
import GuardedText.Text.Lines

/-! Compiled documents. A block is literal text or a conditional, whose branches carry a guard and
blocks of their own; rendering writes the text blocks and, of each conditional, the first branch
whose guard holds. -/

namespace GuardedText.Template

inductive Block where
  | text (s : String)
  | conditional (branches : List (Guard.Expr × List Block))

/-- One guarded branch of a conditional. -/
abbrev Branch := Guard.Expr × List Block

namespace Block

mutual

/-- The text of a block under a choice of active names. -/
def render (active : String → Bool) : Block → String
  | .text s => s
  | .conditional branches => renderFirst active branches

/-- The text of the first branch whose guard holds, or none. -/
def renderFirst (active : String → Bool) : List (Guard.Expr × List Block) → String
  | [] => ""
  | (guard, body) :: rest =>
    match guard.holds active with
    | true => renderAll active body
    | false => renderFirst active rest

def renderAll (active : String → Bool) : List Block → String
  | [] => ""
  | b :: rest => render active b ++ renderAll active rest

end

mutual

/-- The names in the guards of a block, in document order, repetitions kept. -/
def guardNames : Block → List String
  | .text _ => []
  | .conditional branches => branchNames branches

def branchNames : List (Guard.Expr × List Block) → List String
  | [] => []
  | (guard, body) :: rest => guard.leaves ++ allNames body ++ branchNames rest

def allNames : List Block → List String
  | [] => []
  | b :: rest => guardNames b ++ allNames rest

end

@[simp] theorem renderAll_append (active : String → Bool) (xs ys : List Block) :
    renderAll active (xs ++ ys) = renderAll active xs ++ renderAll active ys := by
  induction xs with
  | nil => simp [renderAll]
  | cons x xs ih => simp [renderAll, ih, String.append_assoc]

@[simp] theorem allNames_append (xs ys : List Block) :
    allNames (xs ++ ys) = allNames xs ++ allNames ys := by
  induction xs with
  | nil => simp [allNames]
  | cons x xs ih => simp [allNames, ih]

/-- The place of the branch that a conditional renders, if it renders one. -/
def selected? (active : String → Bool) : Block → Option Nat
  | .text _ => none
  | .conditional branches => branches.findIdx? fun b => b.1.holds active

end Block

end GuardedText.Template

namespace GuardedText

/-- A compiled document. -/
structure Template where
  blocks : List Template.Block

namespace Template

/-- The text that the blocks give without the break after its last line. -/
def render (t : Template) (active : String → Bool) : String :=
  Text.dropFinalBreak (Block.renderAll active t.blocks)

/-- Every name that a guard uses, in every branch at any depth, once and in 16-bit order. -/
def usedNames (t : Template) : List String :=
  Text.sortNames (Text.distinct (Block.allNames t.blocks))

end Template

end GuardedText

import GuardedText.Text.Units

/-! Guard expressions: trees over names, evaluated under a choice of active names, and written back
as guard text with the parentheses that reading needs. -/

namespace GuardedText.Guard

/-- `always` guards the last branch of a conditional and has no text that reads back to it. -/
inductive Expr where
  | name (s : String)
  | not (e : Expr)
  | and (l r : Expr)
  | or (l r : Expr)
  | always
  deriving DecidableEq, Repr

namespace Expr

/-- Whether two expressions have one shape, with the same names at the leaves. -/
def same : Expr → Expr → Bool
  | .name s, .name t => s == t
  | .not e, .not f => same e f
  | .and l r, .and l' r' => same l l' && same r r'
  | .or l r, .or l' r' => same l l' && same r r'
  | .always, .always => true
  | _, _ => false

@[simp] theorem same_iff_eq {e f : Expr} : e.same f = true ↔ e = f := by
  induction e generalizing f with
  | name s => cases f <;> simp [same]
  | not e ih => cases f <;> simp [same, ih]
  | and l r ihl ihr | or l r ihl ihr => cases f <;> simp [same, ihl, ihr]
  | always => cases f <;> simp [same]

/-- The truth of an expression: a name holds iff it is active. -/
def holds (active : String → Bool) : Expr → Bool
  | .name s => active s
  | .not e => !holds active e
  | .and l r => holds active l && holds active r
  | .or l r => holds active l || holds active r
  | .always => true

/-- The names at the leaves, from left to right, repetitions kept. -/
def leaves : Expr → List String
  | .name s => [s]
  | .not e => leaves e
  | .and l r => leaves l ++ leaves r
  | .or l r => leaves l ++ leaves r
  | .always => []

/-- The truth of an expression depends on its own names only. -/
theorem holds_congr {f g : String → Bool} (e : Expr) (h : ∀ s ∈ e.leaves, f s = g s) :
    e.holds f = e.holds g := by
  induction e with
  | name s => exact h s (by simp [leaves])
  | not e ih => simp [holds, ih h]
  | and l r ihl ihr | or l r ihl ihr =>
    simp only [leaves, List.mem_append] at h
    simp [holds, ihl fun s hs => h s (.inl hs), ihr fun s hs => h s (.inr hs)]
  | always => rfl

/-- The names used, each at its first occurrence. -/
def names (e : Expr) : List String :=
  Text.distinct e.leaves

/-- An operand that is a conjunction or a disjunction, or a negation below a negation, stands in
parentheses. -/
def enclosedUnder (parentNegates : Bool) : Expr → Bool
  | .and _ _ => true
  | .or _ _ => true
  | .not _ => parentNegates
  | _ => false

def enclose (needed : Bool) (s : String) : String :=
  if needed then "(" ++ s ++ ")" else s

def text : Expr → String
  | .name s => s
  | .not e => "not " ++ enclose (e.enclosedUnder true) e.text
  | .and l r =>
    enclose (l.enclosedUnder false) l.text ++ " and " ++ enclose (r.enclosedUnder false) r.text
  | .or l r =>
    enclose (l.enclosedUnder false) l.text ++ " or " ++ enclose (r.enclosedUnder false) r.text
  | .always => "true"

end Expr

end GuardedText.Guard

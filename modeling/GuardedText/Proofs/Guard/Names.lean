import GuardedText.Proofs.Guard.Grammar
import Mathlib

/-! The names in a guard. However reading nests a guard, the leaves of its tree from left to right
are the names among its tokens. -/

namespace GuardedText.Guard

def Token.name? : Token → Option String
  | .name s => some s
  | _ => none

/-- The names among tokens, in their order, repetitions kept. -/
def namesIn (ts : List Token) : List String :=
  ts.filterMap Token.name?

theorem mem_namesIn {ts : List Token} {s : String} : s ∈ namesIn ts ↔ .name s ∈ ts := by
  have hname : ∀ t : Token, t.name? = some s ↔ t = .name s := by
    intro t
    cases t <;> simp [Token.name?]
  simp [namesIn, hname]

theorem namesIn_append (ts us : List Token) : namesIn (ts ++ us) = namesIn ts ++ namesIn us :=
  List.filterMap_append

/-- A keyword between two phrases is no name. -/
theorem namesIn_joined (k : Keyword) (ts us : List Token) :
    namesIn (ts ++ .keyword k :: us) = namesIn ts ++ namesIn us :=
  namesIn_append ts _

theorem Derives.leaves_eq {phrase : Phrase} {ts : List Token} {e : Expr}
    (h : Derives phrase ts e) : e.leaves = namesIn ts := by
  induction h with
  | name s => rfl
  | @group ts e _ ih =>
    have hgroup : namesIn (.opening :: (ts ++ [.closing])) = namesIn ts ++ [] :=
      namesIn_append ts [.closing]
    rw [hgroup, List.append_nil, ih]
  | negation _ ih => exact ih
  | plain _ ih | single _ ih | alone _ ih => exact ih
  | conjoin _ _ ihl ihr | disjoin _ _ ihl ihr => rw [Expr.leaves, ihl, ihr, namesIn_joined]

theorem leaves_of_parse {text : String} {e : Expr} (h : parse text = .ok e) :
    e.leaves = namesIn (lex text) :=
  (parse_eq_ok_iff.mp h).leaves_eq

theorem Expr.mem_names {e : Expr} {s : String} : s ∈ e.names ↔ s ∈ e.leaves :=
  Text.mem_distinct

/-- Reading a guard loses, adds and moves no name: those of its tree are those among its tokens, each
where it occurs first. And no other names decide on the truth of a tree. -/
theorem names_read_and_decisive :
    (∀ text e, parse text = .ok e → e.names = (namesIn (lex text)).eraseDups) ∧
    ∀ (e : Expr) (active active' : String → Bool), (∀ s ∈ e.names, active s = active' s) →
      e.holds active = e.holds active' := by
  refine ⟨fun text e h => ?_, fun e active active' h => ?_⟩
  · rw [Expr.names, leaves_of_parse h, Text.distinct_eq_eraseDups]
  · exact e.holds_congr fun s hs => h s (Expr.mem_names.mpr hs)

/-- A name that comes again on the other side of an `or`, and a choice that differs only in a name
that the guard has not. -/
theorem names_read_and_decisive_repeated :
    let e : Expr := .or (.and (.and (.name "b") (.not (.name "A"))) (.name "b")) (.name "a")
    parse "(b and NOT A) and b OR a" = .ok e ∧
      e.names = (namesIn (lex "(b and NOT A) and b OR a")).eraseDups ∧ e.names = ["b", "A", "a"] ∧
      e.holds (["b", "c"].contains ·) = e.holds (["b"].contains ·) := by
  intro e
  have h : parse "(b and NOT A) and b OR a" = .ok e := by cbv
  refine ⟨h, names_read_and_decisive.1 _ _ h, by decide, names_read_and_decisive.2 e _ _ ?_⟩
  decide

end GuardedText.Guard

import GuardedText.Guard.Parse
import GuardedText.Proofs.Result

/-! What reading leaves, without the proofs that it ends. The readers of guard expressions return
the rest of the tokens with a bound on its length, so their types depend on their input. Here each
is the same function to plain pairs, with one equation for each way it can go. -/

namespace GuardedText.Guard

/-- The four kinds of phrase, loosest first. -/
inductive Phrase where
  | disjunction | conjunction | factor | primary
  deriving DecidableEq, Repr

/-- A tree and the tokens after it. -/
abbrev Outcome := Except Fault (Expr × List Token)

def Parsed.pair {tokens : List Token} (p : Parsed tokens) : Expr × List Token :=
  (p.expr, p.rest)

/-- Reads one phrase off the front of the tokens. -/
def read (phrase : Phrase) (tokens : List Token) : Outcome :=
  match phrase with
  | .disjunction => (disjunction tokens).map Parsed.pair
  | .conjunction => (conjunction tokens).map Parsed.pair
  | .factor => (factor tokens).map Parsed.pair
  | .primary => (primary tokens).map Parsed.pair

/-- Reads the factors that `and` joins to `left`. -/
def readMore (left : Expr) (tokens : List Token) : Outcome :=
  (conjuncts left tokens).map (·.1)

/-- Takes the parenthesis that must follow an expression inside parentheses. -/
def closeGroup : Expr × List Token → Outcome
  | (_, []) => .error .unexpectedEnd
  | (e, .closing :: rest) => .ok (e, rest)
  | (_, t :: _) => .error (.unclosed t)

/-- A conjunction stands alone or begins a disjunction. -/
def readAfterConjunction : Expr × List Token → Outcome
  | (l, .keyword .or :: rest) => (read .disjunction rest).map fun r => (.or l r.1, r.2)
  | r => .ok r

/-- The whole sequence must be one expression. -/
def readEnd : Expr × List Token → Except Fault Expr
  | (e, []) => .ok e
  | (_, t :: _) => .error (.trailing t)

theorem read_primary_nil : read .primary [] = .error .unexpectedEnd := by
  simp [read, primary, Except.map]

theorem read_primary_name (s : String) (ts : List Token) :
    read .primary (.name s :: ts) = .ok (.name s, ts) := by
  simp [read, primary, Except.map, Parsed.pair]

theorem read_primary_keyword (k : Keyword) (ts : List Token) :
    read .primary (.keyword k :: ts) = .error (.unexpected (.keyword k)) := by
  simp [read, primary, Except.map]

theorem read_primary_closing (ts : List Token) :
    read .primary (.closing :: ts) = .error (.unexpected .closing) := by
  simp [read, primary, Except.map]

theorem Parsed.close_pair {tokens : List Token} (p : Parsed tokens) (t : Token) :
    (p.close t).map Parsed.pair = closeGroup p.pair := by
  obtain ⟨e, rest, fewer⟩ := p
  match rest with
  | [] | .closing :: _ | .opening :: _ | .name _ :: _ | .keyword _ :: _ => rfl

theorem read_primary_opening (ts : List Token) :
    read .primary (.opening :: ts) = (read .disjunction ts).bind closeGroup := by
  simp only [read]
  rw [primary]
  cases disjunction ts with
  | error f => rfl
  | ok p => exact p.close_pair .opening

theorem read_factor_not (ts : List Token) :
    read .factor (.keyword .not :: ts) =
      (read .primary ts).map fun r => (.not r.1, r.2) := by
  simp only [read]
  rw [factor]
  cases primary ts <;> rfl

theorem read_factor_of_head_ne {ts : List Token} (h : ts.head? ≠ some (.keyword .not)) :
    read .factor ts = read .primary ts := by
  simp only [read]
  rw [factor]
  rintro rest rfl
  exact h rfl

theorem readMore_and (left : Expr) (ts : List Token) :
    readMore left (.keyword .and :: ts) =
      (read .factor ts).bind fun r => readMore (.and left r.1) r.2 := by
  simp only [read, readMore]
  rw [conjuncts]
  cases factor ts with
  | error f => rfl
  | ok p =>
    simp only [Except.map, Except.bind, Parsed.pair]
    cases conjuncts (.and left p.expr) p.rest <;> rfl

theorem readMore_of_head_ne (left : Expr) {ts : List Token}
    (h : ts.head? ≠ some (.keyword .and)) : readMore left ts = .ok (left, ts) := by
  rw [readMore, conjuncts]
  · rfl
  · rintro rest rfl
    exact h rfl

theorem read_conjunction (ts : List Token) :
    read .conjunction ts = (read .factor ts).bind fun r => readMore r.1 r.2 := by
  simp only [read, readMore]
  rw [conjunction]
  cases factor ts with
  | error f => rfl
  | ok p =>
    simp only [Except.map, Except.bind, Parsed.pair]
    cases conjuncts p.expr p.rest <;> rfl

theorem read_disjunction (ts : List Token) :
    read .disjunction ts = (read .conjunction ts).bind readAfterConjunction := by
  simp only [read]
  rw [disjunction]
  cases conjunction ts with
  | error f => rfl
  | ok p =>
    obtain ⟨e, rest, fewer⟩ := p
    match rest with
    | .keyword .or :: rest =>
      simp only [Except.map, Except.bind, Parsed.pair, readAfterConjunction, read]
      cases disjunction rest <;> rfl
    | [] | .closing :: _ | .opening :: _ | .name _ :: _ | .keyword .and :: _
    | .keyword .not :: _ => rfl

/-- A phrase takes at least one token. -/
theorem length_lt_of_read {phrase : Phrase} {ts rest : List Token} {e : Expr}
    (h : read phrase ts = .ok (e, rest)) : rest.length < ts.length := by
  have of_pair : ∀ {r : Except Fault (Parsed ts)},
      r.map Parsed.pair = .ok (e, rest) → rest.length < ts.length := by
    rintro (f | p) hp
    · cases hp
    · cases hp
      exact p.shorter
  cases phrase <;> exact of_pair h

theorem parseTokens_of_ne_nil {ts : List Token} (h : ts ≠ []) :
    parseTokens ts = (read .disjunction ts).bind readEnd := by
  rw [parseTokens]
  · simp only [read]
    cases disjunction ts with
    | error f => rfl
    | ok p =>
      simp only [Except.map, Except.bind, Parsed.pair]
      cases p.rest <;> rfl
  · exact h

end GuardedText.Guard

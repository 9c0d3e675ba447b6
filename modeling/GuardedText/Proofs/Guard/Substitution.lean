import GuardedText.Proofs.Guard.Printing

/-! An expression in the place of a name. Among the tokens it stands in parentheses, so that nothing
around it can reach into it, and in the tree it stands at each leaf with that name. A group is a
primary expression, as a name is, so every phrase stays a phrase of its kind, and reading commutes
with the replacement. -/

namespace GuardedText.Guard

/-- Tokens in parentheses. -/
def parenthesized (ts : List Token) : List Token :=
  .opening :: (ts ++ [.closing])

/-- The tokens with the group of `us` in the place of every name `x`. -/
def replaceName (x : String) (us ts : List Token) : List Token :=
  ts.flatMap fun t => if t = .name x then parenthesized us else [t]

/-- The tree with `u` in the place of every leaf `x`. -/
def Expr.replaceName (e : Expr) (x : String) (u : Expr) : Expr :=
  match e with
  | .name s => if s = x then u else .name s
  | .not e => .not (e.replaceName x u)
  | .and l r => .and (l.replaceName x u) (r.replaceName x u)
  | .or l r => .or (l.replaceName x u) (r.replaceName x u)
  | .always => .always

section Tokens

variable (x : String) (us : List Token)

theorem replaceName_self : replaceName x us [.name x] = parenthesized us := by
  simp [replaceName]

theorem replaceName_cons_of_ne {t : Token} (h : t ≠ .name x) (ts : List Token) :
    replaceName x us (t :: ts) = t :: replaceName x us ts := by
  simp [replaceName, h]

theorem replaceName_append (ts vs : List Token) :
    replaceName x us (ts ++ vs) = replaceName x us ts ++ replaceName x us vs := by
  simp [replaceName]

/-- A keyword between two phrases stays there. -/
theorem replaceName_joined (k : Keyword) (ts vs : List Token) :
    replaceName x us (ts ++ .keyword k :: vs) =
      replaceName x us ts ++ .keyword k :: replaceName x us vs := by
  have hk : Token.keyword k ≠ .name x := by simp
  rw [replaceName_append, replaceName_cons_of_ne x us hk]

theorem replaceName_parenthesized (ts : List Token) :
    replaceName x us (parenthesized ts) = parenthesized (replaceName x us ts) := by
  have hopening : Token.opening ≠ .name x := by simp
  have hclosing : Token.closing ≠ .name x := by simp
  rw [parenthesized, replaceName_cons_of_ne x us hopening, replaceName_append,
    replaceName_cons_of_ne x us hclosing]
  rfl

end Tokens

theorem Derives.replaceName {phrase : Phrase} {ts us : List Token} {e u : Expr}
    (h : Derives phrase ts e) (hu : Derives .disjunction us u) (x : String) :
    Derives phrase (replaceName x us ts) (e.replaceName x u) := by
  induction h with
  | name s =>
    by_cases hs : s = x
    · subst hs
      have htree : (Expr.name s).replaceName s u = u := by simp [Expr.replaceName]
      rw [replaceName_self, htree]
      exact hu.group
    · have htree : (Expr.name s).replaceName x u = .name s := by simp [Expr.replaceName, hs]
      have hname : Token.name s ≠ .name x := by simpa using hs
      rw [replaceName_cons_of_ne x us hname, htree]
      exact .name s
  | @group ts e _ ih =>
    show Derives .primary (Guard.replaceName x us (Guard.parenthesized ts)) _
    rw [replaceName_parenthesized]
    exact ih.group
  | negation _ ih =>
    rw [replaceName_cons_of_ne x us (by simp)]
    exact ih.negation
  | plain _ ih => exact ih.plain
  | single _ ih => exact ih.single
  | conjoin _ _ ihl ihr =>
    rw [replaceName_joined]
    exact ihl.conjoin ihr
  | alone _ ih => exact ih.alone
  | disjoin _ _ ihl ihr =>
    rw [replaceName_joined]
    exact ihl.disjoin ihr

/-! ### Expressions in parentheses -/

/-- In parentheses an expression is a factor. -/
theorem Derives.parenthesized {ts : List Token} {e : Expr} (h : Derives .disjunction ts e) :
    Derives .factor (parenthesized ts) e :=
  h.group.plain

theorem Derives.iterate_parenthesized {ts : List Token} {e : Expr} (h : Derives .disjunction ts e)
    (n : ℕ) : Derives .disjunction (Guard.parenthesized^[n] ts) e := by
  induction n with
  | zero => exact h
  | succ n ih =>
    rw [Function.iterate_succ_apply']
    exact ih.parenthesized.single.alone

theorem lex_joined (k : Keyword) (s t : String) :
    lex ("(" ++ s ++ (") " ++ k.text ++ " (") ++ t ++ ")") =
      parenthesized (lex s) ++ .keyword k :: parenthesized (lex t) := by
  have hclose : ") " = ")" ++ " " := rfl
  have hopen : " (" = " " ++ "(" := rfl
  have h : "(" ++ s ++ (") " ++ k.text ++ " (") ++ t ++ ")" =
      "(" ++ s ++ ")" ++ (" " ++ k.text ++ " ") ++ ("(" ++ t ++ ")") := by
    simp only [hclose, hopen, String.append_assoc]
  rw [h, lex_infix, lex_parenthesized, lex_parenthesized]
  rfl

section Texts

variable {s t : String} {l r : Expr}

theorem parse_conjoined (hl : parse s = .ok l) (hr : parse t = .ok r) :
    parse ("(" ++ s ++ ") and (" ++ t ++ ")") = .ok (.and l r) := by
  have hl' := (parse_eq_ok_iff.mp hl).parenthesized
  have hr' := (parse_eq_ok_iff.mp hr).parenthesized
  rw [parse_eq_ok_iff, show ") and (" = ") " ++ Keyword.and.text ++ " (" from rfl, lex_joined]
  exact (hl'.single.conjoin hr').alone

theorem parse_disjoined (hl : parse s = .ok l) (hr : parse t = .ok r) :
    parse ("(" ++ s ++ ") or (" ++ t ++ ")") = .ok (.or l r) := by
  have hl' := (parse_eq_ok_iff.mp hl).parenthesized
  have hr' := (parse_eq_ok_iff.mp hr).parenthesized
  rw [parse_eq_ok_iff, show ") or (" = ") " ++ Keyword.or.text ++ " (" from rfl, lex_joined]
  exact hl'.single.disjoin hr'.single.alone

theorem parse_negated (hl : parse s = .ok l) : parse ("not (" ++ s ++ ")") = .ok (.not l) := by
  have hopen : "not (" = "not " ++ "(" := rfl
  have htext : "not (" ++ s ++ ")" = "not " ++ ("(" ++ s ++ ")") := by
    simp only [hopen, String.append_assoc]
  rw [parse_eq_ok_iff, htext, lex_negation, lex_parenthesized]
  exact (parse_eq_ok_iff.mp hl).group.negation.single.alone

end Texts

/-- An accepted expression in parentheses can stand for a name of any other, and the tree of the
whole has the tree of that expression for the name. Parentheses around a whole expression leave its
tree alone, and two texts in parentheses are joined, and one is negated, as their trees are. -/
theorem parseFrom_replaces_names (source source' source'' : Option String) :
    (∀ ts us e u, parseFrom source ts = .ok e → parseFrom source' us = .ok u →
      ∀ x, parseFrom source'' (replaceName x us ts) = .ok (e.replaceName x u)) ∧
    (∀ ts e, parseFrom source ts = .ok e → ∀ n, parseFrom source' (parenthesized^[n] ts) = .ok e) ∧
    (∀ s t l r, parse s = .ok l → parse t = .ok r →
      parse ("(" ++ s ++ ") and (" ++ t ++ ")") = .ok (.and l r) ∧
      parse ("(" ++ s ++ ") or (" ++ t ++ ")") = .ok (.or l r)) ∧
    (∀ s e, parse s = .ok e → parse ("not (" ++ s ++ ")") = .ok (.not e)) := by
  refine ⟨?_, ?_, ?_, ?_⟩
  · intro ts us e u hts hus x
    have hd := parseFrom_eq_ok_iff.mp hts
    have hu := parseFrom_eq_ok_iff.mp hus
    exact parseFrom_eq_ok_iff.mpr (hd.replaceName hu x)
  · intro ts e hts n
    exact parseFrom_eq_ok_iff.mpr ((parseFrom_eq_ok_iff.mp hts).iterate_parenthesized n)
  · intro s t l r hl hr
    exact ⟨parse_conjoined hl hr, parse_disjoined hl hr⟩
  · intro s e he
    exact parse_negated he

/-- A disjunction goes in below `not` and as the right side of `and`, where bare it would be cut. -/
theorem parseFrom_replaces_names_twice :
    parse "not x and y and x" =
      .ok (.and (.and (.not (.name "x")) (.name "y")) (.name "x")) ∧
    parse "a or b" = .ok (.or (.name "a") (.name "b")) ∧
    parseFrom none (replaceName "x" (lex "a or b") (lex "not x and y and x")) =
      .ok (.and (.and (.not (.or (.name "a") (.name "b"))) (.name "y"))
        (.or (.name "a") (.name "b"))) := by
  have hts : parse "not x and y and x" =
      .ok (.and (.and (.not (.name "x")) (.name "y")) (.name "x")) := by
    cbv
  have hus : parse "a or b" = .ok (.or (.name "a") (.name "b")) := by
    cbv
  have h := (parseFrom_replaces_names _ _ none).1 _ _ _ _ hts hus "x"
  exact ⟨hts, hus, h⟩

end GuardedText.Guard

import GuardedText.Proofs.Guard.Grammar
import GuardedText.Proofs.Guard.Lexing
import Mathlib

/-! Guard text that is written from a tree. It is cut into the tokens that the tree is written
with, and these are a phrase with that tree, so reading what was written gives the tree back, alone
or in parentheses. The trees that reading gives are those over names, without a leaf that always
holds. -/

namespace GuardedText.Guard

namespace Expr

/-- Every leaf is a name that `admits` admits. -/
def Named (admits : String → Prop) : Expr → Prop
  | .name s => admits s
  | .not e => Named admits e
  | .and l r => Named admits l ∧ Named admits r
  | .or l r => Named admits l ∧ Named admits r
  | .always => False

theorem Named.mono {f g : String → Prop} {e : Expr} (h : e.Named f) (hfg : ∀ s, f s → g s) :
    e.Named g := by
  induction e with
  | name s => exact hfg s h
  | not e ih => exact ih h
  | and l r ihl ihr | or l r ihl ihr => exact ⟨ihl h.1, ihr h.2⟩
  | always => exact h

/-- Tokens in parentheses, if those are needed. -/
def grouped (needed : Bool) (ts : List Token) : List Token :=
  if needed then .opening :: (ts ++ [.closing]) else ts

/-- The tokens that an expression is written with. -/
def tokens : Expr → List Token
  | .name s => [.name s]
  | .not e => .keyword .not :: grouped (e.enclosedUnder true) (tokens e)
  | .and l r =>
    grouped (l.enclosedUnder false) (tokens l) ++
      .keyword .and :: grouped (r.enclosedUnder false) (tokens r)
  | .or l r =>
    grouped (l.enclosedUnder false) (tokens l) ++
      .keyword .or :: grouped (r.enclosedUnder false) (tokens r)
  | .always => [.name "true"]

end Expr

/-! ### What is written is cut into its tokens -/

theorem lex_parenthesized (s : String) :
    lex ("(" ++ s ++ ")") = .opening :: (lex s ++ [.closing]) := by
  have hopening : lex ("(" ++ s) = .opening :: lex s := by
    rw [lex, String.toList_append]
    rfl
  have hclosing := lex_append (c := ')') rfl ("(" ++ s) ""
  rw [String.append_empty, hopening] at hclosing
  exact hclosing.trans (List.append_nil _)

theorem lex_enclose (needed : Bool) (s : String) :
    lex (Expr.enclose needed s) = Expr.grouped needed (lex s) := by
  cases needed with
  | false => rfl
  | true => exact lex_parenthesized s

theorem lex_spaced (a b : String) : lex (a ++ " " ++ b) = lex a ++ lex b := by
  have h := lex_append (c := ' ') rfl a b
  rwa [List.append_nil] at h

theorem lex_negation (s : String) : lex ("not " ++ s) = .keyword .not :: lex s := by
  rw [show "not " = Keyword.not.text ++ " " from rfl, lex_spaced, lex_keyword,
    List.singleton_append]

theorem lex_infix (k : Keyword) (a b : String) :
    lex (a ++ (" " ++ k.text ++ " ") ++ b) = lex a ++ .keyword k :: lex b := by
  rw [← String.append_assoc, lex_spaced, ← String.append_assoc, lex_spaced, lex_keyword,
    List.append_assoc, List.singleton_append]

theorem lex_text {e : Expr} (h : e.Named IsName) : lex e.text = e.tokens := by
  induction e with
  | name s => exact lex_name h
  | not e ih => rw [Expr.text, lex_negation, lex_enclose, ih h, Expr.tokens]
  | and l r ihl ihr =>
    rw [Expr.text, show " and " = " " ++ Keyword.and.text ++ " " from rfl, lex_infix, lex_enclose,
      lex_enclose, ihl h.1, ihr h.2, Expr.tokens]
  | or l r ihl ihr =>
    rw [Expr.text, show " or " = " " ++ Keyword.or.text ++ " " from rfl, lex_infix, lex_enclose,
      lex_enclose, ihl h.1, ihr h.2, Expr.tokens]
  | always => exact h.elim

/-! ### The tokens of a tree are a phrase with that tree -/

/-- In the parentheses that it needs as an operand, a tree is a factor, and below `not` a primary
expression. -/
theorem Expr.Named.derives {admits : String → Prop} {e : Expr} (h : e.Named admits) :
    Derives .disjunction e.tokens e ∧
      Derives .primary (grouped (e.enclosedUnder true) e.tokens) e ∧
      Derives .factor (grouped (e.enclosedUnder false) e.tokens) e := by
  induction e with
  | name s =>
    have hp : Derives .primary [.name s] (.name s) := .name s
    exact ⟨hp.plain.single.alone, hp, hp.plain⟩
  | not e ih =>
    have hf : Derives .factor (Expr.not e).tokens (.not e) := (ih h).2.1.negation
    exact ⟨hf.single.alone, hf.single.alone.group, hf⟩
  | and l r ihl ihr =>
    have hd : Derives .disjunction (Expr.and l r).tokens (.and l r) :=
      ((ihl h.1).2.2.single.conjoin (ihr h.2).2.2).alone
    exact ⟨hd, hd.group, hd.group.plain⟩
  | or l r ihl ihr =>
    have hd : Derives .disjunction (Expr.or l r).tokens (.or l r) :=
      (ihl h.1).2.2.single.disjoin (ihr h.2).2.2.single.alone
    exact ⟨hd, hd.group, hd.group.plain⟩
  | always => exact h.elim

theorem parse_text {e : Expr} (h : e.Named IsName) : parse e.text = .ok e := by
  rw [parse_eq_ok_iff, lex_text h]
  exact h.derives.1

theorem parse_parenthesized {e : Expr} (h : e.Named IsName) :
    parse ("(" ++ e.text ++ ")") = .ok e := by
  rw [parse_eq_ok_iff, lex_parenthesized, lex_text h]
  exact h.derives.1.group.plain.single.alone

/-! ### The names of what is read -/

theorem Derives.named {admits : String → Prop} {phrase : Phrase} {ts : List Token} {e : Expr}
    (h : Derives phrase ts e) (hts : ∀ s, .name s ∈ ts → admits s) : e.Named admits := by
  induction h with
  | name s => exact hts s List.mem_cons_self
  | group _ ih => exact ih fun s hs => hts s (by simp [hs])
  | negation _ ih => exact ih fun s hs => hts s (List.mem_cons_of_mem _ hs)
  | plain _ ih | single _ ih | alone _ ih => exact ih hts
  | conjoin _ _ ihl ihr | disjoin _ _ ihl ihr =>
    exact ⟨ihl fun s hs => hts s (by simp [hs]), ihr fun s hs => hts s (by simp [hs])⟩

theorem named_of_parse {text : String} {e : Expr} (h : parse text = .ok e) :
    e.Named fun s => IsName s ∧ ∀ c ∈ s.toList, c ∈ text.toList :=
  (parse_eq_ok_iff.mp h).named fun _ => isName_of_mem_lex

theorem named_isName_of_parse {text : String} {e : Expr} (h : parse text = .ok e) :
    e.Named IsName :=
  (named_of_parse h).mono fun _ hs => hs.1

/-- Nothing else than a tree over names is read, so no other tree is read back. -/
theorem parse_text_eq_ok_iff {e : Expr} : parse e.text = .ok e ↔ e.Named IsName :=
  ⟨named_isName_of_parse, parse_text⟩

theorem eq_of_text_eq {e e' : Expr} (h : e.Named IsName) (h' : e'.Named IsName)
    (htext : e.text = e'.text) : e = e' := by
  have hread := parse_text h
  rw [htext, parse_text h'] at hread
  exact (Except.ok.inj hread).symm

/-- A tree comes back from its text exactly if all its leaves are names. So does whatever a text is
read to, and two such trees with one text are one tree. -/
theorem text_inverts_parse :
    (∀ e : Expr, (∃ e', parse e.text = .ok e' ∧ e'.same e = true) ↔ e.Named IsName) ∧
    (∀ s e, parse s = .ok e → parse e.text = .ok e) ∧
    (∀ e e' : Expr, e.Named IsName → e'.Named IsName → e.text = e'.text → e = e') := by
  refine ⟨fun e => ?_, fun s e h => parse_text (named_isName_of_parse h),
    fun _ _ => eq_of_text_eq⟩
  constructor
  · rintro ⟨e', hread, hsame⟩
    obtain rfl := Expr.same_iff_eq.mp hsame
    exact parse_text_eq_ok_iff.mp hread
  · intro h
    exact ⟨e, parse_text h, Expr.same_iff_eq.mpr rfl⟩

/-- Parentheses that the reading needs stay, and the others go. -/
theorem text_inverts_parse_nested :
    parse "(a) or NOT (not b) and (c or (d))" =
      .ok (.or (.name "a") (.and (.not (.not (.name "b"))) (.or (.name "c") (.name "d")))) ∧
    parse "a or (not (not b) and (c or d))" =
      .ok (.or (.name "a") (.and (.not (.not (.name "b"))) (.or (.name "c") (.name "d")))) ∧
    (Expr.or (.name "a")
      (.and (.not (.not (.name "b"))) (.or (.name "c") (.name "d")))).Named IsName := by
  have h : parse "(a) or NOT (not b) and (c or (d))" =
      .ok (.or (.name "a") (.and (.not (.not (.name "b"))) (.or (.name "c") (.name "d")))) := by
    cbv
  have hback := text_inverts_parse.2.1 _ _ h
  exact ⟨h, hback, (text_inverts_parse.1 _).mp ⟨_, hback, Expr.same_iff_eq.mpr rfl⟩⟩

/-! ### The characters of what is written -/

theorem not_mem_enclose {c : Char} (hc : c ≠ '(' ∧ c ≠ ')') {needed : Bool} {s : String}
    (h : c ∉ s.toList) : c ∉ (Expr.enclose needed s).toList := by
  cases needed with
  | false => exact h
  | true => simp [Expr.enclose, hc, h]

theorem lineFeed_not_mem_text {e : Expr} (h : e.Named fun s => '\n' ∉ s.toList) :
    '\n' ∉ e.text.toList := by
  have henclose : ∀ {needed s}, '\n' ∉ s.toList → '\n' ∉ (Expr.enclose needed s).toList :=
    fun h => not_mem_enclose (by decide) h
  induction e with
  | name s => exact h
  | not e ih => simp [Expr.text, henclose (ih h)]
  | and l r ihl ihr | or l r ihl ihr => simp [Expr.text, henclose (ihl h.1), henclose (ihr h.2)]
  | always => exact h.elim

end GuardedText.Guard

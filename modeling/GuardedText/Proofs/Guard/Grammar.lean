import GuardedText.Proofs.Guard.Reading

/-! The grammar of guard expressions as a relation between token lists and trees, and its agreement
with reading. A reader that succeeds has taken a phrase of its kind off the front, and on a phrase
followed by anything that cannot extend it the reader takes exactly that phrase. The tree of a token
list is therefore unique. -/

namespace GuardedText.Guard

/-- `Derives phrase ts e`: the tokens `ts` are a phrase of the given kind with the tree `e`. A
conjunction grows at its right end, so `and` nests to the left, and a disjunction at its left end,
so `or` nests to the right. -/
inductive Derives : Phrase → List Token → Expr → Prop where
  | name (s : String) : Derives .primary [.name s] (.name s)
  | group {ts e} (h : Derives .disjunction ts e) :
    Derives .primary (.opening :: (ts ++ [.closing])) e
  | negation {ts e} (h : Derives .primary ts e) :
    Derives .factor (.keyword .not :: ts) (.not e)
  | plain {ts e} (h : Derives .primary ts e) : Derives .factor ts e
  | single {ts e} (h : Derives .factor ts e) : Derives .conjunction ts e
  | conjoin {ts us l r} (hl : Derives .conjunction ts l) (hr : Derives .factor us r) :
    Derives .conjunction (ts ++ .keyword .and :: us) (.and l r)
  | alone {ts e} (h : Derives .conjunction ts e) : Derives .disjunction ts e
  | disjoin {ts us l r} (hl : Derives .conjunction ts l) (hr : Derives .disjunction us r) :
    Derives .disjunction (ts ++ .keyword .or :: us) (.or l r)

/-! ### What is read is a phrase -/

theorem closeGroup_eq_ok {r : Expr × List Token} {e : Expr} {rest : List Token}
    (h : closeGroup r = .ok (e, rest)) : r = (e, .closing :: rest) := by
  obtain ⟨e', ts⟩ := r
  match ts with
  | .closing :: ts => cases h; rfl
  | [] | .opening :: _ | .name _ :: _ | .keyword _ :: _ => cases h

mutual

theorem derives_of_read_primary {ts rest : List Token} {e : Expr}
    (h : read .primary ts = .ok (e, rest)) :
    ∃ used, ts = used ++ rest ∧ Derives .primary used e := by
  match ts with
  | [] => rw [read_primary_nil] at h; cases h
  | .keyword k :: ts => rw [read_primary_keyword] at h; cases h
  | .closing :: ts => rw [read_primary_closing] at h; cases h
  | .name s :: ts =>
    rw [read_primary_name] at h
    cases h
    exact ⟨[.name s], rfl, .name s⟩
  | .opening :: ts =>
    rw [read_primary_opening] at h
    obtain ⟨r, hr, hc⟩ := bind_eq_ok h
    obtain rfl := closeGroup_eq_ok hc
    obtain ⟨used, rfl, hd⟩ := derives_of_read_disjunction hr
    exact ⟨.opening :: (used ++ [.closing]), by simp, .group hd⟩
termination_by (ts.length, 0)

theorem derives_of_read_factor {ts rest : List Token} {e : Expr}
    (h : read .factor ts = .ok (e, rest)) :
    ∃ used, ts = used ++ rest ∧ Derives .factor used e := by
  by_cases hn : ts.head? = some (.keyword .not)
  · match ts with
    | .keyword .not :: ts =>
      rw [read_factor_not] at h
      obtain ⟨⟨e', rest'⟩, hr, he⟩ := map_eq_ok h
      cases he
      obtain ⟨used, rfl, hd⟩ := derives_of_read_primary hr
      exact ⟨.keyword .not :: used, rfl, .negation hd⟩
  · rw [read_factor_of_head_ne hn] at h
    obtain ⟨used, rfl, hd⟩ := derives_of_read_primary h
    exact ⟨used, rfl, .plain hd⟩
termination_by (ts.length, 1)

/-- The factors read after a conjunction `first` extend it. -/
theorem derives_of_readMore {first ts rest : List Token} {left e : Expr}
    (hl : Derives .conjunction first left) (h : readMore left ts = .ok (e, rest)) :
    ∃ used, ts = used ++ rest ∧ Derives .conjunction (first ++ used) e := by
  by_cases ha : ts.head? = some (.keyword .and)
  · match ts with
    | .keyword .and :: ts =>
      rw [readMore_and] at h
      obtain ⟨⟨r, mid⟩, hr, hm⟩ := bind_eq_ok h
      have fewer := length_lt_of_read hr
      obtain ⟨used, rfl, hd⟩ := derives_of_read_factor hr
      obtain ⟨more, rfl, hd'⟩ := derives_of_readMore (hl.conjoin hd) hm
      exact ⟨.keyword .and :: used ++ more, by simp, by simpa using hd'⟩
  · rw [readMore_of_head_ne left ha] at h
    cases h
    exact ⟨[], rfl, by simpa using hl⟩
termination_by (ts.length, 2)

theorem derives_of_read_conjunction {ts rest : List Token} {e : Expr}
    (h : read .conjunction ts = .ok (e, rest)) :
    ∃ used, ts = used ++ rest ∧ Derives .conjunction used e := by
  rw [read_conjunction] at h
  obtain ⟨⟨l, mid⟩, hr, hm⟩ := bind_eq_ok h
  have fewer := length_lt_of_read hr
  obtain ⟨used, rfl, hd⟩ := derives_of_read_factor hr
  obtain ⟨more, rfl, hd'⟩ := derives_of_readMore hd.single hm
  exact ⟨used ++ more, by simp, hd'⟩
termination_by (ts.length, 3)

theorem derives_of_read_disjunction {ts rest : List Token} {e : Expr}
    (h : read .disjunction ts = .ok (e, rest)) :
    ∃ used, ts = used ++ rest ∧ Derives .disjunction used e := by
  rw [read_disjunction] at h
  obtain ⟨⟨l, mid⟩, hr, ho⟩ := bind_eq_ok h
  have fewer := length_lt_of_read hr
  obtain ⟨used, hts, hd⟩ := derives_of_read_conjunction hr
  match mid, fewer, hts, ho with
  | .keyword .or :: us, fewer, hts, ho =>
    have shorter : us.length < ts.length := Nat.lt_of_succ_lt fewer
    obtain ⟨⟨r, rest'⟩, hr', he⟩ := map_eq_ok ho
    cases he
    obtain ⟨more, rfl, hd'⟩ := derives_of_read_disjunction hr'
    exact ⟨used ++ .keyword .or :: more, by simp [hts], hd.disjoin hd'⟩
  | [], _, hts, ho | .opening :: _, _, hts, ho | .closing :: _, _, hts, ho
  | .name _ :: _, _, hts, ho | .keyword .and :: _, _, hts, ho | .keyword .not :: _, _, hts, ho =>
    cases ho
    exact ⟨used, hts, .alone hd⟩
termination_by (ts.length, 4)

end

/-! ### A phrase is read -/

theorem Derives.primary_head_ne {ts rest : List Token} {e : Expr} (h : Derives .primary ts e) :
    (ts ++ rest).head? ≠ some (.keyword .not) := by
  cases h <;> simp

/-- The tokens cannot continue a disjunction. -/
def Ends (rest : List Token) : Prop :=
  rest.head? ≠ some (.keyword .and) ∧ rest.head? ≠ some (.keyword .or)

theorem readAfterConjunction_of_ends {rest : List Token} (e : Expr) (h : Ends rest) :
    readAfterConjunction (e, rest) = .ok (e, rest) := by
  match rest with
  | .keyword .or :: _ => exact absurd rfl h.2
  | [] | .opening :: _ | .closing :: _ | .name _ :: _ | .keyword .and :: _
  | .keyword .not :: _ => rfl

/-- What reading a phrase of this kind with tree `e` off the front of `ts` comes to. A conjunction
may go on after it, and a disjunction must not. -/
def Reads (phrase : Phrase) (ts : List Token) (e : Expr) : Prop :=
  match phrase with
  | .primary => ∀ rest, read .primary (ts ++ rest) = .ok (e, rest)
  | .factor => ∀ rest, read .factor (ts ++ rest) = .ok (e, rest)
  | .conjunction => ∀ rest, read .conjunction (ts ++ rest) = readMore e rest
  | .disjunction => ∀ rest, Ends rest → read .disjunction (ts ++ rest) = .ok (e, rest)

theorem Derives.reads {phrase : Phrase} {ts : List Token} {e : Expr} (h : Derives phrase ts e) :
    Reads phrase ts e := by
  induction h with
  | name s => exact fun rest => read_primary_name s rest
  | @group ts e _ ih =>
    intro rest
    have inner := ih (.closing :: rest) ⟨by simp, by simp⟩
    rw [show Token.opening :: (ts ++ [.closing]) ++ rest = .opening :: (ts ++ .closing :: rest) by
      simp, read_primary_opening, inner]
    rfl
  | negation _ ih =>
    intro rest
    rw [List.cons_append, read_factor_not, ih rest]
    rfl
  | plain h ih =>
    intro rest
    rw [read_factor_of_head_ne h.primary_head_ne, ih rest]
  | single _ ih =>
    intro rest
    rw [read_conjunction, ih rest]
    rfl
  | conjoin _ _ ihl ihr =>
    intro rest
    rw [List.append_assoc, ihl, List.cons_append, readMore_and, ihr rest]
    rfl
  | alone _ ih =>
    intro rest hrest
    rw [read_disjunction, ih rest, readMore_of_head_ne _ hrest.1]
    exact readAfterConjunction_of_ends _ hrest
  | disjoin _ _ ihl ihr =>
    intro rest hrest
    rw [List.append_assoc, read_disjunction, ihl, readMore_of_head_ne _ (by simp)]
    simp only [Except.bind, List.cons_append, readAfterConjunction, ihr rest hrest]
    rfl

theorem Derives.ne_nil {phrase : Phrase} {ts : List Token} {e : Expr} (h : Derives phrase ts e) :
    ts ≠ [] := by
  induction h <;> simp_all

/-- A sequence is read as a whole exactly to the tree that the grammar gives it. -/
theorem parseTokens_eq_ok_iff {ts : List Token} {e : Expr} :
    parseTokens ts = .ok e ↔ Derives .disjunction ts e := by
  constructor
  · intro h
    have hne : ts ≠ [] := by rintro rfl; cases h
    rw [parseTokens_of_ne_nil hne] at h
    obtain ⟨⟨e', rest⟩, hr, he⟩ := bind_eq_ok h
    obtain ⟨used, rfl, hd⟩ := derives_of_read_disjunction hr
    match rest with
    | [] => cases he; simpa using hd
  · intro h
    have hr := h.reads [] ⟨by simp, by simp⟩
    rw [List.append_nil] at hr
    rw [parseTokens_of_ne_nil h.ne_nil, hr]
    rfl

theorem Derives.unique {ts : List Token} {e e' : Expr} (h : Derives .disjunction ts e)
    (h' : Derives .disjunction ts e') : e = e' := by
  have := parseTokens_eq_ok_iff.mpr h
  rw [parseTokens_eq_ok_iff.mpr h'] at this
  exact (Except.ok.inj this).symm

/-- The text that an error about tokens shows. -/
def shownSource (source : Option String) (ts : List Token) : String :=
  source.getD (" ".intercalate (ts.map Token.text))

theorem parseFrom_eq (source : Option String) (ts : List Token) :
    parseFrom source ts =
      (parseTokens ts).mapError fun f => ⟨shownSource source ts, .fault f⟩ := rfl

theorem parseFrom_eq_ok_iff {source : Option String} {ts : List Token} {e : Expr} :
    parseFrom source ts = .ok e ↔ Derives .disjunction ts e := by
  rw [parseFrom_eq, mapError_eq_ok_iff, parseTokens_eq_ok_iff]

theorem parse_eq_ok_iff {text : String} {e : Expr} :
    parse text = .ok e ↔ Derives .disjunction (lex text) e :=
  parseFrom_eq_ok_iff

/-- Token lists are accepted exactly as the grammar has them, with its one tree, and every other
token list is refused as a whole with a syntax error. -/
theorem parseFrom_agrees_with_grammar (source : Option String) (ts : List Token) :
    (∀ e, parseFrom source ts = .ok e ↔ Derives .disjunction ts e) ∧
    (∀ e e', Derives .disjunction ts e → Derives .disjunction ts e' → e = e') ∧
    ((∀ e, ¬ Derives .disjunction ts e) →
      ∃ f, parseFrom source ts = .error ⟨shownSource source ts, .fault f⟩) := by
  refine ⟨fun _ => parseFrom_eq_ok_iff, fun _ _ => Derives.unique, fun none_derives => ?_⟩
  rw [parseFrom_eq]
  cases h : parseTokens ts with
  | error f => exact ⟨f, rfl⟩
  | ok e => exact absurd (parseTokens_eq_ok_iff.mp h) (none_derives e)

end GuardedText.Guard

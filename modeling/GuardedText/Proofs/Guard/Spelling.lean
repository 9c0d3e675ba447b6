import GuardedText.Proofs.Guard.Printing
import GuardedText.Proofs.Text.Case

/-! Guard texts with the same tokens. Cutting loses nothing but spaces and the letter case of
keywords: the words that the tokens are written with make up the text, and two texts have the same
tokens just if they differ in the letter case of keywords and in spaces that stand next to a
delimiter or at an end. To such texts reading gives one tree, or one fault. -/

namespace GuardedText.Guard

/-- The ways in which a token can be written, a keyword in any letter case. -/
inductive Token.Spelled : Token → String → Prop
  | name {s} (h : IsName s) : Spelled (.name s) s
  | keyword {k word} (h : Text.asciiLower word = k.text) : Spelled (.keyword k) word
  | opening : Spelled .opening "("
  | closing : Spelled .closing ")"

/-- Nothing is before, or a delimiter ends it. -/
def DelimiterLast (front : String) : Prop :=
  ∀ c ∈ front.toList.getLast?, Token.ofDelimiter? c ≠ none

/-- Nothing is left, or a delimiter begins it. -/
def DelimiterFirst (rest : String) : Prop :=
  ∀ c ∈ rest.toList.head?, Token.ofDelimiter? c ≠ none

/-- The second text has one space more, next to a delimiter or at an end, or one keyword in other
letter case. -/
inductive Respelled : String → String → Prop
  | space {front rest} (h : DelimiterLast front ∨ DelimiterFirst rest) :
    Respelled (front ++ rest) (front ++ " " ++ rest)
  | keyword {front rest word word'} {k : Keyword} (hfront : DelimiterLast front)
    (hrest : DelimiterFirst rest) (hword : Text.asciiLower word = k.text)
    (hword' : Text.asciiLower word' = k.text) :
    Respelled (front ++ word ++ rest) (front ++ word' ++ rest)

/-- The texts differ in such spaces and in the letter case of keywords, and in nothing else. -/
def SameButSpelling : String → String → Prop :=
  Relation.EqvGen Respelled

def withoutSpaces (s : String) : String :=
  String.ofList (s.toList.filter (· ≠ ' '))

/-! ### Words -/

/-- A text is a word, or a word, a delimiter and another text. -/
theorem cut_induction {P : String → Prop} (word : ∀ w, Undelimited w → P w)
    (cut : ∀ w c ts s, Undelimited w → Token.ofDelimiter? c = some ts → P s →
      P (w ++ String.singleton c ++ s)) (s : String) : P s := by
  have hfrom : ∀ (cs : List Char) (w : String), Undelimited w → P (w ++ String.ofList cs) := by
    intro cs
    induction cs with
    | nil =>
      intro w hw
      simpa using word w hw
    | cons c cs ih =>
      intro w hw
      have hsplit : w ++ String.ofList (c :: cs) = w ++ String.singleton c ++ String.ofList cs := by
        rw [← String.toList_inj, String.toList_append, String.toList_append, String.toList_append,
          String.toList_singleton, String.toList_ofList, String.toList_ofList, List.append_assoc,
          List.singleton_append]
      rw [hsplit]
      cases hc : Token.ofDelimiter? c with
      | none =>
        refine ih _ fun d hd => ?_
        rw [String.toList_append, List.mem_append] at hd
        rcases hd with hd | hd
        · exact hw d hd
        · rw [show d = c by simpa using hd, hc]
      | some ts =>
        have hempty := ih "" (by simp [Undelimited])
        rw [String.empty_append] at hempty
        exact cut w c ts _ hw hc hempty
  simpa using hfrom s.toList "" (by simp [Undelimited])

theorem Keyword.text_foldable (k : Keyword) :
    ∀ c ∈ k.text.toList, c.toNat < 0x80 ∧ c ≠ 'k' ∧ Token.ofDelimiter? c = none := by
  cases k <;> simp [text, Token.ofDelimiter?]

theorem ofWord_eq_keyword_iff {w : String} {k : Keyword} :
    Token.ofWord w.toList = .keyword k ↔ Text.asciiLower w = k.text := by
  have hfold : Text.lowerChars w.toList = k.text.toList ↔ Text.asciiLower w = k.text := by
    rw [Text.lowerChars_eq_iff fun c hc => ⟨(k.text_foldable c hc).1, (k.text_foldable c hc).2.1⟩,
      ← String.toList_inj, Text.asciiLower, String.toList_ofList]
  rw [← hfold, ← Keyword.ofText?_eq_some_iff, Token.ofWord]
  cases Keyword.ofText? (Text.lowerChars w.toList) <;> simp

/-- A keyword in any letter case is a word. -/
theorem undelimited_of_asciiLower {w : String} {k : Keyword} (h : Text.asciiLower w = k.text) :
    Undelimited w := by
  intro c hc
  by_contra hdelimiter
  have hcases : c = ' ' ∨ c = '(' ∨ c = ')' := by
    rw [Token.ofDelimiter?_eq_none_iff] at hdelimiter
    tauto
  have hlower : c.toLower = c := by
    rcases hcases with rfl | rfl | rfl <;> rfl
  have hmem : c ∈ k.text.toList := by
    rw [← h, Text.asciiLower, String.toList_ofList, ← hlower]
    exact List.mem_map_of_mem hc
  exact hdelimiter (k.text_foldable c hmem).2.2

namespace Token

theorem Spelled.lex_eq {t : Token} {word : String} (h : t.Spelled word) : lex word = [t] := by
  cases h with
  | name h => exact lex_name h
  | @keyword k word h =>
    have hne : word ≠ "" := by
      rintro rfl
      cases k <;> exact absurd h (by decide)
    rw [lex_of_undelimited (undelimited_of_asciiLower h) hne, ofWord_eq_keyword_iff.mpr h]
  | opening | closing => rfl

theorem spelled_keyword_text (k : Keyword) : (keyword k).Spelled k.text :=
  .keyword (by cases k <;> decide)

/-- The tokens of a text can be written as their texts. -/
theorem spelled_text {text : String} {t : Token} (h : t ∈ lex text) : t.Spelled t.text := by
  cases t with
  | name s => exact .name (isName_of_mem_lex h).1
  | keyword k => exact spelled_keyword_text k
  | opening => exact .opening
  | closing => exact .closing

/-- A delimiter is the space, or it is a token as it stands. -/
theorem of_ofDelimiter? {c : Char} {ts : List Token} (h : ofDelimiter? c = some ts) :
    (c = ' ' ∧ ts = []) ∨
      ∃ t, ts = [t] ∧ c ≠ ' ' ∧ t.Spelled (String.singleton c) ∧ t.text = String.singleton c := by
  rw [ofDelimiter?] at h
  split at h
  · next hspace =>
    cases h
    exact .inl ⟨hspace, rfl⟩
  · split at h
    · next hopening =>
      cases h
      subst hopening
      exact .inr ⟨.opening, rfl, by decide, .opening, rfl⟩
    · split at h
      · next hclosing =>
        cases h
        subst hclosing
        exact .inr ⟨.closing, rfl, by decide, .closing, rfl⟩
      · cases h

end Token

/-- A word is written for the token that it is cut out as. -/
theorem spelled_ofWord {w : String} (h : Undelimited w) (hne : w ≠ "") :
    (Token.ofWord w.toList).Spelled w := by
  cases ht : Token.ofWord w.toList with
  | name s =>
    have hmem : Token.name s ∈ lex w := by simp [lex_of_undelimited h hne, ht]
    have hw : w = s := String.ofList_toList.symm.trans (Token.ofWord_eq_name_iff.mp ht).1
    rw [hw]
    exact .name (isName_of_mem_lex hmem).1
  | keyword k => exact .keyword (ofWord_eq_keyword_iff.mp ht)
  | opening | closing =>
    rw [Token.ofWord] at ht
    split at ht <;> cases ht

/-! ### Nothing is lost -/

theorem withoutSpaces_append (a b : String) :
    withoutSpaces (a ++ b) = withoutSpaces a ++ withoutSpaces b := by
  rw [withoutSpaces, String.toList_append, List.filter_append, String.ofList_append]
  rfl

theorem withoutSpaces_of_undelimited {w : String} (h : Undelimited w) : withoutSpaces w = w := by
  have hall : ∀ c ∈ w.toList, decide (c ≠ ' ') = true := fun c hc =>
    decide_eq_true (Token.ofDelimiter?_eq_none_iff.mp (h c hc)).1
  rw [withoutSpaces, List.filter_eq_self.mpr hall, String.ofList_toList]

theorem exists_words_delimiter {c : Char} {ts : List Token} (h : Token.ofDelimiter? c = some ts) :
    ∃ words, List.Forall₂ Token.Spelled ts words ∧
      String.join words = withoutSpaces (String.singleton c) := by
  rcases Token.of_ofDelimiter? h with ⟨rfl, rfl⟩ | ⟨t, rfl, hc, hspelled, -⟩
  · exact ⟨[], .nil, rfl⟩
  · exact ⟨[String.singleton c], .cons hspelled .nil, by simp [withoutSpaces, hc]⟩

theorem exists_words_of_undelimited {w : String} (h : Undelimited w) :
    ∃ words, List.Forall₂ Token.Spelled (lex w) words ∧ String.join words = withoutSpaces w := by
  by_cases hne : w = ""
  · subst hne
    exact ⟨[], .nil, rfl⟩
  · rw [lex_of_undelimited h hne, withoutSpaces_of_undelimited h]
    exact ⟨[w], .cons (spelled_ofWord h hne) .nil, by simp⟩

/-- The words that the tokens of a text are written with make up the text, apart from its spaces. -/
theorem exists_words (text : String) :
    ∃ words, List.Forall₂ Token.Spelled (lex text) words ∧
      String.join words = withoutSpaces text := by
  induction text using cut_induction with
  | word w hw => exact exists_words_of_undelimited hw
  | cut w c ts s hw hc ih =>
    obtain ⟨ws, hws, hjoin⟩ := exists_words_of_undelimited hw
    obtain ⟨ds, hds, hdelimiter⟩ := exists_words_delimiter hc
    obtain ⟨words, hwords, hrest⟩ := ih
    refine ⟨ws ++ ds ++ words, ?_, ?_⟩
    · rw [lex_append hc]
      exact List.rel_append (List.rel_append hws hds) hwords
    · rw [String.join_append, String.join_append, hjoin, hdelimiter, hrest, withoutSpaces_append,
        withoutSpaces_append]

theorem lex_intercalate {ts : List Token} {words : List String}
    (h : List.Forall₂ Token.Spelled ts words) : lex (" ".intercalate words) = ts := by
  induction h with
  | nil => rfl
  | @cons t word ts words ht hts ih =>
    cases hts with
    | nil => simpa using ht.lex_eq
    | cons =>
      rw [String.intercalate_cons_cons, lex_spaced, ht.lex_eq, ih]
      rfl

/-! ### Texts with the same tokens -/

theorem delimiterLast_empty : DelimiterLast "" := by
  simp [DelimiterLast]

theorem delimiterFirst_empty : DelimiterFirst "" := by
  simp [DelimiterFirst]

theorem delimiterLast_append {c : Char} {ts : List Token} (h : Token.ofDelimiter? c = some ts)
    (s : String) : DelimiterLast (s ++ String.singleton c) := by
  simp [DelimiterLast, h]

theorem delimiterFirst_append {c : Char} {ts : List Token} (h : Token.ofDelimiter? c = some ts)
    (s : String) : DelimiterFirst (String.singleton c ++ s) := by
  simp [DelimiterFirst, h]

/-- Where a delimiter or an end is, a text is cut. -/
theorem lex_append_of_delimiter {front rest : String}
    (h : DelimiterLast front ∨ DelimiterFirst rest) :
    lex (front ++ rest) = lex front ++ lex rest := by
  rcases h with hfront | hrest
  · rcases List.eq_nil_or_concat' front.toList with hnil | ⟨cs, c, hcs⟩
    · rw [String.toList_eq_nil_iff.mp hnil, String.empty_append]
      rfl
    · obtain ⟨ts, hc⟩ := Option.ne_none_iff_exists'.mp (hfront c (by simp [hcs]))
      rw [lex, lex, lex, String.toList_append, hcs, List.append_assoc, List.singleton_append,
        Token.scan_append hc, Token.scan_append hc]
      simp [Token.scan, Token.endWord]
  · cases hcs : rest.toList with
    | nil =>
      rw [String.toList_eq_nil_iff.mp hcs, String.append_empty]
      exact (List.append_nil _).symm
    | cons c cs =>
      obtain ⟨ts, hc⟩ := Option.ne_none_iff_exists'.mp (hrest c (by simp [hcs]))
      rw [lex, lex, lex, String.toList_append, hcs, Token.scan_append hc,
        Token.scan_cons_of_some hc]
      simp [Token.scan, Token.endWord]

theorem Respelled.lex_eq {s t : String} (h : Respelled s t) : lex s = lex t := by
  cases h with
  | space h => rw [lex_append_of_delimiter h, lex_spaced]
  | keyword hfront hrest hword hword' =>
    rw [lex_append_of_delimiter (.inr hrest), lex_append_of_delimiter (.inl hfront),
      lex_append_of_delimiter (.inr hrest), lex_append_of_delimiter (.inl hfront),
      (Token.Spelled.keyword hword).lex_eq, (Token.Spelled.keyword hword').lex_eq]

theorem SameButSpelling.lex_eq {s t : String} (h : SameButSpelling s t) : lex s = lex t := by
  induction h with
  | rel s t hstep => exact hstep.lex_eq
  | refl s => rfl
  | symm s t _ ih => exact ih.symm
  | trans s t u _ _ ih ih' => exact ih.trans ih'

/-- The texts of tokens, with a space after each. -/
def spaced (ts : List Token) : String :=
  String.join (ts.map fun t => t.text ++ " ")

theorem spaced_append (ts us : List Token) : spaced (ts ++ us) = spaced ts ++ spaced us := by
  simp [spaced]

theorem spaced_singleton (t : Token) : spaced [t] = t.text ++ " " := by
  simp [spaced]

theorem DelimiterLast.append_spaced {front : String} (h : DelimiterLast front) (ts : List Token) :
    DelimiterLast (front ++ spaced ts) := by
  rcases List.eq_nil_or_concat' ts with rfl | ⟨us, t, rfl⟩
  · simpa [spaced] using h
  · have hspace := delimiterLast_append (c := ' ') rfl (front ++ spaced us ++ t.text)
    rwa [spaced_append, spaced_singleton, ← String.append_assoc, ← String.append_assoc]

section Canonical

variable {front : String}

/-- Where a word begins and ends, it can be replaced by the text of its token and a space. -/
theorem sameButSpelling_word (hfront : DelimiterLast front) {w rest : String} (hw : Undelimited w)
    (hrest : DelimiterFirst rest) :
    SameButSpelling (front ++ w ++ rest) (front ++ spaced (lex w) ++ rest) := by
  by_cases hne : w = ""
  · subst hne
    exact .refl _
  · rw [lex_of_undelimited hw hne, spaced_singleton, ← String.append_assoc]
    have hspelled := spelled_ofWord hw hne
    generalize Token.ofWord w.toList = t at hspelled
    have htext : SameButSpelling (front ++ w ++ rest) (front ++ t.text ++ rest) := by
      cases hspelled with
      | name | opening | closing => exact .refl _
      | @keyword k w h =>
        cases Token.spelled_keyword_text k with
        | keyword htext => exact .rel _ _ (.keyword hfront hrest h htext)
    exact .trans _ _ _ htext (.rel _ _ (.space (.inr hrest)))

theorem sameButSpelling_delimiter (hfront : DelimiterLast front) {c : Char} {ts : List Token}
    (hc : Token.ofDelimiter? c = some ts) (rest : String) :
    SameButSpelling (front ++ String.singleton c ++ rest) (front ++ spaced ts ++ rest) := by
  have hlast := delimiterLast_append hc front
  rcases Token.of_ofDelimiter? hc with ⟨rfl, rfl⟩ | ⟨t, rfl, -, -, htext⟩
  · have hempty : spaced [] = "" := rfl
    rw [hempty, String.append_empty]
    exact .symm _ _ (.rel _ _ (.space (.inl hfront)))
  · rw [spaced_singleton, htext, ← String.append_assoc]
    exact .rel _ _ (.space (.inl hlast))

theorem sameButSpelling_spaced (hfront : DelimiterLast front) (s : String) :
    SameButSpelling (front ++ s) (front ++ spaced (lex s)) := by
  induction s using cut_induction generalizing front with
  | word w hw => simpa using sameButSpelling_word hfront hw delimiterFirst_empty
  | cut w c ts s hw hc ih =>
    have hs := ih (delimiterLast_append hc (front ++ w))
    have hword := sameButSpelling_word hfront hw (delimiterFirst_append hc (spaced (lex s)))
    have hdelimiter :=
      sameButSpelling_delimiter (hfront.append_spaced (lex w)) hc (spaced (lex s))
    rw [lex_append hc, spaced_append, spaced_append]
    simp only [String.append_assoc] at hs hword hdelimiter ⊢
    exact .trans _ _ _ hs (.trans _ _ _ hword hdelimiter)

end Canonical

/-- Texts have the same tokens just if they differ in nothing but spelling. -/
theorem lex_eq_iff {s t : String} : lex s = lex t ↔ SameButSpelling s t := by
  refine ⟨fun h => ?_, SameButSpelling.lex_eq⟩
  have hs := sameButSpelling_spaced delimiterLast_empty s
  have ht := sameButSpelling_spaced delimiterLast_empty t
  rw [h] at hs
  simp only [String.empty_append] at hs ht
  exact .trans _ _ _ hs (.symm _ _ ht)

theorem parse_of_lex_eq {s t : String} (h : lex s = lex t) :
    (∃ e, parse s = .ok e ∧ parse t = .ok e) ∨
      ∃ f, parse s = .error ⟨s, .fault f⟩ ∧ parse t = .error ⟨t, .fault f⟩ := by
  rw [parse, parse, parseFrom, parseFrom, h]
  cases parseTokens (lex t) with
  | error f => exact .inr ⟨f, rfl, rfl⟩
  | ok e => exact .inl ⟨e, rfl, rfl⟩

/-- Cutting text at a delimiter is cutting what stands on its two sides. The words that the tokens
are written with make up the text without its spaces, the names among them are words that no
delimiter stands in and no keyword in any letter case, and the texts of the tokens with spaces
between them are cut into the same tokens. Exactly the texts that differ in the letter case of
keywords and in spaces next to delimiters or at the ends have the same tokens, and reading gives one
tree for both or fails on both with one fault. -/
theorem lex_keeps_all_but_spelling :
    (∀ a b, lex (a ++ " " ++ b) = lex a ++ lex b ∧
      lex (a ++ "(" ++ b) = lex a ++ [.opening] ++ lex b ∧
      lex (a ++ ")" ++ b) = lex a ++ [.closing] ++ lex b) ∧
    (∀ text, (∃ words, List.Forall₂ Token.Spelled (lex text) words ∧
        String.join words = withoutSpaces text) ∧
      (∀ s, .name s ∈ lex text → IsName s) ∧
      lex (" ".intercalate ((lex text).map Token.text)) = lex text) ∧
    ∀ s t, (lex s = lex t ↔ SameButSpelling s t) ∧
      (SameButSpelling s t → (∃ e, parse s = .ok e ∧ parse t = .ok e) ∨
        ∃ f, parse s = .error ⟨s, .fault f⟩ ∧ parse t = .error ⟨t, .fault f⟩) := by
  refine ⟨fun a b => ⟨lex_spaced a b, lex_append (c := '(') rfl a b, lex_append (c := ')') rfl a b⟩,
    fun text => ⟨exists_words text, fun s hs => (isName_of_mem_lex hs).1, ?_⟩,
    fun s t => ⟨lex_eq_iff, fun h => parse_of_lex_eq h.lex_eq⟩⟩
  refine lex_intercalate (List.forall₂_map_right_iff.mpr (List.forall₂_same.mpr fun t ht => ?_))
  exact Token.spelled_text ht

/-- A keyword at a parenthesis in other letters, with a space between the two and one at the end. -/
theorem lex_keeps_all_but_spelling_crowded :
    let e : Expr := .and (.name "x") (.or (.not (.name "Y")) (.name "andy"))
    SameButSpelling "x AND(not Y or andy)" "x and (not Y or andy) " ∧ IsName "andy" ∧
      parse "x AND(not Y or andy)" = .ok e ∧ parse "x and (not Y or andy) " = .ok e := by
  intro e
  have hlast : DelimiterLast "x " := delimiterLast_append (c := ' ') rfl "x"
  have hfirst : DelimiterFirst "(not Y or andy)" :=
    delimiterFirst_append (c := '(') rfl "not Y or andy)"
  have hkeyword : Respelled "x AND(not Y or andy)" "x and(not Y or andy)" :=
    @Respelled.keyword "x " "(not Y or andy)" "AND" "and" .and hlast hfirst (by decide) (by decide)
  have hspace : Respelled "x and(not Y or andy)" "x and (not Y or andy)" :=
    @Respelled.space "x and" "(not Y or andy)" (.inr hfirst)
  have hend : Respelled "x and (not Y or andy)" "x and (not Y or andy) " :=
    @Respelled.space "x and (not Y or andy)" "" (.inr delimiterFirst_empty)
  have hsame : SameButSpelling "x AND(not Y or andy)" "x and (not Y or andy) " :=
    .trans _ _ _ (.rel _ _ hkeyword) (.trans _ _ _ (.rel _ _ hspace) (.rel _ _ hend))
  have hmem : .name "andy" ∈ lex "x AND(not Y or andy)" := by decide +kernel
  have hx : parse "x AND(not Y or andy)" = .ok e := by cbv
  obtain ⟨-, hwords, hspelling⟩ := lex_keeps_all_but_spelling
  rcases (hspelling _ _).2 hsame with ⟨e', he, he'⟩ | ⟨f, hf, -⟩
  · rw [hx] at he
    cases he
    exact ⟨hsame, (hwords _).2.1 "andy" hmem, hx, he'⟩
  · rw [hx] at hf
    cases hf

end GuardedText.Guard

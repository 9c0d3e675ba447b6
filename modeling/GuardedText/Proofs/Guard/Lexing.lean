import GuardedText.Guard.Token

/-! Cutting guard text into tokens. A delimiter ends the word before it and begins the text after
it anew, so a text is cut at its delimiters and each piece between them on its own. The words that
are left as names are those that no delimiter stands in and that are not keywords. -/

namespace GuardedText.Guard

namespace Keyword

theorem ofText?_text (k : Keyword) : ofText? k.text.toList = some k := by
  cases k <;> decide

theorem ofText?_eq_none_iff {word : List Char} :
    ofText? word = none ↔ ∀ k : Keyword, String.ofList word ≠ k.text := by
  constructor
  · rintro h k hk
    rw [← String.toList_inj, String.toList_ofList] at hk
    rw [hk, ofText?_text] at h
    cases h
  · intro h
    have hne : ∀ k : Keyword, word ≠ k.text.toList := by
      rintro k rfl
      exact h k (String.ofList_toList)
    have hand : word ≠ ['a', 'n', 'd'] := hne .and
    have hor : word ≠ ['o', 'r'] := hne .or
    have hnot : word ≠ ['n', 'o', 't'] := hne .not
    rw [ofText?, if_neg hand, if_neg hor, if_neg hnot]

theorem ofText?_eq_some_iff {word : List Char} {k : Keyword} :
    ofText? word = some k ↔ word = k.text.toList := by
  constructor
  · intro h
    rw [ofText?] at h
    split at h
    · next hand =>
      cases h
      exact hand
    · split at h
      · next hor =>
        cases h
        exact hor
      · split at h
        · next hnot =>
          cases h
          exact hnot
        · cases h
  · rintro rfl
    exact ofText?_text k

end Keyword

/-- A word that is cut out of guard text as a name. -/
structure IsName (s : String) : Prop where
  nonempty : s ≠ ""
  undelimited : ∀ c ∈ s.toList, c ≠ ' ' ∧ c ≠ '(' ∧ c ≠ ')'
  unreserved : ∀ k : Keyword, Text.lower s ≠ k.text

namespace Token

/-- The tokens that a delimiter is; `none` for a character of a word. -/
def ofDelimiter? (c : Char) : Option (List Token) :=
  if c = ' ' then some []
  else if c = '(' then some [.opening]
  else if c = ')' then some [.closing]
  else none

theorem ofDelimiter?_eq_none_iff {c : Char} :
    ofDelimiter? c = none ↔ c ≠ ' ' ∧ c ≠ '(' ∧ c ≠ ')' := by
  rw [ofDelimiter?]
  grind

theorem name_not_mem_ofDelimiter? {c : Char} {ts : List Token} (h : ofDelimiter? c = some ts)
    (s : String) : Token.name s ∉ ts := by
  rw [ofDelimiter?] at h
  grind

theorem endWord_eq (word : List Char) (rest : List Token) :
    endWord word rest = endWord word [] ++ rest := by
  cases word <;> rfl

theorem scan_cons_of_some {c : Char} {ts : List Token} (h : ofDelimiter? c = some ts)
    (word rest : List Char) : scan word (c :: rest) = scan word [] ++ ts ++ scan [] rest := by
  have hc : scan word (c :: rest) = endWord word (ts ++ scan [] rest) := by
    rw [ofDelimiter?] at h
    rw [scan]
    grind
  rw [hc, endWord_eq, scan, List.append_assoc]

theorem scan_cons_of_none {c : Char} (h : ofDelimiter? c = none) (word rest : List Char) :
    scan word (c :: rest) = scan (c :: word) rest := by
  obtain ⟨hspace, hopening, hclosing⟩ := ofDelimiter?_eq_none_iff.mp h
  rw [scan, if_neg hspace, if_neg hopening, if_neg hclosing]

/-- The texts on the two sides of a delimiter are cut independently. -/
theorem scan_append {c : Char} {ts : List Token} (h : ofDelimiter? c = some ts)
    (word a b : List Char) : scan word (a ++ c :: b) = scan word a ++ ts ++ scan [] b := by
  induction a generalizing word with
  | nil => exact scan_cons_of_some h word b
  | cons d a ih =>
    rw [List.cons_append]
    cases hd : ofDelimiter? d with
    | none => rw [scan_cons_of_none hd, scan_cons_of_none hd, ih]
    | some us =>
      rw [scan_cons_of_some hd, scan_cons_of_some hd, ih]
      simp only [List.append_assoc]

theorem scan_of_undelimited {s : List Char} (h : ∀ c ∈ s, ofDelimiter? c = none)
    (word : List Char) : scan word s = endWord (s.reverse ++ word) [] := by
  induction s generalizing word with
  | nil => rfl
  | cons c s ih =>
    rw [scan_cons_of_none (h c List.mem_cons_self), ih fun d hd => h d (List.mem_cons_of_mem _ hd)]
    simp

theorem ofWord_eq_name_iff {word : List Char} {s : String} :
    ofWord word = .name s ↔
      String.ofList word = s ∧ ∀ k : Keyword, Text.lower (String.ofList word) ≠ k.text := by
  rw [ofWord, Text.lower, String.toList_ofList, ← Keyword.ofText?_eq_none_iff]
  cases Keyword.ofText? (Text.lowerChars word) <;> simp

theorem isName_of_mem_endWord {word : List Char} {s : String}
    (hword : ∀ c ∈ word, ofDelimiter? c = none) (h : .name s ∈ endWord word []) :
    IsName s ∧ s.toList = word.reverse := by
  match word with
  | [] => cases h
  | c :: word =>
    replace h : .name s ∈ [ofWord (c :: word).reverse] := h
    rw [List.mem_singleton, eq_comm, ofWord_eq_name_iff] at h
    obtain ⟨rfl, hreserved⟩ := h
    refine ⟨⟨by simp, fun d hd => ?_, hreserved⟩, String.toList_ofList⟩
    rw [String.toList_ofList, List.mem_reverse] at hd
    exact ofDelimiter?_eq_none_iff.mp (hword d hd)

/-- The names cut out of a text are names, made of its characters. -/
theorem isName_of_mem_scan {word cs : List Char} {s : String}
    (hword : ∀ c ∈ word, ofDelimiter? c = none) (h : .name s ∈ scan word cs) :
    IsName s ∧ ∀ c ∈ s.toList, c ∈ word ++ cs := by
  induction cs generalizing word with
  | nil =>
    obtain ⟨hs, hchars⟩ := isName_of_mem_endWord hword h
    exact ⟨hs, fun c hc => by simpa [hchars] using hc⟩
  | cons d cs ih =>
    cases hd : ofDelimiter? d with
    | none =>
      rw [scan_cons_of_none hd] at h
      obtain ⟨hs, hchars⟩ := ih (List.forall_mem_cons.mpr ⟨hd, hword⟩) h
      refine ⟨hs, fun c hc => ?_⟩
      have := hchars c hc
      simp only [List.cons_append, List.mem_cons, List.mem_append] at this ⊢
      exact or_left_comm.mp this
    | some ts =>
      rw [scan_cons_of_some hd, List.mem_append, List.mem_append] at h
      rcases h with (h | h) | h
      · obtain ⟨hs, hchars⟩ := isName_of_mem_endWord hword h
        exact ⟨hs, fun c hc => List.mem_append_left _ (by simpa [hchars] using hc)⟩
      · exact absurd h (name_not_mem_ofDelimiter? hd s)
      · obtain ⟨hs, hchars⟩ := ih (fun c hc => absurd hc List.not_mem_nil) h
        refine ⟨hs, fun c hc => ?_⟩
        have := hchars c hc
        rw [List.nil_append] at this
        simp [this]

end Token

theorem isName_of_mem_lex {text s : String} (h : .name s ∈ lex text) :
    IsName s ∧ ∀ c ∈ s.toList, c ∈ text.toList :=
  Token.isName_of_mem_scan (fun _ hc => absurd hc List.not_mem_nil) h

theorem lex_append {c : Char} {ts : List Token} (h : Token.ofDelimiter? c = some ts)
    (a b : String) : lex (a ++ String.singleton c ++ b) = lex a ++ ts ++ lex b := by
  rw [lex, String.toList_append, String.toList_append, String.toList_singleton, List.append_assoc,
    List.singleton_append]
  exact Token.scan_append h [] a.toList b.toList

/-- No delimiter stands in the text. -/
def Undelimited (s : String) : Prop :=
  ∀ c ∈ s.toList, Token.ofDelimiter? c = none

theorem lex_of_undelimited {w : String} (h : Undelimited w) (hne : w ≠ "") :
    lex w = [Token.ofWord w.toList] := by
  have hword : w.toList.reverse ≠ [] := by simpa using hne
  rw [lex, Token.scan_of_undelimited h, List.append_nil, Token.endWord, List.reverse_reverse]
  exact hword

theorem lex_name {s : String} (h : IsName s) : lex s = [.name s] := by
  have hundelimited : Undelimited s :=
    fun c hc => Token.ofDelimiter?_eq_none_iff.mpr (h.undelimited c hc)
  have hword : Token.ofWord s.toList = .name s :=
    Token.ofWord_eq_name_iff.mpr ⟨String.ofList_toList, by simpa using h.unreserved⟩
  rw [lex_of_undelimited hundelimited h.nonempty, hword]

theorem lex_keyword (k : Keyword) : lex k.text = [.keyword k] := by
  cases k <;> decide

end GuardedText.Guard

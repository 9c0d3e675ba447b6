import GuardedText.Proofs.Result
import GuardedText.Proofs.Settings.Prefix
import GuardedText.Proofs.Text.Case
import GuardedText.Proofs.Text.Trim
import GuardedText.Template.Directive

/-! When a line is text, and which directive it is when it is one. -/

namespace GuardedText.Template

namespace Keyword

theorem text_ascii (k : Keyword) :
    ∀ c ∈ k.text.toList, c.toNat < 0x80 ∧ Text.isBlank c = false ∧ c.toLower = c := by
  cases k <;> simp [text] <;> decide

theorem text_ne_nil (k : Keyword) : k.text.toList ≠ [] := by
  cases k <;> decide

theorem toList_spelling (p : String) (k : Keyword) :
    (k.spelling p).toList = p.toList ++ k.text.toList := by
  simp [spelling]

theorem toList_spelling_ne_nil (p : Prefix) (k : Keyword) : (k.spelling p.text).toList ≠ [] := by
  rw [toList_spelling]
  simp [p.toList_ne_nil]

theorem spelling_not_blank (p : Prefix) (k : Keyword) :
    ∀ c ∈ (k.spelling p.text).toList, Text.isBlank c = false := by
  intro c hc
  rw [toList_spelling, List.mem_append] at hc
  rcases hc with hc | hc
  · exact Prefix.isBlank_of_admits (p.admits_of_mem hc)
  · exact (k.text_ascii c hc).2.1

theorem lower_spelling (p : Prefix) (k : Keyword) :
    Text.lower (k.spelling p.text) =
      String.ofList (p.text.toList.map Char.toLower ++ k.text.toList) := by
  have hk : k.text.toList.map Char.toLower = k.text.toList :=
    (List.map_congr_left fun c hc => (k.text_ascii c hc).2.2).trans (List.map_id _)
  rw [Text.lower_of_ascii, toList_spelling, List.map_append, hk]
  intro c hc
  rw [toList_spelling, List.mem_append] at hc
  rcases hc with hc | hc
  · exact Prefix.toNat_lt_of_admits (p.admits_of_mem hc)
  · exact (k.text_ascii c hc).1

theorem text_not_sigma (k : Keyword) :
    ∀ c ∈ k.text.toList, c ≠ Text.finalSigma ∧ c ≠ Text.smallSigma := by
  intro c hc
  have hascii : c.toNat < 0x80 := (k.text_ascii c hc).1
  constructor
  · rintro rfl
    exact absurd hascii (by decide)
  · rintro rfl
    exact absurd hascii (by decide)

/-- Behind the prefix a keyword is told by the rest of the word alone. -/
theorem ofWord?_append (p : Prefix) (word : List Char) :
    ofWord? p.text (String.ofList (p.text.toList ++ word)) =
      all.find? fun k => Text.lowerChars word == k.text.toList := by
  have hprefix : ∀ c ∈ p.text.toList, c.toNat < 0x80 :=
    fun c hc => Prefix.toNat_lt_of_admits (p.admits_of_mem hc)
  have hword : Text.lower (String.ofList (p.text.toList ++ word)) =
      String.ofList (p.text.toList.map Char.toLower ++
        Text.lowerFrom (p.text.toList.reverse ++ []) word) := by
    rw [Text.lower, Text.lowerChars, String.toList_ofList,
      Text.lowerFrom_append_of_ascii hprefix]
  have hbeq : ∀ k : Keyword, (Text.lower (String.ofList (p.text.toList ++ word)) ==
      Text.lower (k.spelling p.text)) = (Text.lowerChars word == k.text.toList) := by
    intro k
    rw [Bool.eq_iff_iff, beq_iff_eq, beq_iff_eq, hword, lower_spelling, String.ofList_inj,
      List.append_cancel_left_eq]
    exact Text.lowerFrom_eq_iff k.text_not_sigma _ _
  simp only [ofWord?, hbeq]

/-- A keyword is found by its own spelling. -/
theorem ofWord?_spelling (p : Prefix) (k : Keyword) :
    ofWord? p.text (k.spelling p.text) = some k := by
  have hspelling : k.spelling p.text = String.ofList (p.text.toList ++ k.text.toList) := by
    rw [← toList_spelling, String.ofList_toList]
  rw [hspelling, ofWord?_append]
  cases k <;> decide

end Keyword

namespace Directive

variable {ν μ : Type}

theorem ofWords_eq_ok_iff {p line : String} {n : ν} {word argument : List Char}
    {d : Directive ν} :
    ofWords p line n word argument = .ok d ↔
      Keyword.ofWord? p (String.ofList word) = some d.keyword ∧
        (d.keyword.takesGuard = true → argument ≠ []) ∧
        d.argument = String.ofList argument ∧ d.lineNumber = n := by
  obtain ⟨k', a', n'⟩ := d
  rw [ofWords]
  cases hk : Keyword.ofWord? p (String.ofList word) with
  | none => simp
  | some k =>
    cases hg : k.takesGuard with
    | false => grind
    | true =>
      cases argument with
      | nil => grind
      | cons c cs => grind

theorem ofLine_eq_none_iff {p line : String} {n : ν} :
    ofLine p line n = .ok none ↔ ¬ p.toList <+: Text.trim line.toList := by
  rw [ofLine]
  cases h : p.toList.isPrefixOf (Text.trim line.toList) with
  | false => simp [← List.isPrefixOf_iff_prefix, h]
  | true =>
    have hp := List.isPrefixOf_iff_prefix.mp h
    simp only [hp, not_true_eq_false, iff_false]
    intro hn
    obtain ⟨_, _, hd⟩ := map_eq_ok hn
    cases hd

theorem ofLine_eq_some_iff {p line : String} {n : ν} {d : Directive ν} :
    ofLine p line n = .ok (some d) ↔
      p.toList <+: Text.trim line.toList ∧
        ofWords p line n (splitWord (Text.trim line.toList)).1
          (splitWord (Text.trim line.toList)).2 = .ok d := by
  rw [ofLine]
  cases h : p.toList.isPrefixOf (Text.trim line.toList) with
  | false => simp [← List.isPrefixOf_iff_prefix, h]
  | true =>
    have hp := List.isPrefixOf_iff_prefix.mp h
    cases ofWords p line n _ _ <;> simp [hp, Except.map]

theorem lineNumber_of_ofLine {p line : String} {n : ν} {d : Directive ν}
    (h : ofLine p line n = .ok (some d)) : d.lineNumber = n :=
  (ofWords_eq_ok_iff.mp (ofLine_eq_some_iff.mp h).2).2.2.2

/-- An error carries the line as it is and its number, and is not one about what is still open. -/
theorem of_ofLine_error {p line : String} {n : ν} {e : Error ν} (h : ofLine p line n = .error e) :
    ∃ reason, e = ⟨n, line, reason⟩ ∧
      ∀ needed spelling openedAt, reason ≠ .unclosed needed spelling openedAt := by
  rw [ofLine] at h
  split at h
  · cases h
  · rw [map_eq_error_iff, ofWords] at h
    split at h
    · cases h
      refine ⟨_, rfl, fun _ _ _ => ?_⟩
      split <;> simp
    · split at h
      · cases h
        exact ⟨_, rfl, by simp⟩
      · cases h

/-- The argument is a part of the line. -/
theorem mem_of_mem_argument {p line : String} {n : ν} {d : Directive ν}
    (h : ofLine p line n = .ok (some d)) {c : Char} (hc : c ∈ d.argument.toList) :
    c ∈ line.toList := by
  rw [(ofWords_eq_ok_iff.mp (ofLine_eq_some_iff.mp h).2).2.2.1, String.toList_ofList] at hc
  exact Text.mem_of_mem_trim ((List.dropWhile_suffix _).mem (Text.mem_of_mem_trim hc))

def renumber (f : ν → μ) (d : Directive ν) : Directive μ :=
  ⟨d.keyword, d.argument, f d.lineNumber⟩

def Reason.renumber (f : ν → μ) : Reason ν → Reason μ
  | .keywordMissing p => .keywordMissing p
  | .unknown word => .unknown word
  | .guardMissing s => .guardMissing s
  | .unmatched s needed => .unmatched s needed
  | .misplaced s after => .misplaced s after
  | .unclosed needed s openedAt => .unclosed needed s (f openedAt)
  | .reported text => .reported text

def Error.renumber (f : ν → μ) (e : Error ν) : Error μ :=
  ⟨f e.lineNumber, e.line, e.reason.renumber f⟩

theorem ofWords_apply (f : ν → μ) (p line : String) (n : ν) (word argument : List Char) :
    ofWords p line (f n) word argument =
      ((ofWords p line n word argument).map (renumber f)).mapError (Error.renumber f) := by
  rw [ofWords, ofWords]
  cases Keyword.ofWord? p (String.ofList word) with
  | none =>
    dsimp only [Except.map, Except.mapError, Error.renumber]
    split <;> rfl
  | some k =>
    dsimp only
    split <;> rfl

/-- What a line is has nothing to do with its number. -/
theorem ofLine_apply (f : ν → μ) (p line : String) (n : ν) :
    ofLine p line (f n) =
      ((ofLine p line n).map (Option.map (renumber f))).mapError (Error.renumber f) := by
  rw [ofLine, ofLine]
  cases p.toList.isPrefixOf (Text.trim line.toList) with
  | false => rfl
  | true =>
    dsimp only
    rw [ofWords_apply]
    cases ofWords p line n _ _ <;> rfl

theorem ofLine_renumber (m : μ) {p line : String} {n : ν} {d : Directive ν}
    (h : ofLine p line n = .ok (some d)) :
    ofLine p line m = .ok (some ⟨d.keyword, d.argument, m⟩) := by
  have hline := ofLine_apply (fun _ => m) p line n
  rw [h] at hline
  exact hline

theorem splitWord_append {word : List Char} (hword : ∀ c ∈ word, Text.isBlank c = false)
    (rest : List Char) :
    splitWord (word ++ rest) = (word ++ (splitWord rest).1, (splitWord rest).2) := by
  have hpos : ∀ c ∈ word, (!Text.isBlank c) = true := fun c hc => by simp [hword c hc]
  rw [splitWord, List.takeWhile_append_of_pos hpos, List.dropWhile_append_of_pos hpos, splitWord]

theorem splitWord_of_blankFirst {rest : List Char} (hrest : Text.BlankFirst rest) :
    splitWord rest = ([], Text.trim rest) := by
  rw [splitWord]
  cases rest with
  | nil => simp
  | cons c rest =>
    have hc : Text.isBlank c = true := hrest c rfl
    simp [hc]

/-- A line with the prefix behind its indentation. What follows the prefix is split without it. -/
theorem ofLine_prefixed (p : Prefix) {lead : List Char}
    (hlead : ∀ c ∈ lead, Text.isBlank c = true) (rest : List Char) (n : ν) :
    ofLine p.text (String.ofList (lead ++ p.text.toList ++ rest)) n =
      (ofWords p.text (String.ofList (lead ++ p.text.toList ++ rest)) n
        (p.text.toList ++ (splitWord (Text.dropEndWhile Text.isBlank rest)).1)
        (splitWord (Text.dropEndWhile Text.isBlank rest)).2).map some := by
  have hword : ∀ c ∈ p.text.toList, Text.isBlank c = false :=
    fun c hc => Prefix.isBlank_of_admits (p.admits_of_mem hc)
  have htrim : Text.trim (lead ++ p.text.toList ++ rest) =
      p.text.toList ++ Text.dropEndWhile Text.isBlank rest :=
    Text.trim_blank_word_append hlead p.toList_ne_nil hword rest
  have hprefix : p.text.toList.isPrefixOf
      (p.text.toList ++ Text.dropEndWhile Text.isBlank rest) = true :=
    List.isPrefixOf_iff_prefix.mpr (List.prefix_append _ _)
  simp only [ofLine, String.toList_ofList, htrim, hprefix, splitWord_append hword]

/-- A spelled keyword, and blank space and an argument after it, make a directive. -/
theorem ofLine_spelling (p : Prefix) (k : Keyword) {rest : List Char}
    (hrest : Text.BlankFirst rest) (hguard : k.takesGuard = true → Text.trim rest ≠ []) (n : ν) :
    ofLine p.text (k.spelling p.text ++ String.ofList rest) n =
      .ok (some ⟨k, String.ofList (Text.trim rest), n⟩) := by
  have hline : k.spelling p.text ++ String.ofList rest =
      String.ofList ([] ++ p.text.toList ++ (k.text.toList ++ rest)) := by
    rw [← String.toList_inj, String.toList_append, Keyword.toList_spelling]
    simp
  have hkeyword : ∀ c ∈ k.text.toList, Text.isBlank c = false := fun c hc => (k.text_ascii c hc).2.1
  have hsplit : splitWord (Text.dropEndWhile Text.isBlank (k.text.toList ++ rest)) =
      (k.text.toList, Text.trim rest) := by
    have hend := Text.dropEndWhile_word_append k.text_ne_nil hkeyword [] rest
    rw [List.nil_append] at hend
    rw [hend, splitWord_append hkeyword, splitWord_of_blankFirst hrest.dropEndWhile,
      List.append_nil, Text.trim_dropEndWhile]
  have hwords : ofWords p.text (String.ofList ([] ++ p.text.toList ++ (k.text.toList ++ rest))) n
      (p.text.toList ++ k.text.toList) (Text.trim rest) =
      .ok ⟨k, String.ofList (Text.trim rest), n⟩ := by
    rw [ofWords_eq_ok_iff, ← Keyword.toList_spelling, String.ofList_toList]
    exact ⟨k.ofWord?_spelling p, hguard, rfl, rfl⟩
  rw [hline, ofLine_prefixed p (by simp), hsplit, hwords]
  rfl

end Directive

end GuardedText.Template

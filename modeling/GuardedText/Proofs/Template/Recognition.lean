import GuardedText.Proofs.Template.DirectiveLine
import Mathlib

/-! Which lines are directives. Behind the prefix stands a word with the letters of a keyword, and
behind that the argument, set off by a blank; indentation and blanks at the end do not count. Every
other line that starts with the prefix is an error, and a line that does not is text. The whole word
is compared in lowercase, prefix and keyword as one, but the prefix stands as it is spelled and no
letter beyond ASCII has a lowercase that a keyword is made of, so only ASCII letters may vary. -/

namespace GuardedText.Template

namespace Keyword

/-- The word has the letters of the keyword, small or capital. Letters beyond ASCII change into
none of these. -/
def Spells (k : Keyword) (word : List Char) : Prop :=
  word.map Char.toLower = k.text.toList

instance (k : Keyword) (word : List Char) : Decidable (k.Spells word) :=
  inferInstanceAs (Decidable (_ = _))

theorem text_foldable (k : Keyword) : ∀ c ∈ k.text.toList, c.toNat < 0x80 ∧ c ≠ 'k' := by
  cases k <;> simp [text]

/-- Behind the prefix, a keyword is found by its letters and by nothing else. -/
theorem ofWord?_append_eq_some_iff (p : Prefix) {word : List Char} {k : Keyword} :
    ofWord? p.text (String.ofList (p.text.toList ++ word)) = some k ↔ k.Spells word := by
  rw [ofWord?_append, Spells, ← Text.lowerChars_eq_iff k.text_foldable]
  constructor
  · intro h
    have hfound := List.find?_some h
    exact eq_of_beq hfound
  · intro h
    rw [h]
    cases k <;> decide

theorem Spells.isAlpha {k : Keyword} {word : List Char} (h : k.Spells word) :
    ∀ c ∈ word, c.isAlpha = true := by
  have htext : ∀ d ∈ k.text.toList, d.isLower = true := by
    cases k <;> simp [text]
  intro c hc
  have hlower : c.toLower ∈ k.text.toList := h ▸ List.mem_map_of_mem hc
  rw [← Char.isLower_toLower_eq_isAlpha]
  exact htext _ hlower

theorem Spells.not_blank {k : Keyword} {word : List Char} (h : k.Spells word) :
    ∀ c ∈ word, Text.isBlank c = false := by
  intro c hc
  have hletter := h.isAlpha c hc
  simp only [Char.isAlpha, Char.isUpper, Char.isLower, ge_iff_le, UInt32.le_iff_toNat_le,
    Bool.or_eq_true, Bool.and_eq_true, decide_eq_true_eq] at hletter
  apply Prefix.isBlank_of_admits
  simp only [Prefix.admits, Char.toNat, Bool.and_eq_true, decide_eq_true_eq]
  change (65 ≤ c.val.toNat ∧ c.val.toNat ≤ 90) ∨ 97 ≤ c.val.toNat ∧ c.val.toNat ≤ 122 at hletter
  omega

theorem spells_text (k : Keyword) : k.Spells k.text.toList := by
  cases k <;> decide

end Keyword

namespace Directive

/-- What stands behind the first word of a line: nothing, or a blank and then the argument with
blanks at both of its ends. -/
inductive SetOff : List Char → String → Prop
  | nothing : SetOff [] ""
  | behind {blank : Char} (h : Text.isBlank blank = true) (rest : List Char) :
    SetOff (blank :: rest) (String.ofList (Text.trim rest))

/-- The line reads as the directive with this keyword and argument. -/
structure Written (p line : String) (k : Keyword) (argument : String) : Prop where
  words : ∃ word rest, Text.trim line.toList = p.toList ++ word ++ rest ∧
    k.Spells word ∧ SetOff rest argument
  guarded : k.takesGuard = true → argument ≠ ""

theorem setOff_iff {rest : List Char} {argument : String} :
    SetOff rest argument ↔
      Text.BlankFirst rest ∧ argument = String.ofList (Text.trim rest) := by
  cases rest with
  | nil =>
    constructor
    · rintro ⟨⟩
      exact ⟨by simp [Text.BlankFirst], rfl⟩
    · rintro ⟨-, rfl⟩
      exact .nothing
  | cons c rest =>
    constructor
    · rintro (_ | ⟨h, _⟩)
      exact ⟨by simpa [Text.BlankFirst] using h, by rw [Text.trim_cons_of_blank h]⟩
    · rintro ⟨hfirst, rfl⟩
      have h : Text.isBlank c = true := hfirst c rfl
      rw [Text.trim_cons_of_blank h]
      exact .behind h rest

variable {ν : Type} {p : Prefix} {line : String} {n : ν}

/-- A line is a directive exactly if it reads as one. -/
theorem ofLine_eq_some_iff_written {d : Directive ν} :
    ofLine p.text line n = .ok (some d) ↔
      Written p.text line d.keyword d.argument ∧ d.lineNumber = n := by
  have hnoBlank : ∀ c ∈ p.text.toList, Text.isBlank c = false :=
    fun c hc => Prefix.isBlank_of_admits (p.admits_of_mem hc)
  rw [ofLine_eq_some_iff]
  constructor
  · rintro ⟨⟨tail, htail⟩, hwords⟩
    rw [← htail, splitWord_append hnoBlank, ofWords_eq_ok_iff,
      Keyword.ofWord?_append_eq_some_iff, splitWord] at hwords
    obtain ⟨hspells, hguard, hargument, hn⟩ := hwords
    refine ⟨⟨⟨tail.takeWhile (!Text.isBlank ·), tail.dropWhile (!Text.isBlank ·), ?_, hspells,
      setOff_iff.mpr ⟨.dropWhile_word tail, hargument⟩⟩, ?_⟩, hn⟩
    · rw [List.append_assoc, List.takeWhile_append_dropWhile, htail]
    · intro hk hnil
      rw [hargument] at hnil
      exact hguard hk (String.ofList_eq_empty_iff.mp hnil)
  · rintro ⟨⟨⟨word, rest, htrim, hspells, hsetOff⟩, hguard⟩, hn⟩
    obtain ⟨hfirst, hargument⟩ := setOff_iff.mp hsetOff
    rw [htrim, List.append_assoc, splitWord_append hnoBlank, splitWord_append hspells.not_blank,
      splitWord_of_blankFirst hfirst, List.append_nil, ofWords_eq_ok_iff,
      Keyword.ofWord?_append_eq_some_iff]
    refine ⟨List.prefix_append _ _, hspells, fun hk hnil => ?_, hargument, hn⟩
    have hnil : Text.trim rest = [] := hnil
    exact hguard hk (by rw [hargument, hnil])

theorem ofLine_eq_error_iff :
    (∃ reason, ofLine p.text line n = .error ⟨n, line, reason⟩) ↔
      p.text.toList <+: Text.trim line.toList ∧
        ∀ k argument, ¬ Written p.text line k argument := by
  constructor
  · rintro ⟨reason, h⟩
    constructor
    · by_contra hstarts
      cases h.symm.trans (ofLine_eq_none_iff.mpr hstarts)
    · intro k argument hwritten
      have hd : ofLine p.text line n = .ok (some ⟨k, argument, n⟩) :=
        ofLine_eq_some_iff_written.mpr ⟨hwritten, rfl⟩
      cases h.symm.trans hd
  · rintro ⟨hstarts, hnot⟩
    rcases h : ofLine p.text line n with e | _ | d
    · obtain ⟨reason, rfl, -⟩ := of_ofLine_error h
      exact ⟨reason, rfl⟩
    · exact absurd hstarts (ofLine_eq_none_iff.mp h)
    · exact absurd (ofLine_eq_some_iff_written.mp h).1 (hnot _ _)

/-- A spelled keyword may be indented, and blanks set its argument off and end the line. -/
theorem written_spelling (p : Prefix) (k : Keyword) {indent gap argument gap' : List Char}
    (hindent : ∀ c ∈ indent, Text.isBlank c = true) (hgap : ∀ c ∈ gap, Text.isBlank c = true)
    (hgap' : ∀ c ∈ gap', Text.isBlank c = true) (hne : gap ≠ [])
    (hguard : k.takesGuard = true → ∃ c ∈ argument, Text.isBlank c = false) :
    Written p.text (String.ofList (indent ++ (k.spelling p.text).toList ++
      (gap ++ argument ++ gap'))) k (String.ofList (Text.trim argument)) := by
  have hfirst : Text.BlankFirst (gap ++ argument ++ gap') := by
    obtain ⟨c, gap, rfl⟩ := List.exists_cons_of_ne_nil hne
    simpa [Text.BlankFirst] using hgap c (by simp)
  refine ⟨⟨k.text.toList, Text.dropEndWhile Text.isBlank (gap ++ argument ++ gap'), ?_,
    k.spells_text, setOff_iff.mpr ⟨hfirst.dropEndWhile, ?_⟩⟩, ?_⟩
  · rw [String.toList_ofList, Text.trim_blank_word_append hindent (k.toList_spelling_ne_nil p)
      (k.spelling_not_blank p), Keyword.toList_spelling]
  · rw [Text.trim_dropEndWhile, Text.trim_blank_append_blank hgap hgap']
  · intro hk hnil
    obtain ⟨c, hc, hblank⟩ := hguard hk
    exact Text.trim_ne_nil hc hblank (String.ofList_eq_empty_iff.mp hnil)

/-- Every line is one of three things, and which of them is told by its text alone. It is text if,
trimmed, it does not start with the prefix; a directive if it reads as one; and else an error, which
carries the line and its number. -/
theorem ofLine_recognizes (p : Prefix) (line : String) (n : ν) :
    (ofLine p.text line n = .ok none ↔ ¬ p.text.toList <+: Text.trim line.toList) ∧
    (∀ d : Directive ν, ofLine p.text line n = .ok (some d) ↔
      Written p.text line d.keyword d.argument ∧ d.lineNumber = n) ∧
    ((∃ reason, ofLine p.text line n = .error ⟨n, line, reason⟩) ↔
      p.text.toList <+: Text.trim line.toList ∧
        ∀ k argument, ¬ Written p.text line k argument) ∧
    (∀ (k : Keyword) (indent gap argument gap' : List Char),
      (∀ c ∈ indent, Text.isBlank c = true) → (∀ c ∈ gap, Text.isBlank c = true) →
      (∀ c ∈ gap', Text.isBlank c = true) → gap ≠ [] →
      (k.takesGuard = true → ∃ c ∈ argument, Text.isBlank c = false) →
      ofLine p.text (String.ofList (indent ++ (k.spelling p.text).toList ++
          (gap ++ argument ++ gap'))) n =
        .ok (some ⟨k, String.ofList (Text.trim argument), n⟩)) ∧
    (∀ (k : Keyword) (word : List Char),
      Keyword.ofWord? p.text (String.ofList (p.text.toList ++ word)) = some k →
        ∀ c ∈ word, c.isAlpha = true) := by
  refine ⟨ofLine_eq_none_iff, fun d => ofLine_eq_some_iff_written, ofLine_eq_error_iff, ?_, ?_⟩
  · intro k indent gap argument gap' hindent hgap hgap' hne hguard
    exact ofLine_eq_some_iff_written.mpr
      ⟨written_spelling p k hindent hgap hgap' hne hguard, rfl⟩
  · intro k word h
    exact ((Keyword.ofWord?_append_eq_some_iff p).mp h).isAlpha

/-- Wide and narrow blanks around a capital keyword, under a prefix of letters. -/
theorem ofLine_recognizes_indented :
    Text.isBlank '\u3000' = true ∧ Text.isBlank '\u00A0' = true ∧ Text.isBlank '\u2003' = true ∧
      ofLine "el" "\u3000elelif\u00A0\tx or y \u2003" 7 = .ok (some ⟨.elif, "x or y", 7⟩) ∧
      Keyword.ofWord? "el" "elELif" = some .elif ∧ ∀ c ∈ "ELif".toList, c.isAlpha = true := by
  have h := (ofLine_recognizes ⟨"el", by decide, by decide⟩ "" 7).2.2.2
  have hfound : Keyword.ofWord? "el" "elELif" = some .elif := by cbv
  refine ⟨by decide, by decide, by decide, ?_, hfound, h.2 .elif "ELif".toList hfound⟩
  exact h.1 .elif ['\u3000'] ['\u00A0', '\t'] "x or y".toList [' ', '\u2003']
    (by simp [Text.isBlank]) (by simp [Text.isBlank]) (by simp [Text.isBlank]) (by simp)
    fun _ => ⟨'x', by decide, by decide⟩

/-- The capital I with a dot is lowered to more than the letter `i`. -/
example : ofLine "#" " #\u0130F x" 3 = .error ⟨3, " #\u0130F x", .unknown "#\u0130F"⟩ := by
  cbv

end Directive

end GuardedText.Template

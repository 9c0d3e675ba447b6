import GuardedText.Proofs.Text.Trim
import GuardedText.Text.Lines

/-! Cutting documents into lines and putting them together. -/

namespace GuardedText.Text

theorem dropFinalBreak_append (s : String) : dropFinalBreak (s ++ lineBreak) = s := by
  have h : (s ++ lineBreak).toList.reverse = '\n' :: s.toList.reverse := by
    simp [lineBreak]
  rw [dropFinalBreak, h]
  simp

theorem mem_of_mem_dropLineEnd {c : Char} {line : String} (h : c ∈ (dropLineEnd line).toList) :
    c ∈ line.toList := by
  rw [dropLineEnd, String.toList_ofList] at h
  exact mem_of_mem_dropEndWhile h

theorem getLast_dropLineEnd {line : String} :
    ∀ c ∈ (dropLineEnd line).toList.getLast?, isLineEnd c = false := by
  rw [dropLineEnd, String.toList_ofList]
  exact getLast_dropEndWhile

theorem dropLineEnd_of_getLast {line : String}
    (h : ∀ c ∈ line.toList.getLast?, isLineEnd c = false) : dropLineEnd line = line := by
  rw [dropLineEnd, dropEndWhile_of_getLast h, String.ofList_toList]

theorem dropLineEnd_dropLineEnd (line : String) :
    dropLineEnd (dropLineEnd line) = dropLineEnd line :=
  dropLineEnd_of_getLast getLast_dropLineEnd

theorem isLineEnd_of_not_isBlank {c : Char} (h : isBlank c = false) : isLineEnd c = false := by
  have hcr : c ≠ '\r' := by
    rintro rfl
    exact absurd h (by decide)
  have hlf : c ≠ '\n' := by
    rintro rfl
    exact absurd h (by decide)
  simp [isLineEnd, hcr, hlf]

theorem isBlank_of_isLineEnd {c : Char} (h : isLineEnd c = true) : isBlank c = true := by
  by_contra hblank
  rw [Bool.not_eq_true] at hblank
  simp [isLineEnd_of_not_isBlank hblank] at h

theorem trim_dropLineEnd (line : String) : trim (dropLineEnd line).toList = trim line.toList := by
  rw [dropLineEnd, String.toList_ofList]
  exact trim_dropEndWhile_of_blank (fun _ => isBlank_of_isLineEnd) line.toList

/-- A line end is dropped behind the last word, whatever stands before that. -/
theorem dropLineEnd_word_append {word : List Char} (hne : word ≠ [])
    (hword : ∀ c ∈ word, isBlank c = false) (s rest : List Char) :
    dropLineEnd (String.ofList (s ++ word ++ rest)) =
      String.ofList (s ++ word ++ dropEndWhile isLineEnd rest) := by
  have hend : ∀ c ∈ word, isLineEnd c = false := fun c hc => isLineEnd_of_not_isBlank (hword c hc)
  rw [dropLineEnd, String.toList_ofList, dropEndWhile_word_append hne hend]

theorem splitFrom_of_not_mem {separator : Char} {s : List Char} (h : separator ∉ s)
    (piece : List Char) : splitFrom separator piece s = [piece.reverse ++ s] := by
  induction s generalizing piece with
  | nil => simp [splitFrom]
  | cons c s ih =>
    obtain ⟨hc, hs⟩ := not_or.mp (mt List.mem_cons.mpr h)
    rw [splitFrom, if_neg (Ne.symm hc), ih hs]
    simp

/-- A separator between two texts cuts there, whatever other separators they hold. -/
theorem splitFrom_append_separator (separator : Char) (piece s t : List Char) :
    splitFrom separator piece (s ++ separator :: t) =
      splitFrom separator piece s ++ splitFrom separator [] t := by
  induction s generalizing piece with
  | nil => simp [splitFrom]
  | cons c s ih =>
    rw [List.cons_append, splitFrom, splitFrom]
    split
    · rw [ih, List.cons_append]
    · exact ih _

theorem splitFrom_append_cons {separator : Char} {s : List Char} (h : separator ∉ s)
    (piece rest : List Char) :
    splitFrom separator piece (s ++ separator :: rest) =
      (piece.reverse ++ s) :: splitFrom separator [] rest := by
  rw [splitFrom_append_separator, splitFrom_of_not_mem h, List.singleton_append]

theorem not_mem_of_mem_splitFrom {separator : Char} {piece s p : List Char}
    (hpiece : separator ∉ piece) (h : p ∈ splitFrom separator piece s) : separator ∉ p := by
  induction s generalizing piece with
  | nil =>
    rw [splitFrom, List.mem_singleton] at h
    simpa [h] using hpiece
  | cons c s ih =>
    rw [splitFrom] at h
    split at h
    · rcases List.mem_cons.mp h with rfl | h
      · simpa using hpiece
      · exact ih List.not_mem_nil h
    · next hc => exact ih (by simp [hpiece, Ne.symm hc]) h

/-- The pieces of a text hold no other characters than the text. -/
theorem mem_of_mem_splitFrom {separator c : Char} {piece s p : List Char}
    (h : p ∈ splitFrom separator piece s) (hc : c ∈ p) : c ∈ piece ∨ c ∈ s := by
  induction s generalizing piece with
  | nil =>
    rw [splitFrom, List.mem_singleton] at h
    exact .inl (by simpa [h] using hc)
  | cons d s ih =>
    rw [splitFrom] at h
    split at h
    · rcases List.mem_cons.mp h with rfl | h
      · exact .inl (by simpa using hc)
      · exact .inr (List.mem_cons_of_mem d ((ih h).resolve_left List.not_mem_nil))
    · rcases ih h with hpiece | hs
      · rcases List.mem_cons.mp hpiece with rfl | hpiece
        · exact .inr List.mem_cons_self
        · exact .inl hpiece
      · exact .inr (List.mem_cons_of_mem d hs)

/-- The lines of a document hold no line feeds. -/
theorem not_mem_of_mem_splitLines {s line : String} (h : line ∈ splitLines s) :
    '\n' ∉ line.toList := by
  obtain ⟨piece, hpiece, rfl⟩ := List.mem_map.mp h
  simpa using not_mem_of_mem_splitFrom List.not_mem_nil hpiece

/-- Lines joined to a document are its lines again. -/
theorem splitLines_intercalate {lines : List String} (hne : lines ≠ [])
    (h : ∀ line ∈ lines, '\n' ∉ line.toList) :
    splitLines (lineBreak.intercalate lines) = lines := by
  induction lines with
  | nil => exact absurd rfl hne
  | cons line lines ih =>
    have hline := h line List.mem_cons_self
    cases lines with
    | nil => simp [splitLines, split, splitFrom_of_not_mem hline]
    | cons next lines =>
      have hrest := ih (by simp) fun l hl => h l (List.mem_cons_of_mem _ hl)
      rw [splitLines, split] at hrest ⊢
      rw [String.intercalate_cons_cons, String.toList_append, String.toList_append,
        show lineBreak.toList = ['\n'] from rfl, List.append_assoc, List.singleton_append,
        splitFrom_append_cons hline, List.map_cons, hrest]
      simp

theorem toList_intercalate_splitFrom (piece s : List Char) :
    (lineBreak.intercalate ((splitFrom '\n' piece s).map String.ofList)).toList =
      piece.reverse ++ s := by
  induction s generalizing piece with
  | nil => simp [splitFrom]
  | cons c s ih =>
    rw [splitFrom]
    split
    · next hc =>
      subst hc
      rw [List.map_cons, String.intercalate_cons_of_ne_nil (by simp [splitFrom_ne_nil]),
        String.toList_append, ih]
      simp [lineBreak]
    · rw [ih]
      simp

/-- The lines of a document joined are the document again. -/
theorem intercalate_splitLines (s : String) : lineBreak.intercalate (splitLines s) = s := by
  rw [← String.toList_inj]
  exact toList_intercalate_splitFrom [] s.toList

/-! ### Texts in which every line is ended -/

/-- The lines with a break after each. -/
def endLines (lines : List String) : String :=
  String.join (lines.map (· ++ lineBreak))

/-- The lines of a text that ends each of them with a break. -/
def endedLines (s : String) : List String :=
  (splitLines s).dropLast

theorem endLines_cons (line : String) (lines : List String) :
    endLines (line :: lines) = line ++ lineBreak ++ endLines lines := by
  rw [endLines, List.map_cons, String.join_cons, ← endLines]

theorem endLines_eq_intercalate (lines : List String) :
    endLines lines = lineBreak.intercalate (lines ++ [""]) := by
  induction lines with
  | nil => simp [endLines]
  | cons line lines ih =>
    rw [endLines_cons, ih, List.cons_append, String.intercalate_cons_of_ne_nil (by simp)]

theorem endLines_append (xs ys : List String) :
    endLines (xs ++ ys) = endLines xs ++ endLines ys := by
  rw [endLines, endLines, endLines, List.map_append]
  induction xs.map (· ++ lineBreak) with
  | nil => simp
  | cons x xs ih => simp [ih, String.append_assoc]

/-- Ended lines are the lines with a break between them and one more at the end. -/
theorem endLines_of_ne_nil {lines : List String} (hne : lines ≠ []) :
    endLines lines = lineBreak.intercalate lines ++ lineBreak := by
  induction lines with
  | nil => exact absurd rfl hne
  | cons line lines ih =>
    cases lines with
    | nil => simp [endLines]
    | cons next lines =>
      rw [endLines_cons, ih (by simp), String.intercalate_cons_cons]
      simp only [String.append_assoc]

/-- Without the break after the last line, a break stands between the lines only. -/
theorem dropFinalBreak_endLines (lines : List String) :
    dropFinalBreak (endLines lines) = lineBreak.intercalate lines := by
  by_cases hne : lines = []
  · subst hne
    rfl
  · rw [endLines_of_ne_nil hne, dropFinalBreak_append]

theorem endedLines_endLines {lines : List String} (h : ∀ line ∈ lines, '\n' ∉ line.toList) :
    endedLines (endLines lines) = lines := by
  rw [endedLines, endLines_eq_intercalate, splitLines_intercalate (by simp), List.dropLast_concat]
  intro line hline
  rcases List.mem_append.mp hline with hline | hline
  · exact h line hline
  · rw [List.mem_singleton.mp hline]
    simp

end GuardedText.Text

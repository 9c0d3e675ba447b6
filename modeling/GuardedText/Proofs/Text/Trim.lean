import GuardedText.Text.Blank
import Mathlib.Data.List.DropRight

/-! Cutting characters off the ends of a text. -/

namespace GuardedText.Text

theorem dropEndWhile_eq (p : Char → Bool) (s : List Char) : dropEndWhile p s = s.rdropWhile p := rfl

theorem dropEndWhile_cons (p : Char → Bool) (c : Char) (s : List Char) :
    dropEndWhile p (c :: s) =
      if dropEndWhile p s = [] ∧ p c = true then [] else c :: dropEndWhile p s := by
  rw [dropEndWhile, dropEndWhile, List.reverse_cons, List.dropWhile_append]
  cases hs : List.dropWhile p s.reverse with
  | nil => cases hc : p c <;> simp [hc]
  | cons d ds => simp

/-- The two ends of a text are cut independently. -/
theorem dropWhile_dropEndWhile (p : Char → Bool) (s : List Char) :
    (dropEndWhile p s).dropWhile p = dropEndWhile p (s.dropWhile p) := by
  induction s with
  | nil => rfl
  | cons c s ih =>
    rw [dropEndWhile_cons]
    cases hc : p c with
    | false => simp [hc, dropEndWhile_cons]
    | true =>
      rw [List.dropWhile_cons_of_pos hc, ← ih]
      split
      · next h => simp [h.1]
      · rw [List.dropWhile_cons_of_pos hc]

theorem dropEndWhile_of_getLast {p : Char → Bool} {s : List Char}
    (h : ∀ c ∈ s.getLast?, p c = false) : dropEndWhile p s = s := by
  rw [dropEndWhile_eq, List.rdropWhile_eq_self_iff]
  intro hs
  simp [h _ (List.getLast?_eq_some_getLast hs)]

theorem getLast_dropEndWhile {p : Char → Bool} {s : List Char} :
    ∀ c ∈ (dropEndWhile p s).getLast?, p c = false := by
  intro c hc
  have hne : dropEndWhile p s ≠ [] := by
    intro h
    simp [h] at hc
  have := List.rdropWhile_last_not p s hne
  rw [List.getLast?_eq_some_getLast hne] at hc
  cases hc
  exact (Bool.not_eq_true _).mp this

theorem mem_of_mem_dropEndWhile {p : Char → Bool} {c : Char} {s : List Char}
    (h : c ∈ dropEndWhile p s) : c ∈ s := by
  have hs := List.rdropWhile_prefix p s
  exact hs.mem h

/-- The last characters that satisfy `p` are cut off the end of what they follow. -/
theorem dropEndWhile_append_of_ne_nil {p : Char → Bool} (s : List Char) {c : Char}
    (hc : p c = false) (t : List Char) :
    dropEndWhile p (s ++ c :: t) = s ++ c :: dropEndWhile p t := by
  induction s with
  | nil => simp [dropEndWhile_cons, hc]
  | cons d s ih => simp [dropEndWhile_cons, ih]

theorem mem_of_mem_trim {c : Char} {s : List Char} (h : c ∈ trim s) : c ∈ s :=
  (List.dropWhile_suffix _).mem (mem_of_mem_dropEndWhile h)

/-- What was cut off an end before makes no difference if it would be cut off anyway. -/
theorem trim_dropEndWhile_of_blank {p : Char → Bool} (hp : ∀ c, p c = true → isBlank c = true)
    (s : List Char) : trim (dropEndWhile p s) = trim s := by
  have hdrop : ∀ l : List Char, (l.dropWhile p).dropWhile isBlank = l.dropWhile isBlank := by
    intro l
    induction l with
    | nil => rfl
    | cons c l ih =>
      by_cases hc : p c = true
      · rw [List.dropWhile_cons_of_pos hc, List.dropWhile_cons_of_pos (hp c hc), ih]
      · rw [List.dropWhile_cons_of_neg hc]
  have hend : dropEndWhile isBlank (dropEndWhile p s) = dropEndWhile isBlank s := by
    simp [dropEndWhile, hdrop]
  rw [trim, trim, ← dropWhile_dropEndWhile, ← dropWhile_dropEndWhile, hend]

theorem trim_dropEndWhile (s : List Char) : trim (dropEndWhile isBlank s) = trim s :=
  trim_dropEndWhile_of_blank (fun _ h => h) s

/-- A text is cut behind its last word, whatever stands before that. -/
theorem dropEndWhile_word_append {p : Char → Bool} {word : List Char} (hne : word ≠ [])
    (hword : ∀ c ∈ word, p c = false) (s rest : List Char) :
    dropEndWhile p (s ++ word ++ rest) = s ++ word ++ dropEndWhile p rest := by
  obtain ⟨init, last, rfl⟩ := (List.eq_nil_or_concat' word).resolve_left hne
  have hlast := dropEndWhile_append_of_ne_nil (s ++ init) (hword last (by simp)) rest
  simpa using hlast

/-- Blanks and a word after them are cut only before and behind the word. -/
theorem trim_blank_word_append {lead word : List Char} (hlead : ∀ c ∈ lead, isBlank c = true)
    (hne : word ≠ []) (hword : ∀ c ∈ word, isBlank c = false) (rest : List Char) :
    trim (lead ++ word ++ rest) = word ++ dropEndWhile isBlank rest := by
  have hfront : (word ++ dropEndWhile isBlank rest).dropWhile isBlank =
      word ++ dropEndWhile isBlank rest := by
    obtain ⟨c, word, rfl⟩ := List.exists_cons_of_ne_nil hne
    simp [hword c (by simp)]
  rw [trim, ← dropWhile_dropEndWhile, dropEndWhile_word_append hne hword, List.append_assoc,
    List.dropWhile_append_of_pos hlead, hfront]

/-- Nothing is left, or a blank begins the text. -/
def BlankFirst (rest : List Char) : Prop :=
  ∀ c ∈ rest.head?, isBlank c = true

theorem BlankFirst.dropEndWhile {rest : List Char} (h : BlankFirst rest) :
    BlankFirst (dropEndWhile isBlank rest) := by
  cases rest with
  | nil => exact h
  | cons c rest =>
    rw [dropEndWhile_cons]
    split
    · simp [BlankFirst]
    · exact h

theorem BlankFirst.dropWhile_word (s : List Char) : BlankFirst (s.dropWhile (!isBlank ·)) := by
  intro c hc
  have hnot := List.head?_dropWhile_not (!isBlank ·) s
  rw [hc] at hnot
  simpa using hnot

/-! ### Blanks at both ends -/

theorem dropEndWhile_append_of_pos {p : Char → Bool} {gap : List Char} (h : ∀ c ∈ gap, p c = true)
    (s : List Char) : dropEndWhile p (s ++ gap) = dropEndWhile p s := by
  rw [dropEndWhile, List.reverse_append, List.dropWhile_append_of_pos (by simpa using h),
    dropEndWhile]

/-- Blanks around a text are cut off with those that it has itself. -/
theorem trim_blank_append_blank {gap gap' : List Char} (hgap : ∀ c ∈ gap, isBlank c = true)
    (hgap' : ∀ c ∈ gap', isBlank c = true) (s : List Char) : trim (gap ++ s ++ gap') = trim s := by
  rw [trim, ← dropWhile_dropEndWhile, dropEndWhile_append_of_pos hgap', dropWhile_dropEndWhile,
    List.dropWhile_append_of_pos hgap, ← trim]

theorem trim_cons_of_blank {c : Char} (h : isBlank c = true) (s : List Char) :
    trim (c :: s) = trim s := by
  rw [trim, List.dropWhile_cons_of_pos h, ← trim]

/-- Something is left of a text that is not all blank. -/
theorem trim_ne_nil {c : Char} {s : List Char} (hc : c ∈ s) (h : isBlank c = false) :
    trim s ≠ [] := by
  obtain ⟨front, back, rfl⟩ := List.append_of_mem hc
  rw [trim, ← dropWhile_dropEndWhile, dropEndWhile_append_of_ne_nil front h]
  intro hnil
  have hblank := List.dropWhile_eq_nil_iff.mp hnil c (by simp)
  simp [h] at hblank

end GuardedText.Text

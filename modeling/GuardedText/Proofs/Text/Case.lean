import GuardedText.Text.Case

/-! Letter case of ASCII text, where each letter changes on its own, also before text of any kind. No
other text is lowered to ASCII text, unless by a Kelvin sign, which becomes the letter `k`. The case
of its ASCII letters makes no difference to the lowercase of any text. -/

namespace GuardedText.Text

theorem lowerChar_of_ascii {c : Char} (h : c.toNat < 0x80) (before after : List Char) :
    lowerChar before c after = [c.toLower] := by
  have hne : c ≠ capitalSigma := by
    rintro rfl
    exact absurd h (by decide)
  rw [lowerChar, if_neg hne, if_pos h]

theorem lowerFrom_append_of_ascii {s : List Char} (h : ∀ c ∈ s, c.toNat < 0x80)
    (before rest : List Char) :
    lowerFrom before (s ++ rest) = s.map Char.toLower ++ lowerFrom (s.reverse ++ before) rest := by
  induction s generalizing before with
  | nil => rfl
  | cons c s ih =>
    obtain ⟨hc, hs⟩ := List.forall_mem_cons.mp h
    rw [List.cons_append, lowerFrom, lowerChar_of_ascii hc, ih hs]
    simp

theorem lowerFrom_of_ascii {s : List Char} (h : ∀ c ∈ s, c.toNat < 0x80) (before : List Char) :
    lowerFrom before s = s.map Char.toLower := by
  have happend := lowerFrom_append_of_ascii h before []
  simpa [lowerFrom] using happend

theorem lower_of_ascii {s : String} (h : ∀ c ∈ s.toList, c.toNat < 0x80) :
    lower s = String.ofList (s.toList.map Char.toLower) := by
  rw [lower, lowerChars, lowerFrom_of_ascii h]

/-! ### What stands before a text -/

/-- A character other than a capital sigma is lowered without a look at what stands before it. -/
theorem lowerChar_of_ne {c : Char} (h : c ≠ capitalSigma) (before before' after : List Char) :
    lowerChar before c after = lowerChar before' c after := by
  rw [lowerChar, lowerChar, if_neg h, if_neg h]

theorem lowerChar_capitalSigma (before after : List Char) :
    lowerChar before capitalSigma after = [finalSigma] ∨
      lowerChar before capitalSigma after = [smallSigma] := by
  rw [lowerChar, if_pos rfl]
  split
  · exact .inl rfl
  · exact .inr rfl

/-- Only a capital sigma takes what stands before the text into account, and leaves a small one. -/
theorem lowerFrom_of_no_sigma {before s : List Char}
    (h : ∀ c ∈ lowerFrom before s, c ≠ finalSigma ∧ c ≠ smallSigma) (before' : List Char) :
    lowerFrom before' s = lowerFrom before s := by
  induction s generalizing before before' with
  | nil => rfl
  | cons c s ih =>
    rw [lowerFrom, List.forall_mem_append] at h
    have hc : c ≠ capitalSigma := by
      rintro rfl
      rcases lowerChar_capitalSigma before s with hlast | hlast
      · exact (h.1 finalSigma (by simp [hlast])).1 rfl
      · exact (h.1 smallSigma (by simp [hlast])).2 rfl
    rw [lowerFrom, lowerFrom, lowerChar_of_ne hc before' before, ih h.2]

theorem lowerFrom_eq_iff {s t : List Char} (ht : ∀ c ∈ t, c ≠ finalSigma ∧ c ≠ smallSigma)
    (before before' : List Char) : lowerFrom before s = t ↔ lowerFrom before' s = t := by
  constructor
  · rintro rfl
    exact lowerFrom_of_no_sigma ht before'
  · rintro rfl
    exact lowerFrom_of_no_sigma ht before

/-! ### Characters beyond ASCII -/

/-- Each run of lowercase mappings stays beyond ASCII, apart from that of the Kelvin sign alone. -/
theorem lowerRuns_beyond_ascii : ∀ r ∈ lowerRuns,
    r.first = 0x212A ∧ r.last = 0x212A ∨
      0x80 ≤ r.first + r.shift ∧ r.last + r.shift < 0xD800 ∨
      0xE000 ≤ r.first + r.shift ∧ r.last + r.shift < 0x110000 := by
  decide +kernel

theorem mapByRuns_lowerRuns {c : Char} (h : 0x80 ≤ c.toNat) (hkelvin : c.toNat ≠ 0x212A) :
    0x80 ≤ (mapByRuns lowerRuns c).toNat := by
  rw [mapByRuns]
  cases hr : lowerRuns.find? (·.contains c.toNat) with
  | none => exact h
  | some r =>
    have hc := List.find?_some hr
    simp only [CaseRun.contains, Bool.and_eq_true, decide_eq_true_eq] at hc
    obtain ⟨⟨hfirst, hlast⟩, -⟩ := hc
    have hvalid : 0x80 ≤ (c.toNat + r.shift).toNat ∧ (c.toNat + r.shift).toNat.isValidChar := by
      simp only [Nat.isValidChar]
      rcases lowerRuns_beyond_ascii r (List.mem_of_find?_eq_some hr) with hk | hlow | hhigh
      · omega
      · omega
      · omega
    have hnat : (Char.ofNat (c.toNat + r.shift).toNat).toNat = (c.toNat + r.shift).toNat := by
      rw [Char.ofNat, dif_pos hvalid.2]
      rfl
    exact hnat ▸ hvalid.1

/-- A character beyond ASCII has one of these in its lowercase too, unless it is the Kelvin sign. -/
theorem exists_mem_lowerChar {c : Char} (h : 0x80 ≤ c.toNat) (before after : List Char) :
    ∃ d ∈ lowerChar before c after, 0x80 ≤ d.toNat ∨ d = 'k' := by
  by_cases hsigma : c = capitalSigma
  · subst hsigma
    rcases lowerChar_capitalSigma before after with hlower | hlower
    · exact ⟨finalSigma, by simp [hlower], .inl (by decide)⟩
    · exact ⟨smallSigma, by simp [hlower], .inl (by decide)⟩
  rw [lowerChar, if_neg hsigma, if_neg (Nat.not_lt.mpr h)]
  split
  · exact ⟨Char.ofNat 0x307, by simp, .inl (by decide)⟩
  · refine ⟨_, List.mem_singleton.mpr rfl, ?_⟩
    by_cases hkelvin : c.toNat = 0x212A
    · have hc : c = Char.ofNat 0x212A := by
        rw [← hkelvin, Char.ofNat_toNat]
      subst hc
      exact .inr (by decide +kernel)
    · exact .inl (mapByRuns_lowerRuns h hkelvin)

theorem ascii_of_lowerFrom {before s : List Char}
    (h : ∀ d ∈ lowerFrom before s, d.toNat < 0x80 ∧ d ≠ 'k') : ∀ c ∈ s, c.toNat < 0x80 := by
  induction s generalizing before with
  | nil => simp
  | cons c s ih =>
    rw [lowerFrom, List.forall_mem_append] at h
    refine List.forall_mem_cons.mpr ⟨?_, ih h.2⟩
    rcases Nat.lt_or_ge c.toNat 0x80 with hc | hc
    · exact hc
    obtain ⟨d, hd, hbeyond⟩ := exists_mem_lowerChar hc before s
    obtain ⟨hascii, hk⟩ := h.1 d hd
    exact absurd hbeyond (not_or.mpr ⟨Nat.not_le.mpr hascii, hk⟩)

theorem toNat_lt_of_toLower {c : Char} (h : c.toLower.toNat < 0x80) : c.toNat < 0x80 := by
  by_cases hc : c.val ≥ 65 ∧ c.val ≤ 90
  · exact Nat.lt_of_le_of_lt (UInt32.le_iff_toNat_le.mp hc.2) (by decide)
  · have hsame : c.toLower = c := dif_neg hc
    rwa [hsame] at h

/-- In an ASCII text without the letter `k`, only ASCII letters change when a text is lowered to
it. -/
theorem lowerChars_eq_iff {s t : List Char} (ht : ∀ d ∈ t, d.toNat < 0x80 ∧ d ≠ 'k') :
    lowerChars s = t ↔ s.map Char.toLower = t := by
  constructor
  · rintro rfl
    exact (lowerFrom_of_ascii (ascii_of_lowerFrom ht) []).symm
  · rintro rfl
    refine lowerFrom_of_ascii (fun c hc => ?_) []
    exact toNat_lt_of_toLower (ht _ (List.mem_map_of_mem hc)).1

/-! ### A change of ASCII letters -/

/-- The text with each capital ASCII letter made small. -/
def asciiLower (s : String) : String :=
  String.ofList (s.toList.map Char.toLower)

def IsAsciiCapital (c : Char) : Prop :=
  65 ≤ c.toNat ∧ c.toNat ≤ 90

theorem toLower_eq_or_isAsciiCapital (c : Char) : c.toLower = c ∨ IsAsciiCapital c := by
  by_cases hc : c.val ≥ 65 ∧ c.val ≤ 90
  · exact .inr ⟨UInt32.le_iff_toNat_le.mp hc.1, UInt32.le_iff_toNat_le.mp hc.2⟩
  · exact .inl (dif_neg hc)

/-- A capital letter and its small one are alike to the text around them. -/
theorem toLower_of_isAsciiCapital {c : Char} (h : IsAsciiCapital c) :
    c.toNat < 0x80 ∧ c.toLower.toNat < 0x80 ∧ c.toLower.toLower = c.toLower ∧
      inRanges casedRanges c.toLower = inRanges casedRanges c ∧
      inRanges caseIgnorableRanges c.toLower = inRanges caseIgnorableRanges c := by
  have hall : ∀ n ≤ 90, 65 ≤ n →
      (Char.ofNat n).toNat < 0x80 ∧ (Char.ofNat n).toLower.toNat < 0x80 ∧
      (Char.ofNat n).toLower.toLower = (Char.ofNat n).toLower ∧
      inRanges casedRanges (Char.ofNat n).toLower = inRanges casedRanges (Char.ofNat n) ∧
      inRanges caseIgnorableRanges (Char.ofNat n).toLower =
        inRanges caseIgnorableRanges (Char.ofNat n) := by
    decide +kernel
  have hc := hall c.toNat h.2 h.1
  rwa [Char.ofNat_toNat] at hc

theorem meetsCased_map_toLower (s : List Char) :
    meetsCased (s.map Char.toLower) = meetsCased s := by
  have hcased (c : Char) : inRanges casedRanges c.toLower = inRanges casedRanges c := by
    rcases toLower_eq_or_isAsciiCapital c with hc | hc
    · rw [hc]
    · exact (toLower_of_isAsciiCapital hc).2.2.2.1
  have hignorable : inRanges caseIgnorableRanges ∘ Char.toLower = inRanges caseIgnorableRanges := by
    funext c
    rcases toLower_eq_or_isAsciiCapital c with hc | hc
    · rw [Function.comp_apply, hc]
    · exact (toLower_of_isAsciiCapital hc).2.2.2.2
  rw [meetsCased, meetsCased, List.dropWhile_map, hignorable]
  cases s.dropWhile (inRanges caseIgnorableRanges) with
  | nil => rfl
  | cons c rest => exact hcased c

theorem lowerChar_map_toLower (before : List Char) (c : Char) (after : List Char) :
    lowerChar (before.map Char.toLower) c.toLower (after.map Char.toLower) =
      lowerChar before c after := by
  rcases toLower_eq_or_isAsciiCapital c with hc | hc
  · rw [hc, lowerChar, lowerChar, meetsCased_map_toLower, meetsCased_map_toLower]
  · obtain ⟨hascii, hsmall, htwice, -⟩ := toLower_of_isAsciiCapital hc
    rw [lowerChar_of_ascii hascii, lowerChar_of_ascii hsmall, htwice]

theorem lowerFrom_map_toLower (before s : List Char) :
    lowerFrom (before.map Char.toLower) (s.map Char.toLower) = lowerFrom before s := by
  induction s generalizing before with
  | nil => rfl
  | cons c s ih =>
    have hrest := ih (c :: before)
    rw [List.map_cons] at hrest
    rw [List.map_cons, lowerFrom, lowerFrom, lowerChar_map_toLower, hrest]

/-- Texts that differ in the case of ASCII letters have one lowercase, whatever text stands around
those letters. -/
theorem lower_asciiLower (s : String) : lower (asciiLower s) = lower s := by
  rw [lower, asciiLower, String.toList_ofList, lowerChars]
  exact congrArg String.ofList (lowerFrom_map_toLower [] s.toList)

end GuardedText.Text

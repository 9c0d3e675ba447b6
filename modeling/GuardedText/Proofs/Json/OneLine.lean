import GuardedText.Json
import GuardedText.Text.Lines

/-! JSON texts that stand on one line. Whatever a document holds, its text without blanks has no
character below U+0020: strings escape them, and numerals and punctuation have none. -/

namespace GuardedText

namespace Text

/-- No character is below U+0020. -/
def NoControls (s : String) : Prop :=
  ∀ c ∈ s.toList, 0x20 ≤ c.toNat

instance (s : String) : Decidable (NoControls s) :=
  decidable_of_iff (s.toList.all fun c => 0x20 ≤ c.toNat) (by simp [NoControls])

theorem noControls_append {s t : String} : NoControls (s ++ t) ↔ NoControls s ∧ NoControls t := by
  simp only [NoControls, String.toList_append, List.forall_mem_append]

theorem noControls_ofList {cs : List Char} :
    NoControls (String.ofList cs) ↔ ∀ c ∈ cs, 0x20 ≤ c.toNat := by
  rw [NoControls, String.toList_ofList]

theorem noControls_intercalate {separator : String} {pieces : List String}
    (hseparator : NoControls separator) (h : ∀ s ∈ pieces, NoControls s) :
    NoControls (separator.intercalate pieces) := by
  induction pieces with
  | nil => intro c hc; simp at hc
  | cons s pieces ih =>
    obtain ⟨hs, hpieces⟩ := List.forall_mem_cons.mp h
    cases pieces with
    | nil => simpa using hs
    | cons t pieces =>
      rw [String.intercalate_cons_cons, noControls_append, noControls_append]
      exact ⟨⟨hs, hseparator⟩, ih hpieces⟩

/-- No character ends a line. -/
def OneLine (s : String) : Prop :=
  ∀ c ∈ s.toList, isLineEnd c = false

instance (s : String) : Decidable (OneLine s) :=
  decidable_of_iff (s.toList.all (!isLineEnd ·)) (by simp [OneLine])

theorem oneLine_append {s t : String} : OneLine (s ++ t) ↔ OneLine s ∧ OneLine t := by
  simp only [OneLine, String.toList_append, List.forall_mem_append]

theorem NoControls.oneLine {s : String} (h : NoControls s) : OneLine s := by
  intro c hc
  have hhigh := h c hc
  rw [isLineEnd, Bool.or_eq_false_iff, decide_eq_false_iff_not, decide_eq_false_iff_not]
  constructor <;> rintro rfl <;> exact absurd hhigh (by decide)

/-! ### Numerals -/

theorem le_toNat_of_isDigit {c : Char} (h : c.isDigit = true) : 0x20 ≤ c.toNat := by
  rw [Char.isDigit, Bool.and_eq_true, decide_eq_true_eq, decide_eq_true_eq, UInt32.le_iff_toNat_le]
    at h
  exact Nat.le_trans (by decide) h.1

theorem isDigit_of_mem_toString {n : Nat} {c : Char} (h : c ∈ (toString n).toList) :
    c.isDigit = true := by
  have hdigits : (toString n).toList = Nat.toDigits 10 n := String.toList_ofList
  rw [hdigits] at h
  exact Nat.isDigit_of_mem_toDigits (by decide) (Nat.le_refl 10) h

theorem noControls_nat (n : Nat) : NoControls (toString n) :=
  fun _ hc => le_toNat_of_isDigit (isDigit_of_mem_toString hc)

namespace Decimal

/-- Besides the digits a numeral has zeros, a point, and what writes an exponent. -/
theorem noControls_place {digits : List Char} (h : ∀ c ∈ digits, 0x20 ≤ c.toNat) (e : Int) :
    NoControls (place digits e) := by
  have hzeros : ∀ n, ∀ c ∈ List.replicate n '0', 0x20 ≤ c.toNat := by
    intro n c hc
    rw [List.eq_of_mem_replicate hc]
    decide
  have hpoint : ∀ cs, (∀ c ∈ cs, 0x20 ≤ c.toNat) → ∀ c ∈ '.' :: cs, 0x20 ≤ c.toNat :=
    fun cs hcs => List.forall_mem_cons.mpr ⟨by decide, hcs⟩
  unfold place
  dsimp only
  split
  · rw [noControls_ofList, List.forall_mem_append]
    exact ⟨h, hzeros _⟩
  · split
    · rw [noControls_ofList, List.forall_mem_append]
      exact ⟨fun c hc => h c (List.mem_of_mem_take hc),
        hpoint _ fun c hc => h c (List.mem_of_mem_drop hc)⟩
    · split
      · rw [noControls_ofList, List.forall_mem_append]
        exact ⟨List.forall_mem_cons.mpr ⟨by decide, hpoint _ (hzeros _)⟩, h⟩
      · rw [noControls_append, noControls_append, noControls_ofList]
        refine ⟨⟨?_, ?_⟩, noControls_nat _⟩
        · split
          · exact fun c hc => by cases hc
          · exact h
          · obtain ⟨hd, hrest⟩ := List.forall_mem_cons.mp h
            exact List.forall_mem_cons.mpr ⟨hd, hpoint _ hrest⟩
        · split <;> decide

theorem mem_of_mem_dropZeros {digits : List Char} {c : Char} (h : c ∈ (dropZeros digits).1) :
    c ∈ digits :=
  List.mem_reverse.mp ((List.dropWhile_sublist _).subset (List.mem_reverse.mp h))

theorem noControls_ofFinite (scale fraction : Nat) : NoControls (ofFinite scale fraction) := by
  unfold ofFinite
  dsimp only
  exact noControls_place (fun c hc => noControls_nat _ c (mem_of_mem_dropZeros hc)) _

theorem noControls_ofNumber (x : Number) : NoControls (ofNumber x) := by
  have hsign : ∀ negative : Bool, NoControls (if negative then "-" else "") := by decide
  cases x with
  | nan => decide
  | infinite negative => exact noControls_append.mpr ⟨hsign negative, by decide⟩
  | finite negative scale fraction =>
    rw [ofNumber]
    split
    · decide
    · exact noControls_append.mpr ⟨hsign negative, noControls_ofFinite scale fraction⟩

end Decimal

end Text

namespace Json

open Text

theorem le_toNat_hexDigit : ∀ n < 16, 0x20 ≤ (hexDigit n).toNat := by
  decide

theorem noControls_escapeChar (c : Char) : NoControls (String.ofList (escapeChar c)) := by
  rw [escapeChar]
  -- The pairs of a backslash and a letter come first, each of them a fixed text.
  iterate 7
    split
    · decide
  rw [noControls_ofList]
  split
  · have hhigh := le_toNat_hexDigit (c.toNat / 16) (by omega)
    have hlow := le_toNat_hexDigit (c.toNat % 16) (by omega)
    simp [hhigh, hlow]
  · next hcontrol => simpa using hcontrol

theorem noControls_quote (s : String) : NoControls (quote s) := by
  rw [quote, noControls_ofList]
  intro c hc
  rcases List.mem_append.mp hc with hc | hc
  · rcases List.mem_cons.mp hc with rfl | hc
    · decide
    · obtain ⟨d, -, hd⟩ := List.mem_flatMap.mp hc
      exact noControls_ofList.mp (noControls_escapeChar d) c hd
  · rw [List.mem_singleton.mp hc]
    decide

theorem noControls_numberText (x : Number) : NoControls (numberText x) := by
  rw [numberText.eq_def]
  split
  · decide
  · decide
  · exact Decimal.noControls_ofNumber x

mutual

theorem noControls_compact : ∀ j : Json, NoControls (compact j)
  | .null => by decide
  | .bool b => by cases b <;> decide
  | .number x => noControls_numberText x
  | .string s => noControls_quote s
  | .array items => by
    rw [compact, noControls_append, noControls_append]
    exact ⟨⟨by decide, noControls_intercalate (by decide) (noControls_compactItems items)⟩,
      by decide⟩
  | .object members => by
    rw [compact, noControls_append, noControls_append]
    exact ⟨⟨by decide, noControls_intercalate (by decide) (noControls_compactMembers members)⟩,
      by decide⟩

theorem noControls_compactItems : ∀ items : List Json, ∀ s ∈ compactItems items, NoControls s
  | [] => fun _ hs => by cases hs
  | j :: rest => by
    rw [compactItems]
    exact List.forall_mem_cons.mpr ⟨noControls_compact j, noControls_compactItems rest⟩

theorem noControls_compactMembers :
    ∀ members : List (String × Json), ∀ s ∈ compactMembers members, NoControls s
  | [] => fun _ hs => by cases hs
  | (name, j) :: rest => by
    rw [compactMembers]
    refine List.forall_mem_cons.mpr ⟨?_, noControls_compactMembers rest⟩
    rw [noControls_append, noControls_append]
    exact ⟨⟨noControls_quote name, by decide⟩, noControls_compact j⟩

end

end Json

end GuardedText

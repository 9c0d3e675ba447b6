import GuardedText.Text.Units

/-! Names in the order of their 16-bit units. -/

namespace GuardedText.Text

theorem unitsLe_iff {a b : List Nat} : unitsLe a b = true ↔ ¬ b < a := by
  rw [unitsLe, Bool.not_eq_true', decide_eq_false_iff_not]

/-- No sorted name stands before one with lesser units. -/
theorem pairwise_sortNames (names : List String) :
    (sortNames names).Pairwise fun a b => ¬ units b < units a := by
  have htrans : ∀ a b c : List Nat × String,
      unitsLe a.1 b.1 = true → unitsLe b.1 c.1 = true → unitsLe a.1 c.1 = true := by
    intro a b c hab hbc
    exact unitsLe_iff.mpr (List.le_trans (unitsLe_iff.mp hab) (unitsLe_iff.mp hbc))
  have htotal : ∀ a b : List Nat × String, (unitsLe a.1 b.1 || unitsLe b.1 a.1) = true := by
    intro a b
    rcases List.le_total a.1 b.1 with hab | hba
    · rw [unitsLe_iff.mpr hab, Bool.true_or]
    · rw [unitsLe_iff.mpr hba, Bool.or_true]
  have hsorted := List.pairwise_mergeSort htrans htotal (names.map fun s => (units s, s))
  rw [sortNames, List.pairwise_map]
  refine hsorted.imp_of_mem fun {a b} ha hb hab => ?_
  obtain ⟨s, -, rfl⟩ := List.mem_map.mp (List.mem_mergeSort.mp ha)
  obtain ⟨t, -, rfl⟩ := List.mem_map.mp (List.mem_mergeSort.mp hb)
  exact unitsLe_iff.mp hab

/-! ### Different texts have different units -/

/-- No character has the number of a surrogate. -/
theorem not_surrogate (c : Char) :
    c.toNat < 0xD800 ∨ 0xDFFF < c.toNat ∧ c.toNat < 0x110000 :=
  c.valid

/-- The units that a text begins with tell its first character. -/
theorem unitsOf_append_inj {c d : Char} {us vs : List Nat}
    (h : unitsOf c ++ us = unitsOf d ++ vs) : c = d ∧ us = vs := by
  have hc := not_surrogate c
  have hd := not_surrogate d
  have hnat : c.toNat = d.toNat ∧ us = vs := by
    simp only [unitsOf] at h
    split at h <;> split at h <;>
      simp only [List.cons_append, List.nil_append, List.cons.injEq] at h
    · exact h
    · omega
    · omega
    · refine ⟨?_, h.2.2⟩
      omega
  exact ⟨Char.toNat_inj.mp hnat.1, hnat.2⟩

theorem flatMap_unitsOf_inj {cs ds : List Char}
    (h : cs.flatMap unitsOf = ds.flatMap unitsOf) : cs = ds := by
  have hne : ∀ (c : Char) (us : List Nat), unitsOf c ++ us ≠ [] := by
    intro c us
    rw [unitsOf]
    split <;> simp
  induction cs generalizing ds with
  | nil =>
    cases ds with
    | nil => rfl
    | cons d ds => exact absurd h.symm (hne d _)
  | cons c cs ih =>
    cases ds with
    | nil => exact absurd h (hne c _)
    | cons d ds =>
      obtain ⟨rfl, hrest⟩ := unitsOf_append_inj h
      rw [ih hrest]

theorem units_injective {s t : String} (h : units s = units t) : s = t :=
  String.toList_inj.mp (flatMap_unitsOf_inj h)

/-- A character is read back from its units, whatever units come after them. -/
theorem charsOfUnits_unitsOf_append (c : Char) (us : List Nat) :
    charsOfUnits (unitsOf c ++ us) = c :: charsOfUnits us := by
  have hc := not_surrogate c
  rw [unitsOf]
  split
  · have hunit : charOfUnit c.toNat = c := by
      rw [charOfUnit, if_neg (by omega), Char.ofNat_toNat]
    cases us with
    | nil => simp [charsOfUnits, hunit]
    | cons low us =>
      rw [List.cons_append, List.nil_append, charsOfUnits, if_neg (by omega), hunit]
  · have hpair : 0x10000 + (0xD800 + (c.toNat - 0x10000) / 0x400 - 0xD800) * 0x400 +
        (0xDC00 + (c.toNat - 0x10000) % 0x400 - 0xDC00) = c.toNat := by
      omega
    rw [List.cons_append, List.cons_append, List.nil_append, charsOfUnits, if_pos (by omega), hpair,
      Char.ofNat_toNat]

theorem charsOfUnits_flatMap (cs : List Char) : charsOfUnits (cs.flatMap unitsOf) = cs := by
  induction cs with
  | nil => rfl
  | cons c cs ih => rw [List.flatMap_cons, charsOfUnits_unitsOf_append, ih]

/-! ### Sorting loses and repeats nothing -/

theorem perm_sortNames (names : List String) : (sortNames names).Perm names := by
  have h := (List.mergeSort_perm (names.map fun s => (units s, s))
    fun a b => unitsLe a.1 b.1).map (·.2)
  rw [List.map_map] at h
  exact h.trans (by simp [Function.comp_def])

theorem mem_sortNames {names : List String} {s : String} : s ∈ sortNames names ↔ s ∈ names :=
  (perm_sortNames names).mem_iff

/-- Names that are all different are sorted into a strictly increasing order. -/
theorem strict_sortNames {names : List String} (h : names.Nodup) :
    (sortNames names).Pairwise fun a b => units a < units b := by
  have hnodup : (sortNames names).Pairwise (· ≠ ·) := (perm_sortNames names).nodup_iff.mpr h
  apply (pairwise_sortNames names).imp₂ ?_ hnodup
  intro a b hle hne
  by_cases hlt : units a < units b
  · exact hlt
  · exact absurd (units_injective (List.le_antisymm hle hlt)) hne

/-- Names that are sorted as a set have one order, whatever order they come in. -/
theorem sortNames_distinct_congr {xs ys : List String} (h : ∀ s, s ∈ xs ↔ s ∈ ys) :
    sortNames (distinct xs) = sortNames (distinct ys) := by
  have hsame : (distinct xs).Perm (distinct ys) := by
    refine (List.perm_ext_iff_of_nodup (nodup_distinct xs) (nodup_distinct ys)).mpr fun s => ?_
    rw [mem_distinct, mem_distinct, h]
  refine List.Perm.eq_of_pairwise (fun a b _ _ hab hba => ?_)
    (pairwise_sortNames (distinct xs)) (pairwise_sortNames (distinct ys))
    ((perm_sortNames _).trans (hsame.trans (perm_sortNames _).symm))
  exact units_injective (List.le_antisymm hab hba)

end GuardedText.Text

import GuardedText.Settings.Prefix
import GuardedText.Text.Blank

/-! The characters of a directive prefix. -/

namespace GuardedText.Prefix

theorem admits_of_mem (p : Prefix) {c : Char} (h : c ∈ p.text.toList) : admits c = true :=
  List.all_eq_true.mp p.admitted c h

theorem toNat_lt_of_admits {c : Char} (h : admits c = true) : c.toNat < 0x80 := by
  simp only [admits, Bool.and_eq_true, decide_eq_true_eq] at h
  omega

theorem isBlank_of_admits {c : Char} (h : admits c = true) : Text.isBlank c = false := by
  simp only [admits, Bool.and_eq_true, decide_eq_true_eq] at h
  simp [Text.isBlank]
  omega

theorem toList_ne_nil (p : Prefix) : p.text.toList ≠ [] :=
  fun h => p.nonempty (String.toList_inj.mp h)

end GuardedText.Prefix

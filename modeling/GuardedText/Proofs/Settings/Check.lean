import GuardedText.Proofs.Result
import GuardedText.Settings.Check

/-! Valid prefixes pass the check of the settings that hold them, and nothing else does. -/

namespace GuardedText.Settings

theorem checkPrefix_text (p : Prefix) : checkPrefix (.string p.text) = .ok p := by
  rw [checkPrefix, dif_neg p.nonempty]
  split
  · rfl
  · next h => exact absurd p.admitted (by simp [h])

/-- The one field of a record that holds a prefix. -/
theorem ownFields_prefixField (v : Value) :
    (Value.record false [(prefixField, v)]).ownFields = [(prefixField, v)] := by
  have h : Value.arrayIndex? prefixField = none := by decide
  simp [Value.ownFields, Value.enumerate, h]

/-- A record that holds just a prefix has nothing wrong with it but what is wrong with that. -/
theorem ofPrefix_eq (v : Value) :
    ofPrefix v = ((checkPrefix v).map Settings.mk).mapError fun problem => .ofProblems [problem] := by
  have hunknown : unknownFields (Value.record false [(prefixField, v)]) = [] := by
    simp [unknownFields, Candidate.listed, Value.ownKeys, ownFields_prefixField]
  have hread : Candidate.read (Value.record false [(prefixField, v)]) prefixField = v := by
    simp [Candidate.read, Value.field?, ownFields_prefixField]
  have hkind : Candidate.kind (Value.record false [(prefixField, v)]) = .object := by
    rfl
  rw [ofPrefix, load, check, hkind, hread, hunknown]
  cases checkPrefix v <;> rfl

theorem ofPrefix_text (p : Prefix) : ofPrefix (.string p.text) = .ok ⟨p⟩ := by
  rw [ofPrefix_eq, checkPrefix_text]
  rfl

theorem eq_string_of_checkPrefix {v : Value} {p : Prefix} (h : checkPrefix v = .ok p) :
    v = .string p.text := by
  cases v with
  | string s =>
    rw [checkPrefix] at h
    split at h
    · cases h
    · split at h
      · cases h
        rfl
      · cases h
  | _ => cases h

/-- Settings are made of a text only, which is then the prefix. -/
theorem eq_string_of_ofPrefix {v : Value} {settings : Settings} (h : ofPrefix v = .ok settings) :
    v = .string settings.directivePrefix.text := by
  rw [ofPrefix_eq, mapError_eq_ok_iff] at h
  obtain ⟨p, hp, rfl⟩ := map_eq_ok h
  exact eq_string_of_checkPrefix hp

theorem ofPrefixOption_text (p : Prefix) : ofPrefixOption (.string p.text) = .ok ⟨p⟩ :=
  ofPrefix_text p

end GuardedText.Settings

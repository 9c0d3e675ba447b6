import GuardedText.Proofs.NameSource
import GuardedText.Template.Checked
import Mathlib

/-! Rendering from a source. Any two sources that hold the same names give the same text, whatever
their shapes, the order and number of the names in them and the values beside these. A record that is
asked for its names is the exception: the values of two of its fields decide on that. -/

namespace GuardedText.Template

open NameSource

/-- A template renders from a source as under the names in it, whatever shape they come in. Only a
record that is asked is rendered as under no names, so two records with the same keys render alike
unless one of them is asked and the other is not. -/
theorem renderFrom_presented (t : Template) :
    (∀ (names : List String) (source : Value), Presents names source →
      t.renderFrom source = .ok (t.render (active (if isAsked source then [] else names)))) ∧
    ∀ (bare bare' : Bool) (fields fields' : List (String × Value)),
      (∀ s, s ∈ fields.map (·.1) ↔ s ∈ fields'.map (·.1)) →
      isAsked (.record bare fields) = isAsked (.record bare' fields') →
      t.renderFrom (.record bare fields) = t.renderFrom (.record bare' fields') := by
  refine ⟨fun names source h => t.renderFrom_of_presents h, ?_⟩
  intro bare bare' fields fields' hkeys hasked
  have h : Presents (fields'.map (·.1)) (.record bare fields) := .record hkeys
  have h' : Presents (fields'.map (·.1)) (.record bare' fields') := .record fun _ => Iff.rfl
  rw [t.renderFrom_of_presents h, t.renderFrom_of_presents h', hasked]

/-- A record that inherits nothing, with an index among its keys and values that count as false, the
same names in a sequence that repeats one of them, and a record with other values under its keys. -/
theorem renderFrom_presented_index :
    let t : Template := ⟨[.conditional [(.and (.name "2") (.name "get"), [.text "x\n"])]]⟩
    t.renderFrom (.record true [("get", .function), ("2", .undefined)]) = .ok "x" ∧
      t.renderFrom (.sequence [.string "2", .string "get", .string "2"]) = .ok "x" ∧
      t.renderFrom (.record true [("get", .function), ("2", .undefined)]) =
        t.renderFrom (.record false [("2", .function), ("get", .null)]) := by
  have hrecord : Presents ["2", "get"] (.record true [("get", .function), ("2", .undefined)]) :=
    .record (by simp [or_comm])
  have hsequence : Presents ["2", "get"] (.sequence (["2", "get", "2"].map .string)) :=
    .sequence (by grind)
  exact ⟨((renderFrom_presented _).1 _ _ hrecord).trans rfl,
    ((renderFrom_presented _).1 _ _ hsequence).trans rfl,
    (renderFrom_presented _).2 _ _ _ _ (by simp [or_comm]) rfl⟩

/-- The keys of two records are the same and both have the name that the guard asks for, but the
values under two of them take one for a map, and nothing is rendered. -/
theorem renderFrom_looks_at_values :
    Presents ["keys", "get"] (.record false [("keys", .function), ("get", .bool true)]) ∧
      Presents ["keys", "get"] (.record false [("keys", .function), ("get", .function)]) ∧
      ∃ t, compileTextUnder .undefined "#if keys\nx\n#endif" = .ok t ∧
        t.render (active ["keys", "get"]) = "x" ∧
        t.renderFrom (.record false [("keys", .function), ("get", .bool true)]) = .ok "x" ∧
        t.renderFrom (.record false [("keys", .function), ("get", .function)]) = .ok "" := by
  refine ⟨.record (by simp), .record (by simp),
    ⟨[.conditional [(.name "keys", [.text "x\n"])]]⟩, ?_, ?_, ?_, ?_⟩ <;> cbv

end GuardedText.Template
